import CorvidNano.Library.LittleEndian
import CorvidNano.Library.Utf8

/-!
# MessagePack values

Values of maps, unsigned integers, strings and byte strings, as a sequence of primitives. The
format of a primitive is a `Codec`: `encode` writes a value with it and `decode` reads one. When
every primitive that is written is read back, `decode_encode` reads the value back.

`format` is the codec of the MessagePack specification, each primitive in its shortest form.
-/

namespace CorvidNano.MessagePack

/-- A primitive of the format. A map is a header with the number of entries, then the entries. -/
inductive Token where
  | mapLen (count : Nat)
  | uint (value : UInt64)
  | str (text : String)
  | bin (bytes : List UInt8)
  deriving DecidableEq

/-- A value. -/
inductive Value where
  | uint (value : UInt64)
  | str (text : String)
  | bin (bytes : List UInt8)
  | map (fields : List (String × Value))

/-- A map as it is given: its entries in the order of the encoding. -/
abbrev Fields := List (String × Value)

/-- How a primitive is written, and how one is read from the front of some bytes. -/
structure Codec where
  write : Token → List UInt8
  read : List UInt8 → Option (Token × List UInt8)
  write_ne_nil : ∀ token, write token ≠ []

namespace Codec

variable (codec : Codec)

/-- The primitive is read back, whatever follows it. -/
def ReadsBack (token : Token) : Prop :=
  ∀ rest, codec.read (codec.write token ++ rest) = some (token, rest)

/-- No bytes that are read as the integer are fewer than those that are written for it. -/
def WritesShortest (value : UInt64) : Prop :=
  ∀ bytes rest, codec.read bytes = some (.uint value, rest) →
    (codec.write (.uint value)).length + rest.length ≤ bytes.length

/-- Some primitives, one after the other. -/
def writeAll (tokens : List Token) : List UInt8 := tokens.flatMap codec.write

/-- The first `count` primitives and the bytes after them. -/
def readMany : Nat → List UInt8 → Option (List Token × List UInt8)
  | 0, bytes => some ([], bytes)
  | count + 1, bytes => do
      let (token, rest) ← codec.read bytes
      let (tokens, rest) ← readMany count rest
      some (token :: tokens, rest)

end Codec

/-! ## Writing and reading a value -/

mutual
/-- The primitives of a value. -/
def tokens : Value → List Token
  | .uint value => [.uint value]
  | .str text => [.str text]
  | .bin bytes => [.bin bytes]
  | .map fields => .mapLen fields.length :: fieldTokens fields

/-- The primitives of the entries of a map. -/
def fieldTokens : Fields → List Token
  | [] => []
  | (key, value) :: fields => .str key :: (tokens value ++ fieldTokens fields)
end

mutual
/-- The value at the front of the bytes, and the bytes after it. The fuel bounds the number of
primitives. -/
def readValue (codec : Codec) : Nat → List UInt8 → Option (Value × List UInt8)
  | 0, _ => none
  | fuel + 1, bytes => do
      let (token, rest) ← codec.read bytes
      match token with
      | .uint value => some (.uint value, rest)
      | .str text => some (.str text, rest)
      | .bin data => some (.bin data, rest)
      | .mapLen count =>
          let (fields, rest) ← readFields codec fuel count rest
          some (.map fields, rest)

/-- The next `count` entries of a map. A key that is not a string is refused. -/
def readFields (codec : Codec) : Nat → Nat → List UInt8 → Option (Fields × List UInt8)
  | _, 0, bytes => some ([], bytes)
  | 0, _ + 1, _ => none
  | fuel + 1, count + 1, bytes => do
      let (token, rest) ← codec.read bytes
      match token with
      | .str key =>
          let (value, rest) ← readValue codec fuel rest
          let (fields, rest) ← readFields codec fuel count rest
          some ((key, value) :: fields, rest)
      | _ => none
end

/-- The encoding of a value. -/
def encode (codec : Codec) (value : Value) : List UInt8 := codec.writeAll (tokens value)

/-- The value whose encoding the bytes are, with nothing after it. -/
def decode (codec : Codec) (bytes : List UInt8) : Option Value :=
  match readValue codec bytes.length bytes with
  | some (value, []) => some value
  | _ => none

/-- Every primitive of the value is read back. -/
def ReadsBack (codec : Codec) (value : Value) : Prop :=
  ∀ token ∈ tokens value, codec.ReadsBack token

variable {codec : Codec}

/-- Some primitives are read back one after the other. -/
theorem read_many_write_all (list : List Token) (h : ∀ token ∈ list, codec.ReadsBack token)
    (rest : List UInt8) :
    codec.readMany list.length (codec.writeAll list ++ rest) = some (list, rest) := by
  induction list with
  | nil => rfl
  | cons token list ih =>
      obtain ⟨htoken, hlist⟩ := List.forall_mem_cons.mp h
      have hread := htoken (codec.writeAll list ++ rest)
      show codec.readMany (list.length + 1) (codec.write token ++ codec.writeAll list ++ rest) = _
      rw [List.append_assoc, Codec.readMany, hread]
      simp [ih hlist]

/-- There are at least as many bytes as primitives. -/
theorem length_le_write_all (codec : Codec) (list : List Token) :
    list.length ≤ (codec.writeAll list).length := by
  induction list with
  | nil => exact Nat.zero_le _
  | cons token list ih =>
      have hpos := List.length_pos_iff.mpr (codec.write_ne_nil token)
      show list.length + 1 ≤ (codec.write token ++ codec.writeAll list).length
      rw [List.length_append]
      omega

theorem write_all_cons (token : Token) (list : List Token) (rest : List UInt8) :
    codec.writeAll (token :: list) ++ rest = codec.write token ++ (codec.writeAll list ++ rest) :=
  List.append_assoc _ _ _

theorem write_all_append (first second : List Token) :
    codec.writeAll (first ++ second) = codec.writeAll first ++ codec.writeAll second :=
  List.flatMap_append

mutual
/-- A value is read back with enough fuel, whatever follows it. -/
theorem read_value_tokens (value : Value) (fuel : Nat) (rest : List UInt8)
    (hfuel : (tokens value).length ≤ fuel) (h : ReadsBack codec value) :
    readValue codec fuel (codec.writeAll (tokens value) ++ rest) = some (value, rest) := by
  cases fuel with
  | zero => cases value <;> simp [tokens] at hfuel
  | succ fuel =>
    cases value with
    | uint number =>
        have hread := h (.uint number) (List.mem_singleton_self _) rest
        simp [tokens, readValue, hread, Codec.writeAll]
    | str text =>
        have hread := h (.str text) (List.mem_singleton_self _) rest
        simp [tokens, readValue, hread, Codec.writeAll]
    | bin data =>
        have hread := h (.bin data) (List.mem_singleton_self _) rest
        simp [tokens, readValue, hread, Codec.writeAll]
    | map fields =>
        obtain ⟨hheader, hfields⟩ := List.forall_mem_cons.mp h
        have hread := hheader (codec.writeAll (fieldTokens fields) ++ rest)
        have hrest := read_fields_tokens fields fuel rest (Nat.le_of_succ_le_succ hfuel) hfields
        simp [tokens, write_all_cons, readValue, hread, hrest]

/-- The entries of a map are read back with enough fuel, whatever follows them. -/
theorem read_fields_tokens (fields : Fields) (fuel : Nat) (rest : List UInt8)
    (hfuel : (fieldTokens fields).length ≤ fuel)
    (h : ∀ token ∈ fieldTokens fields, codec.ReadsBack token) :
    readFields codec fuel fields.length (codec.writeAll (fieldTokens fields) ++ rest) =
      some (fields, rest) := by
  cases fields with
  | nil => simp [readFields, fieldTokens, Codec.writeAll]
  | cons field fields =>
    obtain ⟨key, value⟩ := field
    cases fuel with
    | zero => simp [fieldTokens] at hfuel
    | succ fuel =>
        obtain ⟨hkey, hothers⟩ := List.forall_mem_cons.mp h
        obtain ⟨hvalue, hfields⟩ := List.forall_mem_append.mp hothers
        have hlength : (tokens value).length + (fieldTokens fields).length ≤ fuel := by
          simpa [fieldTokens] using hfuel
        have hfirst := hkey (codec.writeAll (tokens value ++ fieldTokens fields) ++ rest)
        have hsecond := read_value_tokens value fuel
          (codec.writeAll (fieldTokens fields) ++ rest) (by omega) hvalue
        have hlast := read_fields_tokens fields fuel rest (by omega) hfields
        rw [fieldTokens, write_all_cons, List.length_cons, readFields, hfirst]
        simp [write_all_append, hsecond, hlast]
end

/-- Decoding gives back the value of an encoding whose primitives are all read back. -/
theorem decode_encode {value : Value} (h : ReadsBack codec value) :
    decode codec (encode codec value) = some value := by
  have hread := read_value_tokens value _ [] (length_le_write_all codec (tokens value)) h
  rw [List.append_nil] at hread
  rw [decode, encode, hread]

/-- The header of an encoded map has the number of its entries. -/
theorem read_encode_map {fields : Fields} (h : ReadsBack codec (.map fields)) :
    codec.read (encode codec (.map fields)) =
      some (.mapLen fields.length, codec.writeAll (fieldTokens fields)) :=
  (List.forall_mem_cons.mp h).1 (codec.writeAll (fieldTokens fields))

/-! ## The format -/

/-- The kinds of primitives. Each starts with a number: a count, a value or a length. -/
inductive Kind where
  | mapLen
  | uint
  | str
  | bin
  deriving DecidableEq

/-- The number's bytes, the most significant one first. -/
def bigEndian (width number : Nat) : List UInt8 := (LittleEndian.encode width number).reverse

/-- The marker of a number, and the width of the number after it. Small numbers are a part of the
marker. -/
def shape (kind : Kind) (number : Nat) : Nat × Nat :=
  match kind with
  | .mapLen =>
      if number < 16 then (0x80 + number, 0)
      else if number < 2 ^ 16 then (0xde, 2) else (0xdf, 4)
  | .uint =>
      if number < 128 then (number, 0)
      else if number < 2 ^ 8 then (0xcc, 1)
      else if number < 2 ^ 16 then (0xcd, 2)
      else if number < 2 ^ 32 then (0xce, 4) else (0xcf, 8)
  | .str =>
      if number < 32 then (0xa0 + number, 0)
      else if number < 2 ^ 8 then (0xd9, 1)
      else if number < 2 ^ 16 then (0xda, 2) else (0xdb, 4)
  | .bin =>
      if number < 2 ^ 8 then (0xc4, 1)
      else if number < 2 ^ 16 then (0xc5, 2) else (0xc6, 4)

/-- The kind of a marker without a number in it, and the width of the number after it. -/
def sized : Nat → Option (Kind × Nat)
  | 0xc4 => some (.bin, 1)
  | 0xc5 => some (.bin, 2)
  | 0xc6 => some (.bin, 4)
  | 0xcc => some (.uint, 1)
  | 0xcd => some (.uint, 2)
  | 0xce => some (.uint, 4)
  | 0xcf => some (.uint, 8)
  | 0xd9 => some (.str, 1)
  | 0xda => some (.str, 2)
  | 0xdb => some (.str, 4)
  | 0xde => some (.mapLen, 2)
  | 0xdf => some (.mapLen, 4)
  | _ => none

/-- What a marker says: the kind, the number in the marker, and the width of the one after it.
The markers from `0x90` on are those of arrays. -/
def layout (marker : Nat) : Option (Kind × Nat × Nat) :=
  if marker < 0x80 then some (.uint, marker, 0)
  else if marker < 0x90 then some (.mapLen, marker - 0x80, 0)
  else if marker < 0xa0 then none
  else if marker < 0xc0 then some (.str, marker - 0xa0, 0)
  else (sized marker).map fun (kind, width) => (kind, 0, width)

/-- A marker with its number. -/
def writeHeader (kind : Kind) (number : Nat) : List UInt8 :=
  UInt8.ofNat (shape kind number).1 :: bigEndian (shape kind number).2 number

/-- The kind and the number at the front of the bytes. -/
def readHeader : List UInt8 → Option (Kind × Nat × List UInt8)
  | [] => none
  | marker :: rest => do
      let (kind, small, width) ← layout marker.toNat
      if rest.length < width then none
      else some (kind, small + LittleEndian.decode (rest.take width).reverse, rest.drop width)

/-- The next `length` bytes and the bytes after them. -/
def takeBytes (length : Nat) (bytes : List UInt8) : Option (List UInt8 × List UInt8) :=
  if bytes.length < length then none else some (bytes.take length, bytes.drop length)

/-- The kind of a primitive. -/
def Token.kind : Token → Kind
  | .mapLen _ => .mapLen
  | .uint _ => .uint
  | .str _ => .str
  | .bin _ => .bin

/-- The number that a primitive starts with. -/
def Token.number : Token → Nat
  | .mapLen count => count
  | .uint value => value.toNat
  | .str text => (Utf8.bytes text).length
  | .bin bytes => bytes.length

/-- The bytes of a primitive after its number. -/
def Token.payload : Token → List UInt8
  | .str text => Utf8.bytes text
  | .bin bytes => bytes
  | _ => []

/-- A primitive in its shortest form. -/
def writeToken (token : Token) : List UInt8 :=
  writeHeader token.kind token.number ++ token.payload

/-- The primitive at the front of the bytes. -/
def readToken (bytes : List UInt8) : Option (Token × List UInt8) := do
  let (kind, number, rest) ← readHeader bytes
  match kind with
  | .mapLen => some (.mapLen number, rest)
  | .uint => some (.uint (UInt64.ofNat number), rest)
  | .str =>
      let (text, rest) ← takeBytes number rest
      let text ← String.fromUTF8? ⟨text.toArray⟩
      some (.str text, rest)
  | .bin =>
      let (data, rest) ← takeBytes number rest
      some (.bin data, rest)

/-- The codec of the specification. -/
def format : Codec where
  write := writeToken
  read := readToken
  write_ne_nil token := by simp [writeToken, writeHeader]

/-- The largest number of a kind. -/
def Kind.limit : Kind → Nat
  | .uint => 2 ^ 64
  | _ => 2 ^ 32

/-- A marker `marker` with a number of `width` bytes after it says what is written with it. -/
def Says (kind : Kind) (number marker width : Nat) : Prop :=
  ∃ small, marker < 256 ∧ layout marker = some (kind, small, width) ∧
    small + number % 256 ^ width = number

/-- A number after its marker. -/
theorem says_sized {kind : Kind} {number marker width : Nat} (hmarker : marker < 256)
    (hlayout : layout marker = some (kind, 0, width)) (hfits : number < 256 ^ width) :
    Says kind number marker width :=
  ⟨0, hmarker, hlayout, by rw [Nat.mod_eq_of_lt hfits, Nat.zero_add]⟩

/-- A number in its marker. -/
theorem says_small {kind : Kind} {number marker : Nat} (hmarker : marker < 256)
    (hlayout : layout marker = some (kind, number, 0)) : Says kind number marker 0 :=
  ⟨number, hmarker, hlayout, by simp [Nat.mod_one]⟩

/-- The marker that is written says what the number is. -/
theorem says_shape {kind : Kind} {number : Nat} (h : number < kind.limit) :
    Says kind number (shape kind number).1 (shape kind number).2 := by
  cases kind with
  | mapLen =>
      simp only [shape, Kind.limit] at h ⊢
      split
      · refine says_small (by omega) ?_
        rw [layout, if_neg (by omega), if_pos (by omega), Nat.add_sub_cancel_left]
      · split
        · exact says_sized (by omega) rfl (by omega)
        · exact says_sized (by omega) rfl (by omega)
  | uint =>
      simp only [shape, Kind.limit] at h ⊢
      split
      · exact says_small (by omega) (by rw [layout, if_pos (by omega)])
      · repeat' split
        all_goals exact says_sized (by omega) rfl (by omega)
  | str =>
      simp only [shape, Kind.limit] at h ⊢
      split
      · refine says_small (by omega) ?_
        rw [layout, if_neg (by omega), if_neg (by omega), if_neg (by omega), if_pos (by omega),
          Nat.add_sub_cancel_left]
      · repeat' split
        all_goals exact says_sized (by omega) rfl (by omega)
  | bin =>
      simp only [shape, Kind.limit] at h ⊢
      repeat' split
      all_goals exact says_sized (by omega) rfl (by omega)

/-- A header is read back. -/
theorem read_write_header {kind : Kind} {number : Nat} (h : number < kind.limit)
    (rest : List UInt8) :
    readHeader (writeHeader kind number ++ rest) = some (kind, number, rest) := by
  obtain ⟨small, hmarker, hlayout, hnumber⟩ := says_shape h
  have hwidth : (bigEndian (shape kind number).2 number).length = (shape kind number).2 := by
    rw [bigEndian, List.length_reverse, LittleEndian.length_encode]
  have hdecode : LittleEndian.decode (bigEndian (shape kind number).2 number).reverse =
      number % 256 ^ (shape kind number).2 := by
    rw [bigEndian, List.reverse_reverse, LittleEndian.decode_encode]
  have hshort : ¬ (bigEndian (shape kind number).2 number ++ rest).length
      < (shape kind number).2 := by
    rw [List.length_append, hwidth]
    omega
  show readHeader (_ :: (bigEndian (shape kind number).2 number ++ rest)) = _
  rw [readHeader, UInt8.toNat_ofNat_of_lt' hmarker, hlayout]
  show (if _ then none else some _) = _
  rw [if_neg hshort, List.take_left' hwidth, List.drop_left' hwidth, hdecode, hnumber]

/-- Bytes are taken from in front of others. -/
theorem take_bytes_append (data rest : List UInt8) :
    takeBytes data.length (data ++ rest) = some (data, rest) := by
  rw [takeBytes, if_neg (by simp), List.take_left, List.drop_left]

/-- Every primitive whose number fits its kind is read back. -/
theorem format_reads_back {token : Token} (h : token.number < token.kind.limit) :
    format.ReadsBack token := by
  intro rest
  show readToken (writeToken token ++ rest) = _
  rw [writeToken, List.append_assoc, readToken, read_write_header h]
  cases token with
  | mapLen count => rfl
  | uint value => simp [Token.kind, Token.number, Token.payload]
  | str text => simp [Token.kind, Token.number, Token.payload, take_bytes_append,
      Utf8.from_utf8_bytes]
  | bin bytes => simp [Token.kind, Token.number, Token.payload, take_bytes_append]

/-- A value all of whose primitives fit their kinds is read back. -/
theorem format_reads_back_value {value : Value}
    (h : ∀ token ∈ tokens value, token.number < token.kind.limit) : ReadsBack format value :=
  fun token htoken => format_reads_back (h token htoken)

/-- An integer's header is not wider than a width that the integer fits. -/
theorem shape_uint_le {number width : Nat} (hwidth : width ∈ [1, 2, 4, 8])
    (h : number < 256 ^ width) : number < 2 ^ 64 ∧ (shape .uint number).2 ≤ width := by
  simp only [List.mem_cons, List.not_mem_nil, or_false] at hwidth
  obtain rfl | rfl | rfl | rfl := hwidth
  all_goals
    refine ⟨by omega, ?_⟩
    simp only [shape]
    repeat' split
    all_goals omega

/-- The widths of integers that the markers say. -/
theorem width_of_sized {marker width : Nat} (h : sized marker = some (.uint, width)) :
    width ∈ [1, 2, 4, 8] := by
  unfold sized at h
  split at h
  all_goals simp_all

/-- The integer of a header does not need a wider header than that. -/
theorem shape_le_of_layout {marker small width number : Nat}
    (h : layout marker = some (.uint, small, width)) (hnumber : number < 256 ^ width) :
    small + number < 2 ^ 64 ∧ (shape .uint (small + number)).2 ≤ width := by
  unfold layout at h
  split at h
  · obtain ⟨rfl, rfl⟩ : marker = small ∧ 0 = width := by simpa using h
    refine ⟨by omega, ?_⟩
    have hfix : marker + number < 128 := by omega
    simp only [shape, hfix, if_true, Nat.le_refl]
  · repeat' split at h
    · simp at h
    · simp at h
    · simp at h
    · obtain ⟨found, hsized, hfound⟩ := Option.map_eq_some_iff.mp h
      obtain ⟨hkind, rfl, rfl⟩ : found.1 = .uint ∧ 0 = small ∧ found.2 = width := by
        simpa using hfound
      have hwidth := width_of_sized (hsized.trans (congrArg some (Prod.ext hkind rfl)))
      rw [Nat.zero_add]
      exact shape_uint_le hwidth hnumber

/-- What was in front of the bytes after a header. -/
theorem read_header_eq_some {bytes rest : List UInt8} {kind : Kind} {number : Nat}
    (h : readHeader bytes = some (kind, number, rest)) :
    ∃ marker tail small width, bytes = marker :: tail ∧
      layout marker.toNat = some (kind, small, width) ∧ width ≤ tail.length ∧
      number = small + LittleEndian.decode (tail.take width).reverse ∧
      rest = tail.drop width := by
  cases bytes with
  | nil => cases h
  | cons marker tail =>
      obtain ⟨⟨kind', small, width⟩, hlayout, hread⟩ := Option.bind_eq_some_iff.mp h
      dsimp only at hread
      split at hread
      · cases hread
      · obtain ⟨rfl, rfl, rfl⟩ : kind' = kind ∧ _ = number ∧ _ = rest := by simpa using hread
        exact ⟨marker, tail, small, width, rfl, hlayout, by omega, rfl, rfl⟩

/-- An integer comes from a header of its kind. -/
theorem read_token_uint {bytes rest : List UInt8} {value : UInt64}
    (h : readToken bytes = some (.uint value, rest)) :
    ∃ number, readHeader bytes = some (.uint, number, rest) ∧ UInt64.ofNat number = value := by
  obtain ⟨⟨kind, number, tail⟩, hheader, hread⟩ := Option.bind_eq_some_iff.mp h
  cases kind with
  | mapLen => simp at hread
  | uint =>
      obtain ⟨hvalue, rfl⟩ : UInt64.ofNat number = value ∧ tail = rest := by simpa using hread
      exact ⟨number, hheader, hvalue⟩
  | str => simp [Option.bind_eq_some_iff] at hread
  | bin => simp [Option.bind_eq_some_iff] at hread

/-- Integers are written in their shortest form. -/
theorem format_writes_shortest (value : UInt64) : format.WritesShortest value := by
  intro bytes rest h
  obtain ⟨number, hheader, rfl⟩ := read_token_uint h
  obtain ⟨marker, tail, small, width, rfl, hlayout, hwidth, rfl, rfl⟩ :=
    read_header_eq_some hheader
  have hdecode := LittleEndian.decode_lt (tail.take width).reverse
  rw [List.length_reverse, List.length_take_of_le hwidth] at hdecode
  obtain ⟨hrange, hshape⟩ := shape_le_of_layout hlayout hdecode
  show (writeToken (.uint _)).length + _ ≤ _
  simp only [writeToken, Token.kind, Token.number, Token.payload, writeHeader, bigEndian,
    List.append_nil, List.length_cons, List.length_reverse, LittleEndian.length_encode,
    List.length_drop, UInt64.toNat_ofNat_of_lt' hrange]
  omega

end CorvidNano.MessagePack
