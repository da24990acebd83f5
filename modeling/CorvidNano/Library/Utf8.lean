import Mathlib.Algebra.GroupWithZero.Nat
import Mathlib.Data.List.Basic

/-!
# UTF-8 text

The length of a text in bytes, and the slice of a text up to a byte offset, which exists only
where the offset is at the boundary of two characters. `fromUtf8Lossy` decodes bytes and puts
U+FFFD in the place of each ill-formed part.
-/

namespace CorvidNano.Utf8

/-- The number of bytes of a text in UTF-8. -/
def size (text : List Char) : Nat :=
  (text.map Char.utf8Size).sum

/-- The bytes of a text. -/
def bytes (text : String) : List UInt8 := text.toUTF8.data.toList

/-- The bytes of a text are decoded to the text. -/
theorem from_utf8_bytes (text : String) : String.fromUTF8? ⟨(bytes text).toArray⟩ = some text := by
  show String.fromUTF8? text.toUTF8 = some text
  simp only [String.fromUTF8?, String.toUTF8_eq_toByteArray, dif_pos text.isValidUTF8]
  rfl

/-- A text is decoded from its own bytes only. -/
theorem bytes_of_from_utf8 {data : List UInt8} {text : String}
    (h : String.fromUTF8? ⟨data.toArray⟩ = some text) : bytes text = data := by
  unfold String.fromUTF8? at h
  split at h
  · cases h
    rfl
  · cases h

/-- Texts with the same bytes are the same. -/
theorem bytes_inj {first second : String} (h : bytes first = bytes second) : first = second := by
  have hdecoded := from_utf8_bytes first
  rw [h, from_utf8_bytes] at hdecoded
  exact (Option.some.inj hdecoded).symm

@[simp] theorem size_nil : size [] = 0 := rfl

@[simp] theorem size_cons (c : Char) (text : List Char) :
    size (c :: text) = c.utf8Size + size text := by
  simp [size]

@[simp] theorem size_append (first second : List Char) :
    size (first ++ second) = size first + size second := by
  simp [size]

/-- Every character takes at least one byte. -/
theorem length_le_size (text : List Char) : text.length ≤ size text := by
  induction text with
  | nil => exact Nat.le_refl 0
  | cons c rest ih =>
      have hpos := c.utf8Size_pos
      simp only [List.length_cons, size_cons]
      omega

/-- A text of ASCII characters has a byte for each. -/
theorem size_of_ascii {text : List Char} (h : ∀ c ∈ text, c.toNat < 128) :
    size text = text.length := by
  induction text with
  | nil => rfl
  | cons c rest ih =>
      obtain ⟨hc, hrest⟩ := List.forall_mem_cons.mp h
      have hone : c.utf8Size = 1 :=
        Char.utf8Size_eq_one_iff.mpr (UInt32.le_iff_toNat_le.mpr (Nat.le_of_lt_succ hc))
      rw [size_cons, hone, ih hrest, List.length_cons, Nat.add_comm]

/-- The text up to a byte offset, or `none` if the offset is past the end or inside a
character. -/
def sliceTo : Nat → List Char → Option (List Char)
  | 0, _ => some []
  | _ + 1, [] => none
  | offset + 1, c :: rest =>
      if c.utf8Size ≤ offset + 1 then
        (sliceTo (offset + 1 - c.utf8Size) rest).map fun slice => c :: slice
      else none

/-- A slice to an offset is an initial part of the text with that many bytes. -/
theorem slice_to_eq_some_iff {offset : Nat} {text slice : List Char} :
    sliceTo offset text = some slice ↔ slice <+: text ∧ size slice = offset := by
  induction text generalizing offset slice with
  | nil =>
      cases offset with
      | zero =>
          simp only [sliceTo, Option.some.injEq, List.prefix_nil]
          constructor
          · rintro rfl
            exact ⟨rfl, rfl⟩
          · intro ⟨hslice, _⟩
            exact hslice.symm
      | succ offset =>
          simp only [sliceTo, reduceCtorEq, false_iff, not_and, List.prefix_nil]
          rintro rfl
          simp
  | cons c rest ih =>
      cases offset with
      | zero =>
          simp only [sliceTo, Option.some.injEq]
          constructor
          · rintro rfl
            exact ⟨List.nil_prefix, rfl⟩
          · intro ⟨_, hsize⟩
            have hlength := length_le_size slice
            exact (List.eq_nil_of_length_eq_zero (by omega)).symm
      | succ offset =>
          have hpos := c.utf8Size_pos
          unfold sliceTo
          constructor
          · intro h
            split at h
            case isTrue hfits =>
              obtain ⟨inner, hinner, rfl⟩ := Option.map_eq_some_iff.mp h
              obtain ⟨hpre, hsize⟩ := ih.mp hinner
              refine ⟨List.cons_prefix_cons.mpr ⟨rfl, hpre⟩, ?_⟩
              rw [size_cons, hsize]
              omega
            case isFalse => cases h
          · intro ⟨hpre, hsize⟩
            cases slice with
            | nil => simp at hsize
            | cons first inner =>
                obtain ⟨rfl, htail⟩ := List.cons_prefix_cons.mp hpre
                rw [size_cons] at hsize
                rw [if_pos (by omega), Option.map_eq_some_iff]
                exact ⟨inner, ih.mpr ⟨htail, by omega⟩, rfl⟩

/-- The offset is at the boundary of two characters of the text, or at its end. -/
def IsBoundary (offset : Nat) (text : List Char) : Prop :=
  ∃ slice, slice <+: text ∧ size slice = offset

/-- A text can be sliced exactly at its character boundaries. -/
theorem is_some_slice_to_iff {offset : Nat} {text : List Char} :
    (sliceTo offset text).isSome ↔ IsBoundary offset text := by
  simp [Option.isSome_iff_exists, slice_to_eq_some_iff, IsBoundary]

/-- A text of at most `max` bytes as it is, and a longer one up to byte `max`. -/
def cut (max : Nat) (text : List Char) : Option (List Char) :=
  if size text ≤ max then some text else sliceTo max text

/-- A text can be cut if it is short or has a boundary at the cut. -/
theorem is_some_cut_iff {max : Nat} {text : List Char} :
    (cut max text).isSome ↔ size text ≤ max ∨ IsBoundary max text := by
  rw [← is_some_slice_to_iff, cut]
  by_cases hsize : size text ≤ max
  · simp [hsize]
  · simp [hsize]

/-- An initial part of a text is no longer than the text. -/
theorem size_le_of_initial {first text : List Char} (h : first <+: text) :
    size first ≤ size text := by
  obtain ⟨rest, rfl⟩ := h
  simp

/-- No boundary lies inside a character. -/
theorem not_is_boundary_inside {offset : Nat} {before after : List Char} {c : Char}
    (hstart : size before < offset) (hstop : offset < size before + c.utf8Size) :
    ¬ IsBoundary offset (before ++ c :: after) := by
  intro ⟨slice, hslice, hsize⟩
  have hbefore : before ++ [c] <+: before ++ c :: after := ⟨after, by simp⟩
  rcases List.prefix_or_prefix_of_prefix hslice hbefore with h | h
  · rcases List.prefix_concat_iff.mp h with rfl | h
    · simp at hsize
      omega
    · have hle := size_le_of_initial h
      omega
  · have hle := size_le_of_initial h
    simp at hle
    omega

/-! ## Decoding -/

/-- Where a decoder stands between two bytes: at the start of a character, or within one whose
bits so far are `value`, with the number of bytes to come and the range of the next one. -/
inductive Decoder where
  | start
  | pending (value needed low high : Nat)

/-- The replacement character. -/
def replacement : Char := Char.ofNat 0xFFFD

/-- The first byte of a character. -/
def begin (byte : Nat) : List Char × Decoder :=
  if byte < 0x80 then ([Char.ofNat byte], .start)
  else if 0xC2 ≤ byte ∧ byte ≤ 0xDF then ([], .pending (byte - 0xC0) 1 0x80 0xBF)
  else if byte = 0xE0 then ([], .pending 0 2 0xA0 0xBF)
  else if byte = 0xED then ([], .pending 0xD 2 0x80 0x9F)
  else if 0xE1 ≤ byte ∧ byte ≤ 0xEF then ([], .pending (byte - 0xE0) 2 0x80 0xBF)
  else if byte = 0xF0 then ([], .pending 0 3 0x90 0xBF)
  else if byte = 0xF4 then ([], .pending 4 3 0x80 0x8F)
  else if 0xF1 ≤ byte ∧ byte ≤ 0xF3 then ([], .pending (byte - 0xF0) 3 0x80 0xBF)
  else ([replacement], .start)

/-- The next byte. One that cannot continue a character ends it and begins another. -/
def feed : Decoder → Nat → List Char × Decoder
  | .start, byte => begin byte
  | .pending value needed low high, byte =>
      if low ≤ byte ∧ byte ≤ high then
        let value := 64 * value + (byte - 0x80)
        if needed = 1 then ([Char.ofNat value], .start)
        else ([], .pending value (needed - 1) 0x80 0xBF)
      else
        let (chars, next) := begin byte
        (replacement :: chars, next)

/-- The text of the bytes that follow. -/
def decode : Decoder → List UInt8 → List Char
  | .start, [] => []
  | .pending _ _ _ _, [] => [replacement]
  | decoder, byte :: rest =>
      let (chars, next) := feed decoder byte.toNat
      chars ++ decode next rest

/-- `String::from_utf8_lossy`. -/
def fromUtf8Lossy (bytes : List UInt8) : List Char :=
  decode .start bytes

example : fromUtf8Lossy [0x41, 0xC3, 0xA9, 0xE2, 0x82, 0x41, 0xE0, 0x80] =
    ['A', 'é', replacement, 'A', replacement, replacement] := by decide

/-! ## ASCII text -/

/-- A character whose bytes are all below 128 is one of them. -/
theorem exists_byte_of_ascii {c : Char}
    (hascii : ∀ byte ∈ String.utf8EncodeChar c, byte.toNat < 128) :
    ∃ byte ∈ String.utf8EncodeChar c, byte.toNat = c.toNat := by
  by_cases hsmall : c.val.toNat ≤ 0x7f
  · have hencode : String.utf8EncodeChar c = [UInt8.ofNat c.val.toNat] := if_pos hsmall
    refine ⟨UInt8.ofNat c.val.toNat, by simp [hencode], ?_⟩
    rw [UInt8.toNat_ofNat', Nat.mod_eq_of_lt (Nat.lt_of_le_of_lt hsmall (by decide))]
    rfl
  · -- The first byte of a longer encoding is at least 0xC0.
    have hlarge : ∃ byte ∈ String.utf8EncodeChar c, 128 ≤ byte.toNat := by
      unfold String.utf8EncodeChar
      dsimp only
      rw [if_neg hsmall]
      split
      · refine ⟨_, List.mem_cons_self, ?_⟩
        rw [UInt8.toNat_ofNat']
        omega
      · split
        · refine ⟨_, List.mem_cons_self, ?_⟩
          rw [UInt8.toNat_ofNat']
          omega
        · refine ⟨_, List.mem_cons_self, ?_⟩
          rw [UInt8.toNat_ofNat']
          omega
    obtain ⟨byte, hmem, hbyte⟩ := hlarge
    exact absurd (hascii byte hmem) (Nat.not_lt.mpr hbyte)

/-- A character of a text whose bytes are all below 128 is one of these bytes. -/
theorem exists_byte_of_mem {text : String}
    (hascii : ∀ byte ∈ text.toByteArray.data.toList, byte.toNat < 128) {c : Char}
    (hmem : c ∈ text.toList) : ∃ byte ∈ text.toByteArray.data.toList, byte.toNat = c.toNat := by
  have hbytes : text.toByteArray.data.toList = text.toList.flatMap String.utf8EncodeChar := by
    rw [← String.utf8Encode_toList]
    simp [List.utf8Encode]
  have hchar : ∀ byte ∈ String.utf8EncodeChar c, byte ∈ text.toByteArray.data.toList := by
    intro byte hbyte
    rw [hbytes]
    exact List.mem_flatMap.mpr ⟨c, hmem, hbyte⟩
  obtain ⟨byte, hbyte, heq⟩ := exists_byte_of_ascii fun byte hbyte => hascii byte (hchar byte hbyte)
  exact ⟨byte, hchar byte hbyte, heq⟩

/-- The bytes of a text are those of its characters. -/
theorem bytes_of_list (text : List Char) :
    bytes (.ofList text) = text.flatMap String.utf8EncodeChar := by
  have h := String.utf8Encode_toList (b := String.ofList text)
  show (String.ofList text).toByteArray.data.toList = _
  rw [← h, String.toList_ofList]
  simp [List.utf8Encode]

/-- A byte below 128 is the encoding of its character. -/
theorem encode_ascii {byte : UInt8} (h : byte.toNat < 128) :
    String.utf8EncodeChar (Char.ofNat byte.toNat) = [byte] := by
  have hall : ∀ n < 128, String.utf8EncodeChar (Char.ofNat n) = [UInt8.ofNat n] := by decide
  rw [hall byte.toNat h, UInt8.ofNat_toNat]

/-- The bytes of a text of ASCII characters. -/
theorem bytes_of_ascii {data : List UInt8} (h : ∀ byte ∈ data, byte.toNat < 128) :
    bytes (.ofList (data.map fun byte => Char.ofNat byte.toNat)) = data := by
  rw [bytes_of_list]
  induction data with
  | nil => rfl
  | cons byte rest ih =>
      obtain ⟨hbyte, hrest⟩ := List.forall_mem_cons.mp h
      rw [List.map_cons, List.flatMap_cons, encode_ascii hbyte, ih hrest]
      rfl

end CorvidNano.Utf8
