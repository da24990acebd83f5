import CorvidNano.Library.BitGroups
import CorvidNano.Library.Utf8

/-!
# Base32 without padding

The bits of some bytes, filled up with zeros, are cut into groups of five, each of which is a
symbol: a capital letter, or a digit from 2 to 7. Decoding rejects other symbols, a length that
leaves a whole symbol over, and bits left over that are not zero. So a text is accepted only if it
is the one of its bytes: `decode_encode` and `encode_of_decode` are the two round trips.
-/

namespace CorvidNano.Base32

open BitGroups

/-- The symbol of a five-bit value, as a byte. -/
def symbol (n : Nat) : UInt8 := UInt8.ofNat (if n < 26 then n + 65 else n + 24)

/-- The five-bit value of a symbol. -/
def value? (byte : UInt8) : Option Nat :=
  if 65 ≤ byte.toNat ∧ byte.toNat ≤ 90 then some (byte.toNat - 65)
  else if 50 ≤ byte.toNat ∧ byte.toNat ≤ 55 then some (byte.toNat - 24)
  else none

/-- The groups of five bits. -/
def groups (data : List UInt8) : List Nat := regroupPadded 32 8 5 (data.map UInt8.toNat)

/-- The text of some bytes. -/
def encode (data : List UInt8) : String :=
  .ofList (((groups data).map symbol).map fun byte => Char.ofNat byte.toNat)

/-- The bytes of some groups, if no more than zeros is left over, and less than a group. -/
def ungroup (values : List Nat) : Option (List UInt8) :=
  let packer := regroup 32 5 8 values
  if packer.numBits < 5 ∧
      bits packer.numBits packer.buffer = List.replicate packer.numBits false then
    some (packer.output.map UInt8.ofNat)
  else none

/-- The bytes that a text, given by its own bytes, stands for. -/
def decode (text : List UInt8) : Option (List UInt8) := do
  let values ← text.mapM value?
  ungroup values

example : encode [0x8a, 0x88, 0xe3, 0xdd, 0x74, 0x09] = "RKEOHXLUBE" := by decide +kernel

/-! ## Symbols -/

/-- Every five-bit value is the value of its symbol. -/
theorem value_symbol {n : Nat} (h : n < 32) : value? (symbol n) = some n := by
  have hall : ∀ m < 32, value? (symbol m) = some m := by decide
  exact hall n h

/-- Every symbol is that of its value. -/
theorem symbol_of_value {byte : UInt8} {n : Nat} (h : value? byte = some n) :
    symbol n = byte ∧ n < 32 := by
  have hlt := byte.toNat_lt
  unfold value? at h
  split at h
  · rename_i hletter
    obtain rfl := Option.some.inj h
    have hn : byte.toNat - 65 < 26 := by omega
    refine ⟨UInt8.toNat_inj.mp ?_, by omega⟩
    rw [symbol, if_pos hn, UInt8.toNat_ofNat']
    omega
  · split at h
    · rename_i hdigit
      obtain rfl := Option.some.inj h
      have hn : ¬ byte.toNat - 24 < 26 := by omega
      refine ⟨UInt8.toNat_inj.mp ?_, by omega⟩
      rw [symbol, if_neg hn, UInt8.toNat_ofNat']
      omega
    · cases h

/-- The values of symbols. -/
theorem map_m_value_eq_some {text : List UInt8} {values : List Nat} :
    text.mapM value? = some values ↔ text = values.map symbol ∧ ∀ n ∈ values, n < 32 := by
  induction text generalizing values with
  | nil =>
      constructor
      · intro h
        cases h
        exact ⟨rfl, fun n hn => nomatch hn⟩
      · rintro ⟨h, -⟩
        rw [List.map_eq_nil_iff.mp h.symm]
        rfl
  | cons byte rest ih =>
      rw [List.mapM_cons]
      constructor
      · intro h
        obtain ⟨n, hn, hrest⟩ := Option.bind_eq_some_iff.mp h
        obtain ⟨others, hothers, hvalues⟩ := Option.bind_eq_some_iff.mp hrest
        cases hvalues
        obtain ⟨htext, hlt⟩ := ih.mp hothers
        obtain ⟨hsymbol, hnlt⟩ := symbol_of_value hn
        exact ⟨by rw [List.map_cons, hsymbol, htext], List.forall_mem_cons.mpr ⟨hnlt, hlt⟩⟩
      · rintro ⟨htext, hlt⟩
        cases values with
        | nil => cases htext
        | cons n others =>
            obtain ⟨hbyte, hrest⟩ := List.cons.inj htext
            obtain ⟨hn, hothers⟩ := List.forall_mem_cons.mp hlt
            rw [hbyte, value_symbol hn, ih.mpr ⟨hrest, hothers⟩]
            rfl

/-- Symbols are ASCII characters. -/
theorem symbol_lt {n : Nat} (h : n < 32) : (symbol n).toNat < 128 := by
  have hall : ∀ m < 32, (symbol m).toNat < 128 := by decide
  exact hall n h

/-! ## Groups -/

theorem map_to_nat_lt (data : List UInt8) : ∀ value ∈ data.map UInt8.toNat, value < 2 ^ 8 := by
  intro value hvalue
  obtain ⟨byte, -, rfl⟩ := List.mem_map.mp hvalue
  exact byte.toNat_lt

/-- The groups are the bits of the bytes, filled up with less than a group of zeros. -/
theorem groups_stream (data : List UInt8) :
    ∃ padding < 5, stream 5 (groups data) =
        stream 8 (data.map UInt8.toNat) ++ List.replicate padding false ∧
      ∀ group ∈ groups data, group < 2 ^ 5 :=
  regroup_padded_stream 32 8 5 (by decide) (by decide) (by decide) (map_to_nat_lt data)

/-- Groups stand for some bytes if and only if their bits are those of the bytes and less than a
group of zeros. -/
theorem ungroup_eq_some_iff {values : List Nat} (hvalues : ∀ value ∈ values, value < 2 ^ 5)
    {data : List UInt8} :
    ungroup values = some data ↔
      ∃ padding < 5, stream 5 values =
        stream 8 (data.map UInt8.toNat) ++ List.replicate padding false := by
  have h := regroup_stream 32 5 8 (by decide) (by decide) hvalues
  have hnumbers : ((regroup 32 5 8 values).output.map UInt8.ofNat).map UInt8.toNat =
      (regroup 32 5 8 values).output := by
    rw [List.map_map, List.map_congr_left, List.map_id]
    intro value hvalue
    exact UInt8.toNat_ofNat_of_lt' (h.output_lt value hvalue)
  constructor
  · intro hungroup
    unfold ungroup at hungroup
    dsimp only at hungroup
    split at hungroup
    · rename_i hrest
      obtain rfl := Option.some.inj hungroup
      exact ⟨_, hrest.1, by rw [hnumbers, ← hrest.2, h.stream_eq]⟩
    · cases hungroup
  · rintro ⟨padding, hpadding, hstream⟩
    have hsplit := h.stream_eq.trans hstream
    have hlength := congrArg List.length hsplit
    simp only [List.length_append, length_stream, length_bits, List.length_replicate,
      List.length_map] at hlength
    have hlt := h.numBits_lt
    have hcount : (regroup 32 5 8 values).output.length = data.length := by omega
    have hbits : (regroup 32 5 8 values).numBits = padding := by omega
    obtain ⟨hdata, hzeros⟩ := List.append_inj hsplit
      (by rw [length_stream, length_stream, List.length_map, hcount])
    have houtput := stream_injective (by decide) h.output_lt (map_to_nat_lt data) hdata
    unfold ungroup
    dsimp only
    rw [if_pos ⟨hbits ▸ hpadding, hzeros.trans (by rw [hbits])⟩, houtput, List.map_map,
      List.map_congr_left, List.map_id]
    exact fun byte _ => UInt8.ofNat_toNat

/-! ## Round trips -/

/-- The text of some bytes, as bytes. -/
theorem bytes_encode (data : List UInt8) :
    Utf8.bytes (encode data) = (groups data).map symbol := by
  obtain ⟨padding, -, -, hlt⟩ := groups_stream data
  refine Utf8.bytes_of_ascii fun byte hbyte => ?_
  obtain ⟨n, hn, rfl⟩ := List.mem_map.mp hbyte
  exact symbol_lt (hlt n hn)

/-- Every character of the text of some bytes is a symbol. -/
theorem encode_chars {data : List UInt8} {c : Char} (h : c ∈ (encode data).toList) :
    ∃ n < 32, c = Char.ofNat (symbol n).toNat := by
  obtain ⟨padding, -, -, hlt⟩ := groups_stream data
  rw [encode, String.toList_ofList, List.map_map] at h
  obtain ⟨n, hn, rfl⟩ := List.mem_map.mp h
  exact ⟨n, hlt n hn, rfl⟩

/-- The text of some bytes is decoded to the bytes. -/
theorem decode_encode (data : List UInt8) : decode (Utf8.bytes (encode data)) = some data := by
  obtain ⟨padding, hpadding, hstream, hlt⟩ := groups_stream data
  rw [bytes_encode, decode, map_m_value_eq_some.mpr ⟨rfl, hlt⟩]
  exact (ungroup_eq_some_iff hlt).mpr ⟨padding, hpadding, hstream⟩

/-- A text that is decoded is the text of what it is decoded to. -/
theorem encode_of_decode {text : String} {data : List UInt8}
    (h : decode (Utf8.bytes text) = some data) : encode data = text := by
  obtain ⟨values, hvalues, hungroup⟩ := Option.bind_eq_some_iff.mp h
  obtain ⟨htext, hlt⟩ := map_m_value_eq_some.mp hvalues
  obtain ⟨padding, hpadding, hstream⟩ := (ungroup_eq_some_iff hlt).mp hungroup
  obtain ⟨padding', hpadding', hstream', hlt'⟩ := groups_stream data
  have hlength := congrArg List.length hstream
  have hlength' := congrArg List.length hstream'
  simp only [List.length_append, length_stream, List.length_replicate, List.length_map]
    at hlength hlength'
  obtain rfl : padding = padding' := by omega
  have hgroups := stream_injective (by decide) hlt hlt' (hstream.trans hstream'.symm)
  refine Utf8.bytes_inj ?_
  rw [bytes_encode, htext, hgroups]

end CorvidNano.Base32
