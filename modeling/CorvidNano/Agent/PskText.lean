import CorvidNano.Agent.PskKeys
import CorvidNano.Library.Base64
import CorvidNano.Library.Digits

/-!
# Keys as texts

`parse_psk` of `contacts.rs` reads a key that the user gives as a text: 64 hexadecimal digits, or
else base64. `parse_psk_grammar` is the main result: it accepts exactly the two spellings of a key,
which no text mixes up.
-/

namespace CorvidNano.Agent.PskText

open Digits PskKeys

/-- What the two crates say of a text that they do not decode: `hex`, and `base64` with the
standard alphabet and canonical padding. -/
structure DecodeReasons where
  hex : List Char → String
  base64 : List Char → String

/-- `char::is_ascii_hexdigit`. -/
def isAsciiHexdigit (c : Char) : Bool := (digit? 16 c).isSome

/-- The bytes of the text, of whatever length. -/
def decodeText (reasons : DecodeReasons) (input : List Char) : Except String (List UInt8) :=
  if Utf8.size input = 64 ∧ input.all isAsciiHexdigit = true then
    match hexDecode input with
    | some bytes => .ok bytes
    | none => .error (reasons.hex input)
  else
    match Base64.decode input with
    | some bytes => .ok bytes
    | none => .error ("Invalid PSK (not hex or base64): " ++ reasons.base64 input)

/-- `parse_psk`. -/
def parsePsk (reasons : DecodeReasons) (input : List Char) : Except String Psk :=
  match decodeText reasons input with
  | .error error => .error error
  | .ok bytes =>
      if h : bytes.length = 32 then .ok ⟨bytes, h⟩
      else .error ("PSK must be 32 bytes (got " ++ toString bytes.length ++ ")")

/-! ## The two spellings -/

/-- The text has 64 hexadecimal digits of any case. -/
def IsHexText (input : List Char) : Prop :=
  input.length = 64 ∧ ∀ c ∈ input, isAsciiHexdigit c = true

/-- The text is the base64 of a key. -/
def IsBase64Text (input : List Char) : Prop :=
  ∃ key : Psk, input = Base64.encode key.bytes

/-- The key that a text of one of the two kinds stands for. -/
inductive Spells : List Char → Psk → Prop where
  | hex {input : List Char} {key : Psk} (hbytes : hexDecode input = some key.bytes) :
      Spells input key
  | base64 {input : List Char} {key : Psk} (htext : input = Base64.encode key.bytes) :
      Spells input key

/-- Hexadecimal digits are ASCII characters. -/
theorem to_nat_lt_of_hexdigit {c : Char} (h : isAsciiHexdigit c = true) : c.toNat < 128 := by
  obtain ⟨value, hvalue⟩ := Option.isSome_iff_exists.mp h
  rcases code_of_hex_digit hvalue with hcode | hcode | hcode
  · omega
  · omega
  · omega

/-- The first branch is taken for the 64 digits. -/
theorem is_hex_text_iff {input : List Char} :
    IsHexText input ↔ Utf8.size input = 64 ∧ input.all isAsciiHexdigit = true := by
  unfold IsHexText
  rw [List.all_eq_true]
  refine and_congr_left fun hdigits => ?_
  rw [Utf8.size_of_ascii fun c hc => to_nat_lt_of_hexdigit (hdigits c hc)]

/-- The 64 digits are those of some key. -/
theorem is_hex_text_iff_exists {input : List Char} :
    IsHexText input ↔ ∃ key : Psk, hexDecode input = some key.bytes := by
  have hiff : (∃ bytes, hexDecode input = some bytes ∧ bytes.length = 32) ↔ IsHexText input :=
    exists_hex_decode_iff
  constructor
  · intro h
    obtain ⟨bytes, hbytes, hlength⟩ := hiff.mpr h
    exact ⟨⟨bytes, hlength⟩, hbytes⟩
  · intro ⟨key, hkey⟩
    exact hiff.mp ⟨key.bytes, hkey, key.length_eq⟩

/-- The base64 of a key has 44 bytes, and so not the 64 of the digits. -/
theorem not_hex_and_base64 (input : List Char) : ¬ (IsHexText input ∧ IsBase64Text input) := by
  intro ⟨hhex, key, htext⟩
  have hsize := (is_hex_text_iff.mp hhex).1
  rw [htext, Base64.size_encode, key.length_eq] at hsize
  exact absurd hsize (by decide)

/-- A text spells a key exactly if it is of one of the two kinds. -/
theorem exists_spells_iff {input : List Char} :
    (∃ key, Spells input key) ↔ IsHexText input ∨ IsBase64Text input := by
  rw [is_hex_text_iff_exists]
  constructor
  · intro ⟨key, hspells⟩
    cases hspells with
    | hex hbytes => exact Or.inl ⟨key, hbytes⟩
    | base64 htext => exact Or.inr ⟨key, htext⟩
  · intro h
    rcases h with ⟨key, hbytes⟩ | ⟨key, htext⟩
    · exact ⟨key, .hex hbytes⟩
    · exact ⟨key, .base64 htext⟩

/-! ## Parsing -/

/-- The key that a text spells is read from it. -/
theorem parse_psk_of_spells {input : List Char} {key : Psk} (reasons : DecodeReasons)
    (h : Spells input key) : parsePsk reasons input = .ok key := by
  have hdecode : decodeText reasons input = .ok key.bytes := by
    unfold decodeText
    cases h with
    | hex hbytes =>
        have hhex := is_hex_text_iff_exists.mpr ⟨key, hbytes⟩
        rw [if_pos (is_hex_text_iff.mp hhex), hbytes]
    | base64 htext =>
        have hhex : ¬ IsHexText input := fun hhex => not_hex_and_base64 input ⟨hhex, key, htext⟩
        rw [if_neg fun hcond => hhex (is_hex_text_iff.mpr hcond), htext, Base64.decode_encode]
  unfold parsePsk
  rw [hdecode]
  exact dif_pos key.length_eq

/-- A key that is read from a text is one that it spells. -/
theorem spells_of_parse_psk {reasons : DecodeReasons} {input : List Char} {key : Psk}
    (h : parsePsk reasons input = .ok key) : Spells input key := by
  unfold parsePsk at h
  cases hdecode : decodeText reasons input with
  | error error =>
      rw [hdecode] at h
      cases h
  | ok bytes =>
      rw [hdecode] at h
      by_cases hlength : bytes.length = 32
      · simp only [hlength, dif_pos, Except.ok.injEq] at h
        subst h
        unfold decodeText at hdecode
        split at hdecode
        next hhex =>
          cases hbytes : hexDecode input with
          | none =>
              rw [hbytes] at hdecode
              cases hdecode
          | some decoded =>
              rw [hbytes] at hdecode
              cases hdecode
              exact .hex hbytes
        next hhex =>
          cases hbytes : Base64.decode input with
          | none =>
              rw [hbytes] at hdecode
              cases hdecode
          | some decoded =>
              rw [hbytes] at hdecode
              cases hdecode
              exact .base64 (Base64.encode_of_decode hbytes).symm
      · simp only [hlength, dif_neg, not_false_eq_true, reduceCtorEq] at h

/-- Exactly the two spellings of a key are accepted, as that key, and no text is of both kinds. All
other texts are rejected. -/
theorem parse_psk_grammar (reasons : DecodeReasons) :
    (∀ input, (∃ key, parsePsk reasons input = .ok key) ↔
      IsHexText input ∨ IsBase64Text input) ∧
    (∀ input key, parsePsk reasons input = .ok key ↔ Spells input key) ∧
    (∀ key : Psk, parsePsk reasons (hexEncode key.bytes) = .ok key ∧
      parsePsk reasons (Base64.encode key.bytes) = .ok key) ∧
    (∀ input, ¬ (IsHexText input ∧ IsBase64Text input)) ∧
    ∀ input, (∃ error, parsePsk reasons input = .error error) ↔
      ¬ (IsHexText input ∨ IsBase64Text input) := by
  have hspells : ∀ input key, parsePsk reasons input = .ok key ↔ Spells input key :=
    fun input key => ⟨spells_of_parse_psk, parse_psk_of_spells reasons⟩
  have haccepted : ∀ input, (∃ key, parsePsk reasons input = .ok key) ↔
      IsHexText input ∨ IsBase64Text input := by
    intro input
    rw [← exists_spells_iff]
    exact exists_congr (hspells input)
  refine ⟨haccepted, hspells, fun key => ⟨?_, ?_⟩, not_hex_and_base64, fun input => ?_⟩
  · exact parse_psk_of_spells reasons (.hex (hex_decode_encode key.bytes))
  · exact parse_psk_of_spells reasons (.base64 rfl)
  · rw [← haccepted]
    cases parsePsk reasons input with
    | error error => simp
    | ok key => simp

end CorvidNano.Agent.PskText
