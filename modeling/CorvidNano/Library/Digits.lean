import Mathlib.Algebra.Group.Nat.Defs
import Mathlib.Data.List.Basic

/-!
# Digits

Numbers and byte strings that are spelled with digits.
-/

namespace CorvidNano.Digits

/-- The value of a digit in a base up to 16. -/
def digit? (base : Nat) (c : Char) : Option Nat :=
  let value :=
    if c.isDigit then c.toNat - '0'.toNat
    else if 'a' ≤ c ∧ c ≤ 'f' then c.toNat - 'a'.toNat + 10
    else if 'A' ≤ c ∧ c ≤ 'F' then c.toNat - 'A'.toNat + 10
    else base
  if value < base then some value else none

/-- The number that the digits spell. No digits spell zero. -/
def number? (base : Nat) (digits : List Char) : Option Nat :=
  digits.foldlM (fun value c => (digit? base c).map (base * value + ·)) 0

/-- The digits of a number, which is below the power of the base. -/
theorem number_from {base start number : Nat} {digits : List Char}
    (h : digits.foldlM (fun value c => (digit? base c).map (base * value + ·)) start =
      some number) :
    (∀ c ∈ digits, ∃ value, digit? base c = some value) ∧
      number < base ^ digits.length * (start + 1) := by
  induction digits generalizing start with
  | nil =>
      rw [List.foldlM_nil] at h
      cases h
      exact ⟨fun c hc => absurd hc List.not_mem_nil, by simp⟩
  | cons c rest ih =>
      rw [List.foldlM_cons, Option.bind_eq_bind, Option.bind_eq_some_iff] at h
      obtain ⟨next, hnext, hrest⟩ := h
      obtain ⟨value, hvalue, rfl⟩ := Option.map_eq_some_iff.mp hnext
      obtain ⟨hdigits, hlt⟩ := ih hrest
      refine ⟨?_, ?_⟩
      · rintro other (_ | ⟨_, hother⟩)
        · exact ⟨value, hvalue⟩
        · exact hdigits other hother
      · have hdigit : value < base := by
          unfold digit? at hvalue
          rw [Option.ite_none_right_eq_some] at hvalue
          obtain ⟨hlt, hsame⟩ := hvalue
          exact Option.some.inj hsame ▸ hlt
        refine Nat.lt_of_lt_of_le hlt ?_
        rw [List.length_cons, pow_succ, Nat.mul_assoc]
        refine Nat.mul_le_mul_left _ ?_
        rw [Nat.mul_add]
        omega

/-- The first digit of a number is worth at least one, unless it is zero. -/
theorem number_cons_pos {base number : Nat} {c : Char} {rest : List Char} (hbase : 0 < base)
    (hzero : digit? base c ≠ some 0) (h : number? base (c :: rest) = some number) : 0 < number := by
  have hkeep : ∀ {start : Nat} {digits : List Char}, 0 < start →
      digits.foldlM (fun value c => (digit? base c).map (base * value + ·)) start = some number →
      0 < number := by
    intro start digits hstart hnumber
    induction digits generalizing start with
    | nil =>
        rw [List.foldlM_nil] at hnumber
        exact Option.some.inj hnumber ▸ hstart
    | cons c rest ih =>
        rw [List.foldlM_cons, Option.bind_eq_bind, Option.bind_eq_some_iff] at hnumber
        obtain ⟨next, hnext, hrest⟩ := hnumber
        obtain ⟨value, _, rfl⟩ := Option.map_eq_some_iff.mp hnext
        exact ih (Nat.add_pos_left (Nat.mul_pos hbase hstart) _) hrest
  unfold number? at h
  rw [List.foldlM_cons, Option.bind_eq_bind, Option.bind_eq_some_iff] at h
  obtain ⟨next, hnext, hrest⟩ := h
  obtain ⟨value, hvalue, rfl⟩ := Option.map_eq_some_iff.mp hnext
  refine hkeep ?_ hrest
  rw [Nat.mul_zero, Nat.zero_add]
  exact Nat.pos_of_ne_zero fun hsame => hzero (hsame ▸ hvalue)

/-- Only the digits of a number are in it. -/
theorem digits_of_number {base number : Nat} {digits : List Char}
    (h : number? base digits = some number) {c : Char} (hc : c ∈ digits) :
    ∃ value, digit? base c = some value :=
  (number_from h).1 c hc

theorem number_lt {base number : Nat} {digits : List Char}
    (h : number? base digits = some number) : number < base ^ digits.length := by
  have hlt := (number_from h).2
  rwa [Nat.zero_add, Nat.mul_one] at hlt

/-- The bytes that pairs of hexadecimal digits of any case spell. -/
def hexDecode : List Char → Option (List UInt8)
  | [] => some []
  | [_] => none
  | high :: low :: rest => do
      let h ← digit? 16 high
      let l ← digit? 16 low
      let bytes ← hexDecode rest
      pure (UInt8.ofNat (16 * h + l) :: bytes)

/-- The lower-case hexadecimal digit of a value below 16. -/
def hexDigit (value : Nat) : Char :=
  if value < 10 then Char.ofNat ('0'.toNat + value) else Char.ofNat ('a'.toNat + value - 10)

/-- The bytes in lower-case hexadecimal digits. -/
def hexEncode (bytes : List UInt8) : List Char :=
  bytes.flatMap fun byte => [hexDigit (byte.toNat / 16), hexDigit (byte.toNat % 16)]

/-- The digit of a value below 16 has that value. -/
theorem digit_hex_digit {value : Nat} (h : value < 16) :
    digit? 16 (hexDigit value) = some value := by
  have hall : ∀ v < 16, digit? 16 (hexDigit v) = some v := by decide
  exact hall value h

/-- Bytes that are encoded are decoded. -/
theorem hex_decode_encode (bytes : List UInt8) : hexDecode (hexEncode bytes) = some bytes := by
  induction bytes with
  | nil => rfl
  | cons byte rest ih =>
      have hbyte := byte.toNat_lt
      have hhigh := digit_hex_digit (show byte.toNat / 16 < 16 by omega)
      have hlow := digit_hex_digit (show byte.toNat % 16 < 16 by omega)
      show hexDecode (hexDigit (byte.toNat / 16) :: hexDigit (byte.toNat % 16) ::
        hexEncode rest) = _
      rw [hexDecode, hhigh, hlow, ih]
      show some (UInt8.ofNat (16 * (byte.toNat / 16) + byte.toNat % 16) :: rest) = _
      rw [Nat.div_add_mod, UInt8.ofNat_toNat]

/-- The codes of the hexadecimal digits, and their values. -/
theorem code_of_hex_digit {c : Char} {value : Nat} (h : digit? 16 c = some value) :
    (48 ≤ c.toNat ∧ c.toNat ≤ 57 ∧ value = c.toNat - 48) ∨
      (97 ≤ c.toNat ∧ c.toNat ≤ 102 ∧ value = c.toNat - 87) ∨
      (65 ≤ c.toNat ∧ c.toNat ≤ 70 ∧ value = c.toNat - 55) := by
  simp only [digit?, Option.ite_none_right_eq_some, Option.some.injEq, Char.isDigit, Char.le_def,
    Bool.and_eq_true, decide_eq_true_eq, ge_iff_le, UInt32.le_iff_toNat_le, Char.toNat,
    Char.reduceVal, UInt32.reduceToNat] at h ⊢
  grind

/-- A digit that is no capital letter is the one that its value is written with. -/
theorem hex_digit_of_digit {c : Char} {value : Nat} (h : digit? 16 c = some value)
    (hlower : c.isUpper = false) : value < 16 ∧ hexDigit value = c := by
  have hcode : Char.ofNat c.toNat = c := Char.ofNat_toNat c
  obtain ⟨hge, hle, rfl⟩ | ⟨hge, hle, rfl⟩ | ⟨hge, hle, rfl⟩ := code_of_hex_digit h
  · refine ⟨by omega, ?_⟩
    rw [hexDigit, if_pos (by omega), show '0'.toNat + (c.toNat - 48) = c.toNat by
      show 48 + (c.toNat - 48) = c.toNat
      omega, hcode]
  · refine ⟨by omega, ?_⟩
    rw [hexDigit, if_neg (by omega), show 'a'.toNat + (c.toNat - 87) - 10 = c.toNat by
      show 97 + (c.toNat - 87) - 10 = c.toNat
      omega, hcode]
  · have hlow : c.val ≥ 'A'.val := UInt32.le_iff_toNat_le.mpr hge
    have hhigh : c.val ≤ 'Z'.val :=
      UInt32.le_iff_toNat_le.mpr (Nat.le_trans hle (show 70 ≤ 90 by omega))
    have hupper : c.isUpper = true := by
      unfold Char.isUpper
      exact decide_eq_true ⟨hlow, hhigh⟩
    rw [hupper] at hlower
    cases hlower

/-- Bytes are encoded without capital letters. -/
theorem hex_encode_lower (bytes : List UInt8) :
    (hexEncode bytes).all (fun c => !c.isUpper) = true := by
  have hall : ∀ v < 16, (!(hexDigit v).isUpper) = true := by decide
  rw [hexEncode, List.all_flatMap, List.all_eq_true]
  intro byte _
  have hbyte := byte.toNat_lt
  rw [List.all_cons, List.all_cons, hall _ (by omega), hall _ (by omega)]
  rfl

/-- Digits without a capital letter are the ones that their bytes are encoded with. -/
theorem hex_encode_of_decode {digits : List Char} {bytes : List UInt8}
    (h : hexDecode digits = some bytes) (hlower : digits.all (fun c => !c.isUpper) = true) :
    hexEncode bytes = digits := by
  induction digits using hexDecode.induct generalizing bytes with
  | case1 =>
      cases h
      rfl
  | case2 => cases h
  | case3 high low rest ih =>
      simp only [hexDecode, bind, Option.bind_eq_some_iff, pure, Option.some.injEq] at h
      obtain ⟨highValue, hhigh, lowValue, hlow, restBytes, hrest, rfl⟩ := h
      simp only [List.all_cons, Bool.and_eq_true, Bool.not_eq_true'] at hlower
      obtain ⟨hupperHigh, hupperLow, hupperRest⟩ := hlower
      obtain ⟨hltHigh, hdigitHigh⟩ := hex_digit_of_digit hhigh hupperHigh
      obtain ⟨hltLow, hdigitLow⟩ := hex_digit_of_digit hlow hupperLow
      have hbyte : (UInt8.ofNat (16 * highValue + lowValue)).toNat = 16 * highValue + lowValue :=
        UInt8.toNat_ofNat_of_lt' (by simp only [UInt8.size]; omega)
      show hexDigit _ :: hexDigit _ :: hexEncode restBytes = _
      rw [hbyte, show (16 * highValue + lowValue) / 16 = highValue by omega,
        show (16 * highValue + lowValue) % 16 = lowValue by omega, hdigitHigh, hdigitLow,
        ih hrest hupperRest]

/-- So many bytes are decoded exactly from twice as many digits. -/
theorem exists_hex_decode_iff {digits : List Char} {length : Nat} :
    (∃ bytes, hexDecode digits = some bytes ∧ bytes.length = length) ↔
      digits.length = 2 * length ∧ ∀ c ∈ digits, (digit? 16 c).isSome := by
  induction digits using hexDecode.induct generalizing length with
  | case1 =>
      rw [hexDecode]
      constructor
      · intro ⟨bytes, hbytes, hlength⟩
        obtain rfl := Option.some.inj hbytes
        exact ⟨by rw [← hlength]; rfl, nofun⟩
      · intro ⟨hlength, _⟩
        rw [List.length_nil] at hlength
        refine ⟨[], rfl, ?_⟩
        rw [List.length_nil]
        omega
  | case2 c =>
      rw [hexDecode]
      constructor
      · intro ⟨bytes, hbytes, _⟩
        cases hbytes
      · intro ⟨hlength, _⟩
        rw [List.length_singleton] at hlength
        omega
  | case3 high low rest ih =>
      simp only [hexDecode, bind, Option.bind_eq_some_iff, pure, Option.some.injEq,
        List.forall_mem_cons, List.length_cons]
      constructor
      · intro ⟨bytes, ⟨highValue, hhigh, lowValue, hlow, restBytes, hrest, hbytes⟩, hlength⟩
        obtain ⟨hrestLength, hrestDigits⟩ := ih.mp ⟨restBytes, hrest, rfl⟩
        rw [← hbytes, List.length_cons] at hlength
        exact ⟨by omega, Option.isSome_of_eq_some hhigh, Option.isSome_of_eq_some hlow,
          hrestDigits⟩
      · intro ⟨hlength, hhigh, hlow, hrest⟩
        obtain ⟨highValue, hhigh⟩ := Option.isSome_iff_exists.mp hhigh
        obtain ⟨lowValue, hlow⟩ := Option.isSome_iff_exists.mp hlow
        obtain ⟨restBytes, hrestBytes, hrestLength⟩ :=
          ih.mpr (⟨by omega, hrest⟩ : rest.length = 2 * (length - 1) ∧ _)
        refine ⟨_, ⟨highValue, hhigh, lowValue, hlow, restBytes, hrestBytes, rfl⟩, ?_⟩
        rw [List.length_cons]
        omega

/-- A number is spelled with the ten digits only. -/
theorem not_mem_repr {c : Char} (h : c.isDigit = false) (n : Nat) : c ∉ n.repr.toList := by
  intro hmem
  rw [Nat.toList_repr] at hmem
  have hdigit := Nat.isDigit_of_mem_toDigits (by decide) (by decide) hmem
  rw [h] at hdigit
  cases hdigit

/-- Numbers with the same digits are equal. -/
theorem repr_to_list_injective {m n : Nat} (h : m.repr.toList = n.repr.toList) : m = n := by
  rw [Nat.toList_repr, Nat.toList_repr] at h
  have hvalue := congrArg (fun digits => Nat.ofDigitChars 10 digits 0) h
  simpa using hvalue

end CorvidNano.Digits
