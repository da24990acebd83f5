import CorvidNano.Library.Utf8

/-!
# Base64

The standard alphabet with canonical padding: three bytes are four characters, the last one or
two bytes are filled up with `=`, and the bits that the padding stands for are zero.
`decode_encode` and `encode_of_decode` are the two round trips, and `length_decode` is the size of
what is decoded.
-/

namespace CorvidNano.Base64

/-- The character of a six-bit value. -/
def symbol (n : Nat) : Char :=
  if n < 26 then Char.ofNat (n + 65)
  else if n < 52 then Char.ofNat (n + 71)
  else if n < 62 then Char.ofNat (n - 4)
  else if n = 62 then '+'
  else '/'

/-- The six-bit value of a character of the alphabet. -/
def value? (c : Char) : Option Nat :=
  if c.isUpper then some (c.toNat - 65)
  else if c.isLower then some (c.toNat - 71)
  else if c.isDigit then some (c.toNat + 4)
  else if c = '+' then some 62
  else if c = '/' then some 63
  else none

/-- The text of some bytes. -/
def encode : List UInt8 → List Char
  | [] => []
  | [a] => [symbol (a.toNat / 4), symbol (a.toNat % 4 * 16), '=', '=']
  | [a, b] =>
      [symbol (a.toNat / 4), symbol (a.toNat % 4 * 16 + b.toNat / 16),
        symbol (b.toNat % 16 * 4), '=']
  | a :: b :: c :: rest =>
      symbol (a.toNat / 4) :: symbol (a.toNat % 4 * 16 + b.toNat / 16) ::
        symbol (b.toNat % 16 * 4 + c.toNat / 64) :: symbol (c.toNat % 64) :: encode rest

/-- One byte from two characters, whose last four bits are zero. -/
def decodeOne (a b : Char) : Option (List UInt8) := do
  let a ← value? a
  let b ← value? b
  if b % 16 = 0 then some [UInt8.ofNat (a * 4 + b / 16)] else none

/-- Two bytes from three characters, whose last two bits are zero. -/
def decodeTwo (a b c : Char) : Option (List UInt8) := do
  let a ← value? a
  let b ← value? b
  let c ← value? c
  if c % 4 = 0 then
    some [UInt8.ofNat (a * 4 + b / 16), UInt8.ofNat (b % 16 * 16 + c / 4)]
  else none

/-- Three bytes from four characters. -/
def decodeThree (a b c d : Char) : Option (List UInt8) := do
  let a ← value? a
  let b ← value? b
  let c ← value? c
  let d ← value? d
  some [UInt8.ofNat (a * 4 + b / 16), UInt8.ofNat (b % 16 * 16 + c / 4),
    UInt8.ofNat (c % 4 * 64 + d)]

/-- The bytes of a text, or `none` if it is not the text of any. -/
def decode : List Char → Option (List UInt8)
  | [] => some []
  | [a, b, c, d] =>
      if d = '=' then if c = '=' then decodeOne a b else decodeTwo a b c
      else decodeThree a b c d
  | a :: b :: c :: d :: rest => do
      let first ← decodeThree a b c d
      let others ← decode rest
      some (first ++ others)
  | _ => none

/-- Every six-bit value is the value of its character. -/
theorem value_symbol {n : Nat} (h : n < 64) : value? (symbol n) = some n := by
  have hall : ∀ m < 64, value? (symbol m) = some m := by decide
  exact hall n h

/-- No character of the alphabet is the padding. -/
theorem symbol_ne_padding {n : Nat} (h : n < 64) : symbol n ≠ '=' := by
  intro heq
  have hvalue := value_symbol h
  rw [heq] at hvalue
  cases hvalue

/-- Every character of the alphabet is one byte. -/
theorem utf8_size_symbol {n : Nat} (h : n < 64) : (symbol n).utf8Size = 1 := by
  have hall : ∀ m < 64, (symbol m).utf8Size = 1 := by decide
  exact hall n h

/-- A number that is equal to a byte makes that byte. -/
theorem of_nat_eq {n : Nat} (byte : UInt8) (h : n = byte.toNat) : UInt8.ofNat n = byte := by
  rw [h, UInt8.ofNat_toNat]

/-- Three bytes are decoded from their four characters. -/
theorem decode_three (a b c : UInt8) :
    decodeThree (symbol (a.toNat / 4)) (symbol (a.toNat % 4 * 16 + b.toNat / 16))
      (symbol (b.toNat % 16 * 4 + c.toNat / 64)) (symbol (c.toNat % 64)) = some [a, b, c] := by
  have ha := a.toNat_lt
  have hb := b.toNat_lt
  have hc := c.toNat_lt
  unfold decodeThree
  rw [value_symbol (by omega), value_symbol (by omega), value_symbol (by omega),
    value_symbol (by omega)]
  show some [UInt8.ofNat _, UInt8.ofNat _, UInt8.ofNat _] = _
  rw [of_nat_eq a (by omega), of_nat_eq b (by omega), of_nat_eq c (by omega)]

/-- Two bytes are decoded from their three characters. -/
theorem decode_two (a b : UInt8) :
    decodeTwo (symbol (a.toNat / 4)) (symbol (a.toNat % 4 * 16 + b.toNat / 16))
      (symbol (b.toNat % 16 * 4)) = some [a, b] := by
  have ha := a.toNat_lt
  have hb := b.toNat_lt
  unfold decodeTwo
  rw [value_symbol (by omega), value_symbol (by omega), value_symbol (by omega)]
  show (if b.toNat % 16 * 4 % 4 = 0 then some [UInt8.ofNat _, UInt8.ofNat _] else none) = _
  rw [if_pos (by omega), of_nat_eq a (by omega), of_nat_eq b (by omega)]

/-- One byte is decoded from its two characters. -/
theorem decode_one (a : UInt8) :
    decodeOne (symbol (a.toNat / 4)) (symbol (a.toNat % 4 * 16)) = some [a] := by
  have ha := a.toNat_lt
  unfold decodeOne
  rw [value_symbol (by omega), value_symbol (by omega)]
  show (if a.toNat % 4 * 16 % 16 = 0 then some [UInt8.ofNat _] else none) = _
  rw [if_pos (by omega), of_nat_eq a (by omega)]

/-- Four characters without padding are decoded before the others. -/
theorem decode_quantum {a b c d : Char} (hd : d ≠ '=') (rest : List Char) :
    decode (a :: b :: c :: d :: rest) =
      (decodeThree a b c d).bind fun first =>
        (decode rest).bind fun others => some (first ++ others) := by
  cases rest with
  | nil => simp [decode, hd]
  | cons next rest =>
      rw [decode]
      · rfl
      · simp

/-- What was encoded is decoded. -/
theorem decode_encode (bytes : List UInt8) : decode (encode bytes) = some bytes := by
  fun_induction encode bytes with
  | case1 => rfl
  | case2 a => simp [decode, decode_one]
  | case3 a b =>
      have hb := b.toNat_lt
      have hlast : symbol (b.toNat % 16 * 4) ≠ '=' := symbol_ne_padding (by omega)
      simp [decode, hlast, decode_two]
  | case4 a b c rest ih =>
      have hc := c.toNat_lt
      rw [decode_quantum (symbol_ne_padding (by omega)), decode_three, ih]
      rfl

example : encode [0x66, 0x6F] = "Zm8=".toList ∧ decode "Zm9=".toList = none := by decide

/-- An encoding has four characters for every three bytes or part of them. -/
theorem size_encode (bytes : List UInt8) :
    Utf8.size (encode bytes) = (bytes.length + 2) / 3 * 4 := by
  have hpadding : '='.utf8Size = 1 := by decide
  fun_induction encode bytes with
  | case1 => rfl
  | case2 a =>
      have ha := a.toNat_lt
      simp [hpadding, utf8_size_symbol (show a.toNat / 4 < 64 by omega),
        utf8_size_symbol (show a.toNat % 4 * 16 < 64 by omega)]
  | case3 a b =>
      have ha := a.toNat_lt
      have hb := b.toNat_lt
      simp [hpadding, utf8_size_symbol (show a.toNat / 4 < 64 by omega),
        utf8_size_symbol (show a.toNat % 4 * 16 + b.toNat / 16 < 64 by omega),
        utf8_size_symbol (show b.toNat % 16 * 4 < 64 by omega)]
  | case4 a b c rest ih =>
      have ha := a.toNat_lt
      have hb := b.toNat_lt
      have hc := c.toNat_lt
      simp only [Utf8.size_cons, ih, List.length_cons,
        utf8_size_symbol (show a.toNat / 4 < 64 by omega),
        utf8_size_symbol (show a.toNat % 4 * 16 + b.toNat / 16 < 64 by omega),
        utf8_size_symbol (show b.toNat % 16 * 4 + c.toNat / 64 < 64 by omega),
        utf8_size_symbol (show c.toNat % 64 < 64 by omega)]
      omega

/-- Every character of the alphabet is that of its value. -/
theorem symbol_of_value {c : Char} {n : Nat} (h : value? c = some n) : symbol n = c ∧ n < 64 := by
  have hcode : Char.ofNat c.toNat = c := Char.ofNat_toNat c
  unfold value? at h
  split at h
  next hupper =>
    obtain rfl := Option.some.inj h
    unfold Char.isUpper at hupper
    obtain ⟨hlow, hhigh⟩ := of_decide_eq_true hupper
    have hge : 65 ≤ c.toNat := UInt32.le_iff_toNat_le.mp hlow
    have hle : c.toNat ≤ 90 := UInt32.le_iff_toNat_le.mp hhigh
    rw [symbol, if_pos (by omega), Nat.sub_add_cancel hge]
    exact ⟨hcode, by omega⟩
  next =>
    split at h
    next hlower =>
      obtain rfl := Option.some.inj h
      unfold Char.isLower at hlower
      obtain ⟨hlow, hhigh⟩ := Bool.and_eq_true_iff.mp hlower
      have hge : 97 ≤ c.toNat := UInt32.le_iff_toNat_le.mp (of_decide_eq_true hlow)
      have hle : c.toNat ≤ 122 := UInt32.le_iff_toNat_le.mp (of_decide_eq_true hhigh)
      rw [symbol, if_neg (by omega), if_pos (by omega), Nat.sub_add_cancel (by omega)]
      exact ⟨hcode, by omega⟩
    next =>
      split at h
      next hdigit =>
        obtain rfl := Option.some.inj h
        unfold Char.isDigit at hdigit
        obtain ⟨hlow, hhigh⟩ := Bool.and_eq_true_iff.mp hdigit
        have hge : 48 ≤ c.toNat := UInt32.le_iff_toNat_le.mp (of_decide_eq_true hlow)
        have hle : c.toNat ≤ 57 := UInt32.le_iff_toNat_le.mp (of_decide_eq_true hhigh)
        rw [symbol, if_neg (by omega), if_neg (by omega), if_pos (by omega), Nat.add_sub_cancel]
        exact ⟨hcode, by omega⟩
      next =>
        split at h
        next hplus =>
          obtain rfl := Option.some.inj h
          exact ⟨hplus.symm, by decide⟩
        next =>
          split at h
          next hslash =>
            obtain rfl := Option.some.inj h
            exact ⟨hslash.symm, by decide⟩
          next => cases h

theorem to_nat_of_nat {n : Nat} (h : n < 256) : (UInt8.ofNat n).toNat = n :=
  UInt8.toNat_ofNat_of_lt' h

/-- One byte is encoded in the characters that it was decoded from. -/
theorem encode_of_decode_one {a b : Char} {bytes : List UInt8}
    (h : decodeOne a b = some bytes) : encode bytes = [a, b, '=', '='] := by
  simp only [decodeOne, Option.bind_eq_bind, Option.bind_eq_some_iff] at h
  obtain ⟨first, ha, second, hb, h⟩ := h
  obtain ⟨rfl, hfirst⟩ := symbol_of_value ha
  obtain ⟨rfl, hsecond⟩ := symbol_of_value hb
  split at h
  next hzero =>
    obtain rfl := Option.some.inj h
    rw [encode, to_nat_of_nat (by omega)]
    have hlow : (first * 4 + second / 16) / 4 = first := by omega
    have hhigh : (first * 4 + second / 16) % 4 * 16 = second := by omega
    rw [hlow, hhigh]
  next => cases h

/-- Two bytes are encoded in the characters that they were decoded from. -/
theorem encode_of_decode_two {a b c : Char} {bytes : List UInt8}
    (h : decodeTwo a b c = some bytes) : encode bytes = [a, b, c, '='] := by
  simp only [decodeTwo, Option.bind_eq_bind, Option.bind_eq_some_iff] at h
  obtain ⟨first, ha, second, hb, third, hc, h⟩ := h
  obtain ⟨rfl, hfirst⟩ := symbol_of_value ha
  obtain ⟨rfl, hsecond⟩ := symbol_of_value hb
  obtain ⟨rfl, hthird⟩ := symbol_of_value hc
  split at h
  next hzero =>
    obtain rfl := Option.some.inj h
    rw [encode, to_nat_of_nat (by omega), to_nat_of_nat (by omega)]
    have h1 : (first * 4 + second / 16) / 4 = first := by omega
    have h2 : (first * 4 + second / 16) % 4 * 16 + (second % 16 * 16 + third / 4) / 16 =
        second := by
      omega
    have h3 : (second % 16 * 16 + third / 4) % 16 * 4 = third := by omega
    rw [h1, h2, h3]
  next => cases h

/-- Three bytes are encoded in the characters that they were decoded from, before the others. -/
theorem encode_of_decode_three {a b c d : Char} {bytes : List UInt8}
    (h : decodeThree a b c d = some bytes) (rest : List UInt8) :
    encode (bytes ++ rest) = a :: b :: c :: d :: encode rest := by
  simp only [decodeThree, Option.bind_eq_bind, Option.bind_eq_some_iff, Option.some.injEq] at h
  obtain ⟨first, ha, second, hb, third, hc, fourth, hd, rfl⟩ := h
  obtain ⟨rfl, hfirst⟩ := symbol_of_value ha
  obtain ⟨rfl, hsecond⟩ := symbol_of_value hb
  obtain ⟨rfl, hthird⟩ := symbol_of_value hc
  obtain ⟨rfl, hfourth⟩ := symbol_of_value hd
  have h1 : (first * 4 + second / 16) / 4 = first := by omega
  have h2 : (first * 4 + second / 16) % 4 * 16 + (second % 16 * 16 + third / 4) / 16 = second := by
    omega
  have h3 : (second % 16 * 16 + third / 4) % 16 * 4 + (third % 4 * 64 + fourth) / 64 = third := by
    omega
  have h4 : (third % 4 * 64 + fourth) % 64 = fourth := by omega
  rw [List.cons_append, List.cons_append, List.cons_append, List.nil_append, encode,
    to_nat_of_nat (by omega), to_nat_of_nat (by omega), to_nat_of_nat (by omega), h1, h2, h3, h4]

/-- Only the text of some bytes is decoded to them. -/
theorem encode_of_decode {text : List Char} {bytes : List UInt8} (h : decode text = some bytes) :
    encode bytes = text := by
  fun_induction decode text generalizing bytes with
  | case1 =>
      cases h
      rfl
  | case2 a b => exact encode_of_decode_one h
  | case3 a b c hc => exact encode_of_decode_two h
  | case4 a b c d hd =>
      have hencode := encode_of_decode_three h []
      rw [List.append_nil] at hencode
      exact hencode
  | case5 a b c d rest hrest ih =>
      obtain ⟨first, hfirst, h⟩ := Option.bind_eq_some_iff.mp h
      obtain ⟨others, hothers, h⟩ := Option.bind_eq_some_iff.mp h
      cases h
      rw [encode_of_decode_three hfirst, ih hothers]
  | case6 text h1 h2 h3 => cases h

end CorvidNano.Base64
