import Mathlib.Algebra.Group.Nat.Defs
import Mathlib.Data.Nat.Init

/-!
# Little-endian numbers

Numbers of a fixed number of bytes, the least significant byte first.
-/

namespace CorvidNano.LittleEndian

/-- The `width` low bytes of a number, the lowest first. -/
def encode : Nat → Nat → List UInt8
  | 0, _ => []
  | width + 1, value => UInt8.ofNat value :: encode width (value / 256)

/-- The number that the bytes spell, the lowest byte first. -/
def decode : List UInt8 → Nat
  | [] => 0
  | byte :: rest => byte.toNat + 256 * decode rest

@[simp] theorem length_encode (width value : Nat) : (encode width value).length = width := by
  induction width generalizing value with
  | zero => rfl
  | succ width ih => simp [encode, ih]

/-- Decoding an encoded number gives its remainder modulo the range of the width. -/
theorem decode_encode (width value : Nat) :
    decode (encode width value) = value % 256 ^ width := by
  induction width generalizing value with
  | zero => simp [encode, decode, Nat.mod_one]
  | succ width ih =>
      show (UInt8.ofNat value).toNat + 256 * decode (encode width (value / 256)) = _
      rw [ih, Nat.pow_succ, Nat.mul_comm (256 ^ width), Nat.mod_mul, UInt8.toNat_ofNat']

/-- Bytes spell a number below the range of their width. -/
theorem decode_lt (bytes : List UInt8) : decode bytes < 256 ^ bytes.length := by
  induction bytes with
  | nil => exact Nat.one_pos
  | cons byte rest ih =>
      have hbyte := byte.toNat_lt
      rw [decode, List.length_cons, Nat.pow_succ]
      omega

/-- A bit of the number is a bit of one of the bytes. -/
theorem test_bit_decode (bytes : List UInt8) (i : Nat) :
    (decode bytes).testBit i = (bytes[i / 8]?).any fun byte => byte.toNat.testBit (i % 8) := by
  induction bytes generalizing i with
  | nil => simp [decode]
  | cons byte rest ih =>
      have hsum : decode (byte :: rest) = 2 ^ 8 * decode rest + byte.toNat := by
        rw [decode]
        omega
      rw [hsum, Nat.testBit_two_pow_mul_add _ byte.toNat_lt]
      split
      · rename_i hlow
        rw [Nat.div_eq_of_lt hlow, Nat.mod_eq_of_lt hlow]
        rfl
      · rename_i hhigh
        have hdiv : i / 8 = (i - 8) / 8 + 1 := by omega
        have hmod : i % 8 = (i - 8) % 8 := by omega
        rw [ih, hdiv, hmod, List.getElem?_cons_succ]

/-- Decoding gives back a number that fits the width. -/
theorem decode_encode_of_lt {width value : Nat} (h : value < 256 ^ width) :
    decode (encode width value) = value := by
  rw [decode_encode, Nat.mod_eq_of_lt h]

end CorvidNano.LittleEndian
