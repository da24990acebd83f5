import CorvidNano.Library.LittleEndian
import Mathlib.Data.List.Basic
import Mathlib.Data.List.TakeDrop

/-!
# Length-prefixed buffers in linear memory

A plugin returns data to the host as a pointer to `[4-byte LE len][data]` in its linear memory.
`prefixed` is what the plugin's `write_response` writes, and `readPrefixed` is the code that
`read_response` in `invoke.rs` and `extract_manifest` in `loader.rs` share.
-/

namespace CorvidNano.Host.LinearMemory

/-- What goes wrong when the host reads a buffer. Within 4 bytes of the end of the address range
the reading thread panics. -/
inductive ReadError where
  | pointerOutOfBounds
  | dataOutOfBounds (len : Nat)
  | panicked
  deriving DecidableEq

/-- `ptr as usize` for an `i32`, by sign extension to 64 bits. -/
def usizeOfI32 (ptr : BitVec 32) : Nat :=
  (ptr.signExtend 64).toNat

/-- Read the length-prefixed buffer at a pointer that the plugin returned. -/
def readPrefixed (memory : List UInt8) (ptr : BitVec 32) : Except ReadError (List UInt8) :=
  let offset := usizeOfI32 ptr
  -- The sum overflows. Without overflow checks it wraps below the size of any memory of at
  -- least one page, and the index into the memory panics instead.
  if 2 ^ 64 ≤ offset + 4 then .error .panicked
  else if memory.length < offset + 4 then .error .pointerOutOfBounds
  else
    let len := LittleEndian.decode ((memory.drop offset).take 4)
    if memory.length < offset + 4 + len then .error (.dataOutOfBounds len)
    else .ok ((memory.drop (offset + 4)).take len)

/-- The bytes that `write_response` writes: the length as a little-endian `u32`, then the
data. -/
def prefixed (data : List UInt8) : List UInt8 :=
  LittleEndian.encode 4 data.length ++ data

@[simp] theorem length_prefixed (data : List UInt8) :
    (prefixed data).length = 4 + data.length := by
  simp [prefixed]

/-- A pointer into the lower half of the address range is its own offset. -/
theorem usize_of_i32_of_nat {offset : Nat} (h : offset < 2 ^ 31) :
    usizeOfI32 (BitVec.ofNat 32 offset) = offset := by
  have hmod : offset % 2 ^ 32 = offset := Nat.mod_eq_of_lt (by omega)
  have hmsb : (BitVec.ofNat 32 offset).msb = false := by
    rw [BitVec.msb_eq_false_iff_two_mul_lt, BitVec.toNat_ofNat, hmod]
    omega
  unfold usizeOfI32
  rw [BitVec.signExtend_eq_setWidth_of_msb_false hmsb, BitVec.toNat_setWidth, BitVec.toNat_ofNat,
    hmod]
  exact Nat.mod_eq_of_lt (by omega)

/-- The length that a buffer starts with. -/
theorem decode_length_prefixed {data : List UInt8} (h : data.length < 256 ^ 4)
    (before after : List UInt8) :
    LittleEndian.decode (((before ++ prefixed data ++ after).drop before.length).take 4) =
      data.length := by
  have hinitial : ((before ++ prefixed data ++ after).drop before.length).take 4 =
      LittleEndian.encode 4 data.length := by
    simp [prefixed]
  rw [hinitial, LittleEndian.decode_encode_of_lt h]

/-- The data after the length. -/
theorem take_data_prefixed (before data after : List UInt8) :
    ((before ++ prefixed data ++ after).drop (before.length + 4)).take data.length = data := by
  simp [prefixed, ← List.drop_drop, List.drop_append]

/-- The host reads back the data that the plugin wrote, wherever in the lower 2 GiB the buffer
lies. -/
theorem read_prefixed_prefixed {before data after : List UInt8}
    (h : (before ++ prefixed data ++ after).length ≤ 2 ^ 31) :
    readPrefixed (before ++ prefixed data ++ after) (BitVec.ofNat 32 before.length) =
      .ok data := by
  simp only [List.length_append, length_prefixed] at h
  have hoffset := usize_of_i32_of_nat (show before.length < 2 ^ 31 by omega)
  have hlength : data.length < 256 ^ 4 := by omega
  unfold readPrefixed
  simp only [hoffset, decode_length_prefixed hlength, take_data_prefixed]
  rw [if_neg (by omega), if_neg, if_neg]
  · simp only [List.length_append, length_prefixed]
    omega
  · simp only [List.length_append, length_prefixed]
    omega

end CorvidNano.Host.LinearMemory
