import CorvidNano.Host.LinearMemory
import CorvidNano.Library.Utf8

/-!
# Linear memory of a running plugin

`wasm_mem.rs`: how a host function reads its arguments from the memory of the plugin that called
it, and how it writes a response into a buffer that the plugin allocates.
-/

namespace CorvidNano.Host.WasmMem

open LinearMemory

/-- The exports of the calling plugin that host functions use: its memory, and `__corvid_alloc`,
with what a call for a size returns and the memory after it. A call that traps is `none`. -/
structure Caller where
  memory : Option (List UInt8)
  alloc : Option (BitVec 32 → Option (BitVec 32 × Option (List UInt8)))

/-- `read_bytes`. -/
def readBytes (caller : Caller) (ptr len : BitVec 32) : Option (List UInt8) :=
  match caller.memory with
  | none => none
  | some data =>
      let start := usizeOfI32 ptr
      let stop := start + usizeOfI32 len
      if 2 ^ 64 ≤ stop then none
      else if data.length < stop then none
      else some ((data.drop start).take (usizeOfI32 len))

/-- What is read is part of the memory. -/
theorem length_le_of_read_bytes {caller : Caller} {memory bytes : List UInt8} {ptr len : BitVec 32}
    (hmemory : caller.memory = some memory) (h : readBytes caller ptr len = some bytes) :
    bytes.length ≤ memory.length := by
  unfold readBytes at h
  rw [hmemory] at h
  dsimp only at h
  split at h
  · cases h
  · split at h
    · cases h
    · obtain rfl := Option.some.inj h
      rw [List.length_take, List.length_drop]
      omega

/-- `read_str`. -/
def readStr (caller : Caller) (ptr len : BitVec 32) : Option String :=
  (readBytes caller ptr len).bind fun bytes => String.fromUTF8? ⟨bytes.toArray⟩

/-- What comes of a host function that writes a response: the null pointer, a pointer and the
memory with the response in it, or a panic of the calling thread. -/
inductive Response where
  | null
  | written (ptr : BitVec 32) (memory : List UInt8)
  | panicked

/-- `write_response`. -/
def writeResponse (caller : Caller) (data : List UInt8) : Response :=
  let totalLen := 4 + data.length
  match caller.alloc with
  | none => .null
  | some alloc =>
      match alloc (BitVec.ofNat 32 totalLen) with
      | none => .null
      | some (ptr, memory) =>
          if ptr = 0 then .null
          else
            match memory with
            | none => .null
            | some memory =>
                let start := usizeOfI32 ptr
                if memory.length < (start + totalLen) % 2 ^ 64 then .null
                -- The sum has wrapped, and the slice from `start` on is out of bounds.
                else if 2 ^ 64 ≤ start + totalLen then .panicked
                else
                  .written ptr
                    (memory.take start ++ prefixed data ++ memory.drop (start + totalLen))

end CorvidNano.Host.WasmMem
