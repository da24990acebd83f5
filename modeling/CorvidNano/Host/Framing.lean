import CorvidNano.Host.PointerSafety
import CorvidNano.Host.Sandbox

/-!
# Length-prefixed buffers across the plugin boundary

`[4-byte LE len][data]` is written by `write_to_wasm` and `write_response` on the host and by the
generated `write_response` in the plugin, and it is read by `read_response` on the host, by the
generated `read_bytes` behind the prefix, and by a plugin that gets the response of a host
function.

`framing_round_trip` is the main result: what one side writes into an allocation in memory is
what the other side reads, and nothing else changes. The memory is one that has grown under the
limits of a tier, so its addresses are non-negative as `i32`.
-/

namespace CorvidNano.Host.Framing

open Access LinearMemory PointerSafety Sdk WasmMem

/-- A linear memory that has grown under the limits of a tier. -/
structure TierMemory (tier : TrustTier) where
  bytes : List UInt8
  growth : List Nat
  grown : bytes.length = (growth.foldl MemorySize.grow (.start (.forTier tier))).size

/-- The limits of every tier are below 2 GiB. -/
theorem TierMemory.length_lt {tier : TrustTier} (memory : TierMemory tier) :
    memory.bytes.length < 2 ^ 31 := by
  rw [memory.grown]
  refine Nat.lt_of_le_of_lt (MemorySize.size_le _ _) ?_
  cases tier with
  | trusted | verified | untrusted => decide

/-- A call of `__corvid_alloc` that returned a buffer for data of a length. -/
structure Allocation (tier : TrustTier) (exports : Caller) (len : Nat) where
  alloc : BitVec 32 → Option (BitVec 32 × Option (List UInt8))
  ptr : BitVec 32
  memory : TierMemory tier
  exported : exports.alloc = some alloc
  returned : alloc (BitVec.ofNat 32 (4 + len)) = some (ptr, some memory.bytes)
  notNull : ptr ≠ 0
  inside : ptr.toNat + (4 + len) ≤ memory.bytes.length

/-- The byte at an address belongs to the allocation. -/
def Allocation.Contains {tier : TrustTier} {exports : Caller} {len : Nat}
    (allocation : Allocation tier exports len) (i : Nat) : Prop :=
  allocation.ptr.toNat ≤ i ∧ i < allocation.ptr.toNat + (4 + len)

/-- What `invoke_tool` passes to `__corvid_invoke`, and the memory at that time. -/
structure Arguments where
  toolPtr : BitVec 32
  toolLen : BitVec 32
  inputPtr : BitVec 32
  inputLen : BitVec 32
  memory : List UInt8

/-- The part of `invoke_tool` that writes the tool's name and the input. The plugin's exports at
the second call depend on the memory that the first one left. -/
def writeArguments (first : Caller) (second : List UInt8 → Caller) (toolName : String)
    (inputBytes : List UInt8) : Except Fault (Except String Arguments) := do
  match ← writeToWasm first (Utf8.bytes toolName) with
  | .error error => pure (.error error)
  | .ok (toolBuf, memory) =>
      match ← writeToWasm (second memory) inputBytes with
      | .error error => pure (.error error)
      | .ok (inputBuf, memory) =>
          pure (.ok {
            toolPtr := toolBuf + 4
            toolLen := BitVec.ofNat 32 (Utf8.bytes toolName).length
            inputPtr := inputBuf + 4
            inputLen := BitVec.ofNat 32 inputBytes.length
            memory })

/-- The generated `read_bytes`, with 32-bit addresses. A range outside of the memory is a
trap. -/
def pluginReadBytes (memory : List UInt8) (ptr len : BitVec 32) : Option (List UInt8) :=
  if ptr.toNat + len.toNat ≤ memory.length then some (range memory ptr.toNat len.toNat) else none

/-- The generated `write_response`, which calls the exported allocator itself. A copy out of the
memory is a trap, and so is a missing export here. -/
def pluginWriteResponse (exports : Caller) (data : List UInt8) :
    Option (BitVec 32 × List UInt8) :=
  match exports.alloc.bind fun alloc => alloc (BitVec.ofNat 32 (4 + data.length)) with
  | some (ptr, some memory) =>
      if ptr = 0 then some (0, memory)
      else if memory.length < ptr.toNat + (4 + data.length) then none
      else
        some (ptr, overwrite
          (overwrite memory ptr.toNat (LittleEndian.encode 4 data.length)) (ptr.toNat + 4) data)
  | _ => none

/-- A buffer with the data lies at an address: its length as four bytes, then itself. -/
def HoldsBuffer (memory : List UInt8) (address : Nat) (data : List UInt8) : Prop :=
  LittleEndian.decode (range memory address 4) = data.length ∧
    range memory (address + 4) data.length = data

theorem holds_buffer_overwrite {memory data : List UInt8} {address : Nat}
    (h : address + (4 + data.length) ≤ memory.length) (hlength : data.length < 256 ^ 4) :
    HoldsBuffer (overwrite memory address (prefixed data)) address data := by
  have hfits : address + (prefixed data).length ≤ memory.length := by
    rwa [length_prefixed]
  have hencoded : (LittleEndian.encode 4 data.length).length = 4 :=
    LittleEndian.length_encode 4 data.length
  constructor
  · have hheader := @range_overwrite_part _ memory (prefixed data) address 0 4 hfits
      (by rw [length_prefixed]; omega)
    rw [Nat.add_zero] at hheader
    rw [hheader, range, prefixed, List.drop_zero, List.take_left' hencoded]
    exact LittleEndian.decode_encode_of_lt hlength
  · rw [range_overwrite_part hfits (Nat.le_of_eq (length_prefixed data).symm), range, prefixed,
      List.drop_left' hencoded, List.take_length]

/-- A pointer into the lower half of the address range is its own size. -/
theorem usize_of_i32_of_lt {ptr : BitVec 32} (h : ptr.toNat < 2 ^ 31) :
    usizeOfI32 ptr = ptr.toNat ∧ 0 ≤ ptr.toInt := by
  have heq := usize_of_i32_eq ptr
  have hcond := BitVec.toInt_eq_toNat_cond ptr
  rw [if_pos (by omega)] at hcond
  rw [hcond, if_neg (by omega)] at heq
  omega

section Allocated

variable {tier : TrustTier} {exports : Caller} {data : List UInt8}

/-- The memory of an allocation once its buffer is written. -/
def Allocation.filled (allocation : Allocation tier exports data.length) : List UInt8 :=
  overwrite allocation.memory.bytes allocation.ptr.toNat (prefixed data)

variable (allocation : Allocation tier exports data.length)

include allocation

/-- Data for which there is an allocation is shorter than 2 GiB. -/
theorem Allocation.length_lt : allocation.ptr.toNat + (4 + data.length) < 2 ^ 31 :=
  Nat.lt_of_le_of_lt allocation.inside allocation.memory.length_lt

/-- The host writes the buffer into the allocation. -/
theorem Allocation.write_via :
    writeVia exports data = .ok (.ok (allocation.ptr, allocation.filled)) := by
  have hlt := allocation.length_lt
  have hinside := allocation.inside
  obtain ⟨husize, hpos⟩ := usize_of_i32_of_lt (show allocation.ptr.toNat < 2 ^ 31 by omega)
  unfold writeVia
  rw [add_of_lt (by omega), allocation.exported]
  simp only [bind, Except.bind]
  rw [allocation.returned]
  simp only
  rw [if_neg allocation.notNull, write_prefixed_of_clear (by omega) (Or.inl hpos), husize,
    if_neg (by omega)]
  rfl

theorem Allocation.holds_buffer : HoldsBuffer allocation.filled allocation.ptr.toNat data :=
  holds_buffer_overwrite allocation.inside (by have := allocation.length_lt; omega)

/-- Nothing outside of the allocation changes. -/
theorem Allocation.filled_outside {i : Nat} (hi : ¬ allocation.Contains i) :
    allocation.filled[i]? = allocation.memory.bytes[i]? := by
  have hfits : allocation.ptr.toNat + (prefixed data).length ≤ allocation.memory.bytes.length := by
    rw [length_prefixed]
    exact allocation.inside
  rw [filled, getElem_overwrite hfits, length_prefixed]
  exact if_neg hi

/-- The plugin reads the data at the pointer behind the prefix, in any memory that has the bytes
of the allocation. -/
theorem Allocation.plugin_read_bytes {memory : List UInt8}
    (hsame : ∀ i, allocation.Contains i → memory[i]? = allocation.filled[i]?) :
    pluginReadBytes memory (allocation.ptr + 4) (BitVec.ofNat 32 data.length) = some data := by
  have hlt := allocation.length_lt
  have hinside := allocation.inside
  have hptr : (allocation.ptr + 4).toNat = allocation.ptr.toNat + 4 := by
    rw [BitVec.toNat_add]
    exact Nat.mod_eq_of_lt (show allocation.ptr.toNat + 4 < 2 ^ 32 by omega)
  have hlen : (BitVec.ofNat 32 data.length).toNat = data.length := by
    rw [BitVec.toNat_ofNat]
    exact Nat.mod_eq_of_lt (by omega)
  have hlength : allocation.filled.length = allocation.memory.bytes.length :=
    length_overwrite (by rw [length_prefixed]; exact hinside)
  -- The last byte of the allocation is in the memory.
  have hlast := hsame (allocation.ptr.toNat + 4 + data.length - 1) ⟨by omega, by omega⟩
  rw [List.getElem?_eq_getElem (l := allocation.filled) (by omega)] at hlast
  have hbounds := (List.getElem?_eq_some_iff.1 hlast).1
  rw [pluginReadBytes, hptr, hlen, if_pos (by omega), range_congr fun i hlow hhigh =>
    hsame i ⟨by omega, by omega⟩]
  exact congrArg some allocation.holds_buffer.2

theorem Allocation.write_to_wasm :
    writeToWasm exports data = .ok (.ok (allocation.ptr, allocation.filled)) := by
  rw [writeToWasm, allocation.write_via]
  rfl

/-- A host function writes its response into the allocation. -/
theorem Allocation.write_response :
    WasmMem.writeResponse exports data = .written allocation.ptr allocation.filled := by
  have hlt := allocation.length_lt
  rw [write_response_eq_written (by omega), PointerSafety.writeResponse, allocation.write_via]
  rfl

/-- The generated code writes its response into the allocation. -/
theorem Allocation.plugin_write_response :
    pluginWriteResponse exports data = some (allocation.ptr, allocation.filled) := by
  have hinside := allocation.inside
  unfold pluginWriteResponse
  rw [allocation.exported, Option.bind_some, allocation.returned]
  simp only
  rw [if_neg allocation.notNull, if_neg (by omega), overwrite_prefixed hinside]
  rfl

/-- Writing does not change the size of the memory. -/
def Allocation.filledMemory : TierMemory tier where
  bytes := allocation.filled
  growth := allocation.memory.growth
  grown := by
    rw [← allocation.memory.grown]
    exact length_overwrite (by rw [length_prefixed]; exact allocation.inside)

end Allocated

section Arguments

variable {tier : TrustTier} {first : Caller} {second : List UInt8 → Caller} {toolName : String}
  {inputBytes : List UInt8}

/-- What reaches the plugin: `read_bytes` gives the tool's name and the input, and each write has
changed its own allocation only. -/
structure Delivered (one : Allocation tier first (Utf8.bytes toolName).length)
    (two : Allocation tier (second one.filled) inputBytes.length) (arguments : Arguments) :
    Prop where
  tool : pluginReadBytes arguments.memory arguments.toolPtr arguments.toolLen =
    some (Utf8.bytes toolName)
  input : pluginReadBytes arguments.memory arguments.inputPtr arguments.inputLen =
    some inputBytes
  toolFrame : ∀ i, ¬ one.Contains i → one.filled[i]? = one.memory.bytes[i]?
  inputFrame : ∀ i, ¬ two.Contains i → arguments.memory[i]? = two.memory.bytes[i]?

/-- The second write leaves the first buffer alone, and so does the allocator between them. -/
theorem arguments_delivered (one : Allocation tier first (Utf8.bytes toolName).length)
    (two : Allocation tier (second one.filled) inputBytes.length)
    (hdisjoint : ∀ i, one.Contains i → ¬ two.Contains i)
    (hkeeps : ∀ i, one.Contains i → two.memory.bytes[i]? = one.filled[i]?) :
    ∃ arguments, writeArguments first second toolName inputBytes = .ok (.ok arguments) ∧
      Delivered one two arguments := by
  refine ⟨{
    toolPtr := one.ptr + 4
    toolLen := BitVec.ofNat 32 (Utf8.bytes toolName).length
    inputPtr := two.ptr + 4
    inputLen := BitVec.ofNat 32 inputBytes.length
    memory := two.filled }, ?_, ?_, two.plugin_read_bytes fun _ _ => rfl,
    fun _ => one.filled_outside, fun _ => two.filled_outside⟩
  · unfold writeArguments
    rw [one.write_to_wasm]
    simp only [bind, Except.bind]
    rw [two.write_to_wasm]
    rfl
  · exact one.plugin_read_bytes fun i hi =>
      (two.filled_outside (hdisjoint i hi)).trans (hkeeps i hi)

end Arguments

section Responses

variable {tier : TrustTier} {exports : Caller} {data : List UInt8} {ptr : BitVec 32}

/-- A response of a host function lies at the pointer that the function returns. -/
theorem write_response_holds_buffer {memory : TierMemory tier}
    (hdata : data.length < 2 ^ 31 - 4)
    (h : WasmMem.writeResponse exports data = .written ptr memory.bytes) :
    HoldsBuffer memory.bytes ptr.toNat data := by
  have hwritten := (write_response_eq_written (by omega)).1 h
  by_cases hclear : AllocationClear exports data
  · obtain ⟨result, hresult, hall⟩ := write_via_of_clear (by omega) hclear
    rw [PointerSafety.writeResponse, hresult] at hwritten
    cases result with
    | error error => cases hwritten
    | ok pair =>
        cases hwritten
        obtain ⟨alloc, before, -, -, hfits, hmemory⟩ := hall ptr memory.bytes rfl
        have hlength : memory.bytes.length = before.length := by
          rw [hmemory]
          exact length_overwrite (by rw [length_prefixed]; exact hfits)
        have hlt := memory.length_lt
        have hsize : usizeOfI32 ptr = ptr.toNat := by
          have heq := usize_of_i32_eq ptr
          have hcond := BitVec.toInt_eq_toNat_cond ptr
          have hptr := ptr.isLt
          split at heq <;> split at hcond <;> omega
        rw [hsize] at hfits hmemory
        rw [hmemory]
        exact holds_buffer_overwrite hfits (by omega)
  · rw [PointerSafety.writeResponse, write_via_of_not_clear (by omega) hclear] at hwritten
    cases hwritten

/-- The host reads a response that the plugin has laid out. -/
theorem plugin_write_response_read {memory : TierMemory tier} (hdata : data.length < 2 ^ 31 - 4)
    (hnull : ptr ≠ 0) (h : pluginWriteResponse exports data = some (ptr, memory.bytes)) :
    readResponse memory.bytes ptr = .ok (.ok data) := by
  unfold pluginWriteResponse at h
  split at h
  · rename_i other before hcall
    split at h
    · cases h
      exact absurd rfl hnull
    · split at h
      · cases h
      · rename_i hbounds
        obtain ⟨rfl, hmemory⟩ := Prod.mk.inj (Option.some.inj h)
        rw [overwrite_prefixed (Nat.le_of_not_lt hbounds)] at hmemory
        have hlength : memory.bytes.length = before.length := by
          rw [← hmemory]
          exact length_overwrite (by rw [length_prefixed]; omega)
        have hlt := memory.length_lt
        obtain ⟨husize, hpos⟩ := usize_of_i32_of_lt (show other.toNat < 2 ^ 31 by omega)
        have hholds : HoldsBuffer memory.bytes other.toNat data :=
          hmemory ▸ holds_buffer_overwrite (Nat.le_of_not_lt hbounds) (by omega)
        unfold readResponse
        rw [read_prefixed_of_clear (by omega) (Or.inl hpos), husize, if_neg (by omega)]
        dsimp only
        rw [hholds.1, hholds.2, if_neg (by omega)]
  · cases h

end Responses

/-- The three encoders and the three decoders of the layout agree: the arguments of
`__corvid_invoke`, the responses of host functions, and the responses of plugins. -/
theorem framing_round_trip (tier : TrustTier) :
    (∀ (first : Caller) (second : List UInt8 → Caller) (toolName : String)
      (inputBytes : List UInt8) (one : Allocation tier first (Utf8.bytes toolName).length)
      (two : Allocation tier (second one.filled) inputBytes.length),
      (∀ i, one.Contains i → ¬ two.Contains i) →
      (∀ i, one.Contains i → two.memory.bytes[i]? = one.filled[i]?) →
      ∃ arguments, writeArguments first second toolName inputBytes = .ok (.ok arguments) ∧
        Delivered one two arguments) ∧
    (∀ (exports : Caller) (data : List UInt8) (ptr : BitVec 32) (memory : TierMemory tier),
      data.length < 2 ^ 31 - 4 → WasmMem.writeResponse exports data = .written ptr memory.bytes →
      HoldsBuffer memory.bytes ptr.toNat data) ∧
    (∀ (exports : Caller) (data : List UInt8) (ptr : BitVec 32) (memory : TierMemory tier),
      data.length < 2 ^ 31 - 4 → ptr ≠ 0 →
      pluginWriteResponse exports data = some (ptr, memory.bytes) →
      readResponse memory.bytes ptr = .ok (.ok data)) :=
  ⟨fun _ _ _ _ one two hdisjoint hkeeps => arguments_delivered one two hdisjoint hkeeps,
    fun _ _ _ _ hdata h => write_response_holds_buffer hdata h,
    fun _ _ _ _ hdata hnull h => plugin_write_response_read hdata hnull h⟩

/-- A memory of one page. -/
def onePage : TierMemory .untrusted where
  bytes := page
  growth := [65536]
  grown := length_page

/-- A buffer at the address 16, in a fresh memory of one page. -/
def bufferAt16 {len : Nat} (h : len ≤ 12) : Allocation .untrusted (allocatesAt 16) len where
  alloc := _
  ptr := 16
  memory := onePage
  exported := rfl
  returned := rfl
  notNull := by decide
  inside := by
    rw [onePage, length_page]
    show 16 + (4 + len) ≤ 65536
    omega

/-- A plugin whose allocator returns the address 32 and leaves the memory as it is. -/
def allocatesNext (memory : List UInt8) : Caller where
  memory := some memory
  alloc := some fun _ => some (32, some memory)

/-- A buffer at the address 32, after one at 16 has been written. -/
def bufferAt32 {data : List UInt8} (h : data.length ≤ 12) {len : Nat} (hlen : len ≤ 12) :
    Allocation .untrusted (allocatesNext (bufferAt16 h).filled) len where
  alloc := _
  ptr := 32
  memory := (bufferAt16 h).filledMemory
  exported := rfl
  returned := rfl
  notNull := by decide
  inside := by
    rw [(bufferAt16 h).filledMemory.grown]
    show 32 + (4 + len) ≤ 65536
    omega

/-- A tool's name, its input and two responses on their way. -/
theorem echo_round_trip :
    (∃ arguments,
      writeArguments (allocatesAt 16) allocatesNext "echo" [1, 2] = .ok (.ok arguments) ∧
        pluginReadBytes arguments.memory arguments.toolPtr arguments.toolLen =
          some (Utf8.bytes "echo") ∧
        pluginReadBytes arguments.memory arguments.inputPtr arguments.inputLen = some [1, 2]) ∧
      (∃ memory, WasmMem.writeResponse (allocatesAt 16) [3, 4] = .written 16 memory ∧
        HoldsBuffer memory 16 [3, 4]) ∧
      ∃ memory, pluginWriteResponse (allocatesAt 16) [5, 6] = some (16, memory) ∧
        readResponse memory 16 = .ok (.ok [5, 6]) := by
  have hecho : (Utf8.bytes "echo").length ≤ 12 := by decide
  have htrips := framing_round_trip .untrusted
  refine ⟨?_, ?_, ?_⟩
  · let one := bufferAt16 hecho
    let two := @bufferAt32 _ hecho [1, 2].length (by decide)
    have hdisjoint : ∀ i, one.Contains i → ¬ two.Contains i := by
      intro i hone htwo
      have hhigh : i < 16 + (4 + (Utf8.bytes "echo").length) := hone.2
      have hlow : 32 ≤ i := htwo.1
      omega
    obtain ⟨arguments, hwritten, hdelivered⟩ :=
      htrips.1 _ allocatesNext "echo" [1, 2] one two hdisjoint fun _ _ => rfl
    exact ⟨arguments, hwritten, hdelivered.tool, hdelivered.input⟩
  · have hwritten := (@bufferAt16 [3, 4].length (by decide)).write_response
    exact ⟨_, hwritten, htrips.2.1 _ _ _ (bufferAt16 (by decide)).filledMemory (by decide)
      hwritten⟩
  · have hwritten := (@bufferAt16 [5, 6].length (by decide)).plugin_write_response
    exact ⟨_, hwritten, htrips.2.2 _ _ _ (bufferAt16 (by decide)).filledMemory (by decide)
      (by decide) hwritten⟩

end CorvidNano.Host.Framing
