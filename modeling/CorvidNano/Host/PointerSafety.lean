import CorvidNano.Host.Response
import CorvidNano.Host.WasmMem
import CorvidNano.Library.Access
import Mathlib.Algebra.Group.Int.Defs

/-!
# The pointers that a plugin hands to the host

`extract_manifest`, `write_to_wasm`, `read_response` and the helpers of `wasm_mem.rs` once more,
with every sum of sizes and every access to a slice as a step that can fault. A pointer is
extended with its sign, so a negative one becomes a size just below 2^64, and the checks against
the length of the memory add to it first.

`pointers_safe_iff` is the main result: there is no fault exactly if the bytes that the host
accesses from a negative pointer on end below the address 0. `read_prefixed_eq` and
`write_response_eq` say what the faults become in `LinearMemory` and `WasmMem`.
-/

namespace CorvidNano.Host.PointerSafety

open Access LinearMemory WasmMem

/-- The code that `read_response` and `extract_manifest` share, up to their errors. -/
def readPrefixed {ε : Type} (pointerError : ε) (dataError : Nat → ε) (memory : List UInt8)
    (ptr : BitVec 32) : Except Fault (Except ε (List UInt8)) := do
  let offset := usizeOfI32 ptr
  let header ← add offset 4
  if memory.length < header then pure (.error pointerError)
  else do
    let b0 ← index memory offset
    let b1 ← index memory (← add offset 1)
    let b2 ← index memory (← add offset 2)
    let b3 ← index memory (← add offset 3)
    let len := LittleEndian.decode [b0, b1, b2, b3]
    let stop ← add (← add offset 4) len
    if memory.length < stop then pure (.error (dataError len))
    else do
      let data ← slice memory (← add offset 4) stop
      pure (.ok data)

/-- `read_response`. -/
def readResponse (memory : List UInt8) (ptr : BitVec 32) :
    Except Fault (Except String (List UInt8)) :=
  readPrefixed "result pointer out of bounds"
    (fun len => "result data out of bounds (len=" ++ toString len ++ ")") memory ptr

/-- `extract_manifest`, up to the bytes that it decodes. -/
def extractManifest (memory : List UInt8) (ptr : BitVec 32) :
    Except Fault (Except String (List UInt8)) :=
  readPrefixed "manifest pointer out of bounds" (fun _ => "manifest data out of bounds") memory ptr

/-- `wasm_mem::read_bytes` on the exported memory. -/
def readBytes (memory : List UInt8) (ptr len : BitVec 32) :
    Except Fault (Option (List UInt8)) := do
  let start := usizeOfI32 ptr
  -- `checked_add` gives `None` where the sum does not fit.
  if 2 ^ 64 ≤ start + usizeOfI32 len then pure none
  else if memory.length < start + usizeOfI32 len then pure none
  else do
    let data ← slice memory start (start + usizeOfI32 len)
    pure (some data)

/-- Why a buffer is not written. -/
inductive WriteError where
  | missingAlloc
  | allocFailed
  | null
  | noMemory
  | outOfBounds
  deriving DecidableEq

/-- The errors of `write_to_wasm`. -/
def WriteError.text : WriteError → String
  | .missingAlloc => "missing export: __corvid_alloc"
  | .allocFailed => "__corvid_alloc call failed"
  | .null => "__corvid_alloc returned null"
  | .noMemory => "no memory export"
  | .outOfBounds => "allocated pointer out of bounds"

/-- The bounds check and the two copies at the end of `write_to_wasm` and `write_response`. -/
def writePrefixed (memory : List UInt8) (ptr : BitVec 32) (totalLen : Nat) (data : List UInt8) :
    Except Fault (Option (List UInt8)) := do
  let start := usizeOfI32 ptr
  let stop ← add start totalLen
  if memory.length < stop then pure none
  else do
    let memory ← copyFromSlice memory start (← add start 4) (LittleEndian.encode 4 data.length)
    let memory ← copyFromSlice memory (← add start 4) (← add start totalLen) data
    pure (some memory)

/-- The code that `write_to_wasm` and `write_response` share, up to their errors. -/
def writeVia (exports : Caller) (data : List UInt8) :
    Except Fault (Except WriteError (BitVec 32 × List UInt8)) := do
  let totalLen ← add 4 data.length
  match exports.alloc with
  | none => pure (.error .missingAlloc)
  | some alloc =>
      match alloc (BitVec.ofNat 32 totalLen) with
      | none => pure (.error .allocFailed)
      | some (ptr, memory) =>
          if ptr = 0 then pure (.error .null)
          else
            match memory with
            | none => pure (.error .noMemory)
            | some memory => do
                let written ← writePrefixed memory ptr totalLen data
                pure (match written with
                  | none => .error .outOfBounds
                  | some memory => .ok (ptr, memory))

/-- `write_to_wasm`: the pointer, and the memory after it. -/
def writeToWasm (exports : Caller) (data : List UInt8) :
    Except Fault (Except String (BitVec 32 × List UInt8)) := do
  let written ← writeVia exports data
  pure (written.mapError WriteError.text)

/-- `wasm_mem::write_response`, which returns the null pointer for every error. -/
def writeResponse (exports : Caller) (data : List UInt8) :
    Except Fault (Option (BitVec 32 × List UInt8)) := do
  let written ← writeVia exports data
  pure written.toOption

/-! ## Pointers as sizes -/

/-- A negative pointer is extended to a size below 2^64, any other one is its own size. -/
theorem usize_of_i32_eq (ptr : BitVec 32) :
    (usizeOfI32 ptr : Int) = if ptr.toInt < 0 then 2 ^ 64 + ptr.toInt else ptr.toInt := by
  have hext : (ptr.signExtend 64).toInt = ptr.toInt :=
    BitVec.toInt_signExtend_of_le (by omega)
  have hcond := BitVec.toInt_eq_toNat_cond (ptr.signExtend 64)
  have hlt := (ptr.signExtend 64).isLt
  rw [hext] at hcond
  unfold usizeOfI32
  split at hcond <;> split <;> omega

/-- The bytes from a pointer on do not reach the top of the address range. -/
def Clear (ptr : BitVec 32) (len : Nat) : Prop :=
  0 ≤ ptr.toInt ∨ ptr.toInt + len < 0

/-- `Clear` compares integers. -/
instance (ptr : BitVec 32) (len : Nat) : Decidable (Clear ptr len) :=
  inferInstanceAs (Decidable (_ ∨ _))

theorem add_lt_iff_clear {ptr : BitVec 32} {len : Nat} (h : len < 2 ^ 63 + 4) :
    usizeOfI32 ptr + len < 2 ^ 64 ↔ Clear ptr len := by
  have heq := usize_of_i32_eq ptr
  have hlt := BitVec.toInt_lt (x := ptr)
  unfold Clear
  split at heq <;> omega

/-! ## What the functions do -/

section Read

variable {ε : Type} {pointerError : ε} {dataError : Nat → ε} {memory : List UInt8}
  {ptr : BitVec 32}

/-- The four bytes of the length are a range of the memory. -/
theorem range_four {offset : Nat} (h : offset + 4 ≤ memory.length) :
    range memory offset 4 =
      [memory[offset], memory[offset + 1], memory[offset + 2], memory[offset + 3]] := by
  rw [range, List.drop_eq_getElem_cons, List.drop_eq_getElem_cons, List.drop_eq_getElem_cons,
    List.drop_eq_getElem_cons]
  rfl

theorem read_prefixed_of_not_clear (h : ¬ Clear ptr 4) :
    readPrefixed pointerError dataError memory ptr = .error .overflow := by
  have hsum := mt (@add_lt_iff_clear ptr 4 (by omega)).1 h
  unfold readPrefixed
  dsimp only
  rw [add_of_ge (by omega)]
  rfl

/-- The sums fit, and the accesses are in range by the checks before them. -/
theorem read_prefixed_of_clear (hmemory : memory.length ≤ 2 ^ 32) (h : Clear ptr 4) :
    readPrefixed pointerError dataError memory ptr =
      .ok (if memory.length < usizeOfI32 ptr + 4 then .error pointerError
        else
          let len := LittleEndian.decode (range memory (usizeOfI32 ptr) 4)
          if memory.length < usizeOfI32 ptr + 4 + len then .error (dataError len)
          else .ok (range memory (usizeOfI32 ptr + 4) len)) := by
  have hsum := (add_lt_iff_clear (by omega)).2 h
  unfold readPrefixed
  dsimp only
  rw [add_of_lt hsum]
  show (if memory.length < usizeOfI32 ptr + 4 then _ else _) = _
  by_cases hheader : memory.length < usizeOfI32 ptr + 4
  · rw [if_pos hheader, if_pos hheader]
    rfl
  · have hlen := LittleEndian.decode_lt (range memory (usizeOfI32 ptr) 4)
    rw [length_range (by omega)] at hlen
    rw [if_neg hheader, if_neg hheader, index_of_lt (by omega), add_of_lt (by omega),
      add_of_lt (by omega), add_of_lt (by omega)]
    simp only [bind, Except.bind]
    rw [index_of_lt (by omega), index_of_lt (by omega), index_of_lt (by omega)]
    simp only [← range_four (show usizeOfI32 ptr + 4 ≤ memory.length by omega)]
    rw [add_of_lt (by omega)]
    by_cases hdata : memory.length < usizeOfI32 ptr + 4 +
        LittleEndian.decode (range memory (usizeOfI32 ptr) 4)
    · simp only [if_pos hdata]
      rfl
    · simp only [if_neg hdata]
      rw [slice_of_le (by omega)]
      rfl

end Read

section Write

variable {exports : Caller} {memory data : List UInt8} {ptr : BitVec 32}

theorem write_prefixed_of_not_clear (hdata : data.length < 2 ^ 63)
    (h : ¬ Clear ptr (4 + data.length)) :
    writePrefixed memory ptr (4 + data.length) data = .error .overflow := by
  have hsum := mt (@add_lt_iff_clear ptr (4 + data.length) (by omega)).1 h
  unfold writePrefixed
  dsimp only
  rw [add_of_ge (by omega)]
  rfl

/-- The prefix and then the data behind it are one buffer. -/
theorem overwrite_prefixed {start : Nat} (h : start + (4 + data.length) ≤ memory.length) :
    overwrite (overwrite memory start (LittleEndian.encode 4 data.length)) (start + 4) data =
      overwrite memory start (prefixed data) := by
  have hencoded : (LittleEndian.encode 4 data.length).length = 4 :=
    LittleEndian.length_encode 4 data.length
  have hboth := @overwrite_overwrite _ memory (LittleEndian.encode 4 data.length) data start
    (by omega)
  rwa [hencoded] at hboth

/-- The two copies write the buffer, if it fits the memory. -/
theorem write_prefixed_of_clear (hdata : data.length < 2 ^ 63)
    (h : Clear ptr (4 + data.length)) :
    writePrefixed memory ptr (4 + data.length) data =
      .ok (if memory.length < usizeOfI32 ptr + (4 + data.length) then none
        else some (overwrite memory (usizeOfI32 ptr) (prefixed data))) := by
  have hsum := (add_lt_iff_clear (by omega)).2 h
  unfold writePrefixed
  dsimp only
  rw [add_of_lt hsum]
  show (if memory.length < usizeOfI32 ptr + (4 + data.length) then _ else _) = _
  by_cases hbounds : memory.length < usizeOfI32 ptr + (4 + data.length)
  · rw [if_pos hbounds, if_pos hbounds]
    rfl
  · have hencoded : (LittleEndian.encode 4 data.length).length = 4 :=
      LittleEndian.length_encode 4 data.length
    have hfirst := @copy_from_slice_of_le _ memory (LittleEndian.encode 4 data.length)
      (usizeOfI32 ptr) (by omega)
    have hlength := @length_overwrite _ memory (LittleEndian.encode 4 data.length)
      (usizeOfI32 ptr) (by omega)
    have hsecond := @copy_from_slice_of_le _
      (overwrite memory (usizeOfI32 ptr) (LittleEndian.encode 4 data.length)) data
      (usizeOfI32 ptr + 4) (by omega)
    rw [hencoded] at hfirst
    rw [if_neg hbounds, if_neg hbounds, add_of_lt (by omega)]
    simp only [bind, Except.bind]
    rw [hfirst]
    simp only
    rw [Nat.add_assoc] at hsecond
    rw [hsecond, overwrite_prefixed (by omega)]
    rfl

/-- The range that the host writes for the data from the allocated pointer on does not reach the
top of the address range. -/
def AllocationClear (exports : Caller) (data : List UInt8) : Prop :=
  ∀ alloc ∈ exports.alloc, ∀ returned ∈ alloc (BitVec.ofNat 32 (4 + data.length)),
    returned.1 ≠ 0 → returned.2.isSome → Clear returned.1 (4 + data.length)

/-- The buffer is written into a range that lies inside of the memory. -/
def Written (exports : Caller) (data : List UInt8) (ptr : BitVec 32) (memory' : List UInt8) :
    Prop :=
  ∃ alloc memory, exports.alloc = some alloc ∧
    alloc (BitVec.ofNat 32 (4 + data.length)) = some (ptr, some memory) ∧
    usizeOfI32 ptr + (4 + data.length) ≤ memory.length ∧
    memory' = overwrite memory (usizeOfI32 ptr) (prefixed data)

/-- What comes of a write whose allocation is in reach: an error, or a buffer inside of the
memory. -/
theorem write_via_of_clear (hdata : data.length < 2 ^ 63) (h : AllocationClear exports data) :
    ∃ result, writeVia exports data = .ok result ∧
      ∀ ptr memory', result = .ok (ptr, memory') → Written exports data ptr memory' := by
  unfold writeVia
  rw [add_of_lt (by omega)]
  simp only [bind, Except.bind]
  cases halloc : exports.alloc with
  | none => exact ⟨_, rfl, fun _ _ hok => by (cases hok)⟩
  | some alloc =>
      simp only
      cases hcall : alloc (BitVec.ofNat 32 (4 + data.length)) with
      | none => exact ⟨_, rfl, fun _ _ hok => by (cases hok)⟩
      | some returned =>
          obtain ⟨ptr, memory⟩ := returned
          simp only
          by_cases hnull : ptr = 0
          · rw [if_pos hnull]
            exact ⟨_, rfl, fun _ _ hok => by (cases hok)⟩
          · rw [if_neg hnull]
            cases memory with
            | none => exact ⟨_, rfl, fun _ _ hok => by (cases hok)⟩
            | some memory =>
                simp only
                rw [write_prefixed_of_clear hdata (h alloc halloc _ hcall hnull rfl)]
                refine ⟨_, rfl, fun other memory' hok => ?_⟩
                by_cases hbounds : memory.length < usizeOfI32 ptr + (4 + data.length)
                · rw [if_pos hbounds] at hok
                  cases hok
                · rw [if_neg hbounds] at hok
                  cases hok
                  exact ⟨alloc, memory, halloc, hcall, Nat.le_of_not_lt hbounds, rfl⟩

theorem write_via_of_not_clear (hdata : data.length < 2 ^ 63)
    (h : ¬ AllocationClear exports data) : writeVia exports data = .error .overflow := by
  unfold AllocationClear at h
  push Not at h
  obtain ⟨alloc, halloc, ⟨ptr, memory⟩, hcall, hnull, hmemory, hclear⟩ := h
  obtain ⟨memory, rfl⟩ := Option.isSome_iff_exists.1 hmemory
  unfold writeVia
  rw [add_of_lt (by omega), Option.mem_def.1 halloc]
  simp only [bind, Except.bind]
  rw [Option.mem_def.1 hcall]
  simp only
  rw [if_neg hnull, write_prefixed_of_not_clear hdata hclear]

end Write

/-- A read faults nowhere, and reads a range that lies inside of the memory or nothing. -/
def ReadSafe (memory : List UInt8) (outcome : Except Fault (Option (List UInt8))) : Prop :=
  ∃ result, outcome = .ok result ∧ ∀ bytes ∈ result,
    ∃ start, start + bytes.length ≤ memory.length ∧ range memory start bytes.length = bytes

/-- A write faults nowhere, and writes a range that lies inside of the memory or nothing. -/
def WriteSafe (exports : Caller) (data : List UInt8)
    (outcome : Except Fault (Option (BitVec 32 × List UInt8))) : Prop :=
  ∃ result, outcome = .ok result ∧ ∀ written ∈ result, Written exports data written.1 written.2

/-- The host is safe from the pointers of a plugin: the one that it returned or passed, with a
length, and the one that its allocator returned for the data of the host. -/
structure PointersSafe (memory : List UInt8) (ptr len : BitVec 32) (exports : Caller)
    (data : List UInt8) : Prop where
  extractManifest : ReadSafe memory ((extractManifest memory ptr).map Except.toOption)
  readResponse : ReadSafe memory ((readResponse memory ptr).map Except.toOption)
  readBytes : ReadSafe memory (readBytes memory ptr len)
  writeToWasm : WriteSafe exports data ((writeToWasm exports data).map Except.toOption)
  writeResponse : WriteSafe exports data (writeResponse exports data)

section Safe

variable {memory : List UInt8} {ptr len : BitVec 32} {exports : Caller} {data : List UInt8}

theorem read_prefixed_safe_iff {ε : Type} {pointerError : ε} {dataError : Nat → ε}
    (hmemory : memory.length ≤ 2 ^ 32) :
    ReadSafe memory
      ((readPrefixed pointerError dataError memory ptr).map Except.toOption) ↔ Clear ptr 4 := by
  by_cases h : Clear ptr 4
  · refine iff_of_true ⟨_, congrArg _ (read_prefixed_of_clear hmemory h), fun bytes hbytes => ?_⟩ h
    dsimp only at hbytes
    split at hbytes
    · cases hbytes
    · split at hbytes
      · cases hbytes
      · cases hbytes
        rename_i hdata
        have hlength := length_range (Nat.le_of_not_lt hdata)
        exact ⟨usizeOfI32 ptr + 4, by rw [hlength]; exact Nat.le_of_not_lt hdata, by rw [hlength]⟩
  · refine iff_of_false (fun ⟨result, hok, _⟩ => ?_) h
    rw [read_prefixed_of_not_clear h] at hok
    cases hok

theorem read_bytes_safe : ReadSafe memory (readBytes memory ptr len) := by
  unfold readBytes
  dsimp only
  split
  · exact ⟨none, rfl, fun bytes hbytes => by (cases hbytes)⟩
  · split
    · exact ⟨none, rfl, fun bytes hbytes => by (cases hbytes)⟩
    · rename_i hbounds
      have hlength := length_range (Nat.le_of_not_lt hbounds)
      rw [slice_of_le (Nat.le_of_not_lt hbounds)]
      refine ⟨_, rfl, fun bytes hbytes => ?_⟩
      cases hbytes
      exact ⟨usizeOfI32 ptr, by rw [hlength]; exact Nat.le_of_not_lt hbounds, by rw [hlength]⟩

theorem write_response_safe_iff (hdata : data.length < 2 ^ 63) :
    WriteSafe exports data (writeResponse exports data) ↔ AllocationClear exports data := by
  unfold writeResponse
  by_cases h : AllocationClear exports data
  · obtain ⟨result, hresult, hwritten⟩ := write_via_of_clear hdata h
    rw [hresult]
    refine iff_of_true ⟨_, rfl, fun written hmem => ?_⟩ h
    cases result with
    | error error => cases hmem
    | ok pair =>
        cases hmem
        exact hwritten written.1 written.2 rfl
  · rw [write_via_of_not_clear hdata h]
    exact iff_of_false (fun ⟨result, hok, _⟩ => by (cases hok)) h

/-- `write_to_wasm` and `write_response` differ in the errors only. -/
theorem write_to_wasm_to_option :
    (writeToWasm exports data).map Except.toOption = writeResponse exports data := by
  unfold writeToWasm writeResponse
  cases writeVia exports data with
  | error fault => rfl
  | ok result => cases result <;> rfl

/-- No pointer leads to a fault exactly if the bytes that the host reads or writes from it on do
not reach the top of the address range. A 32-bit memory has at most `2 ^ 32` bytes, and a slice
has less than `2 ^ 63`. -/
theorem pointers_safe_iff (hmemory : memory.length ≤ 2 ^ 32) (hdata : data.length < 2 ^ 63) :
    PointersSafe memory ptr len exports data ↔ Clear ptr 4 ∧ AllocationClear exports data := by
  constructor
  · exact fun h => ⟨(read_prefixed_safe_iff hmemory).1 h.readResponse,
      (write_response_safe_iff hdata).1 h.writeResponse⟩
  · rintro ⟨hread, hwrite⟩
    have hwritten := (write_response_safe_iff hdata).2 hwrite
    exact ⟨(read_prefixed_safe_iff hmemory).2 hread, (read_prefixed_safe_iff hmemory).2 hread,
      read_bytes_safe, write_to_wasm_to_option ▸ hwritten, hwritten⟩

end Safe

/-- The first page of a memory. -/
def page : List UInt8 := List.replicate 65536 0

theorem length_page : page.length = 65536 := List.length_replicate

/-- A plugin of one page whose allocator returns the same pointer for every size. -/
def allocatesAt (ptr : BitVec 32) : Caller where
  memory := some page
  alloc := some fun _ => some (ptr, some page)

/-- The sum of the pointer -1 and the length of the prefix does not fit. -/
theorem negative_pointer_overflows :
    extractManifest page (-1) = .error .overflow ∧ readResponse page (-1) = .error .overflow ∧
      writeToWasm (allocatesAt (-1)) [] = .error .overflow ∧
      writeResponse (allocatesAt (-1)) [] = .error .overflow ∧
      ¬ PointersSafe page (-1) 0 (allocatesAt (-1)) [] := by
  have hclear : ¬ Clear (-1) 4 := by decide
  have hwrite : writeVia (allocatesAt (-1)) [] = .error .overflow :=
    write_via_of_not_clear (by decide) fun h => hclear (h _ rfl _ rfl (by decide) rfl)
  refine ⟨read_prefixed_of_not_clear hclear, read_prefixed_of_not_clear hclear, ?_, ?_,
    fun h => ?_⟩
  · rw [writeToWasm, hwrite]
    rfl
  · rw [writeResponse, hwrite]
    rfl
  · exact hclear ((read_prefixed_safe_iff (by rw [length_page]; decide)).1 h.readResponse)

theorem positive_pointer_safe : PointersSafe page 16 2 (allocatesAt 32) [1, 2] := by
  refine (pointers_safe_iff (by rw [length_page]; decide) (by decide)).2 ⟨by decide, ?_⟩
  intro alloc halloc returned hreturned _ _
  cases halloc
  cases hreturned
  decide

/-! ## The faults in the other modules -/

/-- In `LinearMemory` every fault is a panic. -/
theorem read_prefixed_eq {memory : List UInt8} (hmemory : memory.length ≤ 2 ^ 32)
    (ptr : BitVec 32) :
    LinearMemory.readPrefixed memory ptr =
      match readPrefixed ReadError.pointerOutOfBounds .dataOutOfBounds memory ptr with
      | .error _ => .error .panicked
      | .ok result => result := by
  unfold LinearMemory.readPrefixed
  dsimp only
  by_cases h : Clear ptr 4
  · have hsum := (add_lt_iff_clear (by omega)).2 h
    rw [read_prefixed_of_clear hmemory h, if_neg (by omega)]
    rfl
  · have hsum := mt (@add_lt_iff_clear ptr 4 (by omega)).1 h
    rw [read_prefixed_of_not_clear h, if_pos (by omega)]

/-- In `WasmMem` the sum wraps. What is written is the same. -/
theorem write_response_eq_written {exports : Caller} {data memory' : List UInt8}
    {ptr : BitVec 32} (hdata : data.length < 2 ^ 63) :
    WasmMem.writeResponse exports data = .written ptr memory' ↔
      writeResponse exports data = .ok (some (ptr, memory')) := by
  unfold WasmMem.writeResponse writeResponse writeVia
  rw [add_of_lt (by omega)]
  simp only [bind, Except.bind]
  cases exports.alloc with
  | none => exact iff_of_false (fun h => by (cases h)) (fun h => by (cases h))
  | some alloc =>
      simp only
      cases alloc (BitVec.ofNat 32 (4 + data.length)) with
      | none => exact iff_of_false (fun h => by (cases h)) (fun h => by (cases h))
      | some returned =>
          obtain ⟨other, memory⟩ := returned
          simp only
          by_cases hnull : other = 0
          · rw [if_pos hnull, if_pos hnull]
            exact iff_of_false (fun h => by (cases h)) (fun h => by (cases h))
          · rw [if_neg hnull, if_neg hnull]
            cases memory with
            | none => exact iff_of_false (fun h => by (cases h)) (fun h => by (cases h))
            | some memory =>
                simp only
                by_cases hclear : Clear other (4 + data.length)
                · have hsum := (add_lt_iff_clear (by omega)).2 hclear
                  rw [write_prefixed_of_clear hdata hclear, Nat.mod_eq_of_lt hsum]
                  by_cases hbounds : memory.length < usizeOfI32 other + (4 + data.length)
                  · rw [if_pos hbounds, if_pos hbounds]
                    exact iff_of_false (fun h => by (cases h)) (fun h => by (cases h))
                  · rw [if_neg hbounds, if_neg hbounds, if_neg (by omega)]
                    rw [overwrite, length_prefixed]
                    exact ⟨fun h => by (cases h; rfl), fun h => by (cases h; rfl)⟩
                · have hsum := mt (@add_lt_iff_clear other (4 + data.length) (by omega)).1 hclear
                  rw [write_prefixed_of_not_clear hdata hclear]
                  refine iff_of_false (fun h => ?_) (fun h => by (cases h))
                  split at h
                  · cases h
                  · rw [if_pos (by omega)] at h
                    cases h

end CorvidNano.Host.PointerSafety
