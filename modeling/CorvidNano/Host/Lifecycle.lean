import CorvidNano.Host.Drain
import Mathlib.Data.List.Basic

/-!
# Concurrent register, unload and reload of one plugin id

The windows of `PluginRegistry` in `registry.rs`. `unload` and `reload` clone the slot's `Arc`
out of the map, run the slot's own protocol without the registry lock, and `unload` then takes
the write lock again and removes whatever the id maps to. `register` checks and inserts under
one write lock. Each lock section and each store of a slot's `state` is one step. A drain loop
may end at any turn: when no call is in flight, or at its deadline.

Three windows decide whether an unload is final (`Separated`): a reload that is under way at an
`UNLOADED` store, a reload that finds the slot between that store and the removal, and a
registration while an unload is under way. `unload_final` is the main result, for runs in which
none of them opens; `unload_not_final` shows what happens in the first and in the last.
-/

namespace CorvidNano.Host.Lifecycle

open Runs

/-- A slot behind its `Arc`: its `state`, and whether an unload has drained it, which is when
the unload stores `UNLOADED`. The code keeps only `state`; `drained` records the run. -/
structure Cell where
  state : SlotState
  drained : Bool
  deriving DecidableEq

/-- Where an operation stands. After its lookup it carries the slot that it cloned, as the
index of that slot among all slots ever created. -/
inductive Operation where
  | register
  | unload
  | unloadFound (slot : Nat)
  | unloadDraining (slot : Nat)
  | unloadDrained (slot : Nat)
  | unloadMarked (slot : Nat)
  | reload
  | reloadFound (slot : Nat)
  | reloadDraining (slot : Nat)
  | reloadDrained (slot : Nat)
  | reloadSwapped (slot : Nat)
  | finished
  deriving DecidableEq

/-- The slots created so far, the entry of the id in the map, and the operations on the id. -/
structure Registry where
  slots : List Cell
  entry : Option Nat
  operations : List Operation
  deriving DecidableEq

/-- An operation that a caller of the registry can begin. -/
inductive Request where
  | register
  | unload
  | reload
  deriving DecidableEq

/-- The operation of a request before its first step. -/
def Request.operation : Request → Operation
  | .register => .register
  | .unload => .unload
  | .reload => .reload

/-- An empty map and the operations that will run on it. -/
def Registry.start (requests : List Request) : Registry where
  slots := []
  entry := none
  operations := requests.map Request.operation

/-- A store of a slot's `state`. -/
def storeState (slots : List Cell) (slot : Nat) (state : SlotState) : List Cell :=
  slots.modify slot fun cell => { cell with state }

/-- The store of `UNLOADED` at the end of `PluginSlot::unload`. -/
def storeUnloaded (slots : List Cell) (slot : Nat) : List Cell :=
  slots.modify slot fun _ => { state := .unloaded, drained := true }

/-- One step of an operation on the slots and the entry. A lookup that misses and a `register`
that finds the id taken return an error and change nothing. -/
def advance (slots : List Cell) (entry : Option Nat) :
    Operation → Option (List Cell × Option Nat × Operation)
  | .register =>
      match entry with
      | some slot => some (slots, some slot, .finished)
      | none => some (slots ++ [{ state := .active, drained := false }], some slots.length,
          .finished)
  | .unload => some (slots, entry, entry.elim .finished .unloadFound)
  | .unloadFound slot => some (storeState slots slot .draining, entry, .unloadDraining slot)
  | .unloadDraining slot => some (slots, entry, .unloadDrained slot)
  | .unloadDrained slot => some (storeUnloaded slots slot, entry, .unloadMarked slot)
  -- The removal is by id: it takes whatever slot the map holds by now.
  | .unloadMarked _ => some (slots, none, .finished)
  | .reload => some (slots, entry, entry.elim .finished .reloadFound)
  | .reloadFound slot => some (storeState slots slot .draining, entry, .reloadDraining slot)
  | .reloadDraining slot => some (slots, entry, .reloadDrained slot)
  | .reloadDrained slot => some (slots, entry, .reloadSwapped slot)
  -- The store is unconditional: an unload may have stored `UNLOADED` since the lookup.
  | .reloadSwapped slot => some (storeState slots slot .active, entry, .finished)
  | .finished => none

/-- The next step of operation `i`. -/
def step (registry : Registry) (i : Nat) : Option Registry := do
  let operation ← registry.operations[i]?
  let (slots, entry, next) ← advance registry.slots registry.entry operation
  pure { slots, entry, operations := registry.operations.set i next }

/-- The slot of an unload that is under way. -/
def Operation.unloading : Operation → Option Nat
  | .unloadFound slot | .unloadDraining slot | .unloadDrained slot | .unloadMarked slot =>
      some slot
  | _ => none

/-- The slot of a reload that is under way. -/
def Operation.reloading : Operation → Option Nat
  | .reloadFound slot | .reloadDraining slot | .reloadDrained slot | .reloadSwapped slot =>
      some slot
  | _ => none

/-- The operation's next step opens no window: `register` puts a slot in the map only when no
unload of the id is under way, an unload stores `UNLOADED` only when no reload of the slot is
under way, and a reload finds no slot that an unload has marked and not yet removed. -/
def Separated (registry : Registry) : Operation → Prop
  | .register => registry.entry = none →
      ∀ operation ∈ registry.operations, operation.unloading = none
  | .unloadDrained slot => ∀ operation ∈ registry.operations, operation.reloading ≠ some slot
  | .reload => ∀ slot ∈ registry.entry, .unloadMarked slot ∉ registry.operations
  | _ => True

/-- `Separated` is decided by looking through the operations. -/
instance (registry : Registry) (operation : Operation) : Decidable (Separated registry operation) :=
  match operation with
  | .register => inferInstanceAs (Decidable (_ → _))
  | .unloadDrained slot =>
      inferInstanceAs (Decidable (∀ operation ∈ registry.operations,
        operation.reloading ≠ some slot))
  | .reload =>
      inferInstanceAs (Decidable (∀ slot ∈ registry.entry,
        .unloadMarked slot ∉ registry.operations))
  | .unload | .unloadFound _ | .unloadDraining _ | .unloadMarked _ | .reloadFound _
  | .reloadDraining _ | .reloadDrained _ | .reloadSwapped _ | .finished =>
      inferInstanceAs (Decidable True)

/-- An unload has drained the slot. -/
def Drained (slots : List Cell) (slot : Nat) : Prop :=
  (slots[slot]?.map Cell.drained) = some true

/-- `Drained` compares two optional flags. -/
instance (slots : List Cell) (slot : Nat) : Decidable (Drained slots slot) :=
  inferInstanceAs (Decidable (_ = _))

/-- No slot that an unload has drained is `ACTIVE`. -/
def UnloadFinal (slots : List Cell) : Prop :=
  ∀ slot, Drained slots slot → (slots[slot]?.map Cell.state) ≠ some .active

/-- If the next step of operation `i` is an unload's removal from the map, the slot that it
removes has been drained by an unload. -/
def RemovesDrained (registry : Registry) (i : Nat) : Prop :=
  ∀ slot removed, registry.operations[i]? = some (.unloadMarked slot) →
    registry.entry = some removed → Drained registry.slots removed

/-! ## The stores of a slot's state -/

/-- A store of `state` drains no slot. -/
theorem drained_store_state {slots : List Cell} {slot other : Nat} {state : SlotState} :
    Drained (storeState slots slot state) other ↔ Drained slots other := by
  simp only [Drained, storeState, List.getElem?_modify, Option.map_eq_map, Option.map_map]
  refine Eq.congr_left (congrArg (Option.map · _) ?_)
  funext cell
  simp only [Function.comp]
  split <;> rfl

/-- A store of `UNLOADED` drains that slot and no other. -/
theorem drained_store_unloaded {slots : List Cell} {slot other : Nat}
    (hcreated : slot < slots.length) :
    Drained (storeUnloaded slots slot) other ↔ slot = other ∨ Drained slots other := by
  by_cases hother : slot = other
  · subst hother
    simp [Drained, storeUnloaded, hcreated]
  · simp [Drained, storeUnloaded, hother]

/-- A fresh slot is not drained. -/
theorem drained_append {slots : List Cell} {slot : Nat} :
    Drained (slots ++ [{ state := .active, drained := false }]) slot ↔ Drained slots slot := by
  simp only [Drained, List.getElem?_append]
  split
  · rfl
  · rename_i hlength
    rw [List.getElem?_eq_none (Nat.not_lt.mp hlength)]
    cases slot - slots.length <;> simp

/-- A store of anything but `ACTIVE`, or into a slot that is not drained, revives no slot. -/
theorem UnloadFinal.store_state {slots : List Cell} {slot : Nat} {state : SlotState}
    (h : UnloadFinal slots) (hstate : state = .active → ¬ Drained slots slot) :
    UnloadFinal (storeState slots slot state) := by
  intro other hdrained hactive
  rw [drained_store_state] at hdrained
  by_cases hother : slot = other
  · subst hother
    refine hstate ?_ hdrained
    simp only [storeState, List.getElem?_modify, if_true, Option.map_eq_map, Option.map_map,
      Option.map_eq_some_iff] at hactive
    obtain ⟨_, _, hactive⟩ := hactive
    exact hactive
  · refine h other hdrained ?_
    simpa [storeState, List.getElem?_modify, hother] using hactive

/-- A store of `UNLOADED` revives no slot. -/
theorem UnloadFinal.store_unloaded {slots : List Cell} {slot : Nat} (h : UnloadFinal slots)
    (hcreated : slot < slots.length) : UnloadFinal (storeUnloaded slots slot) := by
  intro other hdrained
  by_cases hother : slot = other
  · subst hother
    simp [storeUnloaded, hcreated]
  · have hold := ((drained_store_unloaded hcreated).mp hdrained).resolve_left hother
    simpa [storeUnloaded, List.getElem?_modify, hother] using h other hold

/-- A fresh slot revives no slot. -/
theorem UnloadFinal.append {slots : List Cell} (h : UnloadFinal slots) :
    UnloadFinal (slots ++ [{ state := .active, drained := false }]) := by
  intro slot hdrained
  rw [drained_append] at hdrained
  obtain ⟨cell, hcell, _⟩ := Option.map_eq_some_iff.mp hdrained
  rw [List.getElem?_append_left (List.getElem?_eq_some_iff.mp hcell).1]
  exact h slot hdrained

/-! ## The invariant of separated runs -/

/-- A step is an operation's own step on the slots and the entry. -/
theorem step_eq_some {registry next : Registry} {i : Nat} :
    step registry i = some next ↔ ∃ operation slots entry operation',
      registry.operations[i]? = some operation ∧
      advance registry.slots registry.entry operation = some (slots, entry, operation') ∧
      next = { slots, entry, operations := registry.operations.set i operation' } := by
  simp [step, Option.bind_eq_some_iff, eq_comm (a := next)]

/-- What separation keeps true: the map holds a slot that was created, an unload that is under
way works on the entry if there is one, a reload that is under way works on a slot that no
unload has drained, and the entry is drained exactly between an unload's `UNLOADED` store and
its removal. -/
structure Orderly (registry : Registry) : Prop where
  entryCreated : ∀ slot, registry.entry = some slot → slot < registry.slots.length
  unloadsEntry : ∀ operation ∈ registry.operations, ∀ slot, operation.unloading = some slot →
    slot < registry.slots.length ∧ ∀ other, registry.entry = some other → other = slot
  reloadsLive : ∀ operation ∈ registry.operations, ∀ slot, operation.reloading = some slot →
    ¬ Drained registry.slots slot
  markedDrained : ∀ slot, .unloadMarked slot ∈ registry.operations → Drained registry.slots slot
  entryMarked : ∀ slot, registry.entry = some slot → Drained registry.slots slot →
    .unloadMarked slot ∈ registry.operations
  final : UnloadFinal registry.slots

/-- The empty registry is orderly. -/
theorem orderly_start (requests : List Request) : Orderly (Registry.start requests) := by
  have hidle : ∀ operation ∈ (Registry.start requests).operations,
      operation.unloading = none ∧ operation.reloading = none := by
    intro operation hmem
    obtain ⟨request, _, rfl⟩ := List.mem_map.mp hmem
    cases request <;> exact ⟨rfl, rfl⟩
  refine ⟨by simp [Registry.start], fun operation hmem slot hslot => ?_,
    fun operation hmem slot hslot => ?_, fun slot hmem => ?_, by simp [Registry.start],
    by simp [UnloadFinal, Drained, Registry.start]⟩
  · cases (hidle operation hmem).1.symm.trans hslot
  · cases (hidle operation hmem).2.symm.trans hslot
  · cases (hidle _ hmem).1

/-- A step that keeps the entry and all `drained` flags keeps the registry orderly when the
operation's new slot is in order and the operation neither becomes nor stops being marked. -/
theorem Orderly.move {registry : Registry} {i : Nat} {old new : Operation} {slots : List Cell}
    (h : Orderly registry) (hold : registry.operations[i]? = some old)
    (hlength : slots.length = registry.slots.length)
    (hdrained : ∀ slot, Drained slots slot ↔ Drained registry.slots slot)
    (hfinal : UnloadFinal slots)
    (hunloading : ∀ slot, new.unloading = some slot →
      slot < registry.slots.length ∧ ∀ other, registry.entry = some other → other = slot)
    (hreloading : ∀ slot, new.reloading = some slot → ¬ Drained registry.slots slot)
    (hmarked : ∀ slot, old ≠ .unloadMarked slot ∧ new ≠ .unloadMarked slot) :
    Orderly { registry with slots, operations := registry.operations.set i new } := by
  have hmem : ∀ slot, .unloadMarked slot ∈ registry.operations.set i new ↔
      .unloadMarked slot ∈ registry.operations := fun slot =>
    Processes.mem_set_iff_of_ne hold (hmarked slot).1.symm (hmarked slot).2.symm
  refine ⟨fun slot hslot => ?_, fun operation hoperation slot hslot => ?_,
    fun operation hoperation slot hslot => ?_, fun slot hslot => ?_,
    fun slot hentry hslot => ?_, hfinal⟩
  · rw [hlength]
    exact h.entryCreated slot hslot
  · rw [hlength]
    rcases List.mem_or_eq_of_mem_set hoperation with hoperation | rfl
    · exact h.unloadsEntry operation hoperation slot hslot
    · exact hunloading slot hslot
  · rw [hdrained]
    rcases List.mem_or_eq_of_mem_set hoperation with hoperation | rfl
    · exact h.reloadsLive operation hoperation slot hslot
    · exact hreloading slot hslot
  · exact (hdrained slot).mpr (h.markedDrained slot ((hmem slot).mp hslot))
  · exact (hmem slot).mpr (h.entryMarked slot hentry ((hdrained slot).mp hslot))

/-- An operation that ends without a store keeps the registry orderly. -/
theorem Orderly.finish {registry : Registry} {i : Nat} {old : Operation} (h : Orderly registry)
    (hold : registry.operations[i]? = some old) (hmarked : ∀ slot, old ≠ .unloadMarked slot) :
    Orderly { registry with operations := registry.operations.set i .finished } :=
  h.move hold rfl (fun _ => .rfl) h.final (fun _ hnone => nomatch hnone)
    (fun _ hnone => nomatch hnone) fun slot => ⟨hmarked slot, by simp⟩

/-- A `register` that finds the id free, with no unload under way, puts a fresh slot in the map. -/
theorem Orderly.register {registry : Registry} {i : Nat} (h : Orderly registry)
    (hidle : ∀ operation ∈ registry.operations, operation.unloading = none) :
    Orderly { slots := registry.slots ++ [{ state := .active, drained := false }]
              entry := some registry.slots.length
              operations := registry.operations.set i .finished } := by
  have hnone : ∀ operation ∈ registry.operations.set i .finished,
      operation.unloading = none := by
    intro operation hmem
    rcases List.mem_or_eq_of_mem_set hmem with hmem | rfl
    · exact hidle operation hmem
    · rfl
  refine ⟨by simp, fun operation hmem slot hslot => ?_, fun operation hmem slot hslot => ?_,
    fun slot hmem => ?_, fun slot hentry hslot => ?_, h.final.append⟩
  · cases (hnone operation hmem).symm.trans hslot
  · rw [drained_append]
    rcases List.mem_or_eq_of_mem_set hmem with hmem | rfl
    · exact h.reloadsLive operation hmem slot hslot
    · cases hslot
  · cases hnone _ hmem
  · -- The new entry is the fresh slot, which nobody has drained.
    rw [drained_append] at hslot
    obtain rfl : registry.slots.length = slot := Option.some.inj hentry
    simp [Drained] at hslot

/-- The `UNLOADED` store at the end of an unload's drain, with no reload of the slot under way. -/
theorem Orderly.mark {registry : Registry} {i slot : Nat} (h : Orderly registry)
    (hold : registry.operations[i]? = some (.unloadDrained slot))
    (halone : ∀ operation ∈ registry.operations, operation.reloading ≠ some slot) :
    Orderly { registry with
      slots := storeUnloaded registry.slots slot
      operations := registry.operations.set i (.unloadMarked slot) } := by
  have hunload := h.unloadsEntry _ (List.mem_of_getElem? hold) slot rfl
  have hi := (List.getElem?_eq_some_iff.mp hold).1
  have hlength : (storeUnloaded registry.slots slot).length = registry.slots.length := by
    simp [storeUnloaded]
  refine ⟨fun other hother => ?_, fun operation hmem other hother => ?_,
    fun operation hmem other hother => ?_, fun other hother => ?_,
    fun other hentry hother => ?_, h.final.store_unloaded hunload.1⟩
  · rw [hlength]
    exact h.entryCreated other hother
  · rw [hlength]
    rcases List.mem_or_eq_of_mem_set hmem with hmem | rfl
    · exact h.unloadsEntry operation hmem other hother
    · obtain rfl : slot = other := Option.some.inj hother
      exact hunload
  · rw [drained_store_unloaded hunload.1]
    rcases List.mem_or_eq_of_mem_set hmem with hmem | rfl
    · intro hdrained
      rcases hdrained with rfl | hdrained
      · exact halone operation hmem hother
      · exact h.reloadsLive operation hmem other hother hdrained
    · cases hother
  · rw [drained_store_unloaded hunload.1]
    rcases List.mem_or_eq_of_mem_set hother with hmem | heq
    · exact .inr (h.markedDrained other hmem)
    · exact .inl (Operation.unloadMarked.inj heq).symm
  · rcases (drained_store_unloaded hunload.1).mp hother with rfl | hdrained
    · exact List.mem_set hi _
    · by_cases hsame : slot = other
      · subst hsame
        exact List.mem_set hi _
      · rw [Processes.mem_set_iff_of_ne hold (by simp) (by simpa using Ne.symm hsame)]
        exact h.entryMarked other hentry hdrained

/-- The removal at the end of an unload. -/
theorem Orderly.remove {registry : Registry} {i : Nat} (h : Orderly registry) :
    Orderly { registry with
      entry := none
      operations := registry.operations.set i .finished } := by
  refine ⟨by simp, fun operation hmem slot hslot => ?_, fun operation hmem slot hslot => ?_,
    fun slot hmem => ?_, by simp, h.final⟩
  · rcases List.mem_or_eq_of_mem_set hmem with hmem | rfl
    · exact ⟨(h.unloadsEntry operation hmem slot hslot).1, by simp⟩
    · cases hslot
  · rcases List.mem_or_eq_of_mem_set hmem with hmem | rfl
    · exact h.reloadsLive operation hmem slot hslot
    · cases hslot
  · rcases List.mem_or_eq_of_mem_set hmem with hmem | heq
    · exact h.markedDrained slot hmem
    · cases heq

/-- The slot of an unload that has marked it is the entry, and it is drained. -/
theorem Orderly.removes_drained {registry : Registry} (h : Orderly registry) (i : Nat) :
    RemovesDrained registry i := by
  intro slot removed hmarked hremoved
  have hmem := List.mem_of_getElem? hmarked
  obtain rfl := (h.unloadsEntry _ hmem slot rfl).2 removed hremoved
  exact h.markedDrained removed hmem

/-- Every separated step keeps the registry orderly. -/
theorem Orderly.step {registry next : Registry} {i : Nat} (h : Orderly registry)
    (hseparated : ∀ operation ∈ registry.operations[i]?, Separated registry operation)
    (hstep : step registry i = some next) : Orderly next := by
  obtain ⟨operation, slots, entry, operation', hold, hadvance, rfl⟩ := step_eq_some.mp hstep
  have hunload := h.unloadsEntry operation (List.mem_of_getElem? hold)
  have hreload := h.reloadsLive operation (List.mem_of_getElem? hold)
  have halone := hseparated operation hold
  cases operation with
  | register =>
      cases hentry : registry.entry with
      | none =>
          simp only [advance, hentry, Option.some.injEq, Prod.mk.injEq] at hadvance
          obtain ⟨rfl, rfl, rfl⟩ := hadvance
          exact h.register (halone hentry)
      | some slot =>
          simp only [advance, hentry, Option.some.injEq, Prod.mk.injEq] at hadvance
          obtain ⟨rfl, rfl, rfl⟩ := hadvance
          rw [← hentry]
          exact h.finish hold (by simp)
  | unload =>
      cases hentry : registry.entry with
      | none =>
          simp only [advance, hentry, Option.elim_none, Option.some.injEq,
            Prod.mk.injEq] at hadvance
          obtain ⟨rfl, rfl, rfl⟩ := hadvance
          rw [← hentry]
          exact h.finish hold (by simp)
      | some slot =>
          simp only [advance, hentry, Option.elim_some, Option.some.injEq,
            Prod.mk.injEq] at hadvance
          obtain ⟨rfl, rfl, rfl⟩ := hadvance
          rw [← hentry]
          refine h.move hold rfl (fun _ => .rfl) h.final (fun other hother => ?_)
            (fun _ hnone => nomatch hnone) (by simp)
          obtain rfl : slot = other := Option.some.inj hother
          exact ⟨h.entryCreated slot hentry, fun _ hsome => Option.some.inj (hsome.symm.trans hentry)⟩
  | reload =>
      cases hentry : registry.entry with
      | none =>
          simp only [advance, hentry, Option.elim_none, Option.some.injEq,
            Prod.mk.injEq] at hadvance
          obtain ⟨rfl, rfl, rfl⟩ := hadvance
          rw [← hentry]
          exact h.finish hold (by simp)
      | some slot =>
          simp only [advance, hentry, Option.elim_some, Option.some.injEq,
            Prod.mk.injEq] at hadvance
          obtain ⟨rfl, rfl, rfl⟩ := hadvance
          rw [← hentry]
          refine h.move hold rfl (fun _ => .rfl) h.final (fun _ hnone => nomatch hnone)
            (fun other hother hdrained => ?_) (by simp)
          obtain rfl : slot = other := Option.some.inj hother
          exact halone slot hentry (h.entryMarked slot hentry hdrained)
  | unloadFound slot =>
      simp only [advance, Option.some.injEq, Prod.mk.injEq] at hadvance
      obtain ⟨rfl, rfl, rfl⟩ := hadvance
      exact h.move hold (by simp [storeState]) (fun _ => drained_store_state)
        (h.final.store_state (by simp)) hunload (fun _ hnone => nomatch hnone)
        (by simp)
  | reloadFound slot =>
      simp only [advance, Option.some.injEq, Prod.mk.injEq] at hadvance
      obtain ⟨rfl, rfl, rfl⟩ := hadvance
      exact h.move hold (by simp [storeState]) (fun _ => drained_store_state)
        (h.final.store_state (by simp)) (fun _ hnone => nomatch hnone) hreload
        (by simp)
  | unloadDraining slot =>
      simp only [advance, Option.some.injEq, Prod.mk.injEq] at hadvance
      obtain ⟨rfl, rfl, rfl⟩ := hadvance
      exact h.move hold rfl (fun _ => .rfl) h.final hunload
        (fun _ hnone => nomatch hnone) (by simp)
  | reloadDraining slot | reloadDrained slot =>
      simp only [advance, Option.some.injEq, Prod.mk.injEq] at hadvance
      obtain ⟨rfl, rfl, rfl⟩ := hadvance
      exact h.move hold rfl (fun _ => .rfl) h.final (fun _ hnone => nomatch hnone)
        hreload (by simp)
  | reloadSwapped slot =>
      simp only [advance, Option.some.injEq, Prod.mk.injEq] at hadvance
      obtain ⟨rfl, rfl, rfl⟩ := hadvance
      exact h.move hold (by simp [storeState]) (fun _ => drained_store_state)
        (h.final.store_state fun _ => hreload slot rfl)
        (fun _ hnone => nomatch hnone) (fun _ hnone => nomatch hnone) (by simp)
  | unloadDrained slot =>
      simp only [advance, Option.some.injEq, Prod.mk.injEq] at hadvance
      obtain ⟨rfl, rfl, rfl⟩ := hadvance
      exact h.mark hold halone
  | unloadMarked slot =>
      simp only [advance, Option.some.injEq, Prod.mk.injEq] at hadvance
      obtain ⟨rfl, rfl, rfl⟩ := hadvance
      exact h.remove
  | finished => cases hadvance

/-! ## Unload is final -/

/-- The steps of runs in which none of the windows opens. -/
abbrev separatedStep : Registry → Nat → Option Registry :=
  restrict step fun registry i =>
    ∀ operation ∈ registry.operations[i]?, Separated registry operation

/-- In runs in which no window opens, a drained slot never becomes `ACTIVE` again and every
removal from the map is of a drained slot. -/
theorem unload_final {requests : List Request} {events : List Nat} {registry : Registry}
    (hrun : run separatedStep (Registry.start requests) events = some registry) :
    UnloadFinal registry.slots ∧ ∀ i, RemovesDrained registry i := by
  have horderly : Orderly registry :=
    run_restrict_invariant (fun h hseparated hstep => h.step hseparated hstep)
      (orderly_start requests) hrun
  exact ⟨horderly.final, horderly.removes_drained⟩

/-- The registry after a register, a reload and two unloads that overlap, before the second
unload removes the slot. -/
def unloadedTwice : Registry where
  slots := [⟨.unloaded, true⟩]
  entry := some 0
  operations := [.finished, .finished, .unloadMarked 0, .unloadMarked 0]

/-- `unload_final` for a reload that begins before both unloads and ends while they drain. -/
theorem unload_final_overlapping :
    UnloadFinal unloadedTwice.slots ∧ ∀ i, RemovesDrained unloadedTwice i := by
  have hrun : run separatedStep (Registry.start [.register, .reload, .unload, .unload])
      [0, 1, 2, 3, 2, 1, 2, 1, 1, 3, 3, 1, 2, 3] = some unloadedTwice := by
    decide
  exact unload_final hrun

/-- Two windows. A reload that has drained the slot stores `ACTIVE` after an unload has stored
`UNLOADED` and removed it. Of two unloads that found the same slot, the second removes the slot
that was registered after the first one finished. -/
theorem unload_not_final :
    (∃ events registry, run step (Registry.start [.register, .reload, .unload]) events =
        some registry ∧ ¬ UnloadFinal registry.slots) ∧
      ∃ events registry,
        run step (Registry.start [.register, .unload, .unload, .register]) events =
          some registry ∧ ¬ RemovesDrained registry 2 := by
  refine ⟨⟨[0, 1, 1, 1, 1, 2, 2, 2, 2, 2, 1], _, rfl, fun hfinal => ?_⟩,
    ⟨[0, 1, 2, 1, 1, 1, 1, 2, 2, 2, 3], _, rfl, fun hremoves => ?_⟩⟩
  · exact hfinal 0 rfl rfl
  · exact absurd (hremoves 0 1 rfl rfl) (by decide)

end CorvidNano.Host.Lifecycle
