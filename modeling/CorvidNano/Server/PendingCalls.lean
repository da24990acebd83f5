import Mathlib.Data.List.Basic
import Mathlib.Data.List.Nodup

/-!
# Calls of the TypeScript bridge

The requests of `rust-bridge.ts` that wait for a response: the map `pending`, the timers of
`rpcWithTimeout`, and a record of the promises that were settled. `Accounted` says that the timers
are those of the requests that were sent and not settled, and every operation keeps it. `Complete`
says that all of these requests are in the map, which a deletion alone does not keep.
-/

namespace CorvidNano.Server.PendingCalls

variable {Awaiter Response : Type}

/-- How the promise of a call settles. -/
inductive Outcome (Response : Type) where
  | answered (response : Response)
  | timedOut
  | socketClosed
  | disconnected
  deriving DecidableEq

/-- The counter, the map `pending` with what goes on when a promise is resolved, and the timers by
the ids of their calls. The ids that were sent and the promises that were settled are a record of
the run. -/
structure Calls (Awaiter Response : Type) where
  nextId : Nat
  pending : List (Nat × Awaiter)
  timers : List Nat
  sent : List Nat
  settled : List (Nat × Outcome Response)

/-- The calls of a new bridge. -/
def Calls.start : Calls Awaiter Response where
  nextId := 1
  pending := []
  timers := []
  sent := []
  settled := []

/-- The ids of some pairs. -/
def ids {Value : Type} (pairs : List (Nat × Value)) : List Nat := pairs.map Prod.fst

/-- `this.pending.get`. -/
def Calls.awaiter? (calls : Calls Awaiter Response) (id : Nat) : Option Awaiter :=
  (calls.pending.find? fun call => call.1 = id).map Prod.snd

/-- `this.pending.delete` alone. The timer of the call goes on. -/
def Calls.delete (calls : Calls Awaiter Response) (id : Nat) : Calls Awaiter Response :=
  { calls with pending := calls.pending.filter fun call => call.1 ≠ id }

/-- `this.pending.delete`, and the end of the promise with its timer cleared. -/
def Calls.settle (calls : Calls Awaiter Response) (id : Nat) (outcome : Outcome Response) :
    Calls Awaiter Response :=
  { calls.delete id with
    timers := calls.timers.filter fun timer => timer ≠ id
    settled := calls.settled ++ [(id, outcome)] }

/-- The part of `rpcWithTimeout` that sends a request. -/
def Calls.send (calls : Calls Awaiter Response) (awaiter : Awaiter) : Calls Awaiter Response :=
  { calls with
    nextId := calls.nextId + 1
    pending := calls.pending ++ [(calls.nextId, awaiter)]
    timers := calls.timers ++ [calls.nextId]
    sent := calls.sent ++ [calls.nextId] }

/-- The loop that rejects every pending call, and `this.pending.clear`. -/
def Calls.rejectAll (calls : Calls Awaiter Response) (outcome : Outcome Response) :
    Calls Awaiter Response :=
  { calls with
    pending := []
    timers := calls.timers.filter fun timer => timer ∉ ids calls.pending
    settled := calls.settled ++ calls.pending.map fun call => (call.1, outcome) }

/-- The timers are those of the calls that were sent and not settled, pending calls have one, and
no call is settled twice. -/
structure Accounted (calls : Calls Awaiter Response) : Prop where
  sent_lt : ∀ id ∈ calls.sent, id < calls.nextId
  timers_iff : ∀ id, id ∈ calls.timers ↔ id ∈ calls.sent ∧ id ∉ ids calls.settled
  pending_timers : ∀ id ∈ ids calls.pending, id ∈ calls.timers
  settled_sent : ∀ id ∈ ids calls.settled, id ∈ calls.sent
  sent_nodup : calls.sent.Nodup
  pending_nodup : (ids calls.pending).Nodup
  settled_nodup : (ids calls.settled).Nodup

/-- Every call that has a timer is pending. -/
def Complete (calls : Calls Awaiter Response) : Prop :=
  ∀ id ∈ calls.timers, id ∈ ids calls.pending

variable {calls : Calls Awaiter Response}

@[simp] theorem ids_append {Value : Type} (first second : List (Nat × Value)) :
    ids (first ++ second) = ids first ++ ids second := by
  simp [ids]

@[simp] theorem ids_singleton {Value : Type} (id : Nat) (value : Value) :
    ids [(id, value)] = [id] := rfl

/-- The calls that are left are those with other ids. -/
theorem ids_filter {Value : Type} (pairs : List (Nat × Value)) (id : Nat) :
    ids (pairs.filter fun pair => pair.1 ≠ id) = (ids pairs).filter fun other => other ≠ id := by
  rw [ids, ids, List.filter_map]
  rfl

theorem ids_map_const {Value Other : Type} (pairs : List (Nat × Value)) (value : Other) :
    ids (pairs.map fun pair => (pair.1, value)) = ids pairs := by
  simp [ids, Function.comp_def]

/-- A call has an awaiter if it is pending. -/
theorem awaiter_ne_none_iff (id : Nat) : calls.awaiter? id ≠ none ↔ id ∈ ids calls.pending := by
  unfold Calls.awaiter? ids
  rw [ne_eq, Option.map_eq_none_iff, List.find?_eq_none, List.mem_map]
  simp

/-- A call that is sent changes nothing for the others. -/
theorem awaiter_send {id : Nat} (h : id < calls.nextId) (awaiter : Awaiter) :
    (calls.send awaiter).awaiter? id = calls.awaiter? id := by
  have hne : calls.nextId ≠ id := Nat.ne_of_gt h
  simp [Calls.awaiter?, Calls.send, List.find?_append, hne]

/-- A call can be deleted before or after the next one is sent. -/
theorem delete_send {id : Nat} (h : id < calls.nextId) (awaiter : Awaiter) :
    (calls.send awaiter).delete id = (calls.delete id).send awaiter := by
  have hne : calls.nextId ≠ id := Nat.ne_of_gt h
  simp [Calls.delete, Calls.send, hne]

/-- A call can be settled before or after the next one is sent. -/
theorem settle_send {id : Nat} (h : id < calls.nextId) (awaiter : Awaiter)
    (outcome : Outcome Response) :
    (calls.send awaiter).settle id outcome = (calls.settle id outcome).send awaiter := by
  have hne : calls.nextId ≠ id := Nat.ne_of_gt h
  simp [Calls.settle, Calls.delete, Calls.send, hne]

/-- The calls that are left in the map when one is deleted. -/
theorem mem_ids_delete {id other : Nat} :
    other ∈ ids (calls.delete id).pending ↔ other ∈ ids calls.pending ∧ other ≠ id := by
  rw [Calls.delete, ids_filter, List.mem_filter, decide_eq_true_eq]

/-- The map has the calls that were sent and not settled if every call with a timer is pending. -/
theorem complete_iff (h : Accounted calls) :
    Complete calls ↔
      ∀ id, id ∈ ids calls.pending ↔ id ∈ calls.sent ∧ id ∉ ids calls.settled := by
  constructor
  · intro hcomplete id
    rw [← h.timers_iff id]
    exact ⟨h.pending_timers id, hcomplete id⟩
  · intro hpending id hid
    exact (hpending id).mpr ((h.timers_iff id).mp hid)

theorem accounted_start : Accounted (.start : Calls Awaiter Response) where
  sent_lt id h := absurd h List.not_mem_nil
  timers_iff id := by simp [Calls.start, ids]
  pending_timers id h := absurd h List.not_mem_nil
  settled_sent id h := absurd h List.not_mem_nil
  sent_nodup := List.nodup_nil
  pending_nodup := List.nodup_nil
  settled_nodup := List.nodup_nil

/-- A call that is sent is pending. -/
theorem accounted_send (h : Accounted calls) (awaiter : Awaiter) :
    Accounted (calls.send awaiter) := by
  have hfresh : calls.nextId ∉ calls.sent := fun hmem => Nat.lt_irrefl _ (h.sent_lt _ hmem)
  have hsettled : calls.nextId ∉ ids calls.settled := fun hmem => hfresh (h.settled_sent _ hmem)
  have hpending : calls.nextId ∉ ids calls.pending := fun hmem =>
    hfresh ((h.timers_iff _).mp (h.pending_timers _ hmem)).1
  constructor
  · intro id hid
    rcases List.mem_append.mp hid with hid | hid
    · exact Nat.lt_succ_of_lt (h.sent_lt id hid)
    · rw [List.mem_singleton.mp hid]
      exact Nat.lt_succ_self _
  · intro id
    simp only [Calls.send, List.mem_append, List.mem_singleton, h.timers_iff id]
    constructor
    · rintro (⟨hsent, hid⟩ | rfl)
      · exact ⟨.inl hsent, hid⟩
      · exact ⟨.inr rfl, hsettled⟩
    · rintro ⟨hsent | hnew, hid⟩
      · exact .inl ⟨hsent, hid⟩
      · exact .inr hnew
  · intro id hid
    rw [Calls.send, ids_append, ids_singleton] at hid
    rcases List.mem_append.mp hid with hid | hid
    · exact List.mem_append_left _ (h.pending_timers id hid)
    · exact List.mem_append_right _ hid
  · intro id hid
    exact List.mem_append_left _ (h.settled_sent id hid)
  · exact List.nodup_append_comm.mp (List.nodup_cons.mpr ⟨hfresh, h.sent_nodup⟩)
  · rw [Calls.send, ids_append, ids_singleton]
    exact List.nodup_append_comm.mp (List.nodup_cons.mpr ⟨hpending, h.pending_nodup⟩)
  · exact h.settled_nodup

/-- A call that is deleted keeps its timer. -/
theorem accounted_delete (h : Accounted calls) (id : Nat) : Accounted (calls.delete id) where
  sent_lt := h.sent_lt
  timers_iff := h.timers_iff
  pending_timers other hother := h.pending_timers other (mem_ids_delete.mp hother).1
  settled_sent := h.settled_sent
  sent_nodup := h.sent_nodup
  pending_nodup := by
    rw [Calls.delete, ids_filter]
    exact h.pending_nodup.filter _
  settled_nodup := h.settled_nodup

/-- A call that is settled has no timer any more. -/
theorem accounted_settle (h : Accounted calls) {id : Nat} (hid : id ∈ calls.timers)
    (outcome : Outcome Response) : Accounted (calls.settle id outcome) := by
  obtain ⟨hsent, hsettled⟩ := (h.timers_iff id).mp hid
  constructor
  · exact h.sent_lt
  · intro other
    simp only [Calls.settle, Calls.delete, ids_append, ids_singleton, List.mem_filter,
      decide_eq_true_eq, List.mem_append, List.mem_singleton, h.timers_iff other]
    tauto
  · intro other hother
    obtain ⟨hpending, hne⟩ := mem_ids_delete.mp hother
    exact List.mem_filter.mpr ⟨h.pending_timers other hpending, by simpa using hne⟩
  · intro other hother
    rw [Calls.settle, ids_append, ids_singleton] at hother
    rcases List.mem_append.mp hother with hother | hother
    · exact h.settled_sent other hother
    · rw [List.mem_singleton.mp hother]
      exact hsent
  · exact h.sent_nodup
  · exact (accounted_delete h id).pending_nodup
  · rw [Calls.settle, ids_append, ids_singleton]
    exact List.nodup_append_comm.mp (List.nodup_cons.mpr ⟨hsettled, h.settled_nodup⟩)

/-- Every pending call is settled when all are rejected. -/
theorem accounted_reject_all (h : Accounted calls) (outcome : Outcome Response) :
    Accounted (calls.rejectAll outcome) := by
  constructor
  · exact h.sent_lt
  · intro id
    simp only [Calls.rejectAll, ids_append, ids_map_const, List.mem_append, List.mem_filter,
      decide_eq_true_eq, h.timers_iff id]
    tauto
  · exact fun id hid => absurd hid List.not_mem_nil
  · intro id hid
    rw [Calls.rejectAll, ids_append, ids_map_const] at hid
    rcases List.mem_append.mp hid with hid | hid
    · exact h.settled_sent id hid
    · exact ((h.timers_iff id).mp (h.pending_timers id hid)).1
  · exact h.sent_nodup
  · exact List.nodup_nil
  · rw [Calls.rejectAll, ids_append, ids_map_const]
    refine List.nodup_append.mpr ⟨h.settled_nodup, h.pending_nodup, ?_⟩
    intro id hid other hother heq
    subst heq
    exact ((h.timers_iff id).mp (h.pending_timers id hother)).2 hid

/-! ## Calls that are not in the map -/

theorem complete_send (h : Complete calls) (awaiter : Awaiter) :
    Complete (calls.send awaiter) := by
  intro id hid
  rw [Calls.send, ids_append, ids_singleton]
  rcases List.mem_append.mp hid with hid | hid
  · exact List.mem_append_left _ (h id hid)
  · exact List.mem_append_right _ hid

theorem complete_settle (h : Complete calls) (id : Nat) (outcome : Outcome Response) :
    Complete (calls.settle id outcome) := by
  intro other hother
  obtain ⟨htimer, hne⟩ := List.mem_filter.mp hother
  exact mem_ids_delete.mpr ⟨h other htimer, by simpa using hne⟩

/-- No timer is left when all calls are rejected. -/
theorem complete_reject_all (h : Complete calls) (outcome : Outcome Response) :
    Complete (calls.rejectAll outcome) := by
  intro id hid
  obtain ⟨htimer, hpending⟩ := List.mem_filter.mp hid
  exact absurd (h id htimer) (by simpa using hpending)

/-- A pending call that is deleted is not in the map, and its timer goes on. -/
theorem not_complete_delete (h : Accounted calls) {id : Nat} (hid : id ∈ ids calls.pending) :
    ¬Complete (calls.delete id) := fun hcomplete =>
  (mem_ids_delete.mp (hcomplete id (h.pending_timers id hid))).2 rfl

/-- The end of a pending call does not bring another one back into the map. -/
theorem complete_of_settle {id : Nat} {outcome : Outcome Response} (hid : id ∈ ids calls.pending)
    (h : Complete (calls.settle id outcome)) : Complete calls := by
  intro other hother
  by_cases hsame : other = id
  · rw [hsame]
    exact hid
  · have htimer : other ∈ (calls.settle id outcome).timers :=
      List.mem_filter.mpr ⟨hother, by simpa using hsame⟩
    exact (mem_ids_delete.mp (h other htimer)).1

end CorvidNano.Server.PendingCalls
