import CorvidNano.Library.Digits
import CorvidNano.Library.Text
import Mathlib.Logic.Function.Basic

/-!
# The task store of the A2A server

`TaskStore` in `a2a.rs`: the tasks by their identifier, and the identifiers in the order of
insertion. `insert` evicts from the front of that order until there is room. `insert_eq` says
what an insertion does to a well-formed store, and `task_id_injective` that `generate_task_id`
never returns an identifier twice.
-/

namespace CorvidNano.A2a

/-- `TaskState`. -/
inductive TaskState where
  | pending
  | running
  | completed
  | failed
  | cancelled
  deriving DecidableEq

/-- `Task`. The field `from` of the source is `sender` here. -/
structure Task where
  id : String
  state : TaskState
  message : String
  response : Option String
  createdAt : Nat
  completedAt : Option Nat
  sender : Option String
  deriving DecidableEq

/-- `TaskStore`. -/
structure TaskStore where
  tasks : String → Option Task
  order : List String
  capacity : Nat

/-- A state that is the end of a task. -/
def TaskState.IsTerminal (state : TaskState) : Prop :=
  state = .completed ∨ state = .failed ∨ state = .cancelled

instance (state : TaskState) : Decidable state.IsTerminal :=
  inferInstanceAs (Decidable (_ ∨ _))

/-- `generate_task_id` at a time, with the value of its counter. -/
def generateTaskId (now count : Nat) : String :=
  "task-" ++ now.repr ++ "-" ++ count.repr

namespace TaskStore

/-- `TaskStore::new`. -/
def new (capacity : Nat) : TaskStore where
  tasks _ := none
  order := []
  capacity := capacity

/-- The loop of `insert` that evicts the oldest task while the store is full. It is `none` where
the loop does not end, at capacity 0. -/
def evict (capacity : Nat) : List String → (String → Option Task) →
    Option (List String × (String → Option Task))
  | [], tasks => if 0 ≥ capacity then none else some ([], tasks)
  | oldest :: rest, tasks =>
      if (oldest :: rest).length ≥ capacity then
        evict capacity rest (Function.update tasks oldest none)
      else some (oldest :: rest, tasks)

/-- `insert`. -/
def insert (store : TaskStore) (task : Task) : Option TaskStore :=
  (evict store.capacity store.order store.tasks).map fun (order, tasks) =>
    { tasks := Function.update tasks task.id (some task)
      order := order ++ [task.id]
      capacity := store.capacity }

/-- `get`, and the read that `get_mut` allows. -/
def get (store : TaskStore) (id : String) : Option Task :=
  store.tasks id

/-- A write through the reference that `get_mut` returns for an identifier. -/
def set (store : TaskStore) (id : String) (task : Task) : TaskStore :=
  { store with tasks := Function.update store.tasks id (some task) }

/-- `list`: the most recent tasks, newest first. -/
def list (store : TaskStore) (limit : Nat) : List Task :=
  (store.order.reverse.take limit).filterMap store.tasks

/-- The order lists the stored tasks, each once and under its own identifier, and they fit. -/
structure WellFormed (store : TaskStore) : Prop where
  order_nodup : store.order.Nodup
  mem_order_iff : ∀ id, id ∈ store.order ↔ (store.tasks id).isSome
  length_le : store.order.length ≤ store.capacity
  id_eq : ∀ id task, store.tasks id = some task → task.id = id

/-- What an insertion does when there is room. -/
def Appends (store : TaskStore) (task : Task) (next : TaskStore) : Prop :=
  store.order.length < store.capacity ∧ next.order = store.order ++ [task.id] ∧
    next.tasks = Function.update store.tasks task.id (some task)

/-- What an insertion does at capacity: the oldest task goes, and no other. -/
def ReplacesOldest (store : TaskStore) (task : Task) (next : TaskStore) : Prop :=
  store.order.length = store.capacity ∧ ∃ oldest rest, store.order = oldest :: rest ∧
    next.order = rest ++ [task.id] ∧
    next.tasks =
      Function.update (Function.update store.tasks oldest none) task.id (some task)

theorem new_well_formed (capacity : Nat) : (new capacity).WellFormed where
  order_nodup := List.nodup_nil
  mem_order_iff id := by simp [new]
  length_le := Nat.zero_le _
  id_eq id task h := by cases h

section Insert

variable {store : TaskStore} {task : Task}

/-- An order shorter than the capacity is left as it is. -/
theorem evict_of_lt {capacity : Nat} {order : List String} (h : order.length < capacity)
    (tasks : String → Option Task) : evict capacity order tasks = some (order, tasks) := by
  cases order with
  | nil =>
      have hpos : ¬ 0 ≥ capacity := Nat.not_le_of_lt h
      rw [evict, if_neg hpos]
  | cons oldest rest => rw [evict, if_neg (by omega)]

/-- An order of the capacity's length loses its first identifier. -/
theorem evict_of_eq {capacity : Nat} {oldest : String} {rest : List String}
    (h : (oldest :: rest).length = capacity) (tasks : String → Option Task) :
    evict capacity (oldest :: rest) tasks =
      some (rest, Function.update tasks oldest none) := by
  rw [evict, if_pos (by omega)]
  rw [List.length_cons] at h
  exact evict_of_lt (by omega) _

/-- An insertion into a well-formed store with a capacity returns, and it evicts the oldest task
exactly when the store is full. -/
theorem insert_eq (hwell : store.WellFormed) (hcapacity : 1 ≤ store.capacity) (task : Task) :
    ∃ next, store.insert task = some next ∧ next.capacity = store.capacity ∧
      (store.Appends task next ∨ store.ReplacesOldest task next) := by
  unfold insert
  by_cases hroom : store.order.length < store.capacity
  · rw [evict_of_lt hroom]
    exact ⟨_, rfl, rfl, Or.inl ⟨hroom, rfl, rfl⟩⟩
  · have hle := hwell.length_le
    have hfull : store.order.length = store.capacity := by omega
    cases horder : store.order with
    | nil =>
        rw [horder, List.length_nil] at hfull
        omega
    | cons oldest rest =>
        rw [evict_of_eq (horder ▸ hfull)]
        exact ⟨_, rfl, rfl, Or.inr ⟨hfull, oldest, rest, horder, rfl, rfl⟩⟩

/-- An insertion under a new identifier keeps the store well-formed. -/
theorem WellFormed.appends {next : TaskStore} (hwell : store.WellFormed)
    (hcapacity : next.capacity = store.capacity) (hnew : task.id ∉ store.order)
    (h : store.Appends task next) : next.WellFormed := by
  obtain ⟨hroom, horder, htasks⟩ := h
  refine ⟨?_, ?_, ?_, ?_⟩
  · rw [horder]
    refine List.nodup_append.mpr ⟨hwell.order_nodup, by simp, ?_⟩
    intro id hmem other hother heq
    rw [List.mem_singleton.mp hother] at heq
    exact hnew (heq ▸ hmem)
  · intro id
    rw [horder, htasks, List.mem_append, List.mem_singleton, hwell.mem_order_iff]
    by_cases hid : id = task.id
    · simp [hid]
    · simp [hid]
  · rw [horder, hcapacity, List.length_append, List.length_singleton]
    omega
  · intro id other hother
    rw [htasks] at hother
    by_cases hid : id = task.id
    · rw [hid, Function.update_self, Option.some.injEq] at hother
      rw [← hother, hid]
    · rw [Function.update_of_ne hid] at hother
      exact hwell.id_eq id other hother

/-- Without its oldest task a well-formed store is well-formed. -/
theorem WellFormed.tail {oldest : String} {rest : List String} (hwell : store.WellFormed)
    (horder : store.order = oldest :: rest) :
    WellFormed { tasks := Function.update store.tasks oldest none, order := rest
                 capacity := store.capacity } := by
  have hnodup := horder ▸ hwell.order_nodup
  obtain ⟨hnotMem, hrest⟩ := List.nodup_cons.mp hnodup
  refine ⟨hrest, ?_, ?_, ?_⟩
  · intro id
    have hmem := hwell.mem_order_iff id
    rw [horder, List.mem_cons] at hmem
    by_cases hid : id = oldest
    · simp [hid, hnotMem]
    · simpa [hid] using hmem
  · have hle := hwell.length_le
    rw [horder, List.length_cons] at hle
    show rest.length ≤ store.capacity
    omega
  · intro id other hother
    by_cases hid : id = oldest
    · simp [hid] at hother
    · refine hwell.id_eq id other ?_
      simpa [hid] using hother

/-- An insertion at capacity under a new identifier keeps the store well-formed. -/
theorem WellFormed.replaces_oldest {next : TaskStore} (hwell : store.WellFormed)
    (hcapacity : next.capacity = store.capacity) (hnew : task.id ∉ store.order)
    (h : store.ReplacesOldest task next) : next.WellFormed := by
  obtain ⟨hfull, oldest, rest, horder, hnext, htasks⟩ := h
  rw [horder, List.length_cons] at hfull
  rw [horder] at hnew
  -- Once the oldest task is gone there is room, and the insertion appends.
  have hroom : rest.length < store.capacity := by omega
  have happends : Appends { tasks := Function.update store.tasks oldest none, order := rest
                            capacity := store.capacity } task next := ⟨hroom, hnext, htasks⟩
  exact (hwell.tail horder).appends hcapacity
    (fun hmem => hnew (List.mem_cons_of_mem _ hmem)) happends

/-- After an insertion the store holds the new task, and no task that it did not hold before. -/
theorem get_of_insert {next : TaskStore} (h : store.Appends task next ∨
    store.ReplacesOldest task next) {id : String} {found : Task}
    (hfound : next.get id = some found) :
    (id = task.id ∧ found = task) ∨ (id ≠ task.id ∧ store.get id = some found) := by
  unfold get at hfound ⊢
  by_cases hid : id = task.id
  · have hnew : next.tasks id = some task := by
      rcases h with ⟨-, -, htasks⟩ | ⟨-, oldest, rest, -, -, htasks⟩
      · rw [htasks, hid, Function.update_self]
      · rw [htasks, hid, Function.update_self]
    exact Or.inl ⟨hid, Option.some.inj (hfound.symm.trans hnew)⟩
  · refine Or.inr ⟨hid, ?_⟩
    rcases h with ⟨-, -, htasks⟩ | ⟨-, oldest, rest, -, -, htasks⟩
    · rwa [htasks, Function.update_of_ne hid] at hfound
    · rw [htasks, Function.update_of_ne hid] at hfound
      by_cases hold : id = oldest
      · rw [hold, Function.update_self] at hfound
        cases hfound
      · rwa [Function.update_of_ne hold] at hfound

end Insert

/-- A write to a stored task under its own identifier keeps the store well-formed. -/
theorem WellFormed.set {store : TaskStore} {id : String} {old task : Task}
    (hwell : store.WellFormed) (hold : store.get id = some old) (hid : task.id = old.id) :
    (store.set id task).WellFormed := by
  refine ⟨hwell.order_nodup, ?_, hwell.length_le, ?_⟩
  · intro other
    show other ∈ store.order ↔ (Function.update store.tasks id (some task) other).isSome
    rw [hwell.mem_order_iff]
    by_cases hother : other = id
    · subst hother
      rw [Function.update_self]
      rw [get] at hold
      simp [hold]
    · rw [Function.update_of_ne hother]
  · intro other found hfound
    have hfound : Function.update store.tasks id (some task) other = some found := hfound
    by_cases hother : other = id
    · subst hother
      rw [Function.update_self, Option.some.injEq] at hfound
      rw [← hfound, hid]
      exact hwell.id_eq _ _ hold
    · rw [Function.update_of_ne hother] at hfound
      exact hwell.id_eq other found hfound

@[simp] theorem get_set_self (store : TaskStore) (id : String) (task : Task) :
    (store.set id task).get id = some task := by
  simp [get, set]

theorem get_set_of_ne (store : TaskStore) {id other : String} (h : other ≠ id) (task : Task) :
    (store.set id task).get other = store.get other := by
  simp [get, set, h]

end TaskStore

/-- The counter's value is what follows the last `-` of an identifier. -/
theorem task_id_injective {now other count otherCount : Nat}
    (h : generateTaskId now count = generateTaskId other otherCount) : count = otherCount := by
  have hlast : ∀ now count, Text.afterLast '-' (generateTaskId now count).toList =
      count.repr.toList := by
    intro now count
    have hsplit : (generateTaskId now count).toList =
        ("task-" ++ now.repr).toList ++ '-' :: count.repr.toList := by
      simp [generateTaskId]
    rw [hsplit]
    exact Text.after_last_append_cons (Digits.not_mem_repr (by decide) count) _
  refine Digits.repr_to_list_injective ?_
  rw [← hlast now count, ← hlast other otherCount, h]

end CorvidNano.A2a
