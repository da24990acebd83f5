import CorvidNano.A2a.TaskStore
import CorvidNano.Agent.HubClient
import CorvidNano.Library.Runs
import CorvidNano.Library.Utf8
import Mathlib.Data.List.Nodup
import Mathlib.Data.List.Perm.Basic

/-!
# The lifecycle of A2A tasks

Requests and background workers share one `TaskStore`. A creation request draws an identifier and
then inserts its task; `process_task` writes `Running` and, after the hub has been asked, the
result; a cancellation may come at any time, and so may the eviction of the task. Each event is
what one of them does while it holds the store's lock.

`lifecycle` is the main result: in every interleaving a task moves only along its lifecycle, its
fields agree with its state, and the store stays well-formed and evicts only its oldest task.
-/

namespace CorvidNano.A2a.Lifecycle

open Agent.HubClient Runs

/-- What is left of `process_task`: both writes, or the final one. -/
inductive Phase where
  | spawned
  | processing
  deriving DecidableEq

/-- A spawned `process_task`. -/
structure Worker where
  taskId : String
  message : String
  phase : Phase
  deriving DecidableEq

/-- The store, the counter of `generate_task_id`, the tasks of creation requests that have yet to
insert them, the running workers, and all identifiers in the order in which they were inserted. -/
structure State where
  store : TaskStore
  counter : Nat
  reserved : List Task
  workers : List Worker
  inserted : List String

/-- A server that has just started. -/
def State.new (capacity : Nat) : State where
  store := .new capacity
  counter := 0
  reserved := []
  workers := []
  inserted := []

/-- What happens under the lock, or to the counter. Tasks and workers are addressed by their
position. -/
inductive Event where
  | reserve (now : Nat) (message : String) (sender : Option String)
  | insert (index : Nat)
  | start (index : Nat)
  | finish (index : Nat) (now : Nat) (hub : Hub)
  | cancel (id : String) (now : Nat)
  | get (id : String)
  | list

/-- The task that `handle_create_task` builds. -/
def newTask (id : String) (now : Nat) (message : String) (sender : Option String) : Task where
  id := id
  state := .pending
  message := message
  response := none
  createdAt := now
  completedAt := none
  sender := sender

/-- The first write of `process_task`. It is `none` if the function returns at once. -/
def startTask (store : TaskStore) (id : String) : Option TaskStore :=
  match store.get id with
  | some task =>
      if task.state = .cancelled then none else some (store.set id { task with state := .running })
  -- An evicted task is processed all the same.
  | none => some store

/-- What `process_task` computes between its writes: the hub's answer, or the echo of P2P mode,
whose `truncate` may panic. -/
def processMessage (hubUrl : Option String) (hub : Hub) (message : String) :
    Option (Except String String) :=
  match hubUrl with
  | some hubUrl => some (forwardToHubAndPoll hub hubUrl message)
  | none =>
      (Utf8.cut 200 message.toList).map fun text =>
        .ok ("[nano] Received your message. Hub forwarding is disabled (P2P mode). Message: " ++
          String.ofList text)

/-- The final write of `process_task`. -/
def finishTask (store : TaskStore) (id : String) (result : Except String String) (now : Nat) :
    TaskStore :=
  match store.get id with
  | some task =>
      if task.state = .cancelled then store
      else
        match result with
        | .ok response =>
            store.set id { task with state := .completed, response := some response
                                     completedAt := some now }
        | .error e =>
            store.set id { task with state := .failed, response := some ("error: " ++ e)
                                     completedAt := some now }
  | none => store

/-- The write of `handle_cancel_task`. -/
def cancelTask (store : TaskStore) (id : String) (now : Nat) : TaskStore :=
  match store.get id with
  | some task =>
      if task.state = .pending ∨ task.state = .running then
        store.set id { task with state := .cancelled, completedAt := some now }
      else store
  | none => store

/-- One event on a server with this hub URL. -/
def step (hubUrl : Option String) (state : State) : Event → Option State
  | .reserve now message sender =>
      some { state with
        counter := state.counter + 1
        reserved := state.reserved ++
          [newTask (generateTaskId now state.counter) now message sender] }
  | .insert index =>
      match state.reserved[index]? with
      | none => none
      | some task =>
          (state.store.insert task).map fun store =>
            { state with
              store
              reserved := state.reserved.eraseIdx index
              workers := state.workers ++
                [{ taskId := task.id, message := task.message, phase := .spawned }]
              inserted := state.inserted ++ [task.id] }
  | .start index =>
      match state.workers[index]? with
      | some { taskId, message, phase := .spawned } =>
          match startTask state.store taskId with
          | none => some { state with workers := state.workers.eraseIdx index }
          | some store =>
              some { state with
                store
                workers := state.workers.set index { taskId, message, phase := .processing } }
      | _ => none
  | .finish index now hub =>
      match state.workers[index]? with
      | some { taskId, message, phase := .processing } =>
          match processMessage hubUrl hub message with
          | none => some { state with workers := state.workers.eraseIdx index }
          | some result =>
              some { state with
                store := finishTask state.store taskId result now
                workers := state.workers.eraseIdx index }
      | _ => none
  | .cancel id now => some { state with store := cancelTask state.store id now }
  | .get _ => some state
  | .list => some state

/-! ## What the lifecycle is -/

/-- The moves of a task's state. -/
inductive Advances : TaskState → TaskState → Prop where
  | start : Advances .pending .running
  | complete : Advances .running .completed
  | fail : Advances .running .failed
  | cancelPending : Advances .pending .cancelled
  | cancelRunning : Advances .running .cancelled

/-- The end of a task has a time, and only a processed task has a response. -/
structure Consistent (task : Task) : Prop where
  completed_at : task.completedAt.isSome ↔ task.state.IsTerminal
  response : task.response.isSome ↔ task.state = .completed ∨ task.state = .failed

/-- Every stored task stays as it is or moves along its lifecycle, and a new one is pending. -/
structure TasksAdvance (store next : TaskStore) : Prop where
  advances : ∀ id before after, store.get id = some before → next.get id = some after →
    after = before ∨ Advances before.state after.state
  terminal : ∀ id before after, store.get id = some before → next.get id = some after →
    before.state.IsTerminal → after = before
  pending : ∀ id after, store.get id = none → next.get id = some after → after.state = .pending

/-- The order of a store changes only by the insertion of a task: behind the others while there
is room, and in place of the oldest one at capacity. -/
def InsertsInOrder (state : State) (next : State) : Prop :=
  (next.store.order = state.store.order ∧ next.inserted = state.inserted) ∨
    ∃ task ∈ state.reserved, next.inserted = state.inserted ++ [task.id] ∧
      (state.store.Appends task next.store ∨ state.store.ReplacesOldest task next.store)

theorem Advances.not_terminal {before after : TaskState} (h : Advances before after) :
    ¬ before.IsTerminal := by
  cases h <;> decide

/-! ## Writes under the lock -/

/-- A write that moves one stored task along its lifecycle, or none. -/
inductive Write (store : TaskStore) : TaskStore → Prop where
  | same : Write store store
  | set (id : String) (before after : Task) (hbefore : store.get id = some before)
      (hid : after.id = before.id) (hadvances : Advances before.state after.state)
      (hconsistent : Consistent before → Consistent after) : Write store (store.set id after)

section Write

variable {store next : TaskStore}

theorem Write.order_eq (h : Write store next) : next.order = store.order := by
  cases h with
  | same => rfl
  | set => rfl

theorem Write.capacity_eq (h : Write store next) : next.capacity = store.capacity := by
  cases h with
  | same => rfl
  | set => rfl

theorem Write.well_formed (h : Write store next) (hwell : store.WellFormed) :
    next.WellFormed := by
  cases h with
  | same => exact hwell
  | set id before after hbefore hid _ _ => exact hwell.set hbefore hid

/-- What a write leaves under an identifier: the task as it was, or moved. -/
theorem Write.get_eq (h : Write store next) {id : String} {after : Task}
    (hafter : next.get id = some after) :
    store.get id = some after ∨
      ∃ before, store.get id = some before ∧ Advances before.state after.state ∧
        (Consistent before → Consistent after) := by
  cases h with
  | same => exact Or.inl hafter
  | set written before moved hbefore hid hadvances hconsistent =>
      by_cases hsame : id = written
      · subst hsame
        rw [TaskStore.get_set_self, Option.some.injEq] at hafter
        subst hafter
        exact Or.inr ⟨before, hbefore, hadvances, hconsistent⟩
      · rw [TaskStore.get_set_of_ne _ hsame] at hafter
        exact Or.inl hafter

theorem Write.tasks_advance (h : Write store next) : TasksAdvance store next where
  advances id before after hbefore hafter := by
    rcases h.get_eq hafter with hsame | ⟨old, hold, hadvances, -⟩
    · exact Or.inl (Option.some.inj (hsame.symm.trans hbefore))
    · obtain rfl := Option.some.inj (hold.symm.trans hbefore)
      exact Or.inr hadvances
  terminal id before after hbefore hafter hterminal := by
    rcases h.get_eq hafter with hsame | ⟨old, hold, hadvances, -⟩
    · exact Option.some.inj (hsame.symm.trans hbefore)
    · obtain rfl := Option.some.inj (hold.symm.trans hbefore)
      exact absurd hterminal hadvances.not_terminal
  pending id after hnone hafter := by
    rcases h.get_eq hafter with hsame | ⟨old, hold, -, -⟩
    · rw [hnone] at hsame
      cases hsame
    · rw [hnone] at hold
      cases hold

theorem Write.consistent (h : Write store next)
    (hconsistent : ∀ id task, store.get id = some task → Consistent task) :
    ∀ id task, next.get id = some task → Consistent task := by
  intro id after hafter
  rcases h.get_eq hafter with hsame | ⟨before, hbefore, -, hkeeps⟩
  · exact hconsistent id after hsame
  · exact hkeeps (hconsistent id before hbefore)

/-- The state in which a worker's task may be: as the worker left it, or cancelled. -/
def Phase.Expects : Phase → TaskState → Prop
  | .spawned, state => state = .pending ∨ state = .cancelled
  | .processing, state => state = .running ∨ state = .cancelled

/-- A worker's task, if it is still stored, is in a state that the worker expects. -/
def PhaseOk (store : TaskStore) (worker : Worker) : Prop :=
  ∀ task, store.get worker.taskId = some task → worker.phase.Expects task.state

/-- The first write moves a pending task, and leaves a worker that expects what it wrote. -/
theorem start_task_write {id message : String}
    (hphase : PhaseOk store { taskId := id, message, phase := .spawned })
    (h : startTask store id = some next) :
    Write store next ∧ PhaseOk next { taskId := id, message, phase := .processing } ∧
      ∀ other, other ≠ id → next.get other = store.get other := by
  unfold startTask at h
  cases hget : store.get id with
  | none =>
      rw [hget, Option.some.injEq] at h
      subst h
      refine ⟨.same, ?_, fun _ _ => rfl⟩
      intro task htask
      rw [hget] at htask
      cases htask
  | some task =>
      simp only [hget] at h
      split at h
      case isTrue => cases h
      case isFalse hcancelled =>
        -- A worker that is spawned finds its task pending, unless it was cancelled or evicted.
        have hpending : task.state = .pending := (hphase task hget).resolve_right hcancelled
        obtain rfl := Option.some.inj h
        refine ⟨.set id task _ hget rfl ?_ ?_, ?_, ?_⟩
        · rw [hpending]
          exact .start
        · intro hconsistent
          have hcompleted := hconsistent.completed_at
          have hresponse := hconsistent.response
          rw [hpending] at hcompleted hresponse
          exact ⟨by simpa [TaskState.IsTerminal] using hcompleted, by simpa using hresponse⟩
        · intro written hwritten
          rw [TaskStore.get_set_self, Option.some.injEq] at hwritten
          rw [← hwritten]
          exact Or.inl rfl
        · exact fun other hother => TaskStore.get_set_of_ne _ hother _

/-- The final write moves a running task. -/
theorem finish_task_write {id message : String}
    (hphase : PhaseOk store { taskId := id, message, phase := .processing })
    (result : Except String String) (now : Nat) :
    Write store (finishTask store id result now) ∧
      ∀ other, other ≠ id → (finishTask store id result now).get other = store.get other := by
  unfold finishTask
  cases hget : store.get id with
  | none => exact ⟨.same, fun _ _ => rfl⟩
  | some task =>
      by_cases hcancelled : task.state = .cancelled
      · simp only [hcancelled, if_true]
        exact ⟨.same, fun _ _ => trivial⟩
      · have hrunning : task.state = .running := (hphase task hget).resolve_right hcancelled
        simp only [hcancelled, if_false]
        cases result with
        | ok response =>
            refine ⟨.set id task _ hget rfl ?_ ?_, ?_⟩
            · rw [hrunning]
              exact .complete
            · exact fun _ => ⟨by simp [TaskState.IsTerminal], by simp⟩
            · exact fun other hother => TaskStore.get_set_of_ne _ hother _
        | error e =>
            refine ⟨.set id task _ hget rfl ?_ ?_, ?_⟩
            · rw [hrunning]
              exact .fail
            · exact fun _ => ⟨by simp [TaskState.IsTerminal], by simp⟩
            · exact fun other hother => TaskStore.get_set_of_ne _ hother _

/-- A cancellation moves a pending or running task, which every worker expects. -/
theorem cancel_task_write (store : TaskStore) (id : String) (now : Nat) :
    Write store (cancelTask store id now) ∧
      ∀ worker, PhaseOk store worker → PhaseOk (cancelTask store id now) worker := by
  unfold cancelTask
  cases hget : store.get id with
  | none => exact ⟨.same, fun _ h => h⟩
  | some task =>
      by_cases hactive : task.state = .pending ∨ task.state = .running
      · simp only [hactive, if_true]
        refine ⟨.set id task _ hget rfl ?_ ?_, ?_⟩
        · rcases hactive with hstate | hstate
          · rw [hstate]
            exact .cancelPending
          · rw [hstate]
            exact .cancelRunning
        · intro hconsistent
          have hresponse := hconsistent.response
          refine ⟨by simp [TaskState.IsTerminal], ?_⟩
          rcases hactive with hstate | hstate
          · rw [hstate] at hresponse
            simpa using hresponse
          · rw [hstate] at hresponse
            simpa using hresponse
        · intro worker hphase found hfound
          by_cases hsame : worker.taskId = id
          · rw [hsame, TaskStore.get_set_self, Option.some.injEq] at hfound
            rw [← hfound]
            cases worker.phase with
            | spawned => exact Or.inr rfl
            | processing => exact Or.inr rfl
          · rw [TaskStore.get_set_of_ne _ hsame] at hfound
            exact hphase found hfound
      · simp only [hactive, if_false]
        exact ⟨.same, fun _ h => h⟩

end Write

/-! ## The invariant -/

/-- The identifiers drawn so far: those of the inserted tasks and of the reserved ones. -/
def State.drawn (state : State) : List String :=
  state.inserted ++ state.reserved.map Task.id

/-- What holds between any two events. -/
structure Inv (capacity : Nat) (state : State) : Prop where
  capacity_eq : state.store.capacity = capacity
  well_formed : state.store.WellFormed
  order_suffix : state.store.order <:+ state.inserted
  consistent : ∀ id task, state.store.get id = some task → Consistent task
  reserved_new : ∀ task ∈ state.reserved, ∃ id now message sender,
    task = newTask id now message sender
  drawn_nodup : state.drawn.Nodup
  drawn_counted : ∀ id ∈ state.drawn, ∃ now count, count < state.counter ∧
    id = generateTaskId now count
  workers_nodup : (state.workers.map Worker.taskId).Nodup
  workers_inserted : ∀ worker ∈ state.workers, worker.taskId ∈ state.inserted
  workers_phase : ∀ worker ∈ state.workers, PhaseOk state.store worker

theorem new_inv (capacity : Nat) : Inv capacity (.new capacity) where
  capacity_eq := rfl
  well_formed := TaskStore.new_well_formed capacity
  order_suffix := List.suffix_rfl
  consistent id task h := by cases h
  reserved_new task h := by cases h
  drawn_nodup := List.nodup_nil
  drawn_counted id h := by cases h
  workers_nodup := List.nodup_nil
  workers_inserted worker h := by cases h
  workers_phase worker h := by cases h

section Inv

variable {capacity : Nat} {state : State}

/-- A stored task has been inserted. -/
theorem Inv.inserted_of_get (hinv : Inv capacity state) {id : String} {task : Task}
    (h : state.store.get id = some task) : id ∈ state.inserted := by
  refine hinv.order_suffix.subset ((hinv.well_formed.mem_order_iff id).mpr ?_)
  rw [TaskStore.get] at h
  simp [h]

/-- A write keeps the invariant, if the workers that remain expect what it wrote. -/
theorem Inv.write (hinv : Inv capacity state) {store : TaskStore} {workers : List Worker}
    (hwrite : Write state.store store) (hnodup : (workers.map Worker.taskId).Nodup)
    (hinserted : ∀ worker ∈ workers, worker.taskId ∈ state.inserted)
    (hphase : ∀ worker ∈ workers, PhaseOk store worker) :
    Inv capacity { state with store, workers } where
  capacity_eq := hwrite.capacity_eq.trans hinv.capacity_eq
  well_formed := hwrite.well_formed hinv.well_formed
  order_suffix := by
    show store.order <:+ state.inserted
    rw [hwrite.order_eq]
    exact hinv.order_suffix
  consistent := hwrite.consistent hinv.consistent
  reserved_new := hinv.reserved_new
  drawn_nodup := hinv.drawn_nodup
  drawn_counted := hinv.drawn_counted
  workers_nodup := hnodup
  workers_inserted := hinserted
  workers_phase := hphase

/-- The identifier that the counter spells next is new. -/
theorem Inv.next_id_fresh (hinv : Inv capacity state) (now : Nat) :
    generateTaskId now state.counter ∉ state.drawn := by
  intro hmem
  obtain ⟨other, count, hlt, heq⟩ := hinv.drawn_counted _ hmem
  have hcount := task_id_injective heq
  omega

/-- Drawing an identifier keeps the invariant. -/
theorem Inv.reserve (hinv : Inv capacity state) (now : Nat) (message : String)
    (sender : Option String) :
    Inv capacity { state with
      counter := state.counter + 1
      reserved := state.reserved ++
        [newTask (generateTaskId now state.counter) now message sender] } where
  capacity_eq := hinv.capacity_eq
  well_formed := hinv.well_formed
  order_suffix := hinv.order_suffix
  consistent := hinv.consistent
  reserved_new task hmem := by
    rcases List.mem_append.mp hmem with hmem | hmem
    · exact hinv.reserved_new task hmem
    · exact ⟨_, _, _, _, List.mem_singleton.mp hmem⟩
  drawn_nodup := by
    have hfresh := hinv.next_id_fresh now
    show (state.inserted ++ (state.reserved ++ [_]).map Task.id).Nodup
    rw [List.map_append, ← List.append_assoc]
    refine List.nodup_append.mpr ⟨hinv.drawn_nodup, by simp, ?_⟩
    intro id hmem other hother heq
    rw [List.map_singleton, List.mem_singleton] at hother
    rw [heq, hother] at hmem
    exact hfresh hmem
  drawn_counted id hmem := by
    have hmem : id ∈ state.inserted ++ (state.reserved ++ [_]).map Task.id := hmem
    rw [List.map_append, ← List.append_assoc] at hmem
    rcases List.mem_append.mp hmem with hmem | hmem
    · obtain ⟨now, count, hlt, heq⟩ := hinv.drawn_counted id hmem
      exact ⟨now, count, Nat.lt_succ_of_lt hlt, heq⟩
    · rw [List.map_singleton, List.mem_singleton] at hmem
      exact ⟨now, state.counter, Nat.lt_succ_self _, hmem⟩
  workers_nodup := hinv.workers_nodup
  workers_inserted := hinv.workers_inserted
  workers_phase := hinv.workers_phase

/-- Moving a reserved task to the inserted ones draws no identifier. -/
theorem drawn_insert_perm {index : Nat} {task : Task} (hget : state.reserved[index]? = some task) :
    ((state.inserted ++ [task.id]) ++ (state.reserved.eraseIdx index).map Task.id).Perm
      state.drawn := by
  obtain ⟨hlt, rfl⟩ := List.getElem?_eq_some_iff.mp hget
  rw [List.append_assoc, List.singleton_append, ← List.map_cons]
  exact ((List.getElem_cons_eraseIdx_perm hlt).map Task.id).append_left state.inserted

/-- A reserved task has not been inserted. -/
theorem Inv.reserved_not_inserted (hinv : Inv capacity state) {index : Nat} {task : Task}
    (hget : state.reserved[index]? = some task) : task.id ∉ state.inserted := by
  have hnodup := (drawn_insert_perm hget).nodup_iff.mpr hinv.drawn_nodup
  have hfront := (List.nodup_append.mp hnodup).1
  intro hmem
  exact (List.nodup_append.mp hfront).2.2 _ hmem _ (List.mem_singleton_self _) rfl

/-- Inserting a reserved task keeps the invariant. -/
theorem Inv.insert (hinv : Inv capacity state) {index : Nat} {task : Task}
    (hget : state.reserved[index]? = some task) {store : TaskStore}
    (hcapacity : store.capacity = state.store.capacity)
    (hinsert : state.store.Appends task store ∨ state.store.ReplacesOldest task store) :
    Inv capacity { state with
      store
      reserved := state.reserved.eraseIdx index
      workers := state.workers ++
        [{ taskId := task.id, message := task.message, phase := .spawned }]
      inserted := state.inserted ++ [task.id] } := by
  have hmem : task ∈ state.reserved := List.mem_of_getElem? hget
  have hfresh := hinv.reserved_not_inserted hget
  have horder : task.id ∉ state.store.order := fun h => hfresh (hinv.order_suffix.subset h)
  obtain ⟨id, now, message, sender, htask⟩ := hinv.reserved_new task hmem
  refine ⟨?_, ?_, ?_, ?_, ?_, ?_, ?_, ?_, ?_, ?_⟩
  · exact hcapacity.trans hinv.capacity_eq
  -- The identifier is fresh, so the insertion replaces no stored task.
  · rcases hinsert with happends | hreplaces
    · exact hinv.well_formed.appends hcapacity horder happends
    · exact hinv.well_formed.replaces_oldest hcapacity horder hreplaces
  · show store.order <:+ state.inserted ++ [task.id]
    obtain ⟨front, hfront⟩ := hinv.order_suffix
    rcases hinsert with ⟨-, hnext, -⟩ | ⟨-, oldest, rest, hold, hnext, -⟩
    · exact ⟨front, by rw [hnext, ← hfront, List.append_assoc]⟩
    · exact ⟨front ++ [oldest], by rw [hnext, ← hfront, hold]; simp⟩
  · intro id found hfound
    rcases TaskStore.get_of_insert hinsert hfound with ⟨-, rfl⟩ | ⟨-, hold⟩
    · rw [htask]
      exact ⟨by simp [newTask, TaskState.IsTerminal], by simp [newTask]⟩
    · exact hinv.consistent id found hold
  · intro other hother
    exact hinv.reserved_new other (List.mem_of_mem_eraseIdx hother)
  · exact (drawn_insert_perm hget).nodup_iff.mpr hinv.drawn_nodup
  · intro other hother
    exact hinv.drawn_counted other ((drawn_insert_perm hget).subset hother)
  · rw [List.map_append, List.map_singleton]
    refine List.nodup_append.mpr ⟨hinv.workers_nodup, by simp, ?_⟩
    intro other hother taskId htaskId heq
    obtain ⟨worker, hworker, rfl⟩ := List.mem_map.mp hother
    have htask : worker.taskId = task.id := heq.trans (List.mem_singleton.mp htaskId)
    exact hfresh (htask ▸ hinv.workers_inserted worker hworker)
  · intro worker hworker
    rcases List.mem_append.mp hworker with hworker | hworker
    · exact List.mem_append_left _ (hinv.workers_inserted worker hworker)
    · rw [List.mem_singleton.mp hworker]
      exact List.mem_append_right _ (List.mem_singleton_self _)
  · intro worker hworker found hfound
    rcases List.mem_append.mp hworker with hworker | hworker
    · rcases TaskStore.get_of_insert hinsert hfound with ⟨hsame, -⟩ | ⟨-, hold⟩
      · exact absurd (hsame ▸ hinv.workers_inserted worker hworker) hfresh
      · exact hinv.workers_phase worker hworker found hold
    · rw [List.mem_singleton.mp hworker] at hfound ⊢
      rcases TaskStore.get_of_insert hinsert hfound with ⟨-, rfl⟩ | ⟨hne, -⟩
      · rw [htask]
        exact Or.inl rfl
      · exact absurd rfl hne

end Inv

/-! ## Steps -/

section Workers

variable {workers : List Worker} {index : Nat} {worker : Worker}

/-- A worker that goes on keeps its place and its task. -/
theorem map_task_id_set (hget : workers[index]? = some worker) (phase : Phase) :
    (workers.set index { worker with phase }).map Worker.taskId =
      workers.map Worker.taskId := by
  obtain ⟨hlt, rfl⟩ := List.getElem?_eq_some_iff.mp hget
  rw [List.map_set]
  refine List.ext_getElem (by simp) fun other hleft hright => ?_
  by_cases hsame : index = other
  · subst hsame
    simp
  · simp [hsame]

/-- The other workers have other tasks. -/
theorem task_id_ne_of_mem_set (hnodup : (workers.map Worker.taskId).Nodup)
    (hget : workers[index]? = some worker) (phase : Phase) {other : Worker}
    (hmem : other ∈ workers.set index { worker with phase }) :
    other = { worker with phase } ∨ (other ∈ workers ∧ other.taskId ≠ worker.taskId) := by
  obtain ⟨hlt, hworker⟩ := List.getElem?_eq_some_iff.mp hget
  by_cases hsame : other.taskId = worker.taskId
  -- Workers with one task are one worker, as no two are spawned for an identifier.
  · refine Or.inl (List.inj_on_of_nodup_map ?_ hmem (List.mem_set hlt _) hsame)
    rw [map_task_id_set hget]
    exact hnodup
  · refine Or.inr ⟨(List.mem_or_eq_of_mem_set hmem).resolve_right ?_, hsame⟩
    rintro rfl
    exact hsame rfl

/-- After a worker has ended, no worker has its task. -/
theorem task_id_ne_of_mem_erase_idx (hnodup : (workers.map Worker.taskId).Nodup)
    (hget : workers[index]? = some worker) {other : Worker}
    (hmem : other ∈ workers.eraseIdx index) : other.taskId ≠ worker.taskId := by
  obtain ⟨hlt, rfl⟩ := List.getElem?_eq_some_iff.mp hget
  have hperm := (List.getElem_cons_eraseIdx_perm hlt).map Worker.taskId
  rw [List.map_cons] at hperm
  have hfirst := (List.nodup_cons.mp (hperm.nodup_iff.mpr hnodup)).1
  intro heq
  exact hfirst (heq ▸ List.mem_map_of_mem hmem)

end Workers

/-- Untouched tasks are on their lifecycle. -/
theorem TasksAdvance.refl (store : TaskStore) : TasksAdvance store store :=
  Write.same.tasks_advance

/-- Insertion adds a pending task and moves none. -/
theorem tasks_advance_insert {store next : TaskStore} {task : Task}
    (hpending : task.state = .pending) (hnew : store.get task.id = none)
    (h : store.Appends task next ∨ store.ReplacesOldest task next) :
    TasksAdvance store next where
  advances id before after hbefore hafter := by
    rcases TaskStore.get_of_insert h hafter with ⟨rfl, -⟩ | ⟨-, hold⟩
    · rw [hnew] at hbefore
      cases hbefore
    · exact Or.inl (Option.some.inj (hold.symm.trans hbefore))
  terminal id before after hbefore hafter _ := by
    rcases TaskStore.get_of_insert h hafter with ⟨rfl, -⟩ | ⟨-, hold⟩
    · rw [hnew] at hbefore
      cases hbefore
    · exact Option.some.inj (hold.symm.trans hbefore)
  pending id after hnone hafter := by
    rcases TaskStore.get_of_insert h hafter with ⟨-, rfl⟩ | ⟨-, hold⟩
    · exact hpending
    · rw [hnone] at hold
      cases hold

section Step

variable {hubUrl : Option String} {capacity : Nat} {state next : State} {event : Event}

/-- A write leaves the order of the store as it was. -/
theorem inserts_in_order_of_write {store : TaskStore} (hwrite : Write state.store store)
    (workers : List Worker) : InsertsInOrder state { state with store, workers } :=
  Or.inl ⟨hwrite.order_eq, rfl⟩

/-- The remaining workers expect the store that a worker's own write leaves. -/
theorem Inv.phase_ok_of_frame (hinv : Inv capacity state) {store : TaskStore} {id : String}
    (hframe : ∀ other, other ≠ id → store.get other = state.store.get other) {worker : Worker}
    (hmem : worker ∈ state.workers) (hne : worker.taskId ≠ id) : PhaseOk store worker := by
  intro task htask
  rw [hframe _ hne] at htask
  exact hinv.workers_phase worker hmem task htask

/-- A worker ends with a write to its own task only. -/
theorem Inv.worker_ends (hinv : Inv capacity state) {index : Nat} {worker : Worker}
    (hget : state.workers[index]? = some worker) {store : TaskStore}
    (hwrite : Write state.store store)
    (hframe : ∀ other, other ≠ worker.taskId → store.get other = state.store.get other) :
    Inv capacity { state with store, workers := state.workers.eraseIdx index } := by
  refine hinv.write hwrite ?_ ?_ ?_
  · exact hinv.workers_nodup.sublist ((List.eraseIdx_sublist _ _).map _)
  · exact fun other hother => hinv.workers_inserted other (List.mem_of_mem_eraseIdx hother)
  · intro other hother
    exact hinv.phase_ok_of_frame hframe (List.mem_of_mem_eraseIdx hother)
      (task_id_ne_of_mem_erase_idx hinv.workers_nodup hget hother)

/-- A worker goes on after a write to its own task that its new phase expects. -/
theorem Inv.worker_goes_on (hinv : Inv capacity state) {index : Nat} {worker : Worker}
    (hget : state.workers[index]? = some worker) {store : TaskStore}
    (hwrite : Write state.store store) {phase : Phase}
    (hphase : PhaseOk store { worker with phase })
    (hframe : ∀ other, other ≠ worker.taskId → store.get other = state.store.get other) :
    Inv capacity { state with
      store, workers := state.workers.set index { worker with phase } } := by
  refine hinv.write hwrite ?_ ?_ ?_
  · rw [map_task_id_set hget phase]
    exact hinv.workers_nodup
  · intro other hother
    rcases task_id_ne_of_mem_set hinv.workers_nodup hget phase hother with rfl | ⟨hother, -⟩
    · exact hinv.workers_inserted worker (List.mem_of_getElem? hget)
    · exact hinv.workers_inserted other hother
  · intro other hother
    rcases task_id_ne_of_mem_set hinv.workers_nodup hget phase hother with rfl | ⟨hother, hne⟩
    · exact hphase
    · exact hinv.phase_ok_of_frame hframe hother hne

/-- An insertion of a reserved task, as a step. -/
theorem Inv.insert_spec (hinv : Inv capacity state) {index : Nat} {task : Task}
    (hget : state.reserved[index]? = some task) {store : TaskStore}
    (hcapacity : store.capacity = state.store.capacity)
    (hinsert : state.store.Appends task store ∨ state.store.ReplacesOldest task store) :
    let next := { state with
      store
      reserved := state.reserved.eraseIdx index
      workers := state.workers ++
        [{ taskId := task.id, message := task.message, phase := .spawned }]
      inserted := state.inserted ++ [task.id] }
    Inv capacity next ∧ TasksAdvance state.store next.store ∧ InsertsInOrder state next := by
  have hmem := List.mem_of_getElem? hget
  obtain ⟨id, now, message, sender, htask⟩ := hinv.reserved_new task hmem
  have hnew : state.store.get task.id = none := by
    by_contra hstored
    obtain ⟨stored, hstored⟩ := Option.ne_none_iff_exists'.mp hstored
    exact hinv.reserved_not_inserted hget (hinv.inserted_of_get hstored)
  exact ⟨hinv.insert hget hcapacity hinsert,
    tasks_advance_insert (by rw [htask]; rfl) hnew hinsert, Or.inr ⟨task, hmem, rfl, hinsert⟩⟩

/-- Every event keeps the invariant, moves tasks only along their lifecycle, and changes the
order only by an insertion. -/
theorem step_spec (hcapacity : 1 ≤ capacity) (hinv : Inv capacity state)
    (h : step hubUrl state event = some next) :
    Inv capacity next ∧ TasksAdvance state.store next.store ∧ InsertsInOrder state next := by
  -- All events but the insertion write to tasks that are stored.
  have hspec : ∀ {store : TaskStore} {workers : List Worker}, Write state.store store →
      Inv capacity { state with store, workers } →
      Inv capacity { state with store, workers } ∧ TasksAdvance state.store store ∧
        InsertsInOrder state { state with store, workers } := fun hwrite hnext =>
    ⟨hnext, hwrite.tasks_advance, inserts_in_order_of_write hwrite _⟩
  cases event with
  | reserve now message sender =>
      obtain rfl := Option.some.inj h
      exact ⟨hinv.reserve now message sender, .refl _, Or.inl ⟨rfl, rfl⟩⟩
  | insert index =>
      simp only [step] at h
      cases hget : state.reserved[index]? with
      | none => simp [hget] at h
      | some task =>
          simp only [hget] at h
          obtain ⟨store, hstore, hinsertCapacity, hinsert⟩ :=
            TaskStore.insert_eq hinv.well_formed (by rw [hinv.capacity_eq]; exact hcapacity) task
          rw [hstore, Option.map_some, Option.some.injEq] at h
          subst h
          exact hinv.insert_spec hget hinsertCapacity hinsert
  | start index =>
      simp only [step] at h
      split at h
      case h_1 taskId message hget =>
        have hphase := hinv.workers_phase _ (List.mem_of_getElem? hget)
        split at h
        case h_1 hcancelled =>
          obtain rfl := Option.some.inj h
          exact hspec .same (hinv.worker_ends hget .same fun _ _ => rfl)
        case h_2 store hstart =>
          obtain rfl := Option.some.inj h
          obtain ⟨hwrite, hprocessing, hframe⟩ := start_task_write hphase hstart
          exact hspec hwrite (hinv.worker_goes_on hget hwrite hprocessing hframe)
      case h_2 => cases h
  | finish index now hub =>
      simp only [step] at h
      split at h
      case h_1 taskId message hget =>
        have hphase := hinv.workers_phase _ (List.mem_of_getElem? hget)
        split at h
        case h_1 =>
          obtain rfl := Option.some.inj h
          exact hspec .same (hinv.worker_ends hget .same fun _ _ => rfl)
        case h_2 result hresult =>
          obtain rfl := Option.some.inj h
          obtain ⟨hwrite, hframe⟩ := finish_task_write hphase result now
          exact hspec hwrite (hinv.worker_ends hget hwrite hframe)
      case h_2 => cases h
  | cancel id now =>
      obtain rfl := Option.some.inj h
      obtain ⟨hwrite, hphase⟩ := cancel_task_write state.store id now
      refine hspec hwrite (hinv.write hwrite hinv.workers_nodup hinv.workers_inserted ?_)
      exact fun worker hworker => hphase worker (hinv.workers_phase worker hworker)
  | get id =>
      obtain rfl := Option.some.inj h
      exact ⟨hinv, .refl _, Or.inl ⟨rfl, rfl⟩⟩
  | list =>
      obtain rfl := Option.some.inj h
      exact ⟨hinv, .refl _, Or.inl ⟨rfl, rfl⟩⟩

end Step

/-- The invariant holds in every state of a run. -/
theorem run_inv {hubUrl : Option String} {capacity : Nat} {events : List Event} {final : State}
    (hcapacity : 1 ≤ capacity) (hrun : run (step hubUrl) (.new capacity) events = some final) :
    Inv capacity final :=
  run_invariant (fun hinv h => (step_spec hcapacity hinv h).1) (new_inv capacity) hrun

/-- In every state that the server can reach, each stored task has the fields of its state, the
order lists exactly the stored tasks, the last ones that were inserted, and any next event moves
tasks only along their lifecycle and evicts only the oldest one, for an insertion at capacity. -/
theorem lifecycle {hubUrl : Option String} {capacity : Nat} {events : List Event} {final : State}
    (hcapacity : 1 ≤ capacity) (hrun : run (step hubUrl) (.new capacity) events = some final) :
    (∀ id task, final.store.get id = some task → Consistent task) ∧
    (final.store.order.Nodup ∧
      (∀ id, id ∈ final.store.order ↔ (final.store.tasks id).isSome) ∧
      final.store.order.length ≤ capacity ∧ final.store.order <:+ final.inserted) ∧
    ∀ event next, step hubUrl final event = some next →
      TasksAdvance final.store next.store ∧ InsertsInOrder final next := by
  have hinv := run_inv hcapacity hrun
  have hwell := hinv.well_formed
  have hlength : final.store.order.length ≤ capacity := hinv.capacity_eq ▸ hwell.length_le
  refine ⟨hinv.consistent, ⟨hwell.order_nodup, hwell.mem_order_iff, hlength,
    hinv.order_suffix⟩, ?_⟩
  intro event next h
  exact (step_spec hcapacity hinv h).2

/-- A task that is cancelled while it is processed, in a store for one task. -/
def cancelledWhileProcessed : List Event :=
  [.reserve 7 "hi" none, .insert 0, .start 0, .cancel "task-7-0" 8]

theorem cancelled_task_consistent :
    ∃ final, run (step none) (.new 1) cancelledWhileProcessed = some final ∧
      final.store.order.length ≤ 1 ∧
      ∀ id task, final.store.get id = some task → Consistent task := by
  have hrun : (run (step none) (.new 1) cancelledWhileProcessed).isSome = true := by rfl
  obtain ⟨final, hfinal⟩ := Option.isSome_iff_exists.mp hrun
  obtain ⟨hconsistent, ⟨-, -, hlength, -⟩, -⟩ := lifecycle (by decide) hfinal
  exact ⟨final, hfinal, hlength, hconsistent⟩

end CorvidNano.A2a.Lifecycle
