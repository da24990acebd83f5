import CorvidNano.Runtime.Loop
import Mathlib.Algebra.GroupWithZero.Nat

/-!
# Room in the event channel

The loop's task is the only one that takes events out of the channel, so a send of its own into a
full channel never returns. `loop_sends_find_room` says which runs are safe: those in which a
plugin is added, a handler returns actions and another task injects an event only while the
channel has room for the sends that are then owed. `emits_fill_channel` is a run that is not.
-/

namespace CorvidNano.Runtime

open Runs

/-- Whenever the loop's task is at a send, the channel has a free place. -/
def SendsFindRoom (state : State) : Prop :=
  ∀ event rest, state.todo = .notify event :: rest → state.queue.length < channelCapacity

/-- The sends that an action can lead to. -/
def Action.sends : Action → Nat
  | .sendMessage _ _ => 1
  | .storeState _ _ => 0
  | .emitEvent _ _ => 1
  | .log _ _ => 0

/-- The sends that an item owes. -/
def Todo.owed : Todo → Nat
  | .dispatch _ => 0
  | .deliver _ _ _ => 0
  | .execute _ _ action => action.sends
  | .notify _ => 1
  | .stop => 0

/-- The sends that the loop owes before it reads the channel again. -/
def owed (todo : List Todo) : Nat :=
  (todo.map Todo.owed).sum

/-- The channel has room for what the move adds to it or makes the loop owe. -/
def RoomFor (state : State) : Move → Prop
  | .addPlugin _ => state.queue.length < channelCapacity
  | .inject _ => state.queue.length + owed state.todo < channelCapacity
  | .proceed (.ok actions) _ =>
      match state.todo with
      | .deliver _ _ _ :: _ =>
          state.queue.length + owed state.todo + (actions.map Action.sends).sum ≤ channelCapacity
      | _ => True
  | _ => True

instance (state : State) (move : Move) : Decidable (RoomFor state move) := by
  unfold RoomFor
  split
  · infer_instance
  · infer_instance
  · split <;> infer_instance
  · infer_instance

/-! ## Owed sends -/

@[simp] theorem owed_nil : owed [] = 0 := rfl

@[simp] theorem owed_cons (item : Todo) (rest : List Todo) :
    owed (item :: rest) = item.owed + owed rest := by
  simp [owed]

@[simp] theorem owed_append (first second : List Todo) :
    owed (first ++ second) = owed first + owed second := by
  simp [owed]

/-- Events that are yet to be dispatched owe nothing. -/
theorem owed_map_dispatch {α : Type*} (items : List α) (event : α → Event) :
    owed (items.map fun item => .dispatch (event item)) = 0 := by
  induction items with
  | nil => rfl
  | cons item rest ih => simp [Todo.owed, ih]

/-- Deliveries owe nothing until the handler has returned. -/
theorem owed_map_deliver (entries : List (Plugin × Nat)) (event : Event) :
    owed (entries.map fun entry => .deliver entry.2 entry.1 event) = 0 := by
  induction entries with
  | nil => rfl
  | cons entry rest ih => simp [Todo.owed, ih]

/-- A handler's actions owe the sends among them. -/
theorem owed_map_execute (index : Nat) (plugin : Plugin) (actions : List Action) :
    owed (actions.map (.execute index plugin)) = (actions.map Action.sends).sum := by
  induction actions with
  | nil => rfl
  | cons action rest ih => simp [Todo.owed, ih]

/-! ## Runs with room -/

/-- The channel has room for every send that the loop owes. -/
def HasRoom (state : State) : Prop :=
  state.queue.length + owed state.todo ≤ channelCapacity

/-- Room for what is owed is room for what the items behind the first owe. -/
theorem HasRoom.behind {state : State} (hroom : HasRoom state) {item : Todo} {rest : List Todo}
    (htodo : state.todo = item :: rest) :
    state.queue.length + owed rest ≤ channelCapacity := by
  rw [HasRoom, htodo, owed_cons] at hroom
  omega

/-- A move with room keeps room for what is owed afterwards. -/
theorem step_has_room {state next : State} {move : Move} (hbefore : HasRoom state)
    (hallowed : RoomFor state move) (h : step state move = some next) : HasRoom next := by
  have hroom : state.queue.length + owed state.todo ≤ channelCapacity := hbefore
  unfold HasRoom
  cases transition_of_step h with
  | addPlugin plugin htodo =>
      have hlt : state.queue.length < channelCapacity := hallowed
      simp only [owed_cons, owed_nil, Todo.owed]
      omega
  | run htodo => simpa using hroom
  | poll messages htodo =>
      rw [owed_map_dispatch]
      show state.queue.length + 0 ≤ _
      omega
  -- A dispatch owes nothing yet, and the event that is taken leaves its place free.
  | receive event queue hqueue htodo =>
      rw [hqueue, List.length_cons] at hroom
      simp only [owed_cons, owed_nil, Todo.owed]
      omega
  | shutdown htodo =>
      simp only [owed_cons, owed_nil, Todo.owed]
      omega
  | inject event =>
      have hlt : state.queue.length + owed state.todo < channelCapacity := hallowed
      simp only [List.length_append, List.length_singleton]
      omega
  | dispatch result sent event rest htodo =>
      rw [owed_append, owed_map_deliver, Nat.zero_add]
      exact hbefore.behind htodo
  -- The actions are owed as soon as the handler returns, before any of them is executed.
  | handled sent index plugin event actions rest htodo =>
      have hle : state.queue.length + owed state.todo + (actions.map Action.sends).sum ≤
          channelCapacity := by
        simpa [RoomFor, htodo] using hallowed
      rw [htodo, owed_cons] at hle
      rw [owed_append, owed_map_execute]
      show state.queue.length + _ ≤ _
      omega
  | failed sent index plugin event text rest htodo => exact hbefore.behind htodo
  | sends result sent index plugin action event rest htodo haction =>
      have hone : action.sends = 1 := by
        rcases haction with ⟨_, _, _, rfl, -⟩ | ⟨_, _, rfl, -⟩
        · rfl
        · rfl
      rw [htodo, owed_cons, Todo.owed, hone] at hroom
      simpa [Todo.owed] using hroom
  | stores result sent index plugin key value rest htodo => exact hbefore.behind htodo
  | passes result sent index plugin action rest htodo haction => exact hbefore.behind htodo
  | notifies result sent event rest htodo hlt =>
      rw [htodo, owed_cons, Todo.owed] at hroom
      simp only [List.length_append, List.length_singleton]
      omega
  | stop result sent rest htodo => exact hbefore.behind htodo

/-- Room for what is owed is room for the send that comes next. -/
theorem HasRoom.sends_find_room {state : State} (hroom : HasRoom state) :
    SendsFindRoom state := by
  intro event rest htodo
  unfold HasRoom at hroom
  rw [htodo, owed_cons, Todo.owed] at hroom
  omega

/-- In a run whose moves all have room, every send of the loop's task finds a free place. -/
theorem loop_sends_find_room {moves : List Move} {final : State}
    (hrun : run (restrict step RoomFor) .new moves = some final) : SendsFindRoom final :=
  (run_restrict_invariant step_has_room (Nat.zero_le _) hrun).sends_find_room

/-- A plugin that gets every event. -/
def watcher : Plugin where
  name := "watcher"
  subscriptions := [.all]

/-- The runtime starts with one plugin, whose load is announced. -/
def startMoves : List Move :=
  [.addPlugin watcher, .proceed (.ok []) (.ok "tx"), .run, .receive]

/-- An action of the plugin that puts an event into the channel. -/
def emitTick : Action := .emitEvent "tick" .null

/-- The loop's next item, where no plugin and no transport is asked. -/
def advance : Move := .proceed (.ok []) (.ok "tx")

/-- The plugin is handed the event of its load, and its first action is executed, whose event is due
to be sent. -/
theorem start_moves_find_room :
    ∃ final, run (restrict step RoomFor) .new (startMoves ++
        [advance, .proceed (.ok [emitTick, emitTick]) (.ok "tx"), advance]) = some final ∧
      final.todo = [.notify (.custom "tick" .null), .execute 0 watcher emitTick] ∧
      final.log.length = 2 ∧ SendsFindRoom final := by
  have hrun : ∃ final, run (restrict step RoomFor) .new (startMoves ++
        [advance, .proceed (.ok [emitTick, emitTick]) (.ok "tx"), advance]) = some final ∧
      final.todo = [.notify (.custom "tick" .null), .execute 0 watcher emitTick] ∧
      final.log.length = 2 :=
    ⟨_, rfl, rfl, rfl⟩
  obtain ⟨final, hfinal, htodo, hlog⟩ := hrun
  exact ⟨final, hfinal, htodo, hlog, loop_sends_find_room hfinal⟩

/-- Emitted events pile up in the channel, because the loop does not read it in between. -/
theorem run_emits (n : Nat) {state : State} {rest : List Todo}
    (htodo : state.todo = List.replicate n (.execute 0 watcher emitTick) ++ rest)
    (hroom : state.queue.length + n ≤ channelCapacity) :
    ∃ final, run step state (List.replicate (2 * n) advance) = some final ∧ final.todo = rest ∧
      final.queue.length = state.queue.length + n := by
  induction n generalizing state with
  | zero => exact ⟨state, rfl, by simpa using htodo, rfl⟩
  | succ n ih =>
      have hemit : step state advance = some { state with
          todo := .notify (.custom "tick" .null) ::
            (List.replicate n (.execute 0 watcher emitTick) ++ rest)
          log := state.log ++ [.executed 0 emitTick] } := by
        simp [step, advance, proceed, htodo, List.replicate_succ, emitTick]
      have hsend : step { state with
          todo := .notify (.custom "tick" .null) ::
            (List.replicate n (.execute 0 watcher emitTick) ++ rest)
          log := state.log ++ [.executed 0 emitTick] } advance = some { state with
          queue := state.queue ++ [.custom "tick" .null]
          todo := List.replicate n (.execute 0 watcher emitTick) ++ rest
          log := state.log ++ [.executed 0 emitTick] } := by
        have hlt : state.queue.length < channelCapacity := by omega
        simp [step, advance, proceed, hlt]
      obtain ⟨final, hfinal, hrest, hlength⟩ := @ih { state with
          queue := state.queue ++ [.custom "tick" .null]
          todo := List.replicate n (.execute 0 watcher emitTick) ++ rest
          log := state.log ++ [.executed 0 emitTick] } rfl (by simp; omega)
      refine ⟨final, ?_, hrest, by rw [hlength]; simp; omega⟩
      -- Each event takes two moves: the action is executed, then its send goes into the channel.
      have hsplit : List.replicate (2 * (n + 1)) advance =
          advance :: advance :: List.replicate (2 * n) advance := by
        rw [Nat.mul_succ, List.replicate_succ, List.replicate_succ]
      rw [hsplit]
      exact run_cons_eq_some.mpr ⟨_, hemit, run_cons_eq_some.mpr ⟨_, hsend, hfinal⟩⟩

/-- One handler returns 257 events to emit: the last send finds the channel full. -/
theorem emits_fill_channel :
    ¬ ∀ moves final, run step .new moves = some final → SendsFindRoom final := by
  intro h
  have hstart : ∃ state, run step .new (startMoves ++
      [advance, .proceed (.ok (List.replicate 257 emitTick)) (.ok "tx")]) = some state ∧
        state.todo = (List.replicate 257 emitTick).map (.execute 0 watcher) ++ [] ∧
          state.queue = [] :=
    ⟨_, rfl, rfl, rfl⟩
  obtain ⟨state, hrun, htodo, hqueue⟩ := hstart
  rw [List.append_nil, List.map_replicate, List.replicate_succ'] at htodo
  obtain ⟨full, hfull, hlast, hlength⟩ :=
    run_emits 256 htodo (by rw [hqueue]; decide)
  rw [hqueue] at hlength
  have hemit : step full advance = some { full with
      todo := [.notify (.custom "tick" .null)], log := full.log ++ [.executed 0 emitTick] } := by
    simp [step, advance, proceed, hlast, emitTick]
  have hall : run step .new ((startMoves ++
      [advance, .proceed (.ok (List.replicate 257 emitTick)) (.ok "tx")]) ++
        (List.replicate (2 * 256) advance ++ [advance])) = some { full with
          todo := [.notify (.custom "tick" .null)]
          log := full.log ++ [.executed 0 emitTick] } := by
    rw [run_append, hrun, Option.bind_some, run_append, hfull, Option.bind_some]
    exact run_cons_eq_some.mpr ⟨_, hemit, rfl⟩
  have hroom := h _ _ hall _ _ rfl
  have hlt : full.queue.length < 256 := hroom
  rw [hlength] at hlt
  exact absurd hlt (by decide)

end CorvidNano.Runtime
