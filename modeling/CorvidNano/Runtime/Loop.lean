import CorvidNano.Library.Runs
import CorvidNano.Runtime.Event

/-!
# The runtime's event loop

`Runtime` in `runtime.rs` as a machine. One task adds plugins, polls the transport, reads the
event channel, dispatches events and executes actions; what it still has to do before it comes
back to its `select!` is a list of items. Other tasks can only put events into the channel. An
event of the machine carries what plugins, transport and other tasks answer.

The log records each delivery with the plugin's snapshot and each executed action.
-/

namespace CorvidNano.Runtime

/-- The capacity of the event channel. -/
def channelCapacity : Nat := 256

/-- What the loop's task has to do next. -/
inductive Todo where
  /-- `dispatch_event`. -/
  | dispatch (event : Event)
  /-- `handle_event` of the plugin at a position, within `dispatch_event`. -/
  | deliver (index : Nat) (plugin : Plugin) (event : Event)
  /-- `execute_action` for the plugin at a position. -/
  | execute (index : Nat) (plugin : Plugin) (action : Action)
  /-- A send on `event_tx`. -/
  | notify (event : Event)
  /-- The end of `run`. -/
  | stop

/-- What the loop has done. -/
inductive Entry where
  | delivered (index : Nat) (event : Event) (snapshot : Values)
      (result : Except String (List Action))
  | executed (index : Nat) (action : Action)

/-- The runtime, with the events that the loop has taken, each with the plugins at that time, and
the log. -/
structure State where
  plugins : List Plugin
  store : StateStore
  queue : List Event
  running : Bool
  todo : List Todo
  taken : List (Event × List Plugin)
  log : List Entry

/-- `Runtime::new`. -/
def State.new : State where
  plugins := []
  store := .new
  queue := []
  running := false
  todo := []
  taken := []
  log := []

/-- What can happen. `proceed` is the next item of the loop's task, with the result of the
plugin's handler and the transport's answer to a send, of which an item uses at most one. -/
inductive Move where
  | addPlugin (plugin : Plugin)
  | run
  | poll (messages : List Message)
  | receive
  | shutdown
  | inject (event : Event)
  | proceed (result : Except String (List Action)) (sent : Except String String)

/-- The plugins that `dispatch_event` hands an event to, in registration order and with their
positions. -/
def subscribers (plugins : List Plugin) (event : Event) : List (Plugin × Nat) :=
  plugins.zipIdx.filter fun entry => entry.1.subscribed event.kind

/-- The loop's next item. -/
def proceed (state : State) (result : Except String (List Action))
    (sent : Except String String) : Option State :=
  match state.todo with
  | [] => none
  | .dispatch event :: rest =>
      some { state with
        todo := (subscribers state.plugins event).map
          (fun entry => .deliver entry.2 entry.1 event) ++ rest }
  | .deliver index plugin event :: rest =>
      let delivered := .delivered index event (state.store.snapshot plugin.name) result
      match result with
      | .ok actions =>
          some { state with
            todo := actions.map (.execute index plugin) ++ rest
            log := state.log ++ [delivered] }
      | .error _ => some { state with todo := rest, log := state.log ++ [delivered] }
  | .execute index plugin action :: rest =>
      let log := state.log ++ [.executed index action]
      match action with
      | .sendMessage recipient _ =>
          match sent with
          | .ok txId => some { state with todo := .notify (.messageSent recipient txId) :: rest, log }
          | .error _ => some { state with todo := rest, log }
      | .storeState key value =>
          some { state with todo := rest, log, store := state.store.set plugin.name key value }
      | .emitEvent kind data => some { state with todo := .notify (.custom kind data) :: rest, log }
      | .log _ _ => some { state with todo := rest, log }
  | .notify event :: rest =>
      -- `send` waits for a free place, and only this task frees places.
      if state.queue.length < channelCapacity then
        some { state with queue := state.queue ++ [event], todo := rest }
      else none
  | .stop :: rest => some { state with running := false, todo := rest }

/-- One move of the runtime. `add_plugin` and `run` borrow it exclusively, so plugins are added
only while it does not run; `select!` takes a poll, an event or the shutdown signal only when
nothing is left to do. -/
def step (state : State) : Move → Option State
  | .addPlugin plugin =>
      if state.running = false ∧ state.todo.isEmpty then
        some { state with
          plugins := state.plugins ++ [plugin]
          todo := [.notify (.pluginLoaded plugin.name)] }
      else none
  | .run =>
      if state.running = false ∧ state.todo.isEmpty then some { state with running := true }
      else none
  | .poll messages =>
      if state.running = true ∧ state.todo.isEmpty then
        some { state with
          todo := messages.map fun message => .dispatch (.messageReceived message)
          taken := state.taken ++
            messages.map fun message => (.messageReceived message, state.plugins) }
      else none
  | .receive =>
      match state.queue with
      | [] => none
      | event :: rest =>
          if state.running = true ∧ state.todo.isEmpty then
            some { state with
              queue := rest
              todo := [.dispatch event]
              taken := state.taken ++ [(event, state.plugins)] }
          else none
  | .shutdown =>
      if state.running = true ∧ state.todo.isEmpty then
        some { state with
          todo := [.dispatch .shutdown, .stop]
          taken := state.taken ++ [(.shutdown, state.plugins)] }
      else none
  | .inject event =>
      if state.queue.length < channelCapacity then
        some { state with queue := state.queue ++ [event] }
      else none
  | .proceed result sent => proceed state result sent

/-! ## What a move does -/

/-- The cases of `step`, each with what it requires. -/
inductive Transition (state : State) : Move → State → Prop where
  | addPlugin (plugin : Plugin) (htodo : state.todo = []) :
      Transition state (.addPlugin plugin)
        { state with
          plugins := state.plugins ++ [plugin]
          todo := [.notify (.pluginLoaded plugin.name)] }
  | run (htodo : state.todo = []) : Transition state .run { state with running := true }
  | poll (messages : List Message) (htodo : state.todo = []) :
      Transition state (.poll messages)
        { state with
          todo := messages.map fun message => .dispatch (.messageReceived message)
          taken := state.taken ++
            messages.map fun message => (.messageReceived message, state.plugins) }
  | receive (event : Event) (queue : List Event) (hqueue : state.queue = event :: queue)
      (htodo : state.todo = []) :
      Transition state .receive
        { state with
          queue
          todo := [.dispatch event]
          taken := state.taken ++ [(event, state.plugins)] }
  | shutdown (htodo : state.todo = []) :
      Transition state .shutdown
        { state with
          todo := [.dispatch .shutdown, .stop]
          taken := state.taken ++ [(.shutdown, state.plugins)] }
  | inject (event : Event) :
      Transition state (.inject event) { state with queue := state.queue ++ [event] }
  | dispatch (result sent) (event : Event) (rest : List Todo)
      (htodo : state.todo = .dispatch event :: rest) :
      Transition state (.proceed result sent)
        { state with
          todo := (subscribers state.plugins event).map
            (fun entry => .deliver entry.2 entry.1 event) ++ rest }
  | handled (sent) (index : Nat) (plugin : Plugin) (event : Event) (actions : List Action)
      (rest : List Todo) (htodo : state.todo = .deliver index plugin event :: rest) :
      Transition state (.proceed (.ok actions) sent)
        { state with
          todo := actions.map (.execute index plugin) ++ rest
          log := state.log ++
            [.delivered index event (state.store.snapshot plugin.name) (.ok actions)] }
  | failed (sent) (index : Nat) (plugin : Plugin) (event : Event) (text : String)
      (rest : List Todo) (htodo : state.todo = .deliver index plugin event :: rest) :
      Transition state (.proceed (.error text) sent)
        { state with
          todo := rest
          log := state.log ++
            [.delivered index event (state.store.snapshot plugin.name) (.error text)] }
  | sends (result sent) (index : Nat) (plugin : Plugin) (action : Action) (event : Event)
      (rest : List Todo) (htodo : state.todo = .execute index plugin action :: rest)
      (haction : (∃ recipient content txId, action = .sendMessage recipient content ∧
        event = .messageSent recipient txId) ∨
        ∃ kind data, action = .emitEvent kind data ∧ event = .custom kind data) :
      Transition state (.proceed result sent)
        { state with
          todo := .notify event :: rest
          log := state.log ++ [.executed index action] }
  | stores (result sent) (index : Nat) (plugin : Plugin) (key : String) (value : Json)
      (rest : List Todo)
      (htodo : state.todo = .execute index plugin (.storeState key value) :: rest) :
      Transition state (.proceed result sent)
        { state with
          todo := rest
          log := state.log ++ [.executed index (.storeState key value)]
          store := state.store.set plugin.name key value }
  | passes (result sent) (index : Nat) (plugin : Plugin) (action : Action) (rest : List Todo)
      (htodo : state.todo = .execute index plugin action :: rest)
      (haction : (∃ recipient content, action = .sendMessage recipient content) ∨
        ∃ level message, action = .log level message) :
      Transition state (.proceed result sent)
        { state with todo := rest, log := state.log ++ [.executed index action] }
  | notifies (result sent) (event : Event) (rest : List Todo)
      (htodo : state.todo = .notify event :: rest)
      (hroom : state.queue.length < channelCapacity) :
      Transition state (.proceed result sent)
        { state with queue := state.queue ++ [event], todo := rest }
  | stop (result sent) (rest : List Todo) (htodo : state.todo = .stop :: rest) :
      Transition state (.proceed result sent) { state with running := false, todo := rest }

/-- The next item of the loop is one of the cases. -/
theorem transition_of_proceed {state next : State} {result : Except String (List Action)}
    {sent : Except String String} (h : proceed state result sent = some next) :
    Transition state (.proceed result sent) next := by
  unfold proceed at h
  cases htodo : state.todo with
  | nil => simp [htodo] at h
  | cons item rest =>
      cases item with
      | dispatch event =>
          simp only [htodo, Option.some.injEq] at h
          exact h ▸ .dispatch result sent event rest htodo
      | deliver index plugin event =>
          cases result with
          | ok actions =>
              simp only [htodo, Option.some.injEq] at h
              exact h ▸ .handled sent index plugin event actions rest htodo
          | error text =>
              simp only [htodo, Option.some.injEq] at h
              exact h ▸ .failed sent index plugin event text rest htodo
      | execute index plugin action =>
          cases action with
          | sendMessage recipient content =>
              cases sent with
              | ok txId =>
                  simp only [htodo, Option.some.injEq] at h
                  exact h ▸ .sends result _ index plugin _ _ rest htodo
                    (Or.inl ⟨recipient, content, txId, rfl, rfl⟩)
              | error text =>
                  simp only [htodo, Option.some.injEq] at h
                  exact h ▸ .passes result _ index plugin _ rest htodo
                    (Or.inl ⟨recipient, content, rfl⟩)
          | storeState key value =>
              simp only [htodo, Option.some.injEq] at h
              exact h ▸ .stores result sent index plugin key value rest htodo
          | emitEvent kind data =>
              simp only [htodo, Option.some.injEq] at h
              exact h ▸ .sends result sent index plugin _ _ rest htodo
                (Or.inr ⟨kind, data, rfl, rfl⟩)
          | log level message =>
              simp only [htodo, Option.some.injEq] at h
              exact h ▸ .passes result sent index plugin _ rest htodo
                (Or.inr ⟨level, message, rfl⟩)
      | notify event =>
          simp only [htodo, Option.ite_none_right_eq_some, Option.some.injEq] at h
          obtain ⟨hroom, rfl⟩ := h
          exact .notifies result sent event rest htodo hroom
      | stop =>
          simp only [htodo, Option.some.injEq] at h
          exact h ▸ .stop result sent rest htodo

/-- Every move is one of the cases. -/
theorem transition_of_step {state next : State} {move : Move}
    (h : step state move = some next) : Transition state move next := by
  cases move with
  | addPlugin plugin =>
      simp only [step, Option.ite_none_right_eq_some, Option.some.injEq] at h
      obtain ⟨⟨-, htodo⟩, rfl⟩ := h
      exact .addPlugin plugin (List.isEmpty_iff.mp htodo)
  | run =>
      simp only [step, Option.ite_none_right_eq_some, Option.some.injEq] at h
      obtain ⟨⟨-, htodo⟩, rfl⟩ := h
      exact .run (List.isEmpty_iff.mp htodo)
  | poll messages =>
      simp only [step, Option.ite_none_right_eq_some, Option.some.injEq] at h
      obtain ⟨⟨-, htodo⟩, rfl⟩ := h
      exact .poll messages (List.isEmpty_iff.mp htodo)
  | receive =>
      simp only [step] at h
      split at h
      case h_1 => cases h
      case h_2 event queue hqueue =>
        simp only [Option.ite_none_right_eq_some, Option.some.injEq] at h
        obtain ⟨⟨-, htodo⟩, rfl⟩ := h
        exact .receive event queue hqueue (List.isEmpty_iff.mp htodo)
  | shutdown =>
      simp only [step, Option.ite_none_right_eq_some, Option.some.injEq] at h
      obtain ⟨⟨-, htodo⟩, rfl⟩ := h
      exact .shutdown (List.isEmpty_iff.mp htodo)
  | inject event =>
      simp only [step, Option.ite_none_right_eq_some, Option.some.injEq] at h
      obtain ⟨-, rfl⟩ := h
      exact .inject event
  | proceed result sent => exact transition_of_proceed h

end CorvidNano.Runtime
