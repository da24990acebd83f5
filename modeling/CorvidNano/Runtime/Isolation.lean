import CorvidNano.Runtime.Dispatch

/-!
# A plugin by itself

What a plugin does in the runtime is what it does by itself on the events that it subscribes to.
`runAlone` hands these to its handler one after the other, with the values that the plugin has
stored. The runtime polls, reads the channel, asks the other plugins and executes actions in
between.

`plugins_run_alone` is the main result, and `plugins_do_not_interfere` what follows for two
runtimes that differ in everything but the plugin and its events.
-/

namespace CorvidNano.Runtime

open Runs

/-! ## The plugin -/

/-- How a plugin handles an event with the values that it is shown. -/
abbrev Handler := Event → Values → Except String (List Action)

/-- What an action stores. -/
def storeAction (values : Values) : Action → Values
  | .storeState key value => Function.update values key (some value)
  | _ => values

/-- A plugin's values, and its actions so far. -/
structure Alone where
  values : Values
  actions : List Action

/-- The next event. -/
def Alone.handle (handler : Handler) (alone : Alone) (event : Event) : Alone :=
  match handler event alone.values with
  | .ok actions => ⟨actions.foldl storeAction alone.values, alone.actions ++ actions⟩
  | .error _ => alone

/-- The plugin by itself. -/
def runAlone (handler : Handler) (events : List Event) : Alone :=
  events.foldl (Alone.handle handler) ⟨fun _ => none, []⟩

/-! ## The plugin in the runtime -/

/-- What belongs to the plugin at a position. -/
def ofPlugin {α : Type*} (index : Nat) (entries : List (Nat × α)) : List α :=
  (entries.filter fun entry => entry.1 == index).map Prod.snd

/-- The actions of the plugin at a position that have been executed. -/
def executedBy (index : Nat) (log : List Entry) : List Action :=
  ofPlugin index (log.flatMap Entry.execution)

/-- The actions that it has returned. -/
def returnedBy (index : Nat) (log : List Entry) : List Action :=
  ofPlugin index (log.flatMap Entry.returned)

/-- The events that it has been handed. -/
def deliveredTo (index : Nat) (log : List Entry) : List Event :=
  ofPlugin index (log.flatMap Entry.delivery)

/-- The events that it subscribes to among those that were taken after it was added. -/
def received (index : Nat) (taken : List (Event × List Plugin)) : List Event :=
  (taken.filter fun entry =>
    (entry.2[index]?).any fun plugin => plugin.subscribed entry.1.kind).map Prod.fst

/-- The plugin at a position has answered as its handler does. -/
def AnsweredBy (index : Nat) (handler : Handler) (log : List Entry) : Prop :=
  ∀ event snapshot result, .delivered index event snapshot result ∈ log →
    result = handler event snapshot

/-! ## Positions -/

section OfPlugin

variable {α : Type*} {index : Nat}

@[simp] theorem of_plugin_nil : ofPlugin index ([] : List (Nat × α)) = [] := rfl

@[simp] theorem of_plugin_append (first second : List (Nat × α)) :
    ofPlugin index (first ++ second) = ofPlugin index first ++ ofPlugin index second := by
  simp [ofPlugin]

@[simp] theorem of_plugin_singleton (other : Nat) (value : α) :
    ofPlugin index [(other, value)] = if other = index then [value] else [] := by
  by_cases h : other = index
  · simp [ofPlugin, h]
  · simp [ofPlugin, h]

/-- The entries of one plugin. -/
theorem of_plugin_map (other : Nat) (values : List α) :
    ofPlugin index (values.map fun value => (other, value)) =
      if other = index then values else [] := by
  by_cases h : other = index
  · subst h
    rw [if_pos rfl, ofPlugin, List.filter_map, List.map_map]
    simp [Function.comp_def]
  · simp [ofPlugin, h]

end OfPlugin

/-- An event is handed once to the plugin at a position, or not at all. -/
theorem of_plugin_targets (index : Nat) (plugins : List Plugin) (event : Event) :
    ofPlugin index (targets plugins event) =
      if (plugins[index]?).any fun plugin => plugin.subscribed event.kind then [event] else [] := by
  unfold targets subscribers
  -- The positions grow, and with them those before the first one are passed.
  suffices h : ∀ start, ofPlugin (start + index)
      (((plugins.zipIdx start).filter fun entry => entry.1.subscribed event.kind).map
        fun entry => (entry.2, event)) =
      if (plugins[index]?).any fun plugin => plugin.subscribed event.kind then [event] else [] by
    simpa using h 0
  induction plugins generalizing index with
  | nil => exact fun _ => rfl
  | cons plugin rest ih =>
      intro start
      rw [List.zipIdx_cons, ← List.singleton_append, List.filter_append, List.map_append,
        of_plugin_append]
      cases index with
      | zero =>
          have hrest : ofPlugin (start + 0)
              (((rest.zipIdx (start + 1)).filter fun entry => entry.1.subscribed event.kind).map
                fun entry => (entry.2, event)) = [] := by
            rw [ofPlugin, List.filter_eq_nil_iff.mpr, List.map_nil]
            intro entry hentry
            obtain ⟨⟨other, position⟩, hmem, rfl⟩ := List.mem_map.mp hentry
            have hle := (List.mem_zipIdx (List.mem_filter.mp hmem).1).1
            have hne : position ≠ start + 0 := by omega
            simpa using hne
          rw [hrest, List.append_nil]
          by_cases hsubscribed : plugin.subscribed event.kind
          · simp [hsubscribed]
          · simp [hsubscribed]
      | succ index =>
          have hfirst : ofPlugin (start + (index + 1))
              (([(plugin, start)].filter fun entry => entry.1.subscribed event.kind).map
                fun entry => (entry.2, event)) = [] := by
            by_cases hsubscribed : plugin.subscribed event.kind
            · simp [hsubscribed]
            · simp [hsubscribed]
          rw [hfirst, List.nil_append, List.getElem?_cons_succ, ← ih index (start + 1)]
          congr 1
          omega

/-- The deliveries of what was taken are the events that the plugin receives. -/
theorem of_plugin_taken (index : Nat) (taken : List (Event × List Plugin)) :
    ofPlugin index (taken.flatMap fun entry => targets entry.2 entry.1) = received index taken := by
  induction taken with
  | nil => rfl
  | cons entry rest ih =>
      rw [List.flatMap_cons, of_plugin_append, ih, of_plugin_targets]
      unfold received
      rw [List.filter_cons]
      split
      next => rfl
      next => rfl

/-- What a plugin has stored is what its executed actions store. -/
theorem own_state_eq (index : Nat) (log : List Entry) :
    ownState index log = (executedBy index log).foldl storeAction fun _ => none := by
  induction log using List.reverseRecOn with
  | nil => rfl
  | append_singleton log entry ih =>
      have hexecuted : executedBy index (log ++ [entry]) =
          executedBy index log ++ ofPlugin index entry.execution := by
        simp [executedBy]
      rw [own_state_append, ih, hexecuted, List.foldl_append]
      cases entry with
      | delivered other event snapshot result => rfl
      | executed other action =>
          rw [Entry.execution, of_plugin_singleton]
          by_cases h : other = index
          · rw [if_pos h]
            cases action <;> simp [storeOwn, storeAction, h]
          · rw [if_neg h]
            cases action <;> simp [storeOwn, h]

/-! ## One step -/

/-- The plugin at a position has returned what it returns by itself. -/
def Sequential (index : Nat) (handler : Handler) (log : List Entry) : Prop :=
  runAlone handler (deliveredTo index log) =
    ⟨(returnedBy index log).foldl storeAction fun _ => none, returnedBy index log⟩

section Step

variable {state next : State} {move : Move} {index : Nat} {handler : Handler}

/-- What a move adds to the log: nothing, an executed action, or a delivery, before which all
actions of the plugin have been executed. -/
theorem log_of_transition (h : Transition state move next) :
    next.log = state.log ∨
      (∃ other action, next.log = state.log ++ [.executed other action]) ∨
      ∃ other plugin event rest result, state.todo = .deliver other plugin event :: rest ∧
        next.log = state.log ++
          [.delivered other event (state.store.snapshot plugin.name) result] := by
  cases h with
  | addPlugin plugin htodo => exact .inl rfl
  | run htodo => exact .inl rfl
  | poll messages htodo => exact .inl rfl
  | receive event queue hqueue htodo => exact .inl rfl
  | shutdown htodo => exact .inl rfl
  | inject event => exact .inl rfl
  | dispatch result sent event rest htodo => exact .inl rfl
  | handled sent other plugin event actions rest htodo =>
      exact .inr (.inr ⟨other, plugin, event, rest, _, htodo, rfl⟩)
  | failed sent other plugin event text rest htodo =>
      exact .inr (.inr ⟨other, plugin, event, rest, _, htodo, rfl⟩)
  | sends result sent other plugin action event rest htodo haction =>
      exact .inr (.inl ⟨other, action, rfl⟩)
  | stores result sent other plugin key value rest htodo =>
      exact .inr (.inl ⟨other, _, rfl⟩)
  | passes result sent other plugin action rest htodo haction =>
      exact .inr (.inl ⟨other, action, rfl⟩)
  | notifies result sent event rest htodo hroom => exact .inl rfl
  | stop result sent rest htodo => exact .inl rfl

/-- When the runtime is about to deliver, every action that was returned has been executed. -/
theorem Faithful.executed_eq (hinv : Faithful state) {other : Nat} {plugin : Plugin}
    {event : Event} {rest : List Todo} (htodo : state.todo = .deliver other plugin event :: rest) :
    executedBy index state.log = returnedBy index state.log := by
  have hexecutes := hinv.executes
  rw [ExecutesAll, htodo, List.flatMap_cons, hinv.action_nil htodo id] at hexecutes
  unfold executedBy returnedBy
  rw [← hexecutes]
  simp [Todo.action]

/-- A delivery to the plugin is its next event by itself. -/
theorem Sequential.delivered {log : List Entry} (hsequential : Sequential index handler log)
    {event : Event} {snapshot : Values}
    (hsnapshot : snapshot = (returnedBy index log).foldl storeAction fun _ => none) :
    Sequential index handler
      (log ++ [.delivered index event snapshot (handler event snapshot)]) := by
  have hevents : deliveredTo index
      (log ++ [.delivered index event snapshot (handler event snapshot)]) =
        deliveredTo index log ++ [event] := by
    simp [deliveredTo, Entry.delivery]
  unfold Sequential at hsequential ⊢
  rw [hevents, runAlone, List.foldl_concat]
  show (runAlone handler (deliveredTo index log)).handle handler event = _
  rw [hsequential, Alone.handle, ← hsnapshot]
  have hreturned : returnedBy index
      (log ++ [.delivered index event snapshot (handler event snapshot)]) =
        returnedBy index log ++ match handler event snapshot with
          | .ok actions => actions
          | .error _ => [] := by
    unfold returnedBy
    rw [List.flatMap_append, of_plugin_append, List.flatMap_singleton]
    cases handler event snapshot with
    | ok actions => rw [Entry.returned, of_plugin_map, if_pos rfl]
    | error text => rfl
  rw [hreturned, List.foldl_append, ← hsnapshot]
  cases handler event snapshot with
  | ok actions => rfl
  | error text => simp

/-- A log with another plugin's delivery or an executed action behind it. -/
theorem Sequential.passed {log : List Entry} (hsequential : Sequential index handler log)
    {entry : Entry} (hdelivery : ofPlugin index entry.delivery = [])
    (hreturned : ofPlugin index entry.returned = []) :
    Sequential index handler (log ++ [entry]) := by
  unfold Sequential deliveredTo returnedBy at hsequential ⊢
  simp only [List.flatMap_append, List.flatMap_singleton, of_plugin_append, hdelivery, hreturned,
    List.append_nil]
  exact hsequential

/-- A move keeps the plugin's order. -/
theorem step_sequential (hinv : Faithful state)
    (hsequential : AnsweredBy index handler state.log → Sequential index handler state.log)
    (h : step state move = some next) (hanswered : AnsweredBy index handler next.log) :
    Sequential index handler next.log := by
  rcases log_of_transition (transition_of_step h) with
    hlog | ⟨other, action, hlog⟩ | ⟨other, plugin, event, rest, result, htodo, hlog⟩
  · rw [hlog] at hanswered ⊢
    exact hsequential hanswered
  · rw [hlog] at hanswered ⊢
    have hbefore := hsequential fun event snapshot result hmem =>
      hanswered event snapshot result (List.mem_append_left _ hmem)
    exact hbefore.passed rfl rfl
  · rw [hlog] at hanswered ⊢
    have hbefore := hsequential fun event snapshot result hmem =>
      hanswered event snapshot result (List.mem_append_left _ hmem)
    by_cases hother : other = index
    · subst hother
      have hresult := hanswered event _ result (List.mem_append_right _ (List.mem_singleton_self _))
      rw [hresult]
      refine hbefore.delivered ?_
      rw [hinv.snapshot_eq htodo, own_state_eq, hinv.executed_eq htodo]
    · refine hbefore.passed ?_ ?_
      · rw [Entry.delivery, of_plugin_singleton, if_neg hother]
      · cases result with
        | ok actions => rw [Entry.returned, of_plugin_map, if_neg hother]
        | error text => rfl

end Step

/-! ## Runs -/

section Run

variable {moves : List Move} {final : State} {index : Nat}

theorem run_faithful (hrun : run (restrict step FreshName) .new moves = some final) :
    Faithful final :=
  run_restrict_invariant step_faithful new_faithful hrun

/-- When nothing is left to do, a plugin has been handed what it receives, and all that it has
returned has been executed. -/
theorem idle_of_run (hrun : run (restrict step FreshName) .new moves = some final)
    (hidle : final.todo = []) (index : Nat) :
    deliveredTo index final.log = received index final.taken ∧
      executedBy index final.log = returnedBy index final.log := by
  have hinv := run_faithful hrun
  have hdelivers := hinv.delivers
  have hexecutes := hinv.executes
  rw [DeliversAll, hidle, List.flatMap_nil, List.append_nil] at hdelivers
  rw [ExecutesAll, hidle, List.flatMap_nil, List.append_nil] at hexecutes
  constructor
  · rw [deliveredTo, hdelivers, of_plugin_taken]
  · rw [executedBy, hexecutes, returnedBy]

theorem sequential_of_run {handler : Handler}
    (hrun : run (restrict step FreshName) .new moves = some final)
    (hanswered : AnsweredBy index handler final.log) :
    Faithful final ∧ Sequential index handler final.log := by
  have hkeeps : ∀ {state : State} {move : Move} {next : State},
      (Faithful state ∧ (AnsweredBy index handler state.log →
        Sequential index handler state.log)) → FreshName state move →
      step state move = some next →
      (Faithful next ∧ (AnsweredBy index handler next.log →
        Sequential index handler next.log)) := fun hinv hfresh h =>
    ⟨step_faithful hinv.1 hfresh h, step_sequential hinv.1 hinv.2 h⟩
  have hinv : Faithful final ∧
      (AnsweredBy index handler final.log → Sequential index handler final.log) :=
    run_restrict_invariant hkeeps ⟨new_faithful, fun _ => rfl⟩ hrun
  exact ⟨hinv.1, hinv.2 hanswered⟩

/-- When nothing is left to do, the plugin has come to what has been executed for it. -/
theorem run_alone_of_run {handler : Handler}
    (hrun : run (restrict step FreshName) .new moves = some final) (hidle : final.todo = [])
    (hanswered : AnsweredBy index handler final.log) :
    runAlone handler (received index final.taken) =
      ⟨(executedBy index final.log).foldl storeAction fun _ => none,
        executedBy index final.log⟩ := by
  obtain ⟨-, hsequential⟩ := sequential_of_run hrun hanswered
  obtain ⟨hdelivered, hexecuted⟩ := idle_of_run hrun hidle index
  rw [Sequential, hdelivered, ← hexecuted] at hsequential
  exact hsequential

/-- In every run in which no plugin is added under a name that another one has, whatever the
other plugins, the transport and other tasks do: when the loop has nothing left to do, the actions
executed for a plugin and the values stored for it are those that it would have come to by itself
on the events that it has subscribed to. -/
theorem plugins_run_alone {handler : Handler}
    (hrun : run (restrict step FreshName) .new moves = some final) (hidle : final.todo = [])
    (hanswered : AnsweredBy index handler final.log) :
    executedBy index final.log = (runAlone handler (received index final.taken)).actions ∧
      ∀ plugin, final.plugins[index]? = some plugin →
        final.store.snapshot plugin.name =
          (runAlone handler (received index final.taken)).values := by
  obtain ⟨hfaithful, -⟩ := sequential_of_run hrun hanswered
  rw [run_alone_of_run hrun hidle hanswered]
  refine ⟨rfl, fun plugin hplugin => ?_⟩
  rw [hfaithful.stored index plugin hplugin, own_state_eq]

/-- The greeter greets a sender, unless it has greeted before. -/
def greeterHandler : Handler
  | .messageReceived message, values =>
      if (values "greeted").isSome then .ok []
      else .ok [.storeState "greeted" (.bool true), .sendMessage message.sender "hello"]
  | _, _ => .ok []

/-- `plugins_run_alone` for the greeter, which greets once. -/
theorem greeter_runs_alone : ∃ final, run (restrict step FreshName) .new greeterMoves = some final ∧
    executedBy 1 final.log = [.storeState "greeted" (.bool true), .sendMessage "alice" "hello"] ∧
    ∀ plugin, final.plugins[1]? = some plugin →
      final.store.snapshot plugin.name =
        (runAlone greeterHandler (received 1 final.taken)).values := by
  let hi (sender : String) : Event := .messageReceived ⟨sender, "nano", "hi"⟩
  have hrun : ∃ final first shown second again,
      run (restrict step FreshName) .new greeterMoves = some final ∧ final.todo = [] ∧
      received 1 final.taken = [hi "alice", hi "bob"] ∧ final.log = [
        .delivered 0 (hi "alice") first (.ok [.storeState "greeted" .null]),
        .executed 0 (.storeState "greeted" .null),
        .delivered 1 (hi "alice") shown
          (.ok [.storeState "greeted" (.bool true), .sendMessage "alice" "hello"]),
        .executed 1 (.storeState "greeted" (.bool true)),
        .executed 1 (.sendMessage "alice" "hello"),
        .delivered 0 (hi "bob") second (.error "watcher failed"),
        .delivered 1 (hi "bob") again (.ok [])] ∧
      shown "greeted" = none ∧ again "greeted" = some (.bool true) :=
    ⟨_, _, _, _, _, rfl, rfl, rfl, rfl, rfl, rfl⟩
  obtain ⟨final, first, shown, second, again, hfinal, hidle, hreceived, hlog, hshown, hagain⟩ :=
    hrun
  have hanswered : AnsweredBy 1 greeterHandler final.log := by
    intro event snapshot result hmem
    rw [hlog] at hmem
    simp only [List.mem_cons, List.not_mem_nil, or_false, Entry.delivered.injEq, reduceCtorEq,
      false_or, Nat.one_ne_zero, false_and, true_and] at hmem
    rcases hmem with ⟨rfl, rfl, rfl⟩ | ⟨rfl, rfl, rfl⟩
    · simp [hi, greeterHandler, hshown]
    · simp [hi, greeterHandler, hagain]
  obtain ⟨hexecuted, hvalues⟩ := plugins_run_alone hfinal hidle hanswered
  refine ⟨final, hfinal, ?_, hvalues⟩
  rw [hexecuted, hreceived]
  rfl

/-- Two runtimes with different other plugins, in different orders of polls and events, have a
plugin do the same if it receives the same. -/
theorem plugins_do_not_interfere {others : List Move} {other : State} {position : Nat}
    {handler : Handler}
    (hrun : run (restrict step FreshName) .new moves = some final)
    (hothers : run (restrict step FreshName) .new others = some other)
    (hidle : final.todo = []) (hotherIdle : other.todo = [])
    (hanswered : AnsweredBy index handler final.log)
    (hotherAnswered : AnsweredBy position handler other.log)
    (hsame : received index final.taken = received position other.taken) :
    executedBy index final.log = executedBy position other.log := by
  have hfirst := run_alone_of_run hrun hidle hanswered
  have hsecond := run_alone_of_run hothers hotherIdle hotherAnswered
  rw [hsame, hsecond] at hfirst
  exact (congrArg Alone.actions hfirst).symm

end Run

end CorvidNano.Runtime
