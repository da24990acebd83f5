import CorvidNano.Runtime.Channel
import Mathlib.Data.List.Nodup
import Mathlib.Data.Prod.Lex

/-!
# Deliveries, actions and plugin state

What the loop does with the events that it takes. Every event goes to its subscribers in
registration order, every action of a successful handler is executed once and in order, and the
snapshot of a delivery is what the plugin has stored so far. The last of these rests on plugin
names, by which the store is keyed and which `add_plugin` does not compare.

`dispatch_faithful` is the main result, for the runs in which no name is added twice and the
channel has room. `shared_name_shares_state` is a run with one name for two plugins.
-/

namespace CorvidNano.Runtime

open Runs

/-! ## What dispatch is for -/

/-- The deliveries of an event, by the position of the plugin. -/
def targets (plugins : List Plugin) (event : Event) : List (Nat × Event) :=
  (subscribers plugins event).map fun entry => (entry.2, event)

/-- The delivery of an entry of the log. -/
def Entry.delivery : Entry → List (Nat × Event)
  | .delivered index event _ _ => [(index, event)]
  | .executed _ _ => []

/-- The executed action of an entry. -/
def Entry.execution : Entry → List (Nat × Action)
  | .delivered _ _ _ _ => []
  | .executed index action => [(index, action)]

/-- The actions that the handler of an entry returned. -/
def Entry.returned : Entry → List (Nat × Action)
  | .delivered index _ _ (.ok actions) => actions.map fun action => (index, action)
  | .delivered _ _ _ (.error _) => []
  | .executed _ _ => []

/-- The deliveries that an item leads to. -/
def Todo.deliveries (plugins : List Plugin) : Todo → List (Nat × Event)
  | .dispatch event => targets plugins event
  | .deliver index _ event => [(index, event)]
  | _ => []

/-- The action that an item executes. -/
def Todo.action : Todo → List (Nat × Action)
  | .execute index _ action => [(index, action)]
  | _ => []

/-- What an entry of the log stores for the plugin at a position. -/
def storeOwn (index : Nat) (values : Values) : Entry → Values
  | .executed other (.storeState key value) =>
      if other = index then Function.update values key (some value) else values
  | _ => values

/-- What the plugin at a position has stored. -/
def ownState (index : Nat) (log : List Entry) : Values :=
  log.foldl (storeOwn index) fun _ => none

/-- Each event that the loop takes goes once to each of its subscribers, in registration order:
the deliveries made and those to come are these, in order. -/
def DeliversAll (state : State) : Prop :=
  state.log.flatMap Entry.delivery ++ state.todo.flatMap (Todo.deliveries state.plugins) =
    state.taken.flatMap fun entry => targets entry.2 entry.1

/-- Each action of a handler that succeeds is executed once, in order. -/
def ExecutesAll (state : State) : Prop :=
  state.log.flatMap Entry.execution ++ state.todo.flatMap Todo.action =
    state.log.flatMap Entry.returned

/-- Each delivery shows the plugin what it has stored itself, and nothing else. -/
def ShowsOwnState (log : List Entry) : Prop :=
  ∀ n index event snapshot result, log[n]? = some (.delivered index event snapshot result) →
    snapshot = ownState index (log.take n)

/-- The deliveries that an item still has to make, or the step that it is itself. -/
def Todo.deliveryWork (plugins : List Plugin) : Todo → Nat
  | .dispatch event => (subscribers plugins event).length + 1
  | .deliver _ _ _ => 1
  | .stop => 1
  | _ => 0

/-- The steps that an action or a send takes. -/
def Todo.actionWork : Todo → Nat
  | .execute _ _ _ => 2
  | .notify _ => 1
  | _ => 0

/-- The work that is left, in a well-founded order: deliveries first, then actions and sends. -/
def work (plugins : List Plugin) (todo : List Todo) : Nat ×ₗ Nat :=
  toLex ((todo.map (Todo.deliveryWork plugins)).sum, (todo.map Todo.actionWork).sum)

/-- The loop is not held up: whatever plugins and transport answer, the next item is done, and
less work is left. -/
def Proceeds (state : State) : Prop :=
  state.todo ≠ [] → ∀ result sent, ∃ next, step state (.proceed result sent) = some next ∧
    work next.plugins next.todo < work state.plugins state.todo

/-- A plugin is added only under a name that no other plugin has. -/
def FreshName (state : State) : Move → Prop
  | .addPlugin plugin => plugin.name ∉ state.plugins.map Plugin.name
  | _ => True

instance (state : State) : (move : Move) → Decidable (FreshName state move)
  | .addPlugin plugin => inferInstanceAs (Decidable (plugin.name ∉ state.plugins.map Plugin.name))
  | .run | .poll _ | .receive | .shutdown | .inject _ | .proceed _ _ =>
      inferInstanceAs (Decidable True)

/-- The channel has room, and names are distinct. -/
def Admissible (state : State) (move : Move) : Prop :=
  RoomFor state move ∧ FreshName state move

instance (state : State) (move : Move) : Decidable (Admissible state move) :=
  inferInstanceAs (Decidable (_ ∧ _))

/-! ## Snapshots -/

theorem own_state_append (index : Nat) (log : List Entry) (entry : Entry) :
    ownState index (log ++ [entry]) = storeOwn index (ownState index log) entry := by
  simp [ownState]

/-- A log shows own state if it did so before its last entry and that entry does. -/
theorem ShowsOwnState.snoc {log : List Entry} (h : ShowsOwnState log) {entry : Entry}
    (hentry : ∀ index event snapshot result, entry = .delivered index event snapshot result →
      snapshot = ownState index log) : ShowsOwnState (log ++ [entry]) := by
  intro n index event snapshot result hget
  by_cases hn : n < log.length
  · rw [List.getElem?_append_left hn] at hget
    rw [List.take_append_of_le_length (by omega)]
    exact h n index event snapshot result hget
  · have hlt := (List.getElem?_eq_some_iff.mp hget).1
    rw [List.length_append, List.length_singleton] at hlt
    have hlast : n = log.length := by omega
    subst hlast
    rw [List.getElem?_concat_length, Option.some.injEq] at hget
    rw [List.take_left]
    exact hentry index event snapshot result hget

/-! ## The invariant -/

/-- An item that executes an action or sends what it led to. -/
def Todo.IsAction : Todo → Prop
  | .execute _ _ _ => True
  | .notify _ => True
  | _ => False

/-- Actions and their sends come before everything else. -/
def ActionsFirst (todo : List Todo) : Prop :=
  todo.Pairwise fun first second => first.IsAction ∨ second.action = []

/-- The item's plugin is the one at its position. -/
def Todo.OwnedBy (plugins : List Plugin) : Todo → Prop
  | .deliver index plugin _ => plugins[index]? = some plugin
  | .execute index plugin _ => plugins[index]? = some plugin
  | _ => True

/-- What holds between any two moves. -/
structure Faithful (state : State) : Prop where
  actions_first : ActionsFirst state.todo
  owned : ∀ item ∈ state.todo, item.OwnedBy state.plugins
  names_nodup : (state.plugins.map Plugin.name).Nodup
  delivers : DeliversAll state
  executes : ExecutesAll state
  shows : ShowsOwnState state.log
  stored : ∀ index plugin, state.plugins[index]? = some plugin →
    state.store.snapshot plugin.name = ownState index state.log
  stored_none : ∀ name, name ∉ state.plugins.map Plugin.name →
    state.store.snapshot name = fun _ => none
  own_none : ∀ index, state.plugins.length ≤ index → ownState index state.log = fun _ => none

theorem new_faithful : Faithful .new where
  actions_first := List.Pairwise.nil
  owned item h := by cases h
  names_nodup := List.nodup_nil
  delivers := rfl
  executes := rfl
  shows n index event snapshot result h := by cases h
  stored index plugin h := by cases h
  stored_none name _ := rfl
  own_none index _ := rfl

section Step

variable {state : State}

/-- Behind an item that is no action, no action waits. -/
theorem Faithful.action_nil (hinv : Faithful state) {item : Todo} {rest : List Todo}
    (htodo : state.todo = item :: rest) (hitem : ¬ item.IsAction) :
    rest.flatMap Todo.action = [] := by
  have hfirst := hinv.actions_first
  rw [htodo, ActionsFirst, List.pairwise_cons] at hfirst
  exact List.flatMap_eq_nil_iff.mpr fun other hmem =>
    (hfirst.1 other hmem).resolve_left hitem

theorem Faithful.rest_actions_first (hinv : Faithful state) {item : Todo} {rest : List Todo}
    (htodo : state.todo = item :: rest) : ActionsFirst rest := by
  have hfirst := hinv.actions_first
  rw [htodo, ActionsFirst, List.pairwise_cons] at hfirst
  exact hfirst.2

theorem Faithful.rest_owned (hinv : Faithful state) {item : Todo} {rest : List Todo}
    (htodo : state.todo = item :: rest) : ∀ other ∈ rest, other.OwnedBy state.plugins :=
  fun other hmem => hinv.owned other (htodo ▸ List.mem_cons_of_mem _ hmem)

theorem Faithful.head_owned (hinv : Faithful state) {item : Todo} {rest : List Todo}
    (htodo : state.todo = item :: rest) : item.OwnedBy state.plugins :=
  hinv.owned item (htodo ▸ List.mem_cons_self)

/-- Adding a plugin under a new name. -/
theorem Faithful.add_plugin (hinv : Faithful state) {plugin : Plugin}
    (htodo : state.todo = []) (hfresh : plugin.name ∉ state.plugins.map Plugin.name) :
    Faithful { state with
      plugins := state.plugins ++ [plugin]
      todo := [.notify (.pluginLoaded plugin.name)] } where
  actions_first := List.pairwise_singleton _ _
  owned item hmem := by
    rw [List.mem_singleton.mp hmem]
    trivial
  names_nodup := by
    show ((state.plugins ++ [plugin]).map Plugin.name).Nodup
    rw [List.map_append, List.map_singleton]
    refine List.nodup_append.mpr ⟨hinv.names_nodup, by simp, ?_⟩
    intro name hmem other hother heq
    rw [List.mem_singleton.mp hother] at heq
    exact hfresh (heq ▸ hmem)
  delivers := by
    have hdelivers := hinv.delivers
    rw [DeliversAll, htodo] at hdelivers
    simpa [DeliversAll, Todo.deliveries] using hdelivers
  executes := by
    have hexecutes := hinv.executes
    rw [ExecutesAll, htodo] at hexecutes
    simpa [ExecutesAll, Todo.action] using hexecutes
  shows := hinv.shows
  stored index other hother := by
    have hother : (state.plugins ++ [plugin])[index]? = some other := hother
    by_cases hlt : index < state.plugins.length
    · rw [List.getElem?_append_left hlt] at hother
      exact hinv.stored index other hother
    · have hbound := (List.getElem?_eq_some_iff.mp hother).1
      rw [List.length_append, List.length_singleton] at hbound
      have hlast : index = state.plugins.length := by omega
      subst hlast
      rw [List.getElem?_concat_length, Option.some.injEq] at hother
      subst hother
      exact (hinv.stored_none _ hfresh).trans (hinv.own_none _ (Nat.le_refl _)).symm
  stored_none name hname := by
    refine hinv.stored_none name fun hmem => hname ?_
    show name ∈ (state.plugins ++ [plugin]).map Plugin.name
    rw [List.map_append]
    exact List.mem_append_left _ hmem
  own_none index hle := by
    refine hinv.own_none index ?_
    have hle : (state.plugins ++ [plugin]).length ≤ index := hle
    rw [List.length_append] at hle
    omega

/-- A move that leaves plugins, store and log as they are. -/
theorem Faithful.items (hinv : Faithful state) (queue : List Event) (running : Bool)
    {todo : List Todo} {taken : List (Event × List Plugin)} (hfirst : ActionsFirst todo)
    (howned : ∀ item ∈ todo, item.OwnedBy state.plugins)
    (hdelivers : state.log.flatMap Entry.delivery ++
        todo.flatMap (Todo.deliveries state.plugins) =
      taken.flatMap fun entry => targets entry.2 entry.1)
    (hactions : todo.flatMap Todo.action = state.todo.flatMap Todo.action) :
    Faithful { state with queue, running, todo, taken } where
  actions_first := hfirst
  owned := howned
  names_nodup := hinv.names_nodup
  delivers := hdelivers
  executes := by
    show _ ++ todo.flatMap Todo.action = _
    rw [hactions]
    exact hinv.executes
  shows := hinv.shows
  stored := hinv.stored
  stored_none := hinv.stored_none
  own_none := hinv.own_none

/-- An item that logs an entry by which nothing is stored. -/
theorem Faithful.logs (hinv : Faithful state) {entry : Entry} {todo : List Todo}
    (hneutral : ∀ index values, storeOwn index values entry = values)
    (hfirst : ActionsFirst todo) (howned : ∀ item ∈ todo, item.OwnedBy state.plugins)
    (hdelivers : entry.delivery ++ todo.flatMap (Todo.deliveries state.plugins) =
      state.todo.flatMap (Todo.deliveries state.plugins))
    (hexecutes : ExecutesAll { state with todo, log := state.log ++ [entry] })
    (hshows : ∀ index event snapshot result, entry = .delivered index event snapshot result →
      snapshot = ownState index state.log) :
    Faithful { state with todo, log := state.log ++ [entry] } := by
  have hown : ∀ index, ownState index (state.log ++ [entry]) = ownState index state.log := by
    intro index
    rw [own_state_append, hneutral]
  refine ⟨hfirst, howned, hinv.names_nodup, ?_, hexecutes, hinv.shows.snoc hshows, ?_,
    hinv.stored_none, ?_⟩
  · show (state.log ++ [entry]).flatMap Entry.delivery ++ _ = _
    rw [List.flatMap_append, List.flatMap_singleton, List.append_assoc, hdelivers]
    exact hinv.delivers
  · intro index plugin hplugin
    show _ = ownState index (state.log ++ [entry])
    rw [hown]
    exact hinv.stored index plugin hplugin
  · intro index hle
    show ownState index (state.log ++ [entry]) = _
    rw [hown]
    exact hinv.own_none index hle

/-- A delivery shows the plugin its own state. -/
theorem Faithful.snapshot_eq (hinv : Faithful state) {index : Nat} {plugin : Plugin}
    {event : Event} {rest : List Todo} (htodo : state.todo = .deliver index plugin event :: rest) :
    state.store.snapshot plugin.name = ownState index state.log :=
  hinv.stored index plugin (hinv.head_owned htodo)

/-- A plugin that stores a value changes its own state and no other plugin's. -/
theorem Faithful.stores (hinv : Faithful state) {index : Nat} {plugin : Plugin} {key : String}
    {value : Json} {rest : List Todo}
    (htodo : state.todo = .execute index plugin (.storeState key value) :: rest) :
    Faithful { state with
      todo := rest
      log := state.log ++ [.executed index (.storeState key value)]
      store := state.store.set plugin.name key value } := by
  have hplugin : state.plugins[index]? = some plugin := hinv.head_owned htodo
  have hmem : plugin.name ∈ state.plugins.map Plugin.name :=
    List.mem_map_of_mem (List.mem_of_getElem? hplugin)
  refine ⟨hinv.rest_actions_first htodo, hinv.rest_owned htodo, hinv.names_nodup, ?_, ?_,
    hinv.shows.snoc (fun _ _ _ _ h => by cases h), ?_, ?_, ?_⟩
  · have hdelivers := hinv.delivers
    rw [DeliversAll, htodo] at hdelivers
    simpa [DeliversAll, Entry.delivery, Todo.deliveries] using hdelivers
  · have hexecutes := hinv.executes
    rw [ExecutesAll, htodo] at hexecutes
    simpa [ExecutesAll, Entry.execution, Entry.returned, Todo.action] using hexecutes
  · intro other found hfound
    show (state.store.set plugin.name key value).snapshot found.name =
      ownState other (state.log ++ [_])
    rw [own_state_append, storeOwn, ← hinv.stored other found hfound]
    by_cases hsame : index = other
    · subst hsame
      obtain rfl := Option.some.inj (hplugin.symm.trans hfound)
      rw [if_pos rfl, StateStore.snapshot_set_self]
    · -- Two positions with one name are one position.
      have hne : found.name ≠ plugin.name := by
        intro heq
        have hfoundMem := List.mem_of_getElem? hfound
        have hpluginMem := List.mem_of_getElem? hplugin
        obtain rfl := List.inj_on_of_nodup_map hinv.names_nodup hfoundMem hpluginMem heq
        have hlt := (List.getElem?_eq_some_iff.mp hplugin).1
        exact hsame ((List.getElem?_inj hlt hinv.names_nodup.of_map).mp
          (hplugin.trans hfound.symm))
      rw [if_neg hsame, StateStore.snapshot_set_of_ne _ hne]
  · intro name hname
    show (state.store.set plugin.name key value).snapshot name = _
    have hne : name ≠ plugin.name := by
      rintro rfl
      exact hname hmem
    rw [StateStore.snapshot_set_of_ne _ hne]
    exact hinv.stored_none name hname
  · intro other hle
    show ownState other (state.log ++ [_]) = _
    have hlt := (List.getElem?_eq_some_iff.mp hplugin).1
    have hne : index ≠ other := by
      have hle : state.plugins.length ≤ other := hle
      omega
    rw [own_state_append, storeOwn, if_neg hne]
    exact hinv.own_none other hle

/-- Items that are no actions, put before items without actions. -/
theorem actions_first_append {first rest : List Todo}
    (hfirst : ∀ item ∈ first, item.action = []) (hrest : ActionsFirst rest)
    (hnil : rest.flatMap Todo.action = []) : ActionsFirst (first ++ rest) := by
  -- No action waits behind these items, whatever they are themselves.
  refine List.pairwise_append.mpr ⟨?_, hrest, ?_⟩
  · exact List.pairwise_of_forall_mem_list fun item _ other hother => Or.inr (hfirst other hother)
  · exact fun item _ other hother => Or.inr (List.flatMap_eq_nil_iff.mp hnil other hother)

/-- Events that the loop takes when nothing is left to do. -/
theorem Faithful.takes (hinv : Faithful state) (htodo : state.todo = []) (queue : List Event)
    (events : List Event) {last : List Todo} (hlast : ∀ item ∈ last, item = .stop) :
    Faithful { state with
      queue
      todo := events.map .dispatch ++ last
      taken := state.taken ++ events.map fun event => (event, state.plugins) } := by
  have hdelivers := hinv.delivers
  rw [DeliversAll, htodo, List.flatMap_nil, List.append_nil] at hdelivers
  -- Nothing that the loop has to do now is an action.
  have haction : ∀ item ∈ events.map Todo.dispatch ++ last, item.action = [] := by
    intro item hmem
    rcases List.mem_append.mp hmem with hmem | hmem
    · obtain ⟨event, -, rfl⟩ := List.mem_map.mp hmem
      rfl
    · rw [hlast item hmem]
      rfl
  have hstop : last.flatMap (Todo.deliveries state.plugins) = [] :=
    List.flatMap_eq_nil_iff.mpr fun item hmem => by
      rw [hlast item hmem]
      rfl
  refine hinv.items queue state.running ?_ ?_ ?_ ?_
  · rw [← List.append_nil (events.map Todo.dispatch ++ last)]
    exact actions_first_append haction List.Pairwise.nil rfl
  · intro item hmem
    rcases List.mem_append.mp hmem with hmem | hmem
    · obtain ⟨event, -, rfl⟩ := List.mem_map.mp hmem
      trivial
    · rw [hlast item hmem]
      trivial
  · rw [List.flatMap_append, List.flatMap_append, hdelivers, hstop, List.append_nil,
      List.flatMap_map, List.flatMap_map]
    rfl
  · rw [htodo, List.flatMap_eq_nil_iff.mpr haction]
    rfl

/-- An event that goes to its subscribers. -/
theorem Faithful.dispatches (hinv : Faithful state) {event : Event} {rest : List Todo}
    (htodo : state.todo = .dispatch event :: rest) :
    Faithful { state with
      todo := (subscribers state.plugins event).map
        (fun entry => .deliver entry.2 entry.1 event) ++ rest } := by
  have hdelivers := hinv.delivers
  unfold DeliversAll at hdelivers
  have hnil := hinv.action_nil htodo id
  have hdeliver : ∀ item ∈ (subscribers state.plugins event).map
      (fun entry => Todo.deliver entry.2 entry.1 event), item.action = [] := by
    intro item hmem
    obtain ⟨entry, -, rfl⟩ := List.mem_map.mp hmem
    rfl
  refine hinv.items state.queue state.running ?_ ?_ ?_ ?_
  · exact actions_first_append hdeliver (hinv.rest_actions_first htodo) hnil
  · intro item hmem
    rcases List.mem_append.mp hmem with hmem | hmem
    · obtain ⟨⟨plugin, index⟩, hentry, rfl⟩ := List.mem_map.mp hmem
      exact List.mk_mem_zipIdx_iff_getElem?.mp (List.mem_filter.mp hentry).1
    · exact hinv.rest_owned htodo item hmem
  · rw [← hdelivers, htodo, List.flatMap_append, List.flatMap_cons, List.flatMap_map]
    simp [Todo.deliveries, targets, List.map_eq_flatMap]
  · rw [htodo, List.flatMap_append, List.flatMap_cons, hnil,
      List.flatMap_eq_nil_iff.mpr hdeliver]
    rfl

/-- A delivery whose actions are executed next. -/
theorem Faithful.handles (hinv : Faithful state) {index : Nat} {plugin : Plugin} {event : Event}
    {rest : List Todo} (htodo : state.todo = .deliver index plugin event :: rest)
    (actions : List Action) :
    Faithful { state with
      todo := actions.map (.execute index plugin) ++ rest
      log := state.log ++
        [.delivered index event (state.store.snapshot plugin.name) (.ok actions)] } := by
  have hexecutes := hinv.executes
  have hnil := hinv.action_nil htodo id
  have hplugin := hinv.head_owned htodo
  refine hinv.logs (fun _ _ => rfl) ?_ ?_ ?_ ?_ ?_
  · refine List.pairwise_append.mpr ⟨?_, hinv.rest_actions_first htodo, ?_⟩
    · refine List.pairwise_of_forall_mem_list fun item hmem other _ => Or.inl ?_
      obtain ⟨action, -, rfl⟩ := List.mem_map.mp hmem
      trivial
    · intro item hmem other _
      obtain ⟨action, -, rfl⟩ := List.mem_map.mp hmem
      exact Or.inl trivial
  · intro item hmem
    rcases List.mem_append.mp hmem with hmem | hmem
    · obtain ⟨action, -, rfl⟩ := List.mem_map.mp hmem
      exact hplugin
    · exact hinv.rest_owned htodo item hmem
  · rw [htodo, List.flatMap_append, List.flatMap_cons, List.flatMap_map]
    simp [Entry.delivery, Todo.deliveries]
  · rw [ExecutesAll, htodo, List.flatMap_cons, hnil] at hexecutes
    unfold ExecutesAll
    simp only [List.flatMap_append, hnil, List.flatMap_singleton, ← hexecutes, List.flatMap_map]
    simp [Entry.execution, Entry.returned, Todo.action, List.map_eq_flatMap]
  · intro _ _ _ _ heq
    cases heq
    exact hinv.snapshot_eq htodo

/-- A delivery whose handler fails. -/
theorem Faithful.fails (hinv : Faithful state) {index : Nat} {plugin : Plugin} {event : Event}
    {rest : List Todo} (htodo : state.todo = .deliver index plugin event :: rest)
    (text : String) :
    Faithful { state with
      todo := rest
      log := state.log ++
        [.delivered index event (state.store.snapshot plugin.name) (.error text)] } := by
  have hexecutes := hinv.executes
  rw [ExecutesAll, htodo] at hexecutes
  refine hinv.logs (fun _ _ => rfl) (hinv.rest_actions_first htodo) (hinv.rest_owned htodo)
    ?_ ?_ ?_
  · rw [htodo]
    rfl
  · unfold ExecutesAll
    simpa [Entry.execution, Entry.returned, Todo.action] using hexecutes
  · intro _ _ _ _ heq
    cases heq
    exact hinv.snapshot_eq htodo

/-- An executed action that stores nothing, and the sends that it leads to. -/
theorem Faithful.acts (hinv : Faithful state) {index : Nat} {plugin : Plugin} {action : Action}
    {rest : List Todo} (htodo : state.todo = .execute index plugin action :: rest)
    (hneutral : ∀ other values, storeOwn other values (.executed index action) = values)
    (events : List Event) :
    Faithful { state with
      todo := events.map .notify ++ rest
      log := state.log ++ [.executed index action] } := by
  have hexecutes := hinv.executes
  rw [ExecutesAll, htodo] at hexecutes
  have hnotify : ∀ item ∈ events.map Todo.notify, ∃ event, item = .notify event := by
    intro item hmem
    obtain ⟨event, -, rfl⟩ := List.mem_map.mp hmem
    exact ⟨event, rfl⟩
  refine hinv.logs hneutral ?_ ?_ ?_ ?_ (fun _ _ _ _ heq => by cases heq)
  · refine List.pairwise_append.mpr ⟨?_, hinv.rest_actions_first htodo, ?_⟩
    · refine List.pairwise_of_forall_mem_list fun item hmem other _ => Or.inl ?_
      obtain ⟨event, rfl⟩ := hnotify item hmem
      trivial
    · intro item hmem other _
      obtain ⟨event, rfl⟩ := hnotify item hmem
      exact Or.inl trivial
  · intro item hmem
    rcases List.mem_append.mp hmem with hmem | hmem
    · obtain ⟨event, rfl⟩ := hnotify item hmem
      trivial
    · exact hinv.rest_owned htodo item hmem
  · rw [htodo, List.flatMap_append, List.flatMap_map]
    simp [Entry.delivery, Todo.deliveries]
  · have hnone : (events.map Todo.notify).flatMap Todo.action = [] :=
      List.flatMap_eq_nil_iff.mpr fun item hmem => by
        obtain ⟨event, rfl⟩ := hnotify item hmem
        rfl
    have htail : (events.map Todo.notify ++ rest).flatMap Todo.action =
        rest.flatMap Todo.action := by
      rw [List.flatMap_append, hnone, List.nil_append]
    show (state.log ++ [Entry.executed index action]).flatMap Entry.execution ++
      (events.map Todo.notify ++ rest).flatMap Todo.action = _
    rw [htail]
    simpa [Entry.execution, Entry.returned, Todo.action] using hexecutes

/-- Every move with a fresh name keeps the invariant. -/
theorem step_faithful {next : State} {move : Move} (hinv : Faithful state)
    (hfresh : FreshName state move) (h : step state move = some next) : Faithful next := by
  have hdelivers := hinv.delivers
  unfold DeliversAll at hdelivers
  cases transition_of_step h with
  | addPlugin plugin htodo => exact hinv.add_plugin htodo hfresh
  | run htodo =>
      exact hinv.items state.queue true hinv.actions_first hinv.owned hdelivers rfl
  | poll messages htodo =>
      have htakes := hinv.takes htodo state.queue (messages.map .messageReceived)
        (List.forall_mem_nil _)
      rw [List.map_map, List.map_map, List.append_nil] at htakes
      exact htakes
  | receive event queue hqueue htodo =>
      exact hinv.takes htodo queue [event] (List.forall_mem_nil _)
  | shutdown htodo =>
      exact hinv.takes htodo state.queue [.shutdown] (by simp)
  | inject event =>
      exact hinv.items _ state.running hinv.actions_first hinv.owned hdelivers rfl
  | dispatch result sent event rest htodo => exact hinv.dispatches htodo
  | handled sent index plugin event actions rest htodo => exact hinv.handles htodo actions
  | failed sent index plugin event text rest htodo => exact hinv.fails htodo text
  | sends result sent index plugin action event rest htodo haction =>
      refine hinv.acts htodo ?_ [event]
      rcases haction with ⟨_, _, _, rfl, -⟩ | ⟨_, _, rfl, -⟩
      · exact fun _ _ => rfl
      · exact fun _ _ => rfl
  | stores result sent index plugin key value rest htodo => exact hinv.stores htodo
  | passes result sent index plugin action rest htodo haction =>
      refine hinv.acts htodo ?_ []
      rcases haction with ⟨_, _, rfl⟩ | ⟨_, _, rfl⟩
      · exact fun _ _ => rfl
      · exact fun _ _ => rfl
  | notifies result sent event rest htodo hroom =>
      rw [htodo] at hdelivers
      refine hinv.items _ state.running (hinv.rest_actions_first htodo) (hinv.rest_owned htodo)
        hdelivers ?_
      rw [htodo]
      rfl
  | stop result sent rest htodo =>
      rw [htodo] at hdelivers
      refine hinv.items state.queue false (hinv.rest_actions_first htodo) (hinv.rest_owned htodo)
        hdelivers ?_
      rw [htodo]
      rfl

end Step

/-! ## Progress -/

/-- Fewer deliveries are less work. -/
theorem work_lt_of_deliveries {plugins : List Plugin} {first second : List Todo}
    (h : (first.map (Todo.deliveryWork plugins)).sum <
      (second.map (Todo.deliveryWork plugins)).sum) : work plugins first < work plugins second :=
  Prod.Lex.toLex_lt_toLex.mpr (Or.inl h)

/-- So are fewer actions and sends, with the same deliveries. -/
theorem work_lt_of_actions {plugins : List Plugin} {first second : List Todo}
    (hsame : (first.map (Todo.deliveryWork plugins)).sum =
      (second.map (Todo.deliveryWork plugins)).sum)
    (h : (first.map Todo.actionWork).sum < (second.map Todo.actionWork).sum) :
    work plugins first < work plugins second :=
  Prod.Lex.toLex_lt_toLex.mpr (Or.inr ⟨hsame, h⟩)

/-- Every item that is done leaves less work. -/
theorem work_lt_of_proceed {state next : State} {result : Except String (List Action)}
    {sent : Except String String} (h : proceed state result sent = some next) :
    work next.plugins next.todo < work state.plugins state.todo := by
  cases transition_of_proceed h with
  | dispatch result sent event rest htodo =>
      refine work_lt_of_deliveries ?_
      simp [htodo, Todo.deliveryWork, Function.comp_def]
  | handled sent index plugin event actions rest htodo =>
      refine work_lt_of_deliveries ?_
      simp [htodo, Todo.deliveryWork, Function.comp_def]
  | failed sent index plugin event text rest htodo =>
      refine work_lt_of_deliveries ?_
      simp [htodo, Todo.deliveryWork]
  | sends result sent index plugin action event rest htodo haction =>
      refine work_lt_of_actions ?_ ?_
      · simp [htodo, Todo.deliveryWork]
      · simp [htodo, Todo.actionWork]
  | stores result sent index plugin key value rest htodo =>
      refine work_lt_of_actions ?_ ?_
      · simp [htodo, Todo.deliveryWork]
      · simp [htodo, Todo.actionWork]
  | passes result sent index plugin action rest htodo haction =>
      refine work_lt_of_actions ?_ ?_
      · simp [htodo, Todo.deliveryWork]
      · simp [htodo, Todo.actionWork]
  | notifies result sent event rest htodo hroom =>
      refine work_lt_of_actions ?_ ?_
      · simp [htodo, Todo.deliveryWork]
      · simp [htodo, Todo.actionWork]
  | stop result sent rest htodo =>
      refine work_lt_of_deliveries ?_
      simp [htodo, Todo.deliveryWork]

/-- Only a send into a full channel holds the loop up. -/
theorem SendsFindRoom.proceeds {state : State} (hroom : SendsFindRoom state) :
    Proceeds state := by
  intro hne result sent
  have hsome : ∃ next, proceed state result sent = some next := by
    unfold proceed
    cases htodo : state.todo with
    | nil => exact absurd htodo hne
    | cons item rest =>
        cases item with
        | dispatch event => exact ⟨_, rfl⟩
        | deliver index plugin event =>
            cases result with
            | ok actions => exact ⟨_, rfl⟩
            | error text => exact ⟨_, rfl⟩
        | execute index plugin action =>
            cases action with
            | sendMessage recipient content =>
                cases sent with
                | ok txId => exact ⟨_, rfl⟩
                | error text => exact ⟨_, rfl⟩
            | storeState key value => exact ⟨_, rfl⟩
            | emitEvent kind data => exact ⟨_, rfl⟩
            | log level message => exact ⟨_, rfl⟩
        | notify event =>
            simp only [hroom event rest htodo, if_true]
            exact ⟨_, rfl⟩
        | stop => exact ⟨_, rfl⟩
  obtain ⟨next, hnext⟩ := hsome
  exact ⟨next, hnext, work_lt_of_proceed hnext⟩

/-! ## Runs -/

/-- In every run in which the channel has room and no plugin is added under a name that another
one has, whatever the plugins' handlers, the transport and other tasks do: each event goes once
to each subscriber in registration order, each returned action is executed once in order, each
snapshot is the plugin's own state, and the loop always gets on with less work left. -/
theorem dispatch_faithful {moves : List Move} {final : State}
    (hrun : run (restrict step Admissible) .new moves = some final) :
    DeliversAll final ∧ ExecutesAll final ∧ ShowsOwnState final.log ∧ Proceeds final := by
  have hkeeps : ∀ {state : State} {move : Move} {next : State},
      Faithful state ∧ HasRoom state → Admissible state move → step state move = some next →
        Faithful next ∧ HasRoom next := fun hinv hallowed h =>
    ⟨step_faithful hinv.1 hallowed.2 h, step_has_room hinv.2 hallowed.1 h⟩
  have hinv : Faithful final ∧ HasRoom final :=
    run_restrict_invariant hkeeps ⟨new_faithful, Nat.zero_le _⟩ hrun
  obtain ⟨hfaithful, hroom⟩ := hinv
  exact ⟨hfaithful.delivers, hfaithful.executes, hfaithful.shows,
    hroom.sends_find_room.proceeds⟩

/-- A plugin that remembers that it has had a message. -/
def greeter : Plugin where
  name := "greeter"
  subscriptions := [.messageReceived]

/-- The greeter gets two messages, next to a plugin that stores a value under the same key. -/
def greeterMoves : List Move := [
  .addPlugin watcher, advance, .addPlugin greeter, advance, .run,
  .poll [{ sender := "alice", recipient := "nano", content := "hi" }], advance,
  .proceed (.ok [.storeState "greeted" .null]) (.ok "tx"), advance,
  .proceed (.ok [.storeState "greeted" (.bool true), .sendMessage "alice" "hello"]) (.ok "tx"),
  advance, advance, advance,
  .poll [{ sender := "bob", recipient := "nano", content := "hi" }], advance,
  .proceed (.error "watcher failed") (.ok "tx"), advance]

theorem start_moves_faithful :
    ∃ final, run (restrict step Admissible) .new greeterMoves = some final ∧
      final.log.length = 7 ∧
      DeliversAll final ∧ ExecutesAll final ∧ ShowsOwnState final.log ∧ Proceeds final := by
  have hrun : ∃ final, run (restrict step Admissible) .new greeterMoves = some final ∧
      final.log.length = 7 := ⟨_, rfl, rfl⟩
  obtain ⟨final, hfinal, hlog⟩ := hrun
  exact ⟨final, hfinal, hlog, dispatch_faithful hfinal⟩

/-- Two plugins of one name, of which the first stores a value when a message arrives. -/
def sharedNameMoves : List Move :=
  [.addPlugin watcher, advance, .addPlugin watcher, advance, .run,
    .poll [{ sender := "alice", recipient := "nano", content := "hi" }], advance,
    .proceed (.ok [.storeState "seen" (.bool true)]) (.ok "tx"), advance, advance]

/-- The second plugin, which has stored nothing, is shown the value of the first. -/
theorem shared_name_shares_state :
    ¬ ∀ moves final, run step .new moves = some final →
      DeliversAll final ∧ ExecutesAll final ∧ ShowsOwnState final.log := by
  intro h
  have hrun : ∃ final, run step .new sharedNameMoves = some final ∧
      ∃ event snapshot result, final.log[2]? = some (.delivered 1 event snapshot result) ∧
        snapshot "seen" = some (.bool true) ∧ ownState 1 (final.log.take 2) "seen" = none :=
    ⟨_, rfl, _, _, _, rfl, rfl, rfl⟩
  obtain ⟨final, hfinal, event, snapshot, result, hentry, hseen, hown⟩ := hrun
  have hsnapshot := (h _ final hfinal).2.2 2 1 event snapshot result hentry
  rw [hsnapshot, hown] at hseen
  cases hseen

end CorvidNano.Runtime
