import CorvidNano.Library.Json
import Mathlib.Logic.Function.Basic

/-!
# Events, actions and plugin state of the plugin runtime

The data of `nano-runtime`: `event.rs`, `action.rs` and `state.rs`.
-/

namespace CorvidNano.Runtime

/-- The fields of a transport message that identify it. -/
structure Message where
  sender : String
  recipient : String
  content : String
  deriving DecidableEq

/-- `Event`. -/
inductive Event where
  | messageReceived (message : Message)
  | messageSent (recipient txId : String)
  | contactAdded (address name : String)
  | contactRemoved (address : String)
  | pluginLoaded (name : String)
  | pluginUnloaded (name : String)
  | timer (timestamp : Nat)
  | shutdown
  | custom (kind : String) (data : Json)

/-- `EventKind`. -/
inductive EventKind where
  | messageReceived
  | messageSent
  | contactAdded
  | contactRemoved
  | pluginLoaded
  | pluginUnloaded
  | timer
  | shutdown
  | custom (kind : String)
  | all
  deriving DecidableEq

/-- `Event::kind`. -/
def Event.kind : Event → EventKind
  | .messageReceived _ => .messageReceived
  | .messageSent _ _ => .messageSent
  | .contactAdded _ _ => .contactAdded
  | .contactRemoved _ => .contactRemoved
  | .pluginLoaded _ => .pluginLoaded
  | .pluginUnloaded _ => .pluginUnloaded
  | .timer _ => .timer
  | .shutdown => .shutdown
  | .custom kind _ => .custom kind

/-- `LogLevel`. -/
inductive LogLevel where
  | trace
  | debug
  | info
  | warn
  | error
  deriving DecidableEq

/-- `Action`. -/
inductive Action where
  | sendMessage (recipient content : String)
  | storeState (key : String) (value : Json)
  | emitEvent (kind : String) (data : Json)
  | log (level : LogLevel) (message : String)

/-- What a plugin tells the runtime about itself. How it handles an event is the environment's
choice at each delivery. -/
structure Plugin where
  name : String
  subscriptions : List EventKind
  deriving DecidableEq

/-- The plugin gets events of this kind. -/
def Plugin.subscribed (plugin : Plugin) (kind : EventKind) : Bool :=
  plugin.subscriptions.contains .all || plugin.subscriptions.contains kind

/-- A plugin's keys and values. -/
abbrev Values := String → Option Json

/-- `StateStore`: the values of each namespace. A missing namespace is an empty one. -/
structure StateStore where
  namespaces : String → Values

/-- `StateStore::new`. -/
def StateStore.new : StateStore where
  namespaces _ _ := none

/-- `StateStore::set`. -/
def StateStore.set (store : StateStore) (plugin key : String) (value : Json) : StateStore where
  namespaces :=
    Function.update store.namespaces plugin
      (Function.update (store.namespaces plugin) key (some value))

/-- `StateStore::snapshot`. -/
def StateStore.snapshot (store : StateStore) (plugin : String) : Values :=
  store.namespaces plugin

@[simp] theorem StateStore.snapshot_new (plugin : String) :
    StateStore.new.snapshot plugin = fun _ => none := rfl

@[simp] theorem StateStore.snapshot_set_self (store : StateStore) (plugin key : String)
    (value : Json) :
    (store.set plugin key value).snapshot plugin =
      Function.update (store.snapshot plugin) key (some value) := by
  simp [StateStore.set, StateStore.snapshot]

theorem StateStore.snapshot_set_of_ne (store : StateStore) {plugin other : String}
    (h : other ≠ plugin) (key : String) (value : Json) :
    (store.set plugin key value).snapshot other = store.snapshot other := by
  simp [StateStore.set, StateStore.snapshot, h]

end CorvidNano.Runtime
