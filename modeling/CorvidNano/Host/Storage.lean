import CorvidNano.Host.Loader
import CorvidNano.Host.WasmMem
import Mathlib.Data.List.Induction
import Mathlib.Logic.Function.Basic

/-!
# Key-value storage of plugins

`host_functions/storage.rs`: one map for all plugins, with the id of the calling plugin in front
of each key. `namespaces_isolated` says that a plugin reads what it wrote last itself, whatever
the other plugins do: an id that the loader accepts has no colon in it.
-/

namespace CorvidNano.Host.Storage

open Loader Sdk WasmMem

/-- `StorageBackend`. No code panics while it holds the lock, so it is never poisoned. -/
structure StorageBackend where
  data : String → Option (List UInt8)

namespace StorageBackend

/-- `StorageBackend::new`. -/
def new : StorageBackend where
  data _ := none

/-- The key in the map. -/
def fullKey (pluginNamespace key : String) : String :=
  pluginNamespace ++ ":" ++ key

/-- `StorageBackend::get`. -/
def get (storage : StorageBackend) (pluginNamespace key : String) : Option (List UInt8) :=
  storage.data (fullKey pluginNamespace key)

/-- `StorageBackend::set`. -/
def set (storage : StorageBackend) (pluginNamespace key : String) (value : List UInt8) :
    StorageBackend where
  data := Function.update storage.data (fullKey pluginNamespace key) (some value)

end StorageBackend

/-- `host_kv_get`, for a plugin whose state has the storage or has none. -/
def hostKvGet (storage : Option StorageBackend) (pluginId : String) (caller : Caller)
    (keyPtr keyLen : BitVec 32) : Response :=
  match readStr caller keyPtr keyLen with
  | none => .null
  | some key =>
      match storage with
      | none => .null
      | some storage =>
          match storage.get pluginId key with
          | none => .null
          | some value => writeResponse caller value

/-- `host_kv_set`: the status, and the storage after the call. -/
def hostKvSet (storage : Option StorageBackend) (pluginId : String) (caller : Caller)
    (keyPtr keyLen valPtr valLen : BitVec 32) : Int × Option StorageBackend :=
  match readStr caller keyPtr keyLen with
  | none => (-1, storage)
  | some key =>
      match readBytes caller valPtr valLen with
      | none => (-1, storage)
      | some value =>
          match storage with
          | none => (-1, none)
          | some storage => (0, some (storage.set pluginId key value))

/-! ## Calls of registered plugins -/

/-- A plugin that the loader accepts. The registry has it under its id, which is the id that the
state of its executions carries. -/
structure Plugin (semver : Semver) where
  manifest : PluginManifest
  validated : validateManifest semver manifest = .ok ()

/-- The arguments of a call. -/
inductive Operation where
  | get (keyPtr keyLen : BitVec 32)
  | set (keyPtr keyLen valPtr valLen : BitVec 32)

/-- A call of a storage function by a plugin. -/
structure Call (semver : Semver) where
  plugin : Plugin semver
  caller : Caller
  operation : Operation

variable {semver : Semver}

/-- The id of the plugin. -/
def Plugin.id (plugin : Plugin semver) : String := plugin.manifest.id

/-- The storage after a call. -/
def Call.run (storage : Option StorageBackend) (call : Call semver) : Option StorageBackend :=
  match call.operation with
  | .get _ _ => storage
  | .set keyPtr keyLen valPtr valLen =>
      (hostKvSet storage call.plugin.id call.caller keyPtr keyLen valPtr valLen).2

/-- The key and the value that a call writes. -/
def Call.written (call : Call semver) : Option (String × List UInt8) :=
  match call.operation with
  | .get _ _ => none
  | .set keyPtr keyLen valPtr valLen =>
      (readStr call.caller keyPtr keyLen).bind fun key =>
        (readBytes call.caller valPtr valLen).map fun value => (key, value)

/-- The value that the plugin with the id wrote last for the key, if that was `last` before the
call. -/
def Call.supersede (call : Call semver) (id key : String) (last : Option (List UInt8)) :
    Option (List UInt8) :=
  match call.written with
  | some (other, value) => if call.plugin.id = id ∧ other = key then some value else last
  | none => last

/-- The value that the plugin with the id wrote last for the key. -/
def lastWritten (id key : String) (calls : List (Call semver)) : Option (List UInt8) :=
  calls.foldl (fun last call => call.supersede id key last) none

/-- The plugin of a load. -/
def Plugin.ofLoad {platform : Platform} (call : LoadCall platform) : Plugin platform.semver where
  manifest := call.loaded.manifest
  validated := call.validated

/-! ## Namespaces -/

/-- An id that the loader accepts has no colon. -/
theorem Plugin.colon_not_mem (plugin : Plugin semver) : ':' ∉ plugin.id.toList := by
  have hre : idRe plugin.manifest.id = true := by
    by_contra h
    have hvalidated := plugin.validated
    rw [validateManifest, if_pos (by simpa using h)] at hvalidated
    cases hvalidated
  exact Text.not_mem_of_matches_name (by decide) (by decide) hre

/-- Two plugins share a key of the map only if they are one plugin and the keys are the same. -/
theorem full_key_inj (first second : Plugin semver) (key other : String) :
    StorageBackend.fullKey first.id key = StorageBackend.fullKey second.id other ↔
      first.id = second.id ∧ key = other := by
  constructor
  · intro h
    have htexts : first.id.toList ++ ':' :: key.toList = second.id.toList ++ ':' :: other.toList := by
      simpa [StorageBackend.fullKey] using congrArg String.toList h
    obtain ⟨hid, hkey⟩ :=
      Text.append_cons_inj first.colon_not_mem second.colon_not_mem htexts
    exact ⟨String.toList_injective hid, String.toList_injective hkey⟩
  · rintro ⟨hid, rfl⟩
    rw [hid]

/-- A write by a plugin is read by that plugin for that key only. -/
theorem get_set (storage : StorageBackend) (writer reader : Plugin semver) (key other : String)
    (value : List UInt8) :
    (storage.set writer.id key value).get reader.id other =
      if writer.id = reader.id ∧ key = other then some value
      else storage.get reader.id other := by
  show Function.update storage.data _ _ _ = _
  rw [Function.update_apply]
  refine if_congr ?_ rfl rfl
  rw [eq_comm]
  exact full_key_inj writer reader key other

/-- A write under a namespace is read under it for that key only. -/
theorem StorageBackend.get_set_same_namespace (storage : StorageBackend)
    (pluginNamespace key other : String) (value : List UInt8) :
    (storage.set pluginNamespace key value).get pluginNamespace other =
      if key = other then some value else storage.get pluginNamespace other := by
  show Function.update storage.data _ _ _ = _
  rw [Function.update_apply]
  refine if_congr ?_ rfl rfl
  constructor
  · intro h
    have htexts := congrArg String.toList h
    simp only [fullKey, String.toList_append, List.append_cancel_left_eq] at htexts
    exact (String.toList_injective htexts).symm
  · rintro rfl
    rfl

/-- A call stores what it writes and nothing else. -/
theorem run_eq (storage : StorageBackend) (call : Call semver) :
    call.run (some storage) =
      some (match call.written with
        | some (key, value) => storage.set call.plugin.id key value
        | none => storage) := by
  unfold Call.run Call.written
  cases call.operation with
  | get keyPtr keyLen => rfl
  | set keyPtr keyLen valPtr valLen =>
      unfold hostKvSet
      dsimp only
      cases readStr call.caller keyPtr keyLen with
      | none => rfl
      | some key =>
          cases readBytes call.caller valPtr valLen with
          | none => rfl
          | some value => rfl

/-- What a call does to the values that a plugin reads. -/
theorem get_run (storage : StorageBackend) (call : Call semver) (plugin : Plugin semver)
    (key : String) :
    (call.run (some storage)).map (StorageBackend.get · plugin.id key) =
      some (call.supersede plugin.id key (storage.get plugin.id key)) := by
  rw [run_eq, Option.map_some]
  unfold Call.supersede
  cases call.written with
  | none => rfl
  | some written => exact congrArg some (get_set storage call.plugin plugin written.1 key written.2)

/-- After any calls the storage has for each plugin and key what that plugin wrote last. -/
theorem runs_get (calls : List (Call semver)) :
    ∃ storage, calls.foldl Call.run (some .new) = some storage ∧
      ∀ (plugin : Plugin semver) (key : String),
        storage.get plugin.id key = lastWritten plugin.id key calls := by
  induction calls using List.reverseRecOn with
  | nil => exact ⟨.new, rfl, fun _ _ => rfl⟩
  | append_singleton calls call ih =>
      obtain ⟨before, hbefore, hget⟩ := ih
      refine ⟨_, by rw [List.foldl_concat, hbefore, run_eq], fun plugin key => ?_⟩
      have hrun := get_run before call plugin key
      rw [run_eq, Option.map_some, Option.some.injEq, hget] at hrun
      rw [hrun]
      unfold lastWritten
      rw [List.foldl_concat]

/-- After any calls of storage functions by registered plugins in any order, a plugin reads for
each key what it wrote last for that key itself, and a call of another plugin changes nothing that
it reads. -/
theorem namespaces_isolated (calls : List (Call semver)) (plugin : Plugin semver) :
    (∀ caller keyPtr keyLen,
      hostKvGet (calls.foldl Call.run (some .new)) plugin.id caller keyPtr keyLen =
        match readStr caller keyPtr keyLen with
        | none => .null
        | some key =>
            match lastWritten plugin.id key calls with
            | none => .null
            | some value => writeResponse caller value) ∧
    ∀ (storage : StorageBackend) (call : Call semver), call.plugin.id ≠ plugin.id →
      ∀ key, (call.run (some storage)).map (StorageBackend.get · plugin.id key) =
        some (storage.get plugin.id key) := by
  constructor
  · intro caller keyPtr keyLen
    obtain ⟨storage, hstorage, hget⟩ := runs_get calls
    rw [hstorage]
    unfold hostKvGet
    cases readStr caller keyPtr keyLen with
    | none => rfl
    | some key =>
        dsimp only
        rw [hget]
  · intro storage call hother key
    rw [get_run]
    unfold Call.supersede
    cases call.written with
    | none => rfl
    | some written => exact congrArg some (if_neg fun h => hother h.1)

end CorvidNano.Host.Storage
