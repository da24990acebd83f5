import CorvidNano.Host.Sandbox
import CorvidNano.Library.FreshKeys

/-!
# Linking host functions

`link_host_functions` in `host_functions/mod.rs` and the `link` of each service. A linker is the
list of the imports that it defines, all in the module `env`, and like Wasmtime's it refuses to
define an import again.

`link_host_functions_eq_ok` says which imports a capability list links, and
`respects_limits_iff` when these are within the limits of a tier.
-/

namespace CorvidNano.Host.Linking

open FreshKeys Sdk

/-- An import of a module: the module that provides it and its name there. -/
structure Import where
  module : String
  name : String
  deriving DecidableEq

/-- The imports that a linker defines. -/
abbrev Linker := List Import

/-- Functions of the module `env`. -/
def env (names : List String) : List Import :=
  names.map (Import.mk "env")

/-- The functions of `storage.rs`. -/
def storageFunctions : List Import := env ["host_kv_get", "host_kv_set"]

/-- The functions of `http.rs`. -/
def httpFunctions : List Import := env ["host_http_get", "host_http_post"]

/-- The function of `algo.rs`. -/
def algoFunctions : List Import := env ["host_algo_state"]

/-- The function of `messaging.rs`. -/
def messagingFunctions : List Import := env ["host_send_message"]

/-- The function of `db.rs`. -/
def dbFunctions : List Import := env ["host_db_query"]

/-- The function of `fs.rs`. -/
def fsFunctions : List Import := env ["host_fs_read"]

/-- The function of `llm.rs`. -/
def llmFunctions : List Import := env ["host_llm_chat"]

/-- The functions of `tts.rs`. -/
def ttsFunctions : List Import := env ["host_tts_speak", "host_tts_list_voices"]

/-- The functions that a capability links. -/
def functionsOf : Capability → List Import
  | .storage _ => storageFunctions
  | .network _ => httpFunctions
  | .algoRead => algoFunctions
  | .agentMessage _ => messagingFunctions
  | .dbRead => dbFunctions
  | .fsProjectDir => fsFunctions
  | .llmChat => llmFunctions
  | .audioOutput => ttsFunctions

/-- `link_host_functions`. The limits are not used. -/
def linkHostFunctions (linker : Linker) (capabilities : List Capability)
    (_limits : SandboxLimits) : Except Import Linker :=
  capabilities.foldlM (fun linker capability => defineAll linker (functionsOf capability)) linker

/-- The kind of a capability, without its data. -/
inductive Kind where
  | storage
  | network
  | algoRead
  | agentMessage
  | dbRead
  | fsProjectDir
  | llmChat
  | audioOutput
  deriving DecidableEq

/-- The kind of a capability. -/
def kindOf : Capability → Kind
  | .storage _ => .storage
  | .network _ => .network
  | .algoRead => .algoRead
  | .agentMessage _ => .agentMessage
  | .dbRead => .dbRead
  | .fsProjectDir => .fsProjectDir
  | .llmChat => .llmChat
  | .audioOutput => .audioOutput

/-- No function of a service that the limits forbid is linked. -/
structure RespectsLimits (limits : SandboxLimits) (linker : Linker) : Prop where
  http : (∃ function ∈ httpFunctions, function ∈ linker) → limits.networkAllowed = true
  db : (∃ function ∈ dbFunctions, function ∈ linker) → limits.dbReadAllowed = true
  messaging : (∃ function ∈ messagingFunctions, function ∈ linker) → limits.messagingAllowed = true
  algo : (∃ function ∈ algoFunctions, function ∈ linker) → limits.algoReadAllowed = true
  llm : (∃ function ∈ llmFunctions, function ∈ linker) → limits.llmAllowed = true

/-! ## What a capability list links -/

/-- Linking the services one after the other defines all their functions in order. -/
theorem link_host_functions_eq (linker : Linker) (capabilities : List Capability)
    (limits : SandboxLimits) :
    linkHostFunctions linker capabilities limits =
      defineAll linker (capabilities.flatMap functionsOf) := by
  induction capabilities generalizing linker with
  | nil => rfl
  | cons capability rest ih =>
      rw [List.flatMap_cons, define_all_append]
      show (defineAll linker (functionsOf capability)).bind
        (fun middle => linkHostFunctions middle rest limits) = _
      congr 1
      funext middle
      exact ih middle

/-- Linking succeeds if and only if no function is linked twice, and it links the functions of
the listed capabilities. -/
theorem link_host_functions_eq_ok {capabilities : List Capability} {limits : SandboxLimits}
    {linker : Linker} :
    linkHostFunctions [] capabilities limits = .ok linker ↔
      (capabilities.flatMap functionsOf).Nodup ∧ linker = capabilities.flatMap functionsOf := by
  rw [link_host_functions_eq, define_all_eq_ok]
  simp

/-- Capabilities of different kinds link different functions, and capabilities of one kind link
the same ones. -/
theorem disjoint_functions_of_iff (first second : Capability) :
    List.Disjoint (functionsOf first) (functionsOf second) ↔ kindOf first ≠ kindOf second := by
  cases first <;> cases second <;> simp [functionsOf, kindOf, storageFunctions, httpFunctions,
    algoFunctions, messagingFunctions, dbFunctions, fsFunctions, llmFunctions, ttsFunctions, env]

/-- No service defines one of its own functions twice. -/
theorem nodup_functions_of (capability : Capability) : (functionsOf capability).Nodup := by
  cases capability <;> simp only [functionsOf] <;> decide

/-- A capability list can be linked if and only if it lists no kind of capability twice. -/
theorem linkable_iff {capabilities : List Capability} {limits : SandboxLimits} :
    (∃ linker, linkHostFunctions [] capabilities limits = .ok linker) ↔
      (capabilities.map kindOf).Nodup := by
  simp only [link_host_functions_eq_ok, exists_and_left, exists_eq, and_true]
  have hkinds : (capabilities.map kindOf).Nodup ↔
      capabilities.Pairwise fun first second => kindOf first ≠ kindOf second :=
    List.pairwise_map
  rw [List.nodup_flatMap, hkinds]
  constructor
  · rintro ⟨_, hdisjoint⟩
    exact hdisjoint.imp fun h => (disjoint_functions_of_iff _ _).mp h
  · intro hdistinct
    exact ⟨fun capability _ => nodup_functions_of capability,
      hdistinct.imp fun h => (disjoint_functions_of_iff _ _).mpr h⟩

/-- A linked function that a capability links comes from a capability of the same kind. -/
theorem exists_kind_of_linked {capabilities : List Capability} (capability : Capability)
    (h : ∃ function ∈ functionsOf capability, function ∈ capabilities.flatMap functionsOf) :
    ∃ other ∈ capabilities, kindOf other = kindOf capability := by
  obtain ⟨function, hfunction, hlinked⟩ := h
  obtain ⟨other, hmem, hother⟩ := List.mem_flatMap.mp hlinked
  refine ⟨other, hmem, ?_⟩
  by_contra hkind
  exact (disjoint_functions_of_iff other capability).mpr hkind hother hfunction

/-- The functions of a capability list are within the limits if and only if the limits grant
every listed capability. -/
theorem respects_limits_iff (limits : SandboxLimits) (capabilities : List Capability) :
    RespectsLimits limits (capabilities.flatMap functionsOf) ↔
      ∀ capability ∈ capabilities, limits.grants capability = true := by
  constructor
  · intro h capability hmem
    have hlinked : ∀ function ∈ functionsOf capability,
        function ∈ capabilities.flatMap functionsOf :=
      fun function hfunction => List.mem_flatMap.mpr ⟨capability, hmem, hfunction⟩
    cases capability with
    | network allowlist => exact h.http ⟨_, List.mem_cons_self, hlinked _ List.mem_cons_self⟩
    | dbRead => exact h.db ⟨_, List.mem_cons_self, hlinked _ List.mem_cons_self⟩
    | agentMessage filter =>
        exact h.messaging ⟨_, List.mem_cons_self, hlinked _ List.mem_cons_self⟩
    | algoRead => exact h.algo ⟨_, List.mem_cons_self, hlinked _ List.mem_cons_self⟩
    | llmChat => exact h.llm ⟨_, List.mem_cons_self, hlinked _ List.mem_cons_self⟩
    | storage | fsProjectDir | audioOutput => rfl
  · intro h
    have hgrants : ∀ capability : Capability,
        (∃ function ∈ functionsOf capability, function ∈ capabilities.flatMap functionsOf) →
        limits.grants capability = true := by
      intro capability hlinked
      obtain ⟨other, hmem, hkind⟩ := exists_kind_of_linked capability hlinked
      have hother := h other hmem
      cases capability <;> cases other <;> first | exact hother | cases hkind
    exact {
      http := hgrants (.network [])
      db := hgrants .dbRead
      messaging := hgrants (.agentMessage "")
      algo := hgrants .algoRead
      llm := hgrants .llmChat }

end CorvidNano.Host.Linking
