import CorvidNano.Sdk.Manifest

/-!
# Resource limits of a trust tier

`SandboxLimits::for_tier` in `sandbox.rs`, and the limiter of a plugin's linear memory.
-/

namespace CorvidNano.Host

open Sdk

/-- The limits that the host enforces on a plugin, and the services that its tier may use. -/
structure SandboxLimits where
  memoryBytes : Nat
  fuelPerCall : Nat
  timeoutSecs : Nat
  networkAllowed : Bool
  dbReadAllowed : Bool
  messagingAllowed : Bool
  algoReadAllowed : Bool
  llmAllowed : Bool
  deriving DecidableEq

/-- `SandboxLimits::for_tier`. -/
def SandboxLimits.forTier : TrustTier → SandboxLimits
  | .trusted =>
      { memoryBytes := 128 * 1024 * 1024
        fuelPerCall := 1000000000
        timeoutSecs := 30
        networkAllowed := true
        dbReadAllowed := true
        messagingAllowed := true
        algoReadAllowed := true
        llmAllowed := true }
  | .verified =>
      { memoryBytes := 32 * 1024 * 1024
        fuelPerCall := 100000000
        timeoutSecs := 5
        networkAllowed := true
        dbReadAllowed := true
        messagingAllowed := false
        algoReadAllowed := true
        llmAllowed := true }
  | .untrusted =>
      { memoryBytes := 4 * 1024 * 1024
        fuelPerCall := 10000000
        timeoutSecs := 1
        networkAllowed := false
        dbReadAllowed := false
        messagingAllowed := false
        algoReadAllowed := false
        llmAllowed := false }

/-- The limits of a tier tell the tier. -/
theorem SandboxLimits.for_tier_injective {first second : TrustTier}
    (h : forTier first = forTier second) : first = second := by
  cases first <;> cases second <;> first | rfl | exact absurd h (by decide)

/-- The limits allow the service that a capability asks for. Storage, files and audio are open
to every tier. -/
def SandboxLimits.grants (limits : SandboxLimits) : Capability → Bool
  | .network _ => limits.networkAllowed
  | .dbRead => limits.dbReadAllowed
  | .agentMessage _ => limits.messagingAllowed
  | .algoRead => limits.algoReadAllowed
  | .llmChat => limits.llmAllowed
  | .storage _ | .fsProjectDir | .audioOutput => true

/-- `MemoryLimiter`. -/
structure MemoryLimiter where
  limit : Nat
  allocated : Nat

/-- `MemoryLimiter::new`. -/
def MemoryLimiter.new (limit : Nat) : MemoryLimiter where
  limit
  allocated := 0

/-- `memory_growing`: whether the memory may grow from the current to the desired size. -/
def MemoryLimiter.memoryGrowing (limiter : MemoryLimiter) (current desired : Nat) :
    MemoryLimiter × Bool :=
  let delta := desired - current
  if limiter.limit < limiter.allocated + delta then (limiter, false)
  else ({ limiter with allocated := limiter.allocated + delta }, true)

/-- The limiter of a store and the size of the memory in it. -/
structure MemorySize where
  limiter : MemoryLimiter
  size : Nat

/-- A store without a memory yet. -/
def MemorySize.start (limits : SandboxLimits) : MemorySize where
  limiter := .new limits.memoryBytes
  size := 0

/-- The memory asks for more bytes, which it gets if the limiter allows it. -/
def MemorySize.grow (memory : MemorySize) (bytes : Nat) : MemorySize :=
  match memory.limiter.memoryGrowing memory.size (memory.size + bytes) with
  | (limiter, true) => { limiter, size := memory.size + bytes }
  | (limiter, false) => { memory with limiter }

/-- Growing keeps the size within the limit. -/
theorem MemorySize.grow_size_le {memory : MemorySize} (bytes : Nat)
    (hallocated : memory.size = memory.limiter.allocated)
    (hlimit : memory.size ≤ memory.limiter.limit) :
    (memory.grow bytes).limiter.limit = memory.limiter.limit ∧
      (memory.grow bytes).size = (memory.grow bytes).limiter.allocated ∧
      (memory.grow bytes).size ≤ memory.limiter.limit := by
  unfold grow MemoryLimiter.memoryGrowing
  dsimp only
  by_cases h : memory.limiter.limit < memory.limiter.allocated + (memory.size + bytes - memory.size)
  · rw [if_pos h]
    exact ⟨rfl, hallocated, hlimit⟩
  · rw [if_neg h]
    refine ⟨rfl, ?_, ?_⟩
    · show memory.size + bytes = memory.limiter.allocated + (memory.size + bytes - memory.size)
      omega
    · show memory.size + bytes ≤ memory.limiter.limit
      omega

/-- A memory never grows beyond the limit of its store. -/
theorem MemorySize.size_le (limits : SandboxLimits) (growth : List Nat) :
    (growth.foldl grow (start limits)).size ≤ limits.memoryBytes := by
  have hrun : ∀ memory : MemorySize, memory.size = memory.limiter.allocated →
      memory.size ≤ memory.limiter.limit →
      (growth.foldl grow memory).size ≤ memory.limiter.limit := by
    induction growth with
    | nil => exact fun memory _ hlimit => hlimit
    | cons bytes growth ih =>
        intro memory hallocated hlimit
        obtain ⟨hsame, hallocated', hlimit'⟩ := memory.grow_size_le bytes hallocated hlimit
        exact hsame ▸ ih (memory.grow bytes) hallocated' (hsame.symm ▸ hlimit')
  exact hrun (start limits) rfl (Nat.zero_le _)

end CorvidNano.Host
