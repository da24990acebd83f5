import CorvidNano.Host.Sandbox
import CorvidNano.Library.Stepwise
import CorvidNano.Library.Unsigned

/-!
# Memory growth in machine words

`MemoryLimiter` of `sandbox.rs` as the host computes it, on words of `usize`: the sum that is
compared with the limit is an addition that may overflow. The limiter on natural numbers says what
it is for.

`growth_accounted_iff` is the main result: the limiter keeps its books exactly in the runs in which
no memory asks for more than what `usize` leaves above the growth that was accepted before.
-/

namespace CorvidNano.Host.MemoryGrowth

open Unsigned

variable {w : Nat}

/-- `MemoryLimiter`, where `usize` has `w` bits. -/
structure MemoryLimiter (w : Nat) where
  limit : BitVec w
  allocated : BitVec w
  deriving DecidableEq

/-- `MemoryLimiter::new`. -/
def MemoryLimiter.new (limit : BitVec w) : MemoryLimiter w where
  limit
  allocated := 0#w

/-- `memory_growing`, or `none` if an addition panics because the build checks for overflow. -/
def MemoryLimiter.memoryGrowing (overflowChecks : Bool) (limiter : MemoryLimiter w)
    (current desired : BitVec w) (_maximum : Option (BitVec w)) :
    Option (MemoryLimiter w × Bool) := do
  let delta := saturatingSub desired current
  let total ← add overflowChecks limiter.allocated delta
  if limiter.limit < total then pure (limiter, false)
  else
    let allocated ← add overflowChecks limiter.allocated delta
    pure ({ limiter with allocated }, true)

/-- A memory asks to grow. The limiter does not see which one it is. -/
structure Request (w : Nat) where
  current : BitVec w
  desired : BitVec w
  maximum : Option (BitVec w)
  le : current ≤ desired

/-- How much the memory asks for. -/
def Request.growth (request : Request w) : Nat :=
  request.desired.toNat - request.current.toNat

/-- The answer to a request. -/
def answer (overflowChecks : Bool) (limiter : MemoryLimiter w) (request : Request w) :
    Option (MemoryLimiter w × Bool) :=
  limiter.memoryGrowing overflowChecks request.current request.desired request.maximum

/-- The limiter of a store, and the requests that it has accepted. -/
structure Store (w : Nat) where
  limiter : MemoryLimiter w
  accepted : List (Request w)

/-- A store without memories. -/
def Store.new (limit : BitVec w) : Store w where
  limiter := .new limit
  accepted := []

/-- The growth that was accepted in all. -/
def Store.total (store : Store w) : Nat :=
  (store.accepted.map Request.growth).sum

/-- The store after a request. -/
def Store.step (overflowChecks : Bool) (store : Store w) (request : Request w) : Store w :=
  match answer overflowChecks store.limiter request with
  | none => store
  | some (limiter, true) => { limiter, accepted := store.accepted ++ [request] }
  | some (limiter, false) => { store with limiter }

/-- A request is answered without wrapping, the limiter then holds the accepted growth within its
limit, and is the same as before if it has refused. -/
structure Accounted (overflowChecks : Bool) (store : Store w) (request : Request w) : Prop where
  no_wrap : store.limiter.allocated.toNat + request.growth < 2 ^ w
  answered : ∃ limiter allowed,
    answer overflowChecks store.limiter request = some (limiter, allowed) ∧
      (allowed = false → limiter = store.limiter)
  allocated_eq : (store.step overflowChecks request).limiter.allocated.toNat =
    (store.step overflowChecks request).total
  allocated_le : (store.step overflowChecks request).limiter.allocated ≤ store.limiter.limit

/-! ## The limiter on natural numbers -/

/-- The limiter on natural numbers after a request. -/
def idealStep (limiter : Host.MemoryLimiter) (request : Request w) : Host.MemoryLimiter :=
  (limiter.memoryGrowing request.current.toNat request.desired.toNat).1

/-- `usize` has room for the growth above what was accepted before. -/
def Fits (limiter : Host.MemoryLimiter) (request : Request w) : Prop :=
  limiter.allocated + request.growth < 2 ^ w

/-- The store holds what the limiter on natural numbers holds. -/
structure Related (store : Store w) (ideal : Host.MemoryLimiter) : Prop where
  limit : store.limiter.limit.toNat = ideal.limit
  allocated : store.limiter.allocated.toNat = ideal.allocated
  total : store.total = ideal.allocated
  le : ideal.allocated ≤ ideal.limit

theorem related_new (limit : BitVec w) :
    Related (Store.new limit) (Host.MemoryLimiter.new limit.toNat) where
  limit := rfl
  allocated := by
    show (0#w).toNat = 0
    rw [BitVec.toNat_ofNat, Nat.zero_mod]
  total := rfl
  le := Nat.zero_le _

variable {store : Store w} {ideal : Host.MemoryLimiter} {request : Request w}

/-- The answer once the sum is known, be it exact or not. -/
theorem answer_of_add {overflowChecks : Bool} {limiter : MemoryLimiter w} {total : BitVec w}
    (hadd : add overflowChecks limiter.allocated (saturatingSub request.desired request.current) =
      some total) :
    answer overflowChecks limiter request =
      if limiter.limit < total then some (limiter, false)
      else some ({ limiter with allocated := total }, true) := by
  unfold answer MemoryLimiter.memoryGrowing
  dsimp only
  rw [hadd, Option.bind_eq_bind, Option.bind_some]
  by_cases h : limiter.limit < total
  · rw [if_pos h, if_pos h]
    rfl
  · rw [if_neg h, if_neg h]
    rfl

/-- The sum is exact while the growth fits. -/
theorem add_of_fits (overflowChecks : Bool) (h : Related store ideal) (hfits : Fits ideal request) :
    ∃ total, add overflowChecks store.limiter.allocated
        (saturatingSub request.desired request.current) = some total ∧
      total.toNat = ideal.allocated + request.growth := by
  have hsum : store.limiter.allocated.toNat +
      (saturatingSub request.desired request.current).toNat < 2 ^ w := by
    rw [to_nat_saturating_sub, h.allocated]
    exact hfits
  obtain ⟨hadd, htotal⟩ := add_eq_some overflowChecks hsum
  rw [to_nat_saturating_sub, h.allocated] at htotal
  exact ⟨_, hadd, htotal⟩

/-- A request that fits is refused if it asks for too much, and its growth is added otherwise. -/
theorem answer_of_fits (overflowChecks : Bool) (h : Related store ideal)
    (hfits : Fits ideal request) :
    (ideal.limit < ideal.allocated + request.growth ∧
        answer overflowChecks store.limiter request = some (store.limiter, false)) ∨
      (ideal.allocated + request.growth ≤ ideal.limit ∧ ∃ total : BitVec w,
        total.toNat = ideal.allocated + request.growth ∧
        answer overflowChecks store.limiter request =
          some ({ store.limiter with allocated := total }, true)) := by
  obtain ⟨total, hadd, htotal⟩ := add_of_fits overflowChecks h hfits
  have hlt : store.limiter.limit < total ↔ ideal.limit < ideal.allocated + request.growth := by
    rw [BitVec.lt_def, h.limit, htotal]
  rw [answer_of_add hadd]
  rcases Nat.lt_or_ge ideal.limit (ideal.allocated + request.growth) with hlimit | hlimit
  · rw [if_pos (hlt.mpr hlimit)]
    exact Or.inl ⟨hlimit, rfl⟩
  · rw [if_neg fun hover => Nat.not_lt_of_ge hlimit (hlt.mp hover)]
    exact Or.inr ⟨hlimit, total, htotal, rfl⟩

/-- The limiter on natural numbers refuses and adds alike. -/
theorem ideal_step (limiter : Host.MemoryLimiter) (request : Request w) :
    idealStep limiter request =
      if limiter.limit < limiter.allocated + request.growth then limiter
      else { limiter with allocated := limiter.allocated + request.growth } := by
  unfold idealStep Host.MemoryLimiter.memoryGrowing Request.growth
  dsimp only
  split
  next => rfl
  next => rfl

/-- A request that fits is accounted for, and keeps the relation. -/
theorem Related.step (overflowChecks : Bool) (h : Related store ideal)
    (hfits : Fits ideal request) :
    Related (store.step overflowChecks request) (idealStep ideal request) ∧
      (store.step overflowChecks request).limiter.limit = store.limiter.limit := by
  rw [ideal_step]
  rcases answer_of_fits overflowChecks h hfits with
    ⟨hlimit, hanswer⟩ | ⟨hlimit, total, htotal, hanswer⟩
  · rw [if_pos hlimit, Store.step, hanswer]
    exact ⟨⟨h.limit, h.allocated, h.total, h.le⟩, rfl⟩
  · rw [if_neg (Nat.not_lt_of_ge hlimit), Store.step, hanswer]
    refine ⟨⟨h.limit, htotal, ?_, hlimit⟩, rfl⟩
    show ((store.accepted ++ [request]).map Request.growth).sum = _
    rw [List.map_append, List.sum_append, List.map_singleton, List.sum_singleton]
    exact congrArg (· + request.growth) h.total

/-- A request is accounted for exactly if it fits. -/
theorem Related.accounted_iff_fits (overflowChecks : Bool) (h : Related store ideal)
    (request : Request w) :
    Accounted overflowChecks store request ↔ Fits ideal request := by
  constructor
  · intro haccounted
    have hwrap := haccounted.no_wrap
    rw [h.allocated] at hwrap
    exact hwrap
  · intro hfits
    obtain ⟨hstep, hlimit⟩ := h.step overflowChecks hfits
    refine ⟨?_, ?_, hstep.allocated.trans hstep.total.symm, ?_⟩
    · rw [h.allocated]
      exact hfits
    · rcases answer_of_fits overflowChecks h hfits with ⟨-, hanswer⟩ | ⟨-, total, -, hanswer⟩
      · exact ⟨store.limiter, false, hanswer, fun _ => rfl⟩
      · exact ⟨_, true, hanswer, nofun⟩
    · rw [← hlimit, BitVec.le_def, hstep.allocated, hstep.limit]
      exact hstep.le

/-! ## Runs of a store -/

/-- Every request of a run is accounted for exactly if every request fits: the growth that it asks
for is at most what `usize` leaves above the growth that was accepted before. -/
theorem growth_accounted_iff (overflowChecks : Bool) (limit : BitVec w)
    (requests : List (Request w)) :
    Stepwise.Holds (Store.step overflowChecks) (Accounted overflowChecks) (Store.new limit)
        requests ↔
      Stepwise.Holds idealStep Fits (Host.MemoryLimiter.new limit.toNat) requests :=
  Stepwise.holds_iff (fun h => h.accounted_iff_fits overflowChecks _)
    (fun h haccounted => (h.step overflowChecks ((h.accounted_iff_fits _ _).mp haccounted)).1)
    (related_new limit) requests

/-- A new memory asks for its first bytes. -/
def newMemory (bytes : BitVec w) : Request w where
  current := 0#w
  desired := bytes
  maximum := none
  le := Nat.zero_le _

/-- A memory of one page, and then one of all that `usize` can count but a page: the limiter of a
64-bit host accepts both under a limit of 4 MiB and then holds nothing, and so does that of a
32-bit host, where 65535 pages are a memory that WebAssembly allows. -/
theorem two_memories_unaccounted :
    let first : Request 64 := newMemory 65536
    let second : Request 64 := newMemory (BitVec.ofNat 64 (2 ^ 64 - 65536))
    let store : Store 64 := (Store.new (BitVec.ofNat 64 (4 * 1024 * 1024))).step false first
    let second32 : Request 32 := newMemory (BitVec.ofNat 32 (65535 * 65536))
    let store32 : Store 32 :=
      (Store.new (BitVec.ofNat 32 (4 * 1024 * 1024))).step false (newMemory 65536)
    answer false store.limiter second = some (.new store.limiter.limit, true) ∧
      (store.step false second).total = 2 ^ 64 ∧
      ¬ Stepwise.Holds (Store.step false) (Accounted false)
        (Store.new (BitVec.ofNat 64 (4 * 1024 * 1024))) [first, second] ∧
      answer false store32.limiter second32 = some (.new store32.limiter.limit, true) := by
  refine ⟨by decide, by decide, fun hholds => ?_, by decide⟩
  have hwrap := (hholds [newMemory 65536] _ [] rfl).no_wrap
  exact absurd hwrap (by decide)

end CorvidNano.Host.MemoryGrowth
