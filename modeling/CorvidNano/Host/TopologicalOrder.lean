import CorvidNano.Host.Invoke
import CorvidNano.Library.Schedule
import Mathlib.Data.Finset.Card
import Mathlib.Data.List.Nodup
import Mathlib.Data.List.Sort
import Mathlib.Data.String.Basic
import Mathlib.Logic.Function.Basic

/-!
# The load order of a set of plugins

`PluginRegistry::topological_order` of `registry.rs`: Kahn's algorithm over hash maps. The
in-degree of a plugin starts as the length of its dependency list and goes down by one for each
plugin of that list, so a dependency that is listed twice is counted twice and removed once.

`topological_order_eq_ok` is the main lemma: what is returned takes up the plugins first in first
out, with the hash map's own order between plugins that are released together.
-/

namespace CorvidNano.Host.TopologicalOrder

open Schedule Sdk

/-- The order in which a hash map or set goes through its keys. The seed of the hasher decides
it, and it stays the same as long as the keys do. -/
structure Iteration where
  keys : List String → List String
  perm : ∀ ids, (keys ids).Perm ids

/-- The order of insertion, and its reverse. -/
def Iteration.inserted : Iteration := ⟨id, List.Perm.refl⟩

@[inherit_doc Iteration.inserted]
def Iteration.reversed : Iteration := ⟨List.reverse, List.reverse_perm⟩

/-- The iteration orders of the collections of one call. -/
structure Hashing where
  ids : Iteration
  deps : Iteration
  inDegree : Iteration

/-- The keys of `ids`, which are those of `deps` and `in_degree` too. -/
def idsOf (manifests : List PluginManifest) : List String :=
  (manifests.map PluginManifest.id).dedup

/-- The values of `deps`: the listed dependencies that are ids of the set. -/
def depsOf (manifests : List PluginManifest) : String → List String :=
  manifests.foldl
    (fun deps m => Function.update deps m.id
      (m.dependencies.filter fun d => d ∈ idsOf manifests)) fun _ => []

/-- The variables of the loop. -/
@[ext] structure Progress where
  queue : List String
  inDegree : String → Nat
  order : List String

/-- The start of the loop: the in-degree of a plugin is the length of its list, and the queue has
the plugins of in-degree 0, sorted. -/
def Progress.start (deps : String → List String) (keys : List String) : Progress where
  queue := (keys.filter fun id => (deps id).length = 0).insertionSort (· ≤ ·)
  inDegree id := (deps id).length
  order := []

/-- An entry of `deps` while `id` is processed. `release_in_degree_pos` says that the in-degree
is not 0 before it goes down. -/
def release (deps : String → List String) (id : String) (progress : Progress)
    (dependent : String) : Progress :=
  if id ∈ deps dependent then
    let deg := progress.inDegree dependent - 1
    { progress with
      inDegree := Function.update progress.inDegree dependent deg
      queue := if deg = 0 then progress.queue ++ [dependent] else progress.queue }
  else progress

/-- One round of the `while` loop, over the keys of `deps`. -/
def round (deps : String → List String) (keys : List String) (progress : Progress) : Progress :=
  match progress.queue with
  | [] => progress
  | id :: queue => keys.foldl (release deps id) { progress with
      queue, order := progress.order ++ [id] }

/-- The loop. It ends within as many rounds as there are plugins, see `queue_rounds_eq_nil`. -/
def rounds (deps : String → List String) (keys : List String) : Nat → Progress → Progress
  | 0, progress => progress
  | n + 1, progress => rounds deps keys n (round deps keys progress)

/-- `PluginRegistry::topological_order`. -/
def topologicalOrder (hashing : Hashing) (manifests : List PluginManifest) :
    Except String (List String) :=
  let ids := idsOf manifests
  let deps := depsOf manifests
  let order := (rounds deps (hashing.deps.keys ids) ids.length
    (Progress.start deps (hashing.inDegree.keys ids))).order
  if order.length ≠ ids.length then
    let remaining := (hashing.ids.keys ids).filter fun id => !order.any (· == id)
    .error ("dependency cycle detected among plugins: [" ++ ", ".intercalate remaining ++ "]")
  else .ok order

variable {deps : String → List String} {keys : List String}

/-- The inner loop lowers the in-degree of each dependent, and appends those that reach 0 in the
order of the map. -/
theorem foldl_release {id : String} (hkeys : keys.Nodup) (progress : Progress) :
    keys.foldl (release deps id) progress = {
      progress with
      inDegree := fun d =>
        if d ∈ keys ∧ id ∈ deps d then progress.inDegree d - 1 else progress.inDegree d
      queue := progress.queue ++
        keys.filter fun d => id ∈ deps d ∧ progress.inDegree d - 1 = 0 } := by
  induction keys generalizing progress with
  | nil => simp
  | cons key keys ih =>
      obtain ⟨hkey, hrest⟩ := List.nodup_cons.1 hkeys
      have hne : ∀ d ∈ keys, d ≠ key := fun d hd h => hkey (h ▸ hd)
      rw [List.foldl_cons, ih hrest]
      by_cases hdep : id ∈ deps key
      · have hfilter : (keys.filter fun d => id ∈ deps d ∧
            (release deps id progress key).inDegree d - 1 = 0) =
            keys.filter fun d => id ∈ deps d ∧ progress.inDegree d - 1 = 0 := by
          refine List.filter_congr fun d hd => ?_
          simp [release, hdep, Function.update_of_ne (hne d hd)]
        rw [hfilter]
        refine Progress.ext ?_ ?_ ?_
        · by_cases hzero : progress.inDegree key - 1 = 0 <;> simp [release, hdep, hzero]
        · funext d
          by_cases hd : d = key
          · subst hd
            simp [release, hdep, hkey]
          · simp [release, hdep, hd, Function.update_of_ne]
        · simp [release, hdep]
      · have hsame : release deps id progress key = progress := if_neg hdep
        rw [hsame]
        refine Progress.ext ?_ ?_ rfl
        · simp [hdep]
        · funext d
          by_cases hd : d = key
          · subst hd
            simp [hdep]
          · simp [hd]

/-- The number of dependencies that are done, each counted once. -/
def processed (deps : String → List String) (order : List String) (id : String) : Nat :=
  ((deps id).toFinset ∩ order.toFinset).card

theorem processed_concat {order : List String} {id : String} (hnew : id ∉ order) (d : String) :
    processed deps (order ++ [id]) d =
      processed deps order d + if id ∈ deps d then 1 else 0 := by
  have hinsert : (order ++ [id]).toFinset = insert id order.toFinset := by
    ext
    simp
  rw [processed, processed, hinsert]
  by_cases hdep : id ∈ deps d
  · rw [if_pos hdep, Finset.inter_insert_of_mem (List.mem_toFinset.2 hdep),
      Finset.card_insert_of_notMem]
    simp [hnew]
  · rw [if_neg hdep, Finset.inter_insert_of_notMem (by simpa using hdep), Nat.add_zero]

theorem processed_le (order : List String) (id : String) :
    processed deps order id ≤ (deps id).toFinset.card :=
  Finset.card_le_card Finset.inter_subset_left

/-- All dependencies of a plugin are done when as many are done as it has. -/
theorem subset_of_processed {order : List String} {id : String}
    (h : (deps id).toFinset.card ≤ processed deps order id) : deps id ⊆ order := by
  have heq := Finset.eq_of_subset_of_card_le Finset.inter_subset_left h
  intro d hd
  have hinter := (Finset.ext_iff.1 heq d).2 (List.mem_toFinset.2 hd)
  exact List.mem_toFinset.1 (Finset.mem_inter.1 hinter).2

/-- What the loop keeps. The in-degree counts the entries of the list that are not yet removed,
and the plugins of in-degree 0 are the ones in the order or the queue. -/
structure Invariant (deps : String → List String) (keys : List String) (progress : Progress) :
    Prop where
  nodup : (progress.order ++ progress.queue).Nodup
  subset : progress.order ++ progress.queue ⊆ keys
  degree : ∀ id, progress.inDegree id + processed deps progress.order id = (deps id).length
  listed : ∀ id ∈ keys, id ∈ progress.order ++ progress.queue ↔ progress.inDegree id = 0
  respects : Respects deps progress.order
  pairwise : (progress.order ++ progress.queue).Pairwise (Before deps (· < ·)
    (fun a b => keys.idxOf a < keys.idxOf b) progress.order)

/-- A plugin in the order or the queue has its dependencies done, and lists none of them twice. -/
theorem Invariant.ready {progress : Progress} (h : Invariant deps keys progress) {id : String}
    (hid : id ∈ progress.order ++ progress.queue) :
    deps id ⊆ progress.order ∧ (deps id).Nodup := by
  have hdegree := h.degree id
  rw [(h.listed id (h.subset hid)).1 hid, Nat.zero_add] at hdegree
  have hcard := List.toFinset_card_le (deps id)
  have hprocessed : processed deps progress.order id ≤ _ := processed_le progress.order id
  refine ⟨subset_of_processed (hdegree ▸ hcard), ?_⟩
  exact Multiset.toFinset_card_eq_card_iff_nodup.1
    (le_antisymm hcard (hdegree ▸ hprocessed) : (deps id).toFinset.card = (deps id).length)

/-- A dependent of a plugin that is not yet done has entries left. -/
theorem Invariant.in_degree_pos {progress : Progress} (h : Invariant deps keys progress)
    {id d : String} (hnew : id ∉ progress.order) (hdep : id ∈ deps d) :
    0 < progress.inDegree d := by
  by_contra hzero
  have hdegree := h.degree d
  have hcard := List.toFinset_card_le (deps d)
  exact hnew (subset_of_processed (by omega) hdep)

/-- The queue at the start is sorted, and no plugin stands in it twice. -/
theorem start_queue_pairwise (hkeys : keys.Nodup) :
    (Progress.start deps keys).queue.Pairwise (· < ·) := by
  have hsorted := List.pairwise_insertionSort (· ≤ ·) (keys.filter fun id => (deps id).length = 0)
  have hnodup : (Progress.start deps keys).queue.Nodup :=
    (List.perm_insertionSort _ _).nodup_iff.2 (hkeys.filter _)
  exact (hsorted.and hnodup).imp fun h => lt_of_le_of_ne h.1 h.2

theorem mem_start_queue {id : String} :
    id ∈ (Progress.start deps keys).queue ↔ id ∈ keys ∧ deps id = [] := by
  rw [Progress.start, (List.perm_insertionSort _ _).mem_iff, List.mem_filter,
    decide_eq_true_iff, List.length_eq_zero_iff]

theorem invariant_start {start : List String} (hkeys : keys.Nodup) (hstart : start.Perm keys) :
    Invariant deps keys (Progress.start deps start) := by
  have hsorted : (Progress.start deps start).queue.Pairwise (· < ·) :=
    start_queue_pairwise (hstart.nodup_iff.2 hkeys)
  have hmem : ∀ id, id ∈ (Progress.start deps start).order ++ (Progress.start deps start).queue ↔
      id ∈ keys ∧ deps id = [] := fun id => by
    rw [← hstart.mem_iff]
    exact mem_start_queue
  refine ⟨hsorted.imp ne_of_lt, fun id hid => ((hmem id).1 hid).1, fun id => ?_, fun id hid => ?_,
    ?_, ?_⟩
  · simp [Progress.start, processed]
  · rw [hmem, and_iff_right hid]
    exact List.length_eq_zero_iff.symm
  · intro done task rest h
    exact absurd h (by simp [Progress.start])
  · refine List.Pairwise.imp_of_mem (fun {a b} ha hb hlt => Or.inr ?_) hsorted
    have hready : ∀ id ∈ (Progress.start deps start).queue,
        readyAt deps (Progress.start deps start).order id = 0 :=
      fun id hid => ready_at_eq_zero_iff.2 ((hmem id).1 hid).2
    exact ⟨(hready a ha).trans (hready b hb).symm, (if_pos (hready a ha)).mpr hlt⟩

/-- The dependents that a round appends to the queue. -/
def released (deps : String → List String) (keys : List String) (inDegree : String → Nat)
    (id : String) : List String :=
  keys.filter fun d => id ∈ deps d ∧ inDegree d - 1 = 0

/-- The in-degrees after a round. -/
def lowered (deps : String → List String) (keys : List String) (inDegree : String → Nat)
    (id d : String) : Nat :=
  if d ∈ keys ∧ id ∈ deps d then inDegree d - 1 else inDegree d

section Round

variable {id : String} {queue order : List String} {inDegree : String → Nat}

theorem mem_released {d : String} :
    d ∈ released deps keys inDegree id ↔ d ∈ keys ∧ id ∈ deps d ∧ inDegree d - 1 = 0 := by
  simp [released]

/-- A round takes the first of the queue, and releases its dependents. -/
theorem round_cons (hkeys : keys.Nodup) :
    round deps keys ⟨id :: queue, inDegree, order⟩ =
      ⟨queue ++ released deps keys inDegree id, lowered deps keys inDegree id, order ++ [id]⟩ :=
  foldl_release hkeys _

variable (h : Invariant deps keys ⟨id :: queue, inDegree, order⟩)

include h

theorem Invariant.head_new : id ∉ order := fun hmem =>
  List.disjoint_of_nodup_append h.nodup hmem List.mem_cons_self

theorem Invariant.lowered_degree (hdeps : ∀ id, deps id ≠ [] → id ∈ keys) (d : String) :
    lowered deps keys inDegree id d + processed deps (order ++ [id]) d = (deps d).length := by
  have hd : inDegree d + processed deps order d = (deps d).length := h.degree d
  rw [lowered, processed_concat h.head_new]
  by_cases hdep : id ∈ deps d
  · have hpos : 0 < inDegree d := h.in_degree_pos h.head_new hdep
    rw [if_pos ⟨hdeps d (List.ne_nil_of_mem hdep), hdep⟩, if_pos hdep]
    omega
  · rw [if_neg fun hboth => hdep hboth.2, if_neg hdep, Nat.add_zero]
    exact hd

/-- What is released was neither in the order nor in the queue. -/
theorem Invariant.released_new {d : String} (hd : d ∈ released deps keys inDegree id) :
    d ∉ order ++ id :: queue := by
  intro hmem
  obtain ⟨hkey, hdep, -⟩ := mem_released.1 hd
  exact (h.in_degree_pos h.head_new hdep).ne' ((h.listed d hkey).1 hmem)

/-- What is released has its dependencies done, the last of them in this round. -/
theorem Invariant.released_ready (hdeps : ∀ id, deps id ≠ [] → id ∈ keys) {d : String}
    (hd : d ∈ released deps keys inDegree id) :
    readyAt deps (order ++ [id]) d = order.length + 1 := by
  obtain ⟨hkey, hdep, hzero⟩ := mem_released.1 hd
  have hdegree := h.lowered_degree hdeps d
  rw [lowered, if_pos ⟨hkey, hdep⟩, hzero, Nat.zero_add] at hdegree
  exact ready_at_concat (subset_of_processed (hdegree ▸ List.toFinset_card_le (deps d))) hdep
    h.head_new

/-- What is released comes after all that stands in the queue, in the order of the map. -/
theorem Invariant.pairwise_released (hkeys : keys.Nodup)
    (hdeps : ∀ id, deps id ≠ [] → id ∈ keys) :
    ((order ++ id :: queue) ++ released deps keys inDegree id).Pairwise
      (Before deps (· < ·) (fun a b => keys.idxOf a < keys.idxOf b) (order ++ [id])) := by
  refine List.pairwise_append.2 ⟨?_, ?_, ?_⟩
  · exact h.pairwise.imp_of_mem fun ha hb hab =>
      (before_append (h.ready ha).1 (h.ready hb).1 _).2 hab
  · refine ((pairwise_idx_of hkeys).filter _).imp_of_mem fun {a b} ha hb hab => Or.inr ?_
    have hready := h.released_ready hdeps ha
    refine ⟨hready.trans (h.released_ready hdeps hb).symm, ?_⟩
    exact (if_neg (hready ▸ Nat.succ_ne_zero _)).mpr hab
  · intro a ha b hb
    refine Or.inl ?_
    rw [ready_at_append (h.ready ha).1, h.released_ready hdeps hb]
    exact Nat.lt_succ_of_le (ready_at_le_length (h.ready ha).1)

theorem invariant_round_cons (hkeys : keys.Nodup) (hdeps : ∀ id, deps id ≠ [] → id ∈ keys) :
    Invariant deps keys (round deps keys ⟨id :: queue, inDegree, order⟩) := by
  have hlist : (order ++ [id]) ++ (queue ++ released deps keys inDegree id) =
      (order ++ id :: queue) ++ released deps keys inDegree id := by simp
  rw [round_cons hkeys]
  refine ⟨?_, ?_, h.lowered_degree hdeps, ?_, ?_, ?_⟩
  · rw [hlist]
    exact List.nodup_append'.2 ⟨h.nodup, hkeys.filter _, fun d hd hnew => h.released_new hnew hd⟩
  · rw [hlist]
    exact List.append_subset.2 ⟨h.subset, fun d hd => (mem_released.1 hd).1⟩
  · intro d hd
    show _ ↔ lowered deps keys inDegree id d = 0
    rw [hlist, List.mem_append, h.listed d hd, mem_released, lowered]
    by_cases hdep : id ∈ deps d
    · have hpos : 0 < inDegree d := h.in_degree_pos h.head_new hdep
      simp only [hd, hdep, and_self, true_and, if_true]
      omega
    · simp [hdep]
  · exact respects_concat h.respects (h.ready (List.mem_append_right _ List.mem_cons_self)).1
  · rw [hlist]
    exact h.pairwise_released hkeys hdeps

end Round

theorem invariant_round {progress : Progress} (hkeys : keys.Nodup)
    (hdeps : ∀ id, deps id ≠ [] → id ∈ keys) (h : Invariant deps keys progress) :
    Invariant deps keys (round deps keys progress) := by
  obtain ⟨queue, inDegree, order⟩ := progress
  cases queue with
  | nil => exact h
  | cons id queue => exact invariant_round_cons h hkeys hdeps

theorem invariant_rounds {progress : Progress} (hkeys : keys.Nodup)
    (hdeps : ∀ id, deps id ≠ [] → id ∈ keys) (h : Invariant deps keys progress) (n : Nat) :
    Invariant deps keys (rounds deps keys n progress) := by
  induction n generalizing progress with
  | zero => exact h
  | succ n ih => exact ih (invariant_round hkeys hdeps h)

/-- Each round with something in the queue takes one plugin into the order. -/
theorem length_order_rounds (hkeys : keys.Nodup) (n : Nat) (progress : Progress) :
    (rounds deps keys n progress).queue = [] ∨
      (rounds deps keys n progress).order.length = progress.order.length + n := by
  induction n generalizing progress with
  | zero => exact Or.inr rfl
  | succ n ih =>
      obtain ⟨queue, inDegree, order⟩ := progress
      cases queue with
      | nil =>
          refine Or.inl ?_
          clear ih
          induction n with
          | zero => rfl
          | succ n ih => exact ih
      | cons id queue =>
          rw [rounds, round_cons hkeys]
          cases ih ⟨queue ++ released deps keys inDegree id, lowered deps keys inDegree id,
              order ++ [id]⟩ with
          | inl hnil => exact Or.inl hnil
          | inr hlength =>
              refine Or.inr (hlength.trans ?_)
              rw [List.length_append, List.length_singleton]
              show order.length + 1 + n = order.length + (n + 1)
              omega

/-- The loop is over after as many rounds as there are plugins. -/
theorem queue_rounds_eq_nil {progress : Progress} (hkeys : keys.Nodup)
    (hdeps : ∀ id, deps id ≠ [] → id ∈ keys) (h : Invariant deps keys progress) :
    (rounds deps keys keys.length progress).queue = [] := by
  have hend := invariant_rounds hkeys hdeps h keys.length
  cases @length_order_rounds deps _ hkeys keys.length progress with
  | inl hnil => exact hnil
  | inr hlength =>
      have hle := (List.subperm_of_subset hend.nodup hend.subset).length_le
      rw [List.length_append] at hle
      exact List.length_eq_zero_iff.1 (by omega)

variable {manifests : List PluginManifest}

@[simp] theorem mem_ids_of {id : String} :
    id ∈ idsOf manifests ↔ id ∈ manifests.map PluginManifest.id := List.mem_dedup

/-- A map built by insertions keeps what was there for a key that is not inserted. -/
theorem foldl_update_of_not_mem {value : PluginManifest → List String} {id : String}
    (h : id ∉ manifests.map PluginManifest.id) (init : String → List String) :
    manifests.foldl (fun deps m => Function.update deps m.id (value m)) init id = init id := by
  induction manifests generalizing init with
  | nil => rfl
  | cons m rest ih =>
      rw [List.map_cons, List.mem_cons, not_or] at h
      rw [List.foldl_cons, ih h.2, Function.update_of_ne h.1]

theorem deps_of_not_mem {id : String} (h : id ∉ manifests.map PluginManifest.id) :
    depsOf manifests id = [] :=
  foldl_update_of_not_mem h _

/-- A map built by insertions of distinct keys has the value inserted for each. -/
theorem foldl_update_of_mem {value : PluginManifest → List String}
    (hids : (manifests.map PluginManifest.id).Nodup) {m : PluginManifest} (hm : m ∈ manifests)
    (init : String → List String) :
    manifests.foldl (fun deps m => Function.update deps m.id (value m)) init m.id = value m := by
  induction manifests generalizing init with
  | nil => cases hm
  | cons other rest ih =>
      obtain ⟨hother, hrest⟩ := List.nodup_cons.1 hids
      cases List.mem_cons.1 hm with
      | inl heq =>
          subst heq
          rw [List.foldl_cons, foldl_update_of_not_mem hother, Function.update_self]
      | inr hmem => exact ih hrest hmem _

theorem deps_of_mem (hids : (manifests.map PluginManifest.id).Nodup) {m : PluginManifest}
    (hm : m ∈ manifests) :
    depsOf manifests m.id = m.dependencies.filter fun d => d ∈ idsOf manifests :=
  foldl_update_of_mem hids hm _

/-- What `deps` maps a plugin to are ids of the set. -/
theorem mem_ids_of_deps (hids : (manifests.map PluginManifest.id).Nodup) {id d : String}
    (h : d ∈ depsOf manifests id) :
    id ∈ manifests.map PluginManifest.id ∧ d ∈ manifests.map PluginManifest.id := by
  by_cases hid : id ∈ manifests.map PluginManifest.id
  · obtain ⟨m, hm, rfl⟩ := List.mem_map.1 hid
    rw [deps_of_mem hids hm, List.mem_filter, decide_eq_true_iff, mem_ids_of] at h
    exact ⟨hid, h.2⟩
  · rw [deps_of_not_mem hid] at h
    cases h

/-- One plugin lists another one of the set as a dependency. -/
def DependsOn (manifests : List PluginManifest) (a b : String) : Prop :=
  ∃ m ∈ manifests, m.id = a ∧ b ∈ m.dependencies ∧ b ∈ manifests.map PluginManifest.id

/-- No plugin depends on itself, directly or through others of the set. -/
def NoCycle (manifests : List PluginManifest) : Prop :=
  ∀ id, ¬ Relation.TransGen (DependsOn manifests) id id

/-- No plugin lists another one of the set twice. -/
def ListsOnce (manifests : List PluginManifest) : Prop :=
  ∀ m ∈ manifests, (m.dependencies.filter fun d => d ∈ manifests.map PluginManifest.id).Nodup

theorem depends_on_iff (hids : (manifests.map PluginManifest.id).Nodup) {a b : String} :
    DependsOn manifests a b ↔ b ∈ depsOf manifests a := by
  constructor
  · rintro ⟨m, hm, rfl, hdep, hid⟩
    rw [deps_of_mem hids hm, List.mem_filter]
    exact ⟨hdep, decide_eq_true (mem_ids_of.2 hid)⟩
  · intro h
    obtain ⟨ha, hb⟩ := mem_ids_of_deps hids h
    obtain ⟨m, hm, rfl⟩ := List.mem_map.1 ha
    rw [deps_of_mem hids hm, List.mem_filter] at h
    exact ⟨m, hm, rfl, h.1, hb⟩

theorem no_cycle_iff_acyclic (hids : (manifests.map PluginManifest.id).Nodup) :
    NoCycle manifests ↔ Acyclic (depsOf manifests) := by
  have hrel : DependsOn manifests = fun a b => b ∈ depsOf manifests a := by
    funext a b
    exact propext (depends_on_iff hids)
  rw [NoCycle, hrel]
  rfl

theorem lists_once_iff (hids : (manifests.map PluginManifest.id).Nodup) :
    ListsOnce manifests ↔ ∀ id, (depsOf manifests id).Nodup := by
  have hfilter : ∀ m ∈ manifests, depsOf manifests m.id =
      m.dependencies.filter fun d => d ∈ manifests.map PluginManifest.id := fun m hm => by
    rw [deps_of_mem hids hm]
    exact List.filter_congr fun d _ => decide_eq_decide.2 mem_ids_of
  constructor
  · intro h id
    by_cases hid : id ∈ manifests.map PluginManifest.id
    · obtain ⟨m, hm, rfl⟩ := List.mem_map.1 hid
      exact hfilter m hm ▸ h m hm
    · rw [deps_of_not_mem hid]
      exact List.nodup_nil
  · exact fun h m hm => hfilter m hm ▸ h m.id

/-- The variables after the loop. -/
def finish (hashing : Hashing) (manifests : List PluginManifest) : Progress :=
  rounds (depsOf manifests) (hashing.deps.keys (idsOf manifests)) (idsOf manifests).length
    (Progress.start (depsOf manifests) (hashing.inDegree.keys (idsOf manifests)))

theorem topological_order_eq_ok_iff {hashing : Hashing} {order : List String} :
    topologicalOrder hashing manifests = .ok order ↔
      (finish hashing manifests).order = order ∧
        (finish hashing manifests).order.length = (idsOf manifests).length := by
  show (if (finish hashing manifests).order.length ≠ (idsOf manifests).length then _
    else .ok (finish hashing manifests).order) = Except.ok order ↔ _
  by_cases hlength : (finish hashing manifests).order.length = (idsOf manifests).length
  · rw [if_neg (not_not.2 hlength)]
    exact ⟨fun h => ⟨Except.ok.inj h, hlength⟩, fun h => congrArg Except.ok h.1⟩
  · rw [if_pos hlength]
    exact ⟨fun h => by (cases h), fun h => absurd h.2 hlength⟩

section Finished

variable (hashing : Hashing) (hids : (manifests.map PluginManifest.id).Nodup)

include hids

theorem finish_invariant :
    Invariant (depsOf manifests) (hashing.deps.keys (idsOf manifests)) (finish hashing manifests) ∧
      (finish hashing manifests).queue = [] := by
  have hperm := hashing.deps.perm (idsOf manifests)
  have hkeys := hperm.nodup_iff.2 (List.nodup_dedup _)
  have hdeps : ∀ id, depsOf manifests id ≠ [] → id ∈ hashing.deps.keys (idsOf manifests) := by
    intro id hne
    obtain ⟨d, hd⟩ := List.exists_mem_of_ne_nil _ hne
    exact hperm.mem_iff.2 (mem_ids_of.2 (mem_ids_of_deps hids hd).1)
  have hstart : Invariant (depsOf manifests) (hashing.deps.keys (idsOf manifests))
      (Progress.start (depsOf manifests) (hashing.inDegree.keys (idsOf manifests))) :=
    invariant_start hkeys ((hashing.inDegree.perm _).trans hperm.symm)
  rw [finish, ← hperm.length_eq]
  exact ⟨invariant_rounds hkeys hdeps hstart _, queue_rounds_eq_nil hkeys hdeps hstart⟩

/-- The order that is returned has each plugin once, after its dependencies, and takes up the
plugins first in first out. -/
theorem topological_order_eq_ok {order : List String}
    (h : topologicalOrder hashing manifests = .ok order) :
    order.Perm (manifests.map PluginManifest.id) ∧
      FirstInFirstOut (depsOf manifests) (· < ·) (fun a b =>
        (hashing.deps.keys (idsOf manifests)).idxOf a <
          (hashing.deps.keys (idsOf manifests)).idxOf b) order ∧
      ListsOnce manifests := by
  obtain ⟨hinvariant, hqueue⟩ := finish_invariant hashing hids
  obtain ⟨rfl, hlength⟩ := topological_order_eq_ok_iff.1 h
  have hkeys := hashing.deps.perm (idsOf manifests)
  have hnodup := hinvariant.nodup
  have hsubset := hinvariant.subset
  have hpairwise := hinvariant.pairwise
  have hready : ∀ id ∈ _, (depsOf manifests id).Nodup := fun _ hid => (hinvariant.ready hid).2
  rw [hqueue, List.append_nil] at hnodup hsubset hpairwise
  have hperm : (finish hashing manifests).order.Perm (manifests.map PluginManifest.id) := by
    rw [← hids.dedup]
    exact ((List.subperm_of_subset hnodup hsubset).perm_of_length_le
      (by rw [hkeys.length_eq, hlength])).trans hkeys
  refine ⟨hperm, ⟨hinvariant.respects, hpairwise⟩, (lists_once_iff hids).2 fun id => ?_⟩
  by_cases hid : id ∈ manifests.map PluginManifest.id
  · exact hready id (List.mem_append_left _ (hperm.mem_iff.2 hid))
  · rw [deps_of_not_mem hid]
    exact List.nodup_nil

/-- Without a cycle and without repeated entries the loop takes up every plugin: those that are
left would each wait for another of them. -/
theorem exists_topological_order (honce : ListsOnce manifests) (hcycle : NoCycle manifests) :
    ∃ order, topologicalOrder hashing manifests = .ok order := by
  obtain ⟨hinvariant, hqueue⟩ := finish_invariant hashing hids
  have hkeys := hashing.deps.perm (idsOf manifests)
  refine ⟨_, topological_order_eq_ok_iff.2 ⟨rfl, ?_⟩⟩
  have hnodup := hinvariant.nodup
  have hsubset := hinvariant.subset
  have hlisted := hinvariant.listed
  rw [hqueue, List.append_nil] at hnodup hsubset hlisted
  let left := (idsOf manifests).filter fun id => id ∉ (finish hashing manifests).order
  by_contra hlength
  have hne : left ≠ [] := by
    intro hnil
    have hall : idsOf manifests ⊆ (finish hashing manifests).order := fun id hid =>
      not_not.1 fun hout => List.ne_nil_of_mem
        (List.mem_filter.2 ⟨hid, decide_eq_true hout⟩ : id ∈ left) hnil
    have hle := (List.subperm_of_subset (List.nodup_dedup _) hall).length_le
    have hge := (List.subperm_of_subset hnodup hsubset).length_le
    rw [hkeys.length_eq] at hge
    exact hlength (le_antisymm hge hle)
  refine not_acyclic_of_stuck hne (fun id hid => ?_) ((no_cycle_iff_acyclic hids).1 hcycle)
  obtain ⟨hmem, hout⟩ := List.mem_filter.1 hid
  -- The in-degree is not 0, so some dependency is not done.
  have hpos := mt (hlisted id (hkeys.mem_iff.2 hmem)).2 (of_decide_eq_true hout)
  have hdegree := hinvariant.degree id
  have hcard := List.toFinset_card_of_nodup ((lists_once_iff hids).1 honce id)
  by_contra hdone
  have hall : depsOf manifests id ⊆ (finish hashing manifests).order := by
    intro d hd
    by_contra hd'
    exact hdone ⟨d, hd, List.mem_filter.2
      ⟨mem_ids_of.2 (mem_ids_of_deps hids hd).2, decide_eq_true hd'⟩⟩
  have hprocessed : processed (depsOf manifests) (finish hashing manifests).order id =
      (depsOf manifests id).toFinset.card :=
    congrArg Finset.card (Finset.inter_eq_left.2 fun d hd =>
      List.mem_toFinset.2 (hall (List.mem_toFinset.1 hd)))
  omega

theorem no_cycle_of_eq_ok {order : List String}
    (h : topologicalOrder hashing manifests = .ok order) : NoCycle manifests := by
  obtain ⟨hperm, hfifo, -⟩ := topological_order_eq_ok hashing hids h
  refine (no_cycle_iff_acyclic hids).2 (acyclic_of_respects hfifo.respects fun id hne => ?_)
  obtain ⟨d, hd⟩ := List.exists_mem_of_ne_nil _ hne
  exact hperm.mem_iff.2 (mem_ids_of_deps hids hd).1

end Finished

/-- A manifest with each dependency of the set once, and with no other ones. -/
def plain (manifests : List PluginManifest) (m : PluginManifest) : PluginManifest :=
  { m with
    dependencies :=
      (m.dependencies.filter fun d => d ∈ manifests.map PluginManifest.id).dedup }

/-- `topological_order` is a topological sort of the set: it succeeds exactly without a cycle,
the order has each plugin once and after its dependencies, and neither repeated dependencies nor
those outside of the set change what is returned. -/
structure SortsTopologically (hashing : Hashing) (manifests : List PluginManifest) : Prop where
  ok_iff : (∃ order, topologicalOrder hashing manifests = .ok order) ↔ NoCycle manifests
  perm : ∀ order, topologicalOrder hashing manifests = .ok order →
    order.Perm (manifests.map PluginManifest.id)
  before : ∀ order, topologicalOrder hashing manifests = .ok order →
    ∀ m ∈ manifests, ∀ d ∈ m.dependencies, d ∈ manifests.map PluginManifest.id →
      order.idxOf d < order.idxOf m.id
  plain : (topologicalOrder hashing (manifests.map (plain manifests))).toOption =
    (topologicalOrder hashing manifests).toOption

@[simp] theorem map_id_plain :
    (manifests.map (plain manifests)).map PluginManifest.id =
      manifests.map PluginManifest.id := by
  rw [List.map_map]
  rfl

theorem ids_of_plain : idsOf (manifests.map (plain manifests)) = idsOf manifests := by
  rw [idsOf, map_id_plain, idsOf]

theorem deps_of_plain (hids : (manifests.map PluginManifest.id).Nodup) (id : String) :
    depsOf (manifests.map (plain manifests)) id = (depsOf manifests id).dedup := by
  by_cases hid : id ∈ manifests.map PluginManifest.id
  · obtain ⟨m, hm, rfl⟩ := List.mem_map.1 hid
    have hids' : ((manifests.map (plain manifests)).map PluginManifest.id).Nodup := by
      rwa [map_id_plain]
    have hplain := deps_of_mem hids' (List.mem_map_of_mem (f := plain manifests) hm)
    rw [deps_of_mem hids hm]
    refine hplain.trans ?_
    rw [ids_of_plain, List.filter_eq_self.2]
    · exact congrArg List.dedup (List.filter_congr fun d _ => decide_eq_decide.2 mem_ids_of.symm)
    · intro d hd
      have := (List.mem_filter.1 (List.mem_dedup.1 hd)).2
      exact decide_eq_true (mem_ids_of.2 (of_decide_eq_true this))
  · rw [deps_of_not_mem hid, deps_of_not_mem (by rwa [map_id_plain])]
    rfl

theorem no_cycle_plain (hids : (manifests.map PluginManifest.id).Nodup) :
    NoCycle (manifests.map (plain manifests)) ↔ NoCycle manifests := by
  have hids' : ((manifests.map (plain manifests)).map PluginManifest.id).Nodup := by
    rwa [map_id_plain]
  have hrel : DependsOn (manifests.map (plain manifests)) = DependsOn manifests := by
    funext a b
    rw [depends_on_iff hids', depends_on_iff hids, deps_of_plain hids, List.mem_dedup]
  rw [NoCycle, hrel, NoCycle]

theorem to_option_of_cycle {hashing : Hashing} (hids : (manifests.map PluginManifest.id).Nodup)
    (hcycle : ¬ NoCycle manifests) : (topologicalOrder hashing manifests).toOption = none := by
  cases h : topologicalOrder hashing manifests with
  | error message => rfl
  | ok order => exact absurd (no_cycle_of_eq_ok hashing hids h) hcycle

/-- The in-degrees count what the loop removes exactly if no plugin lists a dependency twice. A
list with a cycle is rejected in any case. -/
theorem sorts_topologically_iff (hashing : Hashing)
    (hids : (manifests.map PluginManifest.id).Nodup) :
    SortsTopologically hashing manifests ↔ ListsOnce manifests ∨ ¬ NoCycle manifests := by
  have hids' : ((manifests.map (plain manifests)).map PluginManifest.id).Nodup := by
    rwa [map_id_plain]
  constructor
  · intro h
    by_cases hcycle : NoCycle manifests
    · obtain ⟨order, horder⟩ := h.ok_iff.2 hcycle
      exact Or.inl (topological_order_eq_ok hashing hids horder).2.2
    · exact Or.inr hcycle
  · intro h
    refine ⟨⟨fun ⟨order, horder⟩ => no_cycle_of_eq_ok hashing hids horder, fun hcycle => ?_⟩,
      fun order horder => (topological_order_eq_ok hashing hids horder).1,
      fun order horder m hm d hd hid => ?_, ?_⟩
    · exact exists_topological_order hashing hids (h.resolve_right (not_not.2 hcycle)) hcycle
    · obtain ⟨hperm, hfifo, -⟩ := topological_order_eq_ok hashing hids horder
      exact (idx_of_lt_of_respects hfifo.respects
        (hperm.mem_iff.2 (List.mem_map_of_mem hm))
        ((depends_on_iff hids).1 ⟨m, hm, rfl, hd, hid⟩)).2
    · cases h with
      | inl honce =>
          have hdeps : depsOf (manifests.map (TopologicalOrder.plain manifests)) =
              depsOf manifests := by
            funext id
            rw [deps_of_plain hids, ((lists_once_iff hids).1 honce id).dedup]
          rw [topologicalOrder, topologicalOrder, ids_of_plain, hdeps]
      | inr hcycle =>
          rw [to_option_of_cycle hids hcycle,
            to_option_of_cycle hids' (mt (no_cycle_plain hids).1 hcycle)]

/-- The manifest of the tests, with an id and dependencies. -/
def testManifest (id : String) (dependencies : List String) : PluginManifest where
  id
  version := "0.1.0"
  author := "corvid"
  description := "test"
  capabilities := []
  eventFilter := []
  trustTier := .untrusted
  minHostVersion := "0.1.0"
  tools := []
  dependencies

/-- All collections are iterated in the order of insertion, or `deps` in the reverse order. -/
def Hashing.inserted : Hashing := ⟨.inserted, .inserted, .inserted⟩

@[inherit_doc Hashing.inserted]
def Hashing.reversed : Hashing := ⟨.inserted, .reversed, .inserted⟩

theorem no_cycle_of_respects {order : List String}
    (hids : (manifests.map PluginManifest.id).Nodup)
    (hrespects : Respects (depsOf manifests) order)
    (hcover : manifests.map PluginManifest.id ⊆ order) : NoCycle manifests := by
  refine (no_cycle_iff_acyclic hids).2 (acyclic_of_respects hrespects fun id hne => ?_)
  obtain ⟨d, hd⟩ := List.exists_mem_of_ne_nil _ hne
  exact hcover (mem_ids_of_deps hids hd).1

/-- A plugin that lists its only dependency twice. -/
def listedTwice : List PluginManifest := [testManifest "b" ["a", "a"], testManifest "a" []]

/-- The validator accepts a repeated dependency, and the sort takes it for a cycle. -/
theorem listed_twice_rejected :
    (∀ m ∈ listedTwice, Loader.validateManifest Invoke.samplePlatform.semver m = .ok ()) ∧
      (listedTwice.map PluginManifest.id).Nodup ∧
      topologicalOrder .inserted listedTwice =
        .error "dependency cycle detected among plugins: [b]" ∧
      ¬ SortsTopologically .inserted listedTwice := by
  have hids : (listedTwice.map PluginManifest.id).Nodup := by decide
  refine ⟨?_, hids, rfl, fun h => ?_⟩
  · simp only [listedTwice, List.forall_mem_cons]
    exact ⟨rfl, rfl, fun m hm => by (cases hm)⟩
  · have hrespects : Respects (depsOf listedTwice) ([] ++ ["a"] ++ ["b"]) :=
      respects_concat (respects_concat (fun done task rest h => by (cases done <;> cases h))
        (by decide)) (by decide)
    obtain ⟨order, horder⟩ := h.ok_iff.2 (no_cycle_of_respects hids hrespects (by decide))
    cases horder

/-- A plugin and the one that it depends on. -/
def chain : List PluginManifest := [testManifest "b" ["a"], testManifest "a" []]

theorem chain_sorted : SortsTopologically .inserted chain :=
  (sorts_topologically_iff .inserted (by decide)).2 (Or.inl (by unfold ListsOnce; decide))

/-! ## Determinism -/

/-- The order is the same for every order of the list and every iteration of the maps. -/
def GivesOneOrder (manifests : List PluginManifest) : Prop :=
  ∃ order, ∀ hashing, ∀ manifests' : List PluginManifest, manifests'.Perm manifests →
    topologicalOrder hashing manifests' = .ok order

/-- The plugins can be taken up first in first out so that no two of them wait for the same last
dependency: plugins without dependencies come first and by id, and of the others each becomes
ready strictly later than the one before. -/
def OneAtATime (manifests : List PluginManifest) : Prop :=
  ∃ order : List String, order.Perm (manifests.map PluginManifest.id) ∧
    FirstInFirstOut (depsOf manifests) (· < ·) (fun _ _ => False) order

theorem deps_of_perm {manifests' : List PluginManifest} (hperm : manifests'.Perm manifests)
    (hids : (manifests.map PluginManifest.id).Nodup) : depsOf manifests' = depsOf manifests := by
  have hmap := hperm.map PluginManifest.id
  funext id
  by_cases hid : id ∈ manifests.map PluginManifest.id
  · obtain ⟨m, hm, rfl⟩ := List.mem_map.1 hid
    rw [deps_of_mem hids hm, deps_of_mem (hmap.nodup_iff.2 hids) (hperm.mem_iff.2 hm)]
    refine List.filter_congr fun d _ => decide_eq_decide.2 ?_
    rw [mem_ids_of, mem_ids_of, hmap.mem_iff]
  · rw [deps_of_not_mem hid, deps_of_not_mem (mt hmap.mem_iff.1 hid)]

/-- The order is the same in all cases exactly if no plugin lists a dependency twice and no two
plugins are released together: those come in the order of the hash map. -/
theorem gives_one_order_iff (hids : (manifests.map PluginManifest.id).Nodup) :
    GivesOneOrder manifests ↔ ListsOnce manifests ∧ OneAtATime manifests := by
  constructor
  · rintro ⟨order, horder⟩
    obtain ⟨hperm, hfifo, honce⟩ := topological_order_eq_ok .inserted hids
      (horder .inserted manifests (List.Perm.refl _))
    obtain ⟨-, hreversed, -⟩ := topological_order_eq_ok .reversed hids
      (horder .reversed manifests (List.Perm.refl _))
    have hmem : ∀ id ∈ order, id ∈ idsOf manifests := fun id hid =>
      mem_ids_of.2 (hperm.mem_iff.1 hid)
    refine ⟨honce, order, hperm, hfifo.no_tie (fun a ha b hb hlt => ?_) hreversed⟩
    exact (idx_of_reverse_lt (List.nodup_dedup _) (hmem a ha) (hmem b hb) hlt).not_gt
  · rintro ⟨honce, order, hperm, hfifo⟩
    refine ⟨order, fun hashing manifests' hmanifests => ?_⟩
    have hmap := hmanifests.map PluginManifest.id
    have hdeps := deps_of_perm hmanifests hids
    have hids' := hmap.nodup_iff.2 hids
    have honce' : ListsOnce manifests' := by
      rw [lists_once_iff hids', hdeps]
      exact (lists_once_iff hids).1 honce
    have hcycle : NoCycle manifests' :=
      no_cycle_of_respects hids' (hdeps ▸ hfifo.respects) (hmap.trans hperm.symm).subset
    obtain ⟨result, hresult⟩ := exists_topological_order hashing hids' honce' hcycle
    obtain ⟨hperm', hfifo', -⟩ := topological_order_eq_ok hashing hids' hresult
    rw [hdeps] at hfifo'
    rw [hresult, fifo_unique (fun _ _ => lt_asymm) (fun _ _ => lt_asymm)
      ((hperm'.trans hmap).trans hperm.symm) hfifo' hfifo.of_no_tie]

/-- Two plugins that depend on the same one. -/
def siblings : List PluginManifest :=
  [testManifest "b" ["a"], testManifest "c" ["a"], testManifest "a" []]

/-- The two siblings are loaded in either order. -/
theorem siblings_in_either_order :
    (siblings.map PluginManifest.id).Nodup ∧ NoCycle siblings ∧
      topologicalOrder .inserted siblings = .ok ["a", "b", "c"] ∧
      topologicalOrder .reversed siblings = .ok ["a", "c", "b"] ∧ ¬ GivesOneOrder siblings := by
  have hids : (siblings.map PluginManifest.id).Nodup := by decide
  refine ⟨hids, no_cycle_of_eq_ok .inserted hids rfl, rfl, rfl, ?_⟩
  rintro ⟨order, h⟩
  have hinserted : Except.ok ["a", "b", "c"] = Except.ok order :=
    h .inserted siblings (List.Perm.refl _)
  have hreversed : Except.ok ["a", "c", "b"] = Except.ok order :=
    h .reversed siblings (List.Perm.refl _)
  exact absurd (Except.ok.inj (hinserted.trans hreversed.symm)) (by decide)

theorem chain_in_one_order : GivesOneOrder chain := by
  refine (gives_one_order_iff (by decide)).2 ⟨by unfold ListsOnce; decide, ["a", "b"], ?_, ?_, ?_⟩
  · decide
  · exact respects_concat (respects_concat (fun done task rest h => by (cases done <;> cases h))
      (by decide : depsOf chain "a" ⊆ [])) (by decide)
  · exact List.pairwise_pair.2 (Or.inl (by decide))

end CorvidNano.Host.TopologicalOrder
