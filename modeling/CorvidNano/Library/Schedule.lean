import Mathlib.Data.Fintype.Defs
import Mathlib.Data.List.Nodup
import Mathlib.Data.List.Perm.Basic
import Mathlib.Order.WellFounded
import Mathlib.Data.Set.Finite.Basic
import Mathlib.Logic.Relation

/-!
# Orders of dependent tasks

Each task has a list of tasks that come before it. An order of tasks `Respects` the dependencies
when each stands after all of its own. A set of tasks that has such an order is acyclic, and a
set in which each task waits for another one of the set is not.

A first-in-first-out schedule takes up a task when the last of its dependencies is done.
`fifo_unique` says that such a schedule is determined by the order it gives to tasks that become
ready together.
-/

namespace CorvidNano.Schedule

variable {α : Type}

/-- Each task of the order stands after all of its dependencies. -/
def Respects (deps : α → List α) (order : List α) : Prop :=
  ∀ done task rest, order = done ++ task :: rest → deps task ⊆ done

/-- No task depends on itself, directly or through others. -/
def Acyclic (deps : α → List α) : Prop :=
  ∀ task, ¬ Relation.TransGen (fun a b => b ∈ deps a) task task

variable {deps : α → List α}

/-- An order with one more task respects the dependencies if the task's own are done. -/
theorem respects_concat {order : List α} {task : α} (horder : Respects deps order)
    (htask : deps task ⊆ order) : Respects deps (order ++ [task]) := by
  intro done other rest h
  cases List.eq_nil_or_concat rest with
  | inl hnil =>
      subst hnil
      obtain ⟨rfl, hlast⟩ := List.append_inj' h rfl
      cases hlast
      exact htask
  | inr hconcat =>
      obtain ⟨front, last, rfl⟩ := hconcat
      rw [List.concat_eq_append, ← List.cons_append, ← List.append_assoc] at h
      exact horder done other front (List.append_inj' h rfl).1

section Positions

variable [DecidableEq α]

/-- In an order that respects them, dependencies have smaller positions. -/
theorem idx_of_lt_of_respects {order : List α} (horder : Respects deps order) {task dep : α}
    (htask : task ∈ order) (hdep : dep ∈ deps task) :
    dep ∈ order ∧ order.idxOf dep < order.idxOf task := by
  obtain ⟨done, rest, rfl, hfirst⟩ := List.eq_append_cons_of_mem htask
  have hdone : dep ∈ done := horder done task rest rfl hdep
  refine ⟨List.mem_append_left _ hdone, ?_⟩
  rw [List.idxOf_append_of_mem hdone, List.idxOf_append_of_notMem hfirst]
  have := List.idxOf_lt_length_of_mem hdone
  omega

/-- A list without repetitions is sorted by position. -/
theorem pairwise_idx_of {order : List α} (h : order.Nodup) :
    order.Pairwise fun a b => order.idxOf a < order.idxOf b := by
  refine List.pairwise_iff_getElem.2 fun i j hi hj hij => ?_
  rwa [h.idxOf_getElem i hi, h.idxOf_getElem j hj]

/-- Reversing a list reverses the positions in it. -/
theorem idx_of_reverse_lt {order : List α} (h : order.Nodup) {a b : α} (ha : a ∈ order)
    (hb : b ∈ order) (hlt : order.idxOf a < order.idxOf b) :
    order.reverse.idxOf b < order.reverse.idxOf a := by
  have hpairwise := List.pairwise_reverse.1 (pairwise_idx_of (List.nodup_reverse.2 h))
  have hidx := List.pairwise_iff_getElem.1 hpairwise (order.idxOf a) (order.idxOf b)
    (List.idxOf_lt_length_of_mem ha) (List.idxOf_lt_length_of_mem hb) hlt
  rwa [List.getElem_idxOf, List.getElem_idxOf] at hidx

/-- Tasks that can be put in an order with the dependencies first form no cycle. -/
theorem acyclic_of_respects {order : List α} (horder : Respects deps order)
    (hcover : ∀ task, deps task ≠ [] → task ∈ order) : Acyclic deps := by
  have hlt : ∀ a b, Relation.TransGen (fun a b => b ∈ deps a) a b →
      a ∈ order ∧ order.idxOf b < order.idxOf a := by
    intro a b h
    induction h with
    | single hdep =>
        have ha := hcover a (List.ne_nil_of_mem hdep)
        exact ⟨ha, (idx_of_lt_of_respects horder ha hdep).2⟩
    | tail _ hdep ih =>
        have hb := hcover _ (List.ne_nil_of_mem hdep)
        exact ⟨ih.1, (idx_of_lt_of_respects horder hb hdep).2.trans ih.2⟩
  exact fun task h => lt_irrefl _ (hlt task task h).2

/-- The number of tasks of the order that are done when the last dependency of a task is. -/
def readyAt (deps : α → List α) (order : List α) (task : α) : Nat :=
  (deps task).foldr (fun dep n => max (order.idxOf dep + 1) n) 0

theorem ready_at_le_iff {order : List α} {task : α} {n : Nat} :
    readyAt deps order task ≤ n ↔ ∀ dep ∈ deps task, order.idxOf dep < n := by
  rw [readyAt]
  induction deps task with
  | nil => simp
  | cons dep rest ih =>
      simp only [List.foldr_cons, max_le_iff, ih, List.forall_mem_cons, Nat.succ_le_iff]

@[simp] theorem ready_at_eq_zero_iff {order : List α} {task : α} :
    readyAt deps order task = 0 ↔ deps task = [] := by
  rw [← Nat.le_zero, ready_at_le_iff, List.eq_nil_iff_forall_not_mem]
  simp

/-- Once the dependencies of a task are done, later tasks do not change when that was. -/
theorem ready_at_append {order : List α} {task : α} (h : deps task ⊆ order) (more : List α) :
    readyAt deps (order ++ more) task = readyAt deps order task := by
  unfold readyAt
  generalize deps task = list at h
  induction list with
  | nil => rfl
  | cons dep rest ih =>
      rw [List.foldr_cons, List.foldr_cons, ih (List.subset_of_cons_subset h),
        List.idxOf_append_of_mem (h List.mem_cons_self)]

/-- A task whose dependencies are done became ready among the tasks that are done. -/
theorem ready_at_le_length {order : List α} {task : α} (h : deps task ⊆ order) :
    readyAt deps order task ≤ order.length :=
  ready_at_le_iff.2 fun _ hdep => List.idxOf_lt_length_of_mem (h hdep)

/-- A task becomes ready with the last of its dependencies. -/
theorem ready_at_concat {order : List α} {task dep : α} (h : deps task ⊆ order ++ [dep])
    (hdep : dep ∈ deps task) (hnew : dep ∉ order) :
    readyAt deps (order ++ [dep]) task = order.length + 1 := by
  refine le_antisymm ((ready_at_le_length h).trans (by simp)) ?_
  by_contra hlt
  have hidx := ready_at_le_iff.1 (Nat.le_of_lt_succ (not_le.1 hlt)) dep hdep
  rw [List.idxOf_append_of_notMem hnew] at hidx
  omega

/-- A task is taken up before another: its dependencies were done earlier, or both became ready
together and the tie is broken so. `first` breaks it between tasks without dependencies,
`released` between tasks that wait for the same last one. -/
def Before (deps : α → List α) (first released : α → α → Prop) (order : List α) (a b : α) : Prop :=
  readyAt deps order a < readyAt deps order b ∨
    readyAt deps order a = readyAt deps order b ∧
      if readyAt deps order a = 0 then first a b else released a b

/-- The order takes up each task after its dependencies, and tasks as they become ready. -/
structure FirstInFirstOut (deps : α → List α) (first released : α → α → Prop) (order : List α) :
    Prop where
  respects : Respects deps order
  pairwise : order.Pairwise (Before deps first released order)

variable {first released : α → α → Prop}

theorem Before.imp {other : α → α → Prop} {order : List α} {a b : α}
    (h : Before deps first released order a b) (himp : released a b → other a b) :
    Before deps first other order a b := by
  refine h.imp_right fun htie => ⟨htie.1, ?_⟩
  have htie := htie.2
  by_cases hzero : readyAt deps order a = 0
  · rw [if_pos hzero] at htie ⊢
    exact htie
  · rw [if_neg hzero] at htie ⊢
    exact himp htie

/-- A schedule that never needs to break a tie between released tasks follows any rule. -/
theorem FirstInFirstOut.of_no_tie {order : List α}
    (h : FirstInFirstOut deps first (fun _ _ => False) order) :
    FirstInFirstOut deps first released order :=
  ⟨h.respects, h.pairwise.imp fun hbefore => hbefore.imp False.elim⟩

/-- A schedule that follows two opposite rules never needs to break a tie. -/
theorem FirstInFirstOut.no_tie {other : α → α → Prop} {order : List α}
    (hopposite : ∀ a ∈ order, ∀ b ∈ order, released a b → ¬ other a b)
    (h : FirstInFirstOut deps first released order)
    (hother : FirstInFirstOut deps first other order) :
    FirstInFirstOut deps first (fun _ _ => False) order := by
  refine ⟨h.respects, (h.pairwise.and hother.pairwise).imp_of_mem fun {a b} ha hb hboth => ?_⟩
  rcases hboth.1 with hlt | ⟨heq, htie⟩
  · exact Or.inl hlt
  · have htie' := (hboth.2.resolve_left heq.not_lt).2
    refine Or.inr ⟨heq, ?_⟩
    by_cases hzero : readyAt deps order a = 0
    · rw [if_pos hzero] at htie ⊢
      exact htie
    · rw [if_neg hzero] at htie htie' ⊢
      exact hopposite a ha b hb htie htie'

/-- What is done decides which of two ready tasks comes first. -/
theorem before_append {order : List α} {a b : α} (ha : deps a ⊆ order) (hb : deps b ⊆ order)
    (more : List α) :
    Before deps first released (order ++ more) a b ↔ Before deps first released order a b := by
  rw [Before, Before, ready_at_append ha, ready_at_append hb]

theorem before_asymm (hfirst : ∀ a b, first a b → ¬ first b a)
    (hreleased : ∀ a b, released a b → ¬ released b a) {order : List α} {a b : α}
    (h : Before deps first released order a b) : ¬ Before deps first released order b a := by
  rintro (hlt | ⟨heq, htie⟩)
  · cases h with
    | inl h => exact lt_asymm h hlt
    | inr h => exact hlt.ne h.1.symm
  · cases h with
    | inl h => exact h.ne heq.symm
    | inr h =>
        have htie' := h.2
        rw [heq] at htie
        by_cases hzero : readyAt deps order a = 0
        · rw [if_pos hzero] at htie htie'
          exact hfirst _ _ htie' htie
        · rw [if_neg hzero] at htie htie'
          exact hreleased _ _ htie' htie

/-- The next task after a common beginning is ready. -/
theorem FirstInFirstOut.next_ready {done rest : List α} {task : α}
    (h : FirstInFirstOut deps first released (done ++ task :: rest)) : deps task ⊆ done :=
  h.respects done task rest rfl

/-- The next task after a common beginning is taken up before the later ones. -/
theorem FirstInFirstOut.next_before {done rest : List α} {task later : α}
    (h : FirstInFirstOut deps first released (done ++ task :: rest)) (hlater : later ∈ rest) :
    Before deps first released (done ++ task :: rest) task later :=
  (List.pairwise_cons.1 (List.pairwise_append.1 h.pairwise).2.1).1 later hlater

/-- Two schedules of the same tasks with the same beginning agree: the next task of each is
ready, so if they differed each would come before the other. -/
theorem fifo_rest_unique (hfirst : ∀ a b, first a b → ¬ first b a)
    (hreleased : ∀ a b, released a b → ¬ released b a) {done one two : List α}
    (hperm : one.Perm two) (hone : FirstInFirstOut deps first released (done ++ one))
    (htwo : FirstInFirstOut deps first released (done ++ two)) : one = two := by
  induction one generalizing done two with
  | nil => exact (List.nil_perm.1 hperm).symm
  | cons a one ih =>
      cases two with
      | nil => exact absurd hperm.length_eq (by simp)
      | cons b two =>
          by_cases hab : a = b
          · subst hab
            rw [List.append_cons] at hone htwo
            rw [ih (List.Perm.cons_inv hperm) hone htwo]
          · have ha : a ∈ two :=
              (List.mem_cons.1 (hperm.subset List.mem_cons_self)).resolve_left hab
            have hb : b ∈ one :=
              (List.mem_cons.1 (hperm.symm.subset List.mem_cons_self)).resolve_left (Ne.symm hab)
            have hfirst' := (before_append hone.next_ready htwo.next_ready _).1
              (hone.next_before hb)
            have hsecond := (before_append htwo.next_ready hone.next_ready _).1
              (htwo.next_before ha)
            exact absurd hsecond (before_asymm hfirst hreleased hfirst')

/-- The tasks and the tie breaks determine a first-in-first-out schedule. -/
theorem fifo_unique (hfirst : ∀ a b, first a b → ¬ first b a)
    (hreleased : ∀ a b, released a b → ¬ released b a) {one two : List α}
    (hperm : one.Perm two) (hone : FirstInFirstOut deps first released one)
    (htwo : FirstInFirstOut deps first released two) : one = two :=
  @fifo_rest_unique _ _ _ _ _ hfirst hreleased [] one two hperm hone htwo

end Positions

/-- Some tasks that each wait for one of them contain a cycle. -/
theorem not_acyclic_of_stuck {stuck : List α} (hne : stuck ≠ [])
    (hstuck : ∀ task ∈ stuck, ∃ dep ∈ deps task, dep ∈ stuck) : ¬ Acyclic deps := by
  intro hacyclic
  let waits (a b : { task // task ∈ stuck }) : Prop :=
    Relation.TransGen (fun a b => b ∈ deps a) b.1 a.1
  have : Finite { task // task ∈ stuck } := stuck.finite_toSet
  have : IsTrans _ waits := ⟨fun _ _ _ hab hbc => hbc.trans hab⟩
  have : Std.Irrefl waits := ⟨fun task h => hacyclic task.1 h⟩
  have hwf : WellFounded waits := Finite.wellFounded_of_trans_of_irrefl _
  obtain ⟨task, htask⟩ := List.exists_mem_of_ne_nil stuck hne
  obtain ⟨last, -, hlast⟩ := hwf.has_min Set.univ ⟨⟨task, htask⟩, trivial⟩
  obtain ⟨dep, hdep, hmem⟩ := hstuck last.1 last.2
  exact hlast ⟨dep, hmem⟩ trivial (Relation.TransGen.single hdep)

end CorvidNano.Schedule
