import CorvidNano.Library.Runs
import Mathlib.Algebra.BigOperators.Group.List.Basic
import Mathlib.Algebra.GroupWithZero.Nat
import Mathlib.Data.Finset.Card
import Mathlib.Data.Finset.Image

/-!
# Chains of answers

Items that may each have one answer, which is an item again, such as messages among parties who
answer by rule. `endless_iff` says that a chain of answers from finitely many ends soon or never.
`quiet_iff` says when pending items come to an end in whatever order they are handled, and
`run_work` that the order does not matter for how long that takes.
-/

namespace CorvidNano.Chains

open Runs

variable {α : Type*} {reply : α → Option α} {item : α}

/-! ## One chain -/

/-- The item after this many answers. -/
def after (reply : α → Option α) : Nat → α → Option α
  | 0, item => some item
  | n + 1, item => (reply item).bind (after reply n)

/-- The chain never ends. -/
def Endless (reply : α → Option α) (item : α) : Prop :=
  ∀ n, (after reply n item).isSome

theorem after_add (m n : Nat) (item : α) :
    after reply (m + n) item = (after reply m item).bind (after reply n) := by
  induction m generalizing item with
  | zero => rw [Nat.zero_add, after, Option.bind_some]
  | succ m ih =>
      rw [Nat.succ_add, after, after]
      cases reply item with
      | none => rfl
      | some answer => exact ih answer

/-- The last answer is an answer to the one before it. -/
theorem after_succ_last (n : Nat) (item : α) :
    after reply (n + 1) item = (after reply n item).bind reply := by
  rw [after_add]
  congr 1
  funext answer
  exact Option.bind_fun_some (reply answer)

/-- An item has been there before each later one. -/
theorem after_is_some_of_le {m n : Nat} (hle : m ≤ n) (h : (after reply n item).isSome) :
    (after reply m item).isSome := by
  obtain ⟨k, rfl⟩ := Nat.exists_eq_add_of_le hle
  rw [after_add] at h
  cases hm : after reply m item with
  | none => rw [hm] at h; cases h
  | some answer => rfl

theorem after_eq_none_of_le {m n : Nat} (hle : m ≤ n) (h : after reply m item = none) :
    after reply n item = none := by
  rw [← Option.not_isSome_iff_eq_none] at h ⊢
  exact mt (after_is_some_of_le hle) h

/-- A chain in which an item comes back never ends. -/
theorem endless_of_repeat {m n : Nat} {answer : α} (hpos : 0 < n)
    (hfirst : after reply m item = some answer) (hback : after reply n answer = some answer) :
    Endless reply item := by
  have hrounds : ∀ rounds, after reply (m + n * rounds) item = some answer := by
    intro rounds
    induction rounds with
    | zero => exact hfirst
    | succ rounds ih => rw [Nat.mul_succ, ← Nat.add_assoc, after_add, ih, Option.bind_some, hback]
  intro k
  refine after_is_some_of_le (n := m + n * k) ?_ (by rw [hrounds]; rfl)
  calc
    k = 1 * k := (Nat.one_mul k).symm
    _ ≤ n * k := Nat.mul_le_mul_right k hpos
    _ ≤ m + n * k := Nat.le_add_left _ _

/-- If all answers are among finitely many, a chain that is longer than these never ends. -/
theorem endless_iff {answers : List α} (hanswers : ∀ {item answer}, reply item = some answer →
    answer ∈ answers) : Endless reply item ↔ (after reply (answers.length + 1) item).isSome := by
  refine ⟨fun h => h _, fun h => ?_⟩
  classical
  have hsome : ∀ n, n ≤ answers.length → ∃ answer ∈ answers,
      after reply (n + 1) item = some answer := by
    intro n hn
    obtain ⟨answer, hanswer⟩ :=
      Option.isSome_iff_exists.mp (after_is_some_of_le (Nat.succ_le_succ hn) h)
    refine ⟨answer, ?_, hanswer⟩
    rw [Nat.succ_eq_add_one, after_succ_last] at hanswer
    obtain ⟨before, -, hlast⟩ := Option.bind_eq_some_iff.mp hanswer
    exact hanswers hlast
  -- More positions than answers: one answer stands at two of them.
  obtain ⟨i, hi, j, hj, hne, heq⟩ :=
    Finset.exists_ne_map_eq_of_card_lt_of_maps_to
      (s := Finset.range (answers.length + 1)) (t := answers.toFinset.image some)
      (f := fun n => after reply (n + 1) item)
      (by
        rw [Finset.card_range]
        exact Nat.lt_succ_of_le (Finset.card_image_le.trans (List.toFinset_card_le answers)))
      (by
        intro n hn
        have hlt : n < answers.length + 1 := by simpa using hn
        obtain ⟨answer, hmem, hafter⟩ := hsome n (Nat.le_of_lt_succ hlt)
        simp [hafter, hmem])
  wlog hlt : i < j generalizing i j
  · exact this j hj i hi hne.symm heq.symm (by omega)
  have hi : i < answers.length + 1 := by simpa using hi
  obtain ⟨answer, -, hfirst⟩ := hsome i (Nat.le_of_lt_succ hi)
  obtain ⟨k, rfl⟩ := Nat.exists_eq_add_of_lt hlt
  have hback : after reply (k + 1) answer = some answer := by
    have hsecond : after reply (i + 1 + (k + 1)) item = some answer := by
      rw [← hfirst, heq]
      congr 1
      omega
    rwa [after_add, hfirst, Option.bind_some] at hsecond
  exact endless_of_repeat (Nat.succ_pos k) hfirst hback

/-! ## How long a chain is -/

/-- How many items of a chain there are, counted up to a bound. -/
def turns (reply : α → Option α) : Nat → α → Nat
  | 0, _ => 0
  | n + 1, item =>
      match reply item with
      | none => 1
      | some answer => turns reply n answer + 1

theorem turns_le (n : Nat) (item : α) : turns reply n item ≤ n := by
  induction n generalizing item with
  | zero => exact Nat.le_refl 0
  | succ n ih =>
      rw [turns]
      cases reply item with
      | none => exact Nat.succ_pos n
      | some answer => exact Nat.succ_le_succ (ih answer)

/-- A chain that has ended within the bound is counted to its end. -/
theorem turns_succ {n : Nat} (h : after reply n item = none) :
    turns reply (n + 1) item = turns reply n item := by
  induction n generalizing item with
  | zero => cases h
  | succ n ih =>
      rw [turns]
      rw [after] at h
      conv_rhs => rw [turns]
      cases hreply : reply item with
      | none => rfl
      | some answer =>
          rw [hreply, Option.bind_some] at h
          exact congrArg Nat.succ (ih h)

/-- The rest of such a chain is one shorter. -/
theorem turns_of_reply {n : Nat} {answer : α} (h : after reply n item = none)
    (hreply : reply item = some answer) :
    turns reply n item = turns reply n answer + 1 ∧ after reply n answer = none := by
  constructor
  · rw [← turns_succ h, turns, hreply]
  · have hlater := after_eq_none_of_le (Nat.le_succ n) h
    rwa [after, hreply, Option.bind_some] at hlater

/-- A chain that has ended has at least one item. -/
theorem turns_pos {n : Nat} (h : after reply n item = none) : 0 < turns reply n item := by
  rw [← turns_succ h, turns]
  cases reply item with
  | none => exact Nat.one_pos
  | some answer => exact Nat.succ_pos _

/-! ## Pending items -/

/-- The pending item that is handled next, and whether its answer is lost. -/
structure Handling where
  position : Nat
  lost : Bool

/-- An item is handled, and its answer is pending after the others. -/
def step (reply : α → Option α) (pending : List α) (event : Handling) : Option (List α) :=
  match pending[event.position]? with
  | none => none
  | some item =>
      some (pending.eraseIdx event.position ++
        if event.lost = true then [] else (reply item).toList)

/-- The items that are left to handle, each chain counted up to a bound. -/
def work (reply : α → Option α) (n : Nat) (pending : List α) : Nat :=
  (pending.map (turns reply n)).sum

section Step

variable {pending next : List α} {event : Handling}

/-- What a step does. -/
theorem step_eq_some_iff : step reply pending event = some next ↔
    ∃ item rest, pending[event.position]? = some item ∧ List.Perm (item :: rest) pending ∧
      rest = pending.eraseIdx event.position ∧
      next = rest ++ if event.lost = true then [] else (reply item).toList := by
  unfold step
  cases hitem : pending[event.position]? with
  | none => simp
  | some item =>
      obtain ⟨hlt, rfl⟩ := List.getElem?_eq_some_iff.mp hitem
      have hperm := List.getElem_cons_eraseIdx_perm hlt
      constructor
      · intro h
        exact ⟨_, _, rfl, hperm, rfl, (Option.some.inj h).symm⟩
      · rintro ⟨other, rest, hother, -, rfl, rfl⟩
        cases hother
        rfl

/-- The work on a pending item and on the others. -/
theorem work_of_perm {rest : List α} (n : Nat) (h : List.Perm (item :: rest) pending) :
    work reply n pending = turns reply n item + work reply n rest := by
  rw [work, ← (h.map _).sum_eq, List.map_cons, List.sum_cons]
  rfl

/-- Pending items whose chains end: a step keeps them such, and takes one off the work, or more if
an answer is lost. -/
theorem step_work {n : Nat} (hends : ∀ item ∈ pending, after reply n item = none)
    (h : step reply pending event = some next) :
    (∀ item ∈ next, after reply n item = none) ∧
      work reply n next + 1 ≤ work reply n pending ∧
      (event.lost = false → work reply n next + 1 = work reply n pending) := by
  obtain ⟨item, rest, -, hperm, -, rfl⟩ := step_eq_some_iff.mp h
  have hitem : after reply n item = none := hends item (hperm.subset List.mem_cons_self)
  have hrest : ∀ other ∈ rest, after reply n other = none := fun other hmem =>
    hends other (hperm.subset (List.mem_cons_of_mem _ hmem))
  have hpos := turns_pos hitem
  rw [work_of_perm n hperm]
  cases hlost : event.lost with
  | true =>
      rw [if_pos rfl, List.append_nil]
      exact ⟨hrest, by omega, fun h => nomatch h⟩
  | false =>
      rw [if_neg Bool.false_ne_true]
      cases hreply : reply item with
      | none =>
          have hone : turns reply n item = 1 := by rw [← turns_succ hitem, turns, hreply]
          rw [Option.toList_none, List.append_nil]
          exact ⟨hrest, by omega, fun _ => by omega⟩
      | some answer =>
          obtain ⟨hturns, hanswer⟩ := turns_of_reply hitem hreply
          have hwork : work reply n (rest ++ [answer]) =
              work reply n rest + turns reply n answer := by
            simp [work]
          rw [Option.toList_some, hwork]
          refine ⟨fun other hmem => ?_, by omega, fun _ => by omega⟩
          rcases List.mem_append.mp hmem with hmem | hmem
          · exact hrest other hmem
          · rw [List.mem_singleton.mp hmem]
            exact hanswer

/-- If no answer is lost, an endless chain stays pending. -/
theorem step_endless (hlost : event.lost = false) (hpending : ∃ item ∈ pending, Endless reply item)
    (h : step reply pending event = some next) : ∃ item ∈ next, Endless reply item := by
  obtain ⟨item, rest, -, hperm, -, rfl⟩ := step_eq_some_iff.mp h
  obtain ⟨other, hmem, hendless⟩ := hpending
  rw [hlost, if_neg Bool.false_ne_true]
  rcases List.mem_cons.mp (hperm.mem_iff.mpr hmem) with rfl | hrest
  · have hone := hendless 1
    rw [after] at hone
    cases hreply : reply other with
    | none =>
        rw [hreply] at hone
        cases hone
    | some answer =>
        refine ⟨answer, List.mem_append_right _ (by simp), fun n => ?_⟩
        have hlater := hendless (n + 1)
        rwa [after, hreply, Option.bind_some] at hlater
  · exact ⟨other, List.mem_append_left _ hrest, hendless⟩

end Step

/-! ## Runs -/

section Run

variable {start final : List α} {events : List Handling}

/-- In whatever order items are handled whose chains end, there are not more steps than work, and
exactly as many when nothing is left and no answer was lost. -/
theorem run_work {n : Nat} (hends : ∀ item ∈ start, after reply n item = none)
    (hrun : run (step reply) start events = some final) :
    events.length + work reply n final ≤ work reply n start ∧
      ((∀ event ∈ events, event.lost = false) →
        events.length + work reply n final = work reply n start) := by
  induction events generalizing start with
  | nil =>
      cases hrun
      rw [List.length_nil, Nat.zero_add]
      exact ⟨Nat.le_refl _, fun _ => rfl⟩
  | cons event rest ih =>
      obtain ⟨next, hstep, hrest⟩ := run_cons_eq_some.mp hrun
      obtain ⟨hnext, hle, heq⟩ := step_work hends hstep
      obtain ⟨hrestLe, hrestEq⟩ := ih hnext hrest
      rw [List.length_cons]
      refine ⟨by omega, fun hlost => ?_⟩
      have hfirst := heq (hlost event List.mem_cons_self)
      have hothers := hrestEq fun other hmem => hlost other (List.mem_cons_of_mem _ hmem)
      omega

theorem work_le (n : Nat) (pending : List α) : work reply n pending ≤ pending.length * n := by
  induction pending with
  | nil => exact Nat.zero_le _
  | cons item rest ih =>
      have hturns : turns reply n item ≤ n := turns_le n item
      have hwork : work reply n (item :: rest) = turns reply n item + work reply n rest := rfl
      rw [hwork, List.length_cons, Nat.succ_mul]
      omega

/-- With an endless chain there are runs of any length. -/
theorem exists_run_of_endless (h : ∃ item ∈ start, Endless reply item) (n : Nat) :
    ∃ events final, events.length = n ∧ (∀ event ∈ events, event.lost = false) ∧
      run (step reply) start events = some final := by
  induction n generalizing start with
  | zero => exact ⟨[], start, rfl, List.forall_mem_nil _, rfl⟩
  | succ n ih =>
      obtain ⟨item, hmem, hendless⟩ := h
      obtain ⟨position, hlt, hitem⟩ := List.getElem_of_mem hmem
      have hstep : step reply start ⟨position, false⟩ =
          some (start.eraseIdx position ++ (reply item).toList) := by
        simp [step, List.getElem?_eq_getElem hlt, hitem]
      obtain ⟨events, final, hlength, hlost, hrun⟩ :=
        ih (step_endless rfl ⟨item, hmem, hendless⟩ hstep)
      refine ⟨⟨position, false⟩ :: events, final, by rw [List.length_cons, hlength], ?_, ?_⟩
      · exact List.forall_mem_cons.mpr ⟨rfl, hlost⟩
      · exact run_cons_eq_some.mpr ⟨_, hstep, hrun⟩

/-- If all answers are among finitely many: runs without losses are bounded exactly if each
pending chain has ended after one more answer than there are. -/
theorem quiet_iff {answers : List α} (hanswers : ∀ {item answer}, reply item = some answer →
    answer ∈ answers) (start : List α) :
    (∃ bound, ∀ events final, (∀ event ∈ events, event.lost = false) →
      run (step reply) start events = some final → events.length ≤ bound) ↔
    ∀ item ∈ start, after reply (answers.length + 1) item = none := by
  constructor
  · rintro ⟨bound, hbound⟩ item hmem
    by_contra hsome
    have hendless := (endless_iff hanswers).mpr (Option.isSome_iff_ne_none.mpr hsome)
    obtain ⟨events, final, hlength, hlost, hrun⟩ :=
      exists_run_of_endless ⟨item, hmem, hendless⟩ (bound + 1)
    have hle := hbound events final hlost hrun
    omega
  · intro hends
    refine ⟨work reply (answers.length + 1) start, fun events final hlost hrun => ?_⟩
    have hwork := (run_work hends hrun).1
    omega

end Run

end CorvidNano.Chains
