import Mathlib.Data.List.Forall2

/-!
# Lists of processes

A system of any number of identical processes keeps the program point of each in a list and
moves one of them at a time with `List.set`. These lemmas count the processes at a set of
program points and say what one move does to the count.
-/

namespace CorvidNano.Processes

variable {α β : Type*}

/-- Moving one process changes the count by its old and its new program point only. -/
theorem countP_set_add (p : α → Bool) {processes : List α} {i : Nat} {old : α} (new : α)
    (h : processes[i]? = some old) :
    (processes.set i new).countP p + (if p old then 1 else 0) =
      processes.countP p + if p new then 1 else 0 := by
  obtain ⟨hi, rfl⟩ := List.getElem?_eq_some_iff.mp h
  have hpos : p processes[i] = true → 0 < processes.countP p := fun hp =>
    List.countP_pos_iff.mpr ⟨_, List.getElem_mem hi, hp⟩
  rw [List.countP_set hi]
  split <;> split <;> simp_all

/-- A program point other than the old and the new one is as present after a move as before. -/
theorem mem_set_iff_of_ne {processes : List α} {i : Nat} {old new a : α}
    (hold : processes[i]? = some old) (ha : a ≠ old) (hnew : a ≠ new) :
    a ∈ processes.set i new ↔ a ∈ processes := by
  simp only [List.mem_iff_getElem?, List.getElem?_set]
  refine exists_congr fun k => ?_
  by_cases hk : i = k
  · subst hk
    simp only [if_true, hold, Option.some.injEq, ha.symm, iff_false]
    split
    · simpa using hnew.symm
    · simp
  · simp [hk]

/-- If each process that `p` counts is paired with one that `q` counts, `p` counts no more. -/
theorem countP_le_countP_of_forall₂ {R : α → β → Prop} {p : α → Bool} {q : β → Bool}
    {left : List α} {right : List β} (h : List.Forall₂ R left right)
    (hpq : ∀ {a b}, R a b → p a = true → q b = true) : left.countP p ≤ right.countP q := by
  induction h with
  | nil => simp
  | @cons a b _ _ hab _ ih =>
      simp only [List.countP_cons]
      by_cases hp : p a = true
      · simpa [hp, hpq hab hp] using ih
      · simpa [hp] using Nat.le_add_right_of_le ih

/-- Related lists stay related when one element on the left is replaced by one that is related
to its partner. -/
theorem forall₂_set_left {R : α → β → Prop} {left : List α} {right : List β}
    (h : List.Forall₂ R left right) {i : Nat} {a : α}
    (ha : ∀ b, right[i]? = some b → R a b) : List.Forall₂ R (left.set i a) right := by
  induction h generalizing i with
  | nil => exact .nil
  | cons hhead htail ih =>
      cases i with
      | zero => exact .cons (ha _ rfl) htail
      | succ i => exact .cons hhead (ih ha)

/-- Related lists stay related when one element on the right is replaced by one that its partner
is related to. -/
theorem forall₂_set_right {R : α → β → Prop} {left : List α} {right : List β}
    (h : List.Forall₂ R left right) {i : Nat} {b : β}
    (hb : ∀ a, left[i]? = some a → R a b) : List.Forall₂ R left (right.set i b) :=
  (forall₂_set_left h.flip hb).flip

end CorvidNano.Processes
