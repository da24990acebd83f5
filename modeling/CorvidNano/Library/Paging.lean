import Mathlib.Data.List.Basic

/-!
# Pages of a filtered list

A page is the beginning of a list. To filter a page is not to page what is filtered:
`filter_page_eq_iff` says when nothing is missing.
-/

namespace CorvidNano.Paging

variable {α β : Type*}

/-- The first `limit` elements, or all without a limit. -/
def page (limit : Option Nat) (xs : List α) : List α :=
  match limit with
  | none => xs
  | some n => xs.take n

/-- The elements that a page leaves out. -/
def beyond (limit : Option Nat) (xs : List α) : List α :=
  match limit with
  | none => []
  | some n => xs.drop n

@[simp] theorem page_nil (limit : Option Nat) : page limit ([] : List α) = [] := by
  cases limit with
  | none => rfl
  | some n => exact List.take_nil

theorem map_page (f : α → β) (limit : Option Nat) (xs : List α) :
    (page limit xs).map f = page limit (xs.map f) := by
  cases limit with
  | none => rfl
  | some n => exact List.map_take

/-- What a filter leaves of the first elements comes first among what it leaves of all. -/
theorem take_filter (keep : α → Bool) (n : Nat) (xs : List α) :
    (xs.filter keep).take n =
      (xs.take n).filter keep ++
        ((xs.drop n).filter keep).take (n - ((xs.take n).filter keep).length) := by
  have hlength : ((xs.take n).filter keep).length ≤ n :=
    Nat.le_trans (List.length_filter_le _ _) (List.length_take_le _ _)
  calc (xs.filter keep).take n
      = ((xs.take n).filter keep ++ (xs.drop n).filter keep).take n := by
        rw [← List.filter_append, List.take_append_drop]
    _ = _ := by rw [List.take_append, List.take_of_length_le hlength]

/-- A filtered page misses nothing exactly if the filter keeps all of the page, or nothing of what
is beyond it. -/
theorem filter_page_eq_iff (keep : α → Bool) (limit : Option Nat) (xs : List α) :
    (page limit xs).filter keep = page limit (xs.filter keep) ↔
      (∀ x ∈ page limit xs, keep x = true) ∨ ∀ x ∈ beyond limit xs, keep x = false := by
  cases limit with
  | none => simp [page, beyond]
  | some n =>
      show (xs.take n).filter keep = (xs.filter keep).take n ↔
        (∀ x ∈ xs.take n, keep x = true) ∨ ∀ x ∈ xs.drop n, keep x = false
      rw [take_filter, List.self_eq_append_right, List.take_eq_nil_iff, Nat.sub_eq_zero_iff_le]
      have hrest : (xs.drop n).filter keep = [] ↔ ∀ x ∈ xs.drop n, keep x = false := by
        simp [List.filter_eq_nil_iff]
      rw [hrest]
      have hall : n ≤ ((xs.take n).filter keep).length → ∀ x ∈ xs.take n, keep x = true := by
        intro hn
        have hfull : ((xs.take n).filter keep).length = (xs.take n).length :=
          Nat.le_antisymm (List.length_filter_le _ _)
            (Nat.le_trans (List.length_take_le _ _) hn)
        exact List.length_filter_eq_length_iff.mp hfull
      constructor
      · rintro (hn | hnone)
        · exact .inl (hall hn)
        · exact .inr hnone
      · rintro (hkeep | hnone)
        · by_cases hn : n ≤ xs.length
          · have hfull : ((xs.take n).filter keep).length = n := by
              rw [List.filter_eq_self.mpr hkeep, List.length_take, Nat.min_eq_left hn]
            exact .inl (Nat.le_of_eq hfull.symm)
          · right
            rw [List.drop_eq_nil_of_le (Nat.le_of_not_le hn)]
            exact fun x hx => absurd hx List.not_mem_nil
        · exact .inr hnone

end CorvidNano.Paging
