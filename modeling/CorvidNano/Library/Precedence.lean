import Mathlib.Data.List.Basic

/-!
# Sources in an order of precedence

A setting can come from several sources, and its value is that of the first source that has one.
`drop_source_iff` says when a source can be left out without a difference, and
`swap_sources_iff` when two neighbouring sources can be taken in the other order.
-/

namespace CorvidNano.Precedence

variable {α β : Type}

/-- The value of the first source that has one, or the default. -/
def firstPresent : List (Option α) → α → α
  | [], default => default
  | some value :: _, _ => value
  | none :: sources, default => firstPresent sources default

@[simp] theorem first_present_nil (default : α) : firstPresent [] default = default := rfl

@[simp] theorem first_present_some (value : α) (sources : List (Option α)) (default : α) :
    firstPresent (some value :: sources) default = value := rfl

@[simp] theorem first_present_none (sources : List (Option α)) (default : α) :
    firstPresent (none :: sources) default = firstPresent sources default := rfl

/-- Later sources are a default for the earlier ones. -/
theorem first_present_append (above below : List (Option α)) (default : α) :
    firstPresent (above ++ below) default = firstPresent above (firstPresent below default) := by
  induction above with
  | nil => rfl
  | cons source above ih =>
      cases source with
      | some value => rfl
      | none => exact ih

/-- A function of the values of all sources is taken of the value that is found. -/
theorem first_present_map (f : α → β) (sources : List (Option α)) (default : α) :
    firstPresent (sources.map (Option.map f)) (f default) = f (firstPresent sources default) := by
  induction sources with
  | nil => rfl
  | cons source sources ih =>
      cases source with
      | some value => rfl
      | none => exact ih

/-- With a value in one of the sources the default does not matter. -/
theorem first_present_eq_iff {sources : List (Option α)} {first second : α} :
    firstPresent sources first = firstPresent sources second ↔
      (∃ source ∈ sources, source ≠ none) ∨ first = second := by
  induction sources with
  | nil => simp
  | cons source sources ih =>
      cases source with
      | some value => exact iff_of_true rfl (Or.inl ⟨some value, List.mem_cons_self, by simp⟩)
      | none =>
          rw [first_present_none, first_present_none, ih]
          simp

/-- Without one of the sources the value is the same if an earlier one has a value, or if it has
none itself or the same as the later ones. -/
theorem drop_source_iff {above below : List (Option α)} {source : Option α} {default : α} :
    firstPresent (above ++ below) default = firstPresent (above ++ source :: below) default ↔
      (∃ other ∈ above, other ≠ none) ∨ source = none ∨
        source = some (firstPresent below default) := by
  rw [first_present_append, first_present_append, first_present_eq_iff]
  refine or_congr_right ?_
  cases source with
  | none => simp
  | some value => simp [eq_comm]

/-- In the other order the value is the same if an earlier source has one, or if one of the two
has none or both have the same. -/
theorem swap_sources_iff {above below : List (Option α)} {first second : Option α} {default : α} :
    firstPresent (above ++ first :: second :: below) default =
        firstPresent (above ++ second :: first :: below) default ↔
      (∃ other ∈ above, other ≠ none) ∨ first = none ∨ second = none ∨ first = second := by
  rw [first_present_append, first_present_append, first_present_eq_iff]
  refine or_congr_right ?_
  cases first with
  | none => cases second <;> simp
  | some value => cases second <;> simp

/-- One source after the other, and then a default. -/
theorem get_d_or (first second : Option α) (default : α) :
    (first.or second).getD default = firstPresent [first, second] default := by
  cases first with
  | some value => rfl
  | none => cases second <;> rfl

end CorvidNano.Precedence
