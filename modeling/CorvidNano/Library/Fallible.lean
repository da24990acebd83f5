import Mathlib.Data.List.Forall2

/-!
# Programs that may fail

When a program in `Except` returns a value: each of its parts does, and the errors in between do
not matter.
-/

namespace CorvidNano.Fallible

variable {ε ε' α β : Type}

/-- A value, or the error for its absence. -/
def orError (error : ε) : Option α → Except ε α
  | some value => .ok value
  | none => .error error

theorem or_error_eq_ok {error : ε} {option : Option α} {value : α} :
    orError error option = .ok value ↔ option = some value := by
  cases option with
  | none => exact ⟨fun h => (by cases h), fun h => (by cases h)⟩
  | some other => exact ⟨fun h => (by cases h; rfl), fun h => (by cases h; rfl)⟩

/-- A sequence returns a value if its first part returns one with which the second part does. -/
theorem bind_eq_ok {result : Except ε α} {next : α → Except ε β} {value : β} :
    result >>= next = .ok value ↔ ∃ first, result = .ok first ∧ next first = .ok value := by
  cases result with
  | error error => exact ⟨fun h => (by cases h), fun ⟨_, h, _⟩ => (by cases h)⟩
  | ok first => exact ⟨fun h => ⟨first, rfl, h⟩, fun ⟨_, hfirst, h⟩ => (by cases hfirst; exact h)⟩

theorem map_error_eq_ok {result : Except ε α} {f : ε → ε'} {value : α} :
    result.mapError f = .ok value ↔ result = .ok value := by
  cases result with
  | error error => exact ⟨fun h => (by cases h), fun h => (by cases h)⟩
  | ok first => exact Iff.rfl.trans ⟨fun h => (by cases h; rfl), fun h => (by cases h; rfl)⟩

theorem to_option_eq_some {result : Except ε α} {value : α} :
    result.toOption = some value ↔ result = .ok value := by
  cases result with
  | error error => exact ⟨fun h => (by cases h), fun h => (by cases h)⟩
  | ok first => exact ⟨fun h => (by cases h; rfl), fun h => (by cases h; rfl)⟩

/-- A sequence fails with its first part, or with the second one after it. -/
theorem bind_eq_error {result : Except ε α} {next : α → Except ε β} {error : ε} :
    result >>= next = .error error ↔
      result = .error error ∨ ∃ first, result = .ok first ∧ next first = .error error := by
  cases result with
  | error other =>
      constructor
      · intro h
        exact .inl (congrArg Except.error (Except.error.inj h))
      · rintro (h | ⟨_, h, _⟩)
        · exact congrArg Except.error (Except.error.inj h)
        · cases h
  | ok first =>
      constructor
      · exact fun h => .inr ⟨first, rfl, h⟩
      · rintro (h | ⟨_, hfirst, h⟩)
        · cases h
        · cases hfirst
          exact h

theorem map_error_eq_error {result : Except ε α} {f : ε → ε'} {error : ε'} :
    result.mapError f = .error error ↔ ∃ cause, result = .error cause ∧ f cause = error := by
  cases result with
  | error cause =>
      constructor
      · exact fun h => ⟨cause, rfl, Except.error.inj h⟩
      · rintro ⟨_, hcause, h⟩
        cases hcause
        exact congrArg Except.error h
  | ok first => exact ⟨fun h => (by cases h), fun ⟨_, h, _⟩ => (by cases h)⟩

/-- A list is mapped if each of its elements is. -/
theorem map_m_eq_some {f : α → Option β} {list : List α} {results : List β} :
    list.mapM f = some results ↔ List.Forall₂ (fun a b => f a = some b) list results := by
  induction list generalizing results with
  | nil =>
      rw [List.mapM_nil, List.forall₂_nil_left_iff]
      exact ⟨fun h => (Option.some.inj h).symm, fun h => congrArg some h.symm⟩
  | cons a rest ih =>
      simp only [List.mapM_cons, Option.bind_eq_bind, Option.bind_eq_some_iff, Option.pure_def,
        Option.some.injEq, ih, List.forall₂_cons_left_iff]
      constructor
      · rintro ⟨b, hb, others, hothers, rfl⟩
        exact ⟨b, others, hb, hothers, rfl⟩
      · rintro ⟨b, others, hb, hothers, rfl⟩
        exact ⟨b, hb, others, hothers, rfl⟩

/-- No member is left out, if there are as many results as members. -/
theorem forall_of_length_filter_map {f : α → Option β} {list : List α}
    (h : list.length ≤ (list.filterMap f).length) : ∀ x ∈ list, (f x).isSome := by
  induction list with
  | nil => exact fun x hx => absurd hx List.not_mem_nil
  | cons first rest ih =>
      have hle := List.length_filterMap_le f rest
      cases hfirst : f first with
      | none =>
          rw [List.filterMap_cons_none hfirst, List.length_cons] at h
          omega
      | some value =>
          rw [List.filterMap_cons_some hfirst, List.length_cons, List.length_cons] at h
          rintro x (_ | ⟨_, hx⟩)
          · rw [hfirst]
            rfl
          · exact ih (by omega) x hx

end CorvidNano.Fallible
