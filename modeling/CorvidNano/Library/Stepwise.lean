import Mathlib.Data.List.Basic

/-!
# Properties of every step

A machine with a total step function. `Holds` says that every event of a sequence has a property
in the state that it finds, and `holds_iff` compares two machines on one sequence: while they are
related, a property of the steps of one holds at every step if a property of the steps of the other
does.
-/

namespace CorvidNano.Stepwise

variable {State Other Event : Type*}

/-- Every event of the sequence has the property in the state that it finds. -/
def Holds (step : State → Event → State) (P : State → Event → Prop) (start : State)
    (events : List Event) : Prop :=
  ∀ before event after, events = before ++ event :: after → P (before.foldl step start) event

variable {step : State → Event → State} {P : State → Event → Prop}
  {otherStep : Other → Event → Other} {Q : Other → Event → Prop}

theorem holds_nil (start : State) : Holds step P start [] := by
  intro before event after h
  simp at h

/-- The first event finds the first state, and the others the states after it. -/
theorem holds_cons {start : State} {first : Event} {rest : List Event} :
    Holds step P start (first :: rest) ↔
      P start first ∧ Holds step P (step start first) rest := by
  constructor
  · intro h
    refine ⟨h [] first rest rfl, fun before event after heq => ?_⟩
    exact h (first :: before) event after (by rw [heq, List.cons_append])
  · rintro ⟨hfirst, hrest⟩ before event after heq
    cases before with
    | nil =>
        obtain ⟨rfl, -⟩ := List.cons_eq_cons.mp heq
        exact hfirst
    | cons other before =>
        obtain ⟨rfl, hafter⟩ := List.cons_eq_cons.mp heq
        exact hrest before event after hafter

/-- Two machines that stay related while the property holds have it at the same steps. -/
theorem holds_iff {Related : State → Other → Prop}
    (hiff : ∀ {state other event}, Related state other → (P state event ↔ Q other event))
    (hnext : ∀ {state other event}, Related state other → P state event →
      Related (step state event) (otherStep other event))
    {start : State} {otherStart : Other} (hstart : Related start otherStart)
    (events : List Event) :
    Holds step P start events ↔ Holds otherStep Q otherStart events := by
  induction events generalizing start otherStart with
  | nil => exact iff_of_true (holds_nil start) (holds_nil otherStart)
  | cons first rest ih =>
      rw [holds_cons, holds_cons, ← hiff hstart]
      exact and_congr_right fun hfirst => ih (hnext hstart hfirst)

end CorvidNano.Stepwise
