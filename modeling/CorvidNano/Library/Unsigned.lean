import Mathlib.Data.BitVec

/-!
# Unsigned arithmetic of a fixed width

Addition that is checked for overflow or wraps, as a build may choose, and subtraction that stops
at zero. `add_eq_some` says when an addition is exact in either build.
-/

namespace CorvidNano.Unsigned

variable {w : Nat} {checked : Bool} {a b : BitVec w}

/-- Addition. A sum that does not fit into the width is no result where overflow is checked, and
wraps elsewhere. -/
def add (checked : Bool) (a b : BitVec w) : Option (BitVec w) :=
  if checked && a.uaddOverflow b then none else some (a + b)

/-- Subtraction that stops at zero. -/
def saturatingSub (a b : BitVec w) : BitVec w :=
  if a < b then 0#w else a - b

/-- A sum that fits into the width is exact in every build. -/
theorem add_eq_some (checked : Bool) (h : a.toNat + b.toNat < 2 ^ w) :
    add checked a b = some (a + b) ∧ (a + b).toNat = a.toNat + b.toNat := by
  have hfits : a.uaddOverflow b = false := by
    unfold BitVec.uaddOverflow
    exact decide_eq_false (Nat.not_le_of_lt h)
  refine ⟨?_, BitVec.toNat_add_of_lt h⟩
  rw [add, hfits, Bool.and_false]
  rfl

theorem to_nat_saturating_sub (a b : BitVec w) :
    (saturatingSub a b).toNat = a.toNat - b.toNat := by
  unfold saturatingSub
  by_cases h : a < b
  · rw [if_pos h, BitVec.toNat_ofNat, Nat.zero_mod]
    have hlt := BitVec.lt_def.mp h
    omega
  · rw [if_neg h, BitVec.toNat_sub_of_le (BitVec.not_lt.mp h)]

end CorvidNano.Unsigned
