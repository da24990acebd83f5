import Mathlib.Algebra.Group.Nat.Defs
import Mathlib.Data.List.Basic
import Mathlib.Data.List.TakeDrop

/-!
# Ranges of a list and 64-bit sizes

Reading and overwriting ranges of a list: what is written is read back, and the rest is left
alone. On these, sums of 64-bit sizes and accesses to a slice as a program makes them, where a
sum that does not fit and an index out of range are faults.
-/

namespace CorvidNano.Access

variable {α : Type}

/-- The elements of a range. -/
def range (data : List α) (start len : Nat) : List α :=
  (data.drop start).take len

/-- The list with the elements from `start` on replaced. -/
def overwrite (data : List α) (start : Nat) (source : List α) : List α :=
  data.take start ++ source ++ data.drop (start + source.length)

theorem length_range {data : List α} {start len : Nat} (h : start + len ≤ data.length) :
    (range data start len).length = len := by
  rw [range, List.length_take, List.length_drop]
  omega

@[simp] theorem length_overwrite {data source : List α} {start : Nat}
    (h : start + source.length ≤ data.length) :
    (overwrite data start source).length = data.length := by
  rw [overwrite, List.length_append, List.length_append, List.length_take, List.length_drop]
  omega

theorem getElem_range (data : List α) (start len i : Nat) :
    (range data start len)[i]? = if i < len then data[start + i]? else none := by
  rw [range, List.getElem?_take, List.getElem?_drop]

/-- An element of the written range is the one that was written, the others are left alone. -/
theorem getElem_overwrite {data source : List α} {start : Nat}
    (h : start + source.length ≤ data.length) (i : Nat) :
    (overwrite data start source)[i]? =
      if start ≤ i ∧ i < start + source.length then source[i - start]? else data[i]? := by
  have htake : (data.take start).length = start := by
    rw [List.length_take]
    omega
  rw [overwrite, List.append_assoc]
  by_cases hlow : i < start
  · rw [if_neg (by omega), List.getElem?_append_left (htake.symm ▸ hlow),
      List.getElem?_take_of_lt hlow]
  · rw [List.getElem?_append_right (by omega), htake]
    by_cases hhigh : i < start + source.length
    · rw [if_pos (by omega), List.getElem?_append_left (by omega)]
    · rw [if_neg (by omega), List.getElem?_append_right (by omega), List.getElem?_drop]
      congr 1
      omega

/-- Two lists that agree on a range have the same elements there. -/
theorem range_congr {data other : List α} {start len : Nat}
    (h : ∀ i, start ≤ i → i < start + len → data[i]? = other[i]?) :
    range data start len = range other start len := by
  refine List.ext_getElem? fun i => ?_
  rw [getElem_range, getElem_range]
  by_cases hi : i < len
  · rw [if_pos hi, if_pos hi]
    exact h _ (by omega) (by omega)
  · rw [if_neg hi, if_neg hi]

/-- What was written is read back, a part of it too. -/
theorem range_overwrite_part {data source : List α} {start skip len : Nat}
    (h : start + source.length ≤ data.length) (hpart : skip + len ≤ source.length) :
    range (overwrite data start source) (start + skip) len = range source skip len := by
  refine List.ext_getElem? fun i => ?_
  rw [getElem_range, getElem_range, getElem_overwrite h]
  by_cases hi : i < len
  · rw [if_pos hi, if_pos hi, if_pos (by omega)]
    congr 1
    omega
  · rw [if_neg hi, if_neg hi]

/-- Two adjacent writes are one. -/
theorem overwrite_overwrite {data first second : List α} {start : Nat}
    (h : start + (first.length + second.length) ≤ data.length) :
    overwrite (overwrite data start first) (start + first.length) second =
      overwrite data start (first ++ second) := by
  have hfirst : start + first.length ≤ data.length := by omega
  have hlength := length_overwrite hfirst
  refine List.ext_getElem? fun i => ?_
  rw [getElem_overwrite (by omega), getElem_overwrite hfirst,
    getElem_overwrite (by rw [List.length_append]; exact h), List.length_append]
  by_cases hi : start ≤ i ∧ i < start + (first.length + second.length)
  · rw [if_pos hi]
    by_cases hlow : i < start + first.length
    · rw [if_neg (by omega), if_pos ⟨hi.1, hlow⟩, List.getElem?_append_left (by omega)]
    · rw [if_pos (by omega), List.getElem?_append_right (by omega), Nat.sub_add_eq]
  · rw [if_neg hi, if_neg (by omega), if_neg (by omega)]

/-! ## Faults -/

/-- What makes a program panic at a sum or at an access to a slice. -/
inductive Fault where
  | overflow
  | outOfRange
  deriving DecidableEq

/-- The sum of two 64-bit sizes. -/
def add (a b : Nat) : Except Fault Nat :=
  if a + b < 2 ^ 64 then .ok (a + b) else .error .overflow

/-- An element of a slice. -/
def index (data : List α) (i : Nat) : Except Fault α :=
  match data[i]? with
  | some element => .ok element
  | none => .error .outOfRange

/-- A part of a slice. -/
def slice (data : List α) (start stop : Nat) : Except Fault (List α) :=
  if start ≤ stop ∧ stop ≤ data.length then .ok (range data start (stop - start))
  else .error .outOfRange

/-- Copying into a part of a slice, which needs as many elements as the part has. -/
def copyFromSlice (data : List α) (start stop : Nat) (source : List α) :
    Except Fault (List α) :=
  if start ≤ stop ∧ stop ≤ data.length ∧ source.length = stop - start then
    .ok (overwrite data start source)
  else .error .outOfRange

theorem add_of_lt {a b : Nat} (h : a + b < 2 ^ 64) : add a b = .ok (a + b) := if_pos h

theorem add_of_ge {a b : Nat} (h : 2 ^ 64 ≤ a + b) : add a b = .error .overflow :=
  if_neg (Nat.not_lt.2 h)

theorem index_of_lt {data : List α} {i : Nat} (h : i < data.length) :
    index data i = .ok data[i] := by
  rw [index, List.getElem?_eq_getElem h]

theorem slice_of_le {data : List α} {start len : Nat} (h : start + len ≤ data.length) :
    slice data start (start + len) = .ok (range data start len) := by
  rw [slice, if_pos ⟨Nat.le_add_right _ _, h⟩, Nat.add_sub_cancel_left]

theorem copy_from_slice_of_le {data source : List α} {start : Nat}
    (h : start + source.length ≤ data.length) :
    copyFromSlice data start (start + source.length) source =
      .ok (overwrite data start source) :=
  if_pos ⟨Nat.le_add_right _ _, h, (Nat.add_sub_cancel_left _ _).symm⟩

end CorvidNano.Access
