import Mathlib.Data.List.Basic
import Mathlib.Data.List.Nodup

/-!
# Tables whose keys are defined once

A table that refuses to define a key again. `define_all_eq_ok` says when a list of keys can be
added to it.
-/

namespace CorvidNano.FreshKeys

variable {Key : Type*} [DecidableEq Key]

/-- Define a key, or return the key as the error if it is already defined. -/
def define (keys : List Key) (key : Key) : Except Key (List Key) :=
  if key ∈ keys then .error key else .ok (keys ++ [key])

/-- Define the keys in order, up to the first error. -/
def defineAll (keys new : List Key) : Except Key (List Key) :=
  new.foldlM define keys

/-- Defining a concatenation defines the first part and then the second. -/
theorem define_all_append (keys first second : List Key) :
    defineAll keys (first ++ second) =
      (defineAll keys first).bind fun middle => defineAll middle second := by
  unfold defineAll
  rw [List.foldlM_append]
  rfl

/-- All keys are defined if and only if they are distinct and none was defined before. -/
theorem define_all_eq_ok {keys new result : List Key} :
    defineAll keys new = .ok result ↔
      new.Nodup ∧ (∀ key ∈ new, key ∉ keys) ∧ result = keys ++ new := by
  induction new generalizing keys with
  | nil => simp [defineAll, pure, Except.pure, eq_comm]
  | cons key rest ih =>
      have hstep : defineAll keys (key :: rest) =
          (define keys key).bind fun middle => defineAll middle rest := rfl
      rw [hstep]
      by_cases hkey : key ∈ keys
      · simp [define, hkey, Except.bind]
      · have hdefine : define keys key = .ok (keys ++ [key]) := if_neg hkey
        rw [hdefine]
        show defineAll (keys ++ [key]) rest = .ok result ↔ _
        rw [ih, List.nodup_cons, List.append_assoc, List.singleton_append]
        constructor
        · rintro ⟨hnodup, hfresh, hresult⟩
          refine ⟨⟨fun hmem => ?_, hnodup⟩, fun other hother => ?_, hresult⟩
          · exact hfresh key hmem (by simp)
          · rcases List.mem_cons.mp hother with rfl | hother
            · exact hkey
            · exact fun hmem => hfresh other hother (List.mem_append_left _ hmem)
        · rintro ⟨⟨hnotMem, hnodup⟩, hfresh, hresult⟩
          refine ⟨hnodup, fun other hother hmem => ?_, hresult⟩
          rcases List.mem_append.mp hmem with hmem | hmem
          · exact hfresh other (List.mem_cons_of_mem _ hother) hmem
          · exact hnotMem (List.mem_singleton.mp hmem ▸ hother)

end CorvidNano.FreshKeys
