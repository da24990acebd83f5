import Mathlib.Data.List.Basic
import Mathlib.Data.List.Induction

/-!
# Stores where the last write to a key wins

A store keeps one value for each key. `kept_iff_agree` says that a sequence of writes replaces
no value that it wrote itself exactly if writes to one key agree, and `read_of_agree` that every
one of them is then read back.
-/

namespace CorvidNano.LastWrite

variable {State Write Key Value : Type*}

/-- Writes to one key write one value. -/
def Agree (key : Write → Key) (value : Write → Value) (writes : List Write) : Prop :=
  ∀ first ∈ writes, ∀ second ∈ writes, key first = key second → value first = value second

/-- No write changes what is read for a key that an earlier one wrote. -/
def Kept (write : State → Write → State) (read : State → Key → Option Value)
    (key : Write → Key) (state : State) (writes : List Write) : Prop :=
  ∀ before w after, writes = before ++ w :: after → ∀ earlier ∈ before, key earlier = key w →
    read (write (before.foldl write state) w) (key w) = read (before.foldl write state) (key w)

variable {write : State → Write → State} {read : State → Key → Option Value}
  {key : Write → Key} {value : Write → Value} {writes : List Write}

/-- Writes that agree are read back. -/
theorem read_of_agree [DecidableEq Key]
    (hread : ∀ state w k, read (write state w) k =
      if key w = k then some (value w) else read state k)
    (state : State) (hagree : Agree key value writes) {w : Write} (hw : w ∈ writes) :
    read (writes.foldl write state) (key w) = some (value w) := by
  induction writes using List.reverseRecOn with
  | nil => cases hw
  | append_singleton writes last ih =>
      rw [List.foldl_concat, hread]
      by_cases hkey : key last = key w
      · rw [if_pos hkey]
        exact congrArg some (hagree last (by simp) w hw hkey)
      · rw [if_neg hkey]
        rcases List.mem_append.mp hw with hw | hw
        · exact ih (fun first hfirst second hsecond => hagree first
            (List.mem_append_left _ hfirst) second (List.mem_append_left _ hsecond)) hw
        · exact absurd (congrArg key (List.mem_singleton.mp hw).symm) hkey

/-- A sequence of writes keeps what it wrote if and only if writes to one key agree. -/
theorem kept_iff_agree [DecidableEq Key]
    (hread : ∀ state w k, read (write state w) k =
      if key w = k then some (value w) else read state k)
    (state : State) : Kept write read key state writes ↔ Agree key value writes := by
  constructor
  · intro hkept
    induction writes using List.reverseRecOn with
    | nil => simp [Agree]
    | append_singleton writes last ih =>
        have hagree : Agree key value writes := ih fun before w after heq =>
          hkept before w (after ++ [last]) (by rw [heq, List.append_assoc, List.cons_append])
        have hlast : ∀ earlier ∈ writes, key earlier = key last →
            value earlier = value last := by
          intro earlier hearlier hkey
          have hsame := hkept writes last [] rfl earlier hearlier hkey
          rw [hread, if_pos rfl, ← hkey, read_of_agree hread state hagree hearlier] at hsame
          exact (Option.some.inj hsame).symm
        intro first hfirst second hsecond hkey
        rcases List.mem_append.mp hfirst with hfirst | hfirst
        · rcases List.mem_append.mp hsecond with hsecond | hsecond
          · exact hagree first hfirst second hsecond hkey
          · rw [List.mem_singleton.mp hsecond] at hkey ⊢
            exact hlast first hfirst hkey
        · rw [List.mem_singleton.mp hfirst] at hkey ⊢
          rcases List.mem_append.mp hsecond with hsecond | hsecond
          · exact (hlast second hsecond hkey.symm).symm
          · rw [List.mem_singleton.mp hsecond]
  · intro hagree before w after heq earlier hearlier hkey
    subst heq
    have hbefore : Agree key value before := fun first hfirst second hsecond => hagree first
      (List.mem_append_left _ hfirst) second (List.mem_append_left _ hsecond)
    rw [hread, if_pos rfl, ← hkey, read_of_agree hread state hbefore hearlier]
    exact congrArg some (hagree w (by simp) earlier (by simp [hearlier]) hkey.symm)

end CorvidNano.LastWrite
