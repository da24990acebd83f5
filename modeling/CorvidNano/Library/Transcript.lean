import Mathlib.Data.List.Basic

/-!
# Transcripts

A transcript is a list in which two speakers take turns. `alternates_concat` says who may speak
next, and `Alternates.drop` who speaks first when the beginning of a transcript is forgotten: the
same speaker exactly if an even number of entries is.
-/

namespace CorvidNano.Transcript

variable {α : Type*}

/-- The speaker of an entry, the first one of which is `first`'s. -/
def speaker (first second : α) (position : Nat) : α :=
  if position % 2 = 0 then first else second

/-- The two take turns, and `first` begins. -/
def Alternates (first second : α) : List α → Prop
  | [] => True
  | entry :: rest => entry = first ∧ Alternates second first rest

/-- Who speaks after an entry is the second one for whom begins after it. -/
theorem speaker_succ (first second : α) (position : Nat) :
    speaker first second (position + 1) = speaker second first position := by
  unfold speaker
  rcases Nat.mod_two_eq_zero_or_one position with h | h
  · rw [if_neg (by omega), if_pos h]
  · rw [if_pos (by omega), if_neg (by omega)]

/-- After whole turns it is the first one's turn again. -/
theorem speaker_two_mul (first second : α) (turns : Nat) :
    speaker first second (2 * turns) = first := by
  rw [speaker, if_pos (by omega)]

/-- A transcript goes on with the speaker whose turn it is. -/
theorem alternates_concat {first second entry : α} {entries : List α} :
    Alternates first second (entries ++ [entry]) ↔
      Alternates first second entries ∧ entry = speaker first second entries.length := by
  induction entries generalizing first second with
  | nil => exact ⟨fun h => ⟨trivial, h.1⟩, fun h => ⟨h.2, trivial⟩⟩
  | cons other rest ih =>
      show _ = first ∧ Alternates second first (rest ++ [entry]) ↔ (_ = first ∧ _) ∧ _
      rw [ih, List.length_cons, speaker_succ, and_assoc]

/-- What is left of a transcript without its beginning. -/
theorem Alternates.drop {first second : α} {entries : List α} (h : Alternates first second entries)
    (n : Nat) :
    Alternates (speaker first second n) (speaker second first n) (entries.drop n) := by
  induction n generalizing first second entries with
  | zero => exact h
  | succ n ih =>
      cases entries with
      | nil => trivial
      | cons entry rest =>
          rw [List.drop_succ_cons, speaker_succ, speaker_succ]
          exact ih h.2

/-- Two transcripts one after the other: the second one goes on with the turns of the first. -/
theorem alternates_append {first second : α} {entries others : List α} :
    Alternates first second (entries ++ others) ↔
      Alternates first second entries ∧
        Alternates (speaker first second entries.length) (speaker second first entries.length)
          others := by
  induction entries generalizing first second with
  | nil => exact (and_iff_right trivial).symm
  | cons entry rest ih =>
      show _ = first ∧ Alternates second first (rest ++ others) ↔ (_ = first ∧ _) ∧ _
      rw [ih, List.length_cons, speaker_succ, speaker_succ, and_assoc]

/-- The last entries, at most `limit` of them. -/
def keepLast (limit : Nat) (entries : List α) : List α :=
  entries.drop (entries.length - limit)

theorem length_keep_last_le (limit : Nat) (entries : List α) :
    (keepLast limit entries).length ≤ limit := by
  rw [keepLast, List.length_drop]
  omega

/-- A short list is kept. -/
theorem keep_last_of_le {limit : Nat} {entries : List α} (h : entries.length ≤ limit) :
    keepLast limit entries = entries := by
  rw [keepLast, Nat.sub_eq_zero_of_le h, List.drop_zero]

/-- The last entries, after more have been added to the last ones. -/
theorem keep_last_append (limit : Nat) (first second : List α) :
    keepLast limit (keepLast limit first ++ second) = keepLast limit (first ++ second) := by
  by_cases hshort : first.length ≤ limit
  · rw [keep_last_of_le hshort]
  · have hdrop :
        keepLast limit first ++ second = (first ++ second).drop (first.length - limit) := by
      rw [keepLast, List.drop_append_of_le_length (Nat.sub_le _ _)]
    have hlength : (keepLast limit first).length = limit := by
      rw [keepLast, List.length_drop]
      omega
    unfold keepLast at hdrop hlength ⊢
    rw [List.length_append, hlength, hdrop, List.drop_drop, List.length_append]
    congr 1
    omega

/-- The last entries of whole turns, an even number of them, are whole turns. -/
theorem Alternates.keep_last {first second : α} {entries : List α} {turns : Nat}
    (h : Alternates first second entries) (hlength : entries.length = 2 * turns) (limit : Nat) :
    Alternates first second (keepLast (2 * limit) entries) := by
  have hdropped : entries.length - 2 * limit = 2 * (turns - limit) := by omega
  have hrest := h.drop (entries.length - 2 * limit)
  rwa [hdropped, speaker_two_mul, speaker_two_mul, ← hdropped] at hrest

end CorvidNano.Transcript
