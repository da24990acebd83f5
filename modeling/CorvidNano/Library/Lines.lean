import Mathlib.Data.List.Basic
import Mathlib.Data.List.Infix

/-!
# Lines of a stream

A stream is cut into lines at each `stop`. What comes behind the last one is the beginning of a
line that is not complete yet. `split_append` is what makes reading in chunks possible: the lines
of a stream are those of its first part, and then those of the unfinished line with the second
part behind it. `fits_iff` says which chunks a reader with a bounded buffer can take.
-/

namespace CorvidNano.Lines

variable {α : Type*} {stop : α}

/-- The stream of complete lines. -/
def join (stop : α) (lines : List (List α)) : List α :=
  lines.flatMap fun line => line ++ [stop]

@[simp] theorem join_nil : join stop [] = [] := rfl

@[simp] theorem join_cons (line : List α) (lines : List (List α)) :
    join stop (line :: lines) = line ++ stop :: join stop lines := by
  simp [join]

@[simp] theorem join_append (first second : List (List α)) :
    join stop (first ++ second) = join stop first ++ join stop second := by
  simp [join]

variable [DecidableEq α]

/-- The complete lines of a stream without their ends, and the unfinished line behind them. -/
def split (stop : α) : List α → List (List α) × List α
  | [] => ([], [])
  | a :: rest =>
      if a = stop then ([] :: (split stop rest).1, (split stop rest).2)
      else
        match (split stop rest).1 with
        | [] => ([], a :: (split stop rest).2)
        | line :: lines => ((a :: line) :: lines, (split stop rest).2)

@[simp] theorem split_nil : split stop [] = ([], []) := rfl

/-- A line that ends is the first one. -/
@[simp] theorem split_stop_cons (rest : List α) :
    split stop (stop :: rest) = ([] :: (split stop rest).1, (split stop rest).2) := by
  simp [split]

/-- An element that does not end the line belongs to the first line. -/
theorem split_cons_of_ne {a : α} (h : a ≠ stop) (rest : List α) :
    split stop (a :: rest) =
      match (split stop rest).1 with
      | [] => ([], a :: (split stop rest).2)
      | line :: lines => ((a :: line) :: lines, (split stop rest).2) := by
  rw [split, if_neg h]

/-- A stream without an end of line is an unfinished line. -/
theorem split_of_not_mem {stream : List α} (h : stop ∉ stream) :
    split stop stream = ([], stream) := by
  induction stream with
  | nil => rfl
  | cons a rest ih =>
      obtain ⟨hne, hrest⟩ : stop ≠ a ∧ stop ∉ rest := by simpa using h
      rw [split_cons_of_ne (Ne.symm hne), ih hrest]

/-- The first line goes up to the first end of line. -/
theorem split_line_append {line : List α} (h : stop ∉ line) (rest : List α) :
    split stop (line ++ stop :: rest) = (line :: (split stop rest).1, (split stop rest).2) := by
  induction line with
  | nil => exact split_stop_cons rest
  | cons a line ih =>
      obtain ⟨hne, hline⟩ : stop ≠ a ∧ stop ∉ line := by simpa using h
      rw [List.cons_append, split_cons_of_ne (Ne.symm hne), ih hline]

/-- The lines of a stream do not contain its ends of lines. -/
theorem not_mem_of_split {stream : List α} :
    (∀ line ∈ (split stop stream).1, stop ∉ line) ∧ stop ∉ (split stop stream).2 := by
  induction stream with
  | nil => simp
  | cons a rest ih =>
      by_cases ha : a = stop
      · subst ha
        simpa using ih
      · rw [split_cons_of_ne ha]
        obtain ⟨hlines, hunfinished⟩ := ih
        split
        · rename_i hnone
          refine ⟨by simp, ?_⟩
          simpa using ⟨Ne.symm ha, hunfinished⟩
        · rename_i line lines hsome
          rw [hsome] at hlines
          refine ⟨fun other hother => ?_, hunfinished⟩
          rcases List.mem_cons.mp hother with rfl | hother
          · simpa using ⟨Ne.symm ha, hlines line (by simp)⟩
          · exact hlines other (List.mem_cons_of_mem _ hother)

/-- The lines and the unfinished line make up the stream. -/
theorem join_split (stream : List α) :
    join stop (split stop stream).1 ++ (split stop stream).2 = stream := by
  induction stream with
  | nil => rfl
  | cons a rest ih =>
      by_cases ha : a = stop
      · subst ha
        simpa using ih
      · rw [split_cons_of_ne ha]
        split
        · rename_i hnone
          rw [hnone] at ih
          simpa using ih
        · rename_i line lines hsome
          rw [hsome] at ih
          simpa using ih

/-- Lines are cut from the stream that they make up. -/
theorem split_join_append {lines : List (List α)} (h : ∀ line ∈ lines, stop ∉ line)
    (rest : List α) :
    split stop (join stop lines ++ rest) =
      (lines ++ (split stop rest).1, (split stop rest).2) := by
  induction lines with
  | nil => simp
  | cons line lines ih =>
      have hline := h line (by simp)
      have hlines := ih fun other hother => h other (List.mem_cons_of_mem _ hother)
      rw [join_cons, List.append_assoc, List.cons_append, split_line_append hline, hlines]
      rfl

/-- The lines of a stream are those of its first part, and those of the unfinished line with the
second part behind it. -/
theorem split_append (first second : List α) :
    split stop (first ++ second) =
      ((split stop first).1 ++ (split stop ((split stop first).2 ++ second)).1,
        (split stop ((split stop first).2 ++ second)).2) := by
  have hfirst := @join_split _ stop _ first
  calc split stop (first ++ second)
      = split stop (join stop (split stop first).1 ++ ((split stop first).2 ++ second)) := by
        rw [← List.append_assoc, hfirst]
    _ = _ := split_join_append not_mem_of_split.1 _

/-- No line and no unfinished line is longer than the stream. -/
theorem length_le_of_split (stream : List α) :
    (∀ line ∈ (split stop stream).1, line.length ≤ stream.length) ∧
      (split stop stream).2.length ≤ stream.length := by
  have hstream := congrArg List.length (@join_split _ stop _ stream)
  rw [List.length_append] at hstream
  refine ⟨fun line hline => ?_, by omega⟩
  have hjoin : line.length ≤ (join stop (split stop stream).1).length := by
    obtain ⟨before, behind, hsplit⟩ := List.append_of_mem hline
    rw [hsplit, join_append, join_cons]
    simp only [List.length_append, List.length_cons]
    omega
  omega

/-! ## A bounded buffer -/

/-- A buffer of `bound` elements that has `held` can take the chunks one after the other, if it
gives away the complete lines after each one. -/
def Fits (stop : α) (bound : Nat) : List α → List (List α) → Prop
  | _, [] => True
  | held, chunk :: rest =>
      (held ++ chunk).length ≤ bound ∧ Fits stop bound (split stop (held ++ chunk)).2 rest

/-- The buffer holds the unfinished line when a chunk comes. -/
theorem fits_iff {bound : Nat} {held : List α} {chunks : List (List α)} (hheld : stop ∉ held) :
    Fits stop bound held chunks ↔
      ∀ front chunk back, chunks = front ++ chunk :: back →
        (split stop (held ++ front.flatten)).2.length + chunk.length ≤ bound := by
  induction chunks generalizing held with
  | nil => simp [Fits]
  | cons first rest ih =>
      have hunfinished : (split stop held).2 = held := by rw [split_of_not_mem hheld]
      rw [Fits, ih not_mem_of_split.2, List.length_append]
      constructor
      · rintro ⟨hfirst, hrest⟩ front chunk back hchunks
        cases front with
        | nil =>
            obtain ⟨rfl, rfl⟩ := List.cons.inj hchunks
            simpa [hunfinished] using hfirst
        | cons chunk' front =>
            obtain ⟨rfl, hback⟩ := List.cons.inj hchunks
            rw [List.flatten_cons, ← List.append_assoc, split_append]
            exact hrest front chunk back hback
      · intro h
        refine ⟨by simpa [hunfinished] using h [] first rest rfl, fun front chunk back hback => ?_⟩
        have hlater := h (first :: front) chunk back (by rw [hback]; rfl)
        rw [List.flatten_cons, ← List.append_assoc, split_append] at hlater
        exact hlater

/-- Lines that fit are not longer than the buffer. -/
theorem length_le_of_fits {bound : Nat} {held : List α} {chunks : List (List α)}
    (hheld : held.length ≤ bound) (h : Fits stop bound held chunks) :
    (∀ line ∈ (split stop (held ++ chunks.flatten)).1, line.length ≤ bound) ∧
      (split stop (held ++ chunks.flatten)).2.length ≤ bound := by
  induction chunks generalizing held with
  | nil =>
      rw [List.flatten_nil, List.append_nil]
      obtain ⟨hlines, hunfinished⟩ := @length_le_of_split _ stop _ held
      exact ⟨fun line hline => (hlines line hline).trans hheld, hunfinished.trans hheld⟩
  | cons chunk rest ih =>
      obtain ⟨hchunk, hrest⟩ := h
      obtain ⟨hlines, hunfinished⟩ := @length_le_of_split _ stop _ (held ++ chunk)
      rw [List.flatten_cons, ← List.append_assoc, split_append]
      refine ⟨fun line hline => ?_, (ih (hunfinished.trans hchunk) hrest).2⟩
      rcases List.mem_append.mp hline with hline | hline
      · exact (hlines line hline).trans hchunk
      · exact (ih (hunfinished.trans hchunk) hrest).1 line hline

end CorvidNano.Lines
