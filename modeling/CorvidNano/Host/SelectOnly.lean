import CorvidNano.A2a.Request
import CorvidNano.Library.Sql
import Mathlib.Data.List.DropRight

/-!
# The check on the queries of a plugin

`is_select_only` of `host_functions/db.rs`: the text has one piece between its semicolons, and the
first word of that piece is `SELECT`, `WITH` or `EXPLAIN`. It looks neither for the statement
behind a `WITH` clause nor for literals and comments.

`admits_read_only_iff` says for which texts the check does what it is for.
-/

namespace CorvidNano.Host.SelectOnly

open A2a (splitWhitespace)
open Signature (isWhiteSpace trim exists_trim)
open Sql

/-- `char::to_uppercase`, as far as it is used: the letters of ASCII, and nothing but white space
becomes white space. -/
structure Uppercase where
  upper : Char → List Char
  ascii : ∀ c : Char, c.toNat < 128 → upper c = [c.toUpper]
  keepsWhiteSpace : ∀ c, isWhiteSpace c = true → upper c = [c]
  keepsOthers : ∀ c, isWhiteSpace c = false → upper c ≠ [] ∧ ∀ u ∈ upper c, isWhiteSpace u = false

/-- `str::to_uppercase`. -/
def Uppercase.text (case : Uppercase) (text : List Char) : List Char := text.flatMap case.upper

/-- The first words that the check accepts. -/
def acceptedWords : List (List Char) := ["SELECT".toList, "WITH".toList, "EXPLAIN".toList]

/-- The pieces between the semicolons, without those that are blank. -/
def pieces (text : List Char) : List (List Char) :=
  ((text.splitOn ';').map trim).filter fun s => !s.isEmpty

/-- `is_select_only`. -/
def isSelectOnly (case : Uppercase) (sql : List Char) : Bool :=
  let trimmed := trim sql
  if trimmed.isEmpty then false
  else
    match pieces trimmed with
    | [statement] =>
        let upper := case.text statement
        let firstWord := (splitWhitespace upper).headD []
        acceptedWords.contains firstWord
    | _ => false

/-- White space and semicolons. -/
def isSeparator (c : Char) : Bool := isWhiteSpace c || c == ';'

/-- The first word of a text, behind white space and semicolons and up to the next of them. -/
def firstWord (text : List Char) : List Char :=
  (text.dropWhile isSeparator).takeWhile fun c => !isSeparator c

/-- No semicolon of the text stands between two words. -/
def OnePiece (text : List Char) : Prop :=
  ∀ before after, text = before ++ ';' :: after →
    before.all isSeparator = true ∨ after.all isSeparator = true

/-! ## Words and pieces -/

/-- A part at the end whose elements do not qualify adds nothing to the beginning that does. -/
theorem take_while_append_of_all {α : Type} {p : α → Bool} {list rest : List α}
    (h : ∀ a ∈ rest, p a = false) : (list ++ rest).takeWhile p = list.takeWhile p := by
  induction list with
  | nil =>
      cases rest with
      | nil => rfl
      | cons a rest => exact List.takeWhile_cons_of_neg (by simp [h a List.mem_cons_self])
  | cons a list ih =>
      rw [List.cons_append, List.takeWhile_cons, List.takeWhile_cons, ih]

/-- What is left begins with an element that does not qualify. -/
theorem not_of_drop_while {α : Type} {p : α → Bool} {list rest : List α} {a : α}
    (h : list.dropWhile p = a :: rest) : p a = false := by
  have hhead := List.head_dropWhile_not (p := p) (l := list) (by simp [h])
  simpa [h] using hhead

/-- The first word of a text that begins with one is not changed by trimming. -/
theorem trim_take_while {c : Char} {text : List Char} (hc : isWhiteSpace c = false) :
    ∃ rest, trim (c :: text) = c :: rest ∧
      (trim (c :: text)).takeWhile (fun c => !isWhiteSpace c) =
        (c :: text).takeWhile fun c => !isWhiteSpace c := by
  obtain ⟨front, back, heq, hfront, hback⟩ := exists_trim (c :: text)
  have hnil : front = [] := by
    cases front with
    | nil => rfl
    | cons a front =>
        obtain ⟨rfl, -⟩ := List.cons.inj heq
        rw [hfront c List.mem_cons_self] at hc
        cases hc
  subst hnil
  rw [List.nil_append] at heq
  have htake := @take_while_append_of_all _ (fun c => !isWhiteSpace c) (trim (c :: text)) back
    fun a ha => by simp [hback a ha]
  rw [← heq] at htake
  refine ⟨(trim (c :: text)).tail, ?_, htake.symm⟩
  cases htrim : trim (c :: text) with
  | nil =>
      rw [htrim, List.nil_append] at heq
      rw [hback c (heq ▸ List.mem_cons_self)] at hc
      cases hc
  | cons a rest =>
      rw [htrim] at heq
      obtain ⟨rfl, -⟩ := List.cons.inj heq
      rfl

/-- The first word between white space. -/
theorem head_split_whitespace (text : List Char) :
    (splitWhitespace text).headD [] =
      (text.dropWhile isWhiteSpace).takeWhile fun c => !isWhiteSpace c := by
  have hhead : ∀ text : List Char, ∃ rest, text.splitOnP isWhiteSpace =
      text.takeWhile (fun c => !isWhiteSpace c) :: rest := by
    intro text
    induction text with
    | nil => exact ⟨[], rfl⟩
    | cons c text ih =>
        obtain ⟨rest, hrest⟩ := ih
        rw [List.splitOnP_cons_eq_if_modifyHead]
        cases hc : isWhiteSpace c with
        | true => exact ⟨_, by rw [if_pos rfl, List.takeWhile_cons_of_neg (by simp [hc])]⟩
        | false =>
            refine ⟨rest, ?_⟩
            rw [if_neg (by simp), hrest, List.takeWhile_cons_of_pos (by simp [hc])]
            rfl
  induction text with
  | nil => rfl
  | cons c text ih =>
      cases hc : isWhiteSpace c with
      | true =>
          rw [List.dropWhile_cons_of_pos hc, ← ih, splitWhitespace,
            List.splitOnP_cons_eq_if_modifyHead, if_pos hc, splitWhitespace]
          rfl
      | false =>
          obtain ⟨rest, hrest⟩ := hhead (c :: text)
          rw [List.dropWhile_cons_of_neg (by simp [hc]), splitWhitespace, hrest,
            List.takeWhile_cons_of_pos (by simp [hc])]
          rfl

/-! ## What the check accepts -/

theorem isSeparator_of_white {c : Char} (h : isWhiteSpace c = true) : isSeparator c = true := by
  simp [isSeparator, h]

theorem one_piece_cons {c : Char} {text : List Char} (hc : isSeparator c = true) :
    OnePiece (c :: text) ↔ OnePiece text := by
  constructor
  · intro h before after heq
    have hcons := h (c :: before) after (by rw [heq]; rfl)
    rwa [List.all_cons, hc, Bool.true_and] at hcons
  · intro h before after heq
    cases before with
    | nil => exact Or.inl rfl
    | cons head before =>
        obtain ⟨rfl, htext⟩ := List.cons.inj heq
        rw [List.all_cons, hc, Bool.true_and]
        exact h before after htext

theorem one_piece_drop_while {p : Char → Bool} (hp : ∀ c, p c = true → isSeparator c = true)
    (text : List Char) : OnePiece (text.dropWhile p) ↔ OnePiece text := by
  induction text with
  | nil => exact Iff.rfl
  | cons c text ih =>
      cases hc : p c with
      | true => rw [List.dropWhile_cons_of_pos hc, ih, one_piece_cons (hp c hc)]
      | false => rw [List.dropWhile_cons_of_neg (by simp [hc])]

theorem one_piece_reverse (text : List Char) : OnePiece text.reverse ↔ OnePiece text := by
  have himp : ∀ text : List Char, OnePiece text → OnePiece text.reverse := by
    intro text h before after heq
    have hsplit : text = after.reverse ++ ';' :: before.reverse := by
      rw [← List.reverse_reverse text, heq]
      simp
    cases h _ _ hsplit with
    | inl hafter => exact Or.inr (by simpa using hafter)
    | inr hbefore => exact Or.inl (by simpa using hbefore)
  refine ⟨fun h => ?_, himp text⟩
  rw [← List.reverse_reverse text]
  exact himp _ h

theorem one_piece_trim (text : List Char) : OnePiece (trim text) ↔ OnePiece text := by
  have hp : ∀ c, isWhiteSpace c = true → isSeparator c = true := fun _ => isSeparator_of_white
  rw [trim, one_piece_reverse, one_piece_drop_while hp, one_piece_reverse, one_piece_drop_while hp]

theorem first_word_trim (text : List Char) : firstWord (trim text) = firstWord text := by
  obtain ⟨front, back, heq, hfront, hback⟩ := exists_trim text
  have hsep : ∀ c ∈ back, (!isSeparator c) = false := fun c hc => by
    rw [isSeparator_of_white (hback c hc)]
    rfl
  generalize trim text = inner at heq ⊢
  subst heq
  unfold firstWord
  rw [List.append_assoc, List.dropWhile_append_of_pos fun c hc =>
    isSeparator_of_white (hfront c hc), List.dropWhile_append]
  split
  · rename_i hempty
    rw [List.isEmpty_iff.1 hempty]
    have hnil : back.dropWhile isSeparator = [] :=
      List.dropWhile_eq_nil_iff.2 fun c hc => isSeparator_of_white (hback c hc)
    rw [hnil]
  · rw [take_while_append_of_all hsep]

/-- A text behind its first separators has the same pieces. -/
theorem pieces_drop_while (text : List Char) :
    pieces (text.dropWhile isSeparator) = pieces text := by
  induction text with
  | nil => rfl
  | cons c text ih =>
      cases hc : isSeparator c with
      | false => rw [List.dropWhile_cons_of_neg (by simp [hc])]
      | true =>
          rw [List.dropWhile_cons_of_pos hc, ih]
          unfold pieces
          rw [List.splitOn_eq_splitOnP, List.splitOn_eq_splitOnP,
            List.splitOnP_cons_eq_if_modifyHead]
          split
          · rfl
          · rename_i hsemicolon
            have hwhite : isWhiteSpace c = true := by simpa [isSeparator, hsemicolon] using hc
            obtain ⟨head, rest, hsplit⟩ := List.exists_cons_of_ne_nil
              (List.splitOnP_ne_nil (· == ';') text)
            rw [hsplit, List.modifyHead_cons, List.map_cons, List.map_cons]
            have htrim : trim (c :: head) = trim head := by
              rw [trim, trim, List.dropWhile_cons_of_pos hwhite]
            rw [htrim]

/-- The pieces of a text that does not begin with a separator: the part up to the first semicolon,
and the pieces behind it. -/
theorem pieces_cons {c : Char} {text : List Char} (hc : isSeparator c = false) :
    pieces (c :: text) = trim ((c :: text).takeWhile (· != ';')) ::
      pieces ((c :: text).dropWhile (· != ';')) := by
  have hsemicolon : (c != ';') = true := by
    rw [isSeparator, Bool.or_eq_false_iff] at hc
    rw [bne, hc.2, Bool.not_false]
  have hwhite : isWhiteSpace c = false := (Bool.or_eq_false_iff.1 hc).1
  have hmem : ';' ∉ (c :: text).takeWhile (· != ';') := fun h => by
    simpa using List.mem_takeWhile_imp h
  have htrim : (trim ((c :: text).takeWhile (· != ';'))).isEmpty = false := by
    rw [@List.takeWhile_cons_of_pos _ (· != ';') _ _ hsemicolon]
    obtain ⟨rest, heq, -⟩ := @trim_take_while c (text.takeWhile (· != ';')) hwhite
    rw [heq]
    rfl
  have happend := List.takeWhile_append_dropWhile (p := (· != ';')) (l := c :: text)
  generalize (c :: text).takeWhile (· != ';') = first at happend hmem htrim ⊢
  cases hrest : (c :: text).dropWhile (· != ';') with
  | nil =>
      rw [hrest, List.append_nil] at happend
      rw [pieces, ← happend, List.splitOn_eq_singleton hmem, List.map_singleton,
        List.filter_cons_of_pos (by simp [htrim])]
      rfl
  | cons head rest =>
      have hhead : head = ';' := by simpa using not_of_drop_while hrest
      rw [hrest, hhead] at happend
      have hpieces : pieces (';' :: rest) = pieces rest := by
        rw [← pieces_drop_while, List.dropWhile_cons_of_pos (by decide), pieces_drop_while]
      rw [hhead, hpieces, pieces, ← happend, List.splitOn_append_cons_self_of_not_mem hmem,
        List.map_cons, List.filter_cons_of_pos (by simp [htrim])]
      rfl

theorem pieces_eq_nil_iff (text : List Char) :
    pieces text = [] ↔ text.all isSeparator = true := by
  rw [← pieces_drop_while]
  cases hdrop : text.dropWhile isSeparator with
  | nil => exact ⟨fun _ => List.all_eq_true.2 (List.dropWhile_eq_nil_iff.1 hdrop), fun _ => rfl⟩
  | cons c rest =>
      have hc : isSeparator c = false := not_of_drop_while hdrop
      rw [pieces_cons hc]
      refine iff_of_false (List.cons_ne_nil _ _) fun h => ?_
      rw [List.dropWhile_eq_nil_iff.2 (List.all_eq_true.1 h)] at hdrop
      cases hdrop

/-- A text that does not begin with a separator is one piece if only separators follow its first
semicolon. -/
theorem one_piece_iff {c : Char} {text : List Char} (hc : isSeparator c = false) :
    OnePiece (c :: text) ↔ ((c :: text).dropWhile (· != ';')).all isSeparator = true := by
  constructor
  · intro h
    cases hrest : (c :: text).dropWhile (· != ';') with
    | nil => rfl
    | cons head rest =>
        have hhead : head = ';' := by simpa using not_of_drop_while hrest
        have happend := List.takeWhile_append_dropWhile (p := (· != ';')) (l := c :: text)
        rw [hrest, hhead] at happend
        cases h _ _ happend.symm with
        | inr hafter => rw [hhead, List.all_cons, hafter]; rfl
        | inl hbefore =>
            have hne : (c != ';') = true := by
              rw [bne, (Bool.or_eq_false_iff.1 hc).2, Bool.not_false]
            rw [@List.takeWhile_cons_of_pos _ (· != ';') _ _ hne, List.all_cons, hc] at hbefore
            cases hbefore
  · intro h before after heq
    refine Or.inr (List.all_eq_true.2 fun a ha => List.all_eq_true.1 h a ?_)
    rw [heq, List.dropWhile_append]
    split
    · rw [List.dropWhile_cons_of_neg (by simp)]
      exact List.mem_cons_of_mem _ ha
    · exact List.mem_append_right _ (List.mem_cons_of_mem _ ha)

/-- Upper case keeps the first word. -/
theorem text_take_while (case : Uppercase) (text : List Char) :
    (case.text text).takeWhile (fun c => !isWhiteSpace c) =
      case.text (text.takeWhile fun c => !isWhiteSpace c) := by
  induction text with
  | nil => rfl
  | cons c text ih =>
      rw [Uppercase.text, List.flatMap_cons]
      cases hc : isWhiteSpace c with
      | true =>
          rw [case.keepsWhiteSpace c hc, List.takeWhile_cons_of_neg (by simp [hc])]
          exact List.takeWhile_cons_of_neg (by simp [hc])
      | false =>
          rw [List.takeWhile_cons_of_pos (by simp [hc]), List.takeWhile_append_of_pos fun u hu => by
            rw [(case.keepsOthers c hc).2 u hu, Bool.not_false]]
          exact congrArg (case.upper c ++ ·) ih

/-- The first word of a piece in upper case is that of the text. -/
theorem first_word_piece (case : Uppercase) {c : Char} {text : List Char}
    (hc : isSeparator c = false) :
    (splitWhitespace (case.text (trim ((c :: text).takeWhile (· != ';'))))).headD [] =
      case.text (firstWord (c :: text)) := by
  obtain ⟨hwhite, hsemicolon⟩ := Bool.or_eq_false_iff.1 hc
  have hword : firstWord (c :: text) = ((c :: text).takeWhile (· != ';')).takeWhile
      fun c => !isWhiteSpace c := by
    rw [firstWord, List.dropWhile_cons_of_neg (by simp [hc]), List.takeWhile_takeWhile]
    congr 1
    funext a
    rw [Bool.decide_and, Bool.decide_eq_true, Bool.decide_eq_true, isSeparator, Bool.not_or]
    rfl
  rw [List.takeWhile_cons_of_pos (by rw [bne, hsemicolon, Bool.not_false])] at hword ⊢
  obtain ⟨rest, htrim, htake⟩ := @trim_take_while c (text.takeWhile (· != ';')) hwhite
  have hdrop : (case.text (trim (c :: text.takeWhile (· != ';')))).dropWhile isWhiteSpace =
      case.text (trim (c :: text.takeWhile (· != ';'))) := by
    rw [htrim, Uppercase.text, List.flatMap_cons]
    obtain ⟨hne, hall⟩ := case.keepsOthers c hwhite
    obtain ⟨u, us, hu⟩ := List.exists_cons_of_ne_nil hne
    rw [hu, List.cons_append, List.dropWhile_cons_of_neg (by simp [hall u (by simp [hu])])]
  rw [head_split_whitespace, hdrop, text_take_while, htake, ← hword]

/-- The check accepts a text that is one piece and whose first word it knows. -/
theorem isSelectOnly_iff (case : Uppercase) (sql : List Char) :
    isSelectOnly case sql = true ↔
      OnePiece sql ∧ case.text (firstWord sql) ∈ acceptedWords := by
  rw [← one_piece_trim sql, ← first_word_trim sql, isSelectOnly]
  generalize trim sql = text
  have hone := one_piece_drop_while (fun _ h => h) text
  have hword : firstWord text = firstWord (text.dropWhile isSeparator) := by
    rw [firstWord, firstWord]
    exact congrArg _ (List.dropWhile_idempotent isSeparator text).symm
  rw [← hone, hword, ← pieces_drop_while]
  have hempty : text.isEmpty = true → text.dropWhile isSeparator = [] := fun h => by
    rw [List.isEmpty_iff.1 h]
    rfl
  generalize hrest : text.dropWhile isSeparator = rest at hempty ⊢
  have hnil : [] ∉ acceptedWords := by decide
  cases rest with
  | nil =>
      refine iff_of_false ?_ fun h => hnil h.2
      split
      · exact Bool.false_ne_true
      · exact Bool.false_ne_true
  | cons c rest =>
      have hc : isSeparator c = false := not_of_drop_while hrest
      rw [if_neg fun h => List.cons_ne_nil c rest (hempty h), pieces_cons hc, one_piece_iff hc,
        ← pieces_eq_nil_iff, ← first_word_piece case hc]
      cases pieces ((c :: rest).dropWhile (· != ';')) with
      | nil => simp
      | cons second others => simp

/-! ## Queries of SQLite -/

/-- A character of the neutral text. -/
def placeholder (c : Char × Bool) : Char := if c.2 then '_' else c.1

/-- The text with a placeholder for each character of a string literal or a comment. -/
def neutral (sql : List Lexeme) : List Char := (marked sql).map placeholder

/-- The text is a `WITH` clause in front of a statement that changes rows, and no semicolon,
not even one in a literal, stands between two of its words. -/
def ChangesBehindWith (case : Uppercase) (sql : List Lexeme) : Prop :=
  OnePiece (text sql) ∧ case.text (firstWord (text sql)) = "WITH".toList ∧
    ∃ statement, statements sql = [statement] ∧
      firstKeyword statement = some "WITH".toList ∧
      ∃ keyword ∈ changingVerbs, verb statement = some keyword.toList

/-- The text is a single `SELECT` whose first word stands alone, and it has a semicolon in a
literal or a comment with more behind it than separators. -/
def HidesSemicolon (case : Uppercase) (sql : List Lexeme) : Prop :=
  (∃ statement, statements sql = [statement] ∧ verb statement = some "SELECT".toList) ∧
    OnePiece (neutral sql) ∧ case.text (firstWord (neutral sql)) ∈ acceptedWords ∧
    ∃ before after, marked sql = before ++ (';', true) :: after ∧
      (after.map Prod.fst).all isSeparator = false

/-! ## Hidden characters -/

theorem first_word_cons_separator {c : Char} {text : List Char} (hc : isSeparator c = true) :
    firstWord (c :: text) = firstWord text := by
  rw [firstWord, firstWord, List.dropWhile_cons_of_pos hc]

theorem first_word_cons {c : Char} {text : List Char} (hc : isSeparator c = false) :
    firstWord (c :: text) = c :: text.takeWhile fun c => !isSeparator c := by
  rw [firstWord, List.dropWhile_cons_of_neg (by simp [hc]),
    List.takeWhile_cons_of_pos (by simp [hc])]

/-- A text that begins with part of a word. -/
theorem first_word_append {word rest : List Char} (hne : word ≠ [])
    (hword : ∀ c ∈ word, isSeparator c = false) :
    firstWord (word ++ rest) = word ++ rest.takeWhile fun c => !isSeparator c := by
  obtain ⟨c, word, rfl⟩ := List.exists_cons_of_ne_nil hne
  rw [List.cons_append, first_word_cons (hword c List.mem_cons_self),
    List.takeWhile_append_of_pos fun a ha => by
      rw [hword a (List.mem_cons_of_mem _ ha), Bool.not_false]]
  rfl

/-- A first word without placeholders is a first word of the text itself. -/
theorem first_word_neutral (chars : List (Char × Bool))
    (h : '_' ∉ firstWord (chars.map placeholder)) :
    firstWord (chars.map Prod.fst) = firstWord (chars.map placeholder) := by
  have htake : ∀ chars : List (Char × Bool),
      '_' ∉ (chars.map placeholder).takeWhile (fun c => !isSeparator c) →
      (chars.map Prod.fst).takeWhile (fun c => !isSeparator c) =
        (chars.map placeholder).takeWhile fun c => !isSeparator c := by
    intro chars h
    induction chars with
    | nil => rfl
    | cons head chars ih =>
        obtain ⟨c, isHidden⟩ := head
        cases isHidden with
        | true => exact absurd List.mem_cons_self h
        | false =>
            rw [List.map_cons, List.map_cons, List.takeWhile_cons, List.takeWhile_cons]
            have hplace : placeholder (c, false) = c := rfl
            rw [List.map_cons, List.takeWhile_cons, hplace] at h
            rw [hplace]
            split
            · rename_i hc
              rw [if_pos hc] at h
              rw [ih fun hmem => h (List.mem_cons_of_mem _ hmem)]
            · rfl
  induction chars with
  | nil => rfl
  | cons head chars ih =>
      obtain ⟨c, isHidden⟩ := head
      cases isHidden with
      | true => exact absurd List.mem_cons_self h
      | false =>
          cases hc : isSeparator c with
          | true =>
              have hplain : firstWord (c :: chars.map placeholder) =
                firstWord (chars.map placeholder) := first_word_cons_separator hc
              exact (first_word_cons_separator hc).trans
                ((ih (hplain ▸ h)).trans hplain.symm)
          | false =>
              have hplain : firstWord (c :: chars.map placeholder) = _ := first_word_cons hc
              have hmem : '_' ∉ firstWord (c :: chars.map placeholder) := h
              rw [hplain] at hmem
              exact (first_word_cons hc).trans ((congrArg (c :: ·) (htake chars fun hin =>
                hmem (List.mem_cons_of_mem _ hin))).trans hplain.symm)

/-- Where the neutral text has only separators, so has the text. -/
theorem all_of_neutral {chars : List (Char × Bool)}
    (h : (chars.map placeholder).all isSeparator = true) :
    (chars.map Prod.fst).all isSeparator = true := by
  refine List.all_eq_true.2 fun c hc => ?_
  obtain ⟨⟨_, isHidden⟩, hmem, rfl⟩ := List.mem_map.1 hc
  have hplace := List.all_eq_true.1 h _ (List.mem_map_of_mem hmem)
  cases isHidden with
  | false => exact hplace
  | true =>
      have hnot : isSeparator '_' = true := hplace
      exact absurd hnot (by decide)

/-- If only separators follow each hidden semicolon, the text is one piece if the neutral text
is. -/
theorem one_piece_of_neutral {chars : List (Char × Bool)}
    (hneutral : OnePiece (chars.map placeholder))
    (hhidden : ∀ before after, chars = before ++ (';', true) :: after →
      (after.map Prod.fst).all isSeparator = true) :
    OnePiece (chars.map Prod.fst) := by
  intro before after heq
  obtain ⟨front, back, rfl, rfl, hback⟩ := List.map_eq_append_iff.1 heq
  obtain ⟨⟨c, isHidden⟩, rest, rfl, hc, rfl⟩ := List.map_eq_cons_iff.1 hback
  obtain rfl : c = ';' := hc
  cases isHidden with
  | true => exact Or.inr (hhidden front rest rfl)
  | false =>
      have hsplit : (front ++ (';', false) :: rest).map placeholder =
          front.map placeholder ++ ';' :: rest.map placeholder := by
        rw [List.map_append, List.map_cons]
        rfl
      cases hneutral _ _ hsplit with
      | inl hfront => exact Or.inl (all_of_neutral hfront)
      | inr hrest => exact Or.inr (all_of_neutral hrest)

theorem isWhiteSpace_of_letter {c : Char} (h : 65 ≤ c.toNat ∧ c.toNat ≤ 122) :
    isWhiteSpace c = false := by
  simp only [isWhiteSpace, Bool.or_eq_false_iff, Bool.and_eq_false_iff, decide_eq_false_iff_not,
    List.contains_cons, List.contains_nil, beq_eq_false_iff_ne, and_true]
  omega

/-- Only small letters have another upper case, and that is a letter. -/
theorem toUpper_cases (c : Char) :
    c.toUpper = c ∨
      (97 ≤ c.toNat ∧ c.toNat ≤ 122 ∧ 65 ≤ c.toUpper.toNat ∧ c.toUpper.toNat ≤ 90) := by
  unfold Char.toUpper
  split
  · rename_i hlower
    have hlow : 97 ≤ c.val.toNat := UInt32.le_iff_toNat_le.1 hlower.1
    have hhigh : c.val.toNat ≤ 122 := UInt32.le_iff_toNat_le.1 hlower.2
    have hval : (c.val + ('A'.val - 'a'.val)).toNat = (c.val.toNat + 4294967264) % 4294967296 :=
      UInt32.toNat_add _ _
    refine Or.inr ⟨hlow, hhigh, ?_, ?_⟩
    · show 65 ≤ (c.val + ('A'.val - 'a'.val)).toNat
      omega
    · show (c.val + ('A'.val - 'a'.val)).toNat ≤ 90
      omega
  · exact Or.inl rfl

theorem ascii_of_upper {c : Char} (h : c.toUpper.isUpper = true) :
    c.toNat < 128 ∧ isSeparator c = false := by
  have hletter : 65 ≤ c.toNat ∧ c.toNat ≤ 122 := by
    cases toUpper_cases c with
    | inr hlower => omega
    | inl hsame =>
        rw [hsame] at h
        unfold Char.isUpper at h
        simp only [ge_iff_le, decide_eq_true_eq, UInt32.le_iff_toNat_le] at h
        exact ⟨h.1, Nat.le_trans h.2 (by decide)⟩
  have hsemicolon : c ≠ ';' := by
    rintro rfl
    exact absurd hletter (by decide)
  exact ⟨by omega, Bool.or_eq_false_iff.2
    ⟨isWhiteSpace_of_letter hletter, beq_eq_false_iff_ne.2 hsemicolon⟩⟩

/-- A first word that the check accepts has no placeholder. -/
theorem not_mem_of_accepted {case : Uppercase} {word : List Char}
    (h : case.text word ∈ acceptedWords) : '_' ∉ word := by
  intro hmem
  have hupper : '_' ∈ case.text word :=
    List.mem_flatMap.2 ⟨'_', hmem, by rw [case.ascii '_' (by decide)]; decide⟩
  have hnone : ∀ accepted ∈ acceptedWords, '_' ∉ accepted := by decide
  exact hnone _ h hupper

/-- A single `SELECT` is admitted if its literals and comments hide no semicolon. -/
theorem complete_iff (case : Uppercase) (sql : List Lexeme) :
    (∀ statement, statements sql = [statement] → verb statement = some "SELECT".toList →
      isSelectOnly case (neutral sql) = true → isSelectOnly case (text sql) = true) ↔
    ¬HidesSemicolon case sql := by
  constructor
  · rintro hcomplete ⟨⟨statement, hone, hverb⟩, hneutral, hword, before, after, hmarked, hafter⟩
    have hadmitted := hcomplete statement hone hverb ((isSelectOnly_iff _ _).2 ⟨hneutral, hword⟩)
    have hsplit : text sql = before.map Prod.fst ++ ';' :: after.map Prod.fst := by
      rw [text, hmarked, List.map_append]
      rfl
    cases ((isSelectOnly_iff _ _).1 hadmitted).1 _ _ hsplit with
    | inr hall => exact absurd (hafter.symm.trans hall) (by decide)
    | inl hall =>
        obtain ⟨mark, hmark, hmem⟩ := mark_before_hidden hmarked
        have hsep := List.all_eq_true.1 hall mark (List.mem_map_of_mem (f := Prod.fst) hmem)
        have hnone : (openingMarks.any isSeparator) = false := by decide
        exact List.any_eq_false.1 hnone mark hmark hsep
  · intro hhides statement hone hverb hadmitted
    obtain ⟨hneutral, hword⟩ := (isSelectOnly_iff _ _).1 hadmitted
    refine (isSelectOnly_iff _ _).2
      ⟨one_piece_of_neutral hneutral fun before after hmarked => ?_, ?_⟩
    · by_contra hafter
      exact hhides ⟨⟨statement, hone, hverb⟩, hneutral, hword, before, after, hmarked,
        Bool.eq_false_iff.2 hafter⟩
    · rw [text, first_word_neutral _ (not_mem_of_accepted hword)]
      exact hword

/-! ## Statements that the check admits -/

/-- A keyword as it stands in the text. -/
theorem keyword_chars (case : Uppercase) {chars : List Char} {keyword : String}
    (hkeyword : keyword ∈ statementKeywords) (hchars : chars.map Char.toUpper = keyword.toList) :
    (∀ c ∈ chars, isSeparator c = false) ∧ case.text chars = keyword.toList := by
  have hupper : (statementKeywords.all fun keyword => keyword.toList.all Char.isUpper) = true := by
    decide
  have hall : ∀ c ∈ chars, c.toNat < 128 ∧ isSeparator c = false := fun c hc => by
    have hkeywordUpper := List.all_eq_true.1 hupper keyword hkeyword
    exact ascii_of_upper (List.all_eq_true.1 hkeywordUpper _ (hchars ▸ List.mem_map_of_mem hc))
  refine ⟨fun c hc => (hall c hc).2, ?_⟩
  have htext : ∀ chars : List Char, (∀ c ∈ chars, c.toNat < 128) →
      case.text chars = chars.map Char.toUpper := by
    intro chars h
    induction chars with
    | nil => rfl
    | cons c chars ih =>
        have hrest := ih fun a ha => h a (List.mem_cons_of_mem _ ha)
        rw [Uppercase.text] at hrest ⊢
        rw [List.flatMap_cons, case.ascii c (h c List.mem_cons_self), hrest]
        rfl
  rw [htext chars fun c hc => (hall c hc).1, hchars]

/-- A statement that is parsed begins with a keyword. -/
theorem exists_keyword {engine : Engine} {statement : List Lexeme}
    (h : engine.parses statement) :
    ∃ chars identifier rest, ∃ keyword ∈ statementKeywords,
      statement = .word chars identifier :: rest ∧ chars.map Char.toUpper = keyword.toList ∧
        firstKeyword statement = some keyword.toList := by
  obtain ⟨keyword, hkeyword, hfirst⟩ := engine.parses_keyword statement h
  have hhead := hfirst
  rw [firstKeyword] at hhead
  cases statement with
  | nil => cases hhead
  | cons lexeme rest =>
      cases lexeme with
      | word chars identifier =>
          exact ⟨chars, identifier, rest, keyword, hkeyword, rfl, Option.some.inj hhead, hfirst⟩
      | space chars blank => cases hhead
      | literal contents => cases hhead
      | quoted quote contents => cases hhead
      | lineComment contents line ended => cases hhead
      | blockComment contents ended => cases hhead
      | semicolon => cases hhead
      | symbol c => cases hhead

/-- Lexemes that contain a statement have more than separators. -/
theorem text_of_statement {engine : Engine} {statement lexemes : List Lexeme} (case : Uppercase)
    (h : engine.parses statement) (hsub : statement ⊆ lexemes) :
    (text lexemes).all isSeparator = false := by
  obtain ⟨chars, identifier, rest, keyword, hkeyword, rfl, hchars, -⟩ := exists_keyword h
  obtain ⟨hall, htext⟩ := keyword_chars case hkeyword hchars
  cases chars with
  | nil =>
      have hne : ∀ keyword ∈ statementKeywords, [] ≠ keyword.toList := by decide
      exact absurd htext (hne keyword hkeyword)
  | cons c chars =>
      refine Bool.eq_false_iff.2 fun hsep => ?_
      have hmem : c ∈ text lexemes := by
        refine List.mem_map.2 ⟨(c, false), ?_, rfl⟩
        exact List.mem_flatMap.2 ⟨_, hsub List.mem_cons_self, List.mem_cons_self⟩
      have hc := List.all_eq_true.1 hsep c hmem
      rw [hall c List.mem_cons_self] at hc
      cases hc

theorem isSeparator_of_blank {c : Char} (h : isBlank c = true) : isSeparator c = true := by
  refine isSeparator_of_white ?_
  simp only [isBlank, List.contains_cons, List.contains_nil, Bool.or_eq_true, beq_iff_eq,
    Bool.or_false] at h
  simp only [isWhiteSpace, Bool.or_eq_true, Bool.and_eq_true, decide_eq_true_eq,
    List.contains_cons, beq_iff_eq]
  omega

/-- White space and semicolons as lexemes. -/
def separates : Lexeme → Bool
  | .space _ _ | .semicolon => true
  | .word _ _ | .literal _ | .quoted _ _ | .lineComment _ _ _ | .blockComment _ _
  | .symbol _ => false

theorem all_of_separates {lexeme : Lexeme} (h : separates lexeme = true) :
    lexeme.significant = false ∧ (text [lexeme]).all isSeparator = true := by
  cases lexeme with
  | semicolon => exact ⟨rfl, rfl⟩
  | space chars blank =>
      refine ⟨rfl, List.all_eq_true.2 fun c hc => isSeparator_of_blank ?_⟩
      have hmem : c ∈ chars := by simpa [text, marked, Lexeme.marked, visible] using hc
      exact List.all_eq_true.1 blank c hmem
  | word chars identifier => cases h
  | literal contents => cases h
  | quoted quote contents => cases h
  | lineComment contents line ended => cases h
  | blockComment contents ended => cases h
  | symbol c => cases h

/-- The marks that begin a comment. -/
def commentMarks : List Char := ['-', '/']

/-- A lexeme that is no separator is part of a statement or a comment. -/
theorem significant_or_comment {lexeme : Lexeme} (h : separates lexeme = false) :
    lexeme.significant = true ∨ ∃ mark ∈ commentMarks, ∃ chars, text [lexeme] = mark :: chars := by
  cases lexeme with
  | lineComment contents line ended => exact Or.inr ⟨'-', by decide, _, rfl⟩
  | blockComment contents ended => exact Or.inr ⟨'/', by decide, _, rfl⟩
  | word chars identifier => exact Or.inl rfl
  | literal contents => exact Or.inl rfl
  | quoted quote contents => exact Or.inl rfl
  | symbol c => exact Or.inl rfl
  | space chars blank => cases h
  | semicolon => cases h

theorem text_all_separates {lexemes : List Lexeme} (h : ∀ l ∈ lexemes, separates l = true) :
    (text lexemes).all isSeparator = true := by
  induction lexemes with
  | nil => rfl
  | cons head lexemes ih =>
      have happend : text (head :: lexemes) = text [head] ++ text lexemes :=
        text_append [head] lexemes
      rw [happend, List.all_append, (all_of_separates (h head List.mem_cons_self)).2,
        ih fun l hl => h l (List.mem_cons_of_mem _ hl)]
      rfl

/-- The first word of a text is that of its lexemes behind the first separators. -/
theorem first_word_drop_while (sql : List Lexeme) :
    firstWord (text (sql.dropWhile separates)) = firstWord (text sql) := by
  have happend : text sql = text (sql.takeWhile separates) ++ text (sql.dropWhile separates) := by
    rw [← text_append, List.takeWhile_append_dropWhile]
  have hall := text_all_separates fun l hl => List.mem_takeWhile_imp (p := separates) (l := sql) hl
  rw [happend]
  unfold firstWord
  rw [List.dropWhile_append_of_pos (List.all_eq_true.1 hall)]

theorem statements_drop_while (sql : List Lexeme) :
    statements (sql.dropWhile separates) = statements sql := by
  have hskip := @statements_skip (sql.takeWhile separates)
    (fun l hl => (all_of_separates (List.mem_takeWhile_imp hl)).1) (sql.dropWhile separates)
  rw [List.takeWhile_append_dropWhile] at hskip
  exact hskip.symm

/-- A text that begins with a comment has no first word that the check knows. -/
theorem not_accepted_of_comment {case : Uppercase} {mark : Char} {chars : List Char}
    (hmark : mark ∈ commentMarks) :
    case.text (firstWord (mark :: chars)) ∉ acceptedWords := by
  have hmarks : (commentMarks.all fun mark => !isSeparator mark && mark.toNat < 128) = true := by
    decide
  have hplain := List.all_eq_true.1 hmarks mark hmark
  rw [Bool.and_eq_true, Bool.not_eq_true', decide_eq_true_eq] at hplain
  obtain ⟨hsep, hascii⟩ := hplain
  rw [first_word_cons hsep, Uppercase.text, List.flatMap_cons, case.ascii mark hascii]
  intro h
  have hheads : ∀ word ∈ acceptedWords, word.head? ∉ commentMarks.map fun mark =>
      some mark.toUpper := by decide
  exact hheads _ h (List.mem_map_of_mem (f := fun mark => some mark.toUpper) hmark)

/-- What the check admits is one statement, and its first keyword is the word that it knows. -/
theorem statement_of_admitted {engine : Engine} {case : Uppercase} {sql : List Lexeme}
    (hparses : engine.Parses sql) (hone : OnePiece (text sql))
    (hword : case.text (firstWord (text sql)) ∈ acceptedWords) :
    ∃ statement, statements sql = [statement] ∧ engine.parses statement ∧
      firstKeyword statement = some (case.text (firstWord (text sql))) := by
  have hdrop := statements_drop_while sql
  rw [← first_word_drop_while] at hword ⊢
  cases hrest : sql.dropWhile separates with
  | nil =>
      rw [hrest] at hword
      have hnil : [] ∉ acceptedWords := by decide
      exact absurd hword hnil
  | cons head tail =>
      rw [hrest] at hdrop hword
      have happend : text (head :: tail) = text [head] ++ text tail := text_append [head] tail
      cases significant_or_comment (not_of_drop_while hrest) with
      | inr hcomment =>
          obtain ⟨mark, hmark, chars, hchars⟩ := hcomment
          rw [happend, hchars] at hword
          exact absurd hword (not_accepted_of_comment hmark)
      | inl hsignificant =>
          obtain ⟨more, others, hstatements⟩ := statements_cons hsignificant tail
          rw [hstatements] at hdrop
          have hfirst : engine.parses (head :: more) :=
            hparses _ (hdrop ▸ List.mem_cons_self)
          obtain ⟨chars, identifier, _, keyword, hkeyword, heq, hchars, hkey⟩ :=
            exists_keyword hfirst
          obtain ⟨rfl, -⟩ := List.cons.inj heq
          obtain ⟨hall, htext⟩ := keyword_chars case hkeyword hchars
          have hne : chars ≠ [] := by
            rintro rfl
            have hnone : ∀ keyword ∈ statementKeywords, [] ≠ keyword.toList := by decide
            exact hnone keyword hkeyword htext
          have hword' : case.text (firstWord (text (.word chars identifier :: tail))) =
              keyword.toList := by
            have hchars' : text [.word chars identifier] = chars := by
              simp [text, marked, Lexeme.marked, visible, Function.comp_def]
            rw [happend, hchars', first_word_append hne hall, Uppercase.text,
              List.flatMap_append] at hword ⊢
            have hprefix : ∀ keyword ∈ statementKeywords, ∀ word ∈ acceptedWords,
                keyword.toList <+: word → word = keyword.toList := by decide
            refine hprefix keyword hkeyword _ hword ?_
            rw [← htext]
            exact List.prefix_append _ _
          refine ⟨.word chars identifier :: more, ?_, hfirst, by rw [hword', hkey]⟩
          cases others with
          | nil => exact hdrop.symm
          | cons second others =>
              obtain ⟨before, after, rfl, hbefore, hafter⟩ := semicolon_between hdrop.symm
              have hsecond : engine.parses second :=
                hparses _ (hdrop ▸ List.mem_cons_of_mem _ List.mem_cons_self)
              have hsplit : text (before ++ .semicolon :: after) =
                  text before ++ ';' :: text after := text_append before (.semicolon :: after)
              have hleft := text_of_statement case hfirst hbefore
              have hright := text_of_statement case hsecond hafter
              cases hone _ _ hsplit with
              | inl h => exact absurd (hleft.symm.trans h) (by decide)
              | inr h => exact absurd (hright.symm.trans h) (by decide)

/-- What the check admits changes no table, unless it changes rows behind a `WITH` clause. -/
theorem sound_iff {engine : Engine} (case : Uppercase) {sql : List Lexeme}
    (hparses : engine.Parses sql) :
    (isSelectOnly case (text sql) = true →
      ∃ statement, statements sql = [statement] ∧ (∀ db, engine.run statement db = db) ∧
        ∀ keyword ∈ changingVerbs, verb statement ≠ some keyword.toList) ↔
    ¬ChangesBehindWith case sql := by
  constructor
  · rintro hsound ⟨hone, hword, statement, hstatement, -, keyword, hkeyword, hverb⟩
    have hadmitted := (isSelectOnly_iff case (text sql)).2 ⟨hone, by rw [hword]; decide⟩
    obtain ⟨other, hother, -, hnone⟩ := hsound hadmitted
    obtain rfl : other = statement := by simpa using hother.symm.trans hstatement
    exact hnone keyword hkeyword hverb
  · intro hchanges hadmitted
    obtain ⟨hone, hword⟩ := (isSelectOnly_iff _ _).1 hadmitted
    obtain ⟨statement, hstatement, hparsed, hfirst⟩ := statement_of_admitted hparses hone hword
    have hreading : ∃ keyword ∈ readingVerbs, verb statement = some keyword.toList := by
      by_cases hwith : case.text (firstWord (text sql)) = "WITH".toList
      · rw [hwith] at hfirst
        obtain ⟨keyword, hkeyword, hverb⟩ := engine.parses_with statement hparsed hfirst
        cases List.mem_append.1 hkeyword with
        | inl hreads => exact ⟨keyword, hreads, hverb⟩
        | inr hchange =>
            exact absurd ⟨hone, hwith, statement, hstatement, hfirst, keyword, hchange, hverb⟩
              hchanges
      · have hverb : verb statement = some (case.text (firstWord (text sql))) := by
          rw [verb, hfirst, if_neg fun h => hwith (Option.some.inj h)]
        have hothers : ∀ word ∈ acceptedWords, word ≠ "WITH".toList →
            ∃ keyword ∈ readingVerbs, word = keyword.toList := by decide
        obtain ⟨keyword, hkeyword, heq⟩ := hothers _ hword hwith
        exact ⟨keyword, hkeyword, by rw [hverb, heq]⟩
    obtain ⟨keyword, hkeyword, hverb⟩ := hreading
    refine ⟨statement, hstatement, engine.run_reading statement keyword hparsed hkeyword hverb,
      fun other hother heq => ?_⟩
    have hdisjoint : ∀ reads ∈ readingVerbs, ∀ changes ∈ changingVerbs,
        reads.toList ≠ changes.toList := by decide
    exact hdisjoint keyword hkeyword other hother (Option.some.inj (hverb.symm.trans heq))

end CorvidNano.Host.SelectOnly
