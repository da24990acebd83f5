import Mathlib.Data.List.Basic

/-!
# The lexical structure of SQL texts

An SQL text for SQLite is a sequence of lexemes. Statements are separated by the semicolons that
are lexemes of their own, and a statement is told by its first keyword, or behind a `WITH` clause
by the keyword that follows the common table expressions.

`Engine` is what the results need of SQLite: which statements it parses, and what it does to the
tables. Each character of a text is marked as hidden if it belongs to the contents of a string
literal or a comment.
-/

namespace CorvidNano.Sql

/-- The white space of SQL. -/
def isBlank (c : Char) : Bool := [0x20, 0x09, 0x0A, 0x0C, 0x0D].contains c.toNat

/-- The characters of identifiers, keywords and numbers. -/
def isIdentifier (c : Char) : Bool := c.isAlphanum || c == '_' || c == '$' || 128 ≤ c.toNat

/-- The marks around a quoted identifier. -/
inductive Quote where
  | double
  | backtick
  | bracket

/-- The opening and the closing mark. -/
def Quote.marks : Quote → Char × Char
  | .double => ('"', '"')
  | .backtick => (Char.ofNat 0x60, Char.ofNat 0x60)
  | .bracket => ('[', ']')

/-- A lexeme. The last comment of a text may lack its end. What stands in double quotes is an
identifier: that SQLite takes it for a string where it names no column is left out. -/
inductive Lexeme where
  | space (chars : List Char) (blank : chars.all isBlank = true)
  | word (chars : List Char) (identifier : chars.all isIdentifier = true)
  | literal (contents : List Char)
  | quoted (quote : Quote) (contents : List Char)
  | lineComment (contents : List Char) (line : '\n' ∉ contents) (ended : Bool)
  | blockComment (contents : List Char) (ended : Bool)
  | semicolon
  | symbol (c : Char)

/-- The contents of a literal or a quoted identifier with the closing mark doubled. -/
def escape (mark : Char) (contents : List Char) : List Char :=
  contents.flatMap fun c => if c = mark then [mark, mark] else [c]

/-- Characters that are not hidden. -/
def visible (chars : List Char) : List (Char × Bool) := chars.map fun c => (c, false)

/-- Characters that are hidden. -/
def hidden (chars : List Char) : List (Char × Bool) := chars.map fun c => (c, true)

/-- The characters of a lexeme, and whether each is hidden. -/
def Lexeme.marked : Lexeme → List (Char × Bool)
  | .space chars _ | .word chars _ => visible chars
  | .literal contents => visible ['\''] ++ hidden (escape '\'' contents) ++ visible ['\'']
  | .quoted quote contents =>
      visible (quote.marks.1 :: escape quote.marks.2 contents ++ [quote.marks.2])
  | .lineComment contents _ ended =>
      visible ['-', '-'] ++ hidden contents ++ visible (if ended then ['\n'] else [])
  | .blockComment contents ended =>
      visible ['/', '*'] ++ hidden contents ++ visible (if ended then ['*', '/'] else [])
  | .semicolon => visible [';']
  | .symbol c => visible [c]

/-- The characters of lexemes. -/
def marked (lexemes : List Lexeme) : List (Char × Bool) := lexemes.flatMap Lexeme.marked

/-- The text of lexemes. -/
def text (lexemes : List Lexeme) : List Char := (marked lexemes).map Prod.fst

/-- The lexeme is part of a statement. -/
def Lexeme.significant : Lexeme → Bool
  | .space _ _ | .lineComment _ _ _ | .blockComment _ _ | .semicolon => false
  | .word _ _ | .literal _ | .quoted _ _ | .symbol _ => true

/-- The lexeme ends a statement. -/
def Lexeme.isSemicolon : Lexeme → Bool
  | .semicolon => true
  | .space _ _ | .lineComment _ _ _ | .blockComment _ _ | .word _ _ | .literal _ | .quoted _ _
  | .symbol _ => false

/-- A statement, if it has lexemes. -/
def emit (current : List Lexeme) : List (List Lexeme) :=
  if current.isEmpty then [] else [current]

/-- The significant lexemes up to each semicolon, if there are any. -/
def statementsFrom (current : List Lexeme) : List Lexeme → List (List Lexeme)
  | [] => emit current
  | lexeme :: rest =>
      if lexeme.isSemicolon then emit current ++ statementsFrom [] rest
      else if lexeme.significant then statementsFrom (current ++ [lexeme]) rest
      else statementsFrom current rest

/-- The statements of a text. -/
def statements (lexemes : List Lexeme) : List (List Lexeme) := statementsFrom [] lexemes

/-- The keyword that a lexeme can be. -/
def Lexeme.keyword? : Lexeme → Option (List Char)
  | .word chars _ => some (chars.map Char.toUpper)
  | _ => none

/-- The keyword that a statement begins with. -/
def firstKeyword (statement : List Lexeme) : Option (List Char) :=
  statement.head?.bind Lexeme.keyword?

/-- The keyword after the common table expressions: the first one outside of parentheses that
directly follows a closing one, other than `AS`, which follows a list of columns. -/
def mainKeyword : Nat → Bool → List Lexeme → Option (List Char)
  | _, _, [] => none
  | depth, closed, lexeme :: rest =>
      match lexeme with
      | .symbol '(' => mainKeyword (depth + 1) false rest
      | .symbol ')' => mainKeyword (depth - 1) true rest
      | .word chars _ =>
          if depth = 0 ∧ closed = true ∧ chars.map Char.toUpper ≠ "AS".toList then
            some (chars.map Char.toUpper)
          else mainKeyword depth false rest
      | _ => mainKeyword depth false rest

/-- The keyword that says what a statement does. -/
def verb (statement : List Lexeme) : Option (List Char) :=
  if firstKeyword statement = some "WITH".toList then mainKeyword 0 false statement
  else firstKeyword statement

/-- The keywords that a statement can begin with. -/
def statementKeywords : List String :=
  ["ALTER", "ANALYZE", "ATTACH", "BEGIN", "COMMIT", "CREATE", "DELETE", "DETACH", "DROP", "END",
    "EXPLAIN", "INSERT", "PRAGMA", "REINDEX", "RELEASE", "REPLACE", "ROLLBACK", "SAVEPOINT",
    "SELECT", "UPDATE", "VACUUM", "VALUES", "WITH"]

/-- The verbs behind a `WITH` clause that change rows. `REPLACE` is a form of `INSERT`. -/
def changingVerbs : List String := ["INSERT", "REPLACE", "UPDATE", "DELETE"]

/-- The verbs of statements that only read. An explained statement is not executed. -/
def readingVerbs : List String := ["SELECT", "VALUES", "EXPLAIN"]

/-- What SQLite documents about its statements: each begins with a keyword, a `WITH` clause is
followed by a statement that reads or changes rows, and statements that only read change no
table. -/
structure Engine where
  Db : Type
  parses : List Lexeme → Prop
  run : List Lexeme → Db → Db
  parses_keyword : ∀ statement, parses statement →
    ∃ keyword ∈ statementKeywords, firstKeyword statement = some keyword.toList
  parses_with : ∀ statement, parses statement → firstKeyword statement = some "WITH".toList →
    ∃ keyword ∈ readingVerbs ++ changingVerbs, verb statement = some keyword.toList
  run_reading : ∀ statement keyword, parses statement → keyword ∈ readingVerbs →
    verb statement = some keyword.toList → ∀ db, run statement db = db

/-- The engine parses every statement of the text. -/
def Engine.Parses (engine : Engine) (lexemes : List Lexeme) : Prop :=
  ∀ statement ∈ statements lexemes, engine.parses statement

/-! ## Statements and their lexemes -/

theorem mem_of_mem_statements_from {current lexemes statement : List Lexeme} {lexeme : Lexeme}
    (hstatement : statement ∈ statementsFrom current lexemes) (hlexeme : lexeme ∈ statement) :
    lexeme ∈ current ++ lexemes := by
  have hemit : ∀ current : List Lexeme, statement ∈ emit current → lexeme ∈ current := by
    intro current h
    unfold emit at h
    split at h
    · cases h
    · exact List.mem_singleton.1 h ▸ hlexeme
  induction lexemes generalizing current with
  | nil => exact List.mem_append_left _ (hemit current hstatement)
  | cons head rest ih =>
      rw [statementsFrom] at hstatement
      split at hstatement
      · cases List.mem_append.1 hstatement with
        | inl h => exact List.mem_append_left _ (hemit current h)
        | inr h => exact List.mem_append_right _ (List.mem_cons_of_mem _ (by simpa using ih h))
      · split at hstatement
        · simpa using ih hstatement
        · cases List.mem_append.1 (ih hstatement) with
          | inl h => exact List.mem_append_left _ h
          | inr h => exact List.mem_append_right _ (List.mem_cons_of_mem _ h)

/-- Between two statements there is a semicolon. -/
theorem semicolon_between {current lexemes first second : List Lexeme}
    {others : List (List Lexeme)}
    (h : statementsFrom current lexemes = first :: second :: others) :
    ∃ before after, lexemes = before ++ Lexeme.semicolon :: after ∧
      first ⊆ current ++ before ∧ second ⊆ after := by
  induction lexemes generalizing current with
  | nil =>
      rw [statementsFrom, emit] at h
      split at h <;> cases h
  | cons head rest ih =>
      rw [statementsFrom] at h
      split at h
      · rename_i hhead
        obtain rfl : head = .semicolon := by cases head <;> simp_all [Lexeme.isSemicolon]
        unfold emit at h
        split at h
        · obtain ⟨before, after, rfl, hfirst, hsecond⟩ := ih h
          exact ⟨.semicolon :: before, after, rfl, fun l hl =>
            List.mem_append_right _ (List.mem_cons_of_mem _ (by simpa using hfirst hl)), hsecond⟩
        · obtain ⟨rfl, hrest⟩ := List.cons.inj h
          refine ⟨[], rest, rfl, fun l hl => List.mem_append_left _ hl, fun l hl => ?_⟩
          have hrest' : statementsFrom [] rest = second :: others := hrest
          have hmem : second ∈ statementsFrom [] rest := by
            rw [hrest']
            exact List.mem_cons_self
          simpa using mem_of_mem_statements_from hmem hl
      · split at h
        · obtain ⟨before, after, rfl, hfirst, hsecond⟩ := ih h
          exact ⟨head :: before, after, rfl, fun l hl => by simpa using hfirst hl, hsecond⟩
        · obtain ⟨before, after, rfl, hfirst, hsecond⟩ := ih h
          refine ⟨head :: before, after, rfl, fun l hl => ?_, hsecond⟩
          cases List.mem_append.1 (hfirst hl) with
          | inl h => exact List.mem_append_left _ h
          | inr h => exact List.mem_append_right _ (List.mem_cons_of_mem _ h)

/-- The lexemes that are already taken begin the first statement. -/
theorem statements_from_append {current lexemes : List Lexeme} (h : current ≠ []) :
    ∃ more others, statementsFrom current lexemes = (current ++ more) :: others := by
  induction lexemes generalizing current with
  | nil => exact ⟨[], [], by rw [statementsFrom, emit, if_neg (by simpa using h)]; simp⟩
  | cons head rest ih =>
      rw [statementsFrom]
      split
      · refine ⟨[], statementsFrom [] rest, ?_⟩
        rw [emit, if_neg (by simpa using h), List.append_nil]
        rfl
      · split
        · obtain ⟨more, others, hrest⟩ := ih (by simp : current ++ [head] ≠ [])
          exact ⟨head :: more, others, by rw [hrest]; simp⟩
        · exact ih h

/-- Lexemes that are not significant belong to no statement. -/
theorem statements_skip {skipped : List Lexeme} (hskipped : ∀ l ∈ skipped, l.significant = false)
    (lexemes : List Lexeme) : statements (skipped ++ lexemes) = statements lexemes := by
  induction skipped with
  | nil => rfl
  | cons head rest ih =>
      have hhead := hskipped head List.mem_cons_self
      have hrest := ih fun l hl => hskipped l (List.mem_cons_of_mem _ hl)
      unfold statements at hrest ⊢
      rw [List.cons_append, statementsFrom]
      split
      · rw [hrest]
        rfl
      · rw [if_neg (by simp [hhead]), hrest]

/-- The first significant lexeme begins the first statement. -/
theorem statements_cons {lexeme : Lexeme} (h : lexeme.significant = true)
    (lexemes : List Lexeme) :
    ∃ more others, statements (lexeme :: lexemes) = (lexeme :: more) :: others := by
  have hsemicolon : ¬ lexeme.isSemicolon = true := by
    cases lexeme <;> simp_all [Lexeme.significant, Lexeme.isSemicolon]
  rw [statements, statementsFrom, if_neg hsemicolon, if_pos h]
  exact statements_from_append (List.cons_ne_nil lexeme [])

/-! ## Hidden characters -/

theorem marked_append (first second : List Lexeme) :
    marked (first ++ second) = marked first ++ marked second :=
  List.flatMap_append

theorem marked_cons (lexeme : Lexeme) (lexemes : List Lexeme) :
    marked (lexeme :: lexemes) = lexeme.marked ++ marked lexemes := rfl

theorem text_append (first second : List Lexeme) :
    text (first ++ second) = text first ++ text second := by
  rw [text, marked_append, List.map_append]
  rfl

theorem not_mem_visible {c : Char} {chars : List Char} : (c, true) ∉ visible chars := by
  simp [visible]

/-- The marks that begin a literal or a comment. -/
def openingMarks : List Char := ['\'', '-', '/']

/-- A lexeme with a hidden character begins with a visible mark. -/
theorem marked_eq_cons {lexeme : Lexeme} {c : Char} (h : (c, true) ∈ lexeme.marked) :
    ∃ mark ∈ openingMarks, ∃ rest, lexeme.marked = (mark, false) :: rest := by
  cases lexeme with
  | literal contents => exact ⟨'\'', by decide, _, rfl⟩
  | lineComment contents line ended => exact ⟨'-', by decide, _, rfl⟩
  | blockComment contents ended => exact ⟨'/', by decide, _, rfl⟩
  | space chars blank => exact absurd h not_mem_visible
  | word chars identifier => exact absurd h not_mem_visible
  | quoted quote contents => exact absurd h not_mem_visible
  | semicolon => exact absurd h not_mem_visible
  | symbol c => exact absurd h not_mem_visible

/-- In front of a hidden character there is the mark that begins its literal or comment. -/
theorem mark_before_hidden {lexemes : List Lexeme} {before after : List (Char × Bool)} {c : Char}
    (h : marked lexemes = before ++ (c, true) :: after) :
    ∃ mark ∈ openingMarks, (mark, false) ∈ before := by
  induction lexemes generalizing before with
  | nil => exact absurd h (by simp [marked])
  | cons lexeme lexemes ih =>
      rw [marked_cons] at h
      rcases List.append_eq_append_iff.1 h with ⟨skipped, rfl, hrest⟩ | ⟨inner, hinner, hrest⟩
      · obtain ⟨mark, hmark, hmem⟩ := ih hrest
        exact ⟨mark, hmark, List.mem_append_right _ hmem⟩
      · cases inner with
        | nil =>
            have hnil : marked lexemes = [] ++ (c, true) :: after := hrest.symm
            obtain ⟨_, _, hmem⟩ := ih hnil
            cases hmem
        | cons first inner =>
            obtain ⟨rfl, -⟩ := List.cons.inj hrest
            have hmem : (c, true) ∈ lexeme.marked := by simp [hinner]
            obtain ⟨mark, hmark, rest, heq⟩ := marked_eq_cons hmem
            rw [heq] at hinner
            cases before with
            | nil => exact absurd (List.cons.inj hinner).1 (by simp)
            | cons head before =>
                obtain ⟨rfl, -⟩ := List.cons.inj hinner
                exact ⟨mark, hmark, List.mem_cons_self⟩

end CorvidNano.Sql
