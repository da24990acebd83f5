import Mathlib.Data.List.Forall2

/-!
# Batches of writes

A program runs the statements of a database one by one. Any of them can fail, and the program
stops at the first error with what was done until then: there is no transaction around it.

A batch is a list of writes and of errors that come from elsewhere. `perform_all_spec` says what
it leaves: the writes before the first error or failure, and it succeeds if these are all.
-/

namespace CorvidNano.Batch

/-- The clock and the failures of a database, by the number of the statement. -/
structure Environment where
  now : Nat → String
  fault : Nat → Option String

/-- A database and the number of statements so far. -/
structure Session (Db : Type) where
  db : Db
  count : Nat

/-- A program over a database. -/
abbrev Program (ε Db : Type) := ExceptT ε (StateM (Session Db))

variable {ε Db Write α β : Type}

/-- The result of a program, and the session after it. -/
def start (program : Program ε Db α) (session : Session Db) : Except ε α × Session Db :=
  program session

@[simp] theorem start_pure (value : α) (session : Session Db) :
    start (pure value : Program ε Db α) session = (.ok value, session) := rfl

@[simp] theorem start_throw (error : ε) (session : Session Db) :
    start (throw error : Program ε Db α) session = (.error error, session) := rfl

@[simp] theorem start_of_except (result : Except ε α) (session : Session Db) :
    start (MonadExcept.ofExcept result : Program ε Db α) session = (result, session) := by
  cases result with
  | ok value => rfl
  | error error => rfl

theorem of_except_ok (value : α) :
    (MonadExcept.ofExcept (.ok value) : Program ε Db α) = pure value := rfl

/-- A computation that may fail is a program of its parts. -/
theorem of_except_bind (result : Except ε α) (next : α → Except ε β) :
    (MonadExcept.ofExcept (result >>= next) : Program ε Db β) = (do
      let value ← (MonadExcept.ofExcept result : Program ε Db α)
      MonadExcept.ofExcept (next value)) := by
  cases result with
  | ok value => rfl
  | error error => rfl

/-- A traversal succeeds with the results of its elements. -/
theorem map_m_eq_ok {f : α → Except ε β} {list : List α} {results : List β} :
    list.mapM f = .ok results ↔
      List.Forall₂ (fun element result => f element = .ok result) list results := by
  induction list generalizing results with
  | nil =>
      rw [List.forall₂_nil_left_iff]
      exact ⟨fun h => (Except.ok.inj h).symm, fun h => congrArg Except.ok h.symm⟩
  | cons element rest ih =>
      rw [List.mapM_cons, List.forall₂_cons_left_iff]
      constructor
      · intro h
        cases helement : f element with
        | error error =>
            rw [helement] at h
            cases h
        | ok result =>
            cases hrest : rest.mapM f with
            | error error =>
                rw [helement, hrest] at h
                cases h
            | ok others =>
                rw [helement, hrest] at h
                exact ⟨result, others, rfl, ih.mp hrest, (Except.ok.inj h).symm⟩
      · intro ⟨result, others, helement, hothers, hresults⟩
        rw [helement, ih.mpr hothers, hresults]
        rfl

/-- The second program runs only after a first one that succeeds. -/
theorem start_bind (program : Program ε Db α) (next : α → Program ε Db β)
    (session : Session Db) :
    start (program >>= next) session =
      match start program session with
      | (.ok value, after) => start (next value) after
      | (.error error, after) => (.error error, after) := by
  show (match program session with
    | (result, after) => ExceptT.bindCont next result after) = _
  unfold start
  obtain ⟨result, after⟩ := program session
  cases result with
  | ok value => rfl
  | error error => rfl

/-- A value that is put in the place of the result does not change the session. -/
theorem start_then_pure (program : Program ε Db α) (value : β) (session : Session Db) :
    start (program >>= fun _ => pure value) session =
      ((start program session).1.map fun _ => value, (start program session).2) := by
  rw [start_bind]
  obtain ⟨result, after⟩ := start program session
  cases result with
  | ok value => rfl
  | error error => rfl

/-- A result keeps its error when its value is replaced. -/
theorem error_of_map_eq_error {result : Except ε α} {value : α → β} {error : ε}
    (h : result.map value = .error error) : result = .error error := by
  cases result with
  | ok value => cases h
  | error other => exact congrArg Except.error (Except.error.inj h)

/-- A statement that changes the database. -/
def execute (environment : Environment) (failure : String → ε)
    (statement : String → Db → Except ε Db) : Program ε Db Unit :=
  fun session =>
    match environment.fault session.count with
    | some reason => (.error (failure reason), ⟨session.db, session.count + 1⟩)
    | none =>
        match statement (environment.now session.count) session.db with
        | .error error => (.error error, ⟨session.db, session.count + 1⟩)
        | .ok db => (.ok (), ⟨db, session.count + 1⟩)

/-- A statement that reads the database. -/
def query (environment : Environment) (failure : String → ε) (read : Db → α) :
    Program ε Db α :=
  fun session =>
    match environment.fault session.count with
    | some reason => (.error (failure reason), ⟨session.db, session.count + 1⟩)
    | none => (.ok (read session.db), ⟨session.db, session.count + 1⟩)

/-- A statement that changes the database and says how many rows it changed. -/
def executeRows (environment : Environment) (failure : String → ε) (statement : Db → Db × Nat) :
    Program ε Db Nat :=
  fun session =>
    match environment.fault session.count with
    | some reason => (.error (failure reason), ⟨session.db, session.count + 1⟩)
    | none => (.ok (statement session.db).2, ⟨(statement session.db).1, session.count + 1⟩)

/-- A change that is made. -/
theorem start_execute {environment : Environment} {failure : String → ε}
    {statement : String → Db → Except ε Db} {db after : Db} {count : Nat}
    (hfault : environment.fault count = none)
    (hstatement : statement (environment.now count) db = .ok after) :
    start (execute environment failure statement) ⟨db, count⟩ = (.ok (), ⟨after, count + 1⟩) := by
  simp [start, execute, hfault, hstatement]

/-- A change that fails. -/
theorem start_execute_fault {environment : Environment} {failure : String → ε}
    {statement : String → Db → Except ε Db} {db : Db} {count : Nat} {reason : String}
    (hfault : environment.fault count = some reason) :
    start (execute environment failure statement) ⟨db, count⟩ =
      (.error (failure reason), ⟨db, count + 1⟩) := by
  simp [start, execute, hfault]

/-- A query that is answered. -/
theorem start_query {environment : Environment} {failure : String → ε} {read : Db → α} {db : Db}
    {count : Nat} (hfault : environment.fault count = none) :
    start (query environment failure read) ⟨db, count⟩ = (.ok (read db), ⟨db, count + 1⟩) := by
  simp [start, query, hfault]

/-- A query that fails. -/
theorem start_query_fault {environment : Environment} {failure : String → ε} {read : Db → α}
    {db : Db} {count : Nat} {reason : String} (hfault : environment.fault count = some reason) :
    start (query environment failure read) ⟨db, count⟩ =
      (.error (failure reason), ⟨db, count + 1⟩) := by
  simp [start, query, hfault]

section Preserves

variable {P : Db → Prop}

/-- A program keeps a property of the database, whether it fails or not. -/
def Preserves (P : Db → Prop) (program : Program ε Db α) : Prop :=
  ∀ session, P session.db → P (start program session).2.db

theorem preserves_pure (value : α) : Preserves P (pure value : Program ε Db α) :=
  fun _ h => h

theorem preserves_throw (error : ε) : Preserves P (throw error : Program ε Db α) :=
  fun _ h => h

theorem preserves_of_except (result : Except ε α) :
    Preserves P (MonadExcept.ofExcept result : Program ε Db α) := by
  intro session h
  rwa [start_of_except]

theorem preserves_bind {program : Program ε Db α} {next : α → Program ε Db β}
    (hprogram : Preserves P program) (hnext : ∀ value, Preserves P (next value)) :
    Preserves P (program >>= next) := by
  intro session h
  have hfirst := hprogram session h
  rw [start_bind]
  cases hresult : start program session with
  | mk result after =>
      rw [hresult] at hfirst
      cases result with
      | ok value => exact hnext value after hfirst
      | error error => exact hfirst

theorem preserves_query (environment : Environment) (failure : String → ε) (read : Db → α) :
    Preserves P (query environment failure read) := by
  intro session h
  unfold start query
  split
  · exact h
  · exact h

theorem preserves_execute {environment : Environment} {failure : String → ε}
    {statement : String → Db → Except ε Db}
    (hstatement : ∀ now db after, P db → statement now db = .ok after → P after) :
    Preserves P (execute environment failure statement) := by
  intro session h
  unfold start execute
  split
  · exact h
  · split
    · exact h
    · rename_i after hafter
      exact hstatement _ _ _ h hafter

theorem preserves_execute_rows {environment : Environment} {failure : String → ε}
    {statement : Db → Db × Nat} (hstatement : ∀ db, P db → P (statement db).1) :
    Preserves P (executeRows environment failure statement) := by
  intro session h
  unfold start executeRows
  split
  · exact h
  · exact hstatement _ h

end Preserves

/-- None of the next `count` statements fails. -/
def Quiet (environment : Environment) (first count : Nat) : Prop :=
  ∀ i < count, environment.fault (first + i) = none

instance (environment : Environment) (first count : Nat) :
    Decidable (Quiet environment first count) :=
  inferInstanceAs (Decidable (∀ i < count, environment.fault (first + i) = none))

/-- One statement that does not fail. -/
theorem quiet_one_iff {environment : Environment} {first : Nat} :
    Quiet environment first 1 ↔ environment.fault first = none := by
  simp [Quiet]

/-- Two statements that do not fail. -/
theorem quiet_two_iff {environment : Environment} {first : Nat} :
    Quiet environment first 2 ↔
      environment.fault first = none ∧ environment.fault (first + 1) = none := by
  constructor
  · intro h
    exact ⟨h 0 (by omega), h 1 (by omega)⟩
  · intro ⟨hfirst, hsecond⟩ i hi
    obtain rfl | rfl : i = 0 ∨ i = 1 := by omega
    · exact hfirst
    · exact hsecond

/-- How the writes of a batch are performed: by how many statements each, and what a write with
the time of its last statement changes. A write that fails changes nothing. -/
structure Writes (ε Db Write : Type) where
  perform : Environment → Write → Program ε Db Unit
  statements : Write → Nat
  Ready : Db → Write → Prop
  apply : Db → Write × String → Db
  perform_done : ∀ environment write db first, Ready db write →
    Quiet environment first (statements write) →
    start (perform environment write) ⟨db, first⟩ =
      (.ok (), ⟨apply db (write, environment.now (first + (statements write - 1))),
        first + statements write⟩)
  perform_failed : ∀ environment write db first, Ready db write →
    ¬ Quiet environment first (statements write) →
    ∃ error after, start (perform environment write) ⟨db, first⟩ = (.error error, ⟨db, after⟩)

namespace Writes

variable (writes : Writes ε Db Write) (environment : Environment)

/-- The writes of a batch one by one, until one fails or an error comes. -/
def performAll : List (Except ε Write) → Program ε Db Unit
  | [] => pure ()
  | .error error :: _ => throw error
  | .ok write :: rest => do
      writes.perform environment write
      performAll rest

/-- The writes before the first error or failure, with their times. -/
def done : Nat → List (Except ε Write) → List (Write × String)
  | _, [] => []
  | _, .error _ :: _ => []
  | first, .ok write :: rest =>
      if Quiet environment first (writes.statements write) then
        (write, environment.now (first + (writes.statements write - 1))) ::
          done (first + writes.statements write) rest
      else []

/-- Every write finds the database ready for it after those before it. -/
def AllReady : Db → List (Except ε Write) → Prop
  | _, [] => True
  | _, .error _ :: _ => True
  | db, .ok write :: rest =>
      writes.Ready db write ∧ ∀ time, AllReady (writes.apply db (write, time)) rest

variable {writes environment}

/-- What a batch leaves are the writes before the first error or failure, whether there is one or
not. -/
theorem db_perform_all (environment : Environment) {db : Db} (first : Nat)
    {batch : List (Except ε Write)} (hready : writes.AllReady db batch) :
    (start (writes.performAll environment batch) ⟨db, first⟩).2.db =
      (writes.done environment first batch).foldl writes.apply db := by
  induction batch generalizing db first with
  | nil => rfl
  | cons item rest ih =>
      cases item with
      | error error => rfl
      | ok write =>
          obtain ⟨hwrite, hrest⟩ := hready
          rw [performAll, start_bind, done]
          by_cases hquiet : Quiet environment first (writes.statements write)
          · rw [writes.perform_done _ _ _ _ hwrite hquiet, if_pos hquiet]
            exact ih _ (hrest _)
          · obtain ⟨error, after, hfailed⟩ := writes.perform_failed _ _ _ _ hwrite hquiet
            rw [hfailed, if_neg hquiet]
            rfl

/-- A batch that succeeds has no errors, and all its writes are done. -/
theorem done_of_ok {db after : Db} {first count : Nat} {batch : List (Except ε Write)}
    (hready : writes.AllReady db batch)
    (hok : start (writes.performAll environment batch) ⟨db, first⟩ = (.ok (), ⟨after, count⟩)) :
    (writes.done environment first batch).map (fun item => .ok item.1) = batch := by
  induction batch generalizing db first with
  | nil => rfl
  | cons item rest ih =>
      cases item with
      | error error => cases hok
      | ok write =>
          obtain ⟨hwrite, hrest⟩ := hready
          rw [performAll, start_bind] at hok
          by_cases hquiet : Quiet environment first (writes.statements write)
          · rw [writes.perform_done _ _ _ _ hwrite hquiet] at hok
            rw [done, if_pos hquiet, List.map_cons, ih (hrest _) hok]
          · obtain ⟨error, after, hfailed⟩ := writes.perform_failed _ _ _ _ hwrite hquiet
            rw [hfailed] at hok
            cases hok

/-- The writes that are done are an initial part of the batch. -/
theorem done_initial (first : Nat) (batch : List (Except ε Write)) :
    (writes.done environment first batch).map (fun item => .ok item.1) <+: batch := by
  induction batch generalizing first with
  | nil => exact List.prefix_refl []
  | cons item rest ih =>
      cases item with
      | error error => exact List.nil_prefix
      | ok write =>
          rw [done]
          split
          · exact List.cons_prefix_cons.mpr ⟨rfl, ih _⟩
          · exact List.nil_prefix

/-- A batch that fails has more than the writes that are done. -/
theorem done_lt_of_error {db : Db} {first : Nat} {batch : List (Except ε Write)} {error : ε}
    (hready : writes.AllReady db batch)
    (herror : (start (writes.performAll environment batch) ⟨db, first⟩).1 = .error error) :
    (writes.done environment first batch).length < batch.length := by
  induction batch generalizing db first with
  | nil => cases herror
  | cons item rest ih =>
      cases item with
      | error error => exact Nat.succ_pos _
      | ok write =>
          obtain ⟨hwrite, hrest⟩ := hready
          rw [done]
          split
          · rename_i hquiet
            rw [performAll, start_bind, writes.perform_done _ _ _ _ hwrite hquiet] at herror
            exact Nat.succ_lt_succ (ih (hrest _) herror)
          · exact Nat.succ_pos _

/-- A batch without errors succeeds when no statement fails. -/
theorem perform_all_of_quiet {db : Db} {list : List Write}
    (hready : writes.AllReady db (list.map .ok)) (hquiet : ∀ n, environment.fault n = none)
    (first : Nat) :
    ∃ after, start (writes.performAll environment (list.map .ok)) ⟨db, first⟩ =
      (.ok (), after) := by
  induction list generalizing db first with
  | nil => exact ⟨_, rfl⟩
  | cons write rest ih =>
      obtain ⟨hwrite, hrest⟩ := hready
      rw [List.map_cons, performAll, start_bind,
        writes.perform_done _ _ _ _ hwrite fun i _ => hquiet (first + i)]
      exact ih (hrest _) _

/-- A batch of one write that may be an error. -/
theorem perform_all_singleton (item : Except ε Write) :
    writes.performAll environment [item] = (do
      let write ← MonadExcept.ofExcept item
      writes.perform environment write) := by
  cases item with
  | ok write => exact bind_pure_unit
  | error error => rfl

/-- A batch in two parts. -/
theorem perform_all_append (writes : Writes ε Db Write) (environment : Environment)
    (before after : List (Except ε Write)) :
    writes.performAll environment (before ++ after) = (do
      writes.performAll environment before
      writes.performAll environment after) := by
  induction before with
  | nil => rfl
  | cons item rest ih =>
      cases item with
      | error error => rfl
      | ok write => simp only [List.cons_append, performAll, ih, bind_assoc]

/-- A loop that counts its elements and performs a batch for each performs them as one batch. -/
theorem loop_eq {Element : Type} (items : Element → List (Except ε Write))
    {loop : Nat → List Element → Program ε Db Nat} (hnil : ∀ count, loop count [] = pure count)
    (hcons : ∀ count element rest, loop count (element :: rest) = (do
      writes.performAll environment (items element)
      loop (count + 1) rest))
    (count : Nat) (list : List Element) :
    loop count list = (do
      writes.performAll environment (list.flatMap items)
      pure (count + list.length)) := by
  induction list generalizing count with
  | nil => exact hnil count
  | cons element rest ih =>
      rw [hcons, ih, List.flatMap_cons, perform_all_append, bind_assoc, List.length_cons,
        Nat.add_assoc, Nat.add_comm 1]

end Writes

end CorvidNano.Batch
