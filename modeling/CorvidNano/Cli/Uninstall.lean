import CorvidNano.Cli.Install

/-!
# The removal of a plugin

`cmd_uninstall` of the plugin CLI: it deletes the row of the plugin in the database and then
every file of the plugin directory whose name contains the id. Which plugin a file is, its
manifest says. `uninstalls_only_iff` compares the two.
-/

namespace CorvidNano.Cli.Uninstall

open Host Loader
open Install (PluginRow State)

/-- An entry of the plugin directory. -/
structure DirEntry (Location : Type) where
  name : String
  location : Location

/-- What a removal meets: the database, and the plugin directory as it is listed. The listing is
`none` if the directory is missing or cannot be read, as is an entry of it that cannot be read. -/
structure World (Location : Type) where
  platform : Platform
  inDirectory : Location → Prop
  dbExists : Bool
  dbOpened : Bool
  rowsCounted : Bool
  rowDeleted : Bool
  listing : Option (List (Option (DirEntry Location)))
  removable : Location → Bool

/-- The errors of a removal. -/
inductive UninstallError where
  | noDatabase
  | openDatabase
  | notInstalled (id : String)
  | deleteRow

/-- The text of an error. One of the database alone has none. -/
def UninstallError.message : UninstallError → Option String
  | .noDatabase => some "no plugins installed (database not found)"
  | .notInstalled id => some ("plugin '" ++ id ++ "' is not installed")
  | .openDatabase | .deleteRow => none

/-- The id with underscores for its hyphens. -/
def idUnderscore (id : String) : String :=
  String.ofList (id.toList.map fun c => if c = '-' then '_' else c)

/-- The names of the files that are removed for an id. -/
def nameMatches (id name : String) : Bool :=
  Text.contains (idUnderscore id) name && ".wasm".toList.isSuffixOf name.toList

/-- The id in the manifest of a module, if it has one. -/
def manifestId (platform : Platform) (wasmBytes : List UInt8) : Option String :=
  match platform.engine.compile wasmBytes with
  | none => none
  | some module =>
      match extractManifest platform module (.forTier .untrusted) with
      | .error _ => none
      | .ok manifest => some manifest.id

section

variable {Location : Type} (world : World Location)

/-- The removal gets to the files: the plugin is in the database and its row is deleted. -/
def Unregisters (id : String) (state : State Location) : Prop :=
  world.dbExists = true ∧ world.dbOpened = true ∧ world.rowsCounted = true ∧
    (∃ row ∈ state.plugins, row.id = id) ∧ world.rowDeleted = true

variable [DecidableEq Location]

/-- An entry with a matching name is listed at the location. -/
def listedAt (id : String) (entries : List (Option (DirEntry Location))) (location : Location) :
    Bool :=
  entries.any fun entry =>
    entry.any fun entry => entry.location == location && nameMatches id entry.name

/-- The name of the file at the location is matched, and the file can be removed. -/
def matched (id : String) (location : Location) : Bool :=
  world.listing.any (listedAt id · location) && world.removable location

/-- `remove_file`, whose error is ignored. -/
def removeFile (location : Location) (state : State Location) : State Location :=
  if world.removable location then
    { state with files := Function.update state.files location none }
  else state

/-- The loop of `cmd_uninstall` over the entries of the directory. -/
def removeFiles (id : String) : List (Option (DirEntry Location)) → State Location → State Location
  | [], state => state
  | none :: rest, state => removeFiles id rest state
  | some entry :: rest, state =>
      removeFiles id rest
        (if nameMatches id entry.name then removeFile world entry.location state else state)

/-- `cmd_uninstall`. The running host is only notified, and a query that fails finds no row. -/
def cmdUninstall (id : String) (state : State Location) :
    Except UninstallError Unit × State Location :=
  if !world.dbExists then (.error .noDatabase, state)
  else if !world.dbOpened then (.error .openDatabase, state)
  else if !(world.rowsCounted && state.plugins.any fun row => row.id == id) then
    (.error (.notInstalled id), state)
  else if !world.rowDeleted then (.error .deleteRow, state)
  else
    let unregistered := { state with plugins := state.plugins.filter fun row => row.id != id }
    match world.listing with
    | none => (.ok (), unregistered)
    | some entries => (.ok (), removeFiles world id entries unregistered)

/-! ## What a removal should do -/

/-- A removal that succeeds leaves no file of the plugin in the directory, and any removal leaves
the files of the other plugins. -/
structure UninstallsOnly (id : String) (state : State Location) : Prop where
  removes : (cmdUninstall world id state).1 = .ok () → ∀ location content,
    world.inDirectory location → state.files location = some content →
    manifestId world.platform content = some id →
    (cmdUninstall world id state).2.files location = none
  keeps : ∀ location content other, world.inDirectory location →
    state.files location = some content → manifestId world.platform content = some other →
    other ≠ id → (cmdUninstall world id state).2.files location = some content

/-! ## What it does -/

theorem files_remove_file (location other : Location) (state : State Location) :
    (removeFile world location state).files other =
      if location == other && world.removable other then none else state.files other := by
  unfold removeFile
  by_cases heq : location = other
  · subst heq
    cases world.removable location with
    | false => simp
    | true => simp
  · cases world.removable location with
    | false => simp [heq]
    | true => simp [heq, Ne.symm heq]

/-- The loop removes the files with a matching entry that can be removed. -/
theorem files_remove_files (id : String) (entries : List (Option (DirEntry Location)))
    (state : State Location) (location : Location) :
    (removeFiles world id entries state).files location =
      if listedAt id entries location && world.removable location then none
      else state.files location := by
  induction entries generalizing state with
  | nil => rfl
  | cons first rest ih =>
      cases first with
      | none => exact ih state
      | some entry =>
          have hlisted : listedAt id (some entry :: rest) location =
              (entry.location == location && nameMatches id entry.name ||
                listedAt id rest location) := rfl
          rw [removeFiles, ih, hlisted]
          cases nameMatches id entry.name with
          | false => simp
          | true =>
              rw [if_pos rfl, files_remove_file]
              cases listedAt id rest location with
              | false => simp
              | true =>
                  cases world.removable location with
                  | false => simp
                  | true => simp

/-- What a removal does to the files, if it gets to them and if it does not. -/
theorem cmd_uninstall_cases (id : String) (state : State Location) :
    (Unregisters world id state ∧ (cmdUninstall world id state).1 = .ok () ∧
        ∀ location, (cmdUninstall world id state).2.files location =
          if matched world id location then none else state.files location) ∨
      (¬Unregisters world id state ∧ (cmdUninstall world id state).1 ≠ .ok () ∧
        (cmdUninstall world id state).2 = state) := by
  have hfound : (∃ row ∈ state.plugins, row.id = id) ↔
      (state.plugins.any fun row => row.id == id) = true := by
    simp
  unfold cmdUninstall Unregisters
  rw [hfound]
  cases world.dbExists with
  | false => simp
  | true =>
      cases world.dbOpened with
      | false => simp
      | true =>
          cases world.rowsCounted with
          | false => simp
          | true =>
              cases state.plugins.any fun row => row.id == id with
              | false => simp
              | true =>
                  cases world.rowDeleted with
                  | false => simp
                  | true =>
                      refine .inl ⟨⟨rfl, rfl, rfl, rfl, rfl⟩, ?_⟩
                      unfold matched
                      cases world.listing with
                      | none => exact ⟨rfl, fun location => rfl⟩
                      | some entries =>
                          exact ⟨rfl, files_remove_files world id entries _⟩

/-- A removal touches exactly the files of its plugin if and only if, when it gets to the files, the
plugin's own files are matched and no file of another plugin is. -/
theorem uninstalls_only_iff (id : String) (state : State Location) :
    UninstallsOnly world id state ↔
      (Unregisters world id state → ∀ location content owner, world.inDirectory location →
        state.files location = some content → manifestId world.platform content = some owner →
        (matched world id location = true ↔ owner = id)) := by
  rcases cmd_uninstall_cases world id state with
    ⟨hreaches, hok, hfiles⟩ | ⟨hreaches, hfailed, hsame⟩
  · constructor
    · intro h _ location content owner hin hcontent howner
      constructor
      · intro hmatched
        by_contra hne
        have hkept := h.keeps location content owner hin hcontent howner hne
        rw [hfiles, if_pos hmatched] at hkept
        cases hkept
      · rintro rfl
        have hgone := h.removes hok location content hin hcontent howner
        by_contra hmatched
        rw [hfiles, if_neg hmatched, hcontent] at hgone
        cases hgone
    · intro h
      have hmatches := h hreaches
      constructor
      · intro _ location content hin hcontent howner
        rw [hfiles, if_pos ((hmatches location content id hin hcontent howner).2 rfl)]
      · intro location content other hin hcontent howner hne
        have hunmatched := mt (hmatches location content other hin hcontent howner).1 hne
        rw [hfiles, if_neg hunmatched, hcontent]
  · -- a removal that fails touches nothing
    refine iff_of_true ?_ fun h => absurd h hreaches
    exact {
      removes := fun hok => absurd hok hfailed
      keeps := fun location content other _ hcontent _ _ => by rw [hsame, hcontent] }

end

/-! ## Overlapping ids -/

/-- A platform on which the first two sample modules are the plugins `chess` and `chess-engine`. -/
def chessPlatform : Platform :=
  { Invoke.samplePlatform with
    decodeManifest := fun bytes =>
      match bytes with
      | [1] => .ok { Invoke.sampleManifest [] with id := "chess" }
      | [2] => .ok { Invoke.sampleManifest [] with id := "chess-engine" }
      | _ => .error "unknown manifest" }

/-- A directory with a file of each plugin, in which everything can be read and removed. -/
def chessWorld : World String where
  platform := chessPlatform
  inDirectory _ := True
  dbExists := true
  dbOpened := true
  rowsCounted := true
  rowDeleted := true
  listing := some [some ⟨"chess.wasm", "chess.wasm"⟩,
    some ⟨"chess_engine.wasm", "chess_engine.wasm"⟩]
  removable _ := true

/-- The row of a plugin. -/
def chessRow (id : String) : PluginRow where
  id := id
  version := "0.1.0"
  tier := "untrusted"
  wasmHash := ""
  installedAt := 0
  enabled := true

/-- Both plugins are installed. -/
def chessInstalled : State String where
  files name :=
    if name = "chess.wasm" then some [1]
    else if name = "chess_engine.wasm" then some [2]
    else none
  plugins := [chessRow "chess", chessRow "chess-engine"]

/-- The removal of `chess` also removes the file of `chess-engine`. -/
theorem chess_engine_removed :
    (cmdUninstall chessWorld "chess" chessInstalled).1 = .ok () ∧
      chessInstalled.files "chess_engine.wasm" = some [2] ∧
      manifestId chessPlatform [2] = some "chess-engine" ∧
      (cmdUninstall chessWorld "chess" chessInstalled).2.files "chess_engine.wasm" = none ∧
      ¬UninstallsOnly chessWorld "chess" chessInstalled := by
  have hbefore : chessInstalled.files "chess_engine.wasm" = some [2] := rfl
  have howner : manifestId chessPlatform [2] = some "chess-engine" := rfl
  have hafter : (cmdUninstall chessWorld "chess" chessInstalled).2.files "chess_engine.wasm" =
      none := by
    decide +kernel
  refine ⟨by rfl, hbefore, howner, hafter, fun h => ?_⟩
  have hkept := h.keeps "chess_engine.wasm" [2] "chess-engine" trivial hbefore howner (by decide)
  rw [hafter] at hkept
  cases hkept

end CorvidNano.Cli.Uninstall
