import CorvidNano.Host.WasmMem
import CorvidNano.Library.Fallible
import CorvidNano.Library.FileTree

/-!
# Files of the project directory

`host_functions/fs.rs`: `host_fs_read` resolves the requested path and compares its location with
that of the project directory, and then the backend opens the location. In between other processes
may change the files, so the machine that the path is checked on and the one that it is opened on
are two. The host may look into every directory and read every file: permissions are left out, and
so are faults of the disk.

`host_fs_read_eq_iff` says what a plugin reads while no one changes the files. `reads_checked_iff`
says when the backend opens the location that was checked, and `reads_do_not_interfere` that a
plugin learns nothing of the contents of files outside.
-/

namespace CorvidNano.Host.ProjectFiles

open FileTree WasmMem

/-- The files of the machine that the host runs on, the number of links that a path may go
through, and the host's working directory. -/
structure Machine where
  files : FileSystem (List UInt8)
  links : Nat
  workingDir : Location
  root_dir : files [] = some .dir
  working_dir_canonical : Canonical files workingDir

/-- Why a file cannot be opened or read, on a disk without faults and with all permissions. -/
inductive IoError where
  | resolve (error : ResolveError)
  | isADirectory
  deriving DecidableEq

/-- The text of an error of the operating system. -/
def IoError.display : IoError → String
  | .resolve .notFound => "No such file or directory (os error 2)"
  | .resolve .notADirectory => "Not a directory (os error 20)"
  | .resolve .tooManyLinks => "Too many levels of symbolic links (os error 40)"
  | .isADirectory => "Is a directory (os error 21)"

/-- `Path::canonicalize`. -/
def Machine.canonicalize (machine : Machine) (path : List Char) : Except IoError Location :=
  (resolve machine.files machine.links machine.workingDir path).mapError .resolve

/-- `std::fs::read`. -/
def Machine.readFile (machine : Machine) (path : List Char) : Except IoError (List UInt8) :=
  match machine.canonicalize path with
  | .error e => .error e
  | .ok location =>
      match machine.files location with
      | some (.file content) => .ok content
      | _ => .error .isADirectory

/-- `Path::join`. -/
def join (base path : List Char) : List Char :=
  if isAbsolute path then path
  else if base = [] ∨ base.getLast? = some '/' then base ++ path
  else base ++ '/' :: path

/-- `ProjectDirFs`. -/
structure ProjectDirFs where
  root : String

/-- `ProjectDirFs::read`. -/
def ProjectDirFs.read (_fs : ProjectDirFs) (machine : Machine) (path : Location) :
    Except String (List UInt8) :=
  (machine.readFile (display path)).mapError fun e => "read failed: " ++ e.display

/-- What a path resolves to, if that is in a directory. The errors are for a directory and a path
that do not resolve, and for a path that leads elsewhere. -/
def Machine.resolveInside (machine : Machine) (dir path : List Char)
    (dirError pathError : IoError → String) (outside : Location → String) :
    Except String Location :=
  match machine.canonicalize dir with
  | .error e => .error (dirError e)
  | .ok canonicalDir =>
      match machine.canonicalize path with
      | .error e => .error (pathError e)
      | .ok canonicalPath =>
          if canonicalDir <+: canonicalPath then .ok canonicalPath
          else .error (outside canonicalDir)

/-- `validate_path`. -/
def validatePath (machine : Machine) (requested projectDir : String) : Except String Location :=
  if requested = "" then .error "empty path"
  else
    let fullPath :=
      if isAbsolute requested.toList then requested.toList
      else join projectDir.toList requested.toList
    machine.resolveInside projectDir.toList fullPath
      (fun e => "cannot resolve project dir: " ++ e.display)
      (fun e => "cannot resolve path '" ++ requested ++ "': " ++ e.display)
      fun _ => "path '" ++ requested ++ "' resolves outside project directory"

/-- `host_fs_read`, on the machine as it is when the path is checked and when it is opened. -/
def hostFsRead (fs : Option ProjectDirFs) (checked opened : Machine) (caller : Caller)
    (pathPtr pathLen : BitVec 32) : Response :=
  match readStr caller pathPtr pathLen with
  | none => .null
  | some path =>
      match fs with
      | none => .null
      | some fs =>
          match validatePath checked path fs.root with
          | .error _ => .null
          | .ok canonical =>
              match fs.read opened canonical with
              | .error _ => .null
              | .ok data => writeResponse caller data

/-! ## What may be read -/

/-- A location in the project directory. -/
def InProject (machine : Machine) (fs : ProjectDirFs) (location : Location) : Prop :=
  ∃ projectDir, machine.canonicalize fs.root.toList = .ok projectDir ∧ projectDir <+: location

/-- The path leads to a file in the project directory with this content. -/
def Readable (machine : Machine) (fs : ProjectDirFs) (path : String) (content : List UInt8) :
    Prop :=
  path ≠ "" ∧ ∃ location, machine.canonicalize (join fs.root.toList path.toList) = .ok location ∧
    InProject machine fs location ∧ machine.files location = some (.file content)

/-! ## Checking and opening -/

theorem canonicalize_eq_ok {machine : Machine} {path : List Char} {location : Location} :
    machine.canonicalize path = .ok location ↔
      resolve machine.files machine.links machine.workingDir path = .ok location :=
  Fallible.map_error_eq_ok

/-- What `canonicalize` returns is canonical. -/
theorem canonical_of_canonicalize {machine : Machine} {path : List Char} {location : Location}
    (h : machine.canonicalize path = .ok location) : Canonical machine.files location :=
  resolve_canonical machine.working_dir_canonical (canonicalize_eq_ok.mp h)

/-- A path resolves to a location in a directory. -/
theorem resolve_inside_eq_ok {machine : Machine} {dir path : List Char} {location : Location}
    {dirError pathError : IoError → String} {outside : Location → String} :
    machine.resolveInside dir path dirError pathError outside = .ok location ↔
      machine.canonicalize path = .ok location ∧
        ∃ canonicalDir, machine.canonicalize dir = .ok canonicalDir ∧
          canonicalDir <+: location := by
  unfold Machine.resolveInside
  cases machine.canonicalize dir with
  | error e =>
      refine ⟨nofun, ?_⟩
      rintro ⟨-, canonicalDir, h, -⟩
      cases h
  | ok canonicalDir =>
      cases machine.canonicalize path with
      | error e => exact ⟨nofun, fun h => nomatch h.1⟩
      | ok canonicalPath =>
          dsimp only
          by_cases hprefix : canonicalDir <+: canonicalPath
          · rw [if_pos hprefix]
            constructor
            · intro h
              obtain rfl := Except.ok.inj h
              exact ⟨rfl, canonicalDir, rfl, hprefix⟩
            · exact fun h => congrArg Except.ok (Except.ok.inj h.1)
          · rw [if_neg hprefix]
            refine ⟨nofun, ?_⟩
            rintro ⟨hpath, otherDir, hdir, h⟩
            obtain rfl := Except.ok.inj hpath
            obtain rfl := Except.ok.inj hdir
            exact absurd h hprefix

/-- A path is accepted exactly if it resolves into the project directory. -/
theorem validate_path_eq_ok {machine : Machine} {fs : ProjectDirFs} {requested : String}
    {location : Location} :
    validatePath machine requested fs.root = .ok location ↔
      requested ≠ "" ∧
        machine.canonicalize (join fs.root.toList requested.toList) = .ok location ∧
        InProject machine fs location := by
  have hfull : (if isAbsolute requested.toList then requested.toList
      else join fs.root.toList requested.toList) = join fs.root.toList requested.toList := by
    unfold join
    split <;> rfl
  unfold validatePath
  dsimp only
  rw [hfull]
  by_cases hempty : requested = ""
  · rw [if_pos hempty]
    exact ⟨nofun, fun h => absurd hempty h.1⟩
  · rw [if_neg hempty, and_iff_right hempty]
    exact resolve_inside_eq_ok

/-- The backend opens the location that was checked exactly if no link leads to it. -/
theorem reads_checked_iff (opened : Machine) (location : Location) :
    opened.canonicalize (display location) = .ok location ↔ Canonical opened.files location :=
  ⟨canonical_of_canonicalize, fun h =>
    canonicalize_eq_ok.mpr (resolve_display h opened.root_dir opened.links opened.workingDir)⟩

/-- What the backend reads at a location to which no link leads. -/
theorem read_eq_ok {fs : ProjectDirFs} {machine : Machine} {location : Location}
    {content : List UInt8} (h : Canonical machine.files location) :
    fs.read machine location = .ok content ↔ machine.files location = some (.file content) := by
  unfold ProjectDirFs.read Machine.readFile
  rw [Fallible.map_error_eq_ok, (reads_checked_iff machine location).mpr h]
  dsimp only
  split
  next other hfile =>
    rw [hfile, Except.ok.injEq, Option.some.injEq, Node.file.injEq]
  next hother => exact ⟨nofun, fun hfile => absurd hfile (hother content)⟩

/-- The content of a file that a call asks for and may have. -/
def Served (machine : Machine) (fs : ProjectDirFs) (caller : Caller) (pathPtr pathLen : BitVec 32)
    (content : List UInt8) : Prop :=
  ∃ path, readStr caller pathPtr pathLen = some path ∧ Readable machine fs path content

/-- A file is readable exactly if its path is accepted and the backend can read it. -/
theorem readable_iff {machine : Machine} {fs : ProjectDirFs} {path : String}
    {content : List UInt8} :
    Readable machine fs path content ↔
      ∃ location, validatePath machine path fs.root = .ok location ∧
        fs.read machine location = .ok content := by
  constructor
  · rintro ⟨hne, location, hlocation, hproject, hfile⟩
    exact ⟨location, validate_path_eq_ok.mpr ⟨hne, hlocation, hproject⟩,
      (read_eq_ok (canonical_of_canonicalize hlocation)).mpr hfile⟩
  · rintro ⟨location, hvalid, hread⟩
    obtain ⟨hne, hlocation, hproject⟩ := validate_path_eq_ok.mp hvalid
    exact ⟨hne, location, hlocation, hproject,
      (read_eq_ok (canonical_of_canonicalize hlocation)).mp hread⟩

/-- A call writes the content of a file exactly if its path leads to that file in the project
directory, and otherwise returns the null pointer. -/
theorem host_fs_read_eq_iff (fs : ProjectDirFs) (machine : Machine) (caller : Caller)
    (pathPtr pathLen : BitVec 32) (response : Response) :
    hostFsRead (some fs) machine machine caller pathPtr pathLen = response ↔
      (∃ content, Served machine fs caller pathPtr pathLen content ∧
          response = writeResponse caller content) ∨
        (∀ content, ¬ Served machine fs caller pathPtr pathLen content) ∧ response = .null := by
  unfold hostFsRead Served
  cases readStr caller pathPtr pathLen with
  | none => simp [eq_comm]
  | some path =>
      simp only [Option.some.injEq, exists_eq_left', readable_iff]
      cases hvalid : validatePath machine path fs.root with
      | error e => simp [eq_comm]
      | ok location =>
          cases hread : fs.read machine location with
          | error e => simp [hread, eq_comm]
          | ok data => simp [hread, eq_comm]

/-! ## Noninterference -/

/-- The machines differ only in the contents of files outside of the project directory. -/
structure AgreeInProject (fs : ProjectDirFs) (first second : Machine) : Prop where
  shape : SameShape first.files second.files
  links : first.links = second.links
  working_dir : first.workingDir = second.workingDir
  inside : ∀ location, InProject first fs location → first.files location = second.files location

theorem AgreeInProject.canonicalize_eq {fs : ProjectDirFs} {first second : Machine}
    (h : AgreeInProject fs first second) (path : List Char) :
    first.canonicalize path = second.canonicalize path := by
  rw [Machine.canonicalize, Machine.canonicalize, resolve_congr h.shape, h.links, h.working_dir]

theorem AgreeInProject.validate_path_eq {fs : ProjectDirFs} {first second : Machine}
    (h : AgreeInProject fs first second) (requested : String) :
    validatePath first requested fs.root = validatePath second requested fs.root := by
  unfold validatePath Machine.resolveInside
  simp only [h.canonicalize_eq]

/-- The backend reads alike what was checked. -/
theorem AgreeInProject.read_eq {fs : ProjectDirFs} {first second : Machine}
    (h : AgreeInProject fs first second) {requested : String} {location : Location}
    (hvalid : validatePath first requested fs.root = .ok location) :
    fs.read first location = fs.read second location := by
  obtain ⟨-, hlocation, hinside⟩ := validate_path_eq_ok.mp hvalid
  unfold ProjectDirFs.read Machine.readFile
  rw [← h.canonicalize_eq, (reads_checked_iff first location).mpr
    (canonical_of_canonicalize hlocation)]
  dsimp only
  rw [h.inside location hinside]

/-- What a plugin gets from `host_fs_read` depends only on the contents of files in the project
directory, and on what there is elsewhere. -/
theorem reads_do_not_interfere {fs : ProjectDirFs} {first second : Machine}
    (h : AgreeInProject fs first second) (caller : Caller) (pathPtr pathLen : BitVec 32) :
    hostFsRead (some fs) first first caller pathPtr pathLen =
      hostFsRead (some fs) second second caller pathPtr pathLen := by
  unfold hostFsRead
  cases readStr caller pathPtr pathLen with
  | none => rfl
  | some path =>
      dsimp only
      rw [← h.validate_path_eq]
      cases hvalid : validatePath first path fs.root with
      | error e => rfl
      | ok location =>
          dsimp only
          rw [h.read_eq hvalid]

/-- A machine with a project and one more node beside it. -/
def sampleMachine (other : Node (List UInt8)) : Machine where
  files location :=
    if location = [] ∨ location = ["proj".toList] then some .dir
    else if location = ["proj".toList, "notes".toList] then some (.file [1])
    else if location = ["other".toList] then some other
    else none
  links := 40
  workingDir := ["proj".toList]
  root_dir := rfl
  working_dir_canonical := .child .root rfl (by decide) (by decide)
    (show _ = some Node.dir from rfl) nofun

/-- The project of the sample machine. -/
def sampleFs : ProjectDirFs := ⟨"/proj"⟩

theorem in_project_sample {other : Node (List UInt8)} {location : Location}
    (h : InProject (sampleMachine other) sampleFs location) : ["proj".toList] <+: location := by
  obtain ⟨projectDir, hroot, hprefix⟩ := h
  have hproj : (sampleMachine other).canonicalize sampleFs.root.toList = .ok ["proj".toList] := rfl
  obtain rfl := Except.ok.inj (hproj.symm.trans hroot)
  exact hprefix

/-- Two sample machines with different files beside the project. -/
theorem agree_sample (first second : List UInt8) :
    AgreeInProject sampleFs (sampleMachine (.file first)) (sampleMachine (.file second)) where
  shape location := by
    simp only [sampleMachine]
    split
    · rfl
    · split
      · rfl
      · split <;> rfl
  links := rfl
  working_dir := rfl
  inside location hinside := by
    have hne : location ≠ ["other".toList] := by
      rintro rfl
      exact absurd (in_project_sample hinside) (by decide)
    simp only [sampleMachine, if_neg hne]

/-- A plugin that asks for the file beside the project. -/
def sampleCaller : Caller where
  memory := some "../other".toUTF8.toList
  alloc := some fun _ => some (4, some (List.replicate 32 0))

/-- The content of the file beside the project does not matter. -/
theorem sample_reads_do_not_interfere :
    hostFsRead (some sampleFs) (sampleMachine (.file [2])) (sampleMachine (.file [2])) sampleCaller
        0 8 =
      hostFsRead (some sampleFs) (sampleMachine (.file [3])) (sampleMachine (.file [3]))
        sampleCaller 0 8 :=
  reads_do_not_interfere (agree_sample [2] [3]) sampleCaller 0 8

-- Whether there is a directory beside the project does matter: a path may go through it.
example :
    (validatePath (sampleMachine .dir) "../other/../proj/notes" sampleFs.root).isOk = true ∧
      (validatePath (sampleMachine (.file [2])) "../other/../proj/notes" sampleFs.root).isOk =
        false := by
  decide

end CorvidNano.Host.ProjectFiles
