import CorvidNano.Library.Text
import Mathlib.Data.List.Infix

/-!
# File systems with symbolic links

A file system says what is at each location, and a path is a text that names a location through
links, `.` and `..`. `resolve` follows a path. There are no permissions: every directory may be
searched.

What a path resolves to is canonical: no link leads to it (`resolve_canonical`). So the path that a
canonical location is written as resolves to that location (`resolve_display`). Two file systems
that differ in the contents of their files resolve all paths alike (`resolve_congr`).
-/

namespace CorvidNano.FileTree

/-- A name in a directory. -/
abbrev Name := List Char

/-- The names on the way from the root. -/
abbrev Location := List Name

/-- What is at a location. -/
inductive Node (Content : Type) where
  | dir
  | file (content : Content)
  | link (target : List Char)

/-- A node without the content of a file. -/
def Node.shape {Content : Type} : Node Content → Node Unit
  | .dir => .dir
  | .file _ => .file ()
  | .link target => .link target

/-- What is at each location. -/
abbrev FileSystem (Content : Type) := Location → Option (Node Content)

/-- Why a path does not resolve. -/
inductive ResolveError where
  | notFound
  | notADirectory
  | tooManyLinks
  deriving DecidableEq

/-- A path that starts at the root. -/
def isAbsolute (path : List Char) : Bool :=
  path.head? = some '/'

/-- The names between the slashes of a path. -/
def components (path : List Char) : List Name :=
  path.splitOn '/'

/-- Where a path starts, for who is at a location. -/
def startOf (here : Location) (path : List Char) : Location :=
  if isAbsolute path then [] else here

/-- A location as an absolute path. -/
def display (location : Location) : List Char :=
  '/' :: ['/'].intercalate location

/-- A name that is looked up in its directory. -/
def Ordinary (name : Name) : Prop :=
  name ≠ [] ∧ name ≠ ['.'] ∧ name ≠ ['.', '.']

instance (name : Name) : Decidable (Ordinary name) :=
  inferInstanceAs (Decidable (_ ∧ _ ∧ _))

variable {Content : Type}

/-- Goes from a location along names, until there is a link to follow. -/
def walk (files : FileSystem Content)
    (follow : Location → List Name → Except ResolveError Location) :
    Location → List Name → Except ResolveError Location
  | here, [] => .ok here
  | here, name :: rest =>
      match files here with
      | some .dir =>
          if Ordinary name then
            match files (here ++ [name]) with
            | none => .error .notFound
            | some (.link target) => follow (startOf here target) (components target ++ rest)
            | some _ => walk files follow (here ++ [name]) rest
          else walk files follow (if name = ['.', '.'] then here.dropLast else here) rest
      | _ => .error .notADirectory

/-- Goes from a location along names and through at most so many links. -/
def resolveFrom (files : FileSystem Content) :
    Nat → Location → List Name → Except ResolveError Location
  | 0 => walk files fun _ _ => .error .tooManyLinks
  | links + 1 => walk files (resolveFrom files links)

/-- The location that a path names, for who is at a location. -/
def resolve (files : FileSystem Content) (links : Nat) (here : Location) (path : List Char) :
    Except ResolveError Location :=
  if path = [] then .error .notFound
  else resolveFrom files links (startOf here path) (components path)

/-! ## Canonical locations -/

/-- A location to which directories lead and no link. -/
inductive Canonical (files : FileSystem Content) : Location → Prop where
  | root : Canonical files []
  | child {parent : Location} {name : Name} {node : Node Content} (hparent : Canonical files parent)
      (hdir : files parent = some .dir) (hname : Ordinary name) (hslash : '/' ∉ name)
      (hnode : files (parent ++ [name]) = some node) (hlink : ∀ target, node ≠ .link target) :
      Canonical files (parent ++ [name])

/-- What leads to a canonical location is canonical. -/
theorem Canonical.dropLast {files : FileSystem Content} {location : Location}
    (h : Canonical files location) : Canonical files location.dropLast := by
  cases h with
  | root => exact .root
  | child hparent =>
      rw [List.dropLast_concat]
      exact hparent

/-- The last step to a canonical location. -/
theorem Canonical.of_concat {files : FileSystem Content} {parent : Location} {name : Name}
    (h : Canonical files (parent ++ [name])) :
    Canonical files parent ∧ files parent = some .dir ∧ Ordinary name ∧ '/' ∉ name ∧
      ∃ node, files (parent ++ [name]) = some node ∧ ∀ target, node ≠ .link target := by
  generalize heq : parent ++ [name] = location at h
  cases h with
  | root => simp at heq
  | child hparent hdir hname hslash hnode hlink =>
      obtain ⟨rfl, hlast⟩ := List.append_inj' heq rfl
      obtain rfl := List.singleton_inj.mp hlast
      exact ⟨hparent, hdir, hname, hslash, _, hnode, hlink⟩

/-- The way to a canonical location is canonical. -/
theorem Canonical.of_append {files : FileSystem Content} {before after : Location}
    (h : Canonical files (before ++ after)) : Canonical files before := by
  induction after using List.reverseRecOn with
  | nil => rwa [List.append_nil] at h
  | append_singleton after name ih =>
      rw [← List.append_assoc] at h
      exact ih h.of_concat.1

theorem Canonical.not_mem_slash {files : FileSystem Content} {location : Location}
    (h : Canonical files location) : ∀ name ∈ location, '/' ∉ name := by
  induction h with
  | root => exact fun name hmem => absurd hmem List.not_mem_nil
  | child _ _ _ hslash _ _ ih =>
      intro name hmem
      rcases List.mem_append.mp hmem with hmem | hmem
      · exact ih name hmem
      · rwa [List.mem_singleton.mp hmem]

theorem Canonical.start_of {files : FileSystem Content} {here : Location}
    (h : Canonical files here) (path : List Char) : Canonical files (startOf here path) := by
  unfold startOf
  split
  · exact .root
  · exact h

/-- Going from a canonical location ends at one if following a link from one does. -/
theorem walk_canonical {files : FileSystem Content}
    {follow : Location → List Name → Except ResolveError Location}
    (hfollow : ∀ {here names location}, Canonical files here → (∀ name ∈ names, '/' ∉ name) →
      follow here names = .ok location → Canonical files location)
    {here location : Location} {names : List Name} (hhere : Canonical files here)
    (hnames : ∀ name ∈ names, '/' ∉ name) (h : walk files follow here names = .ok location) :
    Canonical files location := by
  induction names generalizing here with
  | nil =>
      obtain rfl := Except.ok.inj h
      exact hhere
  | cons name rest ih =>
      obtain ⟨hslash, hrest⟩ := List.forall_mem_cons.mp hnames
      unfold walk at h
      split at h
      next hdir =>
        split at h
        next hname =>
          split at h
          next => cases h
          next target _ =>
            refine hfollow (hhere.start_of target) (fun other hmem => ?_) h
            rcases List.mem_append.mp hmem with hmem | hmem
            · exact Text.not_mem_of_mem_split_on hmem
            · exact hrest other hmem
          next node hlink hnode =>
            exact ih (.child hhere hdir hname hslash hnode
              fun target heq => hlink target (heq ▸ rfl))
              hrest h
        next =>
          refine ih ?_ hrest h
          split
          · exact hhere.dropLast
          · exact hhere
      next => cases h

/-- What names resolve to from a canonical location is canonical. -/
theorem resolve_from_canonical {files : FileSystem Content} {links : Nat} {here location : Location}
    {names : List Name} (hhere : Canonical files here) (hnames : ∀ name ∈ names, '/' ∉ name)
    (h : resolveFrom files links here names = .ok location) : Canonical files location := by
  induction links generalizing here names location with
  | zero => exact walk_canonical (fun _ _ h => by cases h) hhere hnames h
  | succ links ih => exact walk_canonical (fun hhere hnames h => ih hhere hnames h) hhere hnames h

/-- What a path resolves to is canonical. -/
theorem resolve_canonical {files : FileSystem Content} {links : Nat} {here location : Location}
    {path : List Char} (hhere : Canonical files here)
    (h : resolve files links here path = .ok location) : Canonical files location := by
  unfold resolve at h
  split at h
  · cases h
  · exact resolve_from_canonical (hhere.start_of path) (fun _ => Text.not_mem_of_mem_split_on) h

/-- The names on the way to a canonical location lead there without following a link. -/
theorem walk_of_canonical {files : FileSystem Content}
    (follow : Location → List Name → Except ResolveError Location) {here names : Location}
    (h : Canonical files (here ++ names)) : walk files follow here names = .ok (here ++ names) := by
  induction names generalizing here with
  | nil => rw [List.append_nil, walk]
  | cons name rest ih =>
      have hstep : here ++ name :: rest = here ++ [name] ++ rest := by
        rw [List.append_assoc, List.singleton_append]
      rw [hstep] at h ⊢
      obtain ⟨-, hdir, hname, -, node, hnode, hlink⟩ := h.of_append.of_concat
      rw [walk, hdir]
      dsimp only
      rw [if_pos hname, hnode]
      cases node with
      | link target => exact absurd rfl (hlink target)
      | dir => exact ih h
      | file content => exact ih h

theorem resolve_from_eq_walk (files : FileSystem Content) (links : Nat) :
    ∃ follow, resolveFrom files links = walk files follow := by
  cases links with
  | zero => exact ⟨_, rfl⟩
  | succ links => exact ⟨_, rfl⟩

/-- A canonical location is what the path it is written as resolves to. -/
theorem resolve_display {files : FileSystem Content} {location : Location}
    (h : Canonical files location) (hroot : files [] = some .dir) (links : Nat) (here : Location) :
    resolve files links here (display location) = .ok location := by
  obtain ⟨follow, hfollow⟩ := resolve_from_eq_walk files links
  have hne : display location ≠ [] := nofun
  have habsolute : startOf here (display location) = [] := rfl
  have hempty : ¬ Ordinary [] := fun hname => hname.1 rfl
  rw [resolve, if_neg hne, habsolute, hfollow, components, display,
    ← List.nil_append ('/' :: _), List.splitOn_append_cons_self, List.splitOn_nil,
    List.singleton_append, walk, hroot]
  dsimp only
  rw [if_neg hempty, if_neg (by decide)]
  by_cases hlocation : location = []
  · subst hlocation
    rw [List.intercalate_nil, List.splitOn_nil, walk, hroot]
    dsimp only
    rw [if_neg hempty, if_neg (by decide), walk]
  · rw [List.splitOn_intercalate '/' h.not_mem_slash hlocation]
    exact walk_of_canonical follow h

/-! ## File systems of one shape -/

/-- The two differ at most in the contents of their files. -/
def SameShape (first second : FileSystem Content) : Prop :=
  ∀ location, (first location).map Node.shape = (second location).map Node.shape

theorem SameShape.walk_eq {first second : FileSystem Content} (h : SameShape first second)
    (follow : Location → List Name → Except ResolveError Location) (here : Location)
    (names : List Name) : walk first follow here names = walk second follow here names := by
  induction names generalizing here with
  | nil => rfl
  | cons name rest ih =>
      have hhere := h here
      have hnext := h (here ++ [name])
      unfold walk
      cases hfirst : first here with
      | none =>
          rw [hfirst] at hhere
          rw [Option.map_eq_none_iff.mp hhere.symm]
      | some node =>
          rw [hfirst] at hhere
          obtain ⟨other, hsecond, hshape⟩ := Option.map_eq_some_iff.mp hhere.symm
          rw [hsecond]
          cases node <;> cases other <;> cases hshape <;> try rfl
          dsimp only
          split
          next =>
            cases hfirst : first (here ++ [name]) with
            | none =>
                rw [hfirst] at hnext
                rw [Option.map_eq_none_iff.mp hnext.symm]
            | some node =>
                rw [hfirst] at hnext
                obtain ⟨other, hsecond, hshape⟩ := Option.map_eq_some_iff.mp hnext.symm
                rw [hsecond]
                cases node <;> cases other <;> cases hshape
                · exact ih _
                · exact ih _
                · rfl
          next => exact ih _

/-- The contents of files do not matter to a path. -/
theorem resolve_congr {first second : FileSystem Content} (h : SameShape first second)
    (links : Nat) (here : Location) (path : List Char) :
    resolve first links here path = resolve second links here path := by
  have hfrom : resolveFrom first links = resolveFrom second links := by
    induction links with
    | zero => exact funext fun here => funext fun names => h.walk_eq _ here names
    | succ links ih =>
        rw [resolveFrom, resolveFrom, ih]
        exact funext fun here => funext fun names => h.walk_eq _ here names
  rw [resolve, resolve, hfrom]

end CorvidNano.FileTree
