import CorvidNano.Agent.Groups

/-!
# Imports that merge

An import of groups replaces each group of its file, and replacing a group removes its members.
`import_merges_iff` says for which stores and files this merges the file with the groups that are
there, and that the export of a store reproduces it in an empty one.
-/

namespace CorvidNano.Agent.GroupMerge

open Batch Groups PskKeys
open Contacts (Formats StoreError)

/-- An entry of a file, with the addresses and labels of the members. -/
structure Entry where
  name : String
  psk : Psk
  members : List (String × Option String)

/-- The writes of an entry. -/
def Entry.writes (entry : Entry) : List GroupWrite :=
  .replace entry.name entry.psk ::
    entry.members.map fun member => .put entry.name member.1 member.2

variable (formats : Formats)

/-- A member of an entry. -/
def readMember (member : Json) : Except StoreError (String × Option String) :=
  match member.getStr? "address" with
  | none => .error .missingMemberAddress
  | some address => .ok (address, member.getStr? "label")

/-- An entry that can be imported. -/
def readEntry (entry : Json) : Except StoreError Entry := do
  let group ← readGroup formats entry
  let members ← (entry.getElements "members").mapM readMember
  .ok ⟨group.name, group.psk, members⟩

/-- A file that can be imported. -/
def readFile (json : String) : Except StoreError (List Entry) := do
  let entries ← (formats.fromStr json).mapError .json
  entries.mapM (readEntry formats)

/-! ## What a merge is -/

/-- The label of a member, or `none` if the address is not one of a member. -/
def label (group : GroupContents) (address : String) : Option (Option String) :=
  (group.members address).map Member.label

/-- The key of a group and the labels of its members. -/
def untimed (group : GroupContents) : Psk × (String → Option (Option String)) :=
  (group.psk, label group)

/-- The last entry of a file for a group. -/
def lastEntry (file : List Entry) (name : String) : Option Entry :=
  file.reverse.find? fun entry => entry.name = name

/-- The last label for an address in a list of members. -/
def lastLabel (members : List (String × Option String)) (address : String) :
    Option (Option String) :=
  (members.reverse.find? fun member => member.1 = address).map Prod.snd

/-- The label that a file gives to a member of a group. -/
def fileLabel (file : List Entry) (name address : String) : Option (Option String) :=
  lastLabel ((file.filter fun entry => entry.name = name).flatMap Entry.members) address

/-- The label that a member of a group has in a store. -/
def storeLabel (tables : GroupTables) (name address : String) : Option (Option String) :=
  (contents tables name).bind fun group => label group address

/-- A store merged with a file: groups that the file does not name are unchanged, and those that
it names have its key, and the members of the store and of the file with the file's labels. -/
structure Merges (before : GroupTables) (file : List Entry) (after : GroupTables) : Prop where
  unnamed : ∀ name, lastEntry file name = none → contents after name = contents before name
  named : ∀ name entry, lastEntry file name = some entry →
    (contents after name).map untimed = some (entry.psk, fun address =>
      (fileLabel file name address).or (storeLabel before name address))

/-- The last entry for each group lists all the members that the group has in the store or in the
file. -/
def ListsAll (before : GroupTables) (file : List Entry) : Prop :=
  ∀ name entry, lastEntry file name = some entry → ∀ address,
    (fileLabel file name address).isSome ∨ (storeLabel before name address).isSome →
      address ∈ entry.members.map Prod.fst

/-- Two stores have the same groups with the same keys, members and labels. -/
def SameButTimes (first second : GroupTables) : Prop :=
  ∀ name, (contents first name).map untimed = (contents second name).map untimed

/-- The values that `export_json` writes. -/
def exportedValues (tables : GroupTables) : List Json :=
  tables.list.map fun group => groupJson group (tables.members group.name)

/-! ## The writes of a file -/

variable {formats} {environment : Environment}

/-- The writes of members that can be imported. -/
theorem member_writes_of_read {name : String} {list : List Json}
    {found : List (String × Option String)} (h : list.mapM readMember = .ok found) :
    list.map (memberWrite name) = found.map fun member => .ok (.put name member.1 member.2) := by
  induction map_m_eq_ok.mp h with
  | nil => rfl
  | @cons member result rest others hmember hrest ih =>
      have hwrite : memberWrite name member = .ok (.put name result.1 result.2) := by
        unfold readMember at hmember
        unfold memberWrite
        cases haddress : member.getStr? "address" with
        | none =>
            rw [haddress] at hmember
            cases hmember
        | some address =>
            rw [haddress] at hmember
            obtain rfl := Except.ok.inj hmember
            rfl
      rw [List.map_cons, hwrite, ih (map_m_eq_ok.mpr hrest), List.map_cons]

/-- The writes of an entry that can be imported. -/
theorem entry_writes_of_read {json : Json} {entry : Entry}
    (h : readEntry formats json = .ok entry) :
    entryWrites formats json = entry.writes.map .ok := by
  unfold readEntry at h
  cases hgroup : readGroup formats json with
  | error error =>
      rw [hgroup] at h
      cases h
  | ok group =>
      cases hmembers : (json.getElements "members").mapM readMember with
      | error error =>
          rw [hgroup, hmembers] at h
          cases h
      | ok found =>
          rw [hgroup, hmembers] at h
          obtain rfl := Except.ok.inj h
          simp only [entryWrites, hgroup, member_writes_of_read hmembers, Entry.writes,
            List.map_cons, List.map_map, Function.comp_def]

/-- The writes of entries that can be imported. -/
theorem entries_writes_of_read {list : List Json} {file : List Entry}
    (h : list.mapM (readEntry formats) = .ok file) :
    list.flatMap (entryWrites formats) = (file.flatMap Entry.writes).map .ok := by
  induction map_m_eq_ok.mp h with
  | nil => rfl
  | cons hentry hrest ih =>
      rw [List.flatMap_cons, entry_writes_of_read hentry, ih (map_m_eq_ok.mpr hrest),
        List.flatMap_cons, List.map_append]

/-- The writes of a file that can be imported. -/
theorem file_writes_of_read {json : String} {file : List Entry}
    (h : readFile formats json = .ok file) :
    fileWrites formats json = (file.flatMap Entry.writes).map .ok := by
  unfold readFile at h
  unfold fileWrites
  cases hjson : formats.fromStr json with
  | error reason =>
      rw [hjson] at h
      cases h
  | ok entries =>
      rw [hjson] at h
      exact entries_writes_of_read h

/-- Where no statement fails, an import of a file without errors succeeds. -/
theorem import_succeeds (hcalm : ∀ n, environment.fault n = none) {json : String}
    {writes : List GroupWrite} (h : fileWrites formats json = writes.map .ok)
    (tables : GroupTables) (first : Nat) :
    (∃ count, (start (importJson formats environment json) ⟨tables, first⟩).1 = .ok count) ∧
      (doneWrites formats environment first json).map Prod.fst = writes := by
  have hready := file_ready formats tables json
  rw [h] at hready
  obtain ⟨after, hok⟩ := Writes.perform_all_of_quiet hready hcalm first
  constructor
  · obtain ⟨count, hjson⟩ := import_json_eq formats environment json
    refine ⟨count, ?_⟩
    rw [hjson, start_then_pure, h, hok]
    rfl
  · have hdone := Writes.done_of_ok hready hok
    rw [doneWrites, h]
    have hinjective : Function.Injective (Except.ok : GroupWrite → Except StoreError GroupWrite) :=
      fun _ _ => Except.ok.inj
    apply List.map_injective_iff.mpr hinjective
    rw [List.map_map]
    exact hdone

/-! ## What an import makes of a group -/

/-- The last label in two lists of members. -/
theorem last_label_append (before after : List (String × Option String)) (address : String) :
    lastLabel (before ++ after) address =
      (lastLabel after address).or (lastLabel before address) := by
  simp [lastLabel, Option.map_or]

/-- An address has a label in a list of members if it is listed. -/
theorem is_some_last_label_iff {members : List (String × Option String)} {address : String} :
    (lastLabel members address).isSome ↔ address ∈ members.map Prod.fst := by
  simp [lastLabel]

/-- The last entry of two files. -/
theorem last_entry_append (before after : List Entry) (name : String) :
    lastEntry (before ++ after) name = (lastEntry after name).or (lastEntry before name) := by
  simp [lastEntry]

/-- Writes one after the other. -/
theorem replay_append (before after : List (GroupWrite × String)) (name : String)
    (group : Option GroupContents) :
    replay (before ++ after) name group = replay after name (replay before name group) :=
  List.foldl_append

/-- Adding members keeps the key and adds the labels. -/
theorem replay_members {name : String} {writes : List (GroupWrite × String)}
    {members : List (String × Option String)}
    (h : writes.map Prod.fst = members.map fun member => .put name member.1 member.2)
    (group : GroupContents) :
    (replay writes name (some group)).map untimed = some (group.psk, fun address =>
      (lastLabel members address).or (label group address)) := by
  induction members generalizing writes group with
  | nil =>
      obtain rfl := List.map_eq_nil_iff.mp h
      rfl
  | cons member rest ih =>
      obtain ⟨⟨write, time⟩, others, rfl, hwrite, hothers⟩ := List.map_eq_cons_iff.mp h
      obtain rfl : write = .put name member.1 member.2 := hwrite
      have hlabel : ∀ address, (lastLabel rest address).or
          (label (group.add member.1 ⟨member.2, time⟩) address) =
            (lastLabel (member :: rest) address).or (label group address) := by
        intro address
        rw [← List.singleton_append, last_label_append, Option.or_assoc]
        by_cases haddress : address = member.1
        · simp [lastLabel, label, GroupContents.add, haddress]
        · simp [lastLabel, label, GroupContents.add, haddress, Ne.symm haddress]
      have hrest := ih hothers (group.add member.1 ⟨member.2, time⟩)
      simp only [hlabel] at hrest
      refine Eq.trans ?_ hrest
      simp [replay, GroupWrite.change, GroupWrite.name]

/-- An entry makes of its group what it says. -/
theorem replay_entry {entry : Entry} {writes : List (GroupWrite × String)}
    (h : writes.map Prod.fst = entry.writes) (group : Option GroupContents) :
    (replay writes entry.name group).map untimed =
      some (entry.psk, lastLabel entry.members) := by
  obtain ⟨⟨write, time⟩, others, rfl, hwrite, hothers⟩ := List.map_eq_cons_iff.mp h
  obtain rfl : write = .replace entry.name entry.psk := hwrite
  have hmembers := replay_members hothers ⟨entry.psk, time, fun _ => none⟩
  have hlabels : (fun address => (lastLabel entry.members address).or
      (label ⟨entry.psk, time, fun _ => none⟩ address)) = lastLabel entry.members := by
    funext address
    simp [label]
  rw [hlabels] at hmembers
  rw [← hmembers]
  simp [replay, GroupWrite.change, GroupWrite.name]

/-- The groups that an entry writes. -/
theorem name_of_mem_writes {entry : Entry} {write : GroupWrite} (h : write ∈ entry.writes) :
    write.name = entry.name := by
  obtain rfl | hmember := List.mem_cons.mp h
  · rfl
  · obtain ⟨member, -, rfl⟩ := List.mem_map.mp hmember
    rfl

/-- A file makes of a group what its last entry for the group says, and leaves the groups that it
does not name. -/
theorem replay_file {file : List Entry} {writes : List (GroupWrite × String)}
    (h : writes.map Prod.fst = file.flatMap Entry.writes) (name : String)
    (group : Option GroupContents) :
    match lastEntry file name with
    | some entry => (replay writes name group).map untimed =
        some (entry.psk, lastLabel entry.members)
    | none => replay writes name group = group := by
  induction file using List.reverseRecOn generalizing writes with
  | nil =>
      obtain rfl := List.map_eq_nil_iff.mp h
      rfl
  | append_singleton file entry ih =>
      rw [List.flatMap_append, List.flatMap_singleton] at h
      obtain ⟨before, after, rfl, hbefore, hafter⟩ := List.map_eq_append_iff.mp h
      rw [replay_append, last_entry_append]
      by_cases hname : entry.name = name
      · have hlast : lastEntry [entry] name = some entry := by simp [lastEntry, hname]
        subst hname
        rw [hlast]
        exact replay_entry hafter _
      · have hlast : lastEntry [entry] name = none := by simp [lastEntry, hname]
        have hother : ¬ ∃ write ∈ after, write.1.name = name := by
          intro ⟨write, hwrite, hwritename⟩
          have hmem : write.1 ∈ entry.writes := hafter ▸ List.mem_map_of_mem hwrite
          exact hname ((name_of_mem_writes hmem).symm.trans hwritename)
        rw [hlast, Option.none_or, replay_of_not_written hother]
        exact ih hbefore

/-- A member that the last entry for a group lists has its label in the file from there. -/
theorem file_label_eq_some {file : List Entry} {name address : String} {entry : Entry}
    {found : Option String} (hlast : lastEntry file name = some entry)
    (hlabel : lastLabel entry.members address = some found) :
    fileLabel file name address = some found := by
  induction file using List.reverseRecOn with
  | nil => cases hlast
  | append_singleton file last ih =>
      rw [last_entry_append] at hlast
      by_cases hname : last.name = name
      · have hfound : lastEntry [last] name = some last := by simp [lastEntry, hname]
        rw [hfound, Option.some_or] at hlast
        obtain rfl := Option.some.inj hlast
        have hmembers : (file ++ [last]).filter (fun entry => entry.name = name) =
            file.filter (fun entry => entry.name = name) ++ [last] := by
          simp [hname]
        rw [fileLabel, hmembers, List.flatMap_append, List.flatMap_singleton, last_label_append,
          hlabel, Option.some_or]
      · have hfound : lastEntry [last] name = none := by simp [lastEntry, hname]
        have hmembers : (file ++ [last]).filter (fun entry => entry.name = name) =
            file.filter (fun entry => entry.name = name) := by
          simp [hname]
        rw [hfound, Option.none_or] at hlast
        rw [fileLabel, hmembers]
        exact ih hlast

/-- What the last entries say is the merge if and only if they list all members. -/
theorem merges_iff {before after : GroupTables} {file : List Entry}
    (hnone : ∀ name, lastEntry file name = none → contents after name = contents before name)
    (hsome : ∀ name entry, lastEntry file name = some entry →
      (contents after name).map untimed = some (entry.psk, lastLabel entry.members)) :
    Merges before file after ↔ ListsAll before file := by
  constructor
  · intro hmerges name entry hlast address hmember
    have hsame := (hsome name entry hlast).symm.trans (hmerges.named name entry hlast)
    have hlabels := congrFun (Prod.ext_iff.mp (Option.some.inj hsame)).2 address
    rw [← is_some_last_label_iff, show lastLabel entry.members address = _ from hlabels,
      Option.isSome_or]
    simpa using hmember
  · intro hlists
    refine ⟨hnone, fun name entry hlast => ?_⟩
    rw [hsome name entry hlast]
    refine congrArg (fun labels => some (entry.psk, labels)) (funext fun address => ?_)
    cases hlabel : lastLabel entry.members address with
    | some found => rw [file_label_eq_some hlast hlabel, Option.some_or]
    | none =>
        have hunlisted : address ∉ entry.members.map Prod.fst := by
          rw [← is_some_last_label_iff, hlabel]
          exact Bool.false_ne_true
        have hneither := mt (hlists name entry hlast address) hunlisted
        rw [not_or, Option.not_isSome_iff_eq_none, Option.not_isSome_iff_eq_none] at hneither
        rw [hneither.1, hneither.2, Option.none_or]

/-- What an import of entries makes of each group. -/
theorem contents_import_file {json : String} {file : List Entry} {first : Nat}
    (hdone : (doneWrites formats environment first json).map Prod.fst =
      file.flatMap Entry.writes) (tables : GroupTables) :
    (∀ name, lastEntry file name = none →
      contents (start (importJson formats environment json) ⟨tables, first⟩).2.db name =
        contents tables name) ∧
    ∀ name entry, lastEntry file name = some entry →
      (contents (start (importJson formats environment json) ⟨tables, first⟩).2.db name).map
        untimed = some (entry.psk, lastLabel entry.members) := by
  constructor
  · intro name hlast
    have hreplay := replay_file hdone name (contents tables name)
    rw [hlast] at hreplay
    rw [contents_import_json]
    exact hreplay
  · intro name entry hlast
    have hreplay := replay_file hdone name (contents tables name)
    rw [hlast] at hreplay
    rw [contents_import_json]
    exact hreplay

/-! ## The export -/

/-- The entry of a group in the export of a store. -/
def exportedEntry (tables : GroupTables) (group : GroupRow) : Entry where
  name := group.name
  psk := group.psk
  members := (tables.members group.name).map fun member => (member.address, member.label)

/-- The loop of the export reads the members of each group. -/
theorem start_export_groups (hcalm : ∀ n, environment.fault n = none) (tables : GroupTables)
    (groups : List GroupRow) (first : Nat) :
    ∃ count, start (exportGroups environment groups) ⟨tables, first⟩ =
      (.ok (groups.map fun group => groupJson group (tables.members group.name)),
        ⟨tables, count⟩) := by
  induction groups generalizing first with
  | nil => exact ⟨first, rfl⟩
  | cons group rest ih =>
      obtain ⟨count, hrest⟩ := ih (first + 1)
      refine ⟨count, ?_⟩
      rw [exportGroups, start_bind, members, start_query (hcalm first)]
      dsimp only
      rw [start_bind, hrest]
      rfl

/-- Where no statement fails, an export gives the text of the groups and changes nothing. -/
theorem start_export_json (hcalm : ∀ n, environment.fault n = none) (tables : GroupTables)
    (first : Nat) :
    ∃ count, start (exportJson formats environment) ⟨tables, first⟩ =
      (.ok (formats.toStringPretty (exportedValues tables)), ⟨tables, count⟩) := by
  obtain ⟨count, hgroups⟩ := start_export_groups hcalm tables tables.list (first + 1)
  refine ⟨count, ?_⟩
  rw [exportJson, start_bind, list, start_query (hcalm first)]
  dsimp only
  rw [start_bind, hgroups]
  rfl

/-- The writes of an exported file are those of its entries. -/
theorem file_writes_exported {tables : GroupTables} {json : String}
    (h : formats.fromStr json = .ok (exportedValues tables)) :
    fileWrites formats json =
      ((tables.list.map (exportedEntry tables)).flatMap Entry.writes).map .ok := by
  have hentry : ∀ group, entryWrites formats (groupJson group (tables.members group.name)) =
      (exportedEntry tables group).writes.map .ok := by
    intro group
    rw [entry_writes_group_json]
    simp only [Entry.writes, exportedEntry, List.map_cons, List.map_map, Function.comp_def]
  simp only [fileWrites, h, exportedValues, List.flatMap_map, List.map_flatMap, hentry]

/-- The exported entry of a group is the one of its row. -/
theorem last_entry_exported (tables : GroupTables) (name : String) :
    lastEntry (tables.list.map (exportedEntry tables)) name =
      (tables.groups.lookup name).map (exportedEntry tables) := by
  have hperm : tables.list.reverse.Perm tables.groups.rows :=
    (List.reverse_perm _).trans ((Table.RowOrder.stable _).perm _)
  rw [lastEntry, ← List.map_reverse, List.find?_map]
  exact congrArg (Option.map _) (Table.find_of_perm hperm name)

/-- The exported entry of a group has the labels of its members. -/
theorem last_label_exported (tables : GroupTables) (group : GroupRow) (address : String) :
    lastLabel (exportedEntry tables group).members address =
      (tables.groupMembers.lookup (group.name, address)).map fun member => member.label := by
  -- The rows of the group are a table of their own, in which an address is a key.
  have hlookup := tables.groupMembers.lookup_delete_where_key
    (fun key => decide (key.1 ≠ group.name)) (group.name, address)
  rw [if_neg (by simp)] at hlookup
  have hperm : (tables.members group.name).reverse.Perm
      (tables.groupMembers.deleteWhere fun member =>
        decide (member.groupName ≠ group.name)).rows := by
    refine (List.reverse_perm _).trans (((Table.RowOrder.stable _).perm _).trans ?_)
    simp [Table.select, Table.deleteWhere]
  have hfind := Table.find_of_perm hperm (group.name, address)
  have hcongr : ((tables.members group.name).reverse.find? fun row => row.address = address) =
      (tables.members group.name).reverse.find? fun row =>
        (row.groupName, row.address) = (group.name, address) := by
    refine List.find?_congr fun row hrow => ?_
    have hname : row.groupName = group.name := by
      have hmem := (List.mem_filter.mp (hperm.mem_iff.mp hrow)).2
      simpa using hmem
    simp [hname]
  rw [lastLabel, exportedEntry, ← List.map_reverse, List.find?_map, Option.map_map]
  show Option.map _ ((tables.members group.name).reverse.find? fun row => row.address = address) = _
  rw [hcongr, hfind, hlookup]
  rfl

/-- The import of the exported file into an empty store has the groups, the keys, the members and
the labels of the store. -/
theorem same_but_times_of_exported {tables after : GroupTables}
    (hnone : ∀ name, lastEntry (tables.list.map (exportedEntry tables)) name = none →
      contents after name = contents .new name)
    (hsome : ∀ name entry, lastEntry (tables.list.map (exportedEntry tables)) name = some entry →
      (contents after name).map untimed = some (entry.psk, lastLabel entry.members)) :
    SameButTimes tables after := by
  intro name
  have hlast := last_entry_exported tables name
  cases hgroup : tables.groups.lookup name with
  | none =>
      rw [hgroup] at hlast
      rw [hnone name hlast, contents, hgroup]
      rfl
  | some group =>
      rw [hgroup] at hlast
      obtain rfl := (Table.mem_of_lookup_eq_some hgroup).2
      rw [hsome _ _ hlast, contents, hgroup]
      simp only [Option.map_some, untimed]
      refine congrArg (fun labels => some (group.psk, labels)) (funext fun address => ?_)
      rw [last_label_exported, label, Option.map_map]
      rfl

/-- Where no statement fails, the import of a file without errors succeeds, and it merges with
the store if and only if the last entry for each group lists all members that the group has in
the store or in the file. The import of an exported file into an empty store reproduces the store,
times apart. -/
theorem import_merges_iff (formats : Formats) (environment : Environment)
    (hcalm : ∀ n, environment.fault n = none) (tables : GroupTables) (first : Nat)
    {json : String} {file : List Entry} (hfile : readFile formats json = .ok file)
    (exported : GroupTables)
    (hserde : formats.fromStr (formats.toStringPretty (exportedValues exported)) =
      .ok (exportedValues exported)) :
    ((∃ count, (start (importJson formats environment json) ⟨tables, first⟩).1 = .ok count) ∧
      (Merges tables file (start (importJson formats environment json) ⟨tables, first⟩).2.db ↔
        ListsAll tables file)) ∧
    ∃ text next, start (exportJson formats environment) ⟨exported, first⟩ =
        (.ok text, ⟨exported, next⟩) ∧
      (∃ count, (start (importJson formats environment text) ⟨.new, next⟩).1 = .ok count) ∧
      SameButTimes exported (start (importJson formats environment text) ⟨.new, next⟩).2.db := by
  constructor
  · obtain ⟨hok, hdone⟩ := import_succeeds hcalm (file_writes_of_read hfile) tables first
    obtain ⟨hnone, hsome⟩ := contents_import_file hdone tables
    exact ⟨hok, merges_iff hnone hsome⟩
  · obtain ⟨next, hexport⟩ := start_export_json hcalm exported first
    obtain ⟨hok, hdone⟩ := import_succeeds hcalm (file_writes_exported hserde) .new next
    obtain ⟨hnone, hsome⟩ := contents_import_file hdone .new
    exact ⟨_, next, hexport, hok, same_but_times_of_exported hnone hsome⟩

/-- A group with one member. -/
def teamWithBob : GroupTables :=
  (GroupTables.new.replaceGroup ⟨⟨"team", sampleKey⟩, "2025-12-31 00:00:00"⟩).replaceMember
    ⟨⟨"team", "BOB_ADDR", none⟩, "2025-12-31 00:00:00"⟩ ⟨_, List.mem_singleton_self _, rfl⟩

/-- The group with another member. -/
def teamWithAlice : Entry where
  name := "team"
  psk := sampleKey
  members := [("ALICE_ADDR", some "alice")]

/-- A file with the second group. -/
def aliceFile : String :=
  "[\x7b\"members\":[\x7b\"address\":\"ALICE_ADDR\",\"label\":\"alice\"\x7d]," ++
  "\"name\":\"team\",\"psk\":" ++
  "\"0707070707070707070707070707070707070707070707070707070707070707\"\x7d]"

/-- The exported file of the first group. -/
def bobFile : String :=
  "[\n  \x7b\n    \"members\": [\n      \x7b\n        \"address\": \"BOB_ADDR\"\n" ++
  "      \x7d\n    ],\n    \"name\": \"team\",\n    \"psk\": " ++
  "\"0707070707070707070707070707070707070707070707070707070707070707\"\n  \x7d\n]"

/-- The value in the first file. -/
def aliceJson : Json :=
  groupJson ⟨⟨"team", sampleKey⟩, ""⟩ [⟨⟨"team", "ALICE_ADDR", some "alice"⟩, ""⟩]

/-- The libraries at the two files. -/
def sampleFormats : Formats where
  fromStr text :=
    if text = aliceFile then .ok [aliceJson]
    else if text = bobFile then .ok (exportedValues teamWithBob)
    else .error "expected value at line 1 column 1"
  toStringPretty _ := bobFile
  hexReason _ := "Odd number of digits"

/-- The first file has the second group. -/
theorem read_alice_file : readFile sampleFormats aliceFile = .ok [teamWithAlice] := by
  have hfile : sampleFormats.fromStr aliceFile = .ok [aliceJson] := by
    simp [sampleFormats]
  have hentry : readEntry sampleFormats aliceJson = .ok teamWithAlice := by
    rw [readEntry, aliceJson, read_group_group_json]
    rfl
  rw [readFile, hfile]
  show [aliceJson].mapM (readEntry sampleFormats) = _
  rw [List.mapM_cons, hentry]
  rfl

/-- The exported file is read back. -/
theorem read_bob_file : sampleFormats.fromStr
    (sampleFormats.toStringPretty (exportedValues teamWithBob)) =
      .ok (exportedValues teamWithBob) := by
  have hne : bobFile ≠ aliceFile := by decide
  simp [sampleFormats, hne]

/-- `import_merges_iff` for the two files and the first group. -/
theorem alice_file_merges_iff :
    ((∃ count,
        (start (importJson sampleFormats calm aliceFile) ⟨teamWithBob, 0⟩).1 = .ok count) ∧
      (Merges teamWithBob [teamWithAlice]
          (start (importJson sampleFormats calm aliceFile) ⟨teamWithBob, 0⟩).2.db ↔
        ListsAll teamWithBob [teamWithAlice])) ∧
    ∃ text next, start (exportJson sampleFormats calm) ⟨teamWithBob, 0⟩ =
        (.ok text, ⟨teamWithBob, next⟩) ∧
      (∃ count, (start (importJson sampleFormats calm text) ⟨.new, next⟩).1 = .ok count) ∧
      SameButTimes teamWithBob (start (importJson sampleFormats calm text) ⟨.new, next⟩).2.db :=
  import_merges_iff sampleFormats calm (fun _ => rfl) teamWithBob 0 read_alice_file teamWithBob
    read_bob_file

/-- The import of the first file removes the member of the store. -/
theorem alice_file_removes_bob :
    (∃ count, (start (importJson sampleFormats calm aliceFile) ⟨teamWithBob, 0⟩).1 = .ok count) ∧
      ¬ Merges teamWithBob [teamWithAlice]
        (start (importJson sampleFormats calm aliceFile) ⟨teamWithBob, 0⟩).2.db := by
  have hcalm : ∀ n, calm.fault n = none := fun _ => rfl
  obtain ⟨hok, hdone⟩ := import_succeeds hcalm (file_writes_of_read read_alice_file) teamWithBob 0
  obtain ⟨hnone, hsome⟩ := contents_import_file hdone teamWithBob
  refine ⟨hok, fun hmerges => ?_⟩
  have hlists := (merges_iff hnone hsome).mp hmerges
  have hbob := hlists "team" teamWithAlice rfl "BOB_ADDR" (.inr (by decide))
  exact absurd hbob (by decide)

end CorvidNano.Agent.GroupMerge
