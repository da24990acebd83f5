import CorvidNano.Agent.Groups

/-!
# Imports that fail

An import of contacts or of groups has no transaction around its writes. A failed one leaves what
it wrote before the error: `failed_imports_leave` says what this is, and for which stores and files
it changes nothing.
-/

namespace CorvidNano.Agent.FailedImports

open Batch Contacts Groups PskKeys

/-- Two stores have the same groups with the same members. Every member has a group, so these are
all their rows. -/
def SameGroups (first second : GroupTables) : Prop :=
  ∀ name, contents first name = contents second name

/-- Every group that is written is what its writes make of nothing. -/
def HoldsWritten (tables : GroupTables) (writes : List (GroupWrite × String)) : Prop :=
  ∀ name, (∃ write ∈ writes, write.1.name = name) →
    contents tables name = replay writes name none

variable {formats : Formats} {environment : Environment}

/-- The first write of a group replaces it, so what was there before does not matter. -/
theorem replay_done {tables : GroupTables} {first : Nat} {name : String}
    {batch : List (Except StoreError GroupWrite)} (hready : groupWrites.AllReady tables batch)
    (hnone : contents tables name = none)
    (hwritten : ∃ write ∈ groupWrites.done environment first batch, write.1.name = name)
    (group : Option GroupContents) :
    replay (groupWrites.done environment first batch) name group =
      replay (groupWrites.done environment first batch) name none := by
  induction batch generalizing tables first with
  | nil =>
      obtain ⟨write, hmem, -⟩ := hwritten
      cases hmem
  | cons item rest ih =>
      cases item with
      | error error =>
          obtain ⟨write, hmem, -⟩ := hwritten
          cases hmem
      | ok write =>
          obtain ⟨hwrite, hrest⟩ := hready
          obtain ⟨other, hmem, hother⟩ := hwritten
          rw [Writes.done] at hmem ⊢
          split
          · rename_i hquiet
            rw [if_pos hquiet] at hmem
            by_cases hname : write.name = name
            · cases write with
              | replace groupName psk => simp [replay, GroupWrite.change, hname]
              | put groupName address label =>
                  -- There is no group that the member could be added to.
                  obtain rfl : groupName = name := hname
                  have hsome := is_some_contents_iff.mpr hwrite
                  rw [hnone] at hsome
                  cases hsome
            · obtain rfl | hmem := List.mem_cons.mp hmem
              · exact absurd hother hname
              · have hstill : contents (applyWrite tables (write, "")) name = none := by
                  rw [contents_apply, if_neg hname, hnone]
                have hsame := ih (hrest "") hstill ⟨other, hmem, hother⟩
                simpa [replay, hname] using hsame
          · rename_i hfailed
            rw [if_neg hfailed] at hmem
            cases hmem

/-- What was there before does not matter to a group that an import writes. -/
theorem replay_written {first : Nat} {json name : String}
    (hwritten : ∃ write ∈ doneWrites formats environment first json, write.1.name = name)
    (group : Option GroupContents) :
    replay (doneWrites formats environment first json) name group =
      replay (doneWrites formats environment first json) name none := by
  have hnone : contents GroupTables.new name = none := rfl
  exact replay_done (file_ready formats .new json) hnone hwritten group

/-- An import leaves the groups as they were if and only if every group that it writes before its
first error is there already, just as the writes make it. -/
theorem same_groups_iff (tables : GroupTables) (first : Nat) (json : String) :
    SameGroups tables (start (Groups.importJson formats environment json) ⟨tables, first⟩).2.db ↔
      HoldsWritten tables (doneWrites formats environment first json) := by
  unfold SameGroups HoldsWritten
  refine forall_congr' fun name => ?_
  rw [contents_import_json]
  by_cases hwritten : ∃ write ∈ doneWrites formats environment first json, write.1.name = name
  · rw [replay_written hwritten]
    exact ⟨fun h _ => h, fun h => h hwritten⟩
  · rw [replay_of_not_written hwritten]
    exact ⟨fun _ h => absurd h hwritten, fun _ => rfl⟩

/-- An import that fails does not do all writes of its file. -/
theorem done_writes_lt_of_error {tables : GroupTables} {first : Nat} {json : String}
    {error : StoreError}
    (herror : (start (Groups.importJson formats environment json) ⟨tables, first⟩).1 =
      .error error) :
    (doneWrites formats environment first json).length < (fileWrites formats json).length := by
  obtain ⟨count, hjson⟩ := Groups.import_json_eq formats environment json
  rw [hjson, start_then_pure] at herror
  exact Writes.done_lt_of_error (file_ready formats tables json) (error_of_map_eq_error herror)

/-- What an import of contacts leaves that fails: the contacts of a proper initial part of its
file in the place of those with their names, which changes nothing only if they are there. -/
structure LeavesContacts (before after : ContactTable) (file : List (Except StoreError Contact))
    (rows : List ContactRow) : Prop where
  initial : rows.map (fun row => .ok row.toContact) <+: file
  proper : rows.length < file.length
  lookup : ∀ name, after.lookup name =
    (rows.reverse.find? fun row => row.name = name).or (before.lookup name)
  same_iff : SameContacts before after ↔ HoldsLast before rows

/-- What an import of groups leaves that fails: the writes of a proper initial part of its file.
They make a group anew that they write, which changes nothing only if it is there. -/
structure LeavesGroups (before after : GroupTables) (file : List (Except StoreError GroupWrite))
    (writes : List (GroupWrite × String)) : Prop where
  initial : writes.map (fun write => .ok write.1) <+: file
  proper : writes.length < file.length
  written : ∀ name, (∃ write ∈ writes, write.1.name = name) →
    contents after name = replay writes name none
  unwritten : ∀ name, ¬ (∃ write ∈ writes, write.1.name = name) →
    contents after name = contents before name
  same_iff : SameGroups before after ↔ HoldsWritten before writes

/-- An import that fails, of contacts or of groups, leaves what it wrote before its first error,
and nothing else. -/
theorem failed_imports_leave (formats : Formats) (environment : Environment) :
    (∀ (table : ContactTable) (first : Nat) (json : String) (error : StoreError),
      (start (Contacts.importJson formats environment json) ⟨table, first⟩).1 = .error error →
      LeavesContacts table
        (start (Contacts.importJson formats environment json) ⟨table, first⟩).2.db
        (Contacts.readFile formats json) (writtenRows formats environment first json)) ∧
    ∀ (tables : GroupTables) (first : Nat) (json : String) (error : StoreError),
      (start (Groups.importJson formats environment json) ⟨tables, first⟩).1 = .error error →
      LeavesGroups tables (start (Groups.importJson formats environment json) ⟨tables, first⟩).2.db
        (fileWrites formats json) (doneWrites formats environment first json) := by
  constructor
  · intro table first json error herror
    exact ⟨written_rows_initial first json, written_rows_lt_of_error herror,
      lookup_import_json table first json, same_contacts_iff table first json⟩
  · intro tables first json error herror
    refine ⟨Writes.done_initial first _, done_writes_lt_of_error herror, ?_, ?_,
      same_groups_iff tables first json⟩
    · intro name hwritten
      rw [contents_import_json, replay_written hwritten]
    · intro name hunwritten
      rw [contents_import_json, replay_of_not_written hunwritten]

/-- A contact. -/
def alice : Contact := ⟨"alice", "ALICE_ADDR", sampleKey⟩

/-- A file of a contact and of an entry without an address. -/
def brokenContacts : String :=
  "[\x7b\"address\":\"ALICE_ADDR\",\"name\":\"alice\",\"psk\":" ++
  "\"0707070707070707070707070707070707070707070707070707070707070707\"\x7d," ++
  "\x7b\"name\":\"bob\"\x7d]"

/-- A file of a group without members and of an entry without a key. -/
def brokenGroups : String :=
  "[\x7b\"members\":[],\"name\":\"team\",\"psk\":" ++
  "\"0707070707070707070707070707070707070707070707070707070707070707\"\x7d," ++
  "\x7b\"name\":\"other\"\x7d]"

/-- The libraries at the two files. -/
def sampleFormats : Formats where
  fromStr text :=
    if text = brokenContacts then .ok [contactJson alice, .object [("name", .string "bob")]]
    else if text = brokenGroups then
      .ok [groupJson ⟨⟨"team", sampleKey⟩, ""⟩ [], .object [("name", .string "other")]]
    else .error "expected value at line 1 column 1"
  toStringPretty _ := "[]"
  hexReason _ := "Odd number of digits"

/-- The first file has a contact and an error. -/
theorem read_broken_contacts : Contacts.readFile sampleFormats brokenContacts =
    [.ok alice, .error (.missingField "address")] := by
  have hfile : sampleFormats.fromStr brokenContacts =
      .ok [contactJson alice, .object [("name", .string "bob")]] := by
    simp [sampleFormats]
  rw [Contacts.readFile, hfile]
  show [readEntry sampleFormats (contactJson alice), _] = _
  rw [read_entry_contact_json]
  rfl

/-- The second file has a group and an error. -/
theorem read_broken_groups : fileWrites sampleFormats brokenGroups =
    [.ok (.replace "team" sampleKey), .error (.missingField "psk")] := by
  have hne : brokenGroups ≠ brokenContacts := by decide
  have hfile : sampleFormats.fromStr brokenGroups =
      .ok [groupJson ⟨⟨"team", sampleKey⟩, ""⟩ [], .object [("name", .string "other")]] := by
    simp [sampleFormats, hne]
  unfold fileWrites
  simp only [hfile, List.flatMap_cons, entry_writes_group_json]
  rfl

/-- The import of the first file fails at the second entry. -/
theorem broken_contacts_fail :
    (start (Contacts.importJson sampleFormats calm brokenContacts) ⟨Table.empty, 0⟩).1 =
      .error (.missingField "address") := by
  obtain ⟨count, hjson⟩ := Contacts.import_json_eq sampleFormats calm brokenContacts
  rw [hjson, start_then_pure, read_broken_contacts]
  rfl

/-- The import of the second file fails at the second entry. -/
theorem broken_groups_fail :
    (start (Groups.importJson sampleFormats calm brokenGroups) ⟨.new, 0⟩).1 =
      .error (.missingField "psk") := by
  obtain ⟨count, hjson⟩ := Groups.import_json_eq sampleFormats calm brokenGroups
  rw [hjson, start_then_pure, read_broken_groups]
  rfl

/-- `failed_imports_leave` for the import of the two files into empty stores. -/
theorem broken_files_leave :
    LeavesContacts Table.empty
        (start (Contacts.importJson sampleFormats calm brokenContacts) ⟨Table.empty, 0⟩).2.db
        (Contacts.readFile sampleFormats brokenContacts)
        (writtenRows sampleFormats calm 0 brokenContacts) ∧
      LeavesGroups .new
        (start (Groups.importJson sampleFormats calm brokenGroups) ⟨.new, 0⟩).2.db
        (fileWrites sampleFormats brokenGroups) (doneWrites sampleFormats calm 0 brokenGroups) :=
  ⟨(failed_imports_leave sampleFormats calm).1 _ _ _ _ broken_contacts_fail,
    (failed_imports_leave sampleFormats calm).2 _ _ _ _ broken_groups_fail⟩

/-- The imports of the two files fail and leave the entries before the broken ones in the
stores. -/
theorem failed_imports_keep_entries :
    ((start (Contacts.importJson sampleFormats calm brokenContacts) ⟨Table.empty, 0⟩).1 =
        .error (.missingField "address") ∧
      ¬ SameContacts Table.empty
        (start (Contacts.importJson sampleFormats calm brokenContacts) ⟨Table.empty, 0⟩).2.db) ∧
    (start (Groups.importJson sampleFormats calm brokenGroups) ⟨.new, 0⟩).1 =
        .error (.missingField "psk") ∧
      ¬ SameGroups .new
        (start (Groups.importJson sampleFormats calm brokenGroups) ⟨.new, 0⟩).2.db := by
  refine ⟨⟨broken_contacts_fail, fun hsame => ?_⟩, broken_groups_fail, fun hsame => ?_⟩
  · have hrows : writtenRows sampleFormats calm 0 brokenContacts =
        [⟨alice, "2026-01-01 00:00:00"⟩] := by
      rw [writtenRows, read_broken_contacts]
      rfl
    have hheld := (same_contacts_iff _ _ _).mp hsame
    rw [hrows] at hheld
    cases hheld "alice" _ rfl
  · have hwrites : doneWrites sampleFormats calm 0 brokenGroups =
        [(.replace "team" sampleKey, "2026-01-01 00:00:00")] := by
      rw [doneWrites, read_broken_groups]
      rfl
    have hheld := (same_groups_iff _ _ _).mp hsame
    rw [hwrites] at hheld
    cases hheld "team" ⟨_, List.mem_singleton_self _, rfl⟩

end CorvidNano.Agent.FailedImports
