import CorvidNano.Agent.Contacts

/-!
# The group store

`GroupStore` in `groups.rs` with the times of its rows. A member refers to a group, so removing a
group removes its members, and so does replacing it: SQLite deletes the row that is replaced.

`contents` is what the two tables are for: a key and a set of members for each name. The import
of groups from JSON is a batch of writes to it: `contents_import_json` says what an import makes of
each group, whether it fails or not.
-/

namespace CorvidNano.Agent.Groups

open Batch Contacts PskKeys

/-- A row of the table `groups`. -/
structure GroupRow extends Group where
  createdAt : String

/-- A row of the table `group_members`. -/
structure MemberRow extends GroupMember where
  addedAt : String

/-- The two tables. Every member refers to a group. -/
structure GroupTables where
  groups : Table fun row : GroupRow => row.name
  groupMembers : Table fun row : MemberRow => (row.groupName, row.address)
  references : ∀ member ∈ groupMembers.rows, ∃ group ∈ groups.rows, group.name = member.groupName

namespace GroupTables

/-- The tables that `open` creates. -/
def new : GroupTables where
  groups := Table.empty
  groupMembers := Table.empty
  references _ hmember := absurd hmember List.not_mem_nil

/-- `INSERT OR REPLACE INTO groups`. The members of the row that is replaced are deleted with
it. -/
def replaceGroup (tables : GroupTables) (row : GroupRow) : GroupTables where
  groups := tables.groups.insertOrReplace row
  groupMembers := tables.groupMembers.deleteWhere fun member => member.groupName = row.name
  references := by
    intro member hmember
    obtain ⟨hmember, hother⟩ := List.mem_filter.mp hmember
    obtain ⟨group, hgroup, hname⟩ := tables.references member hmember
    have hne : group.name ≠ row.name := by
      rw [hname]
      simpa using hother
    exact ⟨group, List.mem_append_left _ (List.mem_filter.mpr ⟨hgroup, decide_eq_true hne⟩), hname⟩

/-- `INSERT OR REPLACE INTO group_members`, for a group that is there. -/
def replaceMember (tables : GroupTables) (row : MemberRow)
    (h : ∃ group ∈ tables.groups.rows, group.name = row.groupName) : GroupTables where
  groups := tables.groups
  groupMembers := tables.groupMembers.insertOrReplace row
  references := by
    intro member hmember
    obtain hmember | hmember := List.mem_append.mp hmember
    · exact tables.references member (List.mem_of_mem_filter hmember)
    · obtain rfl := List.mem_singleton.mp hmember
      exact h

/-- `INSERT OR REPLACE INTO group_members`, which is refused for a group that is not there. -/
def insertMember (tables : GroupTables) (row : MemberRow) : Except StoreError GroupTables :=
  if h : ∃ group ∈ tables.groups.rows, group.name = row.groupName then
    .ok (tables.replaceMember row h)
  else .error (.database "FOREIGN KEY constraint failed")

/-- `INSERT INTO groups`, for a name that is not there. -/
def addGroup (tables : GroupTables) (row : GroupRow) : GroupTables where
  groups := tables.groups.insertOrIgnore row
  groupMembers := tables.groupMembers
  references := by
    intro member hmember
    obtain ⟨group, hgroup, hname⟩ := tables.references member hmember
    refine ⟨group, ?_, hname⟩
    unfold Table.insertOrIgnore
    split
    · exact hgroup
    · exact List.mem_append_left _ hgroup

/-- `DELETE FROM group_members`. -/
def deleteMembers (tables : GroupTables) (condition : MemberRow → Bool) : GroupTables where
  groups := tables.groups
  groupMembers := tables.groupMembers.deleteWhere condition
  references member hmember := tables.references member (List.mem_of_mem_filter hmember)

/-- `DELETE FROM groups` for a name. The members of the group are deleted with it. -/
def deleteGroup (tables : GroupTables) (name : String) : GroupTables where
  groups := tables.groups.deleteWhere fun row => row.name = name
  groupMembers := tables.groupMembers.deleteWhere fun member => member.groupName = name
  references := by
    intro member hmember
    obtain ⟨hmember, hother⟩ := List.mem_filter.mp hmember
    obtain ⟨group, hgroup, hname⟩ := tables.references member hmember
    refine ⟨group, List.mem_filter.mpr ⟨hgroup, ?_⟩, hname⟩
    simpa [hname] using hother

/-- The groups by name. -/
def list (tables : GroupTables) : List GroupRow :=
  (Table.RowOrder.stable fun row : GroupRow => row.name).arrange tables.groups.rows

/-- The members of a group by address. -/
def members (tables : GroupTables) (groupName : String) : List MemberRow :=
  (Table.RowOrder.stable fun row : MemberRow => row.address).arrange
    (tables.groupMembers.select fun member => member.groupName = groupName)

end GroupTables

variable (formats : Formats) (environment : Environment)

/-- The statement of `create_with_psk`. -/
def replaceGroup (name : String) (psk : Psk) : Program StoreError GroupTables Unit :=
  execute environment .database fun now tables => .ok (tables.replaceGroup ⟨⟨name, psk⟩, now⟩)

/-- `create_with_psk`. -/
def createWithPsk (name : String) (bytes : List UInt8) : Program StoreError GroupTables Unit := do
  let psk ← MonadExcept.ofExcept (checkPsk bytes)
  replaceGroup environment name psk

/-- `create`, with the random key that is drawn. -/
def create (name : String) (psk : Psk) : Program StoreError GroupTables Psk := do
  let refused : StoreError := .database ("Group \"" ++ name ++ "\" already exists")
  execute environment (fun _ => refused) fun now tables =>
    if (tables.groups.lookup name).isSome then .error refused
    else .ok (tables.addGroup ⟨⟨name, psk⟩, now⟩)
  pure psk

/-- `remove`: is there a group to remove? Its members are deleted first. -/
def remove (name : String) : Program StoreError GroupTables Bool := do
  let _ ← executeRows environment .database fun tables : GroupTables =>
    (tables.deleteMembers fun member => member.groupName = name,
      (tables.groupMembers.select fun member => member.groupName = name).length)
  let rows ← executeRows environment .database fun tables : GroupTables =>
    (tables.deleteGroup name, (tables.groups.select fun row => row.name = name).length)
  pure (0 < rows)

/-- `remove_member`: is there a member to remove? -/
def removeMember (groupName address : String) : Program StoreError GroupTables Bool := do
  let rows ← executeRows environment .database fun tables : GroupTables =>
    (tables.deleteMembers fun member => member.groupName = groupName ∧ member.address = address,
      (tables.groupMembers.select fun member =>
        member.groupName = groupName ∧ member.address = address).length)
  pure (0 < rows)

/-- `get`. -/
def get (name : String) : Program StoreError GroupTables (Option GroupRow) :=
  query environment .database fun tables => tables.groups.lookup name

/-- `add_member`. -/
def addMember (groupName address : String) (label : Option String) :
    Program StoreError GroupTables Unit := do
  match ← get environment groupName with
  | none => throw (.groupMissing groupName)
  | some _ =>
      execute environment .database fun now tables =>
        tables.insertMember ⟨⟨groupName, address, label⟩, now⟩

/-- `list`. -/
def list : Program StoreError GroupTables (List GroupRow) :=
  query environment .database GroupTables.list

/-- `members`. -/
def members (groupName : String) : Program StoreError GroupTables (List MemberRow) :=
  query environment .database fun tables => tables.members groupName

/-- A member as `export_json` writes it. -/
def memberJson (member : MemberRow) : Json :=
  .object (("address", .string member.address) ::
    match member.label with
    | some label => [("label", .string label)]
    | none => [])

/-- A group as `export_json` writes it. The members of an object are in the order of their
names. -/
def groupJson (group : GroupRow) (rows : List MemberRow) : Json :=
  .object [
    ("members", .array (rows.map memberJson)),
    ("name", .string group.name),
    ("psk", pskJson group.psk)]

/-- The loop of `export_json`. -/
def exportGroups : List GroupRow → Program StoreError GroupTables (List Json)
  | [] => pure []
  | group :: rest => do
      let rows ← members environment group.name
      let others ← exportGroups rest
      pure (groupJson group rows :: others)

/-- `export_json`. -/
def exportJson : Program StoreError GroupTables String := do
  let groups ← list environment
  let values ← exportGroups environment groups
  pure (formats.toStringPretty values)

/-- The inner loop of `import_json`. -/
def importMembers (name : String) : List Json → Program StoreError GroupTables Unit
  | [] => pure ()
  | member :: rest => do
      match member.getStr? "address" with
      | none => throw .missingMemberAddress
      | some address =>
          addMember environment name address (member.getStr? "label")
          importMembers name rest

/-- The body of the loop of `import_json`. -/
def importEntry (entry : Json) : Program StoreError GroupTables Unit := do
  let name ← MonadExcept.ofExcept (requireStr entry "name")
  let pskHex ← MonadExcept.ofExcept (requireStr entry "psk")
  let psk ← MonadExcept.ofExcept (decodeHex formats pskHex)
  createWithPsk environment name psk
  importMembers environment name (entry.getElements "members")

/-- The loop of `import_json`. -/
def importEntries (count : Nat) : List Json → Program StoreError GroupTables Nat
  | [] => pure count
  | entry :: rest => do
      importEntry formats environment entry
      importEntries (count + 1) rest

/-- `import_json`. -/
def importJson (json : String) : Program StoreError GroupTables Nat := do
  let entries ← MonadExcept.ofExcept ((formats.fromStr json).mapError .json)
  importEntries formats environment 0 entries

/-! ## What the tables are for -/

/-- A member of a group. -/
structure Member where
  label : Option String
  addedAt : String

/-- A group with its members by address. -/
structure GroupContents where
  psk : Psk
  createdAt : String
  members : String → Option Member

/-- The group with a member at an address. -/
def GroupContents.add (group : GroupContents) (address : String) (member : Member) :
    GroupContents :=
  { group with members := Function.update group.members address (some member) }

/-- The group with a name. -/
def contents (tables : GroupTables) (name : String) : Option GroupContents :=
  (tables.groups.lookup name).map fun group =>
    { psk := group.psk
      createdAt := group.createdAt
      members := fun address => (tables.groupMembers.lookup (name, address)).map fun member =>
        ⟨member.label, member.addedAt⟩ }

/-- A write of an import. -/
inductive GroupWrite where
  | replace (name : String) (psk : Psk)
  | put (name address : String) (label : Option String)

/-- The group that is written. -/
def GroupWrite.name : GroupWrite → String
  | .replace name _ => name
  | .put name _ _ => name

/-- What a write at a time makes of its group: a replaced group starts without members. -/
def GroupWrite.change (write : GroupWrite) (time : String) (group : Option GroupContents) :
    Option GroupContents :=
  match write with
  | .replace _ psk => some ⟨psk, time, fun _ => none⟩
  | .put _ address label => group.map fun group => group.add address ⟨label, time⟩

/-- A write changes the tables. -/
def applyWrite (tables : GroupTables) (write : GroupWrite × String) : GroupTables :=
  match write with
  | (.replace name psk, time) => tables.replaceGroup ⟨⟨name, psk⟩, time⟩
  | (.put name address label, time) =>
      match tables.insertMember ⟨⟨name, address, label⟩, time⟩ with
      | .ok after => after
      | .error _ => tables

/-- A group that is not there has no contents. -/
theorem contents_eq_none {tables : GroupTables} {name : String}
    (h : ¬ ∃ group ∈ tables.groups.rows, group.name = name) : contents tables name = none := by
  rw [contents, Option.map_eq_none_iff, Option.eq_none_iff_forall_not_mem]
  intro group hgroup
  exact h ⟨group, Table.mem_of_lookup_eq_some hgroup⟩

/-- A group has contents if there is a row for it. -/
theorem is_some_contents_iff {tables : GroupTables} {name : String} :
    (contents tables name).isSome ↔ ∃ group ∈ tables.groups.rows, group.name = name := by
  constructor
  · intro h
    by_contra hnone
    rw [contents_eq_none hnone] at h
    cases h
  · intro ⟨group, hgroup, hname⟩
    rw [contents, Option.isSome_map, ← hname, Table.lookup_of_mem hgroup]
    rfl

/-- A replaced group is the row, without members, and the others are as they were. -/
theorem contents_replace_group (tables : GroupTables) (row : GroupRow) (name : String) :
    contents (tables.replaceGroup row) name =
      if row.name = name then some ⟨row.psk, row.createdAt, fun _ => none⟩
      else contents tables name := by
  have hmembers : ∀ address, (tables.replaceGroup row).groupMembers.lookup (name, address) =
      if name = row.name then none else tables.groupMembers.lookup (name, address) := by
    intro address
    have h := tables.groupMembers.lookup_delete_where_key
      (fun k => decide (k.1 = row.name)) (name, address)
    simp only [decide_eq_true_eq] at h
    exact h
  have hgroup : (tables.replaceGroup row).groups.lookup name =
      if row.name = name then some row else tables.groups.lookup name :=
    Table.lookup_insert_or_replace _ _ _
  unfold contents
  simp only [hmembers, hgroup]
  by_cases h : row.name = name
  · simp [h]
  · simp [h, Ne.symm h]

/-- A replaced member is the only change. -/
theorem contents_replace_member (tables : GroupTables) (row : MemberRow)
    (h : ∃ group ∈ tables.groups.rows, group.name = row.groupName) (name : String) :
    contents (tables.replaceMember row h) name =
      if row.groupName = name then
        (contents tables name).map fun group => group.add row.address ⟨row.label, row.addedAt⟩
      else contents tables name := by
  have hmembers : ∀ address, (tables.replaceMember row h).groupMembers.lookup (name, address) =
      if (row.groupName, row.address) = (name, address) then some row
      else tables.groupMembers.lookup (name, address) :=
    fun address => Table.lookup_insert_or_replace _ _ _
  have hgroup : (tables.replaceMember row h).groups = tables.groups := rfl
  unfold contents
  simp only [hmembers, hgroup]
  by_cases hname : row.groupName = name
  · rw [if_pos hname, Option.map_map]
    refine congrArg (Option.map · _) (funext fun group => ?_)
    simp only [Function.comp, GroupContents.add, GroupContents.mk.injEq, true_and]
    funext address
    by_cases haddress : address = row.address
    · simp [haddress, hname]
    · simp [haddress, hname, Ne.symm haddress]
  · simp [hname]

/-- A write changes its own group only, and this as its contents. -/
theorem contents_apply (tables : GroupTables) (write : GroupWrite) (time name : String) :
    contents (applyWrite tables (write, time)) name =
      if write.name = name then write.change time (contents tables name)
      else contents tables name := by
  cases write with
  | replace groupName psk => exact contents_replace_group _ _ _
  | put groupName address label =>
      by_cases h : ∃ group ∈ tables.groups.rows, group.name = groupName
      · simp only [applyWrite, GroupTables.insertMember, dif_pos h]
        exact contents_replace_member _ _ h name
      · simp only [applyWrite, GroupTables.insertMember, dif_neg h]
        by_cases hname : (GroupWrite.put groupName address label).name = name
        · have hnone : contents tables name = none := by
            rw [← hname]
            exact contents_eq_none h
          rw [if_pos hname, hnone]
          rfl
        · rw [if_neg hname]

/-! ## The import as a batch of writes -/

/-- A group is there for the members that are added to it. -/
def Ready (tables : GroupTables) : GroupWrite → Prop
  | .replace _ _ => True
  | .put name _ _ => ∃ group ∈ tables.groups.rows, group.name = name

/-- How a write is performed. -/
def performWrite (environment : Environment) : GroupWrite → Program StoreError GroupTables Unit
  | .replace name psk => replaceGroup environment name psk
  | .put name address label => addMember environment name address label

/-- A group is replaced in one statement, a member is added in two: the first looks for the
group. -/
def statements : GroupWrite → Nat
  | .replace _ _ => 1
  | .put _ _ _ => 2

/-- A group that is there is found. -/
theorem lookup_of_exists {tables : GroupTables} {name : String}
    (h : ∃ group ∈ tables.groups.rows, group.name = name) :
    ∃ group, tables.groups.lookup name = some group := by
  obtain ⟨group, hgroup, rfl⟩ := h
  exact ⟨group, Table.lookup_of_mem hgroup⟩

/-- A member of a group that is there is inserted. -/
theorem insert_member_eq {tables : GroupTables} {name address time : String}
    {label : Option String} (h : ∃ group ∈ tables.groups.rows, group.name = name) :
    tables.insertMember ⟨⟨name, address, label⟩, time⟩ =
      .ok (applyWrite tables (.put name address label, time)) := by
  have hinsert : tables.insertMember ⟨⟨name, address, label⟩, time⟩ =
      .ok (tables.replaceMember ⟨⟨name, address, label⟩, time⟩ h) := dif_pos h
  rw [applyWrite, hinsert]

/-- A ready write changes the tables if its statements do not fail. -/
theorem perform_write_done (environment : Environment) (write : GroupWrite) (tables : GroupTables)
    (first : Nat) (hready : Ready tables write)
    (hquiet : Quiet environment first (statements write)) :
    start (performWrite environment write) ⟨tables, first⟩ =
      (.ok (), ⟨applyWrite tables (write, environment.now (first + (statements write - 1))),
        first + statements write⟩) := by
  cases write with
  | replace name psk =>
      show start (replaceGroup environment name psk) _ = _
      exact start_execute (quiet_one_iff.mp hquiet) rfl
  | put name address label =>
      obtain ⟨hget, hinsert⟩ := quiet_two_iff.mp hquiet
      obtain ⟨group, hgroup⟩ := lookup_of_exists hready
      rw [performWrite, addMember, start_bind, get, start_query hget, hgroup]
      exact start_execute hinsert (insert_member_eq hready)

/-- A ready write changes nothing if one of its statements fails. -/
theorem perform_write_failed (environment : Environment) (write : GroupWrite)
    (tables : GroupTables) (first : Nat) (hready : Ready tables write)
    (hfailed : ¬ Quiet environment first (statements write)) :
    ∃ error after, start (performWrite environment write) ⟨tables, first⟩ =
      (.error error, ⟨tables, after⟩) := by
  cases write with
  | replace name psk =>
      obtain ⟨reason, hfault⟩ := Option.ne_none_iff_exists'.mp (mt quiet_one_iff.mpr hfailed)
      refine ⟨.database reason, first + 1, ?_⟩
      show start (replaceGroup environment name psk) _ = _
      exact start_execute_fault hfault
  | put name address label =>
      rw [performWrite, addMember, start_bind, get]
      cases hget : environment.fault first with
      | some reason =>
          rw [start_query_fault hget]
          exact ⟨_, _, rfl⟩
      | none =>
          -- Only the second statement is left to fail.
          have hinsert : environment.fault (first + 1) ≠ none := fun hinsert =>
            hfailed (quiet_two_iff.mpr ⟨hget, hinsert⟩)
          obtain ⟨reason, hfault⟩ := Option.ne_none_iff_exists'.mp hinsert
          obtain ⟨group, hgroup⟩ := lookup_of_exists hready
          rw [start_query hget, hgroup]
          exact ⟨_, _, start_execute_fault hfault⟩

/-- The writes of an import. -/
def groupWrites : Writes StoreError GroupTables GroupWrite where
  perform := performWrite
  statements := statements
  Ready := Ready
  apply := applyWrite
  perform_done := perform_write_done
  perform_failed := perform_write_failed

variable (formats : Formats) (environment : Environment)

/-- The write of a member of an entry. -/
def memberWrite (name : String) (member : Json) : Except StoreError GroupWrite :=
  match member.getStr? "address" with
  | none => .error .missingMemberAddress
  | some address => .ok (.put name address (member.getStr? "label"))

/-- The group of an entry, apart from its members. -/
def readGroup (entry : Json) : Except StoreError Group := do
  let name ← requireStr entry "name"
  let pskHex ← requireStr entry "psk"
  let bytes ← decodeHex formats pskHex
  let psk ← checkPsk bytes
  .ok ⟨name, psk⟩

/-- The writes of an entry. -/
def entryWrites (entry : Json) : List (Except StoreError GroupWrite) :=
  match readGroup formats entry with
  | .error error => [.error error]
  | .ok group =>
      .ok (.replace group.name group.psk) ::
        (entry.getElements "members").map (memberWrite group.name)

/-- The writes of a file. -/
def fileWrites (json : String) : List (Except StoreError GroupWrite) :=
  match formats.fromStr json with
  | .error reason => [.error (.json reason)]
  | .ok entries => entries.flatMap (entryWrites formats)

/-- An exported group is read back. -/
theorem read_group_group_json (group : GroupRow) (rows : List MemberRow) :
    readGroup formats (groupJson group rows) = .ok group.toGroup := by
  have hname : requireStr (groupJson group rows) "name" = .ok group.name := rfl
  have hpsk : requireStr (groupJson group rows) "psk" =
      .ok (String.ofList (Digits.hexEncode group.psk.bytes)) := rfl
  unfold readGroup
  rw [hname, hpsk]
  show (decodeHex formats (String.ofList (Digits.hexEncode group.psk.bytes)) >>= _) = _
  rw [decode_hex_psk]
  show (checkPsk group.psk.bytes >>= _) = _
  rw [check_psk]
  rfl

/-- An exported member is read back. -/
theorem member_write_member_json (name : String) (member : MemberRow) :
    memberWrite name (memberJson member) = .ok (.put name member.address member.label) := by
  have haddress : (memberJson member).getStr? "address" = some member.address := rfl
  have hlabel : (memberJson member).getStr? "label" = member.label := by
    unfold memberJson
    cases member.label with
    | none => rfl
    | some label => rfl
  unfold memberWrite
  simp only [haddress, hlabel]

/-- The writes of an exported group replace it and add its members. -/
theorem entry_writes_group_json (group : GroupRow) (rows : List MemberRow) :
    entryWrites formats (groupJson group rows) =
      .ok (.replace group.name group.psk) ::
        rows.map fun member => .ok (.put group.name member.address member.label) := by
  have hmembers : (groupJson group rows).getElements "members" = rows.map memberJson := rfl
  unfold entryWrites
  simp only [read_group_group_json, hmembers, List.map_map, Function.comp_def,
    member_write_member_json]

/-- The inner loop performs the writes of the members. -/
theorem import_members_eq (name : String) (list : List Json) :
    importMembers environment name list =
      groupWrites.performAll environment (list.map (memberWrite name)) := by
  induction list with
  | nil => rfl
  | cons member rest ih =>
      rw [importMembers, List.map_cons]
      cases haddress : member.getStr? "address" with
      | none => simp only [memberWrite, haddress, Writes.performAll]
      | some address =>
          simp only [memberWrite, haddress, Writes.performAll, ih]
          rfl

/-- An entry is imported by its writes. -/
theorem import_entry_eq (entry : Json) :
    importEntry formats environment entry =
      groupWrites.performAll environment (entryWrites formats entry) := by
  have hwrites : groupWrites.performAll environment (entryWrites formats entry) = (do
      let group ← MonadExcept.ofExcept (readGroup formats entry)
      replaceGroup environment group.name group.psk
      importMembers environment group.name (entry.getElements "members")) := by
    unfold entryWrites
    cases readGroup formats entry with
    | error error => rfl
    | ok group =>
        simp only [import_members_eq, of_except_ok, pure_bind]
        rfl
  rw [hwrites]
  simp only [importEntry, createWithPsk, readGroup, of_except_bind, of_except_ok, bind_assoc,
    pure_bind]

/-- The import performs the writes of its file. -/
theorem import_json_eq (json : String) :
    ∃ count, importJson formats environment json = (do
      groupWrites.performAll environment (fileWrites formats json)
      pure count) := by
  unfold importJson fileWrites
  cases formats.fromStr json with
  | error reason => exact ⟨0, rfl⟩
  | ok entries =>
      have hloop : ∀ count entry rest, importEntries formats environment count (entry :: rest) =
          (do
            groupWrites.performAll environment (entryWrites formats entry)
            importEntries formats environment (count + 1) rest) := by
        intro count entry rest
        rw [importEntries, import_entry_eq]
      exact ⟨_, Writes.loop_eq (entryWrites formats) (fun _ => rfl) hloop 0 entries⟩

/-- A group that is there is still there after a write. -/
theorem exists_group_apply {tables : GroupTables} {write : GroupWrite} {time name : String}
    (h : ∃ group ∈ tables.groups.rows, group.name = name) :
    ∃ group ∈ (applyWrite tables (write, time)).groups.rows, group.name = name := by
  rw [← is_some_contents_iff] at h ⊢
  rw [contents_apply]
  split
  · cases write with
    | replace groupName psk => rfl
    | put groupName address label => rwa [GroupWrite.change, Option.isSome_map]
  · exact h

/-- A group that is replaced is there. -/
theorem exists_group_replaced {tables : GroupTables} {psk : Psk} {time name : String} :
    ∃ group ∈ (applyWrite tables (.replace name psk, time)).groups.rows, group.name = name := by
  have hname : (GroupWrite.replace name psk).name = name := rfl
  rw [← is_some_contents_iff, contents_apply, if_pos hname]
  rfl

/-- The writes of members are ready where their group is there. -/
theorem members_ready {tables : GroupTables} {name : String} {list : List Json}
    {rest : List (Except StoreError GroupWrite)}
    (h : ∃ group ∈ tables.groups.rows, group.name = name)
    (hrest : ∀ tables, groupWrites.AllReady tables rest) :
    groupWrites.AllReady tables (list.map (memberWrite name) ++ rest) := by
  induction list generalizing tables with
  | nil => exact hrest tables
  | cons member list ih =>
      rw [List.map_cons, List.cons_append]
      unfold memberWrite
      split
      · trivial
      · exact ⟨h, fun time => ih (exists_group_apply h)⟩

/-- The writes of entries are ready: every entry replaces its group before it adds members. -/
theorem entries_ready (tables : GroupTables) (entries : List Json) :
    groupWrites.AllReady tables (entries.flatMap (entryWrites formats)) := by
  induction entries generalizing tables with
  | nil => trivial
  | cons entry rest ih =>
      rw [List.flatMap_cons]
      unfold entryWrites
      split
      · trivial
      · exact ⟨trivial, fun time => members_ready exists_group_replaced ih⟩

/-- The writes of a file are ready. -/
theorem file_ready (tables : GroupTables) (json : String) :
    groupWrites.AllReady tables (fileWrites formats json) := by
  unfold fileWrites
  split
  · trivial
  · exact entries_ready formats tables _

/-- The writes that an import does before its first error, with their times. The import starts
with statement `first`. -/
def doneWrites (first : Nat) (json : String) : List (GroupWrite × String) :=
  groupWrites.done environment first (fileWrites formats json)

/-- What an import leaves, whether it fails or not. -/
theorem db_import_json (tables : GroupTables) (first : Nat) (json : String) :
    (start (importJson formats environment json) ⟨tables, first⟩).2.db =
      (doneWrites formats environment first json).foldl applyWrite tables := by
  obtain ⟨count, hjson⟩ := import_json_eq formats environment json
  rw [hjson, start_then_pure]
  exact Writes.db_perform_all environment first (file_ready formats tables json)

/-! ## What an import leaves -/

/-- What the writes make of a group. -/
def replay (writes : List (GroupWrite × String)) (name : String)
    (group : Option GroupContents) : Option GroupContents :=
  writes.foldl
    (fun group write => if write.1.name = name then write.1.change write.2 group else group) group

/-- The contents after some writes. -/
theorem contents_foldl (tables : GroupTables) (writes : List (GroupWrite × String))
    (name : String) :
    contents (writes.foldl applyWrite tables) name = replay writes name (contents tables name) := by
  induction writes generalizing tables with
  | nil => rfl
  | cons write rest ih =>
      rw [List.foldl_cons, ih, contents_apply]
      rfl

/-- Writes of other groups leave a group as it is. -/
theorem replay_of_not_written {writes : List (GroupWrite × String)} {name : String}
    (h : ¬ ∃ write ∈ writes, write.1.name = name) (group : Option GroupContents) :
    replay writes name group = group := by
  induction writes with
  | nil => rfl
  | cons write rest ih =>
      have hwrite : write.1.name ≠ name := fun hname => h ⟨write, List.mem_cons_self, hname⟩
      have hrest := ih fun ⟨other, hmem, hother⟩ => h ⟨other, List.mem_cons_of_mem _ hmem, hother⟩
      simpa [replay, hwrite] using hrest

/-- An import makes of each group what its writes make of it. -/
theorem contents_import_json (tables : GroupTables) (first : Nat) (json name : String) :
    contents (start (importJson formats environment json) ⟨tables, first⟩).2.db name =
      replay (doneWrites formats environment first json) name (contents tables name) := by
  rw [db_import_json, contents_foldl]

/-- An environment without failures. -/
def calm : Environment where
  now _ := "2026-01-01 00:00:00"
  fault _ := none

/-- A key of 32 sevens. -/
def sampleKey : Psk := ⟨List.replicate 32 7, rfl⟩

end CorvidNano.Agent.Groups
