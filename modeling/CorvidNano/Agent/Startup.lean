import CorvidNano.Agent.Groups

/-!
# Start-up with stored contacts and groups

The operations on the two stores, and the commands that register what is stored: `cmd_run` and
`cmd_send`. The keys of both stores have 32 bytes, which every operation that writes one checks.
`cmd_run` slices the address of a member without a label to its eighth byte, which no operation
checks: `starts_up_after_run` says that the commands start up after every run of operations that
add only members they can label.
-/

namespace CorvidNano.Agent.Startup

open Batch Contacts Groups PskKeys

/-- The two stores of a data directory. -/
structure Stores where
  contacts : ContactTable
  groups : GroupTables

/-- The stores that `open` creates. -/
def Stores.new : Stores where
  contacts := Table.empty
  groups := .new

/-- The contacts that the commands list. -/
def contactStore (table : ContactTable) : ContactStore where
  contacts :=
    { rows := table.rows.map ContactRow.toContact
      keys_nodup := by
        rw [List.map_map]
        exact table.keys_nodup }

/-- The groups and members that the commands list. -/
def groupStore (tables : GroupTables) : GroupStore where
  groups :=
    { rows := tables.groups.rows.map GroupRow.toGroup
      keys_nodup := by
        rw [List.map_map]
        exact tables.groups.keys_nodup }
  groupMembers :=
    { rows := tables.groupMembers.rows.map MemberRow.toGroupMember
      keys_nodup := by
        rw [List.map_map]
        exact tables.groupMembers.keys_nodup }

/-- An operation on one of the stores. The key of a new group is random. -/
inductive Operation where
  | addContact (name address : String) (psk : List UInt8)
  | upsertContact (name address : String) (psk : List UInt8)
  | removeContact (name : String)
  | importContacts (json : String)
  | createGroup (name : String) (psk : Psk)
  | createGroupWithPsk (name : String) (psk : List UInt8)
  | addMember (groupName address : String) (label : Option String)
  | removeMember (groupName address : String)
  | removeGroup (name : String)
  | importGroups (json : String)

/-- An operation, and what the clock shows and which statements fail while it runs. -/
structure Command where
  operation : Operation
  environment : Environment

/-- The stores after a program on the contacts, whether it fails or not. -/
def Stores.onContacts {α : Type} (stores : Stores)
    (program : Program StoreError ContactTable α) : Stores :=
  { stores with contacts := (start program ⟨stores.contacts, 0⟩).2.db }

/-- The stores after a program on the groups, whether it fails or not. -/
def Stores.onGroups {α : Type} (stores : Stores)
    (program : Program StoreError GroupTables α) : Stores :=
  { stores with groups := (start program ⟨stores.groups, 0⟩).2.db }

/-- What a command does to the stores. -/
def step (formats : Formats) (stores : Stores) (command : Command) : Stores :=
  let environment := command.environment
  match command.operation with
  | .addContact name address psk => stores.onContacts (add environment name address psk)
  | .upsertContact name address psk => stores.onContacts (upsert environment name address psk)
  | .removeContact name => stores.onContacts (Contacts.remove environment name)
  | .importContacts json => stores.onContacts (Contacts.importJson formats environment json)
  | .createGroup name psk => stores.onGroups (create environment name psk)
  | .createGroupWithPsk name psk => stores.onGroups (createWithPsk environment name psk)
  | .addMember groupName address label =>
      stores.onGroups (Groups.addMember environment groupName address label)
  | .removeMember groupName address => stores.onGroups (removeMember environment groupName address)
  | .removeGroup name => stores.onGroups (Groups.remove environment name)
  | .importGroups json => stores.onGroups (Groups.importJson formats environment json)

/-- The stores after some commands. -/
def after (formats : Formats) (commands : List Command) : Stores :=
  commands.foldl (step formats) .new

/-- The stored keys have 32 bytes, `cmd_run` registers all contacts and members without a panic,
and `cmd_send` registers the members of every group that has some. -/
structure StartsUp (agentAddress : String) (stores : Stores) : Prop where
  contact_keys : ∀ row ∈ stores.contacts.rows, row.psk.bytes.length = 32
  group_keys : ∀ row ∈ stores.groups.groups.rows, row.psk.bytes.length = 32
  run : ∀ (algochat : AlgoChat) (client : algochat.Client),
    (cmdRun algochat client agentAddress (some (contactStore stores.contacts))
      (some (groupStore stores.groups))).isSome = true
  send : ∀ (algochat : AlgoChat) (client : algochat.Client),
    ∀ group ∈ (groupStore stores.groups).list, (groupStore stores.groups).members group.name ≠ [] →
      ∃ registered sent, cmdSend algochat client agentAddress
        (some (contactStore stores.contacts)) (some (groupStore stores.groups)) group.name =
          .ok (registered, sent)

/-- A member that start-up can label: the agent itself, one with a label, or one whose address has
a boundary at its eighth byte. -/
def CanLabel (agentAddress address : String) (label : Option String) : Prop :=
  address ≠ agentAddress → label = none → Utf8.IsBoundary 8 address.toList

/-- An operation adds only members that start-up can label. -/
def AddsLabelled (formats : Formats) (agentAddress : String) : Operation → Prop
  | .addMember _ address label => CanLabel agentAddress address label
  | .importGroups json => ∀ name address label,
      .ok (.put name address label) ∈ fileWrites formats json →
        CanLabel agentAddress address label
  | _ => True

/-- The commands start up exactly with the stores whose members `cmd_run` can label. -/
theorem starts_up_iff (agentAddress : String) (stores : Stores) :
    StartsUp agentAddress stores ↔ Labelled agentAddress (some (groupStore stores.groups)) := by
  have hrun : ∀ (algochat : AlgoChat) (client : algochat.Client),
      (cmdRun algochat client agentAddress (some (contactStore stores.contacts))
        (some (groupStore stores.groups))).isSome = true ↔
        Labelled agentAddress (some (groupStore stores.groups)) := by
    intro algochat client
    rw [cmdRun, Option.isSome_map, is_some_run_contacts]
  constructor
  · intro h
    exact (hrun .latest fun _ => none).mp (h.run _ _)
  · intro h
    exact {
      contact_keys := fun row _ => row.psk.length_eq
      group_keys := fun row _ => row.psk.length_eq
      run := fun algochat client => (hrun algochat client).mpr h
      send := fun algochat client group hgroup hmembers =>
        ⟨_, _, cmd_send_of_get (get_of_mem_list hgroup) hmembers⟩ }

/-! ## What the operations keep -/

/-- Start-up can label all members. -/
def AllLabelled (agentAddress : String) (tables : GroupTables) : Prop :=
  ∀ row ∈ tables.groupMembers.rows, CanLabel agentAddress row.address row.label

variable {formats : Formats} {agentAddress : String}

/-- Fewer members can be labelled too. -/
theorem AllLabelled.subset {tables fewer : GroupTables} (h : AllLabelled agentAddress tables)
    (hsubset : fewer.groupMembers.rows ⊆ tables.groupMembers.rows) :
    AllLabelled agentAddress fewer :=
  fun row hrow => h row (hsubset hrow)

/-- The members that are kept are members. -/
theorem delete_where_subset (tables : GroupTables) (condition : MemberRow → Bool) :
    (tables.groupMembers.deleteWhere condition).rows ⊆ tables.groupMembers.rows :=
  fun _ hrow => List.mem_of_mem_filter hrow

/-- A member that can be labelled may be inserted. -/
theorem AllLabelled.insert_member {tables inserted : GroupTables} {row : MemberRow}
    (h : AllLabelled agentAddress tables) (hrow : CanLabel agentAddress row.address row.label)
    (hinsert : tables.insertMember row = .ok inserted) : AllLabelled agentAddress inserted := by
  unfold GroupTables.insertMember at hinsert
  split at hinsert
  · obtain rfl := Except.ok.inj hinsert
    intro other hother
    rcases List.mem_append.mp hother with hold | hnew
    · exact h other (List.mem_of_mem_filter hold)
    · exact List.mem_singleton.mp hnew ▸ hrow
  · cases hinsert

/-- A write of an import that adds only members that can be labelled. -/
theorem AllLabelled.apply_write {tables : GroupTables} {write : GroupWrite} {time : String}
    (h : AllLabelled agentAddress tables)
    (hwrite : ∀ name address label, write = .put name address label →
      CanLabel agentAddress address label) :
    AllLabelled agentAddress (applyWrite tables (write, time)) := by
  cases write with
  | replace name psk => exact h.subset (delete_where_subset tables _)
  | put name address label =>
      unfold applyWrite
      dsimp only
      split
      · rename_i inserted hinsert
        exact h.insert_member (hwrite name address label rfl) hinsert
      · exact h

/-- Several such writes. -/
theorem AllLabelled.foldl_apply_write {tables : GroupTables}
    {writes : List (GroupWrite × String)} (h : AllLabelled agentAddress tables)
    (hwrites : ∀ write ∈ writes, ∀ name address label, write.1 = .put name address label →
      CanLabel agentAddress address label) :
    AllLabelled agentAddress (writes.foldl applyWrite tables) := by
  induction writes generalizing tables with
  | nil => exact h
  | cons write rest ih =>
      obtain ⟨hwrite, hrest⟩ := List.forall_mem_cons.mp hwrites
      exact ih (h.apply_write hwrite) hrest

theorem preserves_create (environment : Environment) (name : String) (psk : Psk) :
    Preserves (AllLabelled agentAddress) (create environment name psk) := by
  refine preserves_bind (preserves_execute fun now tables created h hcreated => ?_)
    fun _ => preserves_pure _
  split at hcreated
  · cases hcreated
  · obtain rfl := Except.ok.inj hcreated
    exact h.subset fun _ hrow => hrow

theorem preserves_create_with_psk (environment : Environment) (name : String)
    (bytes : List UInt8) :
    Preserves (AllLabelled agentAddress) (createWithPsk environment name bytes) := by
  refine preserves_bind (preserves_of_except _) fun psk =>
    preserves_execute fun now tables created h hcreated => ?_
  obtain rfl := Except.ok.inj hcreated
  exact h.subset (delete_where_subset tables _)

theorem preserves_add_member (environment : Environment) (groupName address : String)
    {label : Option String} (hlabel : CanLabel agentAddress address label) :
    Preserves (AllLabelled agentAddress)
      (Groups.addMember environment groupName address label) := by
  refine preserves_bind (preserves_query _ _ _) fun group => ?_
  cases group with
  | none => exact preserves_throw _
  | some group =>
      exact preserves_execute fun now tables inserted h hinsert => h.insert_member hlabel hinsert

theorem preserves_remove_member (environment : Environment) (groupName address : String) :
    Preserves (AllLabelled agentAddress) (removeMember environment groupName address) :=
  preserves_bind
    (preserves_execute_rows fun tables h => h.subset (delete_where_subset tables _))
    fun _ => preserves_pure _

theorem preserves_remove (environment : Environment) (name : String) :
    Preserves (AllLabelled agentAddress) (Groups.remove environment name) :=
  preserves_bind
    (preserves_execute_rows fun tables h => h.subset (delete_where_subset tables _)) fun _ =>
      preserves_bind
        (preserves_execute_rows fun tables h => h.subset (delete_where_subset tables _))
        fun _ => preserves_pure _

/-- An import of members that can be labelled, whether it fails or not. -/
theorem AllLabelled.import_json {tables : GroupTables} (h : AllLabelled agentAddress tables)
    (environment : Environment) {json : String}
    (hjson : ∀ name address label, .ok (.put name address label) ∈ fileWrites formats json →
      CanLabel agentAddress address label) :
    AllLabelled agentAddress
      (start (Groups.importJson formats environment json) ⟨tables, 0⟩).2.db := by
  rw [Groups.db_import_json]
  refine h.foldl_apply_write fun write hwrite name address label hput => ?_
  have hinitial : (groupWrites.done environment 0 (fileWrites formats json)).map
      (fun item => .ok item.1) <+: fileWrites formats json :=
    Writes.done_initial 0 (fileWrites formats json)
  refine hjson name address label (hinitial.subset ?_)
  exact List.mem_map.mpr ⟨write, hwrite, congrArg _ hput⟩

/-- A command that adds only members that can be labelled. -/
theorem all_labelled_step {stores : Stores} {command : Command}
    (h : AllLabelled agentAddress stores.groups)
    (hcommand : AddsLabelled formats agentAddress command.operation) :
    AllLabelled agentAddress (step formats stores command).groups := by
  obtain ⟨operation, environment⟩ := command
  cases operation with
  | addContact name address psk => exact h
  | upsertContact name address psk => exact h
  | removeContact name => exact h
  | importContacts json => exact h
  | createGroup name psk => exact preserves_create environment name psk _ h
  | createGroupWithPsk name psk => exact preserves_create_with_psk environment name psk _ h
  | addMember groupName address label =>
      exact preserves_add_member environment groupName address hcommand _ h
  | removeMember groupName address => exact preserves_remove_member environment groupName address _ h
  | removeGroup name => exact preserves_remove environment name _ h
  | importGroups json => exact h.import_json environment hcommand

/-- Some commands that add only such members. -/
theorem all_labelled_after {commands : List Command}
    (h : ∀ command ∈ commands, AddsLabelled formats agentAddress command.operation) :
    AllLabelled agentAddress (after formats commands).groups := by
  have hfrom : ∀ (commands : List Command) (stores : Stores),
      (∀ command ∈ commands, AddsLabelled formats agentAddress command.operation) →
      AllLabelled agentAddress stores.groups →
      AllLabelled agentAddress (commands.foldl (step formats) stores).groups := by
    intro commands
    induction commands with
    | nil => exact fun _ _ hstores => hstores
    | cons command rest ih =>
        intro stores hcommands hstores
        obtain ⟨hcommand, hrest⟩ := List.forall_mem_cons.mp hcommands
        exact ih _ hrest (all_labelled_step hstores hcommand)
  exact hfrom commands .new h fun row hrow => absurd hrow List.not_mem_nil

/-- Members that can be labelled are labelled by `cmd_run`. -/
theorem labelled_of_all {tables : GroupTables} (h : AllLabelled agentAddress tables) :
    Labelled agentAddress (some (groupStore tables)) := by
  intro group _ member hmember hother hlabel
  have hselected := ((Table.RowOrder.stable GroupMember.address).perm _).mem_iff.mp hmember
  obtain ⟨row, hrow, rfl⟩ := List.mem_map.mp (List.mem_of_mem_filter hselected)
  exact h row hrow hother hlabel

/-- In every state that commands reach which add only members that can be labelled, the stored
keys have 32 bytes, and the commands register all contacts and members without a panic. -/
theorem starts_up_after_run (formats : Formats) (agentAddress : String)
    (commands : List Command)
    (h : ∀ command ∈ commands, AddsLabelled formats agentAddress command.operation)
    (count : Nat) : StartsUp agentAddress (after formats (commands.take count)) :=
  (starts_up_iff _ _).mpr (labelled_of_all (all_labelled_after fun command hcommand =>
    h command (List.mem_of_mem_take hcommand)))

/-- The text of a group with a member that has a short address and no label. -/
def shortFile : String :=
  "[\x7b\"name\":\"team\",\"psk\":" ++
  "\"0707070707070707070707070707070707070707070707070707070707070707\"," ++
  "\"members\":[\x7b\"address\":\"short\"\x7d]\x7d]"

/-- The libraries at this text. -/
def shortFormats : Formats where
  fromStr text :=
    if text = shortFile then
      .ok [groupJson ⟨⟨"team", sampleKey⟩, ""⟩ [⟨⟨"team", "short", none⟩, ""⟩]]
    else .error "expected value at line 1 column 1"
  toStringPretty _ := shortFile
  hexReason _ := "Odd number of digits"

/-- A group with the short address and a label for it. -/
def labelledMember : List Command :=
  [⟨.createGroup "team" sampleKey, calm⟩, ⟨.addMember "team" "short" (some "bob"), calm⟩]

/-- The commands start up with the labelled member. -/
theorem starts_up_with_label :
    StartsUp "AGENT" (after shortFormats (labelledMember.take 2)) := by
  refine starts_up_after_run shortFormats "AGENT" labelledMember ?_ 2
  intro command hcommand
  rcases List.mem_pair.mp hcommand with rfl | rfl
  · exact trivial
  · exact fun _ hlabel => nomatch hlabel

/-- After an import of the short address without a label `cmd_run` panics. -/
theorem short_address_panics :
    ¬ StartsUp "AGENT" (after shortFormats [⟨.importGroups shortFile, calm⟩]) := by
  intro h
  exact absurd (h.run .latest fun _ => none) (by decide +kernel)

end CorvidNano.Agent.Startup
