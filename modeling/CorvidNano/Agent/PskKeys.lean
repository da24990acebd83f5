import CorvidNano.Library.LastWrite
import CorvidNano.Library.Table
import CorvidNano.Library.Utf8
import Mathlib.Data.String.Basic

/-!
# Pre-shared keys of contacts and groups

The contact store, the group store, and the loops of `cmd_run` and `cmd_send` that register
their keys with the AlgoChat client. The client keeps one key for each address.
`selects_keys_iff` says for which stores the loops leave each address under the key of the
relation that is meant.
-/

namespace CorvidNano.Agent.PskKeys

/-- A pre-shared key of 32 bytes. -/
structure Psk where
  bytes : List UInt8
  length_eq : bytes.length = 32
  deriving DecidableEq

/-- `Contact`. -/
structure Contact where
  name : String
  address : String
  psk : Psk

/-- `Group`. -/
structure Group where
  name : String
  psk : Psk

/-- `GroupMember`. -/
structure GroupMember where
  groupName : String
  address : String
  label : Option String

/-- The primary key of the table `group_members`. -/
def GroupMember.key (member : GroupMember) : String × String :=
  (member.groupName, member.address)

/-- `ContactStore`. -/
structure ContactStore where
  contacts : Table Contact.name

/-- `GroupStore`. -/
structure GroupStore where
  groups : Table Group.name
  groupMembers : Table GroupMember.key

/-- `ContactStore::list`: the contacts by name. -/
def ContactStore.list (store : ContactStore) : List Contact :=
  (Table.RowOrder.stable Contact.name).arrange store.contacts.rows

namespace GroupStore

/-- A store without groups, as `open` creates it. -/
def new : GroupStore where
  groups := Table.empty
  groupMembers := Table.empty

/-- `get`. -/
def get (store : GroupStore) (name : String) : Option Group :=
  store.groups.lookup name

/-- `list`: the groups by name. -/
def list (store : GroupStore) : List Group :=
  (Table.RowOrder.stable Group.name).arrange store.groups.rows

/-- `members`: the members of a group by address. -/
def members (store : GroupStore) (groupName : String) : List GroupMember :=
  (Table.RowOrder.stable GroupMember.address).arrange
    (store.groupMembers.select fun member => member.groupName = groupName)

end GroupStore

/-- The arguments of `add_psk_contact`. -/
structure PskContact where
  address : String
  psk : Psk
  label : Option String

/-- The client as far as its keys go: it keeps one key for each address, and the last call of
`add_psk_contact` for an address wins. -/
structure AlgoChat where
  Client : Type
  addPskContact : Client → PskContact → Client
  getPskContact : Client → String → Option Psk
  get_psk_contact_add : ∀ client contact address,
    getPskContact (addPskContact client contact) address =
      if contact.address = address then some contact.psk else getPskContact client address

/-- A client that is the map from addresses to keys. -/
def AlgoChat.latest : AlgoChat where
  Client := String → Option Psk
  addPskContact client contact address :=
    if contact.address = address then some contact.psk else client address
  getPskContact client address := client address
  get_psk_contact_add _ _ _ := rfl

/-- How `send_reply` encrypts. -/
inductive Encryption where
  | psk (key : Psk)
  | x25519
  deriving DecidableEq

variable (algochat : AlgoChat)

/-- The branch of `send_reply`: the key of the recipient if it is a PSK contact. -/
def encryption (client : algochat.Client) (recipientAddress : String) : Encryption :=
  match algochat.getPskContact client recipientAddress with
  | some key => .psk key
  | none => .x25519

/-! ## Registration -/

/-- What both commands register for the contacts, if there is a store. -/
def storedContacts : Option ContactStore → List PskContact
  | some store => store.list.map fun contact =>
      ⟨contact.address, contact.psk, some contact.name⟩
  | none => []

/-- The label that `cmd_run` gives to a member. It is `none` where the slice of the address to
its eighth byte panics. -/
def memberLabel (group : Group) (member : GroupMember) : Option String :=
  match member.label with
  | some label => some label
  -- The format string evaluates `&member.address[..8]`.
  | none => (Utf8.sliceTo 8 member.address.toList).map fun start =>
      group.name ++ ":" ++ String.ofList start

/-- The inner loop of `cmd_run`, over the members of a group. -/
def runMembers (agentAddress : String) (group : Group) :
    List GroupMember → Option (List PskContact)
  | [] => some []
  | member :: rest =>
      -- The agent is a member of its own groups and skips itself.
      if member.address = agentAddress then runMembers agentAddress group rest
      else do
        let label ← memberLabel group member
        let contacts ← runMembers agentAddress group rest
        return ⟨member.address, group.psk, some label⟩ :: contacts

/-- The outer loop of `cmd_run`, over the groups. -/
def runGroups (agentAddress : String) (store : GroupStore) :
    List Group → Option (List PskContact)
  | [] => some []
  | group :: rest => do
      let contacts ← runMembers agentAddress group (store.members group.name)
      let others ← runGroups agentAddress store rest
      return contacts ++ others

/-- What `cmd_run` registers for the groups, if there is a store. -/
def groupContacts (agentAddress : String) : Option GroupStore → Option (List PskContact)
  | some store => runGroups agentAddress store store.list
  | none => some []

/-- The calls of `add_psk_contact` that `cmd_run` makes at start-up, or `none` if it panics. -/
def runContacts (agentAddress : String) (contactStore : Option ContactStore)
    (groupStore : Option GroupStore) : Option (List PskContact) :=
  (groupContacts agentAddress groupStore).map fun contacts =>
    storedContacts contactStore ++ contacts

/-- The client after the registrations of `cmd_run`. -/
def cmdRun (client : algochat.Client) (agentAddress : String)
    (contactStore : Option ContactStore) (groupStore : Option GroupStore) :
    Option algochat.Client :=
  (runContacts agentAddress contactStore groupStore).map fun contacts =>
    contacts.foldl algochat.addPskContact client

/-- The members that `cmd_send` does not skip. -/
def otherMembers (agentAddress : String) (members : List GroupMember) : List GroupMember :=
  members.filter fun member => member.address ≠ agentAddress

/-- The calls of `add_psk_contact` that `cmd_send` makes for a group. -/
def sendContacts (agentAddress : String) (contactStore : Option ContactStore)
    (groupName : String) (group : Group) (members : List GroupMember) : List PskContact :=
  storedContacts contactStore ++ (otherMembers agentAddress members).map fun member =>
    ⟨member.address, group.psk, member.label <|> some groupName⟩

/-- `cmd_send` with a group: the client after the registrations, and how the message to each
member is encrypted. -/
def cmdSend (client : algochat.Client) (agentAddress : String)
    (contactStore : Option ContactStore) (groupStore : Option GroupStore) (groupName : String) :
    Except String (algochat.Client × List (String × Encryption)) :=
  let store := groupStore.getD .new
  match store.get groupName with
  | none => .error ("Group \"" ++ groupName ++ "\" not found")
  | some group =>
      let members := store.members groupName
      if members.isEmpty then
        .error ("Group \"" ++ groupName ++ "\" has no members. Add members with: " ++
          "can groups add-member --group " ++ groupName ++ " --address <addr>")
      else
        let registered := (sendContacts agentAddress contactStore groupName group members).foldl
          algochat.addPskContact client
        .ok (registered, (otherMembers agentAddress members).map fun member =>
          (member.address, encryption algochat registered member.address))

/-! ## Which stores select the right keys -/

/-- The contacts of a store that may be absent. -/
def contactsOf (contactStore : Option ContactStore) : List Contact :=
  (contactStore.map ContactStore.list).getD []

/-- No registration changes the key of an address that an earlier one registered. -/
def NothingReplaced (client : algochat.Client) (contacts : List PskContact) : Prop :=
  LastWrite.Kept algochat.addPskContact algochat.getPskContact PskContact.address client contacts

/-- What the registrations are for: `cmd_run` starts up and leaves every contact under its own
key, `cmd_send` to a group does the same and sends to every other member under the key of the
group, and no registration replaces the key of another relation. -/
structure SelectsKeys (client : algochat.Client) (agentAddress : String)
    (contactStore : Option ContactStore) (groupStore : Option GroupStore) : Prop where
  run_kept : ∃ contacts, runContacts agentAddress contactStore groupStore = some contacts ∧
    NothingReplaced algochat client contacts
  run_contact : ∃ registered,
    cmdRun algochat client agentAddress contactStore groupStore = some registered ∧
      ∀ contact ∈ contactsOf contactStore,
        encryption algochat registered contact.address = .psk contact.psk
  send_kept : ∀ group ∈ (groupStore.getD .new).list, NothingReplaced algochat client
    (sendContacts agentAddress contactStore group.name group
      ((groupStore.getD .new).members group.name))
  send_contact : ∀ groupName registered sent,
    cmdSend algochat client agentAddress contactStore groupStore groupName =
      .ok (registered, sent) →
    ∀ contact ∈ contactsOf contactStore,
      encryption algochat registered contact.address = .psk contact.psk
  send_member : ∀ group ∈ (groupStore.getD .new).list,
    ∀ member ∈ (groupStore.getD .new).members group.name, member.address ≠ agentAddress →
      ∃ registered sent,
        cmdSend algochat client agentAddress contactStore groupStore group.name =
          .ok (registered, sent) ∧ (member.address, .psk group.psk) ∈ sent

/-- The relations of the agent: an address and the key that is meant for it. -/
def relations (agentAddress : String) (contactStore : Option ContactStore)
    (groupStore : Option GroupStore) : List (String × Psk) :=
  (contactsOf contactStore).map (fun contact => (contact.address, contact.psk)) ++
    (groupStore.getD .new).list.flatMap fun group =>
      (otherMembers agentAddress ((groupStore.getD .new).members group.name)).map fun member =>
        (member.address, group.psk)

/-- Relations to one address have one key. -/
def OneKeyEach (agentAddress : String) (contactStore : Option ContactStore)
    (groupStore : Option GroupStore) : Prop :=
  ∀ first ∈ relations agentAddress contactStore groupStore,
    ∀ second ∈ relations agentAddress contactStore groupStore,
      first.1 = second.1 → first.2 = second.2

/-- Every other member without a label has an address with a boundary at its eighth byte. -/
def Labelled (agentAddress : String) (groupStore : Option GroupStore) : Prop :=
  ∀ group ∈ (groupStore.getD .new).list,
    ∀ member ∈ (groupStore.getD .new).members group.name, member.address ≠ agentAddress →
      member.label = none → Utf8.IsBoundary 8 member.address.toList

/-! ## The loops register the relations -/

/-- The relation that a registration is for. -/
def PskContact.relation (contact : PskContact) : String × Psk :=
  (contact.address, contact.psk)

/-- A member has a label to register if it was given one or its address can be sliced. -/
theorem is_some_member_label (group : Group) (member : GroupMember) :
    (memberLabel group member).isSome ↔
      (member.label = none → Utf8.IsBoundary 8 member.address.toList) := by
  unfold memberLabel
  cases member.label with
  | none => simp [Utf8.is_some_slice_to_iff]
  | some label => simp

/-- The inner loop ends if every other member has a label to register. -/
theorem is_some_run_members (agentAddress : String) (group : Group)
    (members : List GroupMember) : (runMembers agentAddress group members).isSome ↔
      ∀ member ∈ otherMembers agentAddress members, (memberLabel group member).isSome := by
  induction members with
  | nil => simp [runMembers, otherMembers]
  | cons member rest ih =>
      unfold runMembers otherMembers
      by_cases hself : member.address = agentAddress
      · rw [if_pos hself, List.filter_cons_of_neg (by simp [hself])]
        exact ih
      · rw [if_neg hself, List.filter_cons_of_pos (by simp [hself]), List.forall_mem_cons]
        cases hlabel : memberLabel group member with
        | none => simp
        | some label =>
            cases hrest : runMembers agentAddress group rest with
            | none => simpa [hrest, otherMembers] using ih
            | some contacts => simpa [hrest, otherMembers] using ih

/-- The inner loop registers every other member under the key of the group. -/
theorem run_members_relations {agentAddress : String} {group : Group}
    {members : List GroupMember} {contacts : List PskContact}
    (h : runMembers agentAddress group members = some contacts) :
    contacts.map PskContact.relation =
      (otherMembers agentAddress members).map fun member => (member.address, group.psk) := by
  induction members generalizing contacts with
  | nil =>
      cases h
      rfl
  | cons member rest ih =>
      unfold runMembers at h
      unfold otherMembers
      by_cases hself : member.address = agentAddress
      · rw [if_pos hself] at h
        rw [List.filter_cons_of_neg (by simp [hself])]
        exact ih h
      · rw [if_neg hself] at h
        obtain ⟨label, _, h⟩ := Option.bind_eq_some_iff.mp h
        obtain ⟨others, hothers, h⟩ := Option.bind_eq_some_iff.mp h
        cases h
        rw [List.filter_cons_of_pos (by simp [hself]), List.map_cons, List.map_cons, ih hothers]
        rfl

/-- The outer loop ends if the inner one does for every group. -/
theorem is_some_run_groups (agentAddress : String) (store : GroupStore) (groups : List Group) :
    (runGroups agentAddress store groups).isSome ↔
      ∀ group ∈ groups, (runMembers agentAddress group (store.members group.name)).isSome := by
  induction groups with
  | nil => simp [runGroups]
  | cons group rest ih =>
      rw [runGroups, List.forall_mem_cons, ← ih]
      cases runMembers agentAddress group (store.members group.name) with
      | none => simp
      | some contacts =>
          cases runGroups agentAddress store rest with
          | none => simp
          | some others => simp

/-- The outer loop registers the other members of all groups. -/
theorem run_groups_relations {agentAddress : String} {store : GroupStore} {groups : List Group}
    {contacts : List PskContact} (h : runGroups agentAddress store groups = some contacts) :
    contacts.map PskContact.relation = groups.flatMap fun group =>
      (otherMembers agentAddress (store.members group.name)).map fun member =>
        (member.address, group.psk) := by
  induction groups generalizing contacts with
  | nil =>
      cases h
      rfl
  | cons group rest ih =>
      obtain ⟨first, hfirst, h⟩ := Option.bind_eq_some_iff.mp h
      obtain ⟨others, hothers, h⟩ := Option.bind_eq_some_iff.mp h
      cases h
      rw [List.map_append, List.flatMap_cons, run_members_relations hfirst, ih hothers]

/-- The contacts are registered under their own keys. -/
theorem stored_contacts_relations (contactStore : Option ContactStore) :
    (storedContacts contactStore).map PskContact.relation =
      (contactsOf contactStore).map fun contact => (contact.address, contact.psk) := by
  cases contactStore with
  | none => rfl
  | some store => exact List.map_map

/-- `cmd_run` starts up if every other member has a label or an address that can be sliced. -/
theorem is_some_run_contacts (agentAddress : String) (contactStore : Option ContactStore)
    (groupStore : Option GroupStore) :
    (runContacts agentAddress contactStore groupStore).isSome ↔
      Labelled agentAddress groupStore := by
  rw [runContacts, Option.isSome_map]
  cases groupStore with
  | none =>
      have hnone : (GroupStore.list .new) = [] := rfl
      simp [groupContacts, Labelled, hnone]
  | some store =>
      show (runGroups agentAddress store store.list).isSome ↔ _
      rw [is_some_run_groups]
      refine forall₂_congr fun group _ => ?_
      rw [is_some_run_members]
      simp only [otherMembers, List.mem_filter, decide_eq_true_eq, is_some_member_label, and_imp]
      rfl

/-- `cmd_run` registers all relations. -/
theorem run_contacts_relations {agentAddress : String} {contactStore : Option ContactStore}
    {groupStore : Option GroupStore} {contacts : List PskContact}
    (h : runContacts agentAddress contactStore groupStore = some contacts) :
    contacts.map PskContact.relation = relations agentAddress contactStore groupStore := by
  obtain ⟨others, hothers, rfl⟩ := Option.map_eq_some_iff.mp h
  rw [List.map_append, stored_contacts_relations, relations]
  cases groupStore with
  | none =>
      cases hothers
      rfl
  | some store =>
      have hgroups : runGroups agentAddress store store.list = some others := hothers
      rw [run_groups_relations hgroups]
      rfl

/-- `cmd_send` registers relations of the agent. -/
theorem send_contacts_relations {agentAddress : String} (contactStore : Option ContactStore)
    {groupStore : Option GroupStore} {group : Group} (groupName : String)
    (hgroup : group ∈ (groupStore.getD .new).list) :
    ∀ contact ∈ sendContacts agentAddress contactStore groupName group
        ((groupStore.getD .new).members group.name),
      contact.relation ∈ relations agentAddress contactStore groupStore := by
  intro contact hcontact
  rcases List.mem_append.mp hcontact with hcontact | hcontact
  · have hmem := List.mem_map_of_mem (f := PskContact.relation) hcontact
    rw [stored_contacts_relations] at hmem
    exact List.mem_append_left _ hmem
  · obtain ⟨member, hmember, rfl⟩ := List.mem_map.mp hcontact
    exact List.mem_append_right _ (List.mem_flatMap.mpr
      ⟨group, hgroup, List.mem_map.mpr ⟨member, hmember, rfl⟩⟩)

/-! ## The keys that are selected -/

/-- Registrations for relations with one key for each address agree. -/
theorem agree_of_one_key_each {agentAddress : String} {contactStore : Option ContactStore}
    {groupStore : Option GroupStore} (h : OneKeyEach agentAddress contactStore groupStore)
    {contacts : List PskContact}
    (hcontacts : ∀ contact ∈ contacts,
      contact.relation ∈ relations agentAddress contactStore groupStore) :
    LastWrite.Agree PskContact.address PskContact.psk contacts :=
  fun first hfirst second hsecond haddress =>
    h first.relation (hcontacts first hfirst) second.relation (hcontacts second hsecond) haddress

variable {algochat}

/-- After registrations that agree, each address is under the key that was registered. -/
theorem encryption_of_agree (client : algochat.Client) {contacts : List PskContact}
    (hagree : LastWrite.Agree PskContact.address PskContact.psk contacts)
    {address : String} {key : Psk}
    (hmem : (address, key) ∈ contacts.map PskContact.relation) :
    encryption algochat (contacts.foldl algochat.addPskContact client) address = .psk key := by
  obtain ⟨contact, hcontact, hrelation⟩ := List.mem_map.mp hmem
  cases hrelation
  have hread : algochat.getPskContact (contacts.foldl algochat.addPskContact client)
      contact.address = some contact.psk :=
    LastWrite.read_of_agree algochat.get_psk_contact_add client hagree hcontact
  rw [encryption, hread]

/-- A contact's relation is one of the agent's. -/
theorem contact_mem_stored {contactStore : Option ContactStore} {contact : Contact}
    (h : contact ∈ contactsOf contactStore) :
    (contact.address, contact.psk) ∈ (storedContacts contactStore).map PskContact.relation := by
  rw [stored_contacts_relations]
  exact List.mem_map.mpr ⟨contact, h, rfl⟩

/-- A group that is found is listed under its name. -/
theorem mem_list_of_get {store : GroupStore} {groupName : String} {group : Group}
    (h : store.get groupName = some group) : group ∈ store.list ∧ group.name = groupName := by
  obtain ⟨hmem, hname⟩ := Table.mem_of_lookup_eq_some h
  exact ⟨((Table.RowOrder.stable Group.name).perm store.groups.rows).mem_iff.mpr hmem, hname⟩

/-- A listed group is found under its name. -/
theorem get_of_mem_list {store : GroupStore} {group : Group} (h : group ∈ store.list) :
    store.get group.name = some group :=
  Table.lookup_of_mem (((Table.RowOrder.stable Group.name).perm store.groups.rows).mem_iff.mp h)

/-- What `cmd_send` does with a group that is found and has members. -/
theorem cmd_send_of_get {client : algochat.Client} {agentAddress : String}
    {contactStore : Option ContactStore} {groupStore : Option GroupStore} {groupName : String}
    {group : Group} (hget : (groupStore.getD .new).get groupName = some group)
    (hmembers : (groupStore.getD .new).members groupName ≠ []) :
    cmdSend algochat client agentAddress contactStore groupStore groupName =
      .ok ((sendContacts agentAddress contactStore groupName group
          ((groupStore.getD .new).members groupName)).foldl algochat.addPskContact client,
        (otherMembers agentAddress ((groupStore.getD .new).members groupName)).map fun member =>
          (member.address, encryption algochat
            ((sendContacts agentAddress contactStore groupName group
              ((groupStore.getD .new).members groupName)).foldl algochat.addPskContact client)
            member.address)) := by
  unfold cmdSend
  simp only [hget]
  rw [if_neg (by simpa using hmembers)]

/-- A send that goes through is to a group that is found and has members. -/
theorem get_of_cmd_send {client registered : algochat.Client} {agentAddress : String}
    {contactStore : Option ContactStore} {groupStore : Option GroupStore} {groupName : String}
    {sent : List (String × Encryption)}
    (h : cmdSend algochat client agentAddress contactStore groupStore groupName =
      .ok (registered, sent)) :
    ∃ group, (groupStore.getD .new).get groupName = some group ∧
      (groupStore.getD .new).members groupName ≠ [] := by
  unfold cmdSend at h
  cases hget : (groupStore.getD .new).get groupName with
  | none =>
      simp only [hget] at h
      cases h
  | some group =>
      refine ⟨group, rfl, fun hmembers => ?_⟩
      simp only [hget, hmembers] at h
      cases h

/-- Registrations for all relations that replace no key are for relations with one key for each
address. -/
theorem one_key_each_of_nothing_replaced {client : algochat.Client} {agentAddress : String}
    {contactStore : Option ContactStore} {groupStore : Option GroupStore}
    {contacts : List PskContact}
    (hcontacts : runContacts agentAddress contactStore groupStore = some contacts)
    (hkept : NothingReplaced algochat client contacts) :
    OneKeyEach agentAddress contactStore groupStore := by
  have hagree : LastWrite.Agree PskContact.address PskContact.psk contacts :=
    (LastWrite.kept_iff_agree algochat.get_psk_contact_add client).mp hkept
  unfold OneKeyEach
  rw [← run_contacts_relations hcontacts]
  intro first hfirst second hsecond haddress
  obtain ⟨firstContact, hfirstContact, rfl⟩ := List.mem_map.mp hfirst
  obtain ⟨secondContact, hsecondContact, rfl⟩ := List.mem_map.mp hsecond
  exact hagree firstContact hfirstContact secondContact hsecondContact haddress

section OneKey

variable {agentAddress : String} {contactStore : Option ContactStore}
  {groupStore : Option GroupStore} (hkeys : OneKeyEach agentAddress contactStore groupStore)
include hkeys

/-- With one key for each address, the registrations of `cmd_run` agree. -/
theorem run_contacts_agree {contacts : List PskContact}
    (hcontacts : runContacts agentAddress contactStore groupStore = some contacts) :
    LastWrite.Agree PskContact.address PskContact.psk contacts := by
  refine agree_of_one_key_each hkeys fun contact hcontact => ?_
  rw [← run_contacts_relations hcontacts]
  exact List.mem_map_of_mem hcontact

/-- And so do those of `cmd_send` for a listed group. -/
theorem send_contacts_agree {group : Group} (hgroup : group ∈ (groupStore.getD .new).list) :
    LastWrite.Agree PskContact.address PskContact.psk
      (sendContacts agentAddress contactStore group.name group
        ((groupStore.getD .new).members group.name)) :=
  agree_of_one_key_each hkeys (send_contacts_relations contactStore group.name hgroup)

/-- `cmd_run` leaves a contact under its own key. -/
theorem cmd_run_contact_key (client : algochat.Client) {contacts : List PskContact}
    (hcontacts : runContacts agentAddress contactStore groupStore = some contacts)
    {contact : Contact} (hcontact : contact ∈ contactsOf contactStore) :
    encryption algochat (contacts.foldl algochat.addPskContact client) contact.address =
      .psk contact.psk := by
  refine encryption_of_agree client (run_contacts_agree hkeys hcontacts) ?_
  rw [run_contacts_relations hcontacts]
  exact List.mem_append_left _ (List.mem_map.mpr ⟨contact, hcontact, rfl⟩)

/-- `cmd_send` leaves a contact under its own key. -/
theorem cmd_send_contact_key {client registered : algochat.Client} {groupName : String}
    {sent : List (String × Encryption)}
    (hsend : cmdSend algochat client agentAddress contactStore groupStore groupName =
      .ok (registered, sent))
    {contact : Contact} (hcontact : contact ∈ contactsOf contactStore) :
    encryption algochat registered contact.address = .psk contact.psk := by
  obtain ⟨group, hget, hmembers⟩ := get_of_cmd_send hsend
  obtain ⟨hgroup, rfl⟩ := mem_list_of_get hget
  rw [cmd_send_of_get hget hmembers] at hsend
  cases hsend
  refine encryption_of_agree client (send_contacts_agree hkeys hgroup) ?_
  rw [sendContacts, List.map_append]
  exact List.mem_append_left _ (contact_mem_stored hcontact)

/-- `cmd_send` sends to every other member of a listed group under the key of the group. -/
theorem cmd_send_member_key (client : algochat.Client) {group : Group}
    (hgroup : group ∈ (groupStore.getD .new).list) {member : GroupMember}
    (hmember : member ∈ (groupStore.getD .new).members group.name)
    (hother : member.address ≠ agentAddress) :
    ∃ registered sent,
      cmdSend algochat client agentAddress contactStore groupStore group.name =
        .ok (registered, sent) ∧ (member.address, .psk group.psk) ∈ sent := by
  have hmembers : (groupStore.getD .new).members group.name ≠ [] := List.ne_nil_of_mem hmember
  have hmem : member ∈ otherMembers agentAddress
      ((groupStore.getD .new).members group.name) :=
    List.mem_filter.mpr ⟨hmember, decide_eq_true hother⟩
  refine ⟨_, _, cmd_send_of_get (get_of_mem_list hgroup) hmembers,
    List.mem_map.mpr ⟨member, hmem, Prod.ext rfl ?_⟩⟩
  -- The member's own registration is among those for the group, after the contacts.
  refine encryption_of_agree client (send_contacts_agree hkeys hgroup) ?_
  rw [sendContacts, List.map_append, List.map_map]
  exact List.mem_append_right _ (List.mem_map.mpr ⟨member, hmem, rfl⟩)

end OneKey

/-- The registrations of both commands leave every address under the key of the relation that is
meant, and replace no key, if and only if `cmd_run` can label every member and all relations to
one address have one key. -/
theorem selects_keys_iff (client : algochat.Client) (agentAddress : String)
    (contactStore : Option ContactStore) (groupStore : Option GroupStore) :
    SelectsKeys algochat client agentAddress contactStore groupStore ↔
      Labelled agentAddress groupStore ∧ OneKeyEach agentAddress contactStore groupStore := by
  have hkept {contacts : List PskContact} :
      LastWrite.Agree PskContact.address PskContact.psk contacts →
        NothingReplaced algochat client contacts :=
    (LastWrite.kept_iff_agree algochat.get_psk_contact_add client).mpr
  rw [← is_some_run_contacts agentAddress contactStore groupStore, Option.isSome_iff_exists]
  constructor
  · intro h
    obtain ⟨contacts, hcontacts, hreplaced⟩ := h.run_kept
    exact ⟨⟨contacts, hcontacts⟩, one_key_each_of_nothing_replaced hcontacts hreplaced⟩
  · intro ⟨⟨contacts, hcontacts⟩, hkeys⟩
    exact {
      run_kept := ⟨contacts, hcontacts, hkept (run_contacts_agree hkeys hcontacts)⟩
      run_contact := ⟨_, by rw [cmdRun, hcontacts]; rfl, fun contact hcontact =>
        cmd_run_contact_key hkeys client hcontacts hcontact⟩
      send_kept := fun group hgroup => hkept (send_contacts_agree hkeys hgroup)
      send_contact := fun groupName registered sent hsend contact hcontact =>
        cmd_send_contact_key hkeys hsend hcontact
      send_member := fun group hgroup member hmember hother =>
        cmd_send_member_key hkeys client hgroup hmember hother }

/-- A key of one byte, 32 times. -/
def keyOf (byte : UInt8) : Psk :=
  ⟨List.replicate 32 byte, List.length_replicate⟩

/-- An address with its own key as a contact. -/
def bobContact : ContactStore where
  contacts := ⟨[⟨"bob", "BOB_ADDR", keyOf 1⟩], by decide⟩

/-- A group with another key, of which the contact is a member. -/
def bobGroup : GroupStore where
  groups := ⟨[⟨"team", keyOf 2⟩], by decide⟩
  groupMembers := ⟨[⟨"team", "BOB_ADDR", some "bob"⟩], by decide⟩

/-- The start-up of `cmd_run` puts a contact under the key of a group of which it is a member. -/
theorem group_key_replaces_contact_key :
    (cmdRun .latest (fun _ => none) "AGENT" (some bobContact) (some bobGroup)).map
        (encryption .latest · "BOB_ADDR") = some (.psk (keyOf 2)) ∧
      ¬ ∀ (algochat : AlgoChat) (client : algochat.Client) (agentAddress : String)
        (contactStore : Option ContactStore) (groupStore : Option GroupStore),
        SelectsKeys algochat client agentAddress contactStore groupStore := by
  have hrun : (cmdRun .latest (fun _ => none) "AGENT" (some bobContact) (some bobGroup)).map
      (encryption .latest · "BOB_ADDR") = some (.psk (keyOf 2)) := rfl
  refine ⟨hrun, fun h => ?_⟩
  obtain ⟨registered, hregistered, hkeys⟩ :=
    (h .latest (fun _ => none) "AGENT" (some bobContact) (some bobGroup)).run_contact
  rw [hregistered, Option.map_some, hkeys ⟨"bob", "BOB_ADDR", keyOf 1⟩ (List.mem_singleton_self _)] at hrun
  exact absurd hrun (by decide)

end CorvidNano.Agent.PskKeys
