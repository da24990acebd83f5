import CorvidNano.Agent.PskKeys
import CorvidNano.Library.Batch
import CorvidNano.Library.Digits
import CorvidNano.Library.Json

/-!
# The contact store

`ContactStore` in `contacts.rs` with the times of its rows, and the import of contacts from JSON.
The import writes the contacts one by one. `Environment` says which statements fail and what the
clock shows.

`same_contacts_iff` says when an import leaves the contacts as they were: the ones that it writes
before its first error repeat what the store holds.
-/

namespace CorvidNano.Agent.Contacts

open Batch PskKeys

/-- A row of the table `contacts`. -/
structure ContactRow extends Contact where
  addedAt : String

/-- The table `contacts`. -/
abbrev ContactTable := Table fun row : ContactRow => row.name

/-- The libraries that read and write texts: `serde_json::from_str` and `to_string_pretty` for
arrays of values, and what `hex` says of a text that it does not decode. -/
structure Formats where
  fromStr : String → Except String (List Json)
  toStringPretty : List Json → String
  hexReason : String → String

/-- Why an operation of a store fails. -/
inductive StoreError where
  | json (reason : String)
  | hex (reason : String)
  | database (reason : String)
  | missingField (name : String)
  | missingMemberAddress
  | pskLength (length : Nat)
  | groupMissing (name : String)

/-- The text of an error. -/
def StoreError.text : StoreError → String
  | .json reason => reason
  | .hex reason => reason
  | .database reason => reason
  | .missingField name => "Missing '" ++ name ++ "' field"
  | .missingMemberAddress => "Missing member 'address' field"
  | .pskLength length => "PSK must be exactly 32 bytes (got " ++ toString length ++ ")"
  | .groupMissing name => "Group \"" ++ name ++ "\" does not exist"

/-- A field of an entry that has to be a string. -/
def requireStr (entry : Json) (name : String) : Except StoreError String :=
  match entry.getStr? name with
  | some text => .ok text
  | none => .error (.missingField name)

/-- A key of 32 bytes. -/
def checkPsk (bytes : List UInt8) : Except StoreError Psk :=
  if h : bytes.length = 32 then .ok ⟨bytes, h⟩ else .error (.pskLength bytes.length)

variable (formats : Formats) (environment : Environment)

/-- `hex::decode`. -/
def decodeHex (text : String) : Except StoreError (List UInt8) :=
  match Digits.hexDecode text.toList with
  | some bytes => .ok bytes
  | none => .error (.hex (formats.hexReason text))

/-- `hex::encode`, as a JSON string. -/
def pskJson (psk : Psk) : Json := .string (String.ofList (Digits.hexEncode psk.bytes))

/-- A contact as `export_json` writes it. The members of an object are in the order of their
names. -/
def contactJson (contact : Contact) : Json :=
  .object [
    ("address", .string contact.address),
    ("name", .string contact.name),
    ("psk", pskJson contact.psk)]

/-- `list`: the contacts by name. -/
def list : Program StoreError ContactTable (List ContactRow) :=
  query environment .database fun table =>
    (Table.RowOrder.stable fun row : ContactRow => row.name).arrange table.rows

/-- `export_json`. -/
def exportJson : Program StoreError ContactTable String := do
  let contacts ← list environment
  pure (formats.toStringPretty (contacts.map fun row => contactJson row.toContact))

/-- `INSERT INTO contacts`, which is refused for a name that is there. -/
def insertContact (contact : Contact) : Program StoreError ContactTable Unit :=
  let refused : StoreError := .database
    ("Contact \"" ++ contact.name ++ "\" already exists. Use --force to overwrite.")
  execute environment (fun _ => refused) fun now table =>
    if (table.lookup contact.name).isSome then .error refused
    else .ok (table.insertOrIgnore ⟨contact, now⟩)

/-- `add`. -/
def add (name address : String) (bytes : List UInt8) : Program StoreError ContactTable Unit := do
  let psk ← MonadExcept.ofExcept (checkPsk bytes)
  insertContact environment ⟨name, address, psk⟩

/-- `remove`: is there a contact to remove? -/
def remove (name : String) : Program StoreError ContactTable Bool := do
  let rows ← executeRows environment .database fun table : ContactTable =>
    (table.deleteWhere fun row => row.name = name, (table.select fun row => row.name = name).length)
  pure (0 < rows)

/-- `INSERT OR REPLACE INTO contacts`. -/
def replaceContact (contact : Contact) : Program StoreError ContactTable Unit :=
  execute environment .database fun now table => .ok (table.insertOrReplace ⟨contact, now⟩)

/-- `upsert`. -/
def upsert (name address : String) (bytes : List UInt8) :
    Program StoreError ContactTable Unit := do
  let psk ← MonadExcept.ofExcept (checkPsk bytes)
  replaceContact environment ⟨name, address, psk⟩

/-- The body of the loop of `import_json`. -/
def importEntry (entry : Json) : Program StoreError ContactTable Unit := do
  let name ← MonadExcept.ofExcept (requireStr entry "name")
  let address ← MonadExcept.ofExcept (requireStr entry "address")
  let pskHex ← MonadExcept.ofExcept (requireStr entry "psk")
  let psk ← MonadExcept.ofExcept (decodeHex formats pskHex)
  upsert environment name address psk

/-- The loop of `import_json`. -/
def importEntries (count : Nat) : List Json → Program StoreError ContactTable Nat
  | [] => pure count
  | entry :: rest => do
      importEntry formats environment entry
      importEntries (count + 1) rest

/-- `import_json`. -/
def importJson (json : String) : Program StoreError ContactTable Nat := do
  let entries ← MonadExcept.ofExcept ((formats.fromStr json).mapError .json)
  importEntries formats environment 0 entries

/-! ## The import as a batch of writes -/

/-- The contact of an entry. -/
def readEntry (entry : Json) : Except StoreError Contact := do
  let name ← requireStr entry "name"
  let address ← requireStr entry "address"
  let pskHex ← requireStr entry "psk"
  let bytes ← decodeHex formats pskHex
  let psk ← checkPsk bytes
  .ok ⟨name, address, psk⟩

variable {formats environment} in
/-- A key that was exported is decoded. -/
theorem decode_hex_psk (psk : Psk) :
    decodeHex formats (String.ofList (Digits.hexEncode psk.bytes)) = .ok psk.bytes := by
  rw [decodeHex, String.toList_ofList, Digits.hex_decode_encode]

variable {formats environment} in
/-- A key of a store passes the check. -/
theorem check_psk (psk : Psk) : checkPsk psk.bytes = .ok psk :=
  dif_pos psk.length_eq

/-- An exported contact is read back. -/
theorem read_entry_contact_json (contact : Contact) :
    readEntry formats (contactJson contact) = .ok contact := by
  unfold readEntry
  have hname : requireStr (contactJson contact) "name" = .ok contact.name := rfl
  have haddress : requireStr (contactJson contact) "address" = .ok contact.address := rfl
  have hpsk : requireStr (contactJson contact) "psk" =
      .ok (String.ofList (Digits.hexEncode contact.psk.bytes)) := rfl
  rw [hname, haddress, hpsk]
  show (decodeHex formats (String.ofList (Digits.hexEncode contact.psk.bytes)) >>= _) = _
  rw [decode_hex_psk]
  show (checkPsk contact.psk.bytes >>= _) = _
  rw [check_psk]
  rfl

/-- The contacts of a file, and the errors of the entries that are none. -/
def readFile (json : String) : List (Except StoreError Contact) :=
  match formats.fromStr json with
  | .error reason => [.error (.json reason)]
  | .ok entries => entries.map (readEntry formats)

/-- The writes of an import: each replaces a contact in one statement. -/
def contactWrites : Writes StoreError ContactTable Contact where
  perform := replaceContact
  statements _ := 1
  Ready _ _ := True
  apply table write := table.insertOrReplace ⟨write.1, write.2⟩
  perform_done environment contact table first _ hquiet :=
    start_execute (quiet_one_iff.mp hquiet) rfl
  perform_failed environment contact table first _ hfailed := by
    obtain ⟨reason, hfault⟩ := Option.ne_none_iff_exists'.mp (mt quiet_one_iff.mpr hfailed)
    exact ⟨_, _, start_execute_fault hfault⟩

/-- An entry is imported by the write of its contact, or not at all. -/
theorem import_entry_eq (entry : Json) :
    importEntry formats environment entry =
      contactWrites.performAll environment [readEntry formats entry] := by
  rw [Writes.perform_all_singleton]
  simp only [importEntry, upsert, readEntry, of_except_bind, of_except_ok, bind_assoc, pure_bind]
  rfl

/-- The import performs the writes of its file. -/
theorem import_json_eq (json : String) :
    ∃ count, importJson formats environment json = (do
      contactWrites.performAll environment (readFile formats json)
      pure count) := by
  unfold importJson readFile
  cases formats.fromStr json with
  | error reason => exact ⟨0, rfl⟩
  | ok entries =>
      have hloop : ∀ count entry rest, importEntries formats environment count (entry :: rest) =
          (do
            contactWrites.performAll environment [readEntry formats entry]
            importEntries formats environment (count + 1) rest) := by
        intro count entry rest
        rw [importEntries, import_entry_eq]
      have hentries := Writes.loop_eq (fun entry => [readEntry formats entry]) (fun _ => rfl) hloop
        0 entries
      rw [← List.map_eq_flatMap] at hentries
      exact ⟨_, hentries⟩

/-! ## When an import leaves the contacts as they were -/

/-- Two stores have the same rows. A name has at most one. -/
def SameContacts (first second : ContactTable) : Prop :=
  ∀ name, first.lookup name = second.lookup name

/-- The rows that an import writes before its first error. The import starts with statement
`first`. -/
def writtenRows (first : Nat) (json : String) : List ContactRow :=
  (contactWrites.done environment first (readFile formats json)).map fun write =>
    ⟨write.1, write.2⟩

/-- For every name that the rows have, the store holds the last row with the name. -/
def HoldsLast (table : ContactTable) (rows : List ContactRow) : Prop :=
  ∀ name row, (rows.reverse.find? fun other => other.name = name) = some row →
    table.lookup name = some row

variable {formats environment}

/-- All writes of contacts are ready. -/
theorem contacts_ready (table : ContactTable) (batch : List (Except StoreError Contact)) :
    contactWrites.AllReady table batch := by
  induction batch generalizing table with
  | nil => trivial
  | cons item rest ih =>
      cases item with
      | error error => trivial
      | ok contact => exact ⟨trivial, fun time => ih _⟩

/-- What an import leaves, whether it fails or not. -/
theorem db_import_json (table : ContactTable) (first : Nat) (json : String) :
    (start (importJson formats environment json) ⟨table, first⟩).2.db =
      (writtenRows formats environment first json).foldl Table.insertOrReplace table := by
  obtain ⟨count, hjson⟩ := import_json_eq formats environment json
  rw [hjson, start_then_pure, writtenRows, List.foldl_map]
  exact Writes.db_perform_all environment first (contacts_ready table (readFile formats json))

/-- The contact with a name after an import. -/
theorem lookup_import_json (table : ContactTable) (first : Nat) (json name : String) :
    (start (importJson formats environment json) ⟨table, first⟩).2.db.lookup name =
      ((writtenRows formats environment first json).reverse.find? fun row => row.name = name).or
        (table.lookup name) := by
  rw [db_import_json, Table.lookup_foldl_insert_or_replace]

/-- An import leaves the contacts as they were if and only if the rows that it writes before its
first error are there already, the last one of each name. -/
theorem same_contacts_iff (table : ContactTable) (first : Nat) (json : String) :
    SameContacts table (start (importJson formats environment json) ⟨table, first⟩).2.db ↔
      HoldsLast table (writtenRows formats environment first json) := by
  unfold SameContacts HoldsLast
  refine forall_congr' fun name => ?_
  rw [lookup_import_json]
  cases (writtenRows formats environment first json).reverse.find? fun row => row.name = name with
  | none => simp
  | some row => simp

/-- The rows that an import writes are the contacts of an initial part of its file. -/
theorem written_rows_initial (first : Nat) (json : String) :
    (writtenRows formats environment first json).map (fun row => .ok row.toContact) <+:
      readFile formats json := by
  rw [writtenRows, List.map_map]
  exact Writes.done_initial first (readFile formats json)

/-- An import that fails does not write all contacts of its file. -/
theorem written_rows_lt_of_error {table : ContactTable} {first : Nat} {json : String}
    {error : StoreError}
    (herror : (start (importJson formats environment json) ⟨table, first⟩).1 = .error error) :
    (writtenRows formats environment first json).length < (readFile formats json).length := by
  obtain ⟨count, hjson⟩ := import_json_eq formats environment json
  rw [hjson, start_then_pure] at herror
  rw [writtenRows, List.length_map]
  exact Writes.done_lt_of_error (contacts_ready table (readFile formats json))
    (error_of_map_eq_error herror)

end CorvidNano.Agent.Contacts
