import CorvidNano.Agent.Contacts

/-!
# Exported contacts in another store

`export_json` of one contact store and `import_json` of its text into another. The second store
becomes itself overridden by the first one: `import_overrides`.
-/

namespace CorvidNano.Agent.ContactMerge

open Batch Contacts PskKeys

/-- A store overridden by another: the contacts of this one are there with their addresses and
keys, and the rest is as it was. -/
structure Overrides (source target merged : ContactTable) : Prop where
  present : ∀ name row, source.lookup name = some row →
    (merged.lookup name).map ContactRow.toContact = some row.toContact
  kept : ∀ name, source.lookup name = none → merged.lookup name = target.lookup name

/-- Two stores have the same contacts, times apart. -/
def SameButTimes (first second : ContactTable) : Prop :=
  ∀ name, (first.lookup name).map ContactRow.toContact =
    (second.lookup name).map ContactRow.toContact

/-- The contacts of a store by name, as `list` returns them. -/
def listed (table : ContactTable) : List Contact :=
  ((Table.RowOrder.stable fun row : ContactRow => row.name).arrange table.rows).map
    ContactRow.toContact

variable {formats : Formats} {environment : Environment}

/-- The export writes the listed contacts. -/
theorem start_export_json (hcalm : ∀ n, environment.fault n = none) (table : ContactTable)
    (first : Nat) :
    start (exportJson formats environment) ⟨table, first⟩ =
      (.ok (formats.toStringPretty ((listed table).map contactJson)), ⟨table, first + 1⟩) := by
  rw [exportJson, start_bind, Contacts.list, start_query (hcalm first), listed, List.map_map]
  rfl

/-- The exported text is read back as the listed contacts. -/
theorem read_file_exported {table : ContactTable} {json : String}
    (h : formats.fromStr json = .ok ((listed table).map contactJson)) :
    readFile formats json = (listed table).map .ok := by
  simp only [readFile, h, List.map_map, Function.comp_def, read_entry_contact_json]

/-- A file of contacts is imported where no statement fails, and the rows that are written are its
contacts. -/
theorem import_succeeds (hcalm : ∀ n, environment.fault n = none) {json : String}
    {contacts : List Contact} (hfile : readFile formats json = contacts.map .ok)
    (table : ContactTable) (first : Nat) :
    (∃ count, (start (importJson formats environment json) ⟨table, first⟩).1 = .ok count) ∧
      (writtenRows formats environment first json).map ContactRow.toContact = contacts := by
  obtain ⟨count, hjson⟩ := import_json_eq formats environment json
  have hready := contacts_ready table (readFile formats json)
  rw [hfile] at hready
  obtain ⟨⟨after, last⟩, hok⟩ := Writes.perform_all_of_quiet hready hcalm first
  constructor
  · refine ⟨count, ?_⟩
    rw [hjson, start_then_pure, hfile, hok]
    rfl
  · have hdone := Writes.done_of_ok hready hok
    rw [writtenRows, hfile, List.map_map]
    have hinj : Function.Injective (Except.ok : Contact → Except StoreError Contact) :=
      fun _ _ h => Except.ok.inj h
    refine List.map_injective_iff.mpr hinj ?_
    rw [List.map_map]
    exact hdone

/-- The last of some rows with a name has the contact that a table has for it, if their contacts
are the listed ones. -/
theorem find_written {table : ContactTable} {rows : List ContactRow}
    (h : rows.map ContactRow.toContact = listed table) (name : String) :
    (rows.reverse.find? fun row => row.name = name).map ContactRow.toContact =
      (table.lookup name).map ContactRow.toContact := by
  have hperm : ((Table.RowOrder.stable fun row : ContactRow => row.name).arrange
      table.rows).reverse.Perm table.rows :=
    (List.reverse_perm _).trans ((Table.RowOrder.stable _).perm _)
  have hfind : ∀ rows : List ContactRow,
      (rows.reverse.find? fun row => row.name = name).map ContactRow.toContact =
        (rows.map ContactRow.toContact).reverse.find? fun contact => contact.name = name := by
    intro rows
    rw [← List.map_reverse, List.find?_map]
    rfl
  rw [hfind, h, listed, ← hfind, Table.find_of_perm hperm]

/-- What an import of the exported text leaves. -/
theorem overrides_import (hcalm : ∀ n, environment.fault n = none) {source : ContactTable}
    {json : String} (hfile : readFile formats json = (listed source).map .ok)
    (target : ContactTable) (first : Nat) :
    Overrides source target
      (start (importJson formats environment json) ⟨target, first⟩).2.db := by
  have hfind := find_written (import_succeeds hcalm hfile target first).2
  constructor
  · intro name row hrow
    have hname := hfind name
    rw [hrow] at hname
    rw [lookup_import_json]
    obtain ⟨written, hwritten, hcontact⟩ := Option.map_eq_some_iff.mp hname
    rw [hwritten]
    exact congrArg some hcontact
  · intro name hnone
    have hname := hfind name
    rw [hnone] at hname
    rw [lookup_import_json, Option.map_eq_none_iff.mp hname, Option.none_or]

/-- What is overridden again stays the same. -/
theorem Overrides.same {source target merged again : ContactTable}
    (h : Overrides source target merged) (hagain : Overrides source merged again) :
    SameButTimes merged again := by
  intro name
  cases hname : source.lookup name with
  | none => rw [hagain.kept name hname]
  | some row => rw [h.present name row hname, hagain.present name row hname]

/-- The text that a store exports is imported into another one where no statement fails. It
overrides this store with the first one, and a second import changes nothing but times. -/
theorem import_overrides (formats : Formats) (environment later : Environment)
    (hcalm : ∀ n, environment.fault n = none) (hlater : ∀ n, later.fault n = none)
    (source target : ContactTable) (first : Nat)
    (hserde : formats.fromStr (formats.toStringPretty ((listed source).map contactJson)) =
      .ok ((listed source).map contactJson)) :
    ∃ text exported, start (exportJson formats environment) ⟨source, first⟩ =
        (.ok text, ⟨source, exported⟩) ∧
      ∃ count merged, start (importJson formats environment text) ⟨target, exported⟩ =
          (.ok count, merged) ∧
        Overrides source target merged.db ∧
        ∃ recount again, start (importJson formats later text) merged = (.ok recount, again) ∧
          SameButTimes merged.db again.db := by
  have hfile := read_file_exported hserde
  have himport : ∀ environment : Environment, (∀ n, environment.fault n = none) →
      ∀ session : Session ContactTable, ∃ count merged,
        start (importJson formats environment
          (formats.toStringPretty ((listed source).map contactJson))) session =
            (.ok count, merged) ∧ Overrides source session.db merged.db := by
    intro environment hcalm session
    obtain ⟨⟨count, hcount⟩, -⟩ := import_succeeds hcalm hfile session.db session.count
    exact ⟨count, _, Prod.ext hcount rfl, overrides_import hcalm hfile session.db session.count⟩
  obtain ⟨count, merged, hmerge, hoverrides⟩ := himport environment hcalm ⟨target, first + 1⟩
  obtain ⟨recount, again, hagain, hsame⟩ := himport later hlater merged
  exact ⟨_, _, start_export_json hcalm source first, count, merged, hmerge, hoverrides,
    recount, again, hagain, hoverrides.same hsame⟩

/-- A store with one contact. -/
def aliceStore : ContactTable :=
  Table.empty.insertOrReplace
    ⟨⟨"alice", "ALICE_ADDR", keyOf 7⟩, "2025-12-31 00:00:00"⟩

/-- A store with another contact of this name, and a second one. -/
def bobStore : ContactTable :=
  (Table.empty.insertOrReplace
    ⟨⟨"alice", "OLD_ADDR", keyOf 1⟩, "2025-12-31 00:00:00"⟩).insertOrReplace
      ⟨⟨"bob", "BOB_ADDR", keyOf 2⟩, "2025-12-31 00:00:00"⟩

/-- The exported text of the first store. -/
def aliceFile : String :=
  "[\n  \x7b\n    \"address\": \"ALICE_ADDR\",\n    \"name\": \"alice\",\n    \"psk\": " ++
  "\"0707070707070707070707070707070707070707070707070707070707070707\"\n  \x7d\n]"

/-- The libraries at this text. -/
def aliceFormats : Formats where
  fromStr text :=
    if text = aliceFile then .ok ((listed aliceStore).map contactJson)
    else .error "expected value at line 1 column 1"
  toStringPretty _ := aliceFile
  hexReason _ := "Odd number of digits"

/-- The exported text is read back. -/
theorem read_alice_file :
    aliceFormats.fromStr (aliceFormats.toStringPretty ((listed aliceStore).map contactJson)) =
      .ok ((listed aliceStore).map contactJson) := by
  simp [aliceFormats]

/-- An environment without failures. -/
def quiet : Environment where
  now _ := "2026-01-01 00:00:00"
  fault _ := none

/-- `import_overrides` for the two stores. -/
theorem import_overrides_bob :
    ∃ text exported, start (exportJson aliceFormats quiet) ⟨aliceStore, 0⟩ =
        (.ok text, ⟨aliceStore, exported⟩) ∧
      ∃ count merged, start (importJson aliceFormats quiet text) ⟨bobStore, exported⟩ =
          (.ok count, merged) ∧
        Overrides aliceStore bobStore merged.db ∧
        ∃ recount again, start (importJson aliceFormats quiet text) merged =
            (.ok recount, again) ∧
          SameButTimes merged.db again.db :=
  import_overrides aliceFormats quiet quiet (fun _ => rfl) (fun _ => rfl) aliceStore bobStore 0
    read_alice_file

end CorvidNano.Agent.ContactMerge
