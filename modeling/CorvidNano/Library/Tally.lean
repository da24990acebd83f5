import CorvidNano.Library.Table

/-!
# Rows that events are counted into

A table has one row for each key. An event finds the row of its key, or starts a fresh one, and
updates it. `lookup_foldl_record` says that the row of a key is made of the events with this key
alone, in their order, and `summarizes_of_lookup` carries an invariant of single updates over to
all rows.
-/

namespace CorvidNano.Tally

variable {Event Row Key : Type*} {key : Row → Key}

/-- How events change rows. An update does not change the key of a row. -/
structure Rule (Event : Type*) (key : Row → Key) where
  eventKey : Event → Key
  fresh : Event → Row
  update : Event → Row → Row
  key_fresh : ∀ event, key (fresh event) = eventKey event
  key_update : ∀ event row, key (update event row) = key row

/-- The row that an event makes of the one that is there. -/
def Rule.next (rule : Rule Event key) (row : Option Row) (event : Event) : Option Row :=
  some (rule.update event (row.getD (rule.fresh event)))

variable {rule : Rule Event key}

/-- What holds of the row after the first event, and is kept by each further one, holds after all
of them. -/
theorem invariant_foldl_next {P : List Event → Row → Prop}
    (hfirst : ∀ event, P [event] (rule.update event (rule.fresh event)))
    (hstep : ∀ events event row, P events row → P (events ++ [event]) (rule.update event row))
    {events : List Event} {row : Row} (h : events.foldl rule.next none = some row) :
    P events row := by
  have hrest : ∀ (rest before : List Event) (start : Row), P before start →
      rest.foldl rule.next (some start) = some row → P (before ++ rest) row := by
    intro rest
    induction rest with
    | nil =>
        intro before start hstart hrow
        cases hrow
        rwa [List.append_nil]
    | cons event rest ih =>
        intro before start hstart hrow
        have hnext := ih (before ++ [event]) (rule.update event start)
          (hstep before event start hstart) hrow
        rwa [List.append_assoc] at hnext
  cases events with
  | nil => cases h
  | cons event rest => exact hrest rest [event] _ (hfirst event) h

/-- A key has a row as soon as it has an event. -/
theorem is_some_foldl_next (events : List Event) :
    (events.foldl rule.next none).isSome = true ↔ events ≠ [] := by
  have hsome : ∀ (rest : List Event) (start : Row),
      (rest.foldl rule.next (some start)).isSome = true := by
    intro rest
    induction rest with
    | nil => exact fun _ => rfl
    | cons event rest ih => exact fun start => ih _
  cases events with
  | nil => simp
  | cons event rest => exact iff_of_true (hsome rest _) (List.cons_ne_nil _ _)

variable [DecidableEq Key]

/-- Record an event in the table. -/
def Rule.record (rule : Rule Event key) (table : Table key) (event : Event) : Table key :=
  table.insertOrReplace
    (rule.update event ((table.lookup (rule.eventKey event)).getD (rule.fresh event)))

/-- The events with a key. -/
def Rule.eventsOf (rule : Rule Event key) (events : List Event) (k : Key) : List Event :=
  events.filter fun event => rule.eventKey event = k

theorem events_of_cons_of_eq {event : Event} {rest : List Event} {k : Key}
    (h : rule.eventKey event = k) :
    rule.eventsOf (event :: rest) k = event :: rule.eventsOf rest k :=
  List.filter_cons_of_pos (by simpa using h)

theorem events_of_cons_of_ne {event : Event} {rest : List Event} {k : Key}
    (h : rule.eventKey event ≠ k) : rule.eventsOf (event :: rest) k = rule.eventsOf rest k :=
  List.filter_cons_of_neg (by simpa using h)

variable (rule) in
/-- A row that an event finds or starts has the event's key. -/
theorem key_found (table : Table key) (event : Event) :
    key ((table.lookup (rule.eventKey event)).getD (rule.fresh event)) = rule.eventKey event := by
  cases hlookup : table.lookup (rule.eventKey event) with
  | none => exact rule.key_fresh event
  | some row => exact (Table.mem_of_lookup_eq_some hlookup).2

/-- An event changes the row of its key only. -/
theorem lookup_record (table : Table key) (event : Event) (k : Key) :
    (rule.record table event).lookup k =
      if rule.eventKey event = k then rule.next (table.lookup k) event else table.lookup k := by
  have hkey := key_found rule table event
  rw [Rule.record, Table.lookup_insert_or_replace, rule.key_update, hkey]
  by_cases h : rule.eventKey event = k
  · rw [if_pos h, if_pos h, h]
    rfl
  · rw [if_neg h, if_neg h]

/-- The row of a key is made of the events with the key. -/
theorem lookup_foldl_record (table : Table key) (events : List Event) (k : Key) :
    (events.foldl rule.record table).lookup k =
      (rule.eventsOf events k).foldl rule.next (table.lookup k) := by
  induction events generalizing table with
  | nil => rfl
  | cons event rest ih =>
      rw [List.foldl_cons, ih, lookup_record]
      by_cases h : rule.eventKey event = k
      · rw [if_pos h, events_of_cons_of_eq h, List.foldl_cons]
      · rw [if_neg h, events_of_cons_of_ne h]

/-- The rows are those of the keys that have events, and an invariant of single updates holds of
each. -/
theorem summarizes_of_lookup {P : List Event → Row → Prop}
    (hfirst : ∀ event, P [event] (rule.update event (rule.fresh event)))
    (hstep : ∀ events event row, P events row → P (events ++ [event]) (rule.update event row))
    (events : List Event) (k : Key) :
    (((events.foldl rule.record .empty).lookup k).isSome = true ↔ rule.eventsOf events k ≠ []) ∧
      ∀ row ∈ (events.foldl rule.record .empty).lookup k, P (rule.eventsOf events k) row := by
  rw [lookup_foldl_record]
  exact ⟨is_some_foldl_next _, fun row hrow => invariant_foldl_next hfirst hstep hrow⟩

end CorvidNano.Tally
