import Mathlib.Data.List.Find
import Mathlib.Data.List.Nodup
import Mathlib.Data.List.Sort

/-!
# Tables with a primary key

A table is a list of rows with pairwise distinct keys, so a second row for a key cannot be
built. `insertOrIgnore` and `insertOrReplace` are the two ways to resolve a conflict of keys,
`deleteWhere` removes rows and `select` reads them. A query that orders its result fixes the
order of rows only up to equal sort keys: `RowOrder` is any way to complete it.
-/

namespace CorvidNano

/-- Rows whose keys are pairwise distinct. -/
structure Table {Row Key : Type*} (key : Row → Key) where
  rows : List Row
  keys_nodup : (rows.map key).Nodup

namespace Table

variable {Row Key : Type*} {key : Row → Key}

/-- The table without rows. -/
def empty : Table key where
  rows := []
  keys_nodup := List.nodup_nil

/-- The rows that satisfy a condition, in the order of insertion. -/
def select (table : Table key) (condition : Row → Bool) : List Row :=
  table.rows.filter condition

/-- Remove the rows that satisfy a condition. -/
def deleteWhere (table : Table key) (condition : Row → Bool) : Table key where
  rows := table.rows.filter fun row => !condition row
  keys_nodup := table.keys_nodup.sublist (List.filter_sublist.map key)

section Insert

variable [DecidableEq Key]

/-- Add a row, or keep the table as it is when the key is there. -/
def insertOrIgnore (table : Table key) (row : Row) : Table key :=
  if h : key row ∈ table.rows.map key then table
  else
    { rows := table.rows ++ [row]
      keys_nodup := by
        rw [List.map_append]
        exact table.keys_nodup.append (List.nodup_singleton _)
          (List.disjoint_singleton.mpr h) }

/-- Add a row in place of the one that has its key. -/
def insertOrReplace (table : Table key) (row : Row) : Table key where
  rows := table.rows.filter (fun other => key other ≠ key row) ++ [row]
  keys_nodup := by
    rw [List.map_append]
    refine (table.keys_nodup.sublist (List.filter_sublist.map key)).append
      (List.nodup_singleton _) (List.disjoint_singleton.mpr fun hmem => ?_)
    obtain ⟨other, hother, heq⟩ := List.mem_map.mp hmem
    exact (of_decide_eq_true (List.mem_filter.mp hother).2) heq

/-- The row with a key. -/
def lookup (table : Table key) (k : Key) : Option Row :=
  table.rows.find? fun row => key row = k

/-- What an insertion leaves when the key is there. -/
theorem insert_or_ignore_of_mem {table : Table key} {row : Row}
    (h : key row ∈ table.rows.map key) : table.insertOrIgnore row = table :=
  dif_pos h

/-- What an insertion adds when the key is new. -/
theorem rows_insert_or_ignore_of_not_mem {table : Table key} {row : Row}
    (h : key row ∉ table.rows.map key) :
    (table.insertOrIgnore row).rows = table.rows ++ [row] := by
  rw [insertOrIgnore, dif_neg h]

/-- An insertion changes no selection that leaves its row out. -/
theorem select_insert_or_ignore_of_not {table : Table key} {row : Row}
    {condition : Row → Bool} (h : condition row = false) :
    (table.insertOrIgnore row).select condition = table.select condition := by
  by_cases hmem : key row ∈ table.rows.map key
  · rw [insert_or_ignore_of_mem hmem]
  · simp [select, rows_insert_or_ignore_of_not_mem hmem, h]

/-- The row found for a key is in the table and has that key. -/
theorem mem_of_lookup_eq_some {table : Table key} {k : Key} {row : Row}
    (h : table.lookup k = some row) : row ∈ table.rows ∧ key row = k := by
  have hkey := List.find?_some (p := fun row => decide (key row = k)) h
  exact ⟨List.mem_of_find?_eq_some h, of_decide_eq_true hkey⟩

/-- Every row is found under its key. -/
theorem lookup_of_mem {table : Table key} {row : Row} (h : row ∈ table.rows) :
    table.lookup (key row) = some row := by
  have hsome : (table.lookup (key row)).isSome :=
    List.find?_isSome.mpr ⟨row, h, decide_eq_true rfl⟩
  obtain ⟨found, hfound⟩ := Option.isSome_iff_exists.mp hsome
  obtain ⟨hmem, hkey⟩ := mem_of_lookup_eq_some hfound
  rw [hfound, List.inj_on_of_nodup_map table.keys_nodup hmem h hkey]

/-- A key is found exactly if some row has it. -/
theorem is_some_lookup {table : Table key} {k : Key} :
    (table.lookup k).isSome = true ↔ k ∈ table.rows.map key := by
  rw [lookup, List.find?_isSome, List.mem_map]
  simp only [decide_eq_true_eq]

/-- The rows in any order have the row that is found for a key. -/
theorem find_of_perm {table : Table key} {rows : List Row} (h : rows.Perm table.rows) (k : Key) :
    (rows.find? fun row => key row = k) = table.lookup k := by
  refine List.find?_eq_find?_of_perm h ?_
  intro first ⟨hfirst, hfirstkey⟩ second ⟨hsecond, hsecondkey⟩
  exact List.inj_on_of_nodup_map table.keys_nodup (h.mem_iff.mp hfirst) (h.mem_iff.mp hsecond)
    ((of_decide_eq_true hfirstkey).trans (of_decide_eq_true hsecondkey).symm)

/-- A lookup after the rows of some keys are removed. -/
theorem lookup_delete_where_key (table : Table key) (condition : Key → Bool) (k : Key) :
    (table.deleteWhere fun row => condition (key row)).lookup k =
      if condition k then none else table.lookup k := by
  unfold lookup deleteWhere
  cases h : condition k with
  | true =>
      rw [if_pos rfl, List.find?_eq_none]
      intro row hrow hkey
      have hkept := (List.mem_filter.mp hrow).2
      simp [of_decide_eq_true hkey, h] at hkept
  | false =>
      rw [if_neg Bool.false_ne_true, List.find?_filter]
      refine congrArg (List.find? · table.rows) (funext fun row => ?_)
      by_cases hrow : key row = k
      · simp [hrow, h]
      · simp [hrow]

/-- A lookup after the rows of a key are removed. -/
theorem lookup_delete_where (table : Table key) (removed k : Key) :
    (table.deleteWhere fun row => key row = removed).lookup k =
      if removed = k then none else table.lookup k := by
  have h := table.lookup_delete_where_key (fun other => decide (other = removed)) k
  simpa [eq_comm] using h

/-- A lookup after a row with a new key is added. -/
theorem lookup_insert_or_ignore {table : Table key} {row : Row}
    (hnew : table.lookup (key row) = none) (k : Key) :
    (table.insertOrIgnore row).lookup k = if key row = k then some row else table.lookup k := by
  have hmem : key row ∉ table.rows.map key := by
    rw [← is_some_lookup, hnew]
    exact Bool.false_ne_true
  by_cases hk : key row = k
  · subst hk
    rw [if_pos rfl, lookup, rows_insert_or_ignore_of_not_mem hmem, List.find?_append]
    show (table.lookup (key row)).or _ = _
    rw [hnew]
    simp
  · rw [if_neg hk]
    unfold lookup
    rw [rows_insert_or_ignore_of_not_mem hmem, List.find?_append]
    simp [hk]

/-- A lookup after a replacement. -/
theorem lookup_insert_or_replace (table : Table key) (row : Row) (k : Key) :
    (table.insertOrReplace row).lookup k =
      if key row = k then some row else table.lookup k := by
  have hothers := table.lookup_delete_where (key row) k
  unfold lookup deleteWhere at hothers
  unfold lookup insertOrReplace
  simp only [ne_eq, decide_not, List.find?_append, hothers]
  by_cases h : key row = k
  · simp [h]
  · simp [h]

/-- A lookup after several replacements finds the last row with the key. -/
theorem lookup_foldl_insert_or_replace (table : Table key) (rows : List Row) (k : Key) :
    (rows.foldl insertOrReplace table).lookup k =
      (rows.reverse.find? fun row => key row = k).or (table.lookup k) := by
  induction rows generalizing table with
  | nil => rfl
  | cons row rest ih =>
      rw [List.foldl_cons, ih, lookup_insert_or_replace, List.reverse_cons, List.find?_append,
        Option.or_assoc]
      by_cases h : key row = k <;> simp [h]

end Insert

/-- A way to order rows by a sort key that keeps them all. -/
structure RowOrder {Row SortKey : Type*} [LE SortKey] (sortKey : Row → SortKey) where
  arrange : List Row → List Row
  perm : ∀ rows, (arrange rows).Perm rows
  sorted : ∀ rows, (arrange rows).Pairwise fun first second => sortKey first ≤ sortKey second

/-- The order that keeps rows of equal sort keys as they were inserted. -/
def RowOrder.stable {Row SortKey : Type*} [LinearOrder SortKey] (sortKey : Row → SortKey) :
    RowOrder sortKey where
  arrange rows := rows.insertionSort fun first second => sortKey first ≤ sortKey second
  perm := List.perm_insertionSort _
  sorted rows := by
    have : Std.Total fun first second : Row => sortKey first ≤ sortKey second :=
      ⟨fun first second => le_total _ _⟩
    have : IsTrans Row fun first second => sortKey first ≤ sortKey second :=
      ⟨fun _ _ _ => le_trans⟩
    exact List.pairwise_insertionSort _ rows

end Table

end CorvidNano
