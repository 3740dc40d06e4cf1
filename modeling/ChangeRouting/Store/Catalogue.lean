import ChangeRouting.Store.Layout

/-!
# ChangeRouting.Store.Catalogue

The tables in which a store speaks about itself.  They are only read.

* The catalogue, `sqlite_master` or `sqlite_schema`, has an entry for each table and each index.  A table
  of this library in its own layout has an index for its key, unless the key is its id, and some have
  another one.
* `sqlite_sequence` has the last id that each table gave out, for those that never give one out twice.
-/

namespace ChangeRouting.Store

/-- A column of words and one of numbers. -/
private def words (name : String) : Column := ⟨name, .text, false⟩
private def numbers (name : String) : Column := ⟨name, .number, false⟩

/-- The names of the indexes made for a table, the one for its key apart. -/
private def indexesOf : TableName → List String
  | .changes => ["idx_change_log_channel"]
  | .gaps => ["idx_data_gap_status"]
  | .batches => ["idx_outgoing_batch_node"]
  | _ => []

private def tableEntry (name : String) : List Cell :=
  [.text "table", .text name, .text name, .ofInt 1, .text s!"CREATE TABLE {name}"]

private def indexEntry (table index : String) : List Cell :=
  [.text "index", .text index, .text table, .ofInt 1, .text s!"CREATE INDEX {index}"]

private def keyEntry (table : String) : List Cell :=
  [.text "index", .text s!"sqlite_autoindex_{table}_1", .text table, .ofInt 1, .null]

/-- The entries of a table of this library. -/
private def entriesOf (store : Store) (name : TableName) : List (List Cell) :=
  match store.typed? name with
  | none => []
  | some table =>
    let key := if table.ids = .none then [keyEntry name.text] else []
    tableEntry name.text :: key ++ (indexesOf name).map (indexEntry name.text)

/-- The tables and indexes of a store. -/
def catalogue (store : Store) : Table where
  name := "sqlite_master"
  columns := [words "type", words "name", words "tbl_name", numbers "rootpage", words "sql"]
  ids := .none
  key := []
  rows := tableEntry "sqlite_sequence" ::
    TableName.all.flatMap store.entriesOf ++ store.foreign.map (tableEntry ·.name)

private theorem entriesOf_congr {store other : Store} {name : TableName}
    (h : (store.typed? name).isSome = (other.typed? name).isSome) :
    store.entriesOf name = other.entriesOf name := by
  rw [entriesOf, entriesOf]
  cases htable : store.typed? name with
  | none =>
      rw [htable] at h
      rw [Option.isNone_iff_eq_none.1 (Option.isSome_eq_false_iff.1 h.symm)]
  | some table =>
      rw [htable] at h
      obtain ⟨same, hsame⟩ := Option.isSome_iff_exists.1 h.symm
      rw [hsame]
      simp only [ids_typed?_eq_none htable hsame]

/-- The catalogue tells which tables are there, and nothing of what this library keeps in its own. -/
theorem catalogue_congr {store other : Store}
    (h : ∀ name, (store.typed? name).isSome = (other.typed? name).isSome)
    (hforeign : store.foreign = other.foreign) : store.catalogue = other.catalogue := by
  rw [catalogue, catalogue, hforeign, show store.entriesOf = other.entriesOf from
    funext fun name => entriesOf_congr (h name)]

/-- The last ids that tables gave out. -/
def lastIds (store : Store) : Table where
  name := "sqlite_sequence"
  columns := [words "name", numbers "seq"]
  ids := .none
  key := []
  rows := [.changes, .batches].filterMap fun name => do
    match (← store.typed? name).ids with
    | .aboveEver last => if last = 0 then none else some [.text name.text, .ofInt last]
    | _ => none

/-- The table of this name, in either case, be it one in which the store speaks about itself. -/
def readable? (store : Store) (name : String) : Option Table :=
  store.table? name <|>
    if sameName name "sqlite_master" || sameName name "sqlite_schema" then some store.catalogue
    else if sameName name "sqlite_sequence" then some store.lastIds
    else none

end ChangeRouting.Store
