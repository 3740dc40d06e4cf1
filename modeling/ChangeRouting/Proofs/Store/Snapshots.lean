import ChangeRouting.Change.ColumnValues
import ChangeRouting.Proofs.Text.Fields
import ChangeRouting.Store.ChangeLog
import Mathlib.Data.List.Basic

/-!
# ChangeRouting.Proofs.Store.Snapshots

What a schema snapshot is read as once it was recorded.

The names of a snapshot are stored as one text.  Any name a database accepts can be in it, but a quoted name
may hold what the text is cut at or what is trimmed from its fields.

* `splitNames_joinNames` — every name of a list is read as the names that it makes as a text of its own;
* `splitNames_eq_singleton_iff` — a name makes itself, and nothing else, exactly if it is plain;
* `recorded_snapshot_iff` — a snapshot is read as it was recorded exactly if all its names are plain;
* `quoted_names_come_apart` — a comma in a name moves the values of later columns to other columns.
-/

namespace ChangeRouting

/-- A name without a comma, which neither starts nor ends with a blank. -/
structure PlainName (name : String) : Prop where
  ne_empty : name.toList ≠ []
  no_comma : ',' ∉ name.toList
  no_blank_first : ∀ c ∈ name.toList.head?, Text.isBlank c = false
  no_blank_last : ∀ c ∈ name.toList.getLast?, Text.isBlank c = false

namespace PlainName

theorem iff_all {name : String} : PlainName name ↔
    name.toList ≠ [] ∧ ',' ∉ name.toList ∧ name.toList.head?.any Text.isBlank = false ∧
      name.toList.getLast?.any Text.isBlank = false := by
  simp only [Option.any_eq_false]
  exact ⟨fun h => ⟨h.ne_empty, h.no_comma, h.no_blank_first, h.no_blank_last⟩,
    fun ⟨hempty, hcomma, hfirst, hlast⟩ => ⟨hempty, hcomma, hfirst, hlast⟩⟩

instance (name : String) : Decidable (PlainName name) := decidable_of_iff' _ iff_all

end PlainName

namespace Store

variable {name text : String} {names : List String}

/-! ## names in a text -/

/-- What is read of a text is plain. -/
theorem plainName_of_mem_splitNames (h : name ∈ splitNames text) : PlainName name := by
  simp only [splitNames, List.mem_map, List.mem_filter, decide_eq_true_eq] at h
  obtain ⟨_, ⟨⟨field, hfield, rfl⟩, hne⟩, rfl⟩ := h
  have hcomma : ',' ∉ Text.trim field := fun hc =>
    Text.not_mem_of_mem_splitAll hfield ((Text.trim_sublist field).subset hc)
  refine ⟨?_, ?_, ?_, ?_⟩
  · simpa using hne
  · simpa using hcomma
  · simpa using Text.isBlank_head?_trim field
  · simpa using Text.isBlank_getLast?_trim field

/-- A text makes one name, itself, exactly if it is plain. -/
theorem splitNames_eq_singleton_iff : splitNames name = [name] ↔ PlainName name := by
  constructor
  · intro h
    exact plainName_of_mem_splitNames (h ▸ List.mem_singleton_self name)
  · intro h
    have htrim : Text.trim name.toList = name.toList :=
      Text.trim_eq_self_iff.2 ⟨h.no_blank_first, h.no_blank_last⟩
    simp [splitNames, Text.splitAll_of_not_mem h.no_comma, htrim, h.ne_empty]

/-- Two texts with a comma between them make the names of the one and those of the other. -/
theorem splitNames_append_comma (front back : String) :
    splitNames (front ++ "," ++ back) = splitNames front ++ splitNames back := by
  have hcomma : (front ++ "," ++ back).toList = front.toList ++ ',' :: back.toList := by simp
  rw [splitNames, hcomma, Text.splitAll_append_cons]
  simp [splitNames]

theorem joinNames_cons_cons (first second : String) (rest : List String) :
    joinNames (first :: second :: rest) = first ++ "," ++ joinNames (second :: rest) := by
  rw [← String.toList_inj]
  simp [joinNames]

/-- Names in one text are read as what each of them makes. -/
theorem splitNames_joinNames (names : List String) :
    splitNames (joinNames names) = names.flatMap splitNames := by
  induction names with
  | nil => rfl
  | cons first rest ih =>
      cases rest with
      | nil =>
          have hfirst : joinNames [first] = first := by
            rw [← String.toList_inj]
            simp [joinNames]
          rw [hfirst, List.flatMap_singleton]
      | cons second rest =>
          rw [joinNames_cons_cons, splitNames_append_comma, ih, ← List.flatMap_cons]

/-- Names are read as they were stored exactly if all of them are plain. -/
theorem flatMap_splitNames_eq_iff :
    names.flatMap splitNames = names ↔ ∀ name ∈ names, PlainName name := by
  constructor
  · intro h name hname
    rw [← h, List.mem_flatMap] at hname
    obtain ⟨source, -, hmem⟩ := hname
    exact plainName_of_mem_splitNames hmem
  · intro h
    have hself : ∀ name ∈ names, splitNames name = [name] := fun name hname =>
      splitNames_eq_singleton_iff.2 (h name hname)
    rw [List.flatMap_congr hself, List.flatMap_singleton']

/-! ## snapshots in a store -/

/-- What a snapshot is read as: each name gives way to the names that it makes. -/
def reread (snapshot : Snapshot) : Snapshot :=
  { snapshot with
    columns := snapshot.columns.flatMap splitNames
    keyColumns := snapshot.keyColumns.flatMap splitNames }

theorem readSnapshot_snapshotRow (snapshot : Snapshot) :
    readSnapshot (snapshotRow snapshot) = reread snapshot := by
  simp only [readSnapshot, snapshotRow, splitNames_joinNames, reread]

theorem reread_eq_self_iff {snapshot : Snapshot} :
    reread snapshot = snapshot ↔ ∀ name ∈ snapshot.columns ++ snapshot.keyColumns, PlainName name := by
  rw [List.forall_mem_append, ← flatMap_splitNames_eq_iff, ← flatMap_splitNames_eq_iff]
  cases snapshot
  simp [reread]

end Store

/-- Once a snapshot was recorded there is one snapshot with its id.  Its names are those that the recorded
names make, one after the other, so it is the snapshot that was recorded exactly if all names are plain. -/
theorem recorded_snapshot_iff {store : Store} {rows : List SnapshotRow}
    (hrows : store.snapshots = some rows) (hascending : rows.Pairwise (·.id < ·.id))
    (snapshot : Snapshot) :
    ∃ after all stored, store.insertSnapshot snapshot = .ok after ∧ after.allSnapshots = .ok all ∧
      (∀ other, other ∈ all ∧ other.id = snapshot.id ↔ other = stored) ∧
      stored = Store.reread snapshot ∧
      (stored = snapshot ↔ ∀ name ∈ snapshot.columns ++ snapshot.keyColumns, PlainName name) := by
  obtain ⟨placed, hinsert, hplaced⟩ := Store.insertSnapshot_eq hrows hascending snapshot
  refine ⟨_, placed.map Store.readSnapshot, Store.reread snapshot, hinsert, rfl, fun other => ?_, rfl,
    Store.reread_eq_self_iff⟩
  rw [← Store.readSnapshot_snapshotRow, List.mem_map]
  constructor
  · intro ⟨⟨row, hrow, hread⟩, hid⟩
    have hsame : row.id = snapshot.id := by rw [← hid, ← hread, Store.readSnapshot]
    cases (hplaced row).1 hrow with
    | inl hnew => rw [← hread, hnew]
    | inr hold => exact absurd hsame hold.2
  · intro hother
    rw [hother]
    exact ⟨⟨_, (hplaced _).2 (Or.inl rfl), rfl⟩, rfl⟩

/-- The layout of a table of orders. -/
def unitPrices : Snapshot := ⟨7, "orders", "ORDERS", ["ID", "Unit Price", "QTY"], ["ID"]⟩

/-- A store that knows an earlier layout of the table, and another table. -/
def layoutStore : Store :=
  { Store.empty with
    snapshots := some [⟨7, "orders", "ORDERS", "ID", "ID"⟩, ⟨9, "items", "ITEMS", "ID", "ID"⟩] }

/-- A blank within a name stays, and the layout takes the place of the earlier one. -/
theorem recorded_snapshot_iff_unitPrices :
    ∃ after all, layoutStore.insertSnapshot unitPrices = .ok after ∧ after.allSnapshots = .ok all ∧
      ∀ other, other ∈ all ∧ other.id = 7 ↔ other = unitPrices := by
  have hrows : layoutStore.snapshots =
      some [⟨7, "orders", "ORDERS", "ID", "ID"⟩, ⟨9, "items", "ITEMS", "ID", "ID"⟩] := rfl
  have hplain : ∀ name ∈ unitPrices.columns ++ unitPrices.keyColumns, PlainName name := by decide +kernel
  obtain ⟨after, all, stored, hinsert, hall, honly, -, hiff⟩ :=
    recorded_snapshot_iff hrows (by decide) unitPrices
  rw [hiff.2 hplain] at honly
  exact ⟨after, all, hinsert, hall, honly⟩

/-! ## a comma in a name -/

/-- A layout with a name that has to be quoted. -/
def netPrices : Snapshot := ⟨7, "orders", "ORDERS", ["ID", "Price, net", "QTY"], ["ID"]⟩

/-- An order of seven pieces. -/
def sevenPieces : Change where
  id := 1
  table := "ORDERS"
  event := .insert
  row := some "[\"1\",\"5\",\"7\"]"
  key := none
  old := none
  snapshot := 7
  channel := "orders"
  transaction := none
  source := none
  createTime := 0
  storedSize := none

/-- A comma makes two names of one.  The number of pieces is then the value of a column that the table does
not have, and the column it belongs to has none. -/
theorem quoted_names_come_apart :
    ∃ after all stored, Store.empty.insertSnapshot netPrices = .ok after ∧
      after.allSnapshots = .ok all ∧ all.find? (·.id = netPrices.id) = some stored ∧
      stored ≠ netPrices ∧ stored.columns = ["ID", "Price", "net", "QTY"] ∧
      (sevenPieces.values netPrices).toOption.map (·.find? "QTY") = some (some (some "7")) ∧
      (sevenPieces.values stored).toOption.map (·.find? "QTY") = some none ∧
      (sevenPieces.values stored).toOption.map (·.find? "net") = some (some (some "7")) :=
  ⟨_, _, _, rfl, rfl, rfl, by decide +kernel, by decide +kernel, by decide +kernel, by decide +kernel,
    by decide +kernel⟩

end ChangeRouting
