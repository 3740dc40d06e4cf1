import ChangeRouting.Store.Loose
import ChangeRouting.Text.Blank

/-!
# ChangeRouting.Store.ChangeLog

The change log and the schema snapshots.

* Rows are kept in id order, and an id is there at most once.
* Leaving payloads out of a read does not change the size the row is read with.
* The names of a snapshot are stored as one text, joined by commas; reading cuts at the commas, trims
  each name and forgets the blank ones.
-/

namespace ChangeRouting

/-! ## rows and records -/

/-- Which payloads a read asks for. -/
structure PayloadColumns where
  row : Bool
  key : Bool
  old : Bool
  deriving DecidableEq, Repr

/-- Every payload. -/
def PayloadColumns.all : PayloadColumns := ⟨true, true, true⟩

namespace ChangeRow

/-- The row of a change. -/
def ofChange (change : Change) : ChangeRow where
  id := change.id
  table := change.table
  event := change.event.code
  row := change.row
  key := change.key
  old := change.old
  snapshot := change.snapshot
  channel := change.channel
  transaction := change.transaction
  source := change.source
  createTime := change.createTime

/-- The bytes of all payloads of the row. -/
def size (row : ChangeRow) : Nat :=
  payloadBytes row.row + payloadBytes row.key + payloadBytes row.old

/-- The change a row stands for, with the payloads asked for.  A row whose event code nobody knows
stands for none. -/
def read (row : ChangeRow) (columns : PayloadColumns) : Except Fault Change :=
  match EventKind.ofCode row.event with
  | .error _ => .error (.statement (.unreadable "event_type" row.event))
  | .ok event => .ok {
      id := row.id
      table := row.table
      event := event
      row := if columns.row then row.row else none
      key := if columns.key then row.key else none
      old := if columns.old then row.old else none
      snapshot := row.snapshot
      channel := row.channel
      transaction := row.transaction
      source := row.source
      createTime := Millis.ofStored row.createTime
      storedSize := some row.size }

end ChangeRow

namespace Store

/-! ## appending and correcting -/

/-- Rows in id order with one more, unless its id is taken. -/
def placeChange (row : ChangeRow) : List ChangeRow → Option (List ChangeRow)
  | [] => some [row]
  | other :: rest =>
    if row.id < other.id then some (row :: other :: rest)
    else if row.id = other.id then none
    else (placeChange row rest).map (other :: ·)

/-- Append a row to the log under its own id. -/
def appendChange (row : ChangeRow) (log : Numbered ChangeRow) :
    Except Fault (Numbered ChangeRow) :=
  match placeChange row log.rows with
  | none => .error (.statement (.duplicateKey TableName.changes.text))
  | some rows => .ok ⟨rows, max log.lastId row.id⟩

/-- Append a row under its own id. -/
def insertChangeRow (row : ChangeRow) (store : Store) : Except Fault Store :=
  match store.changes with
  | none => Prod.snd <$> store.looseUpdate .changes (·.insertChange row true)
  | some log => do return { store with changes := ← appendChange row log }

/-- Append a change.  An id that is not positive asks for the next free one; the id it has in the log
is the answer. -/
def insertChange (change : Change) (store : Store) : Except Fault (Int × Store) :=
  match store.changes with
  | none => store.looseUpdate .changes (·.insertChange (.ofChange change) (0 < change.id))
  | some log =>
    if 0 < change.id then do
      return (change.id, { store with changes := ← appendChange (.ofChange change) log })
    else if openEnd ≤ log.lastId then
      .error (.statement (.idsExhausted TableName.changes.text))
    else do
      let id := log.lastId + 1
      return (id, { store with changes := ← appendChange { ChangeRow.ofChange change with id := id } log })

/-- Write an event code over that of a row, whatever the code. -/
def setEventCode (id : Int) (code : String) (store : Store) : Except Fault Store :=
  match store.changes with
  | none => Prod.snd <$> store.looseUpdate .changes fun table =>
      return ((), ← table.setEventCode id code)
  | some log =>
    let rows := log.rows.map fun row => if row.id = id then { row with event := code } else row
    .ok { store with changes := some { log with rows := rows } }

/-! ## reading -/

/-- Every change in id order. -/
def allChanges (columns : PayloadColumns) (store : Store) : Except Fault (List Change) :=
  match store.changes with
  | none => do (← (← store.loose .changes).changes).mapM fun row => do (← row).read columns
  | some log => log.rows.mapM (·.read columns)

/-- The ids of a range with their channels, in id order. -/
def idsInRange (start stop : Int) (store : Store) : Except Fault (List (Int × String)) :=
  match store.changes with
  | none => do (← store.loose .changes).idsInRange start stop
  | some log =>
    .ok <| (log.rows.filter fun row => start ≤ row.id ∧ row.id ≤ stop).map fun row => (row.id, row.channel)

/-- When the change with this id was captured. -/
def createTimeOf (id : Int) (store : Store) : Except Fault (Option Millis) :=
  match store.changes with
  | none => do (← store.loose .changes).createTimeOf id
  | some log => .ok ((log.rows.find? (·.id = id)).map fun row => Millis.ofStored row.createTime)

/-- The changes of a channel from an id on, in id order, each as far as it can be read. -/
def changesFrom (channel : String) (start : Int) (columns : PayloadColumns) (store : Store) :
    Except Fault (List (Except Fault Change)) :=
  match store.changes with
  | none => do
    return (← (← store.loose .changes).changesFrom channel start).map fun row => do (← row).read columns
  | some log =>
    .ok <| ((log.rows.filter (·.channel = channel)).filter (start ≤ ·.id)).map (·.read columns)

/-- The number of ranges a statement may name. -/
def mostRanges : Nat := 998

/-- The changes of a channel in ranges of ids, in id order, each as far as it can be read. -/
def changesInRanges (channel : String) (ranges : List (Int × Int)) (columns : PayloadColumns)
    (store : Store) : Except Fault (List (Except Fault Change)) :=
  if mostRanges < ranges.length then .error (.statement (.malformed "ranges"))
  else
    match store.changes with
    | none => do
      return (← (← store.loose .changes).changesInRanges channel ranges).map fun row => do
        (← row).read columns
    | some log =>
      let rows := (log.rows.filter (·.channel = channel)).filter fun row =>
        ranges.any fun (start, stop) => start ≤ row.id ∧ row.id ≤ stop
      .ok (rows.map (·.read columns))

/-! ## schema snapshots -/

/-- Names as one text. -/
def joinNames (names : List String) : String := ",".intercalate names

/-- The names in a text: the trimmed fields between the commas that are not blank. -/
def splitNames (text : String) : List String :=
  (((Text.splitAll ',' text.toList).map Text.trim).filter (· ≠ [])).map String.ofList

private def placeSnapshot (row : SnapshotRow) : List SnapshotRow → List SnapshotRow
  | [] => [row]
  | other :: rest =>
    if row.id < other.id then row :: other :: rest
    else if row.id = other.id then row :: rest
    else other :: placeSnapshot row rest

/-- The row of a snapshot. -/
def snapshotRow (snapshot : Snapshot) : SnapshotRow :=
  ⟨snapshot.id, snapshot.trigger, snapshot.table, joinNames snapshot.columns,
    joinNames snapshot.keyColumns⟩

/-- Record a snapshot, in place of an earlier one with its id. -/
def insertSnapshot (snapshot : Snapshot) (store : Store) : Except Fault Store :=
  match store.snapshots with
  | none => Prod.snd <$> store.looseUpdate .snapshots (·.insertSnapshot (snapshotRow snapshot))
  | some rows => .ok { store with snapshots := some (placeSnapshot (snapshotRow snapshot) rows) }

private theorem mem_placeSnapshot {row other : SnapshotRow} {rows : List SnapshotRow}
    (h : rows.Pairwise (·.id < ·.id)) :
    other ∈ placeSnapshot row rows ↔ other = row ∨ other ∈ rows ∧ other.id ≠ row.id := by
  induction rows with
  | nil => simp [placeSnapshot]
  | cons first rest ih =>
    obtain ⟨before, ascending⟩ := List.pairwise_cons.1 h
    rw [placeSnapshot]
    split
    next lt => grind
    next not_lt =>
      split
      next eq => grind
      next ne =>
        rw [List.mem_cons, ih ascending]
        grind

/-- A recorded snapshot takes the place of the one with its id; the others stay. -/
theorem insertSnapshot_eq {store : Store} {rows : List SnapshotRow} (hrows : store.snapshots = some rows)
    (h : rows.Pairwise (·.id < ·.id)) (snapshot : Snapshot) :
    ∃ placed, store.insertSnapshot snapshot = .ok { store with snapshots := some placed } ∧
      ∀ other, other ∈ placed ↔
        other = snapshotRow snapshot ∨ other ∈ rows ∧ other.id ≠ snapshot.id := by
  rw [insertSnapshot, hrows]
  exact ⟨_, rfl, fun other => mem_placeSnapshot h⟩

/-- The snapshot a row stands for. -/
def readSnapshot (row : SnapshotRow) : Snapshot :=
  ⟨row.id, row.trigger, row.table, splitNames row.columns, splitNames row.keyColumns⟩

/-- Every snapshot in id order. -/
def allSnapshots (store : Store) : Except Fault (List Snapshot) :=
  match store.snapshots with
  | none => do
    let rows ← (← store.loose .snapshots).snapshots
    return (rows.foldl (fun rows row => placeSnapshot row rows) []).map readSnapshot
  | some rows => .ok (rows.map readSnapshot)

end Store

end ChangeRouting
