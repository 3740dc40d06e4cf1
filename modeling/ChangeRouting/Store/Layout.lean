import ChangeRouting.Store.Basic
import ChangeRouting.Word

/-!
# ChangeRouting.Store.Layout

How the rows of this library lie in the columns of their tables.

Written rows are read back as themselves.  Times that nobody reads are written as zero.  A table whose
cells all read as rows of its kind is kept as such rows; any other is kept as cells.
-/

namespace ChangeRouting

/-- How rows of one kind lie in columns. -/
structure Layout (row : Type) where
  write : row → List Cell
  read : List Cell → Option row

namespace Layout

/-- A column of texts. -/
private def text (name : String) : Column := ⟨name, .text, true⟩

/-- A column of texts that may be missing. -/
private def text? (name : String) : Column := ⟨name, .text, false⟩

/-- A column of numbers. -/
private def number (name : String) : Column := ⟨name, .number, true⟩

/-- The columns of a table. -/
def columns : TableName → List Column
  | .snapshots => [number "trigger_hist_id", text "trigger_id", text "source_table_name",
      text "column_names", text "pk_column_names", number "create_time"]
  | .changes => [number "data_id", text "table_name", text "event_type", text? "row_data",
      text? "pk_data", text? "old_data", number "trigger_hist_id", text "channel_id",
      text? "transaction_id", text? "source_node_id", number "create_time"]
  | .gaps => [number "start_id", number "end_id", text "status", number "create_time",
      number "last_update_time"]
  | .batches => [number "batch_id", text "node_id", text "channel_id", text "status",
      number "data_event_count", number "byte_count", number "insert_event_count",
      number "update_event_count", number "delete_event_count", number "other_event_count",
      number "create_time", number "last_update_time"]
  | .events => [number "data_id", number "batch_id", text "router_id"]
  | .watermarks => [text? "channel_id", number "last_routed_id", number "updated_at"]
  | .nodes => [text? "node_id", text "node_group_id", text "external_id", number "sync_enabled",
      text? "created_at_node_id"]
  | .redirects => [text? "external_id", text "registration_node_id"]

/-- The names of the columns of a table. -/
def names (table : TableName) : List String := (columns table).map Column.name

/-- The positions of the columns that make the key of a table. -/
def key : TableName → List Nat
  | .gaps | .events => [0, 1]
  | _ => [0]

/-- A schema snapshot. -/
def snapshot : Layout SnapshotRow where
  write r := [.ofInt r.id, .text r.trigger, .text r.table, .text r.columns, .text r.keyColumns, .ofInt 0]
  read
    | [id, trigger, table, columns, keyColumns, _] => do
      return ⟨← id.readInt, ← trigger.readText, ← table.readText, ← columns.readText,
        ← keyColumns.readText⟩
    | _ => none

/-- A captured change. -/
def change : Layout ChangeRow where
  write r := [.ofInt r.id, .text r.table, .text r.event, .ofText? r.row, .ofText? r.key, .ofText? r.old,
    .ofInt r.snapshot, .text r.channel, .ofText? r.transaction, .ofText? r.source, .ofInt r.createTime]
  read
    | [id, table, event, row, key, old, snapshot, channel, transaction, source, createTime] => do
      return ⟨← id.readInt, ← table.readText, ← event.readText, ← row.readText?, ← key.readText?,
        ← old.readText?, ← snapshot.readInt, ← channel.readText, ← transaction.readText?,
        ← source.readText?, ← createTime.readInt⟩
    | _ => none

/-- A gap. -/
def gap : Layout GapRow where
  write r := [.ofInt r.start, .ofInt r.stop, .text r.status, .ofInt r.createTime, .ofInt r.updateTime]
  read
    | [start, stop, status, createTime, updateTime] => do
      return ⟨← start.readInt, ← stop.readInt, ← status.readText, ← createTime.readInt,
        ← updateTime.readInt⟩
    | _ => none

/-- A count is read as a word without sign. -/
private def readCount (cell : Cell) : Option Nat :=
  cell.readInt.map fun n => Int.toNat (n % (wordCount : Int))

/-- A batch; a status code nobody knows is kept beside it. -/
def batch : Layout BatchRow where
  write r := [.ofInt r.batch.id, .text r.batch.node, .text r.batch.channel, .text r.status,
    .ofInt r.batch.events, .ofInt r.batch.bytes, .ofInt r.batch.inserts, .ofInt r.batch.updates,
    .ofInt r.batch.deletes, .ofInt r.batch.others, .ofInt 0, .ofInt 0]
  read
    | [id, node, channel, status, events, bytes, inserts, updates, deletes, others, createTime,
        updateTime] => do
      let code ← status.readText
      let batch : Batch := {
        id := ← id.readInt
        node := ← node.readText
        channel := ← channel.readText
        status := (BatchStatus.ofCode code).toOption.getD .new
        events := ← readCount events
        bytes := ← readCount bytes
        inserts := ← readCount inserts
        updates := ← readCount updates
        deletes := ← readCount deletes
        others := ← readCount others }
      let _ ← createTime.readInt
      let _ ← updateTime.readInt
      return ⟨batch, code⟩
    | _ => none

/-- A change in a batch. -/
def event : Layout BatchEvent where
  write r := [.ofInt r.change, .ofInt r.batch, .text r.router]
  read
    | [change, batch, router] => do return ⟨← change.readInt, ← batch.readInt, ← router.readText⟩
    | _ => none

/-- The highest id routed on a channel. -/
def watermark : Layout (String × Int) where
  write r := [.text r.1, .ofInt r.2, .ofInt 0]
  read
    | [channel, id, _] => do return (← channel.readText, ← id.readInt)
    | _ => none

/-- A truth value kept as one or zero. -/
private def readFlag (cell : Cell) : Option Bool :=
  match cell.readInt with
  | some 0 => some false
  | some 1 => some true
  | _ => none

/-- A node. -/
def node : Layout Node where
  write r := [.text r.id, .text r.group, .text r.externalId, .ofInt (if r.enabled then 1 else 0),
    .ofText? r.parent]
  read
    | [id, group, externalId, enabled, parent] => do
      return ⟨← id.readText, ← group.readText, ← externalId.readText, ← readFlag enabled,
        ← parent.readText?⟩
    | _ => none

/-- A node that receives for an external id. -/
def redirect : Layout (String × String) where
  write r := [.text r.1, .text r.2]
  read
    | [external, node] => do return (← external.readText, ← node.readText)
    | _ => none

/-! ## written rows are read back -/

theorem snapshot_read_write (r : SnapshotRow) : snapshot.read (snapshot.write r) = some r := rfl

theorem change_read_write (r : ChangeRow) : change.read (change.write r) = some r := by
  simp [change]

theorem gap_read_write (r : GapRow) : gap.read (gap.write r) = some r := rfl

theorem event_read_write (r : BatchEvent) : event.read (event.write r) = some r := rfl

theorem watermark_read_write (r : String × Int) : watermark.read (watermark.write r) = some r := rfl

theorem node_read_write (r : Node) : node.read (node.write r) = some r := by
  rcases r with ⟨id, group, externalId, enabled, parent⟩
  cases enabled <;> simp [node, readFlag]

theorem redirect_read_write (r : String × String) : redirect.read (redirect.write r) = some r := rfl

end Layout

/-! ## tables of this library as cells -/

namespace Store

private def laid (table : TableName) (layout : Layout row) (ids : IdRule) (rows : List row) : Table :=
  ⟨table.text, Layout.columns table, ids, Layout.key table, rows.map layout.write⟩

/-- A table that is kept as rows, as cells. -/
def typed? (store : Store) : TableName → Option Table
  | .snapshots => store.snapshots.map (laid .snapshots .snapshot .aboveHeld)
  | .changes => store.changes.map fun log => laid .changes .change (.aboveEver log.lastId) log.rows
  | .gaps => store.gaps.map (laid .gaps .gap .none)
  | .batches =>
    store.batches.map fun table => laid .batches .batch (.aboveEver table.lastId) table.rows
  | .events => store.events.map (laid .events .event .none)
  | .watermarks => store.watermarks.map (laid .watermarks .watermark .none)
  | .nodes => store.nodes.map (laid .nodes .node .none)
  | .redirects => store.redirects.map (laid .redirects .redirect .none)

/-- Whether a table gives out ids does not depend on what is in it. -/
theorem ids_typed?_eq_none {store other : Store} {name : TableName} {table same : Table}
    (h : store.typed? name = some table) (h' : other.typed? name = some same) :
    table.ids = .none ↔ same.ids = .none := by
  cases name <;>
    · simp only [typed?, Option.map_eq_some_iff] at h h'
      obtain ⟨_, -, rfl⟩ := h
      obtain ⟨_, -, rfl⟩ := h'
      simp [laid]

/-- The store with a table kept as rows, if its cells all read as rows. -/
private def readTyped (store : Store) (name : TableName) (table : Table) : Option Store :=
  let last := match table.ids with
    | .aboveEver last => last
    | _ => 0
  match name with
  | .snapshots => do return { store with snapshots := ← table.rows.mapM Layout.snapshot.read }
  | .changes => do return { store with changes := some ⟨← table.rows.mapM Layout.change.read, last⟩ }
  | .gaps => do return { store with gaps := ← table.rows.mapM Layout.gap.read }
  | .batches => do return { store with batches := some ⟨← table.rows.mapM Layout.batch.read, last⟩ }
  | .events => do return { store with events := ← table.rows.mapM Layout.event.read }
  | .watermarks => do return { store with watermarks := ← table.rows.mapM Layout.watermark.read }
  | .nodes => do
    return { store with nodes := (← table.rows.mapM Layout.node.read).mergeSort fun a b => a.id ≤ b.id }
  | .redirects => do return { store with redirects := ← table.rows.mapM Layout.redirect.read }

/-- The store without a table of this library. -/
def without (store : Store) (name : TableName) : Store :=
  let store := { store with foreign := store.foreign.filter (!sameName ·.name name.text) }
  match name with
  | .snapshots => { store with snapshots := none }
  | .changes => { store with changes := none }
  | .gaps => { store with gaps := none }
  | .batches => { store with batches := none }
  | .events => { store with events := none }
  | .watermarks => { store with watermarks := none }
  | .nodes => { store with nodes := none }
  | .redirects => { store with redirects := none }

/-- The store with a table of this library's layout: as rows if its cells all read as rows, and as they
are otherwise. -/
def withLaid (store : Store) (name : TableName) (table : Table) : Store :=
  let store := store.without name
  (store.readTyped name table).getD (store.withForeign table)

/-- The table of this name, in either case, as cells. -/
def table? (store : Store) (name : String) : Option Table :=
  ((TableName.ofText? name).bind store.typed?) <|> store.foreign? name

/-- Whether a table of this library is there in its own layout. -/
def isLaid (store : Store) (name : TableName) : Bool :=
  (store.table? name.text).any (·.columns = Layout.columns name)

/-- A table of this library without rows. -/
def laidEmpty (name : TableName) : Table :=
  let ids := match name with
    | .snapshots => .aboveHeld
    | .changes | .batches => .aboveEver 0
    | _ => .none
  ⟨name.text, Layout.columns name, ids, Layout.key name, []⟩

end Store

end ChangeRouting
