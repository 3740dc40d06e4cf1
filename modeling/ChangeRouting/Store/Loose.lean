import ChangeRouting.Change.Basic
import ChangeRouting.Store.Layout

/-!
# ChangeRouting.Store.Loose

The statements of this library on tables that are kept as cells.

Such a table goes by a name of this library, but its columns may be others, its key may be missing, and
its cells may hold what no row of its kind can hold.  A statement then does what its text says: it fails
if it names a column or a key that is not there, it compares and converts as the columns prefer, and it
fails on the first row it cannot read.
-/

namespace ChangeRouting

open Condition (Expr)

namespace Table

/-! ## conditions -/

private def equals (column : Expr) (cell : Cell) : Expr := .compare .eq column (.literal cell)

private def inRange (column : Expr) (start stop : Int) : Expr :=
  .between column (.literal (.ofInt start)) (.literal (.ofInt stop))

/-- The rows that meet a condition, as rows of a layout in ascending order of some columns. -/
private def rowsOf (table : Table) (name : TableName) (layout : Layout row) (order : List String)
    (rows : List (List Cell)) : Except Fault (List (Except Fault row)) := do
  let rows ← table.project (Layout.names name) (← table.sortedBy order rows)
  return rows.map (table.decode layout.read)

/-- All rows of a layout, unless one of them cannot be read. -/
private def allRowsOf (table : Table) (name : TableName) (layout : Layout row) (order : List String)
    (rows : List (List Cell)) : Except Fault (List row) := do
  (← table.rowsOf name layout order rows).mapM id

/-- Insert a row of a layout. -/
private def insertLaid (table : Table) (name : TableName) (layout : Layout row)
    (onConflict : OnConflict) (row : row) : Except Fault (Int × Table) :=
  table.insertNamed onConflict (List.zip (Layout.names name) (layout.write row))

/-- Leave an id to the table. -/
private def insertWithoutId (table : Table) (name : TableName) (layout : Layout row) (row : row) :
    Except Fault (Int × Table) :=
  table.insertNamed .refuse ((List.zip (Layout.names name) (layout.write row)).drop 1)

/-! ## the change log -/

/-- Append a change under its own id, or under the next one. -/
def insertChange (table : Table) (row : ChangeRow) (underOwnId : Bool) : Except Fault (Int × Table) := do
  let _ ← table.position "data_id"
  if underOwnId then table.insertLaid .changes .change .refuse row
  else table.insertWithoutId .changes .change row

/-- Write an event code over that of a row. -/
def setEventCode (table : Table) (id : Int) (code : String) : Except Fault Table := do
  table.update (equals (← table.column "data_id") (.ofInt id)) [("event_type", .text code)]

/-- Every change in id order. -/
def changes (table : Table) : Except Fault (List (Except Fault ChangeRow)) :=
  table.rowsOf .changes .change ["data_id"] table.rows

/-- The rows of a channel in ranges of ids, in id order. -/
def changesInRanges (table : Table) (channel : String) (ranges : List (Int × Int)) :
    Except Fault (List (Except Fault ChangeRow)) := do
  let id ← table.column "data_id"
  let within := (ranges.map fun (start, stop) => inRange id start stop).foldl Expr.or
    (.literal (.ofInt 0))
  let condition := Expr.and (equals (← table.column "channel_id") (.text channel)) within
  table.rowsOf .changes .change ["data_id"] (table.having condition)

/-- The rows of a channel from an id on, in id order. -/
def changesFrom (table : Table) (channel : String) (start : Int) :
    Except Fault (List (Except Fault ChangeRow)) := do
  let from' := Expr.compare .ge (← table.column "data_id") (.literal (.ofInt start))
  let condition := Expr.and (equals (← table.column "channel_id") (.text channel)) from'
  table.rowsOf .changes .change ["data_id"] (table.having condition)

/-- The ids of a range with their channels, in id order. -/
def idsInRange (table : Table) (start stop : Int) : Except Fault (List (Int × String)) := do
  let rows := table.having (inRange (← table.column "data_id") start stop)
  let rows ← table.project ["data_id", "channel_id"] (← table.sortedBy ["data_id"] rows)
  rows.mapM <| table.decode fun
    | [id, channel] => do return (← id.readInt, ← channel.readText)
    | _ => none

/-- When the change with this id was captured. -/
def createTimeOf (table : Table) (id : Int) : Except Fault (Option Millis) := do
  let rows := table.having (equals (← table.column "data_id") (.ofInt id))
  match ← table.project ["create_time"] rows with
  | [time] :: _ => some <$> table.decode (fun _ => time.readInt.map Millis.ofStored) [time]
  | _ => return none

/-! ## schema snapshots -/

/-- Record a snapshot. -/
def insertSnapshot (table : Table) (row : SnapshotRow) : Except Fault (Int × Table) :=
  table.insertLaid .snapshots .snapshot .replace row

/-- Every snapshot; of those with one id, the last. -/
def snapshots (table : Table) : Except Fault (List SnapshotRow) := do
  let names := (Layout.names .snapshots).take 5
  let rows ← table.project names table.rows
  rows.mapM <| table.decode fun row => Layout.snapshot.read (row ++ [.null])

/-! ## gaps -/

/-- Insert a gap, or touch the gap of this range. -/
def insertGap (table : Table) (row : GapRow) : Except Fault (Int × Table) := do
  table.requireKey ["start_id", "end_id"]
  let status ← table.position "status"
  let time ← table.position "last_update_time"
  table.insertLaid .gaps .gap
    (.change fun old new => (old.set status (new.getD status .null)).set time (new.getD time .null)) row

/-- Insert a row as it is. -/
def insertGapRow (table : Table) (row : GapRow) : Except Fault (Int × Table) :=
  table.insertLaid .gaps .gap .refuse row

/-- Change the status of a range. -/
def setGapStatus (table : Table) (start stop : Int) (status : String) (now : Int) :
    Except Fault Table := do
  let condition := Expr.and (equals (← table.column "start_id") (.ofInt start))
    (equals (← table.column "end_id") (.ofInt stop))
  table.update condition [("status", .text status), ("last_update_time", .ofInt now)]

/-- Delete gaps of these codes last touched before the cutoff; their number is the answer. -/
def purgeGaps (table : Table) (codes : List String) (cutoff : Int) : Except Fault (Nat × Table) := do
  let settled := Expr.isIn (← table.column "status") (codes.map fun code => .literal (.text code))
  let old := Expr.compare .lt (← table.column "last_update_time") (.literal (.ofInt cutoff))
  return table.delete (.and settled old)

/-- Every gap, by range. -/
def gaps (table : Table) : Except Fault (List GapRow) :=
  table.allRowsOf .gaps .gap ["start_id", "end_id"] table.rows

/-- The gaps of a code by start. -/
def gapsOf (table : Table) (code : String) : Except Fault (List GapRow) := do
  let rows := table.having (equals (← table.column "status") (.text code))
  table.allRowsOf .gaps .gap ["start_id"] rows

/-! ## batches -/

/-- Store a batch; the id it gets is the answer. -/
def insertBatch (table : Table) (row : BatchRow) : Except Fault (Int × Table) :=
  table.insertWithoutId .batches .batch row

/-- Write a status code over that of a batch. -/
def setBatchCode (table : Table) (id : Int) (code : String) : Except Fault Table := do
  table.update (equals (← table.column "batch_id") (.ofInt id)) [("status", .text code)]

/-- Every batch in id order. -/
def batches (table : Table) : Except Fault (List BatchRow) :=
  table.allRowsOf .batches .batch ["batch_id"] table.rows

/-- The batches of one node on one channel in id order. -/
def batchesOf (table : Table) (node channel : String) : Except Fault (List BatchRow) := do
  let condition := Expr.and (equals (← table.column "node_id") (.text node))
    (equals (← table.column "channel_id") (.text channel))
  table.allRowsOf .batches .batch ["batch_id"] (table.having condition)

/-- Record one change as a member of a batch. -/
def insertEvent (table : Table) (event : BatchEvent) : Except Fault (Int × Table) :=
  table.insertLaid .events .event .refuse event

/-- The members of a batch by change id. -/
def eventsOf (table : Table) (batch : Int) : Except Fault (List BatchEvent) := do
  let rows := table.having (equals (← table.column "batch_id") (.ofInt batch))
  table.allRowsOf .events .event ["data_id"] rows

/-! ## watermarks -/

/-- Move the watermark of a channel up to an id. -/
def advanceWatermark (table : Table) (channel : String) (id : Int) : Except Fault (Int × Table) := do
  table.requireKey ["channel_id"]
  let mark ← table.position "last_routed_id"
  table.insertLaid .watermarks .watermark (.change fun old new =>
    let held := old.getD mark .null
    let wanted := new.getD mark .null
    old.set mark (if held.le wanted then wanted else held)) (channel, id)

/-- The highest change id routed on a channel. -/
def watermarkOf (table : Table) (channel : String) : Except Fault (Option Int) := do
  let rows := table.having (equals (← table.column "channel_id") (.text channel))
  match ← table.project ["last_routed_id"] rows with
  | [id] :: _ => some <$> table.decode (fun _ => id.readInt) [id]
  | _ => return none

/-! ## nodes and redirects -/

/-- Insert a node, in place of an earlier one with its id. -/
def insertNode (table : Table) (node : Node) : Except Fault (Int × Table) := do
  table.requireKey ["node_id"]
  table.insertLaid .nodes .node (.change fun _ new => new) node

/-- Every node in id order; any number but zero enables one. -/
def nodes (table : Table) : Except Fault (List Node) := do
  let rows ← table.project (Layout.names .nodes) (← table.sortedBy ["node_id"] table.rows)
  rows.mapM <| table.decode fun
    | [id, group, externalId, enabled, parent] => do
      return ⟨← id.readText, ← group.readText, ← externalId.readText, (← enabled.readInt) ≠ 0,
        ← parent.readText?⟩
    | _ => none

/-- Send what belongs to an external id to a node. -/
def setRedirect (table : Table) (external node : String) : Except Fault (Int × Table) :=
  table.insertLaid .redirects .redirect .replace (external, node)

/-- The node each external id is redirected to, the first first. -/
def redirects (table : Table) : Except Fault (List (String × String)) := do
  let rows ← table.project (Layout.names .redirects) table.rows
  rows.mapM (table.decode Layout.redirect.read)

end Table

end ChangeRouting
