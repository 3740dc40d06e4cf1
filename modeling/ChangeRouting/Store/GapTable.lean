import ChangeRouting.Store.Loose

/-!
# ChangeRouting.Store.GapTable

The gap table: at most one row per range.

* Inserting a range that is there gives it the new status and update time; it keeps its age.
* A row with a status nobody knows can be written but not read.
* Purging deletes what is settled, filled or skipped, and was last touched before the cutoff.
-/

namespace ChangeRouting

namespace GapRow

/-- The row of a gap. -/
def ofGap (gap : Gap) : GapRow :=
  ⟨gap.start, gap.stop, gap.status.code, gap.createTime, gap.updateTime⟩

/-- The gap a row stands for. -/
def read (row : GapRow) : Except Fault Gap :=
  match GapStatus.ofCode row.status with
  | .error _ => .error (.statement (.unreadable "status" row.status))
  | .ok status => .ok ⟨row.start, row.stop, status, Millis.ofStored row.createTime,
      Millis.ofStored row.updateTime⟩

/-- Whether the row is that of a range. -/
def isRange (row : GapRow) (start stop : Int) : Bool := row.start = start ∧ row.stop = stop

/-- The order of ranges: by start, then by end. -/
def le (a b : GapRow) : Bool := a.start < b.start || (a.start = b.start && a.stop ≤ b.stop)

/-- Rows in an order with one more, which comes before its equals. -/
def place (le : GapRow → GapRow → Bool) (row : GapRow) : List GapRow → List GapRow
  | [] => [row]
  | other :: rest => if le row other then row :: other :: rest else other :: place le row rest

/-- Rows brought into an order; equals stay as they were. -/
def sorted (le : GapRow → GapRow → Bool) (rows : List GapRow) : List GapRow := rows.foldr (place le) []

end GapRow

namespace Store

/-- The store with other gaps. -/
def withGaps (store : Store) (rows : List GapRow) : Store := { store with gaps := some rows }

/-- Rows with a gap put in: the row of its range takes its status and update time, and a new row is
appended when there is none. -/
def upsertGap (gap : Gap) : List GapRow → List GapRow
  | [] => [.ofGap gap]
  | row :: rest =>
    if row.isRange gap.start gap.stop then
      { row with status := gap.status.code, updateTime := gap.updateTime } :: rest
    else row :: upsertGap gap rest

/-- Insert a gap, or touch the gap of this range. -/
def insertGap (gap : Gap) (store : Store) : Except Fault Store :=
  match store.gaps with
  | none => Prod.snd <$> store.looseUpdate .gaps (·.insertGap (.ofGap gap))
  | some rows => .ok (store.withGaps (upsertGap gap rows))

/-- Insert a row as it is; its range must be new. -/
def insertGapRow (row : GapRow) (store : Store) : Except Fault Store :=
  match store.gaps with
  | none => Prod.snd <$> store.looseUpdate .gaps (·.insertGapRow row)
  | some rows =>
    if rows.any (·.isRange row.start row.stop) then
      .error (.statement (.duplicateKey TableName.gaps.text))
    else .ok (store.withGaps (rows ++ [row]))

/-- The row with another status, if it is that of a range. -/
def touchGap (start stop : Int) (status : GapStatus) (now : Millis) (row : GapRow) : GapRow :=
  if row.isRange start stop then { row with status := status.code, updateTime := now } else row

/-- Change the status of a range, if it is there. -/
def setGapStatus (start stop : Int) (status : GapStatus) (now : Millis) (store : Store) :
    Except Fault Store :=
  match store.gaps with
  | none => Prod.snd <$> store.looseUpdate .gaps fun table =>
      return ((), ← table.setGapStatus start stop status.code now)
  | some rows => .ok (store.withGaps (rows.map (touchGap start stop status now)))

/-- Whether a row is settled and was last touched before the cutoff. -/
def isPurgeable (cutoff : Int) (row : GapRow) : Bool :=
  (row.status = GapStatus.filled.code || row.status = GapStatus.skipped.code) &&
    row.updateTime < cutoff

/-- Delete settled gaps last touched before the cutoff; their number is the answer. -/
def purgeGaps (cutoff : Int) (store : Store) : Except Fault (Nat × Store) :=
  match store.gaps with
  | none => store.looseUpdate .gaps
      (·.purgeGaps [GapStatus.filled.code, GapStatus.skipped.code] cutoff)
  | some rows => .ok ((rows.filter (isPurgeable cutoff)).length,
      store.withGaps (rows.filter fun row => !isPurgeable cutoff row))

/-- Every gap, by range. -/
def allGaps (store : Store) : Except Fault (List Gap) :=
  match store.gaps with
  | none => do (← (← store.loose .gaps).gaps).mapM GapRow.read
  | some rows => (GapRow.sorted GapRow.le rows).mapM GapRow.read

/-- The active gaps by start; of two with one start, the older first. -/
def activeGaps (store : Store) : Except Fault (List Gap) :=
  match store.gaps with
  | none => do (← (← store.loose .gaps).gapsOf GapStatus.active.code).mapM GapRow.read
  | some rows =>
    let active := rows.filter (·.status = GapStatus.active.code)
    (GapRow.sorted (fun a b => a.start ≤ b.start) active).mapM GapRow.read

end Store

end ChangeRouting
