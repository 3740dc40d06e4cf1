import ChangeRouting.Gap.Basic
import ChangeRouting.Store.ChangeLog

/-!
# ChangeRouting.Read.Rows

Reading the changes of one channel that lie in the active gaps.

There are two ways to ask the log, and the number of gaps decides between them: one range per gap, or
everything from the first gap on.  The second meets rows outside the gaps, so the reader walks along
the gaps with the rows, drops what lies between them and stops behind the last one.

* A statement names a bounded number of ranges; with more of them the reading fails at once.
* A row is read as a change before it is looked at any further, so one that cannot be read ends the
  reading wherever it lies.
* A change at or below the mark of its transaction has been routed already and is skipped.
-/

namespace ChangeRouting

/-- What to read. -/
structure ReadOptions where
  channel : String
  columns : PayloadColumns
  /-- With more gaps than this, ask for everything from the first gap on. -/
  maxRanges : Nat
  deriving DecidableEq, Repr

/-- The highest ids already routed, by transaction. -/
abbrev Marks := List (String × Int)

/-- What a reading gave. -/
structure Reading where
  /-- The changes to route, in id order. -/
  changes : List Change
  /-- The ids of changes that were routed already. -/
  skipped : List Int
  /-- What ended the reading before its end. -/
  fault : Option Fault
  /-- Whether everything from the first gap on was asked for. -/
  fromFirst : Bool
  deriving DecidableEq, Repr

namespace Reading

/-- Whether the reading came to its end. -/
def isExhausted (reading : Reading) : Bool := reading.fault.isNone

/-- Whether a change was routed already. -/
def isMarked (marks : Marks) (change : Change) : Bool :=
  match change.transaction.bind (marks.lookup ·) with
  | some mark => change.id ≤ mark
  | none => false

/-- A reading that met one more change before all others. -/
def meet (marks : Marks) (change : Change) (reading : Reading) : Reading :=
  if isMarked marks change then { reading with skipped := change.id :: reading.skipped }
  else { reading with changes := change :: reading.changes }

/-- The fault of a reading, as the reader tells it. -/
def blame (fault : Fault) : Fault := .reader fault.message

/-- Read rows that all lie in the gaps. -/
def ofRanges (marks : Marks) : List (Except Fault Change) → Reading
  | [] => ⟨[], [], none, false⟩
  | .error fault :: _ => ⟨[], [], some (blame fault), false⟩
  | .ok change :: rows => (ofRanges marks rows).meet marks change

/-- Read rows from the first gap on, walking along the gaps. -/
def alongGaps (marks : Marks) (gaps : List Gap) : List (Except Fault Change) → Reading
  | [] => ⟨[], [], none, true⟩
  | .error fault :: _ => ⟨[], [], some (blame fault), true⟩
  | .ok change :: rows =>
    match gaps.dropWhile (·.stop < change.id) with
    | [] => ⟨[], [], none, true⟩
    | gap :: later =>
      let rest := alongGaps marks (gap :: later) rows
      if gap.contains change.id then rest.meet marks change else rest

end Reading

/-- Read a channel over the gaps, which are in ascending order.  `inRanges` answers what lies in ranges of
ids. -/
def readBy (inRanges : List (Int × Int) → Except Fault (List (Except Fault Change)))
    (options : ReadOptions) (gaps : List Gap) (marks : Marks) (store : Store) : Reading :=
  match gaps with
  | [] => ⟨[], [], none, false⟩
  | first :: _ =>
    if options.maxRanges < gaps.length then
      match store.changesFrom options.channel first.start options.columns with
      | .error fault => ⟨[], [], some (Reading.blame fault), true⟩
      | .ok rows => Reading.alongGaps marks gaps rows
    else
      match inRanges (gaps.map fun gap => (gap.start, gap.stop)) with
      | .error fault => ⟨[], [], some (Reading.blame fault), false⟩
      | .ok rows => Reading.ofRanges marks rows

/-- Read a channel of a store. -/
def read (options : ReadOptions) (gaps : List Gap) (marks : Marks) (store : Store) : Reading :=
  readBy (store.changesInRanges options.channel · options.columns) options gaps marks store

end ChangeRouting
