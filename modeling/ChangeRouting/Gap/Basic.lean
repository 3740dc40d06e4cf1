import ChangeRouting.Change.Basic

/-!
# ChangeRouting.Gap.Basic

Gaps: inclusive ranges of change ids that routing has not yet confirmed as fully examined.

A gap is *active* while its ids are still to be examined, *filled* when routing has consumed it, and
*skipped* when it is known to stay empty.  The gap that ends at `openEnd` is open: it holds every id
still to come.
-/

namespace ChangeRouting

/-- What is known about the ids of a gap. -/
inductive GapStatus
  | active
  | skipped
  | filled
  deriving DecidableEq, Repr

namespace GapStatus

/-- The code in the gap table. -/
def code : GapStatus → String
  | active => "GP"
  | skipped => "SK"
  | filled => "OK"

/-- The name an operator reads. -/
def label : GapStatus → String
  | active => "ACTIVE"
  | skipped => "SKIP"
  | filled => "FILLED"

/-- The status a code stands for. -/
def ofCode (code : String) : Except Fault GapStatus :=
  match code with
  | "GP" => .ok active
  | "SK" => .ok skipped
  | "OK" => .ok filled
  | other => .error (.unknownGapStatus other)

@[simp] theorem ofCode_code (status : GapStatus) : ofCode status.code = .ok status := by
  cases status <;> rfl

end GapStatus

/-- An inclusive range of change ids. -/
structure Gap where
  start : Int
  stop : Int
  status : GapStatus
  createTime : Millis
  updateTime : Millis
  deriving DecidableEq, Repr

namespace Gap

/-- A new active gap. -/
def new (start stop : Int) (now : Millis) : Gap := ⟨start, stop, .active, now, now⟩

/-- The gap of every id from `start` on. -/
def openFrom (start : Int) (now : Millis) : Gap := new start openEnd now

/-- Whether the gap holds every id still to come. -/
def isOpen (gap : Gap) : Bool := gap.stop = openEnd

/-- Whether the ids of the gap are still to be examined. -/
def isActive (gap : Gap) : Bool := gap.status = .active

/-- Whether an id is in the range. -/
def contains (gap : Gap) (id : Int) : Bool := gap.start ≤ id ∧ id ≤ gap.stop

/-- How long the gap has been there. -/
def age (gap : Gap) (now : Millis) : Int := now - gap.createTime

/-- The range as an operator reads it. -/
def render (gap : Gap) : String :=
  if gap.isOpen then s!"[{gap.start}, ∞)" else s!"[{gap.start}, {gap.stop}]"

@[simp] theorem contains_iff {gap : Gap} {id : Int} :
    gap.contains id = true ↔ gap.start ≤ id ∧ id ≤ gap.stop := by
  simp [contains]

end Gap

end ChangeRouting
