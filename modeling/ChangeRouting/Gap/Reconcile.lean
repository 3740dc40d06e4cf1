import ChangeRouting.Gap.Coverage
import ChangeRouting.Gap.Visibility
import ChangeRouting.Store.ChangeLog
import ChangeRouting.Store.GapTable
import ChangeRouting.Word

/-!
# ChangeRouting.Gap.Reconcile

Keeping the gap table in step with what routing has examined.

* `loadGaps` gives the active gaps, with an open gap above all others when there was none.
* `reconcile` retires a gap in which rows were confirmed and puts the ranges between those rows in its
  place; what a failed or unfinished pass has not confirmed stays inside one of them.  An empty closed
  gap is skipped when nothing can come into it any more.  An open gap that was retired is followed by a
  new one above all confirmed rows.
* Settled gaps are forgotten after the retention time.

Ids and the retention time are words of 64 bits.
-/

namespace ChangeRouting

/-- How gaps are kept. -/
structure GapPolicy where
  /-- The age in milliseconds at which an empty gap is given up where transactions do not show. -/
  staleAfter : Nat
  /-- How long settled gaps are kept, in milliseconds; zero keeps them for good. -/
  retention : Nat
  deriving DecidableEq, Repr

/-- What one reconciliation did. -/
structure GapReport where
  filled : Nat := 0
  skipped : Nat := 0
  created : Nat := 0
  purged : Nat := 0
  /-- Rows of channels this node does not route. -/
  ignored : Nat := 0
  deriving DecidableEq, Repr

/-- Whether nothing was done. -/
def GapReport.isEmpty (report : GapReport) : Bool := report = {}

/-! ## loading -/

/-- The least start above the closed gaps and not below the open ones; one, when there are none. -/
def openStart (gaps : List Gap) : Int :=
  match (gaps.map fun gap => if gap.isOpen then gap.start else gap.stop + 1).max? with
  | some start => start
  | none => 1

/-- The active gaps, after an open gap was made if there was none. -/
def loadGaps (clock : Millis) : Work (List Gap) := do
  let active ← Work.query Store.activeGaps
  if active.any Gap.isOpen then return active
  let gaps ← Work.query Store.allGaps
  Work.update (Store.insertGap (.openFrom (openStart gaps) clock))
  Work.query Store.activeGaps

/-! ## reconciling -/

/-- The ranges between ascending ids, from `next` on, and the first id behind the last of them. -/
def holes (next : Int) : List Int → List (Int × Int) × Int
  | [] => ([], next)
  | id :: ids =>
    let (rest, after) := holes (id + 1) ids
    if next < id then ((next, id - 1) :: rest, after) else (rest, after)

/-- The ranges that take the place of a gap in which the ids were confirmed.  The end of an open gap is
left to the new open gap. -/
def remainders (gap : Gap) (confirmed : List Int) : List (Int × Int) :=
  let (between, next) := holes gap.start confirmed
  if gap.isOpen ∨ gap.stop < next then between else between ++ [(next, gap.stop)]

/-- How far a reconciliation has come. -/
structure Settling where
  report : GapReport := {}
  /-- An open gap stays as it is. -/
  openStays : Bool := false
  /-- The highest id confirmed so far. -/
  highest : Option Int := none
  deriving DecidableEq, Repr

/-- The greater of an optional id and an id. -/
def raised (highest : Option Int) (id : Int) : Int := highest.elim id (max id)

/-- When the row just below a gap was captured, if that matters. -/
def timeBelow (visibility : Visibility) (gap : Gap) : Work (Option Millis) :=
  match visibility with
  | .known (some _) =>
    if 0 < gap.start then Work.query (Store.createTimeOf (gap.start - 1)) else pure none
  | _ => pure none

/-- Settle one gap. -/
def settleGap (policy : GapPolicy) (coverage : Coverage) (visibility : Visibility)
    (now clock : Millis) (so : Settling) (gap : Gap) : Work Settling := do
  let rows ← Work.query (Store.idsInRange gap.start gap.stop)
  let confirmed := rows.filter fun (id, channel) => coverage.confirms channel id
  let ignored := (confirmed.filter fun (_, channel) => (coverage.reach? channel).isNone).length
  let so := { so with report.ignored := so.report.ignored + ignored }
  match (confirmed.map (·.1)).getLast? with
  | none =>
    if gap.isOpen then return { so with openStays := true }
    if !rows.isEmpty then return so
    let below ← timeBelow visibility gap
    if visibility.givesUp policy.staleAfter now gap below then
      Work.update (Store.setGapStatus gap.start gap.stop .skipped clock)
      return { so with report.skipped := so.report.skipped + 1 }
    return so
  | some last =>
    Work.update (Store.setGapStatus gap.start gap.stop .filled clock)
    let ranges := remainders gap (confirmed.map (·.1))
    ranges.forM fun (start, stop) => Work.update (Store.insertGap (.new start stop clock))
    return { so with
      report.filled := so.report.filled + 1
      report.created := so.report.created + ranges.length
      highest := some (raised so.highest last) }

/-- The time before which settled gaps are forgotten. -/
def GapPolicy.cutoff (policy : GapPolicy) (clock : Millis) : Int := word (clock - word policy.retention)

/-- The retention time of a number of hours, in milliseconds. -/
def retentionOfHours (hours : Nat) : Nat := plainWord (hours * 3600) * 1000

/-- Settle the gaps the passes were given, and follow a retired open gap by a new one. -/
def settleGaps (policy : GapPolicy) (active : List Gap) (coverage : Coverage) (visibility : Visibility)
    (now clock : Millis) : Work GapReport := do
  let so ← active.foldlM (settleGap policy coverage visibility now clock) {}
  let created ← match so.openStays, so.highest with
    | false, some highest => do
      Work.update (Store.insertGap (.openFrom (word (highest + 1)) clock))
      pure 1
    | _, _ => pure 0
  return { so.report with created := so.report.created + created }

/-- Bring the gap table up to date after a cycle.  `active` are the gaps the passes were given, `now`
is the time of the cycle, `clock` the time written into the table. -/
def reconcile (policy : GapPolicy) (active : List Gap) (coverage : Coverage) (visibility : Visibility)
    (now clock : Millis) : Work GapReport := do
  let report ← settleGaps policy active coverage visibility now clock
  if policy.retention = 0 then return report
  let purged ← Work.statement (Store.purgeGaps (policy.cutoff clock))
  return { report with purged := purged }

end ChangeRouting
