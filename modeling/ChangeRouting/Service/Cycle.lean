import ChangeRouting.Service.Pass

/-!
# ChangeRouting.Service.Cycle

One routing cycle: a pass on every enabled channel, then the gaps brought up to date, all or nothing.

* A pass that fails is taken back on its own and confirms nothing; the other channels go on.
* A fault outside a pass takes back the whole cycle: the store, the marks and the pending refreshes.
* The refreshes that passes asked for happen after the cycle, each once.
-/

namespace ChangeRouting

/-- What a committed cycle reports. -/
structure CycleReport where
  /-- The passes that were committed. -/
  channels : List PassReport
  /-- The channels whose pass failed. -/
  failed : List String
  gaps : GapReport
  /-- What was refreshed, in order. -/
  refreshes : List Refresh
  deriving DecidableEq, Repr

namespace CycleReport

/-- The changes all passes routed. -/
def rowsRead (report : CycleReport) : Nat :=
  report.channels.foldl (fun total pass => total + pass.rowsRead) 0

/-- The batches all passes stored. -/
def batches (report : CycleReport) : Nat :=
  report.channels.foldl (fun total pass => total + pass.batches) 0

end CycleReport

/-- What a cycle learns from outside. -/
structure Circumstances where
  visibility : Visibility
  /-- The time of the cycle. -/
  now : Millis
  /-- Channels whose reader stalls, with the number of changes it delivers before. -/
  stalls : List (String × Nat) := []
  deriving DecidableEq, Repr

/-- How far a cycle has come. -/
structure CycleState where
  coverage : Coverage := .empty
  passes : List (String × PassOutcome) := []
  failed : List String := []
  hooks : Hooks Refresh := .empty

/-- The state after the pass on a channel: with what it left behind, or without anything when it
failed. -/
def CycleState.noted (state : CycleState) (channel : Channel) : Option PassOutcome → CycleState
  | some outcome => { state with
      coverage := state.coverage.record channel.id (.through outcome.through)
      passes := state.passes ++ [(channel.id, outcome)]
      hooks := state.hooks.absorb outcome.hooks }
  | none => { state with
      coverage := state.coverage.record channel.id .failed
      failed := state.failed ++ [channel.id] }

/-- How the pass on a channel is made, given the gaps and what to look things up in. -/
abbrev Passes := Lookups → List Gap → Channel → Work PassOutcome

namespace Service

/-- The passes of a cycle. -/
def passes (service : Service) (stalls : List (String × Nat)) : Passes := fun lookups gaps channel =>
  service.pass lookups gaps (stalls.lookup channel.id) channel

/-- The pass on one channel within a cycle; a failed pass leaves the store as it was. -/
def passWithin (pass : Channel → Work PassOutcome) (state : CycleState) (channel : Channel) :
    Work CycleState := do
  let outcome ← tryCatch (some <$> (pass channel).guarded) fun _ => pure none
  return state.noted channel outcome

/-- The work of a cycle on the store. -/
def cycleWork (service : Service) (passes : Passes) (circumstances : Circumstances) :
    Work (CycleState × GapReport) := do
  let gaps ← loadGaps circumstances.now
  let snapshots ← Work.query Store.allSnapshots
  let nodes ← Work.query Store.allNodes
  let state ← service.channels.foldlM (passWithin (passes ⟨snapshots, nodes⟩ gaps)) {}
  let report ← reconcile service.gapPolicy gaps state.coverage circumstances.visibility
    circumstances.now circumstances.now
  return (state, report)

/-- The higher of the mark a transaction has and an id. -/
private def raiseMark (marks : Marks) (mark : String × Int) : Marks :=
  assign mark.1 ((marks.lookup mark.1).elim mark.2 (max mark.2)) marks

/-- The marks of a channel after a pass: what was routed beyond the reach of the pass. -/
def marksAfter (marks : Marks) (outcome : PassOutcome) : Marks :=
  if outcome.through = openEnd then []
  else
    (outcome.routed.filter (outcome.through < ·.2)).foldl raiseMark
      (marks.filter (outcome.through < ·.2))

/-- The service after a committed pass.  A channel without marks is not listed. -/
def remember (service : Service) (channel : String) (outcome : PassOutcome) : Service :=
  let others := service.marks.filter (·.1 ≠ channel)
  match marksAfter (service.marksOf channel) outcome with
  | [] => { service with marks := others }
  | marks => { service with marks := (channel, marks) :: others }

/-- What a committed cycle reports. -/
def reportOf (state : CycleState) (gaps : GapReport) : CycleReport :=
  ⟨state.passes.map (·.2.report), state.failed, gaps, state.hooks.pending.map (·.2)⟩

/-- The service after committed passes. -/
def rememberAll (service : Service) (passes : List (String × PassOutcome)) : Service :=
  passes.foldl (fun service (channel, outcome) => service.remember channel outcome) service

/-- Run one cycle whose passes are made in some way: what it reports, and the service and the store
after it. -/
def cycleBy (service : Service) (passes : Passes) (circumstances : Circumstances) (store : Store) :
    Except Fault CycleReport × Service × Store :=
  match (service.cycleWork passes circumstances).guarded.on store with
  | (.error fault, store) => (.error fault, service, store)
  | (.ok (state, gaps), store) => (.ok (reportOf state gaps), service.rememberAll state.passes, store)

/-- Run one cycle. -/
def cycle (service : Service) (circumstances : Circumstances) (store : Store) :
    Except Fault CycleReport × Service × Store :=
  service.cycleBy (service.passes circumstances.stalls) circumstances store

/-- Run one cycle of an unattended service: a fault that the next cycle may not meet is passed over. -/
def attempt (service : Service) (circumstances : Circumstances) (store : Store) :
    Except Fault (Option CycleReport) × Service × Store :=
  match service.cycle circumstances store with
  | (.ok report, after) => (.ok (some report), after)
  | (.error fault, after) => (if fault.isRetryable then .ok none else .error fault, after)

end Service

end ChangeRouting
