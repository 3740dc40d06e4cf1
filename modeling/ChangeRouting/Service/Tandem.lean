import ChangeRouting.Read.Handover
import ChangeRouting.Service.Pass

/-!
# ChangeRouting.Service.Tandem

A pass as its two sides make it: the reader queues changes, and the router takes them one by one, routes
them and stores the batches.

* The router looks at the limits of the channel before it routes a change.  At a limit it asks the reader
  to stop, stores its batches, and takes what is still coming up to the marker.
* A marker that tells of a fault makes the pass fail, unless the router had stopped before it.
* A router that fails leaves.

`Tandem.step?` is one move of one side.
-/

namespace ChangeRouting

/-- What the router is about to do. -/
inductive RouterStage
  | taking
  /-- To route a change it took, or to stop before it. -/
  | judging (change : Change)
  /-- To store the batches still open. -/
  | storing
  /-- To take what is still coming. -/
  | draining (built : BuildReport)
  | done (outcome : PassOutcome)
  | failed (fault : Fault)

/-- A pass whose reader runs beside its router. -/
structure Tandem where
  handover : Handover
  stage : RouterStage
  state : PassState
  store : Store

/-- One move of a pass. -/
inductive TandemMove
  /-- The reader moves. -/
  | fetch
  | offer
  | giveUp
  /-- The router moves. -/
  | route
  deriving DecidableEq, Repr

namespace Tandem

/-- The pass on a channel begins; the queue has room for as many items as asked for, and for one at
least. -/
def start (service : Service) (gaps : List Gap) (channel : Channel) (window : Nat) (store : Store) :
    Tandem where
  handover := .new window (service.marksOf channel.id) (.asked (service.readOptions channel) gaps store)
  stage := .taking
  state := service.startOf channel
  store := store

/-- The router fails and leaves. -/
def fail (tandem : Tandem) (fault : Fault) : Tandem :=
  { tandem with stage := .failed fault, handover := tandem.handover.leave }

/-- The router is done once it knows what the marker says. -/
def conclude (tandem : Tandem) (channel : Channel) (built : BuildReport) (summary : ReadSummary) :
    Tandem :=
  { tandem with
    stage := .done (Service.outcomeOf channel
      ⟨[], summary.skipped, summary.fault, summary.fromFirst⟩ built tandem.state) }

/-- The router takes an item to route it. -/
def receive (tandem : Tandem) (item : Queued) (handover : Handover) : Tandem :=
  let tandem := { tandem with handover := handover }
  match item with
  | .change change => { tandem with stage := .judging change }
  | .finished summary =>
    match summary.fault with
    | some fault => tandem.fail fault
    | none => { tandem with stage := .storing }

/-- The router routes a change, unless the pass has done as much as the channel allows. -/
def judge (service : Service) (lookups : Lookups) (channel : Channel) (tandem : Tandem)
    (change : Change) : Tandem :=
  if tandem.state.isBoundary change && tandem.state.limitReached channel then
    { tandem with
      handover := tandem.handover.stop
      stage := .storing
      state := { tandem.state with stoppedEarly := true } }
  else
    match (service.routeChange lookups change).run.run (tandem.state, tandem.store) with
    | (.ok _, state, store) => { tandem with stage := .taking, state := state, store := store }
    | (.error fault, state, store) => { tandem with state := state, store := store }.fail fault

/-- The router stores the batches still open. -/
def settle (channel : Channel) (tandem : Tandem) : Tandem :=
  match (Service.building Builder.finish).run.run (tandem.state, tandem.store) with
  | (.error fault, state, store) => { tandem with state := state, store := store }.fail fault
  | (.ok built, state, store) =>
    let stored := { tandem with state := state, store := store }
    match stored.handover.ended with
    | some summary => stored.conclude channel built summary
    | none => { stored with handover := stored.handover.stop, stage := .draining built }

/-- The router takes an item to get to the marker. -/
def drain (channel : Channel) (built : BuildReport) (tandem : Tandem) (item : Queued)
    (handover : Handover) : Tandem :=
  let tandem := { tandem with handover := handover }
  match item with
  | .change _ => tandem
  | .finished summary => tandem.conclude channel built summary

/-- The pass after a move of the router, unless it has to wait or is at its end. -/
def route? (service : Service) (lookups : Lookups) (channel : Channel) (tandem : Tandem) :
    Option Tandem :=
  match tandem.stage with
  | .taking => tandem.handover.take?.map fun (item, handover) => tandem.receive item handover
  | .judging change => some (judge service lookups channel tandem change)
  | .storing => some (settle channel tandem)
  | .draining built =>
    tandem.handover.take?.map fun (item, handover) => tandem.drain channel built item handover
  | .done _ | .failed _ => none

/-- The pass after a move of the reader. -/
def read? (tandem : Tandem) (handover? : Option Handover) : Option Tandem :=
  handover?.map fun handover => { tandem with handover := handover }

/-- The pass after a move, unless the move has to wait. -/
def step? (service : Service) (lookups : Lookups) (channel : Channel) (tandem : Tandem) :
    TandemMove → Option Tandem
  | .fetch => tandem.read? tandem.handover.fetch?
  | .offer => tandem.read? tandem.handover.offer?
  | .giveUp => tandem.read? tandem.handover.giveUp?
  | .route => tandem.route? service lookups channel

/-- What moves lead to. -/
inductive Reaches (service : Service) (lookups : Lookups) (channel : Channel) (start : Tandem) :
    Tandem → Prop
  | refl : Reaches service lookups channel start start
  | step {now next : Tandem} (move : TandemMove) : Reaches service lookups channel start now →
    now.step? service lookups channel move = some next → Reaches service lookups channel start next

end Tandem

end ChangeRouting
