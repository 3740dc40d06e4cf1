import ChangeRouting.Batch.Builder
import ChangeRouting.Service.Basic

/-!
# ChangeRouting.Service.Pass

One pass on one channel: read the changes in the gaps, ask the routers about each, and build batches.

* A change whose snapshot is unknown, or whose table has no routers here, goes nowhere.  So does one
  whose payload cannot be read; that is put down to the first router of its table.
* A router that fails selects nobody, and the other routers are asked all the same.
* A pass ends early, between two transactions, once it has routed as many changes or given some node as
  many batches as the channel allows.  What the reader met after that does not matter.
-/

namespace ChangeRouting

/-- What all passes of a cycle look things up in. -/
structure Lookups where
  snapshots : List Snapshot
  nodes : List Node
  deriving DecidableEq, Repr

/-! ## routing one change -/

namespace Service

/-- The nodes a router may send a change to. -/
def candidates (service : Service) (router : Router) (change : Change) (nodes : List Node) :
    List Node :=
  nodes.filter fun node =>
    node.enabled && node.group = router.targetGroup && node.id ≠ service.config.node.id &&
      change.source ≠ some node.id

/-- What routers decide about a change, the number of faults on the way, and the scope after that. -/
structure Decided where
  decisions : List Decision
  faults : Nat
  scope : RoutingScope
  /-- Whether the snapshot of the change is unknown. -/
  stray : Bool := false

/-- Ask routers about a change, one after the other. -/
def ask (service : Service) (nodes : List Node) (store : Store) (change : Change)
    (values : ColumnValues) (scope : RoutingScope) : List ResolvedRouter → Decided
  | [] => { decisions := [], faults := 0, scope := scope }
  | resolved :: rest =>
    let router := resolved.router
    let question : Question := ⟨router, change, values, service.candidates router change nodes,
      change.event = .reload⟩
    let (outcome, scope) := (resolved.strategy.select store question).run.run scope
    let later := ask service nodes store change values scope rest
    match outcome with
    | .ok selected => { later with decisions := ⟨router.id, selected⟩ :: later.decisions }
    | .error _ =>
      { later with
        decisions := ⟨router.id, ∅⟩ :: later.decisions
        faults := later.faults + 1 }

/-- What the routers of a change's table decide about it. -/
def decide (service : Service) (lookups : Lookups) (store : Store) (change : Change)
    (scope : RoutingScope) : Decided :=
  match lookups.snapshots.find? (·.id = change.snapshot) with
  | none => { decisions := [], faults := 0, scope := scope, stray := true }
  | some snapshot =>
    let routers := service.routersOf snapshot.trigger
    match routers with
    | [] => { decisions := [], faults := 0, scope := scope }
    | first :: _ =>
      match change.values snapshot with
      | .error _ => { decisions := [⟨first.router.id, ∅⟩], faults := 1, scope := scope }
      | .ok values =>
        service.ask lookups.nodes store change values scope
          (routers.filter (·.router.appliesTo change.event))

end Service

/-! ## the pass -/

/-- What a pass reports. -/
structure PassReport where
  channel : String
  rowsRead : Nat := 0
  rowsSkipped : Nat := 0
  events : Nat := 0
  batches : Nat := 0
  unrouted : Nat := 0
  /-- Routers that failed on a change. -/
  routerFaults : Nat := 0
  stoppedEarly : Bool := false
  /-- Changes whose snapshot is unknown. -/
  strays : Nat := 0
  /-- Lookup tables that were read for the pass. -/
  lookupTables : Nat := 0
  deriving DecidableEq, Repr

/-- How far a pass has come. -/
structure PassState where
  scope : RoutingScope
  builder : Builder
  rowsRead : Nat := 0
  routerFaults : Nat := 0
  strays : Nat := 0
  stoppedEarly : Bool := false
  /-- The highest id routed of each transaction. -/
  routed : Marks := []
  lastId : Option Int := none
  lastTransaction : Option String := none

/-- What a committed pass leaves behind. -/
structure PassOutcome where
  report : PassReport
  hooks : Hooks Refresh
  routed : Marks
  /-- Every row of the channel up to this id was examined. -/
  through : Int

/-- Work of a pass, beside the store. -/
abbrev Passing := ExceptT Fault (StateM (PassState × Store))

namespace PassState

/-- Whether a change may begin another transaction than the one before it. -/
def isBoundary (state : PassState) (change : Change) : Bool :=
  change.transaction.isNone || state.lastTransaction.isNone ||
    change.transaction ≠ state.lastTransaction

/-- Whether the pass has done as much as the channel allows. -/
def limitReached (channel : Channel) (state : PassState) : Bool :=
  (0 < channel.maxChanges && channel.maxChanges ≤ state.rowsRead) ||
    (0 < channel.maxBatches && channel.maxBatches ≤ state.builder.mostBatches)

/-- The state after the routers were asked about a change. -/
def note (state : PassState) (decided : Service.Decided) : PassState :=
  { state with
    scope := decided.scope
    routerFaults := state.routerFaults + decided.faults
    strays := state.strays + if decided.stray then 1 else 0 }

/-- The state after a change was routed. -/
def advance (state : PassState) (change : Change) : PassState :=
  { state with
    rowsRead := state.rowsRead + 1
    lastId := some change.id
    routed :=
      match change.transaction with
      | some transaction => Service.assign transaction change.id state.routed
      | none => state.routed
    lastTransaction := change.transaction }

end PassState

namespace Service

/-- Build batches during a pass. -/
def building (work : Building α) : Passing α :=
  ExceptT.mk fun (state, store) =>
    let (outcome, builder, store) := work.run.run (state.builder, store)
    (outcome, { state with builder := builder }, store)

/-- Route one change: ask the routers about it and put it into the batches of the nodes they select. -/
def routeChange (service : Service) (lookups : Lookups) (change : Change) : Passing Unit := do
  let (state, store) ← get
  let decided := service.decide lookups store change state.scope
  set (state.note decided, store)
  discard <| building (Builder.add change decided.decisions)
  modify fun (state, store) => (state.advance change, store)

/-- Route the changes a reader delivers, until a limit is reached between two transactions. -/
def routeChanges (service : Service) (lookups : Lookups) (channel : Channel) :
    List Change → Passing Unit
  | [] => return
  | change :: rest => do
    let (state, store) ← get
    if state.isBoundary change && state.limitReached channel then
      set ({ state with stoppedEarly := true }, store)
    else
      service.routeChange lookups change
      service.routeChanges lookups channel rest

/-- What a pass reads. -/
def readOptions (service : Service) (channel : Channel) : ReadOptions where
  channel := channel.id
  columns := ⟨channel.useRow, channel.useKey, channel.useOld⟩
  maxRanges := service.config.routing.maxRanges

/-- Route what a reader delivers and store the batches.  With `stalledAfter` the reader delivers that
many changes and then nothing in time. -/
def routeReading (service : Service) (lookups : Lookups) (stalledAfter : Option Nat)
    (channel : Channel) (reading : Reading) : Passing BuildReport := do
  service.routeChanges lookups channel (stalledAfter.elim reading.changes reading.changes.take)
  let stoppedEarly := (← get).1.stoppedEarly
  if !stoppedEarly && stalledAfter.isNone then
    if let some fault := reading.fault then throw fault
  let built ← building Builder.finish
  if stalledAfter.isSome then throw (.stalled channel.id service.config.routing.takeTimeout)
  return built

/-- The state a pass starts in. -/
def startOf (service : Service) (channel : Channel) : PassState where
  scope := .new service.config.node.id service.config.node.group channel.id
  builder := .new channel

/-- What a pass leaves behind when it ends in a state. -/
def outcomeOf (channel : Channel) (reading : Reading) (built : BuildReport) (state : PassState) :
    PassOutcome where
  report := {
    channel := channel.id
    rowsRead := state.rowsRead
    rowsSkipped := reading.skipped.length
    events := built.events
    batches := built.batches
    unrouted := built.unrouted
    routerFaults := state.routerFaults
    stoppedEarly := state.stoppedEarly
    strays := state.strays
    lookupTables := state.scope.cache.countP (·.2.isLookup) }
  hooks := state.scope.hooks
  routed := state.routed
  through := if state.stoppedEarly then state.lastId.getD 0 else openEnd

/-- What a pass on a channel reads. -/
def readingOf (service : Service) (gaps : List Gap) (channel : Channel) (store : Store) : Reading :=
  read (service.readOptions channel) gaps (service.marksOf channel.id) store

/-- One pass on a channel.  A reader that stalls makes it fail. -/
def pass (service : Service) (lookups : Lookups) (gaps : List Gap) (stalledAfter : Option Nat)
    (channel : Channel) : Work PassOutcome :=
  ExceptT.mk fun store =>
    let reading := service.readingOf gaps channel store
    match (service.routeReading lookups stalledAfter channel reading).run.run
        (service.startOf channel, store) with
    | (.error fault, _, store) => (.error fault, store)
    | (.ok built, state, store) => (.ok (outcomeOf channel reading built state), store)

end Service

end ChangeRouting
