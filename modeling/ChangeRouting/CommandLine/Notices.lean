import ChangeRouting.CommandLine.Log
import ChangeRouting.Service.Cycle

/-!
# ChangeRouting.CommandLine.Notices

What a service says beside its answers: when it is set up, and in the course of a cycle.

Each part of the program speaks under its own origin.  What a cycle said is told from the store it began
with and from its report.
-/

namespace ChangeRouting

/-! ## origins -/

namespace Notice

/-- A notice of the routing service. -/
def ofService (severity : Severity) (text : String) : Notice := ⟨severity, "wolfroute::routing::service", text⟩

/-- A notice of a reader. -/
def ofReader (text : String) : Notice := ⟨.warning, "wolfroute::routing::reader", text⟩

/-- A notice about gaps. -/
def ofGaps (severity : Severity) (text : String) : Notice :=
  ⟨severity, "wolfroute::routing::gap_tracker", text⟩

end Notice

/-! ## setting up -/

/-- What is said once the store is open. -/
def Configuration.notices (config : Configuration) : List Notice :=
  [⟨.information, "wolfroute",
    s!"Node {config.node.id} ({config.node.group}) routing {config.channels.length} channels, " ++
      s!"visibility from {config.platform.kind.name}"⟩]

/-- What a service says when it is set up. -/
def Service.notices (service : Service) : List Notice :=
  let config := service.config
  (config.triggers.map fun trigger => .ofService .detail
    (s!"Trigger {trigger.id} on {trigger.table} routes with " ++
      s!"{(service.routersOf trigger.id).length} router(s)")) ++
  [.ofService .information
    (s!"Routing service for node {config.node.id} ({config.node.group}): " ++
      s!"{config.channels.length} channels, {config.routers.length} routers, " ++
      s!"visibility via {config.platform.kind.name}")]

/-! ## a cycle -/

private def noticeIf (condition : Prop) [Decidable condition] (notice : Notice) : List Notice :=
  if condition then [notice] else []

/-- What a pass says. -/
def PassReport.notices (report : PassReport) : List Notice :=
  noticeIf (0 < report.lookupTables) ⟨.detail, "wolfroute::router::lookup_table",
    s!"Loaded {report.lookupTables} lookup tables"⟩ ++
  noticeIf (0 < report.strays) (.ofService .warning
    s!"{report.strays} changes on channel {report.channel} reference unknown schema snapshots") ++
  noticeIf (0 < report.routerFaults) (.ofService .warning
    s!"Routers failed on {report.routerFaults} changes on channel {report.channel}") ++
  noticeIf (0 < report.batches) ⟨.detail, "wolfroute::routing::batch_builder",
    s!"Flushed {report.batches} batches on channel {report.channel}"⟩ ++
  noticeIf report.stoppedEarly (.ofService .detail
    s!"Channel {report.channel} reached its pass limit, stopping")

/-- What is said of a pass once its cycle is committed. -/
def PassReport.summary (report : PassReport) : List Notice :=
  noticeIf (0 < report.rowsRead ∨ 0 < report.rowsSkipped) (.ofService .information
    (s!"Routed {report.rowsRead} changes on channel {report.channel}: {report.events} events in " ++
      s!"{report.batches} batches ({report.unrouted} unrouted, {report.routerFaults} router errors)"))

/-- What is said of gaps that were brought up to date. -/
def GapReport.notices (report : GapReport) : List Notice :=
  noticeIf (0 < report.skipped) (.ofGaps .information
    s!"Skipping {report.skipped} gaps with no changes") ++
  noticeIf (0 < report.ignored) (.ofGaps .information
    s!"Consumed {report.ignored} changes on channels which this node does not route") ++
  noticeIf (report ≠ {}) (.ofGaps .detail
    (s!"Gap reconcile: {report.filled} filled, {report.skipped} skipped, {report.created} created, " ++
      s!"{report.purged} purged"))

/-- What is said when something is refreshed. -/
def Refresh.notices (refresh : Refresh) : List Notice :=
  [⟨.detail, "wolfroute::routing::context", s!"Running post-commit hook {refresh.name}"⟩,
   ⟨.information, "wolfroute::router::config_changed",
    match refresh with
    | .syncTriggers => "Trigger configuration changed, triggers need a resync"
    | .flushChannels => "Channel configuration changed, channel cache flushed"
    | .flushTransforms => "Transform configuration changed, transform cache flushed"⟩]

/-- What a cycle says in the end. -/
def CycleReport.notices (report : CycleReport) : List Notice :=
  report.channels.flatMap PassReport.notices ++
  (report.failed.map fun channel =>
    .ofService .warning s!"Routing pass on channel {channel} failed and was rolled back") ++
  report.gaps.notices ++ report.refreshes.flatMap Refresh.notices ++
  report.channels.flatMap PassReport.summary

namespace Service

/-- Whether a cycle on a store begins with making an open gap. -/
def beginsGap (store : Store) : Bool :=
  match store.activeGaps with
  | .ok gaps => !gaps.any Gap.isOpen
  | .error _ => false

/-- The fault a reader of a channel meets in a cycle on a store. -/
def readerFault? (service : Service) (now : Millis) (channel : String) (store : Store) :
    Option Fault := do
  let .ok gaps := ((loadGaps now).on store).1 | none
  let channel ← service.channels.find? (·.id = channel)
  (read (service.readOptions channel) gaps (service.marksOf channel.id) store).fault

/-- What a service says in a cycle on a store, and in the end. -/
def cycleNotices (service : Service) (now : Millis) (store : Store) (report : CycleReport) :
    List Notice :=
  noticeIf (beginsGap store) (.ofGaps .information "Creating open gap") ++
  (report.failed.filterMap fun channel => do
    let fault ← service.readerFault? now channel store
    return .ofReader s!"Reader query for channel {channel} failed: {fault.message}") ++
  report.notices

end Service

end ChangeRouting
