import ChangeRouting.Report.Json
import ChangeRouting.Service.Cycle

/-!
# ChangeRouting.Report.Cycle

The report of a routing cycle as an operator reads it.
-/

namespace ChangeRouting

/-- What a pass did. -/
def PassReport.json (report : PassReport) : Json :=
  .object [
    ("channel_id", .text report.channel),
    ("rows_read", .natural report.rowsRead),
    ("rows_skipped", .natural report.rowsSkipped),
    ("data_events", .natural report.events),
    ("batches", .natural report.batches),
    ("unrouted_events", .natural report.unrouted),
    ("router_errors", .natural report.routerFaults),
    ("stopped_early", .boolean report.stoppedEarly)]

/-- What became of the gaps. -/
def GapReport.json (report : GapReport) : Json :=
  .object [
    ("filled", .natural report.filled),
    ("skipped", .natural report.skipped),
    ("created", .natural report.created),
    ("purged", .natural report.purged),
    ("ignored", .natural report.ignored)]

/-- What a cycle did. -/
def CycleReport.json (report : CycleReport) : Json :=
  .object [
    ("channels", .list (report.channels.map PassReport.json)),
    ("failed_channels", .texts report.failed),
    ("gaps", report.gaps.json),
    ("hooks_run", .natural report.refreshes.length)]

end ChangeRouting
