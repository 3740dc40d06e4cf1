import ChangeRouting.Config.Basic
import ChangeRouting.Report.Json

/-!
# ChangeRouting.Report.Configuration

A configuration with every setting filled in, under the names a configuration document uses.
-/

namespace ChangeRouting

/-- The settings of the platform. -/
def PlatformSettings.json (settings : PlatformSettings) : Json :=
  .object [
    ("kind", .text settings.kind.name),
    ("host", .text settings.host),
    ("port", .natural settings.tcp),
    ("user", .text settings.user),
    ("password", .text settings.password),
    ("database", .ofText? settings.database),
    ("pool_size", .natural settings.poolSize),
    ("connect_timeout_secs", .natural settings.connectTimeout)]

/-- The settings of routing. -/
def RoutingSettings.json (settings : RoutingSettings) : Json :=
  .object [
    ("interval_ms", .natural settings.interval),
    ("peek_ahead_window", .natural settings.window),
    ("take_timeout_ms", .natural settings.takeTimeout),
    ("queue_retry_ms", .natural settings.queueRetry),
    ("stale_gap_ms", .natural settings.staleGap),
    ("max_gaps_before_greater_than_query", .natural settings.maxRanges),
    ("gap_retention_hours", .natural settings.gapRetention),
    ("topology_table_prefix", .text settings.topologyMarker)]

/-- The settings of a channel. -/
def Channel.json (channel : Channel) : Json :=
  .object [
    ("id", .text channel.id),
    ("batch_algorithm", .text channel.policy.name),
    ("max_batch_size", .natural channel.batchSize),
    ("max_batches_per_pass", .natural channel.maxBatches),
    ("max_data_to_route", .natural channel.maxChanges),
    ("peek_ahead_window", .ofNatural? channel.window),
    ("use_old_data_to_route", .boolean channel.useOld),
    ("use_row_data_to_route", .boolean channel.useRow),
    ("use_pk_data_to_route", .boolean channel.useKey),
    ("enabled", .boolean channel.enabled)]

/-- The settings of a router. -/
def Router.json (router : Router) : Json :=
  .object [
    ("id", .text router.id),
    ("type", .text router.type),
    ("source_group", .text router.sourceGroup),
    ("target_group", .text router.targetGroup),
    ("expression", .ofText? router.expression),
    ("sync_on_insert", .boolean router.onInsert),
    ("sync_on_update", .boolean router.onUpdate),
    ("sync_on_delete", .boolean router.onDelete)]

/-- The settings of a trigger. -/
def Trigger.json (trigger : Trigger) : Json :=
  .object [
    ("id", .text trigger.id),
    ("table", .text trigger.table),
    ("channel", .text trigger.channel),
    ("routers", .texts trigger.routers)]

/-- A whole configuration. -/
def Configuration.json (config : Configuration) : Json :=
  .object [
    ("node", .object [("id", .text config.node.id), ("group_id", .text config.node.group)]),
    ("database", .object [
      ("path", .text config.store.path), ("busy_timeout_ms", .natural config.store.busyTimeout)]),
    ("platform", config.platform.json),
    ("routing", config.routing.json),
    ("logging", .object [
      ("level", .text config.logging.level), ("format", .text config.logging.format)]),
    ("channels", .list (config.channels.map Channel.json)),
    ("routers", .list (config.routers.map Router.json)),
    ("triggers", .list (config.triggers.map Trigger.json))]

end ChangeRouting
