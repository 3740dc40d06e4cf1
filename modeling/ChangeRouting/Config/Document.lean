import ChangeRouting.Config.Check
import ChangeRouting.Toml.Document

/-!
# ChangeRouting.Config.Document

Configurations as documents.

* A section is a table of settings, or a list of them in the order of this module.  Settings nobody
  knows are passed over.  A point in time is a section of which nothing is known.
* A setting that is missing has its default; `node`, `database` and the settings without a default must
  be there.
* A setting of the wrong kind, or a number out of range, makes the document no configuration.
-/

namespace ChangeRouting

open Toml (Value Entries)

/-! ## kinds of settings -/

namespace Setting

/-- A reader of a setting. -/
abbrev Reader (α : Type) := Value → Option α

/-- A text. -/
def text : Reader String
  | .text s => some s
  | _ => none

/-- Yes or no. -/
def flag : Reader Bool
  | .boolean b => some b
  | _ => none

/-- A number from zero to the greatest of so many bits. -/
def count (bits : Nat) : Reader Nat
  | .integer n => if 0 ≤ n ∧ n.toNat < Nat.pow 2 bits then some n.toNat else none
  | _ => none

/-- A list. -/
def list (item : Reader α) : Reader (List α)
  | .array items | .tables items => items.mapM item
  | _ => none

/-- A setting that stands for what is there. -/
def present (item : Reader α) : Reader (Option α) := fun value => (item value).map some

/-- Nothing at all, as a table or a list. -/
private def isEmpty : Value → Bool
  | .table _ [] | .array [] | .tables [] => true
  | _ => false

/-- One of several words, alone or as the key of an empty table. -/
def choice (words : List (String × α)) : Reader α
  | .text word => words.lookup word
  | .table _ [(word, inner)] => if isEmpty inner then words.lookup word else none
  | _ => none

/-- The settings of a section. -/
def section? (names : List String) : Reader Entries
  | .table _ entries => some entries
  | .array items | .tables items => some (names.zip items)
  | .moment => some []
  | _ => none

/-- A setting that must be there. -/
def required (settings : Entries) (name : String) (item : Reader α) : Option α :=
  (settings.find? name).bind item

/-- A setting that has a default. -/
def optional (settings : Entries) (name : String) (default : α) (item : Reader α) : Option α :=
  match settings.find? name with
  | some value => item value
  | none => some default

end Setting

open Setting

/-! ## sections -/

private def identity : Setting.Reader Identity := fun value => do
  let s ← section? ["id", "group_id"] value
  return { id := ← required s "id" text, group := ← required s "group_id" text }

private def storeSettings : Setting.Reader StoreSettings := fun value => do
  let s ← section? ["path", "busy_timeout_ms"] value
  return { path := ← required s "path" text
           busyTimeout := ← optional s "busy_timeout_ms" 5000 (count 64) }

private def platformSettings : Setting.Reader PlatformSettings := fun value => do
  let d : PlatformSettings := {}
  let s ← section? ["kind", "host", "port", "user", "password", "database", "pool_size",
    "connect_timeout_secs"] value
  return {
    kind := ← optional s "kind" d.kind (choice [("sqlite", .sqlite), ("mariadb", .mariadb)])
    host := ← optional s "host" d.host text
    tcp := ← optional s "port" d.tcp (count 16)
    user := ← optional s "user" d.user text
    password := ← optional s "password" d.password text
    database := ← optional s "database" d.database (present text)
    poolSize := ← optional s "pool_size" d.poolSize (count 32)
    connectTimeout := ← optional s "connect_timeout_secs" d.connectTimeout (count 64) }

private def routingSettings : Setting.Reader RoutingSettings := fun value => do
  let d : RoutingSettings := {}
  let s ← section? ["interval_ms", "peek_ahead_window", "take_timeout_ms", "queue_retry_ms",
    "stale_gap_ms", "max_gaps_before_greater_than_query", "gap_retention_hours",
    "topology_table_prefix"] value
  return {
    interval := ← optional s "interval_ms" d.interval (count 64)
    window := ← optional s "peek_ahead_window" d.window (count 64)
    takeTimeout := ← optional s "take_timeout_ms" d.takeTimeout (count 64)
    queueRetry := ← optional s "queue_retry_ms" d.queueRetry (count 64)
    staleGap := ← optional s "stale_gap_ms" d.staleGap (count 64)
    maxRanges := ← optional s "max_gaps_before_greater_than_query" d.maxRanges (count 64)
    gapRetention := ← optional s "gap_retention_hours" d.gapRetention (count 64)
    topologyMarker := ← optional s "topology_table_prefix" d.topologyMarker text }

private def loggingSettings : Setting.Reader LoggingSettings := fun value => do
  let d : LoggingSettings := {}
  let s ← section? ["level", "format"] value
  return { level := ← optional s "level" d.level text, format := ← optional s "format" d.format text }

private def channel : Setting.Reader Channel := fun value => do
  let s ← section? ["id", "batch_algorithm", "max_batch_size", "max_batches_per_pass",
    "max_data_to_route", "peek_ahead_window", "use_old_data_to_route", "use_row_data_to_route",
    "use_pk_data_to_route", "enabled"] value
  let d : Channel := { id := ← required s "id" text }
  return { d with
    policy := ← optional s "batch_algorithm" d.policy (choice
      ([.default, .transactional, .nontransactional].map fun (policy : BatchPolicy) =>
        (policy.name, policy)))
    batchSize := ← optional s "max_batch_size" d.batchSize (count 64)
    maxBatches := ← optional s "max_batches_per_pass" d.maxBatches (count 64)
    maxChanges := ← optional s "max_data_to_route" d.maxChanges (count 64)
    window := ← optional s "peek_ahead_window" d.window (present (count 64))
    useOld := ← optional s "use_old_data_to_route" d.useOld flag
    useRow := ← optional s "use_row_data_to_route" d.useRow flag
    useKey := ← optional s "use_pk_data_to_route" d.useKey flag
    enabled := ← optional s "enabled" d.enabled flag }

private def router : Setting.Reader Router := fun value => do
  let s ← section? ["id", "type", "source_group", "target_group", "expression", "sync_on_insert",
    "sync_on_update", "sync_on_delete"] value
  let d : Router := {
    id := ← required s "id" text
    sourceGroup := ← required s "source_group" text
    targetGroup := ← required s "target_group" text }
  return { d with
    type := ← optional s "type" d.type text
    expression := ← optional s "expression" d.expression (present text)
    onInsert := ← optional s "sync_on_insert" d.onInsert flag
    onUpdate := ← optional s "sync_on_update" d.onUpdate flag
    onDelete := ← optional s "sync_on_delete" d.onDelete flag }

private def trigger : Setting.Reader Trigger := fun value => do
  let s ← section? ["id", "table", "channel", "routers"] value
  return {
    id := ← required s "id" text
    table := ← required s "table" text
    channel := ← required s "channel" text
    routers := ← optional s "routers" [] (list text) }

namespace Configuration

/-- The configuration that settings make, before it is checked. -/
def ofSettings? (settings : Entries) : Option Configuration := do
  return {
    node := ← required settings "node" identity
    store := ← required settings "database" storeSettings
    platform := ← optional settings "platform" {} platformSettings
    routing := ← optional settings "routing" {} routingSettings
    logging := ← optional settings "logging" {} loggingSettings
    channels := ← optional settings "channels" [] (list channel)
    routers := ← optional settings "routers" [] (list router)
    triggers := ← optional settings "triggers" [] (list trigger) }

/-- The configuration in a document, unless it is none or not acceptable. -/
def parse (document : String) : Except Fault Configuration :=
  match (Toml.parse? document).bind ofSettings? with
  | none => .error (.document "the document is no configuration")
  | some config => do
    config.check
    return config

end Configuration

end ChangeRouting
