import ChangeRouting.Batch.Basic
import ChangeRouting.Calendar
import ChangeRouting.Config.Basic
import ChangeRouting.Gap.Basic

/-!
# ChangeRouting.CommandLine.Listing

The tables and summaries that commands print.  A text that is wider than its column is printed whole.
-/

namespace ChangeRouting

namespace Listing

/-- A text at the left of a column. -/
def left (width : Nat) (text : String) : String :=
  text ++ String.ofList (List.replicate (width - text.length) ' ')

/-- A text at the right of a column. -/
def right (width : Nat) (text : String) : String :=
  String.ofList (List.replicate (width - text.length) ' ') ++ text

/-- Lines, each with its end. -/
def lines (lines : List String) : String := String.join (lines.map (· ++ "\n"))

/-! ## gaps -/

private def gapLine (start stop status created : String) : String :=
  right 20 start ++ " " ++ right 20 stop ++ "  " ++ left 3 status ++ " " ++ created

/-- The gaps, one a line. -/
def gaps (gaps : List Gap) : String :=
  lines (gapLine "START" "END" "ST" "CREATED" :: gaps.map fun gap =>
    gapLine (toString gap.start) (if gap.isOpen then "open" else toString gap.stop) gap.status.code
      (Millis.text gap.createTime))

/-! ## batches -/

/-- What the batches of one node on one channel come to. -/
structure Total where
  node : String
  channel : String
  batches : Nat
  events : Nat
  bytes : Nat
  deriving DecidableEq, Repr

/-- The total with one more batch. -/
def Total.add (total : Total) (batch : Batch) : Total :=
  { total with
    batches := total.batches + 1
    events := plainWord (total.events + batch.events)
    bytes := plainWord (total.bytes + batch.bytes) }

/-- Add a batch to totals in the order of nodes and channels. -/
def count (batch : Batch) : List Total → List Total
  | [] => [Total.add ⟨batch.node, batch.channel, 0, 0, 0⟩ batch]
  | total :: rest =>
    if total.node = batch.node ∧ total.channel = batch.channel then total.add batch :: rest
    else if total.node < batch.node ∨ (total.node = batch.node ∧ total.channel < batch.channel) then
      total :: count batch rest
    else Total.add ⟨batch.node, batch.channel, 0, 0, 0⟩ batch :: total :: rest

/-- The totals of batches. -/
def totals (batches : List Batch) : List Total :=
  batches.foldl (fun totals batch => count batch totals) []

private def totalLine (node channel batches events bytes : String) : String :=
  left 12 node ++ " " ++ left 16 channel ++ " " ++ right 8 batches ++ " " ++ right 10 events ++ " " ++
    right 12 bytes

/-- The totals of batches, one a line, and how far each channel was routed. -/
def batches (batches : List Batch) (reached : List (String × Int)) : String :=
  lines (
    (totalLine "NODE" "CHANNEL" "BATCHES" "EVENTS" "BYTES" ::
      (totals batches).map fun total =>
        totalLine total.node total.channel (toString total.batches) (toString total.events)
          (toString total.bytes)) ++
    reached.map fun (channel, id) => s!"Last routed id on {channel}: {id}")

/-! ## configurations -/

/-- That a configuration is acceptable, and how much there is in it. -/
def accepted (config : Configuration) : String :=
  lines [
    "✓ Configuration is valid",
    s!"  Node: {config.node.id} ({config.node.group})",
    s!"  Store: {config.store.path}",
    s!"  Channels: {config.channels.length}",
    s!"  Routers: {config.routers.length}",
    s!"  Triggers: {config.triggers.length}"]

/-- The name of a platform for operators. -/
def platform : PlatformKind → String
  | .sqlite => "Sqlite"
  | .mariadb => "Mariadb"

private def channelLine (channel : Channel) : String :=
  "  " ++ left 16 channel.id ++ s!" {channel.policy.name} max {channel.batchSize} per batch" ++
    if channel.enabled then "" else " (disabled)"

private def routerLine (router : Router) : String :=
  "  " ++ left 16 router.id ++ " " ++ left 20 router.type ++
    s!" {router.sourceGroup} -> {router.targetGroup}"

/-- What a configuration says about a node. -/
def node (config : Configuration) : String :=
  lines (
    ["WolfRoute Node Information",
      "==========================",
      "",
      s!"Node ID:          {config.node.id}",
      s!"Node Group:       {config.node.group}",
      s!"Store:            {config.store.path}",
      s!"Platform:         {platform config.platform.kind}",
      "",
      "Routing:",
      s!"  Interval:       {config.routing.interval} ms",
      s!"  Peek Ahead:     {config.routing.window}",
      s!"  Stale Gap:      {config.routing.staleGap} ms",
      "",
      "Channels:"] ++
    config.channels.map channelLine ++
    ["", "Routers:"] ++
    config.routers.map routerLine)

end Listing

end ChangeRouting
