import ChangeRouting.Batch.Boundary
import ChangeRouting.Change.Basic

/-!
# ChangeRouting.Config.Basic

The configuration of a routing node: who it is, where its store is, how it learns about open
transactions, and the channels, routers and triggers it works with.

* A *channel* is a stream of changes that is read and batched on its own.
* A *router* sends changes of one group of nodes to nodes of another.
* A *trigger* attaches routers to a captured table.

A setting that a configuration leaves out has the default of its field.
-/

namespace ChangeRouting

/-- The node that does the routing. -/
structure Identity where
  id : String
  group : String
  deriving DecidableEq, Repr

/-- Where the store is. -/
structure StoreSettings where
  path : String
  /-- How long to wait on a locked store, in milliseconds. -/
  busyTimeout : Nat := 5000
  deriving DecidableEq, Repr

/-- What answers the question which transactions are open. -/
inductive PlatformKind
  /-- Nothing does; gaps are skipped once they are old enough. -/
  | sqlite
  | mariadb
  deriving DecidableEq, Repr

/-- The name of a platform in a configuration. -/
def PlatformKind.name : PlatformKind → String
  | sqlite => "sqlite"
  | mariadb => "mariadb"

/-- How to reach the platform. -/
structure PlatformSettings where
  kind : PlatformKind := .sqlite
  host : String := ""
  tcp : Nat := 3306
  user : String := ""
  password : String := ""
  database : Option String := none
  poolSize : Nat := 2
  /-- In seconds. -/
  connectTimeout : Nat := 30
  deriving DecidableEq, Repr

/-- How routing goes about its work; times are in milliseconds unless a field says otherwise. -/
structure RoutingSettings where
  interval : Nat := 10000
  /-- The default capacity of the queue between reading and routing. -/
  window : Nat := 100
  takeTimeout : Nat := 300000
  queueRetry : Nat := 50
  /-- The age at which an empty gap is skipped when open transactions do not show. -/
  staleGap : Nat := 1200000
  /-- With more active gaps than this, one query reads everything from the first gap on. -/
  maxRanges : Nat := 100
  /-- In hours; zero keeps settled gaps for good. -/
  gapRetention : Nat := 24
  /-- What the names of topology tables start with. -/
  topologyMarker : String := "sym"
  deriving DecidableEq, Repr

/-- What to log, and how. -/
structure LoggingSettings where
  level : String := "info"
  format : String := "pretty"
  deriving DecidableEq, Repr

/-- A stream of changes that is read and batched on its own. -/
structure Channel where
  id : String
  policy : BatchPolicy := .default
  batchSize : Nat := 1000
  /-- The batches one node may get per pass; zero is no limit. -/
  maxBatches : Nat := 0
  /-- The changes one pass may route; zero is no limit. -/
  maxChanges : Nat := 100000
  window : Option Nat := none
  useOld : Bool := true
  useRow : Bool := true
  useKey : Bool := true
  enabled : Bool := true
  deriving DecidableEq, Repr

/-- A rule that sends changes of one group to nodes of another. -/
structure Router where
  id : String
  /-- The name of the strategy that selects nodes. -/
  type : String := "default"
  sourceGroup : String
  targetGroup : String
  expression : Option String := none
  onInsert : Bool := true
  onUpdate : Bool := true
  onDelete : Bool := true
  deriving DecidableEq, Repr

namespace Router

/-- The expression, empty when there is none. -/
def text (router : Router) : String := router.expression.getD ""

/-- Whether the router looks at changes of this kind.  Only row changes can be switched off. -/
def appliesTo (router : Router) : EventKind → Bool
  | .insert => router.onInsert
  | .update => router.onUpdate
  | .delete => router.onDelete
  | _ => true

end Router

/-- A captured table and the routers attached to it. -/
structure Trigger where
  id : String
  table : String
  channel : String
  routers : List String := []
  deriving DecidableEq, Repr

/-- A whole configuration. -/
structure Configuration where
  node : Identity
  store : StoreSettings
  platform : PlatformSettings := {}
  routing : RoutingSettings := {}
  logging : LoggingSettings := {}
  channels : List Channel := []
  routers : List Router := []
  triggers : List Trigger := []
  deriving DecidableEq, Repr

namespace Configuration

/-- The channel with an id. -/
def channel? (config : Configuration) (id : String) : Option Channel :=
  config.channels.find? (·.id = id)

/-- The router with an id. -/
def router? (config : Configuration) (id : String) : Option Router := config.routers.find? (·.id = id)

/-- The first trigger with an id. -/
def trigger? (config : Configuration) (id : String) : Option Trigger :=
  config.triggers.find? (·.id = id)

/-- The capacity of the queue between reading and routing a channel. -/
def windowOf (config : Configuration) (channel : Channel) : Nat :=
  channel.window.getD config.routing.window

/-- Where the platform is to be found. -/
def platformUrl (config : Configuration) : String :=
  let p := config.platform
  let server := s!"mysql://{p.user}:{p.password}@{p.host}:{p.tcp}"
  match p.database with
  | some database => s!"{server}/{database}"
  | none => server

end Configuration

end ChangeRouting
