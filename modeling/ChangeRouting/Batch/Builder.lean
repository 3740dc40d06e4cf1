import ChangeRouting.Batch.Boundary
import ChangeRouting.Config.Basic
import ChangeRouting.Node.Set
import ChangeRouting.Store.BatchTable

/-!
# ChangeRouting.Batch.Builder

Turning the ascending stream of routed changes of one channel into batches.

* Each node has at most one batch open; the policy of the channel says where it ends.
* A node gets a change once, from the first router that selected it.  A change no router sends anywhere
  goes to the unrouted node, in the name of the first router asked.
* A batch is stored when it ends: the batch, then its members, then the watermark of the channel.  The
  batches still open at the end are stored in the order of their nodes.

A fault leaves what was stored before it, and the batch that could not be stored is no longer open.
-/

namespace ChangeRouting

/-- A batch that still takes changes. -/
structure OpenBatch where
  batch : Batch
  /-- Changes with the routers that sent them, in the order they came. -/
  members : List (Int × String)
  /-- The transaction of the latest change. -/
  last : Option String
  deriving DecidableEq, Repr

/-- What was stored so far. -/
structure BuildReport where
  batches : Nat := 0
  events : Nat := 0
  unrouted : Nat := 0
  /-- The highest change id in a stored batch. -/
  last : Option Int := none
  deriving DecidableEq, Repr

/-- The batches of one pass on one channel. -/
structure Builder where
  channel : String
  policy : BatchPolicy
  size : Nat
  /-- The open batches in node order. -/
  opened : List (String × OpenBatch)
  /-- The number of batches of each node, stored or open. -/
  counts : List (String × Nat)
  report : BuildReport
  deriving DecidableEq, Repr

/-- Building, beside the store the batches go to. -/
abbrev Building := ExceptT Fault (StateM (Builder × Store))

namespace Builder

/-- The builder of a channel; a batch holds at least one change. -/
def new (channel : Channel) : Builder where
  channel := channel.id
  policy := channel.policy
  size := max channel.batchSize 1
  opened := []
  counts := []
  report := {}

/-! ## open batches -/

/-- The open batch of a node. -/
def open? (builder : Builder) (node : String) : Option OpenBatch :=
  (builder.opened.find? (·.1 = node)).map (·.2)

/-- Open batches in node order with one more, in place of one of its node. -/
def placeOpen (node : String) (batch : OpenBatch) :
    List (String × OpenBatch) → List (String × OpenBatch)
  | [] => [(node, batch)]
  | other :: rest =>
    if node < other.1 then (node, batch) :: other :: rest
    else if node = other.1 then (node, batch) :: rest
    else other :: placeOpen node batch rest

/-- The builder with another open batch for a node. -/
def withOpen (builder : Builder) (node : String) (batch : OpenBatch) : Builder :=
  { builder with opened := placeOpen node batch builder.opened }

/-- The builder without an open batch for a node. -/
def withoutOpen (builder : Builder) (node : String) : Builder :=
  { builder with opened := builder.opened.filter (·.1 ≠ node) }

/-- Counts by node with one more for a node. -/
def countUp (node : String) : List (String × Nat) → List (String × Nat)
  | [] => [(node, 1)]
  | entry :: rest => if entry.1 = node then (node, entry.2 + 1) :: rest else entry :: countUp node rest

/-- Open an empty batch for a node. -/
def start (builder : Builder) (node : String) : Builder :=
  { builder.withOpen node ⟨.new node builder.channel, [], none⟩ with
    counts := countUp node builder.counts }

/-- Whether the open batch ends before a change. -/
def cutsBefore (builder : Builder) (change : Change) (batch : OpenBatch) : Bool :=
  builder.policy.cuts builder.size batch.members.length batch.last change.transaction

/-- The open batch with one more change. -/
def OpenBatch.append (batch : OpenBatch) (change : Change) (router : String) : OpenBatch where
  batch := batch.batch.account change.event change.size
  members := batch.members ++ [(change.id, router)]
  last := change.transaction

/-- Put a change into the open batch of a node. -/
def record (builder : Builder) (node router : String) (change : Change) : Builder :=
  let builder :=
    match builder.open? node with
    | some batch => builder.withOpen node (OpenBatch.append batch change router)
    | none => builder
  { builder with report.events := builder.report.events + 1 }

/-- The most batches any node has that changes are delivered to. -/
def mostBatches (builder : Builder) : Nat :=
  ((builder.counts.filter (·.1 ≠ unroutedNode)).map (·.2)).foldl max 0

/-! ## storing -/

/-- Do work on the store while building. -/
def onStore (work : Work α) : Building α :=
  ExceptT.mk fun (builder, store) =>
    let (outcome, store) := work.on store
    (outcome, builder, store)

/-- Change the builder. -/
def adjust (change : Builder → Builder) : Building Unit :=
  modify fun (builder, store) => (change builder, store)

/-- Store a batch with its members and move the watermark up to the highest of them. -/
def flush (batch : OpenBatch) : Building Unit := do
  match (batch.members.map (·.1)).max? with
  | none => return
  | some last =>
    let channel := (← get).1.channel
    onStore do
      let id ← Work.statement (Store.insertBatch batch.batch)
      Store.insertEvents id batch.members
      Work.update (Store.advanceWatermark channel last)
    adjust fun builder => { builder with
      report.batches := builder.report.batches + 1
      report.last := some (builder.report.last.elim last (max last)) }

/-- Send one change to one node. -/
def append (node router : String) (change : Change) : Building Unit := do
  let builder := (← get).1
  match builder.open? node with
  | none => adjust (·.start node)
  | some batch =>
    if builder.cutsBefore change batch then
      adjust (·.withoutOpen node)
      flush batch
      adjust (·.start node)
  adjust (·.record node router change)

/-! ## targets -/

/-- The nodes not seen yet among those a router selected, in the name of that router. -/
def targetsOf (router : String) : List String → List String → List (String × String)
  | _, [] => []
  | seen, node :: nodes =>
    if node ∈ seen then targetsOf router seen nodes
    else (node, router) :: targetsOf router (node :: seen) nodes

/-- The nodes that decisions select, each with the first router that selected it. -/
def targetsFrom (seen : List String) : List Decision → List (String × String)
  | [] => []
  | decision :: rest =>
    targetsOf decision.router seen decision.nodes.ids ++ targetsFrom (decision.nodes.ids ++ seen) rest

/-- Where a change goes, given what the routers decided. -/
def targets (decisions : List Decision) : List (String × String) :=
  match targetsFrom [] decisions with
  | [] => [(unroutedNode, (decisions.head?.map Decision.router).getD unknownRouter)]
  | selected => selected

/-- Whether no router sends the change anywhere. -/
def isUnrouted (decisions : List Decision) : Bool := (targetsFrom [] decisions).isEmpty

/-- Send one change where the routers decided; the number of nodes is the answer. -/
def add (change : Change) (decisions : List Decision) : Building Nat := do
  if isUnrouted decisions then
    adjust fun builder => { builder with report.unrouted := builder.report.unrouted + 1 }
  let targets := targets decisions
  targets.forM fun (node, router) => append node router change
  return targets.length

/-- Store every batch that is still open. -/
def finish : Building BuildReport := do
  let opened := (← get).1.opened
  adjust ({ · with opened := [] })
  opened.forM fun (_, batch) => flush batch
  return (← get).1.report

end Builder

end ChangeRouting
