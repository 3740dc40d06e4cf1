import ChangeRouting.Change.Basic
import ChangeRouting.Word

/-!
# ChangeRouting.Batch.Basic

Outgoing batches: units of delivery for one node on one channel, with counts of what they hold.

Changes that no router sends anywhere are kept in batches of a node of their own, `unroutedNode`;
there is nothing to deliver in them, so they are complete from the start.

The bytes of a batch are counted in a word of 64 bits.
-/

namespace ChangeRouting

/-- The node that stands for "nowhere". -/
def unroutedNode : String := "-1"

/-- The router recorded when no router had a say. -/
def unknownRouter : String := "?"

/-- How far a batch is on its way.  Routing only makes batches; the later states belong to delivery. -/
inductive BatchStatus
  | new
  | routed
  | querying
  | sending
  | loading
  | ok
  | failed
  | ignored
  deriving DecidableEq, Repr

namespace BatchStatus

/-- The code in the batch table, which is also what an operator reads. -/
def code : BatchStatus → String
  | new => "NE"
  | routed => "RC"
  | querying => "QY"
  | sending => "SE"
  | loading => "LD"
  | ok => "OK"
  | failed => "ER"
  | ignored => "IG"

/-- The status a code stands for. -/
def ofCode (code : String) : Except Fault BatchStatus :=
  match code with
  | "NE" => .ok new
  | "RC" => .ok routed
  | "QY" => .ok querying
  | "SE" => .ok sending
  | "LD" => .ok loading
  | "OK" => .ok ok
  | "ER" => .ok failed
  | "IG" => .ok ignored
  | other => .error (.unknownBatchStatus other)

@[simp] theorem ofCode_code (status : BatchStatus) : ofCode status.code = .ok status := by
  cases status <;> rfl

end BatchStatus

/-- A unit of delivery for one node on one channel. -/
structure Batch where
  /-- Assigned when the batch is stored. -/
  id : Int
  node : String
  channel : String
  status : BatchStatus
  events : Nat
  bytes : Nat
  inserts : Nat
  updates : Nat
  deletes : Nat
  others : Nat
  deriving DecidableEq, Repr

namespace Batch

/-- A batch without events. -/
def new (node channel : String) : Batch where
  id := 0
  node := node
  channel := channel
  status := if node = unroutedNode then .ok else .new
  events := 0
  bytes := 0
  inserts := 0
  updates := 0
  deletes := 0
  others := 0

/-- Account for one event. -/
def account (batch : Batch) (event : EventKind) (bytes : Nat) : Batch :=
  let counted := { batch with events := batch.events + 1, bytes := plainWord (batch.bytes + bytes) }
  match event with
  | .insert => { counted with inserts := counted.inserts + 1 }
  | .update => { counted with updates := counted.updates + 1 }
  | .delete => { counted with deletes := counted.deletes + 1 }
  | _ => { counted with others := counted.others + 1 }

/-- Whether the batch holds what goes nowhere. -/
def isUnrouted (batch : Batch) : Bool := batch.node = unroutedNode

end Batch

/-- One change in one batch, with the router that sent it there. -/
structure BatchEvent where
  change : Int
  batch : Int
  router : String
  deriving DecidableEq, Repr

end ChangeRouting
