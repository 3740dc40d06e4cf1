import ChangeRouting.Change.ColumnValues
import ChangeRouting.Node.Set

/-!
# ChangeRouting.Selection.Script

Selecting nodes by a script.

The language of scripts is not part of this library: an engine says what a script comes to, and
whatever it says, only candidates are selected.
-/

namespace ChangeRouting

/-- What a script comes to. -/
inductive ScriptOutcome
  /-- Some node ids. -/
  | targets (nodes : List String)
  /-- One node id. -/
  | node (id : String)
  /-- All candidates, or none. -/
  | bool (all : Bool)
  | nothing
  deriving DecidableEq, Repr

/-- What a script sees. -/
structure ScriptBindings where
  values : ColumnValues
  candidates : List Node
  /-- The node that does the routing. -/
  node : String
  group : String
  table : String
  event : EventKind
  initialLoad : Bool

/-- An engine for scripts. -/
structure ScriptEngine where
  /-- The name under which routers ask for the engine. -/
  name : String
  /-- Refuses what is no script. -/
  check : String → Except Fault Unit
  /-- What a script comes to. -/
  evaluate : String → ScriptBindings → Except Fault ScriptOutcome

/-- The candidates an outcome selects. -/
def ScriptOutcome.select (outcome : ScriptOutcome) (candidates : List Node) : NodeSet :=
  let ids := candidates.map Node.id
  match outcome with
  | .targets nodes => .ofList (nodes.filter (· ∈ ids))
  | .node id => if id ∈ ids then .ofList [id] else ∅
  | .bool true => .ofList ids
  | .bool false | .nothing => ∅

/-- A fault of an engine, as a fault of the script. -/
def ScriptEngine.blame : Fault → Fault
  | .script text => .script text
  | other => .script other.message

end ChangeRouting
