import ChangeRouting.Change.ColumnValues
import ChangeRouting.Node.Set
import ChangeRouting.Node.Tree
import ChangeRouting.Text.Case

/-!
# ChangeRouting.Selection.Topology

Selecting nodes for changes of the topology itself.

Topology tables share a marker at the start of their names, in either case.

* Rows about a node travel along the registration tree: to the node, to the nodes above it, and to
  those below it in another tier than the node that does the routing.  A row that names no node goes to
  all candidates.
* Rows of other topology tables go to all candidates, and some ask for a cache to be refreshed once
  they are committed.
* Rows of other tables go nowhere.
-/

namespace ChangeRouting

/-- What to do anew once changed topology is committed. -/
inductive Refresh
  | syncTriggers
  | flushChannels
  | flushTransforms
  deriving DecidableEq, Repr

/-- The name under which a refresh is pending. -/
def Refresh.name : Refresh → String
  | syncTriggers => "sync_triggers"
  | flushChannels => "flush_channels"
  | flushTransforms => "flush_transforms"

/-- What a topology table describes. -/
inductive TopologyTable
  | nodes
  | other (refresh : Option Refresh)
  deriving DecidableEq, Repr

namespace TopologyTable

/-- What a table describes, given the marker of topology tables; other tables describe nothing. -/
def ofName? (marker table : String) : Option TopologyTable :=
  let start := Text.lower marker.toList ++ ['_']
  let name := Text.lower table.toList
  if start.isPrefixOf name then
    match String.ofList (name.drop start.length) with
    | "node" | "node_security" | "node_host" => some .nodes
    | "trigger" | "trigger_router" | "router" => some (.other (some .syncTriggers))
    | "channel" => some (.other (some .flushChannels))
    | "transform_table" | "transform_column" => some (.other (some .flushTransforms))
    | _ => some (.other none)
  else none

end TopologyTable

/-- The candidates that a row about a node goes to. -/
def NodeTree.select (tree : NodeTree) (routing subject : String) (candidates : List Node) : NodeSet :=
  .ofList ((candidates.filter fun node =>
    node.id = subject || node.id ∈ tree.ancestors subject ||
      (subject ∈ tree.ancestors node.id && tree.depth node.id ≠ tree.depth routing)).map Node.id)

end ChangeRouting
