import ChangeRouting.Store.Loose

/-!
# ChangeRouting.Store.Directory

The tables registration keeps and routers read: nodes, and the nodes that external ids are redirected
to.
-/

namespace ChangeRouting

namespace Store

/-! ## nodes -/

private def placeNode (node : Node) : List Node → List Node
  | [] => [node]
  | other :: rest =>
    if node.id < other.id then node :: other :: rest
    else if node.id = other.id then node :: rest
    else other :: placeNode node rest

/-- Insert a node, in place of an earlier one with its id. -/
def insertNode (node : Node) (store : Store) : Except Fault Store :=
  match store.nodes with
  | none => Prod.snd <$> store.looseUpdate .nodes (·.insertNode node)
  | some nodes => .ok { store with nodes := some (placeNode node nodes) }

/-- Every node in id order. -/
def allNodes (store : Store) : Except Fault (List Node) :=
  match store.nodes with
  | none => do (← store.loose .nodes).nodes
  | some nodes => .ok nodes

/-! ## redirects -/

private def placeRedirect (external node : String) : List (String × String) → List (String × String)
  | [] => [(external, node)]
  | entry :: rest =>
    if entry.1 = external then (external, node) :: rest else entry :: placeRedirect external node rest

/-- Send what belongs to an external id to a node. -/
def setRedirect (external node : String) (store : Store) : Except Fault Store :=
  match store.redirects with
  | none => Prod.snd <$> store.looseUpdate .redirects (·.setRedirect external node)
  | some entries => .ok { store with redirects := some (placeRedirect external node entries) }

/-- The node each external id is redirected to. -/
def allRedirects (store : Store) : Except Fault (List (String × String)) :=
  match store.redirects with
  | none => do
    let entries ← (← store.loose .redirects).redirects
    return entries.foldl (fun entries (external, node) => placeRedirect external node entries) []
  | some entries => .ok entries

end Store

end ChangeRouting
