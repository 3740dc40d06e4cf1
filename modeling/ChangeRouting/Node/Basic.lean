/-!
# ChangeRouting.Node.Basic

Nodes: the places changes are routed to.
-/

namespace ChangeRouting

/-- A node changes can be routed to. -/
structure Node where
  id : String
  group : String
  /-- The id the node has in the data it is sent. -/
  externalId : String
  /-- Nodes that do not take part are never routed to. -/
  enabled : Bool
  /-- The node that registered this one; the root of the tree has none. -/
  parent : Option String
  deriving DecidableEq, Repr

end ChangeRouting
