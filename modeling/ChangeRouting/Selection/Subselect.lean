import ChangeRouting.Change.ColumnValues
import ChangeRouting.Node.Set
import ChangeRouting.Query.Engine
import ChangeRouting.Text.Blank

/-!
# ChangeRouting.Selection.Subselect

Selecting nodes by a condition over the node table.

The expression stands in parentheses at the end of a query for the enabled nodes of the router's
target group, and is put there as text: an expression that closes the parenthesis speaks about the
query as a whole.  An engine answers the query, and whatever it selects, only candidates are selected.

A parameter is bound to the value of the column it names, or to null; `:NODE_GROUP_ID` is bound to the
target group.
-/

namespace ChangeRouting.Subselect

/-- The parameter that stands for the target group. -/
def groupParameter : String := ":NODE_GROUP_ID"

/-- The whole query. -/
def query (expression : String) : String :=
  "SELECT c.node_id FROM node c " ++
    s!"WHERE c.node_group_id = {groupParameter} AND c.sync_enabled = 1 AND ({expression})"

/-- Whether an expression holds anything but blanks. -/
def isPresent (expression : String) : Bool := Text.trim expression.toList ≠ []

/-- The column that a parameter names, behind the marks it starts with. -/
def columnOf (parameter : String) : String :=
  String.ofList (parameter.toList.dropWhile fun c => c = ':' || c = '@' || c = '$')

/-- What a parameter is bound to. -/
def bound (targetGroup : String) (values : ColumnValues) : Bindings
  | none => none
  | some parameter =>
    if parameter = groupParameter then some targetGroup else values.get (columnOf parameter)

/-- The id in a row of the query. -/
def idOf : List Cell → Except StatementFault String
  | .text id :: _ => .ok id
  | _ => .error (.unreadable "node_id" "row")

/-- The ids in the rows of the query. -/
def rows (engine : QueryEngine) (store : Store) (targetGroup expression : String)
    (values : ColumnValues) : Except StatementFault (List String) :=
  engine.read store (query expression) (bound targetGroup values) idOf

/-- The candidates among nodes, whoever selected these. -/
def among (candidates : List Node) (selected : List String) : NodeSet :=
  .ofList (selected.filter fun id => candidates.any (·.id = id))

/-- The candidates among the nodes the query selects. -/
def select (engine : QueryEngine) (store : Store) (targetGroup expression : String)
    (values : ColumnValues) (candidates : List Node) : Except StatementFault NodeSet :=
  among candidates <$> rows engine store targetGroup expression values

end ChangeRouting.Subselect
