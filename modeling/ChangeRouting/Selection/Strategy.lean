import ChangeRouting.Config.Basic
import ChangeRouting.Selection.Column
import ChangeRouting.Selection.Lookup
import ChangeRouting.Selection.Scope
import ChangeRouting.Selection.Script
import ChangeRouting.Selection.Subselect
import ChangeRouting.Selection.Topology
import ChangeRouting.Store.Directory

/-!
# ChangeRouting.Selection.Strategy

The strategies by which routers select nodes, and the registry that resolves their names.

* A strategy is checked against a router when the service is set up, and then asked about each change.
* What depends on the router or the store alone is read once per pass and cached.
* Every strategy selects among the candidates it is given.
-/

namespace ChangeRouting

/-- What strategies cache during a pass. -/
inductive Entry
  | tests (tests : List ColumnTest)
  | redirects (entries : List (String × String))
  | lookup (table : LookupTable)
  | tree (tree : NodeTree)
  deriving DecidableEq, Repr

/-- Whether an entry is a lookup table. -/
def Entry.isLookup : Entry → Bool
  | lookup _ => true
  | _ => false

/-- The scope in which strategies work. -/
abbrev RoutingScope := Scope Entry Refresh

/-- Work of a strategy within that scope. -/
abbrev Selecting := Scoped Entry Refresh

/-- A way to select nodes. -/
inductive Strategy
  /-- Every candidate. -/
  | everyone
  | column
  /-- By a table that is read through an engine. -/
  | lookup (engine : QueryEngine)
  /-- By a condition over the nodes that an engine tells the meaning of. -/
  | subselect (engine : QueryEngine)
  /-- Changes of the topology, whose tables start with a marker. -/
  | topology (marker : String)
  | script (engine : ScriptEngine)

/-- What a strategy is asked about. -/
structure Question where
  router : Router
  change : Change
  values : ColumnValues
  candidates : List Node
  /-- Whether the change is part of a first load. -/
  initialLoad : Bool

namespace Strategy

/-- The name by which routers ask for the strategy. -/
def name : Strategy → String
  | everyone => "default"
  | column => "column"
  | lookup _ => "lookuptable"
  | subselect _ => "subselect"
  | topology _ => "configurationChanged"
  | script engine => engine.name

/-- Refuse a router whose expression the strategy cannot use. -/
def check (strategy : Strategy) (router : Router) : Except Fault Unit :=
  let quoting (outcome : Except Fault Unit) := outcome.mapError (.rejectedRouter router.id)
  match strategy with
  | everyone | topology _ => .ok ()
  | column => quoting (discard (ColumnTest.parse router.text))
  | lookup _ => quoting (discard (LookupSpec.parse router.text))
  | subselect _ =>
    if Subselect.isPresent router.text then .ok () else .error (.subselectWithoutExpression router.id)
  | script engine =>
    if Subselect.isPresent router.text then quoting (engine.check router.text)
    else .error (.scriptRouterWithoutScript router.id)

/-- What was decided outside the scope. -/
def outside (outcome : Except Fault α) : Selecting α := ExceptT.mk (pure outcome)

/-- Select by the tests of the router, read once per pass. -/
def selectColumn (store : Store) (q : Question) : Selecting NodeSet := do
  let tests ← Scoped.cached s!"column.{q.router.id}" Entry.tests
    (fun | .tests tests => some tests | _ => none) fun _ => ColumnTest.parse q.router.text
  let redirects ←
    if tests.any (·.operand = .redirect) then
      Scoped.cached "column.redirects" Entry.redirects
        (fun | .redirects entries => some entries | _ => none) fun _ => store.allRedirects
    else pure []
  return ColumnTest.select tests q.values redirects q.candidates

/-- Select through the table the router names, read once per pass. -/
def selectLookup (engine : QueryEngine) (store : Store) (q : Question) : Selecting NodeSet := do
  let table ← Scoped.cached s!"lookuptable.{q.router.id}" Entry.lookup
    (fun | .lookup table => some table | _ => none) fun _ => do
      LookupTable.load engine (← LookupSpec.parse q.router.text) store
  return table.select q.values q.candidates

/-- Select along the tree of nodes, read once per pass, or all candidates of other topology. -/
def selectTopology (marker : String) (store : Store) (q : Question) : Selecting NodeSet :=
  let everyone := NodeSet.ofList (q.candidates.map Node.id)
  match TopologyTable.ofName? marker q.change.table with
  | none => return ∅
  | some .nodes =>
    match q.values.get "NODE_ID" with
    | none => return everyone
    | some subject => do
      let tree ← Scoped.cached "configurationChanged.tree" Entry.tree
        (fun | .tree tree => some tree | _ => none) fun _ => NodeTree.ofNodes <$> store.allNodes
      return tree.select (← get).node subject q.candidates
  | some (.other none) => return everyone
  | some (.other (some refresh)) => do
    modify (·.register refresh.name refresh)
    return everyone

/-- Select as the script of the router says. -/
def selectScript (engine : ScriptEngine) (q : Question) : Selecting NodeSet := do
  let scope ← get
  let bindings : ScriptBindings :=
    ⟨q.values, q.candidates, scope.node, scope.group, q.change.table, q.change.event, q.initialLoad⟩
  let outcome ← outside ((engine.evaluate q.router.text bindings).mapError ScriptEngine.blame)
  return outcome.select q.candidates

/-- The strategy with another engine for queries. -/
def asking (engine : QueryEngine) : Strategy → Strategy
  | lookup _ => lookup engine
  | subselect _ => subselect engine
  | strategy => strategy

/-- The candidates the strategy selects. -/
def select (strategy : Strategy) (store : Store) (q : Question) : Selecting NodeSet :=
  match strategy with
  | everyone => return .ofList (q.candidates.map Node.id)
  | column => selectColumn store q
  | lookup engine => selectLookup engine store q
  | subselect engine =>
    outside ((Subselect.select engine store q.router.targetGroup q.router.text q.values
      q.candidates).mapError fun cause => .router q.router.id cause.text)
  | topology marker => selectTopology marker store q
  | script engine => selectScript engine q

end Strategy

/-! ## the registry -/

/-- The strategies routers can ask for; the names are distinct. -/
structure Registry where
  strategies : List Strategy

namespace Registry

/-- No strategies. -/
def empty : Registry := ⟨[]⟩

/-- Add a strategy, in place of one of its name. -/
def register (registry : Registry) (strategy : Strategy) : Registry :=
  ⟨registry.strategies.filter (·.name ≠ strategy.name) ++ [strategy]⟩

/-- The strategies of this library that need no script engine. -/
def builtin (engine : QueryEngine) (marker : String) : Registry :=
  ⟨[.everyone, .column, .lookup engine, .subselect engine, .topology marker]⟩

/-- The strategy of a name. -/
def strategy? (registry : Registry) (name : String) : Option Strategy :=
  registry.strategies.find? (·.name = name)

/-- The strategy a router asks for, once it has accepted the router. -/
def resolve (registry : Registry) (router : Router) : Except Fault Strategy :=
  match registry.strategy? router.type with
  | none => .error (.unknownRouterType router.id router.type)
  | some strategy => do
    strategy.check router
    return strategy

/-- The names of the strategies in ascending order. -/
def names (registry : Registry) : List String :=
  (registry.strategies.map Strategy.name).mergeSort

end Registry

end ChangeRouting
