import ChangeRouting.Change.ColumnValues
import ChangeRouting.Node.Set
import ChangeRouting.Query.Engine
import ChangeRouting.Text.Blank

/-!
# ChangeRouting.Selection.Lookup

Selecting nodes through a lookup table.

An expression sets four names, one per line: the lookup table, the column of the change that holds the
key, and the columns of the table that hold keys and external ids.  A candidate is selected when a row
of the table pairs the key of the change with its external id.

The rows are what an engine answers to a query for the two columns.  Names reach the query only as
identifiers: parts of letters, digits and underscores between dots.
-/

namespace ChangeRouting

/-- The names a lookup needs. -/
structure LookupSpec where
  table : String
  /-- The column of the change that holds the key. -/
  key : String
  /-- The column of the table that holds the key. -/
  tableKey : String
  /-- The column of the table that holds the external id. -/
  tableExternal : String
  deriving DecidableEq, Repr

namespace LookupSpec

/-! ## reading -/

/-- A letter of ASCII or an underscore. -/
def isNameStart (c : Char) : Bool := c.isAlpha || c = '_'

/-- A letter or digit of ASCII or an underscore. -/
def isNameChar (c : Char) : Bool := c.isAlphanum || c = '_'

/-- One part of an identifier. -/
def isName : List Char → Bool
  | [] => false
  | c :: rest => isNameStart c && rest.all isNameChar

/-- Names between dots. -/
def isIdentifier (value : List Char) : Bool := (Text.splitAll '.' value).all isName

/-- The setting in a trimmed line: its name in capitals, and its value. -/
def settingOf (line : List Char) : Except Fault (List Char × List Char) :=
  match Text.splitFirst '=' line with
  | none => .error (.lookupWithoutEquals (String.ofList line))
  | some (name, value) => .ok (Text.upper (Text.trim name), Text.trim value)

/-- The value of the last setting of a name. -/
def lastValue (settings : List (List Char × List Char)) (name : String) : Option (List Char) :=
  (settings.reverse.find? (·.1 = name.toList)).map (·.2)

/-- The identifier a name is set to. -/
def required (settings : List (List Char × List Char)) (name : String) : Except Fault String :=
  match lastValue settings name with
  | none | some [] => .error (.lookupSettingMissing name)
  | some value =>
    if isIdentifier value then .ok (String.ofList value)
    else .error (.lookupSettingInvalid name (String.ofList value))

/-- The names an expression sets. -/
def parse (expression : String) : Except Fault LookupSpec := do
  let settings ← (Text.settingLines expression.toList).mapM settingOf
  let table ← required settings "LOOKUP_TABLE"
  let key ← required settings "KEY_COLUMN"
  let tableKey ← required settings "LOOKUP_KEY_COLUMN"
  let tableExternal ← required settings "EXTERNAL_ID_COLUMN"
  return ⟨table, key, tableKey, tableExternal⟩

end LookupSpec

/-! ## loading -/

/-- The query for the rows of the table. -/
def LookupSpec.query (spec : LookupSpec) : String :=
  "SELECT " ++ spec.tableKey ++ ", " ++ spec.tableExternal ++ " FROM " ++ spec.table

/-- A lookup table in memory: keys paired with external ids. -/
structure LookupTable where
  spec : LookupSpec
  pairs : List (String × String)
  deriving DecidableEq, Repr

namespace LookupTable

/-- A cell that holds a text or nothing. -/
def textOf (cell : Cell) : Except StatementFault (Option String) :=
  match cell.readText? with
  | some text => .ok text
  | none => .error (.unreadable "lookup" "a number")

/-- The key and the external id in a row of the query. -/
def rowOf : List Cell → Except StatementFault (Option String × Option String)
  | key :: external :: _ => do return (← textOf key, ← textOf external)
  | _ => .error (.unreadable "lookup" "row")

/-- The pairs in rows.  Rows with a null on either side say nothing. -/
def pairsOf (rows : List (Option String × Option String)) : List (String × String) :=
  rows.filterMap fun (key, external) => return (← key, ← external)

/-- Read the table a specification names. -/
def load (engine : QueryEngine) (spec : LookupSpec) (store : Store) : Except Fault LookupTable := do
  let rows ← (engine.read store spec.query (fun _ => none) rowOf).mapError Fault.statement
  return ⟨spec, pairsOf rows⟩

/-! ## selecting -/

/-- The candidates whose external id the table pairs with the key of the change. -/
def select (table : LookupTable) (values : ColumnValues) (candidates : List Node) : NodeSet :=
  match values.get table.spec.key with
  | none => ∅
  | some key =>
    .ofList ((candidates.filter fun node => (key, node.externalId) ∈ table.pairs).map Node.id)

end LookupTable

end ChangeRouting
