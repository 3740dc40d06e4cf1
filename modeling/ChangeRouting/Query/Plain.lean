import ChangeRouting.Calendar
import ChangeRouting.Condition.Grammar
import ChangeRouting.Query.Engine
import ChangeRouting.Store.Catalogue

/-!
# ChangeRouting.Query.Plain

An engine for plain queries, for those who have no other.

A plain query selects columns of one table, of all its rows or of those that meet a condition.  The engine
refuses whatever else a query may say, and knows a few words that name no column: null, the truth values, the
number of a row, and the time, of which it knows one.
-/

namespace ChangeRouting

open Query (Token)

/-- Columns of one table, of the rows that meet a condition. -/
structure PlainQuery where
  /-- What is selected: names, each behind the names that qualify it. -/
  items : List (List String)
  /-- The table, likewise. -/
  table : List String
  /-- The name by which the table goes, if not by its own, and what its rows are to meet. -/
  condition : Option (String × List Token)
  deriving DecidableEq, Repr

namespace PlainQuery

/-! ## reading -/

/-- Names between commas, each behind the names that qualify it, and what follows them. -/
def readNames : List Token → Option (List (List String) × List Token)
  | .word qualifier :: .symbol "." :: rest =>
    match readNames rest with
    | some (names :: others, after) => some ((qualifier :: names) :: others, after)
    | _ => none
  | .word name :: .symbol "," :: rest => do
    let (others, after) ← readNames rest
    return ([name] :: others, after)
  | .word name :: rest => some ([[name]], rest)
  | _ => none

/-- What follows a word of the language, if it comes first. -/
def behind (word : String) : List Token → Option (List Token)
  | token :: rest => if token.isWord word then some rest else none
  | [] => none

/-- The query that words make. -/
def ofTokens? (tokens : List Token) : Option PlainQuery := do
  let (items, rest) ← readNames (← behind "SELECT" tokens)
  match ← readNames (← behind "FROM" rest) with
  | ([table], []) => return ⟨items, table, none⟩
  | ([table], .word name :: rest) => return ⟨items, table, some (name, ← behind "WHERE" rest)⟩
  | _ => none

/-- The query that a text stands for. -/
def parse? (query : String) : Option PlainQuery := do ofTokens? (← Token.scan query.toList)

/-! ## names -/

/-- A name as it stands in a query. -/
def written (names : List String) : String := ".".intercalate names

/-- Whether a name is a word that can name nothing. -/
def isReserved (name : String) : Bool := name.toUpper ∈ Token.reserved

/-- The table that names stand for; the store itself goes by `main`. -/
def tableName (names : List String) : Except StatementFault String :=
  match names with
  | [table] => if isReserved table then .error (.malformed table) else .ok table
  | [schema, table] =>
    if sameName schema "main" && !isReserved table then .ok table
    else .error (.noSuchTable (written names))
  | _ => .error (.malformed (written names))

/-- What a name selects from the rows of a table. -/
inductive Selected
  | cell (position : Nat)
  | constant (value : Cell)
  /-- The number of the row. -/
  | place
  deriving DecidableEq, Repr

/-- What a word selects even where a column has its name: null, and the time. -/
def constant? (now : Millis) (name : String) : Option Cell :=
  match name.toLower with
  | "null" => some .null
  | "current_date" => some (.text now.dateText)
  | "current_time" => some (.text now.clockText)
  | "current_timestamp" => some (.text (now.dateText ++ " " ++ now.clockText))
  | _ => none

/-- What a name selects that would name no column otherwise: the number of the row, and if it stands alone a
truth value. -/
def other? (isAlone : Bool) (name : String) : Option Selected :=
  match name.toLower with
  | "rowid" | "oid" | "_rowid_" => some .place
  | "true" => if isAlone then some (.constant (.ofInt 1)) else none
  | "false" => if isAlone then some (.constant (.ofInt 0)) else none
  | _ => none

/-- Words that begin something else than a name where they stand alone. -/
def isOperator (name : String) : Bool := name.toLower = "cast" || name.toLower = "raise"

/-- What a column of this name selects, or what the name selects otherwise. -/
def column (columns : List Column) (isAlone : Bool) (name : String) : Except StatementFault Selected :=
  if isReserved name then .error (.noSuchColumn name)
  else
    match (columns.findIdx? (sameName name ·.name)).map Selected.cell <|> other? isAlone name with
    | some selected => .ok selected
    | none => .error (.noSuchColumn name)

/-- What names select from a table that goes by some name. -/
def selected (now : Millis) (table : String) (columns : List Column) (names : List String) :
    Except StatementFault Selected :=
  let unknown := .error (.noSuchColumn (written names))
  match names with
  | [name] =>
    match constant? now name with
    | some value => .ok (.constant value)
    | none => if isOperator name then unknown else column columns true name
  | [owner, name] => if sameName owner table then column columns false name else unknown
  | [schema, owner, name] =>
    if sameName schema "main" && sameName owner table then column columns false name else unknown
  | _ => .error (.malformed (written names))

/-! ## answering -/

/-- What is selected from a row in its place. -/
def Selected.read (place : Nat) (row : List Cell) : Selected → Cell
  | .cell position => row.getD position .null
  | .constant value => value
  | .place => .ofInt (place + 1)

/-- The rows of a table that the query speaks about. -/
def having (query : PlainQuery) (table : Table) (bound : Bindings) :
    Except StatementFault (List (List Cell)) :=
  match query.condition with
  | none => .ok table.rows
  | some (name, tokens) =>
    let columns := table.columns.map fun column => (column.name, column.affinity)
    let cell (parameter : String) :=
      Cell.ofText? (bound (if parameter.isEmpty then none else some parameter))
    match (Condition.Expr.ofTokens? ⟨name, columns⟩ tokens).bind (·.select cell table.rows) with
    | some rows => .ok rows
    | none => .error (.malformed name)

/-- The rows of the query. -/
def rows (query : PlainQuery) (now : Millis) (store : Store) (bound : Bindings) :
    Except StatementFault (List (List Cell)) := do
  let name ← tableName query.table
  match store.readable? name with
  | none => throw (.noSuchTable name)
  | some table =>
    let owner := query.condition.elim name Prod.fst
    let items ← query.items.mapM (selected now owner table.columns)
    return (← query.having table bound).mapIdx fun place row => items.map (·.read place row)

end PlainQuery

/-- The engine for plain queries, at a point in time. -/
def QueryEngine.plain (now : Millis) : QueryEngine where
  answer store query bound :=
    match PlainQuery.parse? query with
    | none => [.error (.malformed query)]
    | some plain =>
      match plain.rows now store bound with
      | .ok rows => rows.map .ok
      | .error fault => [.error fault]

end ChangeRouting
