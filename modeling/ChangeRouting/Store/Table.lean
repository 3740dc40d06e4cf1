import ChangeRouting.Condition.Basic
import ChangeRouting.Fault

/-!
# ChangeRouting.Store.Table

Tables of cells, and the statements any table understands.

* What is put into a column is converted as the column prefers, and a required column takes no null.
* A table may give out ids in its first column; a null there asks for the next one.
* No two rows agree on the key of a table, nulls aside.
* A statement that names a column the table does not have fails, whatever rows there are.
-/

namespace ChangeRouting

/-- Whether two names are the same, letters of ASCII in either case. -/
def sameName (a b : String) : Bool := a.toLower = b.toLower

/-- A column. -/
structure Column where
  name : String
  affinity : Affinity
  /-- Whether it takes no null. -/
  required : Bool
  deriving DecidableEq, Repr

/-- How a table gives out ids. -/
inductive IdRule
  /-- It gives out none. -/
  | none
  /-- Above the ids it holds. -/
  | aboveHeld
  /-- Above the ids it ever held, of which this was the last. -/
  | aboveEver (last : Int)
  deriving DecidableEq, Repr

/-- A table. -/
structure Table where
  name : String
  columns : List Column
  ids : IdRule
  /-- The positions of the columns on which no two rows agree. -/
  key : List Nat
  /-- In id order, and otherwise in the order of insertion. -/
  rows : List (List Cell)
  deriving DecidableEq, Repr

/-- What becomes of a row whose key is taken. -/
inductive OnConflict
  | refuse
  /-- It replaces the row that has its key. -/
  | replace
  /-- The row that has its key is changed; it is given first, the refused one second. -/
  | change (merge : List Cell → List Cell → List Cell)

namespace Table

/-! ## columns -/

/-- The position of a column. -/
def position (table : Table) (name : String) : Except Fault Nat :=
  match table.columns.findIdx? (sameName ·.name name) with
  | some position => .ok position
  | none => .error (.statement (.noSuchColumn name))

/-- A column as a condition sees it. -/
def column (table : Table) (name : String) : Except Fault Condition.Expr := do
  let position ← table.position name
  return .column position ((table.columns[position]?.map Column.affinity).getD .any)

/-! ## reading -/

/-- The rows that meet a condition. -/
def having (table : Table) (condition : Condition.Expr) : List (List Cell) :=
  table.rows.filter fun row => condition.isAt (fun _ => .null) row true = some true

/-- What stands in these columns of rows. -/
def project (table : Table) (names : List String) (rows : List (List Cell)) :
    Except Fault (List (List Cell)) := do
  let positions ← names.mapM table.position
  return rows.map fun row => positions.map (row.getD · .null)

/-- Cells in ascending order, the first of them first. -/
private def cellsLe : List Cell → List Cell → Bool
  | a :: as, b :: bs => if b.le a then a.le b && cellsLe as bs else a.le b
  | _, _ => true

/-- Rows in ascending order of what stands in these columns. -/
def sortedBy (table : Table) (names : List String) (rows : List (List Cell)) :
    Except Fault (List (List Cell)) := do
  let positions ← names.mapM table.position
  let cellsOf (row : List Cell) := positions.map (row.getD · .null)
  return rows.mergeSort fun a b => cellsLe (cellsOf a) (cellsOf b)

/-- What a row holds, if it can be read. -/
def decode (table : Table) (read : List Cell → Option α) (row : List Cell) : Except Fault α :=
  match read row with
  | some a => .ok a
  | none => .error (.statement (.unreadable table.name "row"))

/-! ## writing -/

private def duplicate (table : Table) : Fault := .statement (.duplicateKey table.name)

private def malformed (table : Table) : Fault := .statement (.malformed table.name)

/-- The ids the table holds. -/
private def heldIds (table : Table) : List Int :=
  table.rows.filterMap fun row => row.head?.bind Cell.readInt

/-- The id the table gives out next. -/
private def nextId (table : Table) : Except Fault Int :=
  let last :=
    match table.ids with
    | .aboveEver last => last
    | _ => (table.heldIds.max?).getD 0
  if Number.greatestWhole ≤ last then .error (.statement (.idsExhausted table.name)) else .ok (last + 1)

/-- A row under its id.  Without ids of its own a table counts its rows. -/
private def underId (table : Table) (row : List Cell) : Except Fault (Int × List Cell) :=
  match table.ids, row with
  | .none, _ => .ok (table.rows.length + 1, row)
  | _, .null :: rest => do
    let id ← table.nextId
    return (id, .ofInt id :: rest)
  | _, cell :: rest =>
    match (cell.keptIn .number).readInt with
    | some id => .ok (id, .ofInt id :: rest)
    | none => .error table.malformed
  | _, [] => .error table.malformed

/-- Whether two rows agree on the key. -/
private def agree (table : Table) (a b : List Cell) : Bool :=
  !table.key.isEmpty && table.key.all fun position => (a.getD position .null).same (b.getD position .null)

private def place (id : Int) (row : List Cell) : List (List Cell) → List (List Cell)
  | [] => [row]
  | other :: rest =>
    if (other.head?.bind Cell.readInt).any (id < ·) then row :: other :: rest
    else other :: place id row rest

/-- The table with one more row, whose key is free. -/
private def withRow (table : Table) (id : Int) (row : List Cell) : Table :=
  match table.ids with
  | .none => { table with rows := table.rows ++ [row] }
  | .aboveHeld => { table with rows := place id row table.rows }
  | .aboveEver last => { table with ids := .aboveEver (max last id), rows := place id row table.rows }

/-- Insert a row; the id it gets is the answer. -/
def insert (table : Table) (onConflict : OnConflict) (row : List Cell) : Except Fault (Int × Table) := do
  if row.length ≠ table.columns.length then throw table.malformed
  let (id, row) ← table.underId row
  let row := List.zipWith (fun (column : Column) cell => cell.keptIn column.affinity) table.columns row
  if (table.columns.zip row).any fun (column, cell) => column.required && cell = .null then
    throw table.malformed
  if table.rows.any (table.agree row) then
    match onConflict with
    | .refuse => throw table.duplicate
    | .replace =>
      let others := table.rows.filter fun other => !table.agree row other
      return (id, { table with rows := others }.withRow id row)
    | .change merge =>
      let rows := table.rows.map fun other => if table.agree row other then merge other row else other
      return (id, { table with rows := rows })
  else return (id, table.withRow id row)

/-- Insert what stands in these columns; the others stay empty. -/
def insertNamed (table : Table) (onConflict : OnConflict) (cells : List (String × Cell)) :
    Except Fault (Int × Table) := do
  let places ← cells.mapM fun (name, cell) => return (← table.position name, cell)
  table.insert onConflict
    ((List.range table.columns.length).map fun position => (places.lookup position).getD .null)

/-- Check that the key is made of these columns. -/
def requireKey (table : Table) (names : List String) : Except Fault Unit := do
  if (← names.mapM table.position) ≠ table.key then throw table.malformed

/-- Write cells into these columns of the rows that meet a condition. -/
def update (table : Table) (condition : Condition.Expr) (cells : List (String × Cell)) :
    Except Fault Table := do
  let places ← cells.mapM fun (name, cell) => return (← table.position name, cell)
  let written (row : List Cell) : List Cell :=
    (List.zip table.columns row).mapIdx fun position (column, cell) =>
      ((places.lookup position).map (·.keptIn column.affinity)).getD cell
  let rows := table.rows.map fun row =>
    if condition.isAt (fun _ => .null) row true = some true then written row else row
  return { table with rows := rows }

/-- Delete the rows that meet a condition; their number is the answer. -/
def delete (table : Table) (condition : Condition.Expr) : Nat × Table :=
  let (gone, kept) := table.rows.partition fun row =>
    condition.isAt (fun _ => .null) row true = some true
  (gone.length, { table with rows := kept })

end Table

end ChangeRouting
