import ChangeRouting.Change.Payload
import ChangeRouting.Store.Layout

/-!
# ChangeRouting.Store.Document

A store as a text, so that it outlives the program that works on it.

* Each line is a list of nullable texts, written as payloads are.  The first text of a line says what
  it is: `own` begins a table of this library's layout, `table` any other table, and `row` adds a row to
  the table begun last.
* A cell is null, digits, a mark and a text, or a number of double precision in binary.
* A table that is not begun is absent.  The empty text is a store without tables.
* A line that is no such list and a table of this library that nobody knows make the text no store.
-/

namespace ChangeRouting

/-- The texts of a line. -/
abbrev Fields := List (Option String)

namespace Store

/-! ## cells -/

/-- The mark before a text. -/
private def textMark : Char := '='

/-- The mark before a number of double precision that is not negative. -/
private def positiveMark : Char := '+'

/-- The mark before a number of double precision that is negative. -/
private def negativeMark : Char := '~'

private def sizeText (size : Dyadic) : String := toString size.mantissa ++ "p" ++ toString size.exponent

/-- A cell as a field. -/
def writeCell : Cell → Option String
  | .null => none
  | .text s => some (String.ofList (textMark :: s.toList))
  | .number (.whole n) => some (toString n)
  | .number (.double x) =>
    let (negative, body) : Bool × String :=
      match x with
      | .finite negative size => (negative, sizeText size)
      | .infinite negative => (negative, "")
    some (String.ofList ((if negative then negativeMark else positiveMark) :: body.toList))

private def readDouble (negative : Bool) (body : String) : Option Double :=
  match body.splitOn "p" with
  | [""] => some (.infinite negative)
  | [mantissa, exponent] => do return .finite negative ⟨← mantissa.toNat?, ← exponent.toInt?⟩
  | _ => none

/-- The cell a field stands for. -/
def readCell : Option String → Option Cell
  | none => some .null
  | some field =>
    match field.toList with
    | [] => none
    | mark :: body =>
      if mark = textMark then some (.text (String.ofList body))
      else if mark = positiveMark ∨ mark = negativeMark then
        (readDouble (mark = negativeMark) (String.ofList body)).map fun x => .number (.double x)
      else field.toInt?.map .ofInt

/-- A text is read back as itself. -/
theorem readCell_writeCell_text (s : String) : readCell (writeCell (.text s)) = some (.text s) := by
  simp [writeCell, readCell]

/-! ## columns -/

/-- The mark before the name of a column. -/
private def affinityMark : Affinity → Char
  | .text => '='
  | .number => '#'
  | .any => '?'

private def writeColumn (column : Column) : Option String :=
  some (String.ofList (affinityMark column.affinity :: column.name.toList))

private def readColumn : Option String → Option Column
  | none => none
  | some field =>
    match field.toList with
    | [] => none
    | mark :: name =>
      ([.text, .number, .any].find? (affinityMark · = mark)).map fun affinity =>
        ⟨String.ofList name, affinity, false⟩

/-! ## writing -/

private def foreignHeader (table : Table) : Fields :=
  some "table" :: some table.name :: table.columns.map writeColumn

private def header (table : Table) : Fields :=
  match TableName.ofText? table.name with
  | some own =>
    if table.columns = Layout.columns own then
      let last := match table.ids with
        | .aboveEver last => last
        | _ => 0
      [some "own", some own.text, some (toString last)]
    else foreignHeader table
  | none => foreignHeader table

private def tableLines (table : Table) : List Fields :=
  header table :: table.rows.map fun row => some "row" :: row.map writeCell

/-- The lines of a store. -/
def lines (store : Store) : List Fields :=
  (TableName.all.filterMap store.typed? ++ store.foreign).flatMap tableLines

/-- The text of a store. -/
def render (store : Store) : String :=
  String.join (store.lines.map fun line => Payload.encode line ++ "\n")

/-! ## reading -/

/-- Lines cut before each line that begins a table: what begins it, and its rows. -/
def tablesOf : List Fields → Option (List (Fields × List Fields))
  | [] => some []
  | (some "row" :: row) :: rest => do
    match ← tablesOf rest with
    | ([], rows) :: tables => return ([], row :: rows) :: tables
    | tables => return ([], [row]) :: tables
  | header :: rest => do
    match ← tablesOf rest with
    | ([], rows) :: tables => return (header, rows) :: tables
    | tables => return (header, []) :: tables

/-- The store with one more table. -/
def withTable (store : Store) (table : Fields × List Fields) : Option Store := do
  let (header, rows) := table
  let rows ← rows.mapM (·.mapM readCell)
  match header with
  | [some "own", some name, some last] =>
    let own ← TableName.ofText? name
    let empty := laidEmpty own
    let ids ← match empty.ids with
      | .aboveEver _ => IdRule.aboveEver <$> last.toInt?
      | ids => some ids
    return store.withLaid own { empty with ids := ids, rows := rows }
  | some "table" :: some name :: columns =>
    return store.withForeign ⟨name, ← columns.mapM readColumn, .none, [], rows⟩
  | _ => none

/-- The store a text describes. -/
def parse? (text : String) : Option Store := do
  let lines := (text.splitOn "\n").filter (· ≠ "")
  let fields ← lines.mapM fun line => (Payload.decode line).toOption
  (← tablesOf fields).foldlM withTable bare

end Store

end ChangeRouting
