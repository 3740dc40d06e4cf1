import ChangeRouting.Number.Printing

/-!
# ChangeRouting.Cell.Basic

Cells: what the columns of tables hold and what conditions compute with.

* A column has an affinity, the kind of value it prefers; what is put into it is converted to that kind
  where nothing is lost.
* Any number is less than any text; texts are compared character by character; null compares with
  nothing.
-/

namespace ChangeRouting

/-- What a column holds. -/
inductive Cell
  | null
  | number (x : Number)
  | text (s : String)
  deriving DecidableEq, Repr

/-- The kind of value a column prefers. -/
inductive Affinity
  | text
  | number
  /-- Whatever there is. -/
  | any
  deriving DecidableEq, Repr

namespace Cell

/-- A cell that may be missing. -/
def ofText? : Option String → Cell
  | none => .null
  | some s => .text s

/-- A whole number of 64 bits. -/
def ofInt (n : Int) : Cell := .number (.whole n)

/-- A truth value that may be open. -/
def ofTruth : Option Bool → Cell
  | none => .null
  | some b => .ofInt (if b then 1 else 0)

/-- Whether a cell counts as true. -/
def truth : Cell → Option Bool
  | .null => none
  | .number x => some (!x.isZero)
  | .text s => some (Number.isLeadingNonzero s)

/-- A truth value is read back as itself. -/
@[simp] theorem truth_ofTruth (b : Option Bool) : (ofTruth b).truth = b := by
  rcases b with _ | _ | _ <;> rfl

/-- The text of a cell; null has none. -/
def toText : Cell → Option String
  | .null => none
  | .number x => some x.text
  | .text s => some s

/-- The order of two cells that are not null. -/
def cmp : Cell → Cell → Option Ordering
  | .number a, .number b => some (a.cmp b)
  | .number _, .text _ => some .lt
  | .text _, .number _ => some .gt
  | .text a, .text b => some (compare a b)
  | _, _ => none

/-- Whether two cells that are not null are equal. -/
def same (a b : Cell) : Bool := a.cmp b = some .eq

/-- Whether the first of two cells may stand before the second in ascending order; null stands before all
others. -/
def le : Cell → Cell → Bool
  | .null, _ => true
  | _, .null => false
  | a, b => a.cmp b ≠ some .gt

/-- A cell as an operand beside a column of this affinity. -/
def beside (affinity : Affinity) (cell : Cell) : Cell :=
  match affinity, cell with
  | .text, .number x => .text x.text
  | .number, .text s => ((Number.ofText? s).map Cell.number).getD cell
  | _, _ => cell

/-- A cell as it is kept in a column of this affinity; numbers that are whole are kept as such. -/
def keptIn (affinity : Affinity) (cell : Cell) : Cell :=
  match affinity, cell.beside affinity with
  | .number, .number x => .number ((x.whole?.map Number.whole).getD x)
  | _, kept => kept

/-! ## reading -/

/-- The text a cell must hold. -/
def readText : Cell → Option String
  | .text s => some s
  | _ => none

/-- The text a cell may hold. -/
def readText? : Cell → Option (Option String)
  | .null => some none
  | .text s => some (some s)
  | .number _ => none

/-- The whole number a cell must hold. -/
def readInt : Cell → Option Int
  | .number (.whole n) => some n
  | _ => none

@[simp] theorem readText_text (s : String) : (Cell.text s).readText = some s := rfl

@[simp] theorem readText?_ofText? (s : Option String) : (ofText? s).readText? = some s := by
  cases s <;> rfl

@[simp] theorem readInt_ofInt (n : Int) : (ofInt n).readInt = some n := rfl

end Cell

end ChangeRouting
