import ChangeRouting.Cell.Basic
import ChangeRouting.Query.Pattern

/-!
# ChangeRouting.Condition.Basic

Conditions over the rows of a table, and which rows meet one.

* A condition has a value: a number, a text or null.  Truth is three-valued: null is neither true
  nor false, and a row meets a condition only when it is true.
* A comparison with a column converts the other side as the column prefers: beside a text column a
  number is read as its digits, beside a number column a text that looks like a number is read as that
  number.  Two operands that are no columns are compared as they are.
* Comparing with a pattern that is too long fails, and so does the query.  What need not be looked at is
  not: a side that decides a conjunction or a disjunction spares the other, and conditions that mention
  no column are looked at once, before any row.
-/

namespace ChangeRouting.Condition

/-! ## the language -/

/-- The ordering comparisons. -/
inductive Comparison
  | eq
  | ne
  | lt
  | le
  | gt
  | ge
  deriving DecidableEq, Repr

/-- A condition. -/
inductive Expr
  /-- The cell at a position of the row. -/
  | column (position : Nat) (affinity : Affinity)
  /-- What is bound to a name. -/
  | parameter (name : String)
  | literal (cell : Cell)
  | compare (op : Comparison) (a b : Expr)
  /-- Equality in which null equals null. -/
  | same (a b : Expr)
  /-- Whether a condition has this truth value; null has none. -/
  | counts (wanted : Bool) (a : Expr)
  | isIn (a : Expr) (items : List Expr)
  | like (a wanted : Expr)
  | between (a low high : Expr)
  | not (a : Expr)
  | and (a b : Expr)
  | or (a b : Expr)

/-! ## comparing -/

/-- The affinity an operand lends to what it is compared with. -/
def Expr.affinity? : Expr → Option Affinity
  | .column _ affinity => some affinity
  | _ => none

/-- The affinity by which two operands are compared.  Two columns are compared as numbers if either
holds numbers, and otherwise as they are. -/
def commonAffinity : Option Affinity → Option Affinity → Affinity
  | some a, some b => if a = .number ∨ b = .number then .number else .any
  | some a, none => a
  | none, some b => b
  | none, none => .any

/-- Whether an order satisfies a comparison. -/
def Comparison.holds : Comparison → Ordering → Bool
  | .eq, o => o = .eq
  | .ne, o => o ≠ .eq
  | .lt, o => o = .lt
  | .le, o => o ≠ .gt
  | .gt, o => o = .gt
  | .ge, o => o ≠ .lt

/-- A comparison of two cells under an affinity. -/
def compareTruth (op : Comparison) (affinity : Affinity) (a b : Cell) : Option Bool :=
  ((a.beside affinity).cmp (b.beside affinity)).map op.holds

/-- Whether two cells are the same, nulls included. -/
def sameTruth (affinity : Affinity) (a b : Cell) : Bool :=
  match a, b with
  | .null, .null => true
  | a, b => compareTruth .eq affinity a b = some true

/-! ## truth -/

/-- Conjunction: a false side decides. -/
def conj : Option Bool → Option Bool → Option Bool
  | some false, _ | _, some false => some false
  | some true, some true => some true
  | _, _ => none

/-- Disjunction: a true side decides. -/
def disj : Option Bool → Option Bool → Option Bool
  | some true, _ | _, some true => some true
  | some false, some false => some false
  | _, _ => none

/-- Whether a cell is among others; a null among them leaves the question open. -/
def memberTruth (affinity : Affinity) (a : Cell) : List Cell → Option Bool
  | [] => some false
  | item :: items => disj (compareTruth .eq affinity a item) (memberTruth affinity a items)

/-- The bytes a pattern may have. -/
def longestPattern : Nat := 50000

private def untilNull (s : String) : List Char := s.toList.takeWhile (· ≠ '\x00')

/-- Whether one cell, as a text, fits another; both are read up to the first null character.  A pattern
that is too long is refused. -/
def likeTruth (a wanted : Cell) : Option (Option Bool) :=
  match a.toText, wanted.toText with
  | _, none => some none
  | s?, some pattern =>
    if longestPattern < pattern.utf8ByteSize then none
    else some (s?.map fun s => Query.Pattern.fits (untilNull pattern) (untilNull s))

/-! ## values -/

mutual

/-- The value of a condition at a row, with the cells bound to its parameters, unless a pattern is too
long. -/
def Expr.eval (bound : String → Cell) (row : List Cell) : Expr → Option Cell
  | .column position _ => some (row.getD position .null)
  | .parameter name => some (bound name)
  | .literal cell => some cell
  | .compare op a b => do
    let affinity := commonAffinity a.affinity? b.affinity?
    return .ofTruth (compareTruth op affinity (← a.eval bound row) (← b.eval bound row))
  | .same a b => do
    let affinity := commonAffinity a.affinity? b.affinity?
    return .ofTruth (some (sameTruth affinity (← a.eval bound row) (← b.eval bound row)))
  | .counts wanted a => do return .ofTruth (some ((← a.eval bound row).truth = some wanted))
  | .isIn a items => do
    let affinity := commonAffinity a.affinity? none
    return .ofTruth (memberTruth affinity (← a.eval bound row) (← Expr.evalAll bound row items))
  | .like a wanted => do
    return .ofTruth (← likeTruth (← a.eval bound row) (← wanted.eval bound row))
  | .between a low high => do
    let value ← a.eval bound row
    let above := compareTruth .ge (commonAffinity a.affinity? low.affinity?) value
      (← low.eval bound row)
    let below := compareTruth .le (commonAffinity a.affinity? high.affinity?) value
      (← high.eval bound row)
    return .ofTruth (conj above below)
  | .not a => do return .ofTruth ((← a.eval bound row).truth.map (!·))
  | .and a b => do return .ofTruth (conj (← a.eval bound row).truth (← b.eval bound row).truth)
  | .or a b => do return .ofTruth (disj (← a.eval bound row).truth (← b.eval bound row).truth)

/-- The values of several conditions. -/
def Expr.evalAll (bound : String → Cell) (row : List Cell) : List Expr → Option (List Cell)
  | [] => some []
  | e :: es => do return (← e.eval bound row) :: (← Expr.evalAll bound row es)

end

/-! ## selecting -/

/-- Whether a condition has this truth value at a row.  A side that decides spares the other. -/
def Expr.isAt (bound : String → Cell) (row : List Cell) (truth : Bool) : Expr → Option Bool
  | .not a => a.isAt bound row (!truth)
  | .and a b => do
    let held ← a.isAt bound row truth
    if held = truth then b.isAt bound row truth else return held
  | .or a b => do
    let held ← a.isAt bound row truth
    if held = truth then return held else b.isAt bound row truth
  | e => do return (← e.eval bound row).truth = some truth

/-- The conditions that a row must meet to meet this one. -/
def Expr.conjuncts : Expr → List Expr
  | .and a b => a.conjuncts ++ b.conjuncts
  | e => [e]

mutual

/-- Whether a condition mentions no column. -/
def Expr.isFixed : Expr → Bool
  | .column .. => false
  | .parameter _ | .literal _ => true
  | .compare _ a b | .same a b | .like a b | .and a b | .or a b => a.isFixed && b.isFixed
  | .isIn a items => a.isFixed && Expr.areFixed items
  | .between a low high => a.isFixed && low.isFixed && high.isFixed
  | .counts _ a | .not a => a.isFixed

/-- Whether several conditions mention no column. -/
def Expr.areFixed : List Expr → Bool
  | [] => true
  | e :: es => e.isFixed && Expr.areFixed es

end

/-- Whether a row meets all of these conditions, from the first on. -/
def meetsAll (bound : String → Cell) (row : List Cell) : List Expr → Option Bool
  | [] => some true
  | e :: es => do if ← e.isAt bound row true then meetsAll bound row es else return false

/-- The rows among these that meet a condition, unless a pattern that was looked at is too long. -/
def Expr.select (condition : Expr) (bound : String → Cell) (rows : List (List Cell)) :
    Option (List (List Cell)) := do
  let (fixed, open') := condition.conjuncts.partition (·.isFixed)
  if ← meetsAll bound [] fixed then rows.filterM fun row => meetsAll bound row open' else return []

end ChangeRouting.Condition
