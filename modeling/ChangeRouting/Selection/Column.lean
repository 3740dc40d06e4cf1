import ChangeRouting.Change.ColumnValues
import ChangeRouting.Node.Set
import ChangeRouting.Text.Blank

/-!
# ChangeRouting.Selection.Column

Selecting nodes by the value of a column.

An expression has one line per test, `COLUMN=value` or `COLUMN!=value`.  The value is

* `NULL`, which a null or absent column equals;
* `:NODE_ID`, `:EXTERNAL_ID`, `:NODE_GROUP_ID`: an attribute of each candidate;
* `:REDIRECT_NODE`: the candidate the value of the column is redirected to;
* `:OTHER`: another column of the same row;
* anything else: that text.

Each line selects on its own, and a candidate is selected when a line selects it.
-/

namespace ChangeRouting

/-- What a column is compared with. -/
inductive Operand
  | null
  | literal (text : String)
  | column (name : String)
  | nodeId
  | externalId
  | groupId
  | redirect
  deriving DecidableEq, Repr

/-- One line of a column expression. -/
structure ColumnTest where
  column : String
  negated : Bool
  operand : Operand
  deriving DecidableEq, Repr

namespace ColumnTest

/-! ## reading -/

/-- What stands before the first `!=` and what stands after it. -/
def splitUnequal : List Char → Option (List Char × List Char)
  | [] => none
  | '!' :: '=' :: rest => some ([], rest)
  | c :: rest => (splitUnequal rest).map fun (before, after) => (c :: before, after)

/-- The two sides of a line and whether it is negated.  A `!=` anywhere in the line comes before an
`=`. -/
def splitLine (line : List Char) : Option (List Char × Bool × List Char) :=
  match splitUnequal line with
  | some (left, right) => some (left, true, right)
  | none => (Text.splitFirst '=' line).map fun (left, right) => (left, false, right)

/-- What a trimmed value stands for. -/
def operandOf (value : List Char) : Operand :=
  match String.ofList value with
  | "NULL" => .null
  | ":NODE_ID" => .nodeId
  | ":EXTERNAL_ID" => .externalId
  | ":NODE_GROUP_ID" => .groupId
  | ":REDIRECT_NODE" => .redirect
  | text =>
    match value with
    | ':' :: c :: name => .column (String.ofList (Text.upper (c :: name)))
    | _ => .literal text

/-- The test a trimmed line stands for. -/
def ofLine (line : List Char) : Except Fault ColumnTest :=
  match splitLine line with
  | none => .error (.columnWithoutOperator (String.ofList line))
  | some (left, negated, right) =>
    let column := Text.trim left
    if column = [] then .error (.columnWithoutName (String.ofList line))
    else .ok ⟨String.ofList (Text.upper column), negated, operandOf (Text.trim right)⟩

/-- The tests of an expression, at least one. -/
def parse (expression : String) : Except Fault (List ColumnTest) := do
  let tests ← (Text.settingLines expression.toList).mapM ofLine
  if tests.isEmpty then throw .emptyColumnExpression
  return tests

/-! ## selecting -/

/-- Every candidate or none, by a comparison that involves no candidate. -/
def wholeGroup (test : ColumnTest) (holds : Bool) (candidates : List Node) : NodeSet :=
  if holds != test.negated then .ofList (candidates.map Node.id) else ∅

/-- The candidates that a comparison tells apart. -/
def byNode (test : ColumnTest) (holds : Node → Bool) (candidates : List Node) : NodeSet :=
  .ofList ((candidates.filter fun node => holds node != test.negated).map Node.id)

/-- The candidates that a line selects. -/
def selectLine (test : ColumnTest) (values : ColumnValues) (redirects : List (String × String))
    (candidates : List Node) : NodeSet :=
  let value := values.get test.column
  match test.operand with
  | .null => test.wholeGroup value.isNone candidates
  | .literal text => test.wholeGroup (value = some text) candidates
  | .column other => test.wholeGroup (value = values.get other) candidates
  | .nodeId => test.byNode (fun node => value = some node.id) candidates
  | .externalId => test.byNode (fun node => value = some node.externalId) candidates
  | .groupId => test.byNode (fun node => value = some node.group) candidates
  | .redirect =>
    let target := value.bind (redirects.lookup ·)
    test.byNode (fun node => target = some node.id) candidates

/-- The candidates that any line selects. -/
def select (tests : List ColumnTest) (values : ColumnValues) (redirects : List (String × String))
    (candidates : List Node) : NodeSet :=
  tests.foldl (fun selected test => selected ∪ test.selectLine values redirects candidates) ∅

theorem mem_select {tests : List ColumnTest} {values : ColumnValues} {redirects : List (String × String)}
    {candidates : List Node} {id : String} :
    id ∈ select tests values redirects candidates ↔
      ∃ test ∈ tests, id ∈ test.selectLine values redirects candidates := by
  have hfold : ∀ selected : NodeSet,
      id ∈ tests.foldl (fun selected test => selected ∪ test.selectLine values redirects candidates)
          selected ↔
        id ∈ selected ∨ ∃ test ∈ tests, id ∈ test.selectLine values redirects candidates := by
    induction tests with
    | nil => simp
    | cons test tests ih => simp [ih, or_assoc]
  simp [select, hfold]

end ColumnTest

end ChangeRouting
