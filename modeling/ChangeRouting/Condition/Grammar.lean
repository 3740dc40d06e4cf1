import ChangeRouting.Condition.Basic
import ChangeRouting.Query.Parameter

/-!
# ChangeRouting.Condition.Grammar

How words make a condition.

Operators bind, from the loosest to the tightest: `OR`; `AND`; `NOT`; equality, `IS`, `IN`, `LIKE` and
`BETWEEN`; the ordering comparisons.  Operators of one level associate to the left.  `NOT` before an
operand takes everything that binds tighter, also where an operand of a tighter operator stands.

A name that is no column spoils the condition it stands in.  Two conditions have their value whatever
stands in them: a conjunction with a literal zero is false, and nothing is a member of an empty list.

Two limits keep conditions small.  The words and conditions that wait for what follows them are kept
on a stack of bounded depth, and the operators above any operand are bounded in number.
-/

namespace ChangeRouting.Condition

open Query

/-- The levels of binding. -/
private def orLevel : Nat := 1
private def andLevel : Nat := 2
private def notLevel : Nat := 3
private def equalityLevel : Nat := 4
private def orderLevel : Nat := 5

/-! ## limits -/

/-- The depth of the stack. -/
def deepest : Nat := 99

/-- The depth at which the condition of a query starts. -/
def conditionDepth : Nat := 5

/-- The height a condition may have. -/
def highest : Nat := 1000

/-- Put a word on the stack, `above` places over the bottom of the condition it belongs to. -/
private def push (bottom above : Nat) : Option Unit := if bottom + above ≤ deepest then some () else none

/-! ## phrases -/

/-- A condition as it is read. -/
private structure Phrase where
  /-- The condition, unless a name in it is no column. -/
  expr : Option Expr
  height : Nat
  /-- Whether it is a literal that is false. -/
  isZero : Bool
  /-- Whether it is made of literals and parameters without patterns. -/
  isPlain : Bool
  /-- The truth value it is the word for. -/
  truthWord : Option Bool

/-- A condition of one word. -/
private def Phrase.leaf (expr : Expr) : Phrase := ⟨some expr, 1, false, true, none⟩

/-- A number behind a sign. -/
private def Phrase.signed (number : Number) : Phrase := ⟨some (.literal (.number number)), 2, false, true, none⟩

/-- The literal false. -/
private def Phrase.zero : Phrase := ⟨some (.literal (.ofInt 0)), 1, true, true, none⟩

/-- A condition over those of which `below` is the height, unless it is too high. -/
private def Phrase.over (below : Nat) (isPlain : Bool) (expr : Option Expr) : Option Phrase :=
  if below < highest then some ⟨expr, below + 1, false, isPlain, none⟩ else none

/-- A condition over one other. -/
private def Phrase.over₁ (make : Expr → Expr) (a : Phrase) : Option Phrase :=
  Phrase.over a.height a.isPlain (a.expr.map make)

/-- A condition over two others. -/
private def Phrase.over₂ (make : Expr → Expr → Expr) (a b : Phrase) : Option Phrase :=
  Phrase.over (max a.height b.height) (a.isPlain && b.isPlain) do return make (← a.expr) (← b.expr)

/-- A condition whose negation counts as one operator with it. -/
private def Phrase.negated (a : Phrase) : Phrase := { a with expr := a.expr.map .not, isZero := false }

/-- A conjunction. -/
private def Phrase.conjunction (a b : Phrase) : Option Phrase :=
  if a.isZero || b.isZero then some .zero else Phrase.over₂ .and a b

/-- A test against null. -/
private def Phrase.isNull (a : Phrase) : Option Phrase := a.over₁ fun e => .same e (.literal .null)

/-- A test against another condition.  Against the word for a truth value it is one of truth. -/
private def Phrase.same (a b : Phrase) : Option Phrase :=
  Phrase.over₂ (fun x y => b.truthWord.elim (.same x y) (.counts · x)) a b

/-- A test against a pattern. -/
private def Phrase.like (a wanted : Phrase) : Option Phrase := do
  return { ← Phrase.over₂ .like a wanted with isPlain := false }

/-- A range; the height of its bounds does not add to it. -/
private def Phrase.range (a low high : Phrase) : Option Phrase :=
  if low.height < highest ∧ high.height < highest then
    Phrase.over a.height (a.isPlain && low.isPlain && high.isPlain) do
      return .between (← a.expr) (← low.expr) (← high.expr)
  else none

/-- A membership, and whether its negation counts as one operator with it.  A single plain item is one
operator deeper. -/
private def Phrase.membership (a : Phrase) (items : List Phrase) : Option Phrase :=
  match items with
  | [] => some .zero
  | items =>
    let height := items.foldl (fun height item => max height item.height) a.height
    let expr : Option Expr := do return .isIn (← a.expr) (← items.mapM Phrase.expr)
    match items with
    | [item] =>
      if item.isPlain then Phrase.over (max a.height (item.height + 1)) a.isPlain expr
      else Phrase.over height false expr
    | _ => Phrase.over height (a.isPlain && items.all (·.isPlain)) expr

/-- The negation of a test. -/
private def Phrase.negation (a : Phrase) : Option Phrase :=
  if a.isZero then some a.negated else a.over₁ .not

/-! ## reading -/

private def comparison? : Token → Option (Comparison × Nat)
  | .symbol "=" => some (.eq, equalityLevel)
  | .symbol "<>" => some (.ne, equalityLevel)
  | .symbol "<" => some (.lt, orderLevel)
  | .symbol "<=" => some (.le, orderLevel)
  | .symbol ">" => some (.gt, orderLevel)
  | .symbol ">=" => some (.ge, orderLevel)
  | _ => none

/-- The table a condition speaks about: the name it goes by, and its columns. -/
structure Subject where
  name : String
  columns : List (String × Affinity)

/-- The column of a name, in either case. -/
def Subject.column? (subject : Subject) (name : String) : Option Expr :=
  (subject.columns.findIdx? (·.1.toLower = name.toLower)).bind fun position =>
    subject.columns[position]?.map fun (_, affinity) => .column position affinity

/-- What a bare name stands for: a column, a truth value or, in double quotes, itself as a text. -/
private def bareName (subject : Subject) : Token → Option Expr
  | .quoted mark name =>
    subject.column? name <|> if mark = '"' then some (.literal (.text name)) else none
  | .word name =>
    subject.column? name <|>
      match name.toLower with
      | "true" => some (.literal (.ofInt 1))
      | "false" => some (.literal (.ofInt 0))
      | _ => none
  | _ => none

/-- The truth value a bare name is the word for. -/
private def truthWord? (subject : Subject) : Token → Option Bool
  | .word name =>
    if (subject.column? name).isSome then none
    else
      match name.toLower with
      | "true" => some true
      | "false" => some false
      | _ => none
  | _ => none

/-- The name that words begin with: bare, or behind the name of the table. -/
private def readName (subject : Subject) (bottom : Nat) : List Token → Option (Phrase × List Token)
  | qualifier :: .symbol "." :: column :: rest => do
    let owner ← qualifier.name?
    let name ← column.name?
    push bottom 3
    let expr := if owner.toLower = subject.name.toLower then subject.column? name else none
    return (⟨expr, 2, false, false, none⟩, rest)
  | token :: rest => do
    let _ ← token.name?
    push bottom 1
    let isPlain := token.isWord "TRUE" || token.isWord "FALSE"
    return (⟨bareName subject token, 1, false, isPlain, truthWord? subject token⟩, rest)
  | [] => none

mutual

/-- The condition that words begin with, made of operators of at least `level`; and the words after
it.  It lies on the stack over `bottom`.  `fuel` bounds the depth of nesting. -/
private def readExpr (subject : Subject) (fuel level bottom : Nat) (tokens : List Token) :
    Option (Phrase × List Token) :=
  match fuel with
  | 0 => none
  | fuel + 1 => do
    let (operand, rest) ← readOperand subject fuel bottom tokens
    readOperators subject fuel level bottom operand rest

/-- One operand: a condition in parentheses, a negation, a column, a parameter or a literal. -/
private def readOperand (subject : Subject) (fuel bottom : Nat) (tokens : List Token) :
    Option (Phrase × List Token) :=
  match fuel with
  | 0 => none
  | fuel + 1 => do
    push bottom 1
    match tokens with
    | .symbol "(" :: rest => do
      let (inner, rest) ← readExpr subject fuel orLevel (bottom + 1) rest
      match rest with
      | .symbol ")" :: rest =>
        push bottom 3
        return (inner, rest)
      | _ => none
    | .symbol "-" :: .number n :: rest => do
      push bottom 2
      return (.signed (.ofInt (-n)), rest)
    | .symbol "-" :: .fraction text :: rest => do
      push bottom 2
      return (.signed (← Number.ofText? text).neg, rest)
    | .symbol "+" :: .number n :: rest => do
      push bottom 2
      return (.signed (.ofInt n), rest)
    | .symbol "+" :: .fraction text :: rest => do
      push bottom 2
      return (.signed (← Number.ofText? text), rest)
    | .number n :: rest =>
      return ({ Phrase.leaf (.literal (.number (.ofInt n))) with isZero := n = 0 }, rest)
    | .fraction text :: rest => return (.leaf (.literal (.number (← Number.ofText? text))), rest)
    | .text s :: rest => some (.leaf (.literal (.text s)), rest)
    | .parameter name :: rest => some (.leaf (.parameter name), rest)
    | token :: rest =>
      if token.isWord "NULL" then some (.leaf (.literal .null), rest)
      else if token.isWord "NOT" then do
        let (inner, rest) ← readExpr subject fuel notLevel (bottom + 1) rest
        return (← inner.over₁ .not, rest)
      else readName subject bottom tokens
    | [] => none

/-- The operators of at least `level` that follow an operand. -/
private def readOperators (subject : Subject) (fuel level bottom : Nat) (left : Phrase)
    (tokens : List Token) : Option (Phrase × List Token) :=
  match fuel with
  | 0 => none
  | fuel + 1 =>
    match tokens with
    | [] => some (left, [])
    | token :: rest =>
      let binary (own : Nat) (make : Phrase → Phrase → Option Phrase) :=
        if own < level then some (left, tokens)
        else do
          push bottom 2
          let (right, rest) ← readExpr subject fuel (own + 1) (bottom + 2) rest
          readOperators subject fuel level bottom (← make left right) rest
      if let some (op, own) := comparison? token then binary own (Phrase.over₂ (.compare op))
      else if token.isWord "OR" then binary orLevel (Phrase.over₂ .or)
      else if token.isWord "AND" then binary andLevel Phrase.conjunction
      else if equalityLevel < level then some (left, tokens)
      else if token.isWord "IS" then
        match rest with
        | next :: rest' =>
          if next.isWord "NOT" then do
            push bottom 3
            let (right, rest) ← readExpr subject fuel orderLevel (bottom + 3) rest'
            let test ← left.same right
            readOperators subject fuel level bottom test.negated rest
          else binary equalityLevel Phrase.same
        | [] => none
      else if token.isWord "ISNULL" then do
        push bottom 2
        readOperators subject fuel level bottom (← left.isNull) rest
      else if token.isWord "NOTNULL" then do
        push bottom 2
        readOperators subject fuel level bottom (← left.isNull).negated rest
      else if token.isWord "NOT" then
        match rest with
        | next :: rest' => do
          push bottom 3
          if next.isWord "NULL" then
            readOperators subject fuel level bottom (← left.isNull).negated rest'
          else
            let (test, rest) ← readTest subject fuel bottom left rest
            readOperators subject fuel level bottom (← test.negation) rest
        | [] => none
      else if token.isWord "IN" || token.isWord "LIKE" || token.isWord "BETWEEN" then do
        let (test, rest) ← readTest subject fuel bottom left tokens
        readOperators subject fuel level bottom test rest
      else some (left, tokens)

/-- A membership, pattern or range test of an operand. -/
private def readTest (subject : Subject) (fuel bottom : Nat) (left : Phrase) (tokens : List Token) :
    Option (Phrase × List Token) :=
  match fuel with
  | 0 => none
  | fuel + 1 => do
    push bottom 2
    match tokens with
    | token :: rest =>
      if token.isWord "IN" then
        match rest with
        | .symbol "(" :: .symbol ")" :: rest => do
          push bottom 5
          return (← left.membership [], rest)
        | .symbol "(" :: rest => do
          push bottom 3
          let (items, rest) ← readItems subject fuel (bottom + 3) rest
          push bottom 5
          return (← left.membership items, rest)
        | _ => none
      else if token.isWord "LIKE" then do
        let (wanted, rest) ← readExpr subject fuel orderLevel (bottom + 2) rest
        return (← left.like wanted, rest)
      else if token.isWord "BETWEEN" then do
        let (low, rest) ← readExpr subject fuel notLevel (bottom + 2) rest
        match rest with
        | next :: rest =>
          if next.isWord "AND" then
            push bottom 4
            let (high, rest) ← readExpr subject fuel orderLevel (bottom + 4) rest
            return (← left.range low high, rest)
          else none
        | [] => none
      else none
    | [] => none

/-- The conditions of a list up to its closing parenthesis; the first lies over `bottom`, each later one
over the list so far and a comma. -/
private def readItems (subject : Subject) (fuel bottom : Nat) (tokens : List Token) :
    Option (List Phrase × List Token) :=
  match fuel with
  | 0 => none
  | fuel + 1 => do
    let (item, rest) ← readExpr subject fuel orLevel bottom tokens
    readMoreItems subject fuel bottom [item] rest

/-- What follows an item of a list. -/
private def readMoreItems (subject : Subject) (fuel bottom : Nat) (items : List Phrase)
    (tokens : List Token) : Option (List Phrase × List Token) :=
  match fuel with
  | 0 => none
  | fuel + 1 =>
    match tokens with
    | .symbol ")" :: rest => return (items.reverse, rest)
    | .symbol "," :: rest => do
      push bottom 2
      let (item, rest) ← readExpr subject fuel orLevel (bottom + 2) rest
      readMoreItems subject fuel bottom (item :: items) rest
    | _ => none

end

/-- The condition that words make. -/
def Expr.ofTokens? (subject : Subject) (tokens : List Token) : Option Expr := do
  let tokens ← nameParameters tokens
  let (condition, rest) ← readExpr subject (6 * tokens.length + 6) orLevel conditionDepth tokens
  if rest = [] ∨ rest = [.symbol ";"] then condition.expr else none

end ChangeRouting.Condition
