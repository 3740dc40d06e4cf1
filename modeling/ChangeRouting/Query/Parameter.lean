import ChangeRouting.Query.Token

/-!
# ChangeRouting.Query.Parameter

The parameters of a query, by number.

* A bare question mark takes the next number and gives it no name; a question mark with digits takes the
  number it says; any other parameter shares the number of an earlier one of its name, and otherwise
  takes the next.
* What a parameter is bound to depends on the name its number got first, so two parameters of one number
  are the same parameter.
-/

namespace ChangeRouting.Query

/-- The numbers given out so far, and the names they got, the oldest first. -/
structure Numbering where
  last : Nat
  names : List (Nat × String)
  deriving DecidableEq, Repr

namespace Numbering

/-- No parameter has a higher number. -/
def greatest : Nat := 32766

/-- No numbers. -/
def empty : Numbering := ⟨0, []⟩

/-- The name that a number got first. -/
def name? (numbering : Numbering) (number : Nat) : Option String := numbering.names.lookup number

private def named (numbering : Numbering) (number : Nat) (name : String) : Numbering :=
  ⟨max numbering.last number, numbering.names ++ [(number, name)]⟩

/-- The number of a parameter, and the numbers given out after it. -/
def assign (numbering : Numbering) (name : String) : Option (Nat × Numbering) :=
  let next := numbering.last + 1
  let (number, after) :=
    match name.toList with
    | [] => (next, { numbering with last := next })
    | '?' :: digits =>
      let number := digits.foldl (fun n c => n * 10 + (c.toNat - 48)) 0
      if (numbering.name? number).isSome then (number, numbering)
      else (number, numbering.named number name)
    | _ =>
      match numbering.names.find? (·.2 = name) with
      | some (number, _) => (number, numbering)
      | none => (next, numbering.named next name)
  if 0 < number ∧ number ≤ greatest then some (number, after) else none

end Numbering

/-- The parameters among words, by number, and the numbers given out. -/
private def numberParameters : List Token → Numbering → Option (List (Option Nat) × Numbering)
  | [], numbering => some ([], numbering)
  | .parameter name :: rest, numbering => do
    let (number, numbering) ← numbering.assign name
    let (numbers, numbering) ← numberParameters rest numbering
    return (some number :: numbers, numbering)
  | _ :: rest, numbering => do
    let (numbers, numbering) ← numberParameters rest numbering
    return (none :: numbers, numbering)

/-- Give each parameter the name its number got first; one without a name has the empty name. -/
def nameParameters (tokens : List Token) : Option (List Token) := do
  let (numbers, numbering) ← numberParameters tokens .empty
  return List.zipWith (fun token number? =>
    match number? with
    | some number => .parameter ((numbering.name? number).getD "")
    | none => token) tokens numbers

end ChangeRouting.Query
