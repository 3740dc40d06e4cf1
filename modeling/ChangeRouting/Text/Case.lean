import ChangeRouting.Text.CaseTable
import ChangeRouting.Text.Range

/-!
# ChangeRouting.Text.Case

Capital and small forms of a text.

* `upper` maps each character on its own, so it commutes with concatenation; a character may become
  several, as the sharp s does.
* `lower` maps each character on its own but for the capital sigma, which takes its final form at
  the end of a word; `lower_append_underscore` — an underscore ends one.
-/

namespace ChangeRouting.Text

/-- The capital form of one character. -/
def upperChar (c : Char) : List Char :=
  if c.toNat < 128 then [c.toUpper]
  else
    match upperExpansions.find? (·.1 == c.toNat) with
    | some (_, ns) => ns.map Char.ofNat
    | none =>
      match upperRuns.find? (·.covers c.toNat) with
      | some run => [Char.ofNat (c.toNat + run.shift).toNat]
      | none => [c]

/-- The capital form of a text. -/
def upper (s : List Char) : List Char := s.flatMap upperChar

@[simp] theorem upper_nil : upper [] = [] := rfl

@[simp] theorem upper_append (s t : List Char) : upper (s ++ t) = upper s ++ upper t := by
  simp [upper]

/-- `upper` on strings. -/
def uppercase (s : String) : String := String.ofList (upper s.toList)

/-- The small form of one character outside the context of a word. -/
def lowerChar (c : Char) : List Char :=
  if c.toNat < 128 then [c.toLower]
  else
    match lowerExpansions.find? (·.1 == c.toNat) with
    | some (_, ns) => ns.map Char.ofNat
    | none =>
      match lowerRuns.find? (·.covers c.toNat) with
      | some run => [Char.ofNat (c.toNat + run.shift).toNat]
      | none => [c]

/-- Whether the nearest character that is not case-ignorable is a letter with case. -/
private def nextIsCased (s : List Char) : Bool :=
  match s.dropWhile (inRanges caseIgnorableRanges) with
  | [] => false
  | c :: _ => inRanges casedRanges c

/-- The small form of what follows `before`, which is held in reverse. -/
private def lowerFrom (before : List Char) : List Char → List Char
  | [] => []
  | c :: rest =>
    (if c = 'Σ' then [if nextIsCased before && !nextIsCased rest then 'ς' else 'σ']
      else lowerChar c) ++ lowerFrom (c :: before) rest

/-- The small form of a text. -/
def lower (s : List Char) : List Char := lowerFrom [] s

private theorem nextIsCased_append (s before : List Char) :
    nextIsCased (s ++ '_' :: before) = nextIsCased s := by
  have hstops : inRanges caseIgnorableRanges '_' = false := by decide +kernel
  have hplain : inRanges casedRanges '_' = false := by decide +kernel
  rw [nextIsCased, nextIsCased, List.dropWhile_append]
  cases s.dropWhile (inRanges caseIgnorableRanges) with
  | nil => simp [hstops, hplain]
  | cons c rest => rfl

private theorem lowerFrom_append (before earlier s : List Char) :
    lowerFrom (before ++ '_' :: earlier) s = lowerFrom before s := by
  induction s generalizing before with
  | nil => rfl
  | cons c s ih =>
    rw [lowerFrom, lowerFrom, nextIsCased_append, ← List.cons_append, ih]

/-- Words end at an underscore. -/
theorem lower_append_underscore (s t : List Char) : lower (s ++ '_' :: t) = lower s ++ '_' :: lower t := by
  have hfrom : ∀ before, lowerFrom before (s ++ '_' :: t) = lowerFrom before s ++ '_' :: lower t := by
    induction s with
    | nil =>
      intro before
      rw [List.nil_append, lowerFrom, lower, ← lowerFrom_append [] before t]
      rfl
    | cons c s ih =>
      intro before
      rw [List.cons_append, lowerFrom, lowerFrom, nextIsCased_append, ih, List.append_assoc]
  exact hfrom []

/-- `lower` on strings. -/
def lowercase (s : String) : String := String.ofList (lower s.toList)

end ChangeRouting.Text
