import ChangeRouting.Number.Reading

/-!
# ChangeRouting.Number.Printing

Numbers as texts.

A whole number is written with all its digits.  A number of double precision is written with fifteen
significant digits and without zeros at the end, but with at least one digit behind the point; from
`1e15` on and below `1e-4` it is written with an exponent.
-/

namespace ChangeRouting

namespace Double

/-- The significant digits that are written. -/
def shownDigits : Nat := 15

private def le (x y : Dyadic) : Bool :=
  (Number.double (.finite false x)).cmp (.double (.finite false y)) ≠ .gt

/-- Shrink a number by a power of ten while it is at least `bound`, and count the powers. -/
private def shrink (bound : Dyadic) (power : Nat) : Nat → Dyadic × Int → Dyadic × Int
  | 0, state => state
  | fuel + 1, (x, exponent) =>
    if le bound x then shrink bound power fuel (Dyadic.scaleBy (.tenthTo power) x, exponent + power)
    else (x, exponent)

/-- Grow a number by a power of ten while it is below `bound`, and count the powers. -/
private def grow (bound : Dyadic) (power : Nat) : Nat → Dyadic × Int → Dyadic × Int
  | 0, state => state
  | fuel + 1, (x, exponent) =>
    if le bound x then (x, exponent)
    else grow bound power fuel (Dyadic.scaleBy (.tenTo power) x, exponent - power)

/-- The number as a whole number of eighteen or nineteen digits and a power of ten. -/
private def scaled (x : Dyadic) : Nat × Int :=
  let (x, exponent) :=
    if le (.tenTo 19) x then
      shrink (.tenTo 19) 1 12 (shrink (.tenTo 29) 10 12 (shrink (.tenTo 119) 100 4 (x, 0)))
    else grow (.tenTo 17) 1 12 (grow (.tenTo 7) 10 12 (grow (.tenthTo 97) 100 4 (x, 0)))
  (x.floor, exponent)

/-- The significant digits of a number, without zeros at the end, and the place of the point among
them. -/
private def significant (x : Dyadic) : List Char × Int :=
  let (n, exponent) := scaled x
  let count := (Nat.toDigits 10 n).length
  let rest := Nat.pow 10 (count - shownDigits)
  let kept := n / rest
  let kept := if 5 ≤ n % rest * 10 / rest then kept + 1 else kept
  let digits := Nat.toDigits 10 kept
  (((digits.reverse.dropWhile (· = '0')).reverse), exponent + (count - shownDigits : Nat) + digits.length)

private def zeros (n : Nat) : List Char := List.replicate n '0'

private def orZero (digits : List Char) : List Char := if digits.isEmpty then ['0'] else digits

/-- The exponent with its sign and at least two digits. -/
private def exponentText (n : Int) : List Char :=
  let digits := Nat.toDigits 10 n.natAbs
  (if n < 0 then '-' else '+') :: (zeros (2 - digits.length) ++ digits)

/-- A positive number. -/
private def sizeText (x : Dyadic) : List Char :=
  if x.mantissa = 0 then "0.0".toList
  else
    let (digits, point) := significant x
    if point - 1 < -4 ∨ (shownDigits : Int) ≤ point - 1 then
      digits.take 1 ++ '.' :: (orZero (digits.drop 1) ++ 'e' :: exponentText (point - 1))
    else if point ≤ 0 then '0' :: '.' :: (zeros (-point).toNat ++ digits)
    else
      let whole := point.toNat
      digits.take whole ++ zeros (whole - digits.length) ++ '.' :: orZero (digits.drop whole)

/-- The text of a number of double precision. -/
def text : Double → String
  | .infinite negative => if negative then "-Inf" else "Inf"
  | .finite negative size =>
    String.ofList (if negative ∧ size.mantissa ≠ 0 then '-' :: sizeText size else sizeText size)

end Double

/-- The text of a number. -/
def Number.text : Number → String
  | .whole n => toString n
  | .double x => x.text

end ChangeRouting
