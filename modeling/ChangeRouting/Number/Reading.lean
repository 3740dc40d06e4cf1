import ChangeRouting.Number.Basic

/-!
# ChangeRouting.Number.Reading

Texts as numbers.

* `Number.ofText?` reads a text that is a number from end to end, blanks around it aside.  A number
  without point and exponent is exact as far as 64 bits go.
* `Number.isLeadingNonzero` tells whether the number a text starts with differs from zero, which is how
  a text counts as a truth value.
* Any other number is rounded twice: the first nineteen or twenty digits are scaled by the power of ten
  with a precision of 64 binary digits, step by step, and the result is rounded to double precision.
-/

namespace ChangeRouting

/-! ## scaling by powers of ten -/

namespace Dyadic

/-- The binary digits that scaling works with. -/
def workingDigits : Nat := 64

/-- The product in working precision; no exponent is too small for it. -/
def scaleBy (factor x : Dyadic) : Dyadic :=
  let product := x.mul factor
  product.rounded workingDigits product.exponent

/-- A power of ten in working precision. -/
def tenTo (n : Nat) : Dyadic := (ofNat (Nat.pow 10 n)).rounded workingDigits 0

/-- The reciprocal of a power of ten in working precision. -/
def tenthTo (n : Nat) : Dyadic := inverse workingDigits (Nat.pow 10 n)

/-- Apply a step so many times. -/
private def times (step : Dyadic → Dyadic) : Nat → Dyadic → Dyadic
  | 0, x => x
  | n + 1, x => times step n (step x)

/-- The number times `10 ^ exponent`, by steps of a hundred, ten and one power of ten. -/
def shiftedTen (x : Dyadic) (exponent : Int) : Dyadic :=
  let power := if exponent < 0 then tenthTo else tenTo
  let n := exponent.natAbs
  times (scaleBy (power 1)) (n % 10)
    (times (scaleBy (power 10)) (n % 100 / 10) (times (scaleBy (power 100)) (n / 100) x))

end Dyadic

/-! ## numerals -/

/-- A number as it is written: `digits * 10 ^ exponent`. -/
structure Numeral where
  negative : Bool
  /-- The leading digits; what is beyond them is dropped. -/
  digits : Nat
  exponent : Int
  /-- All digits, when neither a point nor an exponent is written. -/
  whole : Option Nat
  deriving DecidableEq, Repr

namespace Numeral

/-- The size at which no more digits are gathered. -/
def enough : Nat := 1844674407370955160

private def digitOf (c : Char) : Nat := c.toNat - 48

/-- Digits before the point: those beyond `enough` only count. -/
private def gatherWhole (digits : List Char) : Nat × Int :=
  digits.foldl (fun (n, dropped) c =>
    if n < enough then (n * 10 + digitOf c, dropped) else (n, dropped + 1)) (0, 0)

/-- Digits behind the point: those beyond `enough` are ignored. -/
private def gatherPlaces (start : Nat × Int) (digits : List Char) : Nat × Int :=
  digits.foldl (fun (n, exponent) c =>
    if n < enough then (n * 10 + digitOf c, exponent - 1) else (n, exponent)) start

/-- Move powers of ten into the digits while they are few. -/
private def widened : Nat → Nat → Int → Nat × Int
  | 0, n, exponent => (n, exponent)
  | fuel + 1, n, exponent =>
    if 0 < exponent ∧ n < enough + 1 then widened fuel (n * 10) (exponent - 1) else (n, exponent)

/-- Move zeros at the end of the digits into the power of ten. -/
private def narrowed : Nat → Nat → Int → Nat × Int
  | 0, n, exponent => (n, exponent)
  | fuel + 1, n, exponent =>
    if exponent < 0 ∧ n % 10 = 0 then narrowed fuel (n / 10) (exponent + 1) else (n, exponent)

/-- The number of double precision a numeral stands for. -/
def value (numeral : Numeral) : Double :=
  if numeral.digits = 0 then .finite numeral.negative (.ofNat 0)
  else
    let (n, exponent) := widened 20 numeral.digits numeral.exponent
    let (n, exponent) := narrowed 20 n exponent
    let size := (Dyadic.ofNat n).shiftedTen exponent
    if (Number.double (.finite false size)).cmp (.double (.finite false Double.greatest)) = .gt then
      .infinite numeral.negative
    else .finite numeral.negative (size.rounded Double.digits Double.leastExponent)

/-- The numeral of a whole number. -/
def ofNat (n : Nat) : Numeral :=
  let (digits, exponent) := gatherWhole (Nat.toDigits 10 n)
  ⟨false, digits, exponent, some n⟩

/-! ## reading -/

/-- The blanks that may stand around a number. -/
def isSpace (c : Char) : Bool := c.toNat = 32 || (9 ≤ c.toNat && c.toNat ≤ 13)

/-- A sign, if there is one, and what follows. -/
private def readSign : List Char → Bool × List Char
  | '-' :: rest => (true, rest)
  | '+' :: rest => (false, rest)
  | rest => (false, rest)

/-- The exponent that digits write; far out it is no longer told apart. -/
private def exponentValue (digits : List Char) : Int :=
  digits.foldl (fun n c => if n < 10000 then n * 10 + digitOf c else 10000) (0 : Int)

/-- An exponent, whether it is well formed, and what follows it; none is an exponent of zero. -/
private def readExponent : List Char → Int × Bool × List Char
  | c :: rest =>
    if c = 'e' ∨ c = 'E' then
      let (negative, body) := readSign rest
      let digits := body.takeWhile Char.isDigit
      let n := exponentValue digits
      (if negative then -n else n, !digits.isEmpty, body.dropWhile Char.isDigit)
    else (0, true, c :: rest)
  | [] => (0, true, [])

/-- The numeral a text starts with, and whether the text is that number from end to end.  A text that
starts with no digit is no number. -/
def read (s : List Char) : Option (Numeral × Bool) :=
  let (negative, body) := readSign (s.dropWhile isSpace)
  let whole := body.takeWhile Char.isDigit
  let afterWhole := body.dropWhile Char.isDigit
  let (places, pointed, rest) :=
    match afterWhole with
    | '.' :: tail => (tail.takeWhile Char.isDigit, true, tail.dropWhile Char.isDigit)
    | _ => ([], false, afterWhole)
  let (exponent, formed, after) := readExponent rest
  if whole.isEmpty && places.isEmpty then none
  else
    let (digits, shift) := gatherPlaces (gatherWhole whole) places
    let exact :=
      if pointed || after.length < rest.length then none
      else some (whole.foldl (fun n c => n * 10 + digitOf c) 0)
    some (⟨negative, digits, exponent + shift, exact⟩, formed && after.all isSpace)

end Numeral

namespace Number

/-- A whole number, exact as far as 64 bits go. -/
def ofInt (n : Int) : Number :=
  if leastWhole ≤ n ∧ n ≤ greatestWhole then .whole n
  else
    let x := (Numeral.ofNat n.natAbs).value
    .double (if n < 0 then x.neg else x)

/-- The number a whole text stands for. -/
def ofText? (s : String) : Option Number :=
  match Numeral.read s.toList with
  | some (numeral, true) =>
    match numeral.whole with
    | some n =>
      let n : Int := if numeral.negative then -(n : Int) else n
      if leastWhole ≤ n ∧ n ≤ greatestWhole then some (.whole n) else some (.double numeral.value)
    | none => some (.double numeral.value)
  | _ => none

/-- Whether the number a text starts with differs from zero; a text that starts with none counts as
zero. -/
def isLeadingNonzero (s : String) : Bool :=
  match Numeral.read s.toList with
  | some (numeral, _) => !numeral.value.isZero
  | none => false

end Number

end ChangeRouting
