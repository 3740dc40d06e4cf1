import ChangeRouting.Number.Rounding

/-!
# ChangeRouting.Number.Basic

Numbers as the store and conditions see them: whole numbers of 64 bits, which are exact, and numbers of
double precision.

Numbers of the two kinds compare by their exact values, so no order depends on how a number is kept.
-/

namespace ChangeRouting

/-- A number of double precision. -/
inductive Double
  | finite (negative : Bool) (size : Dyadic)
  | infinite (negative : Bool)
  deriving DecidableEq, Repr

namespace Double

/-- The binary digits a number of double precision has. -/
def digits : Nat := 53

/-- The least exponent of a number of double precision. -/
def leastExponent : Int := -1074

/-- The greatest finite size. -/
def greatest : Dyadic := ⟨9007199254740991, 971⟩

/-- The number with its sign turned around. -/
def neg : Double → Double
  | .finite negative size => .finite (!negative) size
  | .infinite negative => .infinite (!negative)

/-- Whether the number is zero of either sign. -/
def isZero : Double → Bool
  | .finite _ size => size.mantissa = 0
  | .infinite _ => false

end Double

/-- A number. -/
inductive Number
  | whole (n : Int)
  | double (x : Double)
  deriving DecidableEq, Repr

namespace Number

/-- The least whole number that is kept exactly. -/
def leastWhole : Int := -9223372036854775808

/-- The greatest whole number that is kept exactly. -/
def greatestWhole : Int := 9223372036854775807

/-- The exact value as a mantissa and a binary exponent; an infinite number has none. -/
def parts? : Number → Option (Int × Int)
  | .whole n => some (n, 0)
  | .double (.finite negative size) =>
    some (if negative then -(size.mantissa : Int) else size.mantissa, size.exponent)
  | .double (.infinite _) => none

/-- Where an infinite number lies beside all finite ones. -/
private def side : Number → Int
  | .double (.infinite negative) => if negative then -1 else 1
  | _ => 0

/-- The order of the exact values. -/
def cmp (a b : Number) : Ordering :=
  match a.parts?, b.parts? with
  | some (m, e), some (n, f) =>
    let low := min e f
    compare (m * Int.ofNat (Nat.pow 2 (e - low).toNat)) (n * Int.ofNat (Nat.pow 2 (f - low).toNat))
  | _, _ => compare a.side b.side

/-- Whole numbers have the order of the integers. -/
@[simp] theorem cmp_whole (m n : Int) : cmp (.whole m) (.whole n) = compare m n := by
  simp [cmp, parts?]

/-- Whether the number is zero. -/
def isZero : Number → Bool
  | .whole n => n = 0
  | .double x => x.isZero

/-- The number with its sign turned around. -/
def neg : Number → Number
  | .whole n => .whole (-n)
  | .double x => .double x.neg

/-- The whole number of 64 bits that equals this number, if there is one.  Of the numbers of double
precision, those at either end of the range count as none. -/
def whole? : Number → Option Int
  | .whole n => some n
  | .double (.finite negative size) =>
    if size.isWhole then
      let n : Int := if negative then -(size.floor : Int) else size.floor
      if leastWhole < n ∧ n < greatestWhole then some n else none
    else none
  | .double (.infinite _) => none

end Number

end ChangeRouting
