/-!
# ChangeRouting.Number.Rounding

Numbers of limited precision as exact values: a natural number times a power of two.

* `nearest` is the quotient of two numbers, rounded to the nearer whole number and to the even one of
  two that are equally near.
* `Dyadic.rounded` keeps so many binary digits, and none below a least exponent.
* `Dyadic.inverse` is the reciprocal of a whole number with so many binary digits.
-/

namespace ChangeRouting

/-- The whole number nearest to `n / d`; of two equally near ones the even one. -/
def nearest (n d : Nat) : Nat :=
  let q := n / d
  let r := n % d
  if 2 * r < d ∨ (2 * r = d ∧ q % 2 = 0) then q else q + 1

/-- The rounded quotient is off by at most one half. -/
theorem nearest_near (n d : Nat) (hd : 0 < d) :
    2 * n ≤ 2 * (nearest n d * d) + d ∧ 2 * (nearest n d * d) ≤ 2 * n + d := by
  have hdiv := Nat.div_add_mod n d
  have hmod := Nat.mod_lt n hd
  have hmul : d * (n / d) = n / d * d := Nat.mul_comm _ _
  simp only [nearest]
  split
  · constructor <;> omega
  · rw [Nat.add_mul, Nat.one_mul]
    constructor <;> omega

/-- A whole quotient is not rounded. -/
theorem nearest_mul (n d : Nat) (hd : 0 < d) : nearest (n * d) d = n := by
  simp only [nearest, Nat.mul_mod_left, Nat.mul_div_cancel n hd]
  exact if_pos (Or.inl (by omega))

/-- The number of binary digits of a whole number. -/
def bitLength (n : Nat) : Nat := if n = 0 then 0 else n.log2 + 1

/-- The number `mantissa * 2 ^ exponent`. -/
structure Dyadic where
  mantissa : Nat
  exponent : Int
  deriving DecidableEq, Repr

namespace Dyadic

/-- A whole number. -/
def ofNat (n : Nat) : Dyadic := ⟨n, 0⟩

/-- The nearest number with at most `digits` binary digits and no exponent below `least`. -/
def rounded (digits : Nat) (least : Int) (x : Dyadic) : Dyadic :=
  let surplus := max ((bitLength x.mantissa : Int) - digits) (least - x.exponent)
  if surplus ≤ 0 then x else ⟨nearest x.mantissa (Nat.pow 2 surplus.toNat), x.exponent + surplus⟩

/-- The exact product. -/
def mul (x y : Dyadic) : Dyadic := ⟨x.mantissa * y.mantissa, x.exponent + y.exponent⟩

/-- The number with `digits` binary digits nearest to `1 / n`. -/
def inverse (digits n : Nat) : Dyadic :=
  let places := bitLength n - 1 + digits
  ⟨nearest (Nat.pow 2 places) n, -(places : Int)⟩

/-- The mantissa of the number when it is written with a lower exponent. -/
def scaledTo (x : Dyadic) (exponent : Int) : Nat :=
  x.mantissa * Nat.pow 2 (x.exponent - exponent).toNat

/-- The whole part. -/
def floor (x : Dyadic) : Nat :=
  if 0 ≤ x.exponent then x.scaledTo 0 else x.mantissa / Nat.pow 2 (-x.exponent).toNat

/-- Whether the number is whole. -/
def isWhole (x : Dyadic) : Bool :=
  0 ≤ x.exponent || x.mantissa % Nat.pow 2 (-x.exponent).toNat == 0

/-- Whether the number is at least a whole number. -/
def atLeast (x : Dyadic) (n : Nat) : Bool := n ≤ x.floor

end Dyadic

end ChangeRouting
