import ChangeRouting.Gap.Basic

/-!
# ChangeRouting.Gap.Visibility

What is known about open transactions when a cycle starts, and when that is enough to give up an empty
gap.

A change id is given out when a change is made and shows up when its transaction commits, so an id that
is missing may still come.

* Where transactions do not show, a gap is given up once it is old enough.
* Where they show, a gap is given up when no transaction is open, or when the oldest open one began
  clearly after the ids of the gap were given out.  The row just below the gap tells when that was;
  without it, the gap itself does.
* Where they should show but do not, no gap is given up.
-/

namespace ChangeRouting

/-- What is known about open transactions. -/
inductive Visibility
  /-- Transactions do not show on this platform. -/
  | unsupported
  /-- The platform did not answer. -/
  | unavailable
  /-- When the oldest open transaction began, if one is open. -/
  | known (earliest : Option Millis)
  deriving DecidableEq, Repr

/-- How much later than the ids of a gap a transaction must have begun, to allow for clocks. -/
def edgeGrace : Int := 1000

/-- Whether an empty closed gap is given up.  `below` is when the row just below it was captured. -/
def Visibility.givesUp (visibility : Visibility) (staleAfter : Nat) (now : Millis) (gap : Gap)
    (below : Option Millis) : Bool :=
  match visibility with
  | .unavailable => false
  | .unsupported => staleAfter ≤ (gap.age now).toNat
  | .known none => true
  | .known (some earliest) => below.getD gap.createTime + edgeGrace ≤ earliest

end ChangeRouting
