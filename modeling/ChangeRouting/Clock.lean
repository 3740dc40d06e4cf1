/-!
# ChangeRouting.Clock

Points in time, in milliseconds since the start of 1970.

The calendar covers the years -262143 to 262142; a stored number outside of it counts as the start of
1970, so every time this library handles can be written as a date.
-/

namespace ChangeRouting

/-- Milliseconds since the start of 1970. -/
abbrev Millis := Int

namespace Millis

/-- The first millisecond of the calendar. -/
def first : Millis := -8334601228800000

/-- The last millisecond of the calendar. -/
def last : Millis := 8210266876799999

/-- The time a stored number stands for. -/
def ofStored (n : Int) : Millis := if first ≤ n ∧ n ≤ last then n else 0

theorem ofStored_of_mem {n : Int} (h : first ≤ n ∧ n ≤ last) : ofStored n = n := if_pos h

/-- What is read back lies in the calendar. -/
theorem ofStored_mem (n : Int) : first ≤ ofStored n ∧ ofStored n ≤ last := by
  unfold ofStored
  split
  · assumption
  · decide

end Millis

end ChangeRouting
