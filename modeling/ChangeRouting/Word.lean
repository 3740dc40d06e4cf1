/-!
# ChangeRouting.Word

Words of 64 bits, in which ids, times and sums are kept.  What does not fit wraps around.
-/

namespace ChangeRouting

/-- The number of words. -/
def wordCount : Nat := 18446744073709551616

/-- An integer as a word with sign. -/
def word (n : Int) : Int := n.bmod wordCount

/-- A number as a word without sign. -/
def plainWord (n : Nat) : Nat := n % wordCount

/-- A word with sign is itself. -/
theorem word_of_mem {n : Int} (h : -9223372036854775808 ≤ n ∧ n ≤ 9223372036854775807) :
    word n = n := by
  rw [word, wordCount, Int.bmod_def]
  split <;> omega

/-- A word without sign is itself. -/
theorem plainWord_of_lt {n : Nat} (h : n < wordCount) : plainWord n = n := Nat.mod_eq_of_lt h

end ChangeRouting
