/-!
# ChangeRouting.Text.Range

Sets of characters as ranges of code points.
-/

namespace ChangeRouting.Text

/-- Whether a character lies in one of the ranges; a range holds both its ends. -/
def inRanges (ranges : List (Nat × Nat)) (c : Char) : Bool :=
  ranges.any fun (first, last) => first ≤ c.toNat && c.toNat ≤ last

@[simp] theorem inRanges_nil (c : Char) : inRanges [] c = false := rfl

/-- A character lies in the union of two sets when it lies in one of them. -/
theorem inRanges_append (a b : List (Nat × Nat)) (c : Char) :
    inRanges (a ++ b) c = (inRanges a c || inRanges b c) := by
  simp [inRanges, List.any_append]

end ChangeRouting.Text
