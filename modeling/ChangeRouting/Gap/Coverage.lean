/-!
# ChangeRouting.Gap.Coverage

What the passes of one cycle confirmed, channel by channel.

* A pass that committed confirms the rows of its channel up to its reach.
* A pass that failed confirms none.
* Rows of a channel for which no pass ran are none of this node's business and count as confirmed.
-/

namespace ChangeRouting

/-- How far the pass on a channel got. -/
inductive Reach
  /-- Every id of the channel up to this one was examined. -/
  | through (id : Int)
  /-- The pass was taken back. -/
  | failed
  deriving DecidableEq, Repr

/-- What the passes of one cycle confirmed; the latest word on a channel counts. -/
structure Coverage where
  entries : List (String × Reach)
  deriving DecidableEq, Repr

namespace Coverage

/-- No pass has run. -/
def empty : Coverage := ⟨[]⟩

/-- Record how far a pass got. -/
def record (coverage : Coverage) (channel : String) (reach : Reach) : Coverage :=
  ⟨(channel, reach) :: coverage.entries⟩

/-- How far the pass on a channel got, if one ran. -/
def reach? (coverage : Coverage) (channel : String) : Option Reach :=
  (coverage.entries.find? (·.1 = channel)).map (·.2)

/-- Whether a row no longer needs a gap around it. -/
def confirms (coverage : Coverage) (channel : String) (id : Int) : Bool :=
  match coverage.reach? channel with
  | none => true
  | some (.through last) => id ≤ last
  | some .failed => false

/-- Recording a pass changes what is known about its channel and about no other. -/
theorem reach?_record (coverage : Coverage) (channel other : String) (reach : Reach) :
    (coverage.record channel reach).reach? other =
      if channel = other then some reach else coverage.reach? other := by
  by_cases h : channel = other <;> simp [record, reach?, h]

end Coverage

end ChangeRouting
