/-!
# ChangeRouting.Batch.Boundary

Where a batch ends.

* `nontransactional` cuts at the nominal size, wherever that falls.
* `default` cuts at the nominal size or later, but only between two transactions.
* `transactional` cuts between any two transactions.

A change without a transaction is cut by size alone, whatever the policy.
-/

namespace ChangeRouting

/-- The policy by which a channel ends its batches. -/
inductive BatchPolicy
  | default
  | transactional
  | nontransactional
  deriving DecidableEq, Repr

namespace BatchPolicy

/-- The name of the policy in a configuration. -/
def name : BatchPolicy → String
  | default => "default"
  | transactional => "transactional"
  | nontransactional => "nontransactional"

/-- Whether a batch of `count` events whose last change belongs to transaction `last` ends before a
change of transaction `next`, at nominal size `size`. -/
def cuts (policy : BatchPolicy) (size count : Nat) (last next : Option String) : Bool :=
  match policy, next with
  | .nontransactional, _ | _, none => size ≤ count
  | .default, some _ => size ≤ count && last ≠ next
  | .transactional, some _ => 0 < count && last ≠ next

end BatchPolicy

end ChangeRouting
