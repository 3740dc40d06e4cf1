import ChangeRouting.Fault
import ChangeRouting.Text.Quote

/-!
# ChangeRouting.Selection.Scope

What the routers of one pass share: a cache, and the actions to take once the pass is committed.

* The cache holds entries of several kinds under names.  An entry of another kind than asked for counts
  as absent, and writing an entry replaces whatever the name held.
* A value that could not be computed is not cached.
* An action is pending at most once under its name; the first one registered stays.
-/

namespace ChangeRouting

/-! ## pending actions -/

/-- Actions to take after a commit, by name, in the order they were registered. -/
structure Hooks (action : Type) where
  pending : List (String × action)

namespace Hooks

/-- No actions. -/
def empty : Hooks action := ⟨[]⟩

/-- The names of the pending actions. -/
def keys (hooks : Hooks action) : List String := hooks.pending.map (·.1)

/-- Whether an action is pending under a name. -/
def has (hooks : Hooks action) (key : String) : Bool := key ∈ hooks.keys

/-- Register an action unless its name is taken. -/
def register (hooks : Hooks action) (key : String) (act : action) : Hooks action :=
  if hooks.has key then hooks else ⟨hooks.pending ++ [(key, act)]⟩

/-- Take over the actions of another set. -/
def absorb (hooks other : Hooks action) : Hooks action :=
  other.pending.foldl (fun hooks (key, act) => hooks.register key act) hooks

/-- The pending actions by name, in one line. -/
def describe (hooks : Hooks action) : String :=
  "PostCommitHooks \x7b keys: " ++ Text.quotedList hooks.keys ++ " \x7d"

end Hooks

/-! ## the scope of a pass -/

/-- What the routers of one pass share. -/
structure Scope (entry action : Type) where
  /-- The node that does the routing. -/
  node : String
  group : String
  channel : String
  cache : List (String × entry)
  hooks : Hooks action

namespace Scope

variable {entry action : Type}

/-- The scope a pass starts with. -/
def new (node group channel : String) : Scope entry action := ⟨node, group, channel, [], .empty⟩

/-- The entry under a name. -/
def lookup? (scope : Scope entry action) (key : String) : Option entry :=
  (scope.cache.find? (·.1 = key)).map (·.2)

private def place (key : String) (value : entry) : List (String × entry) → List (String × entry)
  | [] => [(key, value)]
  | other :: rest => if other.1 = key then (key, value) :: rest else other :: place key value rest

/-- Put an entry under a name. -/
def put (scope : Scope entry action) (key : String) (value : entry) : Scope entry action :=
  { scope with cache := place key value scope.cache }

private theorem find?_place (key other : String) (value : entry) (cache : List (String × entry)) :
    ((place key value cache).find? (·.1 = other)).map (·.2) =
      if other = key then some value else (cache.find? (·.1 = other)).map (·.2) := by
  induction cache with
  | nil => by_cases hother : key = other <;> simp [place, hother, eq_comm]
  | cons held cache ih =>
      rw [place]
      by_cases hheld : held.1 = key
      · by_cases hother : key = other <;> simp [hheld, hother, eq_comm]
      · rw [if_neg hheld, List.find?_cons, List.find?_cons]
        by_cases hsame : held.1 = other
        · have hother : other ≠ key := fun heq => hheld (hsame.trans heq)
          simp [hsame, hother]
        · simp only [hsame, decide_false, ih]

/-- The name holds the entry, other names what they held. -/
theorem lookup?_put (scope : Scope entry action) (key other : String) (value : entry) :
    (scope.put key value).lookup? other = if other = key then some value else scope.lookup? other :=
  find?_place key other value scope.cache

/-- Register an action to take once the pass is committed. -/
def register (scope : Scope entry action) (key : String) (act : action) : Scope entry action :=
  { scope with hooks := scope.hooks.register key act }

end Scope

/-- Work within the scope of a pass; what it cached before it failed stays. -/
abbrev Scoped (entry action : Type) := ExceptT Fault (StateM (Scope entry action))

/-- The value under a name, computed and cached when there is none of this kind.  `kind` is how values
of the kind are kept as entries, `kind?` how they are recognised. -/
def Scoped.cached (key : String) (kind : α → entry) (kind? : entry → Option α)
    (compute : Unit → Except Fault α) : Scoped entry action α := do
  match ((← get).lookup? key).bind kind? with
  | some value => return value
  | none =>
    let value ← liftExcept (compute ())
    modify (·.put key (kind value))
    return value
where
  /-- A computation outside the scope. -/
  liftExcept (outcome : Except Fault α) : Scoped entry action α := ExceptT.mk (pure outcome)

end ChangeRouting
