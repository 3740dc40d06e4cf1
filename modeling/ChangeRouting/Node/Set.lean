import ChangeRouting.Node.Basic

/-!
# ChangeRouting.Node.Set

Finite sets of node ids, kept in ascending order without repetition, so that equal sets are equal
values and a walk over a set has one order.
-/

namespace ChangeRouting

/-- A set of node ids. -/
structure NodeSet where
  ids : List String
  ascending : ids.Pairwise (· < ·)
  deriving DecidableEq

namespace NodeSet

instance : Membership String NodeSet := ⟨fun set id => id ∈ set.ids⟩

theorem mem_def {set : NodeSet} {id : String} : id ∈ set ↔ id ∈ set.ids := Iff.rfl

instance (set : NodeSet) (id : String) : Decidable (id ∈ set) := inferInstanceAs (Decidable (id ∈ set.ids))

/-- No nodes. -/
def empty : NodeSet := ⟨[], .nil⟩

instance : EmptyCollection NodeSet := ⟨empty⟩

@[simp] theorem not_mem_empty (id : String) : id ∉ (∅ : NodeSet) := List.not_mem_nil

/-- Whether the set holds no node. -/
def isEmpty (set : NodeSet) : Bool := set.ids.isEmpty

private def place (id : String) : List String → List String
  | [] => [id]
  | other :: rest =>
    if id < other then id :: other :: rest
    else if id = other then other :: rest
    else other :: place id rest

private theorem mem_place {id x : String} {ids : List String} :
    x ∈ place id ids ↔ x = id ∨ x ∈ ids := by
  induction ids with
  | nil => simp [place]
  | cons other rest ih => rw [place]; grind

private theorem ascending_place {id : String} {ids : List String} (h : ids.Pairwise (· < ·)) :
    (place id ids).Pairwise (· < ·) := by
  induction ids with
  | nil => simp [place]
  | cons other rest ih =>
    obtain ⟨first, others⟩ := List.pairwise_cons.1 h
    rw [place]
    split
    next lt =>
      refine List.pairwise_cons.2 ⟨fun x hx => ?_, h⟩
      rcases List.mem_cons.1 hx with rfl | hx
      · exact lt
      · exact String.lt_trans lt (first x hx)
    next not_lt =>
      split
      next => exact h
      next ne =>
        refine List.pairwise_cons.2 ⟨fun x hx => ?_, ih others⟩
        rcases mem_place.1 hx with rfl | hx
        · exact Decidable.byContradiction fun not_gt =>
            ne (String.le_antisymm (String.not_lt.1 not_gt) (String.not_lt.1 not_lt))
        · exact first x hx

/-- The set with one more node. -/
def insert (set : NodeSet) (id : String) : NodeSet := ⟨place id set.ids, ascending_place set.ascending⟩

@[simp] theorem mem_insert {set : NodeSet} {id x : String} :
    x ∈ set.insert id ↔ x = id ∨ x ∈ set := mem_place

/-- The set of the listed nodes. -/
def ofList (ids : List String) : NodeSet := ids.foldl insert ∅

private theorem mem_foldl_insert {ids : List String} {set : NodeSet} {x : String} :
    x ∈ ids.foldl insert set ↔ x ∈ ids ∨ x ∈ set := by
  induction ids generalizing set with
  | nil => simp
  | cons id rest ih => simp only [List.foldl_cons, ih, mem_insert, List.mem_cons]; grind

@[simp] theorem mem_ofList {ids : List String} {x : String} : x ∈ ofList ids ↔ x ∈ ids := by
  simp [ofList, mem_foldl_insert]

/-- The nodes of either set. -/
def union (a b : NodeSet) : NodeSet := b.ids.foldl insert a

instance : Union NodeSet := ⟨union⟩

@[simp] theorem mem_union {a b : NodeSet} {x : String} : x ∈ a ∪ b ↔ x ∈ a ∨ x ∈ b := by
  show x ∈ b.ids.foldl insert a ↔ x ∈ a ∨ x ∈ b.ids
  rw [mem_foldl_insert, or_comm]

end NodeSet

/-- What one router decides for one change: the nodes it selects, none when it leaves the change
unrouted. -/
structure Decision where
  router : String
  nodes : NodeSet
  deriving DecidableEq

end ChangeRouting
