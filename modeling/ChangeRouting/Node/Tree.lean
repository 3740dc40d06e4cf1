import ChangeRouting.Node.Basic

/-!
# ChangeRouting.Node.Tree

The registration tree: which node was registered by which.

The node table may hold anything, parents that are no nodes and cycles included.  A node that is its
own parent counts as a root, and the walk upwards ends when it comes to a node a second time.
-/

namespace ChangeRouting

/-- The registration tree, as pairs of a node and its parent. -/
structure NodeTree where
  entries : List (String × String)
  deriving DecidableEq, Repr

namespace NodeTree

/-- The tree of a list of nodes; a parent that is named later takes the place of an earlier one. -/
def ofNodes (nodes : List Node) : NodeTree where
  entries := nodes.reverse.filterMap fun node =>
    match node.parent with
    | some parent => if parent = node.id then none else some (node.id, parent)
    | none => none

/-- The parent of a node. -/
def parent? (tree : NodeTree) (id : String) : Option String :=
  (tree.entries.find? (·.1 = id)).map (·.2)

private theorem countP_cons_lt {entries : List (String × String)} {p : String} {seen : List String}
    (mem : ∃ e ∈ entries, e.2 = p) (new : p ∉ seen) :
    entries.countP (·.2 ∉ p :: seen) < entries.countP (·.2 ∉ seen) := by
  have le (l : List (String × String)) : l.countP (·.2 ∉ p :: seen) ≤ l.countP (·.2 ∉ seen) :=
    List.countP_mono_left fun e _ h => by simp_all
  obtain ⟨e, he, rfl⟩ := mem
  obtain ⟨before, after, rfl⟩ := List.append_of_mem he
  have h₁ := le before
  have h₂ := le after
  have seenNow : decide (e.2 ∉ e.2 :: seen) = false := by simp
  have unseen : decide (e.2 ∉ seen) = true := by simpa using new
  simp only [List.countP_append, List.countP_cons, seenNow, unseen, Bool.false_eq_true, ↓reduceIte]
  omega

private theorem exists_of_parent? {tree : NodeTree} {id p : String} (h : tree.parent? id = some p) :
    ∃ e ∈ tree.entries, e.2 = p := by
  obtain ⟨e, found, rfl⟩ := Option.map_eq_some_iff.1 h
  exact ⟨e, List.mem_of_find?_eq_some found, rfl⟩

/-- The nodes above a node that the walk has not seen, nearest first.  Every step sees one more of the
parents in the tree. -/
def ancestorsFrom (tree : NodeTree) (seen : List String) (id : String) : List String :=
  match _found : tree.parent? id with
  | none => []
  | some p => if p ∈ seen then [] else p :: tree.ancestorsFrom (p :: seen) p
termination_by tree.entries.countP (·.2 ∉ seen)
decreasing_by exact countP_cons_lt (exists_of_parent? ‹_›) ‹_›

/-- The nodes above a node, nearest first. -/
def ancestors (tree : NodeTree) (id : String) : List String := tree.ancestorsFrom [id] id

/-- The number of nodes above a node. -/
def depth (tree : NodeTree) (id : String) : Nat := (tree.ancestors id).length

end NodeTree

end ChangeRouting
