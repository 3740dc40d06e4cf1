import ChangeRouting.Node.Tree
import Mathlib.Data.List.Basic
import Mathlib.Data.Set.Card
import Mathlib.Logic.Relation

/-!
# ChangeRouting.Proofs.Node.Tree

The walk up the registration tree, on any node table.

A node that is its own parent counts as a root, and so the tree leaves out what leads from a node to itself;
cycles of several nodes stay in it.  The walk ends at a root, at a parent that is no node, or where it would
come to a node a second time.

* `RegisteredBy`, `IsAbove` — which nodes are above a node, as the node table has it;
* `parent?_ofNodes_iff` — the parent of a node in the tree;
* `mem_ancestorsFrom_iff` — where the walk ends, it has been to every node there is above its start;
* `isChain_ancestorsFrom`, `nodup_ancestorsFrom` — it goes from each node to its parent, and to no node twice;
* `mem_ancestors_iff`, `depth_eq` — so the walk finds the nodes above its start, and their number.
-/

namespace ChangeRouting

open Relation (TransGen ReflTransGen)

/-- A node was registered by another one. -/
def RegisteredBy (nodes : List Node) (id parent : String) : Prop :=
  ∃ node ∈ nodes, node.id = id ∧ node.parent = some parent

/-- One or more steps to a parent lead from a node to another one, which is above it. -/
def IsAbove (nodes : List Node) (upper id : String) : Prop :=
  TransGen (RegisteredBy nodes) id upper ∧ upper ≠ id

namespace NodeTree

/-! ## the walk -/

section walk

variable {tree : NodeTree} {seen : List String} {id other : String}

/-- The parent of a node in the tree. -/
def Up (tree : NodeTree) (id parent : String) : Prop := tree.parent? id = some parent

theorem ancestorsFrom_of_root (h : tree.parent? id = none) : tree.ancestorsFrom seen id = [] := by
  rw [ancestorsFrom]
  split
  · rfl
  · next parent hparent =>
    rw [h] at hparent
    contradiction

theorem ancestorsFrom_of_up {parent : String} (h : tree.Up id parent) :
    tree.ancestorsFrom seen id =
      if parent ∈ seen then [] else parent :: tree.ancestorsFrom (parent :: seen) parent := by
  rw [ancestorsFrom]
  split
  · next hroot =>
    rw [Up, hroot] at h
    contradiction
  · next other hother =>
    have hsame : other = parent := Option.some.inj (hother.symm.trans h)
    rw [hsame]

/-- There is one way up. -/
theorem transGen_up_iff {parent : String} (h : tree.parent? id = some parent) :
    TransGen tree.Up id other ↔ other = parent ∨ TransGen tree.Up parent other := by
  rw [Relation.TransGen.head'_iff]
  constructor
  · rintro ⟨next, hnext, hrest⟩
    have hsame : parent = next := Option.some.inj (h.symm.trans hnext)
    subst hsame
    exact Relation.reflTransGen_iff_eq_or_transGen.1 hrest
  · intro hrest
    exact ⟨parent, h, Relation.reflTransGen_iff_eq_or_transGen.2 hrest⟩

/-- The walk finds what it has not seen of the nodes above, if it has seen the parents of all nodes that it
has left. -/
theorem mem_ancestorsFrom_iff (hid : id ∈ seen)
    (hleft : ∀ one ∈ seen, one ≠ id → ∀ parent, tree.Up one parent → parent ∈ seen) :
    other ∈ tree.ancestorsFrom seen id ↔ other ∉ seen ∧ TransGen tree.Up id other := by
  fun_induction ancestorsFrom tree seen id with
  | case1 seen id hroot =>
      refine iff_of_false List.not_mem_nil fun h => ?_
      obtain ⟨parent, hparent, -⟩ := Relation.TransGen.head'_iff.1 h.2
      rw [Up, hroot] at hparent
      contradiction
  | case2 seen id parent hparent hagain =>
      -- the walk has come round: what it has seen is closed under parents
      have hclosed : ∀ one ∈ seen, ∀ next, tree.Up one next → next ∈ seen := by
        intro one hone next hnext
        by_cases hlast : one = id
        · subst hlast
          rw [← Option.some.inj (hparent.symm.trans hnext)]
          exact hagain
        · exact hleft one hone hlast next hnext
      have hseen : TransGen tree.Up id other → other ∈ seen := by
        intro h
        induction h with
        | single hnext => exact hclosed id hid _ hnext
        | tail _ hnext ih => exact hclosed _ ih _ hnext
      exact iff_of_false List.not_mem_nil fun h => h.1 (hseen h.2)
  | case3 seen id parent hparent hnew ih =>
      have hrest := ih List.mem_cons_self fun one hone hne next hnext => by
        rcases List.mem_cons.1 hone with heq | hseen
        · exact absurd heq hne
        · by_cases hlast : one = id
          · subst hlast
            rw [← Option.some.inj (hparent.symm.trans hnext)]
            exact List.mem_cons_self
          · exact List.mem_cons_of_mem _ (hleft one hseen hlast next hnext)
      rw [List.mem_cons, hrest, transGen_up_iff hparent, List.mem_cons, not_or]
      constructor
      · rintro (rfl | ⟨⟨-, hunseen⟩, habove⟩)
        · exact ⟨hnew, Or.inl rfl⟩
        · exact ⟨hunseen, Or.inr habove⟩
      · rintro ⟨hunseen, heq | habove⟩
        · exact Or.inl heq
        · by_cases hsame : other = parent
          · exact Or.inl hsame
          · exact Or.inr ⟨⟨hsame, hunseen⟩, habove⟩

/-- Each node of the walk is the parent of the one before. -/
theorem isChain_ancestorsFrom : (id :: tree.ancestorsFrom seen id).IsChain tree.Up := by
  fun_induction ancestorsFrom tree seen id with
  | case1 seen id hroot => exact .singleton id
  | case2 seen id parent hparent hagain => exact .singleton id
  | case3 seen id parent hparent hnew ih => exact .cons_cons hparent ih

/-- The walk comes to no node that it has seen. -/
theorem not_mem_seen (h : other ∈ tree.ancestorsFrom seen id) : other ∉ seen := by
  fun_induction ancestorsFrom tree seen id with
  | case1 seen id hroot => exact absurd h List.not_mem_nil
  | case2 seen id parent hparent hagain => exact absurd h List.not_mem_nil
  | case3 seen id parent hparent hnew ih =>
      rcases List.mem_cons.1 h with rfl | hrest
      · exact hnew
      · exact fun hseen => ih hrest (List.mem_cons_of_mem _ hseen)

theorem nodup_ancestorsFrom : (tree.ancestorsFrom seen id).Nodup := by
  fun_induction ancestorsFrom tree seen id with
  | case1 seen id hroot => exact List.nodup_nil
  | case2 seen id parent hparent hagain => exact List.nodup_nil
  | case3 seen id parent hparent hnew ih =>
      exact List.nodup_cons.2 ⟨fun h => not_mem_seen h List.mem_cons_self, ih⟩

theorem nodup_ancestors : (tree.ancestors id).Nodup := nodup_ancestorsFrom

end walk

/-! ## the tree of a node table -/

section table

variable {nodes : List Node} {id other parent : String}

/-- A node has the parent that the table names, unless that is the node itself. -/
theorem parent?_ofNodes_iff (hkey : (nodes.map Node.id).Nodup) :
    (ofNodes nodes).parent? id = some parent ↔ RegisteredBy nodes id parent ∧ parent ≠ id := by
  have hentries : ∀ entry, entry ∈ (ofNodes nodes).entries ↔
      ∃ node ∈ nodes, node.id = entry.1 ∧ node.parent = some entry.2 ∧ entry.2 ≠ entry.1 := by
    rintro ⟨child, upper⟩
    simp only [ofNodes, List.mem_filterMap, List.mem_reverse]
    refine exists_congr fun node => and_congr_right fun _ => ?_
    cases node.parent with
    | none => simp
    | some found =>
        simp only [Option.some.injEq, Option.ite_none_left_eq_some, Prod.mk.injEq]
        grind
  rw [parent?, Option.map_eq_some_iff]
  constructor
  · rintro ⟨entry, hfound, rfl⟩
    obtain ⟨node, hnode, hid, hparent, hne⟩ := (hentries entry).1 (List.mem_of_find?_eq_some hfound)
    have hfirst : entry.1 = id := by simpa using List.find?_some hfound
    rw [hfirst] at hid hne
    exact ⟨⟨node, hnode, hid, hparent⟩, hne⟩
  · rintro ⟨⟨node, hnode, rfl, hparent⟩, hne⟩
    have hmem : (node.id, parent) ∈ (ofNodes nodes).entries :=
      (hentries _).2 ⟨node, hnode, rfl, hparent, hne⟩
    have hsome : ((ofNodes nodes).entries.find? (·.1 = node.id)).isSome = true :=
      List.find?_isSome.2 ⟨_, hmem, decide_eq_true rfl⟩
    obtain ⟨entry, hfound⟩ := Option.isSome_iff_exists.1 hsome
    -- the id is the key of the table, so there is no other entry of this node
    obtain ⟨same, hsame, hid, hfirst, -⟩ := (hentries entry).1 (List.mem_of_find?_eq_some hfound)
    have hof : entry.1 = node.id := by simpa using List.find?_some hfound
    have heq : same = node := List.inj_on_of_nodup_map hkey hsame hnode (hid.trans hof)
    rw [heq, hparent] at hfirst
    exact ⟨entry, hfound, (Option.some.inj hfirst).symm⟩

/-- Steps from a node to itself lead nowhere else. -/
theorem transGen_up_ofNodes_iff (hkey : (nodes.map Node.id).Nodup) (hne : other ≠ id) :
    TransGen (ofNodes nodes).Up id other ↔ TransGen (RegisteredBy nodes) id other := by
  constructor
  · intro h
    exact TransGen.mono (fun _ _ hup => ((parent?_ofNodes_iff hkey).1 hup).1) _ _ h
  · intro h
    have hup : ∀ one next, RegisteredBy nodes one next → ReflTransGen (ofNodes nodes).Up one next := by
      intro one next hnext
      by_cases hself : next = one
      · rw [hself]
      · exact ReflTransGen.single ((parent?_ofNodes_iff hkey).2 ⟨hnext, hself⟩)
    have hreach : ReflTransGen (ofNodes nodes).Up id other := by
      clear hne
      induction h with
      | single hnext => exact hup _ _ hnext
      | tail _ hnext ih => exact ih.trans (hup _ _ hnext)
    exact (Relation.reflTransGen_iff_eq_or_transGen.1 hreach).resolve_left hne

/-- The walk finds exactly the nodes above its start. -/
theorem mem_ancestors_iff (hkey : (nodes.map Node.id).Nodup) :
    other ∈ (ofNodes nodes).ancestors id ↔ IsAbove nodes other id := by
  have hstart : ∀ one ∈ [id], one ≠ id → ∀ parent, (ofNodes nodes).Up one parent → parent ∈ [id] :=
    fun one hone hne => absurd (List.mem_singleton.1 hone) hne
  rw [ancestors, mem_ancestorsFrom_iff List.mem_cons_self hstart, List.mem_singleton, IsAbove, and_comm]
  exact and_congr_left fun hne => transGen_up_ofNodes_iff hkey hne

/-- The depth of a node is the number of nodes above it. -/
theorem depth_eq (hkey : (nodes.map Node.id).Nodup) (id : String) :
    (ofNodes nodes).depth id = Set.ncard {upper | IsAbove nodes upper id} := by
  classical
  have hset : {upper | IsAbove nodes upper id} = ↑((ofNodes nodes).ancestors id).toFinset := by
    ext upper
    rw [Finset.mem_coe, List.mem_toFinset, mem_ancestors_iff hkey]
    rfl
  rw [hset, Set.ncard_coe_finset, List.toFinset_card_of_nodup nodup_ancestors, depth]

/-- Each node that the walk comes to registered the one before. -/
theorem isChain_ancestors (hkey : (nodes.map Node.id).Nodup) :
    (id :: (ofNodes nodes).ancestors id).IsChain (RegisteredBy nodes) :=
  isChain_ancestorsFrom.imp fun _ _ hup => ((parent?_ofNodes_iff hkey).1 hup).1

end table

end NodeTree

end ChangeRouting
