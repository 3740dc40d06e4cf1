import ChangeRouting.Batch.Builder
import Mathlib.Data.List.Nodup

/-!
# ChangeRouting.Proofs.Batch.Targets

Where a change goes once the routers decided about it.

* `mem_targetsFrom`, `nodup_targetsFrom` — every node that some router selected is a target, once;
* `destined_targets` — a change no router sends anywhere goes to the unrouted node alone;
* `exists_decision_of_mem_targets` — a change that goes elsewhere goes in the name of a router that selected
  the node;
* `filter_targets_eq` — it goes there in the name of the first such router, and to the unrouted node in the
  name of the first router asked.
-/

namespace ChangeRouting

/-- A router selected the node. -/
def Selected (decisions : List Decision) (node : String) : Prop :=
  ∃ decision ∈ decisions, node ∈ decision.nodes

/-- Nodes a change goes to: each selected node once, or the unrouted node if none was selected. -/
structure Destined (decisions : List Decision) (nodes : List String) : Prop where
  nodup : nodes.Nodup
  selected : ∀ node, Selected decisions node → ∀ other, other ∈ nodes ↔ Selected decisions other
  unrouted : (∀ node, ¬Selected decisions node) → nodes = [unroutedNode]

theorem Destined.ne_nil {decisions : List Decision} {nodes : List String}
    (h : Destined decisions nodes) : nodes ≠ [] := by
  intro hnil
  by_cases hsome : ∃ node, Selected decisions node
  · obtain ⟨node, hnode⟩ := hsome
    have hmem := (h.selected node hnode node).2 hnode
    rw [hnil] at hmem
    exact List.not_mem_nil hmem
  · have hunrouted := h.unrouted fun node hnode => hsome ⟨node, hnode⟩
    rw [hnil] at hunrouted
    contradiction

theorem mem_targetsOf {router node : String} {seen nodes : List String} :
    node ∈ (Builder.targetsOf router seen nodes).map Prod.fst ↔ node ∈ nodes ∧ node ∉ seen := by
  induction nodes generalizing seen with
  | nil => simp [Builder.targetsOf]
  | cons first nodes ih =>
      rw [Builder.targetsOf]
      by_cases hseen : first ∈ seen
      · rw [if_pos hseen, ih, List.mem_cons]
        constructor
        · exact fun h => ⟨Or.inr h.1, h.2⟩
        · rintro ⟨rfl | h, hnot⟩
          · contradiction
          · exact ⟨h, hnot⟩
      · rw [if_neg hseen, List.map_cons, List.mem_cons, ih, List.mem_cons, List.mem_cons, not_or]
        constructor
        · rintro (rfl | ⟨h, -, hnot⟩)
          · exact ⟨Or.inl rfl, hseen⟩
          · exact ⟨Or.inr h, hnot⟩
        · rintro ⟨rfl | h, hnot⟩
          · exact Or.inl rfl
          · by_cases hsame : node = first
            · exact Or.inl hsame
            · exact Or.inr ⟨h, hsame, hnot⟩

theorem nodup_targetsOf (router : String) (seen nodes : List String) :
    ((Builder.targetsOf router seen nodes).map Prod.fst).Nodup := by
  induction nodes generalizing seen with
  | nil => exact List.nodup_nil
  | cons first nodes ih =>
      rw [Builder.targetsOf]
      split
      · exact ih seen
      · rw [List.map_cons, List.nodup_cons, mem_targetsOf]
        exact ⟨fun h => h.2 List.mem_cons_self, ih _⟩

theorem mem_targetsFrom {node : String} {seen : List String} {decisions : List Decision} :
    node ∈ (Builder.targetsFrom seen decisions).map Prod.fst ↔
      Selected decisions node ∧ node ∉ seen := by
  induction decisions generalizing seen with
  | nil => simp [Builder.targetsFrom, Selected]
  | cons decision decisions ih =>
      rw [Builder.targetsFrom, List.map_append, List.mem_append, mem_targetsOf, ih]
      simp only [Selected, List.exists_mem_cons_iff, List.mem_append, not_or, NodeSet.mem_def]
      constructor
      · rintro (⟨h, hnot⟩ | ⟨h, -, hnot⟩)
        · exact ⟨Or.inl h, hnot⟩
        · exact ⟨Or.inr h, hnot⟩
      · rintro ⟨h, hnot⟩
        by_cases hfirst : node ∈ decision.nodes.ids
        · exact Or.inl ⟨hfirst, hnot⟩
        · exact Or.inr ⟨h.resolve_left hfirst, hfirst, hnot⟩

theorem nodup_targetsFrom (seen : List String) (decisions : List Decision) :
    ((Builder.targetsFrom seen decisions).map Prod.fst).Nodup := by
  induction decisions generalizing seen with
  | nil => exact List.nodup_nil
  | cons decision decisions ih =>
      rw [Builder.targetsFrom, List.map_append, List.nodup_append]
      refine ⟨nodup_targetsOf _ _ _, ih _, ?_⟩
      intro node hfirst other hlater
      rw [mem_targetsOf] at hfirst
      rw [mem_targetsFrom, List.mem_append, not_or] at hlater
      rintro rfl
      exact hlater.2.1 hfirst.1

/-- A change goes to each selected node once, or to the unrouted node. -/
theorem destined_targets (decisions : List Decision) :
    Destined decisions ((Builder.targets decisions).map Prod.fst) := by
  have hmem : ∀ node, node ∈ (Builder.targetsFrom [] decisions).map Prod.fst ↔
      Selected decisions node := by
    intro node
    rw [mem_targetsFrom]
    exact and_iff_left List.not_mem_nil
  rw [Builder.targets]
  cases htargets : Builder.targetsFrom [] decisions with
  | nil =>
      refine ⟨List.nodup_singleton _, fun node hnode => ?_, fun _ => rfl⟩
      rw [← hmem, htargets] at hnode
      exact (List.not_mem_nil hnode).elim
  | cons target rest =>
      refine ⟨?_, fun _ _ other => ?_, fun hnone => ?_⟩
      · show ((target :: rest).map Prod.fst).Nodup
        rw [← htargets]
        exact nodup_targetsFrom [] decisions
      · show other ∈ (target :: rest).map Prod.fst ↔ _
        rw [← htargets]
        exact hmem other
      · refine (hnone target.1 ((hmem target.1).1 ?_)).elim
        rw [htargets]
        exact List.mem_cons_self

theorem router_of_mem_targetsOf {name node router : String} {seen nodes : List String}
    (h : (node, router) ∈ Builder.targetsOf name seen nodes) : router = name ∧ node ∈ nodes := by
  induction nodes generalizing seen with
  | nil => exact (List.not_mem_nil h).elim
  | cons first nodes ih =>
      rw [Builder.targetsOf] at h
      split at h
      · exact (ih h).imp id (List.mem_cons_of_mem _)
      · rw [List.mem_cons] at h
        cases h with
        | inl heq =>
            cases heq
            exact ⟨rfl, List.mem_cons_self⟩
        | inr hmem => exact (ih hmem).imp id (List.mem_cons_of_mem _)

theorem exists_decision_of_mem_targetsFrom {node router : String} {seen : List String}
    {decisions : List Decision} (h : (node, router) ∈ Builder.targetsFrom seen decisions) :
    ∃ decision ∈ decisions, decision.router = router ∧ node ∈ decision.nodes := by
  induction decisions generalizing seen with
  | nil => exact (List.not_mem_nil h).elim
  | cons decision decisions ih =>
      rw [Builder.targetsFrom, List.mem_append] at h
      cases h with
      | inl hfirst =>
          obtain ⟨hrouter, hnode⟩ := router_of_mem_targetsOf hfirst
          exact ⟨decision, List.mem_cons_self, hrouter.symm, hnode⟩
      | inr hlater =>
          obtain ⟨other, hother, hsame⟩ := ih hlater
          exact ⟨other, List.mem_cons_of_mem _ hother, hsame⟩

/-- A change goes to the unrouted node, or to a node in the name of a router that selected it. -/
theorem exists_decision_of_mem_targets {node router : String} {decisions : List Decision}
    (h : (node, router) ∈ Builder.targets decisions) :
    node = unroutedNode ∨ ∃ decision ∈ decisions, decision.router = router ∧ node ∈ decision.nodes := by
  rw [Builder.targets] at h
  split at h
  · rw [List.mem_singleton] at h
    cases h
    exact Or.inl rfl
  · exact Or.inr (exists_decision_of_mem_targetsFrom h)

/-! ## in whose name -/

/-- The router in whose name a node gets a change: the first that selected the node. -/
def selector? (node : String) (decisions : List Decision) : Option String :=
  (decisions.find? (node ∈ ·.nodes.ids)).map Decision.router

/-- The router in whose name a change goes nowhere, if no router selected a node: the first one asked. -/
def nobody? (decisions : List Decision) : Option String :=
  if decisions.all (·.nodes.isEmpty) then some ((decisions.head?.map Decision.router).getD unknownRouter)
  else none

theorem filter_targetsOf (router : String) (seen nodes : List String) (node : String) :
    (Builder.targetsOf router seen nodes).filter (·.1 = node) =
      if node ∈ nodes ∧ node ∉ seen then [(node, router)] else [] := by
  induction nodes generalizing seen with
  | nil => rfl
  | cons first nodes ih =>
      rw [Builder.targetsOf]
      by_cases hseen : first ∈ seen
      · rw [if_pos hseen, ih]
        by_cases hsame : node = first
        · simp [hsame, hseen]
        · simp [hsame]
      · rw [if_neg hseen, List.filter_cons, ih]
        by_cases hsame : node = first
        · simp [hsame, hseen]
        · simp [hsame, Ne.symm hsame]

/-- A node that was not seen yet is a target in the name of the first router that selected it. -/
theorem filter_targetsFrom {seen : List String} {node : String} (hseen : node ∉ seen)
    (decisions : List Decision) :
    (Builder.targetsFrom seen decisions).filter (·.1 = node) =
      ((selector? node decisions).map (node, ·)).toList := by
  induction decisions generalizing seen with
  | nil => rfl
  | cons decision decisions ih =>
      rw [Builder.targetsFrom, List.filter_append, filter_targetsOf, selector?, List.find?_cons]
      by_cases hnode : node ∈ decision.nodes.ids
      · -- later routers come too late
        have hlater : (Builder.targetsFrom (decision.nodes.ids ++ seen) decisions).filter (·.1 = node) = [] := by
          rw [List.filter_eq_nil_iff]
          intro target htarget hsame
          have hmem := List.mem_map_of_mem (f := Prod.fst) htarget
          rw [of_decide_eq_true hsame, mem_targetsFrom] at hmem
          exact hmem.2 (by simp [hnode])
        simp [hnode, hseen, hlater]
      · have hlater : node ∉ decision.nodes.ids ++ seen := by simp [hnode, hseen]
        have hrest := ih hlater
        rw [selector?] at hrest
        simp [hnode, hrest]

theorem isUnrouted_eq (decisions : List Decision) :
    Builder.isUnrouted decisions = decisions.all (·.nodes.isEmpty) := by
  rw [Bool.eq_iff_iff, Builder.isUnrouted, List.isEmpty_iff, List.all_eq_true,
    ← List.map_eq_nil_iff (f := Prod.fst), List.eq_nil_iff_forall_not_mem]
  simp only [mem_targetsFrom, List.not_mem_nil, not_false_eq_true, and_true, Selected, not_exists, not_and,
    NodeSet.isEmpty, List.isEmpty_iff, List.eq_nil_iff_forall_not_mem, NodeSet.mem_def]
  exact ⟨fun h decision hdecision node => h node decision hdecision,
    fun h node decision hdecision => h decision hdecision node⟩

theorem selector?_eq_none_iff {node : String} {decisions : List Decision} :
    selector? node decisions = none ↔ ¬Selected decisions node := by
  simp [selector?, Selected, NodeSet.mem_def]

/-- The router in whose name a node gets a change.  Each node that was selected gets it from the first router
that selected the node; where none was selected, the unrouted node gets it from the first router asked. -/
def sender? (node : String) (decisions : List Decision) : Option String :=
  if decisions.all (·.nodes.isEmpty) then
    if node = unroutedNode then some ((decisions.head?.map Decision.router).getD unknownRouter) else none
  else selector? node decisions

/-- A change goes once to each node that gets it, and to no other. -/
theorem filter_targets_eq (node : String) (decisions : List Decision) :
    (Builder.targets decisions).filter (·.1 = node) =
      ((sender? node decisions).map (node, ·)).toList := by
  have hfrom := filter_targetsFrom (List.not_mem_nil (a := node)) decisions
  rw [sender?, ← isUnrouted_eq, Builder.isUnrouted, Builder.targets]
  cases htargets : Builder.targetsFrom [] decisions with
  | nil =>
      by_cases hnode : node = unroutedNode
      · simp [hnode]
      · simp [hnode, Ne.symm hnode]
  | cons target rest =>
      rw [htargets] at hfrom
      simpa using hfrom

/-- A node gets a change in the name of the first router that selected it. -/
theorem filter_targets {node : String} (hnode : node ≠ unroutedNode) (decisions : List Decision) :
    (Builder.targets decisions).filter (·.1 = node) =
      ((selector? node decisions).map (node, ·)).toList := by
  rw [filter_targets_eq, sender?]
  split
  · next hnone =>
    have hselector : selector? node decisions = none := by
      rw [selector?_eq_none_iff]
      rintro ⟨decision, hdecision, hmem⟩
      have hempty := List.all_eq_true.1 hnone decision hdecision
      rw [NodeSet.mem_def, List.isEmpty_iff.1 hempty] at hmem
      exact List.not_mem_nil hmem
    rw [hselector]
  · rfl

/-- A change that no router sends anywhere goes to the unrouted node, in the name of the first router. -/
theorem filter_targets_unrouted {decisions : List Decision}
    (hnone : ∀ decision ∈ decisions, unroutedNode ∉ decision.nodes) :
    (Builder.targets decisions).filter (·.1 = unroutedNode) =
      ((nobody? decisions).map (unroutedNode, ·)).toList := by
  have hselector : selector? unroutedNode decisions = none :=
    selector?_eq_none_iff.2 fun ⟨decision, hdecision, hmem⟩ => hnone decision hdecision hmem
  rw [filter_targets_eq, sender?, nobody?, hselector, if_pos rfl]

end ChangeRouting
