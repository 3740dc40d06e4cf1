import ChangeRouting.Proofs.Work
import ChangeRouting.Selection.Strategy
import Mathlib.Data.List.Sort

/-!
# ChangeRouting.Proofs.Selection.Candidates

Every strategy selects among the candidates it is given.

* `NodeSet.ext` — sets are told apart by their nodes;
* `NodeSet.Among` — a set holds ids of candidates only, wherever the ids come from;
* `among_selectLine`, `among_testSelect`, `among_lookupSelect`, `among_clip`, `among_treeSelect`,
  `among_outcomeSelect` — one law for each way of selecting;
* `run_subselect` — a subselect ends as its query does;
* `yields_among_select` — so for every strategy, whatever its cache, the store or its engine holds.
-/

namespace ChangeRouting

/-- Sets are told apart by their nodes. -/
@[ext]
theorem NodeSet.ext {a b : NodeSet} (h : ∀ id, id ∈ a ↔ id ∈ b) : a = b := by
  have hids : a.ids = b.ids := a.ascending.eq_of_mem_iff b.ascending h
  cases a
  cases b
  cases hids
  rfl

/-- The ids in a set are those of candidates. -/
def NodeSet.Among (selected : NodeSet) (candidates : List Node) : Prop :=
  ∀ id ∈ selected, ∃ node ∈ candidates, node.id = id

/-! ## ways of selecting -/

section selecting

variable {candidates : List Node}

theorem among_empty : NodeSet.Among ∅ candidates := by
  intro id hid
  exact absurd hid (NodeSet.not_mem_empty id)

/-- Ids that are all those of candidates. -/
theorem among_ofList {ids : List String} (h : ∀ id ∈ ids, ∃ node ∈ candidates, node.id = id) :
    (NodeSet.ofList ids).Among candidates := by
  intro id hid
  rw [NodeSet.mem_ofList] at hid
  exact h id hid

theorem among_everyone : (NodeSet.ofList (candidates.map Node.id)).Among candidates :=
  among_ofList fun _ hid => List.mem_map.1 hid

theorem among_filter (p : Node → Bool) :
    (NodeSet.ofList ((candidates.filter p).map Node.id)).Among candidates := by
  refine among_ofList fun id hid => ?_
  obtain ⟨node, hnode, heq⟩ := List.mem_map.1 hid
  exact ⟨node, (List.mem_filter.1 hnode).1, heq⟩

theorem among_wholeGroup (test : ColumnTest) (holds : Bool) :
    (test.wholeGroup holds candidates).Among candidates := by
  rw [ColumnTest.wholeGroup]
  split
  · exact among_everyone
  · exact among_empty

theorem among_byNode (test : ColumnTest) (holds : Node → Bool) :
    (test.byNode holds candidates).Among candidates := among_filter _

theorem among_selectLine (test : ColumnTest) (values : ColumnValues)
    (redirects : List (String × String)) :
    (test.selectLine values redirects candidates).Among candidates := by
  simp only [ColumnTest.selectLine]
  cases test.operand with
  | null | literal _ | column _ => exact among_wholeGroup test _
  | nodeId | externalId | groupId | redirect => exact among_byNode test _

theorem among_testSelect (tests : List ColumnTest) (values : ColumnValues)
    (redirects : List (String × String)) :
    (ColumnTest.select tests values redirects candidates).Among candidates := by
  intro id hid
  obtain ⟨test, -, hline⟩ := ColumnTest.mem_select.1 hid
  exact among_selectLine test values redirects id hline

theorem among_lookupSelect (table : LookupTable) (values : ColumnValues) :
    (table.select values candidates).Among candidates := by
  rw [LookupTable.select]
  split
  · exact among_empty
  · exact among_filter _

/-- Whatever ids a query selects, those of candidates are kept and the others are dropped. -/
theorem mem_among_iff {ids : List String} {id : String} :
    id ∈ Subselect.among candidates ids ↔ id ∈ ids ∧ ∃ node ∈ candidates, node.id = id := by
  simp [Subselect.among]

theorem among_clip (ids : List String) : (Subselect.among candidates ids).Among candidates :=
  fun _ hid => (mem_among_iff.1 hid).2

theorem among_treeSelect (tree : NodeTree) (routing subject : String) :
    (tree.select routing subject candidates).Among candidates := among_filter _

/-- Whatever a script comes to, other ids are dropped. -/
theorem among_outcomeSelect (outcome : ScriptOutcome) :
    (outcome.select candidates).Among candidates := by
  cases outcome with
  | targets nodes =>
      refine among_ofList fun id hid => ?_
      exact List.mem_map.1 (of_decide_eq_true (List.mem_filter.1 hid).2)
  | node id =>
      rw [ScriptOutcome.select]
      split
      · next hid =>
        refine among_ofList fun other hother => ?_
        rw [List.mem_singleton] at hother
        exact List.mem_map.1 (hother ▸ hid)
      · exact among_empty
  | bool all =>
      cases all with
      | true => exact among_everyone
      | false => exact among_empty
  | nothing => exact among_empty

end selecting

/-! ## strategies -/

section strategies

variable (store : Store) (q : Question)

/-- A strategy selects among the candidates of the question. -/
abbrev YieldsAmong (work : Selecting NodeSet) : Prop := Yields (·.Among q.candidates) work

theorem yields_among_selectColumn : YieldsAmong q (Strategy.selectColumn store q) := by
  refine .bind fun tests => ?_
  simp only
  split
  · exact .bind fun redirects => yields_pure (among_testSelect tests q.values redirects)
  · exact .bind fun redirects => yields_pure (among_testSelect tests q.values redirects)

theorem yields_among_selectLookup (engine : QueryEngine) :
    YieldsAmong q (Strategy.selectLookup engine store q) :=
  .bind fun table => yields_pure (among_lookupSelect table q.values)

theorem yields_among_selectTopology (marker : String) :
    YieldsAmong q (Strategy.selectTopology marker store q) := by
  simp only [Strategy.selectTopology]
  split
  · exact yields_pure among_empty
  · split
    · exact yields_pure among_everyone
    · refine .bind fun tree => ?_
      exact .bind fun scope => yields_pure (among_treeSelect tree scope.node _)
  · exact yields_pure among_everyone
  · exact .bind fun _ => yields_pure among_everyone

theorem yields_among_selectScript (engine : ScriptEngine) :
    YieldsAmong q (Strategy.selectScript engine q) := by
  refine .bind fun scope => ?_
  exact .bind fun outcome => yields_pure (among_outcomeSelect outcome)

/-- A subselect ends as its query does, with the candidates among the ids that the query selects. -/
theorem run_subselect (engine : QueryEngine) (scope : RoutingScope) :
    ((Strategy.subselect engine).select store q).run.run scope =
      ((Subselect.among q.candidates <$>
        Subselect.rows engine store q.router.targetGroup q.router.text q.values).mapError
          fun cause => .router q.router.id cause.text, scope) := rfl

/-- Whatever rows an engine answers with, the strategy selects among the candidates. -/
theorem yields_among_subselect (engine : QueryEngine) :
    YieldsAmong q ((Strategy.subselect engine).select store q) := by
  intro scope selected after hrun
  rw [run_subselect] at hrun
  cases hrows : Subselect.rows engine store q.router.targetGroup q.router.text q.values with
  | error fault =>
      rw [hrows] at hrun
      cases hrun
  | ok ids =>
      rw [hrows] at hrun
      cases hrun
      exact among_clip ids

/-- Every strategy selects among the candidates it is given. -/
theorem yields_among_select (strategy : Strategy) : YieldsAmong q (strategy.select store q) := by
  cases strategy with
  | everyone => exact yields_pure among_everyone
  | column => exact yields_among_selectColumn store q
  | lookup engine => exact yields_among_selectLookup store q engine
  | subselect engine => exact yields_among_subselect store q engine
  | topology marker => exact yields_among_selectTopology store q marker
  | script engine => exact yields_among_selectScript q engine

end strategies

end ChangeRouting
