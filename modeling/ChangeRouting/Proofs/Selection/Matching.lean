import ChangeRouting.Proofs.Selection.Calls
import ChangeRouting.Proofs.Selection.Candidates

/-!
# ChangeRouting.Proofs.Selection.Matching

Which nodes the lines of a column router select.

Some comparisons are about the change alone and select every candidate or none; the others are about a
candidate each.  `!=` turns both kinds round.

* `Operand.Matches` — whether a comparison holds for a node, in terms of what the change binds;
* `ColumnTest.Selects`, `mem_selectLine_iff` — a line selects the candidates for which its comparison holds, or
  those for which it does not;
* `selectLine_self_iff` — among candidates of different ids each is selected for its own sake;
* `fst_run_selectColumn` — a column router selects by its lines, whatever the calls before it left in the cache;
* `lines_select` — so lines unite, turn round, and do not look at other candidates.
-/

namespace ChangeRouting

/-! ## comparisons -/

/-- A column of the change is null or absent. -/
def ColumnValues.IsBlank (values : ColumnValues) (column : String) : Prop :=
  values.find? column = none ∨ values.find? column = some none

/-- A column of the change holds a text. -/
def ColumnValues.Holds (values : ColumnValues) (column text : String) : Prop :=
  values.find? column = some (some text)

section values

variable {values : ColumnValues} {column text : String}

theorem ColumnValues.get_eq_some_iff : values.get column = some text ↔ values.Holds column text :=
  Option.join_eq_some_iff

theorem ColumnValues.get_eq_none_iff : values.get column = none ↔ values.IsBlank column :=
  Option.join_eq_none_iff

/-- Two columns are equal if both are blank or both hold one text. -/
theorem ColumnValues.get_eq_get_iff {other : String} :
    values.get column = values.get other ↔
      (values.IsBlank column ∧ values.IsBlank other) ∨
        ∃ text, values.Holds column text ∧ values.Holds other text := by
  simp only [← get_eq_none_iff, ← get_eq_some_iff]
  cases values.get column <;> cases values.get other <;> simp [eq_comm]

end values

/-- A comparison of a column holds for a node, negation aside. -/
def Operand.Matches (values : ColumnValues) (redirects : List (String × String)) (node : Node)
    (column : String) : Operand → Prop
  | .null => values.IsBlank column
  | .literal text => values.Holds column text
  | .column other =>
    (values.IsBlank column ∧ values.IsBlank other) ∨
      ∃ text, values.Holds column text ∧ values.Holds other text
  | .nodeId => values.Holds column node.id
  | .externalId => values.Holds column node.externalId
  | .groupId => values.Holds column node.group
  | .redirect => ∃ external, values.Holds column external ∧ redirects.lookup external = some node.id

/-- A line selects a node: its comparison holds for the node, or does not if the line is negated. -/
def ColumnTest.Selects (test : ColumnTest) (values : ColumnValues) (redirects : List (String × String))
    (node : Node) : Prop :=
  if test.negated then ¬test.operand.Matches values redirects node test.column
  else test.operand.Matches values redirects node test.column

/-! ## lines -/

namespace ColumnTest

variable {test : ColumnTest} {values : ColumnValues} {redirects : List (String × String)}
  {candidates : List Node} {node : Node} {id : String}

/-- What a line makes of its comparison. -/
theorem bne_negated_iff {holds : Bool}
    (h : test.operand.Matches values redirects node test.column ↔ holds = true) :
    (holds != test.negated) = true ↔ test.Selects values redirects node := by
  rw [Selects, h]
  cases test.negated <;> simp

theorem mem_wholeGroup_iff {holds : Bool}
    (h : ∀ node, test.operand.Matches values redirects node test.column ↔ holds = true) :
    id ∈ test.wholeGroup holds candidates ↔
      ∃ node ∈ candidates, node.id = id ∧ test.Selects values redirects node := by
  simp only [← bne_negated_iff (h _), wholeGroup]
  split
  · next hselects => simp [hselects]
  · next hselects => simp [hselects]

theorem mem_byNode_iff {holds : Node → Bool}
    (h : ∀ node, test.operand.Matches values redirects node test.column ↔ holds node = true) :
    id ∈ test.byNode holds candidates ↔
      ∃ node ∈ candidates, node.id = id ∧ test.Selects values redirects node := by
  simp only [← bne_negated_iff (h _), byNode, NodeSet.mem_ofList, List.mem_map, List.mem_filter,
    and_assoc]
  exact exists_congr fun node => and_congr_right fun _ => and_comm

/-- By either way of evaluation a line selects the candidates that it selects one by one. -/
theorem mem_selectLine_iff :
    id ∈ test.selectLine values redirects candidates ↔
      ∃ node ∈ candidates, node.id = id ∧ test.Selects values redirects node := by
  simp only [selectLine]
  cases hoperand : test.operand with
  | null =>
      refine mem_wholeGroup_iff fun node => ?_
      rw [hoperand, Option.isNone_iff_eq_none, ColumnValues.get_eq_none_iff, Operand.Matches]
  | literal text =>
      refine mem_wholeGroup_iff fun node => ?_
      rw [hoperand, decide_eq_true_eq, ColumnValues.get_eq_some_iff, Operand.Matches]
  | column other =>
      refine mem_wholeGroup_iff fun node => ?_
      rw [hoperand, decide_eq_true_eq, ColumnValues.get_eq_get_iff, Operand.Matches]
  | nodeId | externalId | groupId =>
      refine mem_byNode_iff fun node => ?_
      rw [hoperand, decide_eq_true_eq, ColumnValues.get_eq_some_iff, Operand.Matches]
  | redirect =>
      refine mem_byNode_iff fun node => ?_
      simp only [hoperand, decide_eq_true_eq, Option.bind_eq_some_iff, ColumnValues.get_eq_some_iff,
        Operand.Matches]

/-- Candidates of different ids are selected each for its own sake. -/
theorem selectLine_self_iff (hids : (candidates.map Node.id).Nodup) (hnode : node ∈ candidates) :
    node.id ∈ test.selectLine values redirects candidates ↔ test.Selects values redirects node := by
  rw [mem_selectLine_iff]
  constructor
  · rintro ⟨other, hother, hid, hselects⟩
    rwa [← List.inj_on_of_nodup_map hids hother hnode hid]
  · exact fun hselects => ⟨node, hnode, rfl, hselects⟩

/-- Lines that follow no redirects do not depend on them. -/
theorem selectLine_congr {others : List (String × String)} (h : test.operand ≠ .redirect) :
    test.selectLine values redirects candidates = test.selectLine values others candidates := by
  simp only [selectLine]
  cases hoperand : test.operand with
  | redirect => exact absurd hoperand h
  | _ => rfl

end ColumnTest

/-! ## routers -/

/-- A column router ends with what its lines select, whatever the calls before it left in the cache.  It reads
the redirects only if a line follows them. -/
theorem fst_run_selectColumn {store : Store} {q : Question} {scope : RoutingScope}
    (htells : scope.Tells ⟨.column, store, q⟩) {tests : List ColumnTest}
    (hparse : ColumnTest.parse q.router.text = .ok tests) {redirects : List (String × String)}
    (hread : (∃ test ∈ tests, test.operand = .redirect) → store.allRedirects = .ok redirects) :
    ((Strategy.column.select store q).run.run scope).1 =
      .ok (ColumnTest.select tests q.values redirects q.candidates) := by
  have hsteady : Steady (fun _ => q.router.text) store (columnOutcome store q)
      (Strategy.selectColumn store q) := steady_selectColumn rfl
  have hfresh : ((Strategy.column.select store q).run.run (Scope.new scope.node scope.group "")).1 =
      columnOutcome store q := (hsteady (Scope.truthful_new _ _ _)).1
  refine (fst_runIn htells rfl "").trans (hfresh.trans ?_)
  rw [columnOutcome, hparse]
  by_cases hneeds : ∃ test ∈ tests, test.operand = .redirect
  · have hany : tests.any (·.operand = .redirect) = true := by simpa using hneeds
    simp only [bind, Except.bind, hany, if_true, hread hneeds]
    rfl
  · have hany : tests.any (·.operand = .redirect) = false := by simpa using hneeds
    have hsame : ColumnTest.select tests q.values [] q.candidates =
        ColumnTest.select tests q.values redirects q.candidates := by
      ext id
      simp only [ColumnTest.mem_select]
      refine exists_congr fun test => and_congr_right fun htest => ?_
      rw [ColumnTest.selectLine_congr fun hredirect => hneeds ⟨test, htest, hredirect⟩]
    simp only [bind, Except.bind, hany, Bool.false_eq_true, if_false, ← hsame]
    rfl

/-- A column router selects a candidate exactly if a line selects it.  A line does so if its comparison holds
for the candidate, be the values texts, nulls or absent and the redirects to candidates or not; written with
`!=` it selects exactly the candidates that it does not select when written with `=`.  It does not matter to a
candidate which others there are, nor to the selection in which order and how often lines stand; and more lines
select no less. -/
theorem lines_select {store : Store} {q : Question} {scope : RoutingScope}
    (htells : scope.Tells ⟨.column, store, q⟩) {tests : List ColumnTest}
    (hparse : ColumnTest.parse q.router.text = .ok tests)
    {redirects : List (String × String)}
    (hread : (∃ test ∈ tests, test.operand = .redirect) → store.allRedirects = .ok redirects)
    (hids : (q.candidates.map Node.id).Nodup) :
    ∃ selected, ((Strategy.column.select store q).run.run scope).1 = .ok selected ∧
      selected = ColumnTest.select tests q.values redirects q.candidates ∧
      (∀ id ∈ selected, ∃ node ∈ q.candidates, node.id = id) ∧
      (∀ node ∈ q.candidates, node.id ∈ selected ↔
        ∃ test ∈ tests, node.id ∈ test.selectLine q.values redirects q.candidates) ∧
      (∀ node ∈ q.candidates, ∀ test : ColumnTest,
        node.id ∈ test.selectLine q.values redirects q.candidates ↔
          test.Selects q.values redirects node) ∧
      (∀ node ∈ q.candidates, ∀ column operand,
        node.id ∈ ColumnTest.selectLine ⟨column, true, operand⟩ q.values redirects q.candidates ↔
          node.id ∉ ColumnTest.selectLine ⟨column, false, operand⟩ q.values redirects q.candidates) ∧
      (∀ others : List Node, (others.map Node.id).Nodup → ∀ node ∈ q.candidates, node ∈ others →
        (node.id ∈ ColumnTest.select tests q.values redirects others ↔ node.id ∈ selected)) ∧
      (∀ same : List ColumnTest, (∀ test, test ∈ same ↔ test ∈ tests) →
        ColumnTest.select same q.values redirects q.candidates = selected) ∧
      ∀ more : List ColumnTest, tests ⊆ more → ∀ id ∈ selected,
        id ∈ ColumnTest.select more q.values redirects q.candidates := by
  refine ⟨_, fst_run_selectColumn htells hparse hread, rfl, among_testSelect tests q.values redirects,
    fun node _ => ColumnTest.mem_select, fun node hnode test => ColumnTest.selectLine_self_iff hids hnode,
    ?_, ?_, ?_, ?_⟩
  · intro node hnode column operand
    rw [ColumnTest.selectLine_self_iff hids hnode, ColumnTest.selectLine_self_iff hids hnode]
    simp [ColumnTest.Selects]
  · intro others hothers node hnode hother
    simp only [ColumnTest.mem_select, ColumnTest.selectLine_self_iff hids hnode,
      ColumnTest.selectLine_self_iff hothers hother]
  · intro same hsame
    ext id
    simp only [ColumnTest.mem_select, hsame]
  · intro more hmore id hid
    obtain ⟨test, htest, hline⟩ := ColumnTest.mem_select.1 hid
    exact ColumnTest.mem_select.2 ⟨test, hmore htest, hline⟩

/-- A store that redirects to a node that is no candidate. -/
def redirectingStore : Store := { Store.empty with redirects := some [("s9", "00009")] }

/-- A null is compared with an absent column, and a text is redirected to that node. -/
def redirectingQuestion : Question where
  router := {
    id := "moved", type := "column", sourceGroup := "corp", targetGroup := "store",
    expression := some "NOTE!=:REMARK\nSHOP!=:REDIRECT_NODE" }
  change := ⟨7, "sale", .insert, none, none, none, 1, "sales", none, none, 0, none⟩
  values := (ColumnValues.empty.insert "note" none).insert "shop" (some "s9")
  candidates := [⟨"00001", "store", "s1", true, none⟩, ⟨"00002", "store", "s2", true, none⟩]
  initialLoad := false

theorem lines_select_redirecting :
    let tests : List ColumnTest := [⟨"NOTE", true, .column "REMARK"⟩, ⟨"SHOP", true, .redirect⟩]
    ColumnTest.parse redirectingQuestion.router.text = .ok tests ∧
      redirectingStore.allRedirects = .ok [("s9", "00009")] ∧
      (redirectingQuestion.candidates.map Node.id).Nodup ∧
      ∃ selected, ((Strategy.column.select redirectingStore redirectingQuestion).run.run
          (Scope.new "00000" "corp" "sales")).1 = .ok selected ∧
        "00001" ∈ selected ∧ "00002" ∈ selected := by
  have hparse : ColumnTest.parse redirectingQuestion.router.text =
      .ok [⟨"NOTE", true, .column "REMARK"⟩, ⟨"SHOP", true, .redirect⟩] := by rfl
  have hids : (redirectingQuestion.candidates.map Node.id).Nodup := by decide
  obtain ⟨selected, hrun, -, -, hlines, -⟩ :=
    lines_select (Scope.tells_new ⟨.column, redirectingStore, redirectingQuestion⟩ "00000" "corp" "sales")
      hparse (fun _ => rfl) hids
  refine ⟨hparse, rfl, hids, selected, hrun, ?_, ?_⟩
  · exact (hlines ⟨"00001", "store", "s1", true, none⟩ (by decide)).2 (by decide)
  · exact (hlines ⟨"00002", "store", "s2", true, none⟩ (by decide)).2 (by decide)

end ChangeRouting
