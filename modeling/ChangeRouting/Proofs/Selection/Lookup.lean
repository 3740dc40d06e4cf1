import ChangeRouting.Proofs.Query.Engine
import ChangeRouting.Proofs.Selection.Calls
import ChangeRouting.Proofs.Selection.Candidates

/-!
# ChangeRouting.Proofs.Selection.Lookup

Which nodes a lookup router selects.

* `mem_pairsOf_iff` — a row without nulls makes a pair;
* `load_of_yields` — the table in memory is made of the rows that the query comes to;
* `mem_select_iff` — a candidate is selected exactly if a row pairs the key of the change with its external id;
* `fst_run_selectLookup` — a call of a lookup router ends as its table says;
* `lookup_fans_out` — from the text of a router to the nodes it selects.
-/

namespace ChangeRouting

open Query (Token)

/-! ## rows -/

namespace LookupTable

variable {spec : LookupSpec} {engine : QueryEngine} {store : Store}
  {rows : List (Option String × Option String)}

theorem mem_pairsOf_iff {key external : String} :
    (key, external) ∈ pairsOf rows ↔ (some key, some external) ∈ rows := by
  rw [pairsOf, List.mem_filterMap]
  constructor
  · rintro ⟨⟨key?, external?⟩, hrow, hpair⟩
    cases key? <;> cases external? <;> cases hpair
    exact hrow
  · exact fun hrow => ⟨_, hrow, rfl⟩

/-- Rows of nullable texts are read as what they hold. -/
theorem read_of_yields (h : spec.Yields engine store rows) :
    engine.read store spec.query (fun _ => none) rowOf = .ok rows := by
  rw [QueryEngine.read, h]
  clear h
  induction rows with
  | nil => rfl
  | cons row rows ih =>
      have hrow : rowOf [.ofText? row.1, .ofText? row.2] = .ok row := by
        simp only [rowOf, textOf, Cell.readText?_ofText?]
        rfl
      rw [List.map_cons, List.mapM_cons, ih]
      simp only [bind, Except.bind, hrow]
      rfl

/-- The table in memory is made of the rows that the query comes to. -/
theorem load_of_yields (h : spec.Yields engine store rows) :
    load engine spec store = .ok ⟨spec, pairsOf rows⟩ := by
  rw [load, read_of_yields h]
  rfl

/-- A candidate is selected exactly if a row pairs the key of the change with its external id. -/
theorem mem_select_iff {values : ColumnValues} {candidates : List Node} {id : String} :
    id ∈ select ⟨spec, pairsOf rows⟩ values candidates ↔
      ∃ node ∈ candidates, node.id = id ∧ ∃ key, values.find? spec.key = some (some key) ∧
        (some key, some node.externalId) ∈ rows := by
  rw [select]
  cases hkey : values.get spec.key with
  | none =>
      refine iff_of_false (NodeSet.not_mem_empty id) ?_
      rintro ⟨node, -, -, key, hfound, -⟩
      rw [ColumnValues.get, hfound] at hkey
      cases hkey
  | some key =>
      have hfound : values.find? spec.key = some (some key) := Option.join_eq_some_iff.1 hkey
      simp only [NodeSet.mem_ofList, List.mem_map, List.mem_filter, decide_eq_true_eq, mem_pairsOf_iff,
        hfound, Option.some.injEq, exists_eq_left', and_assoc]
      exact exists_congr fun node => and_congr_right fun _ => and_comm

end LookupTable

/-! ## routers -/

/-- What a lookup router ends with, whatever the calls before it left in the cache. -/
theorem fst_run_selectLookup {engine : QueryEngine} {store : Store} {q : Question} {scope : RoutingScope}
    (htells : scope.Tells ⟨.lookup engine, store, q⟩) :
    (((Strategy.lookup engine).select store q).run.run scope).1 =
      (·.select q.values q.candidates) <$> engine.tableOf store q.router.text := by
  refine (fst_runIn htells rfl "").trans ?_
  simp only [Call.runIn, Strategy.select, Strategy.selectLookup, run_bind, run_cached, QueryEngine.tableOf]
  cases LookupSpec.parse q.router.text with
  | error fault => rfl
  | ok spec =>
      simp only [bind, Except.bind]
      cases LookupTable.load engine spec store <;> rfl

/-- A lookup router takes each of its four names from the last line that sets it, and takes nothing but names
there; it refuses a text in which a line has no `=` or a name is lacking.  Whatever the names are, the query
made of them selects two of them from the third.  Of the rows that it comes to, texts and nulls in any order and
number, the router selects exactly the candidates whose external id a row pairs with the key of the change.
The rows are those that the engine shows, or those of a table where the engine is known to read columns. -/
theorem lookup_fans_out (text : String) :
    (∀ spec, LookupSpec.parse text = .ok spec ↔ spec.SetBy (Text.settingLines text.toList)) ∧
      ((∃ fault, LookupSpec.parse text = .error fault) ↔
        (∃ line ∈ Text.settingLines text.toList, '=' ∉ line) ∨
          ∃ name ∈ LookupSpec.names, LookupSpec.Lacks (Text.settingLines text.toList) name) ∧
      ∀ spec, LookupSpec.parse text = .ok spec →
        (∀ setting ∈ spec.settings, ∀ c ∈ setting.2.toList, c.isAlphanum = true ∨ c = '_' ∨ c = '.') ∧
        Token.scan spec.query.toList = some (.word "SELECT" :: LookupSpec.nameTokens spec.tableKey ++
          .symbol "," :: LookupSpec.nameTokens spec.tableExternal ++
          .word "FROM" :: LookupSpec.nameTokens spec.table) ∧
        ∀ (engine : QueryEngine) (store : Store) (rows : List (Option String × Option String)),
          spec.Shows engine store rows ∨ engine.ReadsColumns ∧ spec.Finds store rows →
          ∀ (q : Question) (scope : RoutingScope), q.router.text = text →
            scope.Tells ⟨.lookup engine, store, q⟩ →
            ∃ selected, (((Strategy.lookup engine).select store q).run.run scope).1 = .ok selected ∧
              ∀ id, id ∈ selected ↔
                ∃ node ∈ q.candidates, node.id = id ∧ ∃ key, q.values.find? spec.key = some (some key) ∧
                  (some key, some node.externalId) ∈ rows := by
  refine ⟨fun spec => LookupSpec.parse_eq_ok_iff, LookupSpec.parse_isError_iff, fun spec hparse => ?_⟩
  have hqualified := (LookupSpec.parse_eq_ok_iff.1 hparse).qualified
  refine ⟨fun setting hsetting => (hqualified setting hsetting).chars, LookupSpec.scan_query hqualified, ?_⟩
  intro engine store rows hrows q scope htext htells
  have hshows : spec.Shows engine store rows :=
    hrows.elim id fun ⟨hreads, hfinds⟩ => hreads spec hqualified store rows hfinds
  obtain ⟨listed, hlisted, hsame⟩ := hshows
  have htable : engine.tableOf store q.router.text = .ok ⟨spec, LookupTable.pairsOf listed⟩ := by
    rw [QueryEngine.tableOf, htext, except_bind_eq_ok]
    exact ⟨spec, hparse, LookupTable.load_of_yields hlisted⟩
  refine ⟨LookupTable.select ⟨spec, LookupTable.pairsOf listed⟩ q.values q.candidates, ?_, fun id => ?_⟩
  · rw [fst_run_selectLookup htells, htable]
    rfl
  · simp only [LookupTable.mem_select_iff, hsame]

/-- A table of regions, one of which has two shops. -/
def regionTable : Table where
  name := "regions"
  columns := [⟨"region_id", .text, false⟩, ⟨"shop", .text, false⟩]
  ids := .none
  key := []
  rows := [[.text "east", .text "s1"], [.text "west", .null], [.text "east", .text "s2"],
    [.null, .text "s3"], [.text "east", .text "s1"]]

def regionStore : Store := { Store.empty with foreign := [regionTable] }

/-- A change in that region, for a router that sets a name twice. -/
def regionQuestion : Question where
  router := {
    id := "regions", type := "lookuptable", sourceGroup := "corp", targetGroup := "store",
    expression := some ("LOOKUP_TABLE=a; b\n Lookup_Table = Regions \nKEY_COLUMN=region\n" ++
      "LOOKUP_KEY_COLUMN=REGION_ID\nEXTERNAL_ID_COLUMN=shop") }
  change := ⟨7, "sale", .insert, none, none, none, 1, "sales", none, none, 0, none⟩
  values := ColumnValues.empty.insert "REGION" (some "east")
  candidates := [⟨"00001", "store", "s1", true, none⟩, ⟨"00003", "store", "s3", true, none⟩]
  initialLoad := false

/-- The rows of that table. -/
theorem finds_regionStore :
    LookupSpec.Finds ⟨"Regions", "region", "REGION_ID", "shop"⟩ regionStore
      [(some "east", some "s1"), (some "west", none), (some "east", some "s2"), (none, some "s3"),
        (some "east", some "s1")] := by
  have hforeign : regionStore.foreign? "Regions" = some regionTable := by
    simp only [Store.foreign?, sameName, toLower_eq]
    decide
  have hother : TableName.ofText? "Regions" = none := by
    simp only [TableName.ofText?, sameName, toLower_eq]
    decide
  have hfree : ∀ name ∈ ["Regions", "REGION_ID", "shop"], PlainQuery.isReserved name = false := by
    simp only [PlainQuery.isReserved, toUpper_eq]
    decide
  have hvariable : ∀ name ∈ ["REGION_ID", "shop"],
      name.toLower ∉ LookupSpec.constants ∧ PlainQuery.isOperator name = false := by
    simp only [PlainQuery.isOperator, toLower_eq]
    decide
  have hfound : regionTable.columns.findIdx? (sameName "REGION_ID" ·.name) = some 0 ∧
      regionTable.columns.findIdx? (sameName "shop" ·.name) = some 1 := by
    simp only [sameName, toLower_eq]
    decide
  refine ⟨⟨by decide, hfree _ (.head _)⟩, regionTable, 0, 1, by simp [Store.table?, hother, hforeign],
    ⟨⟨by decide, hfree _ (.tail _ (.head _))⟩, (hvariable _ (.head _)).1, (hvariable _ (.head _)).2,
      hfound.1⟩,
    ⟨⟨by decide, hfree _ (.tail _ (.tail _ (.head _)))⟩, (hvariable _ (.tail _ (.head _))).1,
      (hvariable _ (.tail _ (.head _))).2, hfound.2⟩, ?_⟩
  simp only [regionTable, List.forall₂_cons, List.Forall₂.nil, and_true]
  decide

theorem lookup_fans_out_regions :
    LookupSpec.parse regionQuestion.router.text = .ok ⟨"Regions", "region", "REGION_ID", "shop"⟩ ∧
      ∃ selected, (((Strategy.lookup (.plain 0)).select regionStore regionQuestion).run.run
          (Scope.new "00000" "corp" "sales")).1 = .ok selected ∧
        "00001" ∈ selected ∧ "00003" ∉ selected := by
  have hparse : LookupSpec.parse regionQuestion.router.text =
      .ok ⟨"Regions", "region", "REGION_ID", "shop"⟩ := by decide +kernel
  obtain ⟨-, -, hroutes⟩ := lookup_fans_out regionQuestion.router.text
  obtain ⟨-, -, hselects⟩ := hroutes _ hparse
  obtain ⟨selected, hrun, hmem⟩ := hselects (.plain 0) regionStore _ (.inr ⟨plain_readsColumns, finds_regionStore⟩)
    regionQuestion (Scope.new "00000" "corp" "sales") rfl (Scope.tells_new _ _ _ _)
  have hregion : regionQuestion.values.find? "region" = some (some "east") := by decide
  simp only [hregion, Option.some.injEq, exists_eq_left'] at hmem
  refine ⟨hparse, selected, hrun, ?_, ?_⟩
  · exact (hmem "00001").2 ⟨⟨"00001", "store", "s1", true, none⟩, by decide, rfl, by decide⟩
  · rw [hmem "00003"]
    decide

end ChangeRouting
