import ChangeRouting.Proofs.Selection.Settings
import ChangeRouting.Proofs.Selection.View
import ChangeRouting.Query.Plain

/-!
# ChangeRouting.Proofs.Query.Engine

What engines answer to the queries of lookup routers.

* `LookupSpec.Yields`, `LookupSpec.Shows` — the rows that a query comes to, two nullable texts each;
* `LookupSpec.Finds` — the rows of a table, where plain names are those of the table and of two of its columns;
* `QueryEngine.ReadsColumns` — what the theory of lookup routers relies on where it speaks about the table
  itself;
* `plain_readsColumns` — the engine for plain queries does so;
* `plain_answer_eq` — a table that does not change is read alike in any store and at any time;
* `plain_overlooks` — a plain query does not depend on tables that it does not name.
-/

namespace ChangeRouting

open Query (Token)

/-! ## names -/

/-- Capital and small letters of ASCII, one by one. -/
theorem toLower_eq (s : String) : s.toLower = String.ofList (s.toList.map Char.toLower) :=
  String.toList_injective (String.toList_map.trans String.toList_ofList.symm)

theorem toUpper_eq (s : String) : s.toUpper = String.ofList (s.toList.map Char.toUpper) :=
  String.toList_injective (String.toList_map.trans String.toList_ofList.symm)

/-! ## what is relied on -/

namespace LookupSpec

/-- An engine answers the query of a specification with these rows, one after the other. -/
def Yields (spec : LookupSpec) (engine : QueryEngine) (store : Store)
    (rows : List (Option String × Option String)) : Prop :=
  engine.answer store spec.query (fun _ => none) =
    rows.map fun row => .ok [.ofText? row.1, .ofText? row.2]

/-- An engine answers the query with these rows, in any order and each as often as it likes. -/
def Shows (spec : LookupSpec) (engine : QueryEngine) (store : Store)
    (rows : List (Option String × Option String)) : Prop :=
  ∃ listed, spec.Yields engine store listed ∧ ∀ row, row ∈ listed ↔ row ∈ rows

/-- A name that stands for itself: one part only, and no word that means something else in a query. -/
structure IsPlain (name : String) : Prop where
  dotless : '.' ∉ name.toList
  free : PlainQuery.isReserved name = false

/-- The words that stand for themselves even where a column has their name: nothing, and the time. -/
def constants : List String := ["null", "current_date", "current_time", "current_timestamp"]

/-- A plain name that stands for a column: no constant, and no word that begins an expression. -/
structure NamesColumn (name : String) (columns : List Column) (position : Nat) : Prop extends
    IsPlain name where
  notConstant : name.toLower ∉ constants
  operand : PlainQuery.isOperator name = false
  found : columns.findIdx? (sameName name ·.name) = some position

/-- The store has these rows: the names are plain, and in the table and the columns that they stand for there
are texts and nulls. -/
def Finds (spec : LookupSpec) (store : Store) (rows : List (Option String × Option String)) : Prop :=
  IsPlain spec.table ∧ ∃ table key external, store.table? spec.table = some table ∧
    NamesColumn spec.tableKey table.columns key ∧
    NamesColumn spec.tableExternal table.columns external ∧
    List.Forall₂ (fun row pair => row.getD key .null = Cell.ofText? pair.1 ∧
      row.getD external .null = Cell.ofText? pair.2) table.rows rows

end LookupSpec

/-- An engine that is asked for two columns of a table, by plain names, answers with what is in them. -/
def QueryEngine.ReadsColumns (engine : QueryEngine) : Prop :=
  ∀ spec : LookupSpec, (∀ setting ∈ spec.settings, LookupSpec.IsQualified setting.2.toList) →
    ∀ store rows, spec.Finds store rows → spec.Shows engine store rows

/-! ## the engine for plain queries -/

section plain

variable {now : Millis} {spec : LookupSpec} {store : Store} {rows : List (Option String × Option String)}

theorem LookupSpec.IsPlain.nameTokens {name : String} (h : IsPlain name) :
    LookupSpec.nameTokens name = [.word name] := by
  rw [LookupSpec.nameTokens, Text.splitAll_of_not_mem h.dotless]
  simp [partTokens]

theorem constant?_of_not_mem {name : String} (h : name.toLower ∉ LookupSpec.constants) :
    PlainQuery.constant? now name = none := by
  rw [PlainQuery.constant?]
  split <;> simp_all [LookupSpec.constants]

theorem LookupSpec.NamesColumn.selected {name owner : String} {columns : List Column} {position : Nat}
    (h : NamesColumn name columns position) :
    PlainQuery.selected now owner columns [name] = .ok (.cell position) := by
  simp [PlainQuery.selected, PlainQuery.column, constant?_of_not_mem h.notConstant, h.operand, h.free, h.found]

/-- Two columns of a table come to what is in them, row by row. -/
theorem rows_of_columns {name first second : String} {table : Table} {left right : Nat} {bound : Bindings}
    (hname : LookupSpec.IsPlain name) (hfound : store.table? name = some table)
    (hfirst : LookupSpec.NamesColumn first table.columns left)
    (hsecond : LookupSpec.NamesColumn second table.columns right) :
    PlainQuery.rows ⟨[[first], [second]], [name], none⟩ now store bound =
      .ok (table.rows.map fun row => [row.getD left .null, row.getD right .null]) := by
  have hreadable : store.readable? name = some table := by simp [Store.readable?, hfound]
  have hitems : [[first], [second]].mapM (PlainQuery.selected now name table.columns) =
      .ok [.cell left, .cell right] := by
    simp only [List.mapM_cons, List.mapM_nil, hfirst.selected, hsecond.selected]
    rfl
  simp only [PlainQuery.rows, PlainQuery.tableName, hname.free, PlainQuery.having, Option.elim_none, bind,
    Except.bind, Bool.false_eq_true, if_false, hreadable, hitems]
  refine congrArg Except.ok (List.ext_getElem? fun place => ?_)
  simp [PlainQuery.Selected.read]

section qualified

variable (hqualified : ∀ setting ∈ spec.settings, LookupSpec.IsQualified setting.2.toList)
include hqualified

/-- The query of a lookup router is read as one for two columns. -/
theorem parse?_query (htable : LookupSpec.IsPlain spec.table) (hkey : LookupSpec.IsPlain spec.tableKey)
    (hexternal : LookupSpec.IsPlain spec.tableExternal) :
    PlainQuery.parse? spec.query =
      some ⟨[[spec.tableKey], [spec.tableExternal]], [spec.table], none⟩ := by
  rw [PlainQuery.parse?, LookupSpec.scan_query hqualified, htable.nameTokens, hkey.nameTokens,
    hexternal.nameTokens]
  have hselect : Token.isWord (.word "SELECT") "SELECT" = true := by decide +kernel
  have hfrom : Token.isWord (.word "FROM") "FROM" = true := by decide +kernel
  simp [PlainQuery.ofTokens?, PlainQuery.behind, PlainQuery.readNames, hselect, hfrom]

/-- The engine for plain queries answers with the rows of the table, in their order. -/
theorem plain_yields_of_finds (h : spec.Finds store rows) : spec.Yields (.plain now) store rows := by
  obtain ⟨hname, table, key, external, hfound, hkey, hexternal, hrows⟩ := h
  have hcells : table.rows.map (fun row => [row.getD key .null, row.getD external .null]) =
      rows.map fun row => [Cell.ofText? row.1, Cell.ofText? row.2] := by
    rw [← List.forall₂_eq_eq_eq, List.forall₂_map_left_iff, List.forall₂_map_right_iff]
    refine hrows.imp ?_
    rintro row pair ⟨hfirst, hsecond⟩
    rw [hfirst, hsecond]
  simp only [LookupSpec.Yields, QueryEngine.plain, rows_of_columns hname hfound hkey hexternal, hcells,
    parse?_query hqualified hname hkey.toIsPlain hexternal.toIsPlain, List.map_map, Function.comp_def]

/-- A lookup table that holds the same is read alike in any store and at any time. -/
theorem plain_answer_eq {later : Millis} {other : Store} (h : spec.Finds store rows)
    (hother : spec.Finds other rows) :
    (QueryEngine.plain now).answer store spec.query (fun _ => none) =
      (QueryEngine.plain later).answer other spec.query (fun _ => none) :=
  (plain_yields_of_finds hqualified h).trans (plain_yields_of_finds hqualified hother).symm

end qualified

theorem plain_readsColumns : (QueryEngine.plain now).ReadsColumns :=
  fun _ hqualified _ rows hfinds => ⟨rows, plain_yields_of_finds hqualified hfinds, fun _ => Iff.rfl⟩

end plain

/-! ## what is hidden -/

/-- The names under which a lookup finds what is hidden: the tables, and the table of the ids they gave
out last. -/
def hiddenNames (hidden : List TableName) : List String :=
  "sqlite_sequence" :: hidden.map TableName.text

section hidden

variable {hidden : List TableName} {store other : Store}

theorem typed?_of_view (h : store.view hidden = other.view hidden) {name : TableName}
    (hname : name ∉ hidden) : store.typed? name = other.typed? name := by
  have htables := congrFun (congrArg View.tables h) name
  simp only [Store.view, hname, if_false] at htables
  exact Option.map_injective (fun _ _ => Option.some.inj) htables

theorem isSome_typed?_of_view (h : store.view hidden = other.view hidden) (name : TableName) :
    (store.typed? name).isSome = (other.typed? name).isSome := by
  have htables := congrArg Option.isSome (congrFun (congrArg View.tables h) name)
  rw [Store.view, Store.view, Option.isSome_map, Option.isSome_map] at htables
  exact htables

/-- A table that is not hidden is found with what is in it. -/
theorem table?_of_view (h : store.view hidden = other.view hidden) {name : String}
    (hname : ∀ table ∈ hidden, sameName table.text name = false) :
    store.table? name = other.table? name := by
  have htyped : (TableName.ofText? name).bind store.typed? =
      (TableName.ofText? name).bind other.typed? := by
    cases hfound : TableName.ofText? name with
    | none => rfl
    | some table =>
        refine typed?_of_view h fun hhidden => ?_
        rw [TableName.ofText?] at hfound
        have hsame : sameName table.text name = true := (List.find?_some hfound :)
        rw [hname table hhidden] at hsame
        contradiction
  rw [Store.table?, Store.table?, htyped, foreign?_of_view h]

theorem sameName_comm (a b : String) : sameName a b = sameName b a := decide_eq_decide.2 eq_comm

/-- So is one in which the store speaks about itself, but for the ids given out last. -/
theorem readable?_of_view (h : store.view hidden = other.view hidden) {name : String}
    (hname : ∀ other ∈ hiddenNames hidden, sameName name other = false) :
    store.readable? name = other.readable? name := by
  have htable : store.table? name = other.table? name := by
    refine table?_of_view h fun table htable => ?_
    rw [sameName_comm]
    exact hname _ (List.mem_cons_of_mem _ (List.mem_map_of_mem htable))
  have hcatalogue : store.catalogue = other.catalogue :=
    Store.catalogue_congr (isSome_typed?_of_view h) (congrArg View.foreign h)
  rw [Store.readable?, Store.readable?, htable, hcatalogue, hname _ List.mem_cons_self]
  rfl

/-- The engine for plain queries looks only at the table that a query names. -/
theorem plain_overlooks {now : Millis} {query : String}
    (h : ∀ plain, PlainQuery.parse? query = some plain → ∀ name, PlainQuery.tableName plain.table = .ok name →
      ∀ other ∈ hiddenNames hidden, sameName name other = false) :
    (QueryEngine.plain now).Overlooks hidden query := by
  intro store other hview
  funext bound
  simp only [QueryEngine.plain]
  cases hparse : PlainQuery.parse? query with
  | none => rfl
  | some plain =>
      cases hname : PlainQuery.tableName plain.table with
      | error fault => simp only [PlainQuery.rows, hname]; rfl
      | ok name =>
          have hreadable := readable?_of_view hview (h plain hparse name hname)
          simp only [PlainQuery.rows, hname, bind, Except.bind, hreadable]

end hidden

end ChangeRouting
