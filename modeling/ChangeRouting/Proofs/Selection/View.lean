import ChangeRouting.Proofs.Work
import ChangeRouting.Service.Pass

/-!
# ChangeRouting.Proofs.Selection.View

What routers can see of a store.

* `Store.view` — the tables of a store, with some tables only as far as they are there;
* `QueryEngine.Overlooks` — what is in some tables makes no difference to the answer to a query;
* `select_of_view`, `decide_of_view` — routers whose queries overlook the tables left out decide the same in
  every store with the same view.
-/

namespace ChangeRouting

/-- What can be seen of a store. -/
structure View where
  nodes : Option (List Node)
  redirects : Option (List (String × String))
  foreign : List Table
  /-- Which tables are there, and what is in those that are shown. -/
  tables : TableName → Option (Option Table)

/-- What can be seen of a store that does not show what is in some tables. -/
def Store.view (hidden : List TableName) (store : Store) : View where
  nodes := store.nodes
  redirects := store.redirects
  foreign := store.foreign
  tables name := (store.typed? name).map fun table => if name ∈ hidden then none else some table

/-- An engine answers a query alike in all stores that look alike where some tables are hidden. -/
def QueryEngine.Overlooks (engine : QueryEngine) (hidden : List TableName) (query : String) : Prop :=
  ∀ store other : Store, store.view hidden = other.view hidden →
    engine.answer store query = engine.answer other query

/-- The queries that a router makes, each with the engine it asks. -/
def ResolvedRouter.queries (resolved : ResolvedRouter) : List (QueryEngine × String) :=
  match resolved.strategy with
  | .lookup engine =>
    (LookupSpec.parse resolved.router.text).toOption.toList.map fun spec => (engine, spec.query)
  | .subselect engine => [(engine, Subselect.query resolved.router.text)]
  | _ => []

/-- What the routers of a service ask for does not depend on what is in these tables. -/
def Service.Overlooks (service : Service) (hidden : List TableName) : Prop :=
  ∀ trigger, ∀ resolved ∈ service.routersOf trigger, ∀ asked ∈ resolved.queries,
    asked.1.Overlooks hidden asked.2

/-- It is enough to ask the routers that are attached. -/
theorem Service.overlooks_of_attached {service : Service} {hidden : List TableName}
    (h : ∀ entry ∈ service.attached, ∀ resolved ∈ entry.2, ∀ asked ∈ resolved.queries,
      asked.1.Overlooks hidden asked.2) : service.Overlooks hidden := by
  intro trigger resolved hresolved
  rw [Service.routersOf] at hresolved
  cases hfound : service.attached.lookup trigger with
  | none =>
      rw [hfound] at hresolved
      exact (List.not_mem_nil hresolved).elim
  | some routers =>
      rw [hfound] at hresolved
      obtain ⟨front, back, hattached, -⟩ := List.lookup_eq_some_iff.1 hfound
      have hentry : (trigger, routers) ∈ service.attached :=
        hattached ▸ List.mem_append_right _ List.mem_cons_self
      exact h _ hentry resolved hresolved

section view

variable {hidden : List TableName} {store other : Store}

/-! ## tables -/

/-- Where more is hidden, stores that looked alike still do. -/
theorem view_of_subset {others : List TableName} (hsub : others ⊆ hidden)
    (h : store.view others = other.view others) : store.view hidden = other.view hidden := by
  have hview : ∀ store : Store, (store.view hidden).tables =
      fun name => ((store.view others).tables name).map fun shown =>
        if name ∈ hidden then none else shown := by
    refine fun store => funext fun name => ?_
    by_cases hname : name ∈ hidden
    · simp [Store.view, hname, Function.comp_def]
    · simp [Store.view, hname, mt (@hsub name) hname, Function.comp_def]
  have htables : (store.view hidden).tables = (other.view hidden).tables := by rw [hview, hview, h]
  simp only [Store.view, View.mk.injEq] at h htables ⊢
  exact ⟨h.1, h.2.1, h.2.2.1, htables⟩

theorem foreign?_of_view (h : store.view hidden = other.view hidden) (name : String) :
    store.foreign? name = other.foreign? name := by
  rw [Store.foreign?, Store.foreign?, show store.foreign = other.foreign from congrArg View.foreign h]

theorem loose_of_view (h : store.view hidden = other.view hidden) (name : TableName) :
    store.loose name = other.loose name := by
  rw [Store.loose, Store.loose, foreign?_of_view h]

theorem allNodes_of_view (h : store.view hidden = other.view hidden) :
    store.allNodes = other.allNodes := by
  rw [Store.allNodes, Store.allNodes, show store.nodes = other.nodes from congrArg View.nodes h,
    loose_of_view h]

theorem allRedirects_of_view (h : store.view hidden = other.view hidden) :
    store.allRedirects = other.allRedirects := by
  rw [Store.allRedirects, Store.allRedirects,
    show store.redirects = other.redirects from congrArg View.redirects h, loose_of_view h]

/-! ## strategies -/

theorem Service.Overlooks.mono {service : Service} {others : List TableName} (h : service.Overlooks hidden)
    (hsub : others ⊆ hidden) : service.Overlooks others :=
  fun trigger resolved hresolved asked hasked store other hview =>
    h trigger resolved hresolved asked hasked store other (view_of_subset hsub hview)

/-- What is read for a query does not depend on what its engine overlooks. -/
theorem QueryEngine.Overlooks.read {engine : QueryEngine} {query : String}
    (hengine : engine.Overlooks hidden query) (h : store.view hidden = other.view hidden) (bound : Bindings)
    (readRow : List Cell → Except StatementFault α) :
    engine.read store query bound readRow = engine.read other query bound readRow := by
  rw [QueryEngine.read, QueryEngine.read, hengine store other h]

/-- A strategy decides the same in two stores with one view, if its query overlooks what is hidden. -/
theorem select_of_view (h : store.view hidden = other.view hidden) {strategy : Strategy} {q : Question}
    (hasked : ∀ asked ∈ (ResolvedRouter.mk q.router strategy).queries, asked.1.Overlooks hidden asked.2) :
    strategy.select store q = strategy.select other q := by
  cases strategy with
  | everyone => rfl
  | column =>
      rw [Strategy.select, Strategy.select, Strategy.selectColumn, Strategy.selectColumn,
        allRedirects_of_view h]
  | lookup engine =>
      have hcompute : (LookupSpec.parse q.router.text).bind (LookupTable.load engine · store) =
          (LookupSpec.parse q.router.text).bind (LookupTable.load engine · other) := by
        cases hparse : LookupSpec.parse q.router.text with
        | error fault => rfl
        | ok spec =>
            have hengine : engine.Overlooks hidden spec.query :=
              hasked (engine, spec.query) (by simp [ResolvedRouter.queries, hparse, Except.toOption])
            simp only [Except.bind, LookupTable.load, hengine.read h]
      simp only [Strategy.select, Strategy.selectLookup, bind, hcompute]
  | subselect engine =>
      have hengine : engine.Overlooks hidden (Subselect.query q.router.text) :=
        hasked (engine, _) (List.mem_singleton_self _)
      rw [Strategy.select, Strategy.select, Subselect.select, Subselect.select, Subselect.rows,
        Subselect.rows, hengine.read h]
  | topology marker =>
      rw [Strategy.select, Strategy.select, Strategy.selectTopology, Strategy.selectTopology,
        allNodes_of_view h]
  | script engine => rfl

/-! ## the routers of a service -/

variable {service : Service} {change : Change}

theorem ask_of_view (h : store.view hidden = other.view hidden) {nodes : List Node} {values : ColumnValues}
    {scope : RoutingScope} {routers : List ResolvedRouter}
    (hasked : ∀ resolved ∈ routers, ∀ asked ∈ resolved.queries, asked.1.Overlooks hidden asked.2) :
    service.ask nodes store change values scope routers =
      service.ask nodes other change values scope routers := by
  induction routers generalizing scope with
  | nil => rfl
  | cons resolved routers ih =>
      have hfirst : ∀ candidates initialLoad,
          resolved.strategy.select store ⟨resolved.router, change, values, candidates, initialLoad⟩ =
            resolved.strategy.select other ⟨resolved.router, change, values, candidates, initialLoad⟩ :=
        fun _ _ => select_of_view h (hasked resolved List.mem_cons_self)
      have hrest := fun scope => @ih scope fun later hlater =>
        hasked later (List.mem_cons_of_mem _ hlater)
      simp only [Service.ask, hfirst, hrest]

/-- The routers of a service decide the same about a change in two stores with one view. -/
theorem decide_of_view (h : store.view hidden = other.view hidden) (hoverlooks : service.Overlooks hidden)
    (lookups : Lookups) (scope : RoutingScope) :
    service.decide lookups store change scope = service.decide lookups other change scope := by
  rw [Service.decide, Service.decide]
  split
  · rfl
  · next snapshot _ =>
    simp only
    split
    · rfl
    · next first rest hfirst =>
      split
      · rfl
      · exact ask_of_view h fun resolved hresolved =>
          hoverlooks _ resolved (List.mem_filter.1 hresolved).1

end view

end ChangeRouting
