import ChangeRouting.Proofs.Work
import ChangeRouting.Selection.Strategy

/-!
# ChangeRouting.Proofs.Selection.Cache

What routers share does not let one of them speak through another.

The routers of a pass share a cache.  A column router keeps its tests there under a name made of its id,
and the redirects under a name that another router's id may make as well.

* `run_cached` — cached work in closed form;
* `Scope.Truthful` — what the cache holds for column routers is what they would read anew;
* `Scope.Concord` — two truthful scopes hold the same for all other routers;
* `Steady`, `steady_selectColumn` — in a truthful scope a column router ends as it would without a cache;
* `respects_select` — in scopes that concord a strategy ends alike, and leaves scopes that concord;
* `concord_of_failed` — a strategy that fails leaves a scope that concords with the one it found.
-/

namespace ChangeRouting

/-- The name under which the tests of a column router are cached. -/
def columnKey (id : String) : String := "column." ++ id

theorem columnKey_inj {id other : String} : columnKey id = columnKey other ↔ id = other := by
  constructor
  · intro h
    have hchars := congrArg String.toList h
    rw [columnKey, columnKey, String.toList_append, String.toList_append, List.append_right_inj] at hchars
    exact String.toList_injective hchars
  · exact congrArg columnKey

theorem lookupKey_ne_columnKey (router id : String) : "lookuptable." ++ router ≠ columnKey id := by
  intro h
  have hchars := congrArg (List.head? ∘ String.toList) h
  simp [columnKey, String.toList_append] at hchars

theorem treeKey_ne_columnKey (id : String) : "configurationChanged.tree" ≠ columnKey id := by
  intro h
  have hchars := congrArg (fun key => key.toList[2]?) h
  simp [columnKey, String.toList_append] at hchars

/-! ## cached work -/

/-- What is held under the name, or what is computed and then held there. -/
theorem run_cached (key : String) (kind : α → Entry) (kind? : Entry → Option α)
    (compute : Unit → Except Fault α) (scope : RoutingScope) :
    (Scoped.cached key kind kind? compute : Selecting α).run.run scope =
      match (scope.lookup? key).bind kind? with
      | some value => (.ok value, scope)
      | none =>
        match compute () with
        | .ok value => (.ok value, scope.put key (kind value))
        | .error fault => (.error fault, scope) := by
  rw [Scoped.cached, run_bind, run_get]
  simp only
  cases (scope.lookup? key).bind kind? with
  | some value => rfl
  | none =>
      rw [run_bind]
      cases compute () <;> rfl

/-! ## scopes that concord -/

namespace Scope

/-- What the cache of a scope holds for column routers is what they would read anew: the tests in the text
of a router, and the redirects of the store. -/
structure Truthful (texts : String → String) (store : Store) (scope : RoutingScope) : Prop where
  tests : ∀ id tests, scope.lookup? (columnKey id) = some (.tests tests) →
    ColumnTest.parse (texts id) = .ok tests
  redirects : ∀ entries, scope.lookup? (columnKey "redirects") = some (.redirects entries) →
    store.allRedirects = .ok entries

/-- Two truthful scopes differ at most in what their caches hold for column routers. -/
structure Concord (texts : String → String) (store : Store) (scope other : RoutingScope) : Prop where
  truthful : scope.Truthful texts store
  otherTruthful : other.Truthful texts store
  node : scope.node = other.node
  group : scope.group = other.group
  lookup? : ∀ key, (∀ id, key ≠ columnKey id) → scope.lookup? key = other.lookup? key

variable {texts : String → String} {store : Store} {scope other third : RoutingScope} {id key : String}
  {entry : Entry}

theorem truthful_new (node group channel : String) :
    (Scope.new node group channel : RoutingScope).Truthful texts store where
  tests _ _ h := by cases h
  redirects _ h := by cases h

namespace Truthful

variable (h : scope.Truthful texts store)
include h

theorem refl : scope.Concord texts store scope := ⟨h, h, rfl, rfl, fun _ _ => rfl⟩

theorem put_tests {tests : List ColumnTest} (hparse : ColumnTest.parse (texts id) = .ok tests) :
    (scope.put (columnKey id) (.tests tests)).Truthful texts store where
  tests other held := by
    rw [lookup?_put]
    split
    · next hsame =>
      rw [columnKey_inj.1 hsame]
      rintro ⟨⟩
      exact hparse
    · exact h.tests other held
  redirects entries := by
    rw [lookup?_put]
    split
    · exact fun hheld => by cases hheld
    · exact h.redirects entries

theorem put_redirects {entries : List (String × String)} (hread : store.allRedirects = .ok entries) :
    (scope.put (columnKey "redirects") (.redirects entries)).Truthful texts store where
  tests other held := by
    rw [lookup?_put]
    split
    · exact fun hheld => by cases hheld
    · exact h.tests other held
  redirects held := by
    rw [lookup?_put, if_pos rfl]
    rintro ⟨⟩
    exact hread

theorem put_other (hkey : ∀ id, key ≠ columnKey id) : (scope.put key entry).Truthful texts store where
  tests other held := by
    rw [lookup?_put, if_neg (hkey other).symm]
    exact h.tests other held
  redirects entries := by
    rw [lookup?_put, if_neg (hkey "redirects").symm]
    exact h.redirects entries

/-- What is held for a column router is no matter to others. -/
theorem concord_put (hput : (scope.put (columnKey id) entry).Truthful texts store) :
    scope.Concord texts store (scope.put (columnKey id) entry) where
  truthful := h
  otherTruthful := hput
  node := rfl
  group := rfl
  lookup? key hkey := by rw [lookup?_put, if_neg (hkey id)]

end Truthful

namespace Concord

theorem symm (h : scope.Concord texts store other) : other.Concord texts store scope :=
  ⟨h.otherTruthful, h.truthful, h.node.symm, h.group.symm, fun key hkey => (h.lookup? key hkey).symm⟩

theorem trans (h : scope.Concord texts store other) (h' : other.Concord texts store third) :
    scope.Concord texts store third :=
  ⟨h.truthful, h'.otherTruthful, h.node.trans h'.node, h.group.trans h'.group,
    fun key hkey => (h.lookup? key hkey).trans (h'.lookup? key hkey)⟩

theorem put_other (h : scope.Concord texts store other) (hkey : ∀ id, key ≠ columnKey id) :
    (scope.put key entry).Concord texts store (other.put key entry) where
  truthful := h.truthful.put_other hkey
  otherTruthful := h.otherTruthful.put_other hkey
  node := h.node
  group := h.group
  lookup? held hheld := by rw [lookup?_put, lookup?_put, h.lookup? held hheld]

end Concord

end Scope

section select

variable {texts : String → String} {store : Store} {q : Question} {outcome : Except Fault α}
  {work : Selecting α}

/-! ## column routers -/

/-- In every truthful scope the work ends this way, and what it caches is no matter to others. -/
def Steady (texts : String → String) (store : Store) (outcome : Except Fault α) (work : Selecting α) :
    Prop :=
  ∀ ⦃scope : RoutingScope⦄, scope.Truthful texts store →
    (work.run.run scope).1 = outcome ∧ scope.Concord texts store (work.run.run scope).2

theorem steady_pure (a : α) : Steady texts store (.ok a) (pure a : Selecting α) :=
  fun _ hscope => ⟨rfl, hscope.refl⟩

theorem Steady.bind {next : α → Selecting β} {following : α → Except Fault β}
    (hwork : Steady texts store outcome work)
    (hnext : ∀ a, Steady texts store (following a) (next a)) :
    Steady texts store (outcome >>= following) (work >>= next) := by
  intro scope hscope
  obtain ⟨hends, hmid⟩ := hwork hscope
  rw [run_bind]
  cases hrun : work.run.run scope with
  | mk result mid =>
      rw [hrun] at hends hmid
      cases hends
      cases result with
      | error fault => exact ⟨rfl, hmid⟩
      | ok a =>
          obtain ⟨hends, hafter⟩ := hnext a hmid.otherTruthful
          exact ⟨hends, hmid.trans hafter⟩

/-- Steady work ends alike in scopes that concord. -/
theorem Steady.respects (h : Steady texts store outcome work) :
    Respects (Scope.Concord texts store) work := by
  intro scope other hconcord
  obtain ⟨hends, hafter⟩ := h hconcord.truthful
  obtain ⟨hends', hafter'⟩ := h hconcord.otherTruthful
  exact ⟨hends.trans hends'.symm, hafter.symm.trans (hconcord.trans hafter')⟩

/-- What is cached for column routers is read as it would be anew. -/
theorem steady_cached (id : String) {kind : α → Entry} {kind? : Entry → Option α}
    {compute : Unit → Except Fault α}
    (hheld : ∀ scope : RoutingScope, scope.Truthful texts store → ∀ value,
      (scope.lookup? (columnKey id)).bind kind? = some value → compute () = .ok value)
    (hput : ∀ scope : RoutingScope, scope.Truthful texts store → ∀ value, compute () = .ok value →
      (scope.put (columnKey id) (kind value)).Truthful texts store) :
    Steady texts store (compute ()) (Scoped.cached (columnKey id) kind kind? compute) := by
  intro scope hscope
  rw [run_cached]
  cases hhit : (scope.lookup? (columnKey id)).bind kind? with
  | some value => exact ⟨(hheld scope hscope value hhit).symm, hscope.refl⟩
  | none =>
      cases hcompute : compute () with
      | error fault => exact ⟨rfl, hscope.refl⟩
      | ok value => exact ⟨rfl, hscope.concord_put (hput scope hscope value hcompute)⟩

/-- What a column router selects where nothing is cached. -/
def columnOutcome (store : Store) (q : Question) : Except Fault NodeSet := do
  let tests ← ColumnTest.parse q.router.text
  let redirects ← if tests.any (·.operand = .redirect) then store.allRedirects else .ok []
  return ColumnTest.select tests q.values redirects q.candidates

/-- In a truthful scope a column router ends as it does where nothing is cached. -/
theorem steady_selectColumn (htext : texts q.router.id = q.router.text) :
    Steady texts store (columnOutcome store q) (Strategy.selectColumn store q) := by
  refine Steady.bind (steady_cached q.router.id ?_ ?_) fun tests => ?_
  · intro scope hscope tests hheld
    obtain ⟨entry, hentry, hkind⟩ := Option.bind_eq_some_iff.1 hheld
    cases entry with
    | tests held =>
        cases hkind
        rw [← htext]
        exact hscope.tests _ _ hentry
    | _ => cases hkind
  · intro scope hscope tests hparse
    exact hscope.put_tests (htext ▸ hparse)
  · simp only
    by_cases hneeds : tests.any (·.operand = .redirect) = true
    · rw [if_pos hneeds, if_pos hneeds]
      refine Steady.bind (steady_cached "redirects" ?_ fun scope hscope entries =>
        hscope.put_redirects) fun redirects => steady_pure _
      intro scope hscope entries hheld
      obtain ⟨entry, hentry, hkind⟩ := Option.bind_eq_some_iff.1 hheld
      cases entry with
      | redirects held =>
          cases hkind
          exact hscope.redirects _ hentry
      | _ => cases hkind
    · rw [if_neg hneeds, if_neg hneeds]
      exact (steady_pure _).bind fun _ => steady_pure _

/-! ## all strategies -/

/-- What is cached for other routers is held in both of two scopes that concord, or in neither. -/
theorem respects_cached {key : String} (hkey : ∀ id, key ≠ columnKey id) (kind : α → Entry)
    (kind? : Entry → Option α) (compute : Unit → Except Fault α) :
    Respects (Scope.Concord texts store) (Scoped.cached key kind kind? compute) := by
  intro scope other hconcord
  rw [run_cached, run_cached, ← hconcord.lookup? key hkey]
  cases (scope.lookup? key).bind kind? with
  | some value => exact ⟨rfl, hconcord⟩
  | none =>
      cases compute () with
      | error fault => exact ⟨rfl, hconcord⟩
      | ok value => exact ⟨rfl, hconcord.put_other hkey⟩

theorem respects_selectLookup (engine : QueryEngine) :
    Respects (Scope.Concord texts store) (Strategy.selectLookup engine store q) :=
  (respects_cached (lookupKey_ne_columnKey _) _ _ _).bind fun _ => respects_pure _

theorem respects_selectTopology (marker : String) :
    Respects (Scope.Concord texts store) (Strategy.selectTopology marker store q) := by
  simp only [Strategy.selectTopology]
  split
  · exact respects_pure _
  · split
    · exact respects_pure _
    · refine (respects_cached treeKey_ne_columnKey _ _ _).bind fun tree => ?_
      refine respects_get_bind (fun scope other hconcord => ?_) fun _ => respects_pure _
      rw [hconcord.node]
  · exact respects_pure _
  · refine Respects.bind (respects_modify fun scope other hconcord => ?_) fun _ => respects_pure _
    exact ⟨⟨hconcord.truthful.tests, hconcord.truthful.redirects⟩,
      ⟨hconcord.otherTruthful.tests, hconcord.otherTruthful.redirects⟩, hconcord.node, hconcord.group,
      hconcord.lookup?⟩

theorem respects_selectScript (engine : ScriptEngine) :
    Respects (Scope.Concord texts store) (Strategy.selectScript engine q) := by
  refine respects_get_bind (fun scope other hconcord => ?_) fun scope => ?_
  · rw [hconcord.node, hconcord.group]
  · exact (respects_const _).bind fun _ => respects_pure _

/-- In scopes that concord a strategy ends alike, and leaves scopes that concord. -/
theorem respects_select (htext : texts q.router.id = q.router.text) (strategy : Strategy) :
    Respects (Scope.Concord texts store) (strategy.select store q) := by
  cases strategy with
  | everyone => exact respects_pure _
  | column => exact (steady_selectColumn htext).respects
  | lookup engine => exact respects_selectLookup engine
  | subselect engine => exact respects_const _
  | topology marker => exact respects_selectTopology marker
  | script engine => exact respects_selectScript engine

/-! ## strategies that fail -/

/-- Where what follows cannot fail, the work itself failed. -/
theorem run_eq_error_of_bind {next : α → Selecting β} {scope after : RoutingScope} {fault : Fault}
    (hnext : ∀ a scope, ((next a).run.run scope).1.isOk = true)
    (h : (work >>= next).run.run scope = (.error fault, after)) :
    work.run.run scope = (.error fault, after) := by
  rw [run_bind] at h
  cases hrun : work.run.run scope with
  | mk result mid =>
      rw [hrun] at h
      cases result with
      | error fault =>
          cases h
          rfl
      | ok a =>
          have hends := hnext a mid
          rw [show (next a).run.run mid = (.error fault, after) from h] at hends
          cases hends

/-- Cached work that fails caches nothing. -/
theorem run_cached_eq_error {key : String} {kind : α → Entry} {kind? : Entry → Option α}
    {compute : Unit → Except Fault α} {scope after : RoutingScope} {fault : Fault}
    (h : (Scoped.cached key kind kind? compute : Selecting α).run.run scope = (.error fault, after)) :
    after = scope := by
  rw [run_cached] at h
  split at h
  · cases h
  · split at h
    · cases h
    · cases h
      rfl

theorem run_const_eq_error {scope after : RoutingScope} {fault : Fault}
    (h : (Strategy.outside outcome).run.run scope = (.error fault, after)) : after = scope := by
  cases h
  rfl

theorem run_selectTopology_eq_error {marker : String} {scope after : RoutingScope} {fault : Fault}
    (h : (Strategy.selectTopology marker store q).run.run scope = (.error fault, after)) :
    after = scope := by
  simp only [Strategy.selectTopology] at h
  split at h
  · cases h
  · split at h
    · cases h
    · exact run_cached_eq_error (run_eq_error_of_bind (fun _ _ => rfl) h)
  · cases h
  · cases h

/-- A strategy that fails leaves a scope that concords with the one it found. -/
theorem concord_of_failed (htext : texts q.router.id = q.router.text) {strategy : Strategy}
    {scope after : RoutingScope} {fault : Fault} (hscope : scope.Truthful texts store)
    (h : (strategy.select store q).run.run scope = (.error fault, after)) :
    scope.Concord texts store after := by
  cases strategy with
  | everyone => cases h
  | column =>
      have hafter := (steady_selectColumn htext hscope).2
      rw [show (Strategy.selectColumn store q).run.run scope = (.error fault, after) from h] at hafter
      exact hafter
  | lookup engine =>
      rw [run_cached_eq_error (run_eq_error_of_bind (fun _ _ => rfl) h)]
      exact hscope.refl
  | subselect engine =>
      rw [run_const_eq_error h]
      exact hscope.refl
  | topology marker =>
      rw [run_selectTopology_eq_error h]
      exact hscope.refl
  | script engine =>
      rw [Strategy.select, Strategy.selectScript, run_bind, run_get] at h
      rw [run_const_eq_error (run_eq_error_of_bind (fun _ _ => rfl) h)]
      exact hscope.refl

end select

end ChangeRouting
