import ChangeRouting.Proofs.Selection.Cache
import ChangeRouting.Proofs.Selection.Hooks
import ChangeRouting.Query.Plain
import Mathlib.Data.List.Nodup
import Mathlib.Data.List.Perm.Basic

/-!
# ChangeRouting.Proofs.Selection.Calls

Routers do not notice that they share a cache.

The routers of a pass are called one after the other, about one row after the other, and keep in one cache
what depends on a router or on the store alone.  Names in the cache are made of the ids of routers, which may
be any texts, so two kinds of entries can come under one name.

* `Call` — a router that is called, in a store and by a strategy that may ask an engine;
* `Kept` — what a call may put into the cache, and under which name;
* `leaves_select` — after a call the cache holds what it held, or what the call may put there;
* `Scope.Tells` — what the cache holds for a call is what it would read anew;
* `Scope.Tells.after` — so it stays, whichever other router is called;
* `alike_select` — two scopes that tell a call what it would read give the same answer;
* `caching_is_invisible` — so a router that is called after any others answers as the first one called.
-/

namespace ChangeRouting

/-- The name under which the table of a lookup router is cached. -/
def lookupKey (id : String) : String := "lookuptable." ++ id

theorem lookupKey_inj {id other : String} : lookupKey id = lookupKey other ↔ id = other :=
  String.append_right_inj _

/-- The name under which the registration tree is cached. -/
def treeKey : String := "configurationChanged.tree"

/-- The table a lookup router reads, as an engine answers. -/
def QueryEngine.tableOf (engine : QueryEngine) (store : Store) (text : String) :
    Except Fault LookupTable := do
  LookupTable.load engine (← LookupSpec.parse text) store

/-- The registration tree, as the store has it. -/
def Store.tree (store : Store) : Except Fault NodeTree := NodeTree.ofNodes <$> store.allNodes

/-- A router that is called: by which strategy it selects, in which store, and what it is asked.  A strategy
that asks an engine for rows asks it as it is at the moment of the call. -/
structure Call where
  strategy : Strategy
  store : Store
  question : Question

/-- The router that is called. -/
def Call.callee (call : Call) : Router := call.question.router

/-! ## what a call leaves in the cache -/

/-- What a call may put into the cache under a name. -/
inductive Kept (call : Call) (key : String) : Entry → Prop
  | tests {tests : List ColumnTest} : key = columnKey call.callee.id →
      ColumnTest.parse call.callee.text = .ok tests → Kept call key (.tests tests)
  | redirects {entries : List (String × String)} : call.store.allRedirects = .ok entries →
      Kept call key (.redirects entries)
  | lookup {engine : QueryEngine} {table : LookupTable} : call.strategy = .lookup engine →
      key = lookupKey call.callee.id → engine.tableOf call.store call.callee.text = .ok table →
      Kept call key (.lookup table)
  | tree {tree : NodeTree} : call.store.tree = .ok tree → Kept call key (.tree tree)

/-- However the work ends, the cache then holds what it held, or what may be put there. -/
def Leaves (call : Call) (work : Selecting α) : Prop :=
  ∀ ⦃scope : RoutingScope⦄ ⦃key entry⦄, (work.run.run scope).2.lookup? key = some entry →
    scope.lookup? key = some entry ∨ Kept call key entry

section leaves

variable {call : Call} {work : Selecting α}

theorem leaves_of_keeps (h : Keeps Scope.cache work) : Leaves call work := by
  intro scope key entry hheld
  rw [Scope.lookup?, h scope] at hheld
  exact Or.inl hheld

theorem Leaves.bind {next : α → Selecting β} (hwork : Leaves call work)
    (hnext : ∀ a, Leaves call (next a)) : Leaves call (work >>= next) := by
  intro scope key entry hheld
  rw [run_bind] at hheld
  have hfirst := @hwork scope key entry
  cases hrun : work.run.run scope with
  | mk outcome mid =>
      rw [hrun] at hheld hfirst
      cases outcome with
      | error fault => exact hfirst hheld
      | ok a => exact (hnext a hheld).elim hfirst Or.inr

theorem leaves_cached {key : String} {kind : α → Entry} {kind? : Entry → Option α}
    {compute : Unit → Except Fault α} (h : ∀ value, compute () = .ok value → Kept call key (kind value)) :
    Leaves call (Scoped.cached key kind kind? compute) := by
  intro scope held entry hheld
  rw [run_cached] at hheld
  split at hheld
  · exact Or.inl hheld
  · split at hheld
    · next value hvalue =>
      simp only [Scope.lookup?_put] at hheld
      split at hheld
      · next hkey =>
        cases hheld
        exact Or.inr (hkey ▸ h value hvalue)
      · exact Or.inl hheld
    · exact Or.inl hheld

theorem leaves_selectColumn : Leaves call (Strategy.selectColumn call.store call.question) := by
  refine (leaves_cached fun _ => Kept.tests rfl).bind fun tests => ?_
  simp only
  split
  · exact (leaves_cached fun _ => Kept.redirects).bind fun _ => leaves_of_keeps (keeps_pure _)
  · exact leaves_of_keeps ((keeps_pure _).bind fun _ => keeps_pure _)

theorem leaves_selectLookup {engine : QueryEngine} (h : call.strategy = .lookup engine) :
    Leaves call (Strategy.selectLookup engine call.store call.question) :=
  (leaves_cached fun _ => Kept.lookup h rfl).bind fun _ => leaves_of_keeps (keeps_pure _)

theorem leaves_selectTopology (marker : String) :
    Leaves call (Strategy.selectTopology marker call.store call.question) := by
  simp only [Strategy.selectTopology]
  split
  · exact leaves_of_keeps (keeps_pure _)
  · split
    · exact leaves_of_keeps (keeps_pure _)
    · exact (leaves_cached fun _ => Kept.tree).bind fun _ =>
        leaves_of_keeps (keeps_get.bind fun _ => keeps_pure _)
  · exact leaves_of_keeps (keeps_pure _)
  · exact leaves_of_keeps (.bind (keeps_modify fun _ => rfl) fun _ => keeps_pure _)

/-- After a call the cache holds what it held, or what the call may put there. -/
theorem leaves_select : Leaves call (call.strategy.select call.store call.question) := by
  cases hstrategy : call.strategy with
  | everyone => exact leaves_of_keeps (keeps_pure _)
  | column => exact leaves_selectColumn
  | lookup engine => exact leaves_selectLookup hstrategy
  | subselect engine => exact leaves_of_keeps fun _ => rfl
  | topology marker => exact leaves_selectTopology marker
  | script engine =>
      exact leaves_of_keeps (keeps_get.bind fun _ => .bind (fun _ => rfl) fun _ => keeps_pure _)

end leaves

/-! ## what the cache tells a router -/

namespace Scope

/-- What the cache holds for a call is what it would read anew. -/
structure Tells (call : Call) (scope : RoutingScope) : Prop where
  tests : ∀ tests, scope.lookup? (columnKey call.callee.id) = some (.tests tests) →
    ColumnTest.parse call.callee.text = .ok tests
  redirects : ∀ entries, scope.lookup? (columnKey "redirects") = some (.redirects entries) →
    call.store.allRedirects = .ok entries
  lookup : ∀ engine, call.strategy = .lookup engine →
    ∀ table, scope.lookup? (lookupKey call.callee.id) = some (.lookup table) →
      engine.tableOf call.store call.callee.text = .ok table
  tree : ∀ tree, scope.lookup? treeKey = some (.tree tree) → call.store.tree = .ok tree

theorem tells_new (call : Call) (node group channel : String) :
    (Scope.new node group channel : RoutingScope).Tells call where
  tests _ h := by cases h
  redirects _ h := by cases h
  lookup _ _ _ h := by cases h
  tree _ h := by cases h

end Scope

namespace Call

/-- What a call reads besides the change, another call of its router reads as well: the nodes, the redirects
and the table of a lookup router. -/
structure ReadsLike (call other : Call) : Prop where
  nodes : call.store.allNodes = other.store.allNodes
  redirects : call.store.allRedirects = other.store.allRedirects
  lookup : call.callee = other.callee → ∀ engine, call.strategy = .lookup engine →
    ∀ same, other.strategy = .lookup same →
      engine.tableOf call.store call.callee.text = same.tableOf other.store other.callee.text

/-- The call of one of some routers, at a moment at which a store has the nodes and the redirects of another
one, and an engine answers the query of the router as another one does there. -/
structure Within (routers : List Router) (engine : QueryEngine) (base : Store) (call : Call) : Prop where
  router : call.callee ∈ routers
  nodes : call.store.allNodes = base.allNodes
  redirects : call.store.allRedirects = base.allRedirects
  lookup : ∀ own, call.strategy = .lookup own →
    ∀ spec, LookupSpec.parse call.callee.text = .ok spec →
      own.answer call.store spec.query (fun _ => none) = engine.answer base spec.query (fun _ => none)

end Call

section tells

variable {routers : List Router} {engine : QueryEngine} {base : Store} {call one : Call}
  {scope later : RoutingScope}

theorem Call.ReadsLike.refl (call : Call) : call.ReadsLike call where
  nodes := rfl
  redirects := rfl
  lookup _ engine hengine same hsame := by
    rw [hengine] at hsame
    cases hsame
    rfl

/-- What an engine answers is all that counts for the table of a lookup router. -/
theorem load_congr {other : QueryEngine} {store : Store} {spec : LookupSpec}
    (h : engine.answer base spec.query (fun _ => none) = other.answer store spec.query (fun _ => none)) :
    LookupTable.load engine spec base = LookupTable.load other spec store := by
  rw [LookupTable.load, LookupTable.load, QueryEngine.read, QueryEngine.read, h]

theorem Call.Within.readsLike (hone : one.Within routers engine base) (hcall : call.Within routers engine base) :
    one.ReadsLike call where
  nodes := hone.nodes.trans hcall.nodes.symm
  redirects := hone.redirects.trans hcall.redirects.symm
  lookup hcallee own hown same hsame := by
    rw [QueryEngine.tableOf, QueryEngine.tableOf, hcallee]
    cases hparse : LookupSpec.parse call.callee.text with
    | error fault => rfl
    | ok spec =>
        exact load_congr ((hone.lookup own hown spec (hcallee ▸ hparse)).trans
          (hcall.lookup same hsame spec hparse).symm)

/-- The cache goes on telling a call what it would read, whichever router is called: one of another id, or
the same. -/
theorem Scope.Tells.after (h : scope.Tells call)
    (hleft : ∀ key entry, later.lookup? key = some entry →
      scope.lookup? key = some entry ∨ Kept one key entry)
    (hrouter : one.callee.id = call.callee.id → one.callee = call.callee) (hreads : one.ReadsLike call) :
    later.Tells call where
  tests tests hheld := by
    rcases hleft _ _ hheld with hbefore | hkept
    · exact h.tests tests hbefore
    · cases hkept with
      | tests hkey hparse => exact hrouter (columnKey_inj.1 hkey).symm ▸ hparse
  redirects entries hheld := by
    rcases hleft _ _ hheld with hbefore | hkept
    · exact h.redirects entries hbefore
    · cases hkept with
      | redirects hread => exact hreads.redirects ▸ hread
  lookup engine hengine table hheld := by
    rcases hleft _ _ hheld with hbefore | hkept
    · exact h.lookup engine hengine table hbefore
    · cases hkept with
      | lookup hown hkey hread =>
          rw [hreads.lookup (hrouter (lookupKey_inj.1 hkey).symm) _ hown engine hengine] at hread
          exact hread
  tree tree hheld := by
    rcases hleft _ _ hheld with hbefore | hkept
    · exact h.tree tree hbefore
    · cases hkept with
      | tree hread =>
          rw [Store.tree, hreads.nodes] at hread
          exact hread

end tells

/-! ## what a router answers -/

/-- The node that does the routing, and its group. -/
def Scope.identity (scope : RoutingScope) : String × String := (scope.node, scope.group)

/-- Two scopes of one node tell a call what it would read anew. -/
structure Scope.Alike (call : Call) (scope other : RoutingScope) : Prop where
  tells : scope.Tells call
  otherTells : other.Tells call
  identity : scope.identity = other.identity

section answers

variable {call : Call} {work : Selecting α}

/-- What is cached is what would be computed, and so it is the same in two scopes that are alike. -/
theorem alike_cached {key : String} {kind : α → Entry} {kind? : Entry → Option α}
    {compute : Unit → Except Fault α} (hkind : ∀ entry value, kind? entry = some value → entry = kind value)
    (hkept : ∀ value, compute () = .ok value → Kept call key (kind value))
    (hheld : ∀ scope : RoutingScope, scope.Tells call → ∀ value,
      scope.lookup? key = some (kind value) → compute () = .ok value) :
    Respects (Scope.Alike call) (Scoped.cached key kind kind? compute) := by
  have hgives : ∀ scope : RoutingScope, scope.Tells call →
      ((Scoped.cached key kind kind? compute : Selecting α).run.run scope).1 = compute () := by
    intro scope htells
    rw [run_cached]
    cases hhit : (scope.lookup? key).bind kind? with
    | none => cases compute () <;> rfl
    | some value =>
        obtain ⟨entry, hentry, hvalue⟩ := Option.bind_eq_some_iff.1 hhit
        rw [hkind entry value hvalue] at hentry
        exact (hheld scope htells value hentry).symm
  have hidentity : Keeps Scope.identity (Scoped.cached key kind kind? compute : Selecting α) :=
    keeps_cached (fun _ _ _ => rfl) key kind kind? compute
  have htells : ∀ scope : RoutingScope, scope.Tells call →
      ((Scoped.cached key kind kind? compute : Selecting α).run.run scope).2.Tells call :=
    fun scope h => h.after (fun _ _ hlater => leaves_cached hkept hlater) (fun _ => rfl) (.refl _)
  intro scope other h
  refine ⟨(hgives scope h.tells).trans (hgives other h.otherTells).symm, htells scope h.tells,
    htells other h.otherTells, ?_⟩
  rw [hidentity scope, hidentity other, h.identity]

theorem alike_selectColumn :
    Respects (Scope.Alike call) (Strategy.selectColumn call.store call.question) := by
  refine (alike_cached (fun entry _ h => ?_) (fun _ => Kept.tests rfl) fun _ h => h.tests).bind fun tests => ?_
  · cases entry <;> cases h
    rfl
  · simp only
    split
    · refine (alike_cached (fun entry _ h => ?_) (fun _ => Kept.redirects) fun _ h => h.redirects).bind
        fun _ => respects_pure _
      cases entry <;> cases h
      rfl
    · exact (respects_pure _).bind fun _ => respects_pure _

theorem alike_selectLookup {engine : QueryEngine} (hengine : call.strategy = .lookup engine) :
    Respects (Scope.Alike call) (Strategy.selectLookup engine call.store call.question) := by
  refine (alike_cached (fun entry _ h => ?_) (fun _ => Kept.lookup hengine rfl)
    fun _ h => h.lookup engine hengine).bind fun _ => respects_pure _
  cases entry <;> cases h
  rfl

theorem alike_selectTopology (marker : String) :
    Respects (Scope.Alike call) (Strategy.selectTopology marker call.store call.question) := by
  simp only [Strategy.selectTopology]
  split
  · exact respects_pure _
  · split
    · exact respects_pure _
    · refine (alike_cached (fun entry _ h => ?_) (fun _ => Kept.tree) fun _ h => h.tree).bind fun tree => ?_
      · cases entry <;> cases h
        rfl
      · refine respects_get_bind (fun scope other h => ?_) fun _ => respects_pure _
        rw [(Prod.mk.inj h.identity).1]
  · exact respects_pure _
  · refine Respects.bind (respects_modify fun scope other h => ?_) fun _ => respects_pure _
    exact ⟨⟨h.tells.tests, h.tells.redirects, h.tells.lookup, h.tells.tree⟩,
      ⟨h.otherTells.tests, h.otherTells.redirects, h.otherTells.lookup, h.otherTells.tree⟩, h.identity⟩

theorem alike_selectScript (engine : ScriptEngine) :
    Respects (Scope.Alike call) (Strategy.selectScript engine call.question) := by
  refine respects_get_bind (fun scope other h => ?_) fun scope => ?_
  · obtain ⟨hnode, hgroup⟩ := Prod.mk.inj h.identity
    rw [hnode, hgroup]
  · exact (respects_const _).bind fun _ => respects_pure _

/-- Two scopes of one node that tell a call what it would read anew give the same answer. -/
theorem alike_select : Respects (Scope.Alike call) (call.strategy.select call.store call.question) := by
  cases hstrategy : call.strategy with
  | everyone => exact respects_pure _
  | column => exact alike_selectColumn
  | lookup engine => exact alike_selectLookup hstrategy
  | subselect engine => exact respects_const _
  | topology marker => exact alike_selectTopology marker
  | script engine => exact alike_selectScript engine

theorem keeps_identity_select (strategy : Strategy) (store : Store) (q : Question) :
    Keeps Scope.identity (strategy.select store q) := by
  cases strategy with
  | everyone => exact keeps_pure _
  | column => exact keeps_selectColumn store q fun _ _ _ => rfl
  | lookup engine => exact keeps_selectLookup store q (fun _ _ _ => rfl) engine
  | subselect engine => exact fun _ => rfl
  | topology marker =>
      simp only [Strategy.select, Strategy.selectTopology]
      split
      · exact keeps_pure _
      · split
        · exact keeps_pure _
        · exact (keeps_cached (fun _ _ _ => rfl) _ _ _ _).bind fun _ => keeps_get.bind fun _ => keeps_pure _
      · exact keeps_pure _
      · exact .bind (keeps_modify fun _ => rfl) fun _ => keeps_pure _
  | script engine => exact keeps_selectScript q engine

end answers

/-! ## calls one after the other -/

namespace Call

/-- How a call ends in a scope, and the scope it leaves. -/
def runIn (call : Call) (scope : RoutingScope) : Except Fault NodeSet × RoutingScope :=
  (call.strategy.select call.store call.question).run.run scope

/-- The answers of calls one after the other, each with its call, and the scope they leave. -/
def runAll (calls : List Call) (scope : RoutingScope) :
    List (Call × Except Fault NodeSet) × RoutingScope :=
  match calls with
  | [] => ([], scope)
  | call :: calls =>
    let (answers, left) := runAll calls (call.runIn scope).2
    ((call, (call.runIn scope).1) :: answers, left)

end Call

section calls

variable {routers : List Router} {engine : QueryEngine} {base : Store} {call one : Call} {calls : List Call}
  {scope : RoutingScope}

/-- Where the cache tells a call what it would read, it is answered as where nothing is cached. -/
theorem fst_runIn (h : scope.Tells call) {node group : String} (hidentity : scope.identity = (node, group))
    (fresh : String) : (call.runIn scope).1 = (call.runIn (Scope.new node group fresh)).1 :=
  (alike_select ⟨h, Scope.tells_new _ _ _ _, hidentity⟩).1

/-- A call leaves the cache telling any of the routers what it would read. -/
theorem tells_runIn (hids : (routers.map Router.id).Nodup) (hcall : call.Within routers engine base)
    (hone : one.Within routers engine base) (h : scope.Tells call) : (one.runIn scope).2.Tells call :=
  h.after (fun _ _ hleft => leaves_select hleft)
    (fun hid => List.inj_on_of_nodup_map hids hone.router hcall.router hid) (hone.readsLike hcall)

/-- So do any number of calls, and they leave the node that does the routing as it is. -/
theorem tells_runAll (hids : (routers.map Router.id).Nodup) (hcall : call.Within routers engine base)
    (hcalls : ∀ one ∈ calls, one.Within routers engine base) (h : scope.Tells call) :
    (Call.runAll calls scope).2.Tells call ∧ (Call.runAll calls scope).2.identity = scope.identity := by
  induction calls generalizing scope with
  | nil => exact ⟨h, rfl⟩
  | cons one calls ih =>
      rw [List.forall_mem_cons] at hcalls
      obtain ⟨htells, hidentity⟩ := ih hcalls.2 (tells_runIn hids hcall hcalls.1 h)
      exact ⟨htells, hidentity.trans (keeps_identity_select one.strategy _ _ scope)⟩

/-- After any calls one more call is answered as it would be in a scope in which nothing is cached. -/
theorem answer_runAll (hids : (routers.map Router.id).Nodup) (hcall : call.Within routers engine base)
    (hcalls : ∀ one ∈ calls, one.Within routers engine base) (node group channel fresh : String) :
    (call.runIn (Call.runAll calls (Scope.new node group channel)).2).1 =
      (call.runIn (Scope.new node group fresh)).1 := by
  obtain ⟨htells, hidentity⟩ := tells_runAll hids hcall hcalls (Scope.tells_new _ node group channel)
  exact fst_runIn htells hidentity fresh

/-- Each of any calls is answered as if it were the first. -/
theorem answers_runAll (hids : (routers.map Router.id).Nodup)
    (hcalls : ∀ one ∈ calls, one.Within routers engine base)
    (htells : ∀ one ∈ calls, scope.Tells one) {node group : String}
    (hidentity : scope.identity = (node, group)) (fresh : String) :
    (Call.runAll calls scope).1 =
      calls.map fun one => (one, (one.runIn (Scope.new node group fresh)).1) := by
  induction calls generalizing scope with
  | nil => rfl
  | cons call calls ih =>
      rw [List.forall_mem_cons] at hcalls htells
      have hanswer := fst_runIn htells.1 hidentity fresh
      have hrest := ih hcalls.2
        (fun one hone => tells_runIn hids (hcalls.2 one hone) hcalls.1 (htells.2 one hone))
        ((keeps_identity_select call.strategy _ _ scope).trans hidentity)
      simp only [Call.runAll, List.map_cons, hanswer, hrest]

end calls

/-- Sharing a cache is invisible.  Take routers of different ids, whichever texts these are, and calls of them
at moments at which there is the same to read for them: the same nodes, the same redirects and for each lookup
router the same answer to its query.  The changes may differ, and so may what other queries are answered.  A
call that comes after any others, answered or failed, ends as it would in a scope of the same node in which
nothing is cached; called again, with its engine as it was, it ends as it did; and in any other order of the
calls each of them ends as it does in this one. -/
theorem caching_is_invisible {routers : List Router} (hids : (routers.map Router.id).Nodup)
    {engine : QueryEngine} {base : Store} {earlier : List Call} {call : Call}
    (hcalls : ∀ one ∈ call :: earlier, one.Within routers engine base)
    (node group channel fresh : String) :
    (call.runIn (Call.runAll earlier (Scope.new node group channel)).2).1 =
        (call.runIn (Scope.new node group fresh)).1 ∧
      (call.runIn (call.runIn (Call.runAll earlier (Scope.new node group channel)).2).2).1 =
        (call.runIn (Call.runAll earlier (Scope.new node group channel)).2).1 ∧
      ∀ reordered : List Call, reordered.Perm earlier →
        (Call.runAll reordered (Scope.new node group channel)).1.Perm
          (Call.runAll earlier (Scope.new node group channel)).1 ∧
        (call.runIn (Call.runAll reordered (Scope.new node group channel)).2).1 =
          (call.runIn (Call.runAll earlier (Scope.new node group channel)).2).1 := by
  rw [List.forall_mem_cons] at hcalls
  obtain ⟨hcall, hearlier⟩ := hcalls
  have hfirst := answer_runAll hids hcall hearlier node group channel fresh
  refine ⟨hfirst, ?_, fun reordered hperm => ⟨?_, ?_⟩⟩
  · obtain ⟨htells, -⟩ := tells_runAll hids hcall hearlier (Scope.tells_new _ node group channel)
    exact (alike_select ⟨tells_runIn hids hcall hcall htells, htells,
      keeps_identity_select call.strategy _ _ _⟩).1
  · have hreordered : ∀ one ∈ reordered, one.Within routers engine base :=
      fun one hone => hearlier one (hperm.mem_iff.1 hone)
    have htells : ∀ one : Call, (Scope.new node group channel).Tells one :=
      fun one => Scope.tells_new _ node group channel
    rw [answers_runAll hids hreordered (fun one _ => htells one) rfl fresh,
      answers_runAll hids hearlier (fun one _ => htells one) rfl fresh]
    exact hperm.map _
  · exact (answer_runAll hids hcall (fun one hone => hearlier one (hperm.mem_iff.1 hone))
      node group channel fresh).trans hfirst.symm

/-- A router that follows redirects. -/
def redirectRouter (id : String) : Router where
  id := id
  type := "column"
  sourceGroup := "corp"
  targetGroup := "store"
  expression := some "SHOP=:REDIRECT_NODE"

/-- A router that looks up the shops of a zone, under a key that a column or a word gives. -/
def shopRouter (key : String) : Router where
  id := "shops"
  type := "lookuptable"
  sourceGroup := "corp"
  targetGroup := "store"
  expression := some ("LOOKUP_TABLE=shops\nKEY_COLUMN=SHOP\nLOOKUP_KEY_COLUMN=" ++ key ++
    "\nEXTERNAL_ID_COLUMN=shop")

/-- A call about a shop, when so many changes were captured, of which each took a millisecond. -/
def shopCall (strategy : Strategy) (router : Router) (shop : String) (captured : Int) : Call where
  strategy := strategy
  store := { Store.empty with
    redirects := some [("0001", "north")]
    changes := some ⟨[], captured⟩
    foreign := [⟨"shops", [⟨"zone", .text, false⟩, ⟨"shop", .text, false⟩], .none, [],
      [[.text "0001", .text "s"]]⟩] }
  question := ⟨router, ⟨captured, "sale", .insert, none, none, none, 1, "", none, none, 0, none⟩,
    ColumnValues.empty.insert "SHOP" (some shop),
    [⟨"north", "store", "n", true, none⟩, ⟨"south", "store", "s", true, none⟩], false⟩

/-- A call of a router that follows redirects. -/
def redirectCall (id : String) (captured : Int) : Call :=
  shopCall .column (redirectRouter id) "0001" captured

/-- A call of a router that looks up shops, at a point in time. -/
def lookupCall (key shop : String) (now : Millis) : Call :=
  shopCall (.lookup (.plain now)) (shopRouter key) shop now

/-- The tests of one of these routers and the redirects are cached under one name, and no router notices. -/
theorem caching_is_invisible_redirects :
    let routers := [redirectRouter "redirects", redirectRouter "moved", shopRouter "zone"]
    let base := (redirectCall "moved" 0).store
    let earlier := [redirectCall "redirects" 1, lookupCall "zone" "0001" 2, redirectCall "moved" 3]
    let later := (Call.runAll earlier (Scope.new "hq" "corp" "sales")).2
    (routers.map Router.id).Nodup ∧
      (∀ one ∈ redirectCall "redirects" 4 :: lookupCall "zone" "0001" 5 :: earlier,
        one.Within routers (.plain 0) base) ∧
      later.lookup? (columnKey "redirects") = some (.redirects [("0001", "north")]) ∧
      ((redirectCall "redirects" 4).runIn later).1 = .ok (.ofList ["north"]) ∧
      ((lookupCall "zone" "0001" 5).runIn later).1 = .ok (.ofList ["south"]) := by
  have hids : ([redirectRouter "redirects", redirectRouter "moved", shopRouter "zone"].map
      Router.id).Nodup := by decide
  have hredirect : ∀ id captured, redirectRouter id ∈
      [redirectRouter "redirects", redirectRouter "moved", shopRouter "zone"] →
      (redirectCall id captured).Within
        [redirectRouter "redirects", redirectRouter "moved", shopRouter "zone"] (.plain 0)
        (redirectCall "moved" 0).store :=
    fun id captured hid => ⟨hid, rfl, rfl, fun own hown => nomatch hown⟩
  have hparse : LookupSpec.parse (shopRouter "zone").text = .ok ⟨"shops", "SHOP", "zone", "shop"⟩ := by
    decide +kernel
  have hlookup : ∀ now ∈ [(2 : Millis), 5], (lookupCall "zone" "0001" now).Within
      [redirectRouter "redirects", redirectRouter "moved", shopRouter "zone"] (.plain 0)
        (redirectCall "moved" 0).store := by
    refine fun now hnow => ⟨.tail _ (.tail _ (.head _)), rfl, rfl, fun own hown spec hspec => ?_⟩
    cases hown
    cases hparse.symm.trans hspec
    revert now
    decide +kernel
  have hearlier : ∀ one ∈ [redirectCall "redirects" 1, lookupCall "zone" "0001" 2, redirectCall "moved" 3],
      one.Within [redirectRouter "redirects", redirectRouter "moved", shopRouter "zone"] (.plain 0)
        (redirectCall "moved" 0).store :=
    List.forall_mem_cons.2 ⟨hredirect "redirects" 1 (.head _), List.forall_mem_cons.2
      ⟨hlookup 2 (.head _), List.forall_mem_singleton.2 (hredirect "moved" 3 (.tail _ (.head _)))⟩⟩
  have hfirst := hredirect "redirects" 4 (.head _)
  have hsecond := hlookup 5 (.tail _ (.head _))
  refine ⟨hids, List.forall_mem_cons.2 ⟨hfirst, List.forall_mem_cons.2 ⟨hsecond, hearlier⟩⟩,
    by decide +kernel, ?_, ?_⟩
  · exact (caching_is_invisible hids (List.forall_mem_cons.2 ⟨hfirst, hearlier⟩) "hq" "corp" "sales"
      "").1.trans (by decide +kernel)
  · exact (caching_is_invisible hids (List.forall_mem_cons.2 ⟨hsecond, hearlier⟩) "hq" "corp" "sales"
      "").1.trans (by decide +kernel)

/-- A router that looks up the day is told by its cache which day it was when the table was read. -/
example :
    let later := ((lookupCall "current_date" "1970-01-02" 0).runIn (Scope.new "hq" "corp" "sales")).2
    ((lookupCall "current_date" "1970-01-02" 86400000).runIn later).1 = .ok ∅ ∧
      ((lookupCall "current_date" "1970-01-02" 86400000).runIn (Scope.new "hq" "corp" "sales")).1 =
        .ok (.ofList ["south"]) := by
  decide +kernel

end ChangeRouting
