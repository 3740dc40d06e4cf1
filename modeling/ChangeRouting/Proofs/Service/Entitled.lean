import ChangeRouting.Proofs.Batch.Targets
import ChangeRouting.Proofs.Selection.Candidates
import ChangeRouting.Proofs.Service.Sent
import ChangeRouting.Query.Plain

/-!
# ChangeRouting.Proofs.Service.Entitled

No change reaches a node that must not get it.

* `Entitled` — what a node, a router and a change must be for the change to go to the node in the name of
  the router;
* `routersOf_eq` — the routers of a trigger are the configured ones that the last trigger of this id lists
  and whose source is the group of the node;
* `mem_ask`, `entitled_of_decide` — whatever routers are asked and whatever they answer, they decide for
  entitled nodes only;
* `events_name_entitled_nodes` — so every event of a committed cycle goes to an entitled node, or nowhere.
-/

namespace ChangeRouting

/-- A node may get a change in the name of a router. -/
structure Entitled (config : Configuration) (lookups : Lookups) (change : Change) (router : Router)
    (node : Node) : Prop where
  /-- The router is attached to the trigger of the snapshot of the change. -/
  attached : ∃ snapshot trigger, lookups.snapshots.find? (·.id = change.snapshot) = some snapshot ∧
    config.triggers.reverse.find? (·.id = snapshot.trigger) = some trigger ∧
    router.id ∈ trigger.routers
  configured : router ∈ config.routers
  source : router.sourceGroup = config.node.group
  applies : router.appliesTo change.event = true
  known : node ∈ lookups.nodes
  enabled : node.enabled = true
  target : node.group = router.targetGroup
  /-- The node is not the one that does the routing. -/
  other : node.id ≠ config.node.id
  /-- The change does not come from the node. -/
  notSource : change.source ≠ some node.id

/-! ## the routers of a trigger -/

section attached

variable {config : Configuration} {registry : Registry} {service : Service}

/-- Of triggers with one id the last counts. -/
theorem lookup_assignAll (value : Trigger → α) (triggers : List Trigger) (id : String) :
    (triggers.foldl (fun entries trigger => Service.assign trigger.id (value trigger) entries)
      []).lookup id = (triggers.reverse.find? (·.id = id)).map value := by
  induction triggers using List.reverseRecOn with
  | nil => rfl
  | append_singleton triggers trigger ih =>
      rw [List.foldl_append, List.foldl_cons, List.foldl_nil, Service.lookup_assign, ih,
        List.reverse_append, List.reverse_singleton, List.singleton_append, List.find?_cons]
      by_cases hid : trigger.id = id
      · rw [if_pos hid.symm, decide_eq_true hid, Option.map_some]
      · rw [if_neg (Ne.symm hid), decide_eq_false hid]

/-- A router of a trigger is the one found under an id that the last trigger lists, and about changes of this
group. -/
theorem exists_listing (h : Service.setUp config registry = .ok service) {trigger : String}
    {resolved : ResolvedRouter} (hresolved : resolved ∈ service.routersOf trigger) :
    ∃ all listing, (config.routers.mapM fun router => do
        return ResolvedRouter.mk router (← registry.resolve router)) = .ok all ∧
      config.triggers.reverse.find? (·.id = trigger) = some listing ∧
      resolved.router.id ∈ listing.routers ∧
      all.find? (·.router.id = resolved.router.id) = some resolved ∧
      resolved.router.sourceGroup = config.node.group := by
  obtain ⟨-, all, hall, rfl⟩ := setUp_eq_ok.1 h
  rw [Service.routersOf, lookup_assignAll] at hresolved
  cases hlisting : config.triggers.reverse.find? (·.id = trigger) with
  | none =>
      rw [hlisting] at hresolved
      exact (List.not_mem_nil hresolved).elim
  | some listing =>
      rw [hlisting, Option.map_some, Option.getD_some, Service.concerning, List.mem_filter,
        List.mem_filterMap] at hresolved
      obtain ⟨⟨id, hid, hfound⟩, hgroup⟩ := hresolved
      have hnamed : resolved.router.id = id := by simpa using List.find?_some hfound
      subst hnamed
      exact ⟨all, listing, hall, rfl, hid, hfound, of_decide_eq_true hgroup⟩

/-- A router of a trigger is configured, listed and about changes of this group. -/
theorem routersOf_eq (h : Service.setUp config registry = .ok service) :
    service.config = config ∧ ∀ {trigger : String} {resolved : ResolvedRouter},
      resolved ∈ service.routersOf trigger → resolved.router ∈ config.routers ∧
        resolved.router.sourceGroup = config.node.group ∧
        ∃ listing, config.triggers.reverse.find? (·.id = trigger) = some listing ∧
          resolved.router.id ∈ listing.routers := by
  have hconfig : service.config = config := by
    obtain ⟨-, all, hall, rfl⟩ := setUp_eq_ok.1 h
    rfl
  refine ⟨hconfig, fun {trigger resolved} hresolved => ?_⟩
  obtain ⟨all, listing, hall, hlisting, hid, hfound, hgroup⟩ := exists_listing h hresolved
  obtain ⟨router, hrouter, hmade⟩ := (mapM_ok_mem hall).2 resolved (List.mem_of_find?_eq_some hfound)
  obtain ⟨strategy, -, hmade⟩ := except_bind_eq_ok.1 hmade
  cases hmade
  exact ⟨hrouter, hgroup, listing, hlisting, hid⟩

end attached

/-! ## deciding -/

section deciding

variable {service : Service} {change : Change} {decision : Decision}

/-- A router decides among the nodes it may send the change to. -/
theorem mem_ask {nodes : List Node} {store : Store} {values : ColumnValues} {scope : RoutingScope}
    {routers : List ResolvedRouter}
    (h : decision ∈ (service.ask nodes store change values scope routers).decisions) :
    ∃ resolved ∈ routers, decision.router = resolved.router.id ∧
      decision.nodes.Among (service.candidates resolved.router change nodes) := by
  induction routers generalizing scope with
  | nil => exact (List.not_mem_nil h).elim
  | cons resolved routers ih =>
      have hlater : ∀ {left : RoutingScope},
          decision ∈ (service.ask nodes store change values left routers).decisions →
          ∃ other ∈ resolved :: routers, decision.router = other.router.id ∧
            decision.nodes.Among (service.candidates other.router change nodes) := by
        intro left hmem
        obtain ⟨other, hother, hsame⟩ := ih hmem
        exact ⟨other, List.mem_cons_of_mem _ hother, hsame⟩
      simp only [Service.ask] at h
      split at h
      next outcome left hrun =>
        cases outcome with
        | ok selected =>
            rw [List.mem_cons] at h
            cases h with
            | inl heq =>
                rw [heq]
                exact ⟨resolved, List.mem_cons_self, rfl, yields_among_select store _ _ hrun⟩
            | inr hmem => exact hlater hmem
        | error fault =>
            rw [List.mem_cons] at h
            cases h with
            | inl heq =>
                rw [heq]
                exact ⟨resolved, List.mem_cons_self, rfl, among_empty⟩
            | inr hmem => exact hlater hmem

/-- A decision for a node is one of a router of the change's table that applies to the change, and the
node is one it may send the change to. -/
theorem exists_candidate_of_decide {lookups : Lookups} {store : Store} {scope : RoutingScope}
    {id : String} (h : decision ∈ (service.decide lookups store change scope).decisions)
    (hid : id ∈ decision.nodes) :
    ∃ snapshot, lookups.snapshots.find? (·.id = change.snapshot) = some snapshot ∧
      ∃ resolved ∈ service.routersOf snapshot.trigger, decision.router = resolved.router.id ∧
        resolved.router.appliesTo change.event = true ∧
        ∃ node ∈ service.candidates resolved.router change lookups.nodes, node.id = id := by
  rw [Service.decide] at h
  split at h
  · exact (List.not_mem_nil h).elim
  · next snapshot hsnapshot =>
    refine ⟨snapshot, hsnapshot, ?_⟩
    simp only at h
    split at h
    · exact (List.not_mem_nil h).elim
    · split at h
      · -- nobody is selected when the payload cannot be read
        rw [List.mem_singleton] at h
        subst h
        exact absurd hid (NodeSet.not_mem_empty id)
      · obtain ⟨resolved, hresolved, hrouter, hamong⟩ := mem_ask h
        obtain ⟨hresolved, happlies⟩ := List.mem_filter.1 hresolved
        exact ⟨resolved, hresolved, hrouter, happlies, hamong id hid⟩

/-- Routers decide for entitled nodes only, whatever they find in the store and their cache. -/
theorem entitled_of_decide {config : Configuration} {registry : Registry} {fresh : Service}
    {marks : List (String × Marks)} {lookups : Lookups} {store : Store} {scope : RoutingScope}
    {id router : String} (hsetup : Service.setUp config registry = .ok fresh)
    (h : (id, router) ∈ Builder.targets
      (Service.decide { fresh with marks := marks } lookups store change scope).decisions) :
    id = unroutedNode ∨ ∃ sender receiver, Entitled config lookups change sender receiver ∧
      sender.id = router ∧ receiver.id = id := by
  refine (exists_decision_of_mem_targets h).imp_right fun ⟨decision, hdecision, hrouter, hid⟩ => ?_
  obtain ⟨snapshot, hsnapshot, resolved, hresolved, hname, happlies, node, hnode, hnodeId⟩ :=
    exists_candidate_of_decide hdecision hid
  obtain ⟨hconfig, hrouters⟩ := routersOf_eq hsetup
  obtain ⟨hconfigured, hsource, trigger, htrigger, hlisted⟩ := hrouters hresolved
  obtain ⟨hknown, hmay⟩ := List.mem_filter.1 hnode
  simp only [Bool.and_eq_true, decide_eq_true_eq] at hmay
  obtain ⟨⟨⟨henabled, hgroup⟩, hother⟩, hforeign⟩ := hmay
  refine ⟨resolved.router, node, ?_, hname.symm.trans hrouter, hnodeId⟩
  exact {
    attached := ⟨snapshot, trigger, hsnapshot, htrigger, hlisted⟩
    configured := hconfigured
    source := hsource
    applies := happlies
    known := hknown
    enabled := henabled
    target := hgroup
    other := hconfig ▸ hother
    notSource := hforeign }

end deciding

/-- No change reaches a node it must not reach.  Strategies select among their candidates, whatever they
read, whatever an engine answers to a query that holds the text of a router, be it a condition or something
that closes the parenthesis around it, and whatever a script engine answers: of the ids that a subselect comes
to, those of candidates are selected.  So every event that a committed cycle adds goes to a node that was
entitled to the change when the cycle looked, or goes nowhere. -/
theorem events_name_entitled_nodes :
    (∀ (strategy : Strategy) (store : Store) (q : Question) (scope : RoutingScope) (selected : NodeSet),
      ((strategy.select store q).run.run scope).1 = .ok selected → selected.Among q.candidates) ∧
    (∀ (engine : QueryEngine) (store : Store) (q : Question) (scope : RoutingScope) (ids : List String),
      Subselect.rows engine store q.router.targetGroup q.router.text q.values = .ok ids →
      ∃ selected, (((Strategy.subselect engine).select store q).run.run scope).1 = .ok selected ∧
        ∀ id, id ∈ selected ↔ id ∈ ids ∧ ∃ node ∈ q.candidates, node.id = id) ∧
    ∀ {config : Configuration} {registry : Registry} {fresh after : Service}
      {marks : List (String × Marks)} {circumstances : Circumstances} {disturbance : Disturbance}
      {store left : Store} {report : CycleReport} {book : Book},
      let service : Service := { fresh with marks := marks }
      let passes := service.disturbed circumstances.stalls disturbance
      Service.setUp config registry = .ok fresh → store.Shows book →
      service.cycleBy passes circumstances store = (.ok report, after, left) →
      ∃ course later added new, service.Went passes circumstances.now store course ∧
        (∀ nodes, store.nodes = some nodes → course.lookups.nodes = nodes) ∧
        left.Shows later ∧ later.batches.rows = book.batches.rows ++ added ∧
        later.events = book.events ++ new ∧ (added.map (·.batch.id)).Nodup ∧
        ∀ event ∈ new, ∃ row ∈ added, row.batch.id = event.batch ∧
          (row.batch.node = unroutedNode ∨ ∃ change router node,
            Entitled config course.lookups change router node ∧
            (∀ log, store.changes = some log →
              ∃ row ∈ log.rows, ∃ columns, row.read columns = .ok change) ∧
            event.change = change.id ∧ event.router = router.id ∧ row.batch.node = node.id) := by
  refine ⟨?_, ?_, ?_⟩
  · intro strategy store q scope selected hselected
    exact yields_among_select store q strategy (Prod.ext hselected rfl)
  · intro engine store q scope ids hids
    rw [run_subselect, hids]
    exact ⟨_, rfl, fun id => mem_among_iff⟩
  · intro config registry fresh after marks circumstances disturbance store left report book service
      passes hsetup hbook hcycle
    obtain ⟨course, parcels, later, hwent, hstored, -, hsent⟩ := stored_of_cycle hbook hcycle
    have hnodes : ∀ nodes, store.nodes = some nodes → course.lookups.nodes = nodes := by
      intro nodes hnodes
      have hkept := hwent.ledger
      simp only [Store.ledger, Prod.mk.injEq] at hkept
      have hread := hwent.nodes
      rw [Store.allNodes, hkept.2.2.2.2.2, hnodes] at hread
      exact (Except.ok.inj hread).symm
    refine ⟨course, later, parcels.map Parcel.row, parcels.flatMap Parcel.events, hwent, hnodes,
      hstored.shows, hstored.takes.rows, hstored.takes.events, ?_, fun event hevent => ?_⟩
    · rw [List.map_map]
      exact List.pairwise_map.2 (hstored.takes.ascending.imp Int.ne_of_lt)
    · obtain ⟨parcel, hparcel, hevent⟩ := List.mem_flatMap.1 hevent
      refine ⟨parcel.row, List.mem_map_of_mem hparcel, (Parcel.batch_of_mem_events hevent).symm, ?_⟩
      obtain ⟨item, hitem, rfl⟩ := List.mem_map.1 hevent
      have hitemSent := hsent parcel hparcel item hitem
      obtain ⟨found, scope, htarget⟩ := hitemSent.decided
      rw [Parcel.row_node]
      refine (entitled_of_decide hsetup htarget).imp_right ?_
      rintro ⟨router, node, hentitled, hrouter, hnode⟩
      refine ⟨item.change, router, node, hentitled, fun log hlog => ?_, rfl, hrouter.symm, hnode.symm⟩
      rw [hlog] at hitemSent
      exact hitemSent.logged

/-! ## a chain of stores -/

/-- A head office that sends changes of its items to the branches. -/
def chain : Configuration where
  node := ⟨"00000", "corp"⟩
  store := ⟨"routing.db", 5000⟩
  channels := [{ id := "orders" }]
  routers := [{ id := "down", sourceGroup := "corp", targetGroup := "branch" }]
  triggers := [{ id := "items", table := "item", channel := "orders", routers := ["down"] }]

/-- The service of the head office. -/
def chainService : Service where
  config := chain
  registry := .builtin (.plain 0) chain.routing.topologyMarker
  attached := [("items", [⟨⟨"down", "default", "corp", "branch", none, true, true, true⟩, .everyone⟩])]
  marks := []

/-- A store with one change, which came from the second branch, while the third is disabled. -/
def chainStore : Store :=
  { shopStore [⟨1, openEnd, "GP", 0, 0⟩] [{ shopRow 7 "I" "orders" with source := some "002" }] with
    snapshots := some [⟨1, "items", "item", "", ""⟩]
    nodes := some [⟨"00000", "corp", "0", true, none⟩, ⟨"001", "branch", "1", true, some "00000"⟩,
      ⟨"002", "branch", "2", true, some "00000"⟩, ⟨"003", "branch", "3", false, some "00000"⟩] }

/-- The head office with a router that closes the parenthesis around its expression. -/
def wideChain : Configuration :=
  { chain with
    routers := [{
      id := "down", type := "subselect", sourceGroup := "corp", targetGroup := "branch",
      expression := some "1 = 1) OR (1 = 1" }] }

/-- Its service. -/
def wideService : Service where
  config := wideChain
  registry := .builtin (.plain 0) chain.routing.topologyMarker
  attached := [("items", wideChain.routers.map fun router => ⟨router, .subselect (.plain 0)⟩)]
  marks := []

/-- The query selects all nodes there are, and the first branch alone gets the change. -/
theorem events_name_entitled_nodes_chain :
    ∃ report after left later lookups change router node,
      Subselect.rows (.plain 0) chainStore "branch" "1 = 1) OR (1 = 1" .empty =
        .ok ["00000", "001", "002", "003"] ∧
      Service.setUp wideChain (.builtin (.plain 0) "sym") = .ok wideService ∧
      wideService.cycleBy (wideService.disturbed calm.stalls .none) calm chainStore =
        (.ok report, after, left) ∧
      left.Shows later ∧ later.events = [⟨7, 1, "down"⟩] ∧
      Entitled wideChain lookups change router node ∧ change.id = 7 ∧ router.id = "down" ∧
      node.id = "001" := by
  have hrows : Subselect.rows (.plain 0) chainStore "branch" "1 = 1) OR (1 = 1" .empty =
      .ok ["00000", "001", "002", "003"] := by decide +kernel
  have hsetup : Service.setUp wideChain (.builtin (.plain 0) "sym") = .ok wideService := by
    have haccepted : wideChain.check = .ok () := by decide
    rw [Service.setUp, haccepted]
    rfl
  have hok : (wideService.cycleBy (wideService.disturbed calm.stalls .none) calm
      chainStore).1.toOption.isSome = true := by decide +kernel
  have hleft : ((wideService.cycleBy (wideService.disturbed calm.stalls .none) calm
      chainStore).2.2.events, (wideService.cycleBy (wideService.disturbed calm.stalls .none) calm
        chainStore).2.2.batches.map fun batches => batches.rows.map (·.batch.node)) =
      (some [⟨7, 1, "down"⟩], some ["001"]) := by decide +kernel
  have hbook : chainStore.Shows ⟨⟨[], 0⟩, []⟩ := ⟨rfl, rfl⟩
  cases hrun : wideService.cycleBy (wideService.disturbed calm.stalls .none) calm chainStore with
  | mk result rest =>
      rw [hrun] at hok hleft
      cases result with
      | error fault => exact absurd hok Bool.false_ne_true
      | ok report =>
          obtain ⟨course, later, added, new, -, -, hlater, hadded, hevents, -, hnew⟩ :=
            events_name_entitled_nodes.2.2 hsetup hbook hrun
          simp only [hlater.events, hlater.batches, Option.map_some, Prod.mk.injEq, Option.some.injEq]
            at hleft
          rw [hleft.1, List.nil_append] at hevents
          obtain ⟨row, hrow, -, hrouted⟩ := hnew ⟨7, 1, "down"⟩ (hevents ▸ List.mem_singleton_self _)
          have hnode : row.batch.node = "001" := by
            rw [hadded, List.nil_append] at hleft
            exact List.mem_singleton.1 (hleft.2 ▸ List.mem_map_of_mem hrow)
          rw [hnode] at hrouted
          obtain ⟨change, router, node, hentitled, -, hchange, hrouter, hid⟩ :=
            hrouted.resolve_left (by decide)
          exact ⟨report, rest.1, rest.2, later, course.lookups, change, router, node, hrows, hsetup, rfl,
            hlater, hleft.1, hentitled, hchange.symm, hrouter.symm, hid.symm⟩

end ChangeRouting
