import ChangeRouting.Proofs.Service.Entitled

/-!
# ChangeRouting.Proofs.Service.Attached

Which routers are asked about a change.

* `Configuration.consulted` — the routers a trigger lists for a kind of change, as far as they concern
  the node;
* `decisions_ask` — every router that is asked decides once, in the order of asking;
* `asked_eq` — those are asked that the last trigger lists which the snapshot of the change can mean;
* `obeys_iff` — so a service obeys the configuration it accepted exactly if the triggers of one id agree.
-/

namespace ChangeRouting

/-- The ids a trigger lists of routers that look at this kind of change of the node's group, in listed
order. -/
def Configuration.consulted (config : Configuration) (event : EventKind) (trigger : Trigger) :
    List String :=
  trigger.routers.filter fun id => (config.router? id).any fun router =>
    router.sourceGroup = config.node.group && router.appliesTo event

/-- The last trigger with an id. -/
def Configuration.lastTrigger? (config : Configuration) (id : String) : Option Trigger :=
  config.triggers.reverse.find? (·.id = id)

/-- The routers that are asked about a change, in order. -/
def Service.asked (service : Service) (lookups : Lookups) (store : Store) (change : Change)
    (scope : RoutingScope) : List String :=
  (service.decide lookups store change scope).decisions.map Decision.router

/-- About a readable change the routers are asked that the configuration finds for the trigger its
snapshot names, and no trigger lists others in vain. -/
def Service.Obeys (service : Service) (config : Configuration) : Prop :=
  ∀ trigger ∈ config.triggers, ∀ (lookups : Lookups) (store : Store) (change : Change)
    (scope : RoutingScope) (snapshot : Snapshot) (values : ColumnValues),
    lookups.snapshots.find? (·.id = change.snapshot) = some snapshot → snapshot.trigger = trigger.id →
    change.values snapshot = .ok values →
    (∀ id ∈ config.consulted change.event trigger, id ∈ service.asked lookups store change scope) ∧
      service.asked lookups store change scope =
        (config.trigger? trigger.id).elim [] (config.consulted change.event)

/-- Triggers of one id list the same routers for every kind of change, up to what the first of them and
the last of them do not list. -/
def Configuration.Agrees (config : Configuration) : Prop :=
  ∀ trigger ∈ config.triggers, ∀ event,
    (∀ id ∈ config.consulted event trigger,
      id ∈ (config.lastTrigger? trigger.id).elim [] (config.consulted event)) ∧
    (config.lastTrigger? trigger.id).elim [] (config.consulted event) =
      (config.trigger? trigger.id).elim [] (config.consulted event)

/-! ## asking -/

section asking

variable {service : Service} {lookups : Lookups} {store : Store} {change : Change}
  {scope : RoutingScope}

/-- Every router that is asked decides, be it that it failed. -/
theorem decisions_ask (nodes : List Node) (values : ColumnValues) (routers : List ResolvedRouter) :
    (service.ask nodes store change values scope routers).decisions.map Decision.router =
      routers.map (·.router.id) := by
  induction routers generalizing scope with
  | nil => rfl
  | cons resolved routers ih =>
      simp only [Service.ask]
      split
      next outcome left hrun =>
        cases outcome with
        | ok selected => rw [List.map_cons, List.map_cons, ih]
        | error fault => rw [List.map_cons, List.map_cons, ih]

/-- About a readable change those routers of its table are asked that look at its kind. -/
theorem asked_of_readable {snapshot : Snapshot} {values : ColumnValues}
    (hsnapshot : lookups.snapshots.find? (·.id = change.snapshot) = some snapshot)
    (hvalues : change.values snapshot = .ok values) :
    service.asked lookups store change scope =
      ((service.routersOf snapshot.trigger).filter (·.router.appliesTo change.event)).map
        (·.router.id) := by
  rw [Service.asked, Service.decide, hsnapshot]
  simp only
  cases hrouters : service.routersOf snapshot.trigger with
  | nil => rfl
  | cons first rest =>
      simp only [hvalues]
      exact decisions_ask _ _ _

end asking

/-! ## the routers of a trigger -/

section attached

variable {config : Configuration} {registry : Registry} {fresh : Service}

/-- Resolving routers keeps them findable by their ids. -/
theorem find?_resolved {routers : List Router} {resolved : List ResolvedRouter} (id : String)
    (h : (routers.mapM fun router => do
      return ResolvedRouter.mk router (← registry.resolve router)) = .ok resolved) :
    (resolved.find? (·.router.id = id)).map ResolvedRouter.router = routers.find? (·.id = id) := by
  induction routers generalizing resolved with
  | nil =>
      cases h
      rfl
  | cons router routers ih =>
      rw [List.mapM_cons] at h
      obtain ⟨first, hfirst, h⟩ := except_bind_eq_ok.1 h
      obtain ⟨rest, hrest, h⟩ := except_bind_eq_ok.1 h
      obtain ⟨strategy, -, hfirst⟩ := except_bind_eq_ok.1 hfirst
      cases hfirst
      cases h
      rw [List.find?_cons, List.find?_cons]
      by_cases hid : router.id = id
      · rw [decide_eq_true hid]
        rfl
      · rw [decide_eq_false hid]
        exact ih hrest

/-- What a trigger lists, once its routers are found and those left out that do not concern the node and
the kind of change. -/
theorem map_id_concerning {resolved : List ResolvedRouter} (event : EventKind) (trigger : Trigger)
    (hfind : ∀ id, (resolved.find? (·.router.id = id)).map ResolvedRouter.router = config.router? id) :
    ((Service.concerning config.node.group resolved trigger).filter
      (·.router.appliesTo event)).map (·.router.id) = config.consulted event trigger := by
  rw [Service.concerning, Configuration.consulted]
  induction trigger.routers with
  | nil => rfl
  | cons id ids ih =>
      rw [List.filterMap_cons, List.filter_cons, ← hfind]
      cases hfound : resolved.find? (·.router.id = id) with
      | none =>
          rw [Option.map_none, Option.any_none, if_neg Bool.false_ne_true]
          exact ih
      | some found =>
          have hid : found.router.id = id := by simpa using List.find?_some hfound
          rw [Option.map_some, Option.any_some, List.filter_cons]
          by_cases hsource : found.router.sourceGroup = config.node.group
          · rw [if_pos (decide_eq_true hsource), List.filter_cons, decide_eq_true hsource, Bool.true_and]
            by_cases happlies : found.router.appliesTo event = true
            · rw [if_pos happlies, if_pos happlies, List.map_cons, hid, ih]
            · rw [if_neg happlies, if_neg happlies, ih]
          · rw [if_neg (by simpa using hsource), decide_eq_false hsource, Bool.false_and,
              if_neg Bool.false_ne_true, ih]

/-- The routers attached under an id that look at a kind of change are those that the last trigger with the
id lists. -/
theorem map_id_routersOf {marks : List (String × Marks)} (h : Service.setUp config registry = .ok fresh)
    (trigger : String) (event : EventKind) :
    ((Service.routersOf { fresh with marks := marks } trigger).filter
      (·.router.appliesTo event)).map (·.router.id) =
        (config.lastTrigger? trigger).elim [] (config.consulted event) := by
  obtain ⟨-, resolved, hresolved, rfl⟩ := setUp_eq_ok.1 h
  rw [Service.routersOf, lookup_assignAll, ← Configuration.lastTrigger?]
  cases config.lastTrigger? trigger with
  | none => rfl
  | some trigger =>
      exact map_id_concerning event trigger fun id => find?_resolved id hresolved

/-- A router that is attached is the one that the configuration finds under its id. -/
theorem router?_of_attached {trigger : String} {resolved : ResolvedRouter}
    (h : Service.setUp config registry = .ok fresh) (hresolved : resolved ∈ fresh.routersOf trigger) :
    config.router? resolved.router.id = some resolved.router := by
  obtain ⟨all, -, hall, -, -, hfound, -⟩ := exists_listing h hresolved
  have hrouter := find?_resolved resolved.router.id hall
  rw [hfound, Option.map_some] at hrouter
  exact hrouter.symm

/-- The last trigger with the id that the snapshot of a change names says which routers are asked. -/
theorem asked_eq {marks : List (String × Marks)} {lookups : Lookups} {store : Store} {change : Change}
    {scope : RoutingScope} {snapshot : Snapshot} {values : ColumnValues}
    (h : Service.setUp config registry = .ok fresh)
    (hsnapshot : lookups.snapshots.find? (·.id = change.snapshot) = some snapshot)
    (hvalues : change.values snapshot = .ok values) :
    Service.asked { fresh with marks := marks } lookups store change scope =
      (config.lastTrigger? snapshot.trigger).elim [] (config.consulted change.event) := by
  rw [asked_of_readable hsnapshot hvalues, map_id_routersOf h]

end attached

/-! ## obeying -/

/-- A change of a kind without payloads. -/
def blankChange (event : EventKind) : Change :=
  ⟨1, "", event, none, none, none, 1, "", none, none, 0, none⟩

/-- A change without payloads can be read. -/
theorem exists_values_blankChange (event : EventKind) (snapshot : Snapshot) :
    ∃ values, (blankChange event).values snapshot = .ok values := by
  cases event <;> exact ⟨_, rfl⟩

/-- With triggers of different ids, the first trigger with an id is the last. -/
theorem trigger?_eq_lastTrigger? {config : Configuration}
    (hids : (config.triggers.map Trigger.id).Nodup) (id : String) :
    config.trigger? id = config.lastTrigger? id := by
  rw [Configuration.trigger?, Configuration.lastTrigger?, ← List.head?_filter, ← List.head?_filter,
    List.filter_reverse]
  cases hfilter : config.triggers.filter (·.id = id) with
  | nil => rfl
  | cons trigger rest =>
      have hfirst : trigger ∈ config.triggers.filter (·.id = id) := hfilter ▸ List.mem_cons_self
      obtain ⟨hmem, hid⟩ := List.mem_filter.1 hfirst
      have honly := filter_key_eq hids hmem
      rw [of_decide_eq_true hid, hfilter] at honly
      rw [honly]
      rfl

/-- A trigger is the only one with its id if the ids differ. -/
theorem trigger?_of_mem {config : Configuration} (hids : (config.triggers.map Trigger.id).Nodup)
    {trigger : Trigger} (h : trigger ∈ config.triggers) :
    config.trigger? trigger.id = some trigger := by
  rw [Configuration.trigger?, ← List.head?_filter, filter_key_eq hids h]
  rfl

/-- Triggers with different ids agree. -/
theorem agrees_of_nodup {config : Configuration} (hids : (config.triggers.map Trigger.id).Nodup) :
    config.Agrees := by
  intro trigger htrigger event
  rw [← trigger?_eq_lastTrigger? hids, trigger?_of_mem hids htrigger]
  exact ⟨fun id hid => hid, rfl⟩

section obeying

variable {config : Configuration} {registry : Registry} {fresh : Service}
  (marks : List (String × Marks))

theorem obeys_of_agrees (h : Service.setUp config registry = .ok fresh) (hagrees : config.Agrees) :
    Service.Obeys { fresh with marks := marks } config := by
  intro trigger htrigger lookups store change scope snapshot values hsnapshot hnamed hvalues
  rw [asked_eq h hsnapshot hvalues, hnamed]
  exact hagrees trigger htrigger change.event

/-- A change without payloads whose snapshot names a trigger shows which routers count. -/
theorem agrees_of_obeys (h : Service.setUp config registry = .ok fresh)
    (hobeys : Service.Obeys { fresh with marks := marks } config) : config.Agrees := by
  intro trigger htrigger event
  let snapshot : Snapshot := ⟨1, trigger.id, "", [], []⟩
  let lookups : Lookups := ⟨[snapshot], []⟩
  obtain ⟨values, hvalues⟩ := exists_values_blankChange event snapshot
  have hsnapshot : lookups.snapshots.find? (·.id = (blankChange event).snapshot) = some snapshot := rfl
  have hcounts := hobeys trigger htrigger lookups .empty (blankChange event) (.new "" "" "") snapshot
    values hsnapshot rfl hvalues
  rw [asked_eq h hsnapshot hvalues] at hcounts
  exact hcounts

/-- The routers asked are those of the last trigger with the id that the snapshot names, in listed order;
a service obeys the configuration it accepted exactly if its triggers of one id agree, as they do when
their ids differ. -/
theorem obeys_iff (h : Service.setUp config registry = .ok fresh) :
    (∀ (lookups : Lookups) (store : Store) (change : Change) (scope : RoutingScope)
      (snapshot : Snapshot) (values : ColumnValues),
      lookups.snapshots.find? (·.id = change.snapshot) = some snapshot →
      change.values snapshot = .ok values →
      Service.asked { fresh with marks := marks } lookups store change scope =
        (config.lastTrigger? snapshot.trigger).elim [] (config.consulted change.event)) ∧
    (Service.Obeys { fresh with marks := marks } config ↔ config.Agrees) ∧
    ((config.triggers.map Trigger.id).Nodup → Service.Obeys { fresh with marks := marks } config) := by
  refine ⟨fun _ _ _ _ _ _ hsnapshot hvalues => asked_eq h hsnapshot hvalues, ⟨agrees_of_obeys marks h,
    obeys_of_agrees marks h⟩, fun hids => obeys_of_agrees marks h (agrees_of_nodup hids)⟩

end obeying

theorem setUp_chain : Service.setUp chain (.builtin (.plain 0) "sym") = .ok chainService := by
  have haccepted : chain.check = .ok () := by decide
  rw [Service.setUp, haccepted]
  rfl

/-- With one trigger for each id the service asks the router that the trigger lists. -/
theorem obeys_iff_chain :
    Service.setUp chain (.builtin (.plain 0) "sym") = .ok chainService ∧ chainService.Obeys chain ∧
      chainService.asked ⟨[⟨1, "items", "item", [], []⟩], []⟩ .empty (blankChange .insert)
        (.new "" "" "") = ["down"] := by
  obtain ⟨hasked, -, hobeys⟩ := obeys_iff [] setUp_chain
  refine ⟨setUp_chain, hobeys (by decide), ?_⟩
  obtain ⟨values, hvalues⟩ := exists_values_blankChange .insert ⟨1, "items", "item", [], []⟩
  exact hasked _ _ _ _ _ values rfl hvalues

/-! ## two triggers of one id -/

/-- The head office with a second trigger on its items, which lists no router. -/
def splitChain : Configuration :=
  { chain with triggers := chain.triggers ++ [{ id := "items", table := "item", channel := "orders" }] }

/-- The service of the head office with two triggers of one id. -/
def splitService : Service :=
  { chainService with config := splitChain, attached := [("items", [])] }

theorem setUp_splitChain : Service.setUp splitChain (.builtin (.plain 0) "sym") = .ok splitService := by
  have haccepted : splitChain.check = .ok () := by decide
  rw [Service.setUp, haccepted]
  rfl

/-- A trigger lists a router in vain when another trigger of its id comes later: the change that the first
branch is to get goes nowhere. -/
theorem later_trigger_counts :
    Service.setUp splitChain (.builtin (.plain 0) "sym") = .ok splitService ∧
      splitChain.consulted .insert ⟨"items", "item", "orders", ["down"]⟩ = ["down"] ∧
      ¬splitService.Obeys splitChain ∧
      (splitService.cycle calm chainStore).2.2.batches.map (·.rows.map (·.batch.node)) =
        some [unroutedNode] := by
  refine ⟨setUp_splitChain, by decide, fun hobeys => ?_, by decide +kernel⟩
  have hagrees := agrees_of_obeys [] setUp_splitChain hobeys
  have hlost := (hagrees ⟨"items", "item", "orders", ["down"]⟩ (by decide) .insert).1 "down" (by decide)
  revert hlost
  decide

end ChangeRouting
