import ChangeRouting.Proofs.Selection.Hooks
import ChangeRouting.Proofs.Service.World

/-!
# ChangeRouting.Proofs.Service.Refreshes

Which refreshes a cycle comes to.

* `Service.refreshes` — what the routers of a change register when they are asked about it;
* `hooks_decide`, `hooks_routeChanges` — asking and routing register that and nothing else;
* `tell_of_pass`, `tell_of_turns` — after a committed pass, and after the turns of a cycle, that is
  pending which the committed passes registered, in the order of first registration.
-/

namespace ChangeRouting

/-- The refreshes that routers register when they are asked about a change, in the order of asking. -/
def Service.refreshes (service : Service) (lookups : Lookups) (change : Change) : List Refresh :=
  match lookups.snapshots.find? (·.id = change.snapshot) with
  | none => []
  | some snapshot =>
    match change.values snapshot with
    | .error _ => []
    | .ok _ =>
      ((service.routersOf snapshot.trigger).filter (·.router.appliesTo change.event)).flatMap
        (·.strategy.refreshes change.table)

/-- The refreshes that were registered in a pass, as often as they were. -/
def Service.registered (service : Service) (lookups : Lookups) (record : PassRecord) : List Refresh :=
  record.answers.flatMap fun answer => service.refreshes lookups answer.change

theorem registerAll_append (hooks : Hooks Refresh) (refreshes more : List Refresh) :
    hooks.registerAll (refreshes ++ more) = (hooks.registerAll refreshes).registerAll more :=
  List.foldl_append

/-! ## asking -/

section asking

variable {service : Service} {lookups : Lookups} {store : Store} {change : Change}

/-- Routers that are asked register their refreshes, one router after the other. -/
theorem hooks_ask (nodes : List Node) (values : ColumnValues) (scope : RoutingScope)
    (routers : List ResolvedRouter) :
    (service.ask nodes store change values scope routers).scope.hooks =
      scope.hooks.registerAll (routers.flatMap (·.strategy.refreshes change.table)) := by
  induction routers generalizing scope with
  | nil => rfl
  | cons resolved routers ih =>
      have hfirst := hooks_select store ⟨resolved.router, change, values,
        service.candidates resolved.router change nodes, change.event = .reload⟩ resolved.strategy scope
      rw [List.flatMap_cons, registerAll_append, ← hfirst]
      simp only [Service.ask]
      split
      next outcome left hrun =>
        rw [hrun]
        cases outcome with
        | ok selected => exact ih left
        | error fault => exact ih left

/-- What is decided about a change registers what its routers register. -/
theorem hooks_decide (scope : RoutingScope) :
    (service.decide lookups store change scope).scope.hooks =
      scope.hooks.registerAll (service.refreshes lookups change) := by
  rw [Service.decide, Service.refreshes]
  cases lookups.snapshots.find? (·.id = change.snapshot) with
  | none => rfl
  | some snapshot =>
      simp only
      cases hrouters : service.routersOf snapshot.trigger with
      | nil => cases change.values snapshot <;> rfl
      | cons first rest =>
          simp only
          cases change.values snapshot with
          | error fault => rfl
          | ok values => exact hooks_ask _ _ _ _

end asking

/-! ## passes -/

section passes

variable {service : Service} {lookups : Lookups} {channel : Channel} {s t : PassState × Store} {u : Unit}

/-- Changes that are routed register what their routers register. -/
theorem hooks_routeChanges {changes : List Change}
    (h : (service.routeChanges lookups channel changes).run.run s = (.ok u, t)) :
    t.1.scope.hooks = s.1.scope.hooks.registerAll
      ((service.answers lookups channel changes s).flatMap fun answer =>
        service.refreshes lookups answer.change) := by
  induction changes generalizing s with
  | nil =>
      cases h
      rfl
  | cons change changes ih =>
      rw [Service.routeChanges] at h
      obtain ⟨_, _, hget, h⟩ := run_bind_eq_ok.1 h
      cases hget
      rw [Service.answers]
      by_cases hstop : (s.1.isBoundary change && s.1.limitReached channel) = true
      · rw [if_pos hstop]
        simp only [hstop, if_true] at h
        cases h
        rfl
      · rw [if_neg hstop]
        simp only [hstop, Bool.false_eq_true, if_false] at h
        obtain ⟨_, mid, hone, hrest⟩ := run_bind_eq_ok.1 h
        obtain ⟨count, builder, store, -, hmid⟩ := routeChange_eq_ok hone
        have hfirst : mid.1.scope.hooks =
            s.1.scope.hooks.registerAll (service.refreshes lookups change) := by
          rw [hmid]
          exact hooks_decide s.1.scope
        rw [ih hrest, hfirst, hone, List.flatMap_cons, registerAll_append]

/-- After a committed pass that is pending which was registered in it. -/
theorem tell_of_pass {gaps : List Gap} {stalledAfter : Option Nat} {store after : Store}
    {outcome : PassOutcome}
    (h : (service.pass lookups gaps stalledAfter channel).on store = (.ok outcome, after)) :
    outcome.hooks.Tell (service.registered lookups (service.recordOf lookups gaps channel store after)) := by
  obtain ⟨mid, builder, built, hroute, -, -, hout⟩ := pass_eq_ok h
  have hhooks := hooks_routeChanges hroute
  have htell := Hooks.tell_empty.registerAll
    (service.registered lookups (service.recordOf lookups gaps channel store after))
  rw [List.nil_append] at htell
  rw [hout]
  show mid.1.scope.hooks.Tell _
  rw [hhooks]
  exact htell

end passes

/-! ## cycles -/

section cycles

variable {service : Service} {stalls : List (String × Nat)} {disturbance : Disturbance}
  {lookups : Lookups} {gaps : List Gap} {turns : List Turn}

/-- Turns add what their committed passes registered. -/
theorem tell_through {state : CycleState} {registered : List Refresh}
    (hstate : state.hooks.Tell registered)
    (h : ∀ turn ∈ turns, turn =
      turnOf (service.disturbed stalls disturbance lookups gaps) turn.channel turn.before) :
    (state.through turns).hooks.Tell (registered ++
      (service.recordsIn disturbance lookups gaps turns).flatMap (service.registered lookups)) := by
  induction turns generalizing state registered with
  | nil =>
      rw [Service.recordsIn, committed, List.filter_nil, List.map_nil, List.flatMap_nil, List.append_nil]
      exact hstate
  | cons turn turns ih =>
      rw [List.forall_mem_cons] at h
      rw [CycleState.through, List.foldl_cons, ← CycleState.through]
      cases houtcome : turn.outcome with
      | none =>
          rw [Service.recordsIn, committed_cons_of_none houtcome]
          exact ih hstate h.2
      | some outcome =>
          rw [Service.recordsIn, committed_cons_of_some houtcome, List.map_cons, List.flatMap_cons,
            ← List.append_assoc]
          exact ih (hstate.absorb (tell_of_pass (pass_of_turn h.1 houtcome))) h.2

/-- After the turns of a cycle that is pending which the committed passes registered, channel by
channel. -/
theorem tell_of_turns (h : ∀ turn ∈ turns, turn =
      turnOf (service.disturbed stalls disturbance lookups gaps) turn.channel turn.before) :
    (CycleState.through {} turns).hooks.Tell
      ((service.recordsIn disturbance lookups gaps turns).flatMap (service.registered lookups)) := by
  have hstart : ({} : CycleState).hooks.Tell [] := Hooks.tell_empty
  exact tell_through hstart h

end cycles

end ChangeRouting
