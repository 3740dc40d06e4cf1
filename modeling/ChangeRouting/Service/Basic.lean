import ChangeRouting.Config.Check
import ChangeRouting.Gap.Reconcile
import ChangeRouting.Read.Rows
import ChangeRouting.Selection.Strategy

/-!
# ChangeRouting.Service.Basic

The routing service: an accepted configuration with its routers resolved.

A service is set up only if every configured router is accepted by its strategy.  For each trigger id it
keeps the routers of that trigger whose source group is the group of the node; of two triggers with one
id the later counts.
-/

namespace ChangeRouting

/-- A router with its strategy. -/
structure ResolvedRouter where
  router : Router
  strategy : Strategy

/-- A routing service. -/
structure Service where
  config : Configuration
  registry : Registry
  /-- The routers of each trigger, as far as they concern this node. -/
  attached : List (String × List ResolvedRouter)
  /-- By channel, what was routed of each transaction and may still be in a gap. -/
  marks : List (String × Marks)

namespace Service

/-- Put a value under a name, in place of an earlier one. -/
def assign (name : String) (value : α) : List (String × α) → List (String × α)
  | [] => [(name, value)]
  | entry :: rest => if entry.1 = name then (name, value) :: rest else entry :: assign name value rest

/-- The name has the value, the other names what they had. -/
theorem lookup_assign (name other : String) (value : α) (entries : List (String × α)) :
    (assign name value entries).lookup other =
      if other = name then some value else entries.lookup other := by
  induction entries with
  | nil =>
      rw [assign, List.lookup_cons]
      by_cases hother : other = name
      · simp [hother]
      · simp [hother, beq_eq_false_iff_ne.2 hother]
  | cons entry rest ih =>
      rw [assign]
      by_cases hentry : entry.1 = name
      · rw [if_pos hentry, List.lookup_cons, List.lookup_cons, hentry]
        by_cases hother : other = name
        · simp [hother]
        · simp [hother, beq_eq_false_iff_ne.2 hother]
      · rw [if_neg hentry, List.lookup_cons, List.lookup_cons, ih]
        by_cases hother : other = entry.1
        · simp [hother, hentry]
        · simp [beq_eq_false_iff_ne.2 hother]

/-- The routers a trigger lists that concern a group. -/
def concerning (group : String) (resolved : List ResolvedRouter) (trigger : Trigger) :
    List ResolvedRouter :=
  (trigger.routers.filterMap fun id => resolved.find? (·.router.id = id)).filter
    (·.router.sourceGroup = group)

/-- Set up a service. -/
def setUp (config : Configuration) (registry : Registry) : Except Fault Service := do
  config.check
  let resolved ← config.routers.mapM fun router =>
    return ResolvedRouter.mk router (← registry.resolve router)
  let attached := config.triggers.foldl
    (fun attached trigger =>
      assign trigger.id (concerning config.node.group resolved trigger) attached) []
  return ⟨config, registry, attached, []⟩

/-- Set up a service with the strategies of this library. -/
def withBuiltins (engine : QueryEngine) (config : Configuration) : Except Fault Service :=
  setUp config (.builtin engine config.routing.topologyMarker)

/-- The service with another engine for queries. -/
def asking (service : Service) (engine : QueryEngine) : Service where
  config := service.config
  registry := ⟨service.registry.strategies.map (·.asking engine)⟩
  attached := service.attached.map fun (trigger, routers) =>
    (trigger, routers.map fun resolved => { resolved with strategy := resolved.strategy.asking engine })
  marks := service.marks

/-- The routers attached to a trigger. -/
def routersOf (service : Service) (trigger : String) : List ResolvedRouter :=
  (service.attached.lookup trigger).getD []

/-- How the service keeps its gaps. -/
def gapPolicy (service : Service) : GapPolicy where
  staleAfter := service.config.routing.staleGap
  retention := retentionOfHours service.config.routing.gapRetention

/-- The channels the service routes. -/
def channels (service : Service) : List Channel := service.config.channels.filter (·.enabled)

/-- Who the service routes for and the types of its routers, in one line. -/
def describe (service : Service) : String :=
  "RouterService \x7b node: " ++ Text.quoted service.config.node.id ++ ", routers: " ++
    Text.quotedList service.registry.names ++ " \x7d"

/-- The marks of a channel. -/
def marksOf (service : Service) (channel : String) : Marks := (service.marks.lookup channel).getD []

end Service

end ChangeRouting
