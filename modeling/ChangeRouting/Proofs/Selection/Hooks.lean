import ChangeRouting.Proofs.Work
import ChangeRouting.Selection.Strategy
import Mathlib.Data.List.Infix

/-!
# ChangeRouting.Proofs.Selection.Hooks

Which refreshes are pending.

* `Hooks.Tell` — pending are the refreshes that were registered, each once, in the order in which they
  were registered first;
* `Hooks.Tell.register`, `Hooks.Tell.absorb` — so it stays when one more is registered and when the
  refreshes of another set are taken over;
* `hooks_select` — a strategy registers what the table of the change asks for, and nothing else.
-/

namespace ChangeRouting

/-! ## first occurrences -/

section eraseDups

variable [BEq α] [LawfulBEq α]

theorem eraseDups_concat_of_mem {xs : List α} {x : α} (h : x ∈ xs) :
    (xs ++ [x]).eraseDups = xs.eraseDups := by
  have hnone : [x].removeAll xs = [] := by
    rw [List.removeAll, List.filter_cons, List.elem_eq_true_of_mem h]
    rfl
  rw [List.eraseDups_append, hnone, List.eraseDups_nil, List.append_nil]

theorem eraseDups_concat_of_not_mem {xs : List α} {x : α} (h : x ∉ xs) :
    (xs ++ [x]).eraseDups = xs.eraseDups ++ [x] := by
  have hnone : xs.elem x = false := by
    rw [← Bool.not_eq_true, List.elem_iff]
    exact h
  have hkept : [x].removeAll xs = [x] := by
    rw [List.removeAll, List.filter_cons, hnone]
    rfl
  rw [List.eraseDups_append, hkept, List.eraseDups_cons, List.filter_nil, List.eraseDups_nil]

/-- Each element occurs once. -/
theorem nodup_eraseDups (xs : List α) : xs.eraseDups.Nodup := by
  classical
  induction xs using List.reverseRecOn with
  | nil => exact List.nodup_nil
  | append_singleton xs x ih =>
      by_cases h : x ∈ xs
      · rw [eraseDups_concat_of_mem h]
        exact ih
      · rw [eraseDups_concat_of_not_mem h, List.nodup_append]
        refine ⟨ih, List.pairwise_singleton _ x, fun a ha b hb => ?_⟩
        rw [List.mem_singleton] at hb
        rintro rfl
        exact h (hb ▸ List.mem_eraseDups.1 ha)

/-- Elements that come again do not matter. -/
theorem eraseDups_append_eraseDups (xs ys : List α) :
    (xs ++ ys.eraseDups).eraseDups = (xs ++ ys).eraseDups := by
  classical
  induction ys using List.reverseRecOn with
  | nil => rfl
  | append_singleton ys y ih =>
      by_cases h : y ∈ ys
      · rw [eraseDups_concat_of_mem h, ih, ← List.append_assoc,
          eraseDups_concat_of_mem (List.mem_append_right _ h)]
      · rw [eraseDups_concat_of_not_mem h, ← List.append_assoc, ← List.append_assoc]
        by_cases hbefore : y ∈ xs
        · rw [eraseDups_concat_of_mem (List.mem_append_left _ hbefore), ih,
            eraseDups_concat_of_mem (List.mem_append_left _ hbefore)]
        · have hnot : y ∉ xs ++ ys.eraseDups ∧ y ∉ xs ++ ys := by
            simp only [List.mem_append, List.mem_eraseDups, hbefore, h, or_self, not_false_eq_true,
              and_self]
          rw [eraseDups_concat_of_not_mem hnot.1, ih, eraseDups_concat_of_not_mem hnot.2]

end eraseDups

/-! ## pending refreshes -/

theorem Refresh.name_injective {one other : Refresh} (h : one.name = other.name) : one = other := by
  revert h
  cases one <;> cases other <;> decide

namespace Hooks

/-- Pending are these refreshes, each once, in the order in which they were registered first. -/
def Tell (hooks : Hooks Refresh) (registered : List Refresh) : Prop :=
  hooks.pending = registered.eraseDups.map fun refresh => (refresh.name, refresh)

/-- Hooks with refreshes registered one after the other. -/
def registerAll (hooks : Hooks Refresh) (refreshes : List Refresh) : Hooks Refresh :=
  refreshes.foldl (fun hooks refresh => hooks.register refresh.name refresh) hooks

variable {hooks other : Hooks Refresh} {registered more : List Refresh}

theorem tell_empty : empty.Tell [] := rfl

/-- A refresh is pending if it was registered. -/
theorem Tell.has_iff (h : hooks.Tell registered) (refresh : Refresh) :
    hooks.has refresh.name = true ↔ refresh ∈ registered := by
  rw [has, keys, h, decide_eq_true_eq, List.map_map, List.mem_map]
  constructor
  · rintro ⟨other, hother, hname⟩
    rw [← Refresh.name_injective hname]
    exact List.mem_eraseDups.1 hother
  · exact fun hmem => ⟨refresh, List.mem_eraseDups.2 hmem, rfl⟩

theorem Tell.register (h : hooks.Tell registered) (refresh : Refresh) :
    (hooks.register refresh.name refresh).Tell (registered ++ [refresh]) := by
  rw [Hooks.register]
  by_cases hmem : refresh ∈ registered
  · rw [if_pos ((h.has_iff refresh).2 hmem), Tell, eraseDups_concat_of_mem hmem]
    exact h
  · rw [if_neg (mt (h.has_iff refresh).1 hmem), Tell, eraseDups_concat_of_not_mem hmem, List.map_append,
      ← h]
    rfl

theorem Tell.registerAll (h : hooks.Tell registered) (refreshes : List Refresh) :
    (hooks.registerAll refreshes).Tell (registered ++ refreshes) := by
  induction refreshes generalizing hooks registered with
  | nil =>
      rw [List.append_nil]
      exact h
  | cons refresh refreshes ih =>
      have hrest := ih (h.register refresh)
      rw [List.append_assoc] at hrest
      exact hrest

/-- What another set took up is registered behind what was there. -/
theorem Tell.absorb (h : hooks.Tell registered) (hother : other.Tell more) :
    (hooks.absorb other).Tell (registered ++ more) := by
  have hall := h.registerAll more.eraseDups
  rw [Tell, eraseDups_append_eraseDups] at hall
  rw [Tell, ← hall, Hooks.absorb, hother, List.foldl_map, Hooks.registerAll]

/-- What happens is each registered refresh, once, in the order of first registration. -/
theorem Tell.map_snd (h : hooks.Tell registered) : hooks.pending.map (·.2) = registered.eraseDups := by
  rw [h, List.map_map]
  exact List.map_id _

end Hooks

/-! ## strategies -/

/-- The refreshes that a strategy registers for a change of a table. -/
def Strategy.refreshes (strategy : Strategy) (table : String) : List Refresh :=
  match strategy with
  | .topology marker =>
    match TopologyTable.ofName? marker table with
    | some (.other (some refresh)) => [refresh]
    | _ => []
  | _ => []

section strategies

variable (store : Store) (q : Question)

section keeps

variable {part : RoutingScope → τ} (hput : ∀ scope key entry, part (scope.put key entry) = part scope)
include hput

/-- Caching a value changes nothing but the cache. -/
theorem keeps_cached (key : String) (kind : α → Entry) (kind? : Entry → Option α)
    (compute : Unit → Except Fault α) :
    Keeps part (Scoped.cached key kind kind? compute : Selecting α) := by
  rw [Scoped.cached]
  refine keeps_get.bind fun scope => ?_
  split
  · exact keeps_pure _
  · refine .bind (fun scope => rfl) fun value => ?_
    exact .bind (keeps_modify fun scope => hput scope key _) fun _ => keeps_pure _

theorem keeps_selectColumn : Keeps part (Strategy.selectColumn store q) := by
  refine (keeps_cached hput _ _ _ _).bind fun tests => ?_
  simp only
  split
  · exact (keeps_cached hput _ _ _ _).bind fun _ => keeps_pure _
  · exact .bind (keeps_pure _) fun _ => keeps_pure _

theorem keeps_selectLookup (engine : QueryEngine) :
    Keeps part (Strategy.selectLookup engine store q) :=
  (keeps_cached hput _ _ _ _).bind fun _ => keeps_pure _

end keeps

theorem keeps_selectScript {part : RoutingScope → τ} (engine : ScriptEngine) :
    Keeps part (Strategy.selectScript engine q) := by
  refine keeps_get.bind fun scope => ?_
  exact .bind (fun _ => rfl) fun _ => keeps_pure _

/-- Topology registers what its table asks for. -/
theorem hooks_selectTopology (marker : String) (scope : RoutingScope) :
    ((Strategy.selectTopology marker store q).run.run scope).2.hooks =
      scope.hooks.registerAll ((Strategy.topology marker).refreshes q.change.table) := by
  simp only [Strategy.selectTopology, Strategy.refreshes]
  cases TopologyTable.ofName? marker q.change.table with
  | none => rfl
  | some table =>
      cases table with
      | nodes =>
          simp only
          cases q.values.get "NODE_ID" with
          | none => rfl
          | some subject =>
              exact (keeps_cached (fun _ _ _ => rfl) _ _ _ _).bind
                (fun _ => keeps_get.bind fun _ => keeps_pure _) scope
      | other refresh => cases refresh <;> rfl

/-- A strategy registers what the table of the change asks for, and nothing else. -/
theorem hooks_select (strategy : Strategy) (scope : RoutingScope) :
    ((strategy.select store q).run.run scope).2.hooks =
      scope.hooks.registerAll (strategy.refreshes q.change.table) := by
  cases strategy with
  | everyone => rfl
  | column => exact keeps_selectColumn store q (fun _ _ _ => rfl) scope
  | lookup engine => exact keeps_selectLookup store q (fun _ _ _ => rfl) engine scope
  | subselect engine => rfl
  | topology marker => exact hooks_selectTopology store q marker scope
  | script engine => exact keeps_selectScript q engine scope

end strategies

end ChangeRouting
