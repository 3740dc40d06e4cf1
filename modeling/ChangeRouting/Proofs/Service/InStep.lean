import ChangeRouting.Proofs.Batch.InStep
import ChangeRouting.Proofs.Read.Rows
import ChangeRouting.Proofs.Service.Pass

/-!
# ChangeRouting.Proofs.Service.InStep

A pass on two stores that look alike to it.

* `inStep_routeChange`, `inStep_routeChanges` — the changes of a reading are routed in step, whatever ids
  their batches get;
* `answers_of_level` — the routers decide the same about them;
* `pass_together` — so passes that read the same end together.
-/

namespace ChangeRouting

/-- The open batches hold their changes in id order, and none of the changes to come or behind them. -/
structure PassState.Awaits (changes : List Change) (state : PassState) : Prop where
  sorted : state.builder.Sorted
  before : ∀ change ∈ changes, ∀ entry ∈ state.builder.opened, ∀ member ∈ entry.2.members,
    member.1 < change.id

/-- Two stores take batches, and this is what can be seen of both. -/
structure LookAlike (hidden : List TableName) (seen : View) (store other : Store) : Prop where
  store : store.Presents hidden seen
  other : other.Presents hidden seen

/-- What routers of a service may not depend on. -/
structure Service.Blind (service : Service) (hidden : List TableName) : Prop where
  /-- The tables that storing a batch writes are hidden. -/
  batches : ∀ name ∈ batchTables, name ∈ hidden
  /-- No query depends on what is hidden. -/
  overlooks : service.Overlooks hidden

section routing

variable {service : Service} {hidden : List TableName} {seen : View} {lookups : Lookups} {channel : Channel}

theorem inStep_building {work : Building α} {P P' : Builder → Prop}
    (h : InStep (Level hidden seen P) (Level hidden seen P') work) :
    InStep (Level hidden seen fun state : PassState => P state.builder)
      (Level hidden seen fun state => P' state.builder) (Service.building work) := by
  rintro ⟨state, store⟩ ⟨_, other⟩ ⟨rfl, hholds, hstore, hother⟩
  have hrun : ∀ store, (Service.building work).run.run (state, store) =
      ((work.run.run (state.builder, store)).1,
        { state with builder := (work.run.run (state.builder, store)).2.1 },
        (work.run.run (state.builder, store)).2.2) := fun _ => rfl
  have hwork : Together (Level hidden seen P') (work.run.run (state.builder, store))
      (work.run.run (state.builder, other)) := h ⟨rfl, hholds, hstore, hother⟩
  rw [hrun, hrun]
  generalize work.run.run (state.builder, store) = one at hwork ⊢
  generalize work.run.run (state.builder, other) = two at hwork ⊢
  cases hwork with
  | done a hlevel =>
      exact .done a ⟨congrArg (fun builder => { state with builder := builder }) hlevel.same,
        hlevel.holds, hlevel.store, hlevel.other⟩
  | failed fault => exact .failed fault
  | short => exact .short
  | otherShort => exact .otherShort

/-- A change is routed beside either store, and the changes behind it are still to come. -/
theorem inStep_routeChange (hblind : service.Blind hidden) {change : Change} {changes : List Change}
    (hlater : ∀ later ∈ changes, change.id < later.id) :
    InStep (Level hidden seen (PassState.Awaits (change :: changes)))
      (Level hidden seen (PassState.Awaits changes)) (service.routeChange lookups change) := by
  rintro ⟨state, store⟩ ⟨_, other⟩ ⟨rfl, hholds, hstore, hother⟩
  have hadd : InStep (Level hidden seen fun state : PassState => ∀ todo, state.builder.Sends change.id todo)
      (Level hidden seen fun state => state.builder.Sends change.id [])
      (discard (Service.building
        (Builder.add change (service.decide lookups other change state.scope).decisions))) :=
    (inStep_building (inStep_add hblind.batches _)).discard
  have hadvance : InStep (Level hidden seen fun state : PassState => state.builder.Sends change.id [])
      (Level hidden seen (PassState.Awaits changes))
      (modify fun s : PassState × Store => (s.1.advance change, s.2)) := by
    refine inStep_modify fun s t hst => ⟨congrArg (PassState.advance · change) hst.same, ⟨?_, ?_⟩,
      hst.store, hst.other⟩
    · exact hst.holds.sorted
    · intro later hmem entry hentry member hmember
      exact Int.lt_of_le_of_lt (hst.holds.upto entry hentry member hmember).1 (hlater later hmem)
  rw [Service.routeChange, run_bind, run_bind, run_get, run_get]
  simp only
  rw [decide_of_view (hstore.view.trans hother.view.symm) hblind.overlooks, run_bind, run_bind,
    run_set, run_set]
  simp only
  refine (hadd.bind fun _ => hadvance) ⟨rfl, fun todo => ⟨hholds.sorted, ?_⟩, hstore, hother⟩
  intro entry hentry member hmember
  have hlt := hholds.before change List.mem_cons_self entry hentry member hmember
  exact ⟨Int.le_of_lt hlt, fun _ => hlt⟩

/-- Changes in id order are routed beside either store. -/
theorem inStep_routeChanges (hblind : service.Blind hidden) {changes : List Change}
    (hasc : changes.Pairwise (·.id < ·.id)) :
    InStep (Level hidden seen (PassState.Awaits changes))
      (Level hidden seen fun state => state.builder.Sorted)
      (service.routeChanges lookups channel changes) := by
  induction changes with
  | nil =>
      exact inStep_pure _ fun _ _ hst =>
        ⟨hst.same, hst.holds.sorted, hst.store, hst.other⟩
  | cons change changes ih =>
      rw [List.pairwise_cons] at hasc
      rintro ⟨state, store⟩ ⟨_, other⟩ ⟨rfl, hholds, hstore, hother⟩
      rw [Service.routeChanges, run_bind, run_bind, run_get, run_get]
      simp only
      cases hstop : state.isBoundary change && state.limitReached channel with
      | true =>
          simp only [if_true]
          exact .done _ ⟨rfl, hholds.sorted, hstore, hother⟩
      | false =>
          simp only [Bool.false_eq_true, if_false]
          exact ((inStep_routeChange hblind hasc.1).bind fun _ => ih hasc.2)
            ⟨rfl, hholds, hstore, hother⟩

/-- What succeeds beside either store ends in states on one level. -/
theorem Together.of_ok {σ : Type} {R : σ → σ → Prop} {a b : α} {s t : σ}
    (h : Together R (.ok a, s) (.ok b, t)) : a = b ∧ R s t := by
  cases h with
  | done _ h => exact ⟨rfl, h⟩

/-- Routers decide the same about changes that are routed beside either store. -/
theorem answers_of_level (hblind : service.Blind hidden) {changes : List Change}
    (hasc : changes.Pairwise (·.id < ·.id)) {s t s' t' : PassState × Store}
    (hlevel : Level hidden seen (PassState.Awaits changes) s t)
    (hs : (service.routeChanges lookups channel changes).run.run s = (.ok (), s'))
    (ht : (service.routeChanges lookups channel changes).run.run t = (.ok (), t')) :
    service.answers lookups channel changes s = service.answers lookups channel changes t := by
  induction changes generalizing s t with
  | nil => rfl
  | cons change changes ih =>
      rw [List.pairwise_cons] at hasc
      obtain ⟨state, store⟩ := s
      obtain ⟨otherState, other⟩ := t
      obtain rfl : state = otherState := hlevel.same
      have hdecide : service.decide lookups store change state.scope =
          service.decide lookups other change state.scope :=
        decide_of_view (hlevel.store.view.trans hlevel.other.view.symm) hblind.overlooks lookups state.scope
      rw [Service.routeChanges, run_bind, run_get] at hs ht
      rw [Service.answers, Service.answers]
      cases hstop : state.isBoundary change && state.limitReached channel with
      | true =>
          simp only [if_true]
      | false =>
          simp only [hstop, Bool.false_eq_true, if_false] at hs ht ⊢
          obtain ⟨_, mid, hone, hs⟩ := run_bind_eq_ok.1 hs
          obtain ⟨_, otherMid, hotherOne, ht⟩ := run_bind_eq_ok.1 ht
          have hmid : Together (Level hidden seen (PassState.Awaits changes))
              ((service.routeChange lookups change).run.run (state, store))
              ((service.routeChange lookups change).run.run (state, other)) :=
            inStep_routeChange hblind hasc.1 hlevel
          rw [hone, hotherOne] at hmid
          rw [hdecide, hone, hotherOne, ih hasc.2 hmid.of_ok.2 hs ht]

/-! ## the pass -/

/-- How the log was asked does not show in the passes. -/
theorem routeReading_of_content {reading other : Reading} (h : reading.content = other.content)
    (stalledAfter : Option Nat) :
    service.routeReading lookups stalledAfter channel reading =
      service.routeReading lookups stalledAfter channel other := by
  simp only [Reading.content, Prod.mk.injEq] at h
  simp only [Service.routeReading, h]

theorem outcomeOf_of_content {reading other : Reading} (h : reading.content = other.content)
    (built : BuildReport) (state : PassState) :
    Service.outcomeOf channel reading built state = Service.outcomeOf channel other built state := by
  simp only [Reading.content, Prod.mk.injEq] at h
  simp only [Service.outcomeOf, h]

/-- A reading in id order is routed and stored beside either store. -/
theorem inStep_routeReading (hblind : service.Blind hidden) {reading : Reading}
    (hasc : reading.changes.Pairwise (·.id < ·.id)) (stalledAfter : Option Nat) :
    InStep (Level hidden seen (PassState.Awaits (stalledAfter.elim reading.changes reading.changes.take)))
      (Level hidden seen fun _ => True)
      (service.routeReading lookups stalledAfter channel reading) := by
  have htaken : (stalledAfter.elim reading.changes reading.changes.take).Pairwise (·.id < ·.id) := by
    cases stalledAfter with
    | none => exact hasc
    | some count => exact hasc.sublist (List.take_sublist _ _)
  have hfinish : InStep (Level hidden seen fun state : PassState => state.builder.Sorted)
      (Level hidden seen fun _ => True) (do
        let built ← Service.building Builder.finish
        if stalledAfter.isSome then throw (.stalled channel.id service.config.routing.takeTimeout)
        return built : Passing BuildReport) := by
    refine (inStep_building (inStep_finish hblind.batches)).bind fun built => ?_
    simp only
    split
    · exact InStep.bind (inStep_throw _) fun _ => inStep_pure _ fun _ _ hst => hst
    · exact inStep_pure _ fun _ _ hst => hst
  rw [Service.routeReading]
  refine (inStep_routeChanges hblind htaken).bind fun _ => ?_
  rintro ⟨state, store⟩ ⟨_, other⟩ ⟨rfl, hholds, hstore, hother⟩
  have hlevel : Level hidden seen (fun state : PassState => state.builder.Sorted) (state, store)
      (state, other) := ⟨rfl, hholds, hstore, hother⟩
  rw [run_bind, run_bind, run_get, run_get]
  simp only
  split
  · split
    · exact .failed _
    · exact hfinish hlevel
  · exact hfinish hlevel

/-- Passes that read the same end together on stores that look alike. -/
theorem pass_together (hblind : service.Blind hidden) {gaps otherGaps : List Gap}
    (stalledAfter : Option Nat) {store other : Store} (halike : LookAlike hidden seen store other)
    (hreading : (service.readingOf gaps channel store).content =
      (service.readingOf otherGaps channel other).content)
    (hasc : (service.readingOf gaps channel store).changes.Pairwise (·.id < ·.id)) :
    Together (LookAlike hidden seen) ((service.pass lookups gaps stalledAfter channel).on store)
      ((service.pass lookups otherGaps stalledAfter channel).on other) := by
  have hstart : Level hidden seen (PassState.Awaits (stalledAfter.elim
      (service.readingOf gaps channel store).changes
      (service.readingOf gaps channel store).changes.take))
      (service.startOf channel, store) (service.startOf channel, other) :=
    ⟨rfl, ⟨fun _ hentry => (List.not_mem_nil hentry).elim,
      fun _ _ _ hentry => (List.not_mem_nil hentry).elim⟩, halike.store, halike.other⟩
  have hroute : Together (Level hidden seen fun _ => True)
      ((service.routeReading lookups stalledAfter channel (service.readingOf gaps channel store)).run.run
        (service.startOf channel, store))
      ((service.routeReading lookups stalledAfter channel (service.readingOf gaps channel store)).run.run
        (service.startOf channel, other)) := inStep_routeReading hblind hasc stalledAfter hstart
  show Together _ (service.pass lookups gaps stalledAfter channel store)
    (service.pass lookups otherGaps stalledAfter channel other)
  simp only [Service.pass, ExceptT.mk, ← routeReading_of_content hreading,
    ← outcomeOf_of_content hreading]
  generalize (service.routeReading lookups stalledAfter channel
    (service.readingOf gaps channel store)).run.run (service.startOf channel, store) = one at hroute ⊢
  generalize (service.routeReading lookups stalledAfter channel
    (service.readingOf gaps channel store)).run.run (service.startOf channel, other) = two at hroute ⊢
  cases hroute with
  | @done built s t hlevel =>
      obtain ⟨state, left⟩ := s
      obtain ⟨_, otherLeft⟩ := t
      obtain ⟨rfl, -, hstore, hother⟩ := hlevel
      exact .done _ ⟨hstore, hother⟩
  | failed fault => exact .failed fault
  | short => exact .short
  | otherShort => exact .otherShort

/-- The routers decide the same in passes that read the same and succeed. -/
theorem answers_of_passes (hblind : service.Blind hidden) {gaps otherGaps : List Gap}
    {stalledAfter : Option Nat} {store other after otherAfter : Store} {outcome otherOutcome : PassOutcome}
    (halike : LookAlike hidden seen store other)
    (hreading : (service.readingOf gaps channel store).content =
      (service.readingOf otherGaps channel other).content)
    (hasc : (service.readingOf gaps channel store).changes.Pairwise (·.id < ·.id))
    (hpass : (service.pass lookups gaps stalledAfter channel).on store = (.ok outcome, after))
    (hother : (service.pass lookups otherGaps stalledAfter channel).on other =
      (.ok otherOutcome, otherAfter)) :
    (service.recordOf lookups gaps channel store after).answers =
      (service.recordOf lookups otherGaps channel other otherAfter).answers := by
  obtain ⟨mid, _, _, hroute, -⟩ := pass_eq_ok hpass
  obtain ⟨otherMid, _, _, hotherRoute, -⟩ := pass_eq_ok hother
  have hchanges : (service.readingOf gaps channel store).changes =
      (service.readingOf otherGaps channel other).changes := congrArg Prod.fst hreading
  rw [← hchanges] at hotherRoute
  simp only [Service.recordOf, ← hchanges]
  refine answers_of_level hblind hasc ⟨rfl, ⟨?_, ?_⟩, halike.store, halike.other⟩
    hroute hotherRoute
  · exact fun _ hentry => (List.not_mem_nil hentry).elim
  · exact fun _ _ _ hentry => (List.not_mem_nil hentry).elim

end routing

end ChangeRouting
