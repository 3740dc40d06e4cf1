import ChangeRouting.Proofs.Read.Handover
import ChangeRouting.Proofs.Service.Whole
import ChangeRouting.Service.Tandem

/-!
# ChangeRouting.Proofs.Service.Tandem

A pass comes to the same however its two sides take turns.

* `remaining` — a pass that goes on by itself from some point;
* `Tandem.Agrees` — at every moment, what the sides still do together is what remains of the pass when it
  goes on by itself;
* `Agrees.step`, `Agrees.reaches` — each move keeps this, and so does every run;
* `queue_makes_no_difference` — whatever the length of the queue and whoever's turn it is.
-/

namespace ChangeRouting

/-! ## a pass by itself -/

/-- How a pass ends that goes on by itself, with these changes ahead. -/
def Service.remaining (service : Service) (lookups : Lookups) (channel : Channel) (total : Reading)
    (changes : List Change) (state : PassState) (store : Store) :
    Except Fault BuildReport × PassState × Store :=
  (service.routeReading lookups none channel { total with changes := changes }).run.run (state, store)

/-- How a pass ends whose changes are all routed. -/
def Service.finishing (state : PassState) (store : Store) :
    Except Fault BuildReport × PassState × Store :=
  (Service.building Builder.finish).run.run (state, store)

section remaining

variable {service : Service} {lookups : Lookups} {channel : Channel} {total : Reading}
  {change : Change} {changes : List Change} {state : PassState} {store : Store}

theorem remaining_eq : service.remaining lookups channel total changes state store =
    match (service.routeChanges lookups channel changes).run.run (state, store) with
    | (.error fault, after) => (.error fault, after)
    | (.ok _, after) =>
      match after.1.stoppedEarly, total.fault with
      | false, some fault => (.error fault, after)
      | _, _ => Service.finishing after.1 after.2 := routeReading_run

theorem remaining_nil (hgoing : state.stoppedEarly = false) :
    service.remaining lookups channel total [] state store =
      match total.fault with
      | some fault => (.error fault, state, store)
      | none => Service.finishing state store := by
  rw [remaining_eq, Service.routeChanges, run_pure]
  simp only [hgoing]
  cases total.fault <;> rfl

/-- A pass that has done enough stores its batches. -/
theorem remaining_cons_of_limit
    (hlimit : (state.isBoundary change && state.limitReached channel) = true) :
    service.remaining lookups channel total (change :: changes) state store =
      Service.finishing { state with stoppedEarly := true } store := by
  rw [remaining_eq, Service.routeChanges, run_bind, run_get]
  simp only [hlimit, if_true, run_set]

/-- Otherwise it routes the next change. -/
theorem remaining_cons
    (hlimit : (state.isBoundary change && state.limitReached channel) = false) :
    service.remaining lookups channel total (change :: changes) state store =
      match (service.routeChange lookups change).run.run (state, store) with
      | (.error fault, after) => (.error fault, after)
      | (.ok _, after) => service.remaining lookups channel total changes after.1 after.2 := by
  rw [remaining_eq, Service.routeChanges, run_bind, run_get]
  simp only [hlimit, Bool.false_eq_true, if_false, run_bind]
  cases (service.routeChange lookups change).run.run (state, store) with
  | mk outcome after =>
      cases outcome with
      | error fault => rfl
      | ok u => exact remaining_eq.symm

end remaining

/-! ## what the sides do together -/

namespace Tandem

/-- The router did not stop, and the marker is not taken. -/
structure Going (tandem : Tandem) : Prop where
  stopping : tandem.handover.stopping = false
  closed : tandem.handover.closed = false
  ended : tandem.handover.ended = none
  early : tandem.state.stoppedEarly = false

/-- What the sides still do together is what remains of the pass when it goes on by itself. -/
def Agrees (service : Service) (lookups : Lookups) (channel : Channel) (total : Reading)
    (fate : Except Fault BuildReport × PassState × Store) (tandem : Tandem) : Prop :=
  match tandem.stage with
  | .taking => tandem.Going ∧ ∃ changes, total.changes = tandem.handover.taken ++ changes ∧
    service.remaining lookups channel total changes tandem.state tandem.store = fate
  | .judging change => tandem.Going ∧ ∃ changes, total.changes = tandem.handover.taken ++ changes ∧
    service.remaining lookups channel total (change :: changes) tandem.state tandem.store = fate
  | .storing => Service.finishing tandem.state tandem.store = fate ∧
    (tandem.state.stoppedEarly = true ∧ tandem.handover.ended = none ∧ tandem.handover.closed = false ∨
      tandem.state.stoppedEarly = false ∧
        ∃ summary, tandem.handover.ended = some summary ∧ summary.Whole total)
  | .draining built => fate = (.ok built, tandem.state, tandem.store) ∧
    tandem.state.stoppedEarly = true ∧ tandem.handover.ended = none ∧ tandem.handover.closed = false
  | .done outcome => ∃ built skipped, fate = (.ok built, tandem.state, tandem.store) ∧
    outcome = Service.outcomeOf channel { total with skipped := skipped } built tandem.state ∧
    (tandem.state.stoppedEarly = false → skipped = total.skipped)
  | .failed fault => fate = (.error fault, tandem.state, tandem.store)

section agrees

variable {service : Service} {lookups : Lookups} {channel : Channel} {window : Nat} {total : Reading}
  {fate : Except Fault BuildReport × PassState × Store} {now next : Tandem}

/-- Nothing of this depends on how far the reader is. -/
theorem Agrees.read {handover : Handover} (h : now.Agrees service lookups channel total fate)
    (hsame : handover.side = now.handover.side) :
    Agrees service lookups channel total fate { now with handover := handover } := by
  simp only [Handover.side, Prod.mk.injEq] at hsame
  obtain ⟨hstopping, hclosed, htaken, hended⟩ := hsame
  obtain ⟨before, stage, state, store⟩ := now
  cases stage with
  | taking =>
      obtain ⟨hgoing, changes, hchanges, hfate⟩ := h
      refine ⟨⟨hstopping.trans hgoing.stopping, hclosed.trans hgoing.closed,
        hended.trans hgoing.ended, hgoing.early⟩, changes, ?_, hfate⟩
      rw [hchanges]
      exact congrArg (· ++ changes) htaken.symm
  | judging change =>
      obtain ⟨hgoing, changes, hchanges, hfate⟩ := h
      refine ⟨⟨hstopping.trans hgoing.stopping, hclosed.trans hgoing.closed,
        hended.trans hgoing.ended, hgoing.early⟩, changes, ?_, hfate⟩
      rw [hchanges]
      exact congrArg (· ++ changes) htaken.symm
  | storing =>
      obtain ⟨hfate, ⟨hearly, hnone, hopen⟩ | ⟨hearly, summary, hsome, hwhole⟩⟩ := h
      · exact ⟨hfate, .inl ⟨hearly, hended.trans hnone, hclosed.trans hopen⟩⟩
      · exact ⟨hfate, .inr ⟨hearly, summary, hended.trans hsome, hwhole⟩⟩
  | draining built =>
      obtain ⟨hfate, hearly, hnone, hopen⟩ := h
      exact ⟨hfate, hearly, hended.trans hnone, hclosed.trans hopen⟩
  | done outcome => exact h
  | failed fault => exact h

/-- The router takes an item to route it. -/
theorem Agrees.receive {item : Queued} {handover : Handover}
    (h : now.Agrees service lookups channel total fate) (hstage : now.stage = .taking)
    (hsound : now.handover.Sound window total) (htake : now.handover.take? = some (item, handover)) :
    (now.receive item handover).Agrees service lookups channel total fate := by
  rw [Agrees, hstage] at h
  obtain ⟨hgoing, changes, hchanges, hfate⟩ := h
  have hnext := hsound.take htake
  cases item with
  | change change =>
      have hside := Handover.side_take_change htake
      simp only [Handover.side, Prod.mk.injEq] at hside
      obtain ⟨hstopping, hclosed, htaken, hended⟩ := hside
      -- what was taken is what comes first of what remains
      obtain ⟨rest, hrest⟩ := hnext.taken
      have hahead : changes = change :: rest := by
        rw [hchanges, htaken, List.append_assoc] at hrest
        exact (List.append_cancel_left hrest).symm
      refine ⟨⟨hstopping.trans hgoing.stopping, hclosed.trans hgoing.closed,
        hended.trans hgoing.ended, hgoing.early⟩, rest, hrest.symm, ?_⟩
      rw [← hahead]
      exact hfate
  | finished summary =>
      have hside := Handover.side_take_finished htake
      simp only [Handover.side, Prod.mk.injEq] at hside
      obtain ⟨hstopping, -, htaken, hended⟩ := hside
      obtain ⟨hwhole, hall⟩ := hnext.whole hended (hstopping.trans hgoing.stopping)
      have hnone : changes = [] := by
        rw [htaken, hchanges] at hall
        exact List.self_eq_append_right.1 hall
      rw [hnone, remaining_nil hgoing.early] at hfate
      rw [Tandem.receive]
      cases hfault : summary.fault with
      | some fault =>
          rw [← hwhole.fault, hfault] at hfate
          exact hfate.symm
      | none =>
          rw [← hwhole.fault, hfault] at hfate
          exact ⟨hfate, .inr ⟨hgoing.early, summary, hended, hwhole⟩⟩

/-- The router routes a change, or stops before it. -/
theorem Agrees.judge {change : Change} (h : now.Agrees service lookups channel total fate)
    (hstage : now.stage = .judging change) :
    (judge service lookups channel now change).Agrees service lookups channel total fate := by
  rw [Agrees, hstage] at h
  obtain ⟨hgoing, changes, hchanges, hfate⟩ := h
  rw [Tandem.judge]
  split
  · next hlimit =>
    rw [remaining_cons_of_limit hlimit] at hfate
    exact ⟨hfate, .inl ⟨rfl, hgoing.ended, hgoing.closed⟩⟩
  · next hlimit =>
    rw [remaining_cons (Bool.eq_false_iff.2 hlimit)] at hfate
    split
    · next state store hrun =>
      rw [hrun] at hfate
      obtain ⟨count, builder, _, -, hafter⟩ := routeChange_eq_ok hrun
      have hearly : state.stoppedEarly = now.state.stoppedEarly :=
        congrArg (fun after => after.1.stoppedEarly) hafter
      exact ⟨⟨hgoing.stopping, hgoing.closed, hgoing.ended, hearly.trans hgoing.early⟩, changes,
        hchanges, hfate⟩
    · next fault state store hrun =>
      rw [hrun] at hfate
      exact hfate.symm

/-- The router stores its batches. -/
theorem Agrees.settle (h : now.Agrees service lookups channel total fate)
    (hstage : now.stage = .storing) :
    (settle channel now).Agrees service lookups channel total fate := by
  rw [Agrees, hstage] at h
  obtain ⟨hfate, hends⟩ := h
  rw [Service.finishing] at hfate
  rw [Tandem.settle]
  split
  · next fault state store hrun =>
    rw [hrun] at hfate
    exact hfate.symm
  · next built state store hrun =>
    rw [hrun] at hfate
    obtain ⟨builder, _, -, hafter⟩ := building_eq_ok.1 hrun
    have hearly : state.stoppedEarly = now.state.stoppedEarly :=
      congrArg (fun after => after.1.stoppedEarly) hafter
    obtain ⟨hstopped, hnone, hopen⟩ | ⟨-, summary, hsome, hwhole⟩ := hends
    · simp only [hnone]
      exact ⟨hfate.symm, hearly.trans hstopped, hnone, hopen⟩
    · simp only [hsome]
      exact ⟨built, summary.skipped, hfate.symm, rfl, fun _ => hwhole.skipped⟩

theorem Agrees.drain {built : BuildReport} {item : Queued} {handover : Handover}
    (h : now.Agrees service lookups channel total fate) (hstage : now.stage = .draining built)
    (htake : now.handover.take? = some (item, handover)) :
    (now.drain channel built item handover).Agrees service lookups channel total fate := by
  rw [Agrees, hstage] at h
  obtain ⟨hfate, hearly, hnone, hopen⟩ := h
  cases item with
  | change change =>
      have hside := Handover.side_take_change htake
      simp only [Handover.side, Prod.mk.injEq] at hside
      obtain ⟨-, hclosed, -, hended⟩ := hside
      rw [Agrees, show (now.drain channel built (.change change) handover).stage = _ from hstage]
      exact ⟨hfate, hearly, hended.trans hnone, hclosed.trans hopen⟩
  | finished summary =>
      refine ⟨built, summary.skipped, hfate, rfl, fun hlate => ?_⟩
      rw [show now.state.stoppedEarly = false from hlate] at hearly
      cases hearly

end agrees

/-! ## runs -/

section runs

variable {service : Service} {lookups : Lookups} {channel : Channel} {window : Nat} {total : Reading}
  {fate : Except Fault BuildReport × PassState × Store} {start now next : Tandem}

theorem exists_of_read? {handover? : Option Handover} (h : now.read? handover? = some next) :
    ∃ handover, handover? = some handover ∧ next = { now with handover := handover } := by
  obtain ⟨handover, hhandover, rfl⟩ := Option.map_eq_some_iff.1 h
  exact ⟨handover, hhandover, rfl⟩

/-- What the router does with the queue is what a router may do with it. -/
theorem sound_route (h : now.handover.Sound window total)
    (hmove : now.route? service lookups channel = some next) : next.handover.Sound window total := by
  rw [route?] at hmove
  split at hmove
  · obtain ⟨⟨item, handover⟩, htake, rfl⟩ := Option.map_eq_some_iff.1 hmove
    have hnext := h.take htake
    cases item with
    | change change => exact hnext
    | finished summary =>
        simp only [receive]
        split
        · exact hnext.leave
        · exact hnext
  · cases hmove
    rw [judge]
    split
    · exact h.stop
    · split
      · exact h
      · exact h.leave
  · cases hmove
    rw [settle]
    split
    · exact h.leave
    · simp only
      split
      · exact h
      · exact h.stop
  · obtain ⟨⟨item, handover⟩, htake, rfl⟩ := Option.map_eq_some_iff.1 hmove
    have hnext := h.take htake
    cases item with
    | change change => exact hnext
    | finished summary => exact hnext
  · cases hmove
  · cases hmove

/-- Each move keeps what the sides do together. -/
theorem Agrees.step {move : TandemMove} (h : now.Agrees service lookups channel total fate)
    (hsound : now.handover.Sound window total)
    (hmove : now.step? service lookups channel move = some next) :
    next.Agrees service lookups channel total fate ∧ next.handover.Sound window total := by
  cases move with
  | fetch =>
      obtain ⟨handover, hfetch, rfl⟩ := exists_of_read? hmove
      exact ⟨h.read (Handover.side_fetch hfetch), hsound.fetch hfetch⟩
  | offer =>
      obtain ⟨handover, hoffer, rfl⟩ := exists_of_read? hmove
      exact ⟨h.read (Handover.side_offer hoffer), hsound.offer hoffer⟩
  | giveUp =>
      obtain ⟨handover, hgiveUp, rfl⟩ := exists_of_read? hmove
      exact ⟨h.read (Handover.side_giveUp hgiveUp), hsound.giveUp hgiveUp⟩
  | route =>
      refine ⟨?_, sound_route hsound hmove⟩
      rw [step?, route?] at hmove
      split at hmove
      · next hstage =>
        obtain ⟨⟨item, handover⟩, htake, rfl⟩ := Option.map_eq_some_iff.1 hmove
        exact h.receive hstage hsound htake
      · next change hstage =>
        cases hmove
        exact h.judge hstage
      · next hstage =>
        cases hmove
        exact h.settle hstage
      · next built hstage =>
        obtain ⟨⟨item, handover⟩, htake, rfl⟩ := Option.map_eq_some_iff.1 hmove
        exact h.drain hstage htake
      · cases hmove
      · cases hmove

/-- So does every run. -/
theorem Agrees.reaches (h : start.Agrees service lookups channel total fate)
    (hsound : start.handover.Sound window total) (hreaches : Reaches service lookups channel start now) :
    now.Agrees service lookups channel total fate ∧ now.handover.Sound window total := by
  induction hreaches with
  | refl => exact ⟨h, hsound⟩
  | step move _ hmove ih => exact ih.1.step ih.2 hmove

/-- As long as the router takes items, one of the sides can move on. -/
theorem exists_step_of_taking (hsound : now.handover.Sound window total) (hended : now.handover.ended = none)
    (hclosed : now.handover.closed = false)
    (hroute : now.handover.take?.isSome = true → (now.route? service lookups channel).isSome = true) :
    ∃ move next, now.step? service lookups channel move = some next := by
  obtain ⟨move, hmove, hstep⟩ := hsound.exists_move (.inr ⟨hended, hclosed⟩)
  obtain ⟨handover, hhandover⟩ := Option.isSome_iff_exists.1 hstep
  simp only [Handover.forward, List.mem_cons, List.not_mem_nil, or_false] at hmove
  obtain rfl | rfl | rfl | rfl := hmove
  · exact ⟨.fetch, _, congrArg now.read? hhandover⟩
  · exact ⟨.offer, _, congrArg now.read? hhandover⟩
  · exact ⟨.giveUp, _, congrArg now.read? hhandover⟩
  · rw [Handover.step?, Option.isSome_map] at hstep
    obtain ⟨next, hnext⟩ := Option.isSome_iff_exists.1 (hroute hstep)
    exact ⟨.route, next, hnext⟩

/-- A pass that is not at its end can move on. -/
theorem exists_step (h : now.Agrees service lookups channel total fate)
    (hsound : now.handover.Sound window total) :
    (∃ outcome, now.stage = .done outcome) ∨ (∃ fault, now.stage = .failed fault) ∨
      ∃ move next, now.step? service lookups channel move = some next := by
  rw [Agrees] at h
  cases hstage : now.stage with
  | taking =>
      rw [hstage] at h
      refine .inr (.inr (exists_step_of_taking hsound h.1.ended h.1.closed fun htake => ?_))
      rw [route?, hstage, Option.isSome_map]
      exact htake
  | judging change =>
      refine .inr (.inr ⟨.route, judge service lookups channel now change, ?_⟩)
      rw [step?, route?, hstage]
  | storing =>
      refine .inr (.inr ⟨.route, settle channel now, ?_⟩)
      rw [step?, route?, hstage]
  | draining built =>
      rw [hstage] at h
      refine .inr (.inr (exists_step_of_taking hsound h.2.2.1 h.2.2.2 fun htake => ?_))
      rw [route?, hstage, Option.isSome_map]
      exact htake
  | done outcome => exact .inl ⟨outcome, rfl⟩
  | failed fault => exact .inr (.inl ⟨fault, rfl⟩)

/-! ## no pass goes on for ever -/

/-- What is left to do for the router. -/
def routerWork : RouterStage → Nat
  | .judging _ => 3
  | .taking | .storing => 2
  | .draining _ => 1
  | .done _ | .failed _ => 0

/-- What is left to do. -/
def work (tandem : Tandem) : Nat := 4 * tandem.handover.work + routerWork tandem.stage

theorem work_fail (tandem : Tandem) (fault : Fault) :
    (tandem.fail fault).work ≤ 4 * tandem.handover.work := by
  have hleave := Handover.work_leave_le tandem.handover
  show 4 * tandem.handover.leave.work + 0 ≤ _
  omega

theorem work_receive {item : Queued} {handover : Handover} (hstage : now.stage = .taking)
    (htake : now.handover.take? = some (item, handover)) :
    (now.receive item handover).work < now.work := by
  have hless := Handover.work_take htake
  have hnow : now.work = 4 * now.handover.work + 2 := by
    rw [work, hstage]
    rfl
  cases item with
  | change change =>
      show 4 * handover.work + 3 < _
      omega
  | finished summary =>
      rw [receive]
      split
      · next fault _ =>
        have hfail := work_fail { now with handover := handover } fault
        simp only at hfail
        omega
      · show 4 * handover.work + 2 < _
        omega

theorem work_judge {change : Change} (hstage : now.stage = .judging change) :
    (judge service lookups channel now change).work < now.work := by
  have hnow : now.work = 4 * now.handover.work + 3 := by
    rw [work, hstage]
    rfl
  rw [judge]
  split
  · have hstop := Handover.work_stop_le now.handover
    show 4 * now.handover.stop.work + 2 < _
    omega
  · split
    · show 4 * now.handover.work + 2 < _
      omega
    · next fault state store _ =>
      have hfail := work_fail { now with state := state, store := store } fault
      simp only at hfail
      omega

theorem work_settle (hstage : now.stage = .storing) : (settle channel now).work < now.work := by
  have hnow : now.work = 4 * now.handover.work + 2 := by
    rw [work, hstage]
    rfl
  rw [settle]
  split
  · next fault state store _ =>
    have hfail := work_fail { now with state := state, store := store } fault
    simp only at hfail
    omega
  · simp only
    split
    · show 4 * now.handover.work + 0 < _
      omega
    · have hstop := Handover.work_stop_le now.handover
      show 4 * now.handover.stop.work + 1 < _
      omega

theorem work_drain {built : BuildReport} {item : Queued} {handover : Handover}
    (hstage : now.stage = .draining built) (htake : now.handover.take? = some (item, handover)) :
    (now.drain channel built item handover).work < now.work := by
  have hless := Handover.work_take htake
  have hnow : now.work = 4 * now.handover.work + 1 := by
    rw [work, hstage]
    rfl
  cases item with
  | change change =>
      show 4 * handover.work + routerWork now.stage < _
      rw [hstage, routerWork]
      omega
  | finished summary =>
      show 4 * handover.work + 0 < _
      omega

/-- Each move leaves less to do. -/
theorem work_lt {move : TandemMove} (hmove : now.step? service lookups channel move = some next) :
    next.work < now.work := by
  -- the reader leaves the stage of the router alone
  have hreader : ∀ {handover : Handover}, handover.work < now.handover.work →
      work { now with handover := handover } < now.work := by
    intro handover hless
    simp only [work]
    omega
  cases move with
  | fetch =>
      obtain ⟨handover, hfetch, rfl⟩ := exists_of_read? hmove
      exact hreader (Handover.work_fetch hfetch)
  | offer =>
      obtain ⟨handover, hoffer, rfl⟩ := exists_of_read? hmove
      exact hreader (Handover.work_offer hoffer)
  | giveUp =>
      obtain ⟨handover, hgiveUp, rfl⟩ := exists_of_read? hmove
      exact hreader (Handover.work_giveUp hgiveUp)
  | route =>
      rw [step?, route?] at hmove
      split at hmove
      · next hstage =>
        obtain ⟨⟨item, handover⟩, htake, rfl⟩ := Option.map_eq_some_iff.1 hmove
        exact work_receive hstage htake
      · next change hstage =>
        cases hmove
        exact work_judge hstage
      · next hstage =>
        cases hmove
        exact work_settle hstage
      · next built hstage =>
        obtain ⟨⟨item, handover⟩, htake, rfl⟩ := Option.map_eq_some_iff.1 hmove
        exact work_drain hstage htake
      · cases hmove
      · cases hmove

/-- No pass goes on for ever. -/
theorem wellFounded_step (service : Service) (lookups : Lookups) (channel : Channel) :
    WellFounded fun next now : Tandem => ∃ move, now.step? service lookups channel move = some next :=
  Subrelation.wf (fun ⟨_, hmove⟩ => work_lt hmove) (measure work).wf

end runs

/-- The pass comes to what it comes to by itself, and until then it can move on. -/
structure Accords (service : Service) (lookups : Lookups) (gaps : List Gap) (channel : Channel)
    (store : Store) (now : Tandem) : Prop where
  /-- Only the number of rows skipped depends on how far the reader went ahead of a router that
  stopped. -/
  done : ∀ outcome, now.stage = .done outcome → ∃ alone,
    (service.pass lookups gaps none channel).on store = (.ok alone, now.store) ∧
      outcome = { alone with
        report := { alone.report with rowsSkipped := outcome.report.rowsSkipped } } ∧
      (outcome.report.stoppedEarly = false → outcome = alone)
  failed : ∀ fault, now.stage = .failed fault →
    (service.pass lookups gaps none channel).on store = (.error fault, now.store)
  moves : (∃ outcome, now.stage = .done outcome) ∨ (∃ fault, now.stage = .failed fault) ∨
    ∃ move next, now.step? service lookups channel move = some next

section accords

variable {service : Service} {lookups : Lookups} {gaps : List Gap} {channel : Channel} {store : Store}
  {now : Tandem}

/-- A pass by itself is what remains of it at its start. -/
theorem pass_on : (service.pass lookups gaps none channel).on store =
    match service.remaining lookups channel (service.readingOf gaps channel store)
      (service.readingOf gaps channel store).changes (service.startOf channel) store with
    | (.error fault, _, after) => (.error fault, after)
    | (.ok built, state, after) =>
      (.ok (Service.outcomeOf channel (service.readingOf gaps channel store) built state), after) := by
  have hremaining : service.remaining lookups channel (service.readingOf gaps channel store)
      (service.readingOf gaps channel store).changes (service.startOf channel) store =
        (service.routeReading lookups none channel (service.readingOf gaps channel store)).run.run
          (service.startOf channel, store) := rfl
  rw [hremaining]
  show (service.pass lookups gaps none channel) store = _
  simp only [Service.pass, ExceptT.mk]
  cases (service.routeReading lookups none channel (service.readingOf gaps channel store)).run.run
      (service.startOf channel, store) with
  | mk outcome rest => cases outcome <;> rfl

theorem accords_of_reaches {window : Nat}
    (h : Reaches service lookups channel (start service gaps channel window store) now) :
    now.Accords service lookups gaps channel store := by
  have hreading : service.readingOf gaps channel store =
      (Trail.asked (service.readOptions channel) gaps store).reading (service.marksOf channel.id) :=
    read_eq_reading _ _ _ _
  have hstart : (start service gaps channel window store).Agrees service lookups channel
      (service.readingOf gaps channel store)
      (service.remaining lookups channel (service.readingOf gaps channel store)
        (service.readingOf gaps channel store).changes (service.startOf channel) store) :=
    ⟨⟨rfl, rfl, rfl, rfl⟩, _, rfl, rfl⟩
  have hsound : (start service gaps channel window store).handover.Sound window
      (service.readingOf gaps channel store) := by
    rw [hreading]
    exact .new window _ _
  obtain ⟨hagrees, hsound⟩ := hstart.reaches hsound h
  refine ⟨fun outcome hstage => ?_, fun fault hstage => ?_, exists_step hagrees hsound⟩
  · rw [Agrees, hstage] at hagrees
    obtain ⟨built, skipped, hfate, rfl, hskipped⟩ := hagrees
    rw [pass_on, hfate]
    refine ⟨_, rfl, rfl, fun hlate => ?_⟩
    rw [hskipped hlate]
  · rw [Agrees, hstage] at hagrees
    rw [pass_on, hagrees]

end accords

end Tandem

/-- The queue between reader and router makes no difference.  Whatever its length and whoever's turn it
is, a router takes the changes of the reading in order, up to the first row that cannot be read, and a
marker; nobody waits for good; and a pass routes and stores what it does by itself, fails if it fails by
itself, and has the same reach. -/
theorem queue_makes_no_difference :
    (∀ (window : Nat) (marks : Marks) (trail : Trail) (handover : Handover),
      (Handover.new window marks trail).Reaches handover →
        handover.Orderly window (trail.reading marks)) ∧
    (∀ (marks : Marks) (trail : Trail), ∃ (met : List Change) (rest : List (Except Fault Change)),
      trail.sought = met.map .ok ++ rest ∧
      (trail.reading marks).changes = met.filter (!Reading.isMarked marks ·) ∧
      (rest = [] ∧ (trail.reading marks).fault = none ∨ ∃ fault later, rest = .error fault :: later ∧
        (trail.reading marks).fault = some (Reading.blame fault))) ∧
    (WellFounded fun next now : Handover => ∃ move, now.step? move = some next) ∧
    ∀ (service : Service) (lookups : Lookups) (gaps : List Gap) (channel : Channel),
      (∀ (store : Store) (window : Nat) (now : Tandem),
        Tandem.Reaches service lookups channel (.start service gaps channel window store) now →
          now.Accords service lookups gaps channel store) ∧
      WellFounded fun next now : Tandem =>
        ∃ move, now.step? service lookups channel move = some next := by
  refine ⟨fun window marks trail handover h => Handover.orderly_of_reaches h,
    fun marks trail => ofRanges_spec marks trail.sought, Handover.wellFounded_step,
    fun service lookups gaps channel => ⟨fun store window now h => Tandem.accords_of_reaches h,
      Tandem.wellFounded_step service lookups channel⟩⟩

/-- Moves that are made one after the other lead where they end. -/
theorem Handover.Reaches.moves {start now next : Handover} {moves : List HandoverMove}
    (h : start.Reaches now) (hmoves : moves.foldlM Handover.step? now = some next) :
    start.Reaches next := by
  induction moves generalizing now with
  | nil =>
      cases hmoves
      exact h
  | cons move moves ih =>
      rw [List.foldlM_cons] at hmoves
      obtain ⟨mid, hmid, hrest⟩ := Option.bind_eq_some_iff.1 hmoves
      exact ih (h.step move hmid) hrest

theorem Tandem.Reaches.moves {service : Service} {lookups : Lookups} {channel : Channel}
    {start now next : Tandem} {moves : List TandemMove}
    (h : Tandem.Reaches service lookups channel start now)
    (hmoves : moves.foldlM (Tandem.step? service lookups channel) now = some next) :
    Tandem.Reaches service lookups channel start next := by
  induction moves generalizing now with
  | nil =>
      cases hmoves
      exact h
  | cons move moves ih =>
      rw [List.foldlM_cons] at hmoves
      obtain ⟨mid, hmid, hrest⟩ := Option.bind_eq_some_iff.1 hmoves
      exact ih (h.step move hmid) hrest

/-- A store with five changes, for a pass that stops before the fourth. -/
def fiveOrders : Store := shopStore [] (orderLog ++ [orderRow 5 "d"])

/-- The trail of these changes. -/
def fiveTrail : Trail := .asked (shopService.readOptions narrow) everything fiveOrders

/-- A queue of one item: the reader is refused, asked to stop, and gives up the last change. -/
theorem queue_makes_no_difference_narrow :
    ∃ handover now outcome alone,
      (Handover.new 0 [] fiveTrail).Reaches handover ∧ handover.queue.length ≤ 1 ∧
      handover.taken.map Change.id = [1, 2] ∧
      Tandem.Reaches shopService ⟨[], []⟩ narrow
        (.start shopService everything narrow 0 fiveOrders) now ∧
      now.stage = .done outcome ∧ now.handover.taken.map Change.id = [1, 2, 3, 4] ∧
      (shopService.pass ⟨[], []⟩ everything none narrow).on fiveOrders = (.ok alone, now.store) ∧
      alone.report.rowsRead = 3 ∧ outcome.through = alone.through := by
  have hhandover : (([.fetch, .offer, .fetch, .offer, .take, .offer, .fetch, .offer, .take] :
      List HandoverMove).foldlM Handover.step? (Handover.new 0 [] fiveTrail)).map
        (·.taken.map Change.id) = some [1, 2] := by decide +kernel
  have hnow : (([.fetch, .offer, .route, .route, .fetch, .offer, .route, .route, .fetch, .offer, .fetch,
      .offer, .route, .route, .offer, .fetch, .offer, .route, .route, .giveUp, .route, .offer, .route] :
        List TandemMove).foldlM (Tandem.step? shopService ⟨[], []⟩ narrow)
          (.start shopService everything narrow 0 fiveOrders)).map
        (fun now => (match now.stage with
          | .done outcome => some outcome.report.rowsRead
          | _ => none, now.handover.taken.map Change.id)) = some (some 3, [1, 2, 3, 4]) := by
    decide +kernel
  obtain ⟨handover, hmoves, htaken⟩ := Option.map_eq_some_iff.1 hhandover
  obtain ⟨now, hrun, hstate⟩ := Option.map_eq_some_iff.1 hnow
  have hreaches := Handover.Reaches.refl.moves hmoves
  have hreaches' : Tandem.Reaches shopService ⟨[], []⟩ narrow
      (.start shopService everything narrow 0 fiveOrders) now := Tandem.Reaches.refl.moves hrun
  rw [Prod.mk.injEq] at hstate
  obtain ⟨hstage, hfour⟩ := hstate
  split at hstage
  · next outcome hdone =>
    obtain ⟨horderly, -, -, hpasses⟩ := queue_makes_no_difference
    have hqueue := (horderly 0 [] fiveTrail handover hreaches).bounded
    have haccords := (hpasses shopService ⟨[], []⟩ everything narrow).1 fiveOrders 0 now hreaches'
    obtain ⟨alone, hpass, hsame, -⟩ := haccords.done outcome hdone
    refine ⟨handover, now, outcome, alone, hreaches, hqueue, htaken, hreaches', hdone, hfour, hpass, ?_, ?_⟩
    · rw [hsame] at hstage
      exact Option.some.inj hstage
    · rw [hsame]
  · cases hstage

end ChangeRouting
