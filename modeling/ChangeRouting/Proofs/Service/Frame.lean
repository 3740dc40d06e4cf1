import ChangeRouting.Proofs.Work
import ChangeRouting.Service.Pass

/-!
# ChangeRouting.Proofs.Service.Frame

What work leaves alone, in any store and however it ends.

* `keeps_loadGaps`, `keeps_reconcile` — keeping the gaps leaves every other table of routing alone;
* `keeps_routeChange` — routing a change leaves alone what storing a batch does not write;
* `keeps_pass` — a pass leaves the gaps it was given and the changes it reads alone.
-/

namespace ChangeRouting

/-- What a pass reads and does not write. -/
def Store.given (store : Store) : Option (List GapRow) × Option (Numbered ChangeRow) :=
  (store.gaps, store.changes)

/-- What keeping the gaps does not write. -/
def Store.ledger (store : Store) : Option (Numbered BatchRow) × Option (List BatchEvent) ×
    Option (List (String × Int)) × Option (Numbered ChangeRow) × Option (List SnapshotRow) ×
      Option (List Node) :=
  (store.batches, store.events, store.watermarks, store.changes, store.snapshots, store.nodes)

/-! ## statements -/

section statements

variable {part : Store → τ}

theorem keeps_statement {run : Store → Except Fault (α × Store)}
    (h : ∀ {store answer after}, run store = .ok (answer, after) → part after = part store) :
    Keeps part (Work.statement run) := by
  intro store
  show part ((Work.statement run).on store).2 = part store
  rw [Work.statement_on]
  cases hrun : run store with
  | error fault => rfl
  | ok result => exact h hrun

theorem keeps_update {run : Store → Except Fault Store}
    (h : ∀ {store after}, run store = .ok after → part after = part store) :
    Keeps part (Work.update run) := by
  refine keeps_statement fun {store answer after} hrun => ?_
  cases hr : run store with
  | error fault => rw [hr] at hrun; cases hrun
  | ok other =>
      rw [hr] at hrun
      cases hrun
      exact h hr

theorem keeps_query (read : Store → Except Fault α) : Keeps part (Work.query read) := fun _ => rfl

end statements

/-! ## keeping the gaps -/

theorem ledger_insertGap {gap : Gap} {store after : Store} (h : store.insertGap gap = .ok after) :
    after.ledger = store.ledger := by
  rw [Store.insertGap] at h
  split at h
  · obtain ⟨loose, rfl⟩ := snd_looseUpdate_eq_ok h
    rfl
  · cases h
    rfl

theorem ledger_setGapStatus {start stop : Int} {status : GapStatus} {now : Millis}
    {store after : Store} (h : store.setGapStatus start stop status now = .ok after) :
    after.ledger = store.ledger := by
  rw [Store.setGapStatus] at h
  split at h
  · obtain ⟨loose, rfl⟩ := snd_looseUpdate_eq_ok h
    rfl
  · cases h
    rfl

theorem ledger_purgeGaps {cutoff : Int} {store after : Store} {count : Nat}
    (h : store.purgeGaps cutoff = .ok (count, after)) : after.ledger = store.ledger := by
  rw [Store.purgeGaps] at h
  split at h
  · obtain ⟨loose, rfl⟩ := looseUpdate_eq_ok h
    rfl
  · cases h
    rfl

/-- Loading the gaps leaves the other tables alone, however it ends. -/
theorem keeps_loadGaps (clock : Millis) : Keeps Store.ledger (loadGaps clock) := by
  refine (keeps_query _).bind fun active => ?_
  split
  · exact keeps_pure _
  · exact (keeps_query _).bind fun _ => (keeps_update ledger_insertGap).bind fun _ => keeps_query _

theorem keeps_settleGap (policy : GapPolicy) (coverage : Coverage) (visibility : Visibility)
    (now clock : Millis) (so : Settling) (gap : Gap) :
    Keeps Store.ledger (settleGap policy coverage visibility now clock so gap) := by
  refine (keeps_query _).bind fun rows => ?_
  simp only
  split
  · split
    · exact keeps_pure _
    · split
      · exact keeps_pure _
      · refine Keeps.bind ?_ fun below => ?_
        · unfold timeBelow
          split
          · split
            · exact keeps_query _
            · exact keeps_pure _
          · exact keeps_pure _
        · split
          · exact (keeps_update ledger_setGapStatus).bind fun _ => keeps_pure _
          · exact keeps_pure _
  · exact (keeps_update ledger_setGapStatus).bind fun _ =>
      (Keeps.forM fun _ => keeps_update ledger_insertGap).bind fun _ => keeps_pure _

/-- Bringing the gaps up to date leaves the other tables alone, however it ends. -/
theorem keeps_reconcile (policy : GapPolicy) (active : List Gap) (coverage : Coverage)
    (visibility : Visibility) (now clock : Millis) :
    Keeps Store.ledger (reconcile policy active coverage visibility now clock) := by
  have hsettle : Keeps Store.ledger (settleGaps policy active coverage visibility now clock) := by
    refine Keeps.bind (.foldlM fun so gap => keeps_settleGap _ _ _ _ _ so gap) fun so => ?_
    simp only
    split
    · exact (keeps_update ledger_insertGap).bind fun _ => (keeps_pure _).bind fun _ => keeps_pure _
    · exact (keeps_pure _).bind fun _ => keeps_pure _
  refine hsettle.bind fun report => ?_
  split
  · exact keeps_pure _
  · exact (keeps_statement ledger_purgeGaps).bind fun _ => keeps_pure _

/-! ## storing a batch -/

theorem given_insertBatch {batch : Batch} {store after : Store} {id : Int}
    (h : store.insertBatch batch = .ok (id, after)) : after.given = store.given := by
  rw [Store.insertBatch] at h
  split at h
  · obtain ⟨loose, rfl⟩ := looseUpdate_eq_ok h
    rfl
  · split at h
    · cases h
    · cases h
      rfl

theorem given_insertEvent {event : BatchEvent} {store after : Store}
    (h : store.insertEvent event = .ok after) : after.given = store.given := by
  rw [Store.insertEvent] at h
  split at h
  · obtain ⟨loose, rfl⟩ := snd_looseUpdate_eq_ok h
    rfl
  · split at h
    · cases h
    · cases h
      rfl

/-- Reading the statement that records events is noted, and nothing else happens. -/
theorem readEventStatement_eq_ok {store after : Store} (h : store.readEventStatement = .ok after) :
    ∃ wasRead, after = { store with hasEventStatement := wasRead } := by
  rw [Store.readEventStatement] at h
  split at h
  · cases h
    exact ⟨store.hasEventStatement, rfl⟩
  · split at h
    · cases hloose : store.loose .events with
      | error fault => rw [hloose] at h; cases h
      | ok table =>
          cases hproject : table.project (Layout.names .events) [] with
          | error fault =>
              rw [hloose] at h
              simp only [bind, Except.bind, hproject] at h
              cases h
          | ok names =>
              rw [hloose] at h
              simp only [bind, Except.bind, hproject] at h
              cases h
              exact ⟨true, rfl⟩
    · cases h
      exact ⟨true, rfl⟩

theorem given_readEventStatement {store after : Store}
    (h : store.readEventStatement = .ok after) : after.given = store.given := by
  obtain ⟨wasRead, rfl⟩ := readEventStatement_eq_ok h
  rfl

theorem given_advanceWatermark {channel : String} {id : Int} {store after : Store}
    (h : store.advanceWatermark channel id = .ok after) : after.given = store.given := by
  rw [Store.advanceWatermark] at h
  split at h
  · obtain ⟨loose, rfl⟩ := snd_looseUpdate_eq_ok h
    rfl
  · cases h
    rfl

/-- Storing a batch does not write this part of a store. -/
structure Spared (part : Store → τ) : Prop where
  insertBatch : ∀ {batch : Batch} {store after : Store} {id : Int},
    store.insertBatch batch = .ok (id, after) → part after = part store
  insertEvent : ∀ {event : BatchEvent} {store after : Store},
    store.insertEvent event = .ok after → part after = part store
  readEventStatement : ∀ {store after : Store},
    store.readEventStatement = .ok after → part after = part store
  advanceWatermark : ∀ {channel : String} {id : Int} {store after : Store},
    store.advanceWatermark channel id = .ok after → part after = part store

theorem spared_given : Spared Store.given :=
  ⟨given_insertBatch, given_insertEvent, given_readEventStatement, given_advanceWatermark⟩

theorem keeps_insertEvents {part : Store → τ} (hpart : Spared part) (batch : Int)
    (members : List (Int × String)) : Keeps part (Store.insertEvents batch members) :=
  (keeps_update hpart.readEventStatement).bind fun _ =>
    .forM fun _ => keeps_update hpart.insertEvent

/-! ## building -/

section building

variable {part : Store → τ} (hpart : Spared part)

/-- Work beside a store leaves the gaps and the changes alone. -/
abbrev KeepsGiven (work : ExceptT Fault (StateM (σ × Store)) α) : Prop :=
  Keeps (fun s => s.2.given) work

theorem keeps_onStore {work : Work α} (h : Keeps part work) :
    Keeps (fun s => part s.2) (Builder.onStore work) := by
  rintro ⟨builder, store⟩
  exact h store

theorem keeps_adjust (change : Builder → Builder) :
    Keeps (fun s => part s.2) (Builder.adjust change) := keeps_modify fun _ => rfl

theorem keeps_building {work : Building α} (h : Keeps (fun s => part s.2) work) :
    Keeps (fun s => part s.2) (Service.building work) := by
  rintro ⟨state, store⟩
  exact h (state.builder, store)

include hpart

theorem keeps_flush (batch : OpenBatch) : Keeps (fun s => part s.2) (Builder.flush batch) := by
  rw [Builder.flush]
  split
  · exact keeps_pure _
  · refine keeps_get.bind fun s => Keeps.bind ?_ fun _ => keeps_adjust _
    refine keeps_onStore ((keeps_statement hpart.insertBatch).bind fun id => ?_)
    exact (keeps_insertEvents hpart id _).bind fun _ => keeps_update hpart.advanceWatermark

theorem keeps_append (node router : String) (change : Change) :
    Keeps (fun s => part s.2) (Builder.append node router change) := by
  refine keeps_get.bind fun s => ?_
  simp only
  split
  · exact (keeps_adjust _).bind fun _ => keeps_adjust _
  · split
    · exact (keeps_adjust _).bind fun _ => (keeps_flush hpart _).bind fun _ =>
        (keeps_adjust _).bind fun _ => keeps_adjust _
    · exact keeps_adjust _

theorem keeps_add (change : Change) (decisions : List Decision) :
    Keeps (fun s => part s.2) (Builder.add change decisions) := by
  rw [Builder.add]
  simp only
  split
  · refine (keeps_adjust _).bind fun _ => Keeps.bind ?_ fun _ => keeps_pure _
    exact .forM fun target => keeps_append hpart target.1 target.2 change
  · refine Keeps.bind ?_ fun _ => keeps_pure _
    exact .forM fun target => keeps_append hpart target.1 target.2 change

theorem keeps_finish : Keeps (fun s => part s.2) Builder.finish := by
  rw [Builder.finish]
  refine keeps_get.bind fun s => (keeps_adjust _).bind fun _ => Keeps.bind ?_ fun _ => ?_
  · exact .forM fun entry => keeps_flush hpart entry.2
  · exact keeps_get.bind fun _ => keeps_pure _

end building

/-! ## the pass -/

theorem keeps_routeChange {part : Store → τ} (hpart : Spared part) (service : Service)
    (lookups : Lookups) (change : Change) :
    Keeps (fun s => part s.2) (service.routeChange lookups change) := by
  rintro ⟨state, store⟩
  rw [Service.routeChange, run_bind, run_get]
  simp only
  rw [run_bind, run_set]
  have hadd := (keeps_building (keeps_add hpart change
    (service.decide lookups store change state.scope).decisions)).discard
  have hadvance : Keeps (fun s => part s.2)
      (modify fun s : PassState × Store => (s.1.advance change, s.2)) := keeps_modify fun _ => rfl
  exact (hadd.bind fun _ => hadvance) _

theorem keeps_routeChanges (service : Service) (lookups : Lookups) (channel : Channel)
    (changes : List Change) : KeepsGiven (service.routeChanges lookups channel changes) := by
  induction changes with
  | nil => exact keeps_pure _
  | cons change changes ih =>
      rintro ⟨state, store⟩
      rw [Service.routeChanges, run_bind, run_get]
      simp only
      split
      · rfl
      · exact (keeps_routeChange spared_given service lookups change).bind (fun _ => ih) (state, store)

theorem keeps_routeReading (service : Service) (lookups : Lookups) (stalledAfter : Option Nat)
    (channel : Channel) (reading : Reading) :
    KeepsGiven (service.routeReading lookups stalledAfter channel reading) := by
  rw [Service.routeReading]
  refine (keeps_routeChanges service lookups channel _).bind fun _ => keeps_get.bind fun _ => ?_
  have hfinish : KeepsGiven (do
      let built ← Service.building Builder.finish
      if stalledAfter.isSome then throw (.stalled channel.id service.config.routing.takeTimeout)
      return built) := by
    refine (keeps_building (keeps_finish spared_given)).bind fun built => ?_
    simp only
    split
    · exact (keeps_throw _).bind fun _ => keeps_pure _
    · exact keeps_pure _
  simp only
  split
  · split
    · exact (keeps_throw _).bind fun _ => hfinish
    · exact hfinish
  · exact hfinish

/-- A pass leaves the gaps and the changes alone, however it ends. -/
theorem keeps_pass (service : Service) (lookups : Lookups) (gaps : List Gap) (stalledAfter : Option Nat)
    (channel : Channel) : Keeps Store.given (service.pass lookups gaps stalledAfter channel) := by
  intro store
  have h := keeps_routeReading service lookups stalledAfter channel
    (service.readingOf gaps channel store) (service.startOf channel, store)
  show ((service.pass lookups gaps stalledAfter channel) store).2.given = store.given
  simp only [Service.pass, ExceptT.mk]
  split
  · next fault state after hrun =>
    rw [hrun] at h
    exact h
  · next built state after hrun =>
    rw [hrun] at h
    exact h

end ChangeRouting
