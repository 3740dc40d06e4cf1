import ChangeRouting.Proofs.Service.Failure
import ChangeRouting.Proofs.Service.Pass

/-!
# ChangeRouting.Proofs.Service.Sent

What a committed cycle stores, and where it comes from.

* `Service.Sent` — a pass read a change from the log, and the routers it asked about it decided for a
  node;
* `stored_of_turn`, `stored_of_turns` — each turn adds the batches of its pass, if it was committed;
* `stored_of_cycle` — a committed cycle adds the batches of its turns and nothing else.
-/

namespace ChangeRouting

/-- A pass sent an item to a node: it read the change from the log, and the routers it asked decided for
the node. -/
structure Service.Sent (service : Service) (lookups : Lookups) (gaps : List Gap)
    (changes : Option (Numbered ChangeRow)) (node : String) (item : Item) : Prop where
  read : ∃ channel found, found.changes = changes ∧
    item.change ∈ (service.readingOf gaps channel found).changes
  decided : ∃ store scope,
    (node, item.router) ∈ Builder.targets (service.decide lookups store item.change scope).decisions

/-- The change is that of a row of the log. -/
theorem Service.Sent.logged {service : Service} {lookups : Lookups} {gaps : List Gap}
    {log : Numbered ChangeRow} {node : String} {item : Item}
    (h : service.Sent lookups gaps (some log) node item) :
    ∃ row ∈ log.rows, ∃ columns, row.read columns = .ok item.change := by
  obtain ⟨channel, found, hlog, hread⟩ := h.read
  obtain ⟨row, hrow, -, hread⟩ := mem_changes_read hlog hread
  exact ⟨row, hrow, _, hread⟩

/-- Storing batches is about the tables of batches alone. -/
theorem Stored.of_ledger {store before after left : Store} {book later : Book} {parcels : List Parcel}
    (h : Stored before book parcels after later) (hbefore : before.ledger = store.ledger)
    (hafter : left.ledger = after.ledger) : Stored store book parcels left later := by
  simp only [Store.ledger, Prod.mk.injEq] at hbefore hafter
  obtain ⟨hbatches, hevents, hwatermarks, -⟩ := hafter
  refine ⟨⟨hbatches.trans h.shows.batches, hevents.trans h.shows.events⟩, h.takes, ?_⟩
  rw [hwatermarks, h.watermarks, hbefore.2.2.1]

/-- A cycle that loaded its gaps left the other tables alone. -/
theorem Service.Went.ledger {service : Service} {passes : Passes} {now : Millis} {store : Store}
    {course : Course} (h : service.Went passes now store course) :
    course.loaded.ledger = store.ledger := by
  have hkeeps := keeps_loadGaps now store
  rw [← Work.on, h.gaps] at hkeeps
  exact hkeeps

section turns

variable {service : Service} {store : Store} {book : Book}

/-- A committed pass adds the batches it stored; a failed one adds nothing. -/
theorem stored_of_turn (stalls : List (String × Nat)) (disturbance : Disturbance) (lookups : Lookups)
    (gaps : List Gap) (channel : Channel) (hbook : store.Shows book) :
    ∃ parcels later,
      Stored store book parcels
        (turnOf (service.disturbed stalls disturbance lookups gaps) channel store).after later ∧
      ∀ parcel ∈ parcels, ∀ item ∈ parcel.items,
        service.Sent lookups gaps store.changes parcel.node item := by
  cases houtcome :
      (turnOf (service.disturbed stalls disturbance lookups gaps) channel store).outcome with
  | none =>
      rw [turnOf_after_of_none houtcome]
      exact ⟨[], book, .refl hbook, fun _ hparcel => (List.not_mem_nil hparcel).elim⟩
  | some outcome =>
      obtain ⟨parcels, later, hbuilt⟩ := built_of_pass hbook (pass_of_turnOf houtcome)
      refine ⟨parcels, later, hbuilt.stored, fun parcel hparcel item hitem => ?_⟩
      have hsent := hbuilt.mem_sent.2 ⟨parcel, hparcel, rfl, hitem⟩
      obtain ⟨answer, hanswer, hchange, htarget⟩ := mem_sendings.1 hsent
      obtain ⟨hread, found, scope, hdecided⟩ := mem_answers hanswer
      rw [hdecided, ← hchange] at htarget
      exact ⟨⟨_, store, rfl, hchange ▸ hread⟩, found, scope, htarget⟩

/-- So do the turns of a cycle. -/
theorem stored_of_turns (stalls : List (String × Nat)) (disturbance : Disturbance) (lookups : Lookups)
    (gaps : List Gap) (channels : List Channel) (hbook : store.Shows book) :
    ∃ parcels later,
      Stored store book parcels
        (storeAfter (service.disturbed stalls disturbance lookups gaps) channels store) later ∧
      ∀ parcel ∈ parcels, ∀ item ∈ parcel.items,
        service.Sent lookups gaps store.changes parcel.node item := by
  induction channels generalizing store book with
  | nil => exact ⟨[], book, .refl hbook, fun _ hparcel => (List.not_mem_nil hparcel).elim⟩
  | cons channel channels ih =>
      obtain ⟨first, middle, hfirst, hsent⟩ :=
        @stored_of_turn service store book stalls disturbance lookups gaps channel hbook
      obtain ⟨more, later, hmore, hsent'⟩ := ih hfirst.shows
      have hchanges : (turnOf (service.disturbed stalls disturbance lookups gaps) channel
          store).after.changes = store.changes := congrArg Prod.snd (given_turnOf channel store)
      rw [hchanges] at hsent'
      refine ⟨first ++ more, later, hfirst.trans hmore, fun parcel hparcel => ?_⟩
      rw [List.mem_append] at hparcel
      exact hparcel.elim (hsent parcel) (hsent' parcel)

end turns

/-- A committed cycle adds the batches of its turns and leaves the log as it is. -/
theorem stored_of_cycle {service after : Service} {circumstances : Circumstances}
    {disturbance : Disturbance} {store left : Store} {report : CycleReport} {book : Book}
    (hbook : store.Shows book)
    (h : service.cycleBy (service.disturbed circumstances.stalls disturbance) circumstances store =
      (.ok report, after, left)) :
    ∃ course parcels later,
      service.Went (service.disturbed circumstances.stalls disturbance) circumstances.now store course ∧
      Stored store book parcels left later ∧ left.changes = store.changes ∧
      ∀ parcel ∈ parcels, ∀ item ∈ parcel.items,
        service.Sent course.lookups course.gaps store.changes parcel.node item := by
  obtain ⟨course, gaps, hwent, hreconcile, -, -⟩ := cycleBy_eq_ok.1 h
  -- the gaps are loaded, the channels take their turns, and the gaps are brought up to date
  have hloaded : course.loaded.ledger = store.ledger := hwent.ledger
  have hturned : course.ended.given = course.loaded.given := by
    rw [hwent.ended]
    exact given_storeAfter _ _
  have hsettled : left.ledger = course.ended.ledger := by
    have hkeeps := keeps_reconcile service.gapPolicy course.gaps course.state.coverage
      circumstances.visibility circumstances.now circumstances.now course.ended
    rw [← Work.on, hreconcile] at hkeeps
    exact hkeeps
  have hfound := hloaded
  simp only [Store.ledger, Prod.mk.injEq] at hfound
  obtain ⟨hbatches, hevents, -, hchanges, -⟩ := hfound
  obtain ⟨parcels, later, hstored, hsent⟩ :=
    stored_of_turns circumstances.stalls disturbance course.lookups course.gaps service.channels
      ⟨hbatches.trans hbook.batches, hevents.trans hbook.events⟩
  rw [← hwent.ended] at hstored
  rw [hchanges] at hsent
  refine ⟨course, parcels, later, hwent, hstored.of_ledger hloaded hsettled, ?_, hsent⟩
  simp only [Store.ledger, Prod.mk.injEq] at hsettled
  exact hsettled.2.2.2.1.trans ((congrArg Prod.snd hturned).trans hchanges)

end ChangeRouting
