import ChangeRouting.Proofs.Service.Consistency

/-!
# ChangeRouting.Proofs.Service.Lots

What a cycle stores on each channel for each node, apart from the ids of its batches.

* `Lot`, `Store.lots` — a batch without its id, and the batches of a channel for a node in their order;
* `lots_of_takes`, `watermarkOf_of_stored` — what stored batches add to the batches and the watermark of a
  channel;
* `Service.consigned` — what a turn sends to a node, cut into batches;
* `parcels_of_cycle` — a committed cycle stores on each channel what the turn of that channel sends, and
  nothing else.
-/

namespace ChangeRouting

/-- A stored batch without its id: its row, and the changes in it with the routers that sent them. -/
structure Lot where
  row : BatchRow
  members : List (Int × String)
  deriving DecidableEq, Repr

/-- The lot that these items make for a node. -/
def lotOf (channel node : String) (items : List Item) : Lot where
  row := (Parcel.mk 0 node channel items).row
  members := items.map fun item => (item.change.id, item.router)

namespace Book

/-- The batches of a channel for a node, in the order they were stored. -/
def lots (book : Book) (channel node : String) : List Lot :=
  (book.batches.rows.filter fun row => row.batch.channel = channel ∧ row.batch.node = node).map
    fun row => ⟨{ row with batch.id := 0 },
      (book.membersOf row.batch.id).map fun event => (event.change, event.router)⟩

end Book

/-- The batches of a channel for a node in a store. -/
def Store.lots (store : Store) (channel node : String) : List Lot :=
  (Book.mk (store.batches.getD ⟨[], 0⟩) (store.events.getD [])).lots channel node

section takes

variable {store after : Store} {book later : Book} {parcels : List Parcel}

theorem Store.Shows.lots_eq (h : store.Shows book) (channel node : String) :
    store.lots channel node = book.lots channel node := by
  rw [Store.lots, h.batches, h.events]
  rfl

/-- The parcels of a channel for a node. -/
def parcelsFor (channel node : String) (parcels : List Parcel) : List Parcel :=
  parcels.filter fun parcel => parcel.channel = channel ∧ parcel.node = node

/-- Stored batches come behind those that were there, which stay as they were. -/
theorem lots_of_takes (h : book.Takes parcels later) (hissued : book.Issued)
    (hevents : book.EventsIssued) (channel node : String) :
    later.lots channel node = book.lots channel node ++
      ((parcelsFor channel node parcels).map Parcel.items).map (lotOf channel node) := by
  rw [Book.lots, h.rows, List.filter_append, List.map_append, Book.lots]
  congr 1
  · refine List.map_congr_left fun row hrow => ?_
    have hid := hissued row (List.mem_filter.1 hrow).1
    have hnew : (parcels.flatMap Parcel.events).filter (·.batch = row.batch.id) = [] := by
      rw [List.filter_eq_nil_iff]
      intro event hevent
      obtain ⟨parcel, hparcel, hevent⟩ := List.mem_flatMap.1 hevent
      have hlt := (h.issued parcel hparcel).1
      rw [Parcel.batch_of_mem_events hevent]
      simp only [decide_eq_true_eq]
      omega
    rw [Book.membersOf, h.events, List.filter_append, hnew, List.append_nil, Book.membersOf]
  · have hfilter : (parcels.map Parcel.row).filter (fun row => row.batch.channel = channel ∧
        row.batch.node = node) = (parcelsFor channel node parcels).map Parcel.row := by
      rw [List.filter_map, parcelsFor]
      congr 1
      refine List.filter_congr fun parcel _ => ?_
      simp only [Function.comp_apply, Parcel.row_channel, Parcel.row_node]
    rw [hfilter, List.map_map, List.map_map]
    refine List.map_congr_left fun parcel hparcel => ?_
    obtain ⟨hmem, hnamed⟩ := List.mem_filter.1 hparcel
    obtain ⟨hchannel, hnode⟩ := of_decide_eq_true hnamed
    simp only [Function.comp_apply, Parcel.row_id, h.membersOf_eq hevents hmem, lotOf, Parcel.events,
      List.map_map]
    subst hchannel hnode
    rfl

/-- The batches of a channel move its watermark, and those of other channels do not. -/
theorem watermarkOf_of_stored (h : Stored store book parcels after later) {marks : List (String × Int)}
    (hmarks : store.watermarks = some marks) (channel : String) :
    after.watermarkOf channel = .ok ((idsOn channel parcels).max?.elim (marks.lookup channel)
      fun top => some ((marks.lookup channel).elim top (max · top))) := by
  rw [Store.watermarkOf, h.watermarks, hmarks, Option.map_some]
  exact congrArg Except.ok (lookup_raisedBy_from channel parcels marks)

/-- The ids in the batches of a channel are those in its batches for all nodes. -/
theorem mem_idsOn {channel : String} {id : Int} :
    id ∈ idsOn channel parcels ↔ ∃ node, ∃ items ∈ (parcelsFor channel node parcels).map Parcel.items,
      ∃ item ∈ items, item.change.id = id := by
  rw [idsOn, List.mem_flatMap]
  constructor
  · rintro ⟨parcel, hparcel, hid⟩
    obtain ⟨hmem, hchannel⟩ := List.mem_filter.1 hparcel
    obtain ⟨item, hitem, heq⟩ := List.mem_map.1 hid
    refine ⟨parcel.node, _, List.mem_map_of_mem (List.mem_filter.2 ⟨hmem, ?_⟩), item, hitem, heq⟩
    exact decide_eq_true ⟨of_decide_eq_true hchannel, rfl⟩
  · rintro ⟨node, items, hitems, item, hitem, rfl⟩
    obtain ⟨parcel, hparcel, rfl⟩ := List.mem_map.1 hitems
    obtain ⟨hmem, hnamed⟩ := List.mem_filter.1 hparcel
    refine ⟨parcel, List.mem_filter.2 ⟨hmem, ?_⟩, List.mem_map.2 ⟨item, hitem, rfl⟩⟩
    exact decide_eq_true (of_decide_eq_true hnamed).1

end takes

/-! ## what a turn sends -/

/-- What a turn sends to a node, batch by batch, if its pass was committed. -/
def Service.consigned (service : Service) (lookups : Lookups) (gaps : List Gap) (turn : Turn)
    (node : String) : List (List Item) :=
  match turn.outcome with
  | none => []
  | some _ => turn.channel.segments (itemsFor node
      ((service.recordOf lookups gaps turn.channel turn.before turn.after).answers.flatMap
        Answer.sendings))

section turns

variable {service : Service} {stalls : List (String × Nat)} {lookups : Lookups} {gaps : List Gap}
  {store : Store} {book : Book}

/-- A turn stores what it sends, on its channel. -/
theorem parcels_of_turn (channel : Channel) (hbook : store.Shows book) :
    ∃ parcels later,
      Stored store book parcels (turnOf (service.passes stalls lookups gaps) channel store).after later ∧
      (∀ parcel ∈ parcels, parcel.channel = channel.id) ∧
      ∀ node, (parcels.filter (·.node = node)).map Parcel.items = service.consigned lookups gaps
        (turnOf (service.passes stalls lookups gaps) channel store) node := by
  cases houtcome : (turnOf (service.passes stalls lookups gaps) channel store).outcome with
  | none =>
      refine ⟨[], book, ?_, fun _ h => (List.not_mem_nil h).elim, fun node => ?_⟩
      · rw [turnOf_after_of_none houtcome]
        exact .refl hbook
      · rw [Service.consigned, houtcome]
        rfl
  | some outcome =>
      have hpass : (service.pass lookups gaps (stalls.lookup channel.id) channel).on store = (.ok outcome,
          (turnOf (service.passes stalls lookups gaps) channel store).after) := turnOf_eq_ok houtcome
      obtain ⟨parcels, later, hbuilt⟩ := built_of_pass hbook hpass
      refine ⟨parcels, later, hbuilt.stored, hbuilt.labelled, fun node => ?_⟩
      rw [hbuilt.closed, Service.consigned, houtcome, turnOf_channel, turnOf_before]

/-- Turns store on each channel what the turns of that channel send. -/
theorem parcels_of_turns (channels : List Channel) (hbook : store.Shows book) :
    ∃ parcels later,
      Stored store book parcels (storeAfter (service.passes stalls lookups gaps) channels store) later ∧
      ∀ channel node, (parcelsFor channel node parcels).map Parcel.items =
        ((turns (service.passes stalls lookups gaps) channels store).filter
          (·.channel.id = channel)).flatMap (service.consigned lookups gaps · node) := by
  induction channels generalizing store book with
  | nil => exact ⟨[], book, .refl hbook, fun _ _ => rfl⟩
  | cons first channels ih =>
      obtain ⟨parcels, middle, hstored, hlabelled, hsent⟩ :=
        @parcels_of_turn service stalls lookups gaps store book first hbook
      obtain ⟨more, later, hmore, hsent'⟩ := ih hstored.shows
      refine ⟨parcels ++ more, later, hstored.trans hmore, fun channel node => ?_⟩
      rw [parcelsFor, List.filter_append, List.map_append, ← parcelsFor, ← parcelsFor, hsent', turns,
        List.filter_cons, turnOf_channel]
      by_cases hchannel : first.id = channel
      · have hall : parcelsFor channel node parcels = parcels.filter (·.node = node) := by
          refine List.filter_congr fun parcel hparcel => ?_
          rw [hlabelled parcel hparcel, hchannel]
          simp
        rw [if_pos (decide_eq_true hchannel), List.flatMap_cons, hall, hsent]
      · have hnone : parcelsFor channel node parcels = [] := by
          refine List.filter_eq_nil_iff.2 fun parcel hparcel => ?_
          rw [hlabelled parcel hparcel]
          simp [hchannel]
        rw [if_neg (by simpa using hchannel), hnone]
        rfl

end turns

/-- A committed cycle stores on each channel what the turns of that channel send, and nothing else. -/
theorem parcels_of_cycle {service : Service} {circumstances : Circumstances} {store left : Store}
    {course : Course} {report : GapReport} {book : Book} (hbook : store.Shows book)
    (hwent : service.Went (service.passes circumstances.stalls) circumstances.now store course)
    (hreconcile : (reconcile service.gapPolicy course.gaps course.state.coverage
      circumstances.visibility circumstances.now circumstances.now).on course.ended = (.ok report, left)) :
    ∃ parcels later, Stored store book parcels left later ∧
      ∀ channel node, (parcelsFor channel node parcels).map Parcel.items =
        (course.turns.filter (·.channel.id = channel)).flatMap
          (service.consigned course.lookups course.gaps · node) := by
  have hloaded : course.loaded.ledger = store.ledger := hwent.ledger
  have hsettled : left.ledger = course.ended.ledger := by
    have hkeeps := keeps_reconcile service.gapPolicy course.gaps course.state.coverage
      circumstances.visibility circumstances.now circumstances.now course.ended
    rw [← Work.on, hreconcile] at hkeeps
    exact hkeeps
  have hfound := hloaded
  simp only [Store.ledger, Prod.mk.injEq] at hfound
  obtain ⟨hbatches, hevents, -⟩ := hfound
  obtain ⟨parcels, later, hstored, hsent⟩ :=
    @parcels_of_turns service circumstances.stalls course.lookups course.gaps course.loaded book
      service.channels ⟨hbatches.trans hbook.batches, hevents.trans hbook.events⟩
  rw [← hwent.ended] at hstored
  rw [← hwent.turns] at hsent
  exact ⟨parcels, later, hstored.of_ledger hloaded hsettled, hsent⟩

end ChangeRouting
