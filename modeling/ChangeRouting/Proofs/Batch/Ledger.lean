import ChangeRouting.Proofs.Batch.Segments
import ChangeRouting.Proofs.Work
import Mathlib.Data.List.Nodup

/-!
# ChangeRouting.Proofs.Batch.Ledger

The batch tables as a ledger of deliveries.

* `Book`, `Delivery` — the two tables of batches, and what an event says: which change goes to which node;
* `Parcel`, `Book.Takes` — a batch that was stored with its items, and what stored batches add to the
  tables;
* `Takes.deliveries_eq` — the events of a stored batch deliver its items to its node;
* `flush_cases`, `flush_eq_ok` — storing a batch adds it, its events and its watermark, and nothing else.
-/

namespace ChangeRouting

/-- A change that goes to a node, in the name of a router. -/
structure Delivery where
  change : Int
  /-- The node of the batch, if the batch is there. -/
  node : Option String
  router : String
  deriving DecidableEq, Repr

/-- The tables of batches and of their members. -/
structure Book where
  batches : Numbered BatchRow
  events : List BatchEvent
  deriving DecidableEq, Repr

/-- A store has both tables. -/
structure Store.Shows (store : Store) (book : Book) : Prop where
  batches : store.batches = some book.batches
  events : store.events = some book.events

/-- A batch that was stored, with its items. -/
structure Parcel where
  /-- The id the batch got. -/
  id : Int
  node : String
  channel : String
  items : List Item

namespace Parcel

/-- The row of the batch. -/
def row (parcel : Parcel) : BatchRow :=
  let batch := (packed parcel.node parcel.channel parcel.items).batch
  ⟨{ batch with id := parcel.id }, batch.status.code⟩

/-- The events of the batch. -/
def events (parcel : Parcel) : List BatchEvent :=
  parcel.items.map fun item => ⟨item.change.id, parcel.id, item.router⟩

/-- What the batch sends to its node. -/
def sent (parcel : Parcel) : List (String × Item) := parcel.items.map (parcel.node, ·)

/-- The highest change id in the batch. -/
def top (parcel : Parcel) : Option Int := (parcel.items.map (·.change.id)).max?

@[simp] theorem row_id (parcel : Parcel) : parcel.row.batch.id = parcel.id := rfl

@[simp] theorem row_node (parcel : Parcel) : parcel.row.batch.node = parcel.node := node_packed _

@[simp] theorem row_channel (parcel : Parcel) : parcel.row.batch.channel = parcel.channel :=
  channel_packed _

theorem row_status (parcel : Parcel) : parcel.row.status =
    if parcel.row.batch.node = unroutedNode then BatchStatus.ok.code else BatchStatus.new.code := by
  rw [row_node]
  show (packed parcel.node parcel.channel parcel.items).batch.status.code = _
  rw [status_packed]
  split <;> rfl

theorem batch_of_mem_events {parcel : Parcel} {event : BatchEvent} (h : event ∈ parcel.events) :
    event.batch = parcel.id := by
  obtain ⟨item, -, rfl⟩ := List.mem_map.1 h
  rfl

end Parcel

section keys

variable [DecidableEq κ] {key : α → κ} {label : β → κ} {pieces : α → List β} {xs : List α}

/-- Of things with different keys there is one of each. -/
theorem filter_key_eq {x : α} (hnodup : (xs.map key).Nodup) (h : x ∈ xs) :
    xs.filter (key · = key x) = [x] := by
  induction xs with
  | nil => exact (List.not_mem_nil h).elim
  | cons first rest ih =>
      rw [List.map_cons, List.nodup_cons] at hnodup
      rw [List.mem_cons] at h
      cases h with
      | inl heq =>
          have hnone : rest.filter (key · = key first) = [] := by
            rw [List.filter_eq_nil_iff]
            intro other hother
            simp only [decide_eq_true_eq]
            exact fun hsame => hnodup.1 (hsame ▸ List.mem_map_of_mem hother)
          rw [heq, List.filter_cons, if_pos (decide_eq_true rfl), hnone]
      | inr hmem =>
          have hne : key first ≠ key x := fun hsame => hnodup.1 (hsame ▸ List.mem_map_of_mem hmem)
          rw [List.filter_cons, if_neg (by simpa using hne)]
          exact ih hnodup.2 hmem

/-- The pieces with a label are those of the things with it as their key. -/
theorem filter_flatMap_key (hlabel : ∀ x ∈ xs, ∀ piece ∈ pieces x, label piece = key x) (k : κ) :
    (xs.flatMap pieces).filter (label · = k) = (xs.filter (key · = k)).flatMap pieces := by
  induction xs with
  | nil => rfl
  | cons x xs ih =>
      have hfirst := hlabel x List.mem_cons_self
      rw [List.flatMap_cons, List.filter_append,
        ih fun other hother => hlabel other (List.mem_cons_of_mem _ hother), List.filter_cons]
      by_cases hkey : key x = k
      · have hall : (pieces x).filter (label · = k) = pieces x :=
          List.filter_eq_self.2 fun piece hpiece => decide_eq_true ((hfirst piece hpiece).trans hkey)
        rw [hall, if_pos (decide_eq_true hkey), List.flatMap_cons]
      · have hnone : (pieces x).filter (label · = k) = [] := by
          rw [List.filter_eq_nil_iff]
          intro piece hpiece
          simpa [hfirst piece hpiece] using hkey
        rw [hnone, if_neg (by simpa using hkey), List.nil_append]

end keys

section greatest

variable {xs ys : List Int}

theorem max?_append {top : Int} (h : ys.max? = some top) :
    (xs ++ ys).max? = some (xs.max?.elim top (max · top)) := by
  rw [List.max?_eq_some_iff] at h ⊢
  obtain ⟨hmem, hle⟩ := h
  cases hxs : xs.max? with
  | none =>
      rw [List.max?_eq_none_iff] at hxs
      subst hxs
      exact ⟨hmem, hle⟩
  | some other =>
      rw [List.max?_eq_some_iff] at hxs
      obtain ⟨hmem', hle'⟩ := hxs
      simp only [Option.elim_some, List.mem_append]
      refine ⟨?_, fun id hid => ?_⟩
      · rcases Int.le_total other top with h | h
        · exact Or.inr (by rw [Int.max_eq_right h]; exact hmem)
        · exact Or.inl (by rw [Int.max_eq_left h]; exact hmem')
      · have hid' := hid.imp (hle' id) (hle id)
        omega

/-- Lists with the same members have the same greatest one. -/
theorem max?_congr (h : ∀ x, x ∈ xs ↔ x ∈ ys) : xs.max? = ys.max? := by
  refine Option.ext fun x => ?_
  rw [List.max?_eq_some_iff, List.max?_eq_some_iff, h]
  simp only [h]

end greatest

/-- The watermarks once batches were stored. -/
def raisedBy (parcels : List Parcel) (marks : List (String × Int)) : List (String × Int) :=
  parcels.foldl (fun marks parcel => parcel.top.elim marks (Store.raise parcel.channel · marks)) marks

/-- What an item sent to a node delivers. -/
def deliveryOf (sending : String × Item) : Delivery :=
  ⟨sending.2.change.id, some sending.1, sending.2.router⟩

namespace Book

/-- The node of a batch. -/
def node? (book : Book) (batch : Int) : Option String :=
  (book.batches.rows.find? (·.batch.id = batch)).map (·.batch.node)

/-- What events deliver. -/
def deliveries (book : Book) (events : List BatchEvent) : List Delivery :=
  events.map fun event => ⟨event.change, book.node? event.batch, event.router⟩

/-- No batch has an id that has not been given out. -/
def Issued (book : Book) : Prop := ∀ row ∈ book.batches.rows, row.batch.id ≤ book.batches.lastId

/-- No event names a batch id that has not been given out. -/
def EventsIssued (book : Book) : Prop := ∀ event ∈ book.events, event.batch ≤ book.batches.lastId

/-- Every batch has an id given out before, and every event a batch. -/
structure Proper (book : Book) : Prop where
  ids : ∀ row ∈ book.batches.rows, row.batch.id ≤ book.batches.lastId
  known : ∀ event ∈ book.events, ∃ row ∈ book.batches.rows, row.batch.id = event.batch

/-- One book became another by these events; those that were there go where they went. -/
structure Grows (book : Book) (new : List BatchEvent) (after : Book) : Prop where
  events : after.events = book.events ++ new
  nodes : ∀ event ∈ book.events, after.node? event.batch = book.node? event.batch
  proper : after.Proper

/-- One book became another by these batches. -/
structure Takes (book : Book) (parcels : List Parcel) (after : Book) : Prop where
  rows : after.batches.rows = book.batches.rows ++ parcels.map Parcel.row
  events : after.events = book.events ++ parcels.flatMap Parcel.events
  ascending : parcels.Pairwise (·.id < ·.id)
  issued : ∀ parcel ∈ parcels, book.batches.lastId < parcel.id ∧ parcel.id ≤ after.batches.lastId
  grows : book.batches.lastId ≤ after.batches.lastId

variable {book mid after : Book} {xs ys : List BatchEvent} {parcels others : List Parcel}
  {parcel : Parcel}

theorem Grows.refl (h : book.Proper) : book.Grows [] book := ⟨by simp, fun _ _ => rfl, h⟩

theorem Grows.trans (h : book.Grows xs mid) (h' : mid.Grows ys after) : book.Grows (xs ++ ys) after where
  events := by rw [h'.events, h.events, List.append_assoc]
  nodes := by
    intro event hevent
    have hmid : event ∈ mid.events := by
      rw [h.events]
      exact List.mem_append_left _ hevent
    rw [h'.nodes event hmid, h.nodes event hevent]
  proper := h'.proper

/-- Events that are there deliver what they delivered. -/
theorem Grows.deliveries_eq (h : book.Grows xs after) (hsub : ∀ event ∈ ys, event ∈ book.events) :
    after.deliveries ys = book.deliveries ys := by
  refine List.map_congr_left fun event hevent => ?_
  rw [h.nodes event (hsub event hevent)]

namespace Takes

theorem refl (book : Book) : book.Takes [] book where
  rows := (List.append_nil _).symm
  events := (List.append_nil _).symm
  ascending := List.Pairwise.nil
  issued := fun _ h => (List.not_mem_nil h).elim
  grows := Int.le_refl _

theorem trans (h : book.Takes parcels mid) (h' : mid.Takes others after) :
    book.Takes (parcels ++ others) after where
  rows := by rw [h'.rows, h.rows, List.map_append, List.append_assoc]
  events := by rw [h'.events, h.events, List.flatMap_append, List.append_assoc]
  ascending := by
    refine List.pairwise_append.2 ⟨h.ascending, h'.ascending, fun one hone other hother => ?_⟩
    have hle := (h.issued one hone).2
    have hlt := (h'.issued other hother).1
    omega
  issued := by
    intro parcel hparcel
    have hgrows := h.grows
    have hgrows' := h'.grows
    rw [List.mem_append] at hparcel
    cases hparcel with
    | inl hmem =>
        have hids := h.issued parcel hmem
        omega
    | inr hmem =>
        have hids := h'.issued parcel hmem
        omega
  grows := Int.le_trans h.grows h'.grows

/-- What was given out stays given out. -/
theorem issued_after (h : book.Takes parcels after) (hissued : book.Issued) : after.Issued := by
  intro row hrow
  rw [h.rows, List.mem_append, List.mem_map] at hrow
  cases hrow with
  | inl hold => exact Int.le_trans (hissued row hold) h.grows
  | inr hnew =>
      obtain ⟨parcel, hparcel, rfl⟩ := hnew
      exact (h.issued parcel hparcel).2

/-- A stored batch is known by its id. -/
theorem eq_of_id (h : book.Takes parcels after) {one other : Parcel} (hone : one ∈ parcels)
    (hother : other ∈ parcels) (hid : one.id = other.id) : one = other :=
  List.inj_on_of_nodup_map (List.pairwise_map.2 (h.ascending.imp Int.ne_of_lt)) hone hother hid

/-- Of the events of stored batches those with the id of a batch are its own. -/
theorem filter_events (h : book.Takes parcels after) (hparcel : parcel ∈ parcels) :
    (parcels.flatMap Parcel.events).filter (·.batch = parcel.id) = parcel.events := by
  have hlabel : ∀ parcel ∈ parcels, ∀ event ∈ parcel.events, event.batch = parcel.id :=
    fun _ _ _ => Parcel.batch_of_mem_events
  have hnodup : (parcels.map Parcel.id).Nodup := List.pairwise_map.2 (h.ascending.imp Int.ne_of_lt)
  rw [filter_flatMap_key hlabel, filter_key_eq hnodup hparcel, List.flatMap_cons, List.flatMap_nil,
    List.append_nil]

/-- A stored batch is found under its id. -/
theorem find?_eq (h : book.Takes parcels after) (hissued : book.Issued) (hparcel : parcel ∈ parcels) :
    after.batches.rows.find? (·.batch.id = parcel.id) = some parcel.row := by
  have hold : book.batches.rows.find? (·.batch.id = parcel.id) = none := by
    rw [List.find?_eq_none]
    intro row hrow
    have hle := hissued row hrow
    have hlt := (h.issued parcel hparcel).1
    simp only [decide_eq_true_eq]
    omega
  have hnew : parcels.find? (·.id = parcel.id) = some parcel := by
    cases hfind : parcels.find? (·.id = parcel.id) with
    | none => exact absurd (decide_eq_true rfl) (List.find?_eq_none.1 hfind parcel hparcel)
    | some other =>
        have hid : other.id = parcel.id := of_decide_eq_true (List.find?_some hfind :)
        rw [h.eq_of_id (List.mem_of_find?_eq_some hfind) hparcel hid]
  rw [h.rows, List.find?_append, hold, Option.none_or, List.find?_map]
  show Option.map _ (parcels.find? (·.id = parcel.id)) = _
  rw [hnew, Option.map_some]

theorem node?_eq (h : book.Takes parcels after) (hissued : book.Issued) (hparcel : parcel ∈ parcels) :
    after.node? parcel.id = some parcel.node := by
  rw [node?, h.find?_eq hissued hparcel, Option.map_some, Parcel.row_node]

/-- The events of stored batches deliver their items to their nodes. -/
theorem deliveries_eq (h : book.Takes parcels after) (hissued : book.Issued) :
    after.deliveries (parcels.flatMap Parcel.events) =
      (parcels.flatMap Parcel.sent).map deliveryOf := by
  rw [deliveries, List.map_flatMap, List.map_flatMap]
  refine List.flatMap_congr fun parcel hparcel => ?_
  rw [Parcel.events, Parcel.sent, List.map_map, List.map_map]
  refine List.map_congr_left fun item _ => ?_
  simp only [Function.comp_apply, h.node?_eq hissued hparcel, deliveryOf]

/-- Stored batches add their events. -/
theorem grows_events (h : book.Takes parcels after) (hproper : book.Proper) :
    book.Grows (parcels.flatMap Parcel.events) after where
  events := h.events
  nodes := by
    intro event hevent
    rw [node?, node?, h.rows, List.find?_append]
    cases hfind : book.batches.rows.find? (·.batch.id = event.batch) with
    | some row => rfl
    | none =>
        obtain ⟨row, hrow, hid⟩ := hproper.known event hevent
        exact absurd (decide_eq_true hid) (List.find?_eq_none.1 hfind row hrow)
  proper := by
    refine ⟨h.issued_after hproper.ids, fun event hevent => ?_⟩
    rw [h.rows]
    rw [h.events, List.mem_append, List.mem_flatMap] at hevent
    cases hevent with
    | inl hold =>
        obtain ⟨row, hrow, hid⟩ := hproper.known event hold
        exact ⟨row, List.mem_append_left _ hrow, hid⟩
    | inr hnew =>
        obtain ⟨parcel, hparcel, hevent⟩ := hnew
        refine ⟨parcel.row, List.mem_append_right _ (List.mem_map_of_mem hparcel), ?_⟩
        rw [Parcel.batch_of_mem_events hevent, Parcel.row_id]

end Takes

end Book

/-! ## storing a batch -/

/-- A store that showed a book came to show another by storing batches. -/
structure Stored (before : Store) (book : Book) (parcels : List Parcel) (after : Store) (later : Book) :
    Prop where
  shows : after.Shows later
  takes : book.Takes parcels later
  watermarks : after.watermarks = before.watermarks.map (raisedBy parcels)

section storing

variable {store mid after : Store} {book middle later : Book} {parcels others : List Parcel}

theorem Stored.refl (h : store.Shows book) : Stored store book [] store book where
  shows := h
  takes := .refl book
  watermarks := by cases store.watermarks <;> rfl

theorem Stored.trans (h : Stored store book parcels mid middle)
    (h' : Stored mid middle others after later) : Stored store book (parcels ++ others) after later where
  shows := h'.shows
  takes := h.takes.trans h'.takes
  watermarks := by
    rw [h'.watermarks, h.watermarks, Option.map_map]
    cases store.watermarks with
    | none => rfl
    | some marks => simp only [Option.map_some, Function.comp_apply, raisedBy, List.foldl_append]

theorem insertBatch_shows {batch : Batch} {id : Int} (hbook : store.Shows book)
    (h : store.insertBatch batch = .ok (id, after)) :
    id = book.batches.lastId + 1 ∧ after.watermarks = store.watermarks ∧
      after.Shows { book with
        batches := ⟨book.batches.rows ++ [⟨{ batch with id := id }, batch.status.code⟩], id⟩ } := by
  rw [Store.insertBatch, hbook.batches] at h
  simp only at h
  split at h
  · cases h
  · cases h
    exact ⟨rfl, rfl, rfl, hbook.events⟩

theorem insertEvent_shows {event : BatchEvent} (hbook : store.Shows book)
    (h : store.insertEvent event = .ok after) :
    after.watermarks = store.watermarks ∧
      after.Shows { book with events := book.events ++ [event] } := by
  rw [Store.insertEvent, hbook.events] at h
  simp only at h
  split at h
  · cases h
  · cases h
    exact ⟨rfl, hbook.batches, rfl⟩

theorem readEventStatement_shows (hbook : store.Shows book)
    (h : store.readEventStatement = .ok after) :
    after.watermarks = store.watermarks ∧ after.Shows book := by
  rw [Store.readEventStatement, hbook.events] at h
  split at h
  · cases h
    exact ⟨rfl, hbook⟩
  · cases h
    exact ⟨rfl, hbook.batches, rfl⟩

theorem insertEvents_shows {id : Int} {members : List (Int × String)} {u : Unit}
    (hbook : store.Shows book) (h : (Store.insertEvents id members).on store = (.ok u, after)) :
    after.watermarks = store.watermarks ∧ after.Shows { book with
      events := book.events ++ members.map fun member => ⟨member.1, id, member.2⟩ } := by
  obtain ⟨_, mid, hread, hrest⟩ := Work.bind_on_eq_ok.1 h
  obtain ⟨hmarks, hmid⟩ := readEventStatement_shows hbook (update_on_eq_ok.1 hread)
  rw [← hmarks]
  clear h hread hbook hmarks
  induction members generalizing mid book with
  | nil =>
      cases hrest
      rw [List.map_nil, List.append_nil]
      exact ⟨rfl, hmid⟩
  | cons member members ih =>
      obtain ⟨_, next, hinsert, hrest⟩ := Work.bind_on_eq_ok.1 hrest
      obtain ⟨hmarks, hnext⟩ := insertEvent_shows hmid (update_on_eq_ok.1 hinsert)
      have hend := ih next hrest hnext
      rw [List.append_assoc, hmarks] at hend
      exact hend

theorem advanceWatermark_shows {channel : String} {id : Int} (hbook : store.Shows book)
    (h : store.advanceWatermark channel id = .ok after) :
    after.watermarks = store.watermarks.map (Store.raise channel id) ∧ after.Shows book := by
  rw [Store.advanceWatermark] at h
  split at h
  · next hmarks =>
    obtain ⟨loose, rfl⟩ := snd_looseUpdate_eq_ok h
    refine ⟨?_, hbook.batches, hbook.events⟩
    rw [hmarks]
    exact hmarks
  · next marks hmarks =>
    cases h
    rw [hmarks]
    exact ⟨rfl, hbook.batches, hbook.events⟩

theorem onStore_eq_ok {work : Work α} {s t : Builder × Store} {a : α} :
    (Builder.onStore work).run.run s = (.ok a, t) ↔
      ∃ after, work.on s.2 = (.ok a, after) ∧ t = (s.1, after) := by
  show ((work.on s.2).1, s.1, (work.on s.2).2) = (.ok a, t) ↔ _
  cases work.on s.2 with
  | mk outcome after =>
      simp only [Prod.mk.injEq]
      constructor
      · rintro ⟨houtcome, hstate⟩
        exact ⟨after, ⟨houtcome, rfl⟩, hstate.symm⟩
      · rintro ⟨other, ⟨houtcome, rfl⟩, hstate⟩
        exact ⟨houtcome, hstate.symm⟩

/-- An open batch that holds something is stored with its members as events, and the watermark moves up to
the highest of them. -/
theorem flush_cases {s t : Builder × Store} {batch : OpenBatch} {u : Unit} (hbook : s.2.Shows book)
    (h : (Builder.flush batch).run.run s = (.ok u, t)) :
    batch.members = [] ∧ t = s ∨
      ∃ last after, (batch.members.map (·.1)).max? = some last ∧
        t = ({ s.1 with
          report.batches := s.1.report.batches + 1
          report.last := some (s.1.report.last.elim last (max last)) }, after) ∧
        after.watermarks = s.2.watermarks.map (Store.raise s.1.channel last) ∧
        after.Shows {
          batches :=
            ⟨book.batches.rows ++
              [⟨{ batch.batch with id := book.batches.lastId + 1 }, batch.batch.status.code⟩],
              book.batches.lastId + 1⟩
          events := book.events ++ batch.members.map fun member =>
            ⟨member.1, book.batches.lastId + 1, member.2⟩ } := by
  rw [Builder.flush] at h
  cases hmax : (batch.members.map (·.1)).max? with
  | none =>
      simp only [hmax] at h
      cases h
      exact Or.inl ⟨by simpa using hmax, rfl⟩
  | some last =>
      simp only [hmax] at h
      obtain ⟨_, _, hget, h⟩ := run_bind_eq_ok.1 h
      cases hget
      obtain ⟨_, _, hstore, h⟩ := run_bind_eq_ok.1 h
      cases h
      obtain ⟨after, hwork, rfl⟩ := onStore_eq_ok.1 hstore
      obtain ⟨id, _, hinsert, hrest⟩ := Work.bind_on_eq_ok.1 hwork
      obtain ⟨_, _, hevents, hmark⟩ := Work.bind_on_eq_ok.1 hrest
      obtain ⟨rfl, hkeep, hrow⟩ := insertBatch_shows hbook (statement_on_eq_ok.1 hinsert)
      obtain ⟨hkeep', hmembers⟩ := insertEvents_shows hrow hevents
      obtain ⟨hmarks, hshows⟩ := advanceWatermark_shows hmembers (update_on_eq_ok.1 hmark)
      rw [hkeep', hkeep] at hmarks
      exact Or.inr ⟨last, after, rfl, rfl, hmarks, hshows⟩

/-- Storing a batch that holds items adds it, its events and its watermark. -/
theorem flush_eq_ok {s t : Builder × Store} {node : String} {items : List Item} {u : Unit}
    (hbook : s.2.Shows book) (hne : items ≠ [])
    (h : (Builder.flush (packed node s.1.channel items)).run.run s = (.ok u, t)) :
    (∃ report, t.1 = { s.1 with report := report }) ∧
      ∃ later, Stored s.2 book [⟨book.batches.lastId + 1, node, s.1.channel, items⟩] t.2 later := by
  obtain ⟨hnone, -⟩ | ⟨last, after, hmax, rfl, hmarks, hshows⟩ := flush_cases hbook h
  · rw [members_packed, List.map_eq_nil_iff] at hnone
    contradiction
  · rw [members_packed, List.map_map] at hmax
    refine ⟨⟨_, rfl⟩, _, hshows, ⟨rfl, ?_, List.pairwise_singleton _ _, ?_, ?_⟩, ?_⟩
    · simp [Parcel.events, List.map_map, Function.comp_def]
    · intro parcel hparcel
      rw [List.mem_singleton] at hparcel
      subst hparcel
      exact ⟨Int.lt_succ _, Int.le_refl _⟩
    · exact Int.le_of_lt (Int.lt_succ _)
    · have htop : (items.map (·.change.id)).max? = some last := hmax
      rw [hmarks]
      refine congrArg (Option.map · s.2.watermarks) (funext fun marks => ?_)
      simp only [raisedBy, List.foldl_cons, List.foldl_nil, Parcel.top, htop, Option.elim_some]

end storing

end ChangeRouting
