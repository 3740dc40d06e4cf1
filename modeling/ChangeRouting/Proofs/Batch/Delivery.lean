import ChangeRouting.Proofs.Batch.Boundaries
import ChangeRouting.Proofs.Batch.Targets

/-!
# ChangeRouting.Proofs.Batch.Delivery

The builder neither loses, duplicates nor reorders what it is given.

* `deliveredTo` — what the batches of a node hold when their events are read batch by batch;
* `deliveredTo_parcels`, `deliveredTo_of_takes` — for stored batches that is what the node was sent, behind
  what was there;
* `itemsFor_sentBy_of` — what a stream sends to a node, change by change;
* `Tallies`, `tallies_build` — the report counts what was stored, step by step;
* `changes_are_delivered_once` — each node gets the changes that some router sends there, each once and in
  order, the others go to the unrouted node, and the report agrees.
-/

namespace ChangeRouting

/-- What the batches of a node hold, batch by batch: changes with the routers that sent them. -/
def deliveredTo (node : String) (rows : List BatchRow) (events : List BatchEvent) : List (Int × String) :=
  (rows.filter (·.batch.node = node)).flatMap fun row =>
    (events.filter (·.batch = row.batch.id)).map fun event => (event.change, event.router)

/-- An item as the tables show it. -/
def Item.listed (item : Item) : Int × String := (item.change.id, item.router)

/-! ## what the tables hold -/

section tables

variable {book later : Book} {parcels : List Parcel} {sent : List (String × Item)} {channel : Channel}
  {before after : Store} {node : String}

/-- The batches that were stored for a node hold their items. -/
theorem deliveredTo_parcels (h : book.Takes parcels later) (node : String) :
    deliveredTo node (parcels.map Parcel.row) (parcels.flatMap Parcel.events) =
      ((parcels.filter (·.node = node)).flatMap Parcel.items).map Item.listed := by
  have hfilter : parcels.filter (fun parcel => parcel.row.batch.node = node) =
      parcels.filter (·.node = node) := List.filter_congr fun parcel _ => by simp
  rw [deliveredTo, List.filter_map, List.flatMap_map, List.map_flatMap, Function.comp_def, hfilter]
  refine List.flatMap_congr fun parcel hparcel => ?_
  have hevents := h.filter_events (List.mem_of_mem_filter hparcel)
  show ((parcels.flatMap Parcel.events).filter (·.batch = parcel.id)).map _ = _
  rw [hevents, Parcel.events, List.map_map]
  rfl

/-- What was stored for a node is what it was sent, in order. -/
theorem Built.deliveredTo_eq (h : Built channel before book sent parcels after later) (node : String) :
    deliveredTo node (parcels.map Parcel.row) (parcels.flatMap Parcel.events) =
      (itemsFor node sent).map Item.listed := by
  rw [deliveredTo_parcels h.stored.takes, List.flatMap_def, h.closed, Channel.segments, flatten_segments]

/-- What was stored comes behind what was there. -/
theorem deliveredTo_of_takes (h : book.Takes parcels later) (hproper : book.Proper) (node : String) :
    deliveredTo node later.batches.rows later.events =
      deliveredTo node book.batches.rows book.events ++
        ((parcels.filter (·.node = node)).flatMap Parcel.items).map Item.listed := by
  have hbelow : ∀ event ∈ book.events, ∀ parcel ∈ parcels, event.batch < parcel.id := by
    intro event hevent parcel hparcel
    obtain ⟨row, hrow, hid⟩ := hproper.known event hevent
    exact hid ▸ Int.lt_of_le_of_lt (hproper.ids row hrow) (h.issued parcel hparcel).1
  have hold : ∀ row ∈ book.batches.rows, (later.events.filter (·.batch = row.batch.id)) =
      book.events.filter (·.batch = row.batch.id) := by
    intro row hrow
    have hnone : (parcels.flatMap Parcel.events).filter (·.batch = row.batch.id) = [] := by
      rw [List.filter_eq_nil_iff]
      intro event hevent hbatch
      obtain ⟨parcel, hparcel, hevent⟩ := List.mem_flatMap.1 hevent
      have hlt := Int.lt_of_le_of_lt (hproper.ids row hrow) (h.issued parcel hparcel).1
      rw [← Parcel.batch_of_mem_events hevent, of_decide_eq_true hbatch] at hlt
      exact Int.lt_irrefl _ hlt
    rw [h.events, List.filter_append, hnone, List.append_nil]
  have hnew : ∀ parcel ∈ parcels, later.events.filter (·.batch = parcel.id) =
      (parcels.flatMap Parcel.events).filter (·.batch = parcel.id) := by
    intro parcel hparcel
    have hnone : book.events.filter (·.batch = parcel.id) = [] := by
      rw [List.filter_eq_nil_iff]
      intro event hevent hbatch
      exact Int.ne_of_lt (hbelow event hevent parcel hparcel) (of_decide_eq_true hbatch)
    rw [h.events, List.filter_append, hnone, List.nil_append]
  rw [← deliveredTo_parcels h node, deliveredTo, h.rows, List.filter_append, List.flatMap_append]
  congr 1
  · refine List.flatMap_congr fun row hrow => ?_
    rw [hold row (List.mem_of_mem_filter hrow)]
  · refine List.flatMap_congr fun row hrow => ?_
    obtain ⟨parcel, hparcel, rfl⟩ := List.mem_map.1 (List.mem_of_mem_filter hrow)
    rw [Parcel.row_id, hnew parcel hparcel]

end tables

/-! ## what a stream sends -/

section sent

variable {stream : List (Change × List Decision)} {node : String}

theorem itemsFor_sendingsOf (node : String) (change : Change) (decisions : List Decision) :
    itemsFor node (sendingsOf change decisions) =
      ((Builder.targets decisions).filter (·.1 = node)).map fun target => ⟨change, target.2⟩ := by
  rw [itemsFor, sendingsOf, List.filter_map, List.map_map]
  rfl

/-- Of one change a node is sent one item, if it gets the change. -/
theorem itemsFor_sendingsOf_eq (node : String) (change : Change) (decisions : List Decision) :
    itemsFor node (sendingsOf change decisions) =
      ((sender? node decisions).map (⟨change, ·⟩)).toList := by
  rw [itemsFor_sendingsOf, filter_targets_eq]
  cases sender? node decisions <;> rfl

/-- What a node is sent by a stream depends, change by change, on what the routers decided. -/
theorem itemsFor_sentBy_of (router? : List Decision → Option String)
    (hrouter : ∀ entry ∈ stream, (Builder.targets entry.2).filter (·.1 = node) =
      ((router? entry.2).map (node, ·)).toList) :
    itemsFor node (sentBy stream) =
      stream.filterMap fun entry => (router? entry.2).map (⟨entry.1, ·⟩) := by
  induction stream with
  | nil => rfl
  | cons entry stream ih =>
      have hrest := ih fun other hother => hrouter other (List.mem_cons_of_mem _ hother)
      rw [sentBy, List.flatMap_cons, ← sentBy, itemsFor_append, itemsFor_sendingsOf,
        hrouter entry List.mem_cons_self, hrest, List.filterMap_cons]
      cases hdecided : router? entry.2 <;> simp

end sent

/-! ## what is reported -/

/-- Since a store showed a book, so many events were sent and so many changes went nowhere, and the report
tells that, how many batches were stored since, and the highest change in them. -/
structure Tallies (book : Book) (events unrouted : Nat) (s : Builder × Store) : Prop where
  events : s.1.report.events = events
  unrouted : s.1.report.unrouted = unrouted
  stored : ∃ later rows added, s.2.Shows later ∧ later.batches.rows = book.batches.rows ++ rows ∧
    later.events = book.events ++ added ∧ s.1.report.batches = rows.length ∧
    s.1.report.last = (added.map (·.change)).max?

section tallies

variable {book : Book} {events unrouted : Nat} {s t : Builder × Store} {node router : String}
  {change : Change}

theorem Tallies.new {store : Store} (channel : Channel) (h : store.Shows book) :
    Tallies book 0 0 (.new channel, store) where
  events := rfl
  unrouted := rfl
  stored := ⟨book, [], [], h, by simp, by simp, rfl, rfl⟩

/-- Only the report matters of a builder. -/
theorem Tallies.of_report (h : Tallies book events unrouted s) (builder : Builder)
    (hreport : builder.report = s.1.report) : Tallies book events unrouted (builder, s.2) where
  events := hreport ▸ h.events
  unrouted := hreport ▸ h.unrouted
  stored := hreport ▸ h.stored

theorem report_record (builder : Builder) :
    (builder.record node router change).report =
      { builder.report with events := builder.report.events + 1 } := by
  rw [Builder.record]
  cases builder.open? node <;> rfl

theorem tallies_record (h : Tallies book events unrouted s) :
    Tallies book (events + 1) unrouted (s.1.record node router change, s.2) where
  events := by simp [report_record, h.events]
  unrouted := by simp [report_record, h.unrouted]
  stored := by simpa [report_record] using h.stored

/-- A batch that is stored is one more, with its members as events. -/
theorem tallies_flush {batch : OpenBatch} {u : Unit} (h : Tallies book events unrouted s)
    (hrun : (Builder.flush batch).run.run s = (.ok u, t)) : Tallies book events unrouted t := by
  obtain ⟨later, rows, added, hshows, hrows, hadded, hbatches, hlast⟩ := h.stored
  obtain ⟨-, rfl⟩ | ⟨last, after, hmax, rfl, -, hend⟩ := flush_cases hshows hrun
  · exact h
  · have hnew : ((batch.members.map fun member =>
        (⟨member.1, later.batches.lastId + 1, member.2⟩ : BatchEvent)).map (·.change)).max? = some last := by
      simpa [Function.comp_def] using hmax
    refine ⟨h.events, h.unrouted, _,
      rows ++ [⟨{ batch.batch with id := later.batches.lastId + 1 }, batch.batch.status.code⟩],
      added ++ batch.members.map fun member => ⟨member.1, later.batches.lastId + 1, member.2⟩,
      hend, ?_, ?_, ?_, ?_⟩
    · simp [hrows]
    · simp [hadded]
    · simp [hbatches]
    · rw [List.map_append, max?_append hnew, ← hlast]
      show some (s.1.report.last.elim last (max last)) = _
      cases s.1.report.last with
      | none => rfl
      | some other => exact congrArg some (Int.max_comm last other)

theorem tallies_append {u : Unit} (h : Tallies book events unrouted s)
    (hrun : (Builder.append node router change).run.run s = (.ok u, t)) :
    Tallies book (events + 1) unrouted t := by
  obtain ⟨-, rfl⟩ | ⟨batch, -, ⟨-, rfl⟩ | ⟨-, _, mid, hflush, rfl⟩⟩ := append_cases hrun
  · exact tallies_record (h.of_report (s.1.start node) rfl)
  · exact tallies_record h
  · have hmid := tallies_flush (h.of_report (s.1.withoutOpen node) rfl) hflush
    exact tallies_record (hmid.of_report (mid.1.start node) rfl)

theorem tallies_forM_append {targets : List (String × String)} {u : PUnit}
    (h : Tallies book events unrouted s)
    (hrun : (targets.forM fun target => Builder.append target.1 target.2 change).run.run s =
      (.ok u, t)) :
    Tallies book (events + targets.length) unrouted t := by
  refine run_forM_eq_ok (motive := fun done s => Tallies book (events + done.length) unrouted s) h ?_ hrun
  intro done target mid next _ hmid happend
  simpa [← Nat.add_assoc] using tallies_append hmid happend

theorem tallies_add {decisions : List Decision} {count : Nat} (h : Tallies book events unrouted s)
    (hrun : (Builder.add change decisions).run.run s = (.ok count, t)) :
    Tallies book (events + (sendingsOf change decisions).length)
      (unrouted + if Builder.isUnrouted decisions then 1 else 0) t := by
  obtain ⟨_, hsend⟩ := add_eq_ok hrun
  rw [sendingsOf, List.length_map]
  refine tallies_forM_append ?_ hsend
  exact ⟨h.events, congrArg (· + _) h.unrouted, h.stored⟩

theorem tallies_adds {stream : List (Change × List Decision)} {u : PUnit}
    (h : Tallies book events unrouted s)
    (hrun : (stream.forM fun (change, decisions) => discard (Builder.add change decisions)).run.run s =
      (.ok u, t)) :
    Tallies book (events + (sentBy stream).length)
      (unrouted + stream.countP (Builder.isUnrouted ·.2)) t := by
  refine run_forM_eq_ok (motive := fun done s => Tallies book (events + (sentBy done).length)
    (unrouted + done.countP (Builder.isUnrouted ·.2)) s) h ?_ hrun
  intro done entry mid next _ hmid hdone
  obtain ⟨count, _, hadd, hdone⟩ := run_bind_eq_ok.1 hdone
  cases hdone
  simpa [sentBy, List.countP_cons, ← Nat.add_assoc] using tallies_add hmid hadd

theorem tallies_flushes {opened : List (String × OpenBatch)} {u : PUnit}
    (h : Tallies book events unrouted s)
    (hrun : (opened.forM fun entry => Builder.flush entry.2).run.run s = (.ok u, t)) :
    Tallies book events unrouted t := by
  refine run_forM_eq_ok (motive := fun _ s => Tallies book events unrouted s) h ?_ hrun
  exact fun _ entry mid next _ hmid hflush => tallies_flush hmid hflush

/-- The report of a stream tells what was sent and what was stored. -/
theorem tallies_build {channel : Channel} {before : Store} {stream : List (Change × List Decision)}
    {report : BuildReport} (hbook : before.Shows book)
    (hrun : (Builder.build stream).run.run (.new channel, before) = (.ok report, t)) :
    Tallies book (sentBy stream).length (stream.countP (Builder.isUnrouted ·.2)) t ∧
      report = t.1.report := by
  obtain ⟨_, mid, hadds, hfinish⟩ := run_bind_eq_ok.1 hrun
  have hmid := tallies_adds (.new channel hbook) hadds
  rw [Nat.zero_add, Nat.zero_add] at hmid
  obtain ⟨hreport, _, hflush⟩ := finish_eq_ok hfinish
  exact ⟨tallies_flushes (hmid.of_report { mid.1 with opened := [] } rfl) hflush, hreport⟩

end tallies

/-! ## the law -/

/-- These batches and events are what a stream of decided changes is to leave, and this is their report. -/
structure DeliversOnce (stream : List (Change × List Decision)) (rows : List BatchRow)
    (events : List BatchEvent) (report : BuildReport) : Prop where
  /-- A node gets the changes that some router sends there, in the name of the first that does. -/
  routed : ∀ node, node ≠ unroutedNode → deliveredTo node rows events =
    stream.filterMap fun entry => (selector? node entry.2).map (entry.1.id, ·)
  /-- The unrouted node gets the others, in the name of the first router asked. -/
  unrouted : deliveredTo unroutedNode rows events =
    stream.filterMap fun entry => (nobody? entry.2).map (entry.1.id, ·)
  /-- No node gets a change twice, nor before an earlier one. -/
  once : ∀ node, ((deliveredTo node rows events).map Prod.fst).Pairwise (· < ·)
  reported : report.batches = rows.length ∧ report.events = events.length ∧
    report.unrouted = (deliveredTo unroutedNode rows events).length ∧
    report.last = (stream.map (·.1.id)).max?

section law

variable {channel : Channel} {before : Store} {book : Book} {stream : List (Change × List Decision)}
  {report : BuildReport} {t : Builder × Store}

/-- What is read off a stream change by change ascends as the stream does. -/
theorem ascending_filterMap (hstream : stream.Pairwise (·.1.id < ·.1.id))
    (router? : List Decision → Option String) :
    ((stream.filterMap fun entry => (router? entry.2).map (entry.1.id, ·)).map Prod.fst).Pairwise
      (· < ·) := by
  rw [List.map_filterMap, List.pairwise_filterMap]
  refine hstream.imp fun {one other} hlt id hid id' hid' => ?_
  simp only [Option.map_map, Option.map_eq_some_iff] at hid hid'
  obtain ⟨_, -, rfl⟩ := hid
  obtain ⟨_, -, rfl⟩ := hid'
  exact hlt

/-- Every change of a stream is sent somewhere. -/
theorem mem_ids_sentBy {id : Int} :
    id ∈ (sentBy stream).map (·.2.change.id) ↔ id ∈ stream.map (·.1.id) := by
  simp only [sentBy, List.mem_map, List.mem_flatMap]
  constructor
  · rintro ⟨sending, ⟨entry, hentry, hsending⟩, rfl⟩
    obtain ⟨target, -, rfl⟩ := List.mem_map.1 hsending
    exact ⟨entry, hentry, rfl⟩
  · rintro ⟨entry, hentry, rfl⟩
    have hne := (destined_targets entry.2).ne_nil
    obtain ⟨target, rest, htargets⟩ := List.exists_cons_of_ne_nil (by simpa using hne)
    exact ⟨(target.1, ⟨entry.1, target.2⟩), ⟨entry, hentry, by simp [sendingsOf, htargets]⟩, rfl⟩

/-- The report agrees with the batches that were stored. -/
theorem Tallies.reported {sent : List (String × Item)} {parcels : List Parcel} {unrouted : Nat}
    {later : Book} (h : Tallies book sent.length unrouted t)
    (hbuilt : Built channel before book sent parcels t.2 later) :
    t.1.report.batches = (parcels.map Parcel.row).length ∧
      t.1.report.events = (parcels.flatMap Parcel.events).length ∧
      t.1.report.last = (sent.map (·.2.change.id)).max? := by
  obtain ⟨shown, rows, added, hshows, hrows, hadded, hbatches, hlast⟩ := h.stored
  -- the tables the report tells of are those the batches were added to
  have hsameBatches : shown.batches = later.batches :=
    Option.some.inj (hshows.batches.symm.trans hbuilt.stored.shows.batches)
  have hsameEvents : shown.events = later.events :=
    Option.some.inj (hshows.events.symm.trans hbuilt.stored.shows.events)
  rw [hsameBatches, hbuilt.stored.takes.rows] at hrows
  rw [hsameEvents, hbuilt.stored.takes.events] at hadded
  rw [← List.append_cancel_left hrows] at hbatches
  rw [← List.append_cancel_left hadded] at hlast
  have hids : (parcels.flatMap Parcel.events).map (·.change) =
      (parcels.flatMap Parcel.sent).map (·.2.change.id) := by
    simp [Parcel.events, Parcel.sent, List.map_flatMap, Function.comp_def]
  have hperm := hbuilt.perm.map fun sending => sending.2.change.id
  rw [← hids] at hperm
  have hlength := hperm.length_eq
  rw [List.length_map, List.length_map] at hlength
  exact ⟨hbatches, h.events.trans hlength.symm, hlast.trans (max?_congr fun _ => hperm.mem_iff)⟩

/-- Whoever reads the events of a stored batch gets them as they were sent. -/
theorem DeliversOnce.eventsOf_eq {after : Store} {later : Book} {rows : List BatchRow}
    {events : List BatchEvent} (h : DeliversOnce stream rows events report) (hshows : after.Shows later)
    (hevents : later.events = book.events ++ events) (hissued : book.EventsIssued) {row : BatchRow}
    (hrow : row ∈ rows) (hnew : book.batches.lastId < row.batch.id) :
    after.eventsOf row.batch.id = .ok (events.filter (·.batch = row.batch.id)) := by
  have hold : book.events.filter (·.batch = row.batch.id) = [] := by
    rw [List.filter_eq_nil_iff]
    intro event hevent
    have hle := hissued event hevent
    simp only [decide_eq_true_eq]
    omega
  have hsub : ((events.filter (·.batch = row.batch.id)).map fun event => (event.change, event.router)).Sublist
      (deliveredTo row.batch.node rows events) := by
    rw [deliveredTo, List.flatMap_def]
    refine List.sublist_flatten_of_mem (List.mem_map.2 ⟨row, ?_, rfl⟩)
    exact List.mem_filter.2 ⟨hrow, decide_eq_true rfl⟩
  have hascending : (events.filter (·.batch = row.batch.id)).Pairwise (·.change < ·.change) := by
    have honce := (h.once row.batch.node).sublist (hsub.map Prod.fst)
    rw [List.map_map] at honce
    exact List.pairwise_map.1 honce
  rw [Store.eventsOf, hshows.events]
  simp only [hevents, List.filter_append, hold, List.nil_append]
  rw [List.mergeSort_of_pairwise (hascending.imp fun hlt => decide_eq_true (Int.le_of_lt hlt))]

/-- Each node gets the changes that some router sends there, each once and in order, in the name of the
first router that does; the others go to the unrouted node; and the report counts what was stored. -/
theorem changes_are_delivered_once (hbook : before.Shows book)
    (hstream : stream.Pairwise (·.1.id < ·.1.id))
    (hnowhere : ∀ entry ∈ stream, ∀ decision ∈ entry.2, unroutedNode ∉ decision.nodes)
    (hrun : (Builder.build stream).run.run (.new channel, before) = (.ok report, t)) :
    ∃ later rows events, t.2.Shows later ∧ later.batches.rows = book.batches.rows ++ rows ∧
      later.events = book.events ++ events ∧ rows.Pairwise (·.batch.id < ·.batch.id) ∧
      (∀ row ∈ rows, book.batches.lastId < row.batch.id) ∧ DeliversOnce stream rows events report ∧
      (book.EventsIssued → ∀ row ∈ rows,
        t.2.eventsOf row.batch.id = .ok (events.filter (·.batch = row.batch.id))) := by
  obtain ⟨parcels, later, hbuilt⟩ := built_of_build hbook hrun
  obtain ⟨htallies, hreport⟩ := tallies_build hbook hrun
  have htakes := hbuilt.stored.takes
  have hsent := hbuilt.deliveredTo_eq
  have hrouted : ∀ node, node ≠ unroutedNode →
      deliveredTo node (parcels.map Parcel.row) (parcels.flatMap Parcel.events) =
        stream.filterMap fun entry => (selector? node entry.2).map (entry.1.id, ·) := by
    intro node hnode
    rw [hsent, itemsFor_sentBy_of (selector? node) fun entry _ => filter_targets hnode entry.2]
    simp [List.map_filterMap, Function.comp_def, Item.listed]
  have hunrouted : deliveredTo unroutedNode (parcels.map Parcel.row) (parcels.flatMap Parcel.events) =
      stream.filterMap fun entry => (nobody? entry.2).map (entry.1.id, ·) := by
    rw [hsent, itemsFor_sentBy_of nobody? fun entry hentry => filter_targets_unrouted (hnowhere entry hentry)]
    simp [List.map_filterMap, Function.comp_def, Item.listed]
  have hnew : ∀ row ∈ parcels.map Parcel.row, book.batches.lastId < row.batch.id := by
    intro row hrow
    obtain ⟨parcel, hparcel, rfl⟩ := List.mem_map.1 hrow
    exact (htakes.issued parcel hparcel).1
  have hcount : (stream.filterMap fun entry => (nobody? entry.2).map (entry.1.id, ·)).length =
      stream.countP (Builder.isUnrouted ·.2) := by
    rw [List.length_filterMap_eq_countP]
    refine List.countP_congr fun entry _ => ?_
    rw [isUnrouted_eq, nobody?]
    cases entry.2.all (·.nodes.isEmpty) <;> simp
  have hdelivers : DeliversOnce stream (parcels.map Parcel.row) (parcels.flatMap Parcel.events) report := by
    refine ⟨hrouted, hunrouted, fun node => ?_, ?_⟩
    · by_cases hnode : node = unroutedNode
      · rw [hnode, hunrouted]
        exact ascending_filterMap hstream nobody?
      · rw [hrouted node hnode]
        exact ascending_filterMap hstream (selector? node)
    · obtain ⟨hbatches, hevents, hlast⟩ := htallies.reported hbuilt
      rw [hreport]
      exact ⟨hbatches, hevents, by rw [htallies.unrouted, hunrouted, hcount],
        hlast.trans (max?_congr fun _ => mem_ids_sentBy)⟩
  exact ⟨later, _, _, hbuilt.stored.shows, htakes.rows, htakes.events,
    List.pairwise_map.2 htakes.ascending, hnew, hdelivers, fun hissued row hrow =>
      hdelivers.eventsOf_eq hbuilt.stored.shows htakes.events hissued hrow (hnew row hrow)⟩

end law

/-- Two routers select a branch for the first change, none selects one for the next two. -/
def auditedStream : List (Change × List Decision) :=
  [(madeBy none 3, [⟨"down", .ofList ["001"]⟩, ⟨"audit", .ofList ["001", "002"]⟩]),
    (madeBy none 5, [⟨"down", ∅⟩, ⟨"audit", ∅⟩]), (madeBy none 8, []),
    (madeBy none 9, [⟨"down", .ofList ["002"]⟩])]

/-- The first router counts for a branch, and each branch gets its changes in order. -/
theorem changes_are_delivered_once_audited :
    ∃ later rows events report t,
      (Builder.build auditedStream).run.run (.new paired, .empty) = (.ok report, t) ∧
      t.2.Shows later ∧ later.batches.rows = rows ∧ later.events = events ∧
      deliveredTo "001" rows events = [(3, "down")] ∧
      deliveredTo "002" rows events = [(3, "audit"), (9, "down")] ∧
      deliveredTo unroutedNode rows events = [(5, "down"), (8, "?")] ∧
      report.batches = rows.length ∧ report.events = events.length ∧ report.unrouted = 2 ∧
      report.last = some 9 := by
  have hok : ((Builder.build auditedStream).run.run (.new paired, .empty)).1.toOption.isSome = true := by
    decide +kernel
  have hbook : Store.empty.Shows ⟨⟨[], 0⟩, []⟩ := ⟨rfl, rfl⟩
  have hstream : auditedStream.Pairwise (·.1.id < ·.1.id) := by decide
  have hnowhere : ∀ entry ∈ auditedStream, ∀ decision ∈ entry.2, unroutedNode ∉ decision.nodes.ids := by
    decide +kernel
  cases hrun : (Builder.build auditedStream).run.run (.new paired, .empty) with
  | mk result t =>
      rw [hrun] at hok
      cases result with
      | error fault => exact absurd hok Bool.false_ne_true
      | ok report =>
          obtain ⟨later, rows, events, hshows, hrows, hevents, -, -, hdelivers, -⟩ :=
            changes_are_delivered_once hbook hstream hnowhere hrun
          obtain ⟨hbatches, hcount, hunrouted, hlast⟩ := hdelivers.reported
          have hnobody : deliveredTo unroutedNode rows events = [(5, "down"), (8, "?")] := by
            rw [hdelivers.unrouted]
            decide +kernel
          refine ⟨later, rows, events, report, t, rfl, hshows, hrows, hevents, ?_, ?_, hnobody, hbatches,
            hcount, ?_, ?_⟩
          · rw [hdelivers.routed "001" (by decide)]
            decide +kernel
          · rw [hdelivers.routed "002" (by decide)]
            decide +kernel
          · rw [hunrouted, hnobody]
            rfl
          · rw [hlast]
            decide +kernel

end ChangeRouting
