import ChangeRouting.Proofs.Batch.Ledger

/-!
# ChangeRouting.Proofs.Batch.Building

What building batches comes to.  A builder and its store stand for what was sent to each node: the
batches stored for the node and the open one are the segments of what it was sent.

* `Builds` — the builder stands for what was sent;
* `builds_append`, `builds_add` — sending a change adds it;
* `builds_finish` — in the end each node has its segments as stored batches;
* `built_of_build` — so it is with a whole stream of changes sent by a new builder.
-/

namespace ChangeRouting

/-- What was sent to one node. -/
def itemsFor (node : String) (sent : List (String × Item)) : List Item :=
  (sent.filter (·.1 = node)).map (·.2)

/-- The segments in which a channel stores the items of a node. -/
def Channel.segments (channel : Channel) (items : List Item) : List (List Item) :=
  ChangeRouting.segments channel.policy (max channel.batchSize 1) items

/-- Where a change is sent once the routers decided about it. -/
def sendingsOf (change : Change) (decisions : List Decision) : List (String × Item) :=
  (Builder.targets decisions).map fun target => (target.1, ⟨change, target.2⟩)

/-- What a change delivers once the routers decided about it. -/
def deliveriesOf (change : Change) (decisions : List Decision) : List Delivery :=
  (Builder.targets decisions).map fun target => ⟨change.id, some target.1, target.2⟩

theorem map_deliveryOf_sendingsOf (change : Change) (decisions : List Decision) :
    (sendingsOf change decisions).map deliveryOf = deliveriesOf change decisions := by
  rw [sendingsOf, deliveriesOf, List.map_map]
  rfl

/-! ## steps that succeed -/

section steps

variable {s t : Builder × Store} {node router : String} {change : Change}

/-- A change sent to a node begins a batch where none is open, joins the open one, or has that stored and
begins another. -/
theorem append_cases {u : Unit} (h : (Builder.append node router change).run.run s = (.ok u, t)) :
    s.1.open? node = none ∧ t = ((s.1.start node).record node router change, s.2) ∨
      ∃ batch, s.1.open? node = some batch ∧
        (s.1.cutsBefore change batch = false ∧ t = (s.1.record node router change, s.2) ∨
          s.1.cutsBefore change batch = true ∧ ∃ stored mid,
            (Builder.flush batch).run.run (s.1.withoutOpen node, s.2) = (.ok stored, mid) ∧
              t = ((mid.1.start node).record node router change, mid.2)) := by
  rw [Builder.append] at h
  obtain ⟨_, _, hget, h⟩ := run_bind_eq_ok.1 h
  cases hget
  cases hopen : s.1.open? node with
  | none =>
      simp only [hopen] at h
      obtain ⟨_, _, hstart, h⟩ := run_bind_eq_ok.1 h
      cases hstart
      cases h
      exact Or.inl ⟨rfl, rfl⟩
  | some batch =>
      simp only [hopen] at h
      cases hcut : s.1.cutsBefore change batch with
      | false =>
          simp only [hcut, Bool.false_eq_true, if_false] at h
          cases h
          exact Or.inr ⟨batch, rfl, Or.inl ⟨hcut, rfl⟩⟩
      | true =>
          simp only [hcut, if_true] at h
          obtain ⟨_, _, hwithout, h⟩ := run_bind_eq_ok.1 h
          cases hwithout
          obtain ⟨stored, mid, hflush, h⟩ := run_bind_eq_ok.1 h
          obtain ⟨_, _, hstart, h⟩ := run_bind_eq_ok.1 h
          cases hstart
          cases h
          exact Or.inr ⟨batch, rfl, Or.inr ⟨hcut, stored, mid, hflush, rfl⟩⟩

/-- A change is sent to its targets one after the other; if it goes nowhere, that is noted first. -/
theorem add_eq_ok {decisions : List Decision} {count : Nat}
    (h : (Builder.add change decisions).run.run s = (.ok count, t)) :
    ∃ u, ((Builder.targets decisions).forM fun target => Builder.append target.1 target.2 change).run.run
      ({ s.1 with report.unrouted :=
          s.1.report.unrouted + if Builder.isUnrouted decisions then 1 else 0 }, s.2) = (.ok u, t) := by
  rw [Builder.add] at h
  cases hnowhere : Builder.isUnrouted decisions with
  | true =>
      simp only [hnowhere, if_true] at h ⊢
      obtain ⟨_, _, hadjust, h⟩ := run_bind_eq_ok.1 h
      cases hadjust
      obtain ⟨u, _, hsend, h⟩ := run_bind_eq_ok.1 h
      cases h
      exact ⟨u, hsend⟩
  | false =>
      simp only [hnowhere, Bool.false_eq_true, if_false] at h ⊢
      obtain ⟨u, _, hsend, h⟩ := run_bind_eq_ok.1 h
      cases h
      exact ⟨u, hsend⟩

/-- At the end the open batches are stored one after the other. -/
theorem finish_eq_ok {report : BuildReport} (h : Builder.finish.run.run s = (.ok report, t)) :
    report = t.1.report ∧ ∃ u, (s.1.opened.forM fun entry => Builder.flush entry.2).run.run
      ({ s.1 with opened := [] }, s.2) = (.ok u, t) := by
  rw [Builder.finish] at h
  obtain ⟨_, _, hget, h⟩ := run_bind_eq_ok.1 h
  cases hget
  obtain ⟨_, _, hclose, h⟩ := run_bind_eq_ok.1 h
  cases hclose
  obtain ⟨u, _, hflush, h⟩ := run_bind_eq_ok.1 h
  obtain ⟨_, _, hget, h⟩ := run_bind_eq_ok.1 h
  cases hget
  cases h
  exact ⟨rfl, u, hflush⟩

end steps

/-! ## open batches -/

section opened

variable {opened : List (String × OpenBatch)} {node other : String} {batch : OpenBatch}

theorem find?_placeOpen :
    (Builder.placeOpen node batch opened).find? (·.1 = node) = some (node, batch) := by
  induction opened with
  | nil => simp [Builder.placeOpen]
  | cons entry rest ih =>
      rw [Builder.placeOpen]
      split
      · simp
      · split
        · simp
        · next hsame =>
          rw [List.find?_cons, decide_eq_false (Ne.symm hsame)]
          exact ih

theorem find?_placeOpen_of_ne (h : other ≠ node) :
    (Builder.placeOpen node batch opened).find? (·.1 = other) = opened.find? (·.1 = other) := by
  have hnot : decide (node = other) = false := decide_eq_false (Ne.symm h)
  induction opened with
  | nil => rw [Builder.placeOpen, List.find?_cons, hnot]
  | cons entry rest ih =>
      rw [Builder.placeOpen]
      split
      · rw [List.find?_cons, hnot]
      · split
        · next hsame => rw [List.find?_cons, List.find?_cons, ← hsame, hnot]
        · rw [List.find?_cons, List.find?_cons, ih]

theorem mem_placeOpen {entry : String × OpenBatch}
    (h : entry ∈ Builder.placeOpen node batch opened) : entry = (node, batch) ∨ entry ∈ opened := by
  induction opened with
  | nil => exact Or.inl (List.mem_singleton.1 h)
  | cons other rest ih =>
      rw [Builder.placeOpen] at h
      split at h
      · exact List.mem_cons.1 h
      · split at h
        · rw [List.mem_cons] at h
          exact h.imp id fun hmem => List.mem_cons_of_mem _ hmem
        · rw [List.mem_cons] at h
          cases h with
          | inl heq => exact Or.inr (heq ▸ List.mem_cons_self)
          | inr hmem => exact (ih hmem).imp id fun hrest => List.mem_cons_of_mem _ hrest

/-- Open batches stay in the order of their nodes. -/
theorem ascending_placeOpen (h : opened.Pairwise (·.1 < ·.1)) :
    (Builder.placeOpen node batch opened).Pairwise (·.1 < ·.1) := by
  induction opened with
  | nil => exact List.pairwise_singleton _ _
  | cons entry rest ih =>
      obtain ⟨hlt, hrest⟩ := List.pairwise_cons.1 h
      rw [Builder.placeOpen]
      split
      · next hbefore =>
        refine List.pairwise_cons.2 ⟨fun later hlater => ?_, h⟩
        rw [List.mem_cons] at hlater
        cases hlater with
        | inl heq => exact heq ▸ hbefore
        | inr hmem => exact String.lt_trans hbefore (hlt later hmem)
      · next hbefore =>
        split
        · next hsame =>
          exact List.pairwise_cons.2 ⟨fun later hlater => hsame ▸ hlt later hlater, hrest⟩
        · next hsame =>
          refine List.pairwise_cons.2 ⟨fun later hlater => ?_, ih hrest⟩
          cases mem_placeOpen hlater with
          | inl heq =>
              -- the node is neither before the other nor the same
              rw [heq]
              exact Decidable.byContradiction fun hnot =>
                hsame (String.le_antisymm (String.not_lt.1 hnot) (String.not_lt.1 hbefore))
          | inr hmem => exact hlt later hmem

/-- An open batch is the open batch of its node. -/
theorem find?_of_mem {entry : String × OpenBatch} (h : opened.Pairwise (·.1 < ·.1))
    (hentry : entry ∈ opened) : opened.find? (·.1 = entry.1) = some entry := by
  induction opened with
  | nil => exact (List.not_mem_nil hentry).elim
  | cons first rest ih =>
      obtain ⟨hlt, hrest⟩ := List.pairwise_cons.1 h
      rw [List.mem_cons] at hentry
      rw [List.find?_cons]
      cases hentry with
      | inl heq => rw [heq, decide_eq_true rfl]
      | inr hmem =>
          have hne : first.1 ≠ entry.1 := by
            intro heq
            have hself := hlt entry hmem
            rw [heq] at hself
            exact String.lt_irrefl _ hself
          rw [decide_eq_false hne]
          exact ih hrest hmem

namespace Builder

variable (builder : Builder)

theorem open?_withOpen :
    (builder.withOpen node batch).open? other =
      if other = node then some batch else builder.open? other := by
  rw [open?, withOpen]
  split
  · next hsame =>
    rw [hsame, find?_placeOpen]
    rfl
  · next hsame => rw [find?_placeOpen_of_ne hsame, open?]

theorem open?_withoutOpen :
    (builder.withoutOpen node).open? other = if other = node then none else builder.open? other := by
  rw [open?, withoutOpen, List.find?_filter]
  split
  · next hsame =>
    rw [Option.map_eq_none_iff, List.find?_eq_none]
    intro entry _ hboth
    simp [hsame] at hboth
  · next hsame =>
    rw [open?]
    congr 2
    funext entry
    by_cases hentry : entry.1 = other
    · simp [hentry, hsame]
    · simp [hentry]

theorem open?_start :
    (builder.start node).open? other =
      if other = node then some (packed node builder.channel []) else builder.open? other :=
  builder.open?_withOpen

theorem record_eq {builder : Builder} {router : String} {change : Change}
    (h : builder.open? node = some batch) :
    builder.record node router change =
      { builder.withOpen node (OpenBatch.append batch change router) with
        report := { builder.report with events := builder.report.events + 1 } } := by
  simp only [record, h]
  rfl

theorem open?_record {builder : Builder} {router : String} {change : Change}
    (h : builder.open? node = some batch) :
    (builder.record node router change).open? other =
      if other = node then some (OpenBatch.append batch change router) else builder.open? other := by
  rw [record_eq h]
  exact builder.open?_withOpen

/-- The builder builds the batches of a channel. -/
structure Serves (builder : Builder) (channel : Channel) : Prop where
  id : builder.channel = channel.id
  policy : builder.policy = channel.policy
  size : builder.size = max channel.batchSize 1

theorem Serves.record {builder : Builder} {channel : Channel} {router : String} {change : Change}
    (h : builder.Serves channel) (hopen : builder.open? node = some batch) :
    (builder.record node router change).Serves channel := by
  rw [record_eq hopen]
  exact ⟨h.id, h.policy, h.size⟩

theorem ascending_record {builder : Builder} {router : String} {change : Change}
    (h : builder.opened.Pairwise (·.1 < ·.1)) (hopen : builder.open? node = some batch) :
    (builder.record node router change).opened.Pairwise (·.1 < ·.1) := by
  rw [record_eq hopen]
  exact ascending_placeOpen h

end Builder

end opened

/-! ## the invariant -/

/-- Since a store was opened that shows a book, these items were sent to these nodes; the batches stored
since then and the open ones are the segments of what each node was sent. -/
structure Builds (channel : Channel) (before : Store) (book : Book) (sent : List (String × Item))
    (parcels : List Parcel) (s : Builder × Store) : Prop where
  serves : s.1.Serves channel
  ascending : s.1.opened.Pairwise (·.1 < ·.1)
  opened : ∀ node, s.1.open? node =
    (channel.segments (itemsFor node sent)).getLast?.map (packed node channel.id)
  stored : ∃ later, Stored before book parcels s.2 later
  closed : ∀ node, (parcels.filter (·.node = node)).map Parcel.items =
    (channel.segments (itemsFor node sent)).dropLast
  labelled : ∀ parcel ∈ parcels, parcel.channel = channel.id

section builds

variable {channel : Channel} {before : Store} {book : Book} {sent : List (String × Item)}
  {parcels : List Parcel} {s t : Builder × Store} {node other router : String} {change : Change}
  {items : List Item} {item : Item} {u : Unit}

theorem itemsFor_append (node : String) (sent more : List (String × Item)) :
    itemsFor node (sent ++ more) = itemsFor node sent ++ itemsFor node more := by
  rw [itemsFor, List.filter_append, List.map_append]
  rfl

theorem mem_itemsFor : item ∈ itemsFor node sent ↔ (node, item) ∈ sent := by
  rw [itemsFor, List.mem_map]
  constructor
  · rintro ⟨sending, hsending, rfl⟩
    obtain ⟨hmem, hnode⟩ := List.mem_filter.1 hsending
    rw [← of_decide_eq_true hnode]
    exact hmem
  · exact fun hmem => ⟨(node, item), List.mem_filter.2 ⟨hmem, decide_eq_true rfl⟩, rfl⟩

theorem itemsFor_concat :
    itemsFor other (sent ++ [(node, item)]) =
      if other = node then itemsFor other sent ++ [item] else itemsFor other sent := by
  rw [itemsFor_append, itemsFor, itemsFor]
  split
  · next hsame => simp [hsame]
  · next hsame => simp [Ne.symm hsame]

theorem Channel.segments_concat (items : List Item) (item : Item) :
    channel.segments (items ++ [item]) =
      extend channel.policy (max channel.batchSize 1) (channel.segments items) item :=
  ChangeRouting.segments_concat items item

namespace Builds

/-- A new builder. -/
theorem new (hbook : before.Shows book) :
    Builds channel before book [] [] (.new channel, before) where
  serves := ⟨rfl, rfl, rfl⟩
  ascending := List.Pairwise.nil
  opened := fun _ => rfl
  stored := ⟨book, .refl hbook⟩
  closed := fun _ => rfl
  labelled := fun _ h => (List.not_mem_nil h).elim

/-- What is reported does not matter. -/
theorem of_report (h : Builds channel before book sent parcels s) (report : BuildReport) :
    Builds channel before book sent parcels ({ s.1 with report := report }, s.2) :=
  ⟨⟨h.serves.id, h.serves.policy, h.serves.size⟩, h.ascending, h.opened, h.stored, h.closed, h.labelled⟩

/-- One more item was sent to a node: it ends the last segment there, and the segments before that one
are stored. -/
theorem send {more : List Parcel} (h : Builds channel before book sent parcels s)
    (runs : List (List Item)) (last : List Item) (hserves : t.1.Serves channel)
    (hascending : t.1.opened.Pairwise (·.1 < ·.1))
    (hopened : ∀ other, t.1.open? other =
      if other = node then some (packed node channel.id last) else s.1.open? other)
    (hstored : ∃ later, Stored before book (parcels ++ more) t.2 later)
    (hsegments : extend channel.policy (max channel.batchSize 1)
      (channel.segments (itemsFor node sent)) item = runs ++ [last])
    (hclosed : (channel.segments (itemsFor node sent)).dropLast ++ more.map Parcel.items = runs)
    (hmore : ∀ parcel ∈ more, parcel.node = node ∧ parcel.channel = channel.id) :
    Builds channel before book (sent ++ [(node, item)]) (parcels ++ more) t where
  serves := hserves
  ascending := hascending
  opened := by
    intro other
    rw [hopened, itemsFor_concat]
    split
    · next hsame =>
      rw [hsame, Channel.segments_concat, hsegments, List.getLast?_concat]
      rfl
    · exact h.opened other
  stored := hstored
  closed := by
    intro other
    rw [itemsFor_concat, List.filter_append, List.map_append, h.closed]
    split
    · next hsame =>
      have hall : more.filter (·.node = other) = more :=
        List.filter_eq_self.2 fun parcel hparcel =>
          decide_eq_true ((hmore parcel hparcel).1.trans hsame.symm)
      rw [hall, hsame, Channel.segments_concat, hsegments, List.dropLast_concat, hclosed]
    · next hsame =>
      have hnone : more.filter (·.node = other) = [] := by
        rw [List.filter_eq_nil_iff]
        intro parcel hparcel
        simp [(hmore parcel hparcel).1, Ne.symm hsame]
      rw [hnone, List.map_nil, List.append_nil]
  labelled := by
    intro parcel hparcel
    rw [List.mem_append] at hparcel
    exact hparcel.elim (h.labelled parcel) fun hmem => (hmore parcel hmem).2

/-- The builder cuts where the segments are cut. -/
theorem cutsBefore (h : Builds channel before book sent parcels s) :
    s.1.cutsBefore change (packed node channel.id items) =
      cutAfter channel.policy (max channel.batchSize 1) items change := by
  rw [Builder.cutsBefore, h.serves.policy, h.serves.size, members_packed, last_packed,
    List.length_map, cutAfter]

/-- The open batch of a node holds the last segment of what it was sent. -/
theorem of_open? {batch : OpenBatch} (h : Builds channel before book sent parcels s)
    (hopen : s.1.open? node = some batch) :
    ∃ runs last, channel.segments (itemsFor node sent) = runs ++ [last] ∧ last ≠ [] ∧
      batch = packed node channel.id last := by
  have hbatch := h.opened node
  rw [hopen] at hbatch
  obtain ⟨last, hlast, rfl⟩ := Option.map_eq_some_iff.1 hbatch.symm
  have hmem : last ∈ channel.segments (itemsFor node sent) := List.mem_of_getLast? hlast
  exact ⟨_, last, (List.dropLast_append_getLast? last hlast).symm, ne_nil_of_mem_segments hmem, rfl⟩

/-- A node without an open batch was sent nothing. -/
theorem of_open?_none (h : Builds channel before book sent parcels s)
    (hopen : s.1.open? node = none) : channel.segments (itemsFor node sent) = [] := by
  have hlast := h.opened node
  rw [hopen] at hlast
  exact List.getLast?_eq_none_iff.1 (Option.map_eq_none_iff.1 hlast.symm)

/-- A change begins a batch of its node, where no batch is open any more. -/
theorem begin {mid : Builder × Store} {more : List Parcel}
    (h : Builds channel before book sent parcels s) (hserves : mid.1.Serves channel)
    (hascending : mid.1.opened.Pairwise (·.1 < ·.1))
    (hopened : ∀ other, other ≠ node → mid.1.open? other = s.1.open? other)
    (hstored : ∃ later, Stored before book (parcels ++ more) mid.2 later)
    (hsegments : extend channel.policy (max channel.batchSize 1)
      (channel.segments (itemsFor node sent)) ⟨change, router⟩ =
        channel.segments (itemsFor node sent) ++ [[⟨change, router⟩]])
    (hclosed : (channel.segments (itemsFor node sent)).dropLast ++ more.map Parcel.items =
      channel.segments (itemsFor node sent))
    (hmore : ∀ parcel ∈ more, parcel.node = node ∧ parcel.channel = channel.id) :
    Builds channel before book (sent ++ [(node, ⟨change, router⟩)]) (parcels ++ more)
      ((mid.1.start node).record node router change, mid.2) := by
  have hstart : (mid.1.start node).open? node = some (packed node channel.id []) := by
    rw [Builder.open?_start, if_pos rfl, hserves.id]
  refine h.send _ [⟨change, router⟩] ?_ ?_ (fun other => ?_) hstored hsegments hclosed hmore
  · exact Builder.Serves.record ⟨hserves.id, hserves.policy, hserves.size⟩ hstart
  · exact Builder.ascending_record (ascending_placeOpen hascending) hstart
  · rw [Builder.open?_record hstart, Builder.open?_start]
    split
    · rfl
    · next hother => exact hopened other hother

/-- A change joins the open batch of its node. -/
theorem join {runs : List (List Item)} {last : List Item}
    (h : Builds channel before book sent parcels s)
    (hopen : s.1.open? node = some (packed node channel.id last))
    (hruns : channel.segments (itemsFor node sent) = runs ++ [last])
    (hcut : cutAfter channel.policy (max channel.batchSize 1) last change = false) :
    Builds channel before book (sent ++ [(node, ⟨change, router⟩)]) (parcels ++ [])
      (s.1.record node router change, s.2) := by
  refine h.send runs (last ++ [⟨change, router⟩]) (h.serves.record hopen)
    (Builder.ascending_record h.ascending hopen) (fun other => ?_) ?_ ?_ ?_
    fun _ hmem => (List.not_mem_nil hmem).elim
  · rw [Builder.open?_record hopen, packed_concat]
  · rw [List.append_nil]
    exact h.stored
  · rw [hruns]
    exact extend_of_not_cut hcut
  · rw [hruns, List.dropLast_concat]
    exact List.append_nil _

end Builds

/-- A change sent to a node joins its open batch or begins another. -/
theorem builds_append (h : Builds channel before book sent parcels s)
    (hrun : (Builder.append node router change).run.run s = (.ok u, t)) :
    ∃ more, Builds channel before book (sent ++ [(node, ⟨change, router⟩)]) (parcels ++ more) t := by
  obtain ⟨hopen, rfl⟩ | ⟨batch, hopen, hcases⟩ := append_cases hrun
  · have hnone := h.of_open?_none hopen
    refine ⟨[], h.begin h.serves h.ascending (fun _ _ => rfl) ?_ ?_ ?_
      fun _ hmem => (List.not_mem_nil hmem).elim⟩
    · rw [List.append_nil]
      exact h.stored
    · rw [hnone]
      rfl
    · rw [hnone]
      rfl
  · obtain ⟨runs, last, hruns, hne, rfl⟩ := h.of_open? hopen
    rw [h.cutsBefore] at hcases
    obtain ⟨hcut, rfl⟩ | ⟨hcut, _, mid, hflush, rfl⟩ := hcases
    · exact ⟨[], h.join hopen hruns hcut⟩
    · -- the open batch is stored as it is, and the change begins another
      obtain ⟨later, hlater⟩ := h.stored
      rw [← show (s.1.withoutOpen node).channel = channel.id from h.serves.id] at hflush
      obtain ⟨⟨report, hmid⟩, final, hfinal⟩ :=
        flush_eq_ok (s := (s.1.withoutOpen node, s.2)) hlater.shows hne hflush
      rw [show (s.1.withoutOpen node).channel = channel.id from h.serves.id] at hfinal
      refine ⟨[⟨later.batches.lastId + 1, node, channel.id, last⟩],
        h.begin ?_ ?_ (fun other hother => ?_) ⟨final, hlater.trans hfinal⟩ ?_ ?_ ?_⟩
      · rw [hmid]
        exact ⟨h.serves.id, h.serves.policy, h.serves.size⟩
      · rw [hmid]
        exact h.ascending.filter _
      · rw [hmid]
        exact (s.1.open?_withoutOpen).trans (if_neg hother)
      · rw [hruns]
        exact extend_of_cut hcut
      · rw [hruns, List.dropLast_concat]
        rfl
      · intro parcel hparcel
        rw [List.mem_singleton] at hparcel
        subst hparcel
        exact ⟨rfl, rfl⟩

theorem builds_forM_append {targets : List (String × String)} {u : PUnit}
    (h : Builds channel before book sent parcels s)
    (hrun : (targets.forM fun target => Builder.append target.1 target.2 change).run.run s =
      (.ok u, t)) :
    ∃ more, Builds channel before book
      (sent ++ targets.map fun target => (target.1, ⟨change, target.2⟩)) (parcels ++ more) t := by
  refine run_forM_eq_ok (motive := fun done s => ∃ more, Builds channel before book
    (sent ++ done.map fun target => (target.1, ⟨change, target.2⟩)) (parcels ++ more) s) ?_ ?_ hrun
  · exact ⟨[], by simpa using h⟩
  · intro done target mid next _ hmid happend
    obtain ⟨more, hmid⟩ := hmid
    obtain ⟨stored, hnext⟩ := builds_append hmid happend
    exact ⟨more ++ stored, by simpa using hnext⟩

/-- A change is sent where the routers decided. -/
theorem builds_add {decisions : List Decision} {count : Nat}
    (h : Builds channel before book sent parcels s)
    (hrun : (Builder.add change decisions).run.run s = (.ok count, t)) :
    ∃ more, Builds channel before book (sent ++ sendingsOf change decisions) (parcels ++ more) t := by
  obtain ⟨_, hsend⟩ := add_eq_ok hrun
  exact builds_forM_append (h.of_report _) hsend

end builds

/-! ## the end -/

/-- These items were sent to these nodes, and each node has the segments of what it was sent as stored
batches. -/
structure Built (channel : Channel) (before : Store) (book : Book) (sent : List (String × Item))
    (parcels : List Parcel) (after : Store) (later : Book) : Prop where
  stored : Stored before book parcels after later
  closed : ∀ node, (parcels.filter (·.node = node)).map Parcel.items =
    channel.segments (itemsFor node sent)
  labelled : ∀ parcel ∈ parcels, parcel.channel = channel.id

section finish

variable {channel : Channel} {before after : Store} {book later : Book} {sent : List (String × Item)}
  {parcels : List Parcel} {s t : Builder × Store}

/-- Open batches are stored one after the other. -/
theorem flushes_eq_ok {opened : List (String × OpenBatch)} {u : PUnit}
    (lasts : String → Option (List Item)) (hbook : s.2.Shows book)
    (hopened : ∀ entry ∈ opened, ∃ last, lasts entry.1 = some last ∧ last ≠ [] ∧
      entry.2 = packed entry.1 s.1.channel last)
    (hrun : (opened.forM fun entry => Builder.flush entry.2).run.run s = (.ok u, t)) :
    ∃ parcels later, Stored s.2 book parcels t.2 later ∧
      parcels.map Parcel.node = opened.map Prod.fst ∧
      ∀ parcel ∈ parcels, lasts parcel.node = some parcel.items ∧ parcel.channel = s.1.channel := by
  induction opened generalizing s book with
  | nil =>
      cases hrun
      exact ⟨[], book, .refl hbook, rfl, fun _ h => (List.not_mem_nil h).elim⟩
  | cons entry opened ih =>
      obtain ⟨_, mid, hflush, hrest⟩ := run_bind_eq_ok.1 hrun
      obtain ⟨last, hlast, hne, hentry⟩ := hopened entry List.mem_cons_self
      simp only [hentry] at hflush
      obtain ⟨⟨report, hmid⟩, middle, hfirst⟩ := flush_eq_ok hbook hne hflush
      have hchannel : mid.1.channel = s.1.channel := by rw [hmid]
      have hothers : ∀ other ∈ opened, ∃ last, lasts other.1 = some last ∧ last ≠ [] ∧
          other.2 = packed other.1 mid.1.channel last := by
        rw [hchannel]
        exact fun other hother => hopened other (List.mem_cons_of_mem _ hother)
      obtain ⟨parcels, later, hstored, hnodes, hparcels⟩ := ih hfirst.shows hothers hrest
      refine ⟨_ :: parcels, later, hfirst.trans hstored, ?_, ?_⟩
      · rw [List.map_cons, List.map_cons, hnodes]
      · intro parcel hparcel
        rw [List.mem_cons] at hparcel
        cases hparcel with
        | inl heq => exact heq ▸ ⟨hlast, rfl⟩
        | inr hmem => exact hchannel ▸ hparcels parcel hmem

/-- Together the batches stored before and the open ones are the segments of what a node was sent. -/
theorem Builds.closed_append {more : List Parcel} (h : Builds channel before book sent parcels s)
    (hnodes : more.map Parcel.node = s.1.opened.map Prod.fst)
    (hmore : ∀ parcel ∈ more,
      (channel.segments (itemsFor parcel.node sent)).getLast? = some parcel.items) (node : String) :
    ((parcels ++ more).filter (·.node = node)).map Parcel.items =
      channel.segments (itemsFor node sent) := by
  rw [List.filter_append, List.map_append, h.closed]
  cases hlast : (channel.segments (itemsFor node sent)).getLast? with
  | none =>
      have hnone : more.filter (·.node = node) = [] := by
        rw [List.filter_eq_nil_iff]
        intro parcel hparcel hnode
        rw [← of_decide_eq_true hnode, hmore parcel hparcel] at hlast
        contradiction
      rw [hnone, List.getLast?_eq_none_iff.1 hlast]
      rfl
  | some last =>
      -- the node has an open batch, and one of the batches stored last is that
      have hbatch := h.opened node
      rw [hlast, Builder.open?, Option.map_some, Option.map_eq_some_iff] at hbatch
      obtain ⟨entry, hfind, -⟩ := hbatch
      have hentry : entry.1 = node := of_decide_eq_true (List.find?_some hfind :)
      have hnode : node ∈ more.map Parcel.node :=
        hnodes ▸ hentry ▸ List.mem_map_of_mem (List.mem_of_find?_eq_some hfind)
      obtain ⟨parcel, hparcel, rfl⟩ := List.mem_map.1 hnode
      have hnodup : (more.map Parcel.node).Nodup := by
        rw [hnodes]
        exact List.pairwise_map.2 (h.ascending.imp String.ne_of_lt)
      have hitems := hmore parcel hparcel
      rw [hlast] at hitems
      cases hitems
      rw [filter_key_eq hnodup hparcel]
      exact List.dropLast_append_getLast? _ hlast

/-- At the end the open batches are stored, and with them everything that was sent. -/
theorem builds_finish {report : BuildReport} (h : Builds channel before book sent parcels s)
    (hrun : Builder.finish.run.run s = (.ok report, t)) :
    ∃ more later, Built channel before book sent (parcels ++ more) t.2 later := by
  obtain ⟨-, _, hflush⟩ := finish_eq_ok hrun
  obtain ⟨middle, hmiddle⟩ := h.stored
  have hopen : ∀ entry ∈ s.1.opened, s.1.open? entry.1 = some entry.2 := by
    intro entry hentry
    rw [Builder.open?, find?_of_mem h.ascending hentry]
    rfl
  have hopened : ∀ entry ∈ s.1.opened, ∃ last,
      (channel.segments (itemsFor entry.1 sent)).getLast? = some last ∧ last ≠ [] ∧
        entry.2 = packed entry.1 s.1.channel last := by
    intro entry hentry
    obtain ⟨runs, last, hruns, hne, hbatch⟩ := h.of_open? (hopen entry hentry)
    exact ⟨last, by rw [hruns, List.getLast?_concat], hne, h.serves.id ▸ hbatch⟩
  obtain ⟨more, later, hstored, hnodes, hmore⟩ :=
    flushes_eq_ok (s := ({ s.1 with opened := [] }, s.2))
      (fun node => (channel.segments (itemsFor node sent)).getLast?) hmiddle.shows hopened hflush
  refine ⟨more, later, hmiddle.trans hstored,
    h.closed_append hnodes fun parcel hparcel => (hmore parcel hparcel).1, fun parcel hparcel => ?_⟩
  rw [List.mem_append] at hparcel
  exact hparcel.elim (h.labelled parcel) fun hmem => (hmore parcel hmem).2.trans h.serves.id

namespace Built

/-- A stored batch is one of the segments that its node is sent. -/
theorem items_mem_segments (h : Built channel before book sent parcels after later) {parcel : Parcel}
    (hparcel : parcel ∈ parcels) : parcel.items ∈ channel.segments (itemsFor parcel.node sent) := by
  rw [← h.closed]
  exact List.mem_map_of_mem (List.mem_filter.2 ⟨hparcel, decide_eq_true rfl⟩)

/-- No stored batch is empty. -/
theorem items_ne_nil (h : Built channel before book sent parcels after later) {parcel : Parcel}
    (hparcel : parcel ∈ parcels) : parcel.items ≠ [] :=
  ne_nil_of_mem_segments (h.items_mem_segments hparcel)

end Built

/-- What is the same for every key is the same up to its order. -/
theorem perm_of_filter_eq [DecidableEq κ] (key : α → κ) {xs ys : List α}
    (h : ∀ k, xs.filter (key · = k) = ys.filter (key · = k)) : xs.Perm ys := by
  classical
  refine List.perm_iff_count.2 fun a => ?_
  have hself : ∀ zs : List α, (zs.filter (key · = key a)).count a = zs.count a :=
    fun zs => List.count_filter (p := (key · = key a)) (decide_eq_true rfl)
  rw [← hself xs, ← hself ys, h]

/-- What batches send to a node is what the batches of the node hold. -/
theorem filter_sent (parcels : List Parcel) (node : String) :
    (parcels.flatMap Parcel.sent).filter (·.1 = node) =
      ((parcels.filter (·.node = node)).flatMap Parcel.items).map (node, ·) := by
  have hlabel : ∀ parcel ∈ parcels, ∀ sending ∈ parcel.sent, sending.1 = parcel.node := by
    intro parcel _ sending hsending
    obtain ⟨item, -, rfl⟩ := List.mem_map.1 hsending
    rfl
  rw [filter_flatMap_key hlabel, List.map_flatMap]
  refine List.flatMap_congr fun parcel hparcel => ?_
  rw [Parcel.sent, of_decide_eq_true (List.mem_filter.1 hparcel).2]

/-- What was stored is what was sent. -/
theorem Built.perm (h : Built channel before book sent parcels after later) :
    (parcels.flatMap Parcel.sent).Perm sent := by
  refine perm_of_filter_eq Prod.fst fun node => ?_
  rw [filter_sent, List.flatMap_def, h.closed, Channel.segments, flatten_segments, itemsFor,
    List.map_map]
  -- an item sent to the node is sent to the node
  refine (List.map_congr_left fun sending hsending => ?_).trans (List.map_id _)
  have hnode : sending.1 = node := of_decide_eq_true (List.mem_filter.1 hsending).2
  rw [← hnode]
  rfl

/-- A node was sent what its batches hold. -/
theorem Built.mem_sent (h : Built channel before book sent parcels after later) {node : String}
    {item : Item} :
    (node, item) ∈ sent ↔ ∃ parcel ∈ parcels, parcel.node = node ∧ item ∈ parcel.items := by
  rw [← h.perm.mem_iff, List.mem_flatMap]
  constructor
  · rintro ⟨parcel, hparcel, hsent⟩
    obtain ⟨other, hother, heq⟩ := List.mem_map.1 hsent
    cases heq
    exact ⟨parcel, hparcel, rfl, hother⟩
  · rintro ⟨parcel, hparcel, rfl, hitem⟩
    exact ⟨parcel, hparcel, List.mem_map_of_mem hitem⟩

end finish

/-! ## a whole stream -/

/-- Send changes one after the other where routers decided, and store what is open at the end. -/
def Builder.build (stream : List (Change × List Decision)) : Building BuildReport := do
  stream.forM fun (change, decisions) => discard (Builder.add change decisions)
  Builder.finish

/-- What a stream of decided changes sends. -/
def sentBy (stream : List (Change × List Decision)) : List (String × Item) :=
  stream.flatMap fun (change, decisions) => sendingsOf change decisions

section stream

variable {channel : Channel} {before : Store} {book : Book} {sent : List (String × Item)}
  {parcels : List Parcel} {stream : List (Change × List Decision)} {s t : Builder × Store}

/-- A stream is sent change by change. -/
theorem builds_adds {u : PUnit} (h : Builds channel before book sent parcels s)
    (hrun : (stream.forM fun (change, decisions) => discard (Builder.add change decisions)).run.run s =
      (.ok u, t)) :
    ∃ more, Builds channel before book (sent ++ sentBy stream) (parcels ++ more) t := by
  refine run_forM_eq_ok (motive := fun done s => ∃ more, Builds channel before book
    (sent ++ sentBy done) (parcels ++ more) s) ?_ ?_ hrun
  · exact ⟨[], by simpa [sentBy] using h⟩
  · intro done entry mid next _ hmid hdone
    obtain ⟨more, hmid⟩ := hmid
    obtain ⟨count, _, hadd, hdone⟩ := run_bind_eq_ok.1 hdone
    cases hdone
    obtain ⟨stored, hnext⟩ := builds_add hmid hadd
    exact ⟨more ++ stored, by simpa [sentBy] using hnext⟩

/-- What a stream sends is stored in the segments of each node. -/
theorem built_of_build {report : BuildReport} (hbook : before.Shows book)
    (hrun : (Builder.build stream).run.run (.new channel, before) = (.ok report, t)) :
    ∃ parcels later, Built channel before book (sentBy stream) parcels t.2 later := by
  obtain ⟨_, mid, hadds, hfinish⟩ := run_bind_eq_ok.1 hrun
  obtain ⟨more, hmid⟩ := builds_adds (.new hbook) hadds
  obtain ⟨others, later, hbuilt⟩ := builds_finish hmid hfinish
  exact ⟨_, later, hbuilt⟩

end stream

end ChangeRouting
