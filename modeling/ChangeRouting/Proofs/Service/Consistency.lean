import ChangeRouting.Proofs.Service.Once
import ChangeRouting.Proofs.Service.Sent

/-!
# ChangeRouting.Proofs.Service.Consistency

The tables of batches agree with one another and with the log, whatever happens to a store.

* `Store.Step`, `Store.Reaches` — rows are committed, and services run cycles, with any passes failing and
  any cycles taken back;
* `Consistent` — every event has a batch, every batch counts its events, and every watermark is the highest
  id routed on its channel;
* `Traced` — what the tables hold was stored batch by batch, and what the batches hold was read from the
  log;
* `consistent_of_reaches` — stores that had no batches stay consistent, and watermarks only move forward.
-/

namespace ChangeRouting

/-! ## runs -/

/-- What may happen to a store next. -/
inductive Store.Step (store : Store) : Store → Prop
  /-- A row is committed. -/
  | commit (row : ChangeRow) (after : Store) (h : store.insertChangeRow row = .ok after) :
    Step store after
  /-- A service runs a cycle.  Passes of it may fail, and the cycle may be taken back. -/
  | cycle (service after : Service) (circumstances : Circumstances) (disturbance : Disturbance)
    (result : Except Fault CycleReport) (left : Store)
    (h : service.cycleBy (service.disturbed circumstances.stalls disturbance) circumstances store =
      (result, after, left)) :
    Step store left

/-- The stores that steps lead to. -/
inductive Store.Reaches (start : Store) : Store → Prop
  | refl : Reaches start start
  | step {now next : Store} : Reaches start now → Store.Step now next → Reaches start next

/-- A cycle leads to the store it leaves, whatever becomes of it. -/
theorem Store.Reaches.cycle {start store : Store} (h : start.Reaches store) (service : Service)
    (circumstances : Circumstances) (disturbance : Disturbance) :
    start.Reaches (service.cycleBy (service.disturbed circumstances.stalls disturbance) circumstances
      store).2.2 :=
  .step h (.cycle service _ circumstances disturbance _ _ rfl)

/-- A store without batches: the tables are there and empty. -/
structure Store.Blank (store : Store) : Prop where
  batches : ∃ last, store.batches = some ⟨[], last⟩
  events : store.events = some []
  watermarks : store.watermarks = some []
  changes : ∃ log, store.changes = some log

/-! ## consistency -/

namespace Book

/-- The channel of a batch. -/
def channel? (book : Book) (batch : Int) : Option String :=
  (book.batches.rows.find? (·.batch.id = batch)).map (·.batch.channel)

/-- The events of a batch. -/
def membersOf (book : Book) (batch : Int) : List BatchEvent := book.events.filter (·.batch = batch)

/-- The ids in the batches of a channel. -/
def routedOn (book : Book) (channel : String) : List Int :=
  (book.events.filter fun event => book.channel? event.batch = some channel).map (·.change)

/-- The events of a stored batch are those of its items. -/
theorem Takes.membersOf_eq {book after : Book} {parcels : List Parcel} {parcel : Parcel}
    (h : book.Takes parcels after) (hissued : book.EventsIssued) (hparcel : parcel ∈ parcels) :
    after.membersOf parcel.id = parcel.events := by
  have hold : book.events.filter (·.batch = parcel.id) = [] := by
    rw [List.filter_eq_nil_iff]
    intro event hevent
    have hle := hissued event hevent
    have hlt := (h.issued parcel hparcel).1
    simp only [decide_eq_true_eq]
    omega
  rw [membersOf, h.events, List.filter_append, hold, List.nil_append, h.filter_events hparcel]

end Book

/-- The counts of a batch are those of these rows.  The sum of the bytes wraps around in a word of 64
bits. -/
structure Batch.Counts (batch : Batch) (rows : List ChangeRow) : Prop where
  events : batch.events = rows.length
  sum : batch.events = batch.inserts + batch.updates + batch.deletes + batch.others
  inserts : batch.inserts = rows.countP (·.event = EventKind.insert.code)
  updates : batch.updates = rows.countP (·.event = EventKind.update.code)
  deletes : batch.deletes = rows.countP (·.event = EventKind.delete.code)
  others : batch.others = rows.countP fun row =>
    row.event ∉ [EventKind.insert.code, EventKind.update.code, EventKind.delete.code]
  bytes : (rows.map ChangeRow.size).sum < 9223372036854775808 →
    batch.bytes = (rows.map ChangeRow.size).sum

/-- The tables of batches agree with one another and with the log. -/
structure Consistent (log : List ChangeRow) (book : Book) (marks : List (String × Int)) : Prop where
  /-- Every event has a batch. -/
  known : ∀ event ∈ book.events, ∃ row ∈ book.batches.rows, row.batch.id = event.batch
  /-- A batch counts the rows of the log that its events name. -/
  counted : ∀ row ∈ book.batches.rows, ∃ rows : List ChangeRow, (∀ change ∈ rows, change ∈ log) ∧
    (book.membersOf row.batch.id).map BatchEvent.change = rows.map ChangeRow.id ∧ row.batch.Counts rows
  /-- Only what goes nowhere is complete. -/
  status : ∀ row ∈ book.batches.rows, row.status =
    if row.batch.node = unroutedNode then BatchStatus.ok.code else BatchStatus.new.code
  /-- The watermark of a channel is the highest id in its batches. -/
  watermark : ∀ channel, marks.lookup channel = (book.routedOn channel).max?

/-- No watermark is lower than it was. -/
def Raised (marks later : List (String × Int)) : Prop :=
  ∀ channel id, marks.lookup channel = some id →
    ∃ higher, later.lookup channel = some higher ∧ id ≤ higher

/-! ## what a batch counts -/

section counts

variable {row : ChangeRow} {columns : PayloadColumns} {change : Change}

theorem code_of_ofCode {code : String} {kind : EventKind} (h : EventKind.ofCode code = .ok kind) :
    code = kind.code := by
  unfold EventKind.ofCode at h
  split at h <;> cases h <;> rfl

theorem code_injective {one other : EventKind} (h : one.code = other.code) : one = other := by
  cases one <;> cases other <;> first | rfl | exact absurd h (by decide)

/-- A change has the kind and the size of the row it was read from. -/
theorem event_of_read (h : row.read columns = .ok change) : row.event = change.event.code := by
  rw [ChangeRow.read] at h
  split at h
  · cases h
  · next kind hkind =>
    cases h
    exact code_of_ofCode hkind

theorem size_of_read (h : row.read columns = .ok change) : change.size = row.size := by
  rw [ChangeRow.read] at h
  split at h
  · cases h
  · cases h
    rfl

/-- Items were read from these rows, one by one. -/
def ReadFrom (rows : List ChangeRow) (items : List Item) : Prop :=
  List.Forall₂ (fun row item => ∃ columns, row.read columns = .ok (Item.change item)) rows items

variable {rows log : List ChangeRow} {items : List Item}

theorem exists_readFrom
    (h : ∀ item ∈ items, ∃ row ∈ log, ∃ columns, row.read columns = .ok item.change) :
    ∃ rows, (∀ row ∈ rows, row ∈ log) ∧ ReadFrom rows items := by
  induction items with
  | nil => exact ⟨[], fun _ hrow => (List.not_mem_nil hrow).elim, .nil⟩
  | cons item items ih =>
      obtain ⟨row, hrow, hread⟩ := h item List.mem_cons_self
      obtain ⟨rows, hrows, hreads⟩ := ih fun other hother => h other (List.mem_cons_of_mem _ hother)
      exact ⟨row :: rows, List.forall_mem_cons.2 ⟨hrow, hrows⟩, .cons hread hreads⟩

namespace ReadFrom

theorem ids (h : ReadFrom rows items) : items.map (·.change.id) = rows.map ChangeRow.id := by
  induction h with
  | nil => rfl
  | cons hread _ ih =>
      obtain ⟨columns, hread⟩ := hread
      rw [List.map_cons, List.map_cons, ih, id_of_read hread]

theorem sizes (h : ReadFrom rows items) : items.map (·.change.size) = rows.map ChangeRow.size := by
  induction h with
  | nil => rfl
  | cons hread _ ih =>
      obtain ⟨columns, hread⟩ := hread
      rw [List.map_cons, List.map_cons, ih, size_of_read hread]

/-- As many items have a kind of event as rows have its code. -/
theorem countP_eq (h : ReadFrom rows items) (p : EventKind → Bool) (q : String → Bool)
    (hpq : ∀ kind : EventKind, p kind = q kind.code) :
    items.countP (p ·.change.event) = rows.countP (q ·.event) := by
  induction h with
  | nil => rfl
  | cons hread _ ih =>
      obtain ⟨columns, hread⟩ := hread
      rw [List.countP_cons, List.countP_cons, ih, hpq, event_of_read hread]

/-- The kinds of events are told apart by their codes. -/
theorem countP_kind (h : ReadFrom rows items) (kind : EventKind) :
    items.countP (·.change.event = kind) = rows.countP (·.event = kind.code) :=
  h.countP_eq (· = kind) (· = kind.code) fun _ =>
    decide_eq_decide.2 ⟨congrArg EventKind.code, code_injective⟩

end ReadFrom

theorem countP_kinds (items : List Item) :
    items.length = items.countP (·.change.event = .insert) + items.countP (·.change.event = .update) +
      items.countP (·.change.event = .delete) +
        items.countP fun item => item.change.event ∉ [.insert, .update, .delete] := by
  induction items with
  | nil => rfl
  | cons item items ih =>
      simp only [List.length_cons, List.countP_cons, ih]
      cases item.change.event <;> simp <;> omega

/-- A stored batch counts the rows its items were read from. -/
theorem Parcel.counts {parcel : Parcel} (h : ReadFrom rows parcel.items) :
    parcel.row.batch.Counts rows := by
  have hbatch := @batch_packed parcel.node parcel.channel parcel.items
  have hevents : parcel.row.batch.events = parcel.items.length := congrArg Batch.events hbatch
  have hinserts : parcel.row.batch.inserts = parcel.items.countP (·.change.event = .insert) :=
    congrArg Batch.inserts hbatch
  have hupdates : parcel.row.batch.updates = parcel.items.countP (·.change.event = .update) :=
    congrArg Batch.updates hbatch
  have hdeletes : parcel.row.batch.deletes = parcel.items.countP (·.change.event = .delete) :=
    congrArg Batch.deletes hbatch
  have hothers : parcel.row.batch.others =
      parcel.items.countP fun item => item.change.event ∉ [.insert, .update, .delete] :=
    congrArg Batch.others hbatch
  have hbytes : parcel.row.batch.bytes = plainWord (parcel.items.map (·.change.size)).sum :=
    congrArg Batch.bytes hbatch
  constructor
  · rw [hevents]
    exact h.length_eq.symm
  · rw [hevents, hinserts, hupdates, hdeletes, hothers]
    exact countP_kinds parcel.items
  · rw [hinserts, h.countP_kind]
  · rw [hupdates, h.countP_kind]
  · rw [hdeletes, h.countP_kind]
  · rw [hothers]
    refine h.countP_eq (· ∉ [.insert, .update, .delete])
      (· ∉ [EventKind.insert.code, EventKind.update.code, EventKind.delete.code]) fun kind => ?_
    cases kind <;> decide
  · intro hsum
    rw [hbytes, h.sizes]
    refine plainWord_of_lt (Nat.lt_trans hsum ?_)
    rw [wordCount]
    omega

end counts

/-! ## watermarks -/

section watermarks

variable {parcels : List Parcel} {marks : List (String × Int)} {channel : String}

/-- The ids in the batches of a channel. -/
def idsOn (channel : String) (parcels : List Parcel) : List Int :=
  (parcels.filter (·.channel = channel)).flatMap fun parcel => parcel.items.map (·.change.id)

/-- The watermark of a channel moves up to the highest id in the batches that are stored. -/
theorem lookup_raisedBy_from (channel : String) (parcels : List Parcel) (marks : List (String × Int)) :
    (raisedBy parcels marks).lookup channel = (idsOn channel parcels).max?.elim (marks.lookup channel)
      fun top => some ((marks.lookup channel).elim top (max · top)) := by
  induction parcels using List.reverseRecOn with
  | nil => rfl
  | append_singleton parcels parcel ih =>
      have hids : idsOn channel (parcels ++ [parcel]) = idsOn channel parcels ++
          if parcel.channel = channel then parcel.items.map (·.change.id) else [] := by
        rw [idsOn, List.filter_append, List.flatMap_append, ← idsOn]
        by_cases hchannel : parcel.channel = channel <;> simp [hchannel]
      have hraised : raisedBy (parcels ++ [parcel]) marks = parcel.top.elim (raisedBy parcels marks)
          (Store.raise parcel.channel · (raisedBy parcels marks)) := by
        rw [raisedBy, List.foldl_append]
        rfl
      rw [hids, hraised]
      cases htop : parcel.top with
      | none =>
          rw [Parcel.top, List.max?_eq_none_iff] at htop
          rw [htop, ite_self, List.append_nil]
          exact ih
      | some top =>
          rw [Option.elim_some, Store.lookup_raise]
          by_cases hchannel : parcel.channel = channel
          · rw [if_pos hchannel.symm, if_pos hchannel, max?_append htop, hchannel, ih]
            cases (idsOn channel parcels).max? with
            | none => rfl
            | some other =>
                cases marks.lookup channel with
                | none => rfl
                | some id => exact congrArg some (Int.max_assoc id other top)
          · rw [if_neg (Ne.symm hchannel), if_neg hchannel, List.append_nil, ih]

/-- Without watermarks before, it is the highest id in the batches. -/
theorem lookup_raisedBy (channel : String) (parcels : List Parcel) :
    (raisedBy parcels []).lookup channel = (idsOn channel parcels).max? := by
  rw [lookup_raisedBy_from]
  cases (idsOn channel parcels).max? <;> rfl

/-- More batches only move watermarks up. -/
theorem raised_append (parcels more : List Parcel) :
    Raised (raisedBy parcels []) (raisedBy (parcels ++ more) []) := by
  intro channel id hid
  rw [lookup_raisedBy, List.max?_eq_some_iff] at hid
  rw [lookup_raisedBy, idsOn, List.filter_append, List.flatMap_append, ← idsOn, ← idsOn]
  cases hmore : (idsOn channel more).max? with
  | none =>
      rw [List.max?_eq_none_iff.1 hmore, List.append_nil]
      exact ⟨id, List.max?_eq_some_iff.2 hid, Int.le_refl _⟩
  | some top =>
      refine ⟨_, max?_append hmore, ?_⟩
      rw [List.max?_eq_some_iff.2 hid, Option.elim_some]
      omega

end watermarks

/-! ## where the tables come from -/

/-- What a store holds was stored batch by batch since it had no batches, and the items of the batches
were read from the log. -/
structure Traced (start : Store) (book : Book) (parcels : List Parcel) (log : Numbered ChangeRow)
    (store : Store) (later : Book) : Prop where
  stored : Stored start book parcels store later
  changes : store.changes = some log
  read : ∀ parcel ∈ parcels, ∀ item ∈ parcel.items,
    ∃ row ∈ log.rows, ∃ columns, row.read columns = .ok item.change

namespace Traced

variable {start store after : Store} {book later : Book} {parcels : List Parcel}
  {log : Numbered ChangeRow}

/-- A row that is committed leaves the batches alone. -/
theorem commit (h : Traced start book parcels log store later) {row : ChangeRow}
    (hinsert : store.insertChangeRow row = .ok after) :
    ∃ log, Traced start book parcels log after later := by
  obtain ⟨placed, hplace, rfl⟩ := insertChangeRow_eq_ok h.changes hinsert
  refine ⟨_, ⟨⟨h.stored.shows.batches, h.stored.shows.events⟩, h.stored.takes, h.stored.watermarks⟩, rfl,
    fun parcel hparcel item hitem => ?_⟩
  obtain ⟨row, hrow, hread⟩ := h.read parcel hparcel item hitem
  exact ⟨row, (placeChange_perm hplace).mem_iff.2 (List.mem_cons_of_mem _ hrow), hread⟩

/-- Whatever happens, batches are only added. -/
theorem step (h : Traced start book parcels log store later) (hstep : Store.Step store after) :
    ∃ more log later, Traced start book (parcels ++ more) log after later := by
  cases hstep with
  | commit row _ hinsert =>
      obtain ⟨log, hafter⟩ := h.commit hinsert
      refine ⟨[], log, later, ?_⟩
      rw [List.append_nil]
      exact hafter
  | cycle service served circumstances disturbance result _ hcycle =>
      cases result with
      | error fault =>
          obtain ⟨-, rfl⟩ := cycleBy_eq_error hcycle
          refine ⟨[], log, later, ?_⟩
          rw [List.append_nil]
          exact h
      | ok report =>
          obtain ⟨course, more, next, -, hstored, hlog, hsent⟩ := stored_of_cycle h.stored.shows hcycle
          rw [h.changes] at hlog hsent
          refine ⟨more, log, next, h.stored.trans hstored, hlog, fun parcel hparcel item hitem => ?_⟩
          rw [List.mem_append] at hparcel
          exact hparcel.elim (h.read parcel · item hitem) fun hnew => (hsent parcel hnew item hitem).logged

theorem reaches (h : Traced start book parcels log store later) (hreaches : Store.Reaches store after) :
    ∃ more log later, Traced start book (parcels ++ more) log after later := by
  induction hreaches with
  | refl =>
      refine ⟨[], log, later, ?_⟩
      rw [List.append_nil]
      exact h
  | step _ hstep ih =>
      obtain ⟨more, log, later, hnow⟩ := ih
      obtain ⟨others, log, later, hnext⟩ := hnow.step hstep
      refine ⟨more ++ others, log, later, ?_⟩
      rw [← List.append_assoc]
      exact hnext

/-- A store without batches. -/
theorem blank (h : start.Blank) :
    ∃ book log, book.batches.rows = [] ∧ book.events = [] ∧ Traced start book [] log start book := by
  obtain ⟨last, hbatches⟩ := h.batches
  obtain ⟨log, hlog⟩ := h.changes
  exact ⟨⟨⟨[], last⟩, []⟩, log, rfl, rfl, .refl ⟨hbatches, h.events⟩, hlog,
    fun _ hparcel => (List.not_mem_nil hparcel).elim⟩

/-- What was stored batch by batch, and read from the log, is consistent. -/
theorem consistent (h : Traced start book parcels log store later) (hrows : book.batches.rows = [])
    (hevents : book.events = []) : Consistent log.rows later (raisedBy parcels []) := by
  have htakes := h.stored.takes
  have hissued : book.Issued := by
    rw [Book.Issued, hrows]
    exact fun _ hrow => (List.not_mem_nil hrow).elim
  have hnone : book.EventsIssued := by
    rw [Book.EventsIssued, hevents]
    exact fun _ hevent => (List.not_mem_nil hevent).elim
  have hlaterRows : later.batches.rows = parcels.map Parcel.row := by
    rw [htakes.rows, hrows, List.nil_append]
  have hlaterEvents : later.events = parcels.flatMap Parcel.events := by
    rw [htakes.events, hevents, List.nil_append]
  constructor
  · intro event hevent
    rw [hlaterEvents] at hevent
    obtain ⟨parcel, hparcel, hevent⟩ := List.mem_flatMap.1 hevent
    refine ⟨parcel.row, ?_, (Parcel.batch_of_mem_events hevent).symm⟩
    rw [hlaterRows]
    exact List.mem_map_of_mem hparcel
  · intro row hrow
    rw [hlaterRows] at hrow
    obtain ⟨parcel, hparcel, rfl⟩ := List.mem_map.1 hrow
    obtain ⟨rows, hlogged, hread⟩ := exists_readFrom (h.read parcel hparcel)
    refine ⟨rows, hlogged, ?_, parcel.counts hread⟩
    rw [Parcel.row_id, htakes.membersOf_eq hnone hparcel, Parcel.events, List.map_map, ← hread.ids]
    rfl
  · intro row hrow
    rw [hlaterRows] at hrow
    obtain ⟨parcel, -, rfl⟩ := List.mem_map.1 hrow
    exact parcel.row_status
  · intro channel
    have hlabel : ∀ parcel ∈ parcels, ∀ event ∈ parcel.events,
        later.channel? event.batch = some parcel.channel := by
      intro parcel hparcel event hevent
      rw [Parcel.batch_of_mem_events hevent, Book.channel?, htakes.find?_eq hissued hparcel,
        Option.map_some, Parcel.row_channel]
    rw [lookup_raisedBy, Book.routedOn, hlaterEvents, filter_flatMap_key hlabel, List.map_flatMap, idsOn]
    simp only [Option.some.injEq, Parcel.events, List.map_map, Function.comp_def]

end Traced

/-- Whatever happens to a store that had no batches, its tables agree with one another and with the log,
and from then on no watermark goes down. -/
theorem consistent_of_reaches {start store : Store} (hstart : start.Blank) (h : start.Reaches store) :
    ∃ log book marks, store.changes = some log ∧ store.Shows book ∧ store.watermarks = some marks ∧
      Consistent log.rows book marks ∧
      ∀ next, store.Reaches next → ∃ later, next.watermarks = some later ∧ Raised marks later := by
  obtain ⟨book, log, hrows, hevents, hblank⟩ := Traced.blank hstart
  obtain ⟨parcels, log, later, htraced⟩ := hblank.reaches h
  rw [List.nil_append] at htraced
  have hmarks : ∀ {parcels log store later}, Traced start book parcels log store later →
      store.watermarks = some (raisedBy parcels []) := by
    intro parcels log store later htraced
    rw [htraced.stored.watermarks, hstart.watermarks, Option.map_some]
  refine ⟨log, later, raisedBy parcels [], htraced.changes, htraced.stored.shows, hmarks htraced,
    htraced.consistent hrows hevents, fun next hnext => ?_⟩
  obtain ⟨more, log, later, hmore⟩ := htraced.reaches hnext
  exact ⟨_, hmarks hmore, raised_append parcels more⟩

/-- Two rows are committed, and a cycle follows in which the pass on the prices breaks off. -/
theorem consistent_of_reaches_diskFull :
    ∃ log book marks, (shopStore [] []).Reaches shopRouted ∧ shopRouted.changes = some log ∧
      shopRouted.Shows book ∧ shopRouted.watermarks = some marks ∧ Consistent log.rows book marks ∧
      book.batches.rows.length = 1 ∧ marks.lookup "orders" = some 10 ∧ marks.lookup "prices" = none := by
  have hblank : (shopStore [] []).Blank := ⟨⟨0, rfl⟩, rfl, rfl, ⟨_, rfl⟩⟩
  let first : Store := { shopStore [] [] with changes := some ⟨[shopRow 10 "I" "orders"], 10⟩ }
  have hfirst : (shopStore [] []).Reaches first :=
    .step .refl (.commit (shopRow 10 "I" "orders") first (by decide))
  have hcommitted : (shopStore [] []).Reaches shopCommitted :=
    .step hfirst (.commit (shopRow 5 "I" "prices") shopCommitted (by decide))
  have hrouted : (shopStore [] []).Reaches shopRouted := hcommitted.cycle shopService calm diskFull
  obtain ⟨log, book, marks, hlog, hbook, hmarks, hconsistent, -⟩ :=
    consistent_of_reaches hblank hrouted
  refine ⟨log, book, marks, hrouted, hlog, hbook, hmarks, hconsistent, ?_, ?_⟩
  · have hone : shopRouted.batches.map (·.rows.length) = some 1 := by decide +kernel
    rw [hbook.batches] at hone
    exact Option.some.inj hone
  · have hten : shopRouted.watermarks = some [("orders", 10)] := by decide +kernel
    rw [hten] at hmarks
    cases hmarks
    exact ⟨rfl, rfl⟩

end ChangeRouting
