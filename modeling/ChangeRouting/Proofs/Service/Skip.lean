import ChangeRouting.Proofs.Service.Capture

/-!
# ChangeRouting.Proofs.Service.Skip

When a gap is given up too early.

* `Capture.Misjudged` — an empty gap in which an open transaction captured a row, behind a row that was
  captured clearly before the oldest open transaction began;
* `skips_awaited_iff_misjudged` — these are the gaps a cycle gives up too early, and rows are lost in them
  only;
* `skips_awaited_gap` — there are such gaps.
-/

namespace ChangeRouting

/-- A gap that looks as if nothing could come into it any more, although an open transaction captured a row
in it: the oldest transaction that was seen began clearly after the row just below the gap was captured. -/
structure Capture.Misjudged (capture : Capture) (log : List ChangeRow) (gap : Gap) : Prop where
  closed : gap.isOpen = false
  empty : ∀ row ∈ log, ¬Holds gap.range row.id
  awaited : capture.Awaits gap.range
  overtaken : ∃ earliest, capture.seen = some (.known (some earliest)) ∧
    ∃ row ∈ log, row.id = gap.start - 1 ∧ Millis.ofStored row.createTime + edgeGrace ≤ earliest

/-! ## the row below a gap -/

section below

variable {on : Grounds} {gap : Gap} {earliest : Millis}

theorem below_eq_of_mem (hvisibility : on.visibility = .known (some earliest))
    (hlog : ProperLog on.log.rows) {row : ChangeRow} (hrow : row ∈ on.log.rows) (hpos : 0 < row.id)
    (hid : row.id = gap.start - 1) : on.below gap = some (Millis.ofStored row.createTime) := by
  have hstart : 0 < gap.start := by omega
  have hfind : on.log.rows.find? (·.id = gap.start - 1) = some row := by
    cases hfound : on.log.rows.find? (·.id = gap.start - 1) with
    | none => exact absurd (decide_eq_true hid) (List.find?_eq_none.1 hfound row hrow)
    | some other =>
        have hsame := List.find?_some hfound
        rw [hlog.eq_of_id (List.mem_of_find?_eq_some hfound) hrow
          ((of_decide_eq_true hsame).trans hid.symm)]
  simp only [Grounds.below, hvisibility, hstart, if_true, hfind, Option.map_some]

theorem exists_of_below (hvisibility : on.visibility = .known (some earliest)) {time : Millis}
    (h : on.below gap = some time) :
    ∃ row ∈ on.log.rows, row.id = gap.start - 1 ∧ Millis.ofStored row.createTime = time := by
  simp only [Grounds.below, hvisibility] at h
  split at h
  · rw [Option.map_eq_some_iff] at h
    obtain ⟨row, hfound, htime⟩ := h
    have hid := List.find?_some hfound
    exact ⟨row, List.mem_of_find?_eq_some hfound, of_decide_eq_true hid, htime⟩
  · contradiction

theorem givesUp_iff (hvisibility : on.visibility = .known (some earliest)) :
    on.givesUp gap = true ↔ (on.below gap).getD gap.createTime + edgeGrace ≤ earliest := by
  rw [Grounds.givesUp, hvisibility, Visibility.givesUp, decide_eq_true_eq]

end below

/-! ## gaps given up too early -/

section skips

variable {service : Service} {capture : Capture} {rows : List GapRow} {log : Numbered ChangeRow}
  {book : Book} {circumstances : Circumstances} {disturbance : Disturbance} {report : CycleReport}
  {after : Service} {left : Store} {gap : Gap}

/-- What is known of a closed gap in which an open transaction captured a row: the oldest transaction that
was seen began no later than that transaction, and the gap came into the table after the row. -/
theorem Timely.exists_earliest (h : Timely capture rows log.rows) {before : List GapRow}
    (hloaded : Loaded circumstances.now rows before) (hseen : capture.seen = some circumstances.visibility)
    (hgap : gap ∈ activeIn before) (hclosed : gap.isOpen = false) {began : Millis} {row : ChangeRow}
    (hopen : capture.Uncommitted began row) (hin : Holds gap.range row.id) :
    ∃ earliest, circumstances.visibility = .known (some earliest) ∧ earliest ≤ gap.createTime := by
  obtain ⟨earliest, hknown, hheeds⟩ := h.seen _ hseen
  obtain ⟨found, hfound, -, rfl⟩ := mem_activeIn.1 hgap
  have hstop : found.range.2 ≠ openEnd := of_decide_eq_false hclosed
  have hfollows : Dated capture.Follows before :=
    hloaded.dated h.dated fun _ _ hend hne => absurd hend hne
  have hheeded : Dated (fun range _ => capture.Heeds earliest range) before :=
    hloaded.dated hheeds fun _ _ hend hne => absurd hend hne
  obtain ⟨time, rfl, hle⟩ := hheeded found hfound hstop began row hopen hin.2
  have hyoung := (hfollows found hfound hstop).2 began row hopen hin.2
  have hbegan := (h.uncommitted began row hopen).2.2.1
  exact ⟨time, hknown, Int.le_trans hle (Int.le_trans hbegan hyoung)⟩

/-- A cycle gives up a gap in which an open transaction captured a row exactly if it misjudges it. -/
theorem Timely.skips_iff (hsound : Sound service capture.world rows log book)
    (h : Timely capture rows log.rows) (hseen : capture.seen = some circumstances.visibility)
    (hcommit : capture.world.service.cycleBy
      (capture.world.service.disturbed circumstances.stalls disturbance) circumstances
      capture.world.store = (.ok report, after, left))
    (hgap : gap ∈ (capture.world.course circumstances disturbance).gaps) :
    (gap.range ∈ capture.world.service.skips circumstances
        (capture.world.course circumstances disturbance) ∧ capture.Awaits gap.range) ↔
      capture.Misjudged log.rows gap := by
  obtain ⟨before, hloaded, hcycled, -⟩ := hsound.cycled hcommit
  rw [hcycled.range_mem_skips hgap, fate_eq_skipped]
  constructor
  · rintro ⟨⟨hclosed, hempty, hup⟩, hawaits⟩
    refine ⟨hclosed, hempty, hawaits, ?_⟩
    obtain ⟨began, row, hopen, hin⟩ := Capture.awaits_iff.1 hawaits
    obtain ⟨earliest, hknown, hyoung⟩ :=
      h.exists_earliest hloaded hseen (hcycled.active ▸ hgap) hclosed hopen hin
    rw [givesUp_iff hknown] at hup
    cases hbelow : ((capture.world.course circumstances disturbance).grounds capture.world.service
        circumstances log).below gap with
    | none =>
        -- the gap itself is too young to be given up
        rw [hbelow, Option.getD_none] at hup
        have hgrace : gap.createTime < gap.createTime + edgeGrace := Int.lt_add_of_pos_right _ (by decide)
        exact absurd (Int.le_trans hup hyoung) (Int.not_le.2 hgrace)
    | some time =>
        rw [hbelow, Option.getD_some] at hup
        obtain ⟨other, hother, hid, htime⟩ := exists_of_below hknown hbelow
        exact ⟨earliest, hknown ▸ hseen, other, hother, hid, htime ▸ hup⟩
  · rintro ⟨hclosed, hempty, hawaits, earliest, hsome, row, hrow, hid, hle⟩
    refine ⟨⟨hclosed, hempty, ?_⟩, hawaits⟩
    have hknown : circumstances.visibility = .known (some earliest) :=
      Option.some.inj (hseen.symm.trans hsome)
    rw [givesUp_iff hknown, below_eq_of_mem hknown hcycled.properLog hrow (hsound.positive row hrow) hid]
    exact hle

/-- Where transactions show, a cycle gives up a gap too early exactly if it misjudges it: nothing is in the
gap, an open transaction captured a row in it, and the oldest transaction that was open when the cycle asked
began clearly after the row just below the gap was captured.  The rows in these gaps are lost, and no
others. -/
theorem skips_awaited_iff_misjudged {config : Configuration} {registry : Registry} {start : Capture}
    (hsetup : Service.setUp config registry = .ok service) (hstart : Starts service start)
    (hmoves : Moves start capture) :
    ∃ rows log book, capture.world.store.gaps = some rows ∧ capture.world.store.changes = some log ∧
      capture.world.store.Shows book ∧
      (∀ circumstances disturbance report after left,
        capture.seen = some circumstances.visibility →
        capture.world.service.cycleBy
          (capture.world.service.disturbed circumstances.stalls disturbance) circumstances
          capture.world.store = (.ok report, after, left) →
        ∀ gap ∈ (capture.world.course circumstances disturbance).gaps,
          ((gap.range ∈ capture.world.service.skips circumstances
              (capture.world.course circumstances disturbance) ∧ capture.Awaits gap.range) ↔
            capture.Misjudged log.rows gap)) ∧
      ∀ row ∈ log.rows, service.Routes row.channel → 0 < capture.world.cycles →
        ((Pending (activeRanges rows) book row.id ∨
            ∃ record, RoutedBy capture.world.passes (activeRanges rows) book row record) ↔
          ¬Held capture.misjudged row.id) := by
  obtain ⟨rows, log, book, hsound, htimely⟩ := hstart.moves hsetup hmoves
  refine ⟨rows, log, book, hsound.gaps, hsound.changes, hsound.shows, ?_, ?_⟩
  · intro circumstances disturbance report after left hseen hcommit gap hgap
    exact htimely.skips_iff hsound hseen hcommit hgap
  · intro row hrow hroutes hcycles
    constructor
    · rintro hkept ⟨range, hrange, hin⟩
      have hlost := hsound.lost ⟨range, htimely.misjudged range hrange, hin⟩
      exact hkept.elim hlost.1 hlost.2
    · intro hjudged
      have honce := hsound.pending_or_routedBy hcycles hrow hroutes fun hlate =>
        hjudged (htimely.late row.id hlate)
      exact honce.imp And.left And.right

/-- A cycle that commits leaves the service as it was. -/
theorem Starts.exists_report {config : Configuration} {registry : Registry} {start : Capture}
    (hsetup : Service.setUp config registry = .ok service) (hstart : Starts service start)
    (hmoves : Moves start capture)
    (hrun : (service.cycle circumstances capture.world.store).1.toOption.isSome = true ∧
      (service.cycle circumstances capture.world.store).2.2 = left) :
    ∃ report, capture.world.service.cycleBy
      (capture.world.service.disturbed circumstances.stalls .none) circumstances
      capture.world.store = (.ok report, capture.world.service, left) := by
  obtain ⟨rows, log, book, hsound, -⟩ := hstart.moves hsetup hmoves
  obtain ⟨hok, hleft⟩ := hrun
  rw [Service.cycle, ← Service.disturbed_none, ← hsound.same] at hok hleft
  cases hcycle : capture.world.service.cycleBy
      (capture.world.service.disturbed circumstances.stalls .none) circumstances
      capture.world.store with
  | mk result rest =>
      rw [hcycle] at hok hleft
      cases result with
      | error fault => contradiction
      | ok report =>
          obtain ⟨rows', book', hnext⟩ := hsound.cycling hcycle
          have hafter : rest.1 = capture.world.service := hnext.same.trans hsound.same.symm
          exact ⟨report, by rw [← hafter, ← hleft]⟩

end skips

/-! ## a transaction that began late -/

/-- A row that was captured at some time. -/
def rowAt (time : Millis) (id : Int) : ChangeRow := { shopRow id "I" "orders" with createTime := time }

/-- The shop at the start of 1970. -/
def shopStart : Capture where
  world := { service := shopService, store := shopStore [] [] }
  now := 0
  next := 1

theorem committingAll_singleton {world : World} {row : ChangeRow} {after : Store}
    (h : world.store.insertChangeRow row = .ok after) :
    world.committingAll [row] = .ok (world.committing row after) := by
  rw [World.committingAll, h]
  rfl

theorem starts_shopStart : Starts shopService shopStart where
  world := rfl
  fresh := fresh_shopStore
  given := by
    intro log hlog row hrow
    cases hlog
    exact (List.not_mem_nil hrow).elim
  counter := by decide
  clock := by decide
  closed := rfl
  unseen := rfl
  unjudged := rfl

/-- The first row was committed at once, the third one later, and the second one is still open. -/
def overtaken (time : Millis) : Capture where
  world :=
    { service := shopService
      store := { shopStore [] [] with changes := some ⟨[rowAt 0 1, rowAt time 3], 3⟩ } }
  now := time
  next := 4
  transactions := [⟨time, [rowAt time 2]⟩]
  seen := some (.known (some time))

theorem moves_overtaken {time : Millis} (hfirst : 0 ≤ time) (hlast : time ≤ Millis.last) :
    Moves shopStart (overtaken time) := by
  have hend : (1 : Int) < openEnd ∧ (2 : Int) < openEnd ∧ (3 : Int) < openEnd := by decide
  have hone : Moves shopStart { shopStart with
      world := { service := shopService
                 store := { shopStore [] [] with changes := some ⟨[rowAt 0 1], 1⟩ } }
      next := 2 } :=
    .step (.step (.step .refl .opened)
      (.captured [] [] ⟨0, []⟩ (rowAt 0 1) rfl (Int.le_refl 1) hend.1 rfl))
      (.committed [] [] ⟨0, [rowAt 0 1]⟩ _ rfl rfl)
  have htwo : Moves shopStart { shopStart with
      world := { service := shopService
                 store := { shopStore [] [] with changes := some ⟨[rowAt 0 1], 1⟩ } }
      now := time
      next := 3
      transactions := [⟨time, [rowAt time 2]⟩] } :=
    .step (.step (.step hone (.wait time hfirst hlast)) .opened)
      (.captured [] [] ⟨time, []⟩ (rowAt time 2) rfl (Int.le_refl 2) hend.2.1 rfl)
  exact .step (.step (.step (.step htwo .opened)
    (.captured [] [⟨time, [rowAt time 2]⟩] ⟨time, []⟩ (rowAt time 3) rfl (Int.le_refl 3) hend.2.2 rfl))
    (.committed [] [⟨time, [rowAt time 2]⟩] ⟨time, [rowAt time 3]⟩ _ rfl rfl)) .asked

/-- The circumstances of a cycle that saw a transaction begin just now. -/
def lately (time : Millis) : Circumstances := ⟨.known (some time), time, []⟩

/-- The store once the first and the third row were routed, with the gap between them. -/
def split (time : Millis) (status : String) : Store :=
  { shopStore [⟨1, openEnd, "OK", time, time⟩, ⟨2, 2, status, time, time⟩,
      ⟨4, openEnd, "GP", time, time⟩] [] with
    changes := some ⟨[rowAt 0 1, rowAt time 3], 3⟩
    batches := some ⟨[⟨⟨1, unroutedNode, "orders", .ok, 2, 0, 2, 0, 0, 0⟩, "OK"⟩], 1⟩
    events := some [⟨1, 1, unknownRouter⟩, ⟨3, 1, unknownRouter⟩]
    watermarks := some [("orders", 3)]
    hasEventStatement := true }

/-- A cycle may follow, and the next one may ask. -/
theorem moves_split {time : Millis} (hfirst : 0 ≤ time) (hlast : time ≤ Millis.last)
    (hrun : (shopService.cycle (lately time) (overtaken time).world.store).1.toOption.isSome = true ∧
      (shopService.cycle (lately time) (overtaken time).world.store).2.2 = split time "GP")
    (hskips : shopService.skips (lately time) ((overtaken time).world.course (lately time) .none) = []) :
    ∃ capture, Moves shopStart capture ∧ capture.now = time ∧
      capture.seen = some (lately time).visibility ∧ capture.transactions = [⟨time, [rowAt time 2]⟩] ∧
      capture.misjudged = [] ∧ capture.world.service = shopService ∧
      capture.world.store = split time "GP" ∧ 0 < capture.world.cycles := by
  have hmoves := moves_overtaken hfirst hlast
  obtain ⟨report, hcycle⟩ := starts_shopStart.exists_report setUp_shop hmoves hrun
  have hnext := Moves.step hmoves
    (.cycle (lately time) .none report shopService (split time "GP") rfl rfl hcycle)
  refine ⟨_, .step hnext .asked, rfl, rfl, rfl, ?_, rfl, rfl, Nat.succ_pos _⟩
  simp only [Capture.cycling]
  rw [show (overtaken time).world.service = shopService from rfl, hskips]
  rfl

/-- The gap of a transaction that began with the others is not given up, and nothing is lost. -/
theorem skips_awaited_iff_misjudged_split :
    ∃ capture rows log book report, Moves shopStart capture ∧ capture.seen = some (lately 0).visibility ∧
      capture.world.service.cycleBy (capture.world.service.disturbed [] .none) (lately 0)
        capture.world.store = (.ok report, capture.world.service, split 0 "GP") ∧
      capture.Awaits (2, 2) ∧
      (2, 2) ∉ capture.world.service.skips (lately 0) (capture.world.course (lately 0) .none) ∧
      capture.world.store.gaps = some rows ∧ capture.world.store.changes = some log ∧
      capture.world.store.Shows book ∧ rowAt 0 3 ∈ log.rows ∧
      (Pending (activeRanges rows) book 3 ∨
        ∃ record, RoutedBy capture.world.passes (activeRanges rows) book (rowAt 0 3) record) := by
  obtain ⟨capture, hmoves, -, hseen, htransactions, hnone, hservice, hstore, hcycles⟩ :=
    @moves_split 0 (by decide) (by decide) (by decide +kernel) (by decide +kernel)
  have hrun : (shopService.cycle (lately 0) capture.world.store).1.toOption.isSome = true ∧
      (shopService.cycle (lately 0) capture.world.store).2.2 = split 0 "GP" := by
    rw [hstore]
    decide +kernel
  obtain ⟨report, hcycle⟩ := starts_shopStart.exists_report setUp_shop hmoves hrun
  obtain ⟨rows, log, book, hgaps, hchanges, hshows, hiff, hkept⟩ :=
    skips_awaited_iff_misjudged setUp_shop starts_shopStart hmoves
  have hlog : log = ⟨[rowAt 0 1, rowAt 0 3], 3⟩ := by
    rw [hstore] at hchanges
    exact (Option.some.inj hchanges).symm
  have hawaits : capture.Awaits (2, 2) := by
    rw [Capture.Awaits, htransactions]
    decide
  have hgap : (⟨2, 2, .active, 0, 0⟩ : Gap) ∈ (capture.world.course (lately 0) .none).gaps := by
    rw [World.course, hservice, hstore]
    decide +kernel
  have hjudged : ¬capture.Misjudged log.rows ⟨2, 2, .active, 0, 0⟩ := by
    rintro ⟨-, -, -, earliest, hsome, row, hrow, -, hle⟩
    rw [hseen, lately, Option.some.injEq, Visibility.known.injEq, Option.some.injEq] at hsome
    subst hsome
    revert row
    rw [hlog]
    decide
  have hrow : rowAt 0 3 ∈ log.rows := by
    rw [hlog]
    decide
  refine ⟨capture, rows, log, book, report, hmoves, hseen, hcycle, hawaits, ?_, hgaps, hchanges, hshows,
    hrow, ?_⟩
  · intro hskip
    exact hjudged ((hiff _ _ _ _ _ hseen hcycle _ hgap).1 ⟨hskip, hawaits⟩)
  · exact (hkept (rowAt 0 3) hrow (by unfold Service.Routes; decide) hcycles).2
      (hnone ▸ held_nil 3)

/-- A gap is given up although an open transaction captured a row in it, because that transaction began a
while after the row below the gap was captured.  The row is committed, and lost. -/
theorem skips_awaited_gap :
    ∃ capture report last rows log book, Service.setUp shop shopService.registry = .ok shopService ∧
      Starts shopService shopStart ∧ Moves shopStart capture ∧
      capture.seen = some (lately 5000).visibility ∧ capture.now = 5000 ∧
      capture.world.service.cycleBy (capture.world.service.disturbed [] .none) (lately 5000)
        capture.world.store = (.ok report, capture.world.service, split 5000 "SK") ∧
      (2, 2) ∈ capture.world.service.skips (lately 5000) (capture.world.course (lately 5000) .none) ∧
      capture.Awaits (2, 2) ∧
      Moves (capture.cycling (lately 5000) .none capture.world.service (split 5000 "SK")) last ∧
      0 < last.world.cycles ∧ last.world.store.gaps = some rows ∧ last.world.store.changes = some log ∧
      last.world.store.Shows book ∧ rowAt 5000 2 ∈ log.rows ∧ shopService.Routes "orders" ∧
      ¬Pending (activeRanges rows) book 2 ∧
      ¬∃ record, RoutedBy last.world.passes (activeRanges rows) book (rowAt 5000 2) record := by
  obtain ⟨capture, hmoves, hnow, hseen, htransactions, -, hservice, hstore, -⟩ :=
    @moves_split 5000 (by decide) (by decide) (by decide +kernel) (by decide +kernel)
  have hrun : (shopService.cycle (lately 5000) capture.world.store).1.toOption.isSome = true ∧
      (shopService.cycle (lately 5000) capture.world.store).2.2 = split 5000 "SK" := by
    rw [hstore]
    decide +kernel
  obtain ⟨report, hcycle⟩ := starts_shopStart.exists_report setUp_shop hmoves hrun
  have hawaits : capture.Awaits (2, 2) := by
    rw [Capture.Awaits, htransactions]
    decide
  have hskip : (2, 2) ∈ capture.world.service.skips (lately 5000)
      (capture.world.course (lately 5000) .none) := by
    rw [World.course, hservice, hstore]
    decide +kernel
  have hcycled : Moves shopStart
      (capture.cycling (lately 5000) .none capture.world.service (split 5000 "SK")) :=
    .step hmoves (.cycle (lately 5000) .none report _ _ hseen hnow.symm hcycle)
  -- the transaction commits behind the cycle
  obtain ⟨last, hmove, hcycles, hskipped, hchanges⟩ :
      ∃ last, Move (capture.cycling (lately 5000) .none capture.world.service (split 5000 "SK")) last ∧
        0 < last.world.cycles ∧ (2, 2) ∈ last.world.skipped ∧
        last.world.store.changes = some ⟨[rowAt 0 1, rowAt 5000 2, rowAt 5000 3], 3⟩ := by
    have hinsert : (split 5000 "SK").insertChangeRow (rowAt 5000 2) = .ok { split 5000 "SK" with
        changes := some ⟨[rowAt 0 1, rowAt 5000 2, rowAt 5000 3], 3⟩ } := by decide
    have hopen : (capture.cycling (lately 5000) .none capture.world.service
        (split 5000 "SK")).transactions = [] ++ ⟨5000, [rowAt 5000 2]⟩ :: [] := htransactions
    exact ⟨_, .committed [] [] _ _ hopen (committingAll_singleton hinsert), Nat.succ_pos _,
      List.mem_append_right _ hskip, rfl⟩
  obtain ⟨rows, log, book, hsound, -⟩ := starts_shopStart.moves setUp_shop (.step hcycled hmove)
  have hlog : log = ⟨[rowAt 0 1, rowAt 5000 2, rowAt 5000 3], 3⟩ := by
    rw [hsound.changes] at hchanges
    exact Option.some.inj hchanges
  have hheld : Held last.world.skipped (rowAt 5000 2).id := ⟨(2, 2), hskipped, by decide⟩
  obtain ⟨hpending, hrouted⟩ := hsound.lost hheld
  refine ⟨capture, report, last, rows, log, book, setUp_shop, starts_shopStart, hmoves, hseen, hnow, hcycle,
    hskip, hawaits, .step .refl hmove, hcycles, hsound.gaps, hsound.changes, hsound.shows, ?_, ?_, hpending, hrouted⟩
  · rw [hlog]
    decide
  · unfold Service.Routes
    decide

end ChangeRouting
