import ChangeRouting.Proofs.Service.Limits
import ChangeRouting.Proofs.Service.Once
import ChangeRouting.Proofs.Service.Sent

/-!
# ChangeRouting.Proofs.Service.Backlog

Backlogs drain, whatever the limits.

* `World.backlog` — the rows of a channel that the next cycle finds in active gaps;
* `Sound.backlog_cycling` — a committed cycle leaves those of them that it did not confirm;
* `Sound.advances` — a committed pass routes a front of the backlog, not an empty one, and leaves the
  rest;
* `backlogs_drain` — so as many passes as there are rows leave none of them in a gap.
-/

namespace ChangeRouting

/-- The rows of a channel that the next cycle finds in active gaps.  Where the gap table is still empty,
the first gap will hold them all. -/
def World.backlog (world : World) (channel : String) : List ChangeRow :=
  let gaps := world.store.gaps.getD []
  ((world.store.changes.map Numbered.rows).getD []).filter fun row =>
    row.channel = channel && (gaps.isEmpty || decide (Held (activeRanges gaps) row.id))

/-- What the committed pass of a turn did, in a cycle in this world. -/
def World.recordOf (world : World) (circumstances : Circumstances) (disturbance : Disturbance)
    (turn : Turn) : PassRecord :=
  let course := world.course circumstances disturbance
  world.service.recordIn disturbance course.lookups course.gaps turn

/-- A committed pass on a channel took a front of these rows, in ascending order: it decided about them,
what it decided is stored, and the others wait for the next cycle.  It took at least one, and left some only
if a limit of the channel was used up, so none where there is no limit. -/
structure Advances (channel : Channel) (columns : PayloadColumns) (waiting : List ChangeRow)
    (record : PassRecord) (next : World) : Prop where
  ascending : waiting.Pairwise (·.id < ·.id)
  front : ∃ done, waiting = done ++ next.backlog channel.id ∧
    List.Forall₂ (fun row answer => row.read columns = .ok (Answer.change answer)) done record.answers
  some : waiting ≠ [] → record.answers ≠ []
  rest : next.backlog channel.id ≠ [] → channel.Spent record.answers
  unlimited : channel.maxChanges = 0 → channel.maxBatches = 0 → next.backlog channel.id = []
  stored : ∃ book, next.store.Shows book ∧ book.Honours record

/-- Cycles while no rows arrive, counting those in which the pass on a channel is committed. -/
inductive Serves (channel : String) (start : World) : Nat → World → Prop
  | refl : Serves channel start 0 start
  /-- The pass on the channel is committed. -/
  | served {passes : Nat} {now : World} (h : Serves channel start passes now)
    (circumstances : Circumstances) (disturbance : Disturbance) (report : CycleReport) (after : Service)
    (left : Store)
    (hcommit : now.service.cycleBy (now.service.disturbed circumstances.stalls disturbance) circumstances
      now.store = (.ok report, after, left)) (hpass : channel ∉ report.failed) :
    Serves channel start (passes + 1) (now.cycling circumstances disturbance after left)
  /-- The pass on the channel fails. -/
  | failed {passes : Nat} {now : World} (h : Serves channel start passes now)
    (circumstances : Circumstances) (disturbance : Disturbance) (report : CycleReport) (after : Service)
    (left : Store)
    (hcommit : now.service.cycleBy (now.service.disturbed circumstances.stalls disturbance) circumstances
      now.store = (.ok report, after, left)) (hpass : channel ∈ report.failed) :
    Serves channel start passes (now.cycling circumstances disturbance after left)
  /-- The cycle is taken back. -/
  | fault {passes : Nat} {now : World} (h : Serves channel start passes now)
    (circumstances : Circumstances) (disturbance : Disturbance) (fault : Fault) (after : Service)
    (left : Store)
    (herror : now.service.cycleBy (now.service.disturbed circumstances.stalls disturbance) circumstances
      now.store = (.error fault, after, left)) :
    Serves channel start passes { now with service := after, store := left }

/-- Such cycles lead to worlds that may be reached. -/
theorem Serves.reaches {channel : String} {start now : World} {passes : Nat}
    (h : Serves channel start passes now) : Reaches start now := by
  induction h with
  | refl => exact .refl
  | served _ circumstances disturbance report after left hcommit _ ih =>
      exact .step ih (.cycle circumstances disturbance report after left hcommit)
  | failed _ circumstances disturbance report after left hcommit _ ih =>
      exact .step ih (.cycle circumstances disturbance report after left hcommit)
  | fault _ circumstances disturbance fault after left herror ih =>
      exact .step ih (.fault circumstances disturbance fault after left herror)

/-! ## the turn of a channel -/

section turn

variable {service : Service} {stalls : List (String × Nat)} {disturbance : Disturbance}
  {lookups : Lookups} {gaps : List Gap} {channels : List Channel} {store : Store} {book : Book}
  {turn : Turn}

/-- A turn finds some book. -/
theorem exists_book_of_mem_turns (hbook : store.Shows book)
    (h : turn ∈ turns (service.disturbed stalls disturbance lookups gaps) channels store) :
    ∃ found, turn.before.Shows found := by
  induction channels generalizing store book with
  | nil => exact (List.not_mem_nil h).elim
  | cons channel channels ih =>
      rw [turns, List.mem_cons] at h
      cases h with
      | inl heq =>
          rw [heq, turnOf_before]
          exact ⟨book, hbook⟩
      | inr hmem =>
          obtain ⟨_, later, hstored, -⟩ :=
            stored_of_turn stalls disturbance lookups gaps channel hbook
          exact ih hstored.shows hmem

/-- The channels a cycle reports as failed are those of the turns that failed. -/
theorem failed_eq {passes : Passes} {circumstances : Circumstances} {after : Service} {left : Store}
    {report : CycleReport} (h : service.cycleBy passes circumstances store = (.ok report, after, left)) :
    report.failed = failedIn (service.course passes circumstances.now store).turns := by
  obtain ⟨course, gaps, hwent, -, rfl, -⟩ := cycleBy_eq_ok.1 h
  rw [← hwent.eq_course]
  show course.state.failed = _
  rw [Course.state, failed_through, List.nil_append]
  rfl

end turn

/-! ## one cycle -/

section cycle

variable {service : Service} {world : World} {rows : List GapRow} {log : Numbered ChangeRow} {book : Book}
  {circumstances : Circumstances} {disturbance : Disturbance} {report : CycleReport} {after : Service}
  {left : Store} {channel : Channel}

/-- What lies in gaps lies in their ranges. -/
theorem wanted_eq (rows : List ChangeRow) (channel : String) (gaps : List Gap) :
    wanted rows channel gaps =
      rows.filter fun row => row.channel = channel && decide (Held (gaps.map Gap.range) row.id) := by
  rw [wanted, List.filter_filter]
  refine List.filter_congr fun row _ => ?_
  rw [Bool.and_comm, Bool.eq_iff_iff, Bool.and_eq_true_iff, Bool.and_eq_true_iff, List.any_eq_true,
    decide_eq_true_eq (p := Held _ _)]
  simp only [Held, List.mem_map, exists_exists_and_eq_and, Gap.contains_iff_holds]

/-- The backlog of a channel is what the passes of the next cycle are given. -/
theorem Sound.backlog_eq (h : Sound service world rows log book) {now : Millis} {before : List GapRow}
    (hloaded : Loaded now rows before) (channel : String) :
    world.backlog channel =
      log.rows.filter fun row => row.channel = channel && decide (Held (activeRanges before) row.id) := by
  simp only [World.backlog, h.gaps, h.changes, Option.map_some, Option.getD_some]
  refine List.filter_congr fun row hrow => ?_
  congr 1
  obtain ⟨-, -, hrows, -⟩ | ⟨htidy, -⟩ := h.account
  · subst hrows
    have hheld : Held (activeRanges before) row.id := by
      rw [hloaded.activeRanges_of_nil]
      exact ⟨_, List.mem_cons_self, h.positive row hrow, (h.properLog.words row hrow).1.2⟩
    rw [decide_eq_true hheld]
    rfl
  · have hsome : rows.isEmpty = false := by
      obtain ⟨top, htop, -⟩ := htidy.exists_open
      obtain ⟨other, hother, -⟩ := mem_activeRanges.1 htop
      exact List.isEmpty_eq_false_iff_exists_mem.2 ⟨other, hother⟩
    rw [hloaded.eq_of_tidy htidy, hsome, Bool.false_or]

/-- A committed cycle leaves those rows of a backlog that it did not confirm. -/
theorem Sound.backlog_cycling (h : Sound service world rows log book)
    (hcommit : world.service.cycleBy (world.service.disturbed circumstances.stalls disturbance)
      circumstances world.store = (.ok report, after, left)) (channel : String) :
    (world.cycling circumstances disturbance after left).backlog channel =
      (world.backlog channel).filter fun row =>
        !(world.course circumstances disturbance).state.coverage.confirms row.channel row.id := by
  obtain ⟨before, hloaded, hcycled, -, hleft⟩ := h.cycled hcommit
  rw [h.backlog_eq hloaded, List.filter_filter]
  generalize world.course circumstances disturbance = course at hcycled hleft
  have hsome : (course.gapsAfter world.service circumstances log before).isEmpty = false := by
    obtain ⟨top, htop, -⟩ := hcycled.effect.tidy.exists_open
    obtain ⟨other, hother, -⟩ := mem_activeRanges.1 htop
    exact List.isEmpty_eq_false_iff_exists_mem.2 ⟨other, hother⟩
  simp only [World.backlog, World.cycling, hleft, Store.gaps_withGaps, Option.getD_some, hsome,
    Bool.false_or]
  rw [show (course.ended.withGaps (course.gapsAfter world.service circumstances log before)).changes =
    some log from hcycled.changes, Option.map_some, Option.getD_some]
  refine List.filter_congr fun row hrow => ?_
  rw [Bool.eq_iff_iff]
  simp only [Bool.and_eq_true, decide_eq_true_eq, Bool.not_eq_true']
  have hconfirmed : (∃ other ∈ log.rows, other.id = row.id ∧
      course.state.coverage.confirms other.channel other.id = true) ↔
        course.state.coverage.confirms row.channel row.id = true := by
    constructor
    · rintro ⟨other, hother, hid, hconfirms⟩
      rw [hcycled.properLog.eq_of_id hother hrow hid] at hconfirms
      exact hconfirms
    · exact fun hconfirms => ⟨row, hrow, rfl, hconfirms⟩
  rw [held_gapsAfter hcycled, hconfirmed, Bool.not_eq_true]
  constructor
  · rintro ⟨hchannel, hheld, hnot, -⟩
    exact ⟨hnot, hchannel, hheld⟩
  · rintro ⟨hnot, hchannel, hheld⟩
    exact ⟨hchannel, hheld, hnot, hcycled.not_held_skips hrow⟩

/-- A committed pass reached a front of the backlog of its channel, and the rest only if no limit was used
up. -/
theorem Sound.exists_front (h : Sound service world rows log book)
    (hcommit : world.service.cycleBy (world.service.disturbed circumstances.stalls disturbance)
      circumstances world.store = (.ok report, after, left)) {turn : Turn} {outcome : PassOutcome}
    (hturn : turn ∈ (world.course circumstances disturbance).turns)
    (houtcome : turn.outcome = some outcome) :
    ∃ done rest, world.backlog turn.channel.id = done ++ rest ∧
      List.Forall₂ (fun row answer => row.read (world.service.readOptions turn.channel).columns =
          .ok (Answer.change answer)) done (world.recordOf circumstances disturbance turn).answers ∧
      (∀ row ∈ done, row.id ≤ outcome.through) ∧ (∀ row ∈ rest, outcome.through < row.id) ∧
      (rest ≠ [] → (turn.channel.limited (disturbance.limits turn.channel.id)).Spent
        (world.recordOf circumstances disturbance turn).answers) := by
  rw [World.recordOf]
  obtain ⟨before, hloaded, hcycled, -, -⟩ := h.cycled hcommit
  obtain rfl := h.same
  have hwaiting : world.backlog turn.channel.id =
      wanted log.rows turn.channel.id (world.course circumstances disturbance).gaps := by
    rw [h.backlog_eq hloaded, wanted_eq]
    simp only [hcycled.held_gaps]
  generalize world.course circumstances disturbance = course at *
  -- the turn finds the changes, and the batches of the turns before it
  have hfound := hcycled.went.ledger
  simp only [Store.ledger, Prod.mk.injEq] at hfound
  obtain ⟨hbatches, hevents, -, hlogged, -⟩ := hfound
  rw [hcycled.went.turns] at hturn
  have hchanges : turn.before.changes = course.loaded.changes :=
    congrArg Prod.snd (given_of_mem_turns hturn)
  obtain ⟨found, hshows⟩ := exists_book_of_mem_turns
    ⟨hbatches.trans h.shows.batches, hevents.trans h.shows.events⟩ hturn
  have hrun := pass_of_turn (eq_turnOf_of_mem hturn) houtcome
  have hunmarked : world.service.marksOf
      (turn.channel.limited (disturbance.limits turn.channel.id)).id = [] := by
    rw [Service.marksOf, h.unmarked]
    rfl
  obtain ⟨done, rest, hsplit, hread, hdone, hbeyond, hall⟩ :=
    exists_front_of_pass (hchanges.trans (hlogged.trans h.changes)) h.properLog.ascending
      h.properLog.le_openEnd (hcycled.active ▸ pairwise_activeIn _) hunmarked hrun
  rw [id_limited, ← hwaiting] at hsplit
  rw [readOptions_limited] at hread
  refine ⟨done, rest, hsplit, hread, hdone, hbeyond, fun hrest => spent_of_stopped hshows hrun ?_⟩
  exact Bool.of_not_eq_false fun hend => hrest (hall hend)

/-- A row of a backlog is confirmed as far as the pass on its channel got. -/
theorem Sound.confirms_eq (h : Sound service world rows log book)
    (hcommit : world.service.cycleBy (world.service.disturbed circumstances.stalls disturbance)
      circumstances world.store = (.ok report, after, left)) {turn : Turn} {outcome : PassOutcome}
    (hturn : turn ∈ (world.course circumstances disturbance).turns)
    (houtcome : turn.outcome = some outcome) {row : ChangeRow}
    (hrow : row ∈ world.backlog turn.channel.id) :
    (world.course circumstances disturbance).state.coverage.confirms row.channel row.id =
      decide (row.id ≤ outcome.through) := by
  obtain ⟨before, -, hcycled, -, -⟩ := h.cycled hcommit
  have hreach := reach?_through (nodup_turns hcycled.accepted hcycled.went) hturn {}
  rw [Turn.reach, houtcome] at hreach
  have hchannel : row.channel = turn.channel.id :=
    of_decide_eq_true (Bool.and_eq_true_iff.1 (List.mem_filter.1 hrow).2).1
  rw [hchannel, Coverage.confirms, Course.state, hreach]
  rfl

/-- A committed pass takes a front off the backlog of its channel. -/
theorem Sound.advances (h : Sound service world rows log book) (hchannel : channel ∈ service.channels)
    (hcommit : world.service.cycleBy (world.service.disturbed circumstances.stalls disturbance)
      circumstances world.store = (.ok report, after, left)) (hpass : channel.id ∉ report.failed) :
    ∃ records, (world.cycling circumstances disturbance after left).passes = world.passes ++ records ∧
      ∃ record ∈ records, record.channel = channel.id ∧
        Advances (channel.limited (disturbance.limits channel.id)) (service.readOptions channel).columns
          (world.backlog channel.id) record (world.cycling circumstances disturbance after left) := by
  obtain ⟨before, hloaded, hcycled, -, -⟩ := h.cycled hcommit
  obtain ⟨rows', book', hnext⟩ := h.cycling hcommit
  obtain rfl := h.same
  -- the turn of the channel
  have hturns := hcycled.went.map_channel
  rw [← hturns, List.mem_map] at hchannel
  obtain ⟨turn, hturn, rfl⟩ := hchannel
  obtain ⟨outcome, houtcome⟩ : ∃ outcome, turn.outcome = some outcome := by
    rw [failed_eq hcommit, ← World.course,
      mem_failedIn (nodup_turns hcycled.accepted hcycled.went) hturn] at hpass
    exact Option.ne_none_iff_exists'.1 hpass
  obtain ⟨done, rest, hsplit, hread, hdone, hbeyond, hspent⟩ := h.exists_front hcommit hturn houtcome
  have hrest : (world.cycling circumstances disturbance after left).backlog turn.channel.id = rest := by
    rw [h.backlog_cycling hcommit, List.filter_congr fun row hrow => congrArg (! ·)
      (h.confirms_eq hcommit hturn houtcome hrow), hsplit, List.filter_append,
      List.filter_eq_nil_iff.2 fun row hrow => by simpa using hdone row hrow,
      List.filter_eq_self.2 fun row hrow => by simpa using hbeyond row hrow, List.nil_append]
  have hrecord : world.recordOf circumstances disturbance turn ∈ world.service.recordsIn disturbance
      (world.course circumstances disturbance).lookups (world.course circumstances disturbance).gaps
      (world.course circumstances disturbance).turns := recordIn_mem hturn houtcome
  refine ⟨_, rfl, _, hrecord, channel_recordIn turn, ?_, ⟨done, ?_, hread⟩, ?_, ?_, ?_, book',
    hnext.shows, ?_⟩
  · rw [World.backlog, h.changes]
    exact h.properLog.ascending.filter _
  · rw [id_limited, hrest]
    exact hsplit
  · -- where rows are left a limit was used up, which takes an answer
    intro hsome hnone
    by_cases hleft : rest = []
    · rw [hnone, List.forall₂_nil_right_iff] at hread
      rw [hsplit, hread, hleft] at hsome
      exact hsome rfl
    · exact (hspent hleft).ne_nil hnone
  · rw [id_limited, hrest]
    exact hspent
  · intro hchanges hbatches
    rw [id_limited, hrest]
    by_contra hleft
    exact Channel.not_spent hchanges hbatches (hspent hleft)
  · exact hnext.honours _ (List.mem_append_right _ hrecord)

/-- No cycle adds to a backlog. -/
theorem Sound.length_backlog_le (h : Sound service world rows log book)
    (hcommit : world.service.cycleBy (world.service.disturbed circumstances.stalls disturbance)
      circumstances world.store = (.ok report, after, left)) (channel : String) :
    ((world.cycling circumstances disturbance after left).backlog channel).length ≤
      (world.backlog channel).length := by
  rw [h.backlog_cycling hcommit]
  exact List.length_filter_le _ _

/-- A committed pass takes at least one row off a backlog. -/
theorem Advances.length_le {columns : PayloadColumns} {waiting : List ChangeRow} {record : PassRecord}
    {next : World} (h : Advances channel columns waiting record next) :
    (next.backlog channel.id).length ≤ waiting.length - 1 := by
  obtain ⟨done, hsplit, hread⟩ := h.front
  cases done with
  | nil =>
      have hnone : waiting = [] := by
        by_contra hsome
        exact h.some hsome (List.forall₂_nil_left_iff.1 hread)
      rw [hnone] at hsplit
      rw [← List.nil_append (next.backlog channel.id), ← hsplit]
      exact Nat.zero_le _
  | cons first done =>
      rw [hsplit, List.length_append, List.length_cons]
      omega

end cycle

/-! ## many cycles -/

/-- Each committed pass takes at least one row off the backlog. -/
theorem Sound.length_backlog_serves {service : Service} {start now : World} {rows : List GapRow}
    {log : Numbered ChangeRow} {book : Book} {channel : Channel} {passes : Nat}
    (h : Sound service start rows log book) (hchannel : channel ∈ service.channels)
    (hserves : Serves channel.id start passes now) :
    (now.backlog channel.id).length ≤ (start.backlog channel.id).length - passes := by
  induction hserves with
  | refl => exact Nat.le_refl _
  | served hbefore circumstances disturbance report after left hcommit hpass ih =>
      obtain ⟨_, _, _, hnow⟩ := h.reaches hbefore.reaches
      obtain ⟨_, -, record, -, -, hadvances⟩ := hnow.advances hchannel hcommit hpass
      have hless := hadvances.length_le
      rw [id_limited] at hless
      omega
  | failed hbefore circumstances disturbance report after left hcommit hpass ih =>
      obtain ⟨_, _, _, hnow⟩ := h.reaches hbefore.reaches
      exact (hnow.length_backlog_le hcommit channel.id).trans ih
  | fault hbefore circumstances disturbance fault after left herror ih =>
      obtain ⟨rfl, rfl⟩ := cycleBy_eq_error herror
      exact ih

/-- Without a backlog there is no row of the channel in an active gap. -/
theorem not_held_of_backlog {world : World} {rows : List GapRow} {log : Numbered ChangeRow}
    {channel : String} (hnone : world.backlog channel = []) (hgaps : world.store.gaps = some rows)
    (hchanges : world.store.changes = some log) :
    ∀ row ∈ log.rows, row.channel = channel → ¬Held (activeRanges rows) row.id := by
  intro row hrow hchannel hheld
  simp only [World.backlog, hgaps, hchanges, Option.getD_some, Option.map_some,
    List.filter_eq_nil_iff] at hnone
  refine hnone row hrow ?_
  rw [decide_eq_true hchannel, decide_eq_true hheld, Bool.or_true]
  rfl

/-- Backlogs drain under any limits.  In every world that a service reaches, a committed pass on a channel
routes a front of the backlog in ascending order, not an empty one, and leaves the rest, none unless a limit
was used up.  So as many committed passes as there are rows leave no row of the channel in an active gap, if
no rows arrive. -/
theorem backlogs_drain {config : Configuration} {registry : Registry} {service : Service} {store : Store}
    {world : World} {channel : Channel} (hsetup : Service.setUp config registry = .ok service)
    (hfresh : Fresh store) (hreaches : Reaches { service := service, store := store } world)
    (hchannel : channel ∈ service.channels) :
    (∀ (circumstances : Circumstances) (disturbance : Disturbance) (report : CycleReport)
      (after : Service) (left : Store),
      world.service.cycleBy (world.service.disturbed circumstances.stalls disturbance) circumstances
        world.store = (.ok report, after, left) → channel.id ∉ report.failed →
      ∃ records, (world.cycling circumstances disturbance after left).passes = world.passes ++ records ∧
        ∃ record ∈ records, record.channel = channel.id ∧
          Advances (channel.limited (disturbance.limits channel.id)) (service.readOptions channel).columns
            (world.backlog channel.id) record (world.cycling circumstances disturbance after left)) ∧
    ∀ (passes : Nat) (last : World), Serves channel.id world passes last →
      (world.backlog channel.id).length ≤ passes →
      ∃ rows log, last.store.gaps = some rows ∧ last.store.changes = some log ∧
        ∀ row ∈ log.rows, row.channel = channel.id → ¬Held (activeRanges rows) row.id := by
  obtain ⟨_, _, hstart⟩ := Sound.fresh hsetup hfresh
  obtain ⟨_, _, _, hworld⟩ := hstart.reaches hreaches
  refine ⟨fun circumstances disturbance report after left hcommit hpass =>
    hworld.advances hchannel hcommit hpass, fun passes last hserves hle => ?_⟩
  have hless := hworld.length_backlog_serves hchannel hserves
  have hnone : last.backlog channel.id = [] := by
    rw [← List.length_eq_zero_iff]
    omega
  obtain ⟨rows, log, _, hlast⟩ := hworld.reaches hserves.reaches
  exact ⟨rows, log, hlast.gaps, hlast.changes, not_held_of_backlog hnone hlast.gaps hlast.changes⟩

/-- A cycle in which the pass on a channel is committed is one of those counted. -/
theorem Sound.exists_served {service : Service} {start now : World} {rows : List GapRow}
    {log : Numbered ChangeRow} {book : Book} {channel : String} {passes : Nat}
    (h : Sound service now rows log book) (hserves : Serves channel start passes now)
    (circumstances : Circumstances) (disturbance : Disturbance)
    (hok : (service.cycleBy (service.disturbed circumstances.stalls disturbance) circumstances
      now.store).1.toOption.map (fun report => decide (channel ∉ report.failed)) = some true) :
    ∃ next, Serves channel start (passes + 1) next ∧
      next.store = (service.cycleBy (service.disturbed circumstances.stalls disturbance) circumstances
        now.store).2.2 := by
  obtain rfl := h.same
  cases hrun : now.service.cycleBy (now.service.disturbed circumstances.stalls disturbance)
      circumstances now.store with
  | mk result rest =>
      rw [hrun] at hok
      cases result with
      | error fault => contradiction
      | ok report =>
          have hpass : channel ∉ report.failed := of_decide_eq_true (Option.some.inj hok)
          exact ⟨_, .served hserves circumstances disturbance report rest.1 rest.2 hrun hpass, rfl⟩

/-! ## one row at a time -/

/-- Every pass may route one change. -/
def oneByOne : Disturbance := ⟨fun _ => none, fun _ => some (1, 0)⟩

/-- Two rows of one channel, before the first cycle. -/
def twoOrders : World :=
  { service := shopService, store := shopStore [] [shopRow 1 "I" "orders", shopRow 3 "I" "orders"] }

/-- Of two rows the first cycle leaves the second, and two cycles leave none of them in a gap. -/
theorem backlogs_drain_oneByOne :
    (twoOrders.backlog "orders").length = 2 ∧
      (∃ mid, Serves "orders" twoOrders 1 mid ∧ (mid.backlog "orders").map ChangeRow.id = [3]) ∧
      ∃ last rows log, Serves "orders" twoOrders 2 last ∧ last.store.gaps = some rows ∧
        last.store.changes = some log ∧
        ∀ row ∈ log.rows, row.channel = "orders" → ¬Held (activeRanges rows) row.id := by
  have hfresh : Fresh twoOrders.store :=
    ⟨rfl, ⟨0, rfl⟩, rfl, _, rfl, ⟨by decide, by unfold IsWord; decide⟩, by decide⟩
  obtain ⟨_, _, hstart⟩ := Sound.fresh setUp_shop hfresh
  have hnone : Serves "orders" twoOrders 0 twoOrders := .refl
  obtain ⟨mid, hmid, hfirst⟩ := hstart.exists_served hnone calm oneByOne (by decide +kernel)
  obtain ⟨_, _, _, hsound⟩ := hstart.reaches hmid.reaches
  obtain ⟨last, hlast, -⟩ := hsound.exists_served hmid calm oneByOne (by rw [hfirst]; decide +kernel)
  have hchannel : ({ id := "orders" } : Channel) ∈ shopService.channels := by decide
  obtain ⟨-, hdrain⟩ := backlogs_drain setUp_shop hfresh .refl hchannel
  obtain ⟨rows, log, hgaps, hchanges, hfree⟩ := hdrain 2 last hlast (by decide)
  have hsecond : (mid.backlog "orders").map ChangeRow.id = [3] := by
    rw [World.backlog, hfirst]
    decide +kernel
  exact ⟨by decide, ⟨mid, hmid, hsecond⟩, last, rows, log, hlast, hgaps, hchanges, hfree⟩

end ChangeRouting
