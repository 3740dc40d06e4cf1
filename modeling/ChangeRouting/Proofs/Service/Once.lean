import ChangeRouting.Proofs.Batch.Targets
import ChangeRouting.Proofs.Service.Harvest

/-!
# ChangeRouting.Proofs.Service.Once

Every row is routed once.

* `Accounted`, `Sound` — what holds in every world: an id is in a gap, given up or in the log, and a row is
  in a gap or decided about;
* `pending_or_routed` — a row is pending in one gap, or was routed by one pass, and never both.
-/

namespace ChangeRouting

/-- Every id is in a gap, given up or in the log, and every row that did not come late is in a gap or was
decided about.  Nothing that was given up is looked at again. -/
structure Accounted (world : World) (log : List ChangeRow) (ranges : List IdRange) : Prop where
  answered : ∀ record ∈ world.passes, ∀ answer ∈ record.answers, ∃ row ∈ log,
    row.channel = record.channel ∧ (∃ columns, row.read columns = .ok answer.change) ∧
      ¬Held ranges row.id
  nodup : (world.passes.flatMap PassRecord.ids).Nodup
  covered : ∀ id, 0 < id → id < openEnd →
    Held ranges id ∨ Held world.skipped id ∨ ∃ row ∈ log, row.id = id
  abandoned : ∀ id, Held world.skipped id → ¬Held ranges id
  undecided : ∀ record ∈ world.passes, ∀ answer ∈ record.answers,
    ¬Held world.skipped answer.change.id
  complete : ∀ row ∈ log, world.service.Routes row.channel → row.id ∉ world.late →
    Held ranges row.id ∨ ∃ record ∈ world.passes, record.channel = row.channel ∧ row.id ∈ record.ids

section accounted

variable {world next : World} {log : List ChangeRow} {before after skips : List IdRange}
  {records : List PassRecord}

/-- What was decided about is in no range any more. -/
theorem Accounted.not_held (h : Accounted world log before) {record : PassRecord}
    (hrecord : record ∈ world.passes) {answer : Answer} (hanswer : answer ∈ record.answers) :
    ¬Held before answer.change.id := by
  obtain ⟨row, -, -, ⟨_, hread⟩, hnot⟩ := h.answered record hrecord answer hanswer
  rw [id_of_read hread]
  exact hnot

/-- A cycle keeps the account. -/
theorem Accounted.cycled (h : Accounted world log before)
    (hharvest : Harvest world.service log before records skips after)
    (hservice : next.service = world.service) (hpasses : next.passes = world.passes ++ records)
    (hskipped : next.skipped = world.skipped ++ skips) (hlate : next.late = world.late) :
    Accounted next log after where
  answered := by
    intro record hrecord answer hanswer
    rw [hpasses, List.mem_append] at hrecord
    cases hrecord with
    | inl hold =>
        obtain ⟨row, hrow, hchannel, hread, hnot⟩ := h.answered record hold answer hanswer
        exact ⟨row, hrow, hchannel, hread, fun hheld => hnot (hharvest.fewer _ hheld)⟩
    | inr hnew =>
        obtain ⟨row, hrow, hchannel, hread, -, hnot⟩ := hharvest.answered record hnew answer hanswer
        exact ⟨row, hrow, hchannel, hread, hnot⟩
  nodup := by
    rw [hpasses, List.flatMap_append, List.nodup_append]
    refine ⟨h.nodup, hharvest.nodup, ?_⟩
    -- what was decided before was in no gap any more
    intro id hold other hnew
    rintro rfl
    obtain ⟨record, hrecord, hid⟩ := List.mem_flatMap.1 hold
    obtain ⟨answer, hanswer, rfl⟩ := List.mem_map.1 hid
    obtain ⟨later, hlater, hid⟩ := List.mem_flatMap.1 hnew
    obtain ⟨other, hother, heq⟩ := List.mem_map.1 hid
    obtain ⟨row, -, -, ⟨_, hread⟩, hheld, -⟩ := hharvest.answered later hlater other hother
    rw [← id_of_read hread, heq] at hheld
    exact h.not_held hrecord hanswer hheld
  covered := by
    intro id hfirst hend
    rw [hskipped, held_append]
    obtain hheld | hskip | hrow := h.covered id hfirst hend
    · obtain hafter | hskip | hrow := hharvest.covered id hheld
      · exact Or.inl hafter
      · exact Or.inr (Or.inl (Or.inr hskip))
      · exact Or.inr (Or.inr hrow)
    · exact Or.inr (Or.inl (Or.inl hskip))
    · exact Or.inr (Or.inr hrow)
  abandoned := by
    rw [hskipped]
    intro id hskip hheld
    rw [held_append] at hskip
    cases hskip with
    | inl hold => exact h.abandoned id hold (hharvest.fewer id hheld)
    | inr hnew => exact (hharvest.abandoned id hnew).2.1 hheld
  undecided := by
    rw [hpasses, hskipped]
    intro record hrecord answer hanswer hskip
    rw [List.mem_append] at hrecord
    rw [held_append] at hskip
    cases hrecord with
    | inl hold =>
        cases hskip with
        | inl hskip => exact h.undecided record hold answer hanswer hskip
        | inr hskip => exact h.not_held hold hanswer (hharvest.abandoned _ hskip).1
    | inr hnew =>
        obtain ⟨row, hrow, -, ⟨_, hread⟩, hheld, -⟩ := hharvest.answered record hnew answer hanswer
        rw [id_of_read hread] at hskip
        cases hskip with
        | inl hskip => exact h.abandoned _ hskip hheld
        | inr hskip => exact (hharvest.abandoned _ hskip).2.2 row hrow rfl
  complete := by
    intro row hrow hroutes hontime
    rw [hservice] at hroutes
    rw [hlate] at hontime
    simp only [hpasses, List.mem_append]
    obtain hheld | ⟨record, hrecord, hchannel, hid⟩ := h.complete row hrow hroutes hontime
    · obtain hafter | ⟨record, hrecord, hchannel, hid⟩ := hharvest.complete row hrow hroutes hheld
      · exact Or.inl hafter
      · exact Or.inr ⟨record, Or.inr hrecord, hchannel, hid⟩
    · exact Or.inr ⟨record, Or.inl hrecord, hchannel, hid⟩

/-- A committed row keeps the account: unless it came late, it is in a gap. -/
theorem Accounted.committed (h : Accounted world log before) {row : ChangeRow} {placed : List ChangeRow}
    (hperm : placed.Perm (row :: log)) (hfresh : ∀ other ∈ log, other.id ≠ row.id)
    (hfirst : 0 < row.id) (hend : row.id < openEnd) (after : Store) :
    Accounted (world.committing row after) placed before where
  answered := by
    intro record hrecord answer hanswer
    obtain ⟨other, hother, hrest⟩ := h.answered record hrecord answer hanswer
    exact ⟨other, hperm.mem_iff.2 (List.mem_cons_of_mem _ hother), hrest⟩
  nodup := h.nodup
  covered := by
    intro id hlow hhigh
    obtain hheld | hskip | ⟨other, hother, hid⟩ := h.covered id hlow hhigh
    · exact Or.inl hheld
    · exact Or.inr (Or.inl hskip)
    · exact Or.inr (Or.inr ⟨other, hperm.mem_iff.2 (List.mem_cons_of_mem _ hother), hid⟩)
  abandoned := h.abandoned
  undecided := h.undecided
  complete := by
    intro other hother hroutes hontime
    simp only [World.committing] at hontime
    rw [hperm.mem_iff, List.mem_cons] at hother
    cases hother with
    | inr hold =>
        refine h.complete other hold hroutes fun hlate => hontime ?_
        split
        · exact List.mem_cons_of_mem _ hlate
        · exact hlate
    | inl hnew =>
        subst hnew
        obtain hheld | hskip | ⟨same, hsame, hid⟩ := h.covered other.id hfirst hend
        · exact Or.inl hheld
        · rw [if_pos hskip] at hontime
          exact (hontime List.mem_cons_self).elim
        · exact (hfresh same hsame hid).elim

end accounted

/-! ## every world -/

/-- What holds in every world.  Until a cycle commits there is no gap, and nothing was decided. -/
structure Sound (service : Service) (world : World) (rows : List GapRow) (log : Numbered ChangeRow)
    (book : Book) : Prop where
  same : world.service = service
  accepted : service.config.check = .ok ()
  unmarked : service.marks = []
  gaps : world.store.gaps = some rows
  changes : world.store.changes = some log
  shows : world.store.Shows book
  keyed : Keyed rows
  properLog : ProperLog log.rows
  positive : ∀ row ∈ log.rows, 0 < row.id
  properBook : book.Proper
  events : book.events = world.passes.flatMap PassRecord.written
  honours : ∀ record ∈ world.passes, book.Honours record
  account : world.cycles = 0 ∧ world.skipped = [] ∧ rows = [] ∧ world.passes = [] ∨
    Tidy (activeRanges rows) ∧ Accounted world log.rows (activeRanges rows)

section sound

variable {service : Service} {world : World} {rows : List GapRow} {log : Numbered ChangeRow} {book : Book}

/-- Once the gaps are loaded, they are tidy and account for every row. -/
theorem Sound.loaded (h : Sound service world rows log book) {now : Millis} {before : List GapRow}
    (hloaded : Loaded now rows before) :
    Tidy (activeRanges before) ∧ Accounted world log.rows (activeRanges before) := by
  obtain ⟨-, hskipped, hrows, hpasses⟩ | ⟨htidy, haccount⟩ := h.account
  · subst hrows
    refine ⟨hloaded.tidy h.keyed (fun _ hmem => (List.not_mem_nil hmem).elim)
      (fun _ hmem => (List.not_mem_nil hmem).elim) List.Pairwise.nil, ?_⟩
    have hheld : ∀ id, 0 < id → id ≤ openEnd → Held (activeRanges before) id := by
      intro id hlow hhigh
      rw [hloaded.activeRanges_of_nil]
      exact ⟨_, List.mem_cons_self, hlow, hhigh⟩
    refine ⟨?_, ?_, ?_, ?_, ?_, ?_⟩
    · rw [hpasses]
      exact fun _ hmem => (List.not_mem_nil hmem).elim
    · rw [hpasses]
      exact List.nodup_nil
    · exact fun id hlow hhigh => Or.inl (hheld id hlow (Int.le_of_lt hhigh))
    · rw [hskipped]
      exact fun _ hskip => (held_nil _ hskip).elim
    · rw [hpasses]
      exact fun _ hmem => (List.not_mem_nil hmem).elim
    · exact fun row hrow _ _ => Or.inl (hheld row.id (h.positive row hrow) (h.properLog.words row hrow).1.2)
  · rw [hloaded.eq_of_tidy htidy]
    exact ⟨htidy, haccount⟩

/-- A committed cycle found a tidy gap table once the gaps were loaded, and left the gaps its
reconciliation settled. -/
theorem Sound.cycled (h : Sound service world rows log book) {circumstances : Circumstances}
    {disturbance : Disturbance} {report : CycleReport} {after : Service} {left : Store}
    (hcommit : world.service.cycleBy (world.service.disturbed circumstances.stalls disturbance)
      circumstances world.store = (.ok report, after, left)) :
    ∃ before, Loaded circumstances.now rows before ∧
      Cycled world.service disturbance circumstances world.store
        (world.course circumstances disturbance) before log ∧
      after = world.service.rememberAll (world.course circumstances disturbance).state.passes ∧
      left = (world.course circumstances disturbance).ended.withGaps
        ((world.course circumstances disturbance).gapsAfter world.service circumstances log before) := by
  obtain ⟨course, gaps, hwent, hreconcile, -, hafter⟩ := cycleBy_eq_ok.1 hcommit
  obtain ⟨before, hloaded, hactive, hended, hchanges⟩ := hwent.given h.gaps h.changes
  obtain ⟨htidy, -⟩ := h.loaded hloaded
  obtain ⟨count, hleft⟩ := reconcile_on (course.grounds world.service circumstances log) hended hchanges
    circumstances.now course.gaps
  simp only [Course.grounds] at hleft
  rw [hreconcile, Prod.mk.injEq] at hleft
  have hcourse : course = world.course circumstances disturbance := hwent.eq_course
  have haccepted : world.service.config.check = .ok () := h.same ▸ h.accepted
  rw [← hcourse]
  exact ⟨before, hloaded,
    ⟨haccepted, hwent, hactive, hended, hchanges, hloaded.keyed h.keyed, htidy, h.properLog⟩, hafter,
    hleft.2⟩

/-- A committed cycle leaves a sound world, in which every row is accounted for. -/
theorem Sound.cycling (h : Sound service world rows log book) {circumstances : Circumstances}
    {disturbance : Disturbance} {report : CycleReport} {after : Service} {left : Store}
    (hcommit : world.service.cycleBy (world.service.disturbed circumstances.stalls disturbance)
      circumstances world.store = (.ok report, after, left)) :
    ∃ rows' book',
      Sound service (world.cycling circumstances disturbance after left) rows' log book' := by
  obtain rfl := h.same
  obtain ⟨before, hloaded, hcycled, hafter, hleft⟩ := h.cycled hcommit
  obtain ⟨-, haccount⟩ := h.loaded hloaded
  generalize hcourse : world.course circumstances disturbance = course at hcycled hafter hleft
  have hwent := hcycled.went
  -- the passes find the batches and the changes as they were
  obtain ⟨_, -, hstore, -⟩ := loadGaps_eq_ok h.gaps hwent.gaps
  have hshows : course.loaded.Shows book := by
    rw [hstore]
    exact ⟨h.shows.batches, h.shows.events⟩
  have hloadedChanges : course.loaded.changes = some log := by
    rw [hstore]
    exact h.changes
  obtain ⟨later, hlater, hgrows, hhonours, hdid⟩ :=
    @honours_turns world.service circumstances.stalls disturbance course.lookups course.gaps
      course.loaded log book world.service.channels hloadedChanges h.properLog.ascending h.properLog.le_openEnd
      (hcycled.active ▸ pairwise_activeIn _) h.unmarked hshows h.properBook
  rw [← hwent.turns] at hgrows hhonours hdid
  rw [← hwent.ended] at hlater
  have hharvest := hcycled.harvest fun turn hturn outcome houtcome =>
    (hdid turn hturn outcome houtcome).1
  have hremember : world.service.rememberAll course.state.passes = world.service :=
    rememberAll_turns h.unmarked fun turn hturn outcome houtcome => (hdid turn hturn outcome houtcome).2
  refine ⟨course.gapsAfter world.service circumstances log before, later, ?_⟩
  rw [hafter, hremember, hleft]
  simp only [World.cycling, hcourse]
  refine ⟨rfl, h.accepted, h.unmarked, rfl, hcycled.changes, ⟨hlater.batches, hlater.events⟩,
    keyed_purged _ _ (keyed_settled hcycled.keyed), h.properLog, h.positive, hgrows.proper, ?_, ?_,
    Or.inr ⟨hcycled.effect.tidy, haccount.cycled hharvest rfl rfl rfl rfl⟩⟩
  · rw [hgrows.events, h.events, List.flatMap_append]
  · intro record hrecord
    rw [List.mem_append] at hrecord
    cases hrecord with
    | inl hold =>
        refine (h.honours record hold).later hgrows fun event hevent => ?_
        rw [h.events]
        exact List.mem_flatMap.2 ⟨record, hold, hevent⟩
    | inr hnew => exact hhonours record hnew

/-- A committed row leaves a sound world, with one more row in the log. -/
theorem Sound.committing (h : Sound service world rows log book) {row : ChangeRow} {after : Store}
    (hfirst : 0 < row.id) (hend : row.id < openEnd)
    (hinsert : world.store.insertChangeRow row = .ok after) :
    ∃ log' : Numbered ChangeRow, log'.rows.Perm (row :: log.rows) ∧
      Sound service (world.committing row after) rows log' book := by
  obtain ⟨placed, hplace, rfl⟩ := insertChangeRow_eq_ok h.changes hinsert
  have hperm := placeChange_perm hplace
  have hword : IsWord row.id := ⟨by omega, Int.le_of_lt hend⟩
  have hproper := h.properLog.place hword (Int.ne_of_lt hend) hplace
  have hfresh : ∀ other ∈ log.rows, other.id ≠ row.id := by
    have hnodup := (hperm.map ChangeRow.id).nodup_iff.1 hproper.nodup
    intro other hother heq
    exact (List.nodup_cons.1 hnodup).1 (heq ▸ List.mem_map_of_mem hother)
  refine ⟨⟨placed, _⟩, hperm, h.same, h.accepted, h.unmarked, h.gaps, rfl,
    ⟨h.shows.batches, h.shows.events⟩, h.keyed, hproper, ?_, h.properBook, h.events, h.honours, ?_⟩
  · intro other hother
    rw [hperm.mem_iff, List.mem_cons] at hother
    cases hother with
    | inl hnew => exact hnew ▸ hfirst
    | inr hold => exact h.positive other hold
  · refine h.account.imp id fun hsettled => ⟨hsettled.1, ?_⟩
    exact hsettled.2.committed hperm hfresh hfirst hend _

/-- What happens next leaves a sound world. -/
theorem Sound.step (h : Sound service world rows log book) {next : World} (hstep : Step world next) :
    ∃ rows' log' book', Sound service next rows' log' book' := by
  cases hstep with
  | commit row after hfirst hend hinsert =>
      obtain ⟨log', -, hsound⟩ := h.committing hfirst hend hinsert
      exact ⟨rows, log', book, hsound⟩
  | cycle circumstances disturbance report after left hcommit =>
      obtain ⟨rows', book', hsound⟩ := h.cycling hcommit
      exact ⟨rows', log, book', hsound⟩
  | fault circumstances disturbance fault after left herror =>
      obtain ⟨rfl, rfl⟩ := cycleBy_eq_error herror
      exact ⟨rows, log, book, h⟩

/-- Every world that is reached from a sound one is sound. -/
theorem Sound.reaches (h : Sound service world rows log book) {next : World} (hreaches : Reaches world next) :
    ∃ rows' log' book', Sound service next rows' log' book' := by
  induction hreaches with
  | refl => exact ⟨rows, log, book, h⟩
  | step _ hstep ih =>
      obtain ⟨rows', log', book', hnow⟩ := ih
      exact hnow.step hstep

end sound

/-! ## pending or routed -/

/-- A store on which a run begins: no gaps and no batches yet, and any rows. -/
structure Fresh (store : Store) : Prop where
  gaps : store.gaps = some []
  batches : ∃ last, store.batches = some ⟨[], last⟩
  events : store.events = some []
  changes : ∃ log, store.changes = some log ∧ ProperLog log.rows ∧ ∀ row ∈ log.rows, 0 < row.id

/-- An id lies in exactly one active range, and nothing is stored of it. -/
structure Pending (ranges : List IdRange) (book : Book) (id : Int) : Prop where
  once : ranges.countP (Holds · id) = 1
  unstored : ∀ event ∈ book.events, event.change ≠ id

/-- One pass decided about a row and stored it once for each node that was selected, or for the unrouted
node.  No other pass stored anything of it, and it is in no active range. -/
structure RoutedBy (passes : List PassRecord) (ranges : List IdRange) (book : Book) (row : ChangeRow)
    (record : PassRecord) : Prop where
  gone : ¬Held ranges row.id
  channel : record.channel = row.channel
  alone : ∃ front back, passes = front ++ record :: back ∧
    ∀ other ∈ front ++ back, ∀ event ∈ other.written, event.change ≠ row.id
  stored : book.events.filter (·.change = row.id) = record.written.filter (·.change = row.id)
  decided : ∃ answer ∈ record.answers, (∃ columns, row.read columns = .ok answer.change) ∧
    ∃ nodes, Destined answer.decisions nodes ∧
      ((book.events.filter (·.change = row.id)).map fun event => book.node? event.batch).Perm
        (nodes.map some)

section routed

variable {service : Service} {world : World} {rows : List GapRow} {log : Numbered ChangeRow}
  {book : Book} {row : ChangeRow}

theorem Tidy.countP_eq_one {ranges : List IdRange} (h : Tidy ranges) {id : Int} (hheld : Held ranges id) :
    ranges.countP (Holds · id) = 1 := by
  obtain ⟨range, hrange, hin⟩ := hheld
  have hmem : ∀ other ∈ ranges.filter (Holds · id), other = range := by
    intro other hother
    rw [List.mem_filter] at hother
    exact h.eq_of_holds hother.1 hrange (of_decide_eq_true hother.2) hin
  have hself : range ∈ ranges.filter (Holds · id) := List.mem_filter.2 ⟨hrange, decide_eq_true hin⟩
  have hnodup := h.nodup.filter (Holds · id)
  rw [List.countP_eq_length_filter]
  cases hfilter : ranges.filter (Holds · id) with
  | nil =>
      rw [hfilter] at hself
      exact (List.not_mem_nil hself).elim
  | cons first rest =>
      cases rest with
      | nil => rfl
      | cons second rest =>
          rw [hfilter] at hmem hnodup
          have heq : first = second := by
            rw [hmem first List.mem_cons_self, hmem second (List.mem_cons_of_mem _ List.mem_cons_self)]
          exact absurd (heq ▸ List.mem_cons_self) (List.nodup_cons.1 hnodup).1

theorem change_of_mem_deliveries {answer : Answer} {delivery : Delivery}
    (h : delivery ∈ answer.deliveries) : delivery.change = answer.change.id := by
  obtain ⟨target, -, rfl⟩ := List.mem_map.1 h
  rfl

/-- What is delivered of a change is what its answer says. -/
theorem filter_deliveries {answers : List Answer} (hids : (answers.map (·.change.id)).Nodup)
    {answer : Answer} (h : answer ∈ answers) :
    (answers.flatMap Answer.deliveries).filter (·.change = answer.change.id) = answer.deliveries := by
  induction answers with
  | nil => exact (List.not_mem_nil h).elim
  | cons first rest ih =>
      rw [List.map_cons, List.nodup_cons] at hids
      rw [List.flatMap_cons, List.filter_append]
      rw [List.mem_cons] at h
      cases h with
      | inl heq =>
          subst heq
          have hall : answer.deliveries.filter (·.change = answer.change.id) = answer.deliveries := by
            rw [List.filter_eq_self]
            exact fun delivery hdelivery => decide_eq_true (change_of_mem_deliveries hdelivery)
          have hnone : (rest.flatMap Answer.deliveries).filter (·.change = answer.change.id) = [] := by
            rw [List.filter_eq_nil_iff]
            intro delivery hdelivery heq
            obtain ⟨other, hother, hmem⟩ := List.mem_flatMap.1 hdelivery
            have hid := (change_of_mem_deliveries hmem).symm.trans (of_decide_eq_true heq)
            exact hids.1 (hid ▸ List.mem_map_of_mem hother)
          rw [hall, hnone, List.append_nil]
      | inr hmem =>
          have hnone : first.deliveries.filter (·.change = answer.change.id) = [] := by
            rw [List.filter_eq_nil_iff]
            intro delivery hdelivery heq
            have hid := (change_of_mem_deliveries hdelivery).symm.trans (of_decide_eq_true heq)
            exact hids.1 (hid ▸ List.mem_map_of_mem hmem)
          rw [hnone, List.nil_append]
          exact ih hids.2 hmem

/-- A pass stored only changes it decided about. -/
theorem Book.Honours.mem_ids {record : PassRecord} (h : book.Honours record) {event : BatchEvent}
    (hevent : event ∈ record.written) : event.change ∈ record.ids := by
  have hdelivery : (⟨event.change, book.node? event.batch, event.router⟩ : Delivery) ∈
      book.deliveries record.written := List.mem_map.2 ⟨event, hevent, rfl⟩
  rw [Book.Honours] at h
  rw [h.mem_iff, List.mem_flatMap] at hdelivery
  obtain ⟨answer, hanswer, hmem⟩ := hdelivery
  have hid := change_of_mem_deliveries hmem
  simp only at hid
  rw [hid]
  exact List.mem_map_of_mem hanswer

/-- What a pass stored of a change went to the nodes its answer names. -/
theorem Book.Honours.nodes_perm {record : PassRecord} (h : book.Honours record)
    (hids : record.ids.Nodup) {answer : Answer} (hanswer : answer ∈ record.answers) :
    ((record.written.filter (·.change = answer.change.id)).map fun event =>
      book.node? event.batch).Perm (((Builder.targets answer.decisions).map Prod.fst).map some) := by
  have hfilter := (List.Perm.filter (fun delivery : Delivery =>
    decide (delivery.change = answer.change.id)) h).map Delivery.node
  rw [filter_deliveries hids hanswer, Book.deliveries, List.filter_map, List.map_map] at hfilter
  rw [Answer.deliveries, deliveriesOf, List.map_map] at hfilter
  rw [List.map_map]
  exact hfilter

/-- A pending id lies in a range. -/
theorem Pending.held {ranges : List IdRange} {id : Int} (h : Pending ranges book id) : Held ranges id := by
  have hpos : 0 < ranges.countP (Holds · id) := by
    rw [h.once]
    exact Nat.one_pos
  obtain ⟨range, hrange, hin⟩ := List.countP_pos_iff.1 hpos
  exact ⟨range, hrange, of_decide_eq_true hin⟩

/-- Something is stored of a row that was routed. -/
theorem RoutedBy.exists_event {passes : List PassRecord} {ranges : List IdRange} {record : PassRecord}
    (h : RoutedBy passes ranges book row record) : ∃ event ∈ book.events, event.change = row.id := by
  obtain ⟨answer, -, -, nodes, hdestined, hperm⟩ := h.decided
  cases hstored : book.events.filter (·.change = row.id) with
  | nil =>
      rw [hstored, List.map_nil, List.nil_perm, List.map_eq_nil_iff] at hperm
      exact (hdestined.ne_nil hperm).elim
  | cons event rest =>
      have hmem : event ∈ book.events.filter (·.change = row.id) := hstored ▸ List.mem_cons_self
      rw [List.mem_filter] at hmem
      exact ⟨event, hmem.1, of_decide_eq_true hmem.2⟩

theorem Sound.fresh {config : Configuration} {registry : Registry} {store : Store}
    (hsetup : Service.setUp config registry = .ok service) (hfresh : Fresh store) :
    ∃ log book, Sound service { service := service, store := store } [] log book := by
  obtain ⟨hcheck, resolved, -, rfl⟩ := setUp_eq_ok.1 hsetup
  obtain ⟨last, hbatches⟩ := hfresh.batches
  obtain ⟨log, hchanges, hproper, hpositive⟩ := hfresh.changes
  refine ⟨log, ⟨⟨[], last⟩, []⟩, rfl, hcheck, rfl, hfresh.gaps, hchanges, ⟨hbatches, hfresh.events⟩,
    List.nodup_nil, hproper, hpositive, ⟨?_, ?_⟩, rfl, ?_, Or.inl ⟨rfl, rfl, rfl, rfl⟩⟩
  · exact fun _ h => (List.not_mem_nil h).elim
  · exact fun _ h => (List.not_mem_nil h).elim
  · exact fun _ h => (List.not_mem_nil h).elim

/-- What is stored of a row was decided about by some pass, and the row is in no range any more. -/
theorem Sound.not_held_of_stored (h : Sound service world rows log book) {event : BatchEvent}
    (hevent : event ∈ book.events) : ¬Held (activeRanges rows) event.change := by
  rw [h.events, List.mem_flatMap] at hevent
  obtain ⟨record, hrecord, hwritten⟩ := hevent
  obtain ⟨answer, hanswer, hid⟩ := List.mem_map.1 ((h.honours record hrecord).mem_ids hwritten)
  obtain ⟨-, -, -, hpasses⟩ | ⟨-, haccount⟩ := h.account
  · rw [hpasses] at hrecord
    exact (List.not_mem_nil hrecord).elim
  · rw [← hid]
    exact haccount.not_held hrecord hanswer

/-- A row in a range is pending. -/
theorem Sound.pending (h : Sound service world rows log book) {id : Int}
    (hheld : Held (activeRanges rows) id) : Pending (activeRanges rows) book id where
  once := by
    obtain ⟨-, -, hrows, -⟩ | ⟨htidy, -⟩ := h.account
    · subst hrows
      exact (held_nil _ hheld).elim
    · exact htidy.countP_eq_one hheld
  unstored := by
    intro event hevent heq
    exact h.not_held_of_stored hevent (heq ▸ hheld)

/-- A row that a pass decided about was routed by it. -/
theorem Sound.routedBy (h : Sound service world rows log book) (hrow : row ∈ log.rows)
    {record : PassRecord} (hrecord : record ∈ world.passes) (hchannel : record.channel = row.channel)
    (hid : row.id ∈ record.ids) : RoutedBy world.passes (activeRanges rows) book row record := by
  obtain ⟨-, -, -, hpasses⟩ | ⟨-, haccount⟩ := h.account
  · rw [hpasses] at hrecord
    exact (List.not_mem_nil hrecord).elim
  · obtain ⟨answer, hanswer, hsame⟩ := List.mem_map.1 hid
    obtain ⟨other, hother, -, ⟨columns, hread⟩, hnot⟩ := haccount.answered record hrecord answer hanswer
    have heq : other = row := h.properLog.eq_of_id hother hrow ((id_of_read hread).symm.trans hsame)
    subst heq
    obtain ⟨front, back, hsplit⟩ := List.append_of_mem hrecord
    -- no other pass decided about the row
    have hnodup := haccount.nodup
    rw [hsplit, List.flatMap_append, List.flatMap_cons] at hnodup
    have hperm : (front.flatMap PassRecord.ids ++ (record.ids ++ back.flatMap PassRecord.ids)).Perm
        (record.ids ++ (front ++ back).flatMap PassRecord.ids) := by
      rw [List.flatMap_append]
      exact List.perm_append_comm_assoc _ _ _
    obtain ⟨hids, -, hapart⟩ := List.nodup_append.1 (hperm.nodup_iff.1 hnodup)
    have halone : ∀ later ∈ front ++ back, ∀ event ∈ later.written, event.change ≠ other.id := by
      intro later hlater event hevent heq
      have hmem : later ∈ world.passes := by
        rw [hsplit]
        rw [List.mem_append] at hlater ⊢
        exact hlater.imp id (List.mem_cons_of_mem _)
      have hidLater := (h.honours later hmem).mem_ids hevent
      exact hapart _ hid _ (List.mem_flatMap.2 ⟨later, hlater, heq ▸ hidLater⟩) rfl
    have hstored : book.events.filter (·.change = other.id) =
        record.written.filter (·.change = other.id) := by
      have hnone : ∀ passes : List PassRecord, (∀ later ∈ passes, later ∈ front ++ back) →
          (passes.flatMap PassRecord.written).filter (·.change = other.id) = [] := by
        intro passes hsub
        rw [List.filter_eq_nil_iff]
        intro event hevent heq
        obtain ⟨later, hlater, hwritten⟩ := List.mem_flatMap.1 hevent
        exact halone later (hsub later hlater) event hwritten (of_decide_eq_true heq)
      rw [h.events, hsplit, List.flatMap_append, List.flatMap_cons, List.filter_append,
        List.filter_append, hnone front fun _ => List.mem_append_left _,
        hnone back fun _ => List.mem_append_right _, List.nil_append, List.append_nil]
    refine ⟨?_, hchannel, ⟨front, back, hsplit, halone⟩, hstored, answer, hanswer, ⟨columns, hread⟩,
      _, destined_targets answer.decisions, ?_⟩
    · exact hnot
    · rw [hstored, ← hsame]
      exact (h.honours record hrecord).nodes_perm hids hanswer

/-- After a committed cycle, a row of a routed channel that was not committed into a range given up before
is either pending or routed. -/
theorem Sound.pending_or_routedBy (h : Sound service world rows log book) (hcycles : 0 < world.cycles)
    (hrow : row ∈ log.rows) (hroutes : service.Routes row.channel) (hontime : row.id ∉ world.late) :
    (Pending (activeRanges rows) book row.id ∧
      ¬∃ record, RoutedBy world.passes (activeRanges rows) book row record) ∨
    (¬Pending (activeRanges rows) book row.id ∧
      ∃ record, RoutedBy world.passes (activeRanges rows) book row record) := by
  obtain ⟨hnone, -, -⟩ | ⟨-, haccount⟩ := h.account
  · omega
  · rw [← h.same] at hroutes
    obtain hheld | ⟨record, hrecord, hchannel, hid⟩ := haccount.complete row hrow hroutes hontime
    · refine Or.inl ⟨h.pending hheld, ?_⟩
      rintro ⟨record, hrouted⟩
      exact hrouted.gone hheld
    · have hrouted := h.routedBy hrow hrecord hchannel hid
      refine Or.inr ⟨?_, record, hrouted⟩
      exact fun hpending => hrouted.gone hpending.held

/-- What was given up is neither pending nor routed. -/
theorem Sound.lost (h : Sound service world rows log book) (hskip : Held world.skipped row.id) :
    ¬Pending (activeRanges rows) book row.id ∧
      ¬∃ record, RoutedBy world.passes (activeRanges rows) book row record := by
  obtain ⟨-, hskipped, -⟩ | ⟨-, haccount⟩ := h.account
  · rw [hskipped] at hskip
    exact (held_nil _ hskip).elim
  · constructor
    · exact fun hpending => haccount.abandoned row.id hskip hpending.held
    · rintro ⟨record, hrouted⟩
      obtain ⟨answer, hanswer, ⟨_, hread⟩, -⟩ := hrouted.decided
      obtain ⟨front, back, hsplit, -⟩ := hrouted.alone
      have hrecord : record ∈ world.passes := hsplit ▸ List.mem_append_right _ List.mem_cons_self
      refine haccount.undecided record hrecord answer hanswer ?_
      rw [id_of_read hread]
      exact hskip

/-- Every row is routed once.  Whatever happened, after a committed cycle a row of a routed channel that
was not committed into a range given up before is either pending or routed. -/
theorem pending_or_routed {config : Configuration} {registry : Registry} {store : Store}
    (hsetup : Service.setUp config registry = .ok service) (hfresh : Fresh store)
    (hreaches : Reaches { service := service, store := store } world) (hcycles : 0 < world.cycles) :
    ∃ rows log book, world.store.gaps = some rows ∧ world.store.changes = some log ∧
      world.store.Shows book ∧ book.events = world.passes.flatMap PassRecord.written ∧
      ∀ row ∈ log.rows, service.Routes row.channel → row.id ∉ world.late →
        (Pending (activeRanges rows) book row.id ∧
          ¬∃ record, RoutedBy world.passes (activeRanges rows) book row record) ∨
        (¬Pending (activeRanges rows) book row.id ∧
          ∃ record, RoutedBy world.passes (activeRanges rows) book row record) := by
  obtain ⟨log, book, hstart⟩ := Sound.fresh hsetup hfresh
  obtain ⟨rows, log, book, h⟩ := hstart.reaches hreaches
  refine ⟨rows, log, book, h.gaps, h.changes, h.shows, h.events, ?_⟩
  intro row hrow hroutes hontime
  exact h.pending_or_routedBy hcycles hrow hroutes hontime

/-- A cycle that commits is one that may happen next. -/
theorem Sound.exists_cycle (h : Sound service world rows log book) (circumstances : Circumstances)
    (disturbance : Disturbance)
    (hok : (service.cycleBy (service.disturbed circumstances.stalls disturbance) circumstances
      world.store).1.toOption.isSome = true) :
    ∃ next, Step world next ∧ next.cycles = world.cycles + 1 ∧ next.late = world.late ∧
      next.store = (service.cycleBy (service.disturbed circumstances.stalls disturbance) circumstances
        world.store).2.2 := by
  cases hrun : service.cycleBy (service.disturbed circumstances.stalls disturbance) circumstances
      world.store with
  | mk result rest =>
      rw [hrun] at hok
      cases result with
      | error fault => contradiction
      | ok report =>
          rw [← h.same] at hrun
          exact ⟨_, .cycle circumstances disturbance report rest.1 rest.2 hrun, rfl, rfl, rfl⟩

end routed

/-! ## one failed pass -/

theorem setUp_shop : Service.setUp shop (.builtin (.plain 0) shop.routing.topologyMarker) = .ok shopService := by
  have haccepted : shop.check = .ok () := by decide
  rw [Service.setUp, haccepted]
  rfl

theorem fresh_shopStore : Fresh (shopStore [] []) :=
  ⟨rfl, ⟨0, rfl⟩, rfl, _, rfl, .nil, fun _ h => (List.not_mem_nil h).elim⟩

/-- The store with two rows, the row with the later id committed first. -/
def shopCommitted : Store :=
  { shopStore [] [] with changes := some ⟨[shopRow 5 "I" "prices", shopRow 10 "I" "orders"], 10⟩ }

/-- The store after a cycle in which the pass on the prices breaks off. -/
def shopRouted : Store :=
  (shopService.cycleBy (shopService.disturbed calm.stalls diskFull) calm shopCommitted).2.2

/-- Both rows may be committed before the first cycle. -/
theorem reaches_shopCommitted :
    ∃ world, Reaches { service := shopService, store := shopStore [] [] } world ∧
      world.store = shopCommitted ∧ world.late = [] := by
  let first : Store := { shopStore [] [] with changes := some ⟨[shopRow 10 "I" "orders"], 10⟩ }
  refine ⟨_, .step (.step .refl (.commit (shopRow 10 "I" "orders") first ?_ ?_ rfl))
    (.commit (shopRow 5 "I" "prices") shopCommitted ?_ ?_ rfl), rfl, rfl⟩
  all_goals decide

/-- The row of the committed pass was routed, and that of the broken pass is pending. -/
theorem pending_or_routed_diskFull :
    ∃ world rows log book, Reaches { service := shopService, store := shopStore [] [] } world ∧
      0 < world.cycles ∧ world.store.gaps = some rows ∧ world.store.changes = some log ∧
      world.store.Shows book ∧ shopRow 10 "I" "orders" ∈ log.rows ∧ shopRow 5 "I" "prices" ∈ log.rows ∧
      (∃ record, RoutedBy world.passes (activeRanges rows) book (shopRow 10 "I" "orders") record) ∧
      Pending (activeRanges rows) book 5 := by
  obtain ⟨world, hworld, hcommitted, hlate⟩ := reaches_shopCommitted
  obtain ⟨_, _, hstart⟩ := Sound.fresh setUp_shop fresh_shopStore
  obtain ⟨_, _, _, hsound⟩ := hstart.reaches hworld
  obtain ⟨next, hstep, hcycles, hsame, hrouted⟩ := hsound.exists_cycle calm diskFull
    (by rw [hcommitted]; decide +kernel)
  rw [hcommitted, ← shopRouted] at hrouted
  have hnext := Reaches.step hworld hstep
  obtain ⟨rows, log, book, hgaps, hchanges, hshows, -, hall⟩ :=
    pending_or_routed setUp_shop fresh_shopStore hnext (by omega)
  have hlog : log = ⟨[shopRow 5 "I" "prices", shopRow 10 "I" "orders"], 10⟩ := by
    have heval : shopRouted.changes =
        some ⟨[shopRow 5 "I" "prices", shopRow 10 "I" "orders"], 10⟩ := by decide +kernel
    rw [hrouted, heval] at hchanges
    exact (Option.some.inj hchanges).symm
  have hheld : Held (activeRanges rows) 5 ∧ ¬Held (activeRanges rows) 10 := by
    have heval : shopRouted.gaps.map (fun rows =>
        decide (Held (activeRanges rows) 5 ∧ ¬Held (activeRanges rows) 10)) = some true := by
      decide +kernel
    rw [hrouted] at hgaps
    rw [hgaps] at heval
    exact of_decide_eq_true (Option.some.inj heval)
  refine ⟨next, rows, log, book, hnext, by omega, hgaps, hchanges, hshows, ?_, ?_, ?_, ?_⟩
  · rw [hlog]
    decide
  · rw [hlog]
    decide
  · have horders := hall (shopRow 10 "I" "orders") (by rw [hlog]; decide) (by unfold Service.Routes; decide)
      (by rw [hsame, hlate]; exact List.not_mem_nil)
    obtain ⟨hpending, -⟩ | ⟨-, hrecord⟩ := horders
    · exact (hheld.2 hpending.held).elim
    · exact hrecord
  · have hprices := hall (shopRow 5 "I" "prices") (by rw [hlog]; decide) (by unfold Service.Routes; decide)
      (by rw [hsame, hlate]; exact List.not_mem_nil)
    obtain ⟨hpending, -⟩ | ⟨-, record, hrecord⟩ := hprices
    · exact hpending
    · exact (hrecord.gone hheld.1).elim

/-! ## a forgotten gap -/

/-- The store after cycles of a service, if all of them commit. -/
def afterCycles (service : Service) : List Circumstances → Store → Option Store
  | [], store => some store
  | circumstances :: rest, store =>
    match service.cycle circumstances store with
    | (.ok _, _, left) => afterCycles service rest left
    | (.error _, _, _) => none

/-- Cycles that commit may happen one after the other. -/
theorem Sound.reaches_cycles {service : Service} {world : World} {rows : List GapRow}
    {log : Numbered ChangeRow} {book : Book} (h : Sound service world rows log book)
    {cycles : List Circumstances} {left : Store}
    (hcycles : afterCycles service cycles world.store = some left) :
    ∃ next, Reaches world next ∧ next.cycles = world.cycles + cycles.length ∧ next.store = left := by
  induction cycles generalizing world rows log book with
  | nil =>
      rw [afterCycles] at hcycles
      exact ⟨world, .refl, rfl, Option.some.inj hcycles⟩
  | cons circumstances cycles ih =>
      rw [afterCycles] at hcycles
      cases hrun : service.cycle circumstances world.store with
      | mk result rest =>
          rw [hrun] at hcycles
          cases result with
          | error fault => contradiction
          | ok report =>
              have hok : (service.cycleBy (service.disturbed circumstances.stalls .none) circumstances
                  world.store).1.toOption.isSome = true := by
                rw [Service.disturbed_none, ← Service.cycle, hrun]
                rfl
              obtain ⟨mid, hstep, hcount, -, hstore⟩ := h.exists_cycle circumstances .none hok
              rw [Service.disturbed_none, ← Service.cycle, hrun] at hstore
              obtain ⟨_, _, _, hmid⟩ := h.step hstep
              obtain ⟨next, hreaches, hnext, hleft⟩ := ih hmid (hstore ▸ hcycles)
              refine ⟨next, (Reaches.step .refl hstep).trans hreaches, ?_, hleft⟩
              rw [hnext, hcount, List.length_cons]
              omega

/-- A service that forgets its gaps after an hour. -/
def hourlyService : Service :=
  { shopService with config := { shop with routing := { gapRetention := 1 } } }

/-- A time at which no transaction is open. -/
def calmAt (now : Millis) : Circumstances := ⟨.known none, now, []⟩

/-- The store after two rows were routed, and the gap between them was skipped and forgotten. -/
def hourlyStore (log : Numbered ChangeRow) : Store :=
  { shopStore [⟨4, openEnd, "GP", 0, 0⟩] [] with
    changes := some log
    batches := some ⟨[⟨⟨1, unroutedNode, "orders", .ok, 2, 0, 2, 0, 0, 0⟩, "OK"⟩], 1⟩
    events := some [⟨1, 1, unknownRouter⟩, ⟨3, 1, unknownRouter⟩]
    watermarks := some [("orders", 3)]
    hasEventStatement := true }

/-- A row that is committed into a gap after it was skipped and forgotten is neither pending nor routed,
although no gap that is skipped holds it. -/
theorem rows_behind_forgotten_gaps_are_lost :
    ∃ now after last rows log book,
      Service.setUp hourlyService.config hourlyService.registry = .ok hourlyService ∧
      Reaches { service := hourlyService
                store := shopStore [] [shopRow 1 "I" "orders", shopRow 3 "I" "orders"] } now ∧
      now.store.insertChangeRow (shopRow 2 "I" "orders") = .ok after ∧
      (∃ gaps, now.store.gaps = some gaps ∧
        ∀ gap ∈ gaps, gap.status = GapStatus.skipped.code → ¬Holds gap.range 2) ∧
      Reaches (now.committing (shopRow 2 "I" "orders") after) last ∧ 0 < last.cycles ∧
      last.store.gaps = some rows ∧ last.store.changes = some log ∧ last.store.Shows book ∧
      shopRow 2 "I" "orders" ∈ log.rows ∧ hourlyService.Routes "orders" ∧
      ¬Pending (activeRanges rows) book 2 ∧
      ¬∃ record, RoutedBy last.passes (activeRanges rows) book (shopRow 2 "I" "orders") record := by
  let two : List ChangeRow := [shopRow 1 "I" "orders", shopRow 3 "I" "orders"]
  let three : List ChangeRow := [shopRow 1 "I" "orders", shopRow 2 "I" "orders", shopRow 3 "I" "orders"]
  have hsetup : Service.setUp hourlyService.config hourlyService.registry = .ok hourlyService := by
    have haccepted : hourlyService.config.check = .ok () := by decide
    rw [Service.setUp, haccepted]
    rfl
  have hfresh : Fresh (shopStore [] two) :=
    ⟨rfl, ⟨0, rfl⟩, rfl, _, rfl, ⟨by decide, by unfold IsWord; decide⟩, by decide⟩
  have hbefore : afterCycles hourlyService [calmAt 0, calmAt 0, calmAt 7200000] (shopStore [] two) =
      some (hourlyStore ⟨two, 0⟩) := by decide +kernel
  have hafter : afterCycles hourlyService [calmAt 7200000] (hourlyStore ⟨three, 2⟩) =
      some (hourlyStore ⟨three, 2⟩) := by decide +kernel
  obtain ⟨_, _, hstart⟩ := Sound.fresh hsetup hfresh
  obtain ⟨now, hnow, -, hstore⟩ := hstart.reaches_cycles hbefore
  obtain ⟨_, _, _, hsound⟩ := hstart.reaches hnow
  have hinsert : now.store.insertChangeRow (shopRow 2 "I" "orders") = .ok (hourlyStore ⟨three, 2⟩) := by
    rw [hstore]
    decide
  have hstep : Step now (now.committing (shopRow 2 "I" "orders") (hourlyStore ⟨three, 2⟩)) :=
    .commit _ _ (by decide) (by decide) hinsert
  obtain ⟨_, _, _, hcommitted⟩ := hsound.step hstep
  obtain ⟨last, hlast, hcount, hleft⟩ := hcommitted.reaches_cycles hafter
  have hnone : ∀ event ∈ [(⟨1, 1, unknownRouter⟩ : BatchEvent), ⟨3, 1, unknownRouter⟩],
      event.change ≠ 2 := by decide
  refine ⟨now, _, last, [⟨4, openEnd, "GP", 0, 0⟩], ⟨three, 2⟩,
    ⟨⟨[⟨⟨1, unroutedNode, "orders", .ok, 2, 0, 2, 0, 0, 0⟩, "OK"⟩], 1⟩,
      [⟨1, 1, unknownRouter⟩, ⟨3, 1, unknownRouter⟩]⟩, hsetup, hnow, hinsert,
    ⟨[⟨4, openEnd, "GP", 0, 0⟩], by rw [hstore]; rfl, by decide⟩, hlast, ?_, by rw [hleft]; rfl,
    by rw [hleft]; rfl, by rw [hleft]; exact ⟨rfl, rfl⟩, by decide, by unfold Service.Routes; decide,
    ?_, ?_⟩
  · rw [hcount]
    exact Nat.succ_pos _
  · intro hpending
    have honce := hpending.once
    revert honce
    decide
  · rintro ⟨record, hrouted⟩
    obtain ⟨event, hevent, heq⟩ := hrouted.exists_event
    exact hnone event hevent heq

end ChangeRouting
