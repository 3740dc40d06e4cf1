import ChangeRouting.Proofs.Service.World

/-!
# ChangeRouting.Proofs.Service.Harvest

What one committed cycle takes out of the gaps.

* `confirms_iff_reached` — a row is confirmed exactly if a committed pass on its channel reached it;
* `held_gapsAfter` — the gaps lose the confirmed rows and the ranges the cycle skips;
* `Cycled.harvest` — a row that leaves the gaps was decided about, once, by the pass on its channel.
-/

namespace ChangeRouting

/-- Whether the service routes a channel. -/
def Service.Routes (service : Service) (channel : String) : Prop :=
  ∃ other ∈ service.channels, other.id = channel

/-- What one cycle takes out of the gaps: the rows it decides about, and the ranges it gives up. -/
structure Harvest (service : Service) (log : List ChangeRow) (before : List IdRange)
    (records : List PassRecord) (skips after : List IdRange) : Prop where
  answered : ∀ record ∈ records, ∀ answer ∈ record.answers, ∃ row ∈ log,
    row.channel = record.channel ∧ (∃ columns, row.read columns = .ok answer.change) ∧
      Held before row.id ∧ ¬Held after row.id
  nodup : (records.flatMap PassRecord.ids).Nodup
  fewer : ∀ id, Held after id → Held before id
  covered : ∀ id, Held before id → Held after id ∨ Held skips id ∨ ∃ row ∈ log, row.id = id
  abandoned : ∀ id, Held skips id → Held before id ∧ ¬Held after id ∧ ∀ row ∈ log, row.id ≠ id
  complete : ∀ row ∈ log, service.Routes row.channel → Held before row.id →
    Held after row.id ∨ ∃ record ∈ records, record.channel = row.channel ∧ row.id ∈ record.ids

/-- A cycle of an accepted service went this way, and found a tidy gap table and a proper log. -/
structure Cycled (service : Service) (disturbance : Disturbance) (circumstances : Circumstances)
    (store : Store) (course : Course) (before : List GapRow) (log : Numbered ChangeRow) : Prop where
  accepted : service.config.check = .ok ()
  went : service.Went (service.disturbed circumstances.stalls disturbance) circumstances.now store course
  active : course.gaps = activeIn before
  gaps : course.ended.gaps = some before
  changes : course.ended.changes = some log
  keyed : Keyed before
  tidy : Tidy (activeRanges before)
  properLog : ProperLog log.rows

/-- What the reconciliation of a cycle goes by. -/
def Course.grounds (course : Course) (service : Service) (circumstances : Circumstances)
    (log : Numbered ChangeRow) : Grounds :=
  ⟨service.gapPolicy, course.state.coverage, circumstances.visibility, circumstances.now, log⟩

/-- The gap table after a cycle. -/
def Course.gapsAfter (course : Course) (service : Service) (circumstances : Circumstances)
    (log : Numbered ChangeRow) (before : List GapRow) : List GapRow :=
  purged service.gapPolicy circumstances.now
    ((course.grounds service circumstances log).settled circumstances.now course.gaps before)

section cycled

variable {service : Service} {disturbance : Disturbance} {circumstances : Circumstances} {store : Store}
  {course : Course} {before : List GapRow} {log : Numbered ChangeRow}

/-! ## the gaps -/

/-- A row of a routed channel is confirmed exactly if a committed pass reached it. -/
theorem confirms_iff_reached {row : ChangeRow}
    (h : Cycled service disturbance circumstances store course before log)
    (hroutes : service.Routes row.channel) :
    course.state.coverage.confirms row.channel row.id = true ↔
      ∃ turn ∈ course.turns, ∃ outcome, turn.outcome = some outcome ∧
        turn.channel.id = row.channel ∧ row.id ≤ outcome.through := by
  constructor
  · intro hconfirms
    obtain ⟨channel, hchannel, hid⟩ := hroutes
    rw [← h.went.map_channel, List.mem_map] at hchannel
    obtain ⟨turn, hturn, rfl⟩ := hchannel
    have hreach := reach?_through (nodup_turns h.accepted h.went) hturn {}
    rw [hid, Turn.reach] at hreach
    rw [Coverage.confirms, Course.state, hreach] at hconfirms
    cases houtcome : turn.outcome with
    | none =>
        rw [houtcome] at hconfirms
        contradiction
    | some outcome =>
        rw [houtcome] at hconfirms
        exact ⟨turn, hturn, outcome, houtcome, hid, of_decide_eq_true hconfirms⟩
  · rintro ⟨turn, hturn, outcome, houtcome, hid, hle⟩
    exact confirms_committed h.accepted h.went hturn houtcome hid.symm hle

/-- The gaps a cycle was given hold what the active ranges hold. -/
theorem Cycled.held_gaps (h : Cycled service disturbance circumstances store course before log)
    (id : Int) : Held (course.gaps.map Gap.range) id ↔ Held (activeRanges before) id := by
  rw [h.active, held_perm (ranges_activeIn before)]

/-- What the reconciliation of a cycle comes to. -/
theorem Cycled.effect (h : Cycled service disturbance circumstances store course before log) :
    Effect course.state.coverage log.rows before
      ((course.grounds service circumstances log).settled circumstances.now course.gaps before)
      (course.gapsAfter service circumstances log before)
      { (course.grounds service circumstances log).report course.gaps with purged := 0 } := by
  have hlog : ProperLog (course.grounds service circumstances log).log.rows := h.properLog
  rw [Course.gapsAfter, h.active]
  exact effect_settled hlog h.tidy h.keyed circumstances.now 0

/-- The ranges a cycle skips are those its reconciliation marks. -/
theorem Cycled.mem_skips (h : Cycled service disturbance circumstances store course before log)
    (range : IdRange) :
    range ∈ service.skips circumstances course ↔
      Marked before ((course.grounds service circumstances log).settled circumstances.now course.gaps
        before) range := by
  have hlog : course.ended.changes = some (course.grounds service circumstances log).log := h.changes
  have hsettle := settleGaps_on h.gaps hlog circumstances.now course.gaps
  have hskips : service.skips circumstances course = (course.gaps.map Gap.range).filter fun range =>
      statusAt ((course.grounds service circumstances log).settled circumstances.now course.gaps before)
        range = some GapStatus.skipped.code := by
    rw [Service.skips]
    simp only [Course.grounds] at hsettle
    simp only [hsettle, Store.gaps_withGaps, Option.getD_some]
    rfl
  rw [hskips, List.mem_filter, decide_eq_true_eq, Marked, h.active, (ranges_activeIn before).mem_iff]

/-- What the skipped ranges hold. -/
theorem Cycled.held_skips (h : Cycled service disturbance circumstances store course before log)
    (id : Int) :
    Held (service.skips circumstances course) id ↔
      ∃ range, Marked before ((course.grounds service circumstances log).settled circumstances.now
        course.gaps before) range ∧ Holds range id := by
  simp only [Held, h.mem_skips]

/-- A gap is skipped if that is its fate. -/
theorem Cycled.range_mem_skips (h : Cycled service disturbance circumstances store course before log)
    {gap : Gap} (hgap : gap ∈ course.gaps) :
    gap.range ∈ service.skips circumstances course ↔
      (course.grounds service circumstances log).fate gap = .skipped := by
  have hlog : ProperLog (course.grounds service circumstances log).log.rows := h.properLog
  rw [h.active] at hgap
  have hranges := h.tidy.perm (ranges_activeIn before).symm
  rw [h.mem_skips, h.active, marked_iff hlog h.tidy h.keyed]
  constructor
  · rintro ⟨other, hother, hsame, hfate⟩
    rw [← List.inj_on_of_nodup_map hranges.nodup hother hgap hsame]
    exact hfate
  · exact fun hfate => ⟨gap, hgap, rfl, hfate⟩

/-- The gaps lose the rows that were confirmed and the ranges that are skipped. -/
theorem held_gapsAfter (h : Cycled service disturbance circumstances store course before log)
    (id : Int) :
    Held (activeRanges (course.gapsAfter service circumstances log before)) id ↔
      Held (activeRanges before) id ∧
        ¬(∃ row ∈ log.rows, row.id = id ∧
          course.state.coverage.confirms row.channel row.id = true) ∧
        ¬Held (service.skips circumstances course) id := by
  rw [h.held_skips]
  exact h.effect.held id

/-- No row lies in a range that is skipped. -/
theorem Cycled.not_held_skips (h : Cycled service disturbance circumstances store course before log)
    {row : ChangeRow} (hrow : row ∈ log.rows) : ¬Held (service.skips circumstances course) row.id := by
  rw [h.held_skips]
  rintro ⟨range, hmarked, hin⟩
  exact (h.effect.marked range hmarked).2 row hrow hin

/-! ## the records -/

/-- Every record is that of a committed turn. -/
theorem exists_turn {lookups : Lookups} {gaps : List Gap} {turns : List Turn} {record : PassRecord}
    (h : record ∈ service.recordsIn disturbance lookups gaps turns) :
    ∃ turn ∈ turns, ∃ outcome, turn.outcome = some outcome ∧
      record = service.recordIn disturbance lookups gaps turn := by
  obtain ⟨turn, hturn, rfl⟩ := List.mem_map.1 h
  obtain ⟨hmem, hsome⟩ := List.mem_filter.1 hturn
  obtain ⟨outcome, houtcome⟩ := Option.isSome_iff_exists.1 hsome
  exact ⟨turn, hmem, outcome, houtcome, rfl⟩

theorem recordIn_mem {lookups : Lookups} {gaps : List Gap} {turns : List Turn} {turn : Turn}
    {outcome : PassOutcome} (h : turn ∈ turns) (houtcome : turn.outcome = some outcome) :
    service.recordIn disturbance lookups gaps turn ∈
      service.recordsIn disturbance lookups gaps turns := by
  refine List.mem_map_of_mem (List.mem_filter.2 ⟨h, ?_⟩)
  rw [houtcome]
  rfl

/-- The records of a cycle are those of different channels. -/
theorem Cycled.pairwise_channel (h : Cycled service disturbance circumstances store course before log) :
    (service.recordsIn disturbance course.lookups course.gaps course.turns).Pairwise
      fun a b => a.channel ≠ b.channel := by
  have hids : (committed course.turns).Pairwise fun a b => a.channel.id ≠ b.channel.id :=
    (List.pairwise_map.1 (nodup_turns h.accepted h.went)).filter _
  refine List.pairwise_map.2 (hids.imp fun hne => ?_)
  rw [channel_recordIn, channel_recordIn]
  exact hne

/-- Passes on different channels decide about different rows. -/
theorem nodup_ids {records : List PassRecord} (hlog : ProperLog log.rows)
    (hchannels : records.Pairwise fun a b => a.channel ≠ b.channel)
    (hnodup : ∀ record ∈ records, record.ids.Nodup)
    (hrows : ∀ record ∈ records, ∀ id ∈ record.ids, ∃ row ∈ log.rows,
      row.id = id ∧ row.channel = record.channel) :
    (records.flatMap PassRecord.ids).Nodup := by
  refine List.nodup_flatMap.2 ⟨hnodup, hchannels.imp_of_mem fun {a b} ha hb hne id hida hidb => hne ?_⟩
  obtain ⟨row, hrow, hid, hchannel⟩ := hrows a ha id hida
  obtain ⟨other, hother, hid', hchannel'⟩ := hrows b hb id hidb
  rw [← hchannel, ← hchannel', hlog.eq_of_id hrow hother (hid.trans hid'.symm)]

/-- A pass decided about rows of its channel that were in the gaps and no longer are. -/
theorem Cycled.answered (h : Cycled service disturbance circumstances store course before log)
    {turn : Turn} {outcome : PassOutcome} (hturn : turn ∈ course.turns)
    (houtcome : turn.outcome = some outcome)
    (hdid : Did (service.readOptions turn.channel).columns (wanted log.rows turn.channel.id course.gaps)
      outcome.through (service.recordIn disturbance course.lookups course.gaps turn))
    {answer : Answer}
    (hanswer : answer ∈ (service.recordIn disturbance course.lookups course.gaps turn).answers) :
    ∃ row ∈ log.rows,
      row.channel = (service.recordIn disturbance course.lookups course.gaps turn).channel ∧
        (∃ columns, row.read columns = .ok answer.change) ∧ Held (activeRanges before) row.id ∧
        ¬Held (activeRanges (course.gapsAfter service circumstances log before)) row.id := by
  obtain ⟨row, hrow, hread, hle⟩ := hdid.answered answer hanswer
  rw [wanted, List.mem_filter, List.mem_filter, List.any_eq_true] at hrow
  obtain ⟨⟨hmem, hchannel⟩, gap, hgap, hcontains⟩ := hrow
  have hid := of_decide_eq_true hchannel
  have hconfirms := confirms_committed h.accepted h.went hturn houtcome hid hle
  refine ⟨row, hmem, ?_, ⟨_, hread⟩, ?_, ?_⟩
  · rw [channel_recordIn]
    exact hid
  · rw [← h.held_gaps]
    exact ⟨gap.range, List.mem_map_of_mem hgap, Gap.contains_iff_holds.1 hcontains⟩
  · rw [held_gapsAfter h]
    exact fun hheld => hheld.2.1 ⟨row, hmem, rfl, hconfirms⟩

/-- What a cycle harvests, given what its passes did. -/
theorem Cycled.harvest (h : Cycled service disturbance circumstances store course before log)
    (hdid : ∀ turn ∈ course.turns, ∀ outcome, turn.outcome = some outcome →
      Did (service.readOptions turn.channel).columns (wanted log.rows turn.channel.id course.gaps)
        outcome.through (service.recordIn disturbance course.lookups course.gaps turn)) :
    Harvest service log.rows (activeRanges before)
      (service.recordsIn disturbance course.lookups course.gaps course.turns)
      (service.skips circumstances course)
      (activeRanges (course.gapsAfter service circumstances log before)) where
  answered := by
    intro record hrecord answer hanswer
    obtain ⟨turn, hturn, outcome, houtcome, rfl⟩ := exists_turn hrecord
    exact h.answered hturn houtcome (hdid turn hturn outcome houtcome) hanswer
  nodup := by
    refine nodup_ids h.properLog h.pairwise_channel ?_ ?_
    · intro record hrecord
      obtain ⟨turn, hturn, outcome, houtcome, rfl⟩ := exists_turn hrecord
      exact (hdid turn hturn outcome houtcome).nodup
    · intro record hrecord id hid
      obtain ⟨turn, hturn, outcome, houtcome, rfl⟩ := exists_turn hrecord
      obtain ⟨answer, hanswer, rfl⟩ := List.mem_map.1 hid
      obtain ⟨row, hrow, hchannel, ⟨_, hread⟩, -⟩ :=
        h.answered hturn houtcome (hdid turn hturn outcome houtcome) hanswer
      exact ⟨row, hrow, (id_of_read hread).symm, hchannel⟩
  fewer := fun id hheld => ((held_gapsAfter h id).1 hheld).1
  covered := by
    intro id hheld
    rw [held_gapsAfter h]
    by_cases hskip : Held (service.skips circumstances course) id
    · exact Or.inr (Or.inl hskip)
    · by_cases hrow : ∃ row ∈ log.rows, row.id = id ∧
          course.state.coverage.confirms row.channel row.id = true
      · obtain ⟨row, hmem, hid, -⟩ := hrow
        exact Or.inr (Or.inr ⟨row, hmem, hid⟩)
      · exact Or.inl ⟨hheld, hrow, hskip⟩
  abandoned := by
    intro id hskip
    obtain ⟨range, hrange, hin⟩ := hskip
    refine ⟨⟨range, ((h.mem_skips range).1 hrange).1, hin⟩, ?_, ?_⟩
    · rw [held_gapsAfter h]
      exact fun hheld => hheld.2.2 ⟨range, hrange, hin⟩
    · rintro row hrow rfl
      exact h.not_held_skips hrow ⟨range, hrange, hin⟩
  complete := by
    intro row hrow hroutes hheld
    by_cases hconfirms : course.state.coverage.confirms row.channel row.id = true
    · obtain ⟨turn, hturn, outcome, houtcome, hchannel, hle⟩ :=
        (confirms_iff_reached h hroutes).1 hconfirms
      refine Or.inr ⟨_, recordIn_mem hturn houtcome, ?_, ?_⟩
      · rw [channel_recordIn]
        exact hchannel
      · refine (hdid turn hturn outcome houtcome).complete row ?_ hle
        obtain ⟨range, hrange, hin⟩ := (h.held_gaps row.id).2 hheld
        obtain ⟨gap, hgap, rfl⟩ := List.mem_map.1 hrange
        rw [wanted, List.mem_filter, List.mem_filter, List.any_eq_true]
        exact ⟨⟨hrow, decide_eq_true hchannel.symm⟩, gap, hgap, Gap.contains_iff_holds.2 hin⟩
    · refine Or.inl ((held_gapsAfter h row.id).2 ⟨hheld, ?_, h.not_held_skips hrow⟩)
      rintro ⟨other, hother, hid, hconf⟩
      rw [h.properLog.eq_of_id hother hrow hid] at hconf
      exact hconfirms hconf

end cycled

end ChangeRouting
