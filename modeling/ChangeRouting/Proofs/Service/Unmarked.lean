import ChangeRouting.Proofs.Service.World

/-!
# ChangeRouting.Proofs.Service.Unmarked

Marks hide nothing, because there never are any.

* `Proceeds` — rows are committed under any ids, and cycles commit or are taken back, with any passes failing
  and any limits on them;
* `HidesNothing` — a pass reports as examined what it routed, and routed what it reports as examined;
* `hidesNothing_of_turn` — so does every committed pass of a service without marks;
* `Unmarked.proceeds` — so such a service stays as it is;
* `marks_hide_nothing` — whatever happens, no reading skips a change.
-/

namespace ChangeRouting

/-- A service and its store, as rows are committed and cycles run, however they end. -/
inductive Proceeds (service : Service) (store : Store) : Service → Store → Prop
  | refl : Proceeds service store service store
  | commit {now : Service} {found after : Store} (row : ChangeRow) (hid : IsWord row.id) :
    Proceeds service store now found → found.insertChangeRow row = .ok after →
    Proceeds service store now after
  | cycle {now after : Service} {found left : Store} (circumstances : Circumstances)
    (disturbance : Disturbance) (result : Except Fault CycleReport) : Proceeds service store now found →
    now.cycleBy (now.disturbed circumstances.stalls disturbance) circumstances found =
      (result, after, left) →
    Proceeds service store after left

/-- The rows are in id order, and each id is a word. -/
structure Listed (rows : List ChangeRow) : Prop where
  ascending : rows.Pairwise (·.id < ·.id)
  words : ∀ row ∈ rows, IsWord row.id

theorem Listed.place {row : ChangeRow} {rows placed : List ChangeRow} (h : Listed rows)
    (hid : IsWord row.id) (hplaced : Store.placeChange row rows = some placed) : Listed placed where
  ascending := ascending_placeChange h.ascending hplaced
  words := forall_mem_placeChange h.words hid hplaced

/-! ## a turn -/

/-- A committed pass hid nothing: it skipped nothing, and what it routed it reports as examined. -/
structure HidesNothing (service : Service) (disturbance : Disturbance) (course : Course) (turn : Turn)
    (outcome : PassOutcome) : Prop where
  skipped : outcome.report.rowsSkipped = 0
  /-- What reconciliation goes by. -/
  reach : course.state.coverage.reach? turn.channel.id = some (.through outcome.through)
  routed : ∀ id ∈ (service.recordIn disturbance course.lookups course.gaps turn).ids, id ≤ outcome.through
  marks : ∀ mark ∈ outcome.routed, mark.2 ≤ outcome.through

section turn

variable {service after : Service} {disturbance : Disturbance} {circumstances : Circumstances}
  {store left : Store} {report : CycleReport} {course : Course} {turn : Turn} {outcome : PassOutcome}
  {rows : List GapRow} {log : Numbered ChangeRow}

theorem Service.marksOf_of_unmarked (h : service.marks = []) (channel : String) :
    service.marksOf channel = [] := by
  rw [Service.marksOf, h]
  rfl

/-- Without marks a pass hides nothing: it routed the rows in the gaps, up to its reach. -/
theorem hidesNothing_of_turn (haccepted : service.config.check = .ok ()) (hmarks : service.marks = [])
    (hgaps : store.gaps = some rows) (hchanges : store.changes = some log) (hlisted : Listed log.rows)
    (hwent : service.Went (service.disturbed circumstances.stalls disturbance) circumstances.now store
      course) (hturn : turn ∈ course.turns) (houtcome : turn.outcome = some outcome) :
    HidesNothing service disturbance course turn outcome ∧
      ∀ row ∈ log.rows, row.channel = turn.channel.id → row.id ≤ outcome.through →
        Held (course.gaps.map Gap.range) row.id →
        row.id ∈ (service.recordIn disturbance course.lookups course.gaps turn).ids := by
  obtain ⟨before, -, hactive, -, -⟩ := hwent.given hgaps hchanges
  obtain ⟨_, -, hloaded, -⟩ := loadGaps_eq_ok hgaps hwent.gaps
  have hmade := hturn
  rw [hwent.turns] at hmade
  have hfound : turn.before.changes = some log := by
    have hgiven : turn.before.changes = course.loaded.changes :=
      congrArg Prod.snd (given_of_mem_turns hmade)
    rw [hgiven, hloaded]
    exact hchanges
  have hsorted : course.gaps.Pairwise fun a b => a.start ≤ b.start := hactive ▸ pairwise_activeIn before
  have hrun := pass_of_turn (eq_turnOf_of_mem hmade) houtcome
  obtain ⟨hdid, hmarked⟩ := decides_of_pass hfound hlisted.ascending
    (fun row hrow => (hlisted.words row hrow).2) hsorted (service.marksOf_of_unmarked hmarks _) hrun
  rw [id_limited] at hdid
  obtain ⟨_, _, _, -, -, -, hout⟩ := pass_eq_ok hrun
  refine ⟨⟨?_, ?_, ?_, hmarked⟩, ?_⟩
  · have hskipped : outcome.report.rowsSkipped = (service.readingOf course.gaps
        (turn.channel.limited (disturbance.limits turn.channel.id)) turn.before).skipped.length := by
      rw [hout]
      rfl
    rw [hskipped, Service.readingOf, service.marksOf_of_unmarked hmarks, skipped_read_nil]
    rfl
  · rw [Course.state, reach?_through (nodup_turns haccepted hwent) hturn, Turn.reach, houtcome]
    rfl
  · intro id hid
    obtain ⟨answer, hanswer, rfl⟩ := List.mem_map.1 hid
    obtain ⟨row, -, hread, hle⟩ := hdid.answered answer hanswer
    rw [id_of_read hread]
    exact hle
  · intro row hrow hchannel hle hheld
    refine hdid.complete row (List.mem_filter.2 ⟨List.mem_filter.2 ⟨hrow, ?_⟩, ?_⟩) hle
    · exact decide_eq_true hchannel
    · exact any_contains_iff.2 hheld

/-- A cycle that commits leaves the changes as they are and some gaps, and remembers no marks. -/
theorem unmarked_of_cycle (haccepted : service.config.check = .ok ()) (hmarks : service.marks = [])
    (hgaps : store.gaps = some rows) (hchanges : store.changes = some log) (hlisted : Listed log.rows)
    (h : service.cycleBy (service.disturbed circumstances.stalls disturbance) circumstances store =
      (.ok report, after, left)) :
    after = service ∧ (∃ leftRows, left.gaps = some leftRows) ∧ left.changes = some log := by
  obtain ⟨course, gaps, hwent, hreconcile, -, rfl⟩ := cycleBy_eq_ok.1 h
  obtain ⟨before, -, -, hended, hlog⟩ := hwent.given hgaps hchanges
  let on : Grounds := ⟨service.gapPolicy, course.state.coverage, circumstances.visibility,
    circumstances.now, log⟩
  obtain ⟨count, hleft⟩ := reconcile_on on hended hlog circumstances.now course.gaps
  rw [hreconcile, Prod.mk.injEq] at hleft
  refine ⟨rememberAll_turns hmarks fun turn hturn outcome houtcome => ?_, ?_, ?_⟩
  · exact marksAfter_nil
      (hidesNothing_of_turn haccepted hmarks hgaps hchanges hlisted hwent hturn houtcome).1.marks
  · rw [hleft.2]
    exact ⟨_, rfl⟩
  · rw [hleft.2]
    exact hlog

end turn

/-! ## whatever happens -/

/-- The service is as it was set up, and its store has gaps and changes. -/
structure Unmarked (fresh now : Service) (store : Store) : Prop where
  same : now = fresh
  gaps : ∃ rows, store.gaps = some rows
  changes : ∃ log, store.changes = some log ∧ Listed log.rows

section run

variable {fresh now : Service} {start store : Store}

theorem Unmarked.commit {row : ChangeRow} {after : Store} (h : Unmarked fresh now store)
    (hid : IsWord row.id) (hinsert : store.insertChangeRow row = .ok after) : Unmarked fresh now after := by
  obtain ⟨log, hchanges, hlisted⟩ := h.changes
  obtain ⟨placed, hplaced, rfl⟩ := insertChangeRow_eq_ok hchanges hinsert
  exact ⟨h.same, h.gaps, _, rfl, hlisted.place hid hplaced⟩

theorem Unmarked.cycle {after : Service} {left : Store} {circumstances : Circumstances}
    {disturbance : Disturbance} {result : Except Fault CycleReport} (haccepted : fresh.config.check = .ok ())
    (hmarks : fresh.marks = []) (h : Unmarked fresh now store)
    (hcycle : now.cycleBy (now.disturbed circumstances.stalls disturbance) circumstances store =
      (result, after, left)) : Unmarked fresh after left := by
  obtain ⟨rfl, ⟨rows, hgaps⟩, log, hchanges, hlisted⟩ := h
  cases result with
  | error fault =>
      obtain ⟨rfl, rfl⟩ := cycleBy_eq_error hcycle
      exact ⟨rfl, ⟨rows, hgaps⟩, log, hchanges, hlisted⟩
  | ok report =>
      obtain ⟨rfl, hleft, hleftChanges⟩ :=
        unmarked_of_cycle haccepted hmarks hgaps hchanges hlisted hcycle
      exact ⟨rfl, hleft, log, hleftChanges, hlisted⟩

theorem Unmarked.proceeds (haccepted : fresh.config.check = .ok ()) (hmarks : fresh.marks = [])
    (h : Unmarked fresh fresh start) (hrun : Proceeds fresh start now store) : Unmarked fresh now store := by
  induction hrun with
  | refl => exact h
  | commit row hid _ hinsert ih => exact ih.commit hid hinsert
  | cycle circumstances disturbance result _ hcycle ih => exact ih.cycle haccepted hmarks hcycle

/-- However a service proceeds, it stays as it was set up: it keeps no marks and skips nothing.  In each
cycle that commits, the passes report as examined what they routed, and routed whatever lies in an active
gap and is reported as examined. -/
theorem marks_hide_nothing {config : Configuration} {registry : Registry} {rows : List GapRow}
    {log : Numbered ChangeRow} (hsetup : Service.setUp config registry = .ok fresh)
    (hgaps : start.gaps = some rows) (hchanges : start.changes = some log) (hlisted : Listed log.rows)
    (hrun : Proceeds fresh start now store) :
    now = fresh ∧ now.marks = [] ∧
    (∀ gaps channel other, (now.readingOf gaps channel other).skipped = []) ∧
    ∀ circumstances disturbance report after left,
      now.cycleBy (now.disturbed circumstances.stalls disturbance) circumstances store =
        (.ok report, after, left) →
      ∃ course log,
        now.Went (now.disturbed circumstances.stalls disturbance) circumstances.now store course ∧
        store.changes = some log ∧ after.marks = [] ∧
        (∀ pass ∈ report.channels, pass.rowsSkipped = 0) ∧
        ∀ turn ∈ course.turns,
          (∀ outcome, turn.outcome = some outcome → HidesNothing now disturbance course turn outcome) ∧
          ∀ row ∈ log.rows, row.channel = turn.channel.id → Held (course.gaps.map Gap.range) row.id →
            course.state.coverage.confirms row.channel row.id = true →
            (∃ outcome, turn.outcome = some outcome) ∧
              row.id ∈ (now.recordIn disturbance course.lookups course.gaps turn).ids := by
  obtain ⟨hcheck, resolved, -, heq⟩ := setUp_eq_ok.1 hsetup
  have haccepted : fresh.config.check = .ok () := by
    rw [heq]
    exact hcheck
  have hmarks : fresh.marks = [] := by rw [heq]
  obtain ⟨rfl, ⟨found, hfound⟩, logged, hlogged, hlistedNow⟩ :=
    Unmarked.proceeds haccepted hmarks ⟨rfl, ⟨rows, hgaps⟩, log, hchanges, hlisted⟩ hrun
  refine ⟨rfl, hmarks, fun gaps channel other => ?_,
    fun circumstances disturbance report after left hcommit => ?_⟩
  · rw [Service.readingOf, now.marksOf_of_unmarked hmarks]
    exact skipped_read_nil
  · obtain ⟨rfl, -, -⟩ := unmarked_of_cycle haccepted hmarks hfound hlogged hlistedNow hcommit
    obtain ⟨course, gaps, hwent, -, rfl, -⟩ := cycleBy_eq_ok.1 hcommit
    have hturns {turn : Turn} {outcome : PassOutcome} (hturn : turn ∈ course.turns)
        (houtcome : turn.outcome = some outcome) :=
      hidesNothing_of_turn haccepted hmarks hfound hlogged hlistedNow hwent hturn houtcome
    refine ⟨course, logged, hwent, hlogged, hmarks, fun pass hpass => ?_, fun turn hturn =>
      ⟨fun outcome houtcome => (hturns hturn houtcome).1, fun row hrow hchannel hheld hconfirms => ?_⟩⟩
    · obtain ⟨entry, hentry, rfl⟩ := List.mem_map.1 hpass
      obtain ⟨turn, hturn, outcome, houtcome, rfl⟩ := mem_passes.1 hentry
      exact (hturns hturn houtcome).1.skipped
    · -- the rows of a failed pass are not confirmed, those of a committed one up to its reach
      have hreach := reach?_through (nodup_turns haccepted hwent) hturn {}
      rw [Coverage.confirms, hchannel, Course.state, hreach, Turn.reach] at hconfirms
      cases houtcome : turn.outcome with
      | none =>
          rw [houtcome] at hconfirms
          contradiction
      | some outcome =>
          rw [houtcome] at hconfirms
          exact ⟨⟨outcome, rfl⟩,
            (hturns hturn houtcome).2 row hrow hchannel (of_decide_eq_true hconfirms) hheld⟩

/-- A pass stops before it begins a second transaction. -/
def oneTransaction : Disturbance := ⟨fun _ => none, fun _ => some (1, 0)⟩

/-- A row of the log, made in a transaction. -/
def madeIn (transaction : String) (id : Int) : ChangeRow :=
  { shopRow id "I" "orders" with transaction := some transaction }

/-- Two rows of two transactions, of which a cycle routed the first. -/
def halfRouted : Except Fault CycleReport × Service × Store :=
  shopService.cycleBy (shopService.disturbed calm.stalls oneTransaction) calm
    (shopStore [⟨1, openEnd, "GP", 0, 0⟩] [madeIn "first" 5, madeIn "second" 7])

/-- A row below the one that was routed is committed late, and under its transaction.  The next cycle reads
it, although a row above it was routed. -/
theorem marks_hide_nothing_halfRouted :
    ∃ late report after left, halfRouted.2.2.insertChangeRow (madeIn "first" 2) = .ok late ∧
      shopService.cycleBy (shopService.disturbed calm.stalls .none) calm late = (.ok report, after, left) ∧
      report.rowsRead = 2 ∧ after.marks = [] ∧ ∀ pass ∈ report.channels, pass.rowsSkipped = 0 := by
  have hsetup : Service.setUp shopService.config shopService.registry = .ok shopService := by
    have haccepted : shopService.config.check = .ok () := by decide
    rw [Service.setUp, haccepted]
    rfl
  have hgaps : (shopStore [⟨1, openEnd, "GP", 0, 0⟩] [madeIn "first" 5, madeIn "second" 7]).gaps =
      some [⟨1, openEnd, "GP", 0, 0⟩] := rfl
  have hchanges : (shopStore [⟨1, openEnd, "GP", 0, 0⟩] [madeIn "first" 5, madeIn "second" 7]).changes =
      some ⟨[madeIn "first" 5, madeIn "second" 7], 0⟩ := rfl
  have hlisted : Listed [madeIn "first" 5, madeIn "second" 7] := ⟨by decide, by unfold IsWord; decide⟩
  have hhalf : Proceeds shopService (shopStore [⟨1, openEnd, "GP", 0, 0⟩]
      [madeIn "first" 5, madeIn "second" 7]) halfRouted.2.1 halfRouted.2.2 := by
    refine .cycle calm oneTransaction halfRouted.1 .refl ?_
    rw [halfRouted]
  have hread : (halfRouted.2.2.insertChangeRow (madeIn "first" 2)).toOption.bind (fun late =>
      (shopService.cycleBy (shopService.disturbed calm.stalls .none) calm late).1.toOption.map
        CycleReport.rowsRead) = some 2 := by decide +kernel
  generalize halfRouted = half at hhalf hread ⊢
  obtain ⟨late, hlate, hread⟩ := Option.bind_eq_some_iff.1 hread
  obtain ⟨report, hreport, hread⟩ := Option.map_eq_some_iff.1 hread
  rw [toOption_eq_some_iff] at hlate hreport
  have hsame := (marks_hide_nothing hsetup hgaps hchanges hlisted hhalf).1
  rw [hsame] at hhalf
  have hrun := hhalf.commit (madeIn "first" 2) (by unfold IsWord; decide) hlate
  obtain ⟨-, -, -, hcycles⟩ := marks_hide_nothing hsetup hgaps hchanges hlisted hrun
  cases hcommit : shopService.cycleBy (shopService.disturbed calm.stalls .none) calm late with
  | mk result rest =>
      rw [hcommit] at hreport
      cases hreport
      obtain ⟨_, _, -, -, hmarks, hskipped, -⟩ := hcycles calm .none report rest.1 rest.2 hcommit
      exact ⟨late, report, rest.1, rest.2, hlate, hcommit, hread, hmarks, hskipped⟩

end run

end ChangeRouting
