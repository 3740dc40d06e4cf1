import ChangeRouting.Proofs.Service.Failure
import ChangeRouting.Proofs.Service.Pass

/-!
# ChangeRouting.Proofs.Service.World

A service at work while changes are committed.

* `World`, `Step`, `Reaches` — rows are committed in any order, and cycles commit or are taken back, with
  any passes failing and any limits on them;
* `honours_turns` — the turns of a cycle store what their routers decided;
* `rememberAll_of_unmarked` — a service that started without marks never keeps any.
-/

namespace ChangeRouting

/-- A service at work on a store, and what happened so far. -/
structure World where
  service : Service
  store : Store
  /-- The number of cycles that committed. -/
  cycles : Nat := 0
  /-- The passes that were committed, in order. -/
  passes : List PassRecord := []
  /-- The ranges that cycles marked as ones to skip, forgotten since or not. -/
  skipped : List IdRange := []
  /-- The ids that were committed into one of these ranges. -/
  late : List Int := []

/-- How a cycle goes up to its reconciliation, if its gaps load and its tables can be read. -/
def Service.course (service : Service) (passes : Passes) (now : Millis) (store : Store) : Course :=
  let loading := (loadGaps now).on store
  let gaps := loading.1.toOption.getD []
  let lookups : Lookups :=
    ⟨loading.2.allSnapshots.toOption.getD [], loading.2.allNodes.toOption.getD []⟩
  { gaps := gaps
    lookups := lookups
    loaded := loading.2
    turns := turns (passes lookups gaps) service.channels loading.2
    ended := storeAfter (passes lookups gaps) service.channels loading.2 }

/-- The record of a turn whose pass was committed. -/
def Service.recordIn (service : Service) (disturbance : Disturbance) (lookups : Lookups)
    (gaps : List Gap) (turn : Turn) : PassRecord :=
  service.recordOf lookups gaps (turn.channel.limited (disturbance.limits turn.channel.id))
    turn.before turn.after

/-- The records of the turns whose pass was committed. -/
def Service.recordsIn (service : Service) (disturbance : Disturbance) (lookups : Lookups)
    (gaps : List Gap) (turns : List Turn) : List PassRecord :=
  (committed turns).map (service.recordIn disturbance lookups gaps)

/-- The ranges a cycle marks as ones to skip, before it forgets any. -/
def Service.skips (service : Service) (circumstances : Circumstances) (course : Course) :
    List IdRange :=
  let settling := (settleGaps service.gapPolicy course.gaps course.state.coverage
    circumstances.visibility circumstances.now circumstances.now).on course.ended
  (course.gaps.map Gap.range).filter fun range =>
    statusAt (settling.2.gaps.getD []) range = some GapStatus.skipped.code

namespace World

/-- The world after a row was committed. -/
def committing (world : World) (row : ChangeRow) (after : Store) : World :=
  { world with
    store := after
    late := if Held world.skipped row.id then row.id :: world.late else world.late }

/-- How a cycle goes in this world. -/
def course (world : World) (circumstances : Circumstances) (disturbance : Disturbance) : Course :=
  world.service.course (world.service.disturbed circumstances.stalls disturbance) circumstances.now
    world.store

/-- The world after a cycle that committed. -/
def cycling (world : World) (circumstances : Circumstances) (disturbance : Disturbance)
    (after : Service) (left : Store) : World :=
  let course := world.course circumstances disturbance
  { service := after
    store := left
    cycles := world.cycles + 1
    passes := world.passes ++
      world.service.recordsIn disturbance course.lookups course.gaps course.turns
    skipped := world.skipped ++ world.service.skips circumstances course
    late := world.late }

end World

/-- What may happen next. -/
inductive Step (world : World) : World → Prop
  /-- A row is committed under a new id. -/
  | commit (row : ChangeRow) (after : Store) (hfirst : 0 < row.id) (hend : row.id < openEnd)
    (h : world.store.insertChangeRow row = .ok after) : Step world (world.committing row after)
  /-- A cycle commits, whatever passes of it fail. -/
  | cycle (circumstances : Circumstances) (disturbance : Disturbance) (report : CycleReport)
    (after : Service) (left : Store)
    (h : world.service.cycleBy (world.service.disturbed circumstances.stalls disturbance) circumstances
      world.store = (.ok report, after, left)) :
    Step world (world.cycling circumstances disturbance after left)
  /-- A cycle is taken back. -/
  | fault (circumstances : Circumstances) (disturbance : Disturbance) (fault : Fault)
    (after : Service) (left : Store)
    (h : world.service.cycleBy (world.service.disturbed circumstances.stalls disturbance) circumstances
      world.store = (.error fault, after, left)) :
    Step world { world with service := after, store := left }

/-- The worlds that steps lead to. -/
inductive Reaches (start : World) : World → Prop
  | refl : Reaches start start
  | step {now next : World} : Reaches start now → Step now next → Reaches start next

theorem Reaches.trans {start now next : World} (h : Reaches start now) (h' : Reaches now next) :
    Reaches start next := by
  induction h' with
  | refl => exact h
  | step _ hstep ih => exact .step ih hstep

/-! ## one cycle -/

section cycle

variable {service after : Service} {passes : Passes} {circumstances : Circumstances}
  {disturbance : Disturbance} {store left : Store} {report : CycleReport} {course : Course}

/-- A cycle goes one way only. -/
theorem Service.Went.eq_course {now : Millis} (h : service.Went passes now store course) :
    course = service.course passes now store := by
  obtain ⟨hgaps, hsnapshots, hnodes, hturns, hended⟩ := h
  obtain ⟨gaps, ⟨snapshots, nodes⟩, loaded, courseTurns, ended⟩ := course
  simp only at hgaps hsnapshots hnodes hturns hended
  simp only [Service.course, hgaps, Except.toOption, Option.getD_some, hsnapshots, hnodes, hturns,
    hended]

/-- A cycle that is taken back leaves what it found. -/
theorem cycleBy_eq_error {fault : Fault}
    (h : service.cycleBy passes circumstances store = (.error fault, after, left)) :
    after = service ∧ left = store := by
  rw [Service.cycleBy, Work.guarded_on] at h
  cases hwork : (service.cycleWork passes circumstances).on store with
  | mk outcome ended =>
      rw [hwork] at h
      cases outcome with
      | error fault =>
          cases h
          exact ⟨rfl, rfl⟩
      | ok result => cases h

/-- A service without marks remembers nothing of passes that leave none. -/
theorem rememberAll_of_unmarked {passes : List (String × PassOutcome)} (h : service.marks = [])
    (hnone : ∀ entry ∈ passes, Service.marksAfter [] entry.2 = []) :
    service.rememberAll passes = service := by
  induction passes with
  | nil => rfl
  | cons entry passes ih =>
      have hmarks : service.marksOf entry.1 = [] := by
        rw [Service.marksOf, h]
        rfl
      have hsame : service.remember entry.1 entry.2 = service := by
        rw [Service.remember, hmarks, hnone entry List.mem_cons_self]
        obtain ⟨config, registry, attached, marks⟩ := service
        cases h
        rfl
      have hrest := ih fun other hother => hnone other (List.mem_cons_of_mem _ hother)
      exact (congrArg (Service.rememberAll · passes) hsame).trans hrest

/-- Nor does it remember anything of a cycle whose turns leave no marks. -/
theorem rememberAll_turns {turns : List Turn} (h : service.marks = [])
    (hnone : ∀ turn ∈ turns, ∀ outcome, turn.outcome = some outcome → Service.marksAfter [] outcome = []) :
    service.rememberAll (CycleState.through {} turns).passes = service := by
  refine rememberAll_of_unmarked h fun entry hentry => ?_
  obtain ⟨turn, hturn, outcome, houtcome, rfl⟩ := mem_passes.1 hentry
  exact hnone turn hturn outcome houtcome

end cycle

/-! ## what the turns of a cycle store -/

section turns

variable {service : Service} {stalls : List (String × Nat)} {disturbance : Disturbance}
  {lookups : Lookups} {gaps : List Gap} {store : Store} {log : Numbered ChangeRow} {book : Book}

@[simp] theorem id_limited (channel : Channel) (limits : Option (Nat × Nat)) :
    (channel.limited limits).id = channel.id := by
  cases limits <;> rfl

@[simp] theorem readOptions_limited (channel : Channel) (limits : Option (Nat × Nat)) :
    service.readOptions (channel.limited limits) = service.readOptions channel := by
  cases limits <;> rfl

theorem committed_cons_of_none {turn : Turn} {turns : List Turn} (h : turn.outcome = none) :
    committed (turn :: turns) = committed turns := by
  rw [committed, List.filter_cons, h]
  rfl

theorem committed_cons_of_some {turn : Turn} {turns : List Turn} {outcome : PassOutcome}
    (h : turn.outcome = some outcome) : committed (turn :: turns) = turn :: committed turns := by
  rw [committed, List.filter_cons, h]
  rfl

/-- A book that grew delivers what it delivered. -/
theorem Book.Honours.later {mid later : Book} {record : PassRecord} {new : List BatchEvent}
    (h : mid.Honours record) (hgrows : mid.Grows new later)
    (hsub : ∀ event ∈ record.written, event ∈ mid.events) : later.Honours record := by
  rw [Book.Honours, hgrows.deliveries_eq hsub]
  exact h

@[simp] theorem channel_recordIn (turn : Turn) :
    (service.recordIn disturbance lookups gaps turn).channel = turn.channel.id := id_limited _ _

/-- A committed turn did what the pass on its channel does. -/
theorem did_of_turn {turn : Turn} {outcome : PassOutcome} (hlog : turn.before.changes = some log)
    (hlogged : log.rows.Pairwise (·.id < ·.id)) (hends : ∀ row ∈ log.rows, row.id ≤ openEnd)
    (hgaps : gaps.Pairwise fun a b => a.start ≤ b.start)
    (hmarks : service.marks = []) (hbook : turn.before.Shows book) (hbookProper : book.Proper)
    (hturn : turn = turnOf (service.disturbed stalls disturbance lookups gaps) turn.channel turn.before)
    (houtcome : turn.outcome = some outcome) :
    ∃ later, turn.after.Shows later ∧
      Did (service.readOptions turn.channel).columns (wanted log.rows turn.channel.id gaps)
        outcome.through (service.recordIn disturbance lookups gaps turn) ∧
      book.Grows (service.recordIn disturbance lookups gaps turn).written later ∧
      later.Honours (service.recordIn disturbance lookups gaps turn) ∧
      Service.marksAfter [] outcome = [] := by
  have hrun := pass_of_turn hturn houtcome
  have hnone : service.marksOf (turn.channel.limited (disturbance.limits turn.channel.id)).id = [] := by
    rw [Service.marksOf, hmarks]
    rfl
  obtain ⟨hdid, hmarked⟩ := decides_of_pass hlog hlogged hends hgaps hnone hrun
  obtain ⟨later, hlater, hgrows, hhonours⟩ := honours_of_pass hbook hbookProper hrun
  rw [id_limited, readOptions_limited] at hdid
  exact ⟨later, hlater, hdid, hgrows, hhonours, marksAfter_nil hmarked⟩

/-- What one turn after the other stores, each of them according to its routers. -/
theorem honours_turns {channels : List Channel} (hlog : store.changes = some log)
    (hlogged : log.rows.Pairwise (·.id < ·.id)) (hends : ∀ row ∈ log.rows, row.id ≤ openEnd)
    (hgaps : gaps.Pairwise fun a b => a.start ≤ b.start)
    (hmarks : service.marks = []) (hbook : store.Shows book) (hbookProper : book.Proper) :
    let run := service.disturbed stalls disturbance lookups gaps
    let records := service.recordsIn disturbance lookups gaps (turns run channels store)
    ∃ later, (storeAfter run channels store).Shows later ∧
      book.Grows (records.flatMap PassRecord.written) later ∧
      (∀ record ∈ records, later.Honours record) ∧
      ∀ turn ∈ turns run channels store, ∀ outcome, turn.outcome = some outcome →
        Did (service.readOptions turn.channel).columns (wanted log.rows turn.channel.id gaps)
          outcome.through (service.recordIn disturbance lookups gaps turn) ∧
        Service.marksAfter [] outcome = [] := by
  intro run
  induction channels generalizing store book with
  | nil =>
      refine ⟨book, hbook, .refl hbookProper, ?_, ?_⟩
      · exact fun _ h => (List.not_mem_nil h).elim
      · exact fun _ h => (List.not_mem_nil h).elim
  | cons channel channels ih =>
      have hgiven : (turnOf run channel store).after.given = store.given := given_turnOf channel store
      have hlog' : (turnOf run channel store).after.changes = some log := by
        rw [Store.given, Store.given, Prod.mk.injEq] at hgiven
        exact hgiven.2.trans hlog
      have hself : turnOf run channel store =
          turnOf run (turnOf run channel store).channel (turnOf run channel store).before := by
        rw [turnOf_channel, turnOf_before]
      cases houtcome : (turnOf run channel store).outcome with
      | none =>
          have hbook' : (turnOf run channel store).after.Shows book := by
            rw [turnOf_after_of_none houtcome]
            exact hbook
          obtain ⟨later, hlater, hgrows, hhonours, hdid⟩ := ih hlog' hbook' hbookProper
          have hrecords : service.recordsIn disturbance lookups gaps
              (turns run (channel :: channels) store) = service.recordsIn disturbance lookups gaps
                (turns run channels (turnOf run channel store).after) := by
            rw [Service.recordsIn, Service.recordsIn, turns, committed_cons_of_none houtcome]
          refine ⟨later, hlater, hrecords ▸ hgrows, hrecords ▸ hhonours, ?_⟩
          rw [turns, List.forall_mem_cons]
          refine ⟨fun outcome hsome => ?_, hdid⟩
          rw [houtcome] at hsome
          contradiction
      | some outcome =>
          have hfound : (turnOf run channel store).before.changes = some log ∧
              (turnOf run channel store).before.Shows book := by
            rw [turnOf_before]
            exact ⟨hlog, hbook⟩
          obtain ⟨mid, hmid, hfirst, hgrows, hhonours, hnone⟩ :=
            did_of_turn hfound.1 hlogged hends hgaps hmarks hfound.2 hbookProper hself houtcome
          obtain ⟨later, hlater, hmore, hrest, hdid⟩ := ih hlog' hmid hgrows.proper
          have hrecords : service.recordsIn disturbance lookups gaps
              (turns run (channel :: channels) store) =
                service.recordIn disturbance lookups gaps (turnOf run channel store) ::
                  service.recordsIn disturbance lookups gaps
                    (turns run channels (turnOf run channel store).after) := by
            rw [Service.recordsIn, Service.recordsIn, turns, committed_cons_of_some houtcome,
              List.map_cons]
          refine ⟨later, hlater, ?_, ?_, ?_⟩
          · rw [hrecords, List.flatMap_cons]
            exact hgrows.trans hmore
          · rw [hrecords, List.forall_mem_cons]
            refine ⟨hhonours.later hmore fun event hevent => ?_, hrest⟩
            rw [hgrows.events]
            exact List.mem_append_right _ hevent
          · rw [turns, List.forall_mem_cons]
            refine ⟨fun other hsome => ?_, hdid⟩
            rw [houtcome] at hsome
            cases hsome
            exact ⟨hfirst, hnone⟩

end turns

end ChangeRouting
