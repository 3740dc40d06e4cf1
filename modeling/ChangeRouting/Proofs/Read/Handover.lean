import ChangeRouting.Proofs.Read.Trail
import Mathlib.Data.List.Basic

/-!
# ChangeRouting.Proofs.Read.Handover

Whoever's turn it is, the router takes what the query answers, in order and without loss.

* `Handover.Sound` — what holds at every moment of a handover; each move keeps it (`Sound.step`);
* `Sound.exists_move` — nobody waits for good;
* `orderly_of_reaches` — what a router can rely on, whatever it does itself;
* `Handover.work_lt` — each move leaves less to do, so no handover goes on for ever.
-/

namespace ChangeRouting

/-! ## what holds at every moment -/

/-- A summary tells of a whole reading. -/
structure ReadSummary.Whole (total : Reading) (summary : ReadSummary) : Prop where
  queued : summary.queued = total.changes.length
  skipped : summary.skipped = total.skipped
  fault : summary.fault = total.fault
  exhausted : summary.exhausted = total.fault.isNone

/-- A summary tells of a reading that was stopped on its way. -/
structure ReadSummary.Stopped (total : Reading) (summary : ReadSummary) : Prop where
  queued : summary.queued ≤ total.changes.length
  skipped : summary.skipped <+: total.skipped
  fault : summary.fault = none
  exhausted : summary.exhausted = false

namespace Handover

/-- What the rows ahead come to. -/
def rest (handover : Handover) : Reading := Reading.ofRanges handover.marks handover.trail.sought

/-- The reader is on its way: beside what it queued and skipped it owes some changes, and the rest lies
ahead. -/
structure Ahead (total : Reading) (summary : ReadSummary) (rest : Reading) (owed : List Change) :
    Prop where
  queued : summary.queued ≤ total.changes.length
  changes : total.changes.drop summary.queued = owed
  skipped : total.skipped = summary.skipped ++ rest.skipped
  fault : total.fault = rest.fault
  untold : summary.fault = none ∧ summary.exhausted = false

/-- What the reader made of the rows so far. -/
def Reads (total : Reading) (handover : Handover) : Prop :=
  match handover.stage with
  | .fetching => Ahead total handover.summary handover.rest handover.rest.changes
  | .offering change _ => Ahead total handover.summary handover.rest (change :: handover.rest.changes)
  | .ending | .gone =>
    handover.summary.Whole total ∨ handover.stopping = true ∧ handover.summary.Stopped total

/-- The marker, as long as it is queued. -/
def marker (handover : Handover) : List Queued :=
  match handover.stage, handover.ended with
  | .gone, none => [.finished handover.summary]
  | _, _ => []

/-- What holds at every moment of a handover. -/
structure Sound (window : Nat) (total : Reading) (handover : Handover) : Prop where
  room : handover.capacity = max window 1
  bounded : handover.queue.length ≤ handover.capacity
  reads : handover.Reads total
  taken : handover.taken <+: total.changes
  /-- What was queued was taken or is still in the queue, and the marker comes last. -/
  queue : handover.closed = false → ∃ waiting : List Change,
    handover.taken ++ waiting = total.changes.take handover.summary.queued ∧
      handover.queue = waiting.map Queued.change ++ handover.marker
  left : handover.closed = true → handover.queue = [] ∧ handover.stopping = true
  ended : ∀ summary, handover.ended = some summary → handover.stage = .gone ∧ handover.queue = [] ∧
    summary = handover.summary ∧ handover.taken = total.changes.take summary.queued

/-! ### what the reader makes of the rows -/

section reads

variable {total rest : Reading} {summary next : ReadSummary} {owed : List Change}

theorem Ahead.stopped (h : Ahead total summary rest owed) : summary.Stopped total where
  queued := h.queued
  skipped := ⟨_, h.skipped.symm⟩
  fault := h.untold.1
  exhausted := h.untold.2

/-- When nothing lies ahead that the reader is after, it tells of the whole reading. -/
theorem Ahead.whole {exhausted : Bool} {fault : Option Fault}
    (h : Ahead total summary rest rest.changes) (hrest : rest = ⟨[], [], fault, false⟩)
    (hend : exhausted = fault.isNone) :
    ReadSummary.Whole total { summary with exhausted := exhausted, fault := fault } where
  queued := by
    have hchanges : rest.changes = [] := congrArg Reading.changes hrest
    have hall := List.drop_eq_nil_iff.1 (h.changes.trans hchanges)
    have hle := h.queued
    show summary.queued = _
    omega
  skipped := by
    rw [h.skipped, hrest, List.append_nil]
  fault := by
    rw [h.fault, hrest]
  exhausted := by
    rw [h.fault, hrest]
    exact hend

/-- The reader goes past a row. -/
theorem Ahead.pass {after : Reading} (h : Ahead total summary rest rest.changes)
    (hqueued : next.queued = summary.queued)
    (htold : (next.fault, next.exhausted) = (summary.fault, summary.exhausted))
    (hchanges : rest.changes = owed)
    (hskipped : summary.skipped ++ rest.skipped = next.skipped ++ after.skipped)
    (hfault : rest.fault = after.fault) : Ahead total next after owed where
  queued := hqueued ▸ h.queued
  changes := hqueued ▸ h.changes.trans hchanges
  skipped := h.skipped.trans hskipped
  fault := h.fault.trans hfault
  untold := by
    rw [Prod.mk.injEq] at htold
    rw [htold.1, htold.2]
    exact h.untold

/-- The reader queues the change it owes first. -/
theorem Ahead.queue {change : Change} (h : Ahead total summary rest (change :: owed)) :
    Ahead total { summary with queued := summary.queued + 1 } rest owed ∧
      total.changes.take (summary.queued + 1) = total.changes.take summary.queued ++ [change] := by
  have hlength := congrArg List.length h.changes
  rw [List.length_drop, List.length_cons] at hlength
  have hnext : total.changes[summary.queued]? = some change := by
    rw [← List.head?_drop, h.changes, List.head?_cons]
  refine ⟨⟨?_, ?_, h.skipped, h.fault, h.untold⟩, ?_⟩
  · show summary.queued + 1 ≤ _
    omega
  · show total.changes.drop (summary.queued + 1) = owed
    rw [← List.tail_drop, h.changes, List.tail_cons]
  · rw [List.take_add_one, hnext, Option.toList_some]

variable {now : Handover}

theorem reads_of_fetching (h : now.stage = .fetching) :
    now.Reads total ↔ Ahead total now.summary now.rest now.rest.changes := by
  rw [Reads, h]

theorem reads_of_offering {change : Change} {refused : Bool} (h : now.stage = .offering change refused) :
    now.Reads total ↔ Ahead total now.summary now.rest (change :: now.rest.changes) := by
  rw [Reads, h]

theorem reads_runOut (h : Ahead total now.summary now.rest now.rest.changes) (hrows : now.trail.rows = []) :
    now.runOut.Reads total := by
  have hrest : now.rest = ⟨[], [], now.trail.broken.map Reading.blame, false⟩ := by
    rw [Handover.rest, Trail.sought, hrows, Trail.soughtFrom]
    cases now.trail.broken <;> rfl
  exact Or.inl (h.whole hrest Option.isNone_map.symm)

theorem reads_examine {row : Except Fault Change} {rows : List (Except Fault Change)}
    (hstage : now.stage = .fetching) (h : Ahead total now.summary now.rest now.rest.changes)
    (hrows : now.trail.rows = row :: rows) : (now.examine rows row).Reads total := by
  have hsought : now.trail.sought = Trail.soughtFrom now.trail.broken now.trail.along (row :: rows) := by
    rw [Trail.sought, hrows]
  cases row with
  | error fault =>
      have hrest : now.rest = ⟨[], [], some (Reading.blame fault), false⟩ := by
        rw [Handover.rest, hsought]
        rfl
      exact Or.inl (h.whole hrest h.untold.2)
  | ok change =>
      rw [Trail.soughtFrom] at hsought
      rw [examine]
      cases hwalk : Trail.walk now.trail.along change.id with
      | none =>
          rw [hwalk] at hsought
          have hrest : now.rest = ⟨[], [], now.summary.fault, false⟩ := by
            rw [Handover.rest, hsought, h.untold.1]
            rfl
          exact Or.inl (h.whole hrest (by rw [h.untold.1]; rfl))
      | some found =>
          obtain ⟨inside, along⟩ := found
          rw [hwalk] at hsought
          let ahead : Handover :=
            { now with trail := { now.trail with rows := rows, along := along } }
          have hahead : ahead.stage = .fetching := hstage
          cases inside with
          | false =>
              -- the row lies between the gaps
              have hrest : now.rest = ahead.rest := by
                rw [Handover.rest, hsought]
                rfl
              refine (reads_of_fetching hahead).2 (h.pass rfl rfl ?_ ?_ ?_) <;> rw [hrest]
          | true =>
              have hrest : now.rest = ahead.rest.meet now.marks change := by
                rw [Handover.rest, hsought]
                rfl
              rw [Reading.meet] at hrest
              simp only [Bool.not_true, Bool.false_eq_true, if_false]
              split
              · next hmarked =>
                rw [if_pos hmarked] at hrest
                let past : Handover :=
                  { ahead with
                    summary := { now.summary with skipped := now.summary.skipped ++ [change.id] } }
                have hpast : past.stage = .fetching := hstage
                refine (reads_of_fetching hpast).2 (h.pass rfl rfl ?_ ?_ ?_)
                · rw [hrest]
                  rfl
                · rw [hrest]
                  exact List.append_cons _ _ _
                · rw [hrest]
                  rfl
              · next hmarked =>
                rw [if_neg hmarked] at hrest
                refine h.pass rfl rfl ?_ ?_ ?_
                · rw [hrest]
                  rfl
                · rw [hrest]
                  rfl
                · rw [hrest]
                  rfl

end reads

/-! ### moves -/

section parts

variable {total : Reading} {now : Handover}

theorem marker_of_ne (h : now.stage ≠ .gone) : now.marker = [] := by
  rw [marker]
  split
  · next hstage _ => exact absurd hstage h
  · rfl

/-- To examine a row leaves the queue alone. -/
theorem exists_examine_eq (hstage : now.stage ≠ .gone) (row : Except Fault Change)
    (rows : List (Except Fault Change)) :
    ∃ stage summary trail,
      now.examine rows row = { now with stage := stage, summary := summary, trail := trail } ∧
      stage ≠ .gone ∧ summary.queued = now.summary.queued := by
  cases row with
  | error fault => exact ⟨_, _, _, rfl, ReaderStage.noConfusion, rfl⟩
  | ok change =>
      simp only [examine]
      split
      · exact ⟨_, _, _, rfl, ReaderStage.noConfusion, rfl⟩
      · split
        · exact ⟨_, _, _, rfl, hstage, rfl⟩
        · split
          · exact ⟨_, _, _, rfl, hstage, rfl⟩
          · exact ⟨_, _, _, rfl, ReaderStage.noConfusion, rfl⟩

/-- To be asked to stop changes nothing about what was read. -/
theorem Reads.asked (h : now.Reads total) : now.stop.Reads total := by
  cases hstage : now.stage with
  | fetching =>
      have hsame : now.stop.stage = .fetching := hstage
      exact (reads_of_fetching hsame).2 ((reads_of_fetching hstage).1 h)
  | offering change refused =>
      have hsame : now.stop.stage = .offering change refused := hstage
      exact (reads_of_offering hsame).2 ((reads_of_offering hstage).1 h)
  | ending =>
      have hsame : now.stop.stage = .ending := hstage
      rw [Reads, hstage] at h
      rw [Reads, hsame]
      exact h.imp_right fun htold => ⟨rfl, htold.2⟩
  | gone =>
      have hsame : now.stop.stage = .gone := hstage
      rw [Reads, hstage] at h
      rw [Reads, hsame]
      exact h.imp_right fun htold => ⟨rfl, htold.2⟩

end parts

namespace Sound

variable {window : Nat} {total : Reading} {now next : Handover}

/-- As long as the marker is not queued, the router did not take it. -/
theorem not_ended (h : now.Sound window total) (hstage : now.stage ≠ .gone) : now.ended = none := by
  cases hended : now.ended with
  | none => rfl
  | some summary => exact absurd (h.ended summary hended).1 hstage

/-- While something is queued the router is there. -/
theorem not_closed {item : Queued} {items : List Queued} (h : now.Sound window total)
    (hqueue : now.queue = item :: items) : now.closed = false := by
  cases hclosed : now.closed with
  | false => rfl
  | true =>
      rw [(h.left hclosed).1] at hqueue
      cases hqueue

/-- The reader moved on without touching the queue. -/
theorem reread (h : now.Sound window total) {stage : ReaderStage} {summary : ReadSummary} {trail : Trail}
    (hstage : now.stage ≠ .gone) (hstage' : stage ≠ .gone)
    (hqueued : summary.queued = now.summary.queued)
    (hreads : Reads total { now with stage := stage, summary := summary, trail := trail }) :
    Sound window total { now with stage := stage, summary := summary, trail := trail } where
  room := h.room
  bounded := h.bounded
  reads := hreads
  taken := h.taken
  queue hopen := by
    obtain ⟨waiting, hpassed, hqueue⟩ := h.queue hopen
    rw [marker_of_ne hstage] at hqueue
    refine ⟨waiting, hqueued ▸ hpassed, ?_⟩
    rw [marker_of_ne hstage']
    exact hqueue
  left := h.left
  ended other hended := by
    rw [show now.ended = none from h.not_ended hstage] at hended
    cases hended

/-- The reader queues an item. -/
theorem send (h : now.Sound window total) {stage : ReaderStage} {summary : ReadSummary} {item : Queued}
    (hstage : now.stage ≠ .gone) (hopen : now.closed = false) (hroom : now.hasRoom = true)
    (hreads : Reads total
      { now with stage := stage, summary := summary, queue := now.queue ++ [item] })
    (hqueue : ∀ waiting : List Change, now.taken ++ waiting = total.changes.take now.summary.queued →
      ∃ more : List Change, now.taken ++ more = total.changes.take summary.queued ∧
        waiting.map Queued.change ++ [item] = more.map Queued.change ++
          marker { now with stage := stage, summary := summary }) :
    Sound window total
      { now with stage := stage, summary := summary, queue := now.queue ++ [item] } where
  room := h.room
  bounded := by
    rw [List.length_append, List.length_singleton]
    exact of_decide_eq_true hroom
  reads := hreads
  taken := h.taken
  queue _ := by
    obtain ⟨waiting, hpassed, hwaiting⟩ := h.queue hopen
    obtain ⟨more, hmore, hitems⟩ := hqueue waiting hpassed
    rw [marker_of_ne hstage, List.append_nil] at hwaiting
    refine ⟨more, hmore, ?_⟩
    rw [hwaiting]
    exact hitems
  left hclosed := by
    rw [show now.closed = true from hclosed] at hopen
    cases hopen
  ended other hended := by
    rw [show now.ended = none from h.not_ended hstage] at hended
    cases hended

theorem fetch (h : now.Sound window total) (hmove : now.fetch? = some next) : next.Sound window total := by
  rw [fetch?] at hmove
  split at hmove
  · next hstage hrows =>
    have hne : now.stage ≠ .gone := by simp [hstage]
    cases hmove
    exact h.reread hne ReaderStage.noConfusion rfl
      (reads_runOut ((reads_of_fetching hstage).1 h.reads) hrows)
  · next row rows hstage hrows =>
    have hne : now.stage ≠ .gone := by simp [hstage]
    have hahead := (reads_of_fetching hstage).1 h.reads
    split at hmove
    · next hstopping =>
      cases hmove
      exact h.reread hne ReaderStage.noConfusion rfl (Or.inr ⟨hstopping, hahead.stopped⟩)
    · cases hmove
      obtain ⟨stage, summary, trail, hexamine, hstage', hqueued⟩ := exists_examine_eq hne row rows
      have hreads := reads_examine hstage hahead hrows
      rw [hexamine] at hreads ⊢
      exact h.reread hne hstage' hqueued hreads
  · cases hmove

theorem offer (h : now.Sound window total) (hmove : now.offer? = some next) : next.Sound window total := by
  rw [offer?] at hmove
  split at hmove
  · next change refused hstage =>
    have hne : now.stage ≠ .gone := by simp [hstage]
    have hahead := (reads_of_offering hstage).1 h.reads
    split at hmove
    · next hclosed =>
      cases hmove
      exact h.reread hne ReaderStage.noConfusion rfl (Or.inr ⟨(h.left hclosed).2, hahead.stopped⟩)
    · next hopen =>
      split at hmove
      · next hroom =>
        cases hmove
        obtain ⟨hreads, htake⟩ := hahead.queue
        refine h.send hne (Bool.eq_false_iff.2 hopen) hroom hreads fun waiting hpassed => ?_
        refine ⟨waiting ++ [change], ?_, ?_⟩
        · rw [htake, ← List.append_assoc, hpassed]
        · rw [List.map_append]
          exact (List.append_nil _).symm
      · split at hmove
        · cases hmove
        · cases hmove
          exact h.reread hne ReaderStage.noConfusion rfl hahead
  · next hstage =>
    have hne : now.stage ≠ .gone := by simp [hstage]
    have hended := h.not_ended hne
    have hreads := h.reads
    rw [Reads, hstage] at hreads
    split at hmove
    · next hclosed =>
      cases hmove
      refine ⟨h.room, h.bounded, hreads, h.taken, fun hopen => ?_, h.left, fun other hother => ?_⟩
      · rw [hclosed] at hopen
        cases hopen
      · rw [hended] at hother
        cases hother
    · next hopen =>
      split at hmove
      · next hroom =>
        cases hmove
        refine h.send hne (Bool.eq_false_iff.2 hopen) hroom hreads fun waiting hpassed => ?_
        refine ⟨waiting, hpassed, ?_⟩
        rw [marker, hended]
      · cases hmove
  · cases hmove

theorem giveUp (h : now.Sound window total) (hmove : now.giveUp? = some next) : next.Sound window total := by
  rw [giveUp?] at hmove
  split at hmove
  · next change hstage hstopping =>
    have hne : now.stage ≠ .gone := by simp [hstage]
    cases hmove
    exact h.reread hne ReaderStage.noConfusion rfl
      (Or.inr ⟨hstopping, ((reads_of_offering hstage).1 h.reads).stopped⟩)
  · cases hmove

theorem take {item : Queued} (h : now.Sound window total) (hmove : now.take? = some (item, next)) :
    next.Sound window total := by
  rw [take?] at hmove
  split at hmove
  · next change rest hended hqueued =>
    have hopen := h.not_closed hqueued
    obtain ⟨waiting, hpassed, hqueue⟩ := h.queue hopen
    have hbounded := h.bounded
    rw [hqueued, List.length_cons] at hbounded
    cases hmove
    cases waiting with
    | nil =>
        -- only the marker is left
        rw [hqueued, List.map_nil, List.nil_append, marker] at hqueue
        split at hqueue <;> cases hqueue
    | cons first waiting =>
        rw [hqueued, List.map_cons, List.cons_append, List.cons.injEq] at hqueue
        obtain ⟨hfirst, hrest⟩ := hqueue
        cases hfirst
        have hpassed' : (now.taken ++ [change]) ++ waiting = total.changes.take now.summary.queued := by
          rw [List.append_assoc]
          exact hpassed
        refine ⟨h.room, Nat.le_of_succ_le hbounded, h.reads, ?_, fun _ => ⟨waiting, hpassed', hrest⟩,
          fun hclosed => ?_, fun other hother => ?_⟩
        · exact (List.prefix_append _ waiting).trans (hpassed' ▸ List.take_prefix _ _)
        · rw [show now.closed = true from hclosed] at hopen
          cases hopen
        · rw [show now.ended = some other from hother] at hended
          cases hended
  · next summary rest hended hqueued =>
    have hopen := h.not_closed hqueued
    obtain ⟨waiting, hpassed, hqueue⟩ := h.queue hopen
    cases hmove
    cases waiting with
    | cons first waiting =>
        rw [hqueued, List.map_cons, List.cons_append, List.cons.injEq] at hqueue
        cases hqueue.1
    | nil =>
        rw [hqueued, List.map_nil, List.nil_append, marker] at hqueue
        split at hqueue
        · next hstage _ =>
          cases hqueue
          rw [List.append_nil] at hpassed
          refine ⟨h.room, Nat.zero_le _, h.reads, h.taken, fun _ => ⟨[], ?_, ?_⟩, fun hclosed => ?_,
            fun other hother => ?_⟩
          · rw [List.append_nil]
            exact hpassed
          · rw [List.map_nil, List.nil_append, marker, hstage]
          · rw [show now.closed = true from hclosed] at hopen
            cases hopen
          · cases hother
            exact ⟨hstage, rfl, rfl, hpassed⟩
        · cases hqueue
  · cases hmove

theorem stop (h : now.Sound window total) : now.stop.Sound window total where
  room := h.room
  bounded := h.bounded
  reads := h.reads.asked
  taken := h.taken
  queue := h.queue
  left hclosed := ⟨(h.left hclosed).1, rfl⟩
  ended := h.ended

theorem leave (h : now.Sound window total) : now.leave.Sound window total where
  room := h.room
  bounded := Nat.zero_le _
  reads := h.reads.asked
  taken := h.taken
  queue hopen := by cases hopen
  left _ := ⟨rfl, rfl⟩
  ended summary hended := by
    obtain ⟨hstage, -, hsame, htaken⟩ := h.ended summary hended
    exact ⟨hstage, rfl, hsame, htaken⟩

/-- Each move keeps what holds. -/
theorem step {move : HandoverMove} (h : now.Sound window total) (hmove : now.step? move = some next) :
    next.Sound window total := by
  cases move with
  | fetch => exact h.fetch hmove
  | offer => exact h.offer hmove
  | giveUp => exact h.giveUp hmove
  | take =>
      obtain ⟨⟨item, after⟩, htake, rfl⟩ := Option.map_eq_some_iff.1 hmove
      exact h.take htake
  | stop =>
      rw [step?] at hmove
      split at hmove
      · cases hmove
      · cases hmove
        exact h.stop
  | leave =>
      rw [step?] at hmove
      split at hmove
      · cases hmove
      · cases hmove
        exact h.leave

/-- So it holds at every moment. -/
theorem reaches {start : Handover} (hstart : start.Sound window total) (h : start.Reaches now) :
    now.Sound window total := by
  induction h with
  | refl => exact hstart
  | step move _ hmove ih => exact ih.step hmove

theorem new (window : Nat) (marks : Marks) (trail : Trail) :
    (Handover.new window marks trail).Sound window (trail.reading marks) where
  room := rfl
  bounded := Nat.zero_le _
  reads := ⟨Nat.zero_le _, rfl, rfl, rfl, rfl, rfl⟩
  taken := List.nil_prefix
  queue _ := ⟨[], rfl, rfl⟩
  left h := by cases h
  ended _ h := by cases h

end Sound

/-! ## the router's side -/

section side

variable {now next : Handover}

/-- What only the router changes. -/
def side (handover : Handover) : Bool × Bool × List Change × Option ReadSummary :=
  (handover.stopping, handover.closed, handover.taken, handover.ended)

theorem side_fetch (hmove : now.fetch? = some next) : next.side = now.side := by
  rw [fetch?] at hmove
  split at hmove
  · cases hmove
    rfl
  · next row rows hstage _ =>
    split at hmove
    · cases hmove
      rfl
    · cases hmove
      have hne : now.stage ≠ .gone := by simp [hstage]
      obtain ⟨_, _, _, hexamine, -, -⟩ := exists_examine_eq hne row rows
      rw [hexamine]
      rfl
  · cases hmove

theorem side_offer (hmove : now.offer? = some next) : next.side = now.side := by
  rw [offer?] at hmove
  split at hmove
  · split at hmove
    · cases hmove
      rfl
    · split at hmove
      · cases hmove
        rfl
      · split at hmove
        · cases hmove
        · cases hmove
          rfl
  · split at hmove
    · cases hmove
      rfl
    · split at hmove
      · cases hmove
        rfl
      · cases hmove
  · cases hmove

theorem side_giveUp (hmove : now.giveUp? = some next) : next.side = now.side := by
  rw [giveUp?] at hmove
  split at hmove
  · cases hmove
    rfl
  · cases hmove

theorem side_take_change {change : Change} (hmove : now.take? = some (.change change, next)) :
    next.side = (now.stopping, now.closed, now.taken ++ [change], now.ended) := by
  rw [take?] at hmove
  split at hmove
  · cases hmove
    rfl
  · cases hmove
  · cases hmove

theorem side_take_finished {summary : ReadSummary}
    (hmove : now.take? = some (.finished summary, next)) :
    next.side = (now.stopping, now.closed, now.taken, some summary) := by
  rw [take?] at hmove
  split at hmove
  · cases hmove
  · cases hmove
    rfl
  · cases hmove

/-- A router that did not stop takes the whole reading before the marker. -/
theorem Sound.whole {window : Nat} {total : Reading} {summary : ReadSummary} (h : now.Sound window total)
    (hended : now.ended = some summary) (hstopping : now.stopping = false) :
    summary.Whole total ∧ now.taken = total.changes := by
  obtain ⟨hstage, -, rfl, htaken⟩ := h.ended summary hended
  have hreads := h.reads
  rw [Reads, hstage, hstopping] at hreads
  have hwhole := hreads.resolve_right fun hstopped => Bool.false_ne_true hstopped.1
  refine ⟨hwhole, ?_⟩
  rw [htaken, hwhole.queued, List.take_length]

end side

/-! ## nobody waits for good -/

section progress

variable {window : Nat} {total : Reading} {now next : Handover}

theorem take?_isSome (hended : now.ended = none) (hqueue : now.queue ≠ []) : now.take?.isSome = true := by
  rw [take?, hended]
  cases hitems : now.queue with
  | nil => exact absurd hitems hqueue
  | cons item items => cases item <;> rfl

/-- The moves that the reader makes, and that of a router which takes whatever comes. -/
def forward : List HandoverMove := [.fetch, .offer, .giveUp, .take]

/-- Until the reader is gone and the router took the marker or left, one of them can move on. -/
theorem Sound.exists_move (h : now.Sound window total)
    (hbusy : now.stage ≠ .gone ∨ now.ended = none ∧ now.closed = false) :
    ∃ move ∈ forward, (now.step? move).isSome = true := by
  -- without room there is something to take
  have hfull : now.stage ≠ .gone → now.hasRoom = false → (now.step? .take).isSome = true := by
    intro hstage hroom
    rw [step?, Option.isSome_map]
    refine take?_isSome (h.not_ended hstage) fun hnil => ?_
    have hsome : 0 < now.capacity := by
      rw [h.room]
      exact Nat.lt_of_lt_of_le Nat.one_pos (Nat.le_max_right _ _)
    rw [hasRoom, hnil, List.length_nil, decide_eq_false_iff_not] at hroom
    contradiction
  cases hstage : now.stage with
  | fetching =>
      refine ⟨.fetch, by decide, ?_⟩
      rw [step?, fetch?, hstage]
      cases now.trail.rows with
      | nil => rfl
      | cons row rows => cases now.stopping <;> rfl
  | offering change refused =>
      have hne : now.stage ≠ .gone := by simp [hstage]
      cases hroom : now.hasRoom with
      | false => exact ⟨.take, by decide, hfull hne hroom⟩
      | true =>
          refine ⟨.offer, by decide, ?_⟩
          rw [step?, offer?, hstage, hroom]
          cases now.closed <;> rfl
  | ending =>
      have hne : now.stage ≠ .gone := by simp [hstage]
      cases hroom : now.hasRoom with
      | false => exact ⟨.take, by decide, hfull hne hroom⟩
      | true =>
          refine ⟨.offer, by decide, ?_⟩
          rw [step?, offer?, hstage, hroom]
          cases now.closed <;> rfl
  | gone =>
      obtain hne | ⟨hended, hopen⟩ := hbusy
      · exact absurd hstage hne
      · -- the marker is still queued
        obtain ⟨waiting, -, hqueue⟩ := h.queue hopen
        rw [marker, hstage, hended] at hqueue
        refine ⟨.take, by decide, ?_⟩
        rw [step?, Option.isSome_map]
        refine take?_isSome hended fun hnil => ?_
        rw [hnil] at hqueue
        exact List.append_ne_nil_of_right_ne_nil _ (List.cons_ne_nil _ _) hqueue.symm

end progress

/-! ## what a router can rely on -/

/-- What a router can rely on at every moment. -/
structure Orderly (window : Nat) (total : Reading) (handover : Handover) : Prop where
  bounded : handover.queue.length ≤ max window 1
  taken : handover.taken <+: total.changes
  /-- A router that took the marker without stopping took the whole reading before it, and the marker
  tells of its fault. -/
  whole : ∀ summary, handover.ended = some summary → handover.stopping = false →
    handover.taken = total.changes ∧ summary.fault = total.fault
  /-- Nothing comes after the marker. -/
  last : ∀ summary, handover.ended = some summary → handover.stage = .gone ∧ handover.queue = []
  /-- Until the reader is gone and the router took the marker or left, one of them can move on. -/
  moves : handover.stage ≠ .gone ∨ handover.ended = none ∧ handover.closed = false →
    ∃ move ∈ forward, (handover.step? move).isSome = true

/-- A router can rely on it whatever it does itself. -/
theorem orderly_of_reaches {window : Nat} {marks : Marks} {trail : Trail} {handover : Handover}
    (h : (new window marks trail).Reaches handover) :
    handover.Orderly window (trail.reading marks) := by
  have hsound := (Sound.new window marks trail).reaches h
  refine ⟨hsound.room ▸ hsound.bounded, hsound.taken, fun summary hended hstopping => ?_,
    fun summary hended => ?_, hsound.exists_move⟩
  · obtain ⟨hwhole, htaken⟩ := hsound.whole hended hstopping
    exact ⟨htaken, hwhole.fault⟩
  · obtain ⟨hstage, hqueue, -⟩ := hsound.ended summary hended
    exact ⟨hstage, hqueue⟩

/-! ## no handover goes on for ever -/

/-- What is left to do for a reader with some rows ahead. -/
def stageWork (rows : Nat) : ReaderStage → Nat
  | .fetching => 4 * rows + 4
  | .offering _ refused => 4 * rows + if refused then 6 else 7
  | .ending => 3
  | .gone => 0

/-- What is left to do. -/
def work (handover : Handover) : Nat :=
  stageWork handover.trail.rows.length handover.stage + handover.queue.length +
    (if handover.stopping then 0 else 1) + if handover.closed then 0 else 1

section work

variable {now next : Handover}

/-- The reader has less to do, and the queue is no longer by as much. -/
theorem work_lt_of_stage {stage : ReaderStage} {summary : ReadSummary} {trail : Trail}
    {queue : List Queued}
    (h : stageWork trail.rows.length stage + queue.length <
      stageWork now.trail.rows.length now.stage + now.queue.length) :
    work { now with stage := stage, summary := summary, trail := trail, queue := queue } < now.work := by
  simp only [work]
  omega

theorem work_examine {row : Except Fault Change} {rows : List (Except Fault Change)}
    (hstage : now.stage = .fetching) (hrows : now.trail.rows = row :: rows) :
    (now.examine rows row).work < now.work := by
  have hbefore : stageWork now.trail.rows.length now.stage = 4 * rows.length + 8 := by
    rw [hstage, hrows]
    rfl
  cases row with
  | error fault =>
      refine work_lt_of_stage ?_
      rw [hbefore]
      simp only [stageWork]
      omega
  | ok change =>
      simp only [examine]
      split
      · refine work_lt_of_stage ?_
        rw [hbefore]
        simp only [stageWork]
        omega
      · split
        · refine work_lt_of_stage ?_
          rw [hbefore, hstage]
          simp only [stageWork]
          omega
        · split
          · refine work_lt_of_stage ?_
            rw [hbefore, hstage]
            simp only [stageWork]
            omega
          · refine work_lt_of_stage ?_
            rw [hbefore]
            simp only [stageWork, Bool.false_eq_true, if_false]
            omega

theorem work_fetch (hmove : now.fetch? = some next) : next.work < now.work := by
  rw [fetch?] at hmove
  split at hmove
  · next hstage hrows =>
    cases hmove
    refine work_lt_of_stage ?_
    rw [hstage]
    simp only [stageWork]
    omega
  · next row rows hstage hrows =>
    split at hmove
    · cases hmove
      refine work_lt_of_stage ?_
      rw [hstage]
      simp only [stageWork]
      omega
    · cases hmove
      exact work_examine hstage hrows
  · cases hmove

theorem work_offer (hmove : now.offer? = some next) : next.work < now.work := by
  rw [offer?] at hmove
  split at hmove
  · next change refused hstage =>
    have hbefore : 4 * now.trail.rows.length + 6 ≤ stageWork now.trail.rows.length now.stage := by
      rw [hstage, stageWork]
      split <;> omega
    have hless : ∀ {left}, left < 4 * now.trail.rows.length + 6 + now.queue.length →
        left < stageWork now.trail.rows.length now.stage + now.queue.length :=
      fun h => Nat.lt_of_lt_of_le h (Nat.add_le_add_right hbefore _)
    split at hmove
    · cases hmove
      refine work_lt_of_stage (hless ?_)
      simp only [stageWork]
      omega
    · split at hmove
      · cases hmove
        refine work_lt_of_stage (hless ?_)
        simp only [stageWork, List.length_append, List.length_singleton]
        omega
      · split at hmove
        · cases hmove
        · next hrefused =>
          cases hmove
          refine work_lt_of_stage ?_
          rw [hstage]
          simp only [stageWork, if_neg hrefused, if_true]
          omega
  · next hstage =>
    split at hmove
    · cases hmove
      refine work_lt_of_stage ?_
      rw [hstage]
      simp only [stageWork]
      omega
    · split at hmove
      · cases hmove
        refine work_lt_of_stage ?_
        rw [hstage]
        simp only [stageWork, List.length_append, List.length_singleton]
        omega
      · cases hmove
  · cases hmove

theorem work_giveUp (hmove : now.giveUp? = some next) : next.work < now.work := by
  rw [giveUp?] at hmove
  split at hmove
  · next change hstage _ =>
    cases hmove
    refine work_lt_of_stage ?_
    rw [hstage]
    simp only [stageWork, if_true]
    omega
  · cases hmove

theorem work_take {item : Queued} (hmove : now.take? = some (item, next)) : next.work < now.work := by
  rw [take?] at hmove
  split at hmove
  · next hqueue =>
    cases hmove
    simp only [work, hqueue, List.length_cons]
    omega
  · next hqueue =>
    cases hmove
    simp only [work, hqueue, List.length_cons]
    omega
  · cases hmove

theorem work_stop (h : now.stopping = false) : now.stop.work < now.work := by
  have hflag : (if now.stopping = true then 0 else 1) = 1 := by rw [h]; rfl
  rw [work, work, hflag]
  exact Nat.add_lt_add_right (Nat.lt_succ_self _) _

theorem work_leave (h : now.closed = false) : now.leave.work < now.work := by
  simp only [work, leave, h, List.length_nil, if_true, Bool.false_eq_true, if_false]
  omega

theorem work_stop_le (handover : Handover) : handover.stop.work ≤ handover.work := by
  cases hstopping : handover.stopping with
  | false => exact Nat.le_of_lt (work_stop hstopping)
  | true =>
      rw [work, work, hstopping]
      exact Nat.le_refl _

theorem work_leave_le (handover : Handover) : handover.leave.work ≤ handover.work := by
  cases hclosed : handover.closed with
  | false => exact Nat.le_of_lt (work_leave hclosed)
  | true =>
      simp only [work, leave, hclosed, List.length_nil, if_true]
      omega

/-- Each move leaves less to do. -/
theorem work_lt {move : HandoverMove} (hmove : now.step? move = some next) : next.work < now.work := by
  cases move with
  | fetch => exact work_fetch hmove
  | offer => exact work_offer hmove
  | giveUp => exact work_giveUp hmove
  | take =>
      obtain ⟨⟨item, after⟩, htake, rfl⟩ := Option.map_eq_some_iff.1 hmove
      exact work_take htake
  | stop =>
      rw [step?] at hmove
      split at hmove
      · cases hmove
      · next hstopping =>
        cases hmove
        exact work_stop (Bool.eq_false_iff.2 hstopping)
  | leave =>
      rw [step?] at hmove
      split at hmove
      · cases hmove
      · next hclosed =>
        cases hmove
        exact work_leave (Bool.eq_false_iff.2 hclosed)

/-- No handover goes on for ever. -/
theorem wellFounded_step :
    WellFounded fun next now : Handover => ∃ move, now.step? move = some next :=
  Subrelation.wf (fun ⟨_, hmove⟩ => work_lt hmove) (measure work).wf

end work

end Handover

end ChangeRouting
