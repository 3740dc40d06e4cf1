import ChangeRouting.Proofs.Gap.Dated
import ChangeRouting.Proofs.Service.Once

/-!
# ChangeRouting.Proofs.Service.Capture

Transactions that capture rows while a service routes what is committed.

* `Capture`, `Move`, `Moves` — transactions begin, capture rows under ever higher ids, and commit all of
  them or none, in any order; a cycle goes by the transactions that were open when it asked;
* `Timely` — what holds of the times and the ids in every run: a closed gap lies below the ids still to
  come, and came into the table after every row that was captured in it or below it.
-/

namespace ChangeRouting

/-- An open transaction: when it began, and the rows it captured so far. -/
structure Transaction where
  began : Millis
  rows : List ChangeRow := []

/-- A world in which transactions capture rows. -/
structure Capture where
  world : World
  now : Millis
  /-- The least id that was not given out yet. -/
  next : Int
  /-- The open transactions. -/
  transactions : List Transaction := []
  /-- What the cycle to come was told about open transactions, once it asked. -/
  seen : Option Visibility := none
  /-- The ranges that were given up while an open transaction had captured a row in them. -/
  misjudged : List IdRange := []

/-- The world after rows were committed one after the other. -/
def World.committingAll (world : World) : List ChangeRow → Except Fault World
  | [] => .ok world
  | row :: rows => do (world.committing row (← world.store.insertChangeRow row)).committingAll rows

namespace Capture

/-- An open transaction that began at this time captured the row. -/
def Uncommitted (capture : Capture) (began : Millis) (row : ChangeRow) : Prop :=
  ∃ transaction ∈ capture.transactions, transaction.began = began ∧ row ∈ transaction.rows

/-- Whether an open transaction captured a row in a range. -/
def Awaits (capture : Capture) (range : IdRange) : Prop :=
  ∃ transaction ∈ capture.transactions, ∃ row ∈ transaction.rows, Holds range row.id

instance (capture : Capture) (range : IdRange) : Decidable (capture.Awaits range) := by
  unfold Awaits; infer_instance

theorem awaits_iff {capture : Capture} {range : IdRange} :
    capture.Awaits range ↔ ∃ began row, capture.Uncommitted began row ∧ Holds range row.id := by
  constructor
  · rintro ⟨transaction, hmem, row, hrow, hin⟩
    exact ⟨transaction.began, row, ⟨transaction, hmem, rfl, hrow⟩, hin⟩
  · rintro ⟨began, row, ⟨transaction, hmem, -, hrow⟩, hin⟩
    exact ⟨transaction, hmem, row, hrow, hin⟩

/-- What a platform that shows its transactions answers. -/
def visibility (capture : Capture) : Visibility :=
  .known (capture.transactions.map Transaction.began).min?

/-- What happened once a cycle committed. -/
def cycling (capture : Capture) (circumstances : Circumstances) (disturbance : Disturbance)
    (after : Service) (left : Store) : Capture :=
  let course := capture.world.course circumstances disturbance
  { capture with
    world := capture.world.cycling circumstances disturbance after left
    seen := none
    misjudged := capture.misjudged ++
      (capture.world.service.skips circumstances course).filter (capture.Awaits ·) }

end Capture

/-- What may happen next. -/
inductive Move (capture : Capture) : Capture → Prop
  /-- Time goes by. -/
  | wait (later : Millis) (hlater : capture.now ≤ later) (hlast : later ≤ Millis.last) :
    Move capture { capture with now := later }
  /-- A transaction begins. -/
  | opened : Move capture { capture with transactions := ⟨capture.now, []⟩ :: capture.transactions }
  /-- A transaction captures a row under an id that was not given out before. -/
  | captured (front back : List Transaction) (transaction : Transaction) (row : ChangeRow)
    (hopen : capture.transactions = front ++ transaction :: back) (hid : capture.next ≤ row.id)
    (hend : row.id < openEnd) (htime : row.createTime = capture.now) :
    Move capture { capture with
      next := row.id + 1
      transactions := front ++ ⟨transaction.began, transaction.rows ++ [row]⟩ :: back }
  /-- A transaction commits all of its rows. -/
  | committed (front back : List Transaction) (transaction : Transaction) (world : World)
    (hopen : capture.transactions = front ++ transaction :: back)
    (h : capture.world.committingAll transaction.rows = .ok world) :
    Move capture { capture with world := world, transactions := front ++ back }
  /-- A transaction is rolled back. -/
  | dropped (front back : List Transaction) (transaction : Transaction)
    (hopen : capture.transactions = front ++ transaction :: back) :
    Move capture { capture with transactions := front ++ back }
  /-- The cycle to come asks for the open transactions. -/
  | asked : Move capture { capture with seen := some capture.visibility }
  /-- A cycle commits that asked before, whatever passes of it fail. -/
  | cycle (circumstances : Circumstances) (disturbance : Disturbance) (report : CycleReport)
    (after : Service) (left : Store) (hseen : capture.seen = some circumstances.visibility)
    (hnow : circumstances.now = capture.now)
    (h : capture.world.service.cycleBy
      (capture.world.service.disturbed circumstances.stalls disturbance) circumstances
      capture.world.store = (.ok report, after, left)) :
    Move capture (capture.cycling circumstances disturbance after left)
  /-- A cycle is taken back. -/
  | fault (circumstances : Circumstances) (disturbance : Disturbance) (fault : Fault)
    (after : Service) (left : Store)
    (h : capture.world.service.cycleBy
      (capture.world.service.disturbed circumstances.stalls disturbance) circumstances
      capture.world.store = (.error fault, after, left)) :
    Move capture { capture with
      world := { capture.world with service := after, store := left }
      seen := none }

/-- What moves lead to. -/
inductive Moves (start : Capture) : Capture → Prop
  | refl : Moves start start
  | step {now next : Capture} : Moves start now → Move now next → Moves start next

/-- A service begins: it was set up, the store has no gaps and no batches yet, no transaction is open, and
the ids of the rows in the log were given out. -/
structure Starts (service : Service) (start : Capture) : Prop where
  world : start.world = { service := service, store := start.world.store }
  fresh : Fresh start.world.store
  given : ∀ log, start.world.store.changes = some log → ∀ row ∈ log.rows, row.id < start.next
  counter : 0 < start.next ∧ start.next ≤ openEnd
  clock : Millis.first ≤ start.now ∧ start.now ≤ Millis.last
  closed : start.transactions = []
  unseen : start.seen = none
  unjudged : start.misjudged = []

/-! ## times and ids -/

namespace Capture

/-- A range, if it is closed, lies below the ids still to come, and came into the table after every row that
an open transaction captured in it or below it. -/
def Follows (capture : Capture) (range : IdRange) (time : Millis) : Prop :=
  range.2 ≠ openEnd → range.2 < capture.next ∧
    ∀ began row, capture.Uncommitted began row → row.id ≤ range.2 → row.createTime ≤ Millis.ofStored time

/-- The transactions that captured a row in a closed range or below it began no earlier than the oldest one
that was seen. -/
def Heeds (capture : Capture) (earliest : Option Millis) (range : IdRange) : Prop :=
  range.2 ≠ openEnd → ∀ began row, capture.Uncommitted began row → row.id ≤ range.2 →
    ∃ time, earliest = some time ∧ time ≤ began

/-- The ids of the rows that were captured, committed or not. -/
def ids (capture : Capture) (log : List ChangeRow) : List Int :=
  (capture.transactions.flatMap Transaction.rows ++ log).map ChangeRow.id

/-- What the transactions may do without a cycle. -/
structure Writes (capture later : Capture) : Prop where
  now : capture.now ≤ later.now ∧ later.now ≤ Millis.last
  next : capture.next ≤ later.next ∧ later.next ≤ openEnd
  began : ∀ transaction ∈ later.transactions, transaction.began ≤ later.now
  uncommitted : ∀ began row, later.Uncommitted began row → capture.Uncommitted began row ∨
    capture.next ≤ row.id ∧ row.id < later.next ∧ began ≤ row.createTime ∧ row.createTime ≤ later.now
  skipped : later.world.skipped = capture.world.skipped
  misjudged : later.misjudged = capture.misjudged
  late : ∀ id ∈ later.world.late, id ∈ capture.world.late ∨ Held capture.misjudged id

variable {capture later : Capture} {range : IdRange} {time : Millis} {earliest : Option Millis}

theorem Follows.writes (h : capture.Follows range time) (hwrites : capture.Writes later) :
    later.Follows range time := by
  intro hclosed
  obtain ⟨hlt, hafter⟩ := h hclosed
  refine ⟨Int.lt_of_lt_of_le hlt hwrites.next.1, fun began row hopen hle => ?_⟩
  cases hwrites.uncommitted began row hopen with
  | inl hold => exact hafter began row hold hle
  | inr hnew => omega

theorem Heeds.writes (h : capture.Heeds earliest range) (hlt : range.2 ≠ openEnd → range.2 < capture.next)
    (hwrites : capture.Writes later) : later.Heeds earliest range := by
  intro hclosed began row hopen hle
  have hbelow := hlt hclosed
  cases hwrites.uncommitted began row hopen with
  | inl hold => exact h hclosed began row hold hle
  | inr hnew => omega

/-- Whoever asks sees every open transaction. -/
theorem heeds_visibility (capture : Capture) (range : IdRange) :
    capture.Heeds (capture.transactions.map Transaction.began).min? range := by
  rintro - began row ⟨transaction, hmem, rfl, -⟩ -
  have hbegan : transaction.began ∈ capture.transactions.map Transaction.began := List.mem_map_of_mem hmem
  cases hmin : (capture.transactions.map Transaction.began).min? with
  | none =>
      rw [List.min?_eq_none_iff] at hmin
      rw [hmin] at hbegan
      exact (List.not_mem_nil hbegan).elim
  | some time => exact ⟨time, rfl, (List.min?_eq_some_iff.1 hmin).2 _ hbegan⟩

end Capture

/-- What holds of the times and the ids in every run. -/
structure Timely (capture : Capture) (rows : List GapRow) (log : List ChangeRow) : Prop where
  clock : Millis.first ≤ capture.now ∧ capture.now ≤ Millis.last
  counter : 0 < capture.next ∧ capture.next ≤ openEnd
  began : ∀ transaction ∈ capture.transactions, transaction.began ≤ capture.now
  uncommitted : ∀ began row, capture.Uncommitted began row →
    0 < row.id ∧ row.id < capture.next ∧ began ≤ row.createTime ∧ row.createTime ≤ capture.now
  logged : ∀ row ∈ log, row.id < capture.next
  distinct : (capture.ids log).Nodup
  dated : Dated capture.Follows rows
  seen : ∀ visibility, capture.seen = some visibility →
    ∃ earliest, visibility = .known earliest ∧ Dated (fun range _ => capture.Heeds earliest range) rows
  skipped : ∀ range ∈ capture.world.skipped, range.2 < capture.next
  awaited : ∀ began row, capture.Uncommitted began row → Held capture.world.skipped row.id →
    Held capture.misjudged row.id
  misjudged : ∀ range ∈ capture.misjudged, range ∈ capture.world.skipped
  late : ∀ id ∈ capture.world.late, Held capture.misjudged id

section timely

variable {service : Service} {capture later next : Capture} {rows : List GapRow}
  {log : Numbered ChangeRow} {book : Book}

/-- What the transactions do keeps the times and the ids. -/
theorem Timely.writes {visible : List ChangeRow} (h : Timely capture rows log.rows)
    (hwrites : capture.Writes later) (hvisible : ∀ row ∈ visible, row.id < later.next)
    (hdistinct : (later.ids visible).Nodup) (hseen : later.seen = capture.seen) :
    Timely later rows visible where
  clock := ⟨Int.le_trans h.clock.1 hwrites.now.1, hwrites.now.2⟩
  counter := ⟨Int.lt_of_lt_of_le h.counter.1 hwrites.next.1, hwrites.next.2⟩
  began := hwrites.began
  uncommitted := by
    intro began row hopen
    cases hwrites.uncommitted began row hopen with
    | inl hold =>
        obtain ⟨hpos, hlt, hbegan, hle⟩ := h.uncommitted began row hold
        have hnext := hwrites.next.1
        exact ⟨hpos, by omega, hbegan, Int.le_trans hle hwrites.now.1⟩
    | inr hnew =>
        obtain ⟨hid, hlt, hbegan, hle⟩ := hnew
        have hpos := h.counter.1
        exact ⟨by omega, hlt, hbegan, hle⟩
  logged := hvisible
  distinct := hdistinct
  dated := h.dated.imp fun range time hfollows => hfollows.writes hwrites
  seen := by
    intro visibility hsome
    obtain ⟨earliest, hknown, hheeds⟩ := h.seen visibility (hseen ▸ hsome)
    refine ⟨earliest, hknown, fun row hrow => ?_⟩
    exact (hheeds row hrow).writes (fun hclosed => (h.dated row hrow hclosed).1) hwrites
  skipped := by
    rw [hwrites.skipped]
    exact fun range hrange => Int.lt_of_lt_of_le (h.skipped range hrange) hwrites.next.1
  awaited := by
    rw [hwrites.skipped, hwrites.misjudged]
    intro began row hopen hheld
    cases hwrites.uncommitted began row hopen with
    | inl hold => exact h.awaited began row hold hheld
    | inr hnew =>
        -- a new id lies above all that was skipped
        obtain ⟨range, hrange, hin⟩ := hheld
        have hlt := h.skipped range hrange
        have hle := hin.2
        omega
  misjudged := by
    rw [hwrites.skipped, hwrites.misjudged]
    exact h.misjudged
  late := by
    rw [hwrites.misjudged]
    intro id hid
    cases hwrites.late id hid with
    | inl hold => exact h.late id hold
    | inr hheld => exact hheld

/-- When a service begins, nothing is open. -/
theorem Starts.timely (h : Starts service capture) (hlog : capture.world.store.changes = some log)
    (hnodup : (log.rows.map ChangeRow.id).Nodup) : Timely capture [] log.rows where
  clock := h.clock
  counter := h.counter
  began := by
    rw [h.closed]
    exact fun _ hmem => (List.not_mem_nil hmem).elim
  uncommitted := by
    rintro began row ⟨transaction, hmem, -⟩
    rw [h.closed] at hmem
    exact (List.not_mem_nil hmem).elim
  logged := h.given log hlog
  distinct := by
    rw [Capture.ids, h.closed]
    exact hnodup
  dated := .nil
  seen := by
    intro visibility hsome
    rw [h.unseen] at hsome
    contradiction
  skipped := by
    rw [h.world]
    exact fun _ hmem => (List.not_mem_nil hmem).elim
  awaited := by
    rw [h.world]
    exact fun _ _ _ hheld => (held_nil _ hheld).elim
  misjudged := by
    rw [h.unjudged]
    exact fun _ hmem => (List.not_mem_nil hmem).elim
  late := by
    rw [h.world]
    exact fun _ hmem => (List.not_mem_nil hmem).elim

/-- Committed rows leave a sound world; those that come late come into a range that was skipped. -/
theorem Sound.committingAll {world later : World} (h : Sound service world rows log book)
    {committed : List ChangeRow} (hids : ∀ row ∈ committed, 0 < row.id ∧ row.id < openEnd)
    (hcommit : world.committingAll committed = .ok later) :
    ∃ log' : Numbered ChangeRow, log'.rows.Perm (committed ++ log.rows) ∧
      Sound service later rows log' book ∧ later.skipped = world.skipped ∧
      ∀ id ∈ later.late, id ∈ world.late ∨ ∃ row ∈ committed, row.id = id ∧ Held world.skipped id := by
  induction committed generalizing world log with
  | nil =>
      cases hcommit
      exact ⟨log, List.Perm.refl _, h, rfl, fun _ hid => Or.inl hid⟩
  | cons row committed ih =>
      rw [World.committingAll] at hcommit
      obtain ⟨after, hinsert, hrest⟩ := except_bind_eq_ok.1 hcommit
      obtain ⟨⟨hfirst, hend⟩, hothers⟩ := List.forall_mem_cons.1 hids
      obtain ⟨mid, hperm, hmid⟩ := h.committing hfirst hend hinsert
      obtain ⟨log', hperm', hlater, hskipped, hlate⟩ := ih hmid hothers hrest
      refine ⟨log', ?_, hlater, hskipped, fun id hid => ?_⟩
      · exact hperm'.trans ((hperm.append_left committed).trans List.perm_middle)
      · obtain hold | ⟨other, hother, hsame, hheld⟩ := hlate id hid
        · rw [World.committing] at hold
          split at hold
          · next hrow =>
            rw [List.mem_cons] at hold
            cases hold with
            | inl heq => exact Or.inr ⟨row, List.mem_cons_self, heq.symm, heq ▸ hrow⟩
            | inr hmem => exact Or.inl hmem
          · exact Or.inl hold
        · exact Or.inr ⟨other, List.mem_cons_of_mem _ hother, hsame, hheld⟩

/-! ## transactions that capture and end -/

theorem mem_of_split {front back : List Transaction} {transaction other : Transaction}
    (hopen : capture.transactions = front ++ transaction :: back) (h : other ∈ front ++ back) :
    other ∈ capture.transactions := by
  rw [List.mem_append] at h
  rw [hopen, List.mem_append]
  exact h.imp id (List.mem_cons_of_mem _)

theorem ids_split {front back : List Transaction} {transaction : Transaction}
    (hopen : capture.transactions = front ++ transaction :: back) (log : List ChangeRow) :
    (capture.ids log).Perm
      ((transaction.rows ++ ((front ++ back).flatMap Transaction.rows ++ log)).map ChangeRow.id) := by
  have hperm : (front ++ transaction :: back).Perm (transaction :: (front ++ back)) := List.perm_middle
  rw [Capture.ids, hopen, ← List.append_assoc, ← List.flatMap_cons]
  exact ((hperm.flatMap_right Transaction.rows).append_right log).map _

/-- A captured row has an id of its own. -/
theorem Timely.distinct_captured {front back : List Transaction} {transaction : Transaction}
    {row : ChangeRow} (h : Timely capture rows log.rows)
    (hopen : capture.transactions = front ++ transaction :: back) (hid : capture.next ≤ row.id) :
    (Capture.ids { capture with
      next := row.id + 1
      transactions := front ++ ⟨transaction.began, transaction.rows ++ [row]⟩ :: back } log.rows).Nodup := by
  have hnew : row.id ∉ capture.ids log.rows := by
    intro hmem
    obtain ⟨other, hother, hsame⟩ := List.mem_map.1 hmem
    rw [List.mem_append, List.mem_flatMap] at hother
    obtain ⟨holder, hholder, hcaptured⟩ | hlogged := hother
    · have hlt := (h.uncommitted _ other ⟨holder, hholder, rfl, hcaptured⟩).2.1
      omega
    · have hlt := h.logged other hlogged
      omega
  have hnodup := List.nodup_cons.2 ⟨hnew, h.distinct⟩
  have hsplit : (row.id :: capture.ids log.rows).Perm _ := (ids_split hopen log.rows).cons row.id
  refine ((hsplit.trans ?_).nodup_iff).1 hnodup
  refine List.Perm.trans ?_ (ids_split rfl log.rows).symm
  rw [List.append_assoc, List.singleton_append]
  exact (List.perm_middle.symm).map ChangeRow.id

/-- A transaction that ends takes its rows with it, and what comes late came into a range that was
misjudged. -/
theorem Timely.writes_ended {front back : List Transaction} {transaction : Transaction} {world : World}
    (h : Timely capture rows log.rows) (hopen : capture.transactions = front ++ transaction :: back)
    (hskipped : world.skipped = capture.world.skipped)
    (hlate : ∀ id ∈ world.late, id ∈ capture.world.late ∨
      ∃ row ∈ transaction.rows, row.id = id ∧ Held capture.world.skipped id) :
    capture.Writes { capture with world := world, transactions := front ++ back } where
  now := ⟨Int.le_refl _, h.clock.2⟩
  next := ⟨Int.le_refl _, h.counter.2⟩
  began := fun other hother => h.began other (mem_of_split hopen hother)
  uncommitted := by
    rintro began row ⟨other, hother, hrow⟩
    exact Or.inl ⟨other, mem_of_split hopen hother, hrow⟩
  skipped := hskipped
  misjudged := rfl
  late := by
    intro id hid
    obtain hold | ⟨row, hrow, rfl, hheld⟩ := hlate id hid
    · exact Or.inl hold
    · have hmem : transaction ∈ capture.transactions :=
        hopen ▸ List.mem_append_right _ List.mem_cons_self
      exact Or.inr (h.awaited _ row ⟨transaction, hmem, rfl, hrow⟩ hheld)

/-- A captured row has a new id, and is as young as can be. -/
theorem Timely.writes_captured {front back : List Transaction} {transaction : Transaction}
    {row : ChangeRow} (h : Timely capture rows log.rows)
    (hopen : capture.transactions = front ++ transaction :: back) (hid : capture.next ≤ row.id)
    (hend : row.id < openEnd) (htime : row.createTime = capture.now) :
    capture.Writes { capture with
      next := row.id + 1
      transactions := front ++ ⟨transaction.began, transaction.rows ++ [row]⟩ :: back } := by
  have hmem : transaction ∈ capture.transactions := hopen ▸ List.mem_append_right _ List.mem_cons_self
  have hbegan := h.began transaction hmem
  have hsplit : ∀ other ∈ front ++ ⟨transaction.began, transaction.rows ++ [row]⟩ :: back,
      other = ⟨transaction.began, transaction.rows ++ [row]⟩ ∨ other ∈ capture.transactions := by
    intro other hother
    rw [List.perm_middle.mem_iff, List.mem_cons] at hother
    exact hother.imp id (mem_of_split hopen)
  refine ⟨⟨Int.le_refl _, h.clock.2⟩, ⟨Int.le_of_lt (Int.lt_add_one_of_le hid), hend⟩, ?_, ?_, rfl, rfl,
    fun _ hlate => Or.inl hlate⟩
  · intro other hother
    cases hsplit other hother with
    | inl hsame =>
        subst hsame
        exact hbegan
    | inr hold => exact h.began other hold
  · rintro began captured ⟨other, hother, rfl, hrow⟩
    cases hsplit other hother with
    | inr hold => exact Or.inl ⟨other, hold, rfl, hrow⟩
    | inl hsame =>
        subst hsame
        rw [List.mem_append, List.mem_singleton] at hrow
        cases hrow with
        | inl hold => exact Or.inl ⟨transaction, hmem, rfl, hold⟩
        | inr hnew =>
            subst hnew
            rw [htime]
            exact Or.inr ⟨hid, Int.lt_succ _, hbegan, Int.le_refl _⟩

/-! ## a cycle -/

section cycle

variable {circumstances : Circumstances} {disturbance : Disturbance} {store left : Store} {course : Course}
  {before : List GapRow} {report : CycleReport} {after : Service}

/-- A range below the ids still to come may be put in now. -/
theorem Timely.follows_now (h : Timely capture rows log.rows) {range : IdRange}
    (hlt : range.2 ≠ openEnd → range.2 < capture.next) : capture.Follows range capture.now := by
  intro hclosed
  refine ⟨hlt hclosed, fun began row hopen _ => ?_⟩
  rw [Millis.ofStored_of_mem h.clock]
  exact (h.uncommitted began row hopen).2.2.2

/-- The closed gaps of a cycle lie below the ids still to come. -/
theorem Timely.stop_lt {now : Millis} (h : Timely capture rows log.rows) (hloaded : Loaded now rows before)
    {gap : Gap} (hgap : gap ∈ activeIn before) (hclosed : gap.isOpen = false) :
    gap.stop < capture.next := by
  have hdated : Dated capture.Follows before :=
    hloaded.dated h.dated fun _ _ hopen hne => absurd hopen hne
  obtain ⟨row, hrow, -, rfl⟩ := mem_activeIn.1 hgap
  exact (hdated row hrow (of_decide_eq_false hclosed)).1

/-- The ranges a cycle puts in end below a row of the log, or where a closed gap ends. -/
theorem Timely.dated_gapsAfter (h : Timely capture rows log.rows)
    (hloaded : Loaded circumstances.now rows before)
    (hcycled : Cycled service disturbance circumstances store course before log)
    (hnow : circumstances.now = capture.now) :
    Dated capture.Follows (course.gapsAfter service circumstances log before) := by
  have hdated : Dated capture.Follows before :=
    hloaded.dated h.dated fun _ _ hopen hclosed => absurd hopen hclosed
  rw [Course.gapsAfter]
  refine (dated_settled hdated ?_ ?_).purged _
  · intro gap hgap range hrange
    rw [hnow]
    refine h.follows_now fun _ => ?_
    obtain ⟨row, hrow, hlt⟩ | ⟨hstop, hclosed⟩ := snd_of_mem_pieces hcycled.properLog hrange
    · exact Int.lt_trans hlt (h.logged row hrow)
    · rw [hstop]
      exact h.stop_lt hloaded (hcycled.active ▸ hgap) hclosed
  · intro range hopen
    rw [hnow]
    exact h.follows_now fun hclosed => absurd hopen hclosed

/-- Asking changes nothing but what is seen. -/
theorem Timely.asking (h : Timely capture rows log.rows) {seen : Option Visibility}
    (hseen : ∀ visibility, seen = some visibility → ∃ earliest, visibility = .known earliest ∧
      Dated (fun range _ => capture.Heeds earliest range) rows) :
    Timely { capture with seen := seen } rows log.rows where
  clock := h.clock
  counter := h.counter
  began := h.began
  uncommitted := h.uncommitted
  logged := h.logged
  distinct := h.distinct
  dated := h.dated
  seen := hseen
  skipped := h.skipped
  awaited := h.awaited
  misjudged := h.misjudged
  late := h.late

/-- A cycle keeps the times and the ids. -/
theorem Timely.cycling (hsound : Sound service capture.world rows log book)
    (h : Timely capture rows log.rows) (hnow : circumstances.now = capture.now)
    (hcommit : capture.world.service.cycleBy
      (capture.world.service.disturbed circumstances.stalls disturbance) circumstances
      capture.world.store = (.ok report, after, left))
    {rows' : List GapRow} (hgaps : left.gaps = some rows') :
    Timely (capture.cycling circumstances disturbance after left) rows' log.rows where
  clock := h.clock
  counter := h.counter
  began := h.began
  uncommitted := h.uncommitted
  logged := h.logged
  distinct := h.distinct
  dated := by
    obtain ⟨before, hloaded, hcycled, -, hleft⟩ := hsound.cycled hcommit
    rw [hleft, Store.gaps_withGaps, Option.some.injEq] at hgaps
    rw [← hgaps]
    exact h.dated_gapsAfter hloaded hcycled hnow
  seen := by
    intro visibility hsome
    rw [Capture.cycling] at hsome
    contradiction
  skipped := by
    obtain ⟨before, hloaded, hcycled, -⟩ := hsound.cycled hcommit
    intro range hrange
    rw [Capture.cycling, World.cycling, List.mem_append] at hrange
    cases hrange with
    | inl hold => exact h.skipped range hold
    | inr hnew =>
        obtain ⟨gap, hgap, rfl⟩ := List.mem_map.1 (List.mem_of_mem_filter hnew)
        have hfate := (hcycled.range_mem_skips hgap).1 hnew
        exact h.stop_lt hloaded (hcycled.active ▸ hgap) (fate_eq_skipped.1 hfate).1
  awaited := by
    intro began row hopen hheld
    rw [Capture.cycling, World.cycling, held_append] at hheld
    rw [Capture.cycling, held_append]
    cases hheld with
    | inl hold => exact Or.inl (h.awaited began row hopen hold)
    | inr hnew =>
        obtain ⟨range, hrange, hin⟩ := hnew
        have hawaits : capture.Awaits range := Capture.awaits_iff.2 ⟨began, row, hopen, hin⟩
        exact Or.inr ⟨range, List.mem_filter.2 ⟨hrange, decide_eq_true hawaits⟩, hin⟩
  misjudged := by
    intro range hrange
    rw [Capture.cycling, List.mem_append] at hrange
    rw [Capture.cycling, World.cycling, List.mem_append]
    exact hrange.imp (h.misjudged range) List.mem_of_mem_filter
  late := by
    intro id hid
    rw [Capture.cycling, held_append]
    exact Or.inl (h.late id hid)

end cycle

/-! ## every move -/

/-- Whatever happens next keeps the times and the ids. -/
theorem Timely.move (hsound : Sound service capture.world rows log book)
    (h : Timely capture rows log.rows) (hmove : Move capture next) :
    ∃ rows' log' book', Sound service next.world rows' log' book' ∧ Timely next rows' log'.rows := by
  cases hmove with
  | wait later hlater hlast =>
      refine ⟨rows, log, book, hsound, h.writes ?_ h.logged h.distinct rfl⟩
      exact ⟨⟨hlater, hlast⟩, ⟨Int.le_refl _, h.counter.2⟩,
        fun transaction hmem => Int.le_trans (h.began transaction hmem) hlater,
        fun _ _ hopen => Or.inl hopen, rfl, rfl, fun _ hid => Or.inl hid⟩
  | opened =>
      refine ⟨rows, log, book, hsound, h.writes ?_ h.logged h.distinct rfl⟩
      refine ⟨⟨Int.le_refl _, h.clock.2⟩, ⟨Int.le_refl _, h.counter.2⟩, ?_, ?_, rfl, rfl,
        fun _ hid => Or.inl hid⟩
      · exact List.forall_mem_cons.2 ⟨Int.le_refl _, h.began⟩
      · rintro began row ⟨transaction, hmem, hbegan, hrow⟩
        rw [List.mem_cons] at hmem
        cases hmem with
        | inl hnew =>
            rw [hnew] at hrow
            exact (List.not_mem_nil hrow).elim
        | inr hold => exact Or.inl ⟨transaction, hold, hbegan, hrow⟩
  | captured front back transaction row hopen hid hend htime =>
      refine ⟨rows, log, book, hsound, h.writes (h.writes_captured hopen hid hend htime) ?_ ?_ rfl⟩
      · intro visible hvisible
        exact Int.lt_trans (h.logged visible hvisible) (Int.lt_add_one_of_le hid)
      · exact h.distinct_captured hopen hid
  | committed front back transaction world hopen hcommit =>
      have hrows : ∀ row ∈ transaction.rows, capture.Uncommitted transaction.began row :=
        fun row hrow => ⟨transaction, hopen ▸ List.mem_append_right _ List.mem_cons_self, rfl, hrow⟩
      have hids : ∀ row ∈ transaction.rows, 0 < row.id ∧ row.id < capture.next := fun row hrow =>
        ⟨(h.uncommitted _ row (hrows row hrow)).1, (h.uncommitted _ row (hrows row hrow)).2.1⟩
      obtain ⟨log', hperm, hworld, hskipped, hlate⟩ := hsound.committingAll (fun row hrow =>
        ⟨(hids row hrow).1, Int.lt_of_lt_of_le (hids row hrow).2 h.counter.2⟩) hcommit
      refine ⟨rows, log', book, hworld, h.writes (h.writes_ended hopen hskipped hlate) ?_ ?_ rfl⟩
      · intro row hrow
        rw [hperm.mem_iff, List.mem_append] at hrow
        cases hrow with
        | inl hnew => exact (hids row hnew).2
        | inr hold => exact h.logged row hold
      · have hdistinct := (ids_split hopen log.rows).nodup_iff.1 h.distinct
        refine List.Perm.nodup ?_ hdistinct
        rw [Capture.ids]
        refine (List.Perm.trans ?_ (List.Perm.append_left _ hperm.symm)).map _
        exact List.perm_append_comm_assoc _ _ _
  | dropped front back transaction hopen =>
      refine ⟨rows, log, book, hsound,
        h.writes (h.writes_ended hopen rfl fun _ hid => Or.inl hid) h.logged ?_ rfl⟩
      have hdistinct := (ids_split hopen log.rows).nodup_iff.1 h.distinct
      rw [List.map_append] at hdistinct
      exact (List.nodup_append.1 hdistinct).2.1
  | asked =>
      refine ⟨rows, log, book, hsound, h.asking fun visibility hsome => ?_⟩
      rw [← Option.some.inj hsome]
      exact ⟨_, rfl, fun row _ => capture.heeds_visibility row.range⟩
  | cycle circumstances disturbance report after left hseen hnow hcommit =>
      obtain ⟨rows', book', hsound'⟩ := hsound.cycling hcommit
      exact ⟨rows', log, book', hsound', h.cycling hsound hnow hcommit hsound'.gaps⟩
  | fault circumstances disturbance fault after left herror =>
      obtain ⟨rfl, rfl⟩ := cycleBy_eq_error herror
      exact ⟨rows, log, book, hsound, h.asking fun _ hsome => absurd hsome (Option.some_ne_none _).symm⟩

/-- Rows under ids that are free can be committed. -/
theorem Sound.exists_committingAll {world : World} (h : Sound service world rows log book)
    {committed : List ChangeRow} (hids : ∀ row ∈ committed, 0 < row.id ∧ row.id < openEnd)
    (hfree : ((committed ++ log.rows).map ChangeRow.id).Nodup) :
    ∃ later, world.committingAll committed = .ok later := by
  induction committed generalizing world log with
  | nil => exact ⟨world, rfl⟩
  | cons row committed ih =>
      obtain ⟨⟨hfirst, hend⟩, hothers⟩ := List.forall_mem_cons.1 hids
      rw [List.cons_append, List.map_cons, List.nodup_cons] at hfree
      obtain ⟨hnew, hrest⟩ := hfree
      have hother : ∀ other ∈ log.rows, other.id ≠ row.id := fun other hmem hsame =>
        hnew (hsame ▸ List.mem_map_of_mem (List.mem_append_right _ hmem))
      obtain ⟨after, hinsert⟩ := exists_insertChangeRow h.changes hother
      obtain ⟨mid, hperm, hmid⟩ := h.committing hfirst hend hinsert
      have hnodup : ((committed ++ mid.rows).map ChangeRow.id).Nodup := by
        have hmiddle := (hperm.append_left committed).trans List.perm_middle
        refine (hmiddle.map ChangeRow.id).nodup_iff.2 ?_
        exact List.nodup_cons.2 ⟨hnew, hrest⟩
      obtain ⟨later, hlater⟩ := ih hmid hothers hnodup
      refine ⟨later, ?_⟩
      rw [World.committingAll, hinsert]
      exact hlater

/-- An open transaction can always commit. -/
theorem Timely.exists_committed (hsound : Sound service capture.world rows log book)
    (h : Timely capture rows log.rows) {front back : List Transaction} {transaction : Transaction}
    (hopen : capture.transactions = front ++ transaction :: back) :
    ∃ world, Move capture { capture with world := world, transactions := front ++ back } := by
  have hmem : transaction ∈ capture.transactions := hopen ▸ List.mem_append_right _ List.mem_cons_self
  have hids : ∀ row ∈ transaction.rows, 0 < row.id ∧ row.id < openEnd := by
    intro row hrow
    obtain ⟨hpos, hlt, -⟩ := h.uncommitted _ row ⟨transaction, hmem, rfl, hrow⟩
    exact ⟨hpos, Int.lt_of_lt_of_le hlt h.counter.2⟩
  have hdistinct := (ids_split hopen log.rows).nodup_iff.1 h.distinct
  have hsub : (transaction.rows ++ log.rows).Sublist
      (transaction.rows ++ ((front ++ back).flatMap Transaction.rows ++ log.rows)) :=
    (List.Sublist.refl _).append (List.sublist_append_right _ _)
  obtain ⟨world, hcommit⟩ := hsound.exists_committingAll hids ((hsub.map ChangeRow.id).nodup hdistinct)
  exact ⟨world, .committed front back transaction world hopen hcommit⟩

/-- What holds of the times and the ids holds in every run. -/
theorem Starts.moves {config : Configuration} {registry : Registry} {start : Capture}
    (hsetup : Service.setUp config registry = .ok service) (hstart : Starts service start)
    (hmoves : Moves start capture) :
    ∃ rows log book, Sound service capture.world rows log book ∧ Timely capture rows log.rows := by
  induction hmoves with
  | refl =>
      obtain ⟨log, book, hsound⟩ := Sound.fresh hsetup hstart.fresh
      rw [← hstart.world] at hsound
      exact ⟨[], log, book, hsound, hstart.timely hsound.changes hsound.properLog.nodup⟩
  | step _ hmove ih =>
      obtain ⟨rows, log, book, hsound, htimely⟩ := ih
      exact htimely.move hsound hmove

end timely

end ChangeRouting
