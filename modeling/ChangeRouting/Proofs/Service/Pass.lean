import ChangeRouting.Proofs.Batch.Building
import ChangeRouting.Proofs.Read.Rows
import ChangeRouting.Service.Cycle

/-!
# ChangeRouting.Proofs.Service.Pass

What a committed pass did.

* `Service.answers` — what the routers decided, change by change, until a limit was reached;
* `routed_routeChanges` — routing changes sends each of them where the routers decided;
* `decides_of_pass` — a committed pass decided about the rows of its channel up to its reach and about no
  others;
* `honours_of_pass` — it stored what it decided.
-/

namespace ChangeRouting

/-- A change, and what the routers decided about it. -/
structure Answer where
  change : Change
  decisions : List Decision

/-- Where the change is sent. -/
def Answer.sendings (answer : Answer) : List (String × Item) :=
  sendingsOf answer.change answer.decisions

/-- What the change delivers. -/
def Answer.deliveries (answer : Answer) : List Delivery :=
  deliveriesOf answer.change answer.decisions

/-- What is sent is a change in the name of a router that decided about it, or of none. -/
theorem mem_sendings {answers : List Answer} {node : String} {item : Item} :
    (node, item) ∈ answers.flatMap Answer.sendings ↔ ∃ answer ∈ answers,
      item.change = answer.change ∧ (node, item.router) ∈ Builder.targets answer.decisions := by
  rw [List.mem_flatMap]
  constructor
  · rintro ⟨answer, hanswer, hsent⟩
    obtain ⟨target, htarget, heq⟩ := List.mem_map.1 hsent
    cases heq
    exact ⟨answer, hanswer, rfl, htarget⟩
  · rintro ⟨answer, hanswer, hchange, htarget⟩
    refine ⟨answer, hanswer, List.mem_map.2 ⟨_, htarget, ?_⟩⟩
    rw [← hchange]

/-- What the routers decide about changes that are routed one after the other, until a limit is reached
between two transactions. -/
def Service.answers (service : Service) (lookups : Lookups) (channel : Channel) :
    List Change → PassState × Store → List Answer
  | [], _ => []
  | change :: rest, s =>
    if s.1.isBoundary change && s.1.limitReached channel then []
    else
      ⟨change, (service.decide lookups s.2 change s.1.scope).decisions⟩ ::
        answers service lookups channel rest ((service.routeChange lookups change).run.run s).2

/-- Whatever comes before a change, the routers decide about it as they find the store and the scope. -/
theorem mem_answers {service : Service} {lookups : Lookups} {channel : Channel} {changes : List Change}
    {s : PassState × Store} {answer : Answer} (h : answer ∈ service.answers lookups channel changes s) :
    answer.change ∈ changes ∧ ∃ store scope,
      answer.decisions = (service.decide lookups store answer.change scope).decisions := by
  induction changes generalizing s with
  | nil => exact (List.not_mem_nil h).elim
  | cons change changes ih =>
      rw [Service.answers] at h
      split at h
      · exact (List.not_mem_nil h).elim
      · rw [List.mem_cons] at h
        cases h with
        | inl heq =>
            subst heq
            exact ⟨List.mem_cons_self, _, _, rfl⟩
        | inr hmem =>
            obtain ⟨hchange, hdecided⟩ := ih hmem
            exact ⟨List.mem_cons_of_mem _ hchange, hdecided⟩

/-! ## routing changes -/

section routing

variable {service : Service} {lookups : Lookups} {channel : Channel} {s t : PassState × Store}
  {u : Unit}

theorem building_eq_ok {work : Building α} {a : α} :
    (Service.building work).run.run s = (.ok a, t) ↔
      ∃ builder store, work.run.run (s.1.builder, s.2) = (.ok a, (builder, store)) ∧
        t = ({ s.1 with builder := builder }, store) := by
  show ((work.run.run (s.1.builder, s.2)).1,
    { s.1 with builder := (work.run.run (s.1.builder, s.2)).2.1 },
    (work.run.run (s.1.builder, s.2)).2.2) = (.ok a, t) ↔ _
  cases work.run.run (s.1.builder, s.2) with
  | mk outcome rest =>
      constructor
      · intro h
        cases h
        exact ⟨rest.1, rest.2, rfl, rfl⟩
      · rintro ⟨builder, store, hrun, rfl⟩
        cases hrun
        rfl

/-- A change was routed: the routers were asked about it, and it was sent where they decided. -/
theorem routeChange_eq_ok {change : Change}
    (h : (service.routeChange lookups change).run.run s = (.ok u, t)) :
    ∃ count builder store,
      (Builder.add change (service.decide lookups s.2 change s.1.scope).decisions).run.run
          (s.1.builder, s.2) = (.ok count, (builder, store)) ∧
        t = (PassState.advance
          { s.1.note (service.decide lookups s.2 change s.1.scope) with builder := builder } change,
            store) := by
  rw [Service.routeChange] at h
  obtain ⟨_, _, hget, h⟩ := run_bind_eq_ok.1 h
  cases hget
  obtain ⟨_, _, hset, h⟩ := run_bind_eq_ok.1 h
  cases hset
  obtain ⟨_, mid, hadd, h⟩ := run_bind_eq_ok.1 h
  cases h
  obtain ⟨count, _, hadd, hcount⟩ := run_bind_eq_ok.1 hadd
  cases hcount
  obtain ⟨builder, store, hrun, rfl⟩ := building_eq_ok.1 hadd
  exact ⟨count, builder, store, hrun, rfl⟩

/-- How changes were routed: what was decided about a front of them, and what it left. -/
structure Routed (changes : List Change) (answers : List Answer) (s t : PassState × Store) : Prop where
  front : ∃ rest, changes = answers.map Answer.change ++ rest ∧ (t.1.stoppedEarly = false → rest = [])
  stop : ∀ next rest, changes = answers.map Answer.change ++ next :: rest →
    next.transaction = none ∨
      next.transaction ≠ answers.getLast?.elim s.1.lastTransaction (·.change.transaction)
  lastId : t.1.lastId = (answers.getLast?.map (·.change.id)).or s.1.lastId
  marks : ∀ mark ∈ t.1.routed, mark ∈ s.1.routed ∨ ∃ answer ∈ answers, answer.change.id = mark.2
  builds : ∀ served before book sent parcels, Builds served before book sent parcels (s.1.builder, s.2) →
    ∃ more, Builds served before book (sent ++ answers.flatMap Answer.sendings) (parcels ++ more)
      (t.1.builder, t.2)

theorem mem_assign {name : String} {value : α} {entries : List (String × α)} {entry : String × α}
    (h : entry ∈ Service.assign name value entries) : entry = (name, value) ∨ entry ∈ entries := by
  induction entries with
  | nil => exact Or.inl (List.mem_singleton.1 h)
  | cons other entries ih =>
      rw [Service.assign] at h
      split at h
      · rw [List.mem_cons] at h
        exact h.imp id fun hmem => List.mem_cons_of_mem _ hmem
      · rw [List.mem_cons] at h
        cases h with
        | inl heq => exact Or.inr (heq ▸ List.mem_cons_self)
        | inr hmem => exact (ih hmem).imp id fun hrest => List.mem_cons_of_mem _ hrest

theorem mem_routed_advance {state : PassState} {change : Change} {mark : String × Int}
    (h : mark ∈ (state.advance change).routed) : mark ∈ state.routed ∨ change.id = mark.2 := by
  rw [PassState.advance] at h
  cases htransaction : change.transaction with
  | none =>
      rw [htransaction] at h
      exact Or.inl h
  | some transaction =>
      rw [htransaction] at h
      cases mem_assign h with
      | inl heq => exact Or.inr (heq ▸ rfl)
      | inr hmem => exact Or.inl hmem

/-- At a boundary no transaction goes on. -/
theorem boundary_of_isBoundary {state : PassState} {change : Change}
    (h : state.isBoundary change = true) :
    change.transaction = none ∨ change.transaction ≠ state.lastTransaction := by
  rw [PassState.isBoundary, Bool.or_eq_true_iff, Bool.or_eq_true_iff, Option.isNone_iff_eq_none,
    Option.isNone_iff_eq_none, decide_eq_true_eq] at h
  obtain (hnone | hlast) | hne := h
  · exact Or.inl hnone
  · rw [hlast]
    cases change.transaction with
    | none => exact Or.inl rfl
    | some transaction => exact Or.inr (Option.some_ne_none _)
  · exact Or.inr hne

/-- Nothing was done before a pass. -/
theorem limitReached_startOf : (service.startOf channel).limitReached channel = false := by
  have hrows : (service.startOf channel).rowsRead = 0 := rfl
  have hbatches : (service.startOf channel).builder.mostBatches = 0 := rfl
  rw [PassState.limitReached, hrows, hbatches]
  grind

/-- A change was routed, and then the changes behind it. -/
theorem Routed.cons {change : Change} {changes : List Change} {answers : List Answer}
    {mid : PassState × Store} (hone : (service.routeChange lookups change).run.run s = (.ok u, mid))
    (h : Routed changes answers mid t) :
    Routed (change :: changes)
      (⟨change, (service.decide lookups s.2 change s.1.scope).decisions⟩ :: answers) s t := by
  obtain ⟨count, builder, store, hadd, hmid⟩ := routeChange_eq_ok hone
  constructor
  · obtain ⟨rest, hfront, hall⟩ := h.front
    refine ⟨rest, ?_, hall⟩
    rw [List.map_cons, List.cons_append, ← hfront]
  · intro next rest hnext
    rw [List.map_cons, List.cons_append, List.cons.injEq] at hnext
    have hstops := h.stop next rest hnext.2
    rw [hmid] at hstops
    rw [List.getLast?_cons]
    cases hlatest : answers.getLast? with
    | none =>
        rw [hlatest] at hstops
        exact hstops
    | some answer =>
        rw [hlatest] at hstops
        exact hstops
  · have hlast : mid.1.lastId = some change.id := by
      rw [hmid]
      rfl
    rw [h.lastId, hlast, List.getLast?_cons]
    cases answers.getLast? <;> rfl
  · intro mark hmark
    cases h.marks mark hmark with
    | inl hbefore =>
        rw [hmid] at hbefore
        cases mem_routed_advance hbefore with
        | inl hs => exact Or.inl hs
        | inr heq => exact Or.inr ⟨_, List.mem_cons_self, heq⟩
    | inr hanswer =>
        obtain ⟨answer, hmem, heq⟩ := hanswer
        exact Or.inr ⟨answer, List.mem_cons_of_mem _ hmem, heq⟩
  · intro served before book sent parcels hs
    obtain ⟨first, hfirst⟩ := builds_add hs hadd
    obtain ⟨more, hend⟩ := h.builds served before book _ _ (by rw [hmid]; exact hfirst)
    rw [List.append_assoc, List.append_assoc] at hend
    exact ⟨first ++ more, hend⟩

/-- Changes that were routed were sent where the routers decided, one after the other. -/
theorem routed_routeChanges {changes : List Change}
    (h : (service.routeChanges lookups channel changes).run.run s = (.ok u, t)) :
    Routed changes (service.answers lookups channel changes s) s t := by
  induction changes generalizing s with
  | nil =>
      cases h
      rw [Service.answers]
      exact ⟨⟨[], rfl, fun _ => rfl⟩, fun _ _ h => (List.cons_ne_nil _ _ h.symm).elim, rfl,
        fun _ hmark => Or.inl hmark, fun _ _ _ _ _ hs => ⟨[], by simpa using hs⟩⟩
  | cons change changes ih =>
      rw [Service.routeChanges] at h
      obtain ⟨_, _, hget, h⟩ := run_bind_eq_ok.1 h
      cases hget
      rw [Service.answers]
      by_cases hstop : (s.1.isBoundary change && s.1.limitReached channel) = true
      · -- the pass stops before the change
        rw [if_pos hstop]
        simp only [hstop, if_true] at h
        cases h
        refine ⟨⟨change :: changes, rfl, fun hfalse => absurd hfalse (by simp)⟩, ?_, rfl,
          fun _ hmark => Or.inl hmark, fun _ _ _ _ _ hs => ⟨[], by simpa using hs⟩⟩
        intro next rest hnext
        cases hnext
        exact boundary_of_isBoundary (Bool.and_eq_true_iff.1 hstop).1
      · rw [if_neg hstop]
        simp only [hstop, Bool.false_eq_true, if_false] at h
        obtain ⟨_, mid, hone, hrest⟩ := run_bind_eq_ok.1 h
        have hlater := ih hrest
        rw [hone]
        exact hlater.cons hone

/-- A pass that stopped early decided about a change before: it does not start at a limit. -/
theorem answers_ne_nil {changes : List Change} {store : Store}
    (h : (service.routeChanges lookups channel changes).run.run (service.startOf channel, store) = (.ok u, t))
    (hstop : t.1.stoppedEarly = true) :
    service.answers lookups channel changes (service.startOf channel, store) ≠ [] := by
  cases changes with
  | nil =>
      cases h
      cases hstop
  | cons change changes =>
      rw [Service.answers, limitReached_startOf, Bool.and_false, if_neg Bool.false_ne_true]
      exact List.cons_ne_nil _ _

end routing

/-! ## a committed pass -/

section pass

variable {service : Service} {lookups : Lookups} {gaps : List Gap} {stalledAfter : Option Nat}
  {channel : Channel} {store after : Store} {outcome : PassOutcome} {reading : Reading}

/-- A pass that does not stall routes changes, and then fails for its reader or stores its batches. -/
theorem routeReading_run {s : PassState × Store} :
    (service.routeReading lookups none channel reading).run.run s =
      match (service.routeChanges lookups channel reading.changes).run.run s with
      | (.error fault, after) => (.error fault, after)
      | (.ok _, after) =>
        match after.1.stoppedEarly, reading.fault with
        | false, some fault => (.error fault, after)
        | _, _ => (Service.building Builder.finish).run.run after := by
  rw [Service.routeReading, run_bind]
  simp only [Option.elim_none]
  cases (service.routeChanges lookups channel reading.changes).run.run s with
  | mk outcome after =>
      cases outcome with
      | error fault => rfl
      | ok u =>
          simp only [run_bind, run_get, Option.isNone_none, Bool.and_true, Option.isSome_none,
            Bool.false_eq_true, if_false, bind_pure]
          cases after.1.stoppedEarly with
          | true => rfl
          | false => cases reading.fault <;> rfl

/-- A pass that stalls fails, at the latest when its batches are stored. -/
theorem routeReading_stalled {s t : PassState × Store} {count : Nat} {built : BuildReport} :
    (service.routeReading lookups (some count) channel reading).run.run s ≠ (.ok built, t) := by
  intro h
  rw [Service.routeReading] at h
  obtain ⟨_, mid, -, h⟩ := run_bind_eq_ok.1 h
  obtain ⟨_, _, hget, h⟩ := run_bind_eq_ok.1 h
  cases hget
  simp only [Option.isNone_some, Bool.and_false, Bool.false_eq_true, if_false, Option.isSome_some,
    if_true] at h
  obtain ⟨_, _, -, h⟩ := run_bind_eq_ok.1 h
  obtain ⟨_, _, hthrow, -⟩ := run_bind_eq_ok.1 h
  cases hthrow

/-- A reading that was routed to its end did not stall, and its fault was met only if the pass went on
to the end of the reading. -/
theorem routeReading_eq_ok {s t : PassState × Store} {built : BuildReport}
    (h : (service.routeReading lookups stalledAfter channel reading).run.run s = (.ok built, t)) :
    ∃ mid builder,
      (service.routeChanges lookups channel reading.changes).run.run s = (.ok (), mid) ∧
      (mid.1.stoppedEarly = false → reading.fault = none) ∧
      Builder.finish.run.run (mid.1.builder, mid.2) = (.ok built, (builder, t.2)) ∧
      t.1 = { mid.1 with builder := builder } := by
  cases stalledAfter with
  | some count => exact (routeReading_stalled h).elim
  | none =>
      rw [routeReading_run] at h
      cases hroute : (service.routeChanges lookups channel reading.changes).run.run s with
      | mk outcome mid =>
          rw [hroute] at h
          cases outcome with
          | error fault => cases h
          | ok u =>
              simp only at h
              split at h
              · cases h
              · next hfaultless =>
                obtain ⟨builder, store, hbuild, rfl⟩ := building_eq_ok.1 h
                refine ⟨mid, builder, rfl, fun hend => ?_, hbuild, rfl⟩
                exact Option.eq_none_iff_forall_not_mem.2 fun fault hfault => hfaultless fault hend hfault

/-- A committed pass routed what it read and left what it says. -/
theorem pass_eq_ok
    (h : (service.pass lookups gaps stalledAfter channel).on store = (.ok outcome, after)) :
    ∃ mid builder built,
      (service.routeChanges lookups channel (service.readingOf gaps channel store).changes).run.run
          (service.startOf channel, store) = (.ok (), mid) ∧
      (mid.1.stoppedEarly = false → (service.readingOf gaps channel store).fault = none) ∧
      Builder.finish.run.run (mid.1.builder, mid.2) = (.ok built, (builder, after)) ∧
      outcome = Service.outcomeOf channel (service.readingOf gaps channel store) built
        { mid.1 with builder := builder } := by
  have hpass : (service.pass lookups gaps stalledAfter channel) store = (.ok outcome, after) := h
  simp only [Service.pass, ExceptT.mk] at hpass
  split at hpass
  · cases hpass
  · next built state after hrun =>
    cases hpass
    obtain ⟨mid, builder, hroute, hfault, hfinish, hstate⟩ := routeReading_eq_ok hrun
    simp only at hstate
    exact ⟨mid, builder, built, hroute, hfault, hfinish, by rw [hstate]⟩

end pass

/-! ## the record of a pass -/

/-- What a committed pass decided and stored. -/
structure PassRecord where
  channel : String
  answers : List Answer
  /-- The events it stored. -/
  written : List BatchEvent

/-- The ids of the changes a pass decided about. -/
def PassRecord.ids (record : PassRecord) : List Int := record.answers.map (·.change.id)

/-- The record of a pass between two stores. -/
def Service.recordOf (service : Service) (lookups : Lookups) (gaps : List Gap) (channel : Channel)
    (before after : Store) : PassRecord where
  channel := channel.id
  answers := service.answers lookups channel (service.readingOf gaps channel before).changes
    (service.startOf channel, before)
  written := (after.events.getD []).drop (before.events.getD []).length

/-- A pass decided about the rows it found up to its reach, once about each, and about no others. -/
structure Did (columns : PayloadColumns) (rows : List ChangeRow) (through : Int)
    (record : PassRecord) : Prop where
  answered : ∀ answer ∈ record.answers, ∃ row ∈ rows,
    row.read columns = .ok answer.change ∧ row.id ≤ through
  complete : ∀ row ∈ rows, row.id ≤ through → row.id ∈ record.ids
  nodup : record.ids.Nodup

/-- In a book, a pass delivered what was decided. -/
def Book.Honours (book : Book) (record : PassRecord) : Prop :=
  (book.deliveries record.written).Perm (record.answers.flatMap Answer.deliveries)

section record

variable {service : Service} {lookups : Lookups} {gaps : List Gap} {stalledAfter : Option Nat}
  {channel : Channel} {store after : Store} {outcome : PassOutcome} {columns : PayloadColumns}
  {rows : List ChangeRow} {reading : Reading} {answers : List Answer}

theorem forall₂_exists {R : α → β → Prop} {xs : List α} {ys : List β} (h : List.Forall₂ R xs ys) {y : β}
    (hy : y ∈ ys) : ∃ x ∈ xs, R x y := by
  induction h with
  | nil => exact (List.not_mem_nil hy).elim
  | cons hxy _ ih =>
      rw [List.mem_cons] at hy
      cases hy with
      | inl heq => exact ⟨_, List.mem_cons_self, heq ▸ hxy⟩
      | inr hmem =>
          obtain ⟨x, hx, hr⟩ := ih hmem
          exact ⟨x, List.mem_cons_of_mem _ hx, hr⟩

/-- The rows a pass decided about come before those it left. -/
theorem exists_done (hdelivers : Delivers columns rows reading) {rest : List Change}
    (hfront : reading.changes = answers.map Answer.change ++ rest) :
    ∃ done left, rows = done ++ left ∧
      List.Forall₂ (fun row answer => row.read columns = .ok answer.change) done answers ∧
      (rest = [] → reading.fault = none → left = []) := by
  obtain ⟨front, behind, hrows, hread, hend⟩ := hdelivers.rows
  rw [hfront] at hread
  have htake := List.forall₂_take_append _ _ _ hread
  have hdrop := List.forall₂_drop_append _ _ _ hread
  rw [List.forall₂_map_right_iff] at htake
  refine ⟨_, front.drop (answers.map Answer.change).length ++ behind, ?_, htake, ?_⟩
  · rw [← List.append_assoc, List.take_append_drop]
    exact hrows
  · intro hrest hfault
    rw [hrest, List.forall₂_nil_right_iff] at hdrop
    rw [hdrop, hend hfault]
    rfl

theorem ids_of_done {done : List ChangeRow}
    (h : List.Forall₂ (fun row answer => row.read columns = .ok (Answer.change answer)) done answers) :
    answers.map (·.change.id) = done.map ChangeRow.id := by
  induction h with
  | nil => rfl
  | cons hread _ ih => rw [List.map_cons, List.map_cons, ih, id_of_read hread]

/-- How far a pass got that ends in a state. -/
def PassState.reach (state : PassState) : Int :=
  if state.stoppedEarly then state.lastId.getD 0 else openEnd

/-- A pass reached every row it decided about and none of those it left, if it decided about one before it
stopped. -/
theorem reach_of_done {done left : List ChangeRow} {state : PassState}
    (hasc : (done ++ left).Pairwise (·.id < ·.id)) (hends : ∀ row ∈ done, row.id ≤ openEnd)
    (hlast : state.lastId = (done.map ChangeRow.id).getLast?)
    (hsome : state.stoppedEarly = true → done ≠ []) (hleft : state.stoppedEarly = false → left = []) :
    (∀ row ∈ done, row.id ≤ state.reach) ∧ ∀ row ∈ left, state.reach < row.id := by
  rw [PassState.reach]
  cases hstop : state.stoppedEarly with
  | false =>
      rw [hleft hstop]
      exact ⟨hends, fun _ hrow => (List.not_mem_nil hrow).elim⟩
  | true =>
      obtain ⟨hdone, -, hsplit⟩ := List.pairwise_append.1 hasc
      have hsorted : (done.map ChangeRow.id).Pairwise (· < ·) := List.pairwise_map.2 hdone
      rw [if_pos rfl, hlast]
      cases htop : (done.map ChangeRow.id).getLast? with
      | none =>
          rw [List.getLast?_eq_none_iff, List.map_eq_nil_iff] at htop
          exact absurd htop (hsome hstop)
      | some last =>
          constructor
          · exact fun row hrow => le_getLast hsorted htop (List.mem_map_of_mem hrow)
          · intro row hrow
            obtain ⟨top, hmem, rfl⟩ := List.mem_map.1 (mem_of_getLast htop)
            exact hsplit top hmem row hrow

/-- No mark stays behind a pass that started without any: it examined all that it routed. -/
theorem marksAfter_nil (h : ∀ mark ∈ outcome.routed, mark.2 ≤ outcome.through) :
    Service.marksAfter [] outcome = [] := by
  rw [Service.marksAfter]
  split
  · rfl
  · have hnone : outcome.routed.filter (outcome.through < ·.2) = [] := by
      rw [List.filter_eq_nil_iff]
      intro mark hmark
      have hle := h mark hmark
      simp only [decide_eq_true_eq]
      omega
    rw [hnone]
    rfl

/-- The rows that a committed pass decided about come before those it left.  It reached the ones and not
the others, and left some only if it stopped early. -/
theorem exists_front_of_pass {log : Numbered ChangeRow} (hlog : store.changes = some log)
    (hlogged : log.rows.Pairwise (·.id < ·.id)) (hends : ∀ row ∈ log.rows, row.id ≤ openEnd)
    (hgaps : gaps.Pairwise fun a b => a.start ≤ b.start) (hmarks : service.marksOf channel.id = [])
    (h : (service.pass lookups gaps stalledAfter channel).on store = (.ok outcome, after)) :
    ∃ done left, wanted log.rows channel.id gaps = done ++ left ∧
      List.Forall₂ (fun row answer => row.read (service.readOptions channel).columns =
        .ok (Answer.change answer)) done (service.recordOf lookups gaps channel store after).answers ∧
      (∀ row ∈ done, row.id ≤ outcome.through) ∧ (∀ row ∈ left, outcome.through < row.id) ∧
      (outcome.report.stoppedEarly = false → left = []) := by
  obtain ⟨mid, builder, built, hroute, hfault, -, hout⟩ := pass_eq_ok h
  have hreach : outcome.through = mid.1.reach := by
    rw [hout]
    rfl
  have hstopped : outcome.report.stoppedEarly = mid.1.stoppedEarly := by
    rw [hout]
    rfl
  have hrouted := routed_routeChanges hroute
  obtain ⟨rest, hfront, hall⟩ := hrouted.front
  have hdelivers : Delivers (service.readOptions channel).columns (wanted log.rows channel.id gaps)
      (service.readingOf gaps channel store) := by
    rw [Service.readingOf, hmarks]
    exact delivers_read hlog hlogged hgaps (service.readOptions channel)
  obtain ⟨done, left, hrows, hread, hleft⟩ := exists_done hdelivers hfront
  have hnone : mid.1.stoppedEarly = false → left = [] := fun hstop => hleft (hall hstop) (hfault hstop)
  -- the rows the pass was given are in order, and an open gap holds them
  have hasc : (done ++ left).Pairwise (·.id < ·.id) := by
    rw [← hrows]
    exact (hlogged.filter _).filter _
  have hbounds : ∀ row ∈ done, row.id ≤ openEnd := by
    intro row hrow
    have hmem : row ∈ wanted log.rows channel.id gaps := hrows ▸ List.mem_append_left left hrow
    exact hends row (List.mem_filter.1 (List.mem_filter.1 hmem).1).1
  have hsome : mid.1.stoppedEarly = true → done ≠ [] := by
    rintro hstop rfl
    exact answers_ne_nil hroute hstop (List.forall₂_nil_left_iff.1 hread)
  have hlast : mid.1.lastId = (done.map ChangeRow.id).getLast? := by
    rw [hrouted.lastId, ← ids_of_done hread, List.getLast?_map]
    exact Option.or_none
  obtain ⟨hdone, hbeyond⟩ := reach_of_done hasc hbounds hlast hsome hnone
  rw [hreach, hstopped]
  exact ⟨done, left, hrows, hread, hdone, hbeyond, hnone⟩

/-- A committed pass decided about the rows of its channel in the gaps up to its reach, and routed nothing
beyond. -/
theorem decides_of_pass {log : Numbered ChangeRow} (hlog : store.changes = some log)
    (hlogged : log.rows.Pairwise (·.id < ·.id)) (hends : ∀ row ∈ log.rows, row.id ≤ openEnd)
    (hgaps : gaps.Pairwise fun a b => a.start ≤ b.start) (hmarks : service.marksOf channel.id = [])
    (h : (service.pass lookups gaps stalledAfter channel).on store = (.ok outcome, after)) :
    Did (service.readOptions channel).columns (wanted log.rows channel.id gaps) outcome.through
        (service.recordOf lookups gaps channel store after) ∧
      ∀ mark ∈ outcome.routed, mark.2 ≤ outcome.through := by
  obtain ⟨done, left, hrows, hread, hdone, hbeyond, -⟩ :=
    exists_front_of_pass hlog hlogged hends hgaps hmarks h
  obtain ⟨mid, builder, built, hroute, -, -, hout⟩ := pass_eq_ok h
  have hids : (service.recordOf lookups gaps channel store after).ids = done.map ChangeRow.id :=
    ids_of_done hread
  have hasc : done.Pairwise (·.id < ·.id) := by
    have hboth : (done ++ left).Pairwise (·.id < ·.id) := by
      rw [← hrows]
      exact (hlogged.filter _).filter _
    exact (List.pairwise_append.1 hboth).1
  refine ⟨⟨?_, ?_, ?_⟩, ?_⟩
  · intro answer hanswer
    obtain ⟨row, hrow, hok⟩ := forall₂_exists hread hanswer
    refine ⟨row, ?_, hok, hdone row hrow⟩
    rw [hrows]
    exact List.mem_append_left _ hrow
  · intro row hrow hle
    rw [hrows, List.mem_append] at hrow
    rw [hids]
    cases hrow with
    | inl hrow => exact List.mem_map_of_mem hrow
    | inr hrow =>
        have hlt := hbeyond row hrow
        omega
  · rw [hids]
    exact List.pairwise_map.2 (hasc.imp fun hlt => Int.ne_of_lt hlt)
  · intro mark hmark
    have hmarked : mark ∈ mid.1.routed := by
      rw [hout] at hmark
      exact hmark
    cases (routed_routeChanges hroute).marks mark hmarked with
    | inl hstart => exact (List.not_mem_nil hstart).elim
    | inr hanswer =>
        obtain ⟨answer, hmem, heq⟩ := hanswer
        obtain ⟨row, hrow, hok⟩ := forall₂_exists hread hmem
        rw [← heq, id_of_read hok]
        exact hdone row hrow

/-- A committed pass stored what it sent to each node, in segments. -/
theorem built_of_pass {book : Book} (hbook : store.Shows book)
    (h : (service.pass lookups gaps stalledAfter channel).on store = (.ok outcome, after)) :
    ∃ parcels later, Built channel store book
      ((service.recordOf lookups gaps channel store after).answers.flatMap Answer.sendings) parcels
      after later := by
  obtain ⟨mid, builder, built, hroute, -, hfinish, -⟩ := pass_eq_ok h
  have hnew : Builds channel store book [] [] ((service.startOf channel).builder, store) := .new hbook
  obtain ⟨parcels, hsent⟩ := (routed_routeChanges hroute).builds channel store book [] [] hnew
  obtain ⟨more, later, hbuilt⟩ := builds_finish hsent hfinish
  exact ⟨_, later, hbuilt⟩

/-- The events a pass wrote are those of the batches it stored. -/
theorem written_eq {book later : Book} {parcels : List Parcel} (hbook : store.Shows book)
    (hstored : Stored store book parcels after later) :
    (service.recordOf lookups gaps channel store after).written = parcels.flatMap Parcel.events := by
  simp only [Service.recordOf]
  rw [hstored.shows.events, hbook.events, Option.getD_some, Option.getD_some, hstored.takes.events,
    List.drop_left]

/-- What was stored of what was decided. -/
theorem Built.honours {book later : Book} {parcels : List Parcel} (hbook : store.Shows book)
    (hissued : book.Issued)
    (h : Built channel store book
      ((service.recordOf lookups gaps channel store after).answers.flatMap Answer.sendings) parcels
      after later) :
    later.Honours (service.recordOf lookups gaps channel store after) := by
  have hdecided : ∀ answers : List Answer,
      (answers.flatMap Answer.sendings).map deliveryOf = answers.flatMap Answer.deliveries := by
    intro answers
    rw [List.map_flatMap]
    exact List.flatMap_congr fun answer _ => map_deliveryOf_sendingsOf _ _
  rw [Book.Honours, written_eq hbook h.stored, h.stored.takes.deliveries_eq hissued, ← hdecided]
  exact h.perm.map deliveryOf

/-- A committed pass stored what it decided. -/
theorem honours_of_pass {book : Book} (hbook : store.Shows book) (hbookProper : book.Proper)
    (h : (service.pass lookups gaps stalledAfter channel).on store = (.ok outcome, after)) :
    ∃ later, after.Shows later ∧
      book.Grows (service.recordOf lookups gaps channel store after).written later ∧
      later.Honours (service.recordOf lookups gaps channel store after) := by
  obtain ⟨parcels, later, hbuilt⟩ := built_of_pass hbook h
  refine ⟨later, hbuilt.stored.shows, ?_, hbuilt.honours hbook hbookProper.ids⟩
  rw [written_eq hbook hbuilt.stored]
  exact hbuilt.stored.takes.grows_events hbookProper

end record

end ChangeRouting
