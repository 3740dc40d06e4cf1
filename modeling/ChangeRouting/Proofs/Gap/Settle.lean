import ChangeRouting.Proofs.Gap.Table

/-!
# ChangeRouting.Proofs.Gap.Settle

What settling does to the gap table, gap by gap.

* `settleGap_on`, `settleGaps_on` — on a store that has its gap table and its log, settling always comes
  to an end, and the table after it is a function of the table before;
* `Grounds.settled_of_reach`, `Grounds.settled_of_staleAfter` — of the passes that function takes only how far
  each of them got, of the policy only when gaps are given up;
* `mem_activeRanges_rowsAfter` — the active ranges after one gap was settled, for any table;
* `statusAt_rowsAfter` — the status of every range after that.
-/

namespace ChangeRouting

/-- What a settling goes by. -/
structure Grounds where
  policy : GapPolicy
  coverage : Coverage
  visibility : Visibility
  now : Millis
  log : Numbered ChangeRow

/-- What becomes of a gap. -/
inductive Fate
  | stays
  | skipped
  /-- Retired after rows up to this one were confirmed in it. -/
  | filled (last : Int)
  deriving DecidableEq, Repr

/-- The status code a gap has once its fate is settled. -/
def Fate.code : Fate → String
  | stays => GapStatus.active.code
  | skipped => GapStatus.skipped.code
  | filled _ => GapStatus.filled.code

theorem Fate.code_eq_skipped {fate : Fate} : fate.code = GapStatus.skipped.code ↔ fate = .skipped := by
  cases fate with
  | stays => decide
  | skipped => decide
  | filled last => simp [code, GapStatus.code]

/-- Rows with an active range put in. -/
def insertRange (clock : Millis) (rows : List GapRow) (range : IdRange) : List GapRow :=
  Store.upsertGap (.new range.1 range.2 clock) rows

/-- The range of the new open gap, if there is to be one. -/
def Settling.tail (so : Settling) : List IdRange :=
  match so.openStays, so.highest with
  | false, some highest => [(word (highest + 1), openEnd)]
  | _, _ => []

namespace Grounds

variable (on : Grounds)

/-- The rows of the log in a gap, as ids with channels. -/
def rowsIn (gap : Gap) : List (Int × String) :=
  (on.log.rows.filter fun row => gap.start ≤ row.id ∧ row.id ≤ gap.stop).map fun row =>
    (row.id, row.channel)

/-- The rows in a gap that need it no longer. -/
def confirmedIn (gap : Gap) : List Int :=
  ((on.rowsIn gap).filter fun (id, channel) => on.coverage.confirms channel id).map (·.1)

/-- Whether some row of the log has this id and is confirmed. -/
def Confirms (id : Int) : Prop :=
  ∃ row ∈ on.log.rows, row.id = id ∧ on.coverage.confirms row.channel row.id = true

/-- When the row just below a gap was captured, if that matters. -/
def below (gap : Gap) : Option Millis :=
  match on.visibility with
  | .known (some _) =>
    if 0 < gap.start then
      (on.log.rows.find? (·.id = gap.start - 1)).map fun row => Millis.ofStored row.createTime
    else none
  | _ => none

/-- Whether the gap is given up if it is empty. -/
def givesUp (gap : Gap) : Bool :=
  on.visibility.givesUp on.policy.staleAfter on.now gap (on.below gap)

/-- What becomes of a gap. -/
def fate (gap : Gap) : Fate :=
  match (on.confirmedIn gap).getLast? with
  | some last => .filled last
  | none =>
    if !gap.isOpen && (on.rowsIn gap).isEmpty && on.givesUp gap then .skipped else .stays

/-- The ranges that take the place of a gap. -/
def pieces (gap : Gap) : List IdRange :=
  match on.fate gap with
  | .filled _ => remainders gap (on.confirmedIn gap)
  | _ => []

/-- The gap table once a gap is settled. -/
def rowsAfter (clock : Millis) (rows : List GapRow) (gap : Gap) : List GapRow :=
  match on.fate gap with
  | .stays => rows
  | .skipped => rows.map (Store.touchGap gap.start gap.stop .skipped clock)
  | .filled _ =>
    (on.pieces gap).foldl (insertRange clock)
      (rows.map (Store.touchGap gap.start gap.stop .filled clock))

/-- The number of confirmed rows in a gap whose channel had no pass. -/
def ignoredIn (gap : Gap) : Nat :=
  (((on.rowsIn gap).filter fun (id, channel) => on.coverage.confirms channel id).filter
    fun (_, channel) => (on.coverage.reach? channel).isNone).length

/-- How far settling has come once a gap is settled. -/
def soAfter (so : Settling) (gap : Gap) : Settling :=
  let so := { so with report.ignored := so.report.ignored + on.ignoredIn gap }
  match on.fate gap with
  | .stays => { so with openStays := so.openStays || gap.isOpen }
  | .skipped => { so with report.skipped := so.report.skipped + 1 }
  | .filled last => { so with
      report.filled := so.report.filled + 1
      report.created := so.report.created + (on.pieces gap).length
      highest := some (raised so.highest last) }

/-- How far settling has come once all gaps are settled. -/
def soAfterAll (gaps : List Gap) : Settling := gaps.foldl on.soAfter {}

/-- The gap table once all gaps are settled and a retired open gap is followed by a new one. -/
def settled (clock : Millis) (gaps : List Gap) (rows : List GapRow) : List GapRow :=
  (on.soAfterAll gaps).tail.foldl (insertRange clock) (gaps.foldl (on.rowsAfter clock) rows)

/-- What settling reports. -/
def report (gaps : List Gap) : GapReport :=
  let so := on.soAfterAll gaps
  { so.report with created := so.report.created + so.tail.length }

end Grounds

/-- Of the passes, settling goes only by how far each of them got. -/
theorem Grounds.settled_of_reach (on : Grounds) {coverage : Coverage}
    (h : ∀ channel, coverage.reach? channel = on.coverage.reach? channel) :
    settled { on with coverage := coverage } = on.settled := by
  have hconfirms : coverage.confirms = on.coverage.confirms := by
    funext channel id
    rw [Coverage.confirms, Coverage.confirms, h]
  have hconfirmed : confirmedIn { on with coverage := coverage } = on.confirmedIn := by
    funext gap
    simp only [confirmedIn, rowsIn, hconfirms]
  have hfate : fate { on with coverage := coverage } = on.fate := by
    funext gap
    simp only [fate, hconfirmed]
    rfl
  have hpieces : pieces { on with coverage := coverage } = on.pieces := by
    funext gap
    simp only [pieces, hfate, hconfirmed]
  have hrows : rowsAfter { on with coverage := coverage } = on.rowsAfter := by
    funext clock rows gap
    simp only [rowsAfter, hfate, hpieces]
  have hso : soAfter { on with coverage := coverage } = on.soAfter := by
    funext so gap
    simp only [soAfter, ignoredIn, rowsIn, hfate, hpieces, hconfirms, h]
  funext clock gaps rows
  simp only [settled, soAfterAll, hrows, hso]

/-- Of the policy, settling goes only by the age at which gaps are given up. -/
theorem Grounds.settled_of_staleAfter (on : Grounds) {policy : GapPolicy}
    (h : policy.staleAfter = on.policy.staleAfter) :
    settled { on with policy := policy } = on.settled := by
  obtain ⟨⟨staleAfter, retention⟩, coverage, visibility, now, log⟩ := on
  obtain ⟨_, other⟩ := policy
  cases h
  rfl

/-! ## settling on a store -/

theorem setGapStatus_on {store : Store} {rows : List GapRow} (h : store.gaps = some rows)
    (start stop : Int) (status : GapStatus) (clock : Millis) :
    (Work.update (Store.setGapStatus start stop status clock)).on store =
      (.ok (), store.withGaps (rows.map (Store.touchGap start stop status clock))) := by
  simp only [Work.update, Work.statement_on, Store.setGapStatus, h]
  rfl

theorem insertRanges_on {store : Store} {rows : List GapRow} (h : store.gaps = some rows)
    (clock : Millis) (ranges : List IdRange) :
    (ranges.forM fun (start, stop) => Work.update (Store.insertGap (.new start stop clock))).on store =
      (.ok (), store.withGaps (ranges.foldl (insertRange clock) rows)) := by
  induction ranges generalizing store rows with
  | nil =>
      rw [List.foldl_nil, Store.withGaps, ← h]
      rfl
  | cons range ranges ih =>
      simp only [List.forM, Work.bind_on, insertGap_on h]
      exact ih rfl

variable {store : Store} {rows : List GapRow} {on : Grounds}

theorem timeBelow_on (hlog : store.changes = some on.log) (gap : Gap) :
    (timeBelow on.visibility gap).on store = (.ok (on.below gap), store) := by
  unfold timeBelow Grounds.below
  cases on.visibility with
  | unsupported => rfl
  | unavailable => rfl
  | known earliest =>
      cases earliest with
      | none => rfl
      | some time =>
          by_cases hstart : 0 < gap.start
          · simp only [hstart, if_true, Work.query_on, Store.createTimeOf, hlog]
          · simp only [hstart, if_false, Work.pure_on]

theorem settleGap_on (hgaps : store.gaps = some rows) (hlog : store.changes = some on.log)
    (clock : Millis) (so : Settling) (gap : Gap) :
    (settleGap on.policy on.coverage on.visibility on.now clock so gap).on store =
      (.ok (on.soAfter so gap), store.withGaps (on.rowsAfter clock rows gap)) := by
  have hrows : Store.idsInRange gap.start gap.stop store = .ok (on.rowsIn gap) := by
    simp only [Store.idsInRange, hlog]
    rfl
  rw [settleGap, Work.bind_on, Work.query_on, hrows, Grounds.soAfter, Grounds.rowsAfter]
  cases hlast : (on.confirmedIn gap).getLast? with
  | some last =>
      have hfate : on.fate gap = .filled last := by rw [Grounds.fate, hlast]
      have hpieces : on.pieces gap = remainders gap (on.confirmedIn gap) := by
        rw [Grounds.pieces, hfate]
      rw [Grounds.confirmedIn] at hlast
      simp only [hlast, hfate, Work.bind_on, setGapStatus_on hgaps, hpieces]
      rw [← Grounds.confirmedIn, insertRanges_on rfl]
      rfl
  | none =>
      have hfate : on.fate gap = if !gap.isOpen && (on.rowsIn gap).isEmpty && on.givesUp gap
          then .skipped else .stays := by rw [Grounds.fate, hlast]
      rw [Grounds.confirmedIn] at hlast
      simp only [hlast]
      by_cases hopen : gap.isOpen = true
      · simp only [hfate, hopen, if_true, Bool.not_true, Bool.false_and, Bool.false_eq_true,
          if_false, Work.pure_on, Bool.or_true, Store.withGaps_self hgaps]
        rfl
      · by_cases hempty : (on.rowsIn gap).isEmpty = true
        · by_cases hup : on.givesUp gap = true
          · have hskip : on.fate gap = .skipped := by simp [hfate, hopen, hempty, hup]
            rw [Grounds.givesUp] at hup
            simp only [hskip, hopen, hempty, Bool.not_true, Bool.false_eq_true, if_false, Work.bind_on,
              timeBelow_on hlog, hup, if_true, setGapStatus_on hgaps]
            rfl
          · have hstay : on.fate gap = .stays := by simp [hfate, hup]
            rw [Grounds.givesUp] at hup
            simp only [hstay, hopen, hempty, Bool.not_true, Bool.false_eq_true, if_false, Work.bind_on,
              timeBelow_on hlog, hup, Work.pure_on, Bool.or_false, Store.withGaps_self hgaps]
            rfl
        · have hstay : on.fate gap = .stays := by simp [hfate, hempty]
          simp only [hstay, hopen, hempty, Bool.not_false, Bool.false_eq_true, if_false, if_true,
            Work.pure_on, Bool.or_false, Store.withGaps_self hgaps]
          rfl

theorem settleAll_on (hgaps : store.gaps = some rows) (hlog : store.changes = some on.log)
    (clock : Millis) (so : Settling) (gaps : List Gap) :
    (gaps.foldlM (settleGap on.policy on.coverage on.visibility on.now clock) so).on store =
      (.ok (gaps.foldl on.soAfter so), store.withGaps (gaps.foldl (on.rowsAfter clock) rows)) := by
  induction gaps generalizing store rows so with
  | nil =>
      rw [List.foldlM_nil, List.foldl_nil, List.foldl_nil, Store.withGaps_self hgaps]
      rfl
  | cons gap gaps ih =>
      rw [List.foldlM_cons, Work.bind_on, settleGap_on hgaps hlog]
      exact ih (Store.gaps_withGaps _ _) hlog _

/-- Settling never fails on a store that has its gap table and its log. -/
theorem settleGaps_on (hgaps : store.gaps = some rows) (hlog : store.changes = some on.log)
    (clock : Millis) (gaps : List Gap) :
    (settleGaps on.policy gaps on.coverage on.visibility on.now clock).on store =
      (.ok (on.report gaps), store.withGaps (on.settled clock gaps rows)) := by
  rw [settleGaps, Work.bind_on, settleAll_on hgaps hlog, Grounds.report, Grounds.settled,
    Grounds.soAfterAll, Settling.tail]
  generalize gaps.foldl on.soAfter {} = so
  cases hopen : so.openStays with
  | true => simp [hopen]
  | false =>
      cases hhigh : so.highest with
      | none => simp [hopen, hhigh]
      | some highest =>
          simp only [hopen, hhigh, Work.bind_on, insertGap_on (Store.gaps_withGaps _ _)]
          rfl

/-! ## the rows of a gap -/

theorem mem_rowsIn {gap : Gap} {id : Int} {channel : String} :
    (id, channel) ∈ on.rowsIn gap ↔
      ∃ row ∈ on.log.rows, Holds gap.range row.id ∧ row.id = id ∧ row.channel = channel := by
  simp [Grounds.rowsIn, Holds, Gap.range, and_assoc]

theorem rowsIn_isEmpty {gap : Gap} :
    (on.rowsIn gap).isEmpty = true ↔ ∀ row ∈ on.log.rows, ¬Holds gap.range row.id := by
  simp [Grounds.rowsIn, Holds, Gap.range]

/-- The confirmed ids of a gap are those of the confirmed rows in it. -/
theorem mem_confirmedIn {gap : Gap} {id : Int} :
    id ∈ on.confirmedIn gap ↔ Holds gap.range id ∧ on.Confirms id := by
  rw [Grounds.confirmedIn, List.mem_map]
  constructor
  · rintro ⟨⟨id, channel⟩, hmem, rfl⟩
    rw [List.mem_filter, mem_rowsIn] at hmem
    obtain ⟨⟨row, hrow, hholds, rfl, rfl⟩, hconf⟩ := hmem
    exact ⟨hholds, row, hrow, rfl, hconf⟩
  · rintro ⟨hholds, row, hrow, rfl, hconf⟩
    refine ⟨(row.id, row.channel), List.mem_filter.2 ⟨?_, hconf⟩, rfl⟩
    exact mem_rowsIn.2 ⟨row, hrow, hholds, rfl, rfl⟩

/-- Rows in id order are confirmed in id order. -/
theorem confirmed_confirmedIn (h : on.log.rows.Pairwise (·.id < ·.id)) (gap : Gap) :
    Confirmed gap (on.confirmedIn gap) where
  ascending := by
    rw [Grounds.confirmedIn, List.pairwise_map]
    refine List.Pairwise.filter _ ?_
    rw [Grounds.rowsIn, List.pairwise_map]
    exact h.filter _
  inside := fun _ hid => (mem_confirmedIn.1 hid).1

theorem fate_eq_filled {gap : Gap} {last : Int} :
    on.fate gap = .filled last ↔ (on.confirmedIn gap).getLast? = some last := by
  rw [Grounds.fate]
  cases (on.confirmedIn gap).getLast? with
  | none =>
      simp only [reduceCtorEq, iff_false]
      split <;> simp
  | some other => simp

/-- Only an empty closed gap is skipped. -/
theorem fate_eq_skipped {gap : Gap} :
    on.fate gap = .skipped ↔
      gap.isOpen = false ∧ (∀ row ∈ on.log.rows, ¬Holds gap.range row.id) ∧ on.givesUp gap = true := by
  rw [← rowsIn_isEmpty, Grounds.fate]
  cases hlast : (on.confirmedIn gap).getLast? with
  | some last =>
      have hmem := mem_of_getLast hlast
      rw [mem_confirmedIn] at hmem
      obtain ⟨hholds, row, hrow, rfl, -⟩ := hmem
      have hfull : (on.rowsIn gap).isEmpty ≠ true := fun hempty =>
        rowsIn_isEmpty.1 hempty row hrow hholds
      simp [hfull]
  | none => simp [and_assoc]

/-- No row is confirmed in a gap that is not retired for that. -/
theorem not_confirms_of_fate {gap : Gap} (h : ∀ last, on.fate gap ≠ .filled last) {id : Int}
    (hid : Holds gap.range id) : ¬on.Confirms id := by
  intro hconf
  have hmem := mem_confirmedIn.2 ⟨hid, hconf⟩
  cases hlast : (on.confirmedIn gap).getLast? with
  | none =>
      rw [List.getLast?_eq_none_iff] at hlast
      rw [hlast] at hmem
      exact List.not_mem_nil hmem
  | some last => exact h last (fate_eq_filled.2 hlast)

/-! ## the table after one gap -/

theorem mem_activeRanges_insertAll (clock : Millis) (rows : List GapRow) (ranges : List IdRange)
    (range : IdRange) :
    range ∈ activeRanges (ranges.foldl (insertRange clock) rows) ↔
      range ∈ ranges ∨ range ∈ activeRanges rows := by
  induction ranges generalizing rows with
  | nil => simp
  | cons first ranges ih =>
      rw [List.foldl_cons, ih, insertRange, mem_activeRanges_upsert rfl, List.mem_cons]
      simp only [Gap.range, Gap.new]
      rw [or_left_comm, or_assoc]

theorem statusAt_insertAll (clock : Millis) (rows : List GapRow) (ranges : List IdRange)
    (range : IdRange) :
    statusAt (ranges.foldl (insertRange clock) rows) range =
      if range ∈ ranges then some GapStatus.active.code else statusAt rows range := by
  induction ranges generalizing rows with
  | nil => simp
  | cons first ranges ih =>
      rw [List.foldl_cons, ih, insertRange, statusAt_upsert]
      simp only [List.mem_cons, Gap.range, Gap.new]
      by_cases hmem : range ∈ ranges
      · simp only [hmem, or_true, if_true]
      · simp only [hmem, or_false, if_false]
        rfl

theorem keyed_insertAll {clock : Millis} {rows : List GapRow} (h : Keyed rows)
    (ranges : List IdRange) : Keyed (ranges.foldl (insertRange clock) rows) := by
  induction ranges generalizing rows with
  | nil => exact h
  | cons first ranges ih => exact ih (keyed_upsert h)

theorem keyed_rowsAfter {clock : Millis} {rows : List GapRow} (h : Keyed rows) (gap : Gap) :
    Keyed (on.rowsAfter clock rows gap) := by
  rw [Grounds.rowsAfter]
  cases on.fate gap with
  | stays => exact h
  | skipped => exact keyed_touch h
  | filled last => exact keyed_insertAll (keyed_touch h) _

/-- Settling a gap retires its range, unless the gap stays, and puts the pieces of it in its place. -/
theorem mem_activeRanges_rowsAfter (clock : Millis) (rows : List GapRow) (gap : Gap)
    (range : IdRange) :
    range ∈ activeRanges (on.rowsAfter clock rows gap) ↔
      range ∈ on.pieces gap ∨
        range ∈ activeRanges rows ∧ (on.fate gap ≠ .stays → range ≠ gap.range) := by
  rw [Grounds.rowsAfter, Grounds.pieces]
  cases on.fate gap with
  | stays => simp
  | skipped =>
      simp only [List.not_mem_nil, false_or, ne_eq, reduceCtorEq, not_false_eq_true, true_implies]
      exact mem_activeRanges_touch rows (by decide) range
  | filled last =>
      simp only [ne_eq, reduceCtorEq, not_false_eq_true, true_implies]
      rw [mem_activeRanges_insertAll, mem_activeRanges_touch rows (by decide) range]
      rfl

/-- The pieces of a settled gap are active, its range has the status of its fate, and every other range
keeps its status. -/
theorem statusAt_rowsAfter (clock : Millis) (rows : List GapRow) (gap : Gap) (range : IdRange) :
    statusAt (on.rowsAfter clock rows gap) range =
      if range ∈ on.pieces gap then some GapStatus.active.code
      else if range = gap.range ∧ on.fate gap ≠ .stays then
        (statusAt rows range).map fun _ => (on.fate gap).code
      else statusAt rows range := by
  rw [Grounds.rowsAfter, Grounds.pieces]
  cases on.fate gap with
  | stays => simp
  | skipped =>
      rw [statusAt_touch]
      simp [Gap.range, Fate.code]
  | filled last =>
      rw [statusAt_insertAll, statusAt_touch]
      simp [Gap.range, Fate.code]

end ChangeRouting
