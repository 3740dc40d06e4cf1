import ChangeRouting.Proofs.Gap.Reconcile

/-!
# ChangeRouting.Proofs.Gap.Overlap

What settling does to single rows, in a table whose active gaps may overlap.

* `held_settled_of_unconfirmed` — a row that was in an active gap and is not confirmed stays in one, as
  long as no two active gaps are open;
* `not_held_settled` — a confirmed row is in no active gap any more;
* `held_settled_iff` — so a row that was in an active gap is in one still exactly if it is not confirmed.
-/

namespace ChangeRouting

variable {on : Grounds} {gap : Gap} {gaps : List Gap} {rows : List GapRow} {clock : Millis}
  {id : Int}

/-! ## a row that is not confirmed -/

/-- Settling one gap leaves an unconfirmed row in an active range, or behind the last confirmed row of an
open gap. -/
theorem held_rowsAfter (clock : Millis) (gap : Gap) (hlog : ProperLog on.log.rows)
    (hrow : ∃ row ∈ on.log.rows, row.id = id)
    (hconf : ¬on.Confirms id) (h : Held (activeRanges rows) id) :
    Held (activeRanges (on.rowsAfter clock rows gap)) id ∨
      Holds gap.range id ∧ gap.isOpen = true ∧ ∃ last, on.fate gap = .filled last ∧ last < id := by
  obtain ⟨range, hr, hid⟩ := h
  by_cases hsame : on.fate gap ≠ .stays ∧ range = gap.range
  · obtain ⟨hfate, rfl⟩ := hsame
    cases hof : on.fate gap with
    | stays => exact absurd hof hfate
    | skipped =>
        obtain ⟨row, hrow, rfl⟩ := hrow
        exact absurd hid ((fate_eq_skipped.1 hof).2.1 row hrow)
    | filled last =>
        have hlast := fate_eq_filled.1 hof
        have hnew : id ∉ on.confirmedIn gap := fun hmem => hconf (mem_confirmedIn.1 hmem).2
        have hpieces := held_remainders (confirmed_confirmedIn hlog.ascending gap) hlast id
        by_cases hbehind : gap.isOpen = true → id < last
        · obtain ⟨piece, hpiece, hin⟩ := hpieces.2 ⟨hid, hnew, hbehind⟩
          refine Or.inl ⟨piece, (mem_activeRanges_rowsAfter clock rows gap piece).2 (Or.inl ?_), hin⟩
          rw [Grounds.pieces, hof]
          exact hpiece
        · rw [Classical.not_imp] at hbehind
          have hne : id ≠ last := fun heq => hnew (heq ▸ mem_of_getLast hlast)
          exact Or.inr ⟨hid, hbehind.1, last, rfl, by omega⟩
  · refine Or.inl ⟨range, (mem_activeRanges_rowsAfter clock rows gap range).2 (Or.inr ⟨hr, ?_⟩), hid⟩
    exact fun hfate heq => hsame ⟨hfate, heq⟩

theorem held_settleAll (clock : Millis) (gaps : List Gap) (hlog : ProperLog on.log.rows)
    (hrow : ∃ row ∈ on.log.rows, row.id = id)
    (hconf : ¬on.Confirms id) (h : Held (activeRanges rows) id) :
    Held (activeRanges (gaps.foldl (on.rowsAfter clock) rows)) id ∨
      ∃ gap ∈ gaps, Holds gap.range id ∧ gap.isOpen = true ∧
        ∃ last, on.fate gap = .filled last ∧ last < id := by
  induction gaps generalizing rows with
  | nil => exact Or.inl h
  | cons gap gaps ih =>
      obtain hstill | hbehind := held_rowsAfter clock gap hlog hrow hconf h
      · obtain hheld | ⟨other, hother, hbehind⟩ := ih hstill
        · exact Or.inl hheld
        · exact Or.inr ⟨other, List.mem_cons_of_mem _ hother, hbehind⟩
      · exact Or.inr ⟨gap, List.mem_cons_self, hbehind⟩

/-- A row that was in an active gap and is not confirmed stays in one. -/
theorem held_settled_of_unconfirmed (hlog : ProperLog on.log.rows) (hkey : Keyed rows)
    (hone : SingleOpen (activeRanges rows)) (hrow : ∃ row ∈ on.log.rows, row.id = id)
    (hconf : ¬on.Confirms id) (h : Held (activeRanges rows) id) :
    Held (activeRanges (on.settled clock (activeIn rows) rows)) id := by
  have hmem := mem_activeRanges_insertAll clock
    ((activeIn rows).foldl (on.rowsAfter clock) rows) (on.soAfterAll (activeIn rows)).tail
  rw [Grounds.settled]
  obtain hheld | ⟨gap, hgap, hin, hopen, last, hfate, hlt⟩ :=
    held_settleAll clock (activeIn rows) hlog hrow hconf h
  · obtain ⟨range, hr, hid⟩ := hheld
    exact ⟨range, (hmem range).2 (Or.inr hr), hid⟩
  · have hopen_range : ∃ top ∈ activeRanges rows, top.2 = openEnd :=
      ⟨gap.range, range_mem_activeRanges hgap, of_decide_eq_true hopen⟩
    obtain ⟨top, htop, hend, hsingle⟩ := exists_open_gap (nodup_activeRanges hkey) hopen_range hone
    rw [← hsingle gap hgap hopen] at hsingle
    have htail := tail_eq hlog hgap hopen hsingle
    rw [Grounds.tailOf, hfate] at htail
    simp only [hopen, if_true] at htail
    refine ⟨(last + 1, openEnd), (hmem _).2 (Or.inl ?_), ?_, ?_⟩
    · rw [htail]
      exact List.mem_singleton.2 rfl
    · simp only
      omega
    · have hstop : gap.stop = openEnd := of_decide_eq_true hopen
      exact hstop ▸ hin.2

/-! ## a confirmed row -/

/-- A range without confirmed rows. -/
def Grounds.Spares (on : Grounds) (range : IdRange) : Prop :=
  ∀ id, Holds range id → ¬on.Confirms id

theorem spares_pieces (hlog : ProperLog on.log.rows) {range : IdRange} (h : range ∈ on.pieces gap) :
    on.Spares range := by
  intro id hid
  have hheld : Held (on.remains gap) id := ⟨range, mem_remains_of_pieces h, hid⟩
  exact ((held_remains hlog gap id).1 hheld).2.1

/-- The new open range lies above every confirmed row of the open gaps. -/
theorem spares_tail (hlog : ProperLog on.log.rows) (hgap : gap ∈ gaps) (hopen : gap.isOpen = true)
    {range : IdRange} (h : range ∈ (on.soAfterAll gaps).tail) : on.Spares range := by
  intro id hid hconf
  have hstop : gap.stop = openEnd := of_decide_eq_true hopen
  rw [Settling.tail, Grounds.soAfterAll] at h
  split at h
  · next highest hstays hhigh =>
    have hnot : ¬∃ other ∈ gaps, other.isOpen = true ∧ on.fate other = .stays := fun hex =>
      absurd ((openStays_soAfterAll {} gaps).2 (Or.inr hex)) (by simp [hstays])
    obtain ⟨last, hfate⟩ : ∃ last, on.fate gap = .filled last := by
      cases hof : on.fate gap with
      | stays => exact absurd ⟨gap, hgap, hopen, hof⟩ hnot
      | skipped =>
          rw [(fate_eq_skipped.1 hof).1] at hopen
          contradiction
      | filled last => exact ⟨last, rfl⟩
    obtain ⟨top, htop, hle⟩ :
        ∃ top, (gaps.foldl on.soAfter {}).highest = some top ∧ last ≤ top :=
      le_highest_soAfterAll (Or.inr ⟨gap, hgap, hfate⟩)
    rw [hhigh, Option.some.injEq] at htop
    subst htop
    obtain hnone | ⟨other, -, hother⟩ := highest_soAfterAll hhigh
    · contradiction
    obtain ⟨⟨hmin, -⟩, hlt⟩ := lt_openEnd_of_filled hlog hother
    have hword : word (highest + 1) = highest + 1 := by
      refine word_of_mem ?_
      simp only [openEnd] at hlt
      omega
    rw [hword, List.mem_singleton] at h
    subst h
    -- the row would be confirmed in the open gap, above the last row confirmed in it
    have hlast := fate_eq_filled.1 hfate
    have hstart := (mem_confirmedIn.1 (mem_of_getLast hlast)).1.1
    simp only [Holds, Gap.range] at hid hstart
    have hin : id ∈ on.confirmedIn gap := by
      refine mem_confirmedIn.2 ⟨⟨?_, ?_⟩, hconf⟩
      · simp only [Gap.range]
        omega
      · simp only [Gap.range, hstop]
        omega
    have hmax := le_getLast (confirmed_confirmedIn hlog.ascending gap).ascending hlast hin
    omega
  · exact (List.not_mem_nil h).elim

/-- Once all gaps are settled, an active range holds no confirmed row, or it was that of no gap. -/
theorem spares_settleAll (hlog : ProperLog on.log.rows) {range : IdRange}
    (h : range ∈ activeRanges (gaps.foldl (on.rowsAfter clock) rows)) :
    on.Spares range ∨ range ∈ activeRanges rows ∧ ∀ gap ∈ gaps, range ≠ gap.range := by
  induction gaps generalizing rows with
  | nil => exact Or.inr ⟨h, fun _ hgap => (List.not_mem_nil hgap).elim⟩
  | cons gap gaps ih =>
      obtain hspares | ⟨hr, hne⟩ := ih h
      · exact Or.inl hspares
      · rw [mem_activeRanges_rowsAfter] at hr
        cases hr with
        | inl hr => exact Or.inl (spares_pieces hlog hr)
        | inr hr =>
            by_cases hsame : range = gap.range
            · have hstays : on.fate gap = .stays := by
                by_contra hfate
                exact hr.2 hfate hsame
              refine Or.inl fun id hid => ?_
              exact not_confirms_of_fate (by simp [hstays]) (hsame ▸ hid)
            · exact Or.inr ⟨hr.1, List.forall_mem_cons.2 ⟨hsame, hne⟩⟩

/-- A confirmed row is in no active gap any more. -/
theorem not_held_settled (hlog : ProperLog on.log.rows)
    (hopen : ∃ top ∈ activeRanges rows, top.2 = openEnd) (hconf : on.Confirms id) :
    ¬Held (activeRanges (on.settled clock (activeIn rows) rows)) id := by
  rintro ⟨range, hr, hid⟩
  obtain ⟨top, htop, hend⟩ := hopen
  obtain ⟨gap, hgap, rfl⟩ := List.mem_map.1 ((ranges_activeIn rows).mem_iff.2 htop)
  rw [Grounds.settled, mem_activeRanges_insertAll] at hr
  cases hr with
  | inl hr => exact spares_tail hlog hgap (decide_eq_true hend) hr id hid hconf
  | inr hr =>
      obtain hspares | ⟨hactive, hne⟩ := spares_settleAll hlog hr
      · exact hspares id hid hconf
      · obtain ⟨gap, hgap, rfl⟩ := List.mem_map.1 ((ranges_activeIn rows).mem_iff.2 hactive)
        exact hne gap hgap rfl

/-- Of the rows in a table with one open gap, those that are confirmed leave the active gaps, and the
others stay. -/
theorem held_settled_iff (hlog : ProperLog on.log.rows) (hkey : Keyed rows)
    (hone : SingleOpen (activeRanges rows)) (hopen : ∃ top ∈ activeRanges rows, top.2 = openEnd)
    {row : ChangeRow} (hrow : row ∈ on.log.rows) (h : Held (activeRanges rows) row.id) :
    Held (activeRanges (on.settled clock (activeIn rows) rows)) row.id ↔
      on.coverage.confirms row.channel row.id = false := by
  cases hconf : on.coverage.confirms row.channel row.id with
  | true =>
      have hnot : ¬Held (activeRanges (on.settled clock (activeIn rows) rows)) row.id :=
        not_held_settled hlog hopen ⟨row, hrow, rfl, hconf⟩
      exact iff_of_false hnot (by decide)
  | false =>
      refine iff_of_true (held_settled_of_unconfirmed hlog hkey hone ⟨row, hrow, rfl⟩ ?_ h) rfl
      rintro ⟨other, hother, hid, hconfirmed⟩
      rw [hlog.eq_of_id hother hrow hid, hconf] at hconfirmed
      contradiction

end ChangeRouting
