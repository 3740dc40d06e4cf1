import ChangeRouting.Proofs.Gap.Load
import ChangeRouting.Proofs.Gap.Settle

/-!
# ChangeRouting.Proofs.Gap.Reconcile

The exact effect of reconciliation on a tidy gap table.

* `held_remains` — what remains of a gap holds the ids of it that were not confirmed;
* `tail_eq` — the new open range continues the one open gap that was retired;
* `settled_perm` — the active ranges after settling are what remains of the gaps;
* `statusAt_settled` — every gap has the status of its fate;
* `reconcile_effect` — ids, marks, order and number of the active gaps after a reconciliation.
-/

namespace ChangeRouting

namespace Grounds

variable (on : Grounds)

/-- The active ranges a settled gap leaves. -/
def kept (gap : Gap) : List IdRange :=
  match on.fate gap with
  | .stays => [gap.range]
  | .skipped => []
  | .filled _ => on.pieces gap

/-- The open range that follows a gap once it is settled. -/
def tailOf (gap : Gap) : List IdRange :=
  match on.fate gap with
  | .filled last => if gap.isOpen then [(last + 1, openEnd)] else []
  | _ => []

/-- What remains of a gap: the ranges it leaves and the open range that follows it. -/
def remains (gap : Gap) : List IdRange := on.kept gap ++ on.tailOf gap

theorem tailOf_of_closed {gap : Gap} (h : gap.isOpen = false) : on.tailOf gap = [] := by
  rw [tailOf]
  split
  · rw [h, if_neg Bool.false_ne_true]
  · rfl

/-- Only an open range follows a gap. -/
theorem snd_of_mem_tailOf {gap : Gap} {range : IdRange} (h : range ∈ on.tailOf gap) :
    range.2 = openEnd := by
  rw [tailOf] at h
  split at h
  · split at h
    · rw [List.mem_singleton.1 h]
    · exact (List.not_mem_nil h).elim
  · exact (List.not_mem_nil h).elim

theorem remains_of_filled {gap : Gap} {last : Int} (h : on.fate gap = .filled last) :
    on.remains gap = successors gap (on.confirmedIn gap) last := by
  rw [remains, kept, tailOf, pieces, h]
  rfl

end Grounds

variable {on : Grounds} {gap : Gap} {gaps : List Gap} {rows : List GapRow} {clock : Millis}

/-! ## what remains of one gap -/

/-- What remains of a gap holds the ids of it that were not confirmed, unless it was skipped. -/
theorem held_remains (hlog : ProperLog on.log.rows) (gap : Gap) (id : Int) :
    Held (on.remains gap) id ↔ Holds gap.range id ∧ ¬on.Confirms id ∧ on.fate gap ≠ .skipped := by
  cases hfate : on.fate gap with
  | stays =>
      have hremains : on.remains gap = [gap.range] := by
        simp only [Grounds.remains, Grounds.kept, Grounds.tailOf, hfate, List.append_nil]
      rw [hremains, held_cons]
      constructor
      · rintro (hid | hid)
        · exact ⟨hid, not_confirms_of_fate (by simp [hfate]) hid, by decide⟩
        · exact (held_nil _ hid).elim
      · exact fun h => Or.inl h.1
  | skipped =>
      have hremains : on.remains gap = [] := by
        simp only [Grounds.remains, Grounds.kept, Grounds.tailOf, hfate, List.append_nil]
      simp [hremains]
  | filled last =>
      have hconf := confirmed_confirmedIn hlog.ascending gap
      rw [on.remains_of_filled hfate, held_successors hconf (fate_eq_filled.1 hfate), mem_confirmedIn]
      simp only [ne_eq, reduceCtorEq, not_false_eq_true, and_true, not_and]
      constructor
      · exact fun h => ⟨h.1, h.2 h.1⟩
      · exact fun h => ⟨h.1, fun _ => h.2⟩

theorem lt_openEnd_of_filled (hlog : ProperLog on.log.rows) {last : Int}
    (h : on.fate gap = .filled last) : IsWord last ∧ last < openEnd := by
  have hmem := mem_of_getLast (fate_eq_filled.1 h)
  obtain ⟨-, row, hrow, rfl, -⟩ := mem_confirmedIn.1 hmem
  obtain ⟨hword, hne⟩ := hlog.words row hrow
  exact ⟨hword, lt_of_le_of_ne hword.2 hne⟩

theorem within_of_mem_remains (hlog : ProperLog on.log.rows) (hfull : gap.start ≤ gap.stop)
    {range : IdRange} (h : range ∈ on.remains gap) : Within range gap.range := by
  cases hfate : on.fate gap with
  | stays =>
      simp only [Grounds.remains, Grounds.kept, Grounds.tailOf, hfate, List.append_nil,
        List.mem_singleton] at h
      rw [h]
      exact Within.refl hfull
  | skipped =>
      simp only [Grounds.remains, Grounds.kept, Grounds.tailOf, hfate, List.append_nil] at h
      exact (List.not_mem_nil h).elim
  | filled last =>
      rw [on.remains_of_filled hfate] at h
      exact within_of_mem_successors (confirmed_confirmedIn hlog.ascending gap)
        (fate_eq_filled.1 hfate) (lt_openEnd_of_filled hlog hfate).2 h

theorem pairwise_remains (hlog : ProperLog on.log.rows) (gap : Gap) :
    (on.remains gap).Pairwise Below := by
  cases hfate : on.fate gap with
  | stays => simp [Grounds.remains, Grounds.kept, Grounds.tailOf, hfate]
  | skipped => simp [Grounds.remains, Grounds.kept, Grounds.tailOf, hfate]
  | filled last =>
      rw [on.remains_of_filled hfate]
      exact pairwise_successors (confirmed_confirmedIn hlog.ascending gap) (fate_eq_filled.1 hfate)

/-- A retired gap is none of the ranges that remain of it. -/
theorem range_not_mem_remains (hlog : ProperLog on.log.rows) (h : on.fate gap ≠ .stays) :
    gap.range ∉ on.remains gap := by
  intro hmem
  cases hfate : on.fate gap with
  | stays => exact h hfate
  | skipped =>
      simp only [Grounds.remains, Grounds.kept, Grounds.tailOf, hfate, List.append_nil] at hmem
      exact List.not_mem_nil hmem
  | filled last =>
      have hlast := mem_of_getLast (fate_eq_filled.1 hfate)
      rw [mem_confirmedIn] at hlast
      have hheld : Held (on.remains gap) last := ⟨gap.range, hmem, hlast.1⟩
      exact ((held_remains hlog gap last).1 hheld).2.1 hlast.2

/-! ## the new open range -/

theorem openStays_soAfterAll (so : Settling) (gaps : List Gap) :
    (gaps.foldl on.soAfter so).openStays = true ↔
      so.openStays = true ∨ ∃ gap ∈ gaps, gap.isOpen = true ∧ on.fate gap = .stays := by
  induction gaps generalizing so with
  | nil => simp
  | cons gap gaps ih =>
      have hstep : (on.soAfter so gap).openStays = true ↔
          so.openStays = true ∨ gap.isOpen = true ∧ on.fate gap = .stays := by
        rw [Grounds.soAfter]
        cases on.fate gap <;> simp
      rw [List.foldl_cons, ih, hstep, List.exists_mem_cons_iff, or_assoc]

theorem highest_soAfter (so : Settling) (gap : Gap) :
    (on.soAfter so gap).highest =
      match on.fate gap with
      | .filled last => some (raised so.highest last)
      | _ => so.highest := by
  rw [Grounds.soAfter]
  cases on.fate gap <;> rfl

/-- The highest id is not below the last id of a retired gap. -/
theorem le_highest_soAfterAll {so : Settling} {last : Int}
    (h : (∃ x, so.highest = some x ∧ last ≤ x) ∨ ∃ gap ∈ gaps, on.fate gap = .filled last) :
    ∃ highest, (gaps.foldl on.soAfter so).highest = some highest ∧ last ≤ highest := by
  induction gaps generalizing so with
  | nil =>
      cases h with
      | inl h => exact h
      | inr h =>
          obtain ⟨gap, hgap, -⟩ := h
          exact (List.not_mem_nil hgap).elim
  | cons gap gaps ih =>
      rw [List.foldl_cons]
      refine ih ?_
      rw [highest_soAfter]
      obtain ⟨x, hx, hle⟩ | ⟨other, hother, hfate⟩ := h
      · left
        cases on.fate gap with
        | stays => exact ⟨x, hx, hle⟩
        | skipped => exact ⟨x, hx, hle⟩
        | filled id =>
            refine ⟨raised so.highest id, rfl, ?_⟩
            rw [hx, raised, Option.elim_some]
            omega
      · rw [List.mem_cons] at hother
        cases hother with
        | inl heq =>
            left
            rw [← heq, hfate]
            refine ⟨raised so.highest last, rfl, ?_⟩
            cases hso : so.highest with
            | none => exact Int.le_refl last
            | some x =>
                rw [raised, Option.elim_some]
                omega
        | inr hmem => exact Or.inr ⟨other, hmem, hfate⟩

/-- The highest id is the last id of some retired gap. -/
theorem highest_soAfterAll {so : Settling} {highest : Int}
    (h : (gaps.foldl on.soAfter so).highest = some highest) :
    so.highest = some highest ∨ ∃ gap ∈ gaps, on.fate gap = .filled highest := by
  induction gaps generalizing so with
  | nil => exact Or.inl h
  | cons gap gaps ih =>
      obtain hso | ⟨other, hother, hfate⟩ := ih h
      · rw [highest_soAfter] at hso
        cases hfate : on.fate gap with
        | stays => rw [hfate] at hso; exact Or.inl hso
        | skipped => rw [hfate] at hso; exact Or.inl hso
        | filled last =>
            simp only [hfate, Option.some.injEq] at hso
            cases hx : so.highest with
            | none =>
                rw [hx, raised, Option.elim_none] at hso
                exact Or.inr ⟨gap, List.mem_cons_self, hso ▸ hfate⟩
            | some x =>
                rw [hx, raised, Option.elim_some] at hso
                obtain hmax | hmax : highest = x ∨ highest = last := by omega
                · exact Or.inl (hmax ▸ rfl)
                · exact Or.inr ⟨gap, List.mem_cons_self, hmax ▸ hfate⟩
      · exact Or.inr ⟨other, List.mem_cons_of_mem _ hother, hfate⟩

/-- The new open range continues the one open gap, if that was retired. -/
theorem tail_eq (hlog : ProperLog on.log.rows) (hgap : gap ∈ gaps) (hopen : gap.isOpen = true)
    (hone : ∀ other ∈ gaps, other.isOpen = true → other = gap) :
    (on.soAfterAll gaps).tail = on.tailOf gap := by
  have hstop : gap.stop = openEnd := of_decide_eq_true hopen
  have hstays : (gaps.foldl on.soAfter {}).openStays = true ↔
      ∃ gap ∈ gaps, gap.isOpen = true ∧ on.fate gap = .stays := by
    rw [openStays_soAfterAll]
    simp only [Bool.false_eq_true, false_or]
  rw [Settling.tail, Grounds.soAfterAll, Grounds.tailOf]
  cases hfate : on.fate gap with
  | stays => simp only [hstays.2 ⟨gap, hgap, hopen, hfate⟩]
  | skipped =>
      have hclosed := (fate_eq_skipped.1 hfate).1
      rw [hopen] at hclosed
      contradiction
  | filled last =>
      have hfalse : (gaps.foldl on.soAfter {}).openStays = false := by
        rw [← Bool.not_eq_true, hstays]
        rintro ⟨other, hother, ho, hs⟩
        rw [hone other hother ho, hfate] at hs
        contradiction
      obtain ⟨highest, hhigh, hle⟩ :
          ∃ highest, (gaps.foldl on.soAfter {}).highest = some highest ∧ last ≤ highest :=
        le_highest_soAfterAll (Or.inr ⟨gap, hgap, hfate⟩)
      have hsame : highest = last := by
        obtain hnone | ⟨other, hother, hof⟩ := highest_soAfterAll hhigh
        · contradiction
        · have hlast := mem_of_getLast (fate_eq_filled.1 hfate)
          have hstart := (mem_confirmedIn.1 hlast).1.1
          have hconf := (mem_confirmedIn.1 (mem_of_getLast (fate_eq_filled.1 hof))).2
          have hword := lt_openEnd_of_filled hlog hof
          have hin : highest ∈ on.confirmedIn gap := by
            refine mem_confirmedIn.2 ⟨⟨?_, ?_⟩, hconf⟩
            · simp only [Gap.range] at hstart ⊢
              omega
            · simp only [Gap.range, hstop]
              omega
          have hmax := le_getLast (confirmed_confirmedIn hlog.ascending gap).ascending
            (fate_eq_filled.1 hfate) hin
          omega
      obtain ⟨⟨hmin, -⟩, hlt⟩ := lt_openEnd_of_filled hlog hfate
      have hword : word (last + 1) = last + 1 := by
        refine word_of_mem ?_
        simp only [openEnd] at hlt
        omega
      simp only [hfalse, hhigh, hsame, hword, hopen, if_true]

/-! ## the table after all gaps -/

/-- Gaps that hold ids, each below the next. -/
structure Stacked (gaps : List Gap) : Prop where
  full : ∀ gap ∈ gaps, gap.start ≤ gap.stop
  below : gaps.Pairwise fun a b => Below a.range b.range

theorem Stacked.tail (h : Stacked (gap :: gaps)) : Stacked gaps :=
  ⟨fun other hother => h.full other (List.mem_cons_of_mem _ hother), (List.pairwise_cons.1 h.below).2⟩

theorem Stacked.nodup (h : Stacked gaps) : gaps.Nodup := by
  refine h.below.imp_of_mem fun {a b} ha _ hab heq => ?_
  have hfull := h.full a ha
  subst heq
  simp only [Below, Gap.range] at hab
  omega

/-- The active gaps of a tidy table come one below the other. -/
theorem Tidy.stacked (h : Tidy (activeRanges rows)) : Stacked (activeIn rows) := by
  have hranges := h.perm (ranges_activeIn rows).symm
  have hfull : ∀ gap ∈ activeIn rows, gap.start ≤ gap.stop := fun gap hgap =>
    hranges.full gap.range (List.mem_map.2 ⟨gap, hgap, rfl⟩)
  refine ⟨hfull, ?_⟩
  have hapart := List.pairwise_map.1 hranges.apart
  refine ((pairwise_activeIn rows).and hapart).imp_of_mem fun {a b} ha hb hab => ?_
  have hfulla := hfull a ha
  have hfullb := hfull b hb
  obtain ⟨hle, hlt | hlt⟩ := hab
  · exact hlt
  · simp only [Below, Gap.range] at *
    omega

theorem mem_remains_of_pieces {range : IdRange} (h : range ∈ on.pieces gap) :
    range ∈ on.remains gap := by
  rw [Grounds.remains, Grounds.kept, List.mem_append]
  cases hfate : on.fate gap with
  | stays => rw [Grounds.pieces, hfate] at h; exact (List.not_mem_nil h).elim
  | skipped => rw [Grounds.pieces, hfate] at h; exact (List.not_mem_nil h).elim
  | filled last => exact Or.inl h

/-- An active gap is replaced by the ranges it leaves. -/
theorem mem_activeRanges_rowsAfter_of_active (h : gap.range ∈ activeRanges rows) (range : IdRange) :
    range ∈ activeRanges (on.rowsAfter clock rows gap) ↔
      range ∈ on.kept gap ∨ range ∈ activeRanges rows ∧ range ≠ gap.range := by
  rw [mem_activeRanges_rowsAfter, Grounds.kept]
  cases hfate : on.fate gap with
  | stays =>
      have hpieces : on.pieces gap = [] := by rw [Grounds.pieces, hfate]
      simp only [hpieces, List.not_mem_nil, false_or, not_true_eq_false, ne_eq, false_implies,
        and_true, List.mem_singleton]
      constructor
      · intro hr
        by_cases heq : range = gap.range
        · exact Or.inl heq
        · exact Or.inr ⟨hr, heq⟩
      · rintro (heq | hr)
        · exact heq ▸ h
        · exact hr.1
  | skipped =>
      have hpieces : on.pieces gap = [] := by rw [Grounds.pieces, hfate]
      simp [hpieces]
  | filled last => simp

/-- Every gap is replaced by the ranges it leaves; the others stay. -/
theorem mem_activeRanges_settleAll (hlog : ProperLog on.log.rows) (h : Stacked gaps)
    (hactive : ∀ gap ∈ gaps, gap.range ∈ activeRanges rows) (range : IdRange) :
    range ∈ activeRanges (gaps.foldl (on.rowsAfter clock) rows) ↔
      (∃ gap ∈ gaps, range ∈ on.kept gap) ∨
        range ∈ activeRanges rows ∧ ∀ gap ∈ gaps, range ≠ gap.range := by
  induction gaps generalizing rows with
  | nil => simp
  | cons gap gaps ih =>
      have hgap := hactive gap List.mem_cons_self
      have hfull := h.full gap List.mem_cons_self
      have hlater : ∀ other ∈ gaps, Below gap.range other.range := (List.pairwise_cons.1 h.below).1
      -- what a gap leaves lies inside of it, so it is no range of a later gap
      have hkept : range ∈ on.kept gap → ∀ other ∈ gaps, range ≠ other.range := by
        intro hr other hother heq
        have hin := within_of_mem_remains hlog hfull (List.mem_append_left _ hr)
        have hlt := hlater other hother
        simp only [Within, Below, heq] at hin hlt
        omega
      have hrest : ∀ other ∈ gaps, other.range ∈ activeRanges (on.rowsAfter clock rows gap) := by
        intro other hother
        refine (mem_activeRanges_rowsAfter_of_active hgap _).2 (Or.inr ⟨?_, ?_⟩)
        · exact hactive other (List.mem_cons_of_mem _ hother)
        · exact (Apart.ne (Or.inl (hlater other hother)) hfull).symm
      rw [List.foldl_cons, ih h.tail hrest, mem_activeRanges_rowsAfter_of_active hgap,
        List.exists_mem_cons_iff, List.forall_mem_cons]
      constructor
      · rintro (hr | ⟨hr | ⟨hr, hne⟩, hall⟩)
        · exact Or.inl (Or.inr hr)
        · exact Or.inl (Or.inl hr)
        · exact Or.inr ⟨hr, hne, hall⟩
      · rintro ((hr | hr) | ⟨hr, hne, hall⟩)
        · exact Or.inr ⟨Or.inl hr, hkept hr⟩
        · exact Or.inl hr
        · exact Or.inr ⟨Or.inr ⟨hr, hne⟩, hall⟩

/-- A range that shares no id with a gap keeps its status. -/
theorem statusAt_rowsAfter_of_apart (hlog : ProperLog on.log.rows) (hfull : gap.start ≤ gap.stop)
    {range : IdRange} (h : Apart range gap.range) :
    statusAt (on.rowsAfter clock rows gap) range = statusAt rows range := by
  have hpieces : range ∉ on.pieces gap := by
    intro hr
    have hin := within_of_mem_remains hlog hfull (mem_remains_of_pieces hr)
    simp only [Apart, Below, Within] at h hin
    omega
  have hne : range ≠ gap.range := (h.symm.ne hfull).symm
  rw [statusAt_rowsAfter, if_neg hpieces, if_neg fun hc => hne hc.1]

/-- Ranges that share no id with the gaps keep their status. -/
theorem statusAt_settleAll_of_apart (hlog : ProperLog on.log.rows)
    (hfull : ∀ gap ∈ gaps, gap.start ≤ gap.stop) {range : IdRange}
    (h : ∀ gap ∈ gaps, Apart range gap.range) :
    statusAt (gaps.foldl (on.rowsAfter clock) rows) range = statusAt rows range := by
  induction gaps generalizing rows with
  | nil => rfl
  | cons gap gaps ih =>
      rw [List.foldl_cons, ih (fun other hother => hfull other (List.mem_cons_of_mem _ hother))
        (fun other hother => h other (List.mem_cons_of_mem _ hother))]
      exact statusAt_rowsAfter_of_apart hlog (hfull gap List.mem_cons_self) (h gap List.mem_cons_self)

/-- Every gap has the status of its fate. -/
theorem statusAt_settleAll (hlog : ProperLog on.log.rows) (h : Stacked gaps)
    (hactive : ∀ gap ∈ gaps, statusAt rows gap.range = some GapStatus.active.code) :
    ∀ gap ∈ gaps,
      statusAt (gaps.foldl (on.rowsAfter clock) rows) gap.range = some (on.fate gap).code := by
  induction gaps generalizing rows with
  | nil => exact fun _ hgap => (List.not_mem_nil hgap).elim
  | cons gap gaps ih =>
      have hfull := h.full gap List.mem_cons_self
      have hlater : ∀ other ∈ gaps, Below gap.range other.range := (List.pairwise_cons.1 h.below).1
      have hself : statusAt (on.rowsAfter clock rows gap) gap.range = some (on.fate gap).code := by
        have hstatus := hactive gap List.mem_cons_self
        rw [statusAt_rowsAfter]
        by_cases hstays : on.fate gap = .stays
        · have hpieces : on.pieces gap = [] := by rw [Grounds.pieces, hstays]
          rw [hpieces, hstatus, hstays]
          simp [Fate.code]
        · have hpieces : gap.range ∉ on.pieces gap := fun hr =>
            range_not_mem_remains hlog hstays (mem_remains_of_pieces hr)
          rw [if_neg hpieces, if_pos ⟨rfl, hstays⟩, hstatus]
          rfl
      have hrest : ∀ other ∈ gaps,
          statusAt (on.rowsAfter clock rows gap) other.range = some GapStatus.active.code := by
        intro other hother
        rw [statusAt_rowsAfter_of_apart hlog hfull (Or.inr (hlater other hother))]
        exact hactive other (List.mem_cons_of_mem _ hother)
      intro other hother
      rw [List.foldl_cons]
      rw [List.mem_cons] at hother
      cases hother with
      | inl heq =>
          rw [heq, statusAt_settleAll_of_apart hlog h.tail.full
            (fun later hl => Or.inl (hlater later hl)), hself]
      | inr hmem => exact ih h.tail hrest other hmem

/-! ## a tidy table after settling -/

/-- The open gap of a table with one open range. -/
theorem exists_open_gap (hnodup : (activeRanges rows).Nodup)
    (hopen : ∃ top ∈ activeRanges rows, top.2 = openEnd) (hone : SingleOpen (activeRanges rows)) :
    ∃ gap ∈ activeIn rows, gap.isOpen = true ∧
      ∀ other ∈ activeIn rows, other.isOpen = true → other = gap := by
  have hperm := ranges_activeIn rows
  obtain ⟨top, htop, hend⟩ := hopen
  obtain ⟨gap, hgap, rfl⟩ := List.mem_map.1 (hperm.mem_iff.2 htop)
  refine ⟨gap, hgap, decide_eq_true hend, fun other hother ho => ?_⟩
  have hin : other.range ∈ activeRanges rows := hperm.mem_iff.1 (List.mem_map.2 ⟨other, hother, rfl⟩)
  exact List.inj_on_of_nodup_map (hperm.nodup_iff.2 hnodup) hother hgap
    (hone other.range hin gap.range htop (of_decide_eq_true ho) hend)

theorem Tidy.exists_open_gap (h : Tidy (activeRanges rows)) :
    ∃ gap ∈ activeIn rows, gap.isOpen = true ∧
      ∀ other ∈ activeIn rows, other.isOpen = true → other = gap :=
  ChangeRouting.exists_open_gap h.nodup h.exists_open h.singleOpen

theorem Stacked.tail_eq_flatMap (hlog : ProperLog on.log.rows) (h : Stacked gaps) (hgap : gap ∈ gaps)
    (hopen : gap.isOpen = true) (hone : ∀ other ∈ gaps, other.isOpen = true → other = gap) :
    (on.soAfterAll gaps).tail = gaps.flatMap on.tailOf := by
  rw [tail_eq hlog hgap hopen hone]
  obtain ⟨pre, post, rfl⟩ := List.append_of_mem hgap
  have hothers : ∀ other ∈ pre ++ gap :: post, other ≠ gap → on.tailOf other = [] := by
    intro other hother hne
    refine on.tailOf_of_closed ?_
    rw [← Bool.not_eq_true]
    exact fun ho => hne (hone other hother ho)
  obtain ⟨-, hpost, hpre⟩ := List.nodup_append.1 h.nodup
  have hpre_nil : pre.flatMap on.tailOf = [] := by
    refine List.flatMap_eq_nil_iff.2 fun other hother => ?_
    exact hothers other (List.mem_append_left _ hother) (hpre other hother gap List.mem_cons_self)
  have hpost_nil : post.flatMap on.tailOf = [] := by
    refine List.flatMap_eq_nil_iff.2 fun other hother => ?_
    refine hothers other (List.mem_append_right _ (List.mem_cons_of_mem _ hother)) ?_
    rintro rfl
    exact (List.nodup_cons.1 hpost).1 hother
  rw [List.flatMap_append, List.flatMap_cons, hpre_nil, hpost_nil, List.nil_append, List.append_nil]

theorem Stacked.pairwise_remains (hlog : ProperLog on.log.rows) (h : Stacked gaps) :
    (gaps.flatMap on.remains).Pairwise Below := by
  refine List.pairwise_flatMap.2 ⟨fun gap _ => ChangeRouting.pairwise_remains hlog gap, ?_⟩
  refine h.below.imp_of_mem fun {a b} ha hb hab x hx y hy => ?_
  exact hab.within (within_of_mem_remains hlog (h.full a ha) hx)
    (within_of_mem_remains hlog (h.full b hb) hy)

variable (hlog : ProperLog on.log.rows) (htidy : Tidy (activeRanges rows)) (hkey : Keyed rows)

include hlog htidy in
/-- What remains of the gaps of a tidy table is tidy again. -/
theorem tidy_remains : Tidy ((activeIn rows).flatMap on.remains) := by
  have hstack := htidy.stacked
  have hin : ∀ range ∈ (activeIn rows).flatMap on.remains,
      ∃ gap ∈ activeIn rows, Within range gap.range := by
    intro range hr
    obtain ⟨gap, hgap, hr⟩ := List.mem_flatMap.1 hr
    exact ⟨gap, hgap, within_of_mem_remains hlog (hstack.full gap hgap) hr⟩
  refine .of_apart ?_ ?_ ?_ ?_
  · intro range hr
    obtain ⟨gap, -, hw⟩ := hin range hr
    exact hw.2.1
  · exact (hstack.pairwise_remains hlog).imp Or.inl
  · intro range hr
    obtain ⟨gap, hgap, hw⟩ := hin range hr
    have hle := (htidy.perm (ranges_activeIn rows).symm).le_openEnd
      (List.mem_map.2 ⟨gap, hgap, rfl⟩)
    exact Int.le_trans hw.2.2 hle
  · obtain ⟨gap, hgap, hopen, -⟩ := htidy.exists_open_gap
    have hremains : ∃ range ∈ on.remains gap, range.2 = openEnd := by
      cases hfate : on.fate gap with
      | stays =>
          refine ⟨gap.range, List.mem_append_left _ ?_, of_decide_eq_true hopen⟩
          rw [Grounds.kept, hfate]
          exact List.mem_singleton.2 rfl
      | skipped =>
          rw [(fate_eq_skipped.1 hfate).1] at hopen
          contradiction
      | filled last =>
          refine ⟨(last + 1, openEnd), List.mem_append_right _ ?_, rfl⟩
          rw [Grounds.tailOf, hfate]
          simp only [hopen, if_true, List.mem_singleton]
    obtain ⟨range, hr, hend⟩ := hremains
    exact ⟨range, List.mem_flatMap.2 ⟨gap, hgap, hr⟩, hend⟩

theorem range_mem_activeRanges (h : gap ∈ activeIn rows) : gap.range ∈ activeRanges rows :=
  (ranges_activeIn rows).mem_iff.1 (List.mem_map.2 ⟨gap, h, rfl⟩)

theorem keyed_settled (hkey : Keyed rows) : Keyed (on.settled clock gaps rows) := by
  refine keyed_insertAll ?_ _
  induction gaps generalizing rows with
  | nil => exact hkey
  | cons gap gaps ih => exact ih (keyed_rowsAfter hkey gap)

include hlog htidy hkey in
/-- The active ranges after settling are what remains of the gaps. -/
theorem settled_perm : (activeRanges (on.settled clock (activeIn rows) rows)).Perm
    ((activeIn rows).flatMap on.remains) := by
  obtain ⟨gap, hgap, hopen, hone⟩ := htidy.exists_open_gap
  refine (List.perm_ext_iff_of_nodup (nodup_activeRanges (keyed_settled hkey))
    (tidy_remains hlog htidy).nodup).2 fun range => ?_
  rw [Grounds.settled, mem_activeRanges_insertAll,
    htidy.stacked.tail_eq_flatMap hlog hgap hopen hone,
    mem_activeRanges_settleAll hlog htidy.stacked fun _ h => range_mem_activeRanges h]
  have hgone : ¬(range ∈ activeRanges rows ∧ ∀ gap ∈ activeIn rows, range ≠ gap.range) := by
    rintro ⟨hr, hne⟩
    obtain ⟨gap, hgap, rfl⟩ := List.mem_map.1 ((ranges_activeIn rows).mem_iff.2 hr)
    exact hne gap hgap rfl
  simp only [hgone, or_false, List.mem_flatMap, Grounds.remains, List.mem_append]
  constructor
  · rintro (⟨gap, hgap, hr⟩ | ⟨gap, hgap, hr⟩)
    · exact ⟨gap, hgap, Or.inr hr⟩
    · exact ⟨gap, hgap, Or.inl hr⟩
  · rintro ⟨gap, hgap, hr | hr⟩
    · exact Or.inr ⟨gap, hgap, hr⟩
    · exact Or.inl ⟨gap, hgap, hr⟩

include hlog htidy hkey in
/-- Every gap has the status of its fate once all are settled. -/
theorem statusAt_settled (hgap : gap ∈ activeIn rows) :
    statusAt (on.settled clock (activeIn rows) rows) gap.range = some (on.fate gap).code := by
  obtain ⟨top, htop, hopen, hone⟩ := htidy.exists_open_gap
  have htail : on.fate gap ≠ .stays → gap.range ∉ (on.soAfterAll (activeIn rows)).tail := by
    intro hstays hmem
    rw [tail_eq hlog htop hopen hone] at hmem
    have hsame : gap = top := hone gap hgap (decide_eq_true (on.snd_of_mem_tailOf hmem))
    exact range_not_mem_remains hlog hstays (List.mem_append_right _ (hsame ▸ hmem))
  rw [Grounds.settled, statusAt_insertAll, statusAt_settleAll hlog htidy.stacked
    (fun _ h => statusAt_of_mem_activeRanges hkey (range_mem_activeRanges h)) gap hgap]
  split
  · next hmem =>
    by_cases hstays : on.fate gap = .stays
    · rw [hstays]
      rfl
    · exact absurd hmem (htail hstays)
  · rfl

/-! ## counting -/

/-- Every gap that is filled or skipped makes one active range less, every piece one more. -/
theorem length_kept (on : Grounds) (so : Settling) (gaps : List Gap) :
    (gaps.flatMap on.kept).length + (gaps.foldl on.soAfter so).report.filled +
        (gaps.foldl on.soAfter so).report.skipped + so.report.created =
      gaps.length + (gaps.foldl on.soAfter so).report.created + so.report.filled +
        so.report.skipped := by
  induction gaps generalizing so with
  | nil =>
      simp only [List.flatMap_nil, List.length_nil, List.foldl_nil]
      omega
  | cons gap gaps ih =>
      have hrest := ih (on.soAfter so gap)
      have hstep : (on.kept gap).length + (on.soAfter so gap).report.filled +
            (on.soAfter so gap).report.skipped + so.report.created =
          1 + (on.soAfter so gap).report.created + so.report.filled + so.report.skipped := by
        rw [Grounds.kept, Grounds.soAfter]
        cases on.fate gap with
        | stays => simp only [List.length_singleton]; omega
        | skipped => simp only [List.length_nil]; omega
        | filled last => simp only; omega
      simp only [List.flatMap_cons, List.length_append, List.length_cons, List.foldl_cons]
      omega

include hlog htidy hkey in
theorem length_settled :
    (activeRanges (on.settled clock (activeIn rows) rows)).length +
        (on.report (activeIn rows)).filled + (on.report (activeIn rows)).skipped =
      (activeRanges rows).length + (on.report (activeIn rows)).created := by
  obtain ⟨gap, hgap, hopen, hone⟩ := htidy.exists_open_gap
  have hlen : ((activeIn rows).flatMap on.remains).length =
      ((activeIn rows).flatMap on.kept).length + ((activeIn rows).flatMap on.tailOf).length := by
    rw [← List.length_append]
    exact (List.flatMap_append_perm _ _ _).length_eq.symm
  have hcount := length_kept on {} (activeIn rows)
  have hgaps := (ranges_activeIn rows).length_eq
  rw [List.length_map] at hgaps
  rw [(settled_perm hlog htidy hkey).length_eq, hlen,
    ← htidy.stacked.tail_eq_flatMap hlog hgap hopen hone]
  simp only [Grounds.report, Grounds.soAfterAll] at hcount ⊢
  omega

/-! ## the effect -/

/-- The range was active and is marked as one to skip. -/
def Marked (before settled : List GapRow) (range : IdRange) : Prop :=
  range ∈ activeRanges before ∧ statusAt settled range = some GapStatus.skipped.code

instance (before settled : List GapRow) (range : IdRange) : Decidable (Marked before settled range) := by
  unfold Marked; infer_instance

include hlog htidy hkey in
/-- A range is marked if it is that of a gap whose fate it is. -/
theorem marked_iff {range : IdRange} :
    Marked rows (on.settled clock (activeIn rows) rows) range ↔
      ∃ gap ∈ activeIn rows, gap.range = range ∧ on.fate gap = .skipped := by
  constructor
  · rintro ⟨hr, hstatus⟩
    obtain ⟨gap, hgap, rfl⟩ := List.mem_map.1 ((ranges_activeIn rows).mem_iff.2 hr)
    refine ⟨gap, hgap, rfl, ?_⟩
    rw [statusAt_settled hlog htidy hkey hgap, Option.some.injEq] at hstatus
    exact Fate.code_eq_skipped.1 hstatus
  · rintro ⟨gap, hgap, rfl, hfate⟩
    refine ⟨range_mem_activeRanges hgap, ?_⟩
    rw [statusAt_settled hlog htidy hkey hgap, hfate]
    rfl

include hlog htidy hkey in
/-- After settling, the active ranges hold the ids they held, without those that were confirmed and those
of the marked ranges. -/
theorem held_settled (id : Int) :
    Held (activeRanges (on.settled clock (activeIn rows) rows)) id ↔
      Held (activeRanges rows) id ∧ ¬on.Confirms id ∧
        ¬∃ range, Marked rows (on.settled clock (activeIn rows) rows) range ∧ Holds range id := by
  rw [held_perm (settled_perm hlog htidy hkey), held_flatMap, ← held_perm (ranges_activeIn rows)]
  simp only [held_remains hlog, marked_iff hlog htidy hkey]
  constructor
  · rintro ⟨gap, hgap, hid, hconf, hfate⟩
    refine ⟨⟨gap.range, List.mem_map.2 ⟨gap, hgap, rfl⟩, hid⟩, hconf, ?_⟩
    rintro ⟨range, ⟨other, hother, rfl, hskip⟩, hin⟩
    -- the id lies in one gap only, and that one was not skipped
    have hranges := htidy.perm (ranges_activeIn rows).symm
    have heq := hranges.eq_of_holds (List.mem_map.2 ⟨other, hother, rfl⟩)
      (List.mem_map.2 ⟨gap, hgap, rfl⟩) hin hid
    rw [← List.inj_on_of_nodup_map hranges.nodup hother hgap heq] at hfate
    exact hfate hskip
  · rintro ⟨⟨range, hr, hid⟩, hconf, hmarked⟩
    obtain ⟨gap, hgap, rfl⟩ := List.mem_map.1 hr
    exact ⟨gap, hgap, hid, hconf, fun hskip => hmarked ⟨gap.range, ⟨gap, hgap, rfl, hskip⟩, hid⟩⟩

/-- What a reconciliation comes to.  `before` is the gap table it is given, `settled` the table in which
gaps are filled and skipped, and `after` the one it leaves once it has purged. -/
structure Effect (coverage : Coverage) (log : List ChangeRow) (before settled after : List GapRow)
    (report : GapReport) : Prop where
  held : ∀ id, Held (activeRanges after) id ↔
    Held (activeRanges before) id ∧
      ¬(∃ row ∈ log, row.id = id ∧ coverage.confirms row.channel row.id = true) ∧
      ¬∃ range, Marked before settled range ∧ Holds range id
  marked : ∀ range, Marked before settled range → range.2 ≠ openEnd ∧ ∀ row ∈ log, ¬Holds range row.id
  tidy : Tidy (activeRanges after)
  count : (activeRanges after).length + report.filled + report.skipped =
    (activeRanges before).length + report.created

/-- The gap table after purging. -/
def purged (policy : GapPolicy) (clock : Millis) (rows : List GapRow) : List GapRow :=
  if policy.retention = 0 then rows
  else rows.filter fun row => !Store.isPurgeable (policy.cutoff clock) row

theorem activeRanges_purged (policy : GapPolicy) (clock : Millis) (rows : List GapRow) :
    activeRanges (purged policy clock rows) = activeRanges rows := by
  rw [purged]
  split
  · rfl
  · exact activeRanges_purge _ _

theorem keyed_purged (policy : GapPolicy) (clock : Millis) {rows : List GapRow} (h : Keyed rows) :
    Keyed (purged policy clock rows) := by
  rw [purged]
  split
  · exact h
  · exact keyed_filter _ h

/-- Reconciliation settles and then purges. -/
theorem reconcile_on (on : Grounds) {store : Store} (hgaps : store.gaps = some rows)
    (hchanges : store.changes = some on.log) (clock : Millis) (gaps : List Gap) :
    ∃ count, (reconcile on.policy gaps on.coverage on.visibility on.now clock).on store =
      (.ok { on.report gaps with purged := count },
        store.withGaps (purged on.policy clock (on.settled clock gaps rows))) := by
  rw [reconcile, Work.bind_on, settleGaps_on hgaps hchanges, purged]
  by_cases hret : on.policy.retention = 0
  · refine ⟨(on.report gaps).purged, ?_⟩
    simp only [hret, if_true, Work.pure_on]
  · simp only [hret, if_false, Work.bind_on, Work.statement_on, Store.purgeGaps, Store.gaps_withGaps,
      Store.withGaps_withGaps, Work.pure_on]
    exact ⟨_, rfl⟩

include hlog htidy hkey in
theorem effect_settled (clock : Millis) (count : Nat) :
    Effect on.coverage on.log.rows rows (on.settled clock (activeIn rows) rows)
      (purged on.policy clock (on.settled clock (activeIn rows) rows))
      { on.report (activeIn rows) with purged := count } where
  held := by
    rw [activeRanges_purged]
    exact held_settled hlog htidy hkey
  marked := by
    intro range hr
    obtain ⟨gap, -, rfl, hfate⟩ := (marked_iff hlog htidy hkey).1 hr
    obtain ⟨hclosed, hempty, -⟩ := fate_eq_skipped.1 hfate
    exact ⟨of_decide_eq_false hclosed, hempty⟩
  tidy := by
    rw [activeRanges_purged]
    exact (tidy_remains hlog htidy).perm (settled_perm hlog htidy hkey).symm
  count := by
    rw [activeRanges_purged]
    exact length_settled hlog htidy hkey

/-- The exact effect of reconciliation.  Loading leaves a tidy table, whose gaps reconciliation is then
given; it always comes to an end. -/
theorem reconcile_effect {store loaded : Store} {rows : List GapRow} {log : Numbered ChangeRow}
    {gaps : List Gap} (policy : GapPolicy) (coverage : Coverage) (visibility : Visibility)
    (since now clock : Millis) (hgaps : store.gaps = some rows) (hchanges : store.changes = some log)
    (hkey : Keyed rows) (hword : ∀ row ∈ rows, IsWord row.start ∧ IsWord row.stop)
    (hlog : ProperLog log.rows) (hfull : ∀ range ∈ activeRanges rows, range.1 ≤ range.2)
    (hapart : (activeRanges rows).Pairwise Apart)
    (hload : (loadGaps since).on store = (.ok gaps, loaded)) :
    ∃ before settled after : List GapRow, ∃ settling report : GapReport,
      loaded = store.withGaps before ∧ gaps = activeIn before ∧ Tidy (activeRanges before) ∧
      (before = rows ∧ (∃ top ∈ activeRanges rows, top.2 = openEnd) ∨
        ∃ start, (activeRanges before).Perm ((start, openEnd) :: activeRanges rows) ∧
          (∀ row ∈ rows, row.stop ≠ openEnd → row.stop < start) ∧
          ∀ range ∈ activeRanges rows, range.2 ≠ openEnd) ∧
      (settleGaps policy gaps coverage visibility now clock).on loaded =
        (.ok settling, loaded.withGaps settled) ∧
      (reconcile policy gaps coverage visibility now clock).on loaded =
        (.ok report, loaded.withGaps after) ∧
      Effect coverage log.rows before settled after report := by
  let on : Grounds := ⟨policy, coverage, visibility, now, log⟩
  obtain ⟨before, hloaded, rfl, rfl⟩ := loadGaps_eq_ok hgaps hload
  have hends : ∀ row ∈ rows, row.start ≤ openEnd ∧ row.stop ≤ openEnd := fun row hrow =>
    ⟨(hword row hrow).1.2, (hword row hrow).2.2⟩
  have htidy := hloaded.tidy hkey hends hfull hapart
  have hkeyed := hloaded.keyed hkey
  have hchanges' : (store.withGaps before).changes = some on.log := hchanges
  have hlog' : ProperLog on.log.rows := hlog
  obtain ⟨count, hreconcile⟩ := reconcile_on on (Store.gaps_withGaps store before) hchanges' clock
    (activeIn before)
  refine ⟨before, _, _, _, _, rfl, rfl, htidy, ?_, settleGaps_on (Store.gaps_withGaps _ _) hchanges' clock _,
    hreconcile, effect_settled hlog' htidy hkeyed clock count⟩
  obtain hsame | ⟨start, hperm, habove, hclosed, -⟩ := hloaded.activeRanges_perm hkey
  · exact Or.inl hsame
  · exact Or.inr ⟨start, hperm, habove, hclosed⟩

/-- A store whose gaps are all closed: rows of two channels lie in the first of them, and none in the
second. -/
def closedStore : Store where
  snapshots := some []
  changes := some ⟨[
    ⟨3, "item", "I", none, none, none, 1, "orders", none, none, 0⟩,
    ⟨7, "item", "I", none, none, none, 1, "prices", none, none, 0⟩], 7⟩
  gaps := some [⟨1, 10, "GP", 0, 0⟩, ⟨11, 14, "OK", 0, 0⟩, ⟨20, 25, "GP", 0, 0⟩]
  batches := some ⟨[], 0⟩
  events := some []
  watermarks := some []
  nodes := some []
  redirects := some []
  foreign := []
  hasEventStatement := false

/-- The pass on one channel was taken back: its row stays in a gap, and the empty gap is skipped. -/
theorem reconcile_effect_closedStore :
    ∃ before settled after : List GapRow, ∃ report : GapReport,
      (reconcile ⟨0, 0⟩ (activeIn before)
          ((Coverage.empty.record "orders" (.through openEnd)).record "prices" .failed)
          (.known none) 5 5).on (closedStore.withGaps before) =
        (.ok report, closedStore.withGaps after) ∧
      Effect ((Coverage.empty.record "orders" (.through openEnd)).record "prices" .failed)
        [⟨3, "item", "I", none, none, none, 1, "orders", none, none, 0⟩,
          ⟨7, "item", "I", none, none, none, 1, "prices", none, none, 0⟩]
        before settled after report := by
  have hload : (loadGaps 5).on closedStore =
      (.ok [⟨1, 10, .active, 0, 0⟩, ⟨20, 25, .active, 0, 0⟩, ⟨26, openEnd, .active, 5, 5⟩],
        closedStore.withGaps [⟨1, 10, "GP", 0, 0⟩, ⟨11, 14, "OK", 0, 0⟩, ⟨20, 25, "GP", 0, 0⟩,
          ⟨26, openEnd, "GP", 5, 5⟩]) := by decide +kernel
  obtain ⟨before, settled, after, _, report, hloaded, hgaps, -, -, -, hreconcile, heffect⟩ :=
    reconcile_effect ⟨0, 0⟩ ((Coverage.empty.record "orders" (.through openEnd)).record "prices" .failed)
      (.known none) 5 5 5 rfl rfl (by unfold Keyed; decide) (by unfold IsWord; decide)
      ⟨by decide, by unfold IsWord; decide⟩ (by decide) (by decide) hload
  refine ⟨before, settled, after, report, ?_, heffect⟩
  rw [hloaded, hgaps] at hreconcile
  exact hreconcile

end ChangeRouting
