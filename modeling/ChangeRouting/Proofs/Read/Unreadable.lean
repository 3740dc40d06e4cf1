import ChangeRouting.Proofs.Read.Queries

/-!
# ChangeRouting.Proofs.Read.Unreadable

Which rows can make a reading fail.

* `ChangeRow.IsUnreadable` — the event code of the row is that of no event;
* `BadWithin` — such a row lies in the gaps; it makes every reading fail;
* `ComesTo`, `BadBetween` — asked from the first gap on, the log also gives rows outside the gaps, and each
  is read before the reader looks where it lies;
* `fault_ofRanges_iff`, `fault_alongGaps_iff` — what makes either way of asking fail;
* `reading_fails_iff` — so a bad row outside the gaps makes a reading fail, if there are more gaps than
  ranges may be asked for.
-/

namespace ChangeRouting

/-- The event code of the row is that of no event. -/
def ChangeRow.IsUnreadable (row : ChangeRow) : Prop := ∀ event : EventKind, event.code ≠ row.event

/-- A row of the channel that lies in a gap cannot be read. -/
def BadWithin (rows : List ChangeRow) (channel : String) (gaps : List Gap) : Prop :=
  ∃ row ∈ rows, row.channel = channel ∧ LiesIn gaps row.id ∧ row.IsUnreadable

/-- Asked for everything from the first gap on, the log gives the row before any that lies behind all
gaps. -/
structure ComesTo (rows : List ChangeRow) (channel : String) (gaps : List Gap) (row : ChangeRow) :
    Prop where
  logged : row ∈ rows
  mine : row.channel = channel
  notBefore : ∃ gap ∈ gaps, gap.start ≤ row.id
  notBehind : ∀ earlier ∈ rows, earlier.channel = channel → (∃ gap ∈ gaps, gap.start ≤ earlier.id) →
    earlier.id < row.id → ∃ gap ∈ gaps, earlier.id ≤ gap.stop

/-- A row of the channel that the reader comes to outside the gaps cannot be read. -/
def BadBetween (rows : List ChangeRow) (channel : String) (gaps : List Gap) : Prop :=
  ∃ row, ComesTo rows channel gaps row ∧ ¬LiesIn gaps row.id ∧ row.IsUnreadable

section faults

variable {columns : PayloadColumns} {rows : List ChangeRow} {row : ChangeRow} {gaps : List Gap}
  {marks : Marks} {channel : String}

/-! ## one row -/

theorem EventKind.ofCode_eq_ok_iff {code : String} {event : EventKind} :
    EventKind.ofCode code = .ok event ↔ event.code = code := by
  constructor
  · intro h
    unfold EventKind.ofCode at h
    split at h <;> cases h <;> rfl
  · rintro rfl
    exact EventKind.ofCode_code event

theorem ChangeRow.not_isUnreadable_of_read {change : Change} (h : row.read columns = .ok change) :
    ¬row.IsUnreadable := by
  rw [ChangeRow.read] at h
  split at h
  · cases h
  · next event hevent =>
    exact fun hbad => hbad event (EventKind.ofCode_eq_ok_iff.1 hevent)

theorem ChangeRow.isUnreadable_of_read {fault : Fault} (h : row.read columns = .error fault) :
    row.IsUnreadable := by
  intro event hevent
  rw [ChangeRow.read, EventKind.ofCode_eq_ok_iff.2 hevent] at h
  cases h

/-- The reader comes to every row of its channel in the gaps. -/
theorem ComesTo.of_liesIn (hlogged : row ∈ rows) (hchannel : row.channel = channel)
    (hlies : LiesIn gaps row.id) : ComesTo rows channel gaps row := by
  obtain ⟨gap, hgap, hstart, hstop⟩ := hlies
  refine ⟨hlogged, hchannel, ⟨gap, hgap, hstart⟩, fun earlier _ _ _ hlt => ⟨gap, hgap, ?_⟩⟩
  omega

/-- Among the rows that the reader comes to, those that cannot be read lie in the gaps or outside. -/
theorem badWithin_or_badBetween :
    (∃ row, ComesTo rows channel gaps row ∧ row.IsUnreadable) ↔
      BadWithin rows channel gaps ∨ BadBetween rows channel gaps := by
  constructor
  · rintro ⟨row, hcomes, hbad⟩
    by_cases hlies : LiesIn gaps row.id
    · exact Or.inl ⟨row, hcomes.logged, hcomes.mine, hlies, hbad⟩
    · exact Or.inr ⟨row, hcomes, hlies, hbad⟩
  · rintro (⟨row, hlogged, hmine, hlies, hbad⟩ | ⟨row, hcomes, -, hbad⟩)
    · exact ⟨row, .of_liesIn hlogged hmine hlies, hbad⟩
    · exact ⟨row, hcomes, hbad⟩

/-! ## a run of rows -/

/-- Rows that all lie in the gaps are read up to the first that cannot be read. -/
theorem fault_ofRanges_iff (marks : Marks) (columns : PayloadColumns) (rows : List ChangeRow) :
    (Reading.ofRanges marks (rows.map (·.read columns))).fault ≠ none ↔
      ∃ row ∈ rows, row.IsUnreadable := by
  induction rows with
  | nil => simp [Reading.ofRanges]
  | cons row rows ih =>
      rw [List.map_cons, List.exists_mem_cons_iff]
      cases hread : row.read columns with
      | error fault =>
          exact iff_of_true (Option.some_ne_none _) (Or.inl (ChangeRow.isUnreadable_of_read hread))
      | ok change =>
          rw [Reading.ofRanges, fault_meet, ih]
          exact (or_iff_right (ChangeRow.not_isUnreadable_of_read hread)).symm

/-- Some gap does not end before an id exactly if one is left where those that do are passed by. -/
theorem exists_le_stop_dropWhile {first id : Int} (hle : first ≤ id) (gaps : List Gap) :
    (∃ gap ∈ gaps.dropWhile (·.stop < first), id ≤ gap.stop) ↔ ∃ gap ∈ gaps, id ≤ gap.stop := by
  induction gaps with
  | nil => rfl
  | cons gap gaps ih =>
      rw [List.dropWhile_cons]
      by_cases hlt : gap.stop < first
      · rw [if_pos (decide_eq_true hlt), ih, List.exists_mem_cons_iff]
        refine (or_iff_right ?_).symm
        omega
      · rw [if_neg (by simpa using hlt)]

/-- The reader that walks along the gaps fails at a row that cannot be read unless it has met a row behind
all gaps before that. -/
theorem fault_alongGaps_iff (hrows : rows.Pairwise (·.id < ·.id)) :
    (Reading.alongGaps marks gaps (rows.map (·.read columns))).fault ≠ none ↔
      ∃ row ∈ rows, row.IsUnreadable ∧
        ∀ earlier ∈ rows, earlier.id < row.id → ∃ gap ∈ gaps, earlier.id ≤ gap.stop := by
  induction rows generalizing gaps with
  | nil => simp [Reading.alongGaps]
  | cons first rows ih =>
      obtain ⟨hfirst, hrest⟩ := List.pairwise_cons.1 hrows
      rw [List.map_cons]
      cases hread : first.read columns with
      | error fault =>
          refine iff_of_true (Option.some_ne_none _)
            ⟨first, List.mem_cons_self, ChangeRow.isUnreadable_of_read hread, fun earlier hearlier hlt => ?_⟩
          -- no row comes before the first
          rw [List.mem_cons] at hearlier
          cases hearlier with
          | inl heq =>
              rw [heq] at hlt
              omega
          | inr hmem =>
              have hbehind := hfirst earlier hmem
              omega
      | ok change =>
          have hok := ChangeRow.not_isUnreadable_of_read hread
          have hpassed := exists_le_stop_dropWhile (Int.le_refl first.id) gaps
          -- whatever cannot be read comes behind this row, which must not lie behind all gaps then
          have hsplit : (∃ row ∈ first :: rows, row.IsUnreadable ∧
                ∀ earlier ∈ first :: rows, earlier.id < row.id → ∃ gap ∈ gaps, earlier.id ≤ gap.stop) ↔
              ∃ row ∈ rows, row.IsUnreadable ∧ (∃ gap ∈ gaps, first.id ≤ gap.stop) ∧
                ∀ earlier ∈ rows, earlier.id < row.id → ∃ gap ∈ gaps, earlier.id ≤ gap.stop := by
            rw [List.exists_mem_cons_iff]
            refine (or_iff_right fun hbad => hok hbad.1).trans ?_
            refine exists_congr fun row => and_congr_right fun hrow => and_congr_right fun _ => ?_
            rw [List.forall_mem_cons]
            exact and_congr_left fun _ => forall_prop_of_true (hfirst row hrow)
          rw [hsplit, Reading.alongGaps, id_of_read hread]
          cases hleft : gaps.dropWhile (·.stop < first.id) with
          | nil =>
              rw [hleft] at hpassed
              refine iff_of_false (fun hfault => hfault rfl) ?_
              rintro ⟨row, -, -, hnotBehind, -⟩
              simpa using hpassed.2 hnotBehind
          | cons gap later =>
              rw [hleft] at hpassed
              have hgap : ∃ gap ∈ gaps, first.id ≤ gap.stop :=
                hpassed.1 ⟨gap, List.mem_cons_self, not_lt_of_dropWhile hleft⟩
              have hfault : ∀ reading : Reading,
                  (if gap.contains first.id then reading.meet marks change else reading).fault =
                    reading.fault := by
                intro reading
                split
                · exact fault_meet change
                · rfl
              simp only
              rw [hfault, ih hrest]
              refine exists_congr fun row => and_congr_right fun _ => and_congr_right fun _ => ?_
              rw [and_iff_right hgap]
              refine forall₂_congr fun earlier hearlier => ?_
              have hle := Int.le_of_lt (hfirst earlier hearlier)
              rw [← hleft, exists_le_stop_dropWhile hle gaps]

end faults

/-! ## a reading -/

section reading

variable {options : ReadOptions} {gaps : List Gap} {marks : Marks} {store : Store}
  {log : Numbered ChangeRow}

theorem exists_start_le_iff {first : Gap} {later : List Gap} {id : Int}
    (hgaps : (first :: later).Pairwise fun a b => a.start ≤ b.start) :
    (∃ gap ∈ first :: later, gap.start ≤ id) ↔ first.start ≤ id := by
  rw [List.exists_mem_cons_iff]
  refine or_iff_left_of_imp ?_
  rintro ⟨gap, hgap, hstart⟩
  exact Int.le_trans ((List.pairwise_cons.1 hgaps).1 gap hgap) hstart

/-- Asked from the first gap on, a reading fails at the rows it comes to that cannot be read. -/
theorem fault_from_first (hlog : store.changes = some log) (hrows : log.rows.Pairwise (·.id < ·.id))
    (hgaps : gaps.Pairwise fun a b => a.start ≤ b.start) (hmany : options.maxRanges < gaps.length) :
    (read options gaps marks store).fault ≠ none ↔
      ∃ row, ComesTo log.rows options.channel gaps row ∧ row.IsUnreadable := by
  cases gaps with
  | nil => exact absurd hmany (Nat.not_lt_zero _)
  | cons first later =>
      have hasked : (log.rows.filter (·.channel = options.channel)).filter (first.start ≤ ·.id) =
          log.rows.filter fun row =>
            row.channel = options.channel ∧ ∃ gap ∈ first :: later, gap.start ≤ row.id := by
        rw [List.filter_filter]
        refine List.filter_congr fun row _ => ?_
        simp only [exists_start_le_iff hgaps, Bool.decide_and, Bool.and_comm]
      simp only [read, readBy, hmany, if_true, Store.changesFrom, hlog, hasked]
      rw [fault_alongGaps_iff (hrows.filter _)]
      simp only [List.mem_filter, decide_eq_true_eq]
      constructor
      · rintro ⟨row, ⟨hlogged, hchannel, hnotBefore⟩, hbad, hnotBehind⟩
        exact ⟨row, ⟨hlogged, hchannel, hnotBefore, fun earlier hearlier hmine hstart hlt =>
          hnotBehind earlier ⟨hearlier, hmine, hstart⟩ hlt⟩, hbad⟩
      · rintro ⟨row, ⟨hlogged, hchannel, hnotBefore, hnotBehind⟩, hbad⟩
        refine ⟨row, ⟨hlogged, hchannel, hnotBefore⟩, hbad, ?_⟩
        rintro earlier ⟨hearlier, hmine, hstart⟩ hlt
        exact hnotBehind earlier hearlier hmine hstart hlt

/-- Asked range by range, a reading fails at the rows in the gaps that cannot be read, and if there are
more ranges than a statement may name. -/
theorem fault_in_ranges (hlog : store.changes = some log) (hfew : gaps.length ≤ options.maxRanges) :
    (read options gaps marks store).fault ≠ none ↔
      BadWithin log.rows options.channel gaps ∨ Store.mostRanges < gaps.length := by
  cases gaps with
  | nil => simp [read, readBy, BadWithin, LiesIn]
  | cons first later =>
      simp only [read, readBy, Nat.not_lt.2 hfew, if_false]
      cases hanswer : store.changesInRanges options.channel
          ((first :: later).map fun gap => (gap.start, gap.stop)) options.columns with
      | error fault =>
          refine iff_of_true (Option.some_ne_none _) (Or.inr ?_)
          rw [Store.changesInRanges, hlog, List.length_map] at hanswer
          split at hanswer
          · assumption
          · cases hanswer
      | ok rows =>
          have hranges : ¬Store.mostRanges < (first :: later).length := by
            intro hmany
            rw [Store.changesInRanges, List.length_map, if_pos hmany] at hanswer
            cases hanswer
          rw [changesInRanges_eq hlog hanswer, or_iff_left hranges, BadWithin]
          simp only [fault_ofRanges_iff, mem_wanted, and_assoc]

/-- A reading fails exactly if a row in the gaps cannot be read, or, where the gaps are too many to be asked
for range by range, a row outside them that the reader comes to; otherwise also if a statement cannot name
that many ranges.  So a reading that comes to its end range by range fails from the first gap on exactly if
the reader comes to a bad row outside the gaps. -/
theorem reading_fails_iff (hlog : store.changes = some log) (hrows : log.rows.Pairwise (·.id < ·.id))
    (hgaps : gaps.Pairwise fun a b => a.start ≤ b.start) :
    ((read options gaps marks store).fault ≠ none ↔
      BadWithin log.rows options.channel gaps ∨
        if options.maxRanges < gaps.length then BadBetween log.rows options.channel gaps
        else Store.mostRanges < gaps.length) ∧
    ∀ most, gaps.length ≤ most → (read { options with maxRanges := most } gaps marks store).fault = none →
      ((read options gaps marks store).fault ≠ none ↔
        options.maxRanges < gaps.length ∧ BadBetween log.rows options.channel gaps) := by
  have hfails : (read options gaps marks store).fault ≠ none ↔
      BadWithin log.rows options.channel gaps ∨
        if options.maxRanges < gaps.length then BadBetween log.rows options.channel gaps
        else Store.mostRanges < gaps.length := by
    by_cases hmany : options.maxRanges < gaps.length
    · rw [if_pos hmany, fault_from_first hlog hrows hgaps hmany, badWithin_or_badBetween]
    · rw [if_neg hmany, fault_in_ranges hlog (Nat.not_lt.1 hmany)]
  refine ⟨hfails, fun most hfew hnone => ?_⟩
  -- range by range there was neither a bad row nor a range too many
  have hranged : (read { options with maxRanges := most } gaps marks store).fault ≠ none ↔
      BadWithin log.rows options.channel gaps ∨ Store.mostRanges < gaps.length :=
    fault_in_ranges hlog hfew
  have hnot := fun hfails => hranged.2 hfails hnone
  obtain ⟨hwithin, hranges⟩ := not_or.1 hnot
  rw [hfails, or_iff_right hwithin]
  split
  · next hmany => rw [and_iff_right hmany]
  · next hmany => exact iff_of_false hranges fun h => hmany h.1

end reading

/-! ## a bad row between two gaps -/

/-- A log with a row between the gaps whose event code nobody knows. -/
def garbledLog : List ChangeRow :=
  [noted 1 "notes" none, { noted 3 "notes" none with event := "?" }, noted 5 "notes" none]

/-- A store with this log. -/
def garbledStore : Store := { Store.empty with changes := some ⟨garbledLog, 5⟩ }

/-- The gaps before and behind that row. -/
def parted : List Gap := [⟨1, 2, .active, 0, 0⟩, ⟨4, 6, .active, 0, 0⟩]

/-- Range by range the reading comes to its end; from the first gap on it comes to the bad row. -/
theorem reading_fails_iff_garbled :
    (read (askingFor 2) parted [] garbledStore).fault = none ∧
      BadBetween garbledLog "notes" parted ∧ (read (askingFor 1) parted [] garbledStore).fault ≠ none := by
  have hlog : garbledStore.changes = some ⟨garbledLog, 5⟩ := rfl
  have hrows : garbledLog.Pairwise (·.id < ·.id) := by decide
  have hgaps : parted.Pairwise fun a b => a.start ≤ b.start := by decide
  have hnone : (read (askingFor 2) parted [] garbledStore).fault = none := by decide +kernel
  have hbad : BadBetween garbledLog "notes" parted := by
    refine ⟨{ noted 3 "notes" none with event := "?" }, ⟨by decide, rfl, ?_, ?_⟩, ?_, ?_⟩
    · exact ⟨⟨1, 2, .active, 0, 0⟩, by decide, by decide⟩
    · intro earlier _ _ _ hlt
      exact ⟨⟨4, 6, .active, 0, 0⟩, by decide, Int.le_trans (Int.le_of_lt hlt) (by decide)⟩
    · unfold LiesIn
      decide
    · intro event
      cases event <;> decide
  have hcrossing : (read (askingFor 1) parted [] garbledStore).fault ≠ none ↔
      1 < parted.length ∧ BadBetween garbledLog "notes" parted :=
    (reading_fails_iff hlog hrows hgaps).2 2 (by decide) hnone
  exact ⟨hnone, hbad, hcrossing.2 ⟨by decide, hbad⟩⟩

/-- A row that no gap holds makes the reading of a channel fail, while every row in the gaps can be read. -/
theorem row_between_gaps_ends_reading :
    (read (askingFor 1) parted [] garbledStore).fault ≠ none ∧
      ¬BadWithin garbledLog "notes" parted ∧
      (read (askingFor 2) parted [] garbledStore).changes.map Change.id = [1, 5] := by
  have hreadable : ∀ row ∈ garbledLog, (parted.any (·.contains row.id) = true) → row.event = "I" := by
    decide
  refine ⟨by decide +kernel, ?_, by decide +kernel⟩
  rintro ⟨row, hrow, -, ⟨gap, hgap, hstart, hstop⟩, hbad⟩
  have hheld : parted.any (·.contains row.id) = true :=
    List.any_eq_true.2 ⟨gap, hgap, Gap.contains_iff.2 ⟨hstart, hstop⟩⟩
  exact hbad .insert (hreadable row hrow hheld).symm

end ChangeRouting
