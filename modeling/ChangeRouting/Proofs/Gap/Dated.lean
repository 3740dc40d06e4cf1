import ChangeRouting.Proofs.Gap.Reconcile

/-!
# ChangeRouting.Proofs.Gap.Dated

The times in the gap table.

* `Lasting` — a property of rows that they keep when they are touched; settling keeps it, if the ranges it
  puts in have it;
* `old_or_touched` — so a row is as it was before a settling, or of the time of the settling;
* `Dated` — a property of every range of a table and the time it came in, whatever its status;
* `dated_settled` — settling keeps the times it finds, and dates the ranges it puts in;
* `snd_of_mem_pieces` — a range that takes the place of a gap ends below a row of the log, or where the
  gap ends.
-/

namespace ChangeRouting

section rows

variable {Q : GapRow → Prop} {P : IdRange → Millis → Prop} {on : Grounds} {rows : List GapRow}
  {gaps : List Gap} {clock : Millis}

/-! ## properties of rows -/

/-- A row that is touched keeps the property. -/
def Lasting (clock : Millis) (Q : GapRow → Prop) : Prop :=
  ∀ row status, Q row → Q { row with status := status, updateTime := clock }

theorem Lasting.touch (hlasting : Lasting clock Q) {start stop : Int} {status : GapStatus}
    (h : ∀ row ∈ rows, Q row) : ∀ row ∈ rows.map (Store.touchGap start stop status clock), Q row := by
  intro row hrow
  obtain ⟨old, hold, rfl⟩ := List.mem_map.1 hrow
  rw [Store.touchGap]
  split
  · exact hlasting _ _ (h old hold)
  · exact h old hold

theorem Lasting.insert (hlasting : Lasting clock Q) {range : IdRange} (h : ∀ row ∈ rows, Q row)
    (hnew : Q (.ofGap (.new range.1 range.2 clock))) : ∀ row ∈ insertRange clock rows range, Q row := by
  rw [insertRange]
  induction rows with
  | nil =>
      rw [Store.upsertGap]
      exact List.forall_mem_singleton.2 hnew
  | cons row rows ih =>
      obtain ⟨hrow, hrows⟩ := List.forall_mem_cons.1 h
      rw [Store.upsertGap]
      split
      · exact List.forall_mem_cons.2 ⟨hlasting _ _ hrow, hrows⟩
      · exact List.forall_mem_cons.2 ⟨hrow, ih hrows⟩

theorem Lasting.insertAll (hlasting : Lasting clock Q) {ranges : List IdRange} (h : ∀ row ∈ rows, Q row)
    (hnew : ∀ range ∈ ranges, Q (.ofGap (.new range.1 range.2 clock))) :
    ∀ row ∈ ranges.foldl (insertRange clock) rows, Q row := by
  induction ranges generalizing rows with
  | nil => exact h
  | cons range ranges ih =>
      obtain ⟨hrange, hrest⟩ := List.forall_mem_cons.1 hnew
      rw [List.foldl_cons]
      exact ih (hlasting.insert h hrange) hrest

theorem Lasting.rowsAfter (hlasting : Lasting clock Q) {gap : Gap} (h : ∀ row ∈ rows, Q row)
    (hpieces : ∀ range ∈ on.pieces gap, Q (.ofGap (.new range.1 range.2 clock))) :
    ∀ row ∈ on.rowsAfter clock rows gap, Q row := by
  rw [Grounds.rowsAfter]
  cases on.fate gap with
  | stays => exact h
  | skipped => exact hlasting.touch h
  | filled last => exact hlasting.insertAll (hlasting.touch h) hpieces

theorem Lasting.settleAll (hlasting : Lasting clock Q) (h : ∀ row ∈ rows, Q row)
    (hpieces : ∀ gap ∈ gaps, ∀ range ∈ on.pieces gap, Q (.ofGap (.new range.1 range.2 clock))) :
    ∀ row ∈ gaps.foldl (on.rowsAfter clock) rows, Q row := by
  induction gaps generalizing rows with
  | nil => exact h
  | cons gap gaps ih =>
      obtain ⟨hgap, hrest⟩ := List.forall_mem_cons.1 hpieces
      rw [List.foldl_cons]
      exact ih (hlasting.rowsAfter h hgap) hrest

/-- Settling keeps a lasting property of the rows it finds, if the ranges it puts in have it. -/
theorem Lasting.settled (hlasting : Lasting clock Q) (h : ∀ row ∈ rows, Q row)
    (hpieces : ∀ gap ∈ gaps, ∀ range ∈ on.pieces gap, Q (.ofGap (.new range.1 range.2 clock)))
    (hopen : ∀ start, Q (.ofGap (.new start openEnd clock))) :
    ∀ row ∈ on.settled clock gaps rows, Q row := by
  rw [Grounds.settled]
  refine hlasting.insertAll (hlasting.settleAll h hpieces) fun range hrange => ?_
  rw [Settling.tail] at hrange
  split at hrange
  · rw [List.mem_singleton.1 hrange]
    exact hopen _
  · exact (List.not_mem_nil hrange).elim

/-- Loading puts in an open range at most. -/
theorem Lasting.loaded (hlasting : Lasting clock Q) {before : List GapRow} (hloaded : Loaded clock rows before)
    (h : ∀ row ∈ rows, Q row) (hopen : ∀ start, Q (.ofGap (.new start openEnd clock))) :
    ∀ row ∈ before, Q row := by
  cases hloaded with
  | unchanged => exact h
  | opened start =>
      have hinsert : ∀ row ∈ insertRange clock rows (start, openEnd), Q row :=
        hlasting.insert h (hopen start)
      exact hinsert

/-- A row was there before gaps were loaded and settled, or is of the time when that was done. -/
theorem old_or_touched {before : List GapRow} (hloaded : Loaded clock rows before) :
    ∀ row ∈ on.settled clock gaps before, row ∈ rows ∨ row.updateTime = clock := by
  have hlasting : Lasting clock fun row => row ∈ rows ∨ row.updateTime = clock :=
    fun _ _ _ => Or.inr rfl
  have hbefore := hlasting.loaded hloaded (fun _ hrow => Or.inl hrow) fun _ => Or.inr rfl
  exact hlasting.settled hbefore (fun _ _ _ _ => Or.inr rfl) fun _ => Or.inr rfl

/-! ## the times of ranges -/

/-- Every range of the table and the time it came in have a property. -/
def Dated (P : IdRange → Millis → Prop) (rows : List GapRow) : Prop :=
  ∀ row ∈ rows, P row.range row.createTime

theorem Dated.nil : Dated P [] := fun _ h => (List.not_mem_nil h).elim

theorem Dated.imp {Q : IdRange → Millis → Prop} (h : Dated P rows)
    (himp : ∀ range time, P range time → Q range time) : Dated Q rows :=
  fun row hrow => himp _ _ (h row hrow)

/-- Touching a row does not date it anew. -/
theorem lasting_dated : Lasting clock fun row => P row.range row.createTime := fun _ _ h => h

/-- Settling keeps a property of the ranges it finds, if the ranges it puts in have it at that time. -/
theorem dated_settled (h : Dated P rows) (hpieces : ∀ gap ∈ gaps, ∀ range ∈ on.pieces gap, P range clock)
    (hopen : ∀ range, range.2 = openEnd → P range clock) : Dated P (on.settled clock gaps rows) :=
  lasting_dated.settled h hpieces fun _ => hopen _ rfl

/-- What is forgotten leaves the others as they are. -/
theorem Dated.purged (h : Dated P rows) (policy : GapPolicy) :
    Dated P (ChangeRouting.purged policy clock rows) := by
  rw [ChangeRouting.purged]
  split
  · exact h
  · exact fun row hrow => h row (List.mem_of_mem_filter hrow)

/-- Loading keeps a property of the ranges it finds, if open ranges have it. -/
theorem Loaded.dated {before : List GapRow} (h : Loaded clock rows before) (hdated : Dated P rows)
    (hopen : ∀ range time, range.2 = openEnd → P range time) : Dated P before :=
  lasting_dated.loaded h hdated fun _ => hopen _ _ rfl

/-- A range that takes the place of a gap ends below a row of the log, or where the gap ends. -/
theorem snd_of_mem_pieces (hlog : ProperLog on.log.rows) {gap : Gap} {range : IdRange}
    (h : range ∈ on.pieces gap) :
    (∃ row ∈ on.log.rows, range.2 < row.id) ∨ range.2 = gap.stop ∧ gap.isOpen = false := by
  rw [Grounds.pieces] at h
  cases hfate : on.fate gap with
  | stays => rw [hfate] at h; exact (List.not_mem_nil h).elim
  | skipped => rw [hfate] at h; exact (List.not_mem_nil h).elim
  | filled last =>
      simp only [hfate] at h
      have hconf := confirmed_confirmedIn hlog.ascending gap
      rw [remainders_eq (fate_eq_filled.1 hfate), List.mem_append] at h
      cases h with
      | inl hhole =>
          obtain ⟨-, -, id, hid, hlt⟩ := mem_holes hconf.ascending hconf.start_le hhole
          obtain ⟨-, row, hrow, rfl, -⟩ := mem_confirmedIn.1 hid
          exact Or.inl ⟨row, hrow, hlt⟩
      | inr hrest =>
          split at hrest
          · exact (List.not_mem_nil hrest).elim
          · next hclosed =>
            rw [List.mem_singleton.1 hrest]
            rw [not_or, Bool.not_eq_true] at hclosed
            exact Or.inr ⟨rfl, hclosed.1⟩

end rows

end ChangeRouting
