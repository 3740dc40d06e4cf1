import ChangeRouting.Proofs.Gap.Ranges
import Mathlib.Data.List.Sort

/-!
# ChangeRouting.Proofs.Gap.Table

The gap table as ranges of ids with a status.

Everything reconciliation does to the table is touching a row, inserting a range and purging, so each
of them is described twice here: by the ranges that are active afterwards, and by the status a range has
afterwards.  Rows that are not active may share their ids with active ones; only the key of the table,
the range, keeps them apart.
-/

namespace ChangeRouting

namespace GapRow

/-- Whether the ids of the row are still to be examined. -/
def isActive (row : GapRow) : Bool := row.status = GapStatus.active.code

/-- The range of the row. -/
def range (row : GapRow) : IdRange := (row.start, row.stop)

/-- The gap an active row stands for. -/
def toActive (row : GapRow) : Gap where
  start := row.start
  stop := row.stop
  status := .active
  createTime := Millis.ofStored row.createTime
  updateTime := Millis.ofStored row.updateTime

theorem isRange_iff {row : GapRow} {start stop : Int} :
    row.isRange start stop = true ↔ row.range = (start, stop) := by
  simp [isRange, range]

theorem read_of_isActive {row : GapRow} (h : row.isActive = true) : row.read = .ok row.toActive := by
  have hs : row.status = GapStatus.active.code := by simpa [isActive] using h
  simp only [read, hs, GapStatus.ofCode_code]
  rfl

end GapRow

namespace Store

@[simp] theorem gaps_withGaps (store : Store) (rows : List GapRow) :
    (store.withGaps rows).gaps = some rows := rfl

@[simp] theorem changes_withGaps (store : Store) (rows : List GapRow) :
    (store.withGaps rows).changes = store.changes := rfl

@[simp] theorem withGaps_withGaps (store : Store) (rows others : List GapRow) :
    (store.withGaps rows).withGaps others = store.withGaps others := rfl

theorem withGaps_self {store : Store} {rows : List GapRow} (h : store.gaps = some rows) :
    store.withGaps rows = store := by
  rw [withGaps, ← h]

end Store

/-- The active ranges of a gap table. -/
def activeRanges (rows : List GapRow) : List IdRange := (rows.filter GapRow.isActive).map GapRow.range

/-- No two rows have one range. -/
def Keyed (rows : List GapRow) : Prop := (rows.map GapRow.range).Nodup

/-- The status code a range has. -/
def statusAt (rows : List GapRow) (range : IdRange) : Option String :=
  (rows.find? (·.range = range)).map GapRow.status

theorem mem_activeRanges {rows : List GapRow} {range : IdRange} :
    range ∈ activeRanges rows ↔ ∃ row ∈ rows, row.isActive = true ∧ row.range = range := by
  simp [activeRanges, and_assoc]

theorem activeRanges_cons (row : GapRow) (rows : List GapRow) :
    activeRanges (row :: rows) =
      (if row.isActive then [row.range] else []) ++ activeRanges rows := by
  by_cases h : row.isActive = true <;> simp [activeRanges, h]

theorem nodup_activeRanges {rows : List GapRow} (h : Keyed rows) : (activeRanges rows).Nodup :=
  (List.filter_sublist.map _).nodup h

/-- An active range is read back as active. -/
theorem statusAt_of_mem_activeRanges {rows : List GapRow} (h : Keyed rows) {range : IdRange}
    (hr : range ∈ activeRanges rows) : statusAt rows range = some GapStatus.active.code := by
  induction rows with
  | nil => exact (List.not_mem_nil hr).elim
  | cons row rows ih =>
      rw [Keyed, List.map_cons, List.nodup_cons] at h
      rw [activeRanges_cons, List.mem_append] at hr
      by_cases hrow : row.range = range
      · have hactive : row.isActive = true := by
          cases hr with
          | inl hr =>
              by_contra hinactive
              rw [if_neg hinactive] at hr
              exact List.not_mem_nil hr
          | inr hr =>
              obtain ⟨other, hother, -, heq⟩ := mem_activeRanges.1 hr
              exact absurd (List.mem_map.2 ⟨other, hother, heq.trans hrow.symm⟩) h.1
        have hs : row.status = GapStatus.active.code := by simpa [GapRow.isActive] using hactive
        simp [statusAt, hrow, hs]
      · have htail : range ∈ activeRanges rows := by
          cases hr with
          | inl hr =>
              split at hr
              · exact absurd (List.mem_singleton.1 hr).symm hrow
              · exact (List.not_mem_nil hr).elim
          | inr hr => exact hr
        have hs := ih h.2 htail
        rw [statusAt] at hs ⊢
        rw [List.find?_cons_of_neg (by simpa using hrow), hs]

/-! ## touching a range -/

section touch

variable {start stop : Int} {status : GapStatus} {now : Millis}

theorem range_touchGap (row : GapRow) : (Store.touchGap start stop status now row).range = row.range := by
  rw [Store.touchGap]
  split <;> rfl

theorem keyed_touch {rows : List GapRow} (h : Keyed rows) :
    Keyed (rows.map (Store.touchGap start stop status now)) := by
  rw [Keyed, List.map_map]
  have hcomp : GapRow.range ∘ Store.touchGap start stop status now = GapRow.range :=
    funext fun row => range_touchGap row
  rw [hcomp]
  exact h

/-- Retiring a range takes it out of the active ones and leaves the others. -/
theorem activeRanges_touch (rows : List GapRow) (hs : status ≠ .active) :
    activeRanges (rows.map (Store.touchGap start stop status now)) =
      (activeRanges rows).filter (· ≠ (start, stop)) := by
  have hcode : status.code ≠ GapStatus.active.code := by
    cases status <;> first | exact absurd rfl hs | decide
  induction rows with
  | nil => rfl
  | cons row rows ih =>
      rw [List.map_cons, activeRanges_cons, activeRanges_cons, ih, range_touchGap]
      by_cases hr : row.isRange start stop = true
      · have hrange := GapRow.isRange_iff.1 hr
        have hstatus : (Store.touchGap start stop status now row).isActive = false := by
          simp [Store.touchGap, hr, GapRow.isActive, hcode]
        rw [hstatus, if_neg Bool.false_ne_true, List.nil_append, List.filter_append]
        split <;> simp [hrange]
      · have hrange : row.range ≠ (start, stop) := fun h => hr (GapRow.isRange_iff.2 h)
        have hsame : Store.touchGap start stop status now row = row := by simp [Store.touchGap, hr]
        rw [hsame]
        split <;> simp [hrange]

theorem statusAt_touch (rows : List GapRow) (range : IdRange) :
    statusAt (rows.map (Store.touchGap start stop status now)) range =
      if range = (start, stop) then (statusAt rows range).map fun _ => status.code
      else statusAt rows range := by
  induction rows with
  | nil => simp [statusAt]
  | cons row rows ih =>
      simp only [statusAt, List.map_cons, List.find?_cons, range_touchGap] at ih ⊢
      by_cases hr : row.range = range
      · have htouch : (Store.touchGap start stop status now row).status =
            if range = (start, stop) then status.code else row.status := by
          rw [Store.touchGap]
          by_cases hrow : row.isRange start stop = true
          · rw [if_pos hrow, if_pos (hr ▸ GapRow.isRange_iff.1 hrow)]
          · have hne : range ≠ (start, stop) := fun h => hrow (GapRow.isRange_iff.2 (hr.trans h))
            rw [if_neg hrow, if_neg hne]
        simp only [hr, decide_true, Option.map_some, htouch]
        split <;> rfl
      · simp only [hr, decide_false]
        exact ih

theorem mem_activeRanges_touch (rows : List GapRow) (hs : status ≠ .active) (range : IdRange) :
    range ∈ activeRanges (rows.map (Store.touchGap start stop status now)) ↔
      range ∈ activeRanges rows ∧ range ≠ (start, stop) := by
  rw [activeRanges_touch rows hs, List.mem_filter, decide_eq_true_eq]

end touch

/-! ## inserting a range -/

section upsert

variable {gap : Gap}

theorem ranges_upsertGap (rows : List GapRow) :
    (Store.upsertGap gap rows).map GapRow.range =
      if gap.range ∈ rows.map GapRow.range then rows.map GapRow.range
      else rows.map GapRow.range ++ [gap.range] := by
  induction rows with
  | nil => rfl
  | cons row rows ih =>
      rw [Store.upsertGap]
      by_cases hr : row.isRange gap.start gap.stop = true
      · have hrange : row.range = gap.range := GapRow.isRange_iff.1 hr
        rw [if_pos hr, List.map_cons, List.map_cons, ← hrange, if_pos List.mem_cons_self]
        rfl
      · have hrange : gap.range ≠ row.range := fun h => hr (GapRow.isRange_iff.2 h.symm)
        rw [if_neg hr, List.map_cons, ih, List.map_cons]
        simp only [List.mem_cons, hrange, false_or]
        split <;> rfl

theorem keyed_upsert {rows : List GapRow} (h : Keyed rows) : Keyed (Store.upsertGap gap rows) := by
  rw [Keyed, ranges_upsertGap]
  split
  · exact h
  · next hnew =>
      rw [List.nodup_append]
      refine ⟨h, List.nodup_singleton _, fun a ha b hb => ?_⟩
      rw [List.mem_singleton] at hb
      rintro rfl
      exact hnew (hb ▸ ha)

/-- Inserting an active range makes it active, whether or not the table had it. -/
theorem mem_activeRanges_upsert {rows : List GapRow} (hs : gap.status = .active) (range : IdRange) :
    range ∈ activeRanges (Store.upsertGap gap rows) ↔ range = gap.range ∨ range ∈ activeRanges rows := by
  induction rows with
  | nil =>
      have hactive : (GapRow.ofGap gap).isActive = true := by
        simp [GapRow.isActive, GapRow.ofGap, hs]
      rw [Store.upsertGap, activeRanges_cons, if_pos hactive, List.mem_append, List.mem_singleton]
      rfl
  | cons row rows ih =>
      rw [Store.upsertGap]
      by_cases hr : row.isRange gap.start gap.stop = true
      · have hrange : row.range = gap.range := GapRow.isRange_iff.1 hr
        have hactive : ({ row with status := gap.status.code, updateTime := gap.updateTime } :
            GapRow).isActive = true := by simp [GapRow.isActive, hs]
        rw [if_pos hr, activeRanges_cons, activeRanges_cons, if_pos hactive, ← hrange,
          List.mem_append, List.mem_append, List.mem_singleton]
        split
        · simp only [List.mem_singleton, GapRow.range]
          rw [← or_assoc, or_self]
        · simp only [List.not_mem_nil, false_or, GapRow.range]
      · rw [if_neg hr, activeRanges_cons, activeRanges_cons, List.mem_append, List.mem_append, ih]
        exact or_left_comm

theorem statusAt_upsert (rows : List GapRow) (range : IdRange) :
    statusAt (Store.upsertGap gap rows) range =
      if range = gap.range then some gap.status.code else statusAt rows range := by
  induction rows with
  | nil =>
      by_cases h : range = gap.range
      · subst h
        simp [Store.upsertGap, statusAt, GapRow.ofGap, GapRow.range, Gap.range]
      · have hne : (GapRow.ofGap gap).range ≠ range := fun heq => h heq.symm
        simp [Store.upsertGap, statusAt, h, hne]
  | cons row rows ih =>
      rw [Store.upsertGap]
      by_cases hr : row.isRange gap.start gap.stop = true
      · have hrange : row.range = gap.range := GapRow.isRange_iff.1 hr
        rw [if_pos hr]
        by_cases h : range = gap.range
        · subst h
          have hnew : ({ row with status := gap.status.code, updateTime := gap.updateTime } :
              GapRow).range = gap.range := hrange
          simp [statusAt, hnew]
        · have hne : row.range ≠ range := fun heq => h (heq ▸ hrange)
          have hnew : ({ row with status := gap.status.code, updateTime := gap.updateTime } :
              GapRow).range ≠ range := hne
          simp [statusAt, h, hne, hnew]
      · rw [if_neg hr]
        simp only [statusAt, List.find?_cons] at ih ⊢
        by_cases h : row.range = range
        · have hne : range ≠ gap.range := fun heq => hr (GapRow.isRange_iff.2 (h.trans heq))
          simp [h, hne]
        · simp only [h, decide_false]
          exact ih

end upsert

theorem insertGap_on {store : Store} {rows : List GapRow} (h : store.gaps = some rows) (gap : Gap) :
    (Work.update (Store.insertGap gap)).on store =
      (.ok (), store.withGaps (Store.upsertGap gap rows)) := by
  simp only [Work.update, Work.statement_on, Store.insertGap, h]
  rfl


/-! ## purging -/

/-- Active rows are never purged. -/
theorem isPurgeable_of_isActive {cutoff : Int} {row : GapRow} (h : row.isActive = true) :
    Store.isPurgeable cutoff row = false := by
  have hs : row.status = GapStatus.active.code := by simpa [GapRow.isActive] using h
  simp [Store.isPurgeable, hs, GapStatus.code]

theorem activeRanges_purge (cutoff : Int) (rows : List GapRow) :
    activeRanges (rows.filter fun row => !Store.isPurgeable cutoff row) = activeRanges rows := by
  rw [activeRanges, List.filter_filter, activeRanges]
  congr 1
  refine List.filter_congr fun row _ => ?_
  cases h : row.isActive with
  | false => rfl
  | true => simp [isPurgeable_of_isActive h]

theorem keyed_filter {rows : List GapRow} (p : GapRow → Bool) (h : Keyed rows) :
    Keyed (rows.filter p) := (List.filter_sublist.map _).nodup h

/-! ## reading the active gaps -/

theorem sorted_eq (le : GapRow → GapRow → Bool) (rows : List GapRow) :
    GapRow.sorted le rows = rows.insertionSort (le · ·) := by
  have hplace : ∀ row rows, GapRow.place le row rows = rows.orderedInsert (le · ·) row := by
    intro row rows
    induction rows with
    | nil => rfl
    | cons other rows ih =>
        rw [GapRow.place, ih]
        rfl
  rw [GapRow.sorted, List.insertionSort]
  exact congrArg (rows.foldr · []) (funext fun row => funext fun rows => hplace row rows)

theorem sorted_perm (le : GapRow → GapRow → Bool) (rows : List GapRow) :
    (GapRow.sorted le rows).Perm rows := by
  rw [sorted_eq]
  exact List.perm_insertionSort _ _

/-- The active gaps of a table by start. -/
def activeIn (rows : List GapRow) : List Gap :=
  (GapRow.sorted (fun a b => a.start ≤ b.start) (rows.filter GapRow.isActive)).map GapRow.toActive

/-- Rows that can all be read are read one by one. -/
theorem mapM_eq_ok {f : α → Except Fault β} {g : α → β} {xs : List α}
    (h : ∀ x ∈ xs, f x = .ok (g x)) : xs.mapM f = .ok (xs.map g) := by
  induction xs with
  | nil => rfl
  | cons x xs ih =>
      rw [List.mapM_cons, h x List.mem_cons_self, ih fun y hy => h y (List.mem_cons_of_mem _ hy)]
      rfl

theorem activeGaps_eq {store : Store} {rows : List GapRow} (h : store.gaps = some rows) :
    store.activeGaps = .ok (activeIn rows) := by
  simp only [Store.activeGaps, h, activeIn]
  have hactive : ∀ row ∈ GapRow.sorted (fun a b => a.start ≤ b.start) (rows.filter GapRow.isActive),
      row.read = .ok row.toActive := by
    intro row hrow
    rw [(sorted_perm _ _).mem_iff, List.mem_filter] at hrow
    exact GapRow.read_of_isActive hrow.2
  exact mapM_eq_ok hactive

/-- The active gaps have the active ranges. -/
theorem ranges_activeIn (rows : List GapRow) :
    ((activeIn rows).map Gap.range).Perm (activeRanges rows) := by
  rw [activeIn, List.map_map]
  exact (sorted_perm _ _).map _

theorem pairwise_activeIn (rows : List GapRow) :
    (activeIn rows).Pairwise fun a b => a.start ≤ b.start := by
  let byStart (a b : GapRow) : Prop := decide (a.start ≤ b.start) = true
  have htotal : Std.Total byStart := ⟨fun a b => by simp only [byStart, decide_eq_true_eq]; omega⟩
  have htrans : IsTrans GapRow byStart :=
    ⟨fun a b c hab hbc => by simp only [byStart, decide_eq_true_eq] at *; omega⟩
  have h := List.pairwise_insertionSort byStart (rows.filter GapRow.isActive)
  rw [activeIn, List.pairwise_map, sorted_eq]
  exact h.imp fun hab => of_decide_eq_true hab

theorem mem_activeIn {rows : List GapRow} {gap : Gap} :
    gap ∈ activeIn rows ↔ ∃ row ∈ rows, row.isActive = true ∧ row.toActive = gap := by
  simp [activeIn, (sorted_perm _ _).mem_iff, and_assoc]

end ChangeRouting
