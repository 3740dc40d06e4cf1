import ChangeRouting.Gap.Reconcile
import ChangeRouting.Proofs.Gap.Table
import ChangeRouting.Proofs.Store.ChangeLog
import ChangeRouting.Proofs.Work
import Mathlib.Data.List.Pairwise

/-!
# ChangeRouting.Proofs.Gap.Load

Tidy gap tables, and how loading makes them.

* `Tidy` — the active ranges hold ids, share none, and exactly one is open, above all others;
* `loadGaps_eq_ok` — loading leaves a table with an open gap alone, and puts an open gap above every
  closed one into any other;
* `Loaded.tidy` — after loading, active ranges that share no id are tidy.
-/

namespace ChangeRouting

instance : Std.Symm Apart := ⟨fun _ _ => Apart.symm⟩

/-- Ranges as reconciliation keeps them. -/
structure Tidy (ranges : List IdRange) : Prop where
  full : ∀ range ∈ ranges, range.1 ≤ range.2
  apart : ranges.Pairwise Apart
  oneOpen : ranges.countP (·.2 = openEnd) = 1
  openAbove : ∀ top ∈ ranges, top.2 = openEnd → ∀ range ∈ ranges, range = top ∨ Below range top

/-- At most one of the ranges is open. -/
def SingleOpen (ranges : List IdRange) : Prop :=
  ∀ a ∈ ranges, ∀ b ∈ ranges, a.2 = openEnd → b.2 = openEnd → a = b

instance (ranges : List IdRange) : Decidable (SingleOpen ranges) := by
  unfold SingleOpen; infer_instance

namespace Tidy

variable {xs ys : List IdRange}

/-- The order in which ranges are listed does not matter. -/
theorem perm (h : Tidy xs) (hp : xs.Perm ys) : Tidy ys where
  full := fun range hr => h.full range (hp.mem_iff.2 hr)
  apart := (hp.pairwise_iff Apart.symm).1 h.apart
  oneOpen := (hp.countP_eq _).symm.trans h.oneOpen
  openAbove := fun top htop hopen range hr =>
    h.openAbove top (hp.mem_iff.2 htop) hopen range (hp.mem_iff.2 hr)

theorem nodup (h : Tidy xs) : xs.Nodup :=
  h.apart.imp_of_mem fun ha _ hab => hab.ne (h.full _ ha)

/-- Two ranges that share an id are one. -/
theorem eq_of_holds (h : Tidy xs) {a b : IdRange} {id : Int} (ha : a ∈ xs) (hb : b ∈ xs)
    (hida : Holds a id) (hidb : Holds b id) : a = b := by
  by_contra hne
  have hapart := h.apart.forall ha hb hne
  simp only [Apart, Below, Holds] at hapart hida hidb
  omega

theorem exists_open (h : Tidy xs) : ∃ top ∈ xs, top.2 = openEnd := by
  have hpos : 0 < xs.countP (·.2 = openEnd) := by rw [h.oneOpen]; decide
  obtain ⟨top, htop, hopen⟩ := List.countP_pos_iff.1 hpos
  exact ⟨top, htop, of_decide_eq_true hopen⟩

theorem singleOpen (h : Tidy xs) : SingleOpen xs := by
  intro a ha b hb hopena hopenb
  refine h.eq_of_holds ha hb ⟨h.full a ha, Int.le_refl _⟩ ?_
  have hfull := h.full b hb
  simp only [Holds]
  omega

theorem le_openEnd (h : Tidy xs) {range : IdRange} (hr : range ∈ xs) : range.2 ≤ openEnd := by
  obtain ⟨top, htop, hopen⟩ := h.exists_open
  obtain heq | hlt := h.openAbove top htop hopen range hr
  · exact heq ▸ Int.le_of_eq hopen
  · have hfull := h.full top htop
    simp only [Below] at hlt
    omega

/-- Ranges that share no id are tidy once one of them is open. -/
theorem of_apart (hfull : ∀ range ∈ xs, range.1 ≤ range.2) (hapart : xs.Pairwise Apart)
    (hword : ∀ range ∈ xs, range.2 ≤ openEnd) (hopen : ∃ top ∈ xs, top.2 = openEnd) : Tidy xs := by
  have hbelow : ∀ top ∈ xs, top.2 = openEnd → ∀ range ∈ xs, Apart range top → Below range top := by
    intro top _ hend range hr hne
    have hle := hword range hr
    have hne' := hfull range hr
    simp only [Apart, Below] at *
    omega
  refine ⟨hfull, hapart, ?_, ?_⟩
  · obtain ⟨top, htop, hend⟩ := hopen
    obtain ⟨pre, post, rfl⟩ := List.append_of_mem htop
    have hclosed : ∀ range ∈ pre ++ top :: post, Apart range top → range.2 ≠ openEnd := by
      intro range hr hne hrange
      have hlt := hbelow top htop hend range hr hne
      have hle := hfull top htop
      simp only [Below] at hlt
      omega
    obtain ⟨-, hpost, hpre⟩ := List.pairwise_append.1 hapart
    have hpre0 : pre.countP (·.2 = openEnd) = 0 := by
      refine List.countP_eq_zero.2 fun range hr => ?_
      have hne := hpre range hr top List.mem_cons_self
      simpa using hclosed range (List.mem_append_left _ hr) hne
    have hpost0 : post.countP (·.2 = openEnd) = 0 := by
      refine List.countP_eq_zero.2 fun range hr => ?_
      have hne := ((List.pairwise_cons.1 hpost).1 range hr).symm
      simpa using hclosed range (List.mem_append_right _ (List.mem_cons_of_mem _ hr)) hne
    rw [List.countP_append, List.countP_cons, hpre0, hpost0]
    simp [hend]
  · intro top htop hend range hr
    by_cases heq : range = top
    · exact Or.inl heq
    · exact Or.inr (hbelow top htop hend range hr (hapart.forall hr htop heq))

end Tidy

/-! ## the start of a new open gap -/

section start

variable {gaps : List Gap} {gap : Gap}

/-- A new open gap starts above every closed one. -/
theorem lt_openStart (h : gap ∈ gaps) (hclosed : gap.stop ≠ openEnd) : gap.stop < openStart gaps := by
  have hmem : gap.stop + 1 ∈ gaps.map fun gap => if gap.isOpen then gap.start else gap.stop + 1 := by
    refine List.mem_map.2 ⟨gap, h, ?_⟩
    simp [Gap.isOpen, hclosed]
  unfold openStart
  cases hmax : (gaps.map fun gap => if gap.isOpen then gap.start else gap.stop + 1).max? with
  | none =>
      rw [List.max?_eq_none_iff] at hmax
      rw [hmax] at hmem
      exact (List.not_mem_nil hmem).elim
  | some start =>
      have hle := (List.max?_eq_some_iff.1 hmax).2 _ hmem
      simp only
      omega

theorem openStart_le (h : ∀ gap ∈ gaps, gap.start ≤ openEnd ∧ gap.stop ≤ openEnd) :
    openStart gaps ≤ openEnd := by
  unfold openStart
  cases hmax : (gaps.map fun gap => if gap.isOpen then gap.start else gap.stop + 1).max? with
  | none => decide
  | some start =>
      obtain ⟨gap, hgap, rfl⟩ := List.mem_map.1 (List.max?_eq_some_iff.1 hmax).1
      obtain ⟨hstart, hstop⟩ := h gap hgap
      by_cases hopen : gap.isOpen = true
      · simp only [hopen, if_true]
        exact hstart
      · have hne : gap.stop ≠ openEnd := by simpa [Gap.isOpen] using hopen
        simp only [hopen, Bool.false_eq_true, if_false]
        show gap.stop + 1 ≤ openEnd
        omega

end start

/-! ## loading -/

theorem GapRow.read_eq_ok {row : GapRow} {gap : Gap} (h : row.read = .ok gap) :
    gap.start = row.start ∧ gap.stop = row.stop := by
  rw [GapRow.read] at h
  split at h
  · contradiction
  · cases h
    exact ⟨rfl, rfl⟩

variable {store loaded : Store} {rows : List GapRow} {gaps : List Gap} {clock : Millis}

/-- What loading makes of a gap table. -/
inductive Loaded (clock : Millis) (rows : List GapRow) : List GapRow → Prop
  /-- The table had an open gap already. -/
  | unchanged (h : ∃ top ∈ activeRanges rows, top.2 = openEnd) : Loaded clock rows rows
  /-- An open gap was put above every closed one. -/
  | opened (start : Int) (h : ∀ range ∈ activeRanges rows, range.2 ≠ openEnd)
    (habove : ∀ row ∈ rows, row.stop ≠ openEnd → row.stop < start)
    (hword : (∀ row ∈ rows, row.start ≤ openEnd ∧ row.stop ≤ openEnd) → start ≤ openEnd)
    (hfirst : rows = [] → start = 1) :
    Loaded clock rows (Store.upsertGap (.openFrom start clock) rows)

theorem any_isOpen_activeIn :
    (activeIn rows).any Gap.isOpen = true ↔ ∃ top ∈ activeRanges rows, top.2 = openEnd := by
  simp only [List.any_eq_true, mem_activeIn, mem_activeRanges]
  constructor
  · rintro ⟨gap, ⟨row, hrow, hactive, rfl⟩, hopen⟩
    exact ⟨row.range, ⟨row, hrow, hactive, rfl⟩, of_decide_eq_true hopen⟩
  · rintro ⟨range, ⟨row, hrow, hactive, rfl⟩, hopen⟩
    exact ⟨row.toActive, ⟨row, hrow, hactive, rfl⟩, decide_eq_true hopen⟩

/-- Loading gives the active gaps of the table it leaves. -/
theorem loadGaps_eq_ok (hgaps : store.gaps = some rows)
    (h : (loadGaps clock).on store = (.ok gaps, loaded)) :
    ∃ before, Loaded clock rows before ∧ loaded = store.withGaps before ∧ gaps = activeIn before := by
  rw [loadGaps, Work.bind_on, Work.query_on, activeGaps_eq hgaps] at h
  simp only at h
  by_cases hopen : (activeIn rows).any Gap.isOpen = true
  · rw [if_pos hopen] at h
    cases h
    exact ⟨rows, .unchanged (any_isOpen_activeIn.1 hopen), (Store.withGaps_self hgaps).symm, rfl⟩
  · rw [if_neg hopen, Work.bind_on, Work.query_on] at h
    have hclosed : ∀ range ∈ activeRanges rows, range.2 ≠ openEnd := fun range hr hend =>
      hopen (any_isOpen_activeIn.2 ⟨range, hr, hend⟩)
    cases hall : store.allGaps with
    | error fault =>
        rw [hall] at h
        simp only [Prod.mk.injEq, reduceCtorEq, false_and] at h
    | ok all =>
        rw [hall] at h
        simp only [Work.bind_on, insertGap_on hgaps, Work.query_on,
          activeGaps_eq (Store.gaps_withGaps _ _)] at h
        cases h
        simp only [Store.allGaps, hgaps] at hall
        obtain ⟨hto, hfrom⟩ := mapM_ok_mem hall
        refine ⟨_, .opened (openStart all) hclosed ?_ ?_ ?_, rfl, rfl⟩
        · intro row hrow hstop
          obtain ⟨gap, hgap, hread⟩ := hto row ((sorted_perm _ _).mem_iff.2 hrow)
          have hrange := GapRow.read_eq_ok hread
          rw [← hrange.2] at hstop ⊢
          exact lt_openStart hgap hstop
        · intro hword
          refine openStart_le fun gap hgap => ?_
          obtain ⟨row, hrow, hread⟩ := hfrom gap hgap
          have hrange := GapRow.read_eq_ok hread
          rw [hrange.1, hrange.2]
          exact hword row ((sorted_perm _ _).mem_iff.1 hrow)
        · intro hnil
          subst hnil
          cases all with
          | nil => rfl
          | cons gap all =>
              obtain ⟨row, hrow, -⟩ := hfrom gap List.mem_cons_self
              exact (List.not_mem_nil ((sorted_perm _ _).mem_iff.1 hrow)).elim

namespace Loaded

variable {before : List GapRow}

theorem keyed (h : Loaded clock rows before) (hkey : Keyed rows) : Keyed before := by
  cases h with
  | unchanged => exact hkey
  | opened start => exact keyed_upsert hkey

/-- Loading adds an open range above every closed one if there was none. -/
theorem activeRanges_perm (h : Loaded clock rows before) (hkey : Keyed rows) :
    before = rows ∧ (∃ top ∈ activeRanges rows, top.2 = openEnd) ∨
      ∃ start, (activeRanges before).Perm ((start, openEnd) :: activeRanges rows) ∧
        (∀ row ∈ rows, row.stop ≠ openEnd → row.stop < start) ∧
        (∀ range ∈ activeRanges rows, range.2 ≠ openEnd) ∧
        ((∀ row ∈ rows, row.start ≤ openEnd ∧ row.stop ≤ openEnd) → start ≤ openEnd) := by
  cases h with
  | unchanged hopen => exact Or.inl ⟨rfl, hopen⟩
  | opened start hclosed habove hword =>
      refine Or.inr ⟨start, ?_, habove, hclosed, hword⟩
      have hnew : (start, openEnd) ∉ activeRanges rows := fun hmem => hclosed _ hmem rfl
      refine (List.perm_ext_iff_of_nodup (nodup_activeRanges (keyed_upsert hkey)) ?_).2 fun range => ?_
      · exact List.nodup_cons.2 ⟨hnew, nodup_activeRanges hkey⟩
      · rw [mem_activeRanges_upsert rfl, List.mem_cons]
        rfl

/-- After loading there is an open range. -/
theorem exists_open (h : Loaded clock rows before) (hkey : Keyed rows) :
    ∃ top ∈ activeRanges before, top.2 = openEnd := by
  obtain ⟨rfl, hopen⟩ | ⟨start, hperm, -⟩ := h.activeRanges_perm hkey
  · exact hopen
  · exact ⟨_, hperm.mem_iff.2 List.mem_cons_self, rfl⟩

/-- Loading opens no second open range. -/
theorem singleOpen (h : Loaded clock rows before) (hkey : Keyed rows)
    (hone : SingleOpen (activeRanges rows)) : SingleOpen (activeRanges before) := by
  obtain ⟨rfl, -⟩ | ⟨start, hperm, -, hclosed, -⟩ := h.activeRanges_perm hkey
  · exact hone
  · have hnew : ∀ range ∈ activeRanges before, range.2 = openEnd → range = (start, openEnd) := by
      intro range hr hend
      rw [hperm.mem_iff, List.mem_cons] at hr
      cases hr with
      | inl hr => exact hr
      | inr hr => exact absurd hend (hclosed range hr)
    intro a ha b hb hopena hopenb
    rw [hnew a ha hopena, hnew b hb hopenb]

/-- An empty table gets the gap of every id. -/
theorem activeRanges_of_nil (h : Loaded clock [] before) : activeRanges before = [(1, openEnd)] := by
  cases h with
  | unchanged hopen =>
      obtain ⟨_, hmem, -⟩ := hopen
      exact (List.not_mem_nil hmem).elim
  | opened start _ _ _ hstart =>
      rw [hstart rfl]
      rfl

/-- A tidy table is loaded as it is. -/
theorem eq_of_tidy (h : Loaded clock rows before) (htidy : Tidy (activeRanges rows)) : before = rows := by
  cases h with
  | unchanged => rfl
  | opened start hclosed =>
      obtain ⟨top, htop, hend⟩ := htidy.exists_open
      exact (hclosed top htop hend).elim

/-- Loading takes no id out of the active ranges. -/
theorem held (h : Loaded clock rows before) (hkey : Keyed rows) {id : Int}
    (hid : Held (activeRanges rows) id) : Held (activeRanges before) id := by
  obtain ⟨rfl, -⟩ | ⟨start, hperm, -⟩ := h.activeRanges_perm hkey
  · exact hid
  · rw [held_perm hperm, held_cons]
    exact Or.inr hid

/-- After loading, active ranges that share no id are tidy. -/
theorem tidy (h : Loaded clock rows before) (hkey : Keyed rows)
    (hword : ∀ row ∈ rows, row.start ≤ openEnd ∧ row.stop ≤ openEnd)
    (hfull : ∀ range ∈ activeRanges rows, range.1 ≤ range.2)
    (hapart : (activeRanges rows).Pairwise Apart) : Tidy (activeRanges before) := by
  have hend : ∀ range ∈ activeRanges rows, range.2 ≤ openEnd := by
    intro range hr
    obtain ⟨row, hrow, -, rfl⟩ := mem_activeRanges.1 hr
    exact (hword row hrow).2
  obtain ⟨rfl, hopen⟩ | ⟨start, hperm, habove, hclosed, hstart⟩ := h.activeRanges_perm hkey
  · exact .of_apart hfull hapart hend hopen
  · have htop : ∀ range ∈ activeRanges rows, Below range (start, openEnd) := by
      intro range hr
      obtain ⟨row, hrow, -, rfl⟩ := mem_activeRanges.1 hr
      exact habove row hrow (hclosed _ hr)
    refine Tidy.perm (.of_apart ?_ ?_ ?_ ?_) hperm.symm
    · exact List.forall_mem_cons.2 ⟨hstart hword, hfull⟩
    · exact List.pairwise_cons.2 ⟨fun range hr => Or.inr (htop range hr), hapart⟩
    · exact List.forall_mem_cons.2 ⟨Int.le_refl _, hend⟩
    · exact ⟨_, List.mem_cons_self, rfl⟩

end Loaded

end ChangeRouting
