import ChangeRouting.Proofs.Gap.Reconcile
import ChangeRouting.Read.Rows

/-!
# ChangeRouting.Proofs.Read.Rows

What a reader delivers when nothing was routed ahead of its gaps.

* `delivers_ofRanges`, `delivers_alongGaps` — both ways of asking the log deliver the rows in the gaps, in
  id order, up to the first fault;
* `delivers_read` — so does a reading of gaps in the order of their starts;
* `skipped_read_nil` — a reading without marks skips nothing;
* `mem_changes_read`, `ascending_read` — any reading delivers rows of its channel, in id order;
* `read_congr` — what it delivers depends on the ranges of the gaps and on the rows of its channel;
* `content_read` — without a fault it does not even matter how the gaps cut up the ids they hold.
-/

namespace ChangeRouting

/-- The rows of a channel that lie in gaps. -/
def wanted (rows : List ChangeRow) (channel : String) (gaps : List Gap) : List ChangeRow :=
  (rows.filter (·.channel = channel)).filter fun row => gaps.any (·.contains row.id)

/-- A reading delivers these rows up to its fault. -/
structure Delivers (columns : PayloadColumns) (rows : List ChangeRow) (reading : Reading) : Prop where
  skipped : reading.skipped = []
  rows : ∃ front rest, rows = front ++ rest ∧
    List.Forall₂ (fun row change => row.read columns = .ok change) front reading.changes ∧
    (reading.fault = none → rest = [])

variable {columns : PayloadColumns} {rows : List ChangeRow} {row : ChangeRow} {change : Change}
  {gaps : List Gap} {reading : Reading}

theorem id_of_read (h : row.read columns = .ok change) : change.id = row.id := by
  rw [ChangeRow.read] at h
  split at h
  · cases h
  · cases h
    rfl

theorem Delivers.fault (h : reading.changes = []) (hs : reading.skipped = [])
    (hf : reading.fault ≠ none) : Delivers columns rows reading where
  skipped := hs
  rows := ⟨[], rows, rfl, h ▸ List.Forall₂.nil, fun hnone => absurd hnone hf⟩

theorem isMarked_nil (change : Change) : Reading.isMarked [] change = false := by
  rw [Reading.isMarked]
  cases change.transaction <;> rfl

theorem Delivers.meet (hread : row.read columns = .ok change) (h : Delivers columns rows reading) :
    Delivers columns (row :: rows) (reading.meet [] change) := by
  obtain ⟨front, rest, hrows, hfront, hrest⟩ := h.rows
  rw [Reading.meet, isMarked_nil, if_neg Bool.false_ne_true]
  refine ⟨h.skipped, row :: front, rest, ?_, List.Forall₂.cons hread hfront, hrest⟩
  rw [hrows]
  rfl

/-- Rows that all lie in the gaps are delivered as they come. -/
theorem delivers_ofRanges (columns : PayloadColumns) (rows : List ChangeRow) :
    Delivers columns rows (Reading.ofRanges [] (rows.map (·.read columns))) := by
  induction rows with
  | nil => exact ⟨rfl, [], [], rfl, List.Forall₂.nil, fun _ => rfl⟩
  | cons row rows ih =>
      rw [List.map_cons]
      cases hread : row.read columns with
      | error fault => exact .fault rfl rfl (by simp [Reading.ofRanges])
      | ok change => exact ih.meet hread

/-! ## walking along the gaps -/

/-- Gaps that end before an id hold none from that id on. -/
theorem any_dropWhile {first id : Int} (hle : first ≤ id) (gaps : List Gap) :
    (gaps.dropWhile (·.stop < first)).any (·.contains id) = gaps.any (·.contains id) := by
  induction gaps with
  | nil => rfl
  | cons gap gaps ih =>
      rw [List.dropWhile_cons]
      by_cases hlt : gap.stop < first
      · have hnot : gap.contains id = false := by
          rw [← Bool.not_eq_true, Gap.contains_iff]
          omega
        rw [if_pos (decide_eq_true hlt), ih, List.any_cons, hnot, Bool.false_or]
      · rw [if_neg (by simpa using hlt)]

theorem not_lt_of_dropWhile {first : Int} {gap : Gap} {later : List Gap}
    (h : gaps.dropWhile (·.stop < first) = gap :: later) : first ≤ gap.stop := by
  have hhead := List.head?_dropWhile_not (fun gap : Gap => decide (gap.stop < first)) gaps
  rw [h] at hhead
  have hnot : ¬gap.stop < first := of_decide_eq_false hhead
  omega

/-- What an ascending log has left to meet lies in the gaps that are left. -/
theorem any_left (hrows : (row :: rows).Pairwise (·.id < ·.id)) (gaps : List Gap) :
    ∀ other ∈ row :: rows, gaps.any (·.contains other.id) =
      (gaps.dropWhile (·.stop < row.id)).any (·.contains other.id) := by
  intro other hother
  rw [List.mem_cons] at hother
  refine (any_dropWhile ?_ gaps).symm
  cases hother with
  | inl heq => exact heq ▸ Int.le_refl _
  | inr hmem => exact Int.le_of_lt ((List.pairwise_cons.1 hrows).1 other hmem)

/-- An id before the first gap that is left is in no gap, if the gaps come in the order of their starts. -/
theorem not_any_of_head {gap : Gap} {id : Int} (hgaps : (gap :: gaps).Pairwise fun a b => a.start ≤ b.start)
    (hle : id ≤ gap.stop) (hnot : ¬gap.contains id = true) : ¬(gap :: gaps).any (·.contains id) = true := by
  rw [List.any_eq_true]
  rintro ⟨other, hother, hc⟩
  rw [List.mem_cons] at hother
  cases hother with
  | inl heq => exact hnot (heq ▸ hc)
  | inr hmem =>
      have hstart := (List.pairwise_cons.1 hgaps).1 other hmem
      rw [Gap.contains_iff] at hnot hc
      omega

/-- The rows in gaps that come in the order of their starts are among those from the first gap on. -/
theorem wanted_cons {gap : Gap} (hgaps : (gap :: gaps).Pairwise fun a b => a.start ≤ b.start)
    (rows : List ChangeRow) (channel : String) :
    wanted rows channel (gap :: gaps) =
      ((rows.filter (·.channel = channel)).filter (gap.start ≤ ·.id)).filter
        fun row => (gap :: gaps).any (·.contains row.id) := by
  rw [wanted]
  generalize rows.filter (·.channel = channel) = mine
  rw [List.filter_filter]
  refine List.filter_congr fun row _ => ?_
  cases hany : (gap :: gaps).any (·.contains row.id) with
  | false => rfl
  | true =>
      obtain ⟨other, hother, hc⟩ := List.any_eq_true.1 hany
      rw [Gap.contains_iff] at hc
      have hstart : gap.start ≤ other.start := by
        rw [List.mem_cons] at hother
        cases hother with
        | inl heq => exact heq ▸ Int.le_refl _
        | inr hmem => exact (List.pairwise_cons.1 hgaps).1 other hmem
      rw [Bool.true_and]
      exact (decide_eq_true (by omega)).symm

/-- Walking along gaps in the order of their starts delivers the rows in them. -/
theorem delivers_alongGaps (columns : PayloadColumns) (hrows : rows.Pairwise (·.id < ·.id))
    (hgaps : gaps.Pairwise fun a b => a.start ≤ b.start) :
    Delivers columns (rows.filter fun row => gaps.any (·.contains row.id))
      (Reading.alongGaps [] gaps (rows.map (·.read columns))) := by
  induction rows generalizing gaps with
  | nil => exact ⟨rfl, [], [], rfl, List.Forall₂.nil, fun _ => rfl⟩
  | cons row rows ih =>
      obtain ⟨-, hrest⟩ := List.pairwise_cons.1 hrows
      rw [List.map_cons]
      cases hread : row.read columns with
      | error fault => exact .fault rfl rfl (by simp [Reading.alongGaps])
      | ok change =>
          have hid := id_of_read hread
          rw [List.filter_congr (any_left hrows gaps), Reading.alongGaps, hid]
          have hsorted := hgaps.sublist
            (List.dropWhile_suffix fun gap => decide (gap.stop < row.id)).sublist
          cases hleft : gaps.dropWhile (·.stop < row.id) with
          | nil =>
              refine ⟨rfl, [], [], ?_, List.Forall₂.nil, fun _ => rfl⟩
              rw [List.append_nil, List.filter_eq_nil_iff]
              exact fun _ _ => Bool.false_ne_true
          | cons gap later =>
              rw [hleft] at hsorted
              have hrec := ih hrest hsorted
              simp only
              by_cases hin : gap.contains row.id = true
              · have hany : (gap :: later).any (·.contains row.id) = true := by
                  rw [List.any_cons, hin, Bool.true_or]
                rw [List.filter_cons, if_pos hany, if_pos hin]
                exact hrec.meet hread
              · have hany := not_any_of_head hsorted (not_lt_of_dropWhile hleft) hin
                rw [List.filter_cons, if_neg hany, if_neg hin]
                exact hrec

/-- A store answers ranges with the rows in them, if it answers at all. -/
theorem changesInRanges_eq {channel : String} {store : Store} {log : Numbered ChangeRow}
    {answers : List (Except Fault Change)} (hlog : store.changes = some log)
    (h : store.changesInRanges channel (gaps.map fun gap => (gap.start, gap.stop)) columns = .ok answers) :
    answers = (wanted log.rows channel gaps).map (·.read columns) := by
  simp only [Store.changesInRanges, hlog] at h
  split at h
  · cases h
  · cases h
    rw [wanted]
    simp only [List.any_map]
    rfl

/-- A reading of gaps in the order of their starts delivers the rows of its channel in them. -/
theorem delivers_read {store : Store} {log : Numbered ChangeRow} (hlog : store.changes = some log)
    (hrows : log.rows.Pairwise (·.id < ·.id)) (hgaps : gaps.Pairwise fun a b => a.start ≤ b.start)
    (options : ReadOptions) :
    Delivers options.columns (wanted log.rows options.channel gaps) (read options gaps [] store) := by
  cases gaps with
  | nil =>
      refine ⟨rfl, [], [], ?_, List.Forall₂.nil, fun _ => rfl⟩
      rw [wanted, List.append_nil, List.filter_eq_nil_iff]
      exact fun _ _ => Bool.false_ne_true
  | cons gap later =>
      simp only [read, readBy]
      split
      · have hfrom : Store.changesFrom options.channel gap.start options.columns store =
            .ok (((log.rows.filter (·.channel = options.channel)).filter (gap.start ≤ ·.id)).map
              (·.read options.columns)) := by
          simp only [Store.changesFrom, hlog]
        rw [hfrom, wanted_cons hgaps]
        exact delivers_alongGaps options.columns ((hrows.filter _).filter _) hgaps
      · split
        · next fault hfault => exact .fault rfl rfl (by simp)
        · next rows hok =>
          rw [changesInRanges_eq hlog hok]
          exact delivers_ofRanges options.columns _

/-! ## any reading -/

section any

variable {marks : Marks} {answers : List (Except Fault Change)}

theorem mem_changes_meet {first : Change} (h : change ∈ (reading.meet marks first).changes) :
    change = first ∨ change ∈ reading.changes := by
  rw [Reading.meet] at h
  split at h
  · exact Or.inr h
  · exact List.mem_cons.1 h

theorem mem_changes_ofRanges (h : change ∈ (Reading.ofRanges marks answers).changes) :
    .ok change ∈ answers := by
  induction answers with
  | nil => exact (List.not_mem_nil h).elim
  | cons answer answers ih =>
      cases answer with
      | error fault => exact (List.not_mem_nil h).elim
      | ok first =>
          cases mem_changes_meet h with
          | inl heq => exact heq ▸ List.mem_cons_self
          | inr hmem => exact List.mem_cons_of_mem _ (ih hmem)

theorem mem_changes_alongGaps (h : change ∈ (Reading.alongGaps marks gaps answers).changes) :
    .ok change ∈ answers := by
  induction answers generalizing gaps with
  | nil => exact (List.not_mem_nil h).elim
  | cons answer answers ih =>
      cases answer with
      | error fault => exact (List.not_mem_nil h).elim
      | ok first =>
          rw [Reading.alongGaps] at h
          split at h
          · exact (List.not_mem_nil h).elim
          · simp only at h
            split at h
            · cases mem_changes_meet h with
              | inl heq => exact heq ▸ List.mem_cons_self
              | inr hmem => exact List.mem_cons_of_mem _ (ih hmem)
            · exact List.mem_cons_of_mem _ (ih h)

/-- Whatever the gaps and the marks, a reading delivers rows of its channel in the log. -/
theorem mem_changes_read {options : ReadOptions} {store : Store} {log : Numbered ChangeRow}
    (hlog : store.changes = some log) (h : change ∈ (read options gaps marks store).changes) :
    ∃ row ∈ log.rows, row.channel = options.channel ∧ row.read options.columns = .ok change := by
  have hrows : ∀ p : ChangeRow → Bool, .ok change ∈
      ((log.rows.filter (·.channel = options.channel)).filter p).map (·.read options.columns) →
      ∃ row ∈ log.rows, row.channel = options.channel ∧ row.read options.columns = .ok change := by
    intro p hmem
    obtain ⟨row, hrow, hread⟩ := List.mem_map.1 hmem
    obtain ⟨hlogged, hchannel⟩ := List.mem_filter.1 (List.mem_filter.1 hrow).1
    exact ⟨row, hlogged, of_decide_eq_true hchannel, hread⟩
  unfold ChangeRouting.read readBy at h
  split at h
  · exact (List.not_mem_nil h).elim
  · split at h
    · rw [Store.changesFrom, hlog] at h
      exact hrows _ (mem_changes_alongGaps h)
    · simp only [Store.changesInRanges, hlog] at h
      split at h
      · exact (List.not_mem_nil h).elim
      · next rows hanswer =>
        split at hanswer
        · cases hanswer
        · cases hanswer
          exact hrows _ (mem_changes_ofRanges h)

/-! ## a reading without marks -/

theorem skipped_meet_nil (first : Change) : (reading.meet [] first).skipped = reading.skipped := by
  rw [Reading.meet, isMarked_nil, if_neg Bool.false_ne_true]

theorem skipped_ofRanges_nil : (Reading.ofRanges [] answers).skipped = [] := by
  induction answers with
  | nil => rfl
  | cons answer answers ih =>
      cases answer with
      | error fault => rfl
      | ok first => rw [Reading.ofRanges, skipped_meet_nil, ih]

theorem skipped_alongGaps_nil : (Reading.alongGaps [] gaps answers).skipped = [] := by
  induction answers generalizing gaps with
  | nil => rfl
  | cons answer answers ih =>
      cases answer with
      | error fault => rfl
      | ok first =>
          rw [Reading.alongGaps]
          split
          · rfl
          · simp only
            split
            · rw [skipped_meet_nil, ih]
            · exact ih

/-- Whatever the gaps and the store, a reading without marks skips nothing. -/
theorem skipped_read_nil {options : ReadOptions} {store : Store} :
    (read options gaps [] store).skipped = [] := by
  unfold ChangeRouting.read readBy
  split
  · rfl
  · split
    · split
      · rfl
      · exact skipped_alongGaps_nil
    · split
      · rfl
      · exact skipped_ofRanges_nil

/-! ## the order of a reading -/

theorem ids_meet {first : Change} {ids : List Int}
    (h : (reading.changes.map Change.id).Sublist ids) :
    ((reading.meet marks first).changes.map Change.id).Sublist (first.id :: ids) := by
  rw [Reading.meet]
  split
  · exact h.cons _
  · exact h.cons_cons _

theorem ids_ofRanges (rows : List ChangeRow) :
    ((Reading.ofRanges marks (rows.map (·.read columns))).changes.map Change.id).Sublist
      (rows.map ChangeRow.id) := by
  induction rows with
  | nil => exact List.Sublist.slnil
  | cons row rows ih =>
      rw [List.map_cons, List.map_cons]
      cases hread : row.read columns with
      | error fault => exact List.nil_sublist _
      | ok change =>
          rw [← id_of_read hread]
          exact ids_meet ih

theorem ids_alongGaps (rows : List ChangeRow) :
    ((Reading.alongGaps marks gaps (rows.map (·.read columns))).changes.map Change.id).Sublist
      (rows.map ChangeRow.id) := by
  induction rows generalizing gaps with
  | nil => exact List.Sublist.slnil
  | cons row rows ih =>
      rw [List.map_cons, List.map_cons]
      cases hread : row.read columns with
      | error fault => exact List.nil_sublist _
      | ok change =>
          rw [← id_of_read hread, Reading.alongGaps]
          split
          · exact List.nil_sublist _
          · simp only
            split
            · exact ids_meet ih
            · exact ih.cons _

/-- Whatever the gaps and the marks, a reading of a log in id order delivers changes in id order. -/
theorem ascending_read {options : ReadOptions} {store : Store} {log : Numbered ChangeRow}
    (hlog : store.changes = some log) (hrows : log.rows.Pairwise (·.id < ·.id)) :
    (read options gaps marks store).changes.Pairwise (·.id < ·.id) := by
  have hasc : ∀ {ids : List Int} (p : ChangeRow → Bool),
      ids.Sublist (((log.rows.filter (·.channel = options.channel)).filter p).map ChangeRow.id) →
        ids.Pairwise (· < ·) := fun p h =>
    (List.pairwise_map.2 ((hrows.filter _).filter p)).sublist h
  refine List.pairwise_map.1 ?_
  unfold ChangeRouting.read readBy
  split
  · exact List.Pairwise.nil
  · split
    · rw [Store.changesFrom, hlog]
      exact hasc _ (ids_alongGaps _)
    · simp only [Store.changesInRanges, hlog]
      split
      · exact List.Pairwise.nil
      · next rows hanswer =>
        split at hanswer
        · cases hanswer
        · cases hanswer
          exact hasc _ (ids_ofRanges _)

/-! ## what a reading depends on -/

/-- Only the ranges of the gaps count. -/
theorem alongGaps_congr {others : List Gap} (h : gaps.map Gap.range = others.map Gap.range) :
    Reading.alongGaps marks gaps answers = Reading.alongGaps marks others answers := by
  induction answers generalizing gaps others with
  | nil => rfl
  | cons answer answers ih =>
      cases answer with
      | error fault => rfl
      | ok change =>
          have hdrop : (gaps.dropWhile (·.stop < change.id)).map Gap.range =
              (others.dropWhile (·.stop < change.id)).map Gap.range := by
            have hranges : ∀ gaps : List Gap, (gaps.dropWhile (·.stop < change.id)).map Gap.range =
                (gaps.map Gap.range).dropWhile (·.2 < change.id) := by
              intro gaps
              rw [List.dropWhile_map]
              rfl
            rw [hranges, hranges, h]
          rw [Reading.alongGaps, Reading.alongGaps]
          cases hgaps : gaps.dropWhile (·.stop < change.id) with
          | nil =>
              rw [hgaps] at hdrop
              rw [List.map_eq_nil_iff.1 hdrop.symm]
          | cons gap later =>
              cases hothers : others.dropWhile (·.stop < change.id) with
              | nil =>
                  rw [hgaps, hothers] at hdrop
                  contradiction
              | cons other rest =>
                  rw [hgaps, hothers] at hdrop
                  have hrange : gap.range = other.range := (List.cons.inj hdrop).1
                  have hcontains : gap.contains change.id = other.contains change.id := by
                    rw [Bool.eq_iff_iff, Gap.contains_iff_holds, Gap.contains_iff_holds, hrange]
                  simp only [hcontains, ih hdrop]

/-- A reading depends on the ranges of the gaps and on the rows of its channel, and on nothing else. -/
theorem read_congr {options : ReadOptions} {others : List Gap} {store other : Store}
    {log otherLog : Numbered ChangeRow} (hgaps : gaps.map Gap.range = others.map Gap.range)
    (hlog : store.changes = some log) (hother : other.changes = some otherLog)
    (hrows : log.rows.filter (·.channel = options.channel) =
      otherLog.rows.filter (·.channel = options.channel)) :
    read options gaps marks store = read options others marks other := by
  have hpairs : gaps.map (fun gap => (gap.start, gap.stop)) =
      others.map fun gap => (gap.start, gap.stop) := hgaps
  have hlength : gaps.length = others.length := by
    rw [← List.length_map Gap.range, hgaps, List.length_map]
  cases gaps with
  | nil =>
      rw [List.map_eq_nil_iff.1 hgaps.symm]
      rfl
  | cons first later =>
      cases others with
      | nil => contradiction
      | cons otherFirst otherLater =>
          have hstart : first.start = otherFirst.start :=
            congrArg Prod.fst (List.cons.inj hgaps).1
          simp only [ChangeRouting.read, readBy, Store.changesFrom, Store.changesInRanges, hlog, hother, hrows,
            hpairs, hlength, hstart, alongGaps_congr hgaps]

/-! ## a reading without a fault -/

/-- What a reading gives, whichever way the log was asked. -/
def Reading.content (reading : Reading) : List Change × List Int × Option Fault :=
  (reading.changes, reading.skipped, reading.fault)

theorem fault_meet (first : Change) : (reading.meet marks first).fault = reading.fault := by
  rw [Reading.meet]
  split <;> rfl

theorem content_meet {other : Reading} (h : reading.content = other.content) (first : Change) :
    (reading.meet marks first).content = (other.meet marks first).content := by
  simp only [Reading.content, Prod.mk.injEq] at h
  rw [Reading.meet, Reading.meet]
  split
  · simp only [Reading.content, h]
  · simp only [Reading.content, h]

/-- Without a fault, walking along gaps in the order of their starts meets all rows in them. -/
theorem content_alongGaps (hrows : rows.Pairwise (·.id < ·.id))
    (hgaps : gaps.Pairwise fun a b => a.start ≤ b.start)
    (h : (Reading.alongGaps marks gaps (rows.map (·.read columns))).fault = none) :
    (Reading.alongGaps marks gaps (rows.map (·.read columns))).content =
      (Reading.ofRanges marks ((rows.filter fun row => gaps.any (·.contains row.id)).map
        (·.read columns))).content := by
  induction rows generalizing gaps with
  | nil => rfl
  | cons row rows ih =>
      obtain ⟨-, hrest⟩ := List.pairwise_cons.1 hrows
      rw [List.map_cons] at h ⊢
      cases hread : row.read columns with
      | error fault =>
          rw [hread, Reading.alongGaps] at h
          contradiction
      | ok change =>
          have hid := id_of_read hread
          have hsorted := hgaps.sublist
            (List.dropWhile_suffix fun gap => decide (gap.stop < row.id)).sublist
          rw [hread, Reading.alongGaps, hid] at h
          rw [List.filter_congr (any_left hrows gaps), Reading.alongGaps, hid]
          cases hleft : gaps.dropWhile (·.stop < row.id) with
          | nil =>
              have hnone : ((row :: rows).filter fun _ => ([] : List Gap).any fun _ => false) = [] :=
                List.filter_eq_nil_iff.2 fun _ _ => Bool.false_ne_true
              exact congrArg (fun rows => (Reading.ofRanges marks (rows.map (·.read columns))).content)
                hnone.symm
          | cons gap later =>
              rw [hleft] at h hsorted
              simp only at h ⊢
              by_cases hin : gap.contains row.id = true
              · have hany : (gap :: later).any (·.contains row.id) = true := by
                  rw [List.any_cons, hin, Bool.true_or]
                rw [if_pos hin, fault_meet] at h
                rw [List.filter_cons, if_pos hany, if_pos hin, List.map_cons, hread, Reading.ofRanges]
                exact content_meet (ih hrest hsorted h) change
              · have hany := not_any_of_head hsorted (not_lt_of_dropWhile hleft) hin
                rw [if_neg hin] at h
                rw [List.filter_cons, if_neg hany, if_neg hin]
                exact ih hrest hsorted h

/-- Without a fault, either way of asking gives the rows in the gaps, as far as ranges are answered with the
rows in them. -/
theorem content_readBy {inRanges : List (Int × Int) → Except Fault (List (Except Fault Change))}
    {options : ReadOptions} {store : Store} {log : Numbered ChangeRow}
    (hlog : store.changes = some log) (hrows : log.rows.Pairwise (·.id < ·.id))
    (hgaps : gaps.Pairwise fun a b => a.start ≤ b.start)
    (hchain : gaps.length ≤ options.maxRanges → ∀ answers,
      inRanges (gaps.map fun gap => (gap.start, gap.stop)) = .ok answers →
        answers = (wanted log.rows options.channel gaps).map (·.read options.columns))
    (h : (readBy inRanges options gaps marks store).fault = none) :
    (readBy inRanges options gaps marks store).content =
      (Reading.ofRanges marks ((wanted log.rows options.channel gaps).map
        (·.read options.columns))).content := by
  cases gaps with
  | nil =>
      have hnone : wanted log.rows options.channel [] = [] :=
        List.filter_eq_nil_iff.2 fun _ _ => Bool.false_ne_true
      rw [hnone]
      rfl
  | cons gap later =>
      simp only [readBy] at h ⊢
      split at h
      · next hmany =>
        rw [if_pos hmany]
        simp only [Store.changesFrom, hlog] at h ⊢
        rw [wanted_cons hgaps]
        exact content_alongGaps ((hrows.filter _).filter _) hgaps h
      · next hfew =>
        rw [if_neg hfew]
        cases hasked : inRanges ((gap :: later).map fun gap => (gap.start, gap.stop)) with
        | error fault =>
            rw [hasked] at h
            contradiction
        | ok answers => rw [hchain (Nat.not_lt.1 hfew) answers hasked]

/-- Without a fault, either way of asking gives the rows in the gaps. -/
theorem content_read {options : ReadOptions} {store : Store} {log : Numbered ChangeRow}
    (hlog : store.changes = some log) (hrows : log.rows.Pairwise (·.id < ·.id))
    (hgaps : gaps.Pairwise fun a b => a.start ≤ b.start)
    (h : (read options gaps marks store).fault = none) :
    (read options gaps marks store).content =
      (Reading.ofRanges marks ((wanted log.rows options.channel gaps).map
        (·.read options.columns))).content :=
  content_readBy hlog hrows hgaps (fun _ _ => changesInRanges_eq hlog) h

theorem any_contains_iff {id : Int} :
    gaps.any (·.contains id) = true ↔ Held (gaps.map Gap.range) id := by
  simp only [List.any_eq_true, Held, List.mem_map, Gap.contains_iff_holds]
  constructor
  · rintro ⟨gap, hgap, hin⟩
    exact ⟨gap.range, ⟨gap, hgap, rfl⟩, hin⟩
  · rintro ⟨_, ⟨gap, hgap, rfl⟩, hin⟩
    exact ⟨gap, hgap, hin⟩

/-- Gaps that hold the same ids hold the same rows. -/
theorem wanted_congr {others : List Gap} {rows otherRows : List ChangeRow} {channel : String}
    (hgaps : ∀ id, Held (gaps.map Gap.range) id ↔ Held (others.map Gap.range) id)
    (hrows : rows.filter (·.channel = channel) = otherRows.filter (·.channel = channel)) :
    wanted rows channel gaps = wanted otherRows channel others := by
  rw [wanted, wanted, hrows]
  refine List.filter_congr fun row _ => ?_
  rw [Bool.eq_iff_iff, any_contains_iff, any_contains_iff]
  exact hgaps row.id

end any

end ChangeRouting
