import ChangeRouting.Read.Handover

/-!
# ChangeRouting.Proofs.Read.Trail

What a reader is after, and what that comes to when nobody interferes.

* `Trail.sought` — the rows in the gaps, up to the last gap;
* `ofRanges_spec` — they come to the changes before the first row that cannot be read, less those routed
  before;
* `read_eq_reading` — that is how a channel is read.
-/

namespace ChangeRouting

namespace Trail

/-- The rows that a reader is after: those in the gaps, up to the last gap.  A query that breaks off ends
with a row that cannot be read. -/
def soughtFrom (broken : Option Fault) :
    Option (List Gap) → List (Except Fault Change) → List (Except Fault Change)
  | _, [] => (broken.map .error).toList
  | along, .error fault :: rows => .error fault :: soughtFrom broken along rows
  | along, .ok change :: rows =>
    match walk along change.id with
    | none => []
    | some (inside, along) =>
      if inside then .ok change :: soughtFrom broken along rows else soughtFrom broken along rows

/-- The rows of a trail that a reader is after. -/
def sought (trail : Trail) : List (Except Fault Change) :=
  soughtFrom trail.broken trail.along trail.rows

/-- What a trail comes to when nobody interferes. -/
def reading (marks : Marks) (trail : Trail) : Reading :=
  { Reading.ofRanges marks trail.sought with fromFirst := trail.along.isSome }

end Trail

section trails

variable {marks : Marks} {rows : List (Except Fault Change)}

/-- A reading has the changes before the first row that cannot be read, less those routed before, and a
fault exactly if there is such a row. -/
theorem ofRanges_spec (marks : Marks) (rows : List (Except Fault Change)) :
    ∃ (met : List Change) (rest : List (Except Fault Change)), rows = met.map .ok ++ rest ∧
      (Reading.ofRanges marks rows).changes = met.filter (!Reading.isMarked marks ·) ∧
      (rest = [] ∧ (Reading.ofRanges marks rows).fault = none ∨
        ∃ fault later, rest = .error fault :: later ∧
          (Reading.ofRanges marks rows).fault = some (Reading.blame fault)) := by
  induction rows with
  | nil => exact ⟨[], [], rfl, rfl, .inl ⟨rfl, rfl⟩⟩
  | cons row rows ih =>
      cases row with
      | error fault => exact ⟨[], .error fault :: rows, rfl, rfl, .inr ⟨fault, rows, rfl, rfl⟩⟩
      | ok change =>
          obtain ⟨met, rest, hrows, hchanges, hfault⟩ := ih
          refine ⟨change :: met, rest, ?_, ?_, ?_⟩
          · rw [List.map_cons, List.cons_append, ← hrows]
          · rw [Reading.ofRanges, Reading.meet, List.filter_cons, ← hchanges]
            cases Reading.isMarked marks change <;> rfl
          · rw [Reading.ofRanges, Reading.meet]
            cases Reading.isMarked marks change <;> exact hfault

theorem soughtFrom_ranges (rows : List (Except Fault Change)) :
    Trail.soughtFrom none none rows = rows := by
  induction rows with
  | nil => rfl
  | cons row rows ih =>
      cases row with
      | error fault => rw [Trail.soughtFrom, ih]
      | ok change => simp only [Trail.soughtFrom, Trail.walk, if_true, ih]

theorem fromFirst_ofRanges (marks : Marks) (rows : List (Except Fault Change)) :
    (Reading.ofRanges marks rows).fromFirst = false := by
  induction rows with
  | nil => rfl
  | cons row rows ih =>
      cases row with
      | error fault => rfl
      | ok change =>
          rw [Reading.ofRanges, Reading.meet]
          split <;> exact ih

/-- To walk along the gaps is to read the rows the reader is after. -/
theorem alongGaps_eq (marks : Marks) (gaps : List Gap) (rows : List (Except Fault Change)) :
    Reading.alongGaps marks gaps rows =
      { Reading.ofRanges marks (Trail.soughtFrom none (some gaps) rows) with fromFirst := true } := by
  induction rows generalizing gaps with
  | nil => rfl
  | cons row rows ih =>
      cases row with
      | error fault => rfl
      | ok change =>
          rw [Reading.alongGaps, Trail.soughtFrom, Trail.walk]
          cases gaps.dropWhile (·.stop < change.id) with
          | nil => rfl
          | cons gap later =>
              simp only
              rw [ih (gap :: later)]
              split
              · rw [Reading.ofRanges, Reading.meet, Reading.meet]
                split <;> rfl
              · rfl

/-- A channel is read along the trail that its query leaves. -/
theorem read_eq_reading (options : ReadOptions) (gaps : List Gap) (marks : Marks) (store : Store) :
    read options gaps marks store = (Trail.asked options gaps store).reading marks := by
  cases gaps with
  | nil => rfl
  | cons first later =>
      simp only [read, readBy, Trail.asked]
      split
      · cases store.changesFrom options.channel first.start options.columns with
        | error fault => rfl
        | ok rows => exact alongGaps_eq marks _ _
      · cases store.changesInRanges options.channel
            ((first :: later).map fun gap => (gap.start, gap.stop)) options.columns with
        | error fault => rfl
        | ok rows =>
            simp only [Trail.reading, Trail.sought, soughtFrom_ranges, Option.isSome_none]
            rw [← fromFirst_ofRanges marks rows]

end trails

end ChangeRouting
