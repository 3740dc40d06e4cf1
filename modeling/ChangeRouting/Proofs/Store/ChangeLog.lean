import ChangeRouting.Store.ChangeLog
import Mathlib.Data.List.Nodup

/-!
# ChangeRouting.Proofs.Store.ChangeLog

The change log as a set of rows in id order.

* `placeChange_perm`, `ascending_placeChange`, `forall_mem_placeChange` — a new row is put where its id
  belongs, and the others stay;
* `insertChangeRow_eq_ok` — appending a row changes the log and nothing else.
-/

namespace ChangeRouting

/-- Whether a number is a word of 64 bits with sign. -/
def IsWord (n : Int) : Prop := -9223372036854775808 ≤ n ∧ n ≤ openEnd

/-- Rows in id order, with ids that an open gap can hold and end before. -/
structure ProperLog (rows : List ChangeRow) : Prop where
  ascending : rows.Pairwise (·.id < ·.id)
  words : ∀ row ∈ rows, IsWord row.id ∧ row.id ≠ openEnd

namespace ProperLog

variable {row a b : ChangeRow} {rows : List ChangeRow}

theorem nil : ProperLog [] := ⟨List.Pairwise.nil, fun _ h => (List.not_mem_nil h).elim⟩

theorem nodup (h : ProperLog rows) : (rows.map ChangeRow.id).Nodup :=
  List.pairwise_map.2 (h.ascending.imp fun hlt => Int.ne_of_lt hlt)

theorem le_openEnd (h : ProperLog rows) : ∀ row ∈ rows, row.id ≤ openEnd :=
  fun row hrow => (h.words row hrow).1.2

/-- Two rows of a log with one id are one row. -/
theorem eq_of_id (h : ProperLog rows) (ha : a ∈ rows) (hb : b ∈ rows) (hid : a.id = b.id) : a = b :=
  List.inj_on_of_nodup_map h.nodup ha hb hid

end ProperLog

/-! ## appending -/

section place

variable {row : ChangeRow} {rows placed : List ChangeRow}

/-- A placed row is one more. -/
theorem placeChange_perm (h : Store.placeChange row rows = some placed) : placed.Perm (row :: rows) := by
  induction rows generalizing placed with
  | nil =>
      rw [Store.placeChange] at h
      cases h
      exact List.Perm.refl _
  | cons other rows ih =>
      rw [Store.placeChange] at h
      split at h
      · cases h
        exact List.Perm.refl _
      · split at h
        · contradiction
        · obtain ⟨tail, htail, rfl⟩ := Option.map_eq_some_iff.1 h
          exact ((ih htail).cons other).trans (List.Perm.swap row other rows)

/-- A placed row stands where its id belongs. -/
theorem ascending_placeChange (hrows : rows.Pairwise (·.id < ·.id))
    (h : Store.placeChange row rows = some placed) : placed.Pairwise (·.id < ·.id) := by
  induction rows generalizing placed with
  | nil =>
      rw [Store.placeChange] at h
      cases h
      exact List.pairwise_singleton _ _
  | cons other rows ih =>
      obtain ⟨hlt, hrest⟩ := List.pairwise_cons.1 hrows
      rw [Store.placeChange] at h
      by_cases hbefore : row.id < other.id
      · rw [if_pos hbefore] at h
        cases h
        refine List.pairwise_cons.2 ⟨fun x hx => ?_, hrows⟩
        rw [List.mem_cons] at hx
        cases hx with
        | inl hx => exact hx ▸ hbefore
        | inr hx => exact Int.lt_trans hbefore (hlt x hx)
      · rw [if_neg hbefore] at h
        by_cases hsame : row.id = other.id
        · rw [if_pos hsame] at h
          contradiction
        · rw [if_neg hsame, Option.map_eq_some_iff] at h
          obtain ⟨tail, htail, rfl⟩ := h
          refine List.pairwise_cons.2 ⟨fun x hx => ?_, ih hrest htail⟩
          rw [(placeChange_perm htail).mem_iff, List.mem_cons] at hx
          cases hx with
          | inl hx =>
              subst hx
              omega
          | inr hx => exact hlt x hx

/-- A row whose id is free can be placed. -/
theorem exists_placeChange (hfree : ∀ other ∈ rows, other.id ≠ row.id) :
    ∃ placed, Store.placeChange row rows = some placed := by
  induction rows with
  | nil => exact ⟨[row], rfl⟩
  | cons other rows ih =>
      obtain ⟨hother, hrest⟩ := List.forall_mem_cons.1 hfree
      obtain ⟨placed, hplaced⟩ := ih hrest
      rw [Store.placeChange, if_neg (Ne.symm hother), hplaced]
      split
      · exact ⟨_, rfl⟩
      · exact ⟨_, rfl⟩

/-- What holds of the rows and of the new one holds of all that are placed. -/
theorem forall_mem_placeChange {P : ChangeRow → Prop} (hrows : ∀ other ∈ rows, P other) (hrow : P row)
    (h : Store.placeChange row rows = some placed) : ∀ other ∈ placed, P other := by
  intro other hother
  rw [(placeChange_perm h).mem_iff] at hother
  exact List.forall_mem_cons.2 ⟨hrow, hrows⟩ other hother

/-- A log takes a row with an id of its own. -/
theorem ProperLog.place (hrows : ProperLog rows) (hid : IsWord row.id) (hend : row.id ≠ openEnd)
    (h : Store.placeChange row rows = some placed) : ProperLog placed where
  ascending := ascending_placeChange hrows.ascending h
  words := forall_mem_placeChange hrows.words ⟨hid, hend⟩ h

/-- Appending a row changes the log and nothing else. -/
theorem insertChangeRow_eq_ok {store after : Store} {log : Numbered ChangeRow}
    (hlog : store.changes = some log) (h : store.insertChangeRow row = .ok after) :
    ∃ placed, Store.placeChange row log.rows = some placed ∧
      after = { store with changes := some ⟨placed, max log.lastId row.id⟩ } := by
  simp only [Store.insertChangeRow, hlog, Store.appendChange] at h
  cases hplace : Store.placeChange row log.rows with
  | none =>
      rw [hplace] at h
      contradiction
  | some placed =>
      rw [hplace] at h
      cases h
      exact ⟨placed, rfl, rfl⟩

/-- A row whose id is free can be appended. -/
theorem exists_insertChangeRow {store : Store} {log : Numbered ChangeRow} (hlog : store.changes = some log)
    (hfree : ∀ other ∈ log.rows, other.id ≠ row.id) : ∃ after, store.insertChangeRow row = .ok after := by
  obtain ⟨placed, hplaced⟩ := exists_placeChange hfree
  simp only [Store.insertChangeRow, hlog, Store.appendChange, hplaced]
  exact ⟨_, rfl⟩

end place

end ChangeRouting
