import ChangeRouting.Text.Blank
import Mathlib.Data.List.DropRight

/-!
# ChangeRouting.Proofs.Text.Fields

Texts cut into fields, and fields without the blanks around them.

* `splitAll_append_cons` — the fields of two texts with a separator between them are those of the one and
  those of the other;
* `not_mem_of_mem_splitAll` — no field holds the separator;
* `splitFirst_eq_some`, `splitFirst_eq_none_iff` — what a text is cut into at the first separator, if there
  is one;
* `isBlank_head?_trim`, `isBlank_getLast?_trim` — trimming leaves a text that neither starts nor ends with a
  blank;
* `trim_eq_self_iff` — it takes nothing away from such a text, and from such a text only;
* `exists_eq_trim`, `trim_blanks_append`, `trim_append_blanks` — it takes away blanks, and blanks around a
  text make no difference to it.
-/

namespace ChangeRouting.Text

variable {sep : Char} {s field blanks : List Char}

/-! ## cutting -/

theorem splitAll_eq_splitOn (sep : Char) (s : List Char) : splitAll sep s = s.splitOn sep := by
  induction s with
  | nil => rfl
  | cons c s ih =>
      rw [splitAll, ih, List.splitOn_cons_eq_if_modifyHead]
      by_cases hc : c = sep
      · simp [hc]
      · simp only [hc, beq_iff_eq, if_false]
        cases hfields : s.splitOn sep with
        | nil => exact absurd hfields (List.splitOn_ne_nil sep s)
        | cons field fields => rfl

/-- A text without the separator is one field. -/
theorem splitAll_of_not_mem (h : sep ∉ s) : splitAll sep s = [s] := by
  rw [splitAll_eq_splitOn, List.splitOn_eq_singleton h]

/-- A separator ends the fields before it and begins those behind it. -/
theorem splitAll_append_cons (sep : Char) (s t : List Char) :
    splitAll sep (s ++ sep :: t) = splitAll sep s ++ splitAll sep t := by
  simp only [splitAll_eq_splitOn, List.splitOn_append_cons_self]

/-- No field holds the separator. -/
theorem not_mem_of_mem_splitAll (h : field ∈ splitAll sep s) : sep ∉ field := by
  induction s generalizing field with
  | nil =>
      rw [splitAll, List.mem_singleton] at h
      simp [h]
  | cons c s ih =>
      rw [splitAll] at h
      by_cases hc : c = sep
      · rw [if_pos hc, List.mem_cons] at h
        cases h with
        | inl hempty => simp [hempty]
        | inr hrest => exact ih hrest
      · rw [if_neg hc] at h
        cases hfields : splitAll sep s with
        | nil => exact absurd hfields (splitAll_ne_nil sep s)
        | cons first fields =>
            simp only [hfields, List.mem_cons] at h ih
            cases h with
            | inl hfirst =>
                have hrest := ih (Or.inl rfl)
                rw [hfirst, List.mem_cons, not_or]
                exact ⟨Ne.symm hc, hrest⟩
            | inr hrest => exact ih (Or.inr hrest)

/-- What comes before the first separator may have more in front. -/
theorem splitFirst_append {front : List Char} (h : sep ∉ front) (s : List Char) :
    splitFirst sep (front ++ s) =
      (splitFirst sep s).map fun (before, after) => (front ++ before, after) := by
  induction front with
  | nil => simp
  | cons c front ih =>
      rw [List.mem_cons, not_or] at h
      rw [List.cons_append, splitFirst, if_neg (Ne.symm h.1), ih h.2, Option.map_map]
      rfl

theorem splitFirst_eq_none_iff : splitFirst sep s = none ↔ sep ∉ s := by
  induction s with
  | nil => simp [splitFirst]
  | cons c s ih =>
      rw [splitFirst, List.mem_cons, not_or, ← ih]
      by_cases hc : c = sep
      · simp [hc]
      · simp [hc, Ne.symm hc]

theorem splitFirst_eq_some {front back : List Char} (h : splitFirst sep s = some (front, back)) :
    sep ∉ front ∧ s = front ++ sep :: back := by
  induction s generalizing front with
  | nil => cases h
  | cons c s ih =>
      rw [splitFirst] at h
      split at h
      · next hc =>
        cases h
        simp [hc]
      · next hc =>
        simp only [Option.map_eq_some_iff, Prod.exists, Prod.mk.injEq] at h
        obtain ⟨front, back, hrest, rfl, rfl⟩ := h
        obtain ⟨hnot, rfl⟩ := ih hrest
        simp [hnot, Ne.symm hc]

/-! ## trimming -/

/-- What trimming leaves is the front of what is left behind the first blanks. -/
theorem exists_trimStart_eq (s : List Char) : ∃ blanks, trimStart s = trim s ++ blanks := by
  obtain ⟨blanks, hblanks⟩ := List.rdropWhile_prefix isBlank (trimStart s)
  exact ⟨blanks, hblanks.symm⟩

/-- Trimming only takes away. -/
theorem trim_sublist (s : List Char) : (trim s).Sublist s := by
  obtain ⟨blanks, hblanks⟩ := exists_trimStart_eq s
  have hfront : (trim s).Sublist (trimStart s) := hblanks ▸ List.sublist_append_left _ _
  exact hfront.trans (List.dropWhile_suffix isBlank).sublist

theorem isBlank_head?_trim (s : List Char) : ∀ c ∈ (trim s).head?, isBlank c = false := by
  intro c hc
  obtain ⟨blanks, hblanks⟩ := exists_trimStart_eq s
  have hfirst : (trimStart s).head? = some c := by
    rw [hblanks, List.head?_append, hc]
    rfl
  have hnot := List.head?_dropWhile_not isBlank s
  rw [← trimStart, hfirst] at hnot
  exact hnot

theorem isBlank_getLast?_trim (s : List Char) : ∀ c ∈ (trim s).getLast?, isBlank c = false := by
  intro c hc
  have hne : trim s ≠ [] := by
    intro hnil
    simp [hnil] at hc
  have hlast : ¬isBlank ((trim s).getLast hne) := List.rdropWhile_last_not isBlank (trimStart s) hne
  rw [List.getLast?_eq_getLast_of_ne_nil hne] at hc
  cases hc
  simpa using hlast

/-- Nothing is trimmed from a text that neither starts nor ends with a blank. -/
theorem trim_eq_self_iff :
    trim s = s ↔ (∀ c ∈ s.head?, isBlank c = false) ∧ ∀ c ∈ s.getLast?, isBlank c = false := by
  constructor
  · intro h
    have hfirst := isBlank_head?_trim s
    have hlast := isBlank_getLast?_trim s
    rw [h] at hfirst hlast
    exact ⟨hfirst, hlast⟩
  · intro ⟨hfirst, hlast⟩
    have hstart : trimStart s = s := by
      cases s with
      | nil => rfl
      | cons c s => simp [trimStart, hfirst c rfl]
    have hend : s.rdropWhile isBlank = s := by
      rw [List.rdropWhile_eq_self_iff]
      intro hne
      simp [hlast _ (List.getLast?_eq_getLast_of_ne_nil hne)]
    rw [trim, hstart]
    exact hend

/-- Blanks behind a text make no difference. -/
theorem trim_append_blanks (h : ∀ c ∈ blanks, isBlank c = true) (s : List Char) :
    trim (s ++ blanks) = trim s := by
  have hend : ∀ s, trimEnd (s ++ blanks) = trimEnd s := by
    intro s
    rw [trimEnd, List.reverse_append, List.dropWhile_append_of_pos (by simpa using h)]
    rfl
  have hnone : trimStart blanks = [] := List.dropWhile_eq_nil_iff.2 h
  rw [trim, trimStart, List.dropWhile_append]
  split
  · next hs => rw [trim, trimStart, List.isEmpty_iff.1 hs, ← trimStart, hnone]
  · rw [hend, trim, trimStart]

/-- Nor do blanks before it. -/
theorem trim_blanks_append (h : ∀ c ∈ blanks, isBlank c = true) (s : List Char) :
    trim (blanks ++ s) = trim s := by
  rw [trim, trimStart, List.dropWhile_append_of_pos h]
  rfl

/-- A text is what trimming leaves of it, between blanks. -/
theorem exists_eq_trim (s : List Char) : ∃ before after, s = before ++ trim s ++ after ∧
    (∀ c ∈ before, isBlank c = true) ∧ ∀ c ∈ after, isBlank c = true := by
  refine ⟨s.takeWhile isBlank, ((trimStart s).reverse.takeWhile isBlank).reverse, ?_, ?_, ?_⟩
  · rw [List.append_assoc, trim, trimEnd, ← List.reverse_append, List.takeWhile_append_dropWhile,
      List.reverse_reverse, trimStart, List.takeWhile_append_dropWhile]
  · exact fun c hc => List.mem_takeWhile_imp hc
  · exact fun c hc => List.mem_takeWhile_imp (List.mem_reverse.1 hc)

theorem trim_eq_nil_iff : trim s = [] ↔ ∀ c ∈ s, isBlank c = true := by
  constructor
  · intro h
    obtain ⟨before, after, hs, hbefore, hafter⟩ := exists_eq_trim s
    rw [hs, h, List.append_nil]
    exact List.forall_mem_append.2 ⟨hbefore, hafter⟩
  · intro h
    simpa using trim_append_blanks h []

end ChangeRouting.Text
