import ChangeRouting.Gap.Reconcile
import Mathlib.Data.List.Perm.Basic

/-!
# ChangeRouting.Proofs.Gap.Ranges

Ranges of ids, and what is left of a range once some of its ids are taken out.

* `held_holes` — the holes between ascending ids hold exactly the ids that are not listed;
* `held_remainders` — so do the remainders of a gap, up to its last confirmed id if the gap is open;
* `held_successors` — an open gap that follows makes up for the rest.
-/

namespace ChangeRouting

/-- An inclusive range of ids. -/
abbrev IdRange := Int × Int

/-- Whether an id is in a range. -/
def Holds (range : IdRange) (id : Int) : Prop := range.1 ≤ id ∧ id ≤ range.2

instance (range : IdRange) (id : Int) : Decidable (Holds range id) := by
  unfold Holds; infer_instance

/-- Whether an id is in one of several ranges. -/
def Held (ranges : List IdRange) (id : Int) : Prop := ∃ range ∈ ranges, Holds range id

instance (ranges : List IdRange) (id : Int) : Decidable (Held ranges id) := by
  unfold Held; infer_instance

/-- Every id of the first range lies below every id of the second. -/
def Below (a b : IdRange) : Prop := a.2 < b.1

instance (a b : IdRange) : Decidable (Below a b) := by unfold Below; infer_instance

/-- No id is in both ranges. -/
def Apart (a b : IdRange) : Prop := Below a b ∨ Below b a

instance (a b : IdRange) : Decidable (Apart a b) := by unfold Apart; infer_instance

/-- The first range is part of the second and holds an id. -/
def Within (a b : IdRange) : Prop := b.1 ≤ a.1 ∧ a.1 ≤ a.2 ∧ a.2 ≤ b.2

theorem Apart.symm {a b : IdRange} (h : Apart a b) : Apart b a := Or.symm h

theorem Apart.ne {a b : IdRange} (h : Apart a b) (ha : a.1 ≤ a.2) : a ≠ b := by
  rintro rfl
  simp only [Apart, Below] at h
  omega

/-- Parts of ranges that lie one below the other do so too. -/
theorem Below.within {a b c d : IdRange} (h : Below a b) (hc : Within c a) (hd : Within d b) :
    Below c d := by
  simp only [Below, Within] at *
  omega

theorem Within.refl {a : IdRange} (h : a.1 ≤ a.2) : Within a a := ⟨Int.le_refl _, h, Int.le_refl _⟩

theorem Within.holds {a b : IdRange} {id : Int} (h : Within a b) (hid : Holds a id) : Holds b id := by
  simp only [Within, Holds] at *
  omega

@[simp] theorem held_nil (id : Int) : ¬Held [] id := by simp [Held]

@[simp] theorem held_cons {range : IdRange} {ranges : List IdRange} {id : Int} :
    Held (range :: ranges) id ↔ Holds range id ∨ Held ranges id := by
  simp [Held]

@[simp] theorem held_append {xs ys : List IdRange} {id : Int} :
    Held (xs ++ ys) id ↔ Held xs id ∨ Held ys id := by
  simp only [Held, List.mem_append]
  constructor
  · rintro ⟨range, h | h, hid⟩
    · exact Or.inl ⟨range, h, hid⟩
    · exact Or.inr ⟨range, h, hid⟩
  · rintro (⟨range, h, hid⟩ | ⟨range, h, hid⟩)
    · exact ⟨range, Or.inl h, hid⟩
    · exact ⟨range, Or.inr h, hid⟩

theorem held_flatMap {xs : List α} {f : α → List IdRange} {id : Int} :
    Held (xs.flatMap f) id ↔ ∃ x ∈ xs, Held (f x) id := by
  simp only [Held, List.mem_flatMap]
  constructor
  · rintro ⟨range, ⟨x, hx, hr⟩, hid⟩
    exact ⟨x, hx, range, hr, hid⟩
  · rintro ⟨x, hx, range, hr, hid⟩
    exact ⟨range, ⟨x, hx, hr⟩, hid⟩

theorem held_perm {xs ys : List IdRange} (h : xs.Perm ys) (id : Int) : Held xs id ↔ Held ys id := by
  simp only [Held, h.mem_iff]

/-! ## holes between ascending ids -/

/-- The last id listed is the one before the first id behind the holes. -/
theorem holes_snd (next : Int) (ids : List Int) :
    (holes next ids).2 = ids.getLast?.elim next (· + 1) := by
  induction ids generalizing next with
  | nil => rfl
  | cons id ids ih =>
      have hsnd : (holes next (id :: ids)).2 = (holes (id + 1) ids).2 := by
        simp only [holes]
        split <;> rfl
      rw [hsnd, ih, List.getLast?_cons]
      cases ids.getLast? <;> rfl

theorem holes_cons (next id : Int) (ids : List Int) :
    (holes next (id :: ids)).1 =
      (if next < id then [(next, id - 1)] else []) ++ (holes (id + 1) ids).1 := by
  simp only [holes]
  split <;> rfl

/-- Holes hold ids, and lie between the first id and the last one listed. -/
theorem mem_holes {next : Int} {ids : List Int} (hids : ids.Pairwise (· < ·))
    (hle : ∀ id ∈ ids, next ≤ id) {range : IdRange} (h : range ∈ (holes next ids).1) :
    next ≤ range.1 ∧ range.1 ≤ range.2 ∧ ∃ id ∈ ids, range.2 < id := by
  induction ids generalizing next with
  | nil => simp [holes] at h
  | cons id ids ih =>
      obtain ⟨hlt, hrest⟩ := List.pairwise_cons.1 hids
      rw [holes_cons, List.mem_append] at h
      have hid : next ≤ id := hle id List.mem_cons_self
      cases h with
      | inl h =>
          by_cases hn : next < id
          · rw [if_pos hn, List.mem_singleton] at h
            subst h
            exact ⟨Int.le_refl _, by simp only; omega, id, List.mem_cons_self, by simp only; omega⟩
          · rw [if_neg hn] at h
            exact (List.not_mem_nil h).elim
      | inr h =>
          obtain ⟨h1, h2, last, hlast, h3⟩ := ih hrest (fun x hx => hlt x hx) h
          exact ⟨by omega, h2, last, List.mem_cons_of_mem _ hlast, h3⟩

/-- Holes come one below the other. -/
theorem pairwise_holes {next : Int} {ids : List Int} (hids : ids.Pairwise (· < ·))
    (hle : ∀ id ∈ ids, next ≤ id) : (holes next ids).1.Pairwise Below := by
  induction ids generalizing next with
  | nil => simp [holes]
  | cons id ids ih =>
      obtain ⟨hlt, hrest⟩ := List.pairwise_cons.1 hids
      have htail : (holes (id + 1) ids).1.Pairwise Below := ih hrest fun x hx => hlt x hx
      rw [holes_cons]
      split
      · rw [List.singleton_append, List.pairwise_cons]
        refine ⟨fun range hr => ?_, htail⟩
        have := (mem_holes hrest (fun x hx => hlt x hx) hr).1
        simp only [Below]
        omega
      · exact htail

/-- The holes between ascending ids hold exactly the ids that are not listed. -/
theorem held_holes {next : Int} {ids : List Int} (hids : ids.Pairwise (· < ·))
    (hle : ∀ id ∈ ids, next ≤ id) (id : Int) :
    Held (holes next ids).1 id ↔ next ≤ id ∧ (∃ last ∈ ids, id < last) ∧ id ∉ ids := by
  induction ids generalizing next with
  | nil => simp [holes]
  | cons first ids ih =>
      obtain ⟨hlt, hrest⟩ := List.pairwise_cons.1 hids
      have hfirst : next ≤ first := hle first List.mem_cons_self
      have hhole : Held (if next < first then [(next, first - 1)] else []) id ↔
          next ≤ id ∧ id < first := by
        split
        · simp only [held_cons, held_nil, Holds, or_false]
          omega
        · simp only [held_nil, false_iff]
          omega
      rw [holes_cons, held_append, ih hrest (fun x hx => hlt x hx), hhole]
      simp only [List.mem_cons, exists_eq_or_imp, not_or]
      constructor
      · rintro (⟨h1, h2⟩ | ⟨h1, ⟨last, hlast, h2⟩, h3⟩)
        · refine ⟨h1, Or.inl h2, by omega, fun hmem => ?_⟩
          have := hlt id hmem
          omega
        · exact ⟨by omega, Or.inr ⟨last, hlast, h2⟩, by omega, h3⟩
      · rintro ⟨h1, h2, hne, h3⟩
        by_cases hid : id < first
        · exact Or.inl ⟨h1, hid⟩
        · refine Or.inr ⟨by omega, ?_, h3⟩
          cases h2 with
          | inl h2 => exact absurd h2 hid
          | inr h2 => exact h2

/-! ## what is left of a gap -/

/-- The range of a gap. -/
def Gap.range (gap : Gap) : IdRange := (gap.start, gap.stop)

theorem Gap.contains_iff_holds {gap : Gap} {id : Int} :
    gap.contains id = true ↔ Holds gap.range id := by
  rw [Gap.contains_iff]
  rfl

/-- Ascending ids of a gap, as its confirmed rows give them. -/
structure Confirmed (gap : Gap) (ids : List Int) : Prop where
  ascending : ids.Pairwise (· < ·)
  inside : ∀ id ∈ ids, Holds gap.range id

theorem Confirmed.start_le {gap : Gap} {ids : List Int} (h : Confirmed gap ids) :
    ∀ id ∈ ids, gap.start ≤ id := fun id hid => (h.inside id hid).1

/-- The last of ascending ids is the greatest. -/
theorem le_getLast {ids : List Int} {last : Int} (hids : ids.Pairwise (· < ·))
    (hlast : ids.getLast? = some last) {id : Int} (h : id ∈ ids) : id ≤ last := by
  obtain ⟨front, rfl⟩ := List.getLast?_eq_some_iff.1 hlast
  rw [List.mem_append, List.mem_singleton] at h
  cases h with
  | inl h =>
      have := (List.pairwise_append.1 hids).2.2 id h last (List.mem_singleton.2 rfl)
      omega
  | inr h => omega

theorem mem_of_getLast {ids : List Int} {last : Int} (h : ids.getLast? = some last) : last ∈ ids := by
  obtain ⟨front, rfl⟩ := List.getLast?_eq_some_iff.1 h
  simp

variable {gap : Gap} {ids : List Int} {last : Int}

/-- The remainders of a gap: the holes between the confirmed ids, and for a closed gap what comes
after the last of them. -/
theorem remainders_eq (hlast : ids.getLast? = some last) :
    remainders gap ids = (holes gap.start ids).1 ++
      if gap.isOpen ∨ gap.stop < last + 1 then [] else [(last + 1, gap.stop)] := by
  have hsnd : (holes gap.start ids).2 = last + 1 := by rw [holes_snd, hlast]; rfl
  simp only [remainders, hsnd]
  split <;> simp

theorem within_of_mem_remainders (h : Confirmed gap ids) (hlast : ids.getLast? = some last)
    {range : IdRange} (hr : range ∈ remainders gap ids) : Within range gap.range := by
  have hin := h.inside last (mem_of_getLast hlast)
  rw [remainders_eq hlast, List.mem_append] at hr
  simp only [Within, Gap.range, Holds] at *
  cases hr with
  | inl hr =>
      obtain ⟨h1, h2, id, hid, h3⟩ := mem_holes h.ascending h.start_le hr
      have hstop : id ≤ gap.stop := (h.inside id hid).2
      omega
  | inr hr =>
      split at hr
      · exact (List.not_mem_nil hr).elim
      · rw [List.mem_singleton] at hr
        subst hr
        simp only
        omega

theorem pairwise_remainders (h : Confirmed gap ids) (hlast : ids.getLast? = some last) :
    (remainders gap ids).Pairwise Below := by
  have hholes := pairwise_holes h.ascending h.start_le
  rw [remainders_eq hlast]
  refine List.pairwise_append.2 ⟨hholes, ?_, ?_⟩
  · split <;> simp
  · intro a ha b hb
    obtain ⟨-, -, id, hid, hlt⟩ := mem_holes h.ascending h.start_le ha
    have hle := le_getLast h.ascending hlast hid
    split at hb
    · exact (List.not_mem_nil hb).elim
    · rw [List.mem_singleton] at hb
      subst hb
      simp only [Below]
      omega

/-- The remainders of a gap hold its ids that were not confirmed, up to the last confirmed one if the
gap is open. -/
theorem held_remainders (h : Confirmed gap ids) (hlast : ids.getLast? = some last) (id : Int) :
    Held (remainders gap ids) id ↔
      Holds gap.range id ∧ id ∉ ids ∧ (gap.isOpen = true → id < last) := by
  have hin := h.inside last (mem_of_getLast hlast)
  have hmax : ∀ x ∈ ids, x ≤ last := fun x hx => le_getLast h.ascending hlast hx
  have hbefore : (∃ x ∈ ids, id < x) ↔ id < last := by
    constructor
    · rintro ⟨x, hx, hlt⟩
      have := hmax x hx
      omega
    · intro hlt
      exact ⟨last, mem_of_getLast hlast, hlt⟩
  rw [remainders_eq hlast, held_append, held_holes h.ascending h.start_le,
    hbefore]
  simp only [Holds, Gap.range] at *
  by_cases hopen : gap.isOpen = true
  · simp only [hopen, true_or, if_true, held_nil, or_false, true_implies]
    constructor
    · rintro ⟨h1, h2, h3⟩
      exact ⟨⟨h1, by omega⟩, h3, h2⟩
    · rintro ⟨⟨h1, -⟩, h3, h2⟩
      exact ⟨h1, h2, h3⟩
  · have htail : Held (if gap.isOpen ∨ gap.stop < last + 1 then [] else [(last + 1, gap.stop)]) id ↔
        last < id ∧ id ≤ gap.stop := by
      simp only [hopen, false_or, Bool.false_eq_true]
      split
      · simp only [held_nil, false_iff]
        omega
      · simp only [held_cons, held_nil, Holds, or_false]
        omega
    rw [htail]
    simp only [hopen, Bool.false_eq_true, false_implies, and_true]
    constructor
    · rintro (⟨h1, h2, h3⟩ | ⟨h1, h2⟩)
      · exact ⟨⟨h1, by omega⟩, h3⟩
      · refine ⟨⟨by omega, h2⟩, fun hmem => ?_⟩
        have := hmax id hmem
        omega
    · rintro ⟨⟨h1, h2⟩, h3⟩
      by_cases hlt : id < last
      · exact Or.inl ⟨h1, hlt, h3⟩
      · refine Or.inr ⟨?_, h2⟩
        have hne : id ≠ last := fun heq => h3 (heq ▸ mem_of_getLast hlast)
        omega

/-- The ranges that follow a retired gap: its remainders, and behind them a new open range if the gap
was open. -/
def successors (gap : Gap) (ids : List Int) (last : Int) : List IdRange :=
  remainders gap ids ++ if gap.isOpen then [(last + 1, openEnd)] else []

/-- The successors of a retired gap hold exactly its ids that were not confirmed. -/
theorem held_successors (h : Confirmed gap ids) (hlast : ids.getLast? = some last) (id : Int) :
    Held (successors gap ids last) id ↔ Holds gap.range id ∧ id ∉ ids := by
  have hin := h.inside last (mem_of_getLast hlast)
  have hmax : ∀ x ∈ ids, x ≤ last := fun x hx => le_getLast h.ascending hlast hx
  rw [successors, held_append, held_remainders h hlast]
  simp only [Holds, Gap.range] at *
  by_cases hopen : gap.isOpen = true
  · have hstop : gap.stop = openEnd := by simpa [Gap.isOpen] using hopen
    simp only [hopen, if_true, true_implies, held_cons, held_nil, or_false, Holds]
    constructor
    · rintro (⟨hr, hn, -⟩ | ⟨h1, h2⟩)
      · exact ⟨hr, hn⟩
      · refine ⟨⟨by omega, by omega⟩, fun hmem => ?_⟩
        have := hmax id hmem
        omega
    · rintro ⟨hr, hn⟩
      by_cases hlt : id < last
      · exact Or.inl ⟨hr, hn, hlt⟩
      · have hne : id ≠ last := fun heq => hn (heq ▸ mem_of_getLast hlast)
        exact Or.inr ⟨by omega, by omega⟩
  · simp [hopen]

theorem within_of_mem_successors (h : Confirmed gap ids) (hlast : ids.getLast? = some last)
    (hend : last < openEnd) {range : IdRange} (hr : range ∈ successors gap ids last) :
    Within range gap.range := by
  have hin := h.inside last (mem_of_getLast hlast)
  rw [successors, List.mem_append] at hr
  cases hr with
  | inl hr => exact within_of_mem_remainders h hlast hr
  | inr hr =>
      by_cases hopen : gap.isOpen = true
      · have hstop : gap.stop = openEnd := by simpa [Gap.isOpen] using hopen
        rw [if_pos hopen, List.mem_singleton] at hr
        subst hr
        simp only [Within, Gap.range, Holds] at *
        omega
      · rw [if_neg hopen] at hr
        exact (List.not_mem_nil hr).elim

theorem pairwise_successors (h : Confirmed gap ids) (hlast : ids.getLast? = some last) :
    (successors gap ids last).Pairwise Below := by
  rw [successors]
  refine List.pairwise_append.2 ⟨pairwise_remainders h hlast, ?_, ?_⟩
  · split <;> simp
  · intro a ha b hb
    by_cases hopen : gap.isOpen = true
    · rw [if_pos hopen, List.mem_singleton] at hb
      subst hb
      have hw := within_of_mem_remainders h hlast ha
      have hheld : Held (remainders gap ids) a.2 := ⟨a, ha, hw.2.1, Int.le_refl _⟩
      have := ((held_remainders h hlast a.2).1 hheld).2.2 hopen
      simp only [Below]
      omega
    · rw [if_neg hopen] at hb
      exact (List.not_mem_nil hb).elim

end ChangeRouting
