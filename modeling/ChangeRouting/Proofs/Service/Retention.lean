import ChangeRouting.Proofs.Gap.Dated
import ChangeRouting.Proofs.Service.Failure

/-!
# ChangeRouting.Proofs.Service.Retention

How long settled gaps are kept.

* `cutoff_retentionOfHours`, `retentionOfHours_eq_zero_iff` — what the retention time comes to in words;
* `purged_eq_filter` — so a gap is forgotten if it is older than the word of the exact time;
* `purged_eq_iff` — which is right if the exact time is a word itself, and else if nothing is forgotten;
* `purged_sublist` — as far as the exact times are words, a longer retention keeps more;
* `retention_honoured_iff` — what a cycle forgets.
-/

namespace ChangeRouting

/-! ## the time to forget by -/

/-- The time from which on gaps are kept, if they are to be kept for some hours. -/
def keptFrom (hours : Nat) (now : Millis) : Int := now - hours * 3600000

section cutoff

variable {hours longer : Nat} {now clock : Millis} {policy : GapPolicy}

theorem word_eq_self_iff {n : Int} : word n = n ↔ IsWord n := by
  rw [word, wordCount, Int.bmod_def, IsWord, openEnd]
  split <;> omega

/-- The retention time wraps around, and so does the time to forget by: it is the word of the exact time. -/
theorem cutoff_retentionOfHours (h : policy.retention = retentionOfHours hours) :
    policy.cutoff clock = word (keptFrom hours clock) := by
  have hwhole : (wordCount : Int) ∣ (clock - retentionOfHours hours) - keptFrom hours clock := by
    rw [retentionOfHours, plainWord, keptFrom, wordCount]
    omega
  rw [GapPolicy.cutoff, h, word, word, word, Int.sub_bmod_bmod, Int.bmod_eq_bmod_iff_bmod_sub_eq_zero]
  exact Int.bmod_eq_zero_of_dvd hwhole

/-- A retention time may wrap around to none at all. -/
theorem retentionOfHours_eq_zero_iff : retentionOfHours hours = 0 ↔ wordCount / 16 ∣ hours := by
  rw [retentionOfHours, plainWord, wordCount]
  omega

/-- The longer gaps are to be kept, the earlier is the time; it is a word unless it is too early. -/
theorem IsWord.keptFrom_of_le (hnow : IsWord now) (hle : hours ≤ longer)
    (h : IsWord (keptFrom longer now)) : IsWord (keptFrom hours now) := by
  rw [IsWord, keptFrom] at *
  omega

theorem keptFrom_anti (h : hours ≤ longer) : keptFrom longer now ≤ keptFrom hours now := by
  rw [keptFrom, keptFrom]
  omega

/-- A retention time that wraps around to none is too long for its time to be a word. -/
theorem not_dvd_of_isWord (hhours : 0 < hours) (hnow : IsWord now) (h : IsWord (keptFrom hours now)) :
    ¬wordCount / 16 ∣ hours := by
  rw [IsWord, openEnd] at hnow
  rw [IsWord, keptFrom] at h
  rw [wordCount]
  omega

theorem keptFrom_lt_of_not_isWord (hnow : IsWord now) (h : ¬IsWord (keptFrom hours now)) {time : Int}
    (htime : IsWord time) : keptFrom hours now < time := by
  rw [IsWord, keptFrom] at *
  omega

end cutoff

/-! ## what is forgotten -/

/-- The row is that of a gap that was filled or skipped. -/
def GapRow.IsSettled (row : GapRow) : Prop :=
  row.status = GapStatus.filled.code ∨ row.status = GapStatus.skipped.code

instance (row : GapRow) : Decidable row.IsSettled := by unfold GapRow.IsSettled; infer_instance

/-- The row is to be forgotten: its gap was settled, and last touched before the exact time. -/
def GapRow.IsDue (hours : Nat) (now : Millis) (row : GapRow) : Prop :=
  row.IsSettled ∧ row.updateTime < keptFrom hours now

instance (hours : Nat) (now : Millis) (row : GapRow) : Decidable (row.IsDue hours now) := by
  unfold GapRow.IsDue; infer_instance

section table

variable {hours longer : Nat} {now : Millis} {policy patient : GapPolicy} {rows : List GapRow}

theorem isPurgeable_iff {cutoff : Int} {row : GapRow} :
    Store.isPurgeable cutoff row = true ↔ row.IsSettled ∧ row.updateTime < cutoff := by
  rw [Store.isPurgeable, GapRow.IsSettled, Bool.and_eq_true, Bool.or_eq_true, decide_eq_true_iff,
    decide_eq_true_iff, decide_eq_true_iff]

/-- What is kept is what is not older than the word of the exact time. -/
theorem purged_eq_filter (h : policy.retention = retentionOfHours hours) :
    purged policy now rows = rows.filter fun row =>
      wordCount / 16 ∣ hours ∨ ¬(row.IsSettled ∧ row.updateTime < word (keptFrom hours now)) := by
  rw [purged, h, cutoff_retentionOfHours h]
  split
  · next hzero =>
    have hwhole := retentionOfHours_eq_zero_iff.1 hzero
    simp only [hwhole, true_or, decide_true, List.filter_true]
  · next hzero =>
    have hwhole := mt retentionOfHours_eq_zero_iff.2 hzero
    refine List.filter_congr fun row _ => ?_
    rw [Bool.eq_iff_iff, Bool.not_eq_true', ← Bool.not_eq_true, isPurgeable_iff, decide_eq_true_iff]
    exact (or_iff_right hwhole).symm

/-- If the exact time is a word, what is forgotten is what is to be forgotten. -/
theorem purged_of_isWord (hhours : 0 < hours) (hnow : IsWord now) (hword : IsWord (keptFrom hours now))
    (h : policy.retention = retentionOfHours hours) :
    purged policy now rows = rows.filter fun row => ¬row.IsDue hours now := by
  rw [purged_eq_filter h, word_eq_self_iff.2 hword]
  refine List.filter_congr fun row _ => ?_
  rw [Bool.eq_iff_iff, decide_eq_true_iff, decide_eq_true_iff, GapRow.IsDue]
  exact or_iff_right (not_dvd_of_isWord hhours hnow hword)

/-- It is so too if the retention time comes to none, or if nothing is older than the word that the exact
time wraps around to. -/
theorem purged_eq_iff (hhours : 0 < hours) (hnow : IsWord now)
    (hdates : ∀ row ∈ rows, IsWord row.updateTime) (h : policy.retention = retentionOfHours hours) :
    (purged policy now rows = rows.filter fun row => ¬row.IsDue hours now) ↔
      IsWord (keptFrom hours now) ∨ wordCount / 16 ∣ hours ∨
        ∀ row ∈ rows, row.IsSettled → word (keptFrom hours now) ≤ row.updateTime := by
  by_cases hword : IsWord (keptFrom hours now)
  · exact iff_of_true (purged_of_isWord hhours hnow hword h) (Or.inl hword)
  · -- no time is as early as the exact one, so nothing is to be forgotten
    have hnone : ∀ row ∈ rows, decide (¬row.IsDue hours now) = true := fun row hrow =>
      decide_eq_true fun hdue =>
        Int.lt_irrefl _ (Int.lt_trans hdue.2 (keptFrom_lt_of_not_isWord hnow hword (hdates row hrow)))
    have hkept : ∀ row : GapRow, ¬(row.IsSettled ∧ row.updateTime < word (keptFrom hours now)) ↔
        (row.IsSettled → word (keptFrom hours now) ≤ row.updateTime) := fun row => by
      rw [not_and, Int.not_lt]
    rw [purged_eq_filter h, List.filter_eq_self.2 hnone, List.filter_eq_self, or_iff_right hword]
    constructor
    · intro hall
      by_cases hwhole : wordCount / 16 ∣ hours
      · exact Or.inl hwhole
      · exact Or.inr fun row hrow =>
          (hkept row).1 ((of_decide_eq_true (hall row hrow)).resolve_left hwhole)
    · rintro (hwhole | hall) row hrow
      · exact decide_eq_true (Or.inl hwhole)
      · exact decide_eq_true (Or.inr ((hkept row).2 (hall row hrow)))

/-- A longer retention keeps what a shorter one keeps, as far as its time is a word. -/
theorem purged_sublist (hhours : 0 < hours) (hnow : IsWord now) (hle : hours ≤ longer)
    (hword : IsWord (keptFrom longer now)) (h : policy.retention = retentionOfHours hours)
    (hlonger : patient.retention = retentionOfHours longer) :
    (purged policy now rows).Sublist (purged patient now rows) := by
  rw [purged_of_isWord hhours hnow (hnow.keptFrom_of_le hle hword) h,
    purged_of_isWord (Nat.lt_of_lt_of_le hhours hle) hnow hword hlonger]
  refine List.monotone_filter_right _ fun row hkept => ?_
  rw [decide_eq_true_iff] at hkept ⊢
  exact fun hdue => hkept ⟨hdue.1, Int.lt_of_lt_of_le hdue.2 (keptFrom_anti hle)⟩

end table

/-! ## a cycle -/

/-- The service with another retention time, in hours. -/
def Service.retaining (service : Service) (hours : Nat) : Service :=
  service.varied service.config.channels hours

/-- Any retention time is accepted. -/
theorem Service.check_retaining (service : Service) (hours : Nat) :
    (service.retaining hours).config.check = service.config.check := rfl

section cycle

variable {service after : Service} {disturbance : Disturbance} {circumstances : Circumstances}
  {store left : Store} {report : CycleReport} {rows : List GapRow} {log : Numbered ChangeRow} {hours : Nat}

/-- A cycle forgets the settled gaps that are older than the word of the exact time to forget by.  These are
exactly those that are older than the retention time, unless the exact time is no word and a settled gap is
older than the word it wraps around to.  Where it does not wrap around, a longer retention forgets nothing
that a shorter one keeps. -/
theorem retention_honoured_iff (hhours : service.config.routing.gapRetention = hours)
    (hpositive : 0 < hours) (hnow : IsWord circumstances.now) (hgaps : store.gaps = some rows)
    (hdates : ∀ row ∈ rows, IsWord row.updateTime) (hchanges : store.changes = some log)
    (hcommit : service.cycleBy (service.disturbed circumstances.stalls disturbance) circumstances store =
      (.ok report, after, left)) :
    ∃ course settling settled kept,
      service.Went (service.disturbed circumstances.stalls disturbance) circumstances.now store course ∧
      (settleGaps service.gapPolicy course.gaps course.state.coverage circumstances.visibility
        circumstances.now circumstances.now).on course.ended =
          (.ok settling, course.ended.withGaps settled) ∧
      left = course.ended.withGaps kept ∧
      (kept = settled.filter fun row => wordCount / 16 ∣ hours ∨
        ¬(row.IsSettled ∧ row.updateTime < word (keptFrom hours circumstances.now))) ∧
      ((kept = settled.filter fun row => ¬row.IsDue hours circumstances.now) ↔
        IsWord (keptFrom hours circumstances.now) ∨ wordCount / 16 ∣ hours ∨
          ∀ row ∈ settled, row.IsSettled → word (keptFrom hours circumstances.now) ≤ row.updateTime) ∧
      (service.gapPolicy.cutoff circumstances.now = keptFrom hours circumstances.now ↔
        IsWord (keptFrom hours circumstances.now)) ∧
      ∀ longer, hours ≤ longer → IsWord (keptFrom longer circumstances.now) →
        ∃ other otherAfter otherKept,
          (service.retaining longer).cycleBy
              ((service.retaining longer).disturbed circumstances.stalls disturbance) circumstances store =
            (.ok other, otherAfter, course.ended.withGaps otherKept) ∧ kept.Sublist otherKept := by
  have hretention : service.gapPolicy.retention = retentionOfHours hours := by
    rw [← hhours]
    rfl
  obtain ⟨course, gaps, hwent, hreconcile, -, -⟩ := cycleBy_eq_ok.1 hcommit
  obtain ⟨before, hloaded, -, hended, hlog⟩ := hwent.given hgaps hchanges
  let on : Grounds := ⟨service.gapPolicy, course.state.coverage, circumstances.visibility,
    circumstances.now, log⟩
  obtain ⟨count, hleft⟩ := reconcile_on on hended hlog circumstances.now course.gaps
  rw [hreconcile, Prod.mk.injEq] at hleft
  have hsettling : (settleGaps on.policy course.gaps on.coverage on.visibility on.now
      circumstances.now).on course.ended = (.ok (on.report course.gaps),
        course.ended.withGaps (on.settled circumstances.now course.gaps before)) :=
    settleGaps_on hended hlog _ _
  have hsettled : ∀ row ∈ on.settled circumstances.now course.gaps before, IsWord row.updateTime := by
    intro row hrow
    obtain hold | htouched := old_or_touched hloaded row hrow
    · exact hdates row hold
    · rw [htouched]
      exact hnow
  refine ⟨course, _, _, _, hwent, hsettling, hleft.2, purged_eq_filter hretention,
    purged_eq_iff hpositive hnow hsettled hretention, ?_, fun longer hle hword => ?_⟩
  · rw [cutoff_retentionOfHours hretention, word_eq_self_iff]
  · -- the same passes are made, and the same gaps settled
    have hother : (service.retaining longer).Went
        ((service.retaining longer).disturbed circumstances.stalls disturbance) circumstances.now store
        course := by
      rw [Service.retaining, Service.disturbed_varied]
      exact ⟨hwent.gaps, hwent.snapshots, hwent.nodes, hwent.turns, hwent.ended⟩
    let patient : Grounds := { on with policy := (service.retaining longer).gapPolicy }
    obtain ⟨otherCount, hotherLeft⟩ := reconcile_on patient hended hlog circumstances.now course.gaps
    refine ⟨_, _, _, cycleBy_eq_ok.2 ⟨course, _, hother, hotherLeft, rfl, rfl⟩, ?_⟩
    rw [show patient.settled = on.settled from on.settled_of_staleAfter rfl]
    exact purged_sublist hpositive hnow hle hword hretention rfl

/-- A gap that was filled at the start of time, and one above it that is still open. -/
def filledStore : Store := shopStore [⟨1, 9, "OK", 0, 0⟩, ⟨10, openEnd, "GP", 0, 0⟩] []

/-- An hour and a little more after the start of time. -/
def hourLater : Circumstances := ⟨.known none, 3600001, []⟩

/-- The gap is forgotten if it was to be kept for one hour only. -/
theorem retention_honoured_iff_filledStore :
    ∃ report after left other otherAfter otherLeft kept otherKept,
      (shopService.retaining 1).cycleBy ((shopService.retaining 1).disturbed hourLater.stalls diskFull)
        hourLater filledStore = (.ok report, after, left) ∧
      (shopService.retaining 2).cycleBy ((shopService.retaining 2).disturbed hourLater.stalls diskFull)
        hourLater filledStore = (.ok other, otherAfter, otherLeft) ∧
      left.gaps = some kept ∧ otherLeft.gaps = some otherKept ∧ kept.Sublist otherKept ∧
      ∀ row ∈ kept, ¬row.IsDue 1 hourLater.now := by
  have hcommits : ((shopService.retaining 1).cycleBy
      ((shopService.retaining 1).disturbed hourLater.stalls diskFull) hourLater
      filledStore).1.toOption.isSome = true := by decide +kernel
  have hnow : IsWord hourLater.now := by unfold IsWord; decide
  have hgaps : filledStore.gaps = some [⟨1, 9, "OK", 0, 0⟩, ⟨10, openEnd, "GP", 0, 0⟩] := rfl
  have hchanges : filledStore.changes = some ⟨[], 0⟩ := rfl
  have hhours : (shopService.retaining 1).config.routing.gapRetention = 1 := rfl
  cases hrun : (shopService.retaining 1).cycleBy
      ((shopService.retaining 1).disturbed hourLater.stalls diskFull) hourLater filledStore with
  | mk result rest =>
      rw [hrun] at hcommits
      cases result with
      | error fault => contradiction
      | ok report =>
          obtain ⟨course, settling, settled, kept, -, -, hleft, -, hforgets, -, hlonger⟩ :=
            retention_honoured_iff hhours Nat.one_pos hnow hgaps (by unfold IsWord; decide) hchanges hrun
          obtain ⟨other, otherAfter, otherKept, hother, hsublist⟩ :=
            hlonger 2 (by decide) (by unfold IsWord; decide)
          refine ⟨report, rest.1, rest.2, other, otherAfter, _, kept, otherKept, rfl, hother, ?_, rfl,
            hsublist, fun row hrow => ?_⟩
          · rw [hleft]
            rfl
          · rw [hforgets.2 (Or.inl (by unfold IsWord; decide))] at hrow
            exact of_decide_eq_true (List.mem_filter.1 hrow).2

/-- A gap that is to be kept for an hour is kept, and one that is to be kept for ages is forgotten at once.
The time to forget by wraps around into the future. -/
theorem long_retention_forgets :
    (∀ hours, (shopService.retaining hours).config.check = .ok ()) ∧
    ¬IsWord (keptFrom 5124095576030 calm.now) ∧
    ((shopService.retaining 1).cycle calm filledStore).2.2.gaps = filledStore.gaps ∧
    ((shopService.retaining 5124095576030).cycle calm filledStore).1.toOption.map (·.gaps.purged) = some 1 ∧
    ((shopService.retaining 5124095576030).cycle calm filledStore).2.2.gaps =
      some [⟨10, openEnd, "GP", 0, 0⟩] := by
  refine ⟨fun hours => (shopService.check_retaining hours).trans (by decide),
    by unfold IsWord; decide, ?_, ?_, ?_⟩ <;> decide +kernel

end cycle

end ChangeRouting
