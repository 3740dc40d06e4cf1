import ChangeRouting.Proofs.Service.InStep
import ChangeRouting.Proofs.Service.Lots

/-!
# ChangeRouting.Proofs.Service.Abreast

Two cycles beside each other, over the same channels in any order.

* `presents_turns` — every turn finds a store that looks like the one the first turn found;
* `matches_turnOf` — two turns of a channel that read the same on such stores end alike and send the same;
* `agreeOn_of_went` — so two cycles do the same on such a channel;
* `same_lots` — and leave the same batches and the same watermark on it.
-/

namespace ChangeRouting

/-- The pass of a turn found no id left for a batch. -/
def Turn.Short (run : Run) (turn : Turn) : Prop :=
  ((run turn.channel).on turn.before).1 = .error outOfIds

/-- Two turns ended alike and sent the same. -/
structure Service.Matches (service : Service) (lookups : Lookups) (gaps otherGaps : List Gap)
    (turn other : Turn) : Prop where
  outcome : turn.outcome = other.outcome
  consigned : ∀ node,
    service.consigned lookups gaps turn node = service.consigned lookups otherGaps other node

/-- Two cycles did the same on a channel: its pass got equally far and sent the same. -/
structure Service.AgreeOn (service : Service) (channel : String) (course other : Course) : Prop where
  reach : course.state.coverage.reach? channel = other.state.coverage.reach? channel
  sent : ∀ node,
    (course.turns.filter (·.channel.id = channel)).flatMap
        (service.consigned course.lookups course.gaps · node) =
      (other.turns.filter (·.channel.id = channel)).flatMap
        (service.consigned other.lookups other.gaps · node)

/-! ## turns beside each other -/

section turns

variable {service : Service} {stalls : List (String × Nat)} {lookups : Lookups}
  {gaps otherGaps : List Gap} {channel : Channel} {channels : List Channel} {store other : Store}
  {hidden : List TableName} {seen : View} {log : Numbered ChangeRow}

/-- A pass leaves the changes alone. -/
theorem changes_turnOf (channel : Channel) :
    (turnOf (service.passes stalls lookups gaps) channel store).after.changes = store.changes :=
  congrArg Prod.snd (@given_turnOf service stalls .none lookups gaps channel store)

/-- Whatever becomes of a pass, the store looks the same after it. -/
theorem presents_turnOf (hblind : service.Blind hidden) (hstore : store.Presents hidden seen)
    (hlog : store.changes = some log) (hasc : log.rows.Pairwise (·.id < ·.id)) (channel : Channel) :
    (turnOf (service.passes stalls lookups gaps) channel store).after.Presents hidden seen := by
  cases houtcome : (turnOf (service.passes stalls lookups gaps) channel store).outcome with
  | none =>
      rw [turnOf_after_of_none houtcome]
      exact hstore
  | some outcome =>
      have hpass : (service.pass lookups gaps (stalls.lookup channel.id) channel).on store =
          (.ok outcome, (turnOf (service.passes stalls lookups gaps) channel store).after) :=
        turnOf_eq_ok houtcome
      have hbeside : Together (LookAlike hidden seen)
          ((service.pass lookups gaps (stalls.lookup channel.id) channel).on store)
          ((service.pass lookups gaps (stalls.lookup channel.id) channel).on store) :=
        pass_together hblind _ ⟨hstore, hstore⟩ rfl (ascending_read hlog hasc)
      rw [hpass] at hbeside
      exact hbeside.of_ok.2.store

/-- Every turn finds a store that looks like the first, with the same changes. -/
theorem presents_turns (hblind : service.Blind hidden) (hstore : store.Presents hidden seen)
    (hlog : store.changes = some log) (hasc : log.rows.Pairwise (·.id < ·.id)) {turn : Turn}
    (h : turn ∈ turns (service.passes stalls lookups gaps) channels store) :
    turn.before.Presents hidden seen ∧ turn.before.changes = some log := by
  induction channels generalizing store with
  | nil => exact (List.not_mem_nil h).elim
  | cons channel channels ih =>
      rw [turns, List.mem_cons] at h
      cases h with
      | inl heq =>
          rw [heq, turnOf_before]
          exact ⟨hstore, hlog⟩
      | inr hmem =>
          exact ih (presents_turnOf hblind hstore hlog hasc channel)
            ((changes_turnOf channel).trans hlog) hmem

/-- Two turns of a channel that read the same end alike, if neither is short of ids. -/
theorem matches_turnOf (hblind : service.Blind hidden) (halike : LookAlike hidden seen store other)
    (hreading : (service.readingOf gaps channel store).content =
      (service.readingOf otherGaps channel other).content)
    (hasc : (service.readingOf gaps channel store).changes.Pairwise (·.id < ·.id))
    (hlong : ((service.passes stalls lookups gaps channel).on store).1 ≠ .error outOfIds)
    (hotherLong : ((service.passes stalls lookups otherGaps channel).on other).1 ≠ .error outOfIds) :
    service.Matches lookups gaps otherGaps (turnOf (service.passes stalls lookups gaps) channel store)
      (turnOf (service.passes stalls lookups otherGaps) channel other) := by
  have hbeside : Together (LookAlike hidden seen) ((service.passes stalls lookups gaps channel).on store)
      ((service.passes stalls lookups otherGaps channel).on other) :=
    pass_together hblind (stalls.lookup channel.id) halike hreading hasc
  cases hone : (service.passes stalls lookups gaps channel).on store with
  | mk result after =>
      cases htwo : (service.passes stalls lookups otherGaps channel).on other with
      | mk otherResult otherAfter =>
          rw [hone, htwo] at hbeside
          rw [hone] at hlong
          rw [htwo] at hotherLong
          cases hbeside with
          | done outcome halike' =>
              rw [turnOf_of_ok hone, turnOf_of_ok htwo]
              refine ⟨rfl, fun node => ?_⟩
              simp only [Service.consigned, answers_of_passes hblind halike hreading hasc hone htwo]
          | failed fault =>
              rw [turnOf_of_error hone, turnOf_of_error htwo]
              exact ⟨rfl, fun _ => rfl⟩
          | short => exact absurd rfl hlong
          | otherShort => exact absurd rfl hotherLong

/-- What a pass reads does not change while the changes do not. -/
theorem readingOf_of_changes (hlog : store.changes = some log) (hother : other.changes = some log) :
    service.readingOf gaps channel store = service.readingOf gaps channel other :=
  read_congr rfl hlog hother rfl

end turns

/-! ## cycles beside each other -/

section cycles

variable {service : Service} {circumstances : Circumstances} {store other left otherLeft : Store}
  {course otherCourse : Course} {channel : String} {others : List Channel} {hidden : List TableName}
  {seen : View} {log otherLog : Numbered ChangeRow}

/-- Two cycles with one turn each on a channel, or none, do the same on it if the turns match. -/
theorem agreeOn_of_matches (hids : (course.turns.map (·.channel.id)).Nodup)
    (hotherIds : (otherCourse.turns.map (·.channel.id)).Nodup)
    (hlookups : otherCourse.lookups = course.lookups)
    (hthere : channel ∈ course.turns.map (·.channel.id) ↔ channel ∈ otherCourse.turns.map (·.channel.id))
    (hmatches : ∀ turn ∈ course.turns, ∀ otherTurn ∈ otherCourse.turns, turn.channel.id = channel →
      otherTurn.channel.id = channel →
        service.Matches course.lookups course.gaps otherCourse.gaps turn otherTurn) :
    service.AgreeOn channel course otherCourse := by
  by_cases hmem : channel ∈ course.turns.map (·.channel.id)
  · obtain ⟨turn, hturn, rfl⟩ := List.mem_map.1 hmem
    obtain ⟨otherTurn, hotherTurn, hsame⟩ := List.mem_map.1 (hthere.1 hmem)
    have hmatch := hmatches turn hturn otherTurn hotherTurn rfl hsame
    have hreach := reach?_through hids hturn {}
    have hotherReach := reach?_through hotherIds hotherTurn {}
    have hfilter := filter_key_eq hids hturn
    have hotherFilter := filter_key_eq hotherIds hotherTurn
    rw [hsame] at hotherReach hotherFilter
    refine ⟨?_, fun node => ?_⟩
    · rw [Course.state, Course.state, hreach, hotherReach, Turn.reach, Turn.reach, hmatch.outcome]
    · rw [hfilter, hotherFilter, List.flatMap_singleton, List.flatMap_singleton, hlookups]
      exact hmatch.consigned node
  · have hother : channel ∉ otherCourse.turns.map (·.channel.id) := fun h => hmem (hthere.2 h)
    have hnone : ∀ turns : List Turn, channel ∉ turns.map (·.channel.id) →
        turns.filter (·.channel.id = channel) = [] := by
      intro turns hnot
      refine List.filter_eq_nil_iff.2 fun turn hturn => ?_
      simp only [decide_eq_true_eq]
      exact fun hsame => hnot (List.mem_map.2 ⟨turn, hturn, hsame⟩)
    refine ⟨?_, fun node => ?_⟩
    · rw [Course.state, Course.state, reach?_through_of_not_mem hmem, reach?_through_of_not_mem hother]
    · rw [hnone _ hmem, hnone _ hother, List.flatMap_nil, List.flatMap_nil]

/-- Two cycles over the same channels do the same on a channel where they read the same. -/
theorem agreeOn_of_went (hblind : service.Blind hidden) (hperm : others.Perm service.config.channels)
    (hids : (service.config.channels.map Channel.id).Nodup)
    (hwent : service.Went (service.passes circumstances.stalls) circumstances.now store course)
    (hother : (service.arranged others).Went (service.passes circumstances.stalls) circumstances.now
      other otherCourse)
    (hlookups : otherCourse.lookups = course.lookups)
    (halike : LookAlike hidden seen course.loaded otherCourse.loaded)
    (hlog : course.loaded.changes = some log) (hasc : log.rows.Pairwise (·.id < ·.id))
    (hotherLog : otherCourse.loaded.changes = some otherLog)
    (hotherAsc : otherLog.rows.Pairwise (·.id < ·.id))
    (hlong : ∀ turn ∈ course.turns,
      ¬turn.Short (service.passes circumstances.stalls course.lookups course.gaps))
    (hotherLong : ∀ turn ∈ otherCourse.turns,
      ¬turn.Short (service.passes circumstances.stalls otherCourse.lookups otherCourse.gaps))
    (hreading : ∀ candidate ∈ service.channels, candidate.id = channel →
      (service.readingOf course.gaps candidate course.loaded).content =
        (service.readingOf otherCourse.gaps candidate otherCourse.loaded).content) :
    service.AgreeOn channel course otherCourse := by
  have hchannels : (otherCourse.turns.map Turn.channel).Perm (course.turns.map Turn.channel) := by
    rw [hwent.map_channel, hother.map_channel]
    exact hperm.filter _
  have hotherIds : ((service.arranged others).config.channels.map Channel.id).Nodup :=
    (hperm.map Channel.id).nodup_iff.2 hids
  refine agreeOn_of_matches (nodup_turns_of hids hwent) (nodup_turns_of hotherIds hother) hlookups ?_ ?_
  · have hmap : ∀ turns : List Turn, turns.map (·.channel.id) = (turns.map Turn.channel).map Channel.id :=
      fun turns => (List.map_map ..).symm
    rw [hmap, hmap]
    exact ((hchannels.map Channel.id).mem_iff).symm
  · intro turn hturn otherTurn hotherTurn hid hotherId
    have hmem : turn.channel ∈ service.channels := hwent.map_channel ▸ List.mem_map_of_mem hturn
    have hotherMem : otherTurn.channel ∈ service.channels := by
      rw [← hwent.map_channel]
      exact hchannels.mem_iff.1 (List.mem_map_of_mem hotherTurn)
    have hsame : otherTurn.channel = turn.channel :=
      List.inj_on_of_nodup_map hids (List.mem_filter.1 hotherMem).1 (List.mem_filter.1 hmem).1
        (hotherId.trans hid.symm)
    have hturns := hwent.turns
    have hotherTurns := hother.turns
    rw [hturns] at hturn
    rw [hotherTurns, hlookups] at hotherTurn
    have hself := eq_turnOf_of_mem hturn
    have hotherSelf := eq_turnOf_of_mem hotherTurn
    rw [hsame] at hotherSelf
    obtain ⟨hpresents, hbefore⟩ := presents_turns hblind halike.store hlog hasc hturn
    obtain ⟨hotherPresents, hotherBefore⟩ :=
      presents_turns hblind halike.other hotherLog hotherAsc hotherTurn
    have hread : (service.readingOf course.gaps turn.channel turn.before).content =
        (service.readingOf otherCourse.gaps turn.channel otherTurn.before).content := by
      rw [readingOf_of_changes hbefore hlog, readingOf_of_changes hotherBefore hotherLog]
      exact hreading turn.channel hmem hid
    have hfull : ((service.passes circumstances.stalls course.lookups otherCourse.gaps turn.channel).on
        otherTurn.before).1 ≠ .error outOfIds := by
      rw [← hlookups, ← hsame]
      exact hotherLong otherTurn (hotherTurns ▸ hlookups ▸ hotherTurn)
    rw [hself, hotherSelf]
    exact matches_turnOf hblind ⟨hpresents, hotherPresents⟩ hread (ascending_read hbefore hasc)
      (hlong turn (hturns ▸ hturn)) hfull

/-- What a turn sends does not depend on the other channels. -/
theorem consigned_arranged (lookups : Lookups) (gaps : List Gap) (turn : Turn) (node : String) :
    (service.arranged others).consigned lookups gaps turn node =
      service.consigned lookups gaps turn node := by
  have hanswers : ∀ channel changes s, (service.arranged others).answers lookups channel changes s =
      service.answers lookups channel changes s := by
    intro channel changes
    induction changes with
    | nil => exact fun _ => rfl
    | cons change changes ih =>
        intro s
        simp only [Service.answers, ih, Service.decide_arranged, Service.routeChange_arranged]
  simp only [Service.consigned, Service.recordOf, hanswers]
  rfl

/-- Cycles that start from the same batches and do the same on a channel leave the same batches on it, up
to their ids, and the same watermark. -/
theorem same_lots {book : Book} {marks : List (String × Int)} {report otherReport : GapReport}
    (hagree : service.AgreeOn channel course otherCourse) (hissued : book.Issued)
    (hevents : book.EventsIssued) (hbook : store.Shows book) (hotherBook : other.Shows book)
    (hmarks : store.watermarks = some marks) (hotherMarks : other.watermarks = some marks)
    (hwent : service.Went (service.passes circumstances.stalls) circumstances.now store course)
    (hreconcile : (reconcile service.gapPolicy course.gaps course.state.coverage
      circumstances.visibility circumstances.now circumstances.now).on course.ended = (.ok report, left))
    (hother : (service.arranged others).Went (service.passes circumstances.stalls) circumstances.now
      other otherCourse)
    (hotherReconcile : (reconcile service.gapPolicy otherCourse.gaps otherCourse.state.coverage
      circumstances.visibility circumstances.now circumstances.now).on otherCourse.ended =
        (.ok otherReport, otherLeft)) :
    (∀ node, otherLeft.lots channel node = left.lots channel node) ∧
      otherLeft.watermarkOf channel = left.watermarkOf channel := by
  rw [← service.passes_arranged others] at hother
  obtain ⟨parcels, later, hstored, hsent⟩ := parcels_of_cycle hbook hwent hreconcile
  obtain ⟨otherParcels, otherLater, hotherStored, hotherSent⟩ :=
    parcels_of_cycle hotherBook hother hotherReconcile
  have hsame : ∀ node, (parcelsFor channel node otherParcels).map Parcel.items =
      (parcelsFor channel node parcels).map Parcel.items := by
    intro node
    rw [hsent, hotherSent, hagree.sent]
    simp only [consigned_arranged]
  constructor
  · intro node
    rw [hstored.shows.lots_eq, hotherStored.shows.lots_eq,
      lots_of_takes hstored.takes hissued hevents, lots_of_takes hotherStored.takes hissued hevents,
      hsame]
  · have hids : ∀ id, id ∈ idsOn channel otherParcels ↔ id ∈ idsOn channel parcels := by
      intro id
      rw [mem_idsOn, mem_idsOn]
      simp only [hsame]
    rw [watermarkOf_of_stored hstored hmarks, watermarkOf_of_stored hotherStored hotherMarks,
      max?_congr hids]

end cycles

end ChangeRouting
