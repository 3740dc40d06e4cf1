import ChangeRouting.Proofs.Config.Check
import ChangeRouting.Proofs.Gap.Overlap
import ChangeRouting.Proofs.Service.Turns
import ChangeRouting.Query.Plain

/-!
# ChangeRouting.Proofs.Service.Failure

Failed passes.

* `Disturbance` — what may befall the passes of a cycle: a pass may break off after any work on the store;
* `given_storeAfter` — however the passes end, the gaps and the changes are what they were;
* `failed_passes_leave_no_trace` — a committed cycle did what the cycle without the failed channels does,
  apart from the gaps, and the rows of the failed channels stay in gaps.
-/

namespace ChangeRouting

/-- What may befall the passes of a cycle. -/
structure Disturbance where
  /-- By channel, work after which the pass breaks off with a fault. -/
  broken : String → Option (Work Fault)
  /-- By channel, other limits on the changes and the batches of a pass. -/
  limits : String → Option (Nat × Nat)

/-- Nothing befalls the passes. -/
def Disturbance.none : Disturbance := ⟨fun _ => Option.none, fun _ => Option.none⟩

/-- The channel with other limits on a pass. -/
def Channel.limited (channel : Channel) : Option (Nat × Nat) → Channel
  | some (changes, batches) => { channel with maxChanges := changes, maxBatches := batches }
  | none => channel

namespace Service

/-- The passes of a cycle under a disturbance. -/
def disturbed (service : Service) (stalls : List (String × Nat)) (disturbance : Disturbance) :
    Passes := fun lookups gaps channel =>
  match disturbance.broken channel.id with
  | some work => work >>= throw
  | none => service.pass lookups gaps (stalls.lookup channel.id)
      (channel.limited (disturbance.limits channel.id))

/-- The service without some of its channels. -/
def without (service : Service) (ids : List String) : Service :=
  { service with
    config := { service.config with channels := service.config.channels.filter (·.id ∉ ids) } }

theorem disturbed_none (service : Service) (stalls : List (String × Nat)) :
    service.disturbed stalls .none = service.passes stalls := rfl

/-- The service with other channels and another retention time, in hours. -/
def varied (service : Service) (channels : List Channel) (hours : Nat) : Service :=
  { service with
    config := { service.config with
      channels := channels
      routing := { service.config.routing with gapRetention := hours } } }

section varied

variable (service : Service) (channels : List Channel) (hours : Nat)

theorem ask_varied (nodes : List Node) (store : Store) (change : Change) (values : ColumnValues)
    (scope : RoutingScope) (routers : List ResolvedRouter) :
    (service.varied channels hours).ask nodes store change values scope routers =
      service.ask nodes store change values scope routers := by
  induction routers generalizing scope with
  | nil => rfl
  | cons resolved routers ih =>
      simp only [ask, ih]
      rfl

theorem decide_varied (lookups : Lookups) (store : Store) (change : Change) (scope : RoutingScope) :
    (service.varied channels hours).decide lookups store change scope =
      service.decide lookups store change scope := by
  simp only [decide, ask_varied]
  rfl

theorem routeChange_varied (lookups : Lookups) (change : Change) :
    (service.varied channels hours).routeChange lookups change = service.routeChange lookups change := by
  simp only [routeChange, decide_varied]

theorem routeChanges_varied (lookups : Lookups) (channel : Channel) (changes : List Change) :
    (service.varied channels hours).routeChanges lookups channel changes =
      service.routeChanges lookups channel changes := by
  induction changes with
  | nil => rfl
  | cons change changes ih => simp only [routeChanges, routeChange_varied, ih]

/-- A pass depends neither on the other channels nor on the retention time. -/
theorem pass_varied (lookups : Lookups) (gaps : List Gap) (stalledAfter : Option Nat)
    (channel : Channel) :
    (service.varied channels hours).pass lookups gaps stalledAfter channel =
      service.pass lookups gaps stalledAfter channel := by
  simp only [pass, routeReading, routeChanges_varied]
  rfl

theorem disturbed_varied (stalls : List (String × Nat)) (disturbance : Disturbance) :
    (service.varied channels hours).disturbed stalls disturbance = service.disturbed stalls disturbance := by
  funext lookups gaps channel
  simp only [disturbed, pass_varied]

end varied

/-- The service with other channels, or with its channels in another order. -/
def arranged (service : Service) (channels : List Channel) : Service :=
  { service with config := { service.config with channels := channels } }

section arranged

variable (service : Service) (channels : List Channel)

theorem decide_arranged (lookups : Lookups) (store : Store) (change : Change) (scope : RoutingScope) :
    (service.arranged channels).decide lookups store change scope =
      service.decide lookups store change scope :=
  service.decide_varied channels _ lookups store change scope

theorem routeChange_arranged (lookups : Lookups) (change : Change) :
    (service.arranged channels).routeChange lookups change = service.routeChange lookups change :=
  service.routeChange_varied channels _ lookups change

theorem disturbed_arranged (stalls : List (String × Nat)) (disturbance : Disturbance) :
    (service.arranged channels).disturbed stalls disturbance = service.disturbed stalls disturbance :=
  service.disturbed_varied channels _ stalls disturbance

theorem passes_arranged (stalls : List (String × Nat)) :
    (service.arranged channels).passes stalls = service.passes stalls := by
  rw [← disturbed_none, disturbed_arranged, disturbed_none]

end arranged

theorem disturbed_without (service : Service) (ids : List String) (stalls : List (String × Nat))
    (disturbance : Disturbance) :
    (service.without ids).disturbed stalls disturbance = service.disturbed stalls disturbance :=
  service.disturbed_arranged _ stalls disturbance

theorem channels_without (service : Service) (ids : List String) :
    (service.without ids).channels = service.channels.filter (·.id ∉ ids) := by
  simp only [channels, without, List.filter_filter]
  exact List.filter_congr fun channel _ => Bool.and_comm _ _

/-- Remembering passes does not depend on the other channels. -/
theorem rememberAll_without (service : Service) (ids : List String)
    (passes : List (String × PassOutcome)) :
    (service.without ids).rememberAll passes = (service.rememberAll passes).without ids := by
  induction passes generalizing service with
  | nil => rfl
  | cons entry passes ih =>
      have hstep : (service.without ids).remember entry.1 entry.2 =
          (service.remember entry.1 entry.2).without ids := by
        have hmarks : (service.without ids).marksOf entry.1 = service.marksOf entry.1 := rfl
        rw [remember, remember, hmarks]
        cases marksAfter (service.marksOf entry.1) entry.2 <;> rfl
      exact (congrArg (rememberAll · passes) hstep).trans (ih _)

end Service

/-! ## what the passes leave alone -/

section given

variable {service : Service} {stalls : List (String × Nat)} {disturbance : Disturbance}
  {lookups : Lookups} {gaps : List Gap}

/-- Work that breaks off is not committed: a turn that was is that of a pass under its limits. -/
theorem pass_of_turnOf {channel : Channel} {store : Store} {outcome : PassOutcome}
    (h : (turnOf (service.disturbed stalls disturbance lookups gaps) channel store).outcome =
      some outcome) :
    (service.pass lookups gaps (stalls.lookup channel.id)
      (channel.limited (disturbance.limits channel.id))).on store =
        (.ok outcome, (turnOf (service.disturbed stalls disturbance lookups gaps) channel store).after) := by
  have hrun := turnOf_eq_ok h
  generalize (turnOf (service.disturbed stalls disturbance lookups gaps) channel store).after = after at hrun
  rw [Service.disturbed] at hrun
  split at hrun
  · obtain ⟨_, _, -, hthrow⟩ := Work.bind_on_eq_ok.1 hrun
    cases hthrow
  · exact hrun

/-- The same for a turn of a cycle. -/
theorem pass_of_turn {turn : Turn} {outcome : PassOutcome}
    (hturn : turn = turnOf (service.disturbed stalls disturbance lookups gaps) turn.channel turn.before)
    (houtcome : turn.outcome = some outcome) :
    (service.pass lookups gaps (stalls.lookup turn.channel.id)
      (turn.channel.limited (disturbance.limits turn.channel.id))).on turn.before =
        (.ok outcome, turn.after) := by
  rw [hturn] at houtcome
  have hrun := pass_of_turnOf houtcome
  rw [← hturn] at hrun
  exact hrun

/-- A pass leaves the gaps and the changes alone, whatever befalls it. -/
theorem given_turnOf (channel : Channel) (store : Store) :
    (turnOf (service.disturbed stalls disturbance lookups gaps) channel store).after.given =
      store.given := by
  cases houtcome :
      (turnOf (service.disturbed stalls disturbance lookups gaps) channel store).outcome with
  | none => rw [turnOf_after_of_none houtcome]
  | some outcome =>
      have hrun := pass_of_turnOf houtcome
      have hkeeps := keeps_pass service lookups gaps (stalls.lookup channel.id)
        (channel.limited (disturbance.limits channel.id)) store
      rw [Work.on] at hrun
      rw [hrun] at hkeeps
      exact hkeeps

theorem given_storeAfter (channels : List Channel) (store : Store) :
    (storeAfter (service.disturbed stalls disturbance lookups gaps) channels store).given =
      store.given := by
  induction channels generalizing store with
  | nil => rfl
  | cons channel channels ih => rw [storeAfter, ih, given_turnOf]

/-- So each turn finds the gaps and the changes that the first one found. -/
theorem given_of_mem_turns {channels : List Channel} {store : Store} {turn : Turn}
    (h : turn ∈ turns (service.disturbed stalls disturbance lookups gaps) channels store) :
    turn.before.given = store.given := by
  induction channels generalizing store with
  | nil => exact (List.not_mem_nil h).elim
  | cons channel channels ih =>
      rw [turns, List.mem_cons] at h
      cases h with
      | inl heq => rw [heq, turnOf_before]
      | inr hmem => exact (ih hmem).trans (given_turnOf channel store)

end given

/-! ## a cycle with failed passes -/

section failure

variable {service after : Service} {disturbance : Disturbance} {circumstances : Circumstances}
  {store left : Store} {report : CycleReport} {course : Course} {rows : List GapRow}
  {log : Numbered ChangeRow}

/-- The gaps are brought up to date on the table and the log that the passes were given. -/
theorem Service.Went.given
    (h : service.Went (service.disturbed circumstances.stalls disturbance) circumstances.now store course)
    (hgaps : store.gaps = some rows) (hchanges : store.changes = some log) :
    ∃ before, Loaded circumstances.now rows before ∧ course.gaps = activeIn before ∧
      course.ended.gaps = some before ∧ course.ended.changes = some log := by
  obtain ⟨before, hloaded, hstore, hactive⟩ := loadGaps_eq_ok hgaps h.gaps
  have hgiven : course.ended.given = course.loaded.given := by
    rw [h.ended]
    exact given_storeAfter _ _
  rw [hstore, Store.given, Store.given, Prod.mk.injEq] at hgiven
  exact ⟨before, hloaded, hactive, hgiven.1, hgiven.2.trans hchanges⟩

theorem Service.Went.map_channel {passes : Passes} {now : Millis}
    (h : service.Went passes now store course) :
    course.turns.map Turn.channel = service.channels := by
  rw [h.turns]
  exact map_channel_turns

theorem nodup_turns_of {passes : Passes} {now : Millis}
    (hids : (service.config.channels.map Channel.id).Nodup)
    (h : service.Went passes now store course) : (course.turns.map (·.channel.id)).Nodup := by
  have hmap : course.turns.map (·.channel.id) = service.channels.map Channel.id := by
    rw [← h.map_channel, List.map_map]
    rfl
  rw [hmap]
  exact (List.filter_sublist.map _).nodup hids

theorem nodup_turns {passes : Passes} {now : Millis} (haccepted : service.config.check = .ok ())
    (h : service.Went passes now store course) : (course.turns.map (·.channel.id)).Nodup :=
  nodup_turns_of (nodup_channels haccepted) h

/-- The channels whose pass failed, in the order of their turns. -/
def failedIn (turns : List Turn) : List String := (turns.filter (·.outcome.isNone)).map (·.channel.id)

/-- A turn failed if its channel is among those that failed. -/
theorem mem_failedIn {turns : List Turn} {turn : Turn} (hids : (turns.map (·.channel.id)).Nodup)
    (h : turn ∈ turns) : turn.channel.id ∈ failedIn turns ↔ turn.outcome = none := by
  rw [failedIn, List.mem_map]
  constructor
  · rintro ⟨other, hother, heq⟩
    rw [List.mem_filter, Option.isNone_iff_eq_none] at hother
    rw [← List.inj_on_of_nodup_map hids hother.1 h heq]
    exact hother.2
  · intro hnone
    exact ⟨turn, List.mem_filter.2 ⟨h, by rw [hnone]; rfl⟩, rfl⟩

/-- Without the failed channels, those are left whose pass was committed. -/
theorem channels_without_failed {passes : Passes} {now : Millis}
    (haccepted : service.config.check = .ok ()) (h : service.Went passes now store course) :
    (service.without (failedIn course.turns)).channels =
      (committed course.turns).map Turn.channel := by
  have hids := nodup_turns haccepted h
  rw [Service.channels_without, ← h.map_channel, List.filter_map, committed]
  congr 1
  refine List.filter_congr fun turn hturn => ?_
  have hfailed := mem_failedIn hids hturn
  simp only [Function.comp_apply]
  cases houtcome : turn.outcome with
  | none => simp [hfailed.2 houtcome]
  | some outcome => simp [hfailed, houtcome]

theorem filterMap_committed (f : Turn → Option β) (turns : List Turn)
    (h : ∀ turn ∈ turns, turn.outcome = none → f turn = none) :
    (committed turns).filterMap f = turns.filterMap f := by
  induction turns with
  | nil => rfl
  | cons turn turns ih =>
      have hrest := ih fun other hother => h other (List.mem_cons_of_mem _ hother)
      rw [committed] at hrest ⊢
      cases houtcome : turn.outcome with
      | none =>
          have hturn := h turn List.mem_cons_self houtcome
          simp [houtcome, hturn, hrest]
      | some outcome => simp [houtcome, List.filterMap_cons, hrest]

/-- The turns that committed leave behind what all turns leave behind. -/
theorem state_committed (turns : List Turn) :
    (CycleState.through {} (committed turns)).passes = (CycleState.through {} turns).passes ∧
      (CycleState.through {} (committed turns)).hooks = (CycleState.through {} turns).hooks ∧
      (CycleState.through {} (committed turns)).failed = [] := by
  refine ⟨?_, ?_, ?_⟩
  · rw [passes_through, passes_through, filterMap_committed]
    intro turn _ hnone
    rw [hnone]
    rfl
  · rw [hooks_through, hooks_through, filterMap_committed]
    exact fun turn _ hnone => hnone
  · rw [failed_through, List.nil_append, List.map_eq_nil_iff, List.filter_eq_nil_iff]
    intro turn hturn
    rw [committed, List.mem_filter] at hturn
    rw [Bool.not_eq_true, Option.isNone_eq_false_iff]
    exact hturn.2

/-- What a cycle without some channels has in common with the cycle that took their passes back. -/
structure SameButGaps (report other : CycleReport) (after otherAfter : Service) (left otherLeft : Store) :
    Prop where
  /-- The tables agree, up to the gaps. -/
  store : otherLeft = { left with gaps := otherLeft.gaps }
  refreshes : other.refreshes = report.refreshes
  channels : other.channels = report.channels
  marks : otherAfter.marks = after.marks
  failed : other.failed = []

/-- Without the failed channels the cycle commits, and only the gaps may differ. -/
theorem exists_cycle_without_failed (haccepted : service.config.check = .ok ())
    (hgaps : store.gaps = some rows) (hchanges : store.changes = some log)
    (hwent : service.Went (service.disturbed circumstances.stalls disturbance) circumstances.now store
      course) {gaps : GapReport}
    (hreconcile : (reconcile service.gapPolicy course.gaps course.state.coverage
      circumstances.visibility circumstances.now circumstances.now).on course.ended = (.ok gaps, left)) :
    ∃ other otherAfter otherLeft,
      (service.without (failedIn course.turns)).cycleBy
          ((service.without (failedIn course.turns)).disturbed circumstances.stalls disturbance)
          circumstances store = (.ok other, otherAfter, otherLeft) ∧
        SameButGaps (Service.reportOf course.state gaps) other
          (service.rememberAll course.state.passes) otherAfter left otherLeft := by
  let run := service.disturbed circumstances.stalls disturbance course.lookups course.gaps
  have hturns : turns run ((committed course.turns).map Turn.channel) course.loaded =
      committed course.turns ∧
      storeAfter run ((committed course.turns).map Turn.channel) course.loaded = course.ended := by
    rw [hwent.turns, hwent.ended]
    exact turns_committed
  let other : Course :=
    ⟨course.gaps, course.lookups, course.loaded, committed course.turns, course.ended⟩
  have hother : (service.without (failedIn course.turns)).Went
      ((service.without (failedIn course.turns)).disturbed circumstances.stalls disturbance)
      circumstances.now store other := by
    rw [Service.disturbed_without]
    refine ⟨hwent.gaps, hwent.snapshots, hwent.nodes, ?_, ?_⟩
    · rw [channels_without_failed haccepted hwent]
      exact hturns.1.symm
    · rw [channels_without_failed haccepted hwent]
      exact hturns.2.symm
  obtain ⟨before, -, -, hended, hlog⟩ := hwent.given hgaps hchanges
  obtain ⟨count, hleft⟩ := reconcile_on ⟨service.gapPolicy, course.state.coverage,
    circumstances.visibility, circumstances.now, log⟩ hended hlog circumstances.now course.gaps
  obtain ⟨otherCount, hotherLeft⟩ := reconcile_on ⟨service.gapPolicy, other.state.coverage,
    circumstances.visibility, circumstances.now, log⟩ hended hlog circumstances.now course.gaps
  obtain ⟨hpasses, hhooks, hfailed⟩ := state_committed course.turns
  refine ⟨_, _, _, cycleBy_eq_ok.2 ⟨other, _, hother, hotherLeft, rfl, rfl⟩, ?_⟩
  rw [hreconcile, Prod.mk.injEq] at hleft
  refine ⟨?_, ?_, ?_, ?_, hfailed⟩
  · rw [hleft.2]
    rfl
  · show other.state.hooks.pending.map _ = course.state.hooks.pending.map _
    rw [Course.state, Course.state, hhooks]
  · show other.state.passes.map _ = course.state.passes.map _
    rw [Course.state, Course.state, hpasses]
  · show ((service.without _).rememberAll other.state.passes).marks = _
    rw [Service.rememberAll_without, Course.state, Course.state, hpasses]
    rfl

/-- A row of a failed channel is not confirmed. -/
theorem not_confirms_failed {row : ChangeRow} (haccepted : service.config.check = .ok ())
    (hwent : service.Went (service.disturbed circumstances.stalls disturbance) circumstances.now store
      course) (hfailed : row.channel ∈ failedIn course.turns) :
    course.state.coverage.confirms row.channel row.id = false := by
  rw [failedIn, List.mem_map] at hfailed
  obtain ⟨turn, hturn, hchannel⟩ := hfailed
  rw [List.mem_filter, Option.isNone_iff_eq_none] at hturn
  have hreach := reach?_through (nodup_turns haccepted hwent) hturn.1 {}
  rw [Turn.reach, hturn.2, hchannel] at hreach
  rw [Coverage.confirms, Course.state, hreach]
  rfl

/-- A row of a committed pass is confirmed as far as the pass got. -/
theorem confirms_committed {row : ChangeRow} {turn : Turn} {outcome : PassOutcome}
    (haccepted : service.config.check = .ok ())
    (hwent : service.Went (service.disturbed circumstances.stalls disturbance) circumstances.now store
      course) (hturn : turn ∈ course.turns) (houtcome : turn.outcome = some outcome)
    (hchannel : row.channel = turn.channel.id) (hid : row.id ≤ outcome.through) :
    course.state.coverage.confirms row.channel row.id = true := by
  have hreach := reach?_through (nodup_turns haccepted hwent) hturn {}
  rw [Turn.reach, houtcome, ← hchannel] at hreach
  rw [Coverage.confirms, Course.state, hreach]
  exact decide_eq_true hid

/-- A failed pass leaves no trace and holds nobody back. -/
theorem failed_passes_leave_no_trace (haccepted : service.config.check = .ok ())
    (hgaps : store.gaps = some rows) (hkey : Keyed rows) (hchanges : store.changes = some log)
    (hcommit : service.cycleBy (service.disturbed circumstances.stalls disturbance) circumstances store =
      (.ok report, after, left)) :
    ∃ course leftRows,
      service.Went (service.disturbed circumstances.stalls disturbance) circumstances.now store course ∧
      left.gaps = some leftRows ∧
      report.failed = failedIn course.turns ∧
      report.failed.Sublist (service.config.channels.map Channel.id) ∧
      (∃ other otherAfter otherLeft,
        (service.without report.failed).cycleBy
            ((service.without report.failed).disturbed circumstances.stalls disturbance)
            circumstances store = (.ok other, otherAfter, otherLeft) ∧
          SameButGaps report other after otherAfter left otherLeft) ∧
      (∀ id, Held (activeRanges rows) id → Held (course.gaps.map Gap.range) id) ∧
      (ProperLog log.rows →
        (SingleOpen (activeRanges rows) → ∀ row ∈ log.rows, row.channel ∈ report.failed →
          Held (course.gaps.map Gap.range) row.id → Held (activeRanges leftRows) row.id) ∧
        ∀ turn ∈ course.turns, ∀ outcome, turn.outcome = some outcome →
          ∀ row ∈ log.rows, row.channel = turn.channel.id → row.id ≤ outcome.through →
            ¬Held (activeRanges leftRows) row.id) := by
  obtain ⟨course, gaps, hwent, hreconcile, rfl, rfl⟩ := cycleBy_eq_ok.1 hcommit
  obtain ⟨before, hloaded, hactive, hended, hlog⟩ := hwent.given hgaps hchanges
  let on : Grounds := ⟨service.gapPolicy, course.state.coverage, circumstances.visibility,
    circumstances.now, log⟩
  obtain ⟨count, hleft⟩ := reconcile_on on hended hlog circumstances.now course.gaps
  have hreport : (Service.reportOf course.state gaps).failed = failedIn course.turns := by
    show course.state.failed = _
    rw [Course.state, failed_through, List.nil_append]
    rfl
  rw [hreconcile, Prod.mk.injEq] at hleft
  refine ⟨course, purged service.gapPolicy circumstances.now
    (on.settled circumstances.now course.gaps before), hwent, ?_, hreport, ?_, ?_, ?_, ?_⟩
  · rw [hleft.2]
    rfl
  · have hsub : (failedIn course.turns).Sublist (course.turns.map (·.channel.id)) :=
      List.filter_sublist.map _
    rw [hreport]
    refine hsub.trans ?_
    have hmap : course.turns.map (·.channel.id) = service.channels.map Channel.id := by
      rw [← hwent.map_channel, List.map_map]
      rfl
    rw [hmap]
    exact List.filter_sublist.map _
  · rw [hreport]
    exact exists_cycle_without_failed haccepted hgaps hchanges hwent hreconcile
  · intro id hid
    rw [hactive, held_perm (ranges_activeIn before)]
    exact hloaded.held hkey hid
  · intro hproper
    have hproper' : ProperLog on.log.rows := hproper
    rw [activeRanges_purged, hactive]
    constructor
    · intro hone row hrow hfailed hheld
      rw [hreport] at hfailed
      rw [held_perm (ranges_activeIn before)] at hheld
      refine held_settled_of_unconfirmed hproper' (hloaded.keyed hkey) (hloaded.singleOpen hkey hone)
        ⟨row, hrow, rfl⟩ ?_ hheld
      rintro ⟨other, hother, hid, hconf⟩
      rw [hproper.eq_of_id hother hrow hid] at hconf
      have hnot := not_confirms_failed haccepted hwent hfailed
      exact absurd (hnot.symm.trans hconf) Bool.false_ne_true
    · intro turn hturn outcome houtcome row hrow hchannel hid
      refine not_held_settled hproper' (hloaded.exists_open hkey) ⟨row, hrow, rfl, ?_⟩
      exact confirms_committed haccepted hwent hturn houtcome hchannel hid

end failure

/-! ## two channels -/

/-- A configuration of two channels without routers. -/
def shop : Configuration where
  node := ⟨"00000", "corp"⟩
  store := ⟨"routing.db", 5000⟩
  routing := { gapRetention := 0 }
  channels := [{ id := "orders" }, { id := "prices" }]

/-- The service of two channels without routers. -/
def shopService : Service := ⟨shop, .builtin (.plain 0) shop.routing.topologyMarker, [], []⟩

/-- A row of the log. -/
def shopRow (id : Int) (event channel : String) : ChangeRow :=
  ⟨id, "item", event, none, none, none, 1, channel, none, none, 0⟩

/-- A store with some gaps and some rows. -/
def shopStore (gaps : List GapRow) (rows : List ChangeRow) : Store where
  snapshots := some []
  changes := some ⟨rows, 0⟩
  gaps := some gaps
  batches := some ⟨[], 0⟩
  events := some []
  watermarks := some []
  nodes := some []
  redirects := some []
  foreign := []
  hasEventStatement := false

/-- A cycle while no transaction is open. -/
def calm : Circumstances := ⟨.known none, 5, []⟩

/-- The pass on one channel breaks off after it has stored a batch and its member. -/
def diskFull : Disturbance where
  broken id :=
    if id = "prices" then
      some do
        let batch ← Work.statement (Store.insertBatch (.new unroutedNode "prices"))
        Work.update (Store.insertEvent ⟨20, batch, unknownRouter⟩)
        return .storeReport "disk full"
    else none
  limits _ := none

/-- A row of each channel in one open gap. -/
def shopLog : List ChangeRow := [shopRow 10 "I" "orders", shopRow 20 "I" "prices"]

/-- The row of the broken pass stays in a gap. -/
theorem failed_passes_leave_no_trace_diskFull :
    ∃ report after left leftRows,
      shopService.cycleBy (shopService.disturbed calm.stalls diskFull) calm
          (shopStore [⟨1, openEnd, "GP", 0, 0⟩] shopLog) = (.ok report, after, left) ∧
      report.failed = ["prices"] ∧ left.gaps = some leftRows ∧ Held (activeRanges leftRows) 20 := by
  have hfailed : (shopService.cycleBy (shopService.disturbed calm.stalls diskFull) calm
      (shopStore [⟨1, openEnd, "GP", 0, 0⟩] shopLog)).1.toOption.map CycleReport.failed =
        some ["prices"] := by decide +kernel
  have hgaps : (shopStore [⟨1, openEnd, "GP", 0, 0⟩] shopLog).gaps =
      some [⟨1, openEnd, "GP", 0, 0⟩] := rfl
  have hchanges : (shopStore [⟨1, openEnd, "GP", 0, 0⟩] shopLog).changes = some ⟨shopLog, 0⟩ := rfl
  have hkey : Keyed [⟨1, openEnd, "GP", 0, 0⟩] := by unfold Keyed; decide
  have haccepted : shopService.config.check = .ok () := by decide
  have hproper : ProperLog shopLog := ⟨by decide, by unfold IsWord; decide⟩
  cases hrun : shopService.cycleBy (shopService.disturbed calm.stalls diskFull) calm
      (shopStore [⟨1, openEnd, "GP", 0, 0⟩] shopLog) with
  | mk result rest =>
      rw [hrun] at hfailed
      cases result with
      | error fault => contradiction
      | ok report =>
          have hprices : report.failed = ["prices"] := Option.some.inj hfailed
          obtain ⟨course, leftRows, -, hleft, -, -, -, hheld, hstay⟩ :=
            failed_passes_leave_no_trace haccepted hgaps hkey hchanges hrun
          refine ⟨report, rest.1, rest.2, leftRows, rfl, hprices, hleft, ?_⟩
          refine (hstay hproper).1 (by decide) (shopRow 20 "I" "prices") (by decide) ?_ ?_
          · rw [hprices]
            decide
          · exact hheld 20 (by decide)

/-- With two open gaps a row of a failed channel is lost to both, and behind a row at the very end of the
ids the new open gap wraps around and takes the row in again. -/
theorem rows_move_in_crowded_gaps :
    (Held (activeRanges [⟨1, openEnd, "GP", 0, 0⟩, ⟨50, openEnd, "GP", 0, 0⟩]) 20 ∧
      (shopService.cycle calm (shopStore [⟨1, openEnd, "GP", 0, 0⟩, ⟨50, openEnd, "GP", 0, 0⟩]
          [shopRow 10 "I" "orders", shopRow 20 "?" "prices"])).1.toOption.map CycleReport.failed =
        some ["prices"] ∧
      (shopService.cycle calm (shopStore [⟨1, openEnd, "GP", 0, 0⟩, ⟨50, openEnd, "GP", 0, 0⟩]
          [shopRow 10 "I" "orders", shopRow 20 "?" "prices"])).2.2.gaps.map
        (fun rows => decide (Held (activeRanges rows) 20)) = some false) ∧
    (shopService.cycle calm (shopStore [⟨1, openEnd, "GP", 0, 0⟩]
        [shopRow openEnd "I" "orders"])).1.toOption.map CycleReport.failed = some [] ∧
      (shopService.cycle calm (shopStore [⟨1, openEnd, "GP", 0, 0⟩]
        [shopRow openEnd "I" "orders"])).2.2.gaps.map
        (fun rows => decide (Held (activeRanges rows) openEnd)) = some true := by
  refine ⟨⟨?_, ?_, ?_⟩, ?_, ?_⟩ <;> decide +kernel

end ChangeRouting
