import ChangeRouting.Proofs.Service.Frame
import ChangeRouting.Proofs.Gap.Reconcile
import ChangeRouting.Service.Cycle

/-!
# ChangeRouting.Proofs.Service.Turns

A cycle as the turns of its channels.

* `Turn`, `turns` — each channel finds the store the turns before it left; a failed pass leaves the
  store it found;
* `cycleBy_eq_ok` — a cycle commits exactly if its gaps load and its tables can be read, and then its
  turns say what it did;
* `turns_committed` — without the channels that failed, the turns of the others are the same.
-/

namespace ChangeRouting

/-- The turn of a channel in a cycle. -/
structure Turn where
  channel : Channel
  /-- The store the pass found. -/
  before : Store
  /-- What the pass left behind, unless it failed. -/
  outcome : Option PassOutcome
  after : Store

/-- How a pass is made on each channel. -/
abbrev Run := Channel → Work PassOutcome

/-- The turn of a channel on a store. -/
def turnOf (run : Run) (channel : Channel) (store : Store) : Turn :=
  match (run channel).on store with
  | (.ok outcome, after) => ⟨channel, store, some outcome, after⟩
  | (.error _, _) => ⟨channel, store, none, store⟩

/-- The turns of channels, one after the other. -/
def turns (run : Run) : List Channel → Store → List Turn
  | [], _ => []
  | channel :: rest, store => turnOf run channel store :: turns run rest (turnOf run channel store).after

/-- The store after the turns of channels. -/
def storeAfter (run : Run) : List Channel → Store → Store
  | [], store => store
  | channel :: rest, store => storeAfter run rest (turnOf run channel store).after

/-- How far a cycle has come after some turns. -/
def CycleState.through (state : CycleState) (turns : List Turn) : CycleState :=
  turns.foldl (fun state turn => state.noted turn.channel turn.outcome) state

section turns

variable {run : Run} {channel : Channel} {channels : List Channel} {store : Store} {turn : Turn}

@[simp] theorem turnOf_channel : (turnOf run channel store).channel = channel := by
  rw [turnOf]
  split <;> rfl

@[simp] theorem turnOf_before : (turnOf run channel store).before = store := by
  rw [turnOf]
  split <;> rfl

theorem turnOf_of_ok {outcome : PassOutcome} {after : Store}
    (h : (run channel).on store = (.ok outcome, after)) :
    turnOf run channel store = ⟨channel, store, some outcome, after⟩ := by
  rw [turnOf, h]

theorem turnOf_of_error {fault : Fault} {after : Store}
    (h : (run channel).on store = (.error fault, after)) :
    turnOf run channel store = ⟨channel, store, none, store⟩ := by
  rw [turnOf, h]

theorem turnOf_eq_ok {outcome : PassOutcome} (h : (turnOf run channel store).outcome = some outcome) :
    (run channel).on store = (.ok outcome, (turnOf run channel store).after) := by
  rw [turnOf] at h ⊢
  cases hrun : (run channel).on store with
  | mk result after =>
      cases result with
      | error fault => rw [hrun] at h; cases h
      | ok other =>
          rw [hrun] at h
          cases h
          rfl

/-- A failed pass leaves the store it found. -/
theorem turnOf_after_of_none (h : (turnOf run channel store).outcome = none) :
    (turnOf run channel store).after = store := by
  rw [turnOf] at h ⊢
  cases hrun : (run channel).on store with
  | mk result after =>
      cases result with
      | error fault => rfl
      | ok other => rw [hrun] at h; cases h

theorem map_channel_turns : (turns run channels store).map Turn.channel = channels := by
  induction channels generalizing store with
  | nil => rfl
  | cons channel channels ih =>
      rw [turns, List.map_cons, ih, turnOf_channel]

/-- Each turn is that of its channel on the store it found. -/
theorem eq_turnOf_of_mem (h : turn ∈ turns run channels store) :
    turn = turnOf run turn.channel turn.before := by
  induction channels generalizing store with
  | nil => exact (List.not_mem_nil h).elim
  | cons channel channels ih =>
      rw [turns, List.mem_cons] at h
      cases h with
      | inl heq =>
          subst heq
          rw [turnOf_channel, turnOf_before]
      | inr hmem => exact ih hmem

/-! ## the turns of a cycle -/

theorem passWithin_on (state : CycleState) :
    (Service.passWithin run state channel).on store =
      (.ok (state.noted channel (turnOf run channel store).outcome),
        (turnOf run channel store).after) := by
  have hguard : (tryCatch (some <$> (run channel).guarded) fun _ => pure none :
      Work (Option PassOutcome)).on store =
        (.ok (turnOf run channel store).outcome, (turnOf run channel store).after) := by
    rw [turnOf, Work.on, run_tryCatch, run_map]
    have hon := Work.guarded_on (run channel) store
    rw [Work.on] at hon
    rw [hon]
    cases (run channel).on store with
    | mk result after => cases result <;> rfl
  rw [Service.passWithin, Work.bind_on, hguard]
  rfl

theorem foldlM_passWithin_on (state : CycleState) :
    (channels.foldlM (Service.passWithin run) state).on store =
      (.ok (state.through (turns run channels store)), storeAfter run channels store) := by
  induction channels generalizing state store with
  | nil => rfl
  | cons channel channels ih =>
      rw [List.foldlM_cons, Work.bind_on, passWithin_on]
      simp only [ih, CycleState.through, turns, storeAfter, List.foldl_cons, turnOf_channel]

end turns

/-- How a cycle went up to its reconciliation. -/
structure Course where
  gaps : List Gap
  lookups : Lookups
  /-- The store once the gaps were loaded. -/
  loaded : Store
  turns : List Turn
  /-- The store after the last turn. -/
  ended : Store

namespace Course

/-- How far the cycle has come after its turns. -/
def state (course : Course) : CycleState := CycleState.through {} course.turns

end Course

/-- A cycle on a store went this way. -/
structure Service.Went (service : Service) (passes : Passes) (now : Millis) (store : Store)
    (course : Course) : Prop where
  gaps : (loadGaps now).on store = (.ok course.gaps, course.loaded)
  snapshots : course.loaded.allSnapshots = .ok course.lookups.snapshots
  nodes : course.loaded.allNodes = .ok course.lookups.nodes
  turns : course.turns =
    ChangeRouting.turns (passes course.lookups course.gaps) service.channels course.loaded
  ended : course.ended =
    storeAfter (passes course.lookups course.gaps) service.channels course.loaded

section cycle

variable {service after : Service} {passes : Passes} {circumstances : Circumstances}
  {store left : Store} {report : CycleReport}

theorem cycleWork_on {course : Course} (h : service.Went passes circumstances.now store course) :
    (service.cycleWork passes circumstances).on store =
      match (reconcile service.gapPolicy course.gaps course.state.coverage circumstances.visibility
          circumstances.now circumstances.now).on course.ended with
      | (.ok gaps, left) => (.ok (course.state, gaps), left)
      | (.error fault, left) => (.error fault, left) := by
  rw [Service.cycleWork, Work.bind_on, h.gaps]
  simp only
  rw [Work.bind_on, Work.query_on, h.snapshots]
  simp only
  rw [Work.bind_on, Work.query_on, h.nodes]
  simp only
  rw [Work.bind_on, foldlM_passWithin_on, ← h.turns, ← h.ended]
  simp only
  rw [Work.bind_on, Course.state]
  cases (reconcile service.gapPolicy course.gaps (CycleState.through {} course.turns).coverage
      circumstances.visibility circumstances.now circumstances.now).on course.ended with
  | mk outcome left => cases outcome <;> rfl

/-- A cycle commits exactly if it can begin and its gaps can be brought up to date. -/
theorem cycleBy_eq_ok :
    service.cycleBy passes circumstances store = (.ok report, after, left) ↔
      ∃ course gaps, service.Went passes circumstances.now store course ∧
        (reconcile service.gapPolicy course.gaps course.state.coverage circumstances.visibility
          circumstances.now circumstances.now).on course.ended = (.ok gaps, left) ∧
        report = Service.reportOf course.state gaps ∧
        after = service.rememberAll course.state.passes := by
  constructor
  · intro h
    rw [Service.cycleBy, Work.guarded_on] at h
    cases hwork : (service.cycleWork passes circumstances).on store with
    | mk outcome ended =>
        cases outcome with
        | error fault =>
            rw [hwork] at h
            simp only [Prod.mk.injEq, reduceCtorEq, false_and] at h
        | ok result =>
            obtain ⟨gaps, loaded, hgaps, hrest⟩ := Work.bind_on_eq_ok.1 hwork
            obtain ⟨snapshots, mid, hsnapshots, hrest⟩ := Work.bind_on_eq_ok.1 hrest
            obtain ⟨nodes, mid', hnodes, -⟩ := Work.bind_on_eq_ok.1 hrest
            rw [Work.query_on, Prod.mk.injEq] at hsnapshots hnodes
            obtain ⟨hsnapshots, rfl⟩ := hsnapshots
            obtain ⟨hnodes, -⟩ := hnodes
            let course : Course := ⟨gaps, ⟨snapshots, nodes⟩, loaded,
              turns (passes ⟨snapshots, nodes⟩ gaps) service.channels loaded,
              storeAfter (passes ⟨snapshots, nodes⟩ gaps) service.channels loaded⟩
            have hwent : service.Went passes circumstances.now store course :=
              ⟨hgaps, hsnapshots, hnodes, rfl, rfl⟩
            have hon := cycleWork_on hwent
            cases hreconcile : (reconcile service.gapPolicy course.gaps course.state.coverage
                circumstances.visibility circumstances.now circumstances.now).on course.ended with
            | mk settled last =>
                rw [hwork, hreconcile] at hon
                cases settled with
                | error fault => simp only [Prod.mk.injEq, reduceCtorEq, false_and] at hon
                | ok report =>
                    cases hon
                    rw [hwork] at h
                    cases h
                    exact ⟨course, report, hwent, hreconcile, rfl, rfl⟩
  · rintro ⟨course, gaps, hwent, hreconcile, rfl, rfl⟩
    rw [Service.cycleBy, Work.guarded_on, cycleWork_on hwent, hreconcile]

end cycle

/-! ## what the turns leave behind -/

section noted

variable {state : CycleState} {turns : List Turn}

theorem failed_through (state : CycleState) (turns : List Turn) :
    (state.through turns).failed =
      state.failed ++ (turns.filter (·.outcome.isNone)).map (·.channel.id) := by
  induction turns generalizing state with
  | nil => simp [CycleState.through]
  | cons turn turns ih =>
      have hrest := ih (state.noted turn.channel turn.outcome)
      rw [CycleState.through] at hrest ⊢
      rw [List.foldl_cons, hrest]
      cases houtcome : turn.outcome with
      | none => simp [CycleState.noted, houtcome]
      | some outcome => simp [CycleState.noted, houtcome]

theorem passes_through (state : CycleState) (turns : List Turn) :
    (state.through turns).passes =
      state.passes ++ turns.filterMap fun turn => turn.outcome.map (turn.channel.id, ·) := by
  induction turns generalizing state with
  | nil => simp [CycleState.through]
  | cons turn turns ih =>
      have hrest := ih (state.noted turn.channel turn.outcome)
      rw [CycleState.through] at hrest ⊢
      rw [List.foldl_cons, hrest]
      cases houtcome : turn.outcome with
      | none => simp [CycleState.noted, houtcome]
      | some outcome => simp [CycleState.noted, houtcome]

/-- The passes that are noted are those of the turns that were committed. -/
theorem mem_passes {turns : List Turn} {entry : String × PassOutcome} :
    entry ∈ (CycleState.through {} turns).passes ↔
      ∃ turn ∈ turns, ∃ outcome, turn.outcome = some outcome ∧ (turn.channel.id, outcome) = entry := by
  simp only [passes_through, List.nil_append, List.mem_filterMap, Option.map_eq_some_iff]

theorem hooks_through (state : CycleState) (turns : List Turn) :
    (state.through turns).hooks =
      (turns.filterMap Turn.outcome).foldl (fun hooks outcome => hooks.absorb outcome.hooks)
        state.hooks := by
  induction turns generalizing state with
  | nil => simp [CycleState.through]
  | cons turn turns ih =>
      have hrest := ih (state.noted turn.channel turn.outcome)
      rw [CycleState.through] at hrest ⊢
      rw [List.foldl_cons, hrest]
      cases houtcome : turn.outcome with
      | none => simp [CycleState.noted, houtcome]
      | some outcome => simp [CycleState.noted, houtcome]

/-- How far the pass of a turn got. -/
def Turn.reach (turn : Turn) : Reach :=
  turn.outcome.elim .failed fun outcome => .through outcome.through

theorem coverage_noted (state : CycleState) (turn : Turn) :
    (state.noted turn.channel turn.outcome).coverage =
      state.coverage.record turn.channel.id turn.reach := by
  cases houtcome : turn.outcome with
  | none => simp [CycleState.noted, Turn.reach, houtcome]
  | some outcome => simp [CycleState.noted, Turn.reach, houtcome]

theorem reach?_through_of_not_mem {channel : String}
    (h : channel ∉ turns.map (·.channel.id)) (state : CycleState) :
    (state.through turns).coverage.reach? channel = state.coverage.reach? channel := by
  induction turns generalizing state with
  | nil => rfl
  | cons turn turns ih =>
      rw [List.map_cons, List.mem_cons, not_or] at h
      have hrest := ih h.2 (state.noted turn.channel turn.outcome)
      rw [CycleState.through] at hrest ⊢
      rw [List.foldl_cons, hrest, coverage_noted, Coverage.reach?_record, if_neg (Ne.symm h.1)]

/-- What is known about a channel after its turn is how far its pass got. -/
theorem reach?_through {turn : Turn} (hids : (turns.map (·.channel.id)).Nodup) (h : turn ∈ turns)
    (state : CycleState) :
    (state.through turns).coverage.reach? turn.channel.id = some turn.reach := by
  induction turns generalizing state with
  | nil => exact (List.not_mem_nil h).elim
  | cons other turns ih =>
      rw [List.map_cons, List.nodup_cons] at hids
      rw [List.mem_cons] at h
      cases h with
      | inl h =>
          have hrest := reach?_through_of_not_mem hids.1 (state.noted other.channel other.outcome)
          rw [CycleState.through] at hrest ⊢
          rw [h, List.foldl_cons, hrest, coverage_noted, Coverage.reach?_record, if_pos rfl]
      | inr h =>
          have hrest := ih hids.2 h (state.noted other.channel other.outcome)
          rw [CycleState.through] at hrest ⊢
          rw [List.foldl_cons, hrest]

end noted

/-! ## the turns that committed -/

section committed

variable {run : Run} {channels : List Channel} {store : Store}

/-- The turns whose pass was committed. -/
def committed (turns : List Turn) : List Turn := turns.filter (·.outcome.isSome)

/-- Without the channels whose pass failed, the turns of the others are the same. -/
theorem turns_committed :
    turns run ((committed (turns run channels store)).map Turn.channel) store =
        committed (turns run channels store) ∧
      storeAfter run ((committed (turns run channels store)).map Turn.channel) store =
        storeAfter run channels store := by
  induction channels generalizing store with
  | nil => exact ⟨rfl, rfl⟩
  | cons channel channels ih =>
      obtain ⟨hturns, hstore⟩ := @ih (turnOf run channel store).after
      cases houtcome : (turnOf run channel store).outcome with
      | none =>
          have hsame := turnOf_after_of_none houtcome
          have hcommitted : committed (turns run (channel :: channels) store) =
              committed (turns run channels store) := by
            simp [committed, turns, houtcome, hsame]
          rw [hsame] at hturns hstore
          rw [hcommitted, storeAfter, hsame]
          exact ⟨hturns, hstore⟩
      | some outcome =>
          have hcommitted : committed (turns run (channel :: channels) store) =
              turnOf run channel store ::
                committed (turns run channels (turnOf run channel store).after) := by
            simp [committed, turns, houtcome]
          rw [hcommitted, List.map_cons, turnOf_channel]
          simp only [turns, storeAfter, hturns, hstore, and_self]

end committed

end ChangeRouting
