import ChangeRouting.Proofs.Service.Refreshes
import ChangeRouting.Query.Plain
import ChangeRouting.Service.Transaction

/-!
# ChangeRouting.Proofs.Service.Transaction

A cycle is committed as a whole or leaves nothing, and its refreshes follow the commit.

* `passOn_run` — a pass behind its savepoint is kept or taken back, unless an operation fails;
* `Mirrors` — in a transaction, work on a connection comes to what work on a store comes to, or fails, and
  nothing is committed meanwhile;
* `mirrors_routeInTransaction` — so does all the work of a cycle;
* `cycles_are_atomic` — whichever operations fail, a cycle that fails leaves no trace, and one that does not
  is committed and then refreshes what its committed passes registered.
-/

namespace ChangeRouting

/-! ## the operations -/

section operations

variable {mishaps : Mishaps} {connection : Connection} {pending : OpenTransaction}

theorem operate_run (effect : Connection → Except Fault Connection) :
    (Connected.operate mishaps effect).run.run connection =
      match mishaps connection.operations with
      | some mishap => (.error mishap.fault, { connection with
          operations := connection.operations + 1
          pending := mishap.pending })
      | none =>
        match effect { connection with operations := connection.operations + 1 } with
        | .ok after => (.ok (), after)
        | .error fault => (.error fault, { connection with operations := connection.operations + 1 }) := rfl

theorem attempt_run (work : Connected α) :
    (Connected.attempt work).run.run connection =
      (.ok (work.run.run connection).1, (work.run.run connection).2) := rfl

theorem work_run (work : Work α) (stored : Store) (pending : OpenTransaction) (operations : Nat)
    (happenings : List Happening) :
    (Connected.work work).run.run ⟨stored, some pending, operations, happenings⟩ =
      ((work.on pending.working).1,
        ⟨stored, some { pending with working := (work.on pending.working).2 }, operations, happenings⟩) :=
  rfl

/-- A pass behind its savepoint keeps what it did if it was committed and takes it back if it failed,
unless an operation fails. -/
theorem passOn_run {run : Run} {state : CycleState} {channel : Channel}
    (hpending : connection.pending = some pending) :
    (Connected.passOn mishaps run state channel).run.run connection =
      match mishaps connection.operations, mishaps (connection.operations + 1) with
      | some mishap, _ => (.error mishap.fault, { connection with
          operations := connection.operations + 1
          pending := mishap.pending })
      | none, some mishap => (.error mishap.fault, { connection with
          operations := connection.operations + 2
          pending := mishap.pending })
      | none, none => (.ok (state.noted channel (turnOf run channel pending.working).outcome),
          { connection with
            operations := connection.operations + 2
            pending := some { pending with
              working := (turnOf run channel pending.working).after } }) := by
  obtain ⟨stored, _, operations, happenings⟩ := connection
  cases hpending
  rw [Connected.passOn, run_bind, Connected.savepoint, operate_run]
  simp only
  cases mishaps operations with
  | some mishap => rfl
  | none =>
      simp only [run_bind, attempt_run, work_run, turnOf]
      cases (run channel).on pending.working with
      | mk result after =>
          cases result with
          | ok outcome =>
              simp only [run_bind, Connected.release, operate_run]
              cases mishaps (operations + 1) <;> rfl
          | error fault =>
              simp only [run_bind, Connected.rollbackTo, operate_run]
              cases mishaps (operations + 1) <;> rfl

/-- A transaction begins with the store as it was committed, or nothing begins. -/
theorem begin_run (hidle : connection.pending = none) :
    (Connected.begin mishaps).run.run connection =
      match mishaps connection.operations with
      | some mishap => (.error mishap.fault, { connection with operations := connection.operations + 1 })
      | none => (.ok (), { connection with
          operations := connection.operations + 1
          pending := some ⟨connection.stored, []⟩ }) := by
  obtain ⟨stored, _, operations, happenings⟩ := connection
  cases hidle
  rw [Connected.begin, operate_run]
  simp only
  cases mishaps operations <;> rfl

/-- A commit makes the store of the transaction the one that counts, or nothing is committed. -/
theorem commit_run (hpending : connection.pending = some pending) :
    (Connected.commit mishaps).run.run connection =
      match mishaps connection.operations with
      | some mishap => (.error mishap.fault, { connection with
          operations := connection.operations + 1
          pending := mishap.pending })
      | none => (.ok (), {
          stored := pending.working
          pending := none
          operations := connection.operations + 1
          happenings := connection.happenings ++ [.committed pending.working] }) := by
  obtain ⟨stored, _, operations, happenings⟩ := connection
  cases hpending
  rw [Connected.commit, operate_run]

/-- The refreshes that are pending happen one after the other. -/
theorem happenings_refresh (hooks : Hooks Refresh) :
    (connection.refresh hooks).happenings =
      connection.happenings ++ (hooks.pending.map (·.2)).map .refreshed := by
  obtain ⟨entries⟩ := hooks
  obtain ⟨stored, transaction, operations, happenings⟩ := connection
  simp only [Connection.refresh]
  induction entries generalizing happenings with
  | nil => exact (List.append_nil _).symm
  | cons entry entries ih =>
      rw [List.foldl_cons, ih, List.map_cons, List.map_cons, List.append_assoc]
      rfl

end operations

/-! ## mirrored work -/

/-- In a transaction, work on a connection comes to what work on the store of the transaction comes to, or
fails, and nothing is committed or refreshed meanwhile.  Where no operation fails, it fails only if that
work does. -/
structure Mirrors (mishaps : Mishaps) (connected : Connected α) (work : Work α) : Prop where
  kept : ∀ {connection : Connection} {pending : OpenTransaction}, connection.pending = some pending →
    (connected.run.run connection).2.stored = connection.stored ∧
      (connected.run.run connection).2.happenings = connection.happenings
  ok : ∀ {connection after : Connection} {pending : OpenTransaction} {a : α},
    connection.pending = some pending → connected.run.run connection = (.ok a, after) →
    ∃ left, work.on pending.working = (.ok a, left) ∧
      after.pending = some { pending with working := left }
  calm : (∀ number, mishaps number = none) → ∀ {connection : Connection} {pending : OpenTransaction},
    connection.pending = some pending →
    (connected.run.run connection).1 = (work.on pending.working).1

section mirrors

variable {mishaps : Mishaps}

theorem mirrors_pure (a : α) : Mirrors mishaps (pure a) (pure a) where
  kept := fun _ => ⟨rfl, rfl⟩
  ok := by
    intro connection after pending b hpending h
    cases h
    exact ⟨pending.working, rfl, hpending⟩
  calm := fun _ _ _ _ => rfl

theorem mirrors_work (work : Work α) : Mirrors mishaps (Connected.work work) work where
  kept := by
    rintro ⟨stored, _, operations, happenings⟩ pending ⟨⟩
    exact ⟨rfl, rfl⟩
  ok := by
    rintro ⟨stored, _, operations, happenings⟩ after pending a ⟨⟩ h
    rw [work_run] at h
    cases hwork : work.on pending.working with
    | mk outcome left =>
        rw [hwork] at h
        cases h
        exact ⟨left, rfl, rfl⟩
  calm := by
    rintro - ⟨stored, _, operations, happenings⟩ pending ⟨⟩
    rfl

theorem Mirrors.bind {connected : Connected α} {work : Work α} {next : α → Connected β}
    {following : α → Work β} (h : Mirrors mishaps connected work)
    (hnext : ∀ a, Mirrors mishaps (next a) (following a)) :
    Mirrors mishaps (connected >>= next) (work >>= following) where
  kept := by
    intro connection pending hpending
    have hfirst := h.kept hpending
    rw [run_bind]
    cases hrun : connected.run.run connection with
    | mk outcome mid =>
        rw [hrun] at hfirst
        cases outcome with
        | error fault => exact hfirst
        | ok a =>
            obtain ⟨left, -, hmid⟩ := h.ok hpending hrun
            have hrest := (hnext a).kept hmid
            exact ⟨hrest.1.trans hfirst.1, hrest.2.trans hfirst.2⟩
  ok := by
    intro connection after pending b hpending hrun
    obtain ⟨a, mid, hfirst, hrest⟩ := run_bind_eq_ok.1 hrun
    obtain ⟨middle, hwork, hmid⟩ := h.ok hpending hfirst
    obtain ⟨left, hfollowing, hafter⟩ := (hnext a).ok hmid hrest
    refine ⟨left, ?_, hafter⟩
    rw [Work.bind_on, hwork]
    exact hfollowing
  calm := by
    intro hcalm connection pending hpending
    have hfirst := h.calm hcalm hpending
    rw [run_bind, Work.bind_on]
    cases hrun : connected.run.run connection with
    | mk outcome mid =>
        cases outcome with
        | error fault =>
            rw [hrun] at hfirst
            cases hwork : work.on pending.working with
            | mk other left =>
                rw [hwork] at hfirst
                cases hfirst
                rfl
        | ok a =>
            obtain ⟨left, hwork, hmid⟩ := h.ok hpending hrun
            rw [hwork]
            exact (hnext a).calm hcalm hmid

theorem Mirrors.foldlM {next : β → α → Connected β} {following : β → α → Work β}
    (h : ∀ b a, Mirrors mishaps (next b a) (following b a)) (xs : List α) (b : β) :
    Mirrors mishaps (xs.foldlM next b) (xs.foldlM following b) := by
  induction xs generalizing b with
  | nil => exact mirrors_pure b
  | cons x xs ih =>
      rw [List.foldlM_cons, List.foldlM_cons]
      exact (h b x).bind ih

theorem mirrors_passOn (run : Run) (state : CycleState) (channel : Channel) :
    Mirrors mishaps (Connected.passOn mishaps run state channel)
      (Service.passWithin run state channel) where
  kept := by
    intro connection pending hpending
    rw [passOn_run hpending]
    cases mishaps connection.operations with
    | some mishap => exact ⟨rfl, rfl⟩
    | none => cases mishaps (connection.operations + 1) <;> exact ⟨rfl, rfl⟩
  ok := by
    intro connection after pending a hpending h
    rw [passOn_run hpending] at h
    cases hsave : mishaps connection.operations with
    | some mishap =>
        rw [hsave] at h
        cases h
    | none =>
        cases hend : mishaps (connection.operations + 1) with
        | some mishap =>
            rw [hsave, hend] at h
            cases h
        | none =>
            rw [hsave, hend] at h
            cases h
            exact ⟨_, passWithin_on state, rfl⟩
  calm := by
    intro hcalm connection pending hpending
    rw [passOn_run hpending, passWithin_on, hcalm, hcalm]

/-- All the work of a cycle in its transaction comes to the work of the cycle on the store. -/
theorem mirrors_routeInTransaction (service : Service) (passes : Passes) (circumstances : Circumstances) :
    Mirrors mishaps (service.routeInTransaction passes circumstances mishaps)
      (service.cycleWork passes circumstances) := by
  rw [Service.routeInTransaction, Service.cycleWork]
  refine (mirrors_work _).bind fun gaps => ?_
  refine (mirrors_work _).bind fun snapshots => ?_
  refine (mirrors_work _).bind fun nodes => ?_
  refine (Mirrors.foldlM (fun state channel => mirrors_passOn _ state channel) _ _).bind fun state => ?_
  exact (mirrors_work _).bind fun report => mirrors_pure _

end mirrors

/-! ## the cycle -/

section cycle

variable {service after : Service} {passes : Passes} {circumstances : Circumstances} {mishaps : Mishaps}
  {connection left : Connection}

/-- A cycle leaves no trace, or its work is committed and the refreshes follow.  Where no operation fails, it
leaves no trace only if its work failed. -/
theorem cycleOn_cases (hidle : connection.pending = none) :
    (∃ fault left, service.cycleOn passes circumstances mishaps connection = (.error fault, service, left) ∧
      (left.stored = connection.stored ∧ left.pending = none ∧
        left.happenings = connection.happenings) ∧
      ((∀ number, mishaps number = none) →
        ((service.cycleWork passes circumstances).on connection.stored).1 = .error fault)) ∨
    ∃ state gaps left, service.cycleOn passes circumstances mishaps connection =
        (.ok (Service.reportOf state gaps), service.rememberAll state.passes, left) ∧
      (service.cycleWork passes circumstances).on connection.stored = (.ok (state, gaps), left.stored) ∧
      left.pending = none ∧
      left.happenings = connection.happenings ++
        .committed left.stored :: (state.hooks.pending.map (·.2)).map .refreshed := by
  rw [Service.cycleOn, begin_run hidle]
  cases hbegin : mishaps connection.operations with
  | some mishap =>
      refine Or.inl ⟨_, _, rfl, ⟨rfl, hidle, rfl⟩, fun hcalm => ?_⟩
      rw [hcalm] at hbegin
      cases hbegin
  | none =>
      have hmirrors : Mirrors mishaps _ _ := mirrors_routeInTransaction service passes circumstances
      simp only
      generalize hbegun : ({ connection with
        operations := connection.operations + 1
        pending := some ⟨connection.stored, []⟩ } : Connection) = begun
      have hbegan : begun.pending = some ⟨connection.stored, []⟩ := by rw [← hbegun]
      have hkept := hmirrors.kept hbegan
      have hsame : begun.stored = connection.stored ∧ begun.happenings = connection.happenings := by
        rw [← hbegun]
        exact ⟨rfl, rfl⟩
      rw [hsame.1, hsame.2] at hkept
      cases hrouted : (service.routeInTransaction passes circumstances mishaps).run.run begun with
      | mk outcome routed =>
          rw [hrouted] at hkept
          obtain ⟨hstored, hsilent⟩ := hkept
          cases outcome with
          | error fault =>
              refine Or.inl ⟨_, _, rfl, ⟨hstored, rfl, hsilent⟩, fun hcalm => ?_⟩
              have hfails := hmirrors.calm hcalm hbegan
              rw [hrouted] at hfails
              exact hfails.symm
          | ok result =>
              obtain ⟨working, hwork, hpending⟩ := hmirrors.ok hbegan hrouted
              simp only [commit_run hpending]
              cases hcommit : mishaps routed.operations with
              | some mishap =>
                  refine Or.inl ⟨_, _, rfl, ⟨hstored, rfl, hsilent⟩, fun hcalm => ?_⟩
                  rw [hcalm] at hcommit
                  cases hcommit
              | none =>
                  refine Or.inr ⟨result.1, result.2, _, rfl, hwork, rfl, ?_⟩
                  rw [happenings_refresh, hsilent, List.append_assoc]
                  rfl

/-- A cycle that succeeds is the cycle on the store, committed, with its refreshes behind the commit. -/
theorem cycleOn_eq_ok {report : CycleReport} (hidle : connection.pending = none)
    (h : service.cycleOn passes circumstances mishaps connection = (.ok report, after, left)) :
    service.cycleBy passes circumstances connection.stored = (.ok report, after, left.stored) ∧
      left.pending = none ∧
      left.happenings = connection.happenings ++
        .committed left.stored :: report.refreshes.map .refreshed := by
  obtain ⟨fault, _, hrun, -⟩ | ⟨state, gaps, _, hrun, hwork, hended, hhappened⟩ :=
    @cycleOn_cases service passes circumstances mishaps connection hidle
  · rw [hrun] at h
    cases h
  · rw [hrun] at h
    cases h
    refine ⟨?_, hended, hhappened⟩
    rw [Service.cycleBy, Work.guarded_on, hwork]

/-- Where no operation fails, the cycle on a connection is the cycle on its store. -/
theorem cycleOn_calm (hidle : connection.pending = none) (hcalm : ∀ number, mishaps number = none) :
    ((service.cycleOn passes circumstances mishaps connection).1,
      (service.cycleOn passes circumstances mishaps connection).2.1,
      (service.cycleOn passes circumstances mishaps connection).2.2.stored) =
        service.cycleBy passes circumstances connection.stored := by
  obtain ⟨fault, left, hrun, ⟨hstored, -⟩, hfails⟩ | ⟨state, gaps, left, hrun, hwork, -⟩ :=
    @cycleOn_cases service passes circumstances mishaps connection hidle
  · have hwork := hfails hcalm
    rw [hrun, hstored, Service.cycleBy, Work.guarded_on]
    cases hended : (service.cycleWork passes circumstances).on connection.stored with
    | mk outcome ended =>
        rw [hended] at hwork
        cases hwork
        rfl
  · rw [hrun, Service.cycleBy, Work.guarded_on, hwork]

/-- Whichever operations fail, a cycle that fails leaves the store, the marks and everything else as it was,
and nothing is refreshed.  A cycle that succeeds is committed as a whole, and behind the commit that is
refreshed which its committed passes registered: each refresh once, in the order of first registration over
the channels as they are configured. -/
theorem cycles_are_atomic {disturbance : Disturbance} (hidle : connection.pending = none) :
    (∀ {fault : Fault} {after : Service} {left : Connection},
      service.cycleOn (service.disturbed circumstances.stalls disturbance) circumstances mishaps connection =
        (.error fault, after, left) →
      after = service ∧ left.stored = connection.stored ∧ left.pending = none ∧
        left.happenings = connection.happenings) ∧
    ∀ {report : CycleReport} {after : Service} {left : Connection},
      service.cycleOn (service.disturbed circumstances.stalls disturbance) circumstances mishaps connection =
        (.ok report, after, left) →
      service.cycleBy (service.disturbed circumstances.stalls disturbance) circumstances
          connection.stored = (.ok report, after, left.stored) ∧
        left.pending = none ∧
        left.happenings = connection.happenings ++
          .committed left.stored :: report.refreshes.map .refreshed ∧
        report.refreshes.Nodup ∧
        ∃ course, service.Went (service.disturbed circumstances.stalls disturbance) circumstances.now
            connection.stored course ∧
          course.turns.map Turn.channel = service.channels ∧
          report.refreshes = ((service.recordsIn disturbance course.lookups course.gaps
            course.turns).flatMap (service.registered course.lookups)).eraseDups := by
  constructor
  · intro fault after left h
    obtain ⟨_, _, hrun, hkept, -⟩ | ⟨_, _, _, hrun, -⟩ := @cycleOn_cases service
      (service.disturbed circumstances.stalls disturbance) circumstances mishaps connection hidle
    · rw [hrun] at h
      cases h
      exact ⟨rfl, hkept⟩
    · rw [hrun] at h
      cases h
  · intro report after left h
    obtain ⟨hcycle, hended, hhappened⟩ := cycleOn_eq_ok hidle h
    obtain ⟨course, gaps, hwent, -, hreport, -⟩ := cycleBy_eq_ok.1 hcycle
    have hturns : ∀ turn ∈ course.turns, turn =
        turnOf (service.disturbed circumstances.stalls disturbance course.lookups course.gaps)
          turn.channel turn.before := by
      rw [hwent.turns]
      exact fun turn hturn => eq_turnOf_of_mem hturn
    have hrefreshes : report.refreshes = ((service.recordsIn disturbance course.lookups course.gaps
        course.turns).flatMap (service.registered course.lookups)).eraseDups := by
      rw [hreport]
      exact (tell_of_turns hturns).map_snd
    refine ⟨hcycle, hended, hhappened, ?_, course, hwent, hwent.map_channel, hrefreshes⟩
    rw [hrefreshes]
    exact nodup_eraseDups _

end cycle

/-! ## a changed channel -/

/-- A head office that tells the branches of its channels. -/
def office : Configuration where
  node := ⟨"00000", "corp"⟩
  store := ⟨"routing.db", 5000⟩
  routing := { gapRetention := 0 }
  channels := [{ id := "orders" }, { id := "config" }]
  routers := [{ id := "tell", type := "configurationChanged", sourceGroup := "corp", targetGroup := "branch" }]
  triggers := [{ id := "channels", table := "sym_channel", channel := "config", routers := ["tell"] }]

/-- The service of that office. -/
def officeService : Service where
  config := office
  registry := .builtin (.plain 0) office.routing.topologyMarker
  attached := [("channels", [⟨⟨"tell", "configurationChanged", "corp", "branch", none, true, true, true⟩,
    .topology "sym"⟩])]
  marks := []

/-- A store in which two channels were changed. -/
def officeStore : Store :=
  { shopStore [⟨1, openEnd, "GP", 0, 0⟩]
      [{ shopRow 1 "U" "config" with table := "sym_channel" },
        { shopRow 2 "U" "config" with table := "sym_channel" }] with
    snapshots := some [⟨1, "channels", "sym_channel", "", ""⟩]
    nodes := some [⟨"001", "branch", "1", true, some "00000"⟩] }

/-- The operation of this number fails and ends the transaction. -/
def failing (number : Nat) : Mishaps := fun other =>
  if other = number then some ⟨.storeReport "disk full", none⟩ else none

/-- Where the commit fails nothing is left of the cycle; where it does not, the channels are refreshed once,
behind the commit. -/
theorem cycles_are_atomic_office :
    (∃ fault after left, officeService.cycleOn (officeService.disturbed calm.stalls .none) calm (failing 5)
        ⟨officeStore, none, 0, []⟩ = (.error fault, after, left) ∧
      after = officeService ∧ left.stored = officeStore ∧ left.happenings = []) ∧
    ∃ report after left, officeService.cycleOn (officeService.disturbed calm.stalls .none) calm (failing 6)
        ⟨officeStore, none, 0, []⟩ = (.ok report, after, left) ∧
      left.happenings = [.committed left.stored, .refreshed .flushChannels] := by
  have hidle : (⟨officeStore, none, 0, []⟩ : Connection).pending = none := rfl
  constructor
  · have hfails : (officeService.cycleOn (officeService.disturbed calm.stalls .none) calm (failing 5)
        ⟨officeStore, none, 0, []⟩).1.toOption = none := by decide +kernel
    cases hrun : officeService.cycleOn (officeService.disturbed calm.stalls .none) calm (failing 5)
        ⟨officeStore, none, 0, []⟩ with
    | mk result rest =>
        cases result with
        | ok report =>
            rw [hrun] at hfails
            cases hfails
        | error fault =>
            obtain ⟨hservice, hstored, -, hhappened⟩ := (cycles_are_atomic hidle).1 hrun
            exact ⟨fault, rest.1, rest.2, rfl, hservice, hstored, hhappened⟩
  · have hrefreshes : (officeService.cycleOn (officeService.disturbed calm.stalls .none) calm (failing 6)
        ⟨officeStore, none, 0, []⟩).1.toOption.map CycleReport.refreshes = some [.flushChannels] := by
      decide +kernel
    cases hrun : officeService.cycleOn (officeService.disturbed calm.stalls .none) calm (failing 6)
        ⟨officeStore, none, 0, []⟩ with
    | mk result rest =>
        rw [hrun] at hrefreshes
        cases result with
        | error fault => cases hrefreshes
        | ok report =>
            obtain ⟨-, -, hhappened, -⟩ := (cycles_are_atomic hidle).2 hrun
            rw [Option.some.inj hrefreshes] at hhappened
            exact ⟨report, rest.1, rest.2, rfl, hhappened⟩

end ChangeRouting
