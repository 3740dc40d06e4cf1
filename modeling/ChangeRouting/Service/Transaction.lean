import ChangeRouting.Service.Cycle

/-!
# ChangeRouting.Service.Transaction

A cycle as its connection to the store makes it, operation by operation.

* A cycle is one transaction, and each pass of it runs behind a savepoint.  A pass that fails is rolled
  back to its savepoint; any other fault rolls back the transaction.
* An operation on the transaction may fail for reasons of its own, and then leaves the transaction in any
  state or ends it.  A rollback does not fail.
* The refreshes that passes asked for happen behind the commit.
-/

namespace ChangeRouting

/-- A transaction that is not committed yet. -/
structure OpenTransaction where
  /-- The store as the transaction sees it. -/
  working : Store
  /-- The store as it was at each savepoint, the latest savepoint first. -/
  savepoints : List Store

/-- What can be seen of a cycle from outside. -/
inductive Happening
  /-- A transaction was committed and left this store. -/
  | committed (store : Store)
  | refreshed (refresh : Refresh)

/-- A connection to a store. -/
structure Connection where
  /-- The store as it was committed last. -/
  stored : Store
  /-- The transaction that is open. -/
  pending : Option OpenTransaction
  /-- The number of operations on transactions so far. -/
  operations : Nat
  happenings : List Happening

/-- What becomes of an operation that fails: its fault, and what is left of the transaction. -/
structure Mishap where
  fault : Fault
  pending : Option OpenTransaction

/-- The operations that fail, by their number. -/
abbrev Mishaps := Nat → Option Mishap

/-- Work on a connection; what it did before it failed stays. -/
abbrev Connected := ExceptT Fault (StateM Connection)

namespace Connected

/-! ## operations on transactions -/

/-- An operation: its effect on the transaction, unless it fails. -/
def operate (mishaps : Mishaps) (effect : Connection → Except Fault Connection) : Connected Unit :=
  ExceptT.mk fun connection =>
    let counted := { connection with operations := connection.operations + 1 }
    match mishaps connection.operations with
    | some mishap => (.error mishap.fault, { counted with pending := mishap.pending })
    | none =>
      match effect counted with
      | .ok after => (.ok (), after)
      | .error fault => (.error fault, counted)

/-- Begin a transaction.  None is open when that fails. -/
def begin (mishaps : Mishaps) : Connected Unit :=
  operate (fun number => (mishaps number).map fun mishap => { mishap with pending := none })
    fun connection =>
      match connection.pending with
      | none => .ok { connection with pending := some ⟨connection.stored, []⟩ }
      | some _ => .error (.storeReport "cannot start a transaction within a transaction")

/-- Set a savepoint. -/
def savepoint (mishaps : Mishaps) : Connected Unit :=
  operate mishaps fun connection =>
    match connection.pending with
    | some pending => .ok { connection with
        pending := some { pending with savepoints := pending.working :: pending.savepoints } }
    | none => .error (.storeReport "no transaction is active")

/-- Keep what was done since the latest savepoint. -/
def release (mishaps : Mishaps) : Connected Unit :=
  operate mishaps fun connection =>
    match connection.pending with
    | some ⟨working, _ :: savepoints⟩ => .ok { connection with pending := some ⟨working, savepoints⟩ }
    | _ => .error (.storeReport "no such savepoint")

/-- Take back what was done since the latest savepoint. -/
def rollbackTo (mishaps : Mishaps) : Connected Unit :=
  operate mishaps fun connection =>
    match connection.pending with
    | some ⟨_, saved :: savepoints⟩ => .ok { connection with pending := some ⟨saved, savepoints⟩ }
    | _ => .error (.storeReport "no such savepoint")

/-- Commit the transaction. -/
def commit (mishaps : Mishaps) : Connected Unit :=
  operate mishaps fun connection =>
    match connection.pending with
    | some pending => .ok { connection with
        stored := pending.working
        pending := none
        happenings := connection.happenings ++ [.committed pending.working] }
    | none => .error (.storeReport "cannot commit - no transaction is active")

/-! ## work on the store -/

/-- Work on the store in the open transaction.  Outside of one it is committed at once. -/
def work (work : Work α) : Connected α :=
  ExceptT.mk fun connection =>
    match connection.pending with
    | some pending =>
      let (outcome, working) := work.on pending.working
      (outcome, { connection with pending := some { pending with working := working } })
    | none =>
      let (outcome, stored) := work.on connection.stored
      (outcome, { connection with stored := stored })

/-- Do work that may fail, and go on in either case. -/
def attempt (work : Connected α) : Connected (Except Fault α) :=
  ExceptT.mk fun connection =>
    let (outcome, after) := work.run.run connection
    (.ok outcome, after)

/-- The pass on one channel, behind a savepoint. -/
def passOn (mishaps : Mishaps) (run : Channel → Work PassOutcome) (state : CycleState)
    (channel : Channel) : Connected CycleState := do
  savepoint mishaps
  match ← attempt (work (run channel)) with
  | .ok outcome =>
    release mishaps
    return state.noted channel (some outcome)
  | .error _ =>
    rollbackTo mishaps
    return state.noted channel none

end Connected

namespace Connection

/-- Roll back the transaction. -/
def rollback (connection : Connection) : Connection := { connection with pending := none }

/-- Refresh what is pending, in order. -/
def refresh (connection : Connection) (hooks : Hooks Refresh) : Connection :=
  { connection with
    happenings := hooks.pending.foldl (fun happenings entry => happenings ++ [.refreshed entry.2])
      connection.happenings }

end Connection

namespace Service

/-- The work of a cycle in its transaction. -/
def routeInTransaction (service : Service) (passes : Passes) (circumstances : Circumstances)
    (mishaps : Mishaps) : Connected (CycleState × GapReport) := do
  let gaps ← Connected.work (loadGaps circumstances.now)
  let snapshots ← Connected.work (Work.query Store.allSnapshots)
  let nodes ← Connected.work (Work.query Store.allNodes)
  let state ← service.channels.foldlM (Connected.passOn mishaps (passes ⟨snapshots, nodes⟩ gaps)) {}
  let report ← Connected.work (reconcile service.gapPolicy gaps state.coverage
    circumstances.visibility circumstances.now circumstances.now)
  return (state, report)

/-- Run one cycle on a connection: what it reports, and the service and the connection after it. -/
def cycleOn (service : Service) (passes : Passes) (circumstances : Circumstances) (mishaps : Mishaps)
    (connection : Connection) : Except Fault CycleReport × Service × Connection :=
  match (Connected.begin mishaps).run.run connection with
  | (.error fault, after) => (.error fault, service, after)
  | (.ok _, begun) =>
    match (service.routeInTransaction passes circumstances mishaps).run.run begun with
    | (.error fault, after) => (.error fault, service, after.rollback)
    | (.ok (state, gaps), routed) =>
      match (Connected.commit mishaps).run.run routed with
      | (.error fault, after) => (.error fault, service, after.rollback)
      | (.ok _, committed) =>
        (.ok (reportOf state gaps), service.rememberAll state.passes, committed.refresh state.hooks)

end Service

end ChangeRouting
