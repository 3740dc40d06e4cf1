import ChangeRouting.Read.Rows

/-!
# ChangeRouting.Read.Handover

How changes get from the reader to the router: through a queue of bounded length, while each of the two
works at its own pace.

* The reader fetches one row after the other and queues the changes that are in the gaps and were not
  routed yet, waiting while there is no room.  Whatever happens, the last thing it queues is a marker that
  says how the reading ended.
* The router takes what is queued, in order, up to the marker.  It may ask the reader to stop at any time,
  and it may leave; what is queued then is lost.
* The reader looks whether it was asked to stop before it examines a row, and after the queue refused a
  change.  It does not look while it queues the marker.

`Handover.step?` is one move of one of the two; nothing is said about whose turn it is.  To be refused
again is no move.
-/

namespace ChangeRouting

/-- What a query answers, and how the reader walks along the answer. -/
structure Trail where
  /-- The rows that are still to come, each as far as it can be read. -/
  rows : List (Except Fault Change)
  /-- What breaks the query off behind its rows. -/
  broken : Option Fault
  /-- The gaps still ahead, if rows outside the gaps come too. -/
  along : Option (List Gap)

namespace Trail

/-- Whether an id lies in the gaps, and the gaps still ahead there; nothing behind the last gap. -/
def walk (along : Option (List Gap)) (id : Int) : Option (Bool × Option (List Gap)) :=
  match along with
  | none => some (true, none)
  | some gaps =>
    match gaps.dropWhile (·.stop < id) with
    | [] => none
    | gap :: later => some (gap.contains id, some (gap :: later))

/-- The answer to the query for a channel over the gaps. -/
def asked (options : ReadOptions) (gaps : List Gap) (store : Store) : Trail :=
  match gaps with
  | [] => ⟨[], none, none⟩
  | first :: _ =>
    if options.maxRanges < gaps.length then
      match store.changesFrom options.channel first.start options.columns with
      | .error fault => ⟨[], some fault, some gaps⟩
      | .ok rows => ⟨rows, none, some gaps⟩
    else
      match store.changesInRanges options.channel (gaps.map fun gap => (gap.start, gap.stop))
          options.columns with
      | .error fault => ⟨[], some fault, none⟩
      | .ok rows => ⟨rows, none, none⟩

end Trail

/-- What the reader did, as the marker tells it. -/
structure ReadSummary where
  /-- The number of changes it queued. -/
  queued : Nat := 0
  /-- The ids of changes that were routed already. -/
  skipped : List Int := []
  /-- Whether the reading came to its end. -/
  exhausted : Bool := false
  /-- What ended the reading before its end. -/
  fault : Option Fault := none
  /-- Whether everything from the first gap on was asked for. -/
  fromFirst : Bool := false
  deriving DecidableEq, Repr

/-- What the reader queues. -/
inductive Queued
  | change (change : Change)
  /-- The end of the reading. -/
  | finished (summary : ReadSummary)
  deriving DecidableEq, Repr

/-- What the reader is about to do. -/
inductive ReaderStage
  | fetching
  /-- To queue a change, which the queue may have refused before. -/
  | offering (change : Change) (refused : Bool)
  /-- To queue the marker. -/
  | ending
  | gone
  deriving DecidableEq, Repr

/-- A reader and a router at work. -/
structure Handover where
  /-- The most the queue holds. -/
  capacity : Nat
  marks : Marks
  trail : Trail
  /-- What the reader did so far. -/
  summary : ReadSummary
  stage : ReaderStage
  queue : List Queued
  /-- Whether the router asked the reader to stop. -/
  stopping : Bool
  /-- Whether the router left. -/
  closed : Bool
  /-- The changes the router took. -/
  taken : List Change
  /-- What the marker said, once it was taken. -/
  ended : Option ReadSummary

/-- One move of the reader or the router. -/
inductive HandoverMove
  | fetch
  | offer
  | giveUp
  | take
  | stop
  | leave
  deriving DecidableEq, Repr

namespace Handover

/-- A handover that begins; the queue has room for one item at least. -/
def new (window : Nat) (marks : Marks) (trail : Trail) : Handover where
  capacity := max window 1
  marks := marks
  trail := trail
  summary := { fromFirst := trail.along.isSome }
  stage := .fetching
  queue := []
  stopping := false
  closed := false
  taken := []
  ended := none

/-- Whether the queue has room. -/
def hasRoom (handover : Handover) : Bool := handover.queue.length < handover.capacity

/-! ## the reader -/

/-- The reader is at the end of its rows. -/
def runOut (handover : Handover) : Handover :=
  { handover with
    stage := .ending
    summary := { handover.summary with
      exhausted := handover.trail.broken.isNone
      fault := handover.trail.broken.map Reading.blame } }

/-- The reader examines a row that others follow. -/
def examine (handover : Handover) (rows : List (Except Fault Change)) :
    Except Fault Change → Handover
  | .error fault =>
    { handover with
      stage := .ending
      summary := { handover.summary with fault := some (Reading.blame fault) } }
  | .ok change =>
    match Trail.walk handover.trail.along change.id with
    | none =>
      { handover with
        stage := .ending
        summary := { handover.summary with exhausted := true } }
    | some (inside, along) =>
      let ahead := { handover with trail := { handover.trail with rows := rows, along := along } }
      if !inside then ahead
      else if Reading.isMarked handover.marks change then
        { ahead with
          summary := { handover.summary with skipped := handover.summary.skipped ++ [change.id] } }
      else { ahead with stage := .offering change false }

/-- The reader looks for the next row. -/
def fetch? (handover : Handover) : Option Handover :=
  match handover.stage, handover.trail.rows with
  | .fetching, [] => some handover.runOut
  | .fetching, row :: rows =>
    if handover.stopping then some { handover with stage := .ending }
    else some (handover.examine rows row)
  | _, _ => none

/-- The reader tries to queue what it has. -/
def offer? (handover : Handover) : Option Handover :=
  match handover.stage with
  | .offering change refused =>
    if handover.closed then some { handover with stage := .ending }
    else if handover.hasRoom then
      some { handover with
        stage := .fetching
        queue := handover.queue ++ [.change change]
        summary := { handover.summary with queued := handover.summary.queued + 1 } }
    else if refused then none
    else some { handover with stage := .offering change true }
  | .ending =>
    if handover.closed then some { handover with stage := .gone }
    else if handover.hasRoom then
      some { handover with stage := .gone, queue := handover.queue ++ [.finished handover.summary] }
    else none
  | _ => none

/-- The reader gives up a change that was refused, if it was asked to stop. -/
def giveUp? (handover : Handover) : Option Handover :=
  match handover.stage, handover.stopping with
  | .offering _ true, true => some { handover with stage := .ending }
  | _, _ => none

/-! ## the router -/

/-- The router takes the next item. -/
def take? (handover : Handover) : Option (Queued × Handover) :=
  match handover.ended, handover.queue with
  | none, .change change :: rest =>
    some (.change change, { handover with queue := rest, taken := handover.taken ++ [change] })
  | none, .finished summary :: rest =>
    some (.finished summary, { handover with queue := rest, ended := some summary })
  | _, _ => none

/-- The router asks the reader to stop. -/
def stop (handover : Handover) : Handover := { handover with stopping := true }

/-- The router leaves. -/
def leave (handover : Handover) : Handover :=
  { handover with stopping := true, closed := true, queue := [] }

/-! ## moves -/

/-- The handover after a move, unless the move has to wait or was made for good. -/
def step? (handover : Handover) : HandoverMove → Option Handover
  | .fetch => handover.fetch?
  | .offer => handover.offer?
  | .giveUp => handover.giveUp?
  | .take => handover.take?.map Prod.snd
  | .stop => if handover.stopping then none else some handover.stop
  | .leave => if handover.closed then none else some handover.leave

/-- The handovers that moves lead to. -/
inductive Reaches (start : Handover) : Handover → Prop
  | refl : Reaches start start
  | step {now next : Handover} (move : HandoverMove) :
    Reaches start now → now.step? move = some next → Reaches start next

end Handover

end ChangeRouting
