import ChangeRouting.CommandLine.Arguments
import ChangeRouting.CommandLine.Files
import ChangeRouting.CommandLine.Listing
import ChangeRouting.CommandLine.Notices
import ChangeRouting.CommandLine.StorePlace
import ChangeRouting.CommandLine.Template
import ChangeRouting.Config.Document
import ChangeRouting.Query.Plain
import ChangeRouting.Report.Cycle
import ChangeRouting.Store.Definition
import ChangeRouting.Store.Document

/-!
# ChangeRouting.CommandLine.Execute

Commands, on any file system.

* A command prints to standard output; what an operator asked to hear of the log comes in between.
* A command that fails ends with status 1 and a complaint, arguments that are refused with status 2, and
  a setting that is too large to work with shows only when it is needed and makes the status 101.
* Opening a store makes the directories above it, the file and the tables, as far as they are missing.
* Readers open the store anew, so they see nothing of one that is only in memory.
-/

namespace ChangeRouting

/-- How a command ends. -/
inductive Outcome
  /-- With a status, after something was printed, and a complaint when it failed. -/
  | ended (status : Nat) (output complaint : String)
  /-- Not by itself: cycles are to be run. -/
  | running (output : String) (config : Configuration) (filter : LogFilter)

/-- Work of a command: it may fail, and it prints. -/
abbrev Shell (m : Type → Type) := ExceptT Fault (StateT String m)

namespace Shell

variable {m : Type → Type} [Monad m]

/-- Ask the file system. -/
def ask (answer : m (Except Fault α)) : Shell m α :=
  ExceptT.mk fun output => do return (← answer, output)

/-- Go on with an outcome, or fail with it. -/
def settle (outcome : Except Fault α) : Shell m α := ExceptT.mk (pure outcome)

/-- Print a text. -/
def print (text : String) : Shell m Unit := modify (· ++ text)

/-- Say what is heard of notices. -/
def say (filter : LogFilter) (notices : List Notice) : Shell m Unit :=
  print (String.join ((notices.filter filter.admits).map Notice.render))

/-! ## the store -/

/-- Read the configuration. -/
def configuration (files : FileSystem m) (path : String) : Shell m Configuration := do
  match ← ask (files.read path) with
  | some text => settle (Configuration.parse text)
  | none => throw (.file s!"{path}: no such file")

/-- Keep what is in the store.  In memory it is gone in the end. -/
def save (files : FileSystem m) (place : StorePlace) (store : Store) : Shell m Unit :=
  match place.access, place.file with
  | .readOnly, _ => throw (.storeReport "the store is only to be read")
  | _, some path => ask (files.write path store.render)
  | _, none => return

/-- The longest time to wait on a locked store, in milliseconds. -/
def longestWait : Nat := 2147483647

/-- The greatest capacity of a queue. -/
def largestWindow : Nat := 2305843009213693951

/-- Open the store: where it is, and what is in it. -/
def openStore (files : FileSystem m) (config : Configuration) : Shell m (StorePlace × Store) := do
  let path := config.store.path
  if let some directory := directoryOf? path then ask (files.makeDirectory directory)
  let place ← settle (StorePlace.ofText path)
  let kept ← match place.file with
    | some file => ask (files.read file)
    | none => pure none
  if kept.isNone && place.file.isSome && place.access = .readWrite then
    throw (.file s!"{path}: no such file")
  if longestWait < config.store.busyTimeout then
    if let some file := place.file then
      if kept.isNone && place.access ≠ .readOnly then ask (files.write file "")
    throw (.excessiveSetting "database.busy_timeout_ms")
  let text := kept.getD ""
  match Store.parse? text with
  | none => throw (.storeReport s!"{path} is not a store")
  | some store =>
    let store ← settle store.reopened
    if store.render ≠ text then save files place store
    return (place, store)

/-- The circumstances of a cycle on a store.  Readers that see nothing of it deliver nothing. -/
def circumstances (now : Millis) (config : Configuration) (place : StorePlace) : Circumstances where
  visibility := .unsupported
  now := now
  stalls := if place.isSeenByReaders then [] else config.channels.map fun channel => (channel.id, 0)

/-- Refuse the outcome of a cycle in which a reader had more to queue than a queue can hold. -/
def requireWindows (service : Service) (place : StorePlace) (result : Except Fault α) : Shell m Unit :=
  if result.isOk && place.isOpenToReaders &&
      service.channels.any (largestWindow < service.config.windowOf ·) then
    throw (.excessiveSetting "peek_ahead_window")
  else return

/-- What a cycle says.  Readers that may look, but see nothing, say so. -/
def cycleNotices (service : Service) (now : Millis) (place : StorePlace) (store : Store)
    (report : CycleReport) : List Notice :=
  (if place.isOpenToReaders && !place.isSeenByReaders then
    report.failed.map fun channel =>
      Notice.ofReader s!"Reader query for channel {channel} failed: no such table: data"
  else []) ++
  service.cycleNotices now store report

/-! ## commands -/

/-- Set up the routing service, for plain queries.  There is no way to reach a MariaDB server, and without
one nobody knows which transactions are open. -/
def service (files : FileSystem m) (filter : LogFilter) (now : Millis) (config : Configuration) :
    Shell m (Service × StorePlace × Store) := do
  let (place, store) ← openStore files config
  if config.platform.kind = .mariadb then
    throw (.database s!"cannot reach {config.platform.host}:{config.platform.tcp}")
  say filter config.notices
  let service ← settle (Service.withBuiltins (.plain now) config)
  say filter service.notices
  return (service, place, store)

/-- Run one cycle and print its report. -/
def route (files : FileSystem m) (filter : LogFilter) (now : Millis) (config : Configuration) :
    Shell m Unit := do
  let (service, place, store) ← service files filter now config
  let (result, _, after) := service.cycle (circumstances now config place) store
  requireWindows service place result
  save files place after
  let report ← settle result
  say filter (cycleNotices service now place store report)
  print (report.json.render ++ "\n")

/-- List gaps. -/
def gaps (files : FileSystem m) (all : Bool) (config : Configuration) : Shell m Unit := do
  let (_, store) ← openStore files config
  print (Listing.gaps (← settle (if all then store.allGaps else store.activeGaps)))

/-- Sum up batches. -/
def batches (files : FileSystem m) (config : Configuration) : Shell m Unit := do
  let (_, store) ← openStore files config
  let batches ← settle store.allBatches
  let reached ← config.channels.filterMapM fun channel => do
    return (← settle (store.watermarkOf channel.id)).map (channel.id, ·)
  print (Listing.batches batches reached)

/-- Write a configuration to begin with. -/
def init (files : FileSystem m) (output node : String) : Shell m Unit := do
  ask (files.write output (configurationTemplate node))
  print (Listing.lines [
    s!"Configuration file created: {output}",
    "",
    "Edit the file to configure channels, routers and triggers.",
    s!"Then start with: wolfroute --config {output} run"])

/-- Run one cycle of an unattended service on the store as it is by now. -/
def attempt (files : FileSystem m) (filter : LogFilter) (now : Millis) (config : Configuration)
    (service : Service) : Shell m Service := do
  let (place, store) ← openStore files config
  let service := service.asking (.plain now)
  let (result, later, after) := service.attempt (circumstances now config place) store
  requireWindows service place result
  save files place after
  match ← settle result with
  | some report =>
    say filter (cycleNotices service now place store report)
    if report.failed ≠ [] then
      say filter [.ofService .warning
        ("Channels failed this cycle: " ++ Text.quotedList report.failed)]
  | none => say filter [.ofService .warning "Routing cycle failed, retrying next interval"]
  return later

end Shell

/-- The status of a command that met a fault.  A setting nobody can work with counts as a defect. -/
def Fault.status : Fault → Nat
  | .excessiveSetting _ => 101
  | _ => 1

/-- Perform a command: the configuration and the filter with which cycles are to be run, for a command
that does not end by itself. -/
def Invocation.perform [Monad m] (invocation : Invocation) (files : FileSystem m) (now : Millis) :
    Shell m (Option (Configuration × LogFilter)) := do
  match invocation.command with
  | .init output node =>
    Shell.init files output node
    return none
  | .validate =>
    Shell.print (Listing.accepted (← Shell.configuration files invocation.config))
    return none
  | command =>
    let config ← Shell.configuration files invocation.config
    let filter := LogFilter.ofText (invocation.logLevel.getD config.logging.level)
    match command with
    | .run => return some (config, filter)
    | .route => Shell.route files filter now config
    | .gaps all => Shell.gaps files all config
    | .batches => Shell.batches files config
    | .info => Shell.print (Listing.node config)
    | .init .. | .validate => pure ()
    return none

/-- What the program does with its arguments. -/
def execute [Monad m] (files : FileSystem m) (now : Millis) (arguments : List String) : m Outcome := do
  match Request.ofArguments arguments with
  | .error fault => return .ended 2 "" fault.message
  | .ok (.print text) => return .ended 0 text ""
  | .ok (.perform invocation) =>
    match ← (invocation.perform files now).run.run "" with
    | (.ok none, output) => return .ended 0 output ""
    | (.ok (some (config, filter)), output) => return .running output config filter
    | (.error fault, output) => return .ended fault.status output ("Error: " ++ fault.message)

end ChangeRouting
