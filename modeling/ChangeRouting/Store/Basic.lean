import ChangeRouting.Batch.Basic
import ChangeRouting.Gap.Basic
import ChangeRouting.Node.Basic
import ChangeRouting.Store.Table

/-!
# ChangeRouting.Store.Basic

The routing store: every table the routing work reads and writes, as rows.

* A table is absent after it was dropped; whatever touches an absent table fails.
* Tables of other owners stand beside them as cells.  So does a table that goes by a name of this
  library but has other columns, or holds what no row of its kind can hold.
* A statement either gives the store after it or fails and changes nothing.  `Work` strings
  statements together: what a piece of work did before it failed stays, until whoever opened a
  savepoint puts the old store back.
* Codes are kept as they were written, so a code nobody knows shows when its row is read.
-/

namespace ChangeRouting

/-! ## rows -/

/-- A schema snapshot; the names are joined by commas. -/
structure SnapshotRow where
  id : Int
  trigger : String
  table : String
  columns : String
  keyColumns : String
  deriving DecidableEq, Repr

/-- A captured change. -/
structure ChangeRow where
  id : Int
  table : String
  event : String
  row : Option String
  key : Option String
  old : Option String
  snapshot : Int
  channel : String
  transaction : Option String
  source : Option String
  createTime : Int
  deriving DecidableEq, Repr

/-- A gap. -/
structure GapRow where
  start : Int
  stop : Int
  status : String
  createTime : Int
  updateTime : Int
  deriving DecidableEq, Repr

/-- A batch; the status of the batch it holds counts for nothing beside the code. -/
structure BatchRow where
  batch : Batch
  status : String
  deriving DecidableEq, Repr

/-- Rows whose ids the table gives out itself, each above every id it ever held. -/
structure Numbered (row : Type) where
  rows : List row
  lastId : Int
  deriving DecidableEq, Repr

/-! ## the store -/

/-- The routing store. -/
structure Store where
  snapshots : Option (List SnapshotRow)
  /-- In id order. -/
  changes : Option (Numbered ChangeRow)
  /-- In the order of insertion. -/
  gaps : Option (List GapRow)
  /-- In id order. -/
  batches : Option (Numbered BatchRow)
  events : Option (List BatchEvent)
  /-- The highest change id routed, by channel. -/
  watermarks : Option (List (String × Int))
  /-- In id order. -/
  nodes : Option (List Node)
  /-- Node ids by the external id they receive for. -/
  redirects : Option (List (String × String))
  /-- Tables that are kept as cells; no two share a name. -/
  foreign : List Table
  /-- Whether the statement that records events has been read.  From then on it asks for its table only
  when there is something to record. -/
  hasEventStatement : Bool
  deriving DecidableEq, Repr

/-- The tables of the store, apart from those of other owners. -/
inductive TableName
  | snapshots
  | changes
  | gaps
  | batches
  | events
  | watermarks
  | nodes
  | redirects
  deriving DecidableEq, Repr

namespace TableName

/-- The name of the table in statements. -/
def text : TableName → String
  | snapshots => "trigger_hist"
  | changes => "change_log"
  | gaps => "data_gap"
  | batches => "outgoing_batch"
  | events => "data_event"
  | watermarks => "channel_state"
  | nodes => "node"
  | redirects => "registration_redirect"

/-- Every table. -/
def all : List TableName :=
  [snapshots, changes, gaps, batches, events, watermarks, nodes, redirects]

/-- The table of this name, in either case. -/
def ofText? (name : String) : Option TableName :=
  all.find? fun table => sameName table.text name

end TableName

/-- The fault of a statement that names a table the store does not have. -/
def missing (table : TableName) : Fault := .statement (.noSuchTable table.text)

namespace Store

/-- A store whose tables are all there and empty. -/
def empty : Store where
  snapshots := some []
  changes := some ⟨[], 0⟩
  gaps := some []
  batches := some ⟨[], 0⟩
  events := some []
  watermarks := some []
  nodes := some []
  redirects := some []
  foreign := []
  hasEventStatement := false

/-- A store without tables. -/
def bare : Store := ⟨none, none, none, none, none, none, none, none, [], false⟩

/-- The table of this name among those that are kept as cells, in either case. -/
def foreign? (store : Store) (name : String) : Option Table :=
  store.foreign.find? (sameName ·.name name)

/-- The store with a table kept as cells, in place of one of its name. -/
def withForeign (store : Store) (table : Table) : Store :=
  { store with foreign := store.foreign.filter (!sameName ·.name table.name) ++ [table] }

/-- A table of this library that is kept as cells. -/
def loose (table : TableName) (store : Store) : Except Fault Table :=
  match store.foreign? table.text with
  | some loose => .ok loose
  | none => .error (missing table)

/-- Change a table of this library that is kept as cells. -/
def looseUpdate (table : TableName) (run : Table → Except Fault (α × Table)) (store : Store) :
    Except Fault (α × Store) := do
  let (answer, after) ← run (← store.loose table)
  return (answer, store.withForeign after)

end Store

/-! ## work on the store -/

/-- Work on the store that may fail; what it did before it failed stays. -/
abbrev Work := ExceptT Fault (StateM Store)

namespace Work

/-- Read from the store. -/
def query (read : Store → Except Fault α) : Work α := do ExceptT.mk (return read (← get))

/-- Run one statement: the store after it, or a fault and the store as it was. -/
def statement (run : Store → Except Fault (α × Store)) : Work α :=
  ExceptT.mk fun store =>
    match run store with
    | .ok (answer, after) => (.ok answer, after)
    | .error fault => (.error fault, store)

/-- Run one statement that answers nothing. -/
def update (run : Store → Except Fault Store) : Work Unit :=
  statement fun store => return ((), ← run store)

/-- Do the work on a store: how it ended, and the store after it. -/
def on (work : Work α) (store : Store) : Except Fault α × Store :=
  StateT.run (ExceptT.run work) store

/-- Run work that is to leave no trace when it fails. -/
def guarded (work : Work α) : Work α :=
  statement fun store =>
    match work.on store with
    | (.ok answer, after) => .ok (answer, after)
    | (.error fault, _) => .error fault

@[simp] theorem pure_on (answer : α) (store : Store) :
    (pure answer : Work α).on store = (.ok answer, store) := rfl

/-- Work that failed is followed by nothing. -/
theorem bind_on (work : Work α) (next : α → Work β) (store : Store) :
    (work >>= next).on store =
      match work.on store with
      | (.ok answer, after) => (next answer).on after
      | (.error fault, after) => (.error fault, after) := by
  simp only [on, ExceptT.run, StateT.run, bind, ExceptT.bind, ExceptT.mk, StateT.bind, ExceptT.bindCont]
  rcases work store with ⟨_ | _, after⟩ <;> rfl

@[simp] theorem query_on (read : Store → Except Fault α) (store : Store) :
    (query read).on store = (read store, store) := rfl

theorem statement_on (run : Store → Except Fault (α × Store)) (store : Store) :
    (statement run).on store =
      match run store with
      | .ok (answer, after) => (.ok answer, after)
      | .error fault => (.error fault, store) := rfl

/-- Guarded work that fails leaves the store as it was. -/
theorem guarded_on (work : Work α) (store : Store) :
    work.guarded.on store =
      match work.on store with
      | (.ok answer, after) => (.ok answer, after)
      | (.error fault, _) => (.error fault, store) := by
  simp only [guarded, statement_on]
  rcases work.on store with ⟨_ | _, after⟩ <;> rfl

end Work

end ChangeRouting
