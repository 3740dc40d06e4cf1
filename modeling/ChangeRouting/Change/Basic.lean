import ChangeRouting.Change.Event
import ChangeRouting.Clock

/-!
# ChangeRouting.Change.Basic

Captured changes and the schema snapshots their payloads line up with.

A change holds up to three payloads: the row after the change, its primary key, and the row before
the change.  The i-th value of a payload belongs to the i-th name of the snapshot the change refers
to.
-/

namespace ChangeRouting

/-- The layout of a captured table at some time. -/
structure Snapshot where
  id : Int
  /-- The captured table definition this layout belongs to. -/
  trigger : String
  table : String
  /-- Column names in the order of row payloads. -/
  columns : List String
  /-- Column names in the order of key payloads. -/
  keyColumns : List String
  deriving DecidableEq, Repr

/-- One captured change of one row. -/
structure Change where
  id : Int
  table : String
  event : EventKind
  /-- The row after the change. -/
  row : Option String
  /-- The primary key. -/
  key : Option String
  /-- The row before the change. -/
  old : Option String
  /-- The id of the snapshot the payloads line up with. -/
  snapshot : Int
  channel : String
  /-- The transaction that made the change, when the database tells. -/
  transaction : Option String
  /-- The node the change came from, when it was itself routed here. -/
  source : Option String
  createTime : Millis
  /-- The size of all stored payloads, when the change was read from a log. -/
  storedSize : Option Nat
  deriving DecidableEq, Repr

/-- The bytes of a payload in UTF-8; an absent payload has none. -/
def payloadBytes (payload : Option String) : Nat := payload.elim 0 String.utf8ByteSize

/-- The size a batch accounts for.  The stored size comes first, because it counts payloads that a
reader left out. -/
def Change.size (change : Change) : Nat :=
  change.storedSize.getD
    (payloadBytes change.row + payloadBytes change.key + payloadBytes change.old)

/-- The greatest id, which stands for the end of an open range; no change has it. -/
def openEnd : Int := 9223372036854775807

end ChangeRouting
