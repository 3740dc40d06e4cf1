import ChangeRouting.Change.Basic
import ChangeRouting.Change.Payload
import ChangeRouting.Text.Case

/-!
# ChangeRouting.Change.ColumnValues

The values of a change under its column names, which is what routers look at.

* Names are compared by their capital forms; a name bound twice keeps its last value.
* The current values of a deletion are the old row or, without one, the key.
* The old row is bound a second time under names that start with `OLD_`.
-/

namespace ChangeRouting

/-- Values by capital column name, each name once. -/
structure ColumnValues where
  entries : List (String × Option String)
  deriving DecidableEq, Repr

namespace ColumnValues

/-- No values. -/
def empty : ColumnValues := ⟨[]⟩

private def bind (name : String) (value : Option String) :
    List (String × Option String) → List (String × Option String)
  | [] => [(name, value)]
  | entry :: rest =>
    if entry.1 = name then (name, value) :: rest else entry :: bind name value rest

private def seek (name : String) : List (String × Option String) → Option (Option String)
  | [] => none
  | entry :: rest => if entry.1 = name then some entry.2 else seek name rest

/-- Bind a column, in place of an earlier value. -/
def insert (values : ColumnValues) (column : String) (value : Option String) : ColumnValues :=
  ⟨bind (Text.uppercase column) value values.entries⟩

/-- The binding of a column: absent, null or a text. -/
def find? (values : ColumnValues) (column : String) : Option (Option String) :=
  seek (Text.uppercase column) values.entries

/-- The text of a column; a null and an absent column have none. -/
def get (values : ColumnValues) (column : String) : Option String := (values.find? column).join

/-- Whether the column is bound, be it to null. -/
def contains (values : ColumnValues) (column : String) : Bool := (values.find? column).isSome

/-- Bind names and values pairwise, as far as both lists go. -/
def insertAll (values : ColumnValues) (columns : List String) (payload : List (Option String)) :
    ColumnValues :=
  (columns.zip payload).foldl (fun values (column, value) => values.insert column value) values

private theorem seek_bind (name key : String) (value : Option String)
    (entries : List (String × Option String)) :
    seek key (bind name value entries) = if key = name then some value else seek key entries := by
  induction entries with
  | nil => simp only [bind, seek, eq_comm]
  | cons entry rest ih =>
    rw [bind]
    split <;> simp only [seek, ih] <;> grind

/-- Binding a column changes what is found under its capital form and nothing else. -/
theorem find?_insert (values : ColumnValues) (column key : String) (value : Option String) :
    (values.insert column value).find? key =
      if Text.uppercase key = Text.uppercase column then some value else values.find? key :=
  seek_bind ..

end ColumnValues

/-- What stands before the name of a column to name its value before the change. -/
def oldMarker : String := "OLD_"

/-- The payload that counts as current, and the names it lines up with. -/
def Change.current (change : Change) (snapshot : Snapshot) : Option (String × List String) :=
  match change.event with
  | .delete =>
    match change.old, change.key with
    | some old, _ => some (old, snapshot.columns)
    | none, some key => some (key, snapshot.keyColumns)
    | none, none => none
  | _ => change.row.map (·, snapshot.columns)

/-- Bind a payload to names, when there is one. -/
def bindPayload (values : ColumnValues) : Option (String × List String) →
    Except Fault ColumnValues
  | none => .ok values
  | some (payload, columns) => do return values.insertAll columns (← Payload.decode payload)

/-- The values of a change under its column names. -/
def Change.values (change : Change) (snapshot : Snapshot) : Except Fault ColumnValues := do
  let current ← bindPayload .empty (change.current snapshot)
  bindPayload current (change.old.map (·, snapshot.columns.map (oldMarker ++ ·)))

end ChangeRouting
