/-!
# ChangeRouting.Toml.Value

The values of a TOML document, and how its lines make one table of it.

* A key is set once.  A table is opened by one header at most, and a header may come after those of the
  tables inside it.
* A dotted key makes the tables on its way; it goes on in tables that dotted keys made, and not in those
  that a header opened.
* A table in braces is complete: nothing is added to it later.
* A double header appends a table to a list of tables, and further headers speak about its last one.
-/

namespace ChangeRouting.Toml

/-- How a table came to be, which decides what may be added to it. -/
inductive TableKind
  /-- A header of its own, or the document. -/
  | opened
  /-- The header of a table inside it. -/
  | implied
  /-- A dotted key. -/
  | dotted
  /-- Braces. -/
  | closed
  deriving DecidableEq, Repr

/-- A value.  Numbers that are not whole are not told apart, and points in time neither. -/
inductive Value
  | text (s : String)
  | integer (n : Int)
  | boolean (b : Bool)
  /-- A number that is not whole. -/
  | fraction
  /-- A point in time. -/
  | moment
  /-- Items in brackets. -/
  | array (items : List Value)
  /-- Tables under double headers; the last one comes last. -/
  | tables (items : List Value)
  | table (kind : TableKind) (entries : List (String × Value))

/-- The entries of a table. -/
abbrev Entries := List (String × Value)

namespace Entries

/-- The value of a key. -/
def find? (entries : Entries) (key : String) : Option Value :=
  (List.find? (·.1 = key) entries).map (·.2)

/-- The entries with a key set, in its place if it is there. -/
def set (entries : Entries) (key : String) (value : Value) : Entries :=
  match entries with
  | [] => [(key, value)]
  | entry :: rest => if entry.1 = key then (key, value) :: rest else entry :: set rest key value

end Entries

/-- A change of a table, given its kind and entries. -/
abbrev Edit := TableKind → Entries → Option (TableKind × Entries)

/-- Change the last of several tables. -/
private def editLast (edit : Value → Option Value) : List Value → Option (List Value)
  | [] => none
  | [item] => (edit item).map fun item => [item]
  | item :: rest => (editLast edit rest).map (item :: ·)

/-- Change a table that is a value. -/
private def editTable (edit : Edit) : Value → Option Value
  | .table kind entries => (edit kind entries).map fun (kind, entries) => Value.table kind entries
  | _ => none

/-- Change the table at the end of a path of headers; tables on the way that are missing are implied. -/
def alongHeader (path : List String) (edit : Edit) : Edit :=
  match path with
  | [] => edit
  | key :: path => fun kind entries =>
    let within := alongHeader path edit
    let changed :=
      match entries.find? key with
      | none => (within .implied []).map fun (kind, entries) => Value.table kind entries
      | some (.table .closed _) => none
      | some (.table kind entries) => editTable within (.table kind entries)
      | some (.tables items) => (editLast (editTable within) items).map .tables
      | some _ => none
    changed.map fun value => (kind, entries.set key value)

/-- Change the table at the end of the path of a dotted key. -/
def alongDots (path : List String) (edit : Edit) : Edit :=
  match path with
  | [] => edit
  | key :: path => fun kind entries =>
    let within := alongDots path edit
    let changed :=
      match entries.find? key with
      | none => (within .dotted []).map fun (kind, entries) => Value.table kind entries
      | some (.table .implied entries) => editTable within (.table .implied entries)
      | some (.table .dotted entries) => editTable within (.table .dotted entries)
      | some (.tables items) => (editLast (editTable within) items).map .tables
      | some _ => none
    changed.map fun value => (kind, entries.set key value)

/-- Set a new key; behind dots it must be in a table that dotted keys made. -/
private def setNew (dotted : Bool) (key : String) (value : Value) : Edit := fun kind entries =>
  if (dotted && kind ≠ .dotted) || (entries.find? key).isSome then none
  else some (kind, entries.set key value)

/-- Set the key at the end of a dotted key. -/
def setDotted (path : List String) (key : String) (value : Value) : Edit :=
  alongDots path (setNew (!path.isEmpty) key value)

/-! ## documents -/

/-- What one line of a document says. -/
inductive Line
  /-- A header: the way to a table, and its name. -/
  | header (path : List String) (name : String)
  /-- A double header. -/
  | listHeader (path : List String) (name : String)
  /-- A key, behind the keys before its dots, and its value. -/
  | pair (path : List String) (key : String) (value : Value)

/-- Open the table a header names. -/
private def openTable (name : String) : Edit := fun kind entries =>
  match entries.find? name with
  | none => some (kind, entries.set name (.table .opened []))
  | some (.table .implied inner) => some (kind, entries.set name (.table .opened inner))
  | some _ => none

/-- Append a table to the list a double header names. -/
private def appendTable (name : String) : Edit := fun kind entries =>
  match entries.find? name with
  | none => some (kind, entries.set name (.tables [.table .opened []]))
  | some (.tables items) => some (kind, entries.set name (.tables (items ++ [.table .opened []])))
  | some _ => none

/-- What lines add to a document, the latest header being that of `current`. -/
private def addLines (current : List String) (entries : Entries) : List Line → Option Entries
  | [] => some entries
  | .header path name :: rest => do
    let (_, entries) ← alongHeader path (openTable name) .opened entries
    addLines (path ++ [name]) entries rest
  | .listHeader path name :: rest => do
    let (_, entries) ← alongHeader path (appendTable name) .opened entries
    addLines (path ++ [name]) entries rest
  | .pair path key value :: rest => do
    let (_, entries) ← alongHeader current (setDotted path key value) .opened entries
    addLines current entries rest

/-- The table that lines make. -/
def ofLines (lines : List Line) : Option Entries := addLines [] [] lines

/-- The table in braces that pairs make. -/
def ofPairs (pairs : List (List String × String × Value)) : Option Value := do
  let (_, entries) ← pairs.foldlM (fun (kind, entries) (path, key, value) =>
    setDotted path key value kind entries) (TableKind.closed, [])
  return .table .closed entries

end ChangeRouting.Toml
