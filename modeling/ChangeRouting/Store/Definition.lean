import ChangeRouting.Query.Token
import ChangeRouting.Store.Loose

/-!
# ChangeRouting.Store.Definition

Making, filling and dropping tables by name, and opening a store.

* A name is that of a table, alone or behind the name of the store, `main`.  It reaches the store as
  words of a statement, so whatever does not read as a name there makes the statement malformed.
* Columns are asked for as texts.  What is written behind the name of a column is part of its type, and
  a type that speaks of integers makes a column of numbers.
* Making a table that is there does nothing, but the statement must still be well formed.
* A row must be as wide as its table, whoever owns it.
* Opening a store makes the tables of this library that are missing, and then the indexes they need.
-/

namespace ChangeRouting

open Query (Token)

/-! ## statements -/

namespace Store

/-- The name the store goes by. -/
def schemaName : String := "main"

/-- Names with this start belong to the store itself. -/
private def ownStart : String := "sqlite_"

private def isOwn (name : String) : Bool := ownStart.isPrefixOf name.toLower

/-- The word a name is made of. -/
private def nameOf? : Token → Option String
  | .text s => some s
  | token => token.name?

/-- The name of a table that words begin with, and the words after it. -/
private def readName : List Token → Option (String × List Token)
  | schema :: .symbol "." :: table :: rest => do
    let schema ← nameOf? schema
    if sameName schema schemaName then return (← nameOf? table, rest) else none
  | table :: rest => do return (← nameOf? table, rest)
  | [] => none

/-- The name of a table that is a whole text. -/
def tableName (text : String) : Except Fault String :=
  match (Token.scan text.toList).bind readName with
  | some (name, []) => .ok name
  | _ => .error (.statement (.malformed text))

/-- A column of a type, which is made of words. -/
private def columnOf (name : String) (type : List String) : Column :=
  let type := (" ".intercalate type).toLower
  let affinity := if (type.splitOn "int").length > 1 then .number else if type.isEmpty then .any else .text
  ⟨name, affinity, false⟩

/-- Words cut at the commas. -/
private def fieldsOf : List Token → List (List Token)
  | [] => [[]]
  | .symbol "," :: rest => [] :: fieldsOf rest
  | token :: rest =>
    match fieldsOf rest with
    | [] => [[token]]
    | field :: fields => (token :: field) :: fields

/-- The column that words ask for. -/
private def columnOfWords (words : List Token) : Option Column := do
  match ← words.mapM nameOf? with
  | [] => none
  | name :: type => return columnOf name type

/-- The name and the columns that a text asks for: columns stand in parentheses behind the name. -/
private def readDefinition (text : String) : Option (String × List Column) := do
  match ← readName (← Token.scan text.toList) with
  | (name, .symbol "(" :: body) =>
    if body.getLast? = some (.symbol ")") then
      return (name, ← (fieldsOf body.dropLast).mapM columnOfWords)
    else none
  | _ => none

/-- The number of columns a table may have. -/
private def mostColumns : Nat := 2000

/-! ## indexes -/

/-- The indexes of the tables of this library, each with its name and its columns. -/
private def indexes : List (TableName × String × List String) :=
  [(.changes, "idx_change_log_channel", ["channel_id", "data_id"]),
    (.gaps, "idx_data_gap_status", ["status"]),
    (.batches, "idx_outgoing_batch_node", ["node_id", "channel_id", "status"])]

/-- Whether a name is that of an index. -/
private def isIndex (store : Store) (name : String) : Bool :=
  indexes.any fun (table, index, _) => sameName index name && store.isLaid table

/-! ## making and dropping tables -/

/-- Make a table unless one of its name is there. -/
def createTable (name : String) (columns : List String) (store : Store) : Except Fault Store :=
  let malformed := .error (.statement (.malformed name))
  let columnText := ", ".intercalate (columns.map (· ++ " TEXT"))
  match readDefinition (name ++ " (" ++ columnText ++ ")") with
  | none => malformed
  | some (name, columns) =>
    if isOwn name then malformed
    else if (store.table? name).isSome then .ok store
    else if store.isIndex name || mostColumns < columns.length ||
        !(columns.map (·.name.toLower)).Nodup then malformed
    else .ok (store.withForeign ⟨name, columns, .none, [], []⟩)

/-- Append a row of texts to a table. -/
def insertTableRow (name : String) (row : List (Option String)) (store : Store) : Except Fault Store := do
  let name ← tableName name
  match store.table? name with
  | none => throw (.statement (.noSuchTable name))
  | some table =>
    let (_, after) ← table.insert .refuse (row.map Cell.ofText?)
    match TableName.ofText? name with
    | some own => if store.isLaid own then return store.withLaid own after else return store.withForeign after
    | none => return store.withForeign after

/-- Drop a table and what it holds. -/
def drop (store : Store) (name : String) : Except Fault Store := do
  let name ← tableName name
  if (store.table? name).isNone then throw (.statement (.noSuchTable name))
  match TableName.ofText? name with
  | some own => return store.without own
  | none => return { store with foreign := store.foreign.filter (!sameName ·.name name) }

/-! ## opening -/

/-- Check that an index of a table is there or can be made. -/
private def checkIndex (store : Store) (table : TableName) (index : String) (columns : List String) :
    Except Fault Unit := do
  if (store.foreign? index).isSome then throw (.statement (.malformed index))
  if !store.isLaid table then discard <| columns.mapM (← store.loose table).position

/-- Make what is missing of a table of this library. -/
private def reopenTable (store : Store) (name : TableName) : Except Fault Store := do
  let store := if (store.table? name.text).isSome then store else store.withLaid name (laidEmpty name)
  indexes.forM fun (table, index, columns) =>
    if table = name then store.checkIndex table index columns else return
  return store

/-- The store with its missing tables made anew, as opening it does. -/
def reopened (store : Store) : Except Fault Store := TableName.all.foldlM reopenTable store

end Store

end ChangeRouting
