import ChangeRouting.Fault

/-!
# ChangeRouting.Change.Event

The kinds of captured events and the one-letter codes under which the change log keeps them.
-/

namespace ChangeRouting

/-- What happened to a captured table. -/
inductive EventKind
  | insert
  | update
  | delete
  /-- A statement to run on the targets. -/
  | sql
  /-- A request to load the table anew. -/
  | reload
  | create
  /-- A script to run on the targets. -/
  | script
  deriving DecidableEq, Repr

namespace EventKind

/-- The code in the change log. -/
def code : EventKind → String
  | insert => "I"
  | update => "U"
  | delete => "D"
  | sql => "S"
  | reload => "R"
  | create => "C"
  | script => "B"

/-- The name an operator reads. -/
def label : EventKind → String
  | insert => "INSERT"
  | update => "UPDATE"
  | delete => "DELETE"
  | sql => "SQL"
  | reload => "RELOAD"
  | create => "CREATE"
  | script => "SCRIPT"

/-- The event a code stands for. -/
def ofCode (code : String) : Except Fault EventKind :=
  match code with
  | "I" => .ok insert
  | "U" => .ok update
  | "D" => .ok delete
  | "S" => .ok sql
  | "R" => .ok reload
  | "C" => .ok create
  | "B" => .ok script
  | other => .error (.unknownEventCode other)

@[simp] theorem ofCode_code (event : EventKind) : ofCode event.code = .ok event := by
  cases event <;> rfl

end EventKind

end ChangeRouting
