import ChangeRouting.Change.Payload

/-!
# ChangeRouting.Report.Json

JSON values as reports are printed: one member a line, two blanks deeper at each level.  A list or an
object without members stays on its line.
-/

namespace ChangeRouting

/-- A JSON value, as far as reports need them. -/
inductive Json
  | null
  | natural (n : Nat)
  | boolean (b : Bool)
  | text (s : String)
  | list (items : List Json)
  | object (fields : List (String × Json))

namespace Json

/-- A text, or `null` where there is none. -/
def ofText? (text? : Option String) : Json := text?.elim null text

/-- A number, or `null` where there is none. -/
def ofNatural? (n? : Option Nat) : Json := n?.elim null natural

/-- A list of texts. -/
def texts (values : List String) : Json := list (values.map text)

/-- A quoted text. -/
private def quote (s : String) : String := String.ofList (Payload.quote s.toList)

/-- The start of a line at a depth. -/
private def margin (depth : Nat) : String := "\n" ++ String.ofList (List.replicate (2 * depth) ' ')

/-- Members between brackets, each on a line of its own. -/
private def block (opening closing : String) (depth : Nat) : List String → String
  | [] => opening ++ closing
  | members =>
    opening ++ ",".intercalate (members.map (margin (depth + 1) ++ ·)) ++ margin depth ++ closing

mutual

/-- The text of a value whose first line is already begun. -/
def pretty (depth : Nat) : Json → String
  | null => "null"
  | natural n => toString n
  | boolean b => toString b
  | text s => quote s
  | list items => block "[" "]" depth (prettyItems (depth + 1) items)
  | object fields => block "\x7b" "\x7d" depth (prettyFields (depth + 1) fields)

/-- The texts of the members of a list. -/
def prettyItems (depth : Nat) : List Json → List String
  | [] => []
  | item :: rest => pretty depth item :: prettyItems depth rest

/-- The texts of the members of an object. -/
def prettyFields (depth : Nat) : List (String × Json) → List String
  | [] => []
  | (name, value) :: rest => (quote name ++ ": " ++ pretty depth value) :: prettyFields depth rest

end

/-- The text of a value. -/
def render (value : Json) : String := value.pretty 0

end Json

end ChangeRouting
