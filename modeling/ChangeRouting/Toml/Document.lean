import ChangeRouting.Toml.Lexical
import ChangeRouting.Toml.Value

/-!
# ChangeRouting.Toml.Document

Reading a TOML document.

* Items in brackets may stand on lines of their own and end with a comma; pairs in braces stand on one
  line and do not.
* Values lie within one another less deep than `nestingLimit`.
* A byte order mark before the document is passed over.
-/

namespace ChangeRouting.Toml

/-! ## values -/

private def readNumber : Reader Value := fun s =>
  ((readMoment s).map fun (_, rest) => (Value.moment, rest)) <|>
    ((readFloat s).map fun (_, rest) => (Value.fraction, rest)) <|>
    ((readInteger s).map fun (n, rest) => (Value.integer n, rest))

/-- The items up to the closing bracket.  The length of the text is enough `fuel`. -/
private def readItems (readOne : Reader Value) : Nat → Reader (List Value)
  | 0, _ => none
  | fuel + 1, s =>
    match skipLines s with
    | ']' :: rest => some ([], rest)
    | s => do
      let (item, rest) ← readOne s
      match skipLines rest with
      | ',' :: rest =>
        let (items, rest) ← readItems readOne fuel rest
        return (item :: items, rest)
      | ']' :: rest => return ([item], rest)
      | _ => none

private def readPair (readOne : Reader Value) : Reader (List String × String × Value) := fun s => do
  let ((path, key), rest) ← readKey s
  match rest with
  | '=' :: rest =>
    let (value, rest) ← readOne (skipBlanks rest)
    return ((path, key, value), skipBlanks rest)
  | _ => none

/-- The pairs up to the closing brace, at least one. -/
private def readPairs (readOne : Reader Value) : Nat → Reader (List (List String × String × Value))
  | 0, _ => none
  | fuel + 1, s => do
    let (pair, rest) ← readPair readOne s
    match rest with
    | ',' :: rest =>
      let (pairs, rest) ← readPairs readOne fuel rest
      return (pair :: pairs, rest)
    | '}' :: rest => return ([pair], rest)
    | _ => none

/-- A value with at most `depth` others around one another in it. -/
def readValue : Nat → Reader Value
  | depth, s =>
    match s with
    | '"' :: _ | '\'' :: _ => (readText s).map fun (text, rest) => (.text text, rest)
    | 't' :: 'r' :: 'u' :: 'e' :: rest => some (.boolean true, rest)
    | 'f' :: 'a' :: 'l' :: 's' :: 'e' :: rest => some (.boolean false, rest)
    | '[' :: rest =>
      match depth with
      | 0 => none
      | depth + 1 =>
        (readItems (readValue depth) (rest.length + 1) rest).map fun (items, rest) =>
          (.array items, rest)
    | '{' :: rest =>
      match depth with
      | 0 => none
      | depth + 1 =>
        match skipBlanks rest with
        | '}' :: rest => some (.table .closed [], rest)
        | rest => do
          let (pairs, rest) ← readPairs (readValue depth) (rest.length + 1) rest
          return (← ofPairs pairs, rest)
    | _ => readNumber s

/-! ## lines -/

/-- One line that says something, and what follows it. -/
private def readLine : Reader Line
  | '[' :: '[' :: rest => do
    let ((path, name), rest) ← readKey rest
    match rest with
    | ']' :: ']' :: rest => return (.listHeader path name, ← endLine? rest)
    | _ => none
  | '[' :: rest => do
    let ((path, name), rest) ← readKey rest
    match rest with
    | ']' :: rest => return (.header path name, ← endLine? rest)
    | _ => none
  | s => do
    let ((path, key, value), rest) ← readPair (readValue (nestingLimit - 1)) s
    return (.pair path key value, ← endLine? rest)

/-- The lines of a document.  The length of the text is enough `fuel`. -/
private def readLines : Nat → List Char → Option (List Line)
  | 0, _ => none
  | fuel + 1, s =>
    match skipLines s with
    | [] => some []
    | s => do
      let (line, rest) ← readLine s
      return line :: (← readLines fuel rest)

/-- The table a document stands for. -/
def parse? (text : String) : Option Entries := do
  let s :=
    match text.toList with
    | '\ufeff' :: rest => rest
    | s => s
  ofLines (← readLines (s.length + 1) s)

end ChangeRouting.Toml
