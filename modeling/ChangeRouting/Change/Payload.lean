import ChangeRouting.Fault

/-!
# ChangeRouting.Change.Payload

Payloads: lists of nullable texts written as JSON arrays.

* `encode` writes the one compact form: quotes, backslashes and control characters are escaped, all
  other characters stand for themselves;
* `decode` reads any spelling JSON allows: white space between tokens, every escape, and characters
  beyond the basic plane as pairs of surrogate escapes.

A text that is not such an array, ends early or goes on after the array is refused.
-/

namespace ChangeRouting.Payload

/-! ## writing -/

/-- The hexadecimal digit of a number below sixteen. -/
def hexDigit (n : Nat) : Char :=
  if n < 10 then Char.ofNat (48 + n) else Char.ofNat (87 + n)

/-- One character inside a quoted text. -/
def escape (c : Char) : List Char :=
  if c = '"' then ['\\', '"']
  else if c = '\\' then ['\\', '\\']
  else if c = '\x08' then ['\\', 'b']
  else if c = '\t' then ['\\', 't']
  else if c = '\n' then ['\\', 'n']
  else if c = '\x0c' then ['\\', 'f']
  else if c = '\r' then ['\\', 'r']
  else if c.toNat < 32 then
    ['\\', 'u', '0', '0', hexDigit (c.toNat / 16), hexDigit (c.toNat % 16)]
  else [c]

/-- A quoted text. -/
def quote (s : List Char) : List Char := '"' :: (s.flatMap escape ++ ['"'])

/-- One element of the array. -/
def encodeValue : Option String → List Char
  | none => ['n', 'u', 'l', 'l']
  | some s => quote s.toList

/-- The elements after the first, each behind a comma, and the closing bracket. -/
def encodeRest : List (Option String) → List Char
  | [] => [']']
  | v :: vs => ',' :: (encodeValue v ++ encodeRest vs)

/-- The characters of a payload. -/
def encodeChars : List (Option String) → List Char
  | [] => ['[', ']']
  | v :: vs => '[' :: (encodeValue v ++ encodeRest vs)

/-- The payload of a list of values. -/
def encode (values : List (Option String)) : String := String.ofList (encodeChars values)

/-! ## reading -/

/-- The white space JSON allows between tokens. -/
def isSpace (c : Char) : Bool := c = ' ' || c = '\t' || c = '\n' || c = '\r'

/-- The value of a hexadecimal digit in either case. -/
def hexValue (c : Char) : Option Nat :=
  if '0' ≤ c ∧ c ≤ '9' then some (c.toNat - 48)
  else if 'a' ≤ c ∧ c ≤ 'f' then some (c.toNat - 87)
  else if 'A' ≤ c ∧ c ≤ 'F' then some (c.toNat - 55)
  else none

/-- The number four hexadecimal digits stand for. -/
def hexUnit (a b c d : Char) : Option Nat := do
  return ((← hexValue a) * 16 + (← hexValue b)) * 256 + ((← hexValue c) * 16 + (← hexValue d))

/-- The character an escape of one letter stands for. -/
def shortEscape (c : Char) : Option Char :=
  if c = '"' then some '"'
  else if c = '\\' then some '\\'
  else if c = '/' then some '/'
  else if c = 'b' then some '\x08'
  else if c = 'f' then some '\x0c'
  else if c = 'n' then some '\n'
  else if c = 'r' then some '\r'
  else if c = 't' then some '\t'
  else none

/-- The rest of a quoted text and what follows its closing quote.  A leading surrogate counts only
with the trailing one right behind it, and a control character must be escaped. -/
def readQuoted : List Char → Option (List Char × List Char)
  | [] => none
  | '"' :: rest => some ([], rest)
  | '\\' :: 'u' :: a :: b :: c :: d :: rest => do
    let unit ← hexUnit a b c d
    if unit < 0xD800 ∨ 0xE000 ≤ unit then
      let (text, after) ← readQuoted rest
      return (Char.ofNat unit :: text, after)
    else if 0xDC00 ≤ unit then none
    else
      match rest with
      | '\\' :: 'u' :: e :: f :: g :: h :: rest =>
        let low ← hexUnit e f g h
        if 0xDC00 ≤ low ∧ low < 0xE000 then
          let (text, after) ← readQuoted rest
          return (Char.ofNat (0x10000 + (unit - 0xD800) * 0x400 + (low - 0xDC00)) :: text, after)
        else none
      | _ => none
  | '\\' :: c :: rest => do
    let plain ← shortEscape c
    let (text, after) ← readQuoted rest
    return (plain :: text, after)
  | c :: rest =>
    if c = '\\' ∨ c.toNat < 32 then none
    else do
      let (text, after) ← readQuoted rest
      return (c :: text, after)

/-- One element and what follows it. -/
def readValue : List Char → Option (Option String × List Char)
  | 'n' :: 'u' :: 'l' :: 'l' :: rest => some (none, rest)
  | '"' :: rest => (readQuoted rest).map fun (text, after) => (some (String.ofList text), after)
  | _ => none

/-- What follows white space. -/
def skipSpace (s : List Char) : List Char := s.dropWhile isSpace

/-- The elements after the first, up to the end of the text.  Each costs at least one character, so
the length of the text is enough `fuel`. -/
def readRest : Nat → List Char → Option (List (Option String))
  | 0, _ => none
  | fuel + 1, s =>
    match skipSpace s with
    | ']' :: rest => if skipSpace rest = [] then some [] else none
    | ',' :: rest => do
      let (value, after) ← readValue (skipSpace rest)
      let values ← readRest fuel after
      return value :: values
    | _ => none

/-- The elements of a whole payload. -/
def decodeChars (s : List Char) : Option (List (Option String)) :=
  match skipSpace s with
  | '[' :: rest =>
    match skipSpace rest with
    | ']' :: rest => if skipSpace rest = [] then some [] else none
    | rest => do
      let (value, after) ← readValue rest
      let values ← readRest s.length after
      return value :: values
  | _ => none

/-- The values of a payload. -/
def decode (payload : String) : Except Fault (List (Option String)) :=
  match decodeChars payload.toList with
  | some values => .ok values
  | none => .error (.payload "a payload is an array of nullable texts")

end ChangeRouting.Payload
