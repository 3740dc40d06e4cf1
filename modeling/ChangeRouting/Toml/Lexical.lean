/-!
# ChangeRouting.Toml.Lexical

The smallest pieces of a TOML document: blanks, comments, keys and values that hold no others.

Every reader gives what it read and the characters after it, or nothing.  Control characters other than
the tab stand nowhere, not even in comments.
-/

namespace ChangeRouting.Toml

/-- A reader of the start of a text. -/
abbrev Reader (α : Type) := List Char → Option (α × List Char)

/-! ## blanks, comments and line ends -/

/-- A blank within a line. -/
def isBlank (c : Char) : Bool := c = ' ' || c = '\t'

/-- A character that may stand in comments and, its own marks aside, in texts. -/
def isPlain (c : Char) : Bool := c = '\t' || (32 ≤ c.toNat && c.toNat ≠ 127)

/-- What follows blanks. -/
def skipBlanks (s : List Char) : List Char := s.dropWhile isBlank

/-- A line end and what follows it. -/
def lineEnd? : List Char → Option (List Char)
  | '\n' :: rest => some rest
  | '\r' :: '\n' :: rest => some rest
  | _ => none

/-- What follows blanks and a comment, if there is one. -/
def skipComment (s : List Char) : List Char :=
  match skipBlanks s with
  | '#' :: rest => rest.dropWhile isPlain
  | rest => rest

/-- What follows blanks, a comment and the end of the line, which the end of the text may stand for. -/
def endLine? (s : List Char) : Option (List Char) :=
  match skipComment s with
  | [] => some []
  | rest => lineEnd? rest

/-- What follows blanks, comments and line ends.  Each round uses up a line, so the length of the text
is enough `fuel`. -/
private def skipLinesFrom : Nat → List Char → List Char
  | 0, s => s
  | fuel + 1, s =>
    let rest := skipComment s
    match lineEnd? rest with
    | some rest => skipLinesFrom fuel rest
    | none => rest

/-- What follows blanks, comments and line ends. -/
def skipLines (s : List Char) : List Char := skipLinesFrom (s.length + 1) s

/-! ## texts -/

/-- The value of a hexadecimal digit. -/
def hexValue? (c : Char) : Option Nat :=
  if c.isDigit then some (c.toNat - 48)
  else if 'a' ≤ c ∧ c ≤ 'f' then some (c.toNat - 87)
  else if 'A' ≤ c ∧ c ≤ 'F' then some (c.toNat - 55)
  else none

/-- The character with the number that hexadecimal digits stand for. -/
def scalar? (digits : List Char) : Option Char := do
  let values ← digits.mapM hexValue?
  let n := values.foldl (fun n d => n * 16 + d) 0
  if n < 0xD800 ∨ (0xDFFF < n ∧ n < 0x110000) then some (Char.ofNat n) else none

/-- The character an escape stands for, given what follows the backslash. -/
def readEscape : Reader Char
  | 'b' :: rest => some ('\x08', rest)
  | 't' :: rest => some ('\t', rest)
  | 'n' :: rest => some ('\n', rest)
  | 'f' :: rest => some ('\x0c', rest)
  | 'r' :: rest => some ('\r', rest)
  | '"' :: rest => some ('"', rest)
  | '\\' :: rest => some ('\\', rest)
  | 'u' :: a :: b :: c :: d :: rest => (scalar? [a, b, c, d]).map (·, rest)
  | 'U' :: a :: b :: c :: d :: e :: f :: g :: h :: rest =>
    (scalar? [a, b, c, d, e, f, g, h]).map (·, rest)
  | _ => none

private def cons (c : Char) : List Char × List Char → List Char × List Char
  | (text, rest) => (c :: text, rest)

/-- The rest of a text in double quotes.  The length of the input is enough `fuel`. -/
private def readBasic : Nat → Reader (List Char)
  | 0, _ => none
  | _ + 1, [] => none
  | _ + 1, '"' :: rest => some ([], rest)
  | fuel + 1, '\\' :: rest => do
    let (c, rest) ← readEscape rest
    (readBasic fuel rest).map (cons c)
  | fuel + 1, c :: rest => if isPlain c then (readBasic fuel rest).map (cons c) else none

/-- The rest of a text in single quotes. -/
private def readLiteral : Reader (List Char)
  | [] => none
  | '\'' :: rest => some ([], rest)
  | c :: rest => if isPlain c then (readLiteral rest).map (cons c) else none

/-- What follows blanks and line ends. -/
private def skipBlankLines : List Char → List Char
  | '\n' :: rest => skipBlankLines rest
  | '\r' :: '\n' :: rest => skipBlankLines rest
  | c :: rest => if isBlank c then skipBlankLines rest else c :: rest
  | [] => []

/-- What follows the blanks and line ends behind a backslash at the end of a line. -/
private def joinLine? (s : List Char) : Option (List Char) :=
  (lineEnd? (skipBlanks s)).map skipBlankLines

/-- The rest of a text of several lines between triple quotes.  Up to two quotes right before the
closing ones belong to the text. -/
private def readLong (quote : Char) (escapes : Bool) : Nat → Reader (List Char)
  | 0, _ => none
  | _ + 1, [] => none
  | fuel + 1, c :: rest =>
    if c = quote then
      let run := (c :: rest).takeWhile (· = quote)
      let after := (c :: rest).dropWhile (· = quote)
      if run.length < 3 then (readLong quote escapes fuel after).map fun (text, rest) => (run ++ text, rest)
      else if run.length ≤ 5 then some (run.drop 3, after)
      else none
    else if c = '\\' && escapes then
      match joinLine? rest with
      | some rest => readLong quote escapes fuel rest
      | none => do
        let (c, rest) ← readEscape rest
        (readLong quote escapes fuel rest).map (cons c)
    else
      match lineEnd? (c :: rest) with
      | some rest => (readLong quote escapes fuel rest).map (cons '\n')
      | none => if isPlain c then (readLong quote escapes fuel rest).map (cons c) else none

/-- A line end right behind the opening quotes is no part of the text. -/
private def skipFirstLineEnd (s : List Char) : List Char := (lineEnd? s).getD s

/-- A text in quotes that may hold line ends. -/
def readText : Reader String := fun s =>
  let read :=
    match s with
    | '"' :: '"' :: '"' :: rest => readLong '"' true s.length (skipFirstLineEnd rest)
    | '"' :: rest => readBasic s.length rest
    | '\'' :: '\'' :: '\'' :: rest => readLong '\'' false s.length (skipFirstLineEnd rest)
    | '\'' :: rest => readLiteral rest
    | _ => none
  read.map fun (text, rest) => (String.ofList text, rest)

/-! ## keys -/

private def isKeyChar (c : Char) : Bool := c.isAlphanum || c = '_' || c = '-'

/-- A key without dots. -/
def readSimpleKey : Reader String
  | '"' :: rest => (readBasic (rest.length + 1) rest).map fun (text, rest) => (String.ofList text, rest)
  | '\'' :: rest => (readLiteral rest).map fun (text, rest) => (String.ofList text, rest)
  | s =>
    let name := s.takeWhile isKeyChar
    if name.isEmpty then none else some (String.ofList name, s.dropWhile isKeyChar)

/-- The most parts a key has, and the most values within one another. -/
def nestingLimit : Nat := 80

/-- The parts of a key; blanks may stand around them. -/
private def readParts : Nat → Reader (List String)
  | 0, _ => none
  | fuel + 1, s => do
    let (name, rest) ← readSimpleKey (skipBlanks s)
    match skipBlanks rest with
    | '.' :: rest =>
      let (names, rest) ← readParts fuel rest
      return (name :: names, rest)
    | rest => return ([name], rest)

/-- A key: the parts before its last dot, and the last part. -/
def readKey : Reader (List String × String) := fun s => do
  let (names, rest) ← readParts (nestingLimit - 1) s
  return ((names.dropLast, names.getLast?.getD ""), rest)

/-! ## numbers -/

/-- Digits with single underscores between them; the digits alone and what follows. -/
private def readDigits (isDigit : Char → Bool) : Reader (List Char) := fun s =>
  let word := s.takeWhile fun c => isDigit c || c = '_'
  let rest := s.drop word.length
  let single := (word.zip (word.drop 1)).all fun (a, b) => a ≠ '_' || b ≠ '_'
  if word.isEmpty || word.head? = some '_' || word.getLast? = some '_' || !single then none
  else some (word.filter (· ≠ '_'), rest)

private def numberOf (base : Nat) (digits : List Char) : Nat :=
  digits.foldl (fun n c => n * base + (hexValue? c).getD 0) 0

/-- A sign and what follows it. -/
private def readSign : List Char → Bool × List Char
  | '-' :: rest => (true, rest)
  | '+' :: rest => (false, rest)
  | rest => (false, rest)

/-- The least whole number. -/
def leastInteger : Int := -9223372036854775808

/-- The greatest whole number. -/
def greatestInteger : Int := 9223372036854775807

private def inRange (n : Int) : Option Int :=
  if leastInteger ≤ n ∧ n ≤ greatestInteger then some n else none

/-- Decimal digits behind a sign, without a zero before others. -/
private def readDecimal : Reader (Bool × List Char) := fun s => do
  let (negative, body) := readSign s
  match body with
  | '0' :: rest => some ((negative, ['0']), rest)
  | _ =>
    let (digits, rest) ← readDigits Char.isDigit body
    return ((negative, digits), rest)

/-- A whole number. -/
def readInteger : Reader Int
  | '0' :: 'x' :: rest => based 16 (fun c => (hexValue? c).isSome) rest
  | '0' :: 'o' :: rest => based 8 (fun c => '0' ≤ c && c ≤ '7') rest
  | '0' :: 'b' :: rest => based 2 (fun c => c = '0' || c = '1') rest
  | s => do
    let ((negative, digits), rest) ← readDecimal s
    let n : Int := numberOf 10 digits
    return (← inRange (if negative then -n else n), rest)
where
  based (base : Nat) (isDigit : Char → Bool) : Reader Int := fun s => do
    let (digits, rest) ← readDigits isDigit s
    return (← inRange (numberOf base digits), rest)

/-- The exponent of a number and what follows it. -/
private def readExponent : Reader Int
  | c :: rest =>
    if c = 'e' ∨ c = 'E' then do
      let (negative, body) := readSign rest
      let (digits, rest) ← readDigits Char.isDigit body
      let n : Int := numberOf 10 digits
      return (if negative then -n else n, rest)
    else none
  | [] => none

/-- Whether a number is beyond the range of double precision: from half a unit above the greatest
double on it would round to no finite number. -/
private def isInfinite (digits : List Char) (exponent : Int) : Bool :=
  let significant := digits.dropWhile (· = '0')
  let magnitude := significant.length + exponent
  if significant.isEmpty || magnitude < 309 then false
  else if 310 < magnitude then true
  else
    let bound := Nat.pow 2 1024 - Nat.pow 2 970
    let n := numberOf 10 significant
    if 0 ≤ exponent then bound ≤ n * Nat.pow 10 exponent.toNat
    else bound * Nat.pow 10 (-exponent).toNat ≤ n

/-- A number with a fraction or an exponent, or one that is no number of digits at all.  Digits stand for
no number above all others; below all others they may. -/
def readFloat : Reader Unit := fun s =>
  match (readSign s).2 with
  | 'i' :: 'n' :: 'f' :: rest => some ((), rest)
  | 'n' :: 'a' :: 'n' :: rest => some ((), rest)
  | _ => do
    let ((negative, whole), rest) ← readDecimal s
    match rest with
    | '.' :: rest =>
      let (places, rest) ← readDigits Char.isDigit rest
      match rest with
      | c :: _ =>
        if c = 'e' ∨ c = 'E' then
          let (exponent, rest) ← readExponent rest
          finite negative (whole ++ places) (exponent - places.length) rest
        else finite negative (whole ++ places) (-places.length) rest
      | [] => finite negative (whole ++ places) (-places.length) rest
    | _ =>
      let (exponent, rest) ← readExponent rest
      finite negative whole exponent rest
where
  finite (negative : Bool) (digits : List Char) (exponent : Int) (rest : List Char) :
      Option (Unit × List Char) :=
    if !negative && isInfinite digits exponent then none else some ((), rest)

/-! ## points in time -/

/-- A number of exactly `n` digits within bounds. -/
private def readFixed (n low high : Nat) : Reader Nat := fun s =>
  let digits := s.take n
  let value := numberOf 10 digits
  if digits.length = n ∧ digits.all Char.isDigit ∧ low ≤ value ∧ value ≤ high then
    some (value, s.drop n)
  else none

/-- One character that is expected. -/
private def expect (wanted : Char) : List Char → Option (List Char)
  | c :: rest => if c = wanted then some rest else none
  | [] => none

private def daysIn (year month : Nat) : Nat :=
  if month = 2 then if year % 4 = 0 ∧ (year % 100 ≠ 0 ∨ year % 400 = 0) then 29 else 28
  else if month = 4 ∨ month = 6 ∨ month = 9 ∨ month = 11 then 30
  else 31

private def readDate : Reader Unit := fun s => do
  let (year, rest) ← readFixed 4 0 9999 s
  let (month, rest) ← readFixed 2 1 12 (← expect '-' rest)
  let (_, rest) ← readFixed 2 1 (daysIn year month) (← expect '-' rest)
  return ((), rest)

private def readTime : Reader Unit := fun s => do
  let (_, rest) ← readFixed 2 0 23 s
  let (_, rest) ← readFixed 2 0 59 (← expect ':' rest)
  let (_, rest) ← readFixed 2 0 60 (← expect ':' rest)
  match rest with
  | '.' :: rest =>
    let digits := rest.takeWhile Char.isDigit
    if digits.isEmpty then none else return ((), rest.drop digits.length)
  | _ => return ((), rest)

private def readOffset : Reader Unit
  | 'Z' :: rest | 'z' :: rest => some ((), rest)
  | c :: rest =>
    if c = '+' ∨ c = '-' then do
      let (_, rest) ← readFixed 2 0 23 rest
      let (_, rest) ← readFixed 2 0 59 (← expect ':' rest)
      return ((), rest)
    else none
  | [] => none

/-- What follows a time behind a date, if there is one. -/
private def afterTime? : List Char → Option (List Char)
  | c :: rest =>
    if c = 'T' ∨ c = 't' ∨ c = ' ' then do
      let (_, rest) ← readTime rest
      match readOffset rest with
      | some (_, rest) => return rest
      | none => return rest
    else none
  | [] => none

/-- A date, a time, or both, with or without an offset. -/
def readMoment : Reader Unit := fun s =>
  match readDate s with
  | none => readTime s
  | some (_, rest) => some ((), (afterTime? rest).getD rest)

end ChangeRouting.Toml
