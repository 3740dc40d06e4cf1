/-!
# ChangeRouting.Query.Token

The words of queries and of what stands in them.

* Blanks, `--` comments up to the end of a line and `/* */` comments separate words; a block comment
  that is not closed goes on to the end.
* A text stands in single quotes, a name may stand in double quotes, in backquotes or in brackets; a
  quote inside is written twice.
* A word is made of letters, digits, `_` and `$`, any character beyond ASCII counting as a letter.
* A parameter is a word behind `:`, `@`, `#` or `$`, or a question mark with digits behind it, if any.
* A semicolon or a null character ends the text; what stands behind it is not looked at.
-/

namespace ChangeRouting.Query

/-- A word of a query. -/
inductive Token
  | word (name : String)
  /-- A name in quotes, with the mark it starts with. -/
  | quoted (mark : Char) (name : String)
  /-- Digits alone. -/
  | number (n : Nat)
  /-- A number with a point or an exponent. -/
  | fraction (numeral : String)
  | text (s : String)
  /-- With the mark it starts with; a bare question mark has an empty name. -/
  | parameter (name : String)
  | symbol (s : String)
  deriving DecidableEq, Repr

namespace Token

/-- The blanks between words; a vertical tab is one only behind another. -/
def isSpaceChar (c : Char) : Bool := c = ' ' || c = '\t' || c = '\n' || c = '\x0c' || c = '\r'

/-- A mark that counts for nothing. -/
def isByteOrderMark (c : Char) : Bool := c = '\ufeff'

/-- The first of a word. -/
def isWordStart (c : Char) : Bool := c.isAlpha || c = '_' || 128 ≤ c.toNat

/-- What a word goes on with. -/
def isWordChar (c : Char) : Bool := isWordStart c || c.isDigit || c = '$'

/-- What stands before the name of a parameter. -/
def isParameterMark (c : Char) : Bool := c = ':' || c = '@' || c = '#' || c = '$'

/-- What stands behind a block comment, given what stands behind its opening. -/
private def afterBlock : List Char → List Char
  | [] => []
  | '*' :: '/' :: rest => rest
  | _ :: rest => afterBlock rest

/-- The rest of what stands in quotes and what follows it; a quote inside is written twice. -/
private def readQuoted (quote : Char) : List Char → Option (List Char × List Char)
  | [] => none
  | [c] => if c = quote then some ([], []) else none
  | c :: d :: rest =>
    if c = quote then
      if d = quote then (readQuoted quote rest).map fun (s, after) => (quote :: s, after)
      else some ([], d :: rest)
    else (readQuoted quote (d :: rest)).map fun (s, after) => (c :: s, after)

/-- The rest of a parameter and what follows it: a word that may hold pairs of colons and end in a word
in parentheses. -/
private def readParameter (named : Bool) : List Char → Option (List Char × List Char)
  | ':' :: ':' :: rest =>
    (readParameter named rest).map fun (name, after) => (':' :: ':' :: name, after)
  | '(' :: rest =>
    if named then
      let inner := rest.takeWhile fun c => !(isSpaceChar c || c = '\x0b' || c = ')')
      match rest.drop inner.length with
      | ')' :: after => some ('(' :: inner ++ [')'], after)
      | _ => none
    else none
  | c :: rest =>
    if isWordChar c then (readParameter true rest).map fun (name, after) => (c :: name, after)
    else if named then some ([], c :: rest) else none
  | [] => if named then some ([], []) else none

/-- One symbol and what follows it. -/
def readSymbol : List Char → Option (String × List Char)
  | '=' :: '=' :: rest => some ("=", rest)
  | '=' :: rest => some ("=", rest)
  | '!' :: '=' :: rest => some ("<>", rest)
  | '<' :: '>' :: rest => some ("<>", rest)
  | '<' :: '=' :: rest => some ("<=", rest)
  | '<' :: '<' :: _ => none
  | '<' :: rest => some ("<", rest)
  | '>' :: '=' :: rest => some (">=", rest)
  | '>' :: '>' :: _ => none
  | '>' :: rest => some (">", rest)
  | '(' :: rest => some ("(", rest)
  | ')' :: rest => some (")", rest)
  | ',' :: rest => some (",", rest)
  | '.' :: rest => some (".", rest)
  | '-' :: rest => some ("-", rest)
  | '+' :: rest => some ("+", rest)
  | _ => none

private def digitsValue (digits : List Char) : Nat :=
  digits.foldl (fun n c => n * 10 + (c.toNat - 48)) 0

/-- An exponent and what follows it, if there is one. -/
private def readExponent (s : List Char) : List Char × List Char :=
  match s with
  | e :: rest =>
    if e = 'e' ∨ e = 'E' then
      let (sign, body) : List Char × List Char :=
        match rest with
        | '+' :: body => (['+'], body)
        | '-' :: body => (['-'], body)
        | body => ([], body)
      let digits := body.takeWhile Char.isDigit
      if digits.isEmpty then ([], s) else (e :: sign ++ digits, body.drop digits.length)
    else ([], s)
  | [] => ([], [])

/-- A number and what follows it; no word may follow. -/
private def readNumber (s : List Char) : Option (Token × List Char) :=
  let whole := s.takeWhile Char.isDigit
  let (point, rest) : List Char × List Char :=
    match s.drop whole.length with
    | '.' :: rest => ('.' :: rest.takeWhile Char.isDigit, rest.dropWhile Char.isDigit)
    | rest => ([], rest)
  let (exponent, after) := readExponent rest
  if after.head?.any isWordChar then none
  else if point.isEmpty && exponent.isEmpty then some (.number (digitsValue whole), after)
  else some (.fraction (String.ofList (whole ++ point ++ exponent)), after)

/-- The words of a text.  Each step uses up a character, so the length of the text is enough
`fuel`. -/
def scanFrom : Nat → List Char → Option (List Token)
  | 0, s => if s.isEmpty then some [] else none
  | fuel + 1, s =>
    match s with
    | [] => some []
    | ';' :: _ => some [.symbol ";"]
    | '-' :: '-' :: rest => scanFrom fuel (rest.dropWhile (· ≠ '\n'))
    | '/' :: '*' :: rest => scanFrom fuel (afterBlock rest)
    | '\'' :: rest => do
      let (body, after) ← readQuoted '\'' rest
      return .text (String.ofList body) :: (← scanFrom fuel after)
    | '[' :: rest => do
      let body := rest.takeWhile (· ≠ ']')
      match rest.drop body.length with
      | ']' :: after => return .quoted '[' (String.ofList body) :: (← scanFrom fuel after)
      | _ => none
    | '?' :: rest => do
      let digits := rest.takeWhile Char.isDigit
      let name := if digits.isEmpty then "" else String.ofList ('?' :: digits)
      return .parameter name :: (← scanFrom fuel (rest.dropWhile Char.isDigit))
    | c :: rest =>
      if isSpaceChar c then scanFrom fuel (rest.dropWhile fun c => isSpaceChar c || c = '\x0b')
      else if isByteOrderMark c then scanFrom fuel rest
      else if c = '"' ∨ c.toNat = 96 then do
        let (body, after) ← readQuoted c rest
        return .quoted c (String.ofList body) :: (← scanFrom fuel after)
      else if isParameterMark c then do
        let (name, after) ← readParameter false rest
        return .parameter (String.ofList (c :: name)) :: (← scanFrom fuel after)
      else if c.isDigit ∨ (c = '.' ∧ rest.head?.any Char.isDigit) then do
        let (token, after) ← readNumber s
        return token :: (← scanFrom fuel after)
      else if isWordStart c then do
        return .word (String.ofList (c :: rest.takeWhile isWordChar)) ::
          (← scanFrom fuel (rest.dropWhile isWordChar))
      else do
        let (sign, after) ← readSymbol s
        return .symbol sign :: (← scanFrom fuel after)

/-- The words of a text, unless it holds something that is none. -/
def scan (s : List Char) : Option (List Token) :=
  let s := s.takeWhile (· ≠ '\x00')
  scanFrom s.length s

/-- Whether the token is a word of the language, in either case. -/
def isWord (token : Token) (name : String) : Bool :=
  match token with
  | .word w => w.toUpper = name
  | _ => false

/-- Words of the query language that can name nothing. -/
def reserved : List String :=
  ["ADD", "ALL", "ALTER", "AND", "AS", "AUTOINCREMENT", "BETWEEN", "CASE", "CHECK", "COLLATE", "COMMIT",
    "CONSTRAINT", "CREATE", "DEFAULT", "DEFERRABLE", "DELETE", "DISTINCT", "DROP", "ELSE", "ESCAPE",
    "EXCEPT", "EXISTS", "FOREIGN", "FROM", "GROUP", "HAVING", "IN", "INDEX", "INSERT", "INTERSECT",
    "INTO", "IS", "ISNULL", "JOIN", "LIMIT", "NOT", "NOTHING", "NOTNULL", "NULL", "ON", "OR", "ORDER",
    "PRIMARY", "REFERENCES", "RETURNING", "SELECT", "SET", "TABLE", "THEN", "TO", "TRANSACTION", "UNION",
    "UNIQUE", "UPDATE", "USING", "VALUES", "WHEN", "WHERE"]

/-- The name a token stands for where a table or column is to be named. -/
def name? : Token → Option String
  | .word name => if name.toUpper ∈ reserved then none else some name
  | .quoted _ name => some name
  | _ => none

end Token

end ChangeRouting.Query
