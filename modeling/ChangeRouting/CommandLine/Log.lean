import ChangeRouting.Text.Blank

/-!
# ChangeRouting.CommandLine.Log

What the program says beside its answers, and which of it an operator asked to hear.

An operator asks by directives between commas:

* a level by itself is for everything, `origin=level` for what comes from an origin whose name begins so,
  and an origin by itself, or with an empty level, for all that comes from there;
* `[span]` behind the origin makes a directive about what happens within spans of work, which says nothing
  about notices; `[{field}]` restricts one to what has the field, and every notice has one, `message`;
* of the directives about a notice the one with the longest origin decides, of two with the same origin
  the one that names a field, and of two alike the last;
* directives that cannot be read are passed over, and without any only errors are heard.

A directive is read without the blanks around it, but its pieces are cut from the text with them, byte for
byte: a blank in front pushes every piece that much to the left.
-/

namespace ChangeRouting

/-- How grave a notice is. -/
inductive Severity
  | error
  | warning
  | information
  | detail
  deriving DecidableEq, Repr

/-- The rank of a severity; the gravest is the first. -/
def Severity.rank : Severity → Nat
  | error => 1
  | warning => 2
  | information => 3
  | detail => 4

/-- The word of a severity in the log. -/
def Severity.label : Severity → String
  | error => "ERROR"
  | warning => " WARN"
  | information => " INFO"
  | detail => "DEBUG"

/-- Something the program says beside its answers. -/
structure Notice where
  severity : Severity
  /-- The part of the program that says it. -/
  origin : String
  text : String
  deriving DecidableEq, Repr

/-- The line of a notice. -/
def Notice.render (notice : Notice) : String :=
  s!"{notice.severity.label} {notice.origin}: {notice.text}\n"

/-! ## levels -/

/-- Everything is heard. -/
def highestRank : Nat := 5

/-- The number digits stand for, which may have a plus sign in front. -/
private def wholeNumber? (text : List Char) : Option Nat :=
  let digits := if text.head? = some '+' then text.tail else text
  if digits ≠ [] ∧ digits.all Char.isDigit then
    some (digits.foldl (fun n c => 10 * n + (c.toNat - '0'.toNat)) 0)
  else none

/-- The rank a level stands for, as a word in either case or as a number. -/
def levelRank? (level : List Char) : Option Nat :=
  match wholeNumber? level with
  | some rank => if rank ≤ highestRank then some rank else none
  | none =>
    match (String.ofList level).toLower with
    | "off" => some 0
    | "error" => some 1
    | "warn" => some 2
    | "info" => some 3
    | "debug" => some 4
    | "trace" => some 5
    | _ => none

/-! ## directives -/

/-- What is heard of some origins. -/
structure Directive where
  /-- What the names of the origins begin with. -/
  origin : String
  /-- The field that is asked for. -/
  field : Option String
  /-- Whether it is about spans of work. -/
  isForSpans : Bool
  /-- The highest rank that is heard. -/
  rank : Nat
  deriving DecidableEq, Repr

namespace Directive

private def size (text : List Char) : Nat := text.foldl (fun n c => n + c.utf8Size) 0

private def takeBytes : Nat → List Char → List Char
  | 0, _ => []
  | _, [] => []
  | n, c :: rest => c :: takeBytes (n - c.utf8Size) rest

private def dropBytes : Nat → List Char → List Char
  | 0, text => text
  | _, [] => []
  | n, c :: rest => dropBytes (n - c.utf8Size) rest

/-- Whether an origin may begin with a character. -/
def mayBegin (c : Char) : Bool := c.isAlphanum || c = '-' || c = ':' || c = '_' || 127 < c.toNat

/-- The rank behind an equals sign. -/
def rankOf? (level : List Char) : Option Nat :=
  if level = [] then some highestRank else levelRank? level

/-- The directive a text stands for. -/
def ofText? (text : String) : Option Directive :=
  let whole := text.toList
  let shown := Text.trim whole
  let following (rest : List Char) : List Char := dropBytes (size shown - size rest) whole
  let rank? : List Char → Option Nat
    | [] => some highestRank
    | '=' :: level => rankOf? (following level)
    | _ => none
  let name := shown.takeWhile fun c => c ≠ '=' && c ≠ '['
  let origin := String.ofList (takeBytes (size name) whole)
  if !name.head?.all mayBegin then none
  else
    match shown.drop name.length with
    | [] =>
      if name = [] then none
      else
        match levelRank? whole with
        | some rank => some ⟨"", none, false, rank⟩
        | none => some ⟨text, none, false, highestRank⟩
    | '[' :: rest =>
      let span := rest.takeWhile fun c => c ≠ ']' && c ≠ '\x7b'
      match rest.drop span.length with
      | ']' :: rest => (rank? rest).map (⟨origin, none, true, ·⟩)
      | '\x7b' :: rest =>
        let field := rest.takeWhile (· ≠ '\x7d')
        let piece := takeBytes (size field) (following rest)
        let asked := String.ofList (piece.takeWhile (· ≠ '='))
        match field, rest.drop field.length with
        | _ :: _, '\x7d' :: ']' :: rest =>
          (rank? rest).map (⟨origin, some asked, span ≠ [] || '=' ∈ piece, ·⟩)
        | _, _ => none
      | _ => none
    | rest => if name = [] then none else (rank? rest).map (⟨origin, none, false, ·⟩)

/-- Whether a directive is about a notice. -/
def isAbout (directive : Directive) (notice : Notice) : Bool :=
  !directive.isForSpans && notice.origin.startsWith directive.origin &&
    directive.field.all (· = "message")

/-- Whether a directive is no more particular than another. -/
def isCoveredBy (directive other : Directive) : Bool :=
  directive.origin.length < other.origin.length ||
    (directive.origin.length = other.origin.length &&
      (directive.field.isNone || other.field.isSome))

end Directive

/-! ## what is heard -/

/-- What is heard at all. -/
structure LogFilter where
  directives : List Directive
  deriving DecidableEq, Repr

namespace LogFilter

/-- The filter a text of directives stands for. -/
def ofText (text : String) : LogFilter :=
  match (text.splitOn ",").filterMap Directive.ofText? with
  | [] => ⟨[⟨"", none, false, Severity.error.rank⟩]⟩
  | directives => ⟨directives⟩

/-- The directive that decides about a notice: of those about it the most particular one, and of two
alike the later. -/
def deciding? (filter : LogFilter) (notice : Notice) : Option Directive :=
  (filter.directives.filter (·.isAbout notice)).foldl (fun best directive =>
    match best with
    | some earlier => if earlier.isCoveredBy directive then some directive else best
    | none => some directive) none

/-- Whether a notice is heard. -/
def admits (filter : LogFilter) (notice : Notice) : Bool :=
  (filter.deciding? notice).any (notice.severity.rank ≤ ·.rank)

end LogFilter

end ChangeRouting
