import ChangeRouting.Change.Payload
import ChangeRouting.CommandLine.Files
import ChangeRouting.Text.Blank

/-!
# ChangeRouting.CommandLine.StorePlace

Where a store is kept, as the configuration says it.

* A path leads to a file by its names alone: two dots take back the name before them, whether it is there
  or not, and slashes and dots at the end count for nothing.
* `:memory:` is no file: the store is made anew each time it is opened, and nobody else sees it.
* `file:` begins an address: a path in which `%` and two hexadecimal digits stand for a byte, options
  after a question mark, and a remark after a number sign, which is passed over.
-/

namespace ChangeRouting

/-- How the address of a store wants it opened. -/
inductive StoreAccess
  /-- It does not say: a missing store is made, and readers only read. -/
  | unsaid
  /-- Only to read. -/
  | readOnly
  /-- To read and write what is there. -/
  | readWrite
  /-- To read and write, and to make what is missing. -/
  | create
  deriving DecidableEq, Repr

/-- Where a store is kept. -/
structure StorePlace where
  /-- The path of the file; none for a store in memory. -/
  file : Option String
  access : StoreAccess := .unsaid
  /-- Whether a store in memory is one for all who open it. -/
  isShared : Bool := false
  deriving DecidableEq, Repr

namespace StorePlace

/-- Whether the readers of a cycle see the store.  They ask for no more than to read, and an address that
grants more is refused to them. -/
def isOpenToReaders (place : StorePlace) : Bool :=
  place.access = .unsaid || place.access = .readOnly

/-- Whether the readers of a cycle see what is in the store. -/
def isSeenByReaders (place : StorePlace) : Bool :=
  place.isOpenToReaders && (place.file.isSome || place.isShared)

/-- The path by names alone. -/
private def byNames (path : String) : String := Place.path (Place.ofPath path)

/-! ## addresses -/

/-- The bytes of a text in which `%` and two hexadecimal digits stand for a byte.  A zero byte ends it. -/
def unescaped : List Char → List UInt8
  | [] => []
  | '%' :: high :: low :: rest =>
    match Payload.hexValue high, Payload.hexValue low with
    | some 0, some 0 => []
    | some high, some low => UInt8.ofNat (16 * high + low) :: unescaped rest
    | _, _ => '%'.toUInt8 :: unescaped (high :: low :: rest)
  | c :: rest => String.utf8EncodeChar c ++ unescaped rest

/-- The text an escaped text stands for. -/
private def plain? (text : List Char) : Option String :=
  String.fromUTF8? ⟨(unescaped text).toArray⟩

/-- An option, as its name and its value.  Without an equals sign the value is empty. -/
private def option? (text : List Char) : Option (String × String) := do
  let name := text.takeWhile (· ≠ '=')
  return (← plain? name, ← plain? (text.drop (name.length + 1)))

/-- A place with an option taken into account; none if the option has no such value. -/
def withOption (place : StorePlace) : String × String → Option StorePlace
  | ("mode", "ro") => some { place with access := .readOnly }
  | ("mode", "rw") => some { place with access := .readWrite }
  | ("mode", "rwc") => some { place with access := .create }
  | ("mode", "memory") => some { place with file := none, access := .unsaid }
  | ("mode", _) => none
  | ("cache", "shared") => some { place with isShared := true }
  | ("cache", "private") => some { place with isShared := false }
  | ("cache", _) => none
  | ("vfs", system) => if system = "unix" then some place else none
  | _ => some place

/-- The place an address leads to, without the word it begins with. -/
def ofAddress? (address : List Char) : Option StorePlace := do
  let address := address.takeWhile (· ≠ '#')
  let rest ← match address with
    | '/' :: '/' :: rest =>
      let host := rest.takeWhile (· ≠ '/')
      if host = [] ∨ String.ofList host = "localhost" then some (rest.drop host.length) else none
    | _ => some address
  let path := rest.takeWhile (· ≠ '?')
  let options ← (Text.splitAll '&' (rest.drop (path.length + 1))).mapM option?
  let place : StorePlace :=
    match ← plain? path with
    | "" | ":memory:" => { file := none }
    | path => { file := some (byNames path) }
  let place ← (options.filter (·.1 ≠ "")).foldlM withOption place
  return { place with isShared := place.isShared && path ≠ [] }

/-- The place a setting names. -/
def ofText (text : String) : Except Fault StorePlace :=
  if text.contains '\x00' then .error (.file "the path of the store has a zero character in it")
  else if text = ":memory:" then .ok { file := none }
  else
    match text.toList with
    | 'f' :: 'i' :: 'l' :: 'e' :: ':' :: address =>
      match ofAddress? address with
      | some place => .ok place
      | none => .error (.file s!"{text}: no such address")
    | _ => .ok { file := some (byNames text) }

end StorePlace

end ChangeRouting
