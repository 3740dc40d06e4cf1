import ChangeRouting.Fault

/-!
# ChangeRouting.CommandLine.Files

The files that commands work with: what a command needs of a file system, and a folder of texts that
gives just that.

A path leads from the working directory, or from the root when it begins with a slash, part by part to a
*place*:

* an empty part and a single dot lead nowhere else, two dots lead one level up, and any other part to what
  is kept under that name;
* to go on from a place, with whatever part, takes a directory, so a slash or a dot after the name of a
  file makes the path one of nothing.
-/

namespace ChangeRouting

/-- What commands need of a file system. -/
structure FileSystem (m : Type → Type) where
  /-- The text of a file, unless there is none. -/
  read : String → m (Except Fault (Option String))
  /-- Put a text in place of what is there.  The directory must be there. -/
  write : String → String → m (Except Fault Unit)
  /-- Make a directory and those above it, as far as they are missing. -/
  makeDirectory : String → m (Except Fault Unit)

/-! ## paths -/

/-- The names that lead to a place from the working directory.  Those of a place above it begin with two
dots for each level, those of a place below the root with a slash. -/
abbrev Place := List String

namespace Place

/-- The place one level up.  There is nothing above the root. -/
def above (place : Place) : Place :=
  if place = ["/"] then place
  else if place.all (· = "..") then ".." :: place
  else place.dropLast

/-- Where a part of a path leads. -/
def step (place : Place) (part : String) : Place :=
  if part = "" ∨ part = "." then place
  else if part = ".." then place.above
  else place ++ [part]

/-- Where a path starts. -/
def start (path : String) : Place := if path.startsWith "/" then ["/"] else []

/-- Where a path leads if every place on the way is a directory. -/
def ofPath (path : String) : Place := (path.splitOn "/").foldl step (start path)

/-- The shortest path to a place. -/
def path : Place → String
  | [] => "."
  | "/" :: names => "/" ++ "/".intercalate names
  | names => "/".intercalate names

@[simp] theorem step_empty (place : Place) : place.step "" = place := by simp [step]

@[simp] theorem step_dot (place : Place) : place.step "." = place := by simp [step]

end Place

/-- The directory a path lies in, for a path of more than a name.  Slashes and single dots at its end
count for nothing. -/
def directoryOf? (path : String) : Option String :=
  match idle (idle (path.splitOn "/").reverse).tail with
  | [] => none
  | parts => some ("/".intercalate parts.reverse)
where
  idle (parts : List String) : List String := parts.dropWhile fun part => part = "" || part = "."

/-! ## folders -/

/-- Files by their places, and the directories made on purpose. -/
structure Folder where
  files : List (Place × String)
  directories : List Place
  deriving DecidableEq, Repr

namespace Folder

/-- An empty folder. -/
def empty : Folder := ⟨[], []⟩

/-- The text of the file at the end of a path. -/
def text? (folder : Folder) (path : String) : Option String := folder.files.lookup (Place.ofPath path)

/-- Whether a directory is there: the working directory, all above it, the root, what was made, and what
something lies in. -/
def hasDirectory (folder : Folder) (place : Place) : Bool :=
  place.all (· = "..") || place = ["/"] || folder.directories.any (place.isPrefixOf ·) ||
    folder.files.any fun (file, _) => place.isPrefixOf file && place ≠ file

/-- Whether a file is there. -/
def hasFile (folder : Folder) (place : Place) : Bool := folder.files.any (·.1 = place)

/-- Whether every place on the way is a directory. -/
def reaches (folder : Folder) (path : String) : Bool :=
  ((path.splitOn "/").foldl
    (fun (free, place) part => (free && folder.hasDirectory place, Place.step place part))
    (true, Place.start path)).1

/-- The folder with a text in place of what was there. -/
def put (folder : Folder) (path text : String) : Folder :=
  let place := Place.ofPath path
  { folder with files := (place, text) :: folder.files.filter (·.1 ≠ place) }

/-- What was put is read back. -/
@[simp] theorem text?_put (folder : Folder) (path text : String) :
    (folder.put path text).text? path = some text := by
  simp [put, text?]

/-- Other files stay as they are. -/
theorem text?_put_of_ne {folder : Folder} {path other text : String}
    (h : Place.ofPath other ≠ Place.ofPath path) :
    (folder.put path text).text? other = folder.text? other := by
  simp only [put, text?, List.lookup_cons, beq_eq_false_iff_ne.2 h]
  induction folder.files with
  | nil => rfl
  | cons file rest ih =>
    by_cases same : file.1 = Place.ofPath path
    · rw [List.filter_cons_of_neg (by simpa using same), ih, List.lookup_cons,
        beq_eq_false_iff_ne.2 (same ▸ h)]
    · rw [List.filter_cons_of_pos (by simpa using same), List.lookup_cons, List.lookup_cons, ih]

private def fault (path reason : String) : Fault := .file s!"{path}: {reason}"

/-- The most bytes a name may have. -/
def longestName : Nat := 255

/-- Whether every name on a path is short enough. -/
def namesFit (path : String) : Bool :=
  (path.splitOn "/").all fun name => name.utf8ByteSize ≤ longestName

/-- Read a file. -/
def read (path : String) (folder : Folder) : Except Fault (Option String) :=
  if !folder.reaches path then .ok none
  else if folder.hasDirectory (Place.ofPath path) then .error (fault path "is a directory")
  else .ok (folder.text? path)

/-- Write a file. -/
def write (path text : String) (folder : Folder) : Except Fault Folder :=
  if !namesFit path then .error (fault path "name too long")
  else if !folder.reaches path then .error (fault path "no such directory")
  else if folder.hasDirectory (Place.ofPath path) then .error (fault path "is a directory")
  else .ok (folder.put path text)

/-- Make a directory and, on the way to it, those that are missing; none of what lies on the way may be a
file. -/
def makeDirectory (path : String) (folder : Folder) : Except Fault Folder :=
  if !namesFit path then .error (fault path "name too long")
  else
    (·.2) <$> (path.splitOn "/").foldlM (fun (place, folder) part =>
      let next := Place.step place part
      if folder.hasDirectory next then .ok (next, folder)
      else if folder.hasFile next then .error (fault path "is not a directory")
      else .ok (next, { folder with directories := next :: folder.directories }))
      (Place.start path, folder)

/-- A folder as a file system. -/
def fileSystem : FileSystem (StateM Folder) where
  read path := fun folder => (folder.read path, folder)
  write path text := change (write path text)
  makeDirectory path := change (makeDirectory path)
where
  /-- A change that leaves the folder as it was when it fails. -/
  change (run : Folder → Except Fault Folder) : StateM Folder (Except Fault Unit) := fun folder =>
    match run folder with
    | .ok after => (.ok (), after)
    | .error fault => (.error fault, folder)

end Folder

end ChangeRouting
