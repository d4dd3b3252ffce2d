/-!
# File trees

Texts in directories, and how a path leads to one of them.  A path is walked name by name: every
step but the last must end in a directory, so a path fails where its first bad step is.
-/

namespace Blueprint

/-- Why a file cannot be read or written. -/
inductive FileError where
  /-- Nothing is there. -/
  | missing
  /-- A step starts at something that is not a directory. -/
  | notDirectory
  /-- A directory is there. -/
  | directory
  /-- A name or the path is too long. -/
  | longName
  /-- The bytes of the file are not a text. -/
  | notText
  /-- Another reason, worded. -/
  | other (reason : String)
  deriving DecidableEq, Repr

/-- The wording of the error. -/
def FileError.message : FileError → String
  | .missing => "No such file or directory (os error 2)"
  | .notDirectory => "Not a directory (os error 20)"
  | .directory => "Is a directory (os error 21)"
  | .longName => "File name too long (os error 36)"
  | .notText => "stream did not contain valid UTF-8"
  | .other reason => reason

/-- What stands at a location. -/
inductive FileEntry where
  /-- A directory. -/
  | directory
  /-- A file. -/
  | text (content : String)
  /-- A device that reads as nothing and keeps nothing of what is written. -/
  | sink
  deriving DecidableEq, Repr

/-- The names that lead from the root to a place, the last one first. -/
abbrev Location := List String

/-- A tree of directories and files. -/
structure FileTree where
  /-- What stands where; the first entry of a location counts. -/
  entries : List (Location × FileEntry)
  /-- Where relative paths start. -/
  home : Location
  deriving DecidableEq, Repr

/-! ### Paths -/

/-- The parts of a path between its slashes. -/
def pathParts : List Char → List (List Char)
  | [] => [[]]
  | c :: rest =>
    if c = '/' then [] :: pathParts rest
    else match pathParts rest with
      | [] => [[c]]
      | part :: parts => (c :: part) :: parts

/-- The names in a path.  An empty name stays where it is, as a dot does. -/
def pathNames (path : String) : List String := (pathParts path.toList).map String.ofList

/-- The most bytes that a name has. -/
def maxNameSize : Nat := 255

/-- The most bytes that a path has. -/
def maxPathSize : Nat := 4095

namespace FileTree

variable (tree : FileTree)

/-- What stands at a location.  The root is a directory. -/
def entry? : Location → Option FileEntry
  | [] => some .directory
  | location => tree.entries.lookup location

/-- One step from a location, which must be a directory. -/
def step (location : Location) (name : String) : Except FileError Location :=
  match tree.entry? location with
  | none => .error .missing
  | some .directory =>
    if name = "" || name = "." then .ok location
    else if name = ".." then .ok location.tail
    else if maxNameSize < name.utf8ByteSize then .error .longName
    else .ok (name :: location)
  | some _ => .error .notDirectory

/-- Where a path starts: at the root if a slash comes first. -/
def start (path : String) : Location :=
  match path.toList with
  | '/' :: _ => []
  | _ => tree.home

/-- The location that names lead to, from the start of a path.  The empty path leads nowhere. -/
def walk (path : String) (names : List String) : Except FileError Location :=
  if path = "" then .error .missing
  else if maxPathSize < path.utf8ByteSize then .error .longName
  else names.foldlM tree.step (tree.start path)

/-! ### Reading and writing -/

/-- The text of a file. -/
def read (path : String) : Except FileError String := do
  match tree.entry? (← tree.walk path (pathNames path)) with
  | none => .error .missing
  | some .directory => .error .directory
  | some (.text content) => .ok content
  | some .sink => .ok ""

/-- The names of a path up to the last one that is not empty, which is left out. -/
def parentNames (path : String) : List String :=
  ((pathNames path).reverse.dropWhile (· == "")).tail.reverse

/-- The path ends in a slash, so it can only name a directory. -/
def namesDirectory (path : String) : Bool := path.toList.getLast? == some '/'

/-- Puts a text in the place of a file, or makes a new file. -/
def write (path content : String) : Except FileError FileTree := do
  if namesDirectory path then
    let _ ← tree.walk path (parentNames path ++ ["."])
    .error .directory
  else
    let location ← tree.walk path (pathNames path)
    match tree.entry? location with
    | some .directory => .error .directory
    | some .sink => .ok tree
    | _ => .ok { tree with entries := (location, .text content) :: tree.entries }

end FileTree

end Blueprint
