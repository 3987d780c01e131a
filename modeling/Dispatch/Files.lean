import Dispatch.Text.Quoted

namespace Dispatch

/-- A file that is not text cannot be read as text. -/
inductive FileEntry where
  | directory
  | text (content : String)
  | binary
deriving DecidableEq, Inhabited

/-- Entries by their place below the root; of two entries of one place the first counts. -/
structure Files where
  entries : List (List String × FileEntry)
deriving Inhabited

namespace Files

/-- Relative paths start here. -/
def workingDirectory : List String := ["work"]

/-- The root and the working directory, and nothing in them. -/
def empty : Files := ⟨[([], .directory), (workingDirectory, .directory)]⟩

/-- The entry at a place. -/
def entry? (files : Files) (place : List String) : Option FileEntry :=
  (files.entries.find? fun entry => entry.1 = place).map (·.2)

/-- One part after the other; each step starts in a directory. -/
def walk (files : Files) (place : List String) : List String → Option (List String)
  | [] => some place
  | part :: rest =>
    if files.entry? place ≠ some .directory then none
    else if part = "" ∨ part = "." then walk files place rest
    else if part = ".." then walk files place.dropLast rest
    else walk files (place ++ [part]) rest

/-- The parts of a path between slashes. -/
def parts (path : String) : List String :=
  (path.toList.splitOn '/').map String.ofList

/-- The place and the entry that a path leads to. -/
def find? (files : Files) (path : String) : Option (List String × FileEntry) := do
  if path.isEmpty ∨ path.toList.contains '\x00' then none
  let start := if path.toList.head? = some '/' then [] else workingDirectory
  let place ← files.walk start (parts path)
  return (place, ← files.entry? place)

/-- The path of a name in a directory. -/
def joined (directory name : String) : String :=
  if directory.toList.getLast? = some '/' then directory ++ name else directory ++ "/" ++ name

/-- The name with `.json` and something before it. -/
def isManifestName (name : String) : Bool :=
  ".json".toList.isSuffixOf name.toList && 5 < name.toList.length

/-- The files directly inside a directory that look like manifests, in the order of their names. -/
def manifestNames (files : Files) (place : List String) : List String :=
  let names := (files.entries.filterMap fun entry =>
    match entry.1.reverse, entry.2 with
    | name :: above, .text _ | name :: above, .binary =>
      if above.reverse = place ∧ isManifestName name then some name else none
    | _, _ => none)
  names.eraseDups.mergeSort

/-- A place is written anew. -/
def put (files : Files) (place : List String) (entry : FileEntry) : Files :=
  ⟨(place, entry) :: files.entries.filter fun other => other.1 ≠ place⟩

/-- A place and everything below it is gone. -/
def drop (files : Files) (place : List String) : Files :=
  ⟨files.entries.filter fun entry => !place.isPrefixOf entry.1⟩

/-- Directories on the way are made; a file on the way is in the way. -/
def makeDirectories (files : Files) : (above : List String) → List String → Option Files
  | _, [] => some files
  | above, part :: rest =>
    let place := above ++ [part]
    match files.entry? place with
    | some .directory => makeDirectories files place rest
    | some _ => none
    | none => makeDirectories (files.put place .directory) place rest

/-- Whether a path names nothing but entries on the way down, dots inside apart. -/
def isPlain (path : String) : Bool :=
  path.toList.head? ≠ some '/' && (parts path).head? ≠ some "." && !(parts path).contains ".."

/-- The names on a plain relative path. -/
def plainParts (path : String) : List String := (parts path).filter fun part => part ≠ "" ∧ part ≠ "."

/-- Makes the directory of a path and those above it. -/
def makeDirectory (files : Files) (path : String) : Option Files :=
  files.makeDirectories workingDirectory (plainParts path)

/-- Writes a file; directories above it are made. -/
def write (files : Files) (path : String) (entry : FileEntry) : Option Files := do
  let parts := plainParts path
  let files ← files.makeDirectories workingDirectory parts.dropLast
  let place := workingDirectory ++ parts
  if files.entry? place = some .directory then none else return files.put place entry

/-- Removes what a path leads to, with everything below it. -/
def remove (files : Files) (path : String) : Option Files := do
  let (place, _) ← files.find? path
  return files.drop place

end Files

end Dispatch
