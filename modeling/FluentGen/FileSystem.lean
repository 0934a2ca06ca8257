import FluentGen.FileSystem.Path
/-!
# File systems

A file system is a finite map from places to files and directories, seen from a working directory.
A place is the list of names from the root to it. Following a path needs a directory at every place
on the way.

## Main definitions
* `FileSystem.entry?`, `FileSystem.insert`: the map.
* `FileSystem.walk`, `FileSystem.locate`: the place that a path leads to.
* `FileSystem.directory`, `FileSystem.read`, `FileSystem.write`, `FileSystem.makeDirectory`:
  operations that can be refused.
-/
namespace FluentGen

/-- The names from the root to a file or directory. -/
abbrev Place := List String

/-- What is at a place. -/
inductive Entry where
  | file (text : String)
  | directory
  deriving DecidableEq, Repr

/-- Why an operation on files is refused. -/
inductive AccessError where
  | notFound
  | notADirectory
  | isADirectory
  | alreadyExists
  /-- The path leaves the directory that it is confined to. -/
  | permissionDenied
  /-- The path cannot be that of a file. -/
  | invalidPath
  /-- The path, or a name in it, takes too many bytes. -/
  | nameTooLong
  deriving DecidableEq, Repr

/-- The words for a refusal. -/
def AccessError.message : AccessError → String
  | .notFound => "no such file or directory"
  | .notADirectory => "not a directory"
  | .isADirectory => "is a directory"
  | .alreadyExists => "already exists"
  | .permissionDenied => "permission denied"
  | .invalidPath => "invalid path"
  | .nameTooLong => "name too long"

/-- The files and directories of a machine, and the directory that relative paths start at. -/
structure FileSystem where
  workingDirectory : Place := []
  entries : List (Place × Entry) := []
  deriving DecidableEq, Repr

namespace FileSystem

/-- What is at a place. There is always a directory at the root. -/
def entry? (files : FileSystem) (place : Place) : Option Entry :=
  if place = [] then some .directory else files.entries.lookup place

/-- Puts an entry at a place, in the stead of what was there. -/
def insert (files : FileSystem) (place : Place) (entry : Entry) : FileSystem :=
  { files with entries := (place, entry) :: files.entries.filter (·.1 ≠ place) }

/-- Refuses a name of more than 255 bytes. -/
def checkName (name : String) : Except AccessError Unit :=
  if name.utf8ByteSize ≤ 255 then .ok () else .error .nameTooLong

/-- Follows names from the place `base ++ below`. Above `base` lies nothing: a path that is confined
may not go there, and any other stays at `base`. -/
def walk (files : FileSystem) (base : Place) (confined : Bool) (below : Place) :
    List String → Except AccessError Place
  | [] => .ok (base ++ below)
  | name :: names =>
    match files.entry? (base ++ below) with
    | none => .error .notFound
    | some (.file _) => .error .notADirectory
    | some .directory =>
      if Path.isIdle name then files.walk base confined below names
      else if name ≠ ".." then do
        checkName name
        files.walk base confined (below ++ [name]) names
      else if confined && below.isEmpty then .error .permissionDenied
      else files.walk base confined below.dropLast names

/-- Refuses texts that are no paths, and paths of 4096 bytes or more. -/
def checkPath (path : String) : Except AccessError Unit :=
  if path.isEmpty then .error .notFound
  else if path.contains '\x00' then .error .invalidPath
  else if path.utf8ByteSize < 4096 then .ok ()
  else .error .nameTooLong

/-- The place that a path starts at. -/
def start (files : FileSystem) (path : String) : Place :=
  if Path.isAbsolute path then [] else files.workingDirectory

/-- The place that a path leads to, whether or not anything is there. -/
def locate (files : FileSystem) (path : String) : Except AccessError Place := do
  checkPath path
  files.walk [] false (files.start path) (Path.names path)

/-- What is at the end of a path. -/
def find? (files : FileSystem) (path : String) : Option Entry :=
  match files.locate path with
  | .ok place => files.entry? place
  | .error _ => none

/-- Whether there is a file at the end of a path. -/
def isFile (files : FileSystem) (path : String) : Bool :=
  match files.find? path with
  | some (.file _) => true
  | _ => false

/-- The place of the directory at the end of a path. -/
def directory (files : FileSystem) (path : String) : Except AccessError Place := do
  let place ← files.locate path
  match files.entry? place with
  | some .directory => return place
  | some (.file _) => .error .notADirectory
  | none => .error .notFound

/-- The text of a file in a directory. -/
def read (files : FileSystem) (path name : String) : Except AccessError String := do
  let place ← files.directory path
  checkName name
  match files.entry? (place ++ [name]) with
  | some (.file text) => return text
  | some .directory => .error .isADirectory
  | none => .error .notFound

/-- Replaces the text of a file below a directory, or makes the file. -/
def write (files : FileSystem) (path name text : String) : Except AccessError FileSystem := do
  let base ← files.directory path
  checkPath name
  if Path.isAbsolute name then throw .permissionDenied
  let place ← files.walk base true [] (Path.names name)
  match files.entry? place with
  | some .directory => .error .isADirectory
  | _ => return files.insert place (.file text)

/-- Makes a directory inside a directory that exists. -/
def makeDirectory (files : FileSystem) (path : String) : Except AccessError FileSystem := do
  checkPath path
  match (Path.names path).reverse.dropWhile (· == "") with
  | [] => .error .alreadyExists
  | last :: above =>
    let place ← files.walk [] false (files.start path) above.reverse
    match files.entry? place, files.entry? (place ++ [last]) with
    | none, _ => .error .notFound
    | some (.file _), _ => .error .notADirectory
    | some .directory, none =>
      if Path.isTurn last then .error .alreadyExists
      else
        checkName last
        return files.insert (place ++ [last]) .directory
    | some .directory, some _ => .error .alreadyExists

/-- The text of the file at a relative path in the first of several directories that has one. -/
def searchIn? (files : FileSystem) (path : String) : List Place → Option String
  | [] => none
  | place :: places =>
    match (files.walk [] false place (Path.names path)).toOption.bind files.entry? with
    | some (.file text) => some text
    | _ => files.searchIn? path places

/-- A place and the places around it, from the inside out. -/
def surroundings (place : Place) : List Place :=
  (List.range (place.length + 1)).map fun height => place.take (place.length - height)

/-- The text of the file at a path. A relative path is looked up in the working directory first, and
then in the directories around it. -/
def search? (files : FileSystem) (path : String) : Option String :=
  files.searchIn? path
    (if Path.isAbsolute path then [[]] else surroundings files.workingDirectory)

/-- Puts a file at a place, with the directories that are missing around it. -/
def insertFile (files : FileSystem) (place : Place) (text : String) : FileSystem :=
  let missing := (surroundings place).tail.filter fun place => (files.entry? place).isNone
  (missing.foldl (fun files place => files.insert place .directory) files).insert place (.file text)

/-- The file system with some files, given by their paths from a working directory. -/
def ofFiles (workingDirectory : Place) (texts : List (String × String)) : FileSystem :=
  texts.foldl
    (fun files (path, text) =>
      files.insertFile (workingDirectory ++ (Path.names path).filter (!Path.isIdle ·)) text)
    { workingDirectory, entries := (surroundings workingDirectory).map (·, .directory) }

/-- The files below the working directory with their paths from it. -/
def texts (files : FileSystem) : List (String × String) :=
  files.entries.filterMap fun (place, entry) =>
    match entry with
    | .file text =>
      if files.workingDirectory.isPrefixOf place then
        some ("/".intercalate (place.drop files.workingDirectory.length), text)
      else none
    | .directory => none

end FileSystem

end FluentGen
