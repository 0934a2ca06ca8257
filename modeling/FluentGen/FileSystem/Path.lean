/-!
# Paths

The text of a path: names between slashes, absolute when it starts with one. Empty names and single
dots are idle, save for a dot at the start.

## Main definitions
* `Path.names`, `Path.isAbsolute`: what a path is made of.
* `Path.steps`: the paths on the way to a path.
* `Path.split?`: the last name of a path and the directory that it is in.
* `Path.join`: a path taken from a directory.
-/
namespace FluentGen.Path

/-- The names between the slashes of a path. -/
def names (path : String) : List String :=
  (path.toList.splitOn '/').map String.ofList

/-- Whether a path starts at the root. -/
def isAbsolute (path : String) : Bool :=
  path.toList.head? == some '/'

/-- Whether a name stays where it is. -/
def isIdle (name : String) : Bool :=
  name == "" || name == "."

/-- Whether a name leads to a directory that is there already: a single or a double dot. -/
def isTurn (name : String) : Bool :=
  name == "." || name == ".."

/-- The paths that lead to a path, one name at a time. The last is the path as it is written, the
others are without idle names. -/
def steps (path : String) : List String :=
  let names := (names path).filter (!isIdle ·)
  let root := if isAbsolute path then "/" else ""
  ((List.range names.length).tail.map fun count => root ++ "/".intercalate (names.take count)) ++
    [path]

/-- The directory and the last name of a path. There is none when the last name is that of a
directory above, or when the path is idle. A file in the working directory is in the directory `.`,
and idle names before the last name do not count. -/
def split? (path : String) : Option (String × String) :=
  match names path with
  | [] => none
  | first :: others =>
    match others.reverse.dropWhile isIdle with
    | [] => if isIdle first || first == ".." then none else some (".", first)
    | name :: before =>
      let directory := "/".intercalate (first :: (before.dropWhile isIdle).reverse)
      if name == ".." then none else some (if directory == "" then "/" else directory, name)

/-- The path `name` as seen from `directory`. An absolute path is the same from everywhere. -/
def join (directory name : String) : String :=
  if isAbsolute name || directory == "" then name
  else if directory.toList.getLast? == some '/' then directory ++ name
  else directory ++ "/" ++ name

example : steps "a/./b/../." = ["a", "a/b", "a/./b/../."] := by decide
example : split? "data/./model.json" = some ("data", "model.json") := by decide
example : split? "model.json" = some (".", "model.json") := by decide
example : split? "/model.json" = some ("/", "model.json") := by decide
example : split? "data/.." = none := by decide
example : join "out/" "Point.g.cs" = "out/Point.g.cs" := by decide

end FluentGen.Path
