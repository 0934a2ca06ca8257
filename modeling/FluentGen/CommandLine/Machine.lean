import FluentGen.CommandLine.Failure
/-!
# What a run needs of a machine

A run reads and writes files and prints to the error stream. It is written against these operations,
so that it can be run on a file system that is a value just as on a disk.

## Main definitions
* `Machine`: the operations.
* `Session`: a file system with what has been printed, and the operations on it.
* `orFail`: turns a refused operation into the failure of a run.
-/
namespace FluentGen

/-- Operations on files and on the error stream. A file is addressed by the path of a directory and
a name in it. -/
class Machine (m : Type → Type) where
  /-- Whether there is a file at a path. -/
  isFile (path : String) : m Bool
  /-- The text of the file at a path in the working directory, or in the nearest directory around it
  that has one. -/
  search? (path : String) : m (Option String)
  /-- Looks for a directory. -/
  openDirectory (path : String) : m (Except AccessError Unit)
  /-- Makes a directory inside a directory that exists. -/
  makeDirectory (path : String) : m (Except AccessError Unit)
  /-- The text of a file. -/
  read (directory name : String) : m (Except AccessError String)
  /-- Replaces the text of a file below a directory. -/
  write (directory name text : String) : m (Except AccessError Unit)
  /-- Prints to the error stream. -/
  printError (text : String) : m Unit

/-- A file system, and what has been printed to the error stream. -/
structure Session where
  files : FileSystem
  printed : String := ""
  deriving DecidableEq, Repr

namespace Session

/-- Goes on with a changed file system, if the change was not refused. -/
def update (session : Session) (files : Except AccessError FileSystem) :
    Except AccessError Unit × Session :=
  match files with
  | .ok files => (.ok (), { session with files })
  | .error refusal => (.error refusal, session)

end Session

instance : Machine (StateM Session) where
  isFile path := do return (← get).files.isFile path
  search? path := do return (← get).files.search? path
  openDirectory path := do return ((← get).files.directory path).map fun _ => ()
  makeDirectory path := modifyGet fun session => session.update (session.files.makeDirectory path)
  read directory name := do return (← get).files.read directory name
  write directory name text :=
    modifyGet fun session => session.update (session.files.write directory name text)
  printError text := modify fun session => { session with printed := session.printed ++ text }

/-- Fails when an operation on the file at `path` is refused. -/
def orFail {m : Type → Type} {α : Type} [Monad m] (path : String)
    (operation : m (Except AccessError α)) : ExceptT Failure m α :=
  ExceptT.mk do return (← operation).mapError (.access path)

end FluentGen
