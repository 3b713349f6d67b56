import MysqlMetrics.Text.Split
/-!
# Files

The files that a program can see, by path. Of a path only the components count: empty ones and `.`
say nothing, and `..` takes one back. What cannot be read is said in the words of the system.
-/
namespace MysqlMetrics

inductive FileEntry where
  | file (content : String)
  | directory
  /-- Something that can be read like an empty file but is none. -/
  | device
deriving DecidableEq, Repr

inductive FileError where
  | missing
  | notDirectory
  | isDirectory
deriving DecidableEq, Repr

def FileError.message : FileError → String
  | .missing => "No such file or directory (os error 2)"
  | .notDirectory => "Not a directory (os error 20)"
  | .isDirectory => "Is a directory (os error 21)"

structure Files where
  /-- What stands at each absolute path, by components. -/
  entries : List (List String × FileEntry) := []
  /-- The directory that other paths are seen from, if it is known. -/
  current : Option (List String) := none
deriving Repr

namespace Files

/-- The components of a path, as they are walked. -/
def components (path : String) : List String :=
  (Text.split '/' path).filter fun c => c != "" && c != "."

def isAbsolute (path : String) : Bool := path.startsWith "/"

/-- The components that lead from the root to a path. -/
def steps? (files : Files) (path : String) : Option (List String) :=
  if path.isEmpty then none
  else if isAbsolute path then some (components path)
  else files.current.map (· ++ components path)

/-- Files by path. -/
def ofList (current : Option String) (entries : List (String × FileEntry)) : Files :=
  let bare : Files := { current := current.map components }
  { bare with entries := entries.filterMap fun (path, e) => (bare.steps? path).map fun s => (s, e) }

/-- What stands at a place; one with something below it is a directory. -/
def entry? (files : Files) (place : List String) : Option FileEntry :=
  match files.entries.lookup place with
  | some e => some e
  | none =>
    if place.isEmpty || files.entries.any (fun f => place.isPrefixOf f.1) then some .directory
    else none

/-- Walks components from a directory, whose own are `seen`. -/
def walk (files : Files) : List String → List String → Except FileError FileEntry
  | seen, [] =>
    match files.entry? seen with
    | some e => .ok e
    | none => .error .missing
  | seen, c :: rest =>
    match files.entry? seen with
    | none => .error .missing
    | some .directory => walk files (if c == ".." then seen.dropLast else seen ++ [c]) rest
    | some _ => .error .notDirectory

/-- What stands at a path. One that ends in a slash has to be a directory. -/
def find (files : Files) (path : String) : Except FileError FileEntry :=
  match files.steps? path with
  | none => .error .missing
  | some steps =>
    match files.walk [] steps with
    | .ok .directory => .ok .directory
    | .ok e => if path.endsWith "/" || path.endsWith "/." then .error .notDirectory else .ok e
    | .error e => .error e

/-- The content of a regular file. -/
def regular? (files : Files) (path : String) : Option String :=
  match files.find path with
  | .ok (.file content) => some content
  | _ => none

def read (files : Files) (path : String) : Except FileError String :=
  match files.find path with
  | .ok (.file content) => .ok content
  | .ok .device => .ok ""
  | .ok .directory => .error .isDirectory
  | .error e => .error e

end Files
end MysqlMetrics
