import Retouch.Path.Basic

/-!
# Files

The files that a run can see, each under its place: the names from the working directory down to it.
A directory is there as long as a file is below it. Paths lead to places step by step, and every step
but the last has to stand on a directory.
-/

namespace Retouch

/-- The names from the working directory down to a file or a directory. Outside of the working directory
they begin with two points or, from the root on, with a slash. -/
abbrev Location := List String

namespace Location

def parent (place : Location) : Location :=
  if place.getLast?.all (· == "..") then place ++ [".."] else place.dropLast

/-- The place that a path names, step by step. -/
def ofPath (path : String) : Location :=
  (Path.components path).foldl (fun place component =>
    match component with
    | .root => ["/"]
    | .current => place
    | .parent => Location.parent place
    | .name s => place ++ [s]) []

/-- The shortest path to a place. -/
def path : Location → String
  | [] => "."
  | "/" :: names => "/" ++ "/".intercalate names
  | names => "/".intercalate names

end Location

/-- The files by their places. -/
structure FileStore where
  files : List (Location × String) := []

/-- What a path leads to. -/
inductive FileKind where
  | file | directory
deriving DecidableEq, Repr

/-- Why a file cannot be read. -/
inductive FileFault where
  | missing
  /-- A file stands where the path needs a directory. -/
  | notDirectory
  | isDirectory
deriving DecidableEq, Repr

def FileFault.message : FileFault → String
  | missing => "No such file or directory (os error 2)"
  | notDirectory => "Not a directory (os error 20)"
  | isDirectory => "Is a directory (os error 21)"

namespace FileStore

def text? (s : FileStore) (place : Location) : Option String := s.files.lookup place

/-- The place of each file below a directory, from there on. -/
def placesBelow (s : FileStore) (place : Location) : List Location :=
  s.files.filterMap fun (file, _) =>
    (place.isPrefixOf? file).filter (!·.isEmpty)

/-- The working directory is always there. -/
def isDirectory (s : FileStore) (place : Location) : Bool :=
  place.isEmpty || !(s.placesBelow place).isEmpty

/-- Goes on from a place; every step has to stand on a directory. -/
def reach (s : FileStore) : Location → List String → Except FileFault Location
  | place, [] => .ok place
  | place, part :: parts =>
    if !s.isDirectory place then
      .error (if (s.text? place).isSome then .notDirectory else .missing)
    else match part with
      | "" | "." => s.reach place parts
      | ".." => s.reach (Location.parent place) parts
      | name => s.reach (place ++ [name]) parts

/-- The place that a path leads to, whether or not something is there. -/
def place (s : FileStore) (path : String) : Except FileFault Location :=
  if path.isEmpty then .error .missing
  else match Text.split '/' path with
    | "" :: parts => s.reach ["/"] parts
    | parts => s.reach [] parts

def place? (s : FileStore) (path : String) : Option Location := (s.place path).toOption

def kind? (s : FileStore) (path : String) : Option FileKind := do
  let place ← s.place? path
  if s.isDirectory place then some .directory
  else (s.text? place).map fun _ => .file

def isFile (s : FileStore) (path : String) : Bool := s.kind? path == some .file

/-- The text of the file that a path leads to. -/
def read (s : FileStore) (path : String) : Except FileFault String := do
  let place ← s.place path
  if s.isDirectory place then throw .isDirectory
  match s.text? place with
  | some text => return text
  | none => throw .missing

/-- The files with another text for the one that a path leads to. -/
def write (s : FileStore) (path text : String) : FileStore :=
  match s.place? path with
  | none => s
  | some place => ⟨s.files.map fun (file, old) => (file, if file == place then text else old)⟩

/-- The nonempty beginnings of a list. -/
def beginnings (names : List String) : List (List String) :=
  (List.range names.length).map fun n => names.take (n + 1)

/-- The names from a directory down to each file below it. -/
def filesBelow (s : FileStore) (path : String) : List (List String) :=
  ((s.place? path).map s.placesBelow).getD []

/-- The names from a directory down to everything below it, directories included. -/
def entriesBelow (s : FileStore) (path : String) : List (List String) :=
  ((s.filesBelow path).flatMap beginnings).eraseDups

/-- The names directly in a directory. -/
def namesIn (s : FileStore) (path : String) : List String :=
  ((s.filesBelow path).filterMap (·.head?)).eraseDups

end FileStore

end Retouch
