import Retouch.Text.Split

/-!
# Paths

Paths are texts with slashes between their components. They are kept as they were put together, and
compared by their components: neither repeated slashes nor points in between make a difference.
-/

namespace Retouch.Path

/-- A component of a path. -/
inductive Component where
  | root
  /-- A point at the front. -/
  | current
  | parent
  | name (s : String)
deriving DecidableEq, Repr

/-- The components of the parts between slashes, behind the first one. -/
def laterComponents (parts : List String) : List Component :=
  parts.filterMap fun part =>
    match part with
    | "" | "." => none
    | ".." => some .parent
    | s => some (.name s)

def components (path : String) : List Component :=
  match Text.split '/' path with
  | "" :: rest => if path.isEmpty then [] else .root :: laterComponents rest
  | "." :: rest => .current :: laterComponents rest
  | parts => laterComponents parts

/-- The place of a component in the order, in front of the order of names. -/
def Component.rank : Component → Nat
  | root => 0
  | current => 1
  | parent => 2
  | name _ => 3

def Component.lt : Component → Component → Bool
  | name a, name b => a < b
  | a, b => a.rank < b.rank

/-- The order of paths: by their first components that differ. -/
def precedes : List Component → List Component → Bool
  | _, [] => false
  | [], _ :: _ => true
  | a :: as, b :: bs => a.lt b || (a == b && precedes as bs)

/-- A path is in front of another one, or the same. -/
def le (a b : String) : Bool := !precedes (components b) (components a)

/-- A name below a path. -/
def join (path name : String) : String :=
  if path.isEmpty || Text.hasTail "/" path then path ++ name else path ++ "/" ++ name

/-- The last component, if it is a name. -/
def fileName? (path : String) : Option String :=
  match (components path).getLast? with
  | some (.name s) => some s
  | _ => none

/-- What stands behind the last point of the file's name, unless the point comes first. -/
def extension? (path : String) : Option String := do
  let (stem, extension) ← Text.cutLast? '.' (← fileName? path)
  if stem.isEmpty then none else some extension

end Retouch.Path
