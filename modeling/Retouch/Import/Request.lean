/-!
# Requests for imports

A recipe never edits the list of imports. It asks for imports to be added or removed while it walks
through a unit, and the requests are met once, behind the walk.
-/

namespace Retouch

/-- The wish to import a type or a static member of it. -/
structure AddRequest where
  typeName : String
  /-- The static member; none for the type itself. -/
  member : Option String
  /-- Only if the unit refers to it. -/
  ifReferenced : Bool
deriving DecidableEq, Repr

/-- The name that the import has. -/
def AddRequest.name (r : AddRequest) : String :=
  match r.member with
  | some member => r.typeName ++ "." ++ member
  | none => r.typeName

/-- The requests on one unit, each once, in the order in which they were made. -/
structure ImportRequests where
  adds : List AddRequest := []
  /-- Names of types, of static members behind their type, or of packages behind which a star stands. -/
  removes : List String := []
deriving DecidableEq, Repr

namespace ImportRequests

def add (rs : ImportRequests) (r : AddRequest) : ImportRequests :=
  if rs.adds.contains r then rs else { rs with adds := rs.adds ++ [r] }

def remove (rs : ImportRequests) (name : String) : ImportRequests :=
  if rs.removes.contains name then rs else { rs with removes := rs.removes ++ [name] }

def isEmpty (rs : ImportRequests) : Bool := rs.adds.isEmpty && rs.removes.isEmpty

end ImportRequests

end Retouch
