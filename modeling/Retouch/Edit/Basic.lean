import Retouch.Import.Request
import Retouch.Session.Basic

/-!
# Editing

The effects of an edit: it shares a session, asks for imports and may fail. `Edited` is the result
of editing a tree. It keeps the ids of the nodes that were replaced or rebuilt, so that a tree without
such nodes is the tree that went in.

* A failure, or the cancellation of the session, stops the edit: nodes not yet entered stay as they are.
* Only the first failure is kept.
-/

namespace Retouch

/-- Why a unit cannot be edited. -/
inductive EditError where
  /-- An edit that promised to keep the kind of every node made another one. -/
  | changedKind (recipe expected actual : String)
  | cancelled
  /-- A request to import something that is no type: every segment of the name begins in lower case. -/
  | untypedImport (name : String)
deriving DecidableEq, Repr

def EditError.message : EditError → String
  | changedKind recipe expected actual =>
    "recipe '" ++ recipe ++ "' changed a " ++ expected ++ " into a " ++ actual ++
      " in an iso visitor"
  | cancelled => "run cancelled"
  | untypedImport name => "'" ++ name ++ "' names no type to import"

/-- A tree behind an edit. -/
structure Edited (α : Type) where
  value : α
  /-- The nodes of the tree before the edit that were replaced, or rebuilt around such nodes. -/
  touched : List NodeId

namespace Edited

variable {α β : Type}

/-- A tree that is left alone. -/
def same (a : α) : Edited α := ⟨a, []⟩

def map (f : α → β) (e : Edited α) : Edited β := ⟨f e.value, e.touched⟩

/-- A node whose parts were edited: it is touched if one of them is. -/
def rebuilt (id : NodeId) (touched : List NodeId) (a : α) : Edited α :=
  ⟨a, if touched.isEmpty then [] else id :: touched⟩

/-- The node `id` replaced, or left as it is behind the edit of its parts. -/
def replacedBy (e : Edited α) (id : NodeId) : Option α → Edited α
  | some a => ⟨a, id :: e.touched⟩
  | none => e

def isChanged (e : Edited α) : Bool := !e.touched.isEmpty

end Edited

/-- Who edits what, for diagnostics. -/
structure EditScope where
  recipe : String
  unit : Option CompilationUnit

/-- What an edit changes besides the tree. -/
structure EditState where
  session : Session
  requests : ImportRequests := {}
  failure : Option EditError := none

/-- A computation with the effects of an edit. -/
abbrev Edit := ReaderT EditScope (StateM EditState)

namespace Edit

/-- Nothing further is to be entered. -/
def halted : Edit Bool := do
  let s ← get
  return s.failure.isSome || s.session.cancelled

def modifySession (f : Session → Session) : Edit Unit :=
  modify fun s => { s with session := f s.session }

/-- Runs an operation of the session. -/
def withSession {α : Type} (f : Session → α × Session) : Edit α := do
  let s ← get
  let (a, session) := f s.session
  set { s with session }
  return a

def freshId : Edit NodeId := withSession Session.freshId

/-- Stops the edit of the unit. -/
def fail (e : EditError) : Edit Unit :=
  modify fun s => { s with failure := s.failure.or (some e) }

def addImport (typeName : String) (member : Option String) (ifReferenced : Bool) : Edit Unit :=
  modify fun s => { s with requests := s.requests.add ⟨typeName, member, ifReferenced⟩ }

def removeImport (name : String) : Edit Unit :=
  modify fun s => { s with requests := s.requests.remove name }

/-- Reports on a node of the unit. -/
def report (severity : Severity) (message : String) (node : NodeId) : Edit Unit := do
  let scope ← read
  modifySession (·.report
    { severity
      recipe := scope.recipe
      message
      path := scope.unit.map (·.path)
      range := scope.unit.bind (·.locate node) })

end Edit

end Retouch
