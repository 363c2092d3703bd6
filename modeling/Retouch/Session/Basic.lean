import Retouch.Attribution.Basic
import Retouch.Config.Value
import Retouch.Session.Diagnostic
import Retouch.Template.Fragment
import Retouch.Tree.Walk

/-!
# Sessions

What the units of one run share: the options, whether the run was cancelled, diagnostics, messages that
recipes leave for each other, and the class paths and template fragments made so far. A class path or
a fragment is made at most once, and so is the error if it cannot be made.

A cancelled session walks through no unit.
-/

namespace Retouch

/-- What a recipe leaves for others. -/
inductive Message where
  | text (s : String)
  | number (n : Int)
deriving DecidableEq, Repr

structure Session where
  /-- The values of options by recipe and name. -/
  options : Table (Table Value) := []
  cancelled : Bool := false
  diagnostics : List Diagnostic := []
  messages : Table Message := []
  /-- The class paths made so far, by the names of the resources. -/
  classpaths : Table (Except ClasspathError Classpath) := []
  /-- The fragments made so far, by what they were made from. -/
  fragments : Table (Except TemplateError Fragment) := []
  /-- No node has this id or a greater one. -/
  nextId : NodeId := 0

namespace Session

def setOption (s : Session) (recipe name : String) (value : Value) : Session :=
  { s with options := s.options.set recipe (((s.options.get? recipe).getD []).set name value) }

def cancel (s : Session) : Session := { s with cancelled := true }

def report (s : Session) (d : Diagnostic) : Session :=
  { s with diagnostics := s.diagnostics ++ [d] }

/-- The diagnostics so far, and the session without them. -/
def takeDiagnostics (s : Session) : List Diagnostic × Session :=
  (s.diagnostics, { s with diagnostics := [] })

/-- Leaves a message unless there is one under this name, and tells the one that is there. -/
def putMessage (s : Session) (name : String) (m : Message) : Message × Session :=
  match s.messages.get? name with
  | some stored => (stored, s)
  | none => (m, { s with messages := s.messages.set name m })

/-- A fresh id for a new node. -/
def freshId (s : Session) : NodeId × Session := (s.nextId, { s with nextId := s.nextId + 1 })

/-- The class path of a selection of resources. -/
def classpath (s : Session) (resources : List String) :
    Except ClasspathError Classpath × Session :=
  let key := "+".intercalate resources
  match s.classpaths.get? key with
  | some made => (made, s)
  | none =>
    let made := Classpath.ofResources resources
    (made, { s with classpaths := s.classpaths.set key made })

/-- The attributed unit of a source. -/
def parse (s : Session) (classpath : Classpath) (bindings : List (String × JavaType))
    (path source : String) : Except ParseError CompilationUnit × Session :=
  match parseSource classpath bindings path source s.nextId with
  | .ok (u, nextId) => (.ok u, { s with nextId })
  | .error e => (.error e, s)

/-- The stops of a walk through a unit; a cancelled session makes none. -/
def stops (s : Session) (u : CompilationUnit) : List Visit := if s.cancelled then [] else u.visits

/-- The state of the session in figures. -/
def summary (s : Session) : String :=
  "ExecutionContext \x7b cancelled: " ++ toString s.cancelled ++ ", diagnostics: " ++
    toString s.diagnostics.length ++ ", classpaths: " ++ toString s.classpaths.length ++
    ", templates: " ++ toString s.fragments.length ++ ", .. \x7d"

end Session

end Retouch
