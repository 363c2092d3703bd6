import Retouch.Tree.Print

/-!
# Diagnostics

Remarks of recipes on the units that they visit.
-/

namespace Retouch

inductive Severity where
  | debug | info | warning | error
deriving DecidableEq, Repr

def Severity.name : Severity → String
  | debug => "debug"
  | info => "info"
  | warning => "warning"
  | error => "error"

structure Diagnostic where
  severity : Severity
  recipe : String
  message : String
  path : Option String := none
  /-- Where the node in question stands in the unit as it was visited. -/
  range : Option Span := none
deriving DecidableEq, Repr

/-- Severity, recipe, place and message on one line. A range without a path is left out. -/
def Diagnostic.display (d : Diagnostic) : String :=
  let range := match d.range with
    | some ⟨start, stop⟩ => "@" ++ toString start ++ ".." ++ toString stop
    | none => ""
  let place := match d.path with
    | some path => path ++ range ++ ": "
    | none => ""
  d.severity.name ++ ": [" ++ d.recipe ++ "] " ++ place ++ d.message

end Retouch
