import Retouch.Pattern.Annotations
import Retouch.Pattern.Methods
import Retouch.Session.Basic

/-!
# Searches and preconditions

Questions about an attributed unit that change nothing: which calls and annotations fit a pattern, and
whether a unit mentions a type. `Precondition` combines such questions into the gate in front of a
recipe. In a cancelled session nothing is found and no gate is open.
-/

namespace Retouch

namespace Session

/-- The calls that satisfy `p`, a call before those in its receiver and its arguments. -/
def findCalls (s : Session) (u : CompilationUnit) (p : MethodInvocation → Bool) :
    List MethodInvocation :=
  (s.stops u).filterMap fun v => v.invocation?.filter p

/-- The calls of the methods of a pattern. -/
def findMethods (s : Session) (u : CompilationUnit) (p : MethodPattern) : List MethodInvocation :=
  s.findCalls u p.matches

/-- The calls that no method was found for. -/
def findUnattributed (s : Session) (u : CompilationUnit) : List MethodInvocation :=
  s.findCalls u fun m => m.method.isNone

def findAnnotations (s : Session) (u : CompilationUnit) (p : AnnotationPattern) :
    List Annotation :=
  (s.stops u).filterMap fun v =>
    match v.node with
    | .annotationUse a => if p.matches a then some a else none
    | _ => none

end Session

/-- The types in question: those of a pattern, and those below them if `subtypes` count. -/
structure TypeQuery where
  pattern : TypePattern
  subtypes : Bool
deriving DecidableEq, Repr

namespace TypeQuery

def matchesClass (q : TypeQuery) (c : ClassType) : Bool := q.pattern.matchesClass q.subtypes c

/-- A class that matches, or an array of such. -/
def matchesType (q : TypeQuery) : JavaType → Bool
  | .declared c => q.matchesClass c
  | .array component => q.matchesType component
  | _ => false

/-- An import mentions the type. A static one does through its class, if that is known. -/
def matchesImport (q : TypeQuery) (i : Import) : Bool :=
  match if i.isStatic then i.name.target.type.class? else none with
  | some owner => q.matchesClass owner
  | none => q.pattern.matchesName (i.typeName?.getD i.fullName)

/-- The stop lies inside a type. -/
def isInsideType (v : Visit) : Bool :=
  v.ancestors.any fun
    | .type _ => true
    | _ => false

/-- The node at a stop mentions the type: by the type of an expression, by the class of the called
method, or as a type. Types count as a whole. -/
def matchesStop (q : TypeQuery) (v : Visit) : Bool :=
  !isInsideType v && match v.node with
    | .expression (.methodInvocation m) =>
      q.matchesType m.type || m.method.any fun t => q.matchesClass t.declaring
    | .expression e => q.matchesType e.type
    | .type t => q.matchesType t.type
    | _ => false

/-- The unit mentions the type. -/
def holds (q : TypeQuery) (s : Session) (u : CompilationUnit) : Bool :=
  u.imports.any (fun i => q.matchesImport i.element) || (s.stops u).any q.matchesStop

end TypeQuery

/-- The gate in front of a recipe. -/
inductive Precondition where
  | usesType (query : TypeQuery)
  | usesMethod (pattern : MethodPattern)
  | all (parts : List Precondition)
  | any (parts : List Precondition)
  | not (part : Precondition)

namespace Precondition

/-- Both; a further part joins an existing list. -/
def and : Precondition → Precondition → Precondition
  | all parts, other => all (parts ++ [other])
  | first, other => all [first, other]

/-- One of both; a further part joins an existing list. -/
def or : Precondition → Precondition → Precondition
  | any parts, other => any (parts ++ [other])
  | first, other => any [first, other]

mutual

/-- The gate is open for the unit; that of a cancelled session never is. -/
def isOpen (s : Session) (u : CompilationUnit) : Precondition → Bool
  | usesType q => !s.cancelled && q.holds s u
  | usesMethod p => !s.cancelled && !(s.findMethods u p).isEmpty
  | all parts => !s.cancelled && allOpen s u parts
  | any parts => !s.cancelled && anyOpen s u parts
  | not part => !s.cancelled && !isOpen s u part

def allOpen (s : Session) (u : CompilationUnit) : List Precondition → Bool
  | [] => true
  | p :: ps => isOpen s u p && allOpen s u ps

def anyOpen (s : Session) (u : CompilationUnit) : List Precondition → Bool
  | [] => false
  | p :: ps => isOpen s u p || anyOpen s u ps

end

mutual

def display : Precondition → String
  | usesType q => "UsesType(" ++ q.pattern.text ++ ")"
  | usesMethod p => "UsesMethod(" ++ p.text ++ ")"
  | all parts => "(" ++ " and ".intercalate (displays parts) ++ ")"
  | any parts => "(" ++ " or ".intercalate (displays parts) ++ ")"
  | not part => "not " ++ part.display

def displays : List Precondition → List String
  | [] => []
  | p :: ps => p.display :: displays ps

end

end Precondition

end Retouch
