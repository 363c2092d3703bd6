import Retouch.Classpath.Overload
import Retouch.Classpath.Resource.Assertj
import Retouch.Classpath.Resource.JavaBase
import Retouch.Classpath.Resource.Junit
import Retouch.Classpath.Resource.JunitJupiter
import Retouch.Classpath.Resource.Mockito

/-!
# The class path

The library types that a source is read against. A class path is made of stubs, given directly or by
the names of bundled resources; `java-base` is part of every selection of resources.
-/

namespace Retouch

/-- Why a class path cannot be made. -/
inductive ClasspathError where
  | unknownResource (name : String) (known : List String)
  | duplicateType (fqn : String)
deriving DecidableEq, Repr

def ClasspathError.message : ClasspathError → String
  | unknownResource name known =>
    "unknown classpath resource '" ++ name ++ "' (known: " ++ ", ".intercalate known ++ ")"
  | duplicateType fqn => "type '" ++ fqn ++ "' is declared twice on the classpath"

/-- A field, with the type that declares it. -/
structure FieldInfo where
  owner : ClassType
  type : JavaType
  isStatic : Bool

structure Classpath where
  /-- Tells selections of resources apart. -/
  key : String
  stubs : List TypeStub
  /-- The class type of every stub, by name. -/
  classes : List (String × ClassType)

namespace Classpath

/-- The stubs that are not under construction. -/
def idle (stubs : List TypeStub) (active : List String) : List TypeStub :=
  stubs.filter fun s => !active.contains s.fqn

/-- The supertypes that a stub names; a type that names none is below `objectName`. -/
def supertypeNames (stub : TypeStub) : List String :=
  if stub.supertypes.isEmpty && stub.fqn != objectName then [objectName] else stub.supertypes

theorem idle_cons_length_lt {stubs : List TypeStub} {active : List String} {stub : TypeStub}
    (mem : stub ∈ stubs) (fresh : stub.fqn ∉ active) :
    (idle stubs (stub.fqn :: active)).length < (idle stubs active).length := by
  have sub : idle stubs (stub.fqn :: active) =
      (idle stubs active).filter fun s => s.fqn != stub.fqn := by
    simp only [idle, List.filter_filter]
    congr 1
    funext s
    by_cases h : s.fqn = stub.fqn <;> simp [h]
  rw [sub, List.length_filter_lt_length_iff_exists]
  exact ⟨stub, by simp [idle, mem, fresh], by simp⟩

/-- The class types made so far, by name. -/
abbrev Made := List (String × ClassType)

/-- The class type of a name, which is made once. A name without stub is a type without supertypes, and
so is one that is met again below itself: its construction is `active`. -/
def classOf (stubs : List TypeStub) (active : List String) (fqn : String) :
    StateM Made ClassType := do
  match (← get).lookup fqn with
  | some made => return made
  | none =>
    match found : stubs.find? (·.fqn == fqn) with
    | none => return .leaf fqn .clazz
    | some stub =>
      if fresh : stub.fqn ∈ active then return .leaf fqn stub.kind
      else
        let supertypes ← (supertypeNames stub).mapM (classOf stubs (stub.fqn :: active))
        let made := ⟨fqn, stub.kind, supertypes, stub.functional⟩
        modify ((fqn, made) :: ·)
        return made
termination_by (idle stubs active).length
decreasing_by exact idle_cons_length_lt (List.mem_of_find?_eq_some found) fresh

/-- The class types of all stubs. -/
def classesOf (stubs : List TypeStub) : Made :=
  ((stubs.mapM fun s => classOf stubs [] s.fqn).run []).2

/-- The first name that an earlier stub has as well. -/
def duplicate? (seen : List String) : List TypeStub → Option String
  | [] => none
  | s :: rest => if seen.contains s.fqn then some s.fqn else duplicate? (s.fqn :: seen) rest

def ofStubs (key : String) (stubs : List TypeStub) : Except ClasspathError Classpath :=
  match duplicate? [] stubs with
  | some fqn => .error (.duplicateType fqn)
  | none => .ok ⟨key, stubs, classesOf stubs⟩

/-- The resource in every selection. -/
def baseResource : String := "java-base"

/-- The bundled resources by name. -/
def resources : List (String × List TypeStub) := [
  (baseResource, Resource.javaBase),
  ("junit-jupiter-api-5.9", Resource.junitJupiter),
  ("junit-4.13", Resource.junit4),
  ("assertj-core-3.24", Resource.assertj),
  ("mockito-core-5", Resource.mockito)]

def resourceNames : List String := resources.map (·.1)

/-- The resources of a selection, `baseResource` first and each once. -/
def selection (names : List String) : List String :=
  names.foldl (fun chosen name => if chosen.contains name then chosen else chosen ++ [name])
    [baseResource]

def ofResources (names : List String) : Except ClasspathError Classpath := do
  let chosen := selection names
  let stubs ← chosen.mapM fun name =>
    match resources.lookup name with
    | some stubs => .ok stubs
    | none => .error (.unknownResource name resourceNames)
  ofStubs ("+".intercalate chosen) stubs.flatten

def stub? (cp : Classpath) (fqn : String) : Option TypeStub := cp.stubs.find? (·.fqn == fqn)

def contains (cp : Classpath) (fqn : String) : Bool := (cp.stub? fqn).isSome

def class? (cp : Classpath) (fqn : String) : Option ClassType := cp.classes.lookup fqn

/-- The component of a name that ends in brackets. -/
def arrayComponent? (cs : List Char) : Option (List Char) :=
  match cs.reverse with
  | ']' :: '[' :: rest => some rest.reverse
  | _ => none

theorem arrayComponent?_length {cs component : List Char}
    (h : arrayComponent? cs = some component) : component.length < cs.length := by
  unfold arrayComponent? at h
  split at h
  · rename_i rest e
    simp only [Option.some.injEq] at h
    have := congrArg List.length e
    simp only [List.length_reverse, List.length_cons] at this
    simp [← h]
    omega
  · simp at h

/-- The type of a name: a primitive type, a class, or an array of what stands in front of brackets. -/
def typeOfChars (cp : Classpath) (cs : List Char) : JavaType :=
  match h : arrayComponent? cs with
  | some component =>
    match cp.typeOfChars component with
    | .unknown => .unknown
    | type => .array type
  | none =>
    match Primitive.ofKeyword? (String.ofList cs) with
    | some p => .primitive p
    | none => ((cp.class? (String.ofList cs)).map JavaType.declared).getD .unknown
termination_by cs.length
decreasing_by exact arrayComponent?_length h

def typeOfName (cp : Classpath) (name : String) : JavaType := cp.typeOfChars name.toList

/-- The methods of a name that a type declares itself. -/
def declaredMethods (cp : Classpath) (owner : ClassType) (name : String) : List Candidate :=
  match cp.stub? owner.fqn with
  | none => []
  | some stub => (stub.methods.filter (·.name == name)).map fun m =>
    { declaring := owner
      name := m.name
      params := m.params.map cp.typeOfName
      returns := if m.returns == "SELF" then .receiver else .fixed (cp.typeOfName m.returns)
      isStatic := m.isStatic
      varargs := m.varargs }

/-- The method that a call on a receiver is bound to, looked up nearest ancestors first. -/
def resolveMethod? (cp : Classpath) (receiver : JavaType) (name : String) (args : List ArgShape) :
    Option MethodType := do
  let owner ← receiver.class?
  let candidates := owner.ancestors.flatMap fun a => cp.declaredMethods a name
  let chosen ← Overload.select? candidates args
  return chosen.methodType (some receiver)

/-- The field of a name that a type declares itself. -/
def declaredField? (cp : Classpath) (owner : ClassType) (name : String) : Option FieldInfo := do
  let stub ← cp.stub? owner.fqn
  let field ← stub.fields.find? (·.name == name)
  return ⟨owner, cp.typeOfName field.type, field.isStatic⟩

/-- A type declares a method or a field of this name. -/
def hasMember (cp : Classpath) (fqn member : String) : Bool :=
  (cp.stub? fqn).any fun stub =>
    stub.methods.any (·.name == member) || stub.fields.any (·.name == member)

end Classpath

end Retouch
