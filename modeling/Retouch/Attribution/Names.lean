import Retouch.Classpath.Basic
import Retouch.Tree.Node

/-!
# What names mean in a unit

`Names` knows the types that a unit can name: those of the class path, those that it imports and those
that it declares. A simple name is looked up among the declared types, the single imports, the unit's
package, the packages imported on demand and `java.lang`, in this order.
-/

namespace Retouch

/-- A type declared in the unit, with its members. -/
structure LocalType where
  type : ClassType
  /-- Type and static flag of the fields, by name. -/
  fields : List (String × JavaType × Bool)
  methods : List Candidate

/-- The imports of a unit, by what they are good for. -/
structure ImportScope where
  /-- Qualified names by simple name; of several imports of one simple name the first counts. -/
  single : List (String × String) := []
  onDemand : List String := []
  /-- Type and member of the single static imports. -/
  staticSingle : List (String × String) := []
  staticOnDemand : List String := []

def ImportScope.add (scope : ImportScope) (i : Import) : ImportScope :=
  match i.isStatic, i.isWildcard, i.typeName? with
  | true, true, some owner => { scope with staticOnDemand := scope.staticOnDemand ++ [owner] }
  | true, false, some owner =>
    { scope with staticSingle := scope.staticSingle ++ [(owner, i.member?.getD "")] }
  | false, true, _ => { scope with onDemand := scope.onDemand ++ [i.packageName] }
  | false, false, some name =>
    if (scope.single.lookup (simpleNameOf name)).isSome then scope
    else { scope with single := scope.single ++ [(simpleNameOf name, name)] }
  | _, _, none => scope

structure Names where
  classpath : Classpath
  package : Option String
  imports : ImportScope
  /-- The qualified names of the declared types. -/
  declared : List String := []
  /-- The qualified names of the declared types, by simple name. -/
  declaredSimple : List (String × String) := []
  /-- The declared types that are known with their members, the latest first. -/
  locals : List (String × LocalType) := []

namespace Names

/-- The qualified name of a type: below its outer type, else in the unit's package. -/
def qualify (g : Names) (outer : Option String) (name : String) : String :=
  match outer, g.package with
  | some outer, _ => outer ++ "." ++ name
  | none, some package => if package.isEmpty then name else package ++ "." ++ name
  | none, none => name

def typeExists (g : Names) (fqn : String) : Bool := g.declared.contains fqn || g.classpath.contains fqn

/-- The top of the hierarchy, also on a class path that lacks it. -/
def objectType (g : Names) : ClassType := (g.classpath.class? objectName).getD (.leaf objectName .clazz)

/-- The class type of a qualified name. An imported type that is not on the class path is known by its
name alone. -/
def class? (g : Names) (fqn : String) : Option ClassType :=
  ((g.locals.lookup fqn).map (·.type)).or <| (g.classpath.class? fqn).or <|
    if g.imports.single.any (·.2 == fqn) then some ⟨fqn, .clazz, [g.objectType], false⟩ else none

/-- The qualified name of a simple one. -/
def resolveSimple? (g : Names) (simple : String) : Option String :=
  (g.declaredSimple.lookup simple).or <| (g.imports.single.lookup simple).or <|
    (g.qualify none simple :: g.imports.onDemand.map (· ++ "." ++ simple) ++
      ["java.lang." ++ simple]).find? g.typeExists

/-- The qualified name of a simple, nested or qualified one. -/
def resolve? (g : Names) (name : String) : Option String :=
  match Text.cut? '.' name with
  | none => g.resolveSimple? name
  | some (head, rest) =>
    (((g.resolveSimple? head).map (· ++ "." ++ rest)).filter g.typeExists).or <|
      if g.typeExists name then some name else none

def resolveClass? (g : Names) (name : String) : Option ClassType := (g.resolve? name).bind g.class?

/-- The class that an expression names, if it is a name. -/
def classOfName? (g : Names) (e : Expression) : Option ClassType :=
  e.qualifiedName?.bind g.resolveClass?

/-- The type that is written. -/
def typeOf (g : Names) : TypeTree → JavaType
  | .primitive _ _ p => .primitive p
  | .named name => ((g.classOfName? name).map JavaType.declared).getD .unknown
  | .parameterized _ _ clazz _ _ => ((g.classOfName? clazz).map JavaType.declared).getD .unknown
  | .array _ _ element _ _ _ =>
    match g.typeOf element with
    | .unknown => .unknown
    | type => .array type
  | .wildcard .. => .unknown

/-- The methods of a name that a type has, its own first. -/
def methods (g : Names) (owner : ClassType) (name : String) (staticOnly : Bool) : List Candidate :=
  (owner.ancestors.flatMap fun a =>
    match g.locals.lookup a.fqn with
    | some known => known.methods.filter (·.name == name)
    | none => g.classpath.declaredMethods a name).filter fun m => !staticOnly || m.isStatic

/-- The field of a name that a type has, its own first. -/
def field? (g : Names) (owner : ClassType) (name : String) : Option FieldInfo :=
  owner.ancestors.findSome? fun a =>
    match g.locals.lookup a.fqn with
    | some known => (known.fields.lookup name).map fun (type, isStatic) => ⟨a, type, isStatic⟩
    | none => g.classpath.declaredField? a name

/-- The types whose members single static imports of a name provide. -/
def singleOwners (g : Names) (member : String) : List ClassType :=
  g.imports.staticSingle.filterMap fun (owner, m) => if m == member then g.class? owner else none

/-- The types whose members static imports on demand provide. -/
def demandOwners (g : Names) : List ClassType := g.imports.staticOnDemand.filterMap g.class?

/-- The methods that an unqualified call may mean, and the receiver it has: those of the innermost
class of `classes` that has any, else those of single static imports, else those on demand. -/
def unqualified (g : Names) (classes : List ClassType) (name : String) :
    List Candidate × Option JavaType :=
  match classes.find? fun c => !(g.methods c name false).isEmpty with
  | some c => (g.methods c name false, some (.declared c))
  | none =>
    let single := (g.singleOwners name).flatMap fun owner => g.methods owner name true
    if single.isEmpty then (g.demandOwners.flatMap fun owner => g.methods owner name true, none)
    else (single, none)

end Names

def hasModifier (modifiers : List Modifier) (keyword : String) : Bool :=
  modifiers.any (·.keyword == keyword)

/-- The name of the class that is written, without type arguments. -/
def TypeTree.className? : TypeTree → Option String
  | .named name => name.qualifiedName?
  | .parameterized _ _ clazz _ _ => clazz.qualifiedName?
  | _ => none

def ClassKeyword.typeKind : ClassKeyword → TypeKind
  | .clazz => .clazz
  | .interface => .interface

/-- The names of the direct supertypes of a declaration as written. -/
def ClassDeclaration.supertypeNames (c : ClassDeclaration) : List String :=
  (c.superclass.toList.map (·.element) ++
    (c.interfaces.map (·.toList)).getD []).filterMap TypeTree.className?

namespace Names

/-- The types of the parameters of a method. -/
def parameterType (g : Names) (p : VariableDeclarations) : JavaType :=
  match (p.declaredType.map g.typeOf).getD .unknown, p.varargs with
  | .unknown, _ => .unknown
  | type, some _ => .array type
  | type, none => type

/-- The last parameter takes any number of arguments. -/
def isVarargs (parameters : Container VariableDeclarations) : Bool :=
  parameters.toList.getLast?.any (·.varargs.isSome)

/-- The fields of a declaration; of two fields of one name the later one counts. -/
def memberFields (g : Names) (c : ClassDeclaration) : List (String × JavaType × Bool) :=
  (c.body.statements.flatMap fun p =>
    match p.element with
    | .declaration v =>
      let type := (v.declaredType.map g.typeOf).getD .unknown
      let isStatic := c.keyword == .interface || hasModifier v.modifiers "static"
      v.declarators.map fun named => (named.element.name.name, type, isStatic)
    | _ => []).reverse

/-- The methods of a declaration; constructors are not among them. -/
def memberMethods (g : Names) (c : ClassDeclaration) (type : ClassType) : List Candidate :=
  c.body.statements.filterMap fun p =>
    match p.element with
    | .method m => m.returnType.map fun returned =>
      { declaring := type
        name := m.name.name
        params := m.parameters.toList.map g.parameterType
        returns := .fixed (g.typeOf returned)
        isStatic := hasModifier m.modifiers "static"
        varargs := isVarargs m.parameters }
    | _ => none

def members (g : Names) (c : ClassDeclaration) (type : ClassType) : LocalType :=
  ⟨type, g.memberFields c, g.memberMethods c type⟩

/-- The class types of declarations that are done. -/
abbrev Built := List (String × ClassType)

/-- The class type of the declaration with this name, and the types that are done then. A supertype
that is `active`, that is under construction, is left out. The depth of the recursion is bounded by
the number of declarations. -/
def build (g : Names) (declarations : List (String × ClassDeclaration)) :
    Nat → List String → Built → String → Option ClassType × Built
  | 0, _, built, _ => (none, built)
  | n + 1, active, built, fqn =>
    match built.lookup fqn with
    | some type => (some type, built)
    | none =>
      match declarations.lookup fqn with
      | none => (none, built)
      | some c =>
        if active.contains fqn then (none, built)
        else
          let (supertypes, built) := c.supertypeNames.foldl (fun (found, built) name =>
            match g.resolve? name with
            | none => (found, built)
            | some super =>
              let (type?, built) :=
                if (declarations.lookup super).isSome then
                  g.build declarations n (fqn :: active) built super
                else (g.class? super, built)
              (found ++ type?.toList, built)) ([], built)
          let supertypes := if supertypes.isEmpty then [g.objectType] else supertypes
          let type : ClassType := ⟨fqn, c.keyword.typeKind, supertypes, false⟩
          (some type, (fqn, type) :: built)

end Names

end Retouch
