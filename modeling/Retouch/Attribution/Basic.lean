import Retouch.Attribution.Names
import Retouch.Parser.Grammar

/-!
# Attribution

Attribution fills in what the names and expressions of a unit mean. First the declarations of the unit
are collected, then the tree is gone through once in source order. Only a declaration in a body
changes what later names mean: a variable until its scope ends, a local class for the rest of the
unit.
-/

namespace Retouch

namespace Names

mutual

/-- A name that refers to a type, with the outer types it is qualified by. -/
def markName (g : Names) (type? : Option ClassType) : Expression → Expression
  | .identifier n =>
    match type? with
    | none => .identifier n
    | some c => .identifier { n with type := .declared c, symbol := some (.ofType c) }
  | .fieldAccess n =>
    match type? with
    | none => .fieldAccess n
    | some c => .fieldAccess (g.markQualified c n)
  | e => e

/-- A qualified name that refers to the type `c`. -/
def markQualified (g : Names) (c : ClassType) : FieldAccess → FieldAccess
  | ⟨id, leading, target, dot, name, _⟩ =>
    ⟨id, leading, g.markName (g.classOfName? target) target, dot,
      { name with type := .declared c, symbol := some (.ofType c) }, .declared c⟩

end

mutual

/-- A written type with the types it names. -/
def markType (g : Names) : TypeTree → TypeTree
  | .primitive id leading p => .primitive id leading p
  | .named name => .named (g.markName (g.classOfName? name) name)
  | .parameterized id leading clazz ⟨before, elements, close⟩ _ =>
    .parameterized id leading (g.markName (g.classOfName? clazz) clazz)
      ⟨before, g.markTypes elements, close⟩
      (((g.classOfName? clazz).map JavaType.declared).getD .unknown)
  | .array id leading element opening closing _ =>
    .array id leading (g.markType element) opening closing
      (match g.typeOf element with
      | .unknown => .unknown
      | type => .array type)
  | .wildcard id leading bound bounded => .wildcard id leading bound (g.markType? bounded)

def markTypes (g : Names) : List (Padded TypeTree) → List (Padded TypeTree)
  | [] => []
  | ⟨t, after⟩ :: ts => ⟨g.markType t, after⟩ :: g.markTypes ts

def markType? (g : Names) : Option TypeTree → Option TypeTree
  | none => none
  | some t => some (g.markType t)

end

def markContainer (g : Names) (c : Container TypeTree) : Container TypeTree :=
  { c with elements := g.markTypes c.elements }

/-- An import with the type that it refers to. -/
def markImport (g : Names) (i : Import) : Import :=
  match i.typeName?.bind g.class? with
  | none => i
  | some c =>
    if i.isStatic then
      { i with name := { i.name with target := g.markName (some c) i.name.target } }
    else { i with name := g.markQualified c i.name }

end Names

namespace Attribution

/-- What an expression stands in: names with a given type everywhere, the enclosing classes, innermost
first, and the type that a `return` must have. -/
structure Surroundings where
  bindings : List (String × JavaType) := []
  classes : List ClassType := []
  returned : Option JavaType := none

/-- What names mean here: the types of the unit and the variables of the enclosing scopes, innermost
first. -/
structure State where
  names : Names
  scopes : List (List (String × JavaType)) := []

abbrev Attribute := StateM State

def State.declare (name : String) (type : JavaType) (s : State) : State :=
  match s.scopes with
  | [] => s
  | scope :: outer => { s with scopes := ((name, type) :: scope) :: outer }

/-- Runs in a scope of its own. -/
def withScope {α : Type} (body : Attribute α) : Attribute α := do
  modify fun s => { s with scopes := [] :: s.scopes }
  let a ← body
  modify fun s => { s with scopes := s.scopes.tail }
  return a

/-- A name is a variable: of a scope, bound everywhere, or a field of an enclosing class. -/
def isVariable (env : Surroundings) (s : State) (name : String) : Bool :=
  s.scopes.any (fun scope => (scope.lookup name).isSome) || (env.bindings.lookup name).isSome ||
    env.classes.any fun c => (s.names.field? c name).isSome

/-- The type and the symbol of a variable. -/
def variableMeaning (name : String) (owner : Option ClassType) (type : JavaType) (isStatic : Bool) :
    JavaType × Option Symbol :=
  (type, some (.ofVariable name owner type isStatic))

/-- What an identifier used as a value means: the innermost variable or field, a field brought in by a
static import, or a type. -/
def meaning (env : Surroundings) (s : State) (name : String) : JavaType × Option Symbol :=
  if name == "this" then ((env.classes.head?.map JavaType.declared).getD .unknown, none)
  else if name == "super" then
    (((env.classes.head?.bind (·.supertypes.head?)).map JavaType.declared).getD .unknown, none)
  else
    match (s.scopes.findSome? (·.lookup name)).or (env.bindings.lookup name) with
    | some type => variableMeaning name none type false
    | none =>
      match env.classes.findSome? fun c => s.names.field? c name with
      | some f => variableMeaning name (some f.owner) f.type f.isStatic
      | none =>
        match (s.names.singleOwners name ++ s.names.demandOwners).findSome? fun owner =>
            (s.names.field? owner name).filter (·.isStatic) with
        | some f => variableMeaning name (some f.owner) f.type true
        | none =>
          match s.names.resolveClass? name with
          | some c => (.declared c, some (.ofType c))
          | none => (.unknown, none)

def identifier (env : Surroundings) (n : Identifier) : Attribute Identifier := do
  let (type, symbol) := meaning env (← get) n.name
  return { n with type, symbol }

/-- The type of a string, if the class path has it. -/
def stringType (g : Names) : JavaType := g.classpath.typeOfName "java.lang.String"

def literalType (g : Names) : LiteralValue → JavaType
  | .null => .primitive .null
  | .boolean _ => .primitive .boolean
  | .char _ => .primitive .char
  | .string _ => stringType g
  | .int _ => .primitive .int
  | .long _ => .primitive .long
  | .float _ => .primitive .float
  | .double _ => .primitive .double

/-- The primitive type of a value after unboxing. -/
def unboxed? : JavaType → Option Primitive
  | .primitive p => some p
  | .declared c => Primitive.unboxed? c.fqn
  | _ => none

/-- Binary numeric promotion. -/
def promote (a b : Primitive) : Primitive :=
  if a == .double || b == .double then .double
  else if a == .float || b == .float then .float
  else if a == .long || b == .long then .long
  else .int

/-- The promoted type of one numeric operand. -/
def promotedType (t : JavaType) : JavaType :=
  match (unboxed? t).filter (·.isNumeric) with
  | some p => .primitive (promote p .int)
  | none => .unknown

/-- The promoted type of two numeric operands. -/
def promotedTypes? (a b : JavaType) : Option JavaType :=
  match (unboxed? a).filter (·.isNumeric), (unboxed? b).filter (·.isNumeric) with
  | some x, some y => some (.primitive (promote x y))
  | _, _ => none

def binaryType (g : Names) (op : BinaryOp) (left right : JavaType) : JavaType :=
  let isString := fun (t : JavaType) => t.fqn? == some "java.lang.String"
  match op with
  | .or | .and | .equal | .notEqual | .lessThan | .lessThanOrEqual | .greaterThan
  | .greaterThanOrEqual | .instanceOf => .primitive .boolean
  | .addition =>
    if isString left || isString right then stringType g
    else (promotedTypes? left right).getD .unknown
  | .bitAnd | .bitOr | .bitXor =>
    if unboxed? left == some .boolean then .primitive .boolean
    else (promotedTypes? left right).getD .unknown
  | .shiftLeft | .shiftRight | .unsignedShiftRight => promotedType left
  | .subtraction | .multiplication | .division | .modulo =>
    (promotedTypes? left right).getD .unknown

def unaryType (op : UnaryOp) (operand : JavaType) : JavaType :=
  match op with
  | .not => .primitive .boolean
  | .preIncrement | .preDecrement | .postIncrement | .postDecrement => operand
  | .negative | .positive | .complement => promotedType operand

/-- The type of `c ? a : b`. -/
def conditionalType (a b : JavaType) : JavaType :=
  match a, b with
  | .primitive .null, other => other
  | other, .primitive .null => other
  | a, b => if a == b then a else (promotedTypes? a b).getD a

/-- The type expected of the argument at `index`. -/
def expectedArgument? (m : MethodType) (index : Nat) : Option JavaType :=
  if m.varargs && m.parameters.length ≤ index + 1 then
    m.parameters.getLast?.map fun
      | .array component => component
      | type => type
  else m.parameters[index]?

/-- A functional interface that is expected, else unknown. -/
def functionalType (expected : Option JavaType) : JavaType :=
  (expected.filter (·.isFunctional)).getD .unknown

/-- Lambdas and method references get their type from the parameter that they are passed for. -/
def isFunctionalArgument : Expression → Bool
  | .lambda .. | .memberReference .. => true
  | _ => false

def argShape (e : Expression) : ArgShape :=
  if isFunctionalArgument e then .functional else .typed e.type

/-- An array type of `n` dimensions. -/
def arrayOf (n : Nat) (t : JavaType) : JavaType := Nat.repeat JavaType.array n t

/-- The first name of an identifier or a chain of field accesses. -/
def leftmostName? : Expression → Option String
  | .identifier n => some n.name
  | .fieldAccess ⟨_, _, target, _, _, _⟩ => leftmostName? target
  | _ => none

/-- The methods that a call may mean, and its receiver. -/
def candidatesOf (env : Surroundings) (g : Names) (select : Option (Padded Expression))
    (name : String) : List Candidate × Option JavaType :=
  match select with
  | none => g.unqualified env.classes name
  | some ⟨e, _⟩ =>
    match e.typeSymbol? with
    | some owner => (g.methods owner name true, none)
    | none =>
      match e.type with
      | .declared owner => (g.methods owner name false, some (.declared owner))
      | .array _ => (g.methods g.objectType name false, none)
      | _ => ([], none)

/-- The type and the symbol of the member `name` of an attributed target. -/
def memberMeaning (g : Names) (target : Expression) (name : String) : JavaType × Option Symbol :=
  if name == "class" then (g.classpath.typeOfName "java.lang.Class", none)
  else if name == "length" && target.type.isArray then (.primitive .int, none)
  else
    let (owner?, staticOnly) := match target.typeSymbol? with
      | some c => (some c, true)
      | none => (target.type.class?, false)
    match (owner?.bind (g.field? · name)).filter fun f => f.isStatic || !staticOnly with
    | some f => variableMeaning name (some f.owner) f.type f.isStatic
    | none => (.unknown, none)

/-- The whole field access names a type: its first name is no variable. -/
def namedType? (env : Surroundings) (s : State) (target : Expression) (name : String) :
    Option ClassType :=
  if (leftmostName? target).any (isVariable env s) then none
  else target.qualifiedName?.bind fun t => s.names.resolveClass? (t ++ "." ++ name)

/-- The class type of a declaration. One that is met for the first time, in a body, becomes known. -/
def declareClass (env : Surroundings) (c : ClassDeclaration) : Attribute ClassType := do
  let s ← get
  let g := s.names
  let fqn := g.qualify (env.classes.head?.map (·.fqn)) c.name.name
  match g.locals.lookup fqn with
  | some known => return known.type
  | none =>
    let g := { g with declared := fqn :: g.declared }
    let type := ((g.build [(fqn, c)] 2 [] [] fqn).1).getD (.leaf fqn c.keyword.typeKind)
    let known := g.members c type
    set { s with names := { g with
      locals := (fqn, known) :: g.locals
      declaredSimple := (c.name.name, fqn) :: g.declaredSimple } }
    return type

/-- The type of the variable of a loop over a value. -/
def elementType (g : Names) : JavaType → JavaType
  | .array component => component
  | .declared _ => .declared g.objectType
  | _ => .unknown

def isVar : Option TypeTree → Bool
  | some (.named (.identifier n)) => n.name == "var"
  | _ => false

/-- A declared name, with its type. -/
def markVariable (n : Identifier) (type : JavaType) : Identifier :=
  { n with type, symbol := some (.ofVariable n.name none type false) }

/-- A case label that names a constant of the selector's class. -/
def constant? (g : Names) (selector : Option ClassType) : Expression → Option Expression
  | .identifier n => do
    let f ← (g.field? (← selector) n.name).filter (·.isStatic)
    return .identifier { n with
      type := f.type
      symbol := some (.ofVariable n.name (some f.owner) f.type true) }
  | _ => none

mutual

def expression (env : Surroundings) (expected : Option JavaType) : Expression → Attribute Expression
  | .identifier n => return .identifier (← identifier env n)
  | .literal n => return .literal { n with type := literalType (← get).names n.value }
  | .fieldAccess n => return .fieldAccess (← fieldAccess env n)
  | .methodInvocation n => return .methodInvocation (← invocation env n)
  | .newClass id leading clazz ⟨before, elements, close⟩ body _ => do
    let g := (← get).names
    let type := g.typeOf clazz
    let elements ← expressions env none elements
    let body ← classBody? { env with classes := type.class?.getD g.objectType :: env.classes } body
    return .newClass id leading (g.markType clazz) ⟨before, elements, close⟩ body type
  | .newArray id leading elementType dimensions initializer _ => do
    let g := (← get).names
    let type := match elementType with
      | none => expected.getD .unknown
      | some t =>
        match g.typeOf t with
        | .unknown => .unknown
        | type => arrayOf (max 1 dimensions.length) type
    let dimensions ← dimensionList env dimensions
    let component := match type with
      | .array component => some component
      | _ => none
    let initializer ← expressions? env component initializer
    return .newArray id leading (g.markType? elementType) dimensions initializer type
  | .lambda id leading parenthesized ⟨before, elements, close⟩ arrow body _ => do
    withScope do
      let elements ← parameters env elements
      let body ← lambdaBody env body
      return .lambda id leading parenthesized ⟨before, elements.1, close⟩ arrow body
        (functionalType expected)
  | .memberReference id leading containing colons name _ => do
    let containing ← expression env none containing
    return .memberReference id leading containing colons name (functionalType expected)
  | .binary id leading left before op right _ => do
    let left ← expression env none left
    let g := (← get).names
    let right ←
      if op == .instanceOf then pure (g.markName (g.classOfName? right) right)
      else expression env none right
    return .binary id leading left before op right (binaryType g op left.type right.type)
  | .unary id leading before op operand _ => do
    let operand ← expression env none operand
    return .unary id leading before op operand (unaryType op operand.type)
  | .assignment id leading target before op value _ => do
    let target ← expression env none target
    let value ← expression env (some target.type) value
    return .assignment id leading target before op value target.type
  | .ternary id leading condition ⟨question, whenTrue⟩ ⟨colon, whenFalse⟩ _ => do
    let condition ← expression env none condition
    let whenTrue ← expression env expected whenTrue
    let whenFalse ← expression env expected whenFalse
    return .ternary id leading condition ⟨question, whenTrue⟩ ⟨colon, whenFalse⟩
      (conditionalType whenTrue.type whenFalse.type)
  | .parentheses id leading ⟨tree, after⟩ => do
    return .parentheses id leading ⟨← expression env expected tree, after⟩
  | .arrayAccess id leading indexed ⟨opening, index, closing⟩ _ => do
    let indexed ← expression env none indexed
    let index ← expression? env index
    let type := match indexed.type with
      | .array component => component
      | _ => .unknown
    return .arrayAccess id leading indexed ⟨opening, index, closing⟩ type
  | .typeCast id leading ⟨clazz, after⟩ operand _ => do
    let g := (← get).names
    let operand ← expression env none operand
    return .typeCast id leading ⟨g.markType clazz, after⟩ operand (g.typeOf clazz)

def expression? (env : Surroundings) : Option Expression → Attribute (Option Expression)
  | none => return none
  | some e => return some (← expression env none e)

def expressions (env : Surroundings) (expected : Option JavaType) :
    List (Padded Expression) → Attribute (List (Padded Expression))
  | [] => return []
  | ⟨e, after⟩ :: es => do
    let e ← expression env expected e
    return ⟨e, after⟩ :: (← expressions env expected es)

def expressions? (env : Surroundings) (expected : Option JavaType) :
    Option (Container Expression) → Attribute (Option (Container Expression))
  | none => return none
  | some ⟨before, elements, close⟩ =>
    return some ⟨before, ← expressions env expected elements, close⟩

def dimensionList (env : Surroundings) : List ArrayDimension → Attribute (List ArrayDimension)
  | [] => return []
  | ⟨opening, index, closing⟩ :: ds => do
    let index ← expression? env index
    return ⟨opening, index, closing⟩ :: (← dimensionList env ds)

def lambdaBody (env : Surroundings) : LambdaBody → Attribute LambdaBody
  | .expression e => return .expression (← expression env none e)
  | .block b => return .block (← block { env with returned := some .unknown } b)

def fieldAccess (env : Surroundings) : FieldAccess → Attribute FieldAccess
  | ⟨id, leading, target, dot, name, type⟩ => do
    let s ← get
    match namedType? env s target name.name with
    | some c => return s.names.markQualified c ⟨id, leading, target, dot, name, type⟩
    | none =>
      let target ← expression env none target
      let (type, symbol) := memberMeaning (← get).names target name.name
      return ⟨id, leading, target, dot, { name with type, symbol }, type⟩

def invocation (env : Surroundings) : MethodInvocation → Attribute MethodInvocation
  | ⟨id, leading, select, name, ⟨before, elements, close⟩, _⟩ => do
    let select ← receiver env select
    let (candidates, receiver) := candidatesOf env (← get).names select name.name
    let values ← valueArguments env elements
    let method := (Overload.select? candidates (values.map fun p => argShape p.element)).map
      (·.methodType receiver)
    let arguments ← functionalArguments env method 0 elements values
    return ⟨id, leading, select, name, ⟨before, arguments, close⟩, method⟩

def receiver (env : Surroundings) :
    Option (Padded Expression) → Attribute (Option (Padded Expression))
  | none => return none
  | some ⟨e, after⟩ => return some ⟨← expression env none e, after⟩

/-- The arguments that the choice of the method depends on; lambdas and references stay as they are. -/
def valueArguments (env : Surroundings) :
    List (Padded Expression) → Attribute (List (Padded Expression))
  | [] => return []
  | ⟨e, after⟩ :: es => do
    let e ← if isFunctionalArgument e then pure e else expression env none e
    return ⟨e, after⟩ :: (← valueArguments env es)

/-- The lambdas and references among the arguments, now that the method is known; the others are taken
from `values`. -/
def functionalArguments (env : Surroundings) (method : Option MethodType) (index : Nat) :
    List (Padded Expression) → List (Padded Expression) → Attribute (List (Padded Expression))
  | ⟨e, after⟩ :: es, value :: values => do
    let first ←
      if isFunctionalArgument e then
        pure ⟨← expression env (method.bind (expectedArgument? · index)) e, after⟩
      else pure value
    return first :: (← functionalArguments env method (index + 1) es values)
  | _, values => return values

def annotated (env : Surroundings) : Annotation → Attribute Annotation
  | ⟨id, leading, name, arguments⟩ => do
    let g := (← get).names
    let arguments ← annotationArguments? env arguments
    return ⟨id, leading, g.markName (g.classOfName? name) name, arguments⟩

def annotations (env : Surroundings) : List Annotation → Attribute (List Annotation)
  | [] => return []
  | a :: as => do
    let a ← annotated env a
    return a :: (← annotations env as)

def annotationArguments? (env : Surroundings) :
    Option (Container Expression) → Attribute (Option (Container Expression))
  | none => return none
  | some ⟨before, elements, close⟩ =>
    return some ⟨before, ← annotationArguments env elements, close⟩

/-- In `name = value` the name is an element of the annotation and no variable. -/
def annotationArguments (env : Surroundings) :
    List (Padded Expression) → Attribute (List (Padded Expression))
  | [] => return []
  | ⟨.assignment id leading target before op value type, after⟩ :: es => do
    let value ← expression env none value
    return ⟨.assignment id leading target before op value type, after⟩ ::
      (← annotationArguments env es)
  | ⟨e, after⟩ :: es => do
    let e ← expression env none e
    return ⟨e, after⟩ :: (← annotationArguments env es)

/-- Declarations and the declared type; each name goes into the innermost scope if `declares`. -/
def declaration (env : Surroundings) (declares : Bool) :
    VariableDeclarations → Attribute (VariableDeclarations × JavaType)
  | ⟨id, leading, notes, modifiers, declaredType, varargs, list⟩ => do
    let notes ← annotations env notes
    let g := (← get).names
    let type := match (declaredType.map g.typeOf).getD .unknown, varargs with
      | .unknown, _ => .unknown
      | type, some _ => .array type
      | type, none => type
    let inferred := type.isUnknown && isVar declaredType
    let list ← namedVariables env declares type inferred list
    return (⟨id, leading, notes, modifiers, g.markType? declaredType, varargs, list⟩, type)

def namedVariables (env : Surroundings) (declares : Bool) (type : JavaType) (inferred : Bool) :
    List (Padded NamedVariable) → Attribute (List (Padded NamedVariable))
  | [] => return []
  | ⟨⟨id, leading, name, initializer, _⟩, after⟩ :: vs => do
    let initializer ← initializer? env (if inferred then none else some type) initializer
    let own := match initializer with
      | some ⟨_, e⟩ => if inferred then e.type else type
      | none => type
    if declares then
      modify (·.declare name.name own)
    return ⟨⟨id, leading, markVariable name own, initializer, own⟩, after⟩ ::
      (← namedVariables env declares type inferred vs)

def initializer? (env : Surroundings) (expected : Option JavaType) :
    Option (LeftPadded Expression) → Attribute (Option (LeftPadded Expression))
  | none => return none
  | some ⟨before, e⟩ => return some ⟨before, ← expression env expected e⟩

/-- Parameters and their types. -/
def parameters (env : Surroundings) : List (Padded VariableDeclarations) →
    Attribute (List (Padded VariableDeclarations) × List JavaType)
  | [] => return ([], [])
  | ⟨v, after⟩ :: vs => do
    let (v, type) ← declaration env true v
    let (vs, types) ← parameters env vs
    return (⟨v, after⟩ :: vs, type :: types)

def block (env : Surroundings) : Block → Attribute Block
  | ⟨id, leading, list, close⟩ => do
    return ⟨id, leading, ← withScope (statements env list), close⟩

def block? (env : Surroundings) : Option Block → Attribute (Option Block)
  | none => return none
  | some b => return some (← block env b)

def classBody? (env : Surroundings) : Option Block → Attribute (Option Block)
  | none => return none
  | some b => return some (← classBody env b)

def classBody (env : Surroundings) : Block → Attribute Block
  | ⟨id, leading, list, close⟩ => return ⟨id, leading, ← memberList env list, close⟩

/-- The members of a class; fields do not go into a scope. -/
def memberList (env : Surroundings) :
    List (Padded Statement) → Attribute (List (Padded Statement))
  | [] => return []
  | ⟨.declaration v, after⟩ :: ss => do
    let (v, _) ← declaration env false v
    return ⟨.declaration v, after⟩ :: (← memberList env ss)
  | ⟨s, after⟩ :: ss => do
    let s ← statement env s
    return ⟨s, after⟩ :: (← memberList env ss)

def classDeclaration (env : Surroundings) : ClassDeclaration → Attribute ClassDeclaration
  | ⟨id, leading, notes, modifiers, keywordLeading, keyword, name, superclass, interfaces, body,
      type⟩ => do
    let c ← declareClass env ⟨id, leading, notes, modifiers, keywordLeading, keyword, name,
      superclass, interfaces, body, type⟩
    let notes ← annotations env notes
    let g := (← get).names
    let body ← classBody { env with classes := c :: env.classes } body
    return ⟨id, leading, notes, modifiers, keywordLeading, keyword,
      { name with type := .declared c },
      superclass.map (fun ⟨before, t⟩ => ⟨before, g.markType t⟩),
      interfaces.map g.markContainer, body, some c⟩

def methodDeclaration (env : Surroundings) : MethodDeclaration → Attribute MethodDeclaration
  | ⟨id, leading, notes, modifiers, returnType, name, ⟨before, elements, close⟩, throwing, body, _⟩ =>
    do
    let notes ← annotations env notes
    let g := (← get).names
    let returned := match returnType with
      | some t => g.typeOf t
      | none => .primitive .void
    let varargs := Names.isVarargs ⟨before, elements, close⟩
    withScope do
      let (elements, types) ← parameters env elements
      let method : Option MethodType := env.classes.head?.map fun owner =>
        ⟨owner, name.name, types, returned, hasModifier modifiers "static", varargs⟩
      let body ← block? { env with returned := some returned } body
      return ⟨id, leading, notes, modifiers, g.markType? returnType, name, ⟨before, elements, close⟩,
        throwing.map g.markContainer, body, method⟩

def statements (env : Surroundings) :
    List (Padded Statement) → Attribute (List (Padded Statement))
  | [] => return []
  | ⟨s, after⟩ :: ss => do
    let s ← statement env s
    return ⟨s, after⟩ :: (← statements env ss)

def statement? (env : Surroundings) : Option Statement → Attribute (Option Statement)
  | none => return none
  | some s => return some (← statement env s)

def elseBranch (env : Surroundings) : Option Else → Attribute (Option Else)
  | none => return none
  | some ⟨id, leading, ⟨s, after⟩⟩ =>
    return some ⟨id, leading, ⟨← withScope (statement env s), after⟩⟩

def resources (env : Surroundings) : Option TryResources → Attribute (Option TryResources)
  | none => return none
  | some ⟨opening, list, terminated, closing⟩ =>
    return some ⟨opening, ← statements env list, terminated, closing⟩

def catches (env : Surroundings) : List Catch → Attribute (List Catch)
  | [] => return []
  | ⟨id, leading, opening, ⟨parameter, after⟩, body⟩ :: cs => do
    let first ← withScope do
      let (parameter, _) ← declaration env true parameter
      let body ← block env body
      return ⟨id, leading, opening, ⟨parameter, after⟩, body⟩
    return first :: (← catches env cs)

def finalizer? (env : Surroundings) :
    Option (LeftPadded Block) → Attribute (Option (LeftPadded Block))
  | none => return none
  | some ⟨before, b⟩ => return some ⟨before, ← block env b⟩

def caseLabels (env : Surroundings) (selector : Option ClassType) :
    List (Padded Expression) → Attribute (List (Padded Expression))
  | [] => return []
  | ⟨e, after⟩ :: es => do
    let e ← match constant? (← get).names selector e with
      | some e => pure e
      | none => expression env none e
    return ⟨e, after⟩ :: (← caseLabels env selector es)

def caseBody (env : Surroundings) : CaseBody → Attribute CaseBody
  | .statements list => return .statements (← statements env list)
  | .rule ⟨s, after⟩ => return .rule ⟨← withScope (statement env s), after⟩

def switchCases (env : Surroundings) (selector : Option ClassType) :
    List Case → Attribute (List Case)
  | [] => return []
  | ⟨id, leading, labels, separator, body⟩ :: cs => do
    let labels ← caseLabels env selector labels
    let body ← caseBody env body
    return ⟨id, leading, labels, separator, body⟩ :: (← switchCases env selector cs)

def parenthesized (env : Surroundings) : Parenthesized → Attribute Parenthesized
  | ⟨opening, tree, closing⟩ => return ⟨opening, ← expression env none tree, closing⟩

def statement (env : Surroundings) : Statement → Attribute Statement
  | .expression e => return .expression (← expression env none e)
  | .declaration v => return .declaration (← declaration env true v).1
  | .block b => return .block (← block env b)
  | .classDeclaration c => return .classDeclaration (← classDeclaration env c)
  | .method m => return .method (← methodDeclaration env m)
  | .returns id leading value => do
    match value with
    | none => return .returns id leading none
    | some e => return .returns id leading (some (← expression env env.returned e))
  | .conditional id leading condition ⟨whenTrue, after⟩ whenFalse => do
    let condition ← parenthesized env condition
    let whenTrue ← withScope (statement env whenTrue)
    let whenFalse ← elseBranch env whenFalse
    return .conditional id leading condition ⟨whenTrue, after⟩ whenFalse
  | .whileLoop id leading condition ⟨body, after⟩ => do
    let condition ← parenthesized env condition
    let body ← withScope (statement env body)
    return .whileLoop id leading condition ⟨body, after⟩
  | .forLoop id leading opening init afterInit condition afterCondition update closing
      ⟨body, after⟩ =>
    withScope do
      let init ← statement? env init
      let condition ← expression? env condition
      let update ← expressions env none update
      let body ← statement env body
      return .forLoop id leading opening init afterInit condition afterCondition update closing
        ⟨body, after⟩
  | .forEach id leading opening ⟨binder, afterBinder⟩ ⟨iterable, afterIterable⟩ ⟨body, after⟩ =>
    withScope do
      let iterable ← expression env none iterable
      let element := elementType (← get).names iterable.type
      let (binder, type) ← declaration env true binder
      if type.isUnknown then
        modify fun s => binder.declarators.foldl
          (fun s v => s.declare v.element.name.name element) s
      let body ← statement env body
      return .forEach id leading opening ⟨binder, afterBinder⟩ ⟨iterable, afterIterable⟩
        ⟨body, after⟩
  | .tryBlock id leading list body handlers final => do
    let (list, body) ← withScope do
      let list ← resources env list
      let body ← block env body
      return (list, body)
    let handlers ← catches env handlers
    let final ← finalizer? env final
    return .tryBlock id leading list body handlers final
  | .throws id leading exception => return .throws id leading (← expression env none exception)
  | .empty id leading => return .empty id leading
  | .doWhile id leading ⟨body, after⟩ whileLeading condition => do
    let body ← withScope (statement env body)
    let condition ← parenthesized env condition
    return .doWhile id leading ⟨body, after⟩ whileLeading condition
  | .switch id leading selector opening list closing => do
    let selector ← parenthesized env selector
    let list ← withScope (switchCases env selector.tree.type.class? list)
    return .switch id leading selector opening list closing
  | .breaks id leading label => return .breaks id leading label
  | .continues id leading label => return .continues id leading label

end

mutual

/-- The declarations in a class and the class itself behind them, with their qualified names. -/
def declarationsIn (fqn : String) : ClassDeclaration → List (String × ClassDeclaration)
  | ⟨id, leading, notes, modifiers, keywordLeading, keyword, name, superclass, interfaces,
      ⟨blockId, blockLeading, list, close⟩, type⟩ =>
    nestedDeclarations fqn list ++ [(fqn, ⟨id, leading, notes, modifiers, keywordLeading, keyword,
      name, superclass, interfaces, ⟨blockId, blockLeading, list, close⟩, type⟩)]

/-- The declarations among the members of the class `outer`. -/
def nestedDeclarations (outer : String) :
    List (Padded Statement) → List (String × ClassDeclaration)
  | [] => []
  | ⟨.classDeclaration c, _⟩ :: ss =>
    declarationsIn (outer ++ "." ++ c.name.name) c ++ nestedDeclarations outer ss
  | _ :: ss => nestedDeclarations outer ss

end

/-- What the names of a unit mean, its own declarations included. The members of a declaration are read
in the order of the declarations: types declared later are not yet known to them. -/
def namesOf (u : CompilationUnit) (classpath : Classpath) : Names :=
  let g : Names :=
    { classpath
      package := u.packageName?
      imports := u.imports.foldl (fun scope i => scope.add i.element) {} }
  let declarations := u.classes.flatMap fun c => declarationsIn (g.qualify none c.name.name) c
  let g := { g with
    declared := declarations.map (·.1)
    declaredSimple := declarations.map fun (fqn, c) => (c.name.name, fqn) }
  -- Of two declarations of one name the later one counts.
  let latest := declarations.reverse
  let built := declarations.foldl
    (fun built (fqn, _) => (g.build latest (declarations.length + 1) [] built fqn).2) []
  declarations.foldl (fun g (fqn, c) =>
    match built.lookup fqn with
    | some type => { g with locals := (fqn, g.members c type) :: g.locals }
    | none => g) g

def classes (env : Surroundings) : List ClassDeclaration → Attribute (List ClassDeclaration)
  | [] => return []
  | c :: cs => do
    let c ← classDeclaration env c
    return c :: (← classes env cs)

end Attribution

/-- The unit with everything that its names and expressions mean on a class path; `bindings` are names
that have a given type everywhere. -/
def CompilationUnit.attribute (u : CompilationUnit) (classpath : Classpath)
    (bindings : List (String × JavaType)) : CompilationUnit :=
  let names := Attribution.namesOf u classpath
  let classes := (Attribution.classes { bindings } u.classes { names }).1
  { u with
    imports := u.imports.map fun i => { i with element := names.markImport i.element }
    classes }

/-- The attributed unit of a source, and the next free id. -/
def parseSource (classpath : Classpath) (bindings : List (String × JavaType)) (path source : String)
    (nextId : NodeId) : Except ParseError (CompilationUnit × NodeId) := do
  let (u, nextId) ← parseUnit path source nextId
  return (u.attribute classpath bindings, nextId)

end Retouch
