import Retouch.Text.Split

/-!
# Types of expressions and declarations

A class type carries its supertypes, so every question about the hierarchy is answered from the type
itself. Two class types of one name are the same type. `JavaType.isSubtypeOf` is strict invocation
compatibility (identity, widening, subtyping); `JavaType.isAssignableTo` adds boxing and unboxing.
-/

namespace Retouch

/-- The primitive types, `void` and the type of the literal `null`. -/
inductive Primitive where
  | boolean | byte | char | short | int | long | float | double | void | null
deriving DecidableEq, Repr

namespace Primitive

def keyword : Primitive → String
  | boolean => "boolean"
  | byte => "byte"
  | char => "char"
  | short => "short"
  | int => "int"
  | long => "long"
  | float => "float"
  | double => "double"
  | void => "void"
  | null => "null"

/-- The types that a keyword names; the type of `null` has none. -/
def ofKeyword? (word : String) : Option Primitive :=
  [boolean, byte, char, short, int, long, float, double, void].find? (·.keyword == word)

/-- The name of the class that boxes the type. -/
def boxed? : Primitive → Option String
  | boolean => some "java.lang.Boolean"
  | byte => some "java.lang.Byte"
  | char => some "java.lang.Character"
  | short => some "java.lang.Short"
  | int => some "java.lang.Integer"
  | long => some "java.lang.Long"
  | float => some "java.lang.Float"
  | double => some "java.lang.Double"
  | void | null => none

/-- The primitive type that a class boxes. -/
def unboxed? (fqn : String) : Option Primitive :=
  [boolean, byte, char, short, int, long, float, double].find? (·.boxed? == some fqn)

def isNumeric : Primitive → Bool
  | byte | char | short | int | long | float | double => true
  | boolean | void | null => false

def isFloating (p : Primitive) : Bool := p == float || p == double

/-- Widening conversion between primitive types, the identity included. -/
def widensTo (p target : Primitive) : Bool :=
  p == target || match p with
    | byte => target ∈ [short, int, long, float, double]
    | short | char => target ∈ [int, long, float, double]
    | int => target ∈ [long, float, double]
    | long => target ∈ [float, double]
    | float => target == double
    | boolean | double | void | null => false

end Primitive

/-- What a declared type is. -/
inductive TypeKind where
  | clazz | interface | annotationType | enum
deriving DecidableEq, Repr

namespace TypeKind

def name : TypeKind → String
  | .clazz => "class"
  | .interface => "interface"
  | .annotationType => "annotation"
  | .enum => "enum"

end TypeKind

/-- The package of a qualified name: its leading segments that begin with a lower-case letter. -/
def packageOf (fqn : String) : String :=
  ".".intercalate ((Text.split '.' fqn).takeWhile fun segment =>
    match segment.toList with
    | c :: _ => c.isLower
    | [] => false)

/-- The last segment of a qualified name. -/
def simpleNameOf (fqn : String) : String := ((Text.split '.' fqn).getLast?).getD fqn

/-- The name of the class at the top of every hierarchy. -/
def objectName : String := "java.lang.Object"

/-- A declared class, interface, annotation or enum. -/
structure ClassType where
  fqn : String
  kind : TypeKind
  /-- The direct supertypes; `objectName` is implied above everything. -/
  supertypes : List ClassType
  /-- An interface with a single abstract method: a lambda may stand for it. -/
  functional : Bool

/-- Types of one name are the same type. -/
instance : BEq ClassType := ⟨fun a b => a.fqn == b.fqn⟩

namespace ClassType

/-- A type of which only the name is known. -/
def leaf (fqn : String) (kind : TypeKind) : ClassType := ⟨fqn, kind, [], false⟩

def simpleName (c : ClassType) : String := simpleNameOf c.fqn

def packageName (c : ClassType) : String := packageOf c.fqn

mutual

/-- The type is `fqn` or has it somewhere above it. -/
def isSubtypeOf : ClassType → String → Bool
  | ⟨name, _, supertypes, _⟩, fqn =>
    name == fqn || fqn == objectName || anySubtypeOf supertypes fqn

/-- One of the types is `fqn` or has it somewhere above it. -/
def anySubtypeOf : List ClassType → String → Bool
  | [], _ => false
  | c :: cs, fqn => c.isSubtypeOf fqn || anySubtypeOf cs fqn

end

mutual

/-- The number of types in the hierarchy above a type, itself included, each path counted. -/
def weight : ClassType → Nat
  | ⟨_, _, supertypes, _⟩ => 1 + weights supertypes

def weights : List ClassType → Nat
  | [] => 0
  | c :: cs => c.weight + weights cs

end

theorem weights_append (as bs : List ClassType) : weights (as ++ bs) = weights as + weights bs := by
  induction as with
  | nil => simp [weights]
  | cons a as ih => simp [weights, ih, Nat.add_assoc]

theorem weight_eq (c : ClassType) : c.weight = 1 + weights c.supertypes := by
  cases c
  rw [weight]

/-- Breadth first: the types of `queue` and all above them behind those of `seen`, each name once. -/
def closure (seen : List ClassType) : List ClassType → List ClassType
  | [] => seen
  | c :: queue =>
    if seen.any (·.fqn == c.fqn) then closure seen queue
    else closure (seen ++ [c]) (queue ++ c.supertypes)
termination_by queue => weights queue
decreasing_by
  · simp only [weights, weight_eq]; omega
  · simp only [weights, weights_append, weight_eq]; omega

/-- The type and everything above it, nearest first, each name once. -/
def ancestors (c : ClassType) : List ClassType := closure [] [c]

end ClassType

/-- The static type of an expression or a declaration. -/
inductive JavaType where
  | unknown
  | primitive (p : Primitive)
  | declared (c : ClassType)
  | array (component : JavaType)
deriving BEq

namespace JavaType

instance : Inhabited JavaType := ⟨.unknown⟩

def isUnknown : JavaType → Bool
  | unknown => true
  | _ => false

def isArray : JavaType → Bool
  | array _ => true
  | _ => false

def class? : JavaType → Option ClassType
  | declared c => some c
  | _ => none

def fqn? (t : JavaType) : Option String := t.class?.map (·.fqn)

def primitive? : JavaType → Option Primitive
  | primitive p => some p
  | _ => none

/-- `double`, `float` or a class that boxes one of them. -/
def isFloating : JavaType → Bool
  | primitive p => p.isFloating
  | declared c => (Primitive.unboxed? c.fqn).any (·.isFloating)
  | _ => false

def isFunctional : JavaType → Bool
  | declared c => c.functional
  | _ => false

/-- Strict invocation compatibility: identity, widening and subtyping. -/
def isSubtypeOf : JavaType → JavaType → Bool
  | unknown, _ => false
  | _, unknown => false
  | primitive .null, declared _ => true
  | primitive .null, array _ => true
  | primitive .null, primitive _ => false
  | primitive a, primitive b => a.widensTo b
  | declared a, declared b => a.isSubtypeOf b.fqn
  | array _, declared b =>
    b.fqn == objectName || b.fqn == "java.lang.Cloneable" || b.fqn == "java.io.Serializable"
  | array (primitive a), array (primitive b) => a == b
  | array a, array b => a.isSubtypeOf b
  | _, _ => false

/-- The class that boxes `p` is `target` or below it. -/
def boxIsSubtypeOf (p : Primitive) (target : String) : Bool :=
  match p.boxed? with
  | none => false
  | some box =>
    box == target || target == objectName || target == "java.io.Serializable" ||
      target == "java.lang.Comparable" ||
      (p.isNumeric && p != .char && target == "java.lang.Number")

/-- Loose invocation compatibility: strict compatibility, boxing and unboxing. -/
def isAssignableTo (t target : JavaType) : Bool :=
  t.isSubtypeOf target || match t, target with
    | primitive p, declared c => boxIsSubtypeOf p c.fqn
    | declared c, primitive p => (Primitive.unboxed? c.fqn).any (·.widensTo p)
    | _, _ => false

/-- A spelling that a declaration may use, fully qualified. -/
def declarationName : JavaType → String
  | unknown => objectName
  | primitive .null => objectName
  | primitive p => p.keyword
  | declared c => c.fqn
  | array component => component.declarationName ++ "[]"

/-- The text of a type in messages. -/
def display : JavaType → String
  | unknown => "<unknown>"
  | primitive p => p.keyword
  | declared c => c.fqn
  | array component => component.display ++ "[]"

end JavaType

/-- The resolved signature of a method. -/
structure MethodType where
  declaring : ClassType
  name : String
  parameters : List JavaType
  returns : JavaType
  isStatic : Bool
  varargs : Bool

namespace MethodType

/-- The declaring type, the name and the parameter types. -/
def display (m : MethodType) : String :=
  m.declaring.fqn ++ " " ++ m.name ++ "(" ++
    ", ".intercalate (m.parameters.map (·.display)) ++ ")"

/-- `display`, the return type and the flags that hold. -/
def signature (m : MethodType) : String :=
  m.display ++ " -> " ++ m.returns.display ++ (if m.isStatic then " static" else "") ++
    (if m.varargs then " varargs" else "")

end MethodType

/-- What a name refers to. -/
inductive Symbol where
  | ofType (c : ClassType)
  /-- A variable; `owner` is the declaring class of a field and missing for locals. -/
  | ofVariable (name : String) (owner : Option ClassType) (type : JavaType) (isStatic : Bool)

namespace Symbol

def display : Symbol → String
  | ofType c => "type " ++ c.fqn
  | ofVariable name owner type isStatic =>
    (if isStatic then "static " else "") ++ "var " ++ (owner.map (·.fqn)).getD "-" ++ "." ++
      name ++ ": " ++ type.display

end Symbol

end Retouch
