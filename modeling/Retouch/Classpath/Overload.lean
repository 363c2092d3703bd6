import Retouch.Types.Basic

/-!
# Overload selection

A call is bound in three phases: strict (subtyping), loose (with boxing) and variable arity. The first
phase with an applicable method decides. Of several applicable methods the one that is at least as
specific as all others is taken, the first of the list if there is none.
-/

namespace Retouch

/-- What a method returns. -/
inductive ReturnType where
  | fixed (type : JavaType)
  /-- The static type of the receiver. -/
  | receiver

/-- A method that a call could be bound to. -/
structure Candidate where
  declaring : ClassType
  name : String
  params : List JavaType
  returns : ReturnType
  isStatic : Bool
  varargs : Bool

/-- The signature of the method when called on a receiver. -/
def Candidate.methodType (c : Candidate) (receiver : Option JavaType) : MethodType where
  declaring := c.declaring
  name := c.name
  parameters := c.params
  returns := match c.returns, receiver with
    | .fixed type, _ => type
    | .receiver, some (.declared owner) => .declared owner
    | .receiver, _ => .declared c.declaring
  isStatic := c.isStatic
  varargs := c.varargs

/-- What selection knows of an argument. -/
inductive ArgShape where
  | typed (type : JavaType)
  /-- A lambda or a method reference: it fits every functional interface. -/
  | functional

namespace Overload

inductive Phase where
  | strict | loose | variable
deriving DecidableEq, Repr

/-- An argument may be passed for a parameter. -/
def compatible (phase : Phase) (param : JavaType) : ArgShape → Bool
  | .functional => param.isFunctional
  | .typed type => if phase == .strict then type.isSubtypeOf param else type.isAssignableTo param

/-- The fixed parameters of a method of variable arity and the component of its last one. -/
def variableParams? (c : Candidate) : Option (List JavaType × JavaType) :=
  match c.params.getLast? with
  | some (.array component) => if c.varargs then some (c.params.dropLast, component) else none
  | _ => none

/-- The arguments fit the parameters one by one. -/
def allCompatible (phase : Phase) (args : List ArgShape) (params : List JavaType) : Bool :=
  (args.zip params).all fun (a, p) => compatible phase p a

def applicable (phase : Phase) (args : List ArgShape) (c : Candidate) : Bool :=
  match phase with
  | .strict | .loose => c.params.length == args.length && allCompatible phase args c.params
  | .variable =>
    match variableParams? c with
    | none => false
    | some (fixed, component) =>
      fixed.length ≤ args.length && allCompatible .loose args fixed &&
        (args.drop fixed.length).all (compatible .loose component)

/-- The parameter that takes the argument at `index`. -/
def paramAt? (phase : Phase) (c : Candidate) (index : Nat) : Option JavaType :=
  if phase == .variable && c.params.length ≤ index + 1 then
    match c.params.getLast? with
    | some (.array component) => some component
    | other => other
  else c.params[index]?

/-- Every parameter of `a` is the parameter of `b` or below it. -/
def moreSpecific (phase : Phase) (arity : Nat) (a b : Candidate) : Bool :=
  (List.range arity).all fun i =>
    match paramAt? phase a i, paramAt? phase b i with
    | some x, some y => x == y || x.isSubtypeOf y
    | _, _ => false

/-- Of the methods with equal parameters only the first. -/
def visible (candidates : List Candidate) : List Candidate :=
  candidates.foldl (fun seen c => if seen.any (·.params == c.params) then seen else seen ++ [c]) []

/-- The choice among the methods that are applicable in a phase. -/
def best? (phase : Phase) (arity : Nat) (many : List Candidate) : Option Candidate :=
  (many.find? fun a => many.all (moreSpecific phase arity a)).or many.head?

/-- The method that a call with these arguments is bound to; candidates nearer to the receiver come
first. -/
def select? (candidates : List Candidate) (args : List ArgShape) : Option Candidate :=
  let seen := visible candidates
  [Phase.strict, .loose, .variable].findSome? fun phase =>
    best? phase args.length (seen.filter (applicable phase args))

end Overload

end Retouch
