import Retouch.Tree.Walk

/-!
# References of a unit

The types and the static members that a unit refers to without a qualifier: what its imports are for.
-/

namespace Retouch

structure References where
  /-- The classes that identifiers name. -/
  types : List ClassType
  /-- The declaring class and the name of each static field and static method. -/
  statics : List (ClassType × String)

/-- The class that the identifier at a stop names. -/
def Visit.typeReference? (v : Visit) : Option ClassType :=
  match v.node with
  | .expression (.identifier n) => (Expression.identifier n).typeSymbol?
  | _ => none

/-- The static member that the stop refers to by its bare name. -/
def Visit.staticReference? (v : Visit) : Option (ClassType × String) :=
  match v.node with
  | .expression (.identifier n) =>
    match n.symbol with
    | some (.ofVariable name (some owner) _ true) => some (owner, name)
    | _ => none
  | .expression (.methodInvocation m) =>
    match m.select, m.method with
    | none, some method => if method.isStatic then some (method.declaring, method.name) else none
    | _, _ => none
  | _ => none

def CompilationUnit.references (u : CompilationUnit) : References where
  types := u.visits.filterMap Visit.typeReference?
  statics := u.visits.filterMap Visit.staticReference?

namespace References

def usesType (r : References) (fqn : String) : Bool := r.types.any (·.fqn == fqn)

/-- The members in use that the type provides: those it declares, and those that something above
`owner` declares. -/
def staticUses (r : References) (typeName : String) (owner : Option ClassType) : List String :=
  (r.statics.filter fun (declaring, _) =>
    declaring.fqn == typeName || owner.any (·.isSubtypeOf declaring.fqn)).map (·.2)

end References

end Retouch
