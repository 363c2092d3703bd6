import Retouch.Types.Basic

/-!
# Type stubs

A stub tells what is known of a library type without its sources: its supertypes and the signatures of
its members, with types by name. `void` and `SELF`, the receiver's own type, may stand for a return
type.
-/

namespace Retouch

structure MethodStub where
  name : String
  params : List String := []
  /-- A type name, `void`, or `SELF` for the type of the receiver. -/
  returns : String := "void"
  isStatic : Bool := false
  varargs : Bool := false

structure FieldStub where
  name : String
  type : String
  isStatic : Bool := false

structure TypeStub where
  fqn : String
  kind : TypeKind := .clazz
  supertypes : List String := []
  functional : Bool := false
  methods : List MethodStub := []
  fields : List FieldStub := []

end Retouch
