import Retouch.Rule.AssertThat

/-!
# Assertions on empty strings

`assertThat(s).isEqualTo("")` becomes `assertThat(s).isEmpty()`.
-/

namespace Retouch

namespace Rule

/-- The call is bound to `isEmpty()` as the receiver's type declares it, or else to the old method under
the new name and without parameters. -/
def rebindIsEmpty (m : MethodInvocation) (isEqualTo : MethodType) : Edit MethodType := do
  let renamed := { isEqualTo with name := "isEmpty", parameters := [], varargs := false }
  match m.select with
  | none => return renamed
  | some select =>
    match ← Edit.withSession (·.classpath [assertjResource]) with
    | .ok cp => return (cp.resolveMethod? select.element.type "isEmpty" []).getD renamed
    | .error _ => return renamed

/-- The only argument is the empty string. -/
def hasEmptyArgument (m : MethodInvocation) : Bool :=
  match m.arguments.toList with
  | [.literal ⟨_, _, .string s, _, _⟩] => s.isEmpty
  | _ => false

def isEmptyFor (p : MethodPattern) (m : MethodInvocation) : Edit (Option Expression) := do
  if !hasEmptyArgument m || !p.matches m then return none
  let method ← m.method.mapM (rebindIsEmpty m)
  return some (.methodInvocation { m with
    name := { m.name with name := "isEmpty" }
    arguments := { Container.empty with before := m.arguments.before }
    method })

def emptyStringDescriptor : RecipeDescriptor where
  id := "testing.assertj.IsEqualToEmptyString"
  displayName := "Convert `assertThat(String).isEqualTo(\"\")` to `isEmpty()`"
  description := "Adopt idiomatic AssertJ assertion for empty Strings."

def emptyString (_ : Options) : Except RecipeError Recipe := do
  let p ← (MethodPattern.ofText
    "org.assertj.core.api.AbstractStringAssert isEqualTo(java.lang.String)").mapError
    RecipeError.pattern
  return ⟨emptyStringDescriptor, some (.usesMethod p),
    some { keepsKinds := true, onCall := isEmptyFor p }, []⟩

end Rule

end Retouch
