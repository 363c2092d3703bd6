import Retouch.Recipe.Basic
import Retouch.Template.Apply

/-!
# Equality assertions as `assertThat` chains

`assertEquals(expected, actual, …)` becomes `assertThat(actual).isEqualTo(expected)`, and
`assertArrayEquals(expected, actual, …)` becomes `assertThat(actual).containsExactly(expected)`.

* A third argument is a tolerance if it is a floating-point number, and goes into `within(…)`; otherwise
  it is a message and goes into `as(…)`. Of four arguments the third is the tolerance and the fourth
  the message.
* A call stays as it is if no method was found for it, if the type of one of these arguments is not
  known, or if its parts do not fit the chain. A diagnostic says why.
-/

namespace Retouch

namespace Rule

def jupiterAssertions : String := "org.junit.jupiter.api.Assertions"

def assertjAssertions : String := "org.assertj.core.api.Assertions"

/-- The resource with the types of the chains. -/
def assertjResource : String := "assertj-core-3.24"

def supplierName : String := "java.util.function.Supplier"

/-- How an assertion becomes a chain. -/
structure Conversion where
  /-- The simple name of the assertion. -/
  method : String
  /-- The end of the chain for an exact comparison. -/
  exact : String
  /-- The end of the chain for a comparison with a tolerance. -/
  close : String
  /-- The placeholder for both values. -/
  operand : String
  pattern : MethodPattern

/-- The chain for a call. -/
structure Plan where
  code : String
  args : List Expression
  /-- There is a tolerance. -/
  within : Bool

/-- Why a call gets no chain. -/
inductive Skip where
  /-- The type of an argument is not known. -/
  | unattributed (argument : String)
  /-- There is no chain for so many arguments. -/
  | arity
deriving DecidableEq, Repr

/-- The placeholder for a message: a text, or a supplier of one. -/
def messagePlaceholder (message : Expression) : String :=
  if message.type.fqn? == some "java.lang.String" then "#\x7bany(String)\x7d"
  else "#\x7bany(" ++ supplierName ++ ")\x7d"

def Skip.ofArgument (e : Expression) : Skip := .unattributed (Text.trim e.print)

namespace Conversion

/-- The beginning of every chain. -/
def start (c : Conversion) : String := "assertThat(" ++ c.operand ++ ")."

def describe (message : Expression) : String := "as(" ++ messagePlaceholder message ++ ")."

def exactEnd (c : Conversion) : String := c.exact ++ "(" ++ c.operand ++ ")"

def closeEnd (c : Conversion) : String :=
  c.close ++ "(" ++ c.operand ++ ", within(#\x7bany()\x7d))"

def plan (c : Conversion) : List Expression → Except Skip Plan
  | [expected, actual] => .ok ⟨c.start ++ c.exactEnd, [actual, expected], false⟩
  | [expected, actual, third] =>
    if third.type.isUnknown then .error (Skip.ofArgument third)
    else if third.type.isFloating then
      .ok ⟨c.start ++ c.closeEnd, [actual, expected, third], true⟩
    else .ok ⟨c.start ++ describe third ++ c.exactEnd, [actual, third, expected], false⟩
  | [expected, actual, delta, message] =>
    if delta.type.isUnknown then .error (Skip.ofArgument delta)
    else if message.type.isUnknown then .error (Skip.ofArgument message)
    else .ok ⟨c.start ++ describe message ++ c.closeEnd, [actual, message, expected, delta], true⟩
  | _ => .error .arity

end Conversion

def Plan.template (p : Plan) : Except TemplateError Template :=
  Template.ofCode p.code [supplierName]
    ((assertjAssertions ++ ".assertThat") ::
      if p.within then [assertjAssertions ++ ".within"] else [])
    [assertjResource]

/-- The chain in place of a call. -/
def Plan.fill (p : Plan) (call : Expression) : Templating Expression := do
  let t ← p.template
  t.replaceExpression call p.args

namespace Conversion

/-- Puts the chain in place of a call and asks for its imports. -/
def replace (c : Conversion) (m : MethodInvocation) (p : Plan) : Edit (Option Expression) := do
  match ← Edit.withSession (p.fill (.methodInvocation m)).run with
  | .ok e =>
    Edit.addImport assertjAssertions (some "assertThat") false
    if p.within then Edit.addImport assertjAssertions (some "within") false
    Edit.removeImport jupiterAssertions
    return some e
  | .error e =>
    Edit.report .warning ("could not convert `" ++ c.method ++ "` to AssertJ: " ++ e.message) m.id
    return none

/-- The chain for a call, if it is one of the assertion. -/
def convert (c : Conversion) (m : MethodInvocation) : Edit (Option Expression) := do
  if m.name.name != c.method then return none
  if m.method.isNone then
    Edit.report .debug ("`" ++ c.method ++ "` call has no type attribution; left unchanged") m.id
    return none
  if !c.pattern.matches m then return none
  match c.plan m.arguments.toList with
  | .ok p => c.replace m p
  | .error (.unattributed argument) =>
    Edit.report .debug ("argument `" ++ argument ++ "` of `" ++ c.method ++
      "` has no type attribution; left unchanged") m.id
    return none
  | .error .arity => return none

/-- The recipe of a conversion. -/
def recipe (d : RecipeDescriptor) (method exact close operand : String) :
    Except RecipeError Recipe := do
  let pattern ← (MethodPattern.ofText (jupiterAssertions ++ " " ++ method ++ "(..)")).mapError
    RecipeError.pattern
  let types ← (TypePattern.ofText jupiterAssertions).mapError RecipeError.pattern
  let c : Conversion := ⟨method, exact, close, operand, pattern⟩
  return ⟨d, some (.usesType ⟨types, false⟩), some { keepsKinds := true, onCall := c.convert }, []⟩

end Conversion

def assertEqualsDescriptor : RecipeDescriptor where
  id := "testing.assertj.JUnitAssertEqualsToAssertThat"
  displayName := "JUnit `assertEquals` to AssertJ"
  description := "Convert JUnit-style `assertEquals()` to AssertJ's `assertThat().isEqualTo()`."

def assertEquals (_ : Options) : Except RecipeError Recipe :=
  Conversion.recipe assertEqualsDescriptor "assertEquals" "isEqualTo" "isCloseTo" "#\x7bany()\x7d"

def assertArrayEqualsDescriptor : RecipeDescriptor where
  id := "testing.assertj.JUnitAssertArrayEqualsToAssertThat"
  displayName := "JUnit `assertArrayEquals` to AssertJ"
  description :=
    "Convert JUnit-style `assertArrayEquals()` to AssertJ's `assertThat().containsExactly()`."

def assertArrayEquals (_ : Options) : Except RecipeError Recipe :=
  Conversion.recipe assertArrayEqualsDescriptor "assertArrayEquals" "containsExactly"
    "containsExactly" "#\x7banyArray()\x7d"

end Rule

end Retouch
