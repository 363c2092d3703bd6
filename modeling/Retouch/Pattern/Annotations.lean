import Retouch.Pattern.Basic
import Retouch.Tree.Node

/-!
# Patterns of annotations

A pattern is written `@<type>` or `@<type>(<value>)`, for example
`@org.junit.runner.RunWith(org.junit.runners.JUnit4.class)`. With a value, the annotation has to have
one argument: a literal of a class that fits `<type>.class`, or any expression with the text `<value>`.
`value =` in front of it makes no difference, neither in the pattern nor in the source.
-/

namespace Retouch

/-- What the argument of an annotation has to be. -/
inductive ArgumentPattern where
  /-- A class literal. -/
  | classLiteral (pattern : TypePattern)
  /-- An expression that is written so. -/
  | source (text : String)
deriving DecidableEq, Repr

/-- A pattern of annotations. -/
structure AnnotationPattern where
  /-- How it is written. -/
  text : String
  type : TypePattern
  argument : Option ArgumentPattern
deriving DecidableEq, Repr

namespace AnnotationPattern

/-- The value without the name `value` and an equals sign in front of it. -/
def bareValue (value : String) : String :=
  match (Text.dropLead? "value" value).bind fun v => Text.dropLead? "=" (Text.trimStart v) with
  | some bare => Text.trim bare
  | none => value

def parseArgument (value : String) : Except PatternFault ArgumentPattern :=
  match Text.dropTail? ".class" value with
  | some name => (TypePattern.ofPart name).map .classLiteral
  | none => if value.isEmpty then .error .emptyArgument else .ok (.source value)

def parse (source : String) : Except PatternFault AnnotationPattern := do
  let text := Text.trim source
  let some body := Text.dropLead? "@" text | throw .noAtSign
  match Text.cut? '(' body with
  | none => return ⟨text, ← TypePattern.ofPart body, none⟩
  | some (name, tail) =>
    let some value := Text.dropTail? ")" tail | throw .noClosing
    let argument ← parseArgument (bareValue (Text.trim value))
    return ⟨text, ← TypePattern.ofPart name, some argument⟩

def ofText (source : String) : Except PatternError AnnotationPattern :=
  (parse source).mapError (⟨.annotations, source, ·⟩)

/-- The expression that an argument gives: behind `value =`, or the argument itself. -/
def valueOf : Expression → Expression
  | .assignment id leading target before op value type =>
    if target.qualifiedName? == some "value" then value
    else .assignment id leading target before op value type
  | e => e

end AnnotationPattern

/-- The expression is what an argument has to be. -/
def ArgumentPattern.matches : ArgumentPattern → Expression → Bool
  | classLiteral p, .fieldAccess n =>
    n.name.name == "class" && n.target.typeSymbol?.any fun c => p.matchesName c.fqn
  | classLiteral _, _ => false
  | source text, e => Text.trim e.print == text

/-- The annotation fits; its own type has to match, not one above it. -/
def AnnotationPattern.matches (p : AnnotationPattern) (a : Annotation) : Bool :=
  a.type.class?.any (p.type.matchesClass false) &&
    match p.argument, a.arguments.map Container.toList with
    | none, _ => true
    | some expected, some [e] => expected.matches (valueOf e)
    | some _, _ => false

end Retouch
