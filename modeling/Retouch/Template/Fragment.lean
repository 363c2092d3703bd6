import Retouch.Classpath.Basic
import Retouch.Token.Basic
import Retouch.Tree.Basic

/-!
# Fragments of code

What a template is read as (`Shape`), the attributed trees it gives before its arguments are filled in
(`Fragment`), and why a template cannot be used (`TemplateError`).
-/

namespace Retouch

/-- What a template is read as. -/
inductive Shape where
  | expression | statements | annotated
deriving DecidableEq, Repr

/-- What a message calls the result. -/
def Shape.name : Shape → String
  | expression => "expression"
  | statements => "statement"
  | annotated => "annotation"

/-- The trees of a template, with a parameter in place of each argument. -/
inductive Fragment where
  | expression (e : Expression)
  | statements (list : List Statement)
  | annotated (a : Annotation)

/-- Why a template cannot be made or applied. -/
inductive TemplateError where
  | malformedPlaceholder (code : String) (offset : Nat)
  | argumentCount (expected actual : Nat)
  | placeholderType (index : Nat) (placeholder expected actual : String)
  | unresolvedType (name : String)
  | unexpectedShape (code : String) (expected : Shape)
  | unattributed (code site : String)
  | unsupportedPlace (place target : String)
  | detachedStatement
  | parse (e : ParseError)
  | classpath (e : ClasspathError)
deriving DecidableEq, Repr

def TemplateError.message : TemplateError → String
  | malformedPlaceholder code offset =>
    "malformed placeholder at byte " ++ toString offset ++ " in template `" ++ code ++ "`"
  | argumentCount expected actual =>
    "template expects " ++ toString expected ++ " arguments, got " ++ toString actual
  | placeholderType index placeholder expected actual =>
    "argument " ++ toString index ++ " has type " ++ actual ++ ", which does not satisfy #\x7b" ++
      placeholder ++ "\x7d (expected " ++ expected ++ ")"
  | unresolvedType name =>
    "placeholder type '" ++ name ++ "' cannot be resolved against the template classpath"
  | unexpectedShape code expected =>
    "template `" ++ code ++ "` did not produce a " ++ expected.name
  | unattributed code site =>
    "template `" ++ code ++ "` could not be fully attributed: " ++ site
  | unsupportedPlace place target => "coordinate " ++ place ++ " is not supported on " ++ target
  | detachedStatement => "statement is not inside the enclosing block"
  | parse e => e.message
  | classpath e => e.message

end Retouch
