import Retouch.Pattern.Basic
import Retouch.Tree.Node

/-!
# Patterns of methods

A pattern is written `<type> <name>(<args>)`.

* `<type>` is a pattern of types. It has to match the class that declares the method, the static type
  of the receiver, or something above one of them.
* `<name>` is a simple name in which a star stands for any run of characters.
* `<args>` is a list of patterns of types, `*` for one argument and at most one `..` for any number of
  them. It is compared with the declared parameters.

A call that no method was found for never matches.
-/

namespace Retouch

/-- A part of the pattern of an argument list. -/
inductive ArgPattern where
  /-- One argument of any type. -/
  | any
  /-- Any number of arguments. -/
  | rest
  | type (pattern : TypePattern)
deriving DecidableEq, Repr

namespace ArgPattern

def ofText (text : String) : Except PatternFault ArgPattern :=
  match text with
  | "" => .error .emptyArgument
  | "*" => .ok any
  | ".." => .ok rest
  | text => (TypePattern.ofPart text).map type

/-- What a part of the pattern stands for in a list of parameters. -/
def wildcard : ArgPattern → Wildcard JavaType
  | any => .item fun _ => true
  | rest => .anything
  | type p => .item p.matchesType

/-- The parameters can be cut into one for each pattern and any number for `..`. -/
def matchAll (patterns : List ArgPattern) (params : List JavaType) : Bool :=
  Wildcard.accepts (patterns.map wildcard) params

end ArgPattern

/-- A pattern of methods. -/
structure MethodPattern where
  /-- How it is written. -/
  text : String
  declaring : TypePattern
  name : String
  arguments : List ArgPattern
deriving DecidableEq, Repr

namespace MethodPattern

/-- The characters of names of methods. -/
def isNameChar (c : Char) : Bool :=
  Text.isAlphanumeric c || ['_', '$', '*', '<', '>'].contains c

/-- The argument list of a pattern; a blank text is an empty list. -/
def parseArguments (text : String) : Except PatternFault (List ArgPattern) :=
  if (Text.trim text).isEmpty then .ok []
  else (Text.split ',' text).mapM fun arg => ArgPattern.ofText (Text.trim arg)

def parse (source : String) : Except PatternFault MethodPattern := do
  let text := Text.trim source
  let some (declaring, call) := Text.cutWhere? Text.isBlank text.toList | throw .noTypeAndName
  let some (name, tail) := Text.cut? '(' (String.ofList (Text.trimStartChars call))
    | throw .noOpening
  let some arguments := Text.dropTail? ")" tail | throw .noClosingAtEnd
  let name := Text.trim name
  if name.isEmpty then throw .noMethodName
  if !name.toList.all isNameChar then throw .badMethodName
  let declaring ← TypePattern.ofPart (String.ofList declaring)
  let arguments ← parseArguments arguments
  if 1 < arguments.count .rest then throw .severalRests
  return ⟨text, declaring, name, arguments⟩

def ofText (source : String) : Except PatternError MethodPattern :=
  (parse source).mapError (⟨.methods, source, ·⟩)

/-- A method fits, called on a receiver of the class `receiver`. -/
def matchesMethod (p : MethodPattern) (m : MethodType) (receiver : Option ClassType) : Bool :=
  matchWord p.name.toList m.name.toList &&
    (p.declaring.matchesClass true m.declaring || receiver.any (p.declaring.matchesClass true)) &&
    ArgPattern.matchAll p.arguments m.parameters

end MethodPattern

/-- The class that a call is made on: the class that the receiver names, or the type of its value. -/
def MethodInvocation.receiverClass? (m : MethodInvocation) : Option ClassType :=
  m.select.bind fun s => s.element.typeSymbol?.or s.element.type.class?

/-- The call is one of a method that fits. -/
def MethodPattern.matches (p : MethodPattern) (m : MethodInvocation) : Bool :=
  m.method.any fun method => p.matchesMethod method m.receiverClass?

end Retouch
