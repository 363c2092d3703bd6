import Retouch.Search

/-!
# Templates

A template is a piece of code with placeholders, such as `assertThat(#{any()}).isEqualTo(#{any()})`.
To use it, its code is read inside a small unit of its own, with a parameter in place of each
placeholder, and attributed with the types of the arguments for the parameters. The trees that this
gives are kept in the session by everything that they depend on.

* `#{}` and `#{any()}` accept every argument, `#{any(T)}` one that can be assigned to `T`, and
  `#{anyArray()}` an array.
* `T` is fully qualified, or simple and found through the imports of the template or in `java.lang`.
-/

namespace Retouch

/-- What stands for an argument of a template. -/
inductive Placeholder where
  | any
  /-- Only what can be assigned to the type. -/
  | anyOf (type : String)
  | anyArray
deriving DecidableEq, Repr

namespace Placeholder

/-- How it is written between its braces. -/
def text : Placeholder → String
  | any => "any()"
  | anyOf type => "any(" ++ type ++ ")"
  | anyArray => "anyArray()"

/-- The characters of types in placeholders. -/
def isTypeChar (c : Char) : Bool :=
  Text.isAlphanumeric c || ['.', '_', '$', '[', ']'].contains c

/-- Reads what stands between the braces. -/
def ofBody? (body : String) : Option Placeholder :=
  match Text.trim body with
  | "" | "any()" => some any
  | "anyArray()" => some anyArray
  | other => do
    let type := Text.trim (← Text.dropTail? ")" (← Text.dropLead? "any(" other))
    if type.isEmpty || !type.toList.all isTypeChar then none else some (anyOf type)

/-- The name of the parameter that stands for the argument at an index. -/
def parameterName (index : Nat) : String := "__p" ++ toString index ++ "__"

/-- The index of a name that `parameterName` makes; leading zeros do not count. -/
def parameterIndex? (name : String) : Option Nat := do
  let digits ← Text.dropTail? "__" (← Text.dropLead? "__p" name)
  if digits.isEmpty || !digits.toList.all Char.isDigit then none
  else some (digits.toList.foldl (fun n d => 10 * n + (d.toNat - '0'.toNat)) 0)

/-- Puts parameters in place of the placeholders of a code, from the one at `index` on. A placeholder
that cannot be read is an error at its byte, counted from `offset`. -/
def parametrize (offset index : Nat) : List Char → Except Nat (List Char × List Placeholder)
  | [] => .ok ([], [])
  | '#' :: '{' :: cs =>
    match cut : Text.cutChars? '}' cs with
    | none => .error offset
    | some (body, rest) =>
      match ofBody? (String.ofList body) with
      | none => .error offset
      | some placeholder => do
        let (code, placeholders) ← parametrize (offset + 3 + Text.byteSize body) (index + 1) rest
        return ((parameterName index).toList ++ code, placeholder :: placeholders)
  | c :: cs => do
    let (code, placeholders) ← parametrize (offset + c.utf8Size) index cs
    return (c :: code, placeholders)
termination_by cs => cs.length
decreasing_by
  · rw [Text.eq_of_cutChars? cut]; simp; omega
  · simp

end Placeholder

structure Template where
  code : String
  /-- The code with parameters in place of the placeholders. -/
  parametrized : String
  placeholders : List Placeholder
  /-- The types that the code calls by their simple names. -/
  imports : List String
  /-- The static members that the code calls without a qualifier. -/
  staticImports : List String
  /-- The resources that the code is read against. -/
  resources : List String

/-- What a template needs: arguments may fail to fit, and the session keeps what was read. -/
abbrev Templating := ExceptT TemplateError (StateM Session)

namespace Template

def ofCode (code : String) (imports staticImports resources : List String) :
    Except TemplateError Template :=
  match Placeholder.parametrize 0 0 code.toList with
  | .error offset => .error (.malformedPlaceholder code offset)
  | .ok (parametrized, placeholders) =>
    .ok ⟨code, String.ofList parametrized, placeholders, imports, staticImports, resources⟩

/-- Drops the brackets of an array type, in reversed order. -/
def dropBrackets : List Char → List Char
  | ']' :: '[' :: cs => dropBrackets cs
  | cs => cs

/-- The type that a placeholder names. -/
def placeholderType (t : Template) (cp : Classpath) (name : String) :
    Except TemplateError JavaType :=
  let base := (dropBrackets name.toList.reverse).reverse
  let brackets := String.ofList (name.toList.drop base.length)
  let base := String.ofList base
  let candidates :=
    if base.toList.contains '.' then [base]
    else base :: t.imports.filter (Text.hasTail ("." ++ base)) ++ ["java.lang." ++ base]
  match (candidates.map fun c => cp.typeOfName (c ++ brackets)).find? (!·.isUnknown) with
  | some type => .ok type
  | none => .error (.unresolvedType name)

/-- The type of the parameter for an argument, if the argument fits. -/
def bindArgument (t : Template) (cp : Classpath) (index : Nat) (p : Placeholder)
    (arg : Expression) : Except TemplateError (String × JavaType) := do
  let actual := arg.type
  let mismatch (expected : String) : TemplateError :=
    .placeholderType index p.text expected actual.display
  match p with
  | .any => pure ()
  | .anyArray => if !actual.isArray then throw (mismatch "an array")
  | .anyOf name =>
    let expected ← t.placeholderType cp name
    if !actual.isAssignableTo expected then throw (mismatch expected.display)
  return (Placeholder.parameterName index, actual)

/-- The types of the parameters. -/
def bind (t : Template) (cp : Classpath) (args : List Expression) :
    Except TemplateError (List (String × JavaType)) :=
  (t.placeholders.zip args).zipIdx.mapM fun ((p, arg), i) => t.bindArgument cp i p arg

/-- Everything that the fragment of a template depends on, in one text: a NUL stands behind each part.
Two templates whose parts hold no NUL share a key only if they have the same parts in the same order. -/
def key (t : Template) (shape : Shape) (cp : Classpath) (args : List Expression) : String :=
  let parts := [shape.name, t.code, cp.key] ++ t.imports ++ ["static"] ++ t.staticImports ++
    args.map (·.type.display)
  String.join (parts.map (· ++ "\x00"))

/-- The unit in which the code is read. -/
def source (t : Template) (shape : Shape) : String :=
  let code := Text.trim t.parametrized
  let imports := t.imports.map fun i => "import " ++ i ++ ";\n"
  let staticImports := t.staticImports.map fun i => "import static " ++ i ++ ";\n"
  let body := match shape with
    | .annotated => code ++ "\nclass __Template \x7b\x7d\n"
    | .expression => "class __Template \x7b\nvoid __template() \x7b\nObject __expr = " ++ code ++
        ";\n\x7d\n\x7d\n"
    | .statements =>
      let terminator := if Text.hasTail ";" code || Text.hasTail "\x7d" code then "" else ";"
      "class __Template \x7b\nvoid __template() \x7b\n" ++ code ++ terminator ++ "\n\x7d\n\x7d\n"
  String.join (imports ++ staticImports) ++ body

/-- The statements of the first method with a body. -/
def methodBody? (c : ClassDeclaration) : Option (List Statement) :=
  c.body.statements.findSome? fun s =>
    match s.element with
    | .method m => m.body.map fun b => b.statements.map (·.element)
    | _ => none

/-- The part of the unit that comes from the code. -/
def extract? (shape : Shape) (u : CompilationUnit) : Option Fragment := do
  let c ← u.classes.head?
  match shape with
  | .annotated => return .annotated (← c.annotations.head?)
  | .expression =>
    match (← methodBody? c).head? with
    | some (.declaration d) => return .expression (← (← d.declarators.head?).element.initializer).element
    | _ => none
  | .statements =>
    let statements ← methodBody? c
    if statements.isEmpty then none else return .statements statements

/-- Reads the code; every call in it has to be attributed. -/
def read (t : Template) (shape : Shape) (cp : Classpath) (bindings : List (String × JavaType))
    (s : Session) : Except TemplateError Fragment × Session :=
  match s.parse cp bindings "__Template.java" (t.source shape) with
  | (.error e, s) => (.error (.parse e), s)
  | (.ok u, s) =>
    (match s.findUnattributed u with
      | site :: _ =>
        .error (.unattributed t.code (Text.trim (Expression.methodInvocation site).print))
      | [] =>
        match extract? shape u with
        | some fragment => .ok fragment
        | none => .error (.unexpectedShape t.code shape), s)

/-- The fragment for arguments of these types, read at most once in a session. -/
def compile (t : Template) (shape : Shape) (args : List Expression) : Templating Fragment := do
  if args.length != t.placeholders.length then
    throw (.argumentCount t.placeholders.length args.length)
  let s ← get
  let (cp, s) := s.classpath t.resources
  set s
  let cp ← (cp.mapError TemplateError.classpath : Except TemplateError Classpath)
  let bindings ← t.bind cp args
  let key := t.key shape cp args
  match s.fragments.get? key with
  | some made => liftM made
  | none =>
    let (made, s) := t.read shape cp bindings s
    set { s with fragments := s.fragments.set key made }
    liftM made

end Template

end Retouch
