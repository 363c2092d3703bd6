import Retouch.Space
import Retouch.Types.Basic

/-!
# The syntax tree

A tree keeps every byte of the source. A node holds the trivia in front of it in `leading`; trivia in
front of delimiters stands in the fields next to them and in `Padded`, `LeftPadded` and `Container`.
What a name or an expression means (types, symbols, signatures) stands in the same nodes and is
`unknown` or missing until attribution fills it in.

Every node has an id that edits keep, so a node can be found again in an edited unit.
-/

namespace Retouch

/-- The identity of a node. -/
abbrev NodeId := Nat

structure Identifier where
  id : NodeId
  leading : Space
  name : String
  type : JavaType := .unknown
  symbol : Option Symbol := none

/-- The value of a literal. -/
inductive LiteralValue where
  | null
  | boolean (b : Bool)
  | char (c : Char)
  | string (s : String)
  | int (n : Int)
  | long (n : Int)
  | float (x : Float)
  | double (x : Float)

structure Literal where
  id : NodeId
  leading : Space
  value : LiteralValue
  /-- The spelling, with escapes and suffixes. -/
  source : String
  type : JavaType := .unknown

structure Modifier where
  id : NodeId
  leading : Space
  keyword : String

/-- The keyword that introduces a type declaration. -/
inductive ClassKeyword where
  | clazz | interface
deriving DecidableEq, Repr

inductive BinaryOp where
  | or | and | bitOr | bitXor | bitAnd | equal | notEqual | lessThan | lessThanOrEqual
  | greaterThan | greaterThanOrEqual | shiftLeft | shiftRight | unsignedShiftRight
  | addition | subtraction | multiplication | division | modulo | instanceOf
deriving DecidableEq, Repr

namespace BinaryOp

/-- How the operator is written. -/
def spelling : BinaryOp → String
  | or => "||"
  | and => "&&"
  | bitOr => "|"
  | bitXor => "^"
  | bitAnd => "&"
  | equal => "=="
  | notEqual => "!="
  | lessThan => "<"
  | lessThanOrEqual => "<="
  | greaterThan => ">"
  | greaterThanOrEqual => ">="
  | shiftLeft => "<<"
  | shiftRight => ">>"
  | unsignedShiftRight => ">>>"
  | addition => "+"
  | subtraction => "-"
  | multiplication => "*"
  | division => "/"
  | modulo => "%"
  | instanceOf => "instanceof"

/-- Binding strength: the higher binds tighter. -/
def precedence : BinaryOp → Nat
  | or => 1
  | and => 2
  | bitOr => 3
  | bitXor => 4
  | bitAnd => 5
  | equal | notEqual => 6
  | lessThan | lessThanOrEqual | greaterThan | greaterThanOrEqual | instanceOf => 7
  | shiftLeft | shiftRight | unsignedShiftRight => 8
  | addition | subtraction => 9
  | multiplication | division | modulo => 10

end BinaryOp

inductive UnaryOp where
  | not | negative | positive | complement
  | preIncrement | preDecrement | postIncrement | postDecrement
deriving DecidableEq, Repr

namespace UnaryOp

def spelling : UnaryOp → String
  | not => "!"
  | negative => "-"
  | positive => "+"
  | complement => "~"
  | preIncrement | postIncrement => "++"
  | preDecrement | postDecrement => "--"

/-- The operator stands behind its operand. -/
def isPostfix (op : UnaryOp) : Bool := op == postIncrement || op == postDecrement

end UnaryOp

inductive AssignOp where
  | assign | add | subtract | multiply | divide | modulo | and | or | xor | shiftLeft
deriving DecidableEq, Repr

namespace AssignOp

def spelling : AssignOp → String
  | assign => "="
  | add => "+="
  | subtract => "-="
  | multiply => "*="
  | divide => "/="
  | modulo => "%="
  | and => "&="
  | or => "|="
  | xor => "^="
  | shiftLeft => "<<="

def ofSpelling? (text : String) : Option AssignOp :=
  [assign, add, subtract, multiply, divide, modulo, and, or, xor, shiftLeft].find?
    (·.spelling == text)

end AssignOp

inductive WildcardBound where
  | extends | super
deriving DecidableEq, Repr

def WildcardBound.keyword : WildcardBound → String
  | .extends => "extends"
  | .super => "super"

mutual

inductive Expression where
  | identifier (n : Identifier)
  | literal (n : Literal)
  | fieldAccess (n : FieldAccess)
  | methodInvocation (n : MethodInvocation)
  | newClass (id : NodeId) (leading : Space) (clazz : TypeTree) (arguments : Container Expression)
      (body : Option Block) (type : JavaType)
  /-- Without an element type it is a bare initializer. -/
  | newArray (id : NodeId) (leading : Space) (elementType : Option TypeTree)
      (dimensions : List ArrayDimension) (initializer : Option (Container Expression))
      (type : JavaType)
  | lambda (id : NodeId) (leading : Space) (parenthesized : Bool)
      (parameters : Container VariableDeclarations) (arrow : Space) (body : LambdaBody)
      (type : JavaType)
  /-- `colons` is the trivia in front of `::`. -/
  | memberReference (id : NodeId) (leading : Space) (containing : Expression) (colons : Space)
      (name : Identifier) (type : JavaType)
  /-- The right operand of `instanceof` names a type. -/
  | binary (id : NodeId) (leading : Space) (left : Expression) (before : Space) (op : BinaryOp)
      (right : Expression) (type : JavaType)
  /-- `before` is the trivia in front of the operator. -/
  | unary (id : NodeId) (leading : Space) (before : Space) (op : UnaryOp) (operand : Expression)
      (type : JavaType)
  | assignment (id : NodeId) (leading : Space) (target : Expression) (before : Space)
      (op : AssignOp) (value : Expression) (type : JavaType)
  | ternary (id : NodeId) (leading : Space) (condition : Expression)
      (whenTrue whenFalse : LeftPadded Expression) (type : JavaType)
  | parentheses (id : NodeId) (leading : Space) (tree : Padded Expression)
  | arrayAccess (id : NodeId) (leading : Space) (indexed : Expression)
      (dimension : ArrayDimension) (type : JavaType)
  | typeCast (id : NodeId) (leading : Space) (clazz : Padded TypeTree) (operand : Expression)
      (type : JavaType)

structure FieldAccess where
  id : NodeId
  leading : Space
  target : Expression
  /-- Trivia in front of the dot. -/
  dot : Space
  name : Identifier
  type : JavaType

structure MethodInvocation where
  id : NodeId
  leading : Space
  /-- The receiver, padded by the trivia in front of the dot. -/
  select : Option (Padded Expression)
  name : Identifier
  arguments : Container Expression
  method : Option MethodType

/-- `[ index ]` with the trivia in front of both brackets. -/
structure ArrayDimension where
  opening : Space
  index : Option Expression
  closing : Space

inductive LambdaBody where
  | expression (e : Expression)
  | block (b : Block)

inductive TypeTree where
  /-- An identifier or a field access that names a class. -/
  | named (e : Expression)
  | primitive (id : NodeId) (leading : Space) (p : Primitive)
  /-- A diamond has no arguments. -/
  | parameterized (id : NodeId) (leading : Space) (clazz : Expression)
      (arguments : Container TypeTree) (type : JavaType)
  | array (id : NodeId) (leading : Space) (element : TypeTree) (opening closing : Space)
      (type : JavaType)
  | wildcard (id : NodeId) (leading : Space) (bound : Option (LeftPadded WildcardBound))
      (bounded : Option TypeTree)

structure Annotation where
  id : NodeId
  leading : Space
  /-- An identifier or a field access. -/
  name : Expression
  arguments : Option (Container Expression)

structure NamedVariable where
  id : NodeId
  leading : Space
  name : Identifier
  /-- Padded by the trivia in front of `=`. -/
  initializer : Option (LeftPadded Expression)
  type : JavaType

structure VariableDeclarations where
  id : NodeId
  leading : Space
  annotations : List Annotation
  modifiers : List Modifier
  /-- Missing for untyped parameters of a lambda. -/
  declaredType : Option TypeTree
  /-- Trivia in front of `...`. -/
  varargs : Option Space
  declarators : List (Padded NamedVariable)

structure Block where
  id : NodeId
  leading : Space
  /-- Padded by the trivia in front of the semicolon, if the statement has one. -/
  statements : List (Padded Statement)
  /-- Trivia in front of the closing brace. -/
  close : Space

structure ClassDeclaration where
  id : NodeId
  leading : Space
  annotations : List Annotation
  modifiers : List Modifier
  /-- Trivia in front of the keyword. -/
  keywordLeading : Space
  keyword : ClassKeyword
  name : Identifier
  superclass : Option (LeftPadded TypeTree)
  /-- The `implements` list; for interfaces the `extends` list. -/
  interfaces : Option (Container TypeTree)
  body : Block
  type : Option ClassType

structure MethodDeclaration where
  id : NodeId
  leading : Space
  annotations : List Annotation
  modifiers : List Modifier
  /-- Missing for constructors. -/
  returnType : Option TypeTree
  name : Identifier
  parameters : Container VariableDeclarations
  throwing : Option (Container TypeTree)
  /-- Missing for abstract methods. -/
  body : Option Block
  method : Option MethodType

/-- `( expression )` of a control statement. -/
structure Parenthesized where
  opening : Space
  tree : Expression
  closing : Space

structure Else where
  id : NodeId
  leading : Space
  body : Padded Statement

/-- One `case` or `default` group of a switch. -/
structure Case where
  id : NodeId
  leading : Space
  /-- Empty for `default`. -/
  labels : List (Padded Expression)
  /-- Trivia in front of the colon or the arrow. -/
  separator : Space
  body : CaseBody

inductive CaseBody where
  /-- The statements behind a colon, up to the next label. -/
  | statements (list : List (Padded Statement))
  /-- The single statement behind an arrow. -/
  | rule (body : Padded Statement)

structure Catch where
  id : NodeId
  leading : Space
  opening : Space
  parameter : Padded VariableDeclarations
  body : Block

/-- `( resource; resource )` of a `try`. -/
structure TryResources where
  opening : Space
  resources : List (Padded Statement)
  /-- A semicolon follows the last resource. -/
  terminated : Bool
  closing : Space

inductive Statement where
  | expression (e : Expression)
  | declaration (n : VariableDeclarations)
  | block (n : Block)
  | classDeclaration (n : ClassDeclaration)
  | method (n : MethodDeclaration)
  | returns (id : NodeId) (leading : Space) (value : Option Expression)
  | conditional (id : NodeId) (leading : Space) (condition : Parenthesized)
      (whenTrue : Padded Statement) (whenFalse : Option Else)
  | whileLoop (id : NodeId) (leading : Space) (condition : Parenthesized) (body : Padded Statement)
  | forLoop (id : NodeId) (leading : Space) (opening : Space) (init : Option Statement)
      (afterInit : Space) (condition : Option Expression) (afterCondition : Space)
      (update : List (Padded Expression)) (closing : Space) (body : Padded Statement)
  | forEach (id : NodeId) (leading : Space) (opening : Space)
      (binder : Padded VariableDeclarations) (iterable : Padded Expression)
      (body : Padded Statement)
  | tryBlock (id : NodeId) (leading : Space) (resources : Option TryResources) (body : Block)
      (catches : List Catch) (finalizer : Option (LeftPadded Block))
  | throws (id : NodeId) (leading : Space) (exception : Expression)
  | empty (id : NodeId) (leading : Space)
  /-- `whileLeading` is the trivia in front of `while`. -/
  | doWhile (id : NodeId) (leading : Space) (body : Padded Statement) (whileLeading : Space)
      (condition : Parenthesized)
  | switch (id : NodeId) (leading : Space) (selector : Parenthesized) (opening : Space)
      (cases : List Case) (closing : Space)
  | breaks (id : NodeId) (leading : Space) (label : Option Identifier)
  | continues (id : NodeId) (leading : Space) (label : Option Identifier)

end

structure Package where
  id : NodeId
  leading : Space
  name : Expression

structure Import where
  id : NodeId
  leading : Space
  /-- Present for static imports: the trivia in front of `static`. -/
  staticLeading : Option Space
  /-- The imported name; its last segment is `*` for imports on demand. -/
  name : FieldAccess

structure CompilationUnit where
  id : NodeId
  path : String
  /-- Padded by the trivia in front of the semicolon. -/
  package : Option (Padded Package)
  imports : List (Padded Import)
  classes : List ClassDeclaration
  /-- Trivia behind the last token. -/
  eof : Space

end Retouch
