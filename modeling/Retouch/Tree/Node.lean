import Retouch.Tree.Print

/-!
# Common views of nodes

Id, leading trivia, kind and type of the nodes, and `Node`: any node that a walk can stand on.
-/

namespace Retouch

namespace Expression

def id : Expression → NodeId
  | identifier n => n.id
  | literal n => n.id
  | fieldAccess n => n.id
  | methodInvocation n => n.id
  | newClass id .. | newArray id .. | lambda id .. | memberReference id .. | binary id ..
  | unary id .. | assignment id .. | ternary id .. | parentheses id .. | arrayAccess id ..
  | typeCast id .. => id

def leading : Expression → Space
  | identifier n => n.leading
  | literal n => n.leading
  | fieldAccess n => n.leading
  | methodInvocation n => n.leading
  | newClass _ s .. | newArray _ s .. | lambda _ s .. | memberReference _ s .. | binary _ s ..
  | unary _ s .. | assignment _ s .. | ternary _ s .. | parentheses _ s .. | arrayAccess _ s ..
  | typeCast _ s .. => s

/-- The expression behind other trivia. -/
def withLeading (s : Space) : Expression → Expression
  | identifier n => identifier { n with leading := s }
  | literal n => literal { n with leading := s }
  | fieldAccess n => fieldAccess { n with leading := s }
  | methodInvocation n => methodInvocation { n with leading := s }
  | newClass id _ clazz arguments body type => newClass id s clazz arguments body type
  | newArray id _ elementType dimensions initializer type =>
    newArray id s elementType dimensions initializer type
  | lambda id _ parenthesized parameters arrow body type =>
    lambda id s parenthesized parameters arrow body type
  | memberReference id _ containing colons name type =>
    memberReference id s containing colons name type
  | binary id _ left before op right type => binary id s left before op right type
  | unary id _ before op operand type => unary id s before op operand type
  | assignment id _ target before op value type => assignment id s target before op value type
  | ternary id _ condition whenTrue whenFalse type => ternary id s condition whenTrue whenFalse type
  | parentheses id _ tree => parentheses id s tree
  | arrayAccess id _ indexed dimension type => arrayAccess id s indexed dimension type
  | typeCast id _ clazz operand type => typeCast id s clazz operand type

/-- The attributed type; a call has the type that its method returns. -/
def type : Expression → JavaType
  | identifier n => n.type
  | literal n => n.type
  | fieldAccess n => n.type
  | methodInvocation n => (n.method.map (·.returns)).getD .unknown
  | parentheses _ _ ⟨tree, _⟩ => tree.type
  | newClass _ _ _ _ _ type | newArray _ _ _ _ _ type | lambda _ _ _ _ _ _ type
  | memberReference _ _ _ _ _ type | binary _ _ _ _ _ _ type | unary _ _ _ _ _ type
  | assignment _ _ _ _ _ _ type | ternary _ _ _ _ _ type | arrayAccess _ _ _ _ type
  | typeCast _ _ _ _ type => type

def kind : Expression → String
  | identifier _ => "identifier"
  | literal _ => "literal"
  | fieldAccess _ => "field access"
  | methodInvocation _ => "method invocation"
  | newClass .. => "new class"
  | newArray .. => "new array"
  | lambda .. => "lambda"
  | memberReference .. => "member reference"
  | binary .. => "binary"
  | unary .. => "unary"
  | assignment .. => "assignment"
  | ternary .. => "ternary"
  | parentheses .. => "parentheses"
  | arrayAccess .. => "array access"
  | typeCast .. => "type cast"

/-- The dotted name of an identifier or a chain of field accesses on one. -/
def qualifiedName? : Expression → Option String
  | identifier n => some n.name
  | fieldAccess ⟨_, _, target, _, name, _⟩ => target.qualifiedName?.map (· ++ "." ++ name.name)
  | _ => none

/-- The class that a name refers to. -/
def typeSymbol? : Expression → Option ClassType
  | identifier n | fieldAccess ⟨_, _, _, _, n, _⟩ =>
    match n.symbol with
    | some (.ofType c) => some c
    | _ => none
  | _ => none

end Expression

namespace TypeTree

def id : TypeTree → NodeId
  | named e => e.id
  | primitive id .. | parameterized id .. | array id .. | wildcard id .. => id

def leading : TypeTree → Space
  | named e => e.leading
  | primitive _ s _ | parameterized _ s .. | array _ s .. | wildcard _ s .. => s

def withLeading (s : Space) : TypeTree → TypeTree
  | named e => named (e.withLeading s)
  | primitive id _ p => primitive id s p
  | parameterized id _ clazz arguments type => parameterized id s clazz arguments type
  | array id _ element opening closing type => array id s element opening closing type
  | wildcard id _ bound bounded => wildcard id s bound bounded

def type : TypeTree → JavaType
  | named e => e.type
  | primitive _ _ p => .primitive p
  | parameterized _ _ _ _ type => type
  | array _ _ _ _ _ type => type
  | wildcard .. => .unknown

/-- What sort of type is written. -/
def form : TypeTree → String
  | named _ => "named"
  | primitive .. => "primitive"
  | parameterized .. => "parameterized"
  | array .. => "array"
  | wildcard .. => "wildcard"

end TypeTree

namespace Statement

def id : Statement → NodeId
  | expression e => e.id
  | declaration n => n.id
  | block n => n.id
  | classDeclaration n => n.id
  | method n => n.id
  | returns id .. | conditional id .. | whileLoop id .. | forLoop id .. | forEach id ..
  | tryBlock id .. | throws id .. | empty id .. | doWhile id .. | switch id .. | breaks id ..
  | continues id .. => id

def leading : Statement → Space
  | expression e => e.leading
  | declaration n => n.leading
  | block n => n.leading
  | classDeclaration n => n.leading
  | method n => n.leading
  | returns _ s .. | conditional _ s .. | whileLoop _ s .. | forLoop _ s .. | forEach _ s ..
  | tryBlock _ s .. | throws _ s .. | empty _ s .. | doWhile _ s .. | switch _ s .. | breaks _ s ..
  | continues _ s .. => s

/-- The statement behind other trivia. -/
def withLeading (s : Space) : Statement → Statement
  | expression e => expression (e.withLeading s)
  | declaration n => declaration { n with leading := s }
  | block n => block { n with leading := s }
  | classDeclaration n => classDeclaration { n with leading := s }
  | method n => method { n with leading := s }
  | returns id _ value => returns id s value
  | conditional id _ condition whenTrue whenFalse => conditional id s condition whenTrue whenFalse
  | whileLoop id _ condition body => whileLoop id s condition body
  | forLoop id _ opening init afterInit condition afterCondition update closing body =>
    forLoop id s opening init afterInit condition afterCondition update closing body
  | forEach id _ opening binder iterable body => forEach id s opening binder iterable body
  | tryBlock id _ resources body catches finalizer =>
    tryBlock id s resources body catches finalizer
  | throws id _ exception => throws id s exception
  | empty id _ => empty id s
  | doWhile id _ body whileLeading condition => doWhile id s body whileLeading condition
  | switch id _ selector opening cases closing => switch id s selector opening cases closing
  | breaks id _ label => breaks id s label
  | continues id _ label => continues id s label

def kind : Statement → String
  | expression e => e.kind
  | declaration _ => "variable declarations"
  | block _ => "block"
  | classDeclaration _ => "class declaration"
  | method _ => "method declaration"
  | returns .. => "return"
  | conditional .. => "if"
  | whileLoop .. => "while loop"
  | forLoop .. => "for loop"
  | forEach .. => "for-each loop"
  | tryBlock .. => "try"
  | throws .. => "throw"
  | empty .. => "empty statement"
  | doWhile .. => "do-while loop"
  | switch .. => "switch"
  | breaks .. => "break"
  | continues .. => "continue"

end Statement

/-- The type of an annotation is that of its name. -/
def Annotation.type (a : Annotation) : JavaType := a.name.type

def MethodInvocation.type (m : MethodInvocation) : JavaType :=
  (m.method.map (·.returns)).getD .unknown

namespace Import

def isStatic (i : Import) : Bool := i.staticLeading.isSome

def isWildcard (i : Import) : Bool := i.name.name.name == "*"

/-- The dotted name as written, with the star of an import on demand. -/
def fullName (i : Import) : String := (Expression.fieldAccess i.name).qualifiedName?.getD ""

/-- The type that a static import draws from, or the imported type. An import of a package has
none. -/
def typeName? (i : Import) : Option String :=
  if i.isStatic then i.name.target.qualifiedName?
  else if i.isWildcard then none
  else some i.fullName

/-- The member of a static import, a star for all of them. -/
def member? (i : Import) : Option String := if i.isStatic then some i.name.name.name else none

/-- The imported package, or the package of the type. -/
def packageName (i : Import) : String :=
  if !i.isStatic && i.isWildcard then i.name.target.qualifiedName?.getD ""
  else packageOf (i.typeName?.getD "")

end Import

def CompilationUnit.packageName? (u : CompilationUnit) : Option String :=
  u.package.map fun p => p.element.name.qualifiedName?.getD ""

/-- Any node that a walk can stand on. -/
inductive Node where
  | unit (n : CompilationUnit)
  | importDeclaration (n : Import)
  | classDeclaration (n : ClassDeclaration)
  | method (n : MethodDeclaration)
  | annotationUse (n : Annotation)
  | block (n : Block)
  | declaration (n : VariableDeclarations)
  | statement (n : Statement)
  | expression (n : Expression)
  | type (n : TypeTree)

namespace Node

def id : Node → NodeId
  | unit n => n.id
  | importDeclaration n => n.id
  | classDeclaration n => n.id
  | method n => n.id
  | annotationUse n => n.id
  | block n => n.id
  | declaration n => n.id
  | statement n => n.id
  | expression n => n.id
  | type n => n.id

def kind : Node → String
  | unit _ => "compilation unit"
  | importDeclaration _ => "import"
  | classDeclaration _ => "class declaration"
  | method _ => "method declaration"
  | annotationUse _ => "annotation"
  | block _ => "block"
  | declaration _ => "variable declarations"
  | statement n => n.kind
  | expression n => n.kind
  | type _ => "type tree"

/-- The trivia in front of the node; a unit has none. -/
def leading : Node → Space
  | unit _ => .empty
  | importDeclaration n => n.leading
  | classDeclaration n => n.leading
  | method n => n.leading
  | annotationUse n => n.leading
  | block n => n.leading
  | declaration n => n.leading
  | statement n => n.leading
  | expression n => n.leading
  | type n => n.leading

def layout : Node → Layout
  | unit n => n.layout
  | importDeclaration n => n.layout
  | classDeclaration n => n.layout
  | method n => n.layout
  | annotationUse n => n.layout
  | block n => n.layout
  | declaration n => n.layout
  | statement n => n.layout
  | expression n => n.layout
  | type n => n.layout

def print (n : Node) : String := n.layout.print

/-- The class declaration that the node is. -/
def class? : Node → Option ClassDeclaration
  | classDeclaration c | statement (.classDeclaration c) => some c
  | _ => none

/-- The method declaration that the node is. -/
def method? : Node → Option MethodDeclaration
  | method m | statement (.method m) => some m
  | _ => none

/-- The block that the node is. -/
def block? : Node → Option Block
  | block b | statement (.block b) => some b
  | _ => none

end Node

end Retouch
