import Retouch.Tree.Node

/-!
# Walks

A walk goes through a unit depth first and stops at every unit, import, class, annotation, method,
declaration of variables, block, statement, expression and type, at a node before the nodes below it.
`CompilationUnit.visits` is the list of these stops. Everything that only reads a tree is a filter
over it.

* Names of members, labels and the package are no stops, and nothing below an import is.
* A statement that is a block, a class, a method or a declaration of variables gives two stops with
  one path: one as a statement and one as what it is.
* An expression statement gives two stops as well, and the expression lies below the statement.
-/

namespace Retouch

/-- A stop of a walk. -/
structure Visit where
  node : Node
  /-- The nodes entered on the way, the innermost first. The first one is the node itself, or the
  statement that it is. -/
  path : List Node

namespace Visit

/-- The stop at `n` under `up`, and then those below it, given the path down to it. -/
def enter (n : Node) (up : List Node) (below : List Node → List Visit) : List Visit :=
  ⟨n, n :: up⟩ :: below (n :: up)

def depth (v : Visit) : Nat := v.path.length

/-- The enclosing nodes, innermost first. -/
def ancestors (v : Visit) : List Node := v.path.tail

def parent? (v : Visit) : Option Node := v.ancestors.head?

def enclosingClass? (v : Visit) : Option ClassDeclaration := v.ancestors.findSome? Node.class?

def enclosingMethod? (v : Visit) : Option MethodDeclaration := v.ancestors.findSome? Node.method?

def enclosingBlock? (v : Visit) : Option Block := v.ancestors.findSome? Node.block?

/-- The node was entered as a statement. -/
def isStatement (v : Visit) : Bool :=
  match v.path with
  | .statement _ :: _ => true
  | _ => false

/-- The kinds of the nodes from the outermost one down. -/
def pathText (v : Visit) : String := " > ".intercalate (v.path.reverse.map Node.kind)

end Visit

open Visit (enter)

mutual

/-- The stops below an expression, given the path down to it. -/
def Expression.inside : Expression → List Node → List Visit
  | .identifier _, _ => []
  | .literal _, _ => []
  | .fieldAccess n, p => n.inside p
  | .methodInvocation n, p => n.inside p
  | .newClass _ _ clazz arguments body _, p =>
    enter (.type clazz) p clazz.inside ++ insideExprs arguments p ++ insideBlock? body p
  | .newArray _ _ elementType dimensions initializer _, p =>
    insideType? elementType p ++ insideDimensions dimensions p ++ insideExprs? initializer p
  | .lambda _ _ _ parameters _ body _, p => insideParameters parameters p ++ body.inside p
  | .memberReference _ _ containing _ _ _, p => enter (.expression containing) p containing.inside
  | .binary _ _ left _ _ right _, p =>
    enter (.expression left) p left.inside ++ enter (.expression right) p right.inside
  | .unary _ _ _ _ operand _, p => enter (.expression operand) p operand.inside
  | .assignment _ _ target _ _ value _, p =>
    enter (.expression target) p target.inside ++ enter (.expression value) p value.inside
  | .ternary _ _ condition ⟨_, whenTrue⟩ ⟨_, whenFalse⟩ _, p =>
    enter (.expression condition) p condition.inside ++
      enter (.expression whenTrue) p whenTrue.inside ++
      enter (.expression whenFalse) p whenFalse.inside
  | .parentheses _ _ ⟨tree, _⟩, p => enter (.expression tree) p tree.inside
  | .arrayAccess _ _ indexed dimension _, p =>
    enter (.expression indexed) p indexed.inside ++ dimension.inside p
  | .typeCast _ _ ⟨clazz, _⟩ operand _, p =>
    enter (.type clazz) p clazz.inside ++ enter (.expression operand) p operand.inside

def FieldAccess.inside : FieldAccess → List Node → List Visit
  | ⟨_, _, target, _, _, _⟩, p => enter (.expression target) p target.inside

def MethodInvocation.inside : MethodInvocation → List Node → List Visit
  | ⟨_, _, select, _, arguments, _⟩, p => insideSelect select p ++ insideExprs arguments p

def insideSelect : Option (Padded Expression) → List Node → List Visit
  | none, _ => []
  | some ⟨e, _⟩, p => enter (.expression e) p e.inside

def insideExprList : List (Padded Expression) → List Node → List Visit
  | [], _ => []
  | ⟨e, _⟩ :: es, p => enter (.expression e) p e.inside ++ insideExprList es p

def insideExprs : Container Expression → List Node → List Visit
  | ⟨_, elements, _⟩, p => insideExprList elements p

def insideExprs? : Option (Container Expression) → List Node → List Visit
  | none, _ => []
  | some c, p => insideExprs c p

def insideExpr? : Option Expression → List Node → List Visit
  | none, _ => []
  | some e, p => enter (.expression e) p e.inside

def ArrayDimension.inside : ArrayDimension → List Node → List Visit
  | ⟨_, index, _⟩, p => insideExpr? index p

def insideDimensions : List ArrayDimension → List Node → List Visit
  | [], _ => []
  | d :: ds, p => d.inside p ++ insideDimensions ds p

def LambdaBody.inside : LambdaBody → List Node → List Visit
  | .expression e, p => enter (.expression e) p e.inside
  | .block b, p => enter (.block b) p b.inside

def insideType? : Option TypeTree → List Node → List Visit
  | none, _ => []
  | some t, p => enter (.type t) p t.inside

def TypeTree.inside : TypeTree → List Node → List Visit
  | .named e, p => enter (.expression e) p e.inside
  | .primitive .., _ => []
  | .parameterized _ _ clazz arguments _, p =>
    enter (.expression clazz) p clazz.inside ++ insideTypes arguments p
  | .array _ _ element _ _ _, p => enter (.type element) p element.inside
  | .wildcard _ _ _ bounded, p => insideType? bounded p

def insideTypeList : List (Padded TypeTree) → List Node → List Visit
  | [], _ => []
  | ⟨t, _⟩ :: ts, p => enter (.type t) p t.inside ++ insideTypeList ts p

def insideTypes : Container TypeTree → List Node → List Visit
  | ⟨_, elements, _⟩, p => insideTypeList elements p

def insideTypes? : Option (Container TypeTree) → List Node → List Visit
  | none, _ => []
  | some c, p => insideTypes c p

def insideParameterList : List (Padded VariableDeclarations) → List Node → List Visit
  | [], _ => []
  | ⟨v, _⟩ :: vs, p => enter (.declaration v) p v.inside ++ insideParameterList vs p

def insideParameters : Container VariableDeclarations → List Node → List Visit
  | ⟨_, elements, _⟩, p => insideParameterList elements p

def VariableDeclarations.inside : VariableDeclarations → List Node → List Visit
  | ⟨_, _, annotations, _, declaredType, _, declarators⟩, p =>
    insideAnnotations annotations p ++ insideType? declaredType p ++ insideVariables declarators p

def NamedVariable.inside : NamedVariable → List Node → List Visit
  | ⟨_, _, _, initializer, _⟩, p => insideInit initializer p

def insideInit : Option (LeftPadded Expression) → List Node → List Visit
  | none, _ => []
  | some ⟨_, e⟩, p => enter (.expression e) p e.inside

def insideVariables : List (Padded NamedVariable) → List Node → List Visit
  | [], _ => []
  | ⟨v, _⟩ :: vs, p => v.inside p ++ insideVariables vs p

def Annotation.inside : Annotation → List Node → List Visit
  | ⟨_, _, name, arguments⟩, p => enter (.expression name) p name.inside ++ insideExprs? arguments p

def insideAnnotations : List Annotation → List Node → List Visit
  | [], _ => []
  | a :: as, p => enter (.annotationUse a) p a.inside ++ insideAnnotations as p

def Block.inside : Block → List Node → List Visit
  | ⟨_, _, statements, _⟩, p => insideStatements statements p

def insideBlock? : Option Block → List Node → List Visit
  | none, _ => []
  | some b, p => enter (.block b) p b.inside

def insideStatements : List (Padded Statement) → List Node → List Visit
  | [], _ => []
  | ⟨s, _⟩ :: ss, p => enter (.statement s) p s.inside ++ insideStatements ss p

def insideResources? : Option TryResources → List Node → List Visit
  | none, _ => []
  | some ⟨_, resources, _, _⟩, p => insideStatements resources p

def ClassDeclaration.inside : ClassDeclaration → List Node → List Visit
  | ⟨_, _, annotations, _, _, _, _, superclass, interfaces, body, _⟩, p =>
    insideAnnotations annotations p ++ insideSuper superclass p ++ insideTypes? interfaces p ++
      enter (.block body) p body.inside

def insideSuper : Option (LeftPadded TypeTree) → List Node → List Visit
  | none, _ => []
  | some ⟨_, t⟩, p => enter (.type t) p t.inside

def MethodDeclaration.inside : MethodDeclaration → List Node → List Visit
  | ⟨_, _, annotations, _, returnType, _, parameters, throwing, body, _⟩, p =>
    insideAnnotations annotations p ++ insideType? returnType p ++ insideParameters parameters p ++
      insideTypes? throwing p ++ insideBlock? body p

def Parenthesized.inside : Parenthesized → List Node → List Visit
  | ⟨_, tree, _⟩, p => enter (.expression tree) p tree.inside

def insideCases : List Case → List Node → List Visit
  | [], _ => []
  | ⟨_, _, labels, _, body⟩ :: cs, p => insideExprList labels p ++ body.inside p ++ insideCases cs p

def CaseBody.inside : CaseBody → List Node → List Visit
  | .statements list, p => insideStatements list p
  | .rule ⟨s, _⟩, p => enter (.statement s) p s.inside

def insideCatches : List Catch → List Node → List Visit
  | [], _ => []
  | ⟨_, _, _, ⟨parameter, _⟩, body⟩ :: cs, p =>
    enter (.declaration parameter) p parameter.inside ++ enter (.block body) p body.inside ++
      insideCatches cs p

def insideElse : Option Else → List Node → List Visit
  | none, _ => []
  | some ⟨_, _, ⟨s, _⟩⟩, p => enter (.statement s) p s.inside

def insideFinally : Option (LeftPadded Block) → List Node → List Visit
  | none, _ => []
  | some ⟨_, b⟩, p => enter (.block b) p b.inside

def insideStatement? : Option Statement → List Node → List Visit
  | none, _ => []
  | some s, p => enter (.statement s) p s.inside

/-- A statement that is a block, a class, a method or a declaration of variables stops again, as that,
before the nodes below it. -/
def Statement.inside : Statement → List Node → List Visit
  | .expression e, p => enter (.expression e) p e.inside
  | .declaration n, p => ⟨.declaration n, p⟩ :: n.inside p
  | .block n, p => ⟨.block n, p⟩ :: n.inside p
  | .classDeclaration n, p => ⟨.classDeclaration n, p⟩ :: n.inside p
  | .method n, p => ⟨.method n, p⟩ :: n.inside p
  | .returns _ _ value, p => insideExpr? value p
  | .throws _ _ exception, p => enter (.expression exception) p exception.inside
  | .empty .., _ => []
  | .breaks .., _ => []
  | .continues .., _ => []
  | .conditional _ _ condition ⟨whenTrue, _⟩ whenFalse, p =>
    condition.inside p ++ enter (.statement whenTrue) p whenTrue.inside ++ insideElse whenFalse p
  | .whileLoop _ _ condition ⟨body, _⟩, p =>
    condition.inside p ++ enter (.statement body) p body.inside
  | .forLoop _ _ _ init _ condition _ update _ ⟨body, _⟩, p =>
    insideStatement? init p ++ insideExpr? condition p ++ insideExprList update p ++
      enter (.statement body) p body.inside
  | .forEach _ _ _ ⟨binder, _⟩ ⟨iterable, _⟩ ⟨body, _⟩, p =>
    enter (.declaration binder) p binder.inside ++ enter (.expression iterable) p iterable.inside ++
      enter (.statement body) p body.inside
  | .tryBlock _ _ resources body catches finalizer, p =>
    insideResources? resources p ++ enter (.block body) p body.inside ++ insideCatches catches p ++
      insideFinally finalizer p
  | .doWhile _ _ ⟨body, _⟩ _ condition, p =>
    enter (.statement body) p body.inside ++ condition.inside p
  | .switch _ _ selector _ cases _, p => selector.inside p ++ insideCases cases p

end

/-- The stops below a unit: its imports and then its classes. -/
def CompilationUnit.inside (u : CompilationUnit) (p : List Node) : List Visit :=
  u.imports.flatMap (fun i => enter (.importDeclaration i.element) p fun _ => []) ++
    u.classes.flatMap fun c => enter (.classDeclaration c) p c.inside

/-- The stops below any node, given the path down to it. -/
def Node.inside : Node → List Node → List Visit
  | unit n => n.inside
  | importDeclaration _ => fun _ => []
  | classDeclaration n => n.inside
  | method n => n.inside
  | annotationUse n => n.inside
  | block n => n.inside
  | declaration n => n.inside
  | statement n => n.inside
  | expression n => n.inside
  | type n => n.inside

/-- The stops of a walk that starts at the node. -/
def Node.visits (n : Node) : List Visit := enter n [] n.inside

/-- The stops of a walk through the unit. -/
def CompilationUnit.visits (u : CompilationUnit) : List Visit := (Node.unit u).visits

/-- The invocation that the stop is at. -/
def Visit.invocation? (v : Visit) : Option MethodInvocation :=
  match v.node with
  | .expression (.methodInvocation m) => some m
  | _ => none

/-- The calls in and below a node, a call before the calls in its receiver and its arguments. -/
def Node.invocations (n : Node) : List MethodInvocation := n.visits.filterMap Visit.invocation?

end Retouch
