import Retouch.Tree.Walk

/-!
# The nodes directly below a node

`Node.children` lists the nodes that a walk enters from a node, slot by slot in the order of the
source. The stops of a walk are those of the children, one after the other (`Enters`,
`Node.inside_eq`).

`Node.parts` are the nodes that are written inside a node. A walk leaves out two kinds of them: the
name of the package and those of imports.
-/

namespace Retouch

/-! ## Slots -/

section Slots

/-- The nodes of the elements of a list. -/
def nodesOf {α : Type} (f : α → Node) (ps : List (Padded α)) :
    List Node := ps.map fun p => f p.element

variable {α : Type} {f : α → Node}

@[simp]
theorem nodesOf_nil : nodesOf f [] = [] := rfl

@[simp]
theorem nodesOf_cons (p : Padded α) (ps : List (Padded α)) :
    nodesOf f (p :: ps) = f p.element :: nodesOf f ps :=
  rfl

end Slots

def MethodInvocation.children (n : MethodInvocation) : List Node :=
  (n.select.toList.map fun p => Node.expression p.element) ++
    nodesOf Node.expression n.arguments.elements

def LambdaBody.child : LambdaBody → Node
  | .expression e => Node.expression e
  | .block b => Node.block b

def Expression.children : Expression → List Node
  | .identifier _ | .literal _ => []
  | .fieldAccess n => [Node.expression n.target]
  | .methodInvocation n => n.children
  | .newClass _ _ clazz arguments body _ =>
    Node.type clazz :: (nodesOf Node.expression arguments.elements ++ body.toList.map Node.block)
  | .newArray _ _ elementType dimensions initializer _ =>
    elementType.toList.map Node.type ++
      dimensions.flatMap (fun d => d.index.toList.map Node.expression) ++
      initializer.toList.flatMap fun c => nodesOf Node.expression c.elements
  | .lambda _ _ _ parameters _ body _ => nodesOf Node.declaration parameters.elements ++
    [body.child]
  | .memberReference _ _ containing _ _ _ => [Node.expression containing]
  | .binary _ _ left _ _ right _ => [Node.expression left, Node.expression right]
  | .unary _ _ _ _ operand _ => [Node.expression operand]
  | .assignment _ _ target _ _ value _ => [Node.expression target, Node.expression value]
  | .ternary _ _ condition whenTrue whenFalse _ =>
    [Node.expression condition, Node.expression whenTrue.element, Node.expression whenFalse.element]
  | .parentheses _ _ tree => [Node.expression tree.element]
  | .arrayAccess _ _ indexed dimension _ =>
    Node.expression indexed :: dimension.index.toList.map Node.expression
  | .typeCast _ _ clazz operand _ => [Node.type clazz.element, Node.expression operand]

def TypeTree.children : TypeTree → List Node
  | .named e => [Node.expression e]
  | .primitive .. => []
  | .parameterized _ _ clazz arguments _ =>
    Node.expression clazz :: nodesOf Node.type arguments.elements
  | .array _ _ element _ _ _ => [Node.type element]
  | .wildcard _ _ _ bounded => bounded.toList.map Node.type

def Annotation.children (a : Annotation) : List Node :=
  Node.expression a.name :: a.arguments.toList.flatMap fun c => nodesOf Node.expression c.elements

def VariableDeclarations.children (n : VariableDeclarations) : List Node :=
  n.annotations.map Node.annotationUse ++ n.declaredType.toList.map Node.type ++
    n.declarators.flatMap fun v => v.element.initializer.toList.map fun i =>
      Node.expression i.element

def Block.children (b : Block) : List Node := nodesOf Node.statement b.statements

def ClassDeclaration.children (c : ClassDeclaration) : List Node :=
  c.annotations.map Node.annotationUse ++ (c.superclass.toList.map fun t => Node.type t.element) ++
    (c.interfaces.toList.flatMap fun ts => nodesOf Node.type ts.elements) ++ [Node.block c.body]

def MethodDeclaration.children (m : MethodDeclaration) : List Node :=
  m.annotations.map Node.annotationUse ++ m.returnType.toList.map Node.type ++
    nodesOf Node.declaration m.parameters.elements ++
    (m.throwing.toList.flatMap fun ts => nodesOf Node.type ts.elements) ++
      m.body.toList.map Node.block

def CaseBody.children : CaseBody → List Node
  | .statements list => nodesOf Node.statement list
  | .rule body => [Node.statement body.element]

def Statement.children : Statement → List Node
  | .expression e => [Node.expression e]
  | .declaration n => n.children
  | .block n => n.children
  | .classDeclaration n => n.children
  | .method n => n.children
  | .returns _ _ value => value.toList.map Node.expression
  | .throws _ _ exception => [Node.expression exception]
  | .empty .. | .breaks .. | .continues .. => []
  | .conditional _ _ condition whenTrue whenFalse =>
    Node.expression condition.tree :: Node.statement whenTrue.element ::
      whenFalse.toList.map fun e => Node.statement e.body.element
  | .whileLoop _ _ condition body => [Node.expression condition.tree, Node.statement body.element]
  | .forLoop _ _ _ init _ condition _ update _ body =>
    init.toList.map Node.statement ++ condition.toList.map Node.expression ++
      nodesOf Node.expression update ++
      [Node.statement body.element]
  | .forEach _ _ _ binder iterable body =>
    [Node.declaration binder.element, Node.expression iterable.element, Node.statement body.element]
  | .tryBlock _ _ resources body catches finalizer =>
    (resources.toList.flatMap fun r => nodesOf Node.statement r.resources) ++ [Node.block body] ++
      (catches.flatMap fun c => [Node.declaration c.parameter.element, Node.block c.body]) ++
      finalizer.toList.map fun b => Node.block b.element
  | .doWhile _ _ body _ condition => [Node.statement body.element, Node.expression condition.tree]
  | .switch _ _ selector _ cases _ =>
    Node.expression selector.tree ::
      cases.flatMap fun c => nodesOf Node.expression c.labels ++ c.body.children

def CompilationUnit.children (u : CompilationUnit) : List Node :=
  nodesOf Node.importDeclaration u.imports ++ u.classes.map Node.classDeclaration

namespace Node

/-- The nodes that a walk enters from a node. -/
def children : Node → List Node
  | unit n => n.children
  | importDeclaration _ => []
  | classDeclaration n => n.children
  | method n => n.children
  | annotationUse n => n.children
  | block n => n.children
  | declaration n => n.children
  | statement n => n.children
  | expression n => n.children
  | type n => n.children

/-- What a statement is besides: a block, a class, a method or a declaration of variables. -/
def views : Node → List Node
  | statement (.declaration n) => [declaration n]
  | statement (.block n) => [block n]
  | statement (.classDeclaration n) => [classDeclaration n]
  | statement (.method n) => [method n]
  | _ => []

/-- The nodes that are written directly inside a node. -/
def parts : Node → List Node
  | unit u => (u.package.toList.map fun p => expression p.element.name) ++ u.children
  | importDeclaration i => [expression (.fieldAccess i.name)]
  | n => n.children

/-- The stops of a walk that enters the node below others. -/
def stops (up : List Node) (n : Node) : List Visit := Visit.enter n up n.inside

end Node

/-! ## Walks enter the children -/

section Inside

open Node (stops)

variable (p : List Node)

/-- The stops are those of the nodes, entered one after the other. -/
def Enters (ns : List Node) (vs : List Visit) : Prop := vs = ns.flatMap (stops p)

namespace Enters

variable {p} {ns ms : List Node} {vs ws : List Visit}

theorem nil : Enters p [] [] := rfl

theorem node {n : Node} : Enters p [n] (Visit.enter n p n.inside) := (List.append_nil _).symm

theorem append (h : Enters p ns vs) (h' : Enters p ms ws) : Enters p (ns ++ ms) (vs ++ ws) := by
  have left : vs = ns.flatMap (stops p) := h
  have right : ws = ms.flatMap (stops p) := h'
  rw [Enters, List.flatMap_append, ← left, ← right]

theorem alone (h : Enters p ns vs) : Enters p (ns ++ []) vs := by rwa [List.append_nil]

end Enters

theorem enters_select (x : Option (Padded Expression)) :
    Enters p (x.toList.map fun q => Node.expression q.element) (insideSelect x p) := by
  cases x with
  | none => exact .nil
  | some p => exact .node

theorem enters_exprList (es : List (Padded Expression)) :
    Enters p (nodesOf .expression es) (insideExprList es p) := by
  induction es with
  | nil => exact .nil
  | cons e es ih =>
    obtain ⟨e, _⟩ := e
    exact .append .node ih

theorem enters_exprs (c : Container Expression) :
    Enters p (nodesOf .expression c.elements) (insideExprs c p) := by
  obtain ⟨_, es, _⟩ := c
  exact enters_exprList p es

theorem enters_exprs? (c : Option (Container Expression)) :
    Enters p (c.toList.flatMap fun c => nodesOf .expression c.elements) (insideExprs? c p) := by
  match c with
  | none => exact .nil
  | some c => exact (enters_exprs p c).alone

theorem enters_expr? (e : Option Expression) :
    Enters p (e.toList.map .expression) (insideExpr? e p) := by
  cases e with
  | none => exact .nil
  | some e => exact .node

theorem enters_dimension (d : ArrayDimension) : Enters p (d.index.toList.map .expression)
    (d.inside p) := by
  obtain ⟨_, index, _⟩ := d
  exact enters_expr? p index

theorem enters_dimensions (ds : List ArrayDimension) :
    Enters p (ds.flatMap fun d => d.index.toList.map .expression) (insideDimensions ds p) := by
  induction ds with
  | nil => exact .nil
  | cons d ds ih => exact .append (enters_dimension p d) ih

theorem enters_lambdaBody (b : LambdaBody) : Enters p [b.child] (b.inside p) := by
  cases b with
  | expression e => exact .node
  | block b => exact .node

theorem enters_type? (t : Option TypeTree) : Enters p (t.toList.map .type) (insideType? t p) := by
  cases t with
  | none => exact .nil
  | some t => exact .node

theorem enters_typeList (ts : List (Padded TypeTree)) :
    Enters p (nodesOf .type ts) (insideTypeList ts p) := by
  induction ts with
  | nil => exact .nil
  | cons t ts ih =>
    obtain ⟨t, _⟩ := t
    exact .append .node ih

theorem enters_types (c : Container TypeTree) :
    Enters p (nodesOf .type c.elements) (insideTypes c p) := by
  obtain ⟨_, ts, _⟩ := c
  exact enters_typeList p ts

theorem enters_types? (c : Option (Container TypeTree)) :
    Enters p (c.toList.flatMap fun c => nodesOf .type c.elements) (insideTypes? c p) := by
  match c with
  | none => exact .nil
  | some c => exact (enters_types p c).alone

theorem enters_parameterList (vs : List (Padded VariableDeclarations)) :
    Enters p (nodesOf .declaration vs) (insideParameterList vs p) := by
  induction vs with
  | nil => exact .nil
  | cons v vs ih =>
    obtain ⟨v, _⟩ := v
    exact .append .node ih

theorem enters_parameters (c : Container VariableDeclarations) :
    Enters p (nodesOf .declaration c.elements) (insideParameters c p) := by
  obtain ⟨_, vs, _⟩ := c
  exact enters_parameterList p vs

theorem enters_init (i : Option (LeftPadded Expression)) :
    Enters p (i.toList.map fun i => Node.expression i.element) (insideInit i p) := by
  cases i with
  | none => exact .nil
  | some i => exact .node

theorem enters_variables (vs : List (Padded NamedVariable)) :
    Enters p (vs.flatMap fun v => v.element.initializer.toList.map fun i =>
      Node.expression i.element)
      (insideVariables vs p) := by
  induction vs with
  | nil => exact .nil
  | cons v vs ih =>
    obtain ⟨⟨_, _, _, initializer, _⟩, _⟩ := v
    exact .append (enters_init p initializer) ih

theorem enters_annotations (as : List Annotation) :
    Enters p (as.map .annotationUse) (insideAnnotations as p) := by
  induction as with
  | nil => exact .nil
  | cons a as ih => exact .append .node ih

theorem enters_block? (b : Option Block) : Enters p (b.toList.map .block) (insideBlock? b p) := by
  cases b with
  | none => exact .nil
  | some b => exact .node

theorem enters_statements (ss : List (Padded Statement)) :
    Enters p (nodesOf .statement ss) (insideStatements ss p) := by
  induction ss with
  | nil => exact .nil
  | cons s ss ih =>
    obtain ⟨s, _⟩ := s
    exact .append .node ih

theorem enters_resources? (r : Option TryResources) :
    Enters p (r.toList.flatMap fun r => nodesOf .statement r.resources) (insideResources? r p) := by
  obtain _ | ⟨_, resources, _, _⟩ := r
  · exact .nil
  · exact (enters_statements p resources).alone

theorem enters_super (t : Option (LeftPadded TypeTree)) :
    Enters p (t.toList.map fun t => Node.type t.element) (insideSuper t p) := by
  match t with
  | none => exact .nil
  | some ⟨_, t⟩ => exact .node

theorem enters_parenthesized (c : Parenthesized) : Enters p [.expression c.tree] (c.inside p) := by
  obtain ⟨_, tree, _⟩ := c
  exact .node

theorem enters_caseBody (b : CaseBody) : Enters p b.children (b.inside p) := by
  cases b with
  | statements list => exact enters_statements p list
  | rule body => exact .node

theorem enters_cases (cs : List Case) :
    Enters p (cs.flatMap fun c => nodesOf .expression c.labels ++ c.body.children)
      (insideCases cs p) := by
  induction cs with
  | nil => exact .nil
  | cons c cs ih =>
    obtain ⟨_, _, labels, _, body⟩ := c
    exact .append (.append (enters_exprList p labels) (enters_caseBody p body)) ih

theorem enters_catches (cs : List Catch) :
    Enters p (cs.flatMap fun c => [Node.declaration c.parameter.element, .block c.body])
      (insideCatches cs p) := by
  induction cs with
  | nil => exact .nil
  | cons c cs ih =>
    obtain ⟨_, _, _, ⟨parameter, _⟩, body⟩ := c
    exact .append (.append .node .node) ih

theorem enters_else (e : Option Else) :
    Enters p (e.toList.map fun e => Node.statement e.body.element) (insideElse e p) := by
  obtain _ | ⟨_, _, ⟨s, _⟩⟩ := e
  · exact .nil
  · exact .node

theorem enters_finally (b : Option (LeftPadded Block)) :
    Enters p (b.toList.map fun b => Node.block b.element) (insideFinally b p) := by
  cases b with
  | none => exact .nil
  | some b => exact .node

theorem enters_statement? (s : Option Statement) :
    Enters p (s.toList.map .statement) (insideStatement? s p) := by
  cases s with
  | none => exact .nil
  | some s => exact .node

theorem enters_call (m : MethodInvocation) : Enters p m.children (m.inside p) := by
  obtain ⟨_, _, select, _, arguments, _⟩ := m
  exact .append (enters_select p select) (enters_exprs p arguments)

theorem enters_expression (e : Expression) : Enters p e.children (e.inside p) := by
  match e with
  | .identifier _ | .literal _ => exact .nil
  | .fieldAccess ⟨_, _, target, _, _, _⟩ => exact .node
  | .methodInvocation m => exact enters_call p m
  | .newClass _ _ clazz arguments body _ =>
    exact .append (.append .node (enters_exprs p arguments)) (enters_block? p body)
  | .newArray _ _ elementType dimensions initializer _ =>
    exact .append (.append (enters_type? p elementType) (enters_dimensions p dimensions))
      (enters_exprs? p initializer)
  | .lambda _ _ _ parameters _ body _ =>
    exact .append (enters_parameters p parameters) (enters_lambdaBody p body)
  | .memberReference _ _ containing _ _ _ => exact .node
  | .binary _ _ left _ _ right _ => exact .append .node .node
  | .unary _ _ _ _ operand _ => exact .node
  | .assignment _ _ target _ _ value _ => exact .append .node .node
  | .ternary _ _ condition ⟨_, whenTrue⟩ ⟨_, whenFalse⟩ _ =>
    exact .append (.append .node .node) .node
  | .parentheses _ _ ⟨tree, _⟩ => exact .node
  | .arrayAccess _ _ indexed dimension _ => exact .append .node (enters_dimension p dimension)
  | .typeCast _ _ ⟨clazz, _⟩ operand _ => exact .append .node .node

theorem enters_type (t : TypeTree) : Enters p t.children (t.inside p) := by
  match t with
  | .named e => exact .node
  | .primitive .. => exact .nil
  | .parameterized _ _ clazz arguments _ => exact .append .node (enters_types p arguments)
  | .array _ _ element _ _ _ => exact .node
  | .wildcard _ _ _ bounded => exact enters_type? p bounded

theorem enters_annotated (a : Annotation) : Enters p a.children (a.inside p) := by
  obtain ⟨_, _, name, arguments⟩ := a
  exact .append .node (enters_exprs? p arguments)

theorem enters_declaration (n : VariableDeclarations) : Enters p n.children (n.inside p) := by
  obtain ⟨_, _, annotations, _, declaredType, _, declarators⟩ := n
  exact .append (.append (enters_annotations p annotations) (enters_type? p declaredType))
    (enters_variables p declarators)

theorem enters_block (b : Block) : Enters p b.children (b.inside p) := by
  obtain ⟨_, _, statements, _⟩ := b
  exact enters_statements p statements

theorem enters_class (c : ClassDeclaration) : Enters p c.children (c.inside p) := by
  obtain ⟨_, _, annotations, _, _, _, _, superclass, interfaces, body, _⟩ := c
  exact .append (.append (.append (enters_annotations p annotations) (enters_super p superclass))
    (enters_types? p interfaces)) .node

theorem enters_method (m : MethodDeclaration) : Enters p m.children (m.inside p) := by
  obtain ⟨_, _, annotations, _, returnType, _, parameters, throwing, body, _⟩ := m
  exact .append (.append
    (.append (.append (enters_annotations p annotations) (enters_type? p returnType))
    (enters_parameters p parameters)) (enters_types? p throwing)) (enters_block? p body)

theorem inside_statement (s : Statement) :
    s.inside p = (Node.statement s).views.map (⟨·, p⟩) ++ s.children.flatMap (stops p) := by
  match s with
  | .expression e => exact Enters.node
  | .declaration n => exact congrArg (⟨.declaration n, p⟩ :: ·) (enters_declaration p n)
  | .block n => exact congrArg (⟨.block n, p⟩ :: ·) (enters_block p n)
  | .classDeclaration n => exact congrArg (⟨.classDeclaration n, p⟩ :: ·) (enters_class p n)
  | .method n => exact congrArg (⟨.method n, p⟩ :: ·) (enters_method p n)
  | .returns _ _ value => exact enters_expr? p value
  | .throws _ _ exception => exact Enters.node
  | .empty .. | .breaks .. | .continues .. => rfl
  | .conditional _ _ condition ⟨whenTrue, _⟩ whenFalse =>
    exact ((enters_parenthesized p condition).append .node).append (enters_else p whenFalse)
  | .whileLoop _ _ condition ⟨body, _⟩ => exact (enters_parenthesized p condition).append .node
  | .forLoop _ _ _ init _ condition _ update _ ⟨body, _⟩ =>
    exact (((enters_statement? p init).append (enters_expr? p condition)).append
      (enters_exprList p update)).append .node
  | .forEach _ _ _ ⟨binder, _⟩ ⟨iterable, _⟩ ⟨body, _⟩ =>
    exact (Enters.node.append .node).append .node
  | .tryBlock _ _ resources body catches finalizer =>
    exact (((enters_resources? p resources).append .node).append (enters_catches p catches)).append
      (enters_finally p finalizer)
  | .doWhile _ _ ⟨body, _⟩ _ condition =>
    exact Enters.node.append (enters_parenthesized p condition)
  | .switch _ _ selector _ cases _ =>
    exact (enters_parenthesized p selector).append (enters_cases p cases)

theorem enters_unit (u : CompilationUnit) : Enters p u.children (u.inside p) := by
  rw [Enters, CompilationUnit.children, nodesOf, List.flatMap_append, List.flatMap_map,
    List.flatMap_map]
  rfl

/-- A walk stops at a statement again as what it is besides, and then it enters the children. -/
theorem Node.inside_eq (n : Node) :
    n.inside p = n.views.map (⟨·, p⟩) ++ n.children.flatMap (stops p) := by
  cases n with
  | unit u => exact enters_unit p u
  | importDeclaration i => rfl
  | classDeclaration c => exact enters_class p c
  | method m => exact enters_method p m
  | annotationUse a => exact enters_annotated p a
  | block b => exact enters_block p b
  | declaration d => exact enters_declaration p d
  | statement s => exact inside_statement p s
  | expression e => exact enters_expression p e
  | type t => exact enters_type p t

end Inside

end Retouch
