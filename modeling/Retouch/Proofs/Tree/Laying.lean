import Retouch.Proofs.Tree.Children
import Retouch.Proofs.Tree.Text

/-!
# How nodes are laid out

`Lays ns l`: the layout `l` has the layouts of the nodes `ns` side by side in this order, and
between them only texts and names. A node is laid out as the trivia in front of it and then, between
its marks, such a layout of its parts (`Node.laid`). So no part is missing in the list of the parts,
and they stand in their order.

A statement that is only an expression, and a type that is only a name, have the marks of what they
are.
-/

namespace Retouch

/-- The layouts of the nodes side by side, with texts and names between them. -/
inductive Lays : List Node → Layout → Prop
  | empty : Lays [] .empty
  | text (s : String) : Lays [] (.piece (.text s))
  | part (n : Node) : Lays [n] n.layout
  /-- A name, a label or a clause, on which no walk stops. -/
  | mark (id : NodeId) (leading : Space) {ns : List Node} {body : Layout} :
    Lays ns body → Lays ns (node id leading body)
  | beside {ns ms : List Node} {a b : Layout} : Lays ns a → Lays ms b → Lays (ns ++ ms) (a ++ b)

namespace Lays

variable {ns ms : List Node} {a b : Layout}

/-- What follows holds no child. -/
theorem after (h : Lays ns a) (h' : Lays [] b) : Lays ns (a ++ b) := by simpa using h.beside h'

/-- What stands in front holds no child. -/
theorem before (h : Lays [] a) (h' : Lays ns b) : Lays ns (a ++ b) := h.beside h'

theorem token (s : String) : Lays [] (tok s) := .text s

theorem space (s : Space) : Lays [] s.layout := .text s.text

theorem expression (e : Expression) : Lays [.expression e] e.layout := .part (.expression e)

theorem type (t : TypeTree) : Lays [.type t] t.layout := .part (.type t)

theorem block (b : Block) : Lays [.block b] b.layout := .part (.block b)

theorem declaration (n : VariableDeclarations) :
    Lays [.declaration n] n.layout := .part (.declaration n)

theorem statement (s : Statement) : Lays [.statement s] s.layout := .part (.statement s)

theorem identifier (n : Identifier) : Lays [] n.layout := .mark _ _ (.token _)

end Lays

open Lays (token space identifier)

/-! ## Slots -/

section Slots

/-- The elements of a list lie one behind the other. -/
theorem lays_separate {α : Type} {f : α → Node} {layout : α → Layout} (ps : List (Padded α))
    (part : ∀ a, Lays [f a] (layout a)) : Lays (nodesOf f ps) (Layout.separate layout ps) := by
  match ps with
  | [] => exact .empty
  | [⟨a, after⟩] => exact (part a).after (space after)
  | ⟨a, after⟩ :: p :: ps =>
    exact (((part a).after (space after)).after (token ",")).beside (lays_separate (p :: ps) part)

theorem lays_exprList (es : List (Padded Expression)) :
    Lays (nodesOf .expression es) (layoutExprList es) := by
  rw [layoutExprList_eq]
  exact lays_separate es .expression

/-- Brackets hold no child. -/
theorem lays_exprs (opening closing : String) (c : Container Expression) :
    Lays (nodesOf .expression c.elements) (layoutExprs opening closing c) := by
  obtain ⟨before, es, close⟩ := c
  rw [layoutExprs]
  exact ((((space before).after (token opening)).before (lays_exprList es)).after
    (space close)).after
    (token closing)

theorem lays_exprs? (opening closing : String) (c : Option (Container Expression)) :
    Lays (c.toList.flatMap fun c => nodesOf .expression c.elements)
      (layoutExprs? opening closing c) := by
  cases c with
  | none => exact .empty
  | some c => simpa [layoutExprs?] using lays_exprs opening closing c

theorem lays_expr? (e : Option Expression) : Lays (e.toList.map .expression) (layoutExpr? e) := by
  cases e with
  | none => exact .empty
  | some e => exact .expression e

theorem lays_dimension (d : ArrayDimension) : Lays (d.index.toList.map .expression) d.layout := by
  obtain ⟨opening, index, closing⟩ := d
  rw [ArrayDimension.layout]
  exact ((((space opening).after (token "[")).before (lays_expr? index)).after
    (space closing)).after (token "]")

theorem lays_dimensions (ds : List ArrayDimension) :
    Lays (ds.flatMap fun d => d.index.toList.map .expression) (layoutDimensions ds) := by
  induction ds with
  | nil => exact .empty
  | cons d ds ih => exact (lays_dimension d).beside ih

theorem lays_type? (t : Option TypeTree) : Lays (t.toList.map .type) (layoutType? t) := by
  cases t with
  | none => exact .empty
  | some t => exact .type t

theorem lays_types (opening closing : String) (c : Container TypeTree) :
    Lays (nodesOf .type c.elements) (layoutTypes opening closing c) := by
  obtain ⟨before, ts, close⟩ := c
  rw [layoutTypes, layoutTypeList_eq]
  exact ((((space before).after (token opening)).before (lays_separate ts .type)).after
    (space close)).after
    (token closing)

theorem lays_types? (opening closing : String) (c : Option (Container TypeTree)) :
    Lays (c.toList.flatMap fun c => nodesOf .type c.elements) (layoutTypes? opening closing c) := by
  cases c with
  | none => exact .empty
  | some c => simpa [layoutTypes?] using lays_types opening closing c

theorem lays_parameters (opening closing : String) (c : Container VariableDeclarations) :
    Lays (nodesOf .declaration c.elements) (layoutParameters opening closing c) := by
  obtain ⟨before, vs, close⟩ := c
  rw [layoutParameters, layoutParameterList_eq]
  exact ((((space before).after (token opening)).before (lays_separate vs .declaration)).after
    (space close)).after
    (token closing)

theorem lays_bareParameters (vs : List (Padded VariableDeclarations)) :
    Lays (nodesOf .declaration vs) (layoutBareParameters vs) := by
  induction vs with
  | nil => exact .empty
  | cons v vs ih => exact ((Lays.declaration v.element).after (space v.after)).beside ih

/-- A variable holds its value. -/
theorem lays_variable (v : NamedVariable) :
    Lays (v.initializer.toList.map fun i => .expression i.element) v.layout := by
  obtain ⟨id, leading, name, initializer, type⟩ := v
  rw [NamedVariable.layout]
  refine .mark _ _ ((identifier name).before ?_)
  cases initializer with
  | none => exact .empty
  | some i => exact ((space i.before).after (token "=")).before (.expression i.element)

theorem lays_variables (vs : List (Padded NamedVariable)) :
    Lays (vs.flatMap fun v => v.element.initializer.toList.map fun i => .expression i.element)
      (layoutVariables vs) := by
  match vs with
  | [] => exact .empty
  | [⟨v, after⟩] => simpa [layoutVariables] using (lays_variable v).after (space after)
  | ⟨v, after⟩ :: w :: ws =>
    exact (((lays_variable v).after (space after)).after (token ",")).beside
      (lays_variables (w :: ws))

theorem lays_annotations (as : List Annotation) :
    Lays (as.map .annotationUse) (layoutAnnotations as) := by
  induction as with
  | nil => exact .empty
  | cons a as ih => exact (Lays.part (.annotationUse a)).beside ih

theorem lays_modifiers (ms : List Modifier) : Lays [] (layoutModifiers ms) := by
  induction ms with
  | nil => exact .empty
  | cons m ms ih => exact .before (.mark _ _ (token m.keyword)) ih

theorem lays_block? (b : Option Block) : Lays (b.toList.map .block) (layoutBlock? b) := by
  cases b with
  | none => exact .empty
  | some b => exact .block b

theorem lays_end (semicolon : Bool) (after : Space) : Lays [] (layoutEnd semicolon after) := by
  cases semicolon with
  | false => exact (space after).after .empty
  | true => exact (space after).after (token ";")

theorem lays_ended (p : Padded Statement) :
    Lays [.statement p.element] (p.element.layout ++ layoutEnd p.element.needsSemicolon p.after) :=
  (Lays.statement p.element).after (lays_end _ _)

theorem lays_statements (ss : List (Padded Statement)) :
    Lays (nodesOf .statement ss) (layoutStatements ss) := by
  induction ss with
  | nil => exact .empty
  | cons p ps ih => exact (lays_ended p).beside ih

/-- The semicolons between resources hold no child. -/
theorem lays_resources (terminated : Bool) (ss : List (Padded Statement)) :
    Lays (nodesOf .statement ss) (layoutResources terminated ss) := by
  match ss with
  | [] => exact .empty
  | [⟨s, after⟩] => exact (Lays.statement s).after (lays_end terminated after)
  | ⟨s, after⟩ :: p :: ps =>
    exact ((Lays.statement s).after (lays_end true after)).beside
      (lays_resources terminated (p :: ps))

theorem lays_resources? (r : Option TryResources) :
    Lays (r.toList.flatMap fun r => nodesOf .statement r.resources) (layoutResources? r) := by
  obtain _ | ⟨opening, resources, terminated, closing⟩ := r
  · exact .empty
  · simpa [layoutResources?] using
      ((((space opening).after (token "(")).before (lays_resources terminated resources)).after
        (space closing)).after (token ")")

theorem lays_parenthesized (c : Parenthesized) : Lays [.expression c.tree] c.layout := by
  obtain ⟨opening, tree, closing⟩ := c
  rw [Parenthesized.layout]
  exact ((((space opening).after (token "(")).before (.expression tree)).after
    (space closing)).after (token ")")

theorem lays_caseBody (b : CaseBody) : Lays b.children b.layout := by
  cases b with
  | statements list => exact (token ":").before (lays_statements list)
  | rule body =>
    rw [CaseBody.layout]
    exact ((token "->").before (.statement body.element)).after (lays_end _ _)

/-- A case holds its labels and its body. -/
theorem lays_cases (cs : List Case) :
    Lays (cs.flatMap fun c => nodesOf .expression c.labels ++ c.body.children)
      (layoutCases cs) := by
  induction cs with
  | nil => exact .empty
  | cons c cs ih =>
    obtain ⟨id, leading, labels, separator, body⟩ := c
    rw [layoutCases]
    exact (Lays.mark id leading
      ((((token _).before (lays_exprList labels)).after (space separator)).beside
      (lays_caseBody body))).beside ih

/-- A handler holds its parameter and its block. -/
theorem lays_catches (cs : List Catch) :
    Lays (cs.flatMap fun c => [.declaration c.parameter.element, .block c.body])
      (layoutCatches cs) := by
  induction cs with
  | nil => exact .empty
  | cons c cs ih =>
    obtain ⟨id, leading, opening, ⟨parameter, after⟩, body⟩ := c
    rw [layoutCatches]
    exact (Lays.mark id leading
      ((((((token "catch").after (space opening)).after (token "(")).before
      (.declaration parameter)).after (space after)).after (token ")") |>.beside
        (.block body))).beside ih

theorem lays_else (e : Option Else) :
    Lays (e.toList.map fun e => .statement e.body.element) (layoutElse e) := by
  obtain _ | ⟨id, leading, ⟨s, after⟩⟩ := e
  · exact .empty
  · rw [layoutElse]
    exact .mark id leading (((token "else").before (.statement s)).after (lays_end _ _))

theorem lays_finally (b : Option (LeftPadded Block)) :
    Lays (b.toList.map fun b => .block b.element) (layoutFinally b) := by
  cases b with
  | none => exact .empty
  | some b => exact ((space b.before).after (token "finally")).before (.block b.element)

theorem lays_statement? (s : Option Statement) :
    Lays (s.toList.map .statement) (layoutStatement? s) := by
  cases s with
  | none => exact .empty
  | some s => exact .statement s

theorem lays_super (t : Option (LeftPadded TypeTree)) :
    Lays (t.toList.map fun t => .type t.element) (layoutSuper t) := by
  cases t with
  | none => exact .empty
  | some t => exact ((space t.before).after (token "extends")).before (.type t.element)

theorem lays_lambdaBody (b : LambdaBody) : Lays [b.child] b.layout := by
  cases b with
  | expression e => exact .expression e
  | block b => exact .block b

theorem lays_label (label : Option Identifier) : Lays [] (layoutLabel label) := by
  cases label with
  | none => exact .empty
  | some n => exact identifier n

theorem lays_bound (bound : Option (LeftPadded WildcardBound)) : Lays [] (layoutBound bound) := by
  cases bound with
  | none => exact .empty
  | some b => exact (space b.before).after (token _)

end Slots

/-! ## Nodes -/

/-- Between the marks of a node stand the layouts of its children. -/
def Framed (id : NodeId) (leading : Space) (children : List Node) (l : Layout) : Prop :=
  ∃ body, Lays children body ∧ l = node id leading body

/-- A selection frames what it selects from. -/
theorem framed_fieldAccess (n : FieldAccess) :
    Framed n.id n.leading [.expression n.target] n.layout := by
  obtain ⟨id, leading, target, dot, name, type⟩ := n
  refine ⟨_, ?_, by rw [FieldAccess.layout]⟩
  exact (((Lays.expression target).after (space dot)).after (token ".")).after (identifier name)

/-- A call frames its receiver and its arguments. -/
theorem framed_call (n : MethodInvocation) : Framed n.id n.leading n.children n.layout := by
  obtain ⟨id, leading, select, name, arguments, method⟩ := n
  refine ⟨_, ?_, by rw [MethodInvocation.layout]⟩
  refine Lays.beside (.after ?_ (identifier name)) (lays_exprs "(" ")" arguments)
  cases select with
  | none => exact .empty
  | some s => exact ((Lays.expression s.element).after (space s.after)).after (token ".")

/-- Every expression frames its children, one case for each kind. -/
theorem framed_expression (e : Expression) : Framed e.id e.leading e.children e.layout := by
  cases e with
  | identifier n => exact ⟨_, token _, rfl⟩
  | literal n => exact ⟨_, token _, rfl⟩
  | fieldAccess n => exact framed_fieldAccess n
  | methodInvocation n => exact framed_call n
  | newClass id leading clazz arguments body type =>
    refine ⟨_, ?_, by rw [Expression.layout]; rfl⟩
    exact (((token "new").before (.type clazz)).beside (lays_exprs "(" ")" arguments)).beside
      (lays_block? body)
  | newArray id leading elementType dimensions initializer type =>
    refine ⟨_, ?_, by rw [Expression.layout]; rfl⟩
    refine Lays.beside (.beside ?_ (lays_dimensions dimensions)) (lays_exprs? _ _ initializer)
    cases elementType with
    | none => exact .empty
    | some t => exact (token "new").before (.type t)
  | lambda id leading parenthesized parameters arrow body type =>
    cases parenthesized with
    | true =>
      refine ⟨_, ?_, by rw [Expression.layout]; rfl⟩
      exact (((lays_parameters "(" ")" parameters).after (space arrow)).after (token "->")).beside
        (lays_lambdaBody body)
    | false =>
      obtain ⟨before, vs, close⟩ := parameters
      refine ⟨_, ?_, by rw [Expression.layout]; rfl⟩
      exact (((lays_bareParameters vs).after (space arrow)).after (token "->")).beside
        (lays_lambdaBody body)
  | memberReference id leading containing colons name type =>
    refine ⟨_, ?_, by rw [Expression.layout]; rfl⟩
    exact (((Lays.expression containing).after (space colons)).after (token "::")).after
      (identifier name)
  | binary id leading left before op right type =>
    refine ⟨_, ?_, by rw [Expression.layout]; rfl⟩
    exact (((Lays.expression left).after (space before)).after (token _)).beside (.expression right)
  | unary id leading before op operand type =>
    refine ⟨_, ?_, by rw [Expression.layout]; rfl⟩
    split
    · exact ((Lays.expression operand).after (space before)).after (token _)
    · exact ((space before).after (token _)).before (.expression operand)
  | assignment id leading target before op value type =>
    refine ⟨_, ?_, by rw [Expression.layout]; rfl⟩
    exact (((Lays.expression target).after (space before)).after (token _)).beside
      (.expression value)
  | ternary id leading condition whenTrue whenFalse type =>
    refine ⟨_, ?_, by rw [Expression.layout]; rfl⟩
    exact ((((((Lays.expression condition).after (space _)).after (token "?")).beside
      (.expression whenTrue.element)).after (space _)).after (token ":")).beside
        (.expression whenFalse.element)
  | parentheses id leading tree =>
    refine ⟨_, ?_, by rw [Expression.layout]; rfl⟩
    exact (((token "(").before (.expression tree.element)).after (space _)).after (token ")")
  | arrayAccess id leading indexed dimension type =>
    refine ⟨_, ?_, by rw [Expression.layout]; rfl⟩
    exact (Lays.expression indexed).beside (lays_dimension dimension)
  | typeCast id leading clazz operand type =>
    refine ⟨_, ?_, by rw [Expression.layout]; rfl⟩
    exact ((((token "(").before (.type clazz.element)).after (space _)).after (token ")")).beside
      (.expression operand)

/-- Every type frames its children. -/
theorem framed_type (t : TypeTree) :
    Framed t.id t.leading t.children t.layout ∨ ∃ e, t = .named e := by
  cases t with
  | named e => exact .inr ⟨e, rfl⟩
  | primitive id leading p => exact .inl ⟨_, token _, by rw [TypeTree.layout]; rfl⟩
  | parameterized id leading clazz arguments type =>
    refine .inl ⟨_, ?_, by rw [TypeTree.layout]; rfl⟩
    exact (Lays.expression clazz).beside (lays_types "<" ">" arguments)
  | array id leading element opening closing type =>
    refine .inl ⟨_, ?_, by rw [TypeTree.layout]; rfl⟩
    exact ((((Lays.type element).after (space opening)).after (token "[")).after
      (space closing)).after
      (token "]")
  | wildcard id leading bound bounded =>
    refine .inl ⟨_, ?_, by rw [TypeTree.layout]; rfl⟩
    exact ((token "?").after (lays_bound bound)).before (lays_type? bounded)

theorem framed_annotation (a : Annotation) : Framed a.id a.leading a.children a.layout := by
  obtain ⟨id, leading, name, arguments⟩ := a
  refine ⟨_, ?_, by rw [ Annotation.layout]⟩
  exact ((token "@").before (.expression name)).beside (lays_exprs? "(" ")" arguments)

theorem framed_declaration (n : VariableDeclarations) :
    Framed n.id n.leading n.children n.layout := by
  obtain ⟨id, leading, annotations, modifiers, declaredType, varargs, declarators⟩ := n
  have head := ((lays_annotations annotations).after (lays_modifiers modifiers)).beside
    (lays_type? declaredType)
  cases varargs with
  | none =>
    have body := (head.after .empty).beside (lays_variables declarators)
    exact ⟨_, body, by simp only [VariableDeclarations.layout]⟩
  | some s =>
    have dots : Lays [] (s.layout ++ tok "...") := (space s).after (token "...")
    have body := (head.after dots).beside (lays_variables declarators)
    exact ⟨_, body, by simp only [VariableDeclarations.layout]⟩

theorem framed_block (b : Block) : Framed b.id b.leading b.children b.layout := by
  obtain ⟨id, leading, statements, close⟩ := b
  refine ⟨_, ?_, by rw [Block.layout]⟩
  exact (((token "\x7b").before (lays_statements statements)).after (space close)).after
    (token "\x7d")

/-- A class frames its annotations, its types and its body. -/
theorem framed_class (c : ClassDeclaration) : Framed c.id c.leading c.children c.layout := by
  obtain ⟨id, leading, annotations, modifiers, keywordLeading, keyword, name, superclass,
    interfaces, body,
    type⟩ := c
  refine ⟨_, ?_, by rw [ClassDeclaration.layout]⟩
  have head := ((((lays_annotations annotations).after (lays_modifiers modifiers)).after
    (space keywordLeading)).after (token keyword.text)).after (identifier name)
  exact ((head.beside (lays_super superclass)).beside (lays_types? _ _ interfaces)).beside
    (.block body)

/-- A method frames its annotations, its types, its parameters and its body. -/
theorem framed_method (m : MethodDeclaration) : Framed m.id m.leading m.children m.layout := by
  obtain ⟨id, leading, annotations, modifiers, returnType, name, parameters, throwing, body,
    method⟩ := m
  refine ⟨_, ?_, by rw [MethodDeclaration.layout]⟩
  have head := (((lays_annotations annotations).after (lays_modifiers modifiers)).beside
    (lays_type? returnType)).after (identifier name)
  exact ((head.beside (lays_parameters "(" ")" parameters)).beside
    (lays_types? _ _ throwing)).beside
    (lays_block? body)

/-- Every statement frames its children, one case for each kind. -/
theorem framed_statement (s : Statement) :
    Framed s.id s.leading s.children s.layout ∨ ∃ e, s = .expression e := by
  cases s with
  | expression e => exact .inr ⟨e, rfl⟩
  | declaration n => exact .inl (framed_declaration n)
  | block n => exact .inl (framed_block n)
  | classDeclaration n => exact .inl (framed_class n)
  | method n => exact .inl (framed_method n)
  | returns id leading value =>
    exact .inl ⟨_, (token "return").before (lays_expr? value), by rw [Statement.layout]; rfl⟩
  | throws id leading exception =>
    exact .inl ⟨_, (token "throw").before (.expression exception), by rw [Statement.layout]; rfl⟩
  | empty id leading => exact .inl ⟨_, .empty, by rw [Statement.layout]; rfl⟩
  | breaks id leading label =>
    exact .inl ⟨_, (token "break").before (lays_label label), by rw [Statement.layout]; rfl⟩
  | continues id leading label =>
    exact .inl ⟨_, (token "continue").before (lays_label label), by rw [Statement.layout]; rfl⟩
  | conditional id leading condition whenTrue whenFalse =>
    refine .inl ⟨_, ?_, by rw [Statement.layout]; rfl⟩
    exact ((((token "if").before (lays_parenthesized condition)).beside
      (.statement whenTrue.element)).after
      (lays_end _ _)).beside (lays_else whenFalse)
  | whileLoop id leading condition body =>
    refine .inl ⟨_, ?_, by rw [Statement.layout]; rfl⟩
    exact (((token "while").before (lays_parenthesized condition)).beside
      (.statement body.element)).after
      (lays_end _ _)
  | forLoop id leading opening init afterInit condition afterCondition update closing body =>
    refine .inl ⟨_, ?_, by rw [Statement.layout]; rfl⟩
    have first := (((((token "for").after (space opening)).after (token "(")).before
      (lays_statement? init)).after (space afterInit)).after (token ";")
    have second := ((first.beside (lays_expr? condition)).after (space afterCondition)).after
      (token ";")
    have third := ((second.beside (lays_exprList update)).after (space closing)).after (token ")")
    exact (third.beside (.statement body.element)).after (lays_end _ _)
  | forEach id leading opening binder iterable body =>
    refine .inl ⟨_, ?_, by rw [Statement.layout]; rfl⟩
    have first := (((((token "for").after (space opening)).after (token "(")).before
      (.declaration binder.element)).after (space binder.after)).after (token ":")
    have second := ((first.beside (.expression iterable.element)).after
      (space iterable.after)).after (token ")")
    exact (second.beside (.statement body.element)).after (lays_end _ _)
  | tryBlock id leading resources body catches finalizer =>
    refine .inl ⟨_, ?_, by rw [Statement.layout]; rfl⟩
    exact ((((token "try").before (lays_resources? resources)).beside (.block body)).beside
      (lays_catches catches)).beside (lays_finally finalizer)
  | doWhile id leading body whileLeading condition =>
    refine .inl ⟨_, ?_, by rw [Statement.layout]; rfl⟩
    exact (((((token "do").before (.statement body.element)).after (lays_end _ _)).after
      (space whileLeading)).after (token "while")).beside (lays_parenthesized condition)
  | switch id leading selector opening cases closing =>
    refine .inl ⟨_, ?_, by rw [Statement.layout]; rfl⟩
    have head := (((token "switch").before (lays_parenthesized selector)).after
      (space opening)).after
      (token "\x7b")
    exact ((head.beside (lays_cases cases)).after (space closing)).after (token "\x7d")

theorem lays_import (i : Import) :
    Framed i.id i.leading (Node.importDeclaration i).parts i.layout := by
  obtain ⟨id, leading, staticLeading, name⟩ := i
  refine ⟨_, .beside (.after (token "import") ?_) (.part (.expression (.fieldAccess name))), rfl⟩
  cases staticLeading with
  | none => exact .empty
  | some s => exact (space s).after (token "static")

theorem lays_imports (is : List (Padded Import)) :
    Lays (nodesOf .importDeclaration is)
      (.each (fun ⟨i, after⟩ => i.layout ++ after.layout ++ tok ";") is) := by
  induction is with
  | nil => exact .empty
  | cons i is ih =>
    exact (((Lays.part (.importDeclaration i.element)).after (space i.after)).after
      (token ";")).beside ih

theorem lays_classes (cs : List ClassDeclaration) :
    Lays (cs.map .classDeclaration) (.each ClassDeclaration.layout cs) := by
  induction cs with
  | nil => exact .empty
  | cons c cs ih => exact (Lays.part (.classDeclaration c)).beside ih

/-- Whether a node may have the marks of its only part. -/
def Node.rank : Node → Nat
  | statement _ | type _ => 1
  | _ => 0

/-- How a node is laid out. -/
inductive Node.Laid (n : Node) : Prop
  /-- The trivia in front, and then, between the marks of the node, its parts. -/
  | framed (trivia : List String) (body : Layout) (lays : Lays n.parts body)
    (leading : String.join trivia = n.leading.text)
    (pieces : n.layout.pieces = trivia.map Piece.text ++
      Piece.enter n.id :: (body.pieces ++ [Piece.leave n.id]))
  /-- The same layout as its only part. -/
  | same (c : Node) (parts : n.parts = [c]) (layout : c.layout = n.layout) (id : c.id = n.id)
    (leading : c.leading = n.leading) (lower : c.rank < n.rank)

/-- What frames its parts lays them out one behind the other. -/
theorem Framed.laid {n : Node} (h : Framed n.id n.leading n.parts n.layout) : n.Laid := by
  obtain ⟨body, lays, eq⟩ := h
  refine .framed [n.leading.text] body lays (by simp [String.join]) ?_
  rw [eq]
  simp only [node, Layout.pieces_append]
  rfl

theorem lays_package (package : Option (Padded Package)) :
    Lays (package.toList.map fun p => .expression p.element.name)
      (package.elim .empty fun p => p.element.layout ++ p.after.layout ++ tok ";") := by
  cases package with
  | none => exact .empty
  | some p =>
    have name : Lays [.expression p.element.name] p.element.layout :=
      .mark _ _ ((token "package").before (.expression _))
    exact (name.after (space _)).after (token ";")

/-- A unit lays out its package, its imports and its classes. -/
theorem CompilationUnit.laid (u : CompilationUnit) : (Node.unit u).Laid := by
  obtain ⟨id, path, package, imports, classes, eof⟩ := u
  have body := (((lays_package package).beside (lays_imports imports)).beside
    (lays_classes classes)).after (space eof)
  refine .framed [] _ (by simpa [Node.parts, CompilationUnit.children] using body) rfl ?_
  simp only [Node.layout, CompilationUnit.layout, Layout.pieces_append, List.append_assoc]
  cases package <;> rfl

/-- Every node lays out its children one behind the other, in the order of the text. -/
theorem Node.laid (n : Node) : n.Laid := by
  cases n with
  | unit u => exact u.laid
  | importDeclaration i => exact (lays_import i).laid
  | classDeclaration c => exact Framed.laid (framed_class c)
  | method m => exact Framed.laid (framed_method m)
  | annotationUse a => exact Framed.laid <| framed_annotation a
  | block b => exact Framed.laid (framed_block b)
  | declaration d => exact Framed.laid (framed_declaration d)
  | statement s =>
    obtain framed | ⟨e, rfl⟩ := framed_statement s
    · exact Framed.laid framed
    · exact .same (.expression e) rfl rfl rfl rfl Nat.zero_lt_one
  | expression e => exact Framed.laid (framed_expression e)
  | type t =>
    obtain framed | ⟨e, rfl⟩ := framed_type t
    · exact Framed.laid framed
    · exact .same (.expression e) rfl rfl rfl rfl Nat.zero_lt_one

end Retouch
