import Retouch.Tree.Basic

/-!
# Printing and positions

A tree is laid out in pieces: texts, and marks where the text of a node begins and ends. Printing
concatenates the texts. The span of a node lies between its two marks, so its leading trivia is
outside of it. Because both come from one layout, a span always cuts the printed text.

Layouts are put side by side without copying them, so the pieces of a tree are listed in the time that
their number takes, also where the tree is deep on its left side.
-/

namespace Retouch

/-- A text of the layout, or the begin or the end of a node's own text. -/
inductive Piece where
  | text (s : String)
  | enter (id : NodeId)
  | leave (id : NodeId)

/-- The text of a layout. -/
def Piece.print (ps : List Piece) : String :=
  ps.foldl (fun acc p => match p with | .text s => acc ++ s | _ => acc) ""

/-- Pieces side by side. -/
inductive Layout where
  | empty
  | piece (p : Piece)
  | beside (left right : Layout)

namespace Layout

instance : Append Layout := ⟨beside⟩

/-- The pieces of a layout, and others behind them. -/
def onto : Layout → List Piece → List Piece
  | empty, rest => rest
  | piece p, rest => p :: rest
  | beside left right, rest => left.onto (right.onto rest)

def pieces (l : Layout) : List Piece := l.onto []

theorem onto_eq (l : Layout) (rest : List Piece) : l.onto rest = l.pieces ++ rest := by
  induction l generalizing rest with
  | empty => rfl
  | piece p => rfl
  | beside left right ihl ihr =>
    show left.onto (right.onto rest) = left.onto right.pieces ++ rest
    rw [ihl, ihr, ihl right.pieces, List.append_assoc]

@[simp]
theorem pieces_append (a b : Layout) : (a ++ b).pieces = a.pieces ++ b.pieces :=
  onto_eq a b.pieces

/-- The layouts of the elements of a list, one behind the other. -/
def each {α : Type} (layout : α → Layout) : List α → Layout
  | [] => empty
  | a :: as => layout a ++ each layout as

end Layout

/-- A range of bytes. -/
structure Span where
  start : Nat
  stop : Nat
deriving DecidableEq, Repr

/-- The spans of the nodes of a layout, each at the end of its node: `offset` bytes are printed and
`opened` holds the begins of the nodes that have not ended. -/
def Piece.spansFrom (offset : Nat) (opened : List Nat) : List Piece → List (NodeId × Span)
  | [] => []
  | .text s :: ps => spansFrom (offset + s.utf8ByteSize) opened ps
  | .enter _ :: ps => spansFrom offset (offset :: opened) ps
  | .leave id :: ps =>
    match opened with
    | [] => spansFrom offset [] ps
    | start :: rest => (id, ⟨start, offset⟩) :: spansFrom offset rest ps

/-- The spans of the nodes of a layout, a node before those that contain it. -/
def Piece.spans (ps : List Piece) : List (NodeId × Span) := spansFrom 0 [] ps

/-- The leading trivia of a node, and its own text between its marks. -/
def node (id : NodeId) (leading : Space) (body : Layout) : Layout :=
  .piece (.text leading.text) ++ .piece (.enter id) ++ body ++ .piece (.leave id)

def Space.layout (s : Space) : Layout := .piece (.text s.text)

/-- A token without trivia of its own. -/
def tok (text : String) : Layout := .piece (.text text)

def Identifier.layout (n : Identifier) : Layout := node n.id n.leading (tok n.name)

def Literal.layout (n : Literal) : Layout := node n.id n.leading (tok n.source)

def Modifier.layout (n : Modifier) : Layout := node n.id n.leading (tok n.keyword)

def layoutModifiers (ms : List Modifier) : Layout := .each Modifier.layout ms

def ClassKeyword.text : ClassKeyword → String
  | .clazz => "class"
  | .interface => "interface"

/-- The keyword in front of the list of interfaces. -/
def ClassKeyword.listKeyword : ClassKeyword → String
  | .clazz => "implements"
  | .interface => "extends"

/-- A semicolon ends the statement when it stands in a block. -/
def Statement.needsSemicolon : Statement → Bool
  | .expression _ | .declaration _ | .returns .. | .throws .. | .empty .. | .doWhile .. | .breaks ..
  | .continues .. => true
  | .method m => m.body.isNone
  | _ => false

/-- The trivia behind a statement and the semicolon, if it takes one. -/
def layoutEnd (semicolon : Bool) (after : Space) : Layout :=
  after.layout ++ if semicolon then tok ";" else .empty

def layoutLabel : Option Identifier → Layout
  | none => .empty
  | some n => n.layout

def layoutBound : Option (LeftPadded WildcardBound) → Layout
  | none => .empty
  | some ⟨before, bound⟩ => before.layout ++ tok bound.keyword

mutual

def Expression.layout : Expression → Layout
  | .identifier n => n.layout
  | .literal n => n.layout
  | .fieldAccess n => n.layout
  | .methodInvocation n => n.layout
  | .newClass id leading clazz arguments body _ =>
    node id leading (tok "new" ++ clazz.layout ++ layoutExprs "(" ")" arguments ++ layoutBlock? body)
  | .newArray id leading elementType dimensions initializer _ =>
    node id leading (layoutNewType elementType ++ layoutDimensions dimensions ++
      layoutExprs? "\x7b" "\x7d" initializer)
  | .lambda id leading true parameters arrow body _ =>
    node id leading (layoutParameters "(" ")" parameters ++ arrow.layout ++ tok "->" ++ body.layout)
  | .lambda id leading false ⟨_, parameters, _⟩ arrow body _ =>
    node id leading (layoutBareParameters parameters ++ arrow.layout ++ tok "->" ++ body.layout)
  | .memberReference id leading containing colons name _ =>
    node id leading (containing.layout ++ colons.layout ++ tok "::" ++ name.layout)
  | .binary id leading left before op right _ =>
    node id leading (left.layout ++ before.layout ++ tok op.spelling ++ right.layout)
  | .unary id leading before op operand _ =>
    node id leading (if op.isPostfix then operand.layout ++ before.layout ++ tok op.spelling
      else before.layout ++ tok op.spelling ++ operand.layout)
  | .assignment id leading target before op value _ =>
    node id leading (target.layout ++ before.layout ++ tok op.spelling ++ value.layout)
  | .ternary id leading condition ⟨question, whenTrue⟩ ⟨colon, whenFalse⟩ _ =>
    node id leading (condition.layout ++ question.layout ++ tok "?" ++ whenTrue.layout ++
      colon.layout ++ tok ":" ++ whenFalse.layout)
  | .parentheses id leading ⟨tree, after⟩ =>
    node id leading (tok "(" ++ tree.layout ++ after.layout ++ tok ")")
  | .arrayAccess id leading indexed dimension _ =>
    node id leading (indexed.layout ++ dimension.layout)
  | .typeCast id leading ⟨clazz, after⟩ operand _ =>
    node id leading (tok "(" ++ clazz.layout ++ after.layout ++ tok ")" ++ operand.layout)

def FieldAccess.layout : FieldAccess → Layout
  | ⟨id, leading, target, dot, name, _⟩ =>
    node id leading (target.layout ++ dot.layout ++ tok "." ++ name.layout)

def MethodInvocation.layout : MethodInvocation → Layout
  | ⟨id, leading, select, name, arguments, _⟩ =>
    node id leading (layoutSelect select ++ name.layout ++ layoutExprs "(" ")" arguments)

def layoutSelect : Option (Padded Expression) → Layout
  | none => .empty
  | some ⟨e, after⟩ => e.layout ++ after.layout ++ tok "."

def layoutExprList : List (Padded Expression) → Layout
  | [] => .empty
  | [⟨e, after⟩] => e.layout ++ after.layout
  | ⟨e, after⟩ :: es => e.layout ++ after.layout ++ tok "," ++ layoutExprList es

def layoutExprs (opening closing : String) : Container Expression → Layout
  | ⟨before, elements, close⟩ =>
    before.layout ++ tok opening ++ layoutExprList elements ++ close.layout ++ tok closing

def layoutExprs? (opening closing : String) : Option (Container Expression) → Layout
  | none => .empty
  | some c => layoutExprs opening closing c

def layoutExpr? : Option Expression → Layout
  | none => .empty
  | some e => e.layout

def ArrayDimension.layout : ArrayDimension → Layout
  | ⟨opening, index, closing⟩ =>
    opening.layout ++ tok "[" ++ layoutExpr? index ++ closing.layout ++ tok "]"

def layoutDimensions : List ArrayDimension → Layout
  | [] => .empty
  | d :: ds => d.layout ++ layoutDimensions ds

def LambdaBody.layout : LambdaBody → Layout
  | .expression e => e.layout
  | .block b => b.layout

def layoutNewType : Option TypeTree → Layout
  | none => .empty
  | some t => tok "new" ++ t.layout

def layoutType? : Option TypeTree → Layout
  | none => .empty
  | some t => t.layout

def TypeTree.layout : TypeTree → Layout
  | .named e => e.layout
  | .primitive id leading p => node id leading (tok p.keyword)
  | .parameterized id leading clazz arguments _ =>
    node id leading (clazz.layout ++ layoutTypes "<" ">" arguments)
  | .array id leading element opening closing _ =>
    node id leading (element.layout ++ opening.layout ++ tok "[" ++ closing.layout ++ tok "]")
  | .wildcard id leading bound bounded =>
    node id leading (tok "?" ++ layoutBound bound ++ layoutType? bounded)

def layoutTypeList : List (Padded TypeTree) → Layout
  | [] => .empty
  | [⟨t, after⟩] => t.layout ++ after.layout
  | ⟨t, after⟩ :: ts => t.layout ++ after.layout ++ tok "," ++ layoutTypeList ts

def layoutTypes (opening closing : String) : Container TypeTree → Layout
  | ⟨before, elements, close⟩ =>
    before.layout ++ tok opening ++ layoutTypeList elements ++ close.layout ++ tok closing

def layoutTypes? (opening closing : String) : Option (Container TypeTree) → Layout
  | none => .empty
  | some c => layoutTypes opening closing c

def layoutParameterList : List (Padded VariableDeclarations) → Layout
  | [] => .empty
  | [⟨v, after⟩] => v.layout ++ after.layout
  | ⟨v, after⟩ :: vs => v.layout ++ after.layout ++ tok "," ++ layoutParameterList vs

/-- The parameter of a lambda without parentheses. -/
def layoutBareParameters : List (Padded VariableDeclarations) → Layout
  | [] => .empty
  | ⟨v, after⟩ :: vs => v.layout ++ after.layout ++ layoutBareParameters vs

def layoutParameters (opening closing : String) : Container VariableDeclarations → Layout
  | ⟨before, elements, close⟩ =>
    before.layout ++ tok opening ++ layoutParameterList elements ++ close.layout ++ tok closing

def VariableDeclarations.layout : VariableDeclarations → Layout
  | ⟨id, leading, annotations, modifiers, declaredType, varargs, declarators⟩ =>
    node id leading (layoutAnnotations annotations ++ layoutModifiers modifiers ++
      layoutType? declaredType ++ (match varargs with | none => .empty | some s => s.layout ++ tok "...")
      ++ layoutVariables declarators)

def NamedVariable.layout : NamedVariable → Layout
  | ⟨id, leading, name, initializer, _⟩ => node id leading (name.layout ++ layoutInit initializer)

def layoutInit : Option (LeftPadded Expression) → Layout
  | none => .empty
  | some ⟨before, e⟩ => before.layout ++ tok "=" ++ e.layout

def layoutVariables : List (Padded NamedVariable) → Layout
  | [] => .empty
  | [⟨v, after⟩] => v.layout ++ after.layout
  | ⟨v, after⟩ :: vs => v.layout ++ after.layout ++ tok "," ++ layoutVariables vs

def Annotation.layout : Annotation → Layout
  | ⟨id, leading, name, arguments⟩ =>
    node id leading (tok "@" ++ name.layout ++ layoutExprs? "(" ")" arguments)

def layoutAnnotations : List Annotation → Layout
  | [] => .empty
  | a :: as => a.layout ++ layoutAnnotations as

def Block.layout : Block → Layout
  | ⟨id, leading, statements, close⟩ =>
    node id leading (tok "\x7b" ++ layoutStatements statements ++ close.layout ++ tok "\x7d")

def layoutBlock? : Option Block → Layout
  | none => .empty
  | some b => b.layout

def layoutStatements : List (Padded Statement) → Layout
  | [] => .empty
  | ⟨s, after⟩ :: ss => s.layout ++ layoutEnd s.needsSemicolon after ++ layoutStatements ss

/-- Resources: a semicolon stands between two of them and, if `terminated`, behind the last. -/
def layoutResources (terminated : Bool) : List (Padded Statement) → Layout
  | [] => .empty
  | [⟨s, after⟩] => s.layout ++ layoutEnd terminated after
  | ⟨s, after⟩ :: ss => s.layout ++ layoutEnd true after ++ layoutResources terminated ss

def layoutResources? : Option TryResources → Layout
  | none => .empty
  | some ⟨opening, resources, terminated, closing⟩ =>
    opening.layout ++ tok "(" ++ layoutResources terminated resources ++ closing.layout ++ tok ")"

def ClassDeclaration.layout : ClassDeclaration → Layout
  | ⟨id, leading, annotations, modifiers, keywordLeading, keyword, name, superclass, interfaces,
      body, _⟩ =>
    node id leading (layoutAnnotations annotations ++ layoutModifiers modifiers ++
      keywordLeading.layout ++ tok keyword.text ++ name.layout ++ layoutSuper superclass ++
      layoutTypes? keyword.listKeyword "" interfaces ++ body.layout)

def layoutSuper : Option (LeftPadded TypeTree) → Layout
  | none => .empty
  | some ⟨before, t⟩ => before.layout ++ tok "extends" ++ t.layout

def MethodDeclaration.layout : MethodDeclaration → Layout
  | ⟨id, leading, annotations, modifiers, returnType, name, parameters, throwing, body, _⟩ =>
    node id leading (layoutAnnotations annotations ++ layoutModifiers modifiers ++
      layoutType? returnType ++ name.layout ++ layoutParameters "(" ")" parameters ++
      layoutTypes? "throws" "" throwing ++ layoutBlock? body)

def Parenthesized.layout : Parenthesized → Layout
  | ⟨opening, tree, closing⟩ => opening.layout ++ tok "(" ++ tree.layout ++ closing.layout ++ tok ")"

def layoutCases : List Case → Layout
  | [] => .empty
  | ⟨id, leading, labels, separator, body⟩ :: cs =>
    node id leading (tok (if labels.isEmpty then "default" else "case") ++ layoutExprList labels ++
      separator.layout ++ body.layout) ++ layoutCases cs

def CaseBody.layout : CaseBody → Layout
  | .statements list => tok ":" ++ layoutStatements list
  | .rule ⟨s, after⟩ => tok "->" ++ s.layout ++ layoutEnd s.needsSemicolon after

def layoutCatches : List Catch → Layout
  | [] => .empty
  | ⟨id, leading, opening, ⟨parameter, after⟩, body⟩ :: cs =>
    node id leading (tok "catch" ++ opening.layout ++ tok "(" ++ parameter.layout ++ after.layout ++
      tok ")" ++ body.layout) ++ layoutCatches cs

def layoutElse : Option Else → Layout
  | none => .empty
  | some ⟨id, leading, ⟨s, after⟩⟩ =>
    node id leading (tok "else" ++ s.layout ++ layoutEnd s.needsSemicolon after)

def layoutFinally : Option (LeftPadded Block) → Layout
  | none => .empty
  | some ⟨before, b⟩ => before.layout ++ tok "finally" ++ b.layout

def layoutStatement? : Option Statement → Layout
  | none => .empty
  | some s => s.layout

def Statement.layout : Statement → Layout
  | .expression e => e.layout
  | .declaration n => n.layout
  | .block n => n.layout
  | .classDeclaration n => n.layout
  | .method n => n.layout
  | .returns id leading value => node id leading (tok "return" ++ layoutExpr? value)
  | .throws id leading exception => node id leading (tok "throw" ++ exception.layout)
  | .empty id leading => node id leading .empty
  | .breaks id leading label => node id leading (tok "break" ++ layoutLabel label)
  | .continues id leading label => node id leading (tok "continue" ++ layoutLabel label)
  | .doWhile id leading ⟨body, after⟩ whileLeading condition =>
    node id leading (tok "do" ++ body.layout ++ layoutEnd body.needsSemicolon after ++
      whileLeading.layout ++ tok "while" ++ condition.layout)
  | .switch id leading selector opening cases closing =>
    node id leading (tok "switch" ++ selector.layout ++ opening.layout ++ tok "\x7b" ++
      layoutCases cases ++ closing.layout ++ tok "\x7d")
  | .conditional id leading condition ⟨whenTrue, after⟩ whenFalse =>
    node id leading (tok "if" ++ condition.layout ++ whenTrue.layout ++
      layoutEnd whenTrue.needsSemicolon after ++ layoutElse whenFalse)
  | .whileLoop id leading condition ⟨body, after⟩ =>
    node id leading (tok "while" ++ condition.layout ++ body.layout ++
      layoutEnd body.needsSemicolon after)
  | .forLoop id leading opening init afterInit condition afterCondition update closing
      ⟨body, after⟩ =>
    node id leading (tok "for" ++ opening.layout ++ tok "(" ++ layoutStatement? init ++
      afterInit.layout ++ tok ";" ++ layoutExpr? condition ++ afterCondition.layout ++ tok ";" ++
      layoutExprList update ++ closing.layout ++ tok ")" ++ body.layout ++
      layoutEnd body.needsSemicolon after)
  | .forEach id leading opening ⟨binder, afterBinder⟩ ⟨iterable, afterIterable⟩ ⟨body, after⟩ =>
    node id leading (tok "for" ++ opening.layout ++ tok "(" ++ binder.layout ++ afterBinder.layout ++
      tok ":" ++ iterable.layout ++ afterIterable.layout ++ tok ")" ++ body.layout ++
      layoutEnd body.needsSemicolon after)
  | .tryBlock id leading resources body catches finalizer =>
    node id leading (tok "try" ++ layoutResources? resources ++ body.layout ++
      layoutCatches catches ++ layoutFinally finalizer)

end

def Package.layout (p : Package) : Layout :=
  node p.id p.leading (tok "package" ++ p.name.layout)

def Import.layout (i : Import) : Layout :=
  node i.id i.leading (tok "import" ++
    (match i.staticLeading with | none => .empty | some s => s.layout ++ tok "static") ++ i.name.layout)

/-- The unit has no leading trivia of its own: its text is the whole file. -/
def CompilationUnit.layout (u : CompilationUnit) : Layout :=
  .piece (.enter u.id) ++ (match u.package with
    | none => .empty
    | some ⟨p, after⟩ => p.layout ++ after.layout ++ tok ";") ++
    .each (fun ⟨i, after⟩ => i.layout ++ after.layout ++ tok ";") u.imports ++
    .each ClassDeclaration.layout u.classes ++ u.eof.layout ++ .piece (.leave u.id)

/-- The text of a layout. -/
def Layout.print (l : Layout) : String := Piece.print l.pieces

def Expression.print (e : Expression) : String := e.layout.print

def Statement.print (s : Statement) : String := s.layout.print

def TypeTree.print (t : TypeTree) : String := t.layout.print

def Annotation.print (a : Annotation) : String := a.layout.print

def Block.print (b : Block) : String := b.layout.print

def CompilationUnit.print (u : CompilationUnit) : String := u.layout.print

/-- The spans of all nodes of the unit, a node before those that contain it. -/
def CompilationUnit.spans (u : CompilationUnit) : List (NodeId × Span) := Piece.spans u.layout.pieces

/-- Where the text of a node stands in the printed unit. -/
def CompilationUnit.locate (u : CompilationUnit) (id : NodeId) : Option Span := u.spans.lookup id

end Retouch
