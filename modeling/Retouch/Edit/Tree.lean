import Retouch.Edit.Basic

/-!
# Edits of trees

An `Editor` says what becomes of some nodes, and `CompilationUnit.editBy` carries it through a unit in
the order of `CompilationUnit.visits`. A node is rebuilt only around parts that were touched, so
whatever lies beside them keeps its text to the last blank.

* Imports, identifiers and literals are handed over as they stand.
* Calls and classes are handed over behind the edit of the nodes inside them.
* An editor that keeps kinds fails where an expression or a statement would become one of another kind,
  and the node stays as it was.
-/

namespace Retouch

/-- What becomes of the nodes of a unit; `none` leaves a node as it is. -/
structure Editor where
  keepsKinds : Bool := false
  /-- Runs in front of the walk. -/
  onUnit : CompilationUnit → Edit Unit := fun _ => pure ()
  onImport : Import → Edit (Option Import) := fun _ => pure none
  /-- Takes the path down to the identifier, the innermost node first. -/
  onIdentifier : List Node → Identifier → Edit (Option Expression) := fun _ _ => pure none
  onLiteral : Literal → Edit (Option Expression) := fun _ => pure none
  onCall : MethodInvocation → Edit (Option Expression) := fun _ => pure none
  onClass : ClassDeclaration → Edit (Option ClassDeclaration) := fun _ => pure none

namespace Edit

/-- Enters a node, unless the edit has stopped. -/
def enter {α : Type} (n : Node) (a : α) (p : List Node) (inside : List Node → Edit (Edited α)) :
    Edit (Edited α) := do
  if ← halted then return .same a
  inside (n :: p)

/-- Refuses a node of another kind where kinds are to be kept. -/
def keepKind {α : Type} (editor : Editor) (kind : α → String) (a : α) (out : Edited α) :
    Edit (Edited α) := do
  if editor.keepsKinds && kind out.value != kind a then
    fail (.changedKind (← read).recipe (kind a) (kind out.value))
    return .same a
  return out

def enterExpression (editor : Editor) (e : Expression) (p : List Node)
    (inside : List Node → Edit (Edited Expression)) : Edit (Edited Expression) :=
  enter (.expression e) e p fun p => do keepKind editor Expression.kind e (← inside p)

def enterStatement (editor : Editor) (s : Statement) (p : List Node)
    (inside : List Node → Edit (Edited Statement)) : Edit (Edited Statement) :=
  enter (.statement s) s p fun p => do keepKind editor Statement.kind s (← inside p)

/-- A call behind the edit of its parts, handed over to the editor. -/
def finishCall (editor : Editor) (id : NodeId) (out : Edited MethodInvocation) :
    Edit (Edited Expression) := do
  return (out.map Expression.methodInvocation).replacedBy id (← editor.onCall out.value)

/-- A class behind the edit of its parts, handed over to the editor. -/
def finishClass (editor : Editor) (id : NodeId) (out : Edited ClassDeclaration) :
    Edit (Edited ClassDeclaration) := do
  return out.replacedBy id (← editor.onClass out.value)

end Edit

open Edit (enter enterExpression enterStatement finishCall finishClass)

mutual

/-- Edits inside an expression, given the path down to it. -/
def Expression.editInside (r : Editor) : Expression → List Node → Edit (Edited Expression)
  | .identifier n, p => do
    return (Edited.same (.identifier n)).replacedBy n.id (← r.onIdentifier p n)
  | .literal n, _ => do
    return (Edited.same (.literal n)).replacedBy n.id (← r.onLiteral n)
  | .fieldAccess n, p => return (← n.editInside r p).map .fieldAccess
  | .methodInvocation ⟨id, leading, select, name, arguments, method⟩, p => do
    let select ← editSelect r select p
    let arguments ← editExprs r arguments p
    finishCall r id (.rebuilt id (select.touched ++ arguments.touched)
      ⟨id, leading, select.value, name, arguments.value, method⟩)
  | .newClass id leading clazz arguments body type, p => do
    let clazz ← enter (.type clazz) clazz p (clazz.editInside r)
    let arguments ← editExprs r arguments p
    let body ← editBlock? r body p
    return .rebuilt id (clazz.touched ++ arguments.touched ++ body.touched)
      (.newClass id leading clazz.value arguments.value body.value type)
  | .newArray id leading elementType dimensions initializer type, p => do
    let elementType ← editType? r elementType p
    let dimensions ← editDimensions r dimensions p
    let initializer ← editExprs? r initializer p
    return .rebuilt id (elementType.touched ++ dimensions.touched ++ initializer.touched)
      (.newArray id leading elementType.value dimensions.value initializer.value type)
  | .lambda id leading parenthesized parameters arrow body type, p => do
    let parameters ← editParameters r parameters p
    let body ← body.editInside r p
    return .rebuilt id (parameters.touched ++ body.touched)
      (.lambda id leading parenthesized parameters.value arrow body.value type)
  | .memberReference id leading containing colons name type, p => do
    let containing ← enterExpression r containing p (containing.editInside r)
    return .rebuilt id containing.touched
      (.memberReference id leading containing.value colons name type)
  | .binary id leading left before op right type, p => do
    let left ← enterExpression r left p (left.editInside r)
    let right ← enterExpression r right p (right.editInside r)
    return .rebuilt id (left.touched ++ right.touched)
      (.binary id leading left.value before op right.value type)
  | .unary id leading before op operand type, p => do
    let operand ← enterExpression r operand p (operand.editInside r)
    return .rebuilt id operand.touched (.unary id leading before op operand.value type)
  | .assignment id leading target before op value type, p => do
    let target ← enterExpression r target p (target.editInside r)
    let value ← enterExpression r value p (value.editInside r)
    return .rebuilt id (target.touched ++ value.touched)
      (.assignment id leading target.value before op value.value type)
  | .ternary id leading condition ⟨question, whenTrue⟩ ⟨colon, whenFalse⟩ type, p => do
    let condition ← enterExpression r condition p (condition.editInside r)
    let whenTrue ← enterExpression r whenTrue p (whenTrue.editInside r)
    let whenFalse ← enterExpression r whenFalse p (whenFalse.editInside r)
    return .rebuilt id (condition.touched ++ whenTrue.touched ++ whenFalse.touched)
      (.ternary id leading condition.value ⟨question, whenTrue.value⟩ ⟨colon, whenFalse.value⟩ type)
  | .parentheses id leading ⟨tree, after⟩, p => do
    let tree ← enterExpression r tree p (tree.editInside r)
    return .rebuilt id tree.touched (.parentheses id leading ⟨tree.value, after⟩)
  | .arrayAccess id leading indexed dimension type, p => do
    let indexed ← enterExpression r indexed p (indexed.editInside r)
    let dimension ← dimension.editInside r p
    return .rebuilt id (indexed.touched ++ dimension.touched)
      (.arrayAccess id leading indexed.value dimension.value type)
  | .typeCast id leading ⟨clazz, after⟩ operand type, p => do
    let clazz ← enter (.type clazz) clazz p (clazz.editInside r)
    let operand ← enterExpression r operand p (operand.editInside r)
    return .rebuilt id (clazz.touched ++ operand.touched)
      (.typeCast id leading ⟨clazz.value, after⟩ operand.value type)

def FieldAccess.editInside (r : Editor) : FieldAccess → List Node → Edit (Edited FieldAccess)
  | ⟨id, leading, target, dot, name, type⟩, p => do
    let target ← enterExpression r target p (target.editInside r)
    return .rebuilt id target.touched ⟨id, leading, target.value, dot, name, type⟩

def editSelect (r : Editor) :
    Option (Padded Expression) → List Node → Edit (Edited (Option (Padded Expression)))
  | none, _ => return .same none
  | some ⟨e, after⟩, p => do
    return (← enterExpression r e p (e.editInside r)).map (some ⟨·, after⟩)

def editExprList (r : Editor) :
    List (Padded Expression) → List Node → Edit (Edited (List (Padded Expression)))
  | [], _ => return .same []
  | ⟨e, after⟩ :: es, p => do
    let e ← enterExpression r e p (e.editInside r)
    let es ← editExprList r es p
    return ⟨⟨e.value, after⟩ :: es.value, e.touched ++ es.touched⟩

def editExprs (r : Editor) :
    Container Expression → List Node → Edit (Edited (Container Expression))
  | ⟨before, elements, close⟩, p => return (← editExprList r elements p).map (⟨before, ·, close⟩)

def editExprs? (r : Editor) :
    Option (Container Expression) → List Node → Edit (Edited (Option (Container Expression)))
  | none, _ => return .same none
  | some c, p => return (← editExprs r c p).map some

def editExpr? (r : Editor) : Option Expression → List Node → Edit (Edited (Option Expression))
  | none, _ => return .same none
  | some e, p => return (← enterExpression r e p (e.editInside r)).map some

def ArrayDimension.editInside (r : Editor) :
    ArrayDimension → List Node → Edit (Edited ArrayDimension)
  | ⟨opening, index, closing⟩, p => return (← editExpr? r index p).map (⟨opening, ·, closing⟩)

def editDimensions (r : Editor) :
    List ArrayDimension → List Node → Edit (Edited (List ArrayDimension))
  | [], _ => return .same []
  | d :: ds, p => do
    let d ← d.editInside r p
    let ds ← editDimensions r ds p
    return ⟨d.value :: ds.value, d.touched ++ ds.touched⟩

def LambdaBody.editInside (r : Editor) : LambdaBody → List Node → Edit (Edited LambdaBody)
  | .expression e, p => return (← enterExpression r e p (e.editInside r)).map .expression
  | .block b, p => return (← enter (.block b) b p (b.editInside r)).map .block

def editType? (r : Editor) : Option TypeTree → List Node → Edit (Edited (Option TypeTree))
  | none, _ => return .same none
  | some t, p => return (← enter (.type t) t p (t.editInside r)).map some

def TypeTree.editInside (r : Editor) : TypeTree → List Node → Edit (Edited TypeTree)
  | .named e, p => return (← enterExpression r e p (e.editInside r)).map .named
  | .primitive id leading kind, _ => return .same (.primitive id leading kind)
  | .parameterized id leading clazz arguments type, p => do
    let clazz ← enterExpression r clazz p (clazz.editInside r)
    let arguments ← editTypes r arguments p
    return .rebuilt id (clazz.touched ++ arguments.touched)
      (.parameterized id leading clazz.value arguments.value type)
  | .array id leading element opening closing type, p => do
    let element ← enter (.type element) element p (element.editInside r)
    return .rebuilt id element.touched (.array id leading element.value opening closing type)
  | .wildcard id leading bound bounded, p => do
    let bounded ← editType? r bounded p
    return .rebuilt id bounded.touched (.wildcard id leading bound bounded.value)

def editTypeList (r : Editor) :
    List (Padded TypeTree) → List Node → Edit (Edited (List (Padded TypeTree)))
  | [], _ => return .same []
  | ⟨t, after⟩ :: ts, p => do
    let t ← enter (.type t) t p (t.editInside r)
    let ts ← editTypeList r ts p
    return ⟨⟨t.value, after⟩ :: ts.value, t.touched ++ ts.touched⟩

def editTypes (r : Editor) : Container TypeTree → List Node → Edit (Edited (Container TypeTree))
  | ⟨before, elements, close⟩, p => return (← editTypeList r elements p).map (⟨before, ·, close⟩)

def editTypes? (r : Editor) :
    Option (Container TypeTree) → List Node → Edit (Edited (Option (Container TypeTree)))
  | none, _ => return .same none
  | some c, p => return (← editTypes r c p).map some

def editParameterList (r : Editor) : List (Padded VariableDeclarations) → List Node →
    Edit (Edited (List (Padded VariableDeclarations)))
  | [], _ => return .same []
  | ⟨v, after⟩ :: vs, p => do
    let v ← enter (.declaration v) v p (v.editInside r)
    let vs ← editParameterList r vs p
    return ⟨⟨v.value, after⟩ :: vs.value, v.touched ++ vs.touched⟩

def editParameters (r : Editor) :
    Container VariableDeclarations → List Node → Edit (Edited (Container VariableDeclarations))
  | ⟨before, elements, close⟩, p =>
    return (← editParameterList r elements p).map (⟨before, ·, close⟩)

def VariableDeclarations.editInside (r : Editor) :
    VariableDeclarations → List Node → Edit (Edited VariableDeclarations)
  | ⟨id, leading, annotations, modifiers, declaredType, varargs, declarators⟩, p => do
    let annotations ← editAnnotations r annotations p
    let declaredType ← editType? r declaredType p
    let declarators ← editVariables r declarators p
    return .rebuilt id (annotations.touched ++ declaredType.touched ++ declarators.touched)
      ⟨id, leading, annotations.value, modifiers, declaredType.value, varargs, declarators.value⟩

def NamedVariable.editInside (r : Editor) :
    NamedVariable → List Node → Edit (Edited NamedVariable)
  | ⟨id, leading, name, initializer, type⟩, p => do
    let initializer ← editInit r initializer p
    return .rebuilt id initializer.touched ⟨id, leading, name, initializer.value, type⟩

def editInit (r : Editor) :
    Option (LeftPadded Expression) → List Node → Edit (Edited (Option (LeftPadded Expression)))
  | none, _ => return .same none
  | some ⟨before, e⟩, p => do
    return (← enterExpression r e p (e.editInside r)).map (some ⟨before, ·⟩)

def editVariables (r : Editor) :
    List (Padded NamedVariable) → List Node → Edit (Edited (List (Padded NamedVariable)))
  | [], _ => return .same []
  | ⟨v, after⟩ :: vs, p => do
    let v ← v.editInside r p
    let vs ← editVariables r vs p
    return ⟨⟨v.value, after⟩ :: vs.value, v.touched ++ vs.touched⟩

def Annotation.editInside (r : Editor) : Annotation → List Node → Edit (Edited Annotation)
  | ⟨id, leading, name, arguments⟩, p => do
    let name ← enterExpression r name p (name.editInside r)
    let arguments ← editExprs? r arguments p
    return .rebuilt id (name.touched ++ arguments.touched)
      ⟨id, leading, name.value, arguments.value⟩

def editAnnotations (r : Editor) : List Annotation → List Node → Edit (Edited (List Annotation))
  | [], _ => return .same []
  | a :: as, p => do
    let a ← enter (.annotationUse a) a p (a.editInside r)
    let as ← editAnnotations r as p
    return ⟨a.value :: as.value, a.touched ++ as.touched⟩

def Block.editInside (r : Editor) : Block → List Node → Edit (Edited Block)
  | ⟨id, leading, statements, close⟩, p => do
    let statements ← editStatements r statements p
    return .rebuilt id statements.touched ⟨id, leading, statements.value, close⟩

def editBlock? (r : Editor) : Option Block → List Node → Edit (Edited (Option Block))
  | none, _ => return .same none
  | some b, p => return (← enter (.block b) b p (b.editInside r)).map some

def editStatements (r : Editor) :
    List (Padded Statement) → List Node → Edit (Edited (List (Padded Statement)))
  | [], _ => return .same []
  | ⟨s, after⟩ :: ss, p => do
    let s ← enterStatement r s p (s.editInside r)
    let ss ← editStatements r ss p
    return ⟨⟨s.value, after⟩ :: ss.value, s.touched ++ ss.touched⟩

def editResources? (r : Editor) :
    Option TryResources → List Node → Edit (Edited (Option TryResources))
  | none, _ => return .same none
  | some ⟨opening, resources, terminated, closing⟩, p => do
    return (← editStatements r resources p).map (some ⟨opening, ·, terminated, closing⟩)

def ClassDeclaration.editInside (r : Editor) :
    ClassDeclaration → List Node → Edit (Edited ClassDeclaration)
  | ⟨id, leading, annotations, modifiers, keywordLeading, keyword, name, superclass, interfaces,
      body, type⟩, p => do
    let annotations ← editAnnotations r annotations p
    let superclass ← editSuper r superclass p
    let interfaces ← editTypes? r interfaces p
    let body ← enter (.block body) body p (body.editInside r)
    finishClass r id (.rebuilt id
      (annotations.touched ++ superclass.touched ++ interfaces.touched ++ body.touched)
      ⟨id, leading, annotations.value, modifiers, keywordLeading, keyword, name, superclass.value,
        interfaces.value, body.value, type⟩)

def editSuper (r : Editor) :
    Option (LeftPadded TypeTree) → List Node → Edit (Edited (Option (LeftPadded TypeTree)))
  | none, _ => return .same none
  | some ⟨before, t⟩, p => do
    return (← enter (.type t) t p (t.editInside r)).map (some ⟨before, ·⟩)

def MethodDeclaration.editInside (r : Editor) :
    MethodDeclaration → List Node → Edit (Edited MethodDeclaration)
  | ⟨id, leading, annotations, modifiers, returnType, name, parameters, throwing, body, method⟩,
      p => do
    let annotations ← editAnnotations r annotations p
    let returnType ← editType? r returnType p
    let parameters ← editParameters r parameters p
    let throwing ← editTypes? r throwing p
    let body ← editBlock? r body p
    return .rebuilt id
      (annotations.touched ++ returnType.touched ++ parameters.touched ++ throwing.touched ++
        body.touched)
      ⟨id, leading, annotations.value, modifiers, returnType.value, name, parameters.value,
        throwing.value, body.value, method⟩

def Parenthesized.editInside (r : Editor) :
    Parenthesized → List Node → Edit (Edited Parenthesized)
  | ⟨opening, tree, closing⟩, p => do
    return (← enterExpression r tree p (tree.editInside r)).map (⟨opening, ·, closing⟩)

def editCases (r : Editor) : List Case → List Node → Edit (Edited (List Case))
  | [], _ => return .same []
  | ⟨id, leading, labels, separator, body⟩ :: cs, p => do
    let labels ← editExprList r labels p
    let body ← body.editInside r p
    let cs ← editCases r cs p
    return ⟨⟨id, leading, labels.value, separator, body.value⟩ :: cs.value,
      labels.touched ++ body.touched ++ cs.touched⟩

def CaseBody.editInside (r : Editor) : CaseBody → List Node → Edit (Edited CaseBody)
  | .statements list, p => return (← editStatements r list p).map .statements
  | .rule ⟨s, after⟩, p => do
    return (← enterStatement r s p (s.editInside r)).map (.rule ⟨·, after⟩)

def editCatches (r : Editor) : List Catch → List Node → Edit (Edited (List Catch))
  | [], _ => return .same []
  | ⟨id, leading, opening, ⟨parameter, after⟩, body⟩ :: cs, p => do
    let parameter ← enter (.declaration parameter) parameter p (parameter.editInside r)
    let body ← enter (.block body) body p (body.editInside r)
    let cs ← editCatches r cs p
    return ⟨⟨id, leading, opening, ⟨parameter.value, after⟩, body.value⟩ :: cs.value,
      parameter.touched ++ body.touched ++ cs.touched⟩

def editElse (r : Editor) : Option Else → List Node → Edit (Edited (Option Else))
  | none, _ => return .same none
  | some ⟨id, leading, ⟨s, after⟩⟩, p => do
    return (← enterStatement r s p (s.editInside r)).map (some ⟨id, leading, ⟨·, after⟩⟩)

def editFinally (r : Editor) :
    Option (LeftPadded Block) → List Node → Edit (Edited (Option (LeftPadded Block)))
  | none, _ => return .same none
  | some ⟨before, b⟩, p => do
    return (← enter (.block b) b p (b.editInside r)).map (some ⟨before, ·⟩)

def editStatement? (r : Editor) : Option Statement → List Node → Edit (Edited (Option Statement))
  | none, _ => return .same none
  | some s, p => return (← enterStatement r s p (s.editInside r)).map some

/-- Edits inside a statement, given the path down to it. -/
def Statement.editInside (r : Editor) : Statement → List Node → Edit (Edited Statement)
  | .expression e, p => return (← enterExpression r e p (e.editInside r)).map .expression
  | .declaration n, p => return (← n.editInside r p).map .declaration
  | .block n, p => return (← n.editInside r p).map .block
  | .classDeclaration n, p => return (← n.editInside r p).map .classDeclaration
  | .method n, p => return (← n.editInside r p).map .method
  | .returns id leading value, p => do
    let value ← editExpr? r value p
    return .rebuilt id value.touched (.returns id leading value.value)
  | .throws id leading exception, p => do
    let exception ← enterExpression r exception p (exception.editInside r)
    return .rebuilt id exception.touched (.throws id leading exception.value)
  | .empty id leading, _ => return .same (.empty id leading)
  | .breaks id leading label, _ => return .same (.breaks id leading label)
  | .continues id leading label, _ => return .same (.continues id leading label)
  | .conditional id leading condition ⟨whenTrue, after⟩ whenFalse, p => do
    let condition ← condition.editInside r p
    let whenTrue ← enterStatement r whenTrue p (whenTrue.editInside r)
    let whenFalse ← editElse r whenFalse p
    return .rebuilt id (condition.touched ++ whenTrue.touched ++ whenFalse.touched)
      (.conditional id leading condition.value ⟨whenTrue.value, after⟩ whenFalse.value)
  | .whileLoop id leading condition ⟨body, after⟩, p => do
    let condition ← condition.editInside r p
    let body ← enterStatement r body p (body.editInside r)
    return .rebuilt id (condition.touched ++ body.touched)
      (.whileLoop id leading condition.value ⟨body.value, after⟩)
  | .forLoop id leading opening init afterInit condition afterCondition update closing
      ⟨body, after⟩, p => do
    let init ← editStatement? r init p
    let condition ← editExpr? r condition p
    let update ← editExprList r update p
    let body ← enterStatement r body p (body.editInside r)
    return .rebuilt id (init.touched ++ condition.touched ++ update.touched ++ body.touched)
      (.forLoop id leading opening init.value afterInit condition.value afterCondition
        update.value closing ⟨body.value, after⟩)
  | .forEach id leading opening ⟨binder, afterBinder⟩ ⟨iterable, afterIterable⟩ ⟨body, after⟩,
      p => do
    let binder ← enter (.declaration binder) binder p (binder.editInside r)
    let iterable ← enterExpression r iterable p (iterable.editInside r)
    let body ← enterStatement r body p (body.editInside r)
    return .rebuilt id (binder.touched ++ iterable.touched ++ body.touched)
      (.forEach id leading opening ⟨binder.value, afterBinder⟩ ⟨iterable.value, afterIterable⟩
        ⟨body.value, after⟩)
  | .tryBlock id leading resources body catches finalizer, p => do
    let resources ← editResources? r resources p
    let body ← enter (.block body) body p (body.editInside r)
    let catches ← editCatches r catches p
    let finalizer ← editFinally r finalizer p
    return .rebuilt id (resources.touched ++ body.touched ++ catches.touched ++ finalizer.touched)
      (.tryBlock id leading resources.value body.value catches.value finalizer.value)
  | .doWhile id leading ⟨body, after⟩ whileLeading condition, p => do
    let body ← enterStatement r body p (body.editInside r)
    let condition ← condition.editInside r p
    return .rebuilt id (body.touched ++ condition.touched)
      (.doWhile id leading ⟨body.value, after⟩ whileLeading condition.value)
  | .switch id leading selector opening cases closing, p => do
    let selector ← selector.editInside r p
    let cases ← editCases r cases p
    return .rebuilt id (selector.touched ++ cases.touched)
      (.switch id leading selector.value opening cases.value closing)

end

def editImports (r : Editor) (p : List Node) :
    List (Padded Import) → Edit (Edited (List (Padded Import)))
  | [] => return .same []
  | ⟨i, after⟩ :: is => do
    let i ← enter (.importDeclaration i) i p fun _ => do
      return (Edited.same i).replacedBy i.id (← r.onImport i)
    let is ← editImports r p is
    return ⟨⟨i.value, after⟩ :: is.value, i.touched ++ is.touched⟩

def editClasses (r : Editor) (p : List Node) :
    List ClassDeclaration → Edit (Edited (List ClassDeclaration))
  | [] => return .same []
  | c :: cs => do
    let c ← enter (.classDeclaration c) c p (c.editInside r)
    let cs ← editClasses r p cs
    return ⟨c.value :: cs.value, c.touched ++ cs.touched⟩

def Expression.editBy (r : Editor) (e : Expression) : Edit (Edited Expression) :=
  enterExpression r e [] (e.editInside r)

def Statement.editBy (r : Editor) (s : Statement) : Edit (Edited Statement) :=
  enterStatement r s [] (s.editInside r)

def Annotation.editBy (r : Editor) (a : Annotation) : Edit (Edited Annotation) :=
  enter (.annotationUse a) a [] (a.editInside r)

/-- Carries an editor through a unit. -/
def CompilationUnit.editBy (r : Editor) (u : CompilationUnit) : Edit (Edited CompilationUnit) :=
  enter (.unit u) u [] fun p => do
    r.onUnit u
    let imports ← editImports r p u.imports
    let classes ← editClasses r p u.classes
    return .rebuilt u.id (imports.touched ++ classes.touched)
      { u with imports := imports.value, classes := classes.value }

end Retouch
