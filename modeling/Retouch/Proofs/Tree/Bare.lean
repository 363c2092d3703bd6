import Retouch.Tree.Node

/-!
# Bare trees

`bare` takes the ids and the trivia out of a tree and leaves everything else: names, operators,
literals, types, symbols and signatures. Two trees that are equal when bare differ in nothing that
the language knows of. Where the presence of trivia says something (`...` behind a type, `static`
behind `import`), the presence stays.
-/

namespace Retouch

section Parts

variable {α β : Type} (f : α → β)

/-- The element, bare, and no trivia behind it. -/
def Padded.bare (p : Padded α) : Padded β := ⟨f p.element, .empty⟩

/-- The element, bare, and no trivia in front of it. -/
def LeftPadded.bare (p : LeftPadded α) : LeftPadded β := ⟨.empty, f p.element⟩

/-- The elements, bare, and no trivia around them. -/
def Container.bare (c : Container α) : Container β :=
  ⟨.empty, c.elements.map (Padded.bare f), .empty⟩

end Parts

/-- Trivia that is there. -/
def Space.bare (_ : Space) : Space := .empty

def Identifier.bare (n : Identifier) : Identifier := { n with id := 0, leading := .empty }

/-- The text stays, and so does the value. -/
def Literal.bare (n : Literal) : Literal := { n with id := 0, leading := .empty }

/-- The keyword stays. -/
def Modifier.bare (m : Modifier) : Modifier := { m with id := 0, leading := .empty }

mutual

/-- All ids and trivia are gone; the types and symbols of attribution stay. -/
def Expression.bare : Expression → Expression
  | .identifier n => .identifier n.bare
  | .literal n => .literal n.bare
  | .fieldAccess n => .fieldAccess n.bare
  | .methodInvocation n => .methodInvocation n.bare
  | .newClass _ _ clazz arguments body type =>
    .newClass 0 .empty clazz.bare (bareExprs arguments) (bareBlock? body) type
  | .newArray _ _ elementType dimensions initializer type =>
    .newArray 0 .empty (bareType? elementType) (bareDimensions dimensions)
      (bareExprs? initializer) type
  | .lambda _ _ parenthesized parameters _ body type =>
    .lambda 0 .empty parenthesized (bareParameters parameters) .empty body.bare type
  | .memberReference _ _ containing _ name type =>
    .memberReference 0 .empty containing.bare .empty name.bare type
  | .binary _ _ left _ op right type => .binary 0 .empty left.bare .empty op right.bare type
  | .unary _ _ _ op operand type => .unary 0 .empty .empty op operand.bare type
  | .assignment _ _ target _ op value type =>
    .assignment 0 .empty target.bare .empty op value.bare type
  | .ternary _ _ condition ⟨_, whenTrue⟩ ⟨_, whenFalse⟩ type =>
    .ternary 0 .empty condition.bare ⟨.empty, whenTrue.bare⟩ ⟨.empty, whenFalse.bare⟩ type
  | .parentheses _ _ ⟨tree, _⟩ => .parentheses 0 .empty ⟨tree.bare, .empty⟩
  | .arrayAccess _ _ indexed dimension type =>
    .arrayAccess 0 .empty indexed.bare dimension.bare type
  | .typeCast _ _ ⟨clazz, _⟩ operand type =>
    .typeCast 0 .empty ⟨clazz.bare, .empty⟩ operand.bare type

def FieldAccess.bare : FieldAccess → FieldAccess
  | ⟨_, _, target, _, name, type⟩ => ⟨0, .empty, target.bare, .empty, name.bare, type⟩

def MethodInvocation.bare : MethodInvocation → MethodInvocation
  | ⟨_, _, select, name, arguments, method⟩ =>
    ⟨0, .empty, bareSelect select, name.bare, bareExprs arguments, method⟩

def bareSelect : Option (Padded Expression) → Option (Padded Expression)
  | none => none
  | some ⟨e, _⟩ => some ⟨e.bare, .empty⟩

def bareExprList : List (Padded Expression) → List (Padded Expression)
  | [] => []
  | ⟨e, _⟩ :: es => ⟨e.bare, .empty⟩ :: bareExprList es

def bareExprs : Container Expression → Container Expression
  | ⟨_, elements, _⟩ => ⟨.empty, bareExprList elements, .empty⟩

def bareExprs? : Option (Container Expression) → Option (Container Expression)
  | none => none
  | some c => some (bareExprs c)

def bareExpr? : Option Expression → Option Expression
  | none => none
  | some e => some e.bare

def ArrayDimension.bare : ArrayDimension → ArrayDimension
  | ⟨_, index, _⟩ => ⟨.empty, bareExpr? index, .empty⟩

def bareDimensions : List ArrayDimension → List ArrayDimension
  | [] => []
  | d :: ds => d.bare :: bareDimensions ds

def LambdaBody.bare : LambdaBody → LambdaBody
  | .expression e => .expression e.bare
  | .block b => .block b.bare

/-- A written type, with the type that it means. -/
def TypeTree.bare : TypeTree → TypeTree
  | .named e => .named e.bare
  | .primitive _ _ p => .primitive 0 .empty p
  | .parameterized _ _ clazz arguments type =>
    .parameterized 0 .empty clazz.bare (bareTypes arguments) type
  | .array _ _ element _ _ type => .array 0 .empty element.bare .empty .empty type
  | .wildcard _ _ bound bounded =>
    .wildcard 0 .empty (bound.map (LeftPadded.bare id)) (bareType? bounded)

def bareType? : Option TypeTree → Option TypeTree
  | none => none
  | some t => some t.bare

def bareTypeList : List (Padded TypeTree) → List (Padded TypeTree)
  | [] => []
  | ⟨t, _⟩ :: ts => ⟨t.bare, .empty⟩ :: bareTypeList ts

def bareTypes : Container TypeTree → Container TypeTree
  | ⟨_, elements, _⟩ => ⟨.empty, bareTypeList elements, .empty⟩

def bareTypes? : Option (Container TypeTree) → Option (Container TypeTree)
  | none => none
  | some c => some (bareTypes c)

def Annotation.bare : Annotation → Annotation
  | ⟨_, _, name, arguments⟩ => ⟨0, .empty, name.bare, bareExprs? arguments⟩

def bareAnnotations : List Annotation → List Annotation
  | [] => []
  | a :: as => a.bare :: bareAnnotations as

def NamedVariable.bare : NamedVariable → NamedVariable
  | ⟨_, _, name, initializer, type⟩ => ⟨0, .empty, name.bare, bareInit initializer, type⟩

def bareInit : Option (LeftPadded Expression) → Option (LeftPadded Expression)
  | none => none
  | some ⟨_, e⟩ => some ⟨.empty, e.bare⟩

def bareVariables : List (Padded NamedVariable) → List (Padded NamedVariable)
  | [] => []
  | ⟨v, _⟩ :: vs => ⟨v.bare, .empty⟩ :: bareVariables vs

def VariableDeclarations.bare : VariableDeclarations → VariableDeclarations
  | ⟨_, _, annotations, modifiers, declaredType, varargs, declarators⟩ =>
    ⟨0, .empty, bareAnnotations annotations, modifiers.map Modifier.bare, bareType? declaredType,
      varargs.map Space.bare, bareVariables declarators⟩

def bareParameterList : List (Padded VariableDeclarations) → List (Padded VariableDeclarations)
  | [] => []
  | ⟨v, _⟩ :: vs => ⟨v.bare, .empty⟩ :: bareParameterList vs

def bareParameters : Container VariableDeclarations → Container VariableDeclarations
  | ⟨_, elements, _⟩ => ⟨.empty, bareParameterList elements, .empty⟩

def Block.bare : Block → Block
  | ⟨_, _, statements, _⟩ => ⟨0, .empty, bareStatements statements, .empty⟩

def bareBlock? : Option Block → Option Block
  | none => none
  | some b => some b.bare

def bareStatements : List (Padded Statement) → List (Padded Statement)
  | [] => []
  | ⟨s, _⟩ :: ss => ⟨s.bare, .empty⟩ :: bareStatements ss

def ClassDeclaration.bare : ClassDeclaration → ClassDeclaration
  | ⟨_, _, annotations, modifiers, _, keyword, name, superclass, interfaces, body, type⟩ =>
    ⟨0, .empty, bareAnnotations annotations, modifiers.map Modifier.bare, .empty, keyword,
      name.bare,
      bareSuper superclass, bareTypes? interfaces, body.bare, type⟩

def bareSuper : Option (LeftPadded TypeTree) → Option (LeftPadded TypeTree)
  | none => none
  | some ⟨_, t⟩ => some ⟨.empty, t.bare⟩

def MethodDeclaration.bare : MethodDeclaration → MethodDeclaration
  | ⟨_, _, annotations, modifiers, returnType, name, parameters, throwing, body, method⟩ =>
    ⟨0, .empty, bareAnnotations annotations, modifiers.map Modifier.bare, bareType? returnType,
      name.bare, bareParameters parameters, bareTypes? throwing, bareBlock? body, method⟩

def Parenthesized.bare : Parenthesized → Parenthesized
  | ⟨_, tree, _⟩ => ⟨.empty, tree.bare, .empty⟩

def Else.bare : Else → Else
  | ⟨_, _, ⟨s, _⟩⟩ => ⟨0, .empty, ⟨s.bare, .empty⟩⟩

def bareElse : Option Else → Option Else
  | none => none
  | some e => some e.bare

def Case.bare : Case → Case
  | ⟨_, _, labels, _, body⟩ => ⟨0, .empty, bareExprList labels, .empty, body.bare⟩

def bareCases : List Case → List Case
  | [] => []
  | c :: cs => c.bare :: bareCases cs

def CaseBody.bare : CaseBody → CaseBody
  | .statements list => .statements (bareStatements list)
  | .rule ⟨s, _⟩ => .rule ⟨s.bare, .empty⟩

def Catch.bare : Catch → Catch
  | ⟨_, _, _, ⟨parameter, _⟩, body⟩ =>
    ⟨0, .empty, .empty, ⟨parameter.bare, .empty⟩, body.bare⟩

def bareCatches : List Catch → List Catch
  | [] => []
  | c :: cs => c.bare :: bareCatches cs

def TryResources.bare : TryResources → TryResources
  | ⟨_, resources, terminated, _⟩ => ⟨.empty, bareStatements resources, terminated, .empty⟩

def bareResources? : Option TryResources → Option TryResources
  | none => none
  | some r => some r.bare

def bareFinally : Option (LeftPadded Block) → Option (LeftPadded Block)
  | none => none
  | some ⟨_, b⟩ => some ⟨.empty, b.bare⟩

def bareStatement? : Option Statement → Option Statement
  | none => none
  | some s => some s.bare

/-- A statement with everything in it. -/
def Statement.bare : Statement → Statement
  | .expression e => .expression e.bare
  | .declaration n => .declaration n.bare
  | .block n => .block n.bare
  | .classDeclaration n => .classDeclaration n.bare
  | .method n => .method n.bare
  | .returns _ _ value => .returns 0 .empty (bareExpr? value)
  | .conditional _ _ condition ⟨whenTrue, _⟩ whenFalse =>
    .conditional 0 .empty condition.bare ⟨whenTrue.bare, .empty⟩ (bareElse whenFalse)
  | .whileLoop _ _ condition ⟨body, _⟩ =>
    .whileLoop 0 .empty condition.bare ⟨body.bare, .empty⟩
  | .forLoop _ _ _ init _ condition _ update _ ⟨body, _⟩ =>
    .forLoop 0 .empty .empty (bareStatement? init) .empty (bareExpr? condition) .empty
      (bareExprList update) .empty ⟨body.bare, .empty⟩
  | .forEach _ _ _ ⟨binder, _⟩ ⟨iterable, _⟩ ⟨body, _⟩ =>
    .forEach 0 .empty .empty ⟨binder.bare, .empty⟩ ⟨iterable.bare, .empty⟩ ⟨body.bare, .empty⟩
  | .tryBlock _ _ resources body catches finalizer =>
    .tryBlock 0 .empty (bareResources? resources) body.bare (bareCatches catches)
      (bareFinally finalizer)
  | .throws _ _ exception => .throws 0 .empty exception.bare
  | .empty _ _ => .empty 0 .empty
  | .doWhile _ _ ⟨body, _⟩ _ condition =>
    .doWhile 0 .empty ⟨body.bare, .empty⟩ .empty condition.bare
  | .switch _ _ selector _ cases _ =>
    .switch 0 .empty selector.bare .empty (bareCases cases) .empty
  | .breaks _ _ label => .breaks 0 .empty (label.map Identifier.bare)
  | .continues _ _ label => .continues 0 .empty (label.map Identifier.bare)

end

def Package.bare (p : Package) : Package := ⟨0, .empty, p.name.bare⟩

def Import.bare (i : Import) : Import := ⟨0, .empty, i.staticLeading.map Space.bare, i.name.bare⟩

/-- The path and everything that is not an id or trivia. -/
def CompilationUnit.bare (u : CompilationUnit) : CompilationUnit where
  id := 0
  path := u.path
  package := u.package.map (Padded.bare Package.bare)
  imports := u.imports.map (Padded.bare Import.bare)
  classes := u.classes.map ClassDeclaration.bare
  eof := .empty

/-! ## Lists and options -/

section Lists

@[simp]
theorem bareSelect_eq (e : Option (Padded Expression)) :
    bareSelect e = e.map (Padded.bare Expression.bare) := by
  cases e <;> rfl

@[simp]
theorem bareExprList_eq (es : List (Padded Expression)) :
    bareExprList es = es.map (Padded.bare Expression.bare) := by
  induction es with
  | nil => rfl
  | cons e es ih => exact congrArg (_ :: ·) ih

@[simp]
theorem bareExprs_eq (c : Container Expression) : bareExprs c = c.bare Expression.bare := by
  cases c
  simp [bareExprs, Container.bare]

@[simp]
theorem bareExprs?_eq (c : Option (Container Expression)) :
    bareExprs? c = c.map (Container.bare Expression.bare) := by
  cases c <;> simp [bareExprs?]

@[simp]
theorem bareExpr?_eq (e : Option Expression) : bareExpr? e = e.map Expression.bare := by
  cases e <;> rfl

@[simp]
theorem bareDimensions_eq (ds : List ArrayDimension) :
    bareDimensions ds = ds.map ArrayDimension.bare := by
  induction ds with
  | nil => rfl
  | cons d ds ih => exact congrArg (_ :: ·) ih

@[simp]
theorem bareType?_eq (t : Option TypeTree) : bareType? t = t.map TypeTree.bare := by
  cases t <;> rfl

@[simp]
theorem bareTypeList_eq (ts : List (Padded TypeTree)) :
    bareTypeList ts = ts.map (Padded.bare TypeTree.bare) := by
  induction ts with
  | nil => rfl
  | cons t ts ih => exact congrArg (_ :: ·) ih

@[simp]
theorem bareTypes_eq (c : Container TypeTree) : bareTypes c = c.bare TypeTree.bare := by
  cases c
  simp [bareTypes, Container.bare]

@[simp]
theorem bareTypes?_eq (c : Option (Container TypeTree)) :
    bareTypes? c = c.map (Container.bare TypeTree.bare) := by
  cases c <;> simp [bareTypes?]

@[simp]
theorem bareAnnotations_eq (as : List Annotation) :
    bareAnnotations as = as.map ( Annotation.bare) := by
  induction as with
  | nil => rfl
  | cons a as ih => exact congrArg (_ :: ·) ih

@[simp]
theorem bareInit_eq (e : Option (LeftPadded Expression)) :
    bareInit e = e.map (LeftPadded.bare Expression.bare) := by
  cases e <;> rfl

@[simp]
theorem bareVariables_eq (vs : List (Padded NamedVariable)) :
    bareVariables vs = vs.map (Padded.bare NamedVariable.bare) := by
  induction vs with
  | nil => rfl
  | cons v vs ih => exact congrArg (_ :: ·) ih

@[simp]
theorem bareParameterList_eq (vs : List (Padded VariableDeclarations)) :
    bareParameterList vs = vs.map (Padded.bare VariableDeclarations.bare) := by
  induction vs with
  | nil => rfl
  | cons v vs ih => exact congrArg (_ :: ·) ih

@[simp]
theorem bareParameters_eq (c : Container VariableDeclarations) :
    bareParameters c = c.bare VariableDeclarations.bare := by
  cases c
  simp [bareParameters, Container.bare]

@[simp]
theorem bareBlock?_eq (b : Option Block) : bareBlock? b = b.map Block.bare := by
  cases b <;> rfl

@[simp]
theorem bareStatements_eq (ss : List (Padded Statement)) :
    bareStatements ss = ss.map (Padded.bare Statement.bare) := by
  induction ss with
  | nil => rfl
  | cons s ss ih => exact congrArg (_ :: ·) ih

@[simp]
theorem bareSuper_eq (t : Option (LeftPadded TypeTree)) :
    bareSuper t = t.map (LeftPadded.bare TypeTree.bare) := by
  cases t <;> rfl

@[simp]
theorem bareElse_eq (e : Option Else) : bareElse e = e.map Else.bare := by
  cases e <;> rfl

@[simp]
theorem bareCases_eq (cs : List Case) : bareCases cs = cs.map Case.bare := by
  induction cs with
  | nil => rfl
  | cons c cs ih => exact congrArg (_ :: ·) ih

@[simp]
theorem bareCatches_eq (cs : List Catch) : bareCatches cs = cs.map Catch.bare := by
  induction cs with
  | nil => rfl
  | cons c cs ih => exact congrArg (_ :: ·) ih

@[simp]
theorem bareResources?_eq (r : Option TryResources) :
    bareResources? r = r.map TryResources.bare := by
  cases r <;> rfl

@[simp]
theorem bareFinally_eq (b : Option (LeftPadded Block)) :
    bareFinally b = b.map (LeftPadded.bare Block.bare) := by
  cases b <;> rfl

@[simp]
theorem bareStatement?_eq (s : Option Statement) : bareStatement? s = s.map Statement.bare := by
  cases s <;> rfl

end Lists

/-! ## What is asked of a tree -/

/-- Padded elements that look the same when bare have elements that do. -/
theorem Padded.element_of_bare {α β : Type} {f : α → β} {p q : Padded α} (h : p.bare f = q.bare f) :
    f p.element = f q.element := congrArg Padded.element h

@[simp]
theorem Padded.element_bare {α β : Type} (f : α → β) (p : Padded α) :
    (p.bare f).element = f p.element := rfl

@[simp]
theorem Identifier.name_bare (n : Identifier) : n.bare.name = n.name := rfl

@[simp]
theorem NamedVariable.name_bare (v : NamedVariable) : v.bare.name = v.name.bare := by
  cases v
  rfl

@[simp]
theorem ClassDeclaration.name_bare (c : ClassDeclaration) : c.bare.name = c.name.bare := by
  cases c
  rfl

@[simp]
theorem ClassDeclaration.keyword_bare (c : ClassDeclaration) : c.bare.keyword = c.keyword := by
  cases c
  rfl

@[simp]
theorem Container.toList_bare {α β : Type} (f : α → β) (c : Container α) :
    (c.bare f).toList = c.toList.map f := by
  simp [Container.bare, Container.toList, Padded.bare]

namespace Expression

/-- The trivia in front of an expression does not show. -/
@[simp]
theorem bare_withLeading (s : Space) (e : Expression) : (e.withLeading s).bare = e.bare := by
  cases e with
  | fieldAccess n => cases n; simp only [withLeading, bare, FieldAccess.bare]
  | methodInvocation n => cases n; simp only [withLeading, bare, MethodInvocation.bare]
  | _ => rfl

end Expression

@[simp]
theorem TypeTree.bare_withLeading (s : Space) (t : TypeTree) : (t.withLeading s).bare = t.bare := by
  cases t <;> simp [TypeTree.withLeading, TypeTree.bare]

end Retouch
