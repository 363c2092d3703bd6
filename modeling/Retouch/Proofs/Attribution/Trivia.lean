import Retouch.Proofs.Attribution.Bare
import Retouch.Proofs.Parser.Lossless

/-!
# Attribution does not look at trivia

To attribute a bare unit and to make an attributed one bare is the same (`attribute_bare`). What
names mean at a point of a unit holds no trees, so both traversals go through the same states:
`Mirrors f p q` says that `q` does what `p` does and gives what `f` makes of the result. The facts
follow the recursion of the traversal.
-/

namespace Retouch.Attribution

variable {α β α' β' : Type} {p : Attribute α} {p' : Attribute α'} {q : α → Attribute β}
  {q' : α' → Attribute β'} {f : α → α'} {g : β → β'}

/-- `p'` goes through the states of `p` and gives what `f` makes of its result. -/
def Mirrors (f : α → α') (p : Attribute α) (p' : Attribute α') : Prop :=
  ∀ s, p' s = (f (p s).1, (p s).2)

namespace Mirrors

theorem pure {a : α} {a' : α'} (h : a' = f a) : Mirrors f (Pure.pure a) (Pure.pure a') := by
  subst h
  exact fun _ => rfl

theorem bind (hp : Mirrors f p p') (hq : ∀ a, Mirrors g (q a) (q' (f a))) :
    Mirrors g (p >>= q) (p' >>= q') := by
  intro s
  change q' (p' s).1 (p' s).2 = _
  rw [hp s]
  exact hq (p s).1 (p s).2

theorem get {k : State → Attribute β} {k' : State → Attribute β'}
    (h : ∀ s, Mirrors g (k s) (k' s)) :
    Mirrors g (MonadState.get >>= k) (MonadState.get >>= k') :=
  fun s => h s s

theorem modify {change change' : State → State} {k : PUnit → Attribute β}
    {k' : PUnit → Attribute β'}
    (same : ∀ s, change' s = change s) (h : Mirrors g (k ⟨⟩) (k' ⟨⟩)) :
    Mirrors g (modify change >>= k) (modify change' >>= k') := by
  obtain rfl : change' = change := funext same
  exact fun s => h (change' s)

theorem withScope (h : Mirrors f p p') : Mirrors f (withScope p) (withScope p') := by
  intro s
  have inner := h { s with scopes := [] :: s.scopes }
  change (fun r : α' × State => (r.1, { r.2 with scopes := r.2.scopes.tail }))
    (p' { s with scopes := [] :: s.scopes }) = _
  rw [inner]
  rfl

theorem ite {c : Prop} [Decidable c] {r : Attribute α} {r' : Attribute α'} (h : Mirrors f p p')
    (h' : Mirrors f r r') : Mirrors f (if c then p else r) (if c then p' else r') := by
  split
  · exact h
  · exact h'

end Mirrors

/-! ## Questions about trees -/

@[simp]
theorem leftmostName?_bare (e : Expression) : leftmostName? e.bare = leftmostName? e := by
  match e with
  | .fieldAccess ⟨_, _, target, _, _, _⟩ => exact leftmostName?_bare target
  | .identifier _ | .literal _ | .methodInvocation _ | .newClass .. | .newArray .. | .lambda ..
  | .memberReference .. | .binary .. | .unary .. | .assignment .. | .ternary .. | .parentheses ..
  | .arrayAccess .. | .typeCast .. => rfl

@[simp]
theorem isFunctionalArgument_bare (e : Expression) :
    isFunctionalArgument e.bare = isFunctionalArgument e := by
  cases e with
  | ternary _ _ _ t f => rfl
  | _ => rfl

@[simp]
theorem argShape_bare (e : Expression) : argShape e.bare = argShape e := by
  simp [argShape]

/-- What the choice of a method depends on does not show ids and trivia. -/
theorem argShapes_bare (es : List (Padded Expression)) :
    (bareExprList es).map (fun p => argShape p.element) = es.map fun p => argShape p.element := by
  simp

@[simp]
theorem isVar_bare (t : Option TypeTree) : isVar (bareType? t) = isVar t := by
  match t with
  | none => rfl
  | some (.named e) => cases e <;> rfl
  | some (.primitive ..) | some (.parameterized ..) | some (.array ..) | some (.wildcard ..) => rfl

theorem length_bareDimensions (ds : List ArrayDimension) :
    (bareDimensions ds).length = ds.length := by
  simp

/-- The methods that a call may mean are found by the type of its receiver and by its name. -/
@[simp]
theorem candidatesOf_bare (env : Surroundings) (g : Names) (select : Option (Padded Expression))
    (name : String) :
    candidatesOf env g (bareSelect select) name = candidatesOf env g select name := by
  cases select with
  | none => rfl
  | some p => simp [candidatesOf]

@[simp]
theorem memberMeaning_bare (g : Names) (target : Expression) (name : String) :
    memberMeaning g target.bare name = memberMeaning g target name := by
  simp [memberMeaning]

/-- Whether a field access names a type is told by the names in it. -/
@[simp]
theorem namedType?_bare (env : Surroundings) (s : State) (target : Expression) (name : String) :
    namedType? env s target.bare name = namedType? env s target name := by
  simp [namedType?]

/-- A label of a switch over an enum that is one of its constants. -/
theorem constant?_bare (g : Names) (selector : Option ClassType) (e : Expression) :
    constant? g selector e.bare = (constant? g selector e).map Expression.bare := by
  cases e with
  | identifier n =>
    cases selector with
    | none => rfl
    | some c =>
      simp only [Expression.bare, constant?, Identifier.name_bare, Option.bind_eq_bind,
        Option.bind_some]
      cases (g.field? c n.name).filter (·.isStatic) <;> rfl
  | ternary _ _ _ t f => rfl
  | _ => rfl

/-- The class that becomes known has the members that the words of its body give. -/
@[simp]
theorem declareClass_bare (env : Surroundings) (c : ClassDeclaration) :
    declareClass env c.bare = declareClass env c := by
  have build (g : Names) (fqn : String) :
      g.build [(fqn, c.bare)] 2 [] [] fqn = g.build [(fqn, c)] 2 [] [] fqn :=
    g.build_bare [(fqn, c)] 2 [] [] fqn
  simp [declareClass, build, Names.members_bare]

/-- The variables of a loop over a value come into scope under the same names. -/
theorem declareAll_bare (v : VariableDeclarations) (type : JavaType) (s : State) :
    v.bare.declarators.foldl (fun s v => s.declare v.element.name.name type) s =
      v.declarators.foldl (fun s v => s.declare v.element.name.name type) s := by
  cases v
  simp [VariableDeclarations.bare, List.foldl_map]

theorem mirrors_identifier (env : Surroundings) (n : Identifier) :
    Mirrors Identifier.bare (identifier env n) (identifier env n.bare) :=
  .get fun _ => .pure rfl

open Names

/-! ## The traversal -/

mutual

/-- One case for each kind of expression; its parts follow in the order in which attribution takes
them. -/
theorem mirrors_expression (env : Surroundings) (expected : Option JavaType) (e : Expression) :
    Mirrors Expression.bare (expression env expected e) (expression env expected e.bare) := by
  match e with
  | .identifier n => exact (mirrors_identifier env n).bind fun _ => .pure rfl
  | .literal n => exact .get fun s => .pure rfl
  | .fieldAccess n => exact (mirrors_fieldAccess env n).bind fun _ => .pure rfl
  | .methodInvocation n => exact (mirrors_invocation env n).bind fun _ => .pure rfl
  | .newClass id leading clazz ⟨before, elements, close⟩ body _ =>
    refine .get fun s => ?_
    simp only [typeOf_bare, markType_bare]
    refine (mirrors_expressions env none elements).bind fun _ => ?_
    exact (mirrors_classBody? _ body).bind fun _ => .pure rfl
  | .newArray id leading none dimensions initializer _ =>
    refine .get fun s => (mirrors_dimensionList env dimensions).bind fun _ => ?_
    exact (mirrors_expressions? env _ initializer).bind fun _ => .pure rfl
  | .newArray id leading (some t) dimensions initializer _ =>
    refine .get fun s => ?_
    simp only [bareType?, typeOf_bare, length_bareDimensions]
    refine (mirrors_dimensionList env dimensions).bind fun _ => ?_
    exact (mirrors_expressions? env _ initializer).bind fun _ => .pure (by
      simp only [Expression.bare, ← markType?_bare]; rfl)
  | .lambda id leading parenthesized ⟨before, elements, close⟩ arrow body _ =>
    refine .withScope ((mirrors_parameters env elements).bind fun _ => ?_)
    exact (mirrors_lambdaBody env body).bind fun _ => .pure rfl
  | .memberReference id leading containing colons name _ =>
    exact (mirrors_expression env none containing).bind fun _ => .pure rfl
  | .binary id leading left before op right type =>
    refine (mirrors_expression env none left).bind fun left' => .get fun s => ?_
    extract_lets -underBinder g tail tail'
    have built (right' : Expression) : Mirrors Expression.bare (tail right') (tail' right'.bare) :=
      .pure (by simp [Expression.bare])
    refine .ite ?_ ((mirrors_expression env none right).bind built)
    simp only [classOfName?_bare, markName_bare]
    exact built _
  | .unary id leading before op operand _ =>
    exact (mirrors_expression env none operand).bind fun _ => .pure (by simp [Expression.bare])
  | .assignment id leading target before op value _ =>
    refine (mirrors_expression env none target).bind fun target' => ?_
    rw [Expression.type_bare]
    exact (mirrors_expression env _ value).bind fun _ => .pure rfl
  | .ternary id leading condition ⟨question, whenTrue⟩ ⟨colon, whenFalse⟩ _ =>
    refine (mirrors_expression env none condition).bind fun _ => ?_
    refine (mirrors_expression env expected whenTrue).bind fun _ => ?_
    refine (mirrors_expression env expected whenFalse).bind fun _ => .pure ?_
    simp [Expression.bare]
  | .parentheses id leading ⟨tree, after⟩ =>
    exact (mirrors_expression env expected tree).bind fun _ => .pure rfl
  | .arrayAccess id leading indexed ⟨opening, index, closing⟩ _ =>
    refine (mirrors_expression env none indexed).bind fun _ => ?_
    refine (mirrors_expression? env index).bind fun _ => .pure ?_
    simp [Expression.bare, ArrayDimension.bare]
  | .typeCast id leading ⟨clazz, after⟩ operand _ =>
    refine .get fun s => (mirrors_expression env none operand).bind fun _ => .pure ?_
    simp [Expression.bare, markType_bare]

theorem mirrors_expression? (env : Surroundings) (e : Option Expression) :
    Mirrors bareExpr? (expression? env e) (expression? env (bareExpr? e)) := by
  match e with
  | none => exact .pure rfl
  | some e => exact (mirrors_expression env none e).bind fun _ => .pure rfl

theorem mirrors_expressions (env : Surroundings) (expected : Option JavaType)
    (es : List (Padded Expression)) :
    Mirrors bareExprList (expressions env expected es)
      (expressions env expected (bareExprList es)) := by
  match es with
  | [] => exact .pure rfl
  | ⟨e, after⟩ :: es =>
    refine (mirrors_expression env expected e).bind fun _ => ?_
    exact (mirrors_expressions env expected es).bind fun _ => .pure rfl

theorem mirrors_expressions? (env : Surroundings) (expected : Option JavaType)
    (c : Option (Container Expression)) :
    Mirrors bareExprs? (expressions? env expected c)
      (expressions? env expected (bareExprs? c)) := by
  match c with
  | none => exact .pure rfl
  | some ⟨before, elements, close⟩ =>
    exact (mirrors_expressions env expected elements).bind fun _ => .pure rfl

theorem mirrors_dimensionList (env : Surroundings) (ds : List ArrayDimension) :
    Mirrors bareDimensions (dimensionList env ds) (dimensionList env (bareDimensions ds)) := by
  match ds with
  | [] => exact .pure rfl
  | ⟨opening, index, closing⟩ :: ds =>
    refine (mirrors_expression? env index).bind fun _ => ?_
    exact (mirrors_dimensionList env ds).bind fun _ => .pure rfl

theorem mirrors_lambdaBody (env : Surroundings) (body : LambdaBody) :
    Mirrors LambdaBody.bare (lambdaBody env body) (lambdaBody env body.bare) := by
  match body with
  | .expression e => exact (mirrors_expression env none e).bind fun _ => .pure rfl
  | .block b => exact (mirrors_block _ b).bind fun _ => .pure rfl

theorem mirrors_fieldAccess (env : Surroundings) (n : FieldAccess) :
    Mirrors FieldAccess.bare (fieldAccess env n) (fieldAccess env n.bare) := by
  match n with
  | ⟨id, leading, target, dot, name, type⟩ =>
    refine .get fun s => ?_
    simp only [namedType?_bare, Identifier.name_bare]
    cases namedType? env s target name.name with
    | some c => exact .pure (s.names.markQualified_bare c ⟨id, leading, target, dot, name, type⟩)
    | none =>
      refine (mirrors_expression env none target).bind fun target' => .get fun s => .pure ?_
      simp [FieldAccess.bare, Identifier.bare]

/-- The receiver, the values among the arguments, the choice of the method, and then the lambdas and
references, for which the method says what they are. -/
theorem mirrors_invocation (env : Surroundings) (n : MethodInvocation) :
    Mirrors MethodInvocation.bare (invocation env n) (invocation env n.bare) := by
  match n with
  | ⟨id, leading, select, name, ⟨before, elements, close⟩, _⟩ =>
    refine (mirrors_receiver env select).bind fun select' => .get fun s => ?_
    simp only [candidatesOf_bare]
    refine (mirrors_valueArguments env elements).bind fun values => ?_
    rw [argShapes_bare]
    exact (mirrors_functionalArguments env _ 0 elements values).bind fun _ => .pure rfl

theorem mirrors_receiver (env : Surroundings) (select : Option (Padded Expression)) :
    Mirrors bareSelect (receiver env select) (receiver env (bareSelect select)) := by
  match select with
  | none => exact .pure rfl
  | some ⟨e, after⟩ => exact (mirrors_expression env none e).bind fun _ => .pure rfl

/-- The first round over the arguments leaves lambdas and references as they are. -/
theorem mirrors_valueArguments (env : Surroundings) (es : List (Padded Expression)) :
    Mirrors bareExprList (valueArguments env es) (valueArguments env (bareExprList es)) := by
  match es with
  | [] => exact .pure rfl
  | ⟨e, after⟩ :: es =>
    have built (e' : Expression) : Mirrors bareExprList
        (do return ⟨e', after⟩ :: (← valueArguments env es))
        (do return ⟨e'.bare, .empty⟩ :: (← valueArguments env (bareExprList es))) :=
      (mirrors_valueArguments env es).bind fun _ => .pure rfl
    change Mirrors _ _ (if isFunctionalArgument e.bare then _ else _)
    rw [isFunctionalArgument_bare]
    exact .ite (built e) ((mirrors_expression env none e).bind built)

/-- The second round goes along the arguments as they were and as the first round left them. -/
theorem mirrors_functionalArguments (env : Surroundings) (method : Option MethodType) (index : Nat)
    (es values : List (Padded Expression)) :
    Mirrors bareExprList (functionalArguments env method index es values)
      (functionalArguments env method index (bareExprList es) (bareExprList values)) := by
  match es, values with
  | [], values =>
    rw [functionalArguments]
    · exact .pure rfl
    · simp
  | _ :: _, [] => exact .pure rfl
  | ⟨e, after⟩ :: es, ⟨v, after'⟩ :: values =>
    have built (p : Padded Expression) : Mirrors bareExprList
        (do return p :: (← functionalArguments env method (index + 1) es values))
        (do return p.bare Expression.bare :: (← functionalArguments env method (index + 1)
          (bareExprList es) (bareExprList values))) :=
      (mirrors_functionalArguments env method (index + 1) es values).bind fun _ => .pure rfl
    change Mirrors _ _ (if isFunctionalArgument e.bare then _ else _)
    rw [isFunctionalArgument_bare]
    exact .ite ((mirrors_expression env _ e).bind fun e' => built ⟨e', after⟩) (built ⟨v, after'⟩)

theorem mirrors_annotated (env : Surroundings) (a : Annotation) :
    Mirrors ( Annotation.bare) (annotated env a) (annotated env a.bare) := by
  match a with
  | ⟨id, leading, name, arguments⟩ =>
    refine .get fun s => (mirrors_annotationArguments? env arguments).bind fun _ => .pure ?_
    simp [ Annotation.bare, markName_bare]

theorem mirrors_annotations (env : Surroundings) (as : List Annotation) :
    Mirrors bareAnnotations (annotations env as) (annotations env (bareAnnotations as)) := by
  match as with
  | [] => exact .pure rfl
  | a :: as =>
    refine (mirrors_annotated env a).bind fun _ => ?_
    exact (mirrors_annotations env as).bind fun _ => .pure rfl

theorem mirrors_annotationArguments? (env : Surroundings) (c : Option (Container Expression)) :
    Mirrors bareExprs? (annotationArguments? env c) (annotationArguments? env (bareExprs? c)) := by
  match c with
  | none => exact .pure rfl
  | some ⟨before, elements, close⟩ =>
    exact (mirrors_annotationArguments env elements).bind fun _ => .pure rfl

/-- Of `name = value` only the value is attributed. -/
theorem mirrors_annotationArguments (env : Surroundings) (es : List (Padded Expression)) :
    Mirrors bareExprList (annotationArguments env es)
      (annotationArguments env (bareExprList es)) := by
  match es with
  | [] => exact .pure rfl
  | ⟨.assignment id leading target before op value type, after⟩ :: es =>
    refine (mirrors_expression env none value).bind fun _ => ?_
    exact (mirrors_annotationArguments env es).bind fun _ => .pure rfl
  | ⟨.identifier _, after⟩ :: es | ⟨.literal _, after⟩ :: es
  | ⟨.fieldAccess _, after⟩ :: es | ⟨.methodInvocation _, after⟩ :: es
  | ⟨.newClass .., after⟩ :: es | ⟨.newArray .., after⟩ :: es
  | ⟨.lambda .., after⟩ :: es | ⟨.memberReference .., after⟩ :: es
  | ⟨.binary .., after⟩ :: es | ⟨.unary .., after⟩ :: es | ⟨.ternary .., after⟩ :: es
  | ⟨.parentheses .., after⟩ :: es | ⟨.arrayAccess .., after⟩ :: es
  | ⟨.typeCast .., after⟩ :: es =>
    refine (mirrors_expression env none _).bind fun _ => ?_
    exact (mirrors_annotationArguments env es).bind fun _ => .pure rfl

/-- The result is the declaration and the type that its variables have, which holds no trees. -/
theorem mirrors_declaration (env : Surroundings) (declares : Bool) (v : VariableDeclarations) :
    Mirrors (Prod.map VariableDeclarations.bare id) (declaration env declares v)
      (declaration env declares v.bare) := by
  match v with
  | ⟨id, leading, notes, modifiers, declaredType, varargs, list⟩ =>
    refine (mirrors_annotations env notes).bind fun _ => .get fun s => ?_
    simp only [map_typeOf_bare, isVar_bare, markType?_bare]
    generalize (declaredType.map s.names.typeOf).getD .unknown = written
    cases written <;> cases varargs <;>
      exact (mirrors_namedVariables env declares _ _ list).bind fun _ => .pure rfl

/-- A variable comes into scope behind its own initializer. -/
theorem mirrors_namedVariables (env : Surroundings) (declares : Bool) (type : JavaType)
    (inferred : Bool) (vs : List (Padded NamedVariable)) :
    Mirrors bareVariables (namedVariables env declares type inferred vs)
      (namedVariables env declares type inferred (bareVariables vs)) := by
  match vs with
  | [] => exact .pure rfl
  | ⟨⟨id, leading, name, initializer, declared⟩, after⟩ :: vs =>
    refine (mirrors_initializer? env _ initializer).bind fun initializer' => ?_
    extract_lets -underBinder own tail own' tail'
    have same : own' = own := by
      cases initializer' with
      | none => rfl
      | some i => simp [own, own', bareInit]
    clear_value own'
    subst same
    have built : Mirrors bareVariables (tail ⟨⟩) (tail' ⟨⟩) :=
      (mirrors_namedVariables env declares type inferred vs).bind fun _ => .pure rfl
    exact .ite (.modify (fun _ => rfl) built) built

theorem mirrors_initializer? (env : Surroundings) (expected : Option JavaType)
    (i : Option (LeftPadded Expression)) :
    Mirrors bareInit (initializer? env expected i) (initializer? env expected (bareInit i)) := by
  match i with
  | none => exact .pure rfl
  | some ⟨before, e⟩ => exact (mirrors_expression env expected e).bind fun _ => .pure rfl

theorem mirrors_parameters (env : Surroundings) (vs : List (Padded VariableDeclarations)) :
    Mirrors (Prod.map bareParameterList id) (parameters env vs)
      (parameters env (bareParameterList vs)) := by
  match vs with
  | [] => exact .pure rfl
  | ⟨v, after⟩ :: vs =>
    refine (mirrors_declaration env true v).bind fun _ => ?_
    exact (mirrors_parameters env vs).bind fun _ => .pure rfl

theorem mirrors_block (env : Surroundings) (b : Block) :
    Mirrors Block.bare (block env b) (block env b.bare) := by
  match b with
  | ⟨id, leading, list, close⟩ =>
    exact (mirrors_statements env list).withScope.bind fun _ => .pure rfl

theorem mirrors_block? (env : Surroundings) (b : Option Block) :
    Mirrors bareBlock? (block? env b) (block? env (bareBlock? b)) := by
  match b with
  | none => exact .pure rfl
  | some b => exact (mirrors_block env b).bind fun _ => .pure rfl

theorem mirrors_classBody? (env : Surroundings) (b : Option Block) :
    Mirrors bareBlock? (classBody? env b) (classBody? env (bareBlock? b)) := by
  match b with
  | none => exact .pure rfl
  | some b => exact (mirrors_classBody env b).bind fun _ => .pure rfl

theorem mirrors_classBody (env : Surroundings) (b : Block) :
    Mirrors Block.bare (classBody env b) (classBody env b.bare) := by
  match b with
  | ⟨id, leading, list, close⟩ => exact (mirrors_memberList env list).bind fun _ => .pure rfl

/-- Fields do not come into scope, other than the variables of a body. -/
theorem mirrors_memberList (env : Surroundings) (ss : List (Padded Statement)) :
    Mirrors bareStatements (memberList env ss) (memberList env (bareStatements ss)) := by
  match ss with
  | [] => exact .pure rfl
  | ⟨.declaration v, after⟩ :: ss =>
    refine (mirrors_declaration env false v).bind fun _ => ?_
    exact (mirrors_memberList env ss).bind fun _ => .pure rfl
  | ⟨.expression _, after⟩ :: ss | ⟨.block _, after⟩ :: ss
  | ⟨.classDeclaration _, after⟩ :: ss | ⟨.method _, after⟩ :: ss
  | ⟨.returns .., after⟩ :: ss | ⟨.conditional .., after⟩ :: ss
  | ⟨.whileLoop .., after⟩ :: ss | ⟨.forLoop .., after⟩ :: ss
  | ⟨.forEach .., after⟩ :: ss | ⟨.tryBlock .., after⟩ :: ss
  | ⟨.throws .., after⟩ :: ss | ⟨.empty .., after⟩ :: ss | ⟨.doWhile .., after⟩ :: ss
  | ⟨.switch .., after⟩ :: ss | ⟨.breaks .., after⟩ :: ss
  | ⟨.continues .., after⟩ :: ss =>
    refine (mirrors_statement env _).bind fun _ => ?_
    exact (mirrors_memberList env ss).bind fun _ => .pure rfl

/-- The class becomes known first, so its own body can name it. -/
theorem mirrors_classDeclaration (env : Surroundings) (c : ClassDeclaration) :
    Mirrors ClassDeclaration.bare (classDeclaration env c) (classDeclaration env c.bare) := by
  match c with
  | ⟨id, leading, notes, modifiers, keywordLeading, keyword, name, superclass, interfaces, body,
      type⟩ =>
    refine Mirrors.bind (f := fun c => c) (fun s => ?_) fun c => ?_
    · exact congrFun (declareClass_bare env ⟨id, leading, notes, modifiers, keywordLeading, keyword,
        name, superclass, interfaces, body, type⟩) s
    · refine (mirrors_annotations env notes).bind fun _ => .get fun s => ?_
      refine (mirrors_classBody _ body).bind fun _ => .pure ?_
      rw [markSuper_bare, markContainer_bare]
      rfl

/-- The parameters are in scope in the body only. -/
theorem mirrors_methodDeclaration (env : Surroundings) (m : MethodDeclaration) :
    Mirrors MethodDeclaration.bare (methodDeclaration env m) (methodDeclaration env m.bare) := by
  match m with
  | ⟨id, leading, notes, modifiers, returnType, name, ⟨before, elements, close⟩, throwing, body,
    _⟩ =>
    have many : isVarargs (bareParameters ⟨before, elements, close⟩) =
        isVarargs ⟨before, elements, close⟩ := by simp
    simp only [bareParameters] at many
    refine (mirrors_annotations env notes).bind fun _ => .get fun s => ?_
    simp only [many, hasModifier_bare, markType?_bare, markContainer_bare]
    refine .withScope ?_
    cases returnType with
    | none =>
      refine (mirrors_parameters env elements).bind fun _ => ?_
      exact (mirrors_block? _ body).bind fun _ => .pure rfl
    | some t =>
      have type : s.names.typeOf t.bare = s.names.typeOf t := s.names.typeOf_bare t
      simp only [bareType?, type]
      refine (mirrors_parameters env elements).bind fun _ => ?_
      exact (mirrors_block? _ body).bind fun _ => .pure rfl

theorem mirrors_statements (env : Surroundings) (ss : List (Padded Statement)) :
    Mirrors bareStatements (statements env ss) (statements env (bareStatements ss)) := by
  match ss with
  | [] => exact .pure rfl
  | ⟨s, after⟩ :: ss =>
    refine (mirrors_statement env s).bind fun _ => ?_
    exact (mirrors_statements env ss).bind fun _ => .pure rfl

theorem mirrors_statement? (env : Surroundings) (s : Option Statement) :
    Mirrors bareStatement? (statement? env s) (statement? env (bareStatement? s)) := by
  match s with
  | none => exact .pure rfl
  | some s => exact (mirrors_statement env s).bind fun _ => .pure rfl

theorem mirrors_elseBranch (env : Surroundings) (e : Option Else) :
    Mirrors bareElse (elseBranch env e) (elseBranch env (bareElse e)) := by
  match e with
  | none => exact .pure rfl
  | some ⟨id, leading, ⟨s, after⟩⟩ =>
    exact (mirrors_statement env s).withScope.bind fun _ => .pure rfl

theorem mirrors_resources (env : Surroundings) (r : Option TryResources) :
    Mirrors bareResources? (resources env r) (resources env (bareResources? r)) := by
  match r with
  | none => exact .pure rfl
  | some ⟨opening, list, terminated, closing⟩ =>
    exact (mirrors_statements env list).bind fun _ => .pure rfl

/-- Each clause has a scope with its parameter. -/
theorem mirrors_catches (env : Surroundings) (cs : List Catch) :
    Mirrors bareCatches (catches env cs) (catches env (bareCatches cs)) := by
  match cs with
  | [] => exact .pure rfl
  | ⟨id, leading, opening, ⟨parameter, after⟩, body⟩ :: cs =>
    refine Mirrors.bind (f := Catch.bare) (.withScope ?_) fun _ => ?_
    · refine (mirrors_declaration env true parameter).bind fun _ => ?_
      exact (mirrors_block env body).bind fun _ => .pure rfl
    · exact (mirrors_catches env cs).bind fun _ => .pure rfl

theorem mirrors_finalizer? (env : Surroundings) (b : Option (LeftPadded Block)) :
    Mirrors bareFinally (finalizer? env b) (finalizer? env (bareFinally b)) := by
  match b with
  | none => exact .pure rfl
  | some ⟨before, b⟩ => exact (mirrors_block env b).bind fun _ => .pure rfl

/-- A label that names a constant is not attributed as an expression. -/
theorem mirrors_caseLabels (env : Surroundings) (selector : Option ClassType)
    (es : List (Padded Expression)) :
    Mirrors bareExprList (caseLabels env selector es)
      (caseLabels env selector (bareExprList es)) := by
  match es with
  | [] => exact .pure rfl
  | ⟨e, after⟩ :: es =>
    refine .get fun s => ?_
    simp -zeta only [constant?_bare]
    extract_lets -underBinder tail tail'
    have built (e' : Expression) : Mirrors bareExprList (tail e') (tail' e'.bare) :=
      (mirrors_caseLabels env selector es).bind fun _ => .pure rfl
    cases constant? s.names selector e with
    | some e' => exact built e'
    | none => exact (mirrors_expression env none e).bind built

theorem mirrors_caseBody (env : Surroundings) (b : CaseBody) :
    Mirrors CaseBody.bare (caseBody env b) (caseBody env b.bare) := by
  match b with
  | .statements list => exact (mirrors_statements env list).bind fun _ => .pure rfl
  | .rule ⟨s, after⟩ => exact (mirrors_statement env s).withScope.bind fun _ => .pure rfl

theorem mirrors_switchCases (env : Surroundings) (selector : Option ClassType) (cs : List Case) :
    Mirrors bareCases (switchCases env selector cs) (switchCases env selector (bareCases cs)) := by
  match cs with
  | [] => exact .pure rfl
  | ⟨id, leading, labels, separator, body⟩ :: cs =>
    refine (mirrors_caseLabels env selector labels).bind fun _ => ?_
    refine (mirrors_caseBody env body).bind fun _ => ?_
    exact (mirrors_switchCases env selector cs).bind fun _ => .pure rfl

theorem mirrors_parenthesized (env : Surroundings) (e : Parenthesized) :
    Mirrors Parenthesized.bare (parenthesized env e) (parenthesized env e.bare) := by
  match e with
  | ⟨opening, tree, closing⟩ => exact (mirrors_expression env none tree).bind fun _ => .pure rfl

/-- One case for each kind of statement; a body that is no block has a scope of its own. -/
theorem mirrors_statement (env : Surroundings) (s : Statement) :
    Mirrors Statement.bare (statement env s) (statement env s.bare) := by
  match s with
  | .expression e => exact (mirrors_expression env none e).bind fun _ => .pure rfl
  | .declaration v => exact (mirrors_declaration env true v).bind fun _ => .pure rfl
  | .block b => exact (mirrors_block env b).bind fun _ => .pure rfl
  | .classDeclaration c => exact (mirrors_classDeclaration env c).bind fun _ => .pure rfl
  | .method m => exact (mirrors_methodDeclaration env m).bind fun _ => .pure rfl
  | .returns id leading none => exact .pure rfl
  | .returns id leading (some e) =>
    exact (mirrors_expression env _ e).bind fun _ => .pure rfl
  | .conditional id leading condition ⟨whenTrue, after⟩ whenFalse =>
    refine (mirrors_parenthesized env condition).bind fun _ => ?_
    refine (mirrors_statement env whenTrue).withScope.bind fun _ => ?_
    exact (mirrors_elseBranch env whenFalse).bind fun _ => .pure rfl
  | .whileLoop id leading condition ⟨body, after⟩ =>
    refine (mirrors_parenthesized env condition).bind fun _ => ?_
    exact (mirrors_statement env body).withScope.bind fun _ => .pure rfl
  | .forLoop id leading opening init afterInit condition afterCondition update closing
      ⟨body, after⟩ =>
    refine .withScope ((mirrors_statement? env init).bind fun _ => ?_)
    refine (mirrors_expression? env condition).bind fun _ => ?_
    refine (mirrors_expressions env none update).bind fun _ => ?_
    exact (mirrors_statement env body).bind fun _ => .pure rfl
  | .forEach id leading opening ⟨binder, afterBinder⟩ ⟨iterable, afterIterable⟩ ⟨body, after⟩ =>
    refine .withScope ((mirrors_expression env none iterable).bind fun iterable' => .get fun s =>
      ?_)
    rw [Expression.type_bare]
    refine (mirrors_declaration env true binder).bind fun ⟨binder', type⟩ => ?_
    have built : Mirrors Statement.bare (do
          let body ← statement env body
          return Statement.forEach id leading opening ⟨binder', afterBinder⟩
            ⟨iterable', afterIterable⟩ ⟨body, after⟩)
        (do
          let body ← statement env body.bare
          return Statement.forEach 0 .empty .empty ⟨binder'.bare, .empty⟩ ⟨iterable'.bare, .empty⟩
            ⟨body, .empty⟩) :=
      (mirrors_statement env body).bind fun _ => .pure rfl
    exact .ite (.modify (declareAll_bare binder' _) built) built
  | .tryBlock id leading list body handlers final =>
    refine Mirrors.bind (f := Prod.map bareResources? Block.bare) (.withScope ?_) fun _ => ?_
    · refine (mirrors_resources env list).bind fun _ => ?_
      exact (mirrors_block env body).bind fun _ => .pure rfl
    · refine (mirrors_catches env handlers).bind fun _ => ?_
      exact (mirrors_finalizer? env final).bind fun _ => .pure rfl
  | .throws id leading exception =>
    exact (mirrors_expression env none exception).bind fun _ => .pure rfl
  | .empty id leading => exact .pure rfl
  | .doWhile id leading ⟨body, after⟩ whileLeading condition =>
    refine (mirrors_statement env body).withScope.bind fun _ => ?_
    exact (mirrors_parenthesized env condition).bind fun _ => .pure rfl
  | .switch id leading selector opening list closing =>
    refine (mirrors_parenthesized env selector).bind fun selector' => ?_
    have type : selector'.bare.tree.type = selector'.tree.type := by
      cases selector'
      exact Expression.type_bare _
    rw [type]
    exact (mirrors_switchCases env _ list).withScope.bind fun _ => .pure rfl
  | .breaks id leading label => exact .pure rfl
  | .continues id leading label => exact .pure rfl

end

/-- The classes of a unit share what becomes known on the way. -/
theorem mirrors_classes (env : Surroundings) (cs : List ClassDeclaration) :
    Mirrors (List.map ClassDeclaration.bare) (classes env cs)
      (classes env (cs.map ClassDeclaration.bare)) := by
  induction cs with
  | nil => exact .pure rfl
  | cons c cs ih => exact (mirrors_classDeclaration env c).bind fun _ => ih.bind fun _ => .pure rfl

end Retouch.Attribution

namespace Retouch

/-- A bare unit is attributed as the unit is. -/
theorem CompilationUnit.attribute_bare (u : CompilationUnit) (classpath : Classpath)
    (bindings : List (String × JavaType)) :
    u.bare.attribute classpath bindings = (u.attribute classpath bindings).bare := by
  have classes := Attribution.mirrors_classes { bindings } u.classes
    { names := Attribution.namesOf u classpath }
  unfold CompilationUnit.attribute
  rw [Attribution.namesOf_bare]
  have imports (g : Names) : (u.imports.map (Padded.bare Import.bare)).map
      (fun i => { i with element := g.markImport i.element }) =
        (u.imports.map fun i => { i with element := g.markImport i.element }).map
          (Padded.bare Import.bare) := by
    simp [Function.comp_def, Padded.bare, Names.markImport_bare]
  simp only [bare, classes, imports]

end Retouch
