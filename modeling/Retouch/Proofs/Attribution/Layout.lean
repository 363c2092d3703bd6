import Retouch.Attribution.Basic
import Retouch.Proofs.Tree.Text

/-!
# Attribution keeps the layout

Attribution goes through a unit and fills in meanings; the tree that it gives is laid out as before,
piece for piece (`layout_attribute`). `Yields p P` says that every result of a traversal has the
property `P`, whatever the names mean at that point; the facts follow the recursion of the
traversal.
-/

namespace Retouch

namespace Names

mutual

/-- Names are given meanings, and their segments stay. -/
theorem layout_markName (g : Names) (type? : Option ClassType) (e : Expression) :
    (g.markName type? e).layout = e.layout := by
  match e with
  | .identifier n => cases type? <;> rfl
  | .fieldAccess n =>
    cases type? with
    | none => rfl
    | some c => simp [markName, Expression.layout, layout_markQualified g c n]
  | .literal _ | .methodInvocation _ | .newClass .. | .newArray .. | .lambda ..
  | .memberReference .. | .binary .. | .unary .. | .assignment .. | .ternary ..
  | .parentheses .. | .arrayAccess .. | .typeCast .. => rw [markName] <;> simp

theorem layout_markQualified (g : Names) (c : ClassType) (n : FieldAccess) :
    (g.markQualified c n).layout = n.layout := by
  match n with
  | ⟨id, leading, target, dot, name, type⟩ =>
    simp [markQualified, FieldAccess.layout, Identifier.layout, layout_markName g _ target]

end

mutual

/-- So are the names in a type. -/
theorem layout_markType (g : Names) (t : TypeTree) : (g.markType t).layout = t.layout := by
  match t with
  | .primitive id leading p => rfl
  | .named name => simp [markType, TypeTree.layout, layout_markName]
  | .parameterized id leading clazz ⟨before, elements, close⟩ _ =>
    simp [markType, TypeTree.layout, layout_markName, layoutTypes, layoutTypeList_eq,
      Layout.separate_congr (shapes_markTypes g elements)]
  | .array id leading element opening closing _ =>
    simp [markType, TypeTree.layout, layout_markType g element]
  | .wildcard id leading bound bounded =>
    simp [markType, TypeTree.layout, layout_markType? g bounded]

theorem shapes_markTypes (g : Names) (ts : List (Padded TypeTree)) :
    shapes TypeTree.layout (g.markTypes ts) = shapes TypeTree.layout ts := by
  match ts with
  | [] => rfl
  | ⟨t, after⟩ :: ts =>
    simp [markTypes, layout_markType g t, shapes_markTypes g ts]

theorem layout_markType? (g : Names) (t : Option TypeTree) :
    layoutType? (g.markType? t) = layoutType? t := by
  match t with
  | none => rfl
  | some t => simp [markType?, layoutType?, layout_markType g t]

end

theorem layout_markNewType (g : Names) (t : Option TypeTree) :
    layoutNewType (g.markType? t) = layoutNewType t := by
  cases t with
  | none => rfl
  | some t => simp [markType?, layoutNewType, layout_markType g t]

theorem layout_markContainer (g : Names) (opening closing : String)
    (c : Option (Container TypeTree)) :
    layoutTypes? opening closing (c.map g.markContainer) = layoutTypes? opening closing c := by
  cases c with
  | none => rfl
  | some c =>
    cases c
    simp [markContainer, layoutTypes?, layoutTypes, layoutTypeList_eq,
      Layout.separate_congr (shapes_markTypes g _)]

/-- So is the name of an import. -/
theorem layout_markImport (g : Names) (i : Import) : (g.markImport i).layout = i.layout := by
  unfold markImport
  split
  · rfl
  · next c _ =>
    split
    · obtain ⟨id, leading, staticLeading, name⟩ := i
      cases name
      simp [Import.layout, FieldAccess.layout, layout_markName]
    · simp [Import.layout, layout_markQualified]

end Names

namespace Attribution

variable {α β : Type} {p : Attribute α} {q : α → Attribute β} {P : α → Prop} {Q : β → Prop}

/-- Every result of `p` has the property `P`. -/
def Yields (p : Attribute α) (P : α → Prop) : Prop := ∀ s, P (p s).1

namespace Yields

theorem pure {a : α} (h : P a) : Yields (pure a) P := fun _ => h

/-- `q` may count on what `p` yields. -/
theorem bind (hp : Yields p P) (hq : ∀ a, P a → Yields (q a) Q) : Yields (p >>= q) Q :=
  fun s => hq _ (hp s) _

/-- What is known at a point does not show in the result. -/
theorem get {k : State → Attribute β} (h : ∀ s, Yields (k s) Q) : Yields (get >>= k) Q :=
  fun s => h s s

/-- Nor does what is noted there. -/
theorem modify {f : State → State} {k : PUnit → Attribute β} (h : Yields (k ⟨⟩) Q) :
    Yields (modify f >>= k) Q :=
  fun s => h (f s)

/-- A scope does not show in the result. -/
theorem withScope (h : Yields p P) : Yields (withScope p) P :=
  fun s => h { s with scopes := [] :: s.scopes }

theorem ite {c : Prop} [Decidable c] {p p' : Attribute α} (h : Yields p P) (h' : Yields p' P) :
    Yields (if c then p else p') P := by
  split
  · exact h
  · exact h'

end Yields

/-- What a list of statements shows of one of them. -/
def seen (s : Statement) : Layout × Bool := (s.layout, s.needsSemicolon)

/-- The layout of a list of statements depends on nothing else. -/
theorem layoutStatements_congr {ss ss' : List (Padded Statement)}
    (h : shapes seen ss' = shapes seen ss) : layoutStatements ss' = layoutStatements ss := by
  induction ss generalizing ss' with
  | nil =>
    obtain rfl : ss' = [] := List.map_eq_nil_iff.1 h
    rfl
  | cons p ss ih =>
    obtain ⟨⟨s', after'⟩, ss', rfl, head, tail⟩ := List.map_eq_cons_iff.1 h
    obtain ⟨s, after⟩ := p
    simp only [seen, Prod.mk.injEq] at head
    obtain ⟨⟨layout, semicolon⟩, rfl⟩ := head
    simp [layoutStatements, layout, semicolon, ih tail]

/-- Nor does the layout of resources. -/
theorem layoutResources_congr {terminated : Bool} {ss ss' : List (Padded Statement)}
    (h : shapes seen ss' = shapes seen ss) :
    layoutResources terminated ss' = layoutResources terminated ss := by
  induction ss generalizing ss' with
  | nil =>
    obtain rfl : ss' = [] := List.map_eq_nil_iff.1 h
    rfl
  | cons p ss ih =>
    obtain ⟨⟨s', after'⟩, ss', rfl, head, tail⟩ := List.map_eq_cons_iff.1 h
    obtain ⟨s, after⟩ := p
    simp only [seen, Prod.mk.injEq] at head
    obtain ⟨⟨layout, semicolon⟩, rfl⟩ := head
    have more := ih tail
    cases ss' <;> cases ss <;> simp_all [layoutResources, shapes]

theorem layoutBareParameters_congr {vs vs' : List (Padded VariableDeclarations)}
    (h : shapes VariableDeclarations.layout vs' = shapes VariableDeclarations.layout vs) :
    layoutBareParameters vs' = layoutBareParameters vs := by
  induction vs generalizing vs' with
  | nil =>
    obtain rfl : vs' = [] := List.map_eq_nil_iff.1 h
    rfl
  | cons p vs ih =>
    obtain ⟨⟨v', after'⟩, vs', rfl, head, tail⟩ := List.map_eq_cons_iff.1 h
    obtain ⟨v, after⟩ := p
    obtain ⟨same, rfl⟩ := Prod.mk.inj head
    simp [layoutBareParameters, same, ih tail]

/-- A label that is the name of a constant keeps this name. -/
theorem layout_constant? {g : Names} {selector : Option ClassType} {e e' : Expression}
    (h : constant? g selector e = some e') : e'.layout = e.layout := by
  unfold constant? at h
  split at h
  · next n =>
    obtain ⟨c, -, h⟩ := Option.bind_eq_some_iff.1 h
    obtain ⟨f, -, h⟩ := Option.bind_eq_some_iff.1 h
    cases h
    rfl
  · cases h

theorem yields_identifier (env : Surroundings) (n : Identifier) :
    Yields (identifier env n) (·.layout = n.layout) :=
  .get fun _ => .pure rfl

open Names

mutual

/-- One case for each kind of expression; an operand is attributed before its operator is known. -/
theorem yields_expression (env : Surroundings) (expected : Option JavaType) (e : Expression) :
    Yields (expression env expected e) (·.layout = e.layout) := by
  match e with
  | .identifier n =>
    exact (yields_identifier env n).bind fun n' same =>
      .pure (by simpa [Expression.layout] using same)
  | .literal n =>
    exact .get fun s => .pure rfl
  | .fieldAccess n =>
    exact (yields_fieldAccess env n).bind fun n' same =>
      .pure (by simpa [Expression.layout] using same)
  | .methodInvocation n =>
    exact (yields_invocation env n).bind fun n' same =>
      .pure (by simpa [Expression.layout] using same)
  | .newClass id leading clazz ⟨before, elements, close⟩ body _ =>
    refine .get fun s => ?_
    refine (yields_expressions env none elements).bind fun elements' same => ?_
    refine (yields_classBody? _ body).bind fun body' kept => .pure ?_
    simp [Expression.layout, layoutExprs, layoutExprList_eq, Layout.separate_congr same, kept,
      layout_markType]
  | .newArray id leading elementType dimensions initializer _ =>
    refine .get fun s => ?_
    refine (yields_dimensionList env dimensions).bind fun dimensions' same => ?_
    refine (yields_expressions? env _ initializer).bind fun initializer' kept => .pure ?_
    simp [Expression.layout, same, kept, layout_markNewType]
  | .lambda id leading parenthesized ⟨before, elements, close⟩ arrow body _ =>
    refine .withScope ?_
    refine (yields_parameters env elements).bind fun ⟨elements', types⟩ same => ?_
    refine (yields_lambdaBody env body).bind fun body' kept => .pure ?_
    cases parenthesized <;>
      simp [Expression.layout, layoutParameters, layoutParameterList_eq, Layout.separate_congr same,
        layoutBareParameters_congr same, kept]
  | .memberReference id leading containing colons name _ =>
    refine (yields_expression env none containing).bind fun containing' same => .pure ?_
    simp [Expression.layout, same]
  | .binary id leading left before op right type =>
    refine (yields_expression env none left).bind fun left' same => ?_
    refine .get fun s => ?_
    extract_lets -underBinder g tail
    have built (right' : Expression) (kept : right'.layout = right.layout) :
        Yields (tail right')
          (·.layout = (Expression.binary id leading left before op right type).layout) := by
      refine .pure ?_
      simp [Expression.layout, same, kept]
    refine .ite (built _ (layout_markName g _ right)) ?_
    exact (yields_expression env none right).bind built
  | .unary id leading before op operand _ =>
    refine (yields_expression env none operand).bind fun operand' same => .pure ?_
    simp [Expression.layout, same]
  | .assignment id leading target before op value _ =>
    refine (yields_expression env none target).bind fun target' same => ?_
    refine (yields_expression env _ value).bind fun value' kept => .pure ?_
    simp [Expression.layout, same, kept]
  | .ternary id leading condition ⟨question, whenTrue⟩ ⟨colon, whenFalse⟩ _ =>
    refine (yields_expression env none condition).bind fun condition' same => ?_
    refine (yields_expression env expected whenTrue).bind fun whenTrue' same₁ => ?_
    refine (yields_expression env expected whenFalse).bind fun whenFalse' same₂ => .pure ?_
    simp [Expression.layout, same, same₁, same₂]
  | .parentheses id leading ⟨tree, after⟩ =>
    refine (yields_expression env expected tree).bind fun tree' same => .pure ?_
    simp [Expression.layout, same]
  | .arrayAccess id leading indexed ⟨opening, index, closing⟩ _ =>
    refine (yields_expression env none indexed).bind fun indexed' same => ?_
    refine (yields_expression? env index).bind fun index' kept => .pure ?_
    simp [Expression.layout, ArrayDimension.layout, same, kept]
  | .typeCast id leading ⟨clazz, after⟩ operand _ =>
    refine .get fun s => ?_
    refine (yields_expression env none operand).bind fun operand' same => .pure ?_
    simp [Expression.layout, same, layout_markType]

theorem yields_expression? (env : Surroundings) (e : Option Expression) :
    Yields (expression? env e) (layoutExpr? · = layoutExpr? e) := by
  match e with
  | none => exact .pure rfl
  | some e =>
    exact (yields_expression env none e).bind fun e' same => .pure (by simp [layoutExpr?, same])

theorem yields_expressions (env : Surroundings) (expected : Option JavaType)
    (es : List (Padded Expression)) :
    Yields (expressions env expected es)
      (shapes Expression.layout · = shapes Expression.layout es) := by
  match es with
  | [] => exact .pure rfl
  | ⟨e, after⟩ :: es =>
    refine (yields_expression env expected e).bind fun e' same => ?_
    exact (yields_expressions env expected es).bind fun es' kept => .pure (by simp [same, kept])

theorem yields_expressions? (env : Surroundings) (expected : Option JavaType)
    (c : Option (Container Expression)) :
    Yields (expressions? env expected c) (fun c' => ∀ opening closing,
      layoutExprs? opening closing c' = layoutExprs? opening closing c) := by
  match c with
  | none => exact .pure fun _ _ => rfl
  | some ⟨before, elements, close⟩ =>
    refine (yields_expressions env expected elements).bind fun elements' same => .pure ?_
    intro opening closing
    simp [layoutExprs?, layoutExprs, layoutExprList_eq, Layout.separate_congr same]

theorem yields_dimensionList (env : Surroundings) (ds : List ArrayDimension) :
    Yields (dimensionList env ds) (layoutDimensions · = layoutDimensions ds) := by
  match ds with
  | [] => exact .pure rfl
  | ⟨opening, index, closing⟩ :: ds =>
    refine (yields_expression? env index).bind fun index' same => ?_
    refine (yields_dimensionList env ds).bind fun ds' kept => .pure ?_
    simp [layoutDimensions, ArrayDimension.layout, same, kept]

theorem yields_lambdaBody (env : Surroundings) (body : LambdaBody) :
    Yields (lambdaBody env body) (·.layout = body.layout) := by
  match body with
  | .expression e =>
    exact (yields_expression env none e).bind fun e' same =>
      .pure (by simp [LambdaBody.layout, same])
  | .block b =>
    exact (yields_block _ b).bind fun b' same => .pure (by simp [LambdaBody.layout, same])

/-- A name with a meaning of its own is marked as a whole. -/
theorem yields_fieldAccess (env : Surroundings) (n : FieldAccess) :
    Yields (fieldAccess env n) (·.layout = n.layout) := by
  match n with
  | ⟨id, leading, target, dot, name, type⟩ =>
    refine .get fun s => ?_
    split
    · exact .pure (layout_markQualified ..)
    · refine (yields_expression env none target).bind fun target' same => ?_
      exact .get fun s => .pure (by simp [FieldAccess.layout, Identifier.layout, same])

/-- Lambdas and references are attributed in a second round, behind the choice of the method. -/
theorem yields_invocation (env : Surroundings) (n : MethodInvocation) :
    Yields (invocation env n) (·.layout = n.layout) := by
  match n with
  | ⟨id, leading, select, name, ⟨before, elements, close⟩, _⟩ =>
    refine (yields_receiver env select).bind fun select' same => ?_
    refine .get fun s => ?_
    refine (yields_valueArguments env elements).bind fun values kept => ?_
    refine (yields_functionalArguments env _ 0 elements values kept).bind fun arguments same' => ?_
    refine .pure ?_
    simp [MethodInvocation.layout, layoutExprs, layoutExprList_eq, Layout.separate_congr same',
      same]

theorem yields_receiver (env : Surroundings) (select : Option (Padded Expression)) :
    Yields (receiver env select) (layoutSelect · = layoutSelect select) := by
  match select with
  | none => exact .pure rfl
  | some ⟨e, after⟩ =>
    exact (yields_expression env none e).bind fun e' same => .pure (by simp [layoutSelect, same])

theorem yields_valueArguments (env : Surroundings) (es : List (Padded Expression)) :
    Yields (valueArguments env es) (shapes Expression.layout · = shapes Expression.layout es) := by
  match es with
  | [] => exact .pure rfl
  | ⟨e, after⟩ :: es =>
    have built (e' : Expression) (same : e'.layout = e.layout) :
        Yields (do return ⟨e', after⟩ :: (← valueArguments env es))
          (shapes Expression.layout · = shapes Expression.layout (⟨e, after⟩ :: es)) :=
      (yields_valueArguments env es).bind fun es' kept => .pure (by simp [same, kept])
    exact .ite (built e rfl) ((yields_expression env none e).bind built)

/-- The arguments keep their layouts when the values that stand in for them do. -/
theorem yields_functionalArguments (env : Surroundings) (method : Option MethodType) (index : Nat)
    (es values : List (Padded Expression))
    (h : shapes Expression.layout values = shapes Expression.layout es) :
    Yields (functionalArguments env method index es values)
      (shapes Expression.layout · = shapes Expression.layout es) := by
  match es, values with
  | [], values =>
    rw [functionalArguments]
    · exact .pure h
    · simp
  | _ :: _, [] => cases h
  | ⟨e, after⟩ :: es, value :: values =>
    rw [functionalArguments]
    obtain ⟨v, after'⟩ := value
    simp only [shapes_cons, List.cons.injEq, Prod.mk.injEq] at h
    obtain ⟨⟨same, rfl⟩, rest⟩ := h
    have built (e' : Expression) (same : e'.layout = e.layout) :
        Yields (do return ⟨e', after'⟩ :: (← functionalArguments env method (index + 1) es values))
          (shapes Expression.layout · = shapes Expression.layout (⟨e, after'⟩ :: es)) :=
      (yields_functionalArguments env method (index + 1) es values rest).bind fun es' kept =>
        .pure (by simp [same, kept])
    exact .ite ((yields_expression env _ e).bind built) (built v same)

theorem yields_annotated (env : Surroundings) (a : Annotation) :
    Yields (annotated env a) (·.layout = a.layout) := by
  match a with
  | ⟨id, leading, name, arguments⟩ =>
    refine .get fun s => ?_
    refine (yields_annotationArguments? env arguments).bind fun arguments' same => .pure ?_
    simp [ Annotation.layout, layout_markName, same]

theorem yields_annotations (env : Surroundings) (as : List Annotation) :
    Yields (annotations env as) (layoutAnnotations · = layoutAnnotations as) := by
  match as with
  | [] => exact .pure rfl
  | a :: as =>
    refine (yields_annotated env a).bind fun a' same => ?_
    refine (yields_annotations env as).bind fun as' kept => .pure ?_
    simp [layoutAnnotations, same, kept]

theorem yields_annotationArguments? (env : Surroundings) (c : Option (Container Expression)) :
    Yields (annotationArguments? env c) (layoutExprs? "(" ")" · = layoutExprs? "(" ")" c) := by
  match c with
  | none => exact .pure rfl
  | some ⟨before, elements, close⟩ =>
    refine (yields_annotationArguments env elements).bind fun elements' same => .pure ?_
    simp [layoutExprs?, layoutExprs, layoutExprList_eq, Layout.separate_congr same]

theorem yields_annotationArguments (env : Surroundings) (es : List (Padded Expression)) :
    Yields (annotationArguments env es)
      (shapes Expression.layout · = shapes Expression.layout es) := by
  match es with
  | [] => exact .pure rfl
  | ⟨.assignment id leading target before op value type, after⟩ :: es =>
    rw [annotationArguments]
    refine (yields_expression env none value).bind fun value' same => ?_
    refine (yields_annotationArguments env es).bind fun es' kept => .pure ?_
    simp [Expression.layout, same, kept]
  | ⟨.identifier _, after⟩ :: es | ⟨.literal _, after⟩ :: es
  | ⟨.fieldAccess _, after⟩ :: es | ⟨.methodInvocation _, after⟩ :: es
  | ⟨.newClass .., after⟩ :: es | ⟨.newArray .., after⟩ :: es
  | ⟨.lambda .., after⟩ :: es | ⟨.memberReference .., after⟩ :: es
  | ⟨.binary .., after⟩ :: es | ⟨.unary .., after⟩ :: es | ⟨.ternary .., after⟩ :: es
  | ⟨.parentheses .., after⟩ :: es | ⟨.arrayAccess .., after⟩ :: es
  | ⟨.typeCast .., after⟩ :: es =>
    rw [annotationArguments]
    · refine (yields_expression env none _).bind fun e' same => ?_
      exact (yields_annotationArguments env es).bind fun es' kept => .pure (by simp [same, kept])
    · simp

theorem yields_declaration (env : Surroundings) (declares : Bool) (v : VariableDeclarations) :
    Yields (declaration env declares v) (·.1.layout = v.layout) := by
  match v with
  | ⟨id, leading, notes, modifiers, declaredType, varargs, list⟩ =>
    refine (yields_annotations env notes).bind fun notes' same => ?_
    refine .get fun s => ?_
    refine (yields_namedVariables env declares _ _ list).bind fun list' kept => .pure ?_
    simp [VariableDeclarations.layout, same, layout_markType?, layoutVariables_eq,
      Layout.separate_congr kept]

/-- A variable is declared behind its value, which does not show in the layout. -/
theorem yields_namedVariables (env : Surroundings) (declares : Bool) (type : JavaType)
    (inferred : Bool) (vs : List (Padded NamedVariable)) :
    Yields (namedVariables env declares type inferred vs)
      (shapes NamedVariable.layout · = shapes NamedVariable.layout vs) := by
  match vs with
  | [] => exact .pure rfl
  | ⟨⟨id, leading, name, initializer, declared⟩, after⟩ :: vs =>
    refine (yields_initializer? env _ initializer).bind fun initializer' same => ?_
    extract_lets -underBinder own tail
    have built : Yields (tail ⟨⟩) (shapes NamedVariable.layout · =
        shapes NamedVariable.layout
          (⟨⟨id, leading, name, initializer, declared⟩, after⟩ :: vs)) := by
      refine (yields_namedVariables env declares type inferred vs).bind fun vs' kept => .pure ?_
      simp [NamedVariable.layout, markVariable, Identifier.layout, same, kept]
    exact .ite (.modify built) built

theorem yields_initializer? (env : Surroundings) (expected : Option JavaType)
    (i : Option (LeftPadded Expression)) :
    Yields (initializer? env expected i) (layoutInit · = layoutInit i) := by
  match i with
  | none => exact .pure rfl
  | some ⟨before, e⟩ =>
    exact (yields_expression env expected e).bind fun e' same => .pure (by simp [layoutInit, same])

theorem yields_parameters (env : Surroundings) (vs : List (Padded VariableDeclarations)) :
    Yields (parameters env vs)
      (shapes VariableDeclarations.layout ·.1 = shapes VariableDeclarations.layout vs) := by
  match vs with
  | [] => exact .pure rfl
  | ⟨v, after⟩ :: vs =>
    refine (yields_declaration env true v).bind fun ⟨v', type⟩ same => ?_
    refine (yields_parameters env vs).bind fun ⟨vs', types⟩ kept => .pure ?_
    simp_all

theorem yields_block (env : Surroundings) (b : Block) :
    Yields (block env b) (·.layout = b.layout) := by
  match b with
  | ⟨id, leading, list, close⟩ =>
    refine (yields_statements env list).withScope.bind fun list' same => .pure ?_
    simp [Block.layout, layoutStatements_congr same]

theorem yields_block? (env : Surroundings) (b : Option Block) :
    Yields (block? env b) (fun b' => layoutBlock? b' = layoutBlock? b ∧ b'.isNone = b.isNone) := by
  match b with
  | none => exact .pure ⟨rfl, rfl⟩
  | some b =>
    exact (yields_block env b).bind fun b' same => .pure ⟨by simp [layoutBlock?, same], rfl⟩

theorem yields_classBody? (env : Surroundings) (b : Option Block) :
    Yields (classBody? env b) (layoutBlock? · = layoutBlock? b) := by
  match b with
  | none => exact .pure rfl
  | some b =>
    exact (yields_classBody env b).bind fun b' same => .pure (by simp [layoutBlock?, same])

theorem yields_classBody (env : Surroundings) (b : Block) :
    Yields (classBody env b) (·.layout = b.layout) := by
  match b with
  | ⟨id, leading, list, close⟩ =>
    refine (yields_memberList env list).bind fun list' same => .pure ?_
    simp [Block.layout, layoutStatements_congr same]

/-- Fields are declared with their class, so a declaration among the members declares nothing. -/
theorem yields_memberList (env : Surroundings) (ss : List (Padded Statement)) :
    Yields (memberList env ss) (shapes seen · = shapes seen ss) := by
  match ss with
  | [] => exact .pure rfl
  | ⟨.declaration v, after⟩ :: ss =>
    rw [memberList]
    refine (yields_declaration env false v).bind fun ⟨v', type⟩ same => ?_
    refine (yields_memberList env ss).bind fun ss' kept => .pure ?_
    have head : seen (.declaration v') = seen (.declaration v) := Prod.ext same rfl
    simp only [shapes, List.map_cons, head] at kept ⊢
    rw [kept]
  | ⟨.expression _, after⟩ :: ss | ⟨.block _, after⟩ :: ss
  | ⟨.classDeclaration _, after⟩ :: ss | ⟨.method _, after⟩ :: ss
  | ⟨.returns .., after⟩ :: ss | ⟨.conditional .., after⟩ :: ss
  | ⟨.whileLoop .., after⟩ :: ss | ⟨.forLoop .., after⟩ :: ss
  | ⟨.forEach .., after⟩ :: ss | ⟨.tryBlock .., after⟩ :: ss
  | ⟨.throws .., after⟩ :: ss | ⟨.empty .., after⟩ :: ss | ⟨.doWhile .., after⟩ :: ss
  | ⟨.switch .., after⟩ :: ss | ⟨.breaks .., after⟩ :: ss
  | ⟨.continues .., after⟩ :: ss =>
    rw [memberList]
    · refine (yields_statement env _).bind fun s' same => ?_
      exact (yields_memberList env ss).bind fun ss' kept => .pure (by simp [same, kept])
    · simp

/-- The class is known inside of its own body. -/
theorem yields_classDeclaration (env : Surroundings) (c : ClassDeclaration) :
    Yields (classDeclaration env c) (·.layout = c.layout) := by
  match c with
  | ⟨id, leading, notes, modifiers, keywordLeading, keyword, name, superclass, interfaces, body,
      type⟩ =>
    refine Yields.bind (fun _ => trivial) fun c (_ : True) => ?_
    refine (yields_annotations env notes).bind fun notes' same => ?_
    refine .get fun s => ?_
    refine (yields_classBody _ body).bind fun body' kept => .pure ?_
    cases superclass <;>
      simp [ClassDeclaration.layout, same, kept, layout_markContainer, Identifier.layout,
        layoutSuper, layout_markType]

/-- The parameters are declared in a scope of their own. -/
theorem yields_methodDeclaration (env : Surroundings) (m : MethodDeclaration) :
    Yields (methodDeclaration env m)
      (fun m' => m'.layout = m.layout ∧ m'.body.isNone = m.body.isNone) := by
  match m with
  | ⟨id, leading, notes, modifiers, returnType, name, ⟨before, elements, close⟩, throwing, body,
    _⟩ =>
    refine (yields_annotations env notes).bind fun notes' same => ?_
    refine .get fun s => ?_
    refine .withScope ?_
    refine (yields_parameters env elements).bind fun ⟨elements', types⟩ kept => ?_
    refine (yields_block? _ body).bind fun body' ⟨laid, isNone⟩ => .pure ⟨?_, isNone⟩
    simp [MethodDeclaration.layout, same, layout_markType?, layoutParameters,
      layoutParameterList_eq, Layout.separate_congr kept, layout_markContainer, laid]

theorem yields_statements (env : Surroundings) (ss : List (Padded Statement)) :
    Yields (statements env ss) (shapes seen · = shapes seen ss) := by
  match ss with
  | [] => exact .pure rfl
  | ⟨s, after⟩ :: ss =>
    refine (yields_statement env s).bind fun s' same => ?_
    exact (yields_statements env ss).bind fun ss' kept => .pure (by simp [same, kept])

theorem yields_statement? (env : Surroundings) (s : Option Statement) :
    Yields (statement? env s) (layoutStatement? · = layoutStatement? s) := by
  match s with
  | none => exact .pure rfl
  | some s =>
    exact (yields_statement env s).bind fun s' same => .pure (by simp_all [layoutStatement?, seen])

theorem yields_elseBranch (env : Surroundings) (e : Option Else) :
    Yields (elseBranch env e) (layoutElse · = layoutElse e) := by
  match e with
  | none => exact .pure rfl
  | some ⟨id, leading, ⟨s, after⟩⟩ =>
    refine (yields_statement env s).withScope.bind fun s' same => .pure ?_
    simp_all [layoutElse, seen]

theorem yields_resources (env : Surroundings) (r : Option TryResources) :
    Yields (resources env r) (layoutResources? · = layoutResources? r) := by
  match r with
  | none => exact .pure rfl
  | some ⟨opening, list, terminated, closing⟩ =>
    refine (yields_statements env list).bind fun list' same => .pure ?_
    simp [layoutResources?, layoutResources_congr same]

theorem yields_catches (env : Surroundings) (cs : List Catch) :
    Yields (catches env cs) (layoutCatches · = layoutCatches cs) := by
  match cs with
  | [] => exact .pure rfl
  | ⟨id, leading, opening, ⟨parameter, after⟩, body⟩ :: cs =>
    refine Yields.bind (Yields.withScope (P := fun c =>
      ∀ rest, layoutCatches (c :: rest) =
        layoutCatches (⟨id, leading, opening, ⟨parameter, after⟩, body⟩ :: rest)) ?_)
      fun c same => ?_
    · refine (yields_declaration env true parameter).bind fun ⟨parameter', type⟩ same => ?_
      refine (yields_block env body).bind fun body' kept => .pure fun rest => ?_
      simp_all [layoutCatches]
    · refine (yields_catches env cs).bind fun cs' kept => .pure ?_
      simp [same, layoutCatches, kept]

theorem yields_finalizer? (env : Surroundings) (f : Option (LeftPadded Block)) :
    Yields (finalizer? env f) (layoutFinally · = layoutFinally f) := by
  match f with
  | none => exact .pure rfl
  | some ⟨before, b⟩ =>
    exact (yields_block env b).bind fun b' same => .pure (by simp [layoutFinally, same])

/-- A label is looked up among the constants of the selector. -/
theorem yields_caseLabels (env : Surroundings) (selector : Option ClassType)
    (es : List (Padded Expression)) :
    Yields (caseLabels env selector es)
      (shapes Expression.layout · = shapes Expression.layout es) := by
  match es with
  | [] => exact .pure rfl
  | ⟨e, after⟩ :: es =>
    refine .get fun s => ?_
    extract_lets -underBinder tail
    have built (e' : Expression) (same : e'.layout = e.layout) :
        Yields (tail e')
          (shapes Expression.layout · = shapes Expression.layout (⟨e, after⟩ :: es)) :=
      (yields_caseLabels env selector es).bind fun es' kept => .pure (by simp [same, kept])
    split
    · next e' found => exact built e' (layout_constant? found)
    · exact (yields_expression env none e).bind built

theorem yields_caseBody (env : Surroundings) (b : CaseBody) :
    Yields (caseBody env b) (·.layout = b.layout) := by
  match b with
  | .statements list =>
    refine (yields_statements env list).bind fun list' same => .pure ?_
    simp [CaseBody.layout, layoutStatements_congr same]
  | .rule ⟨s, after⟩ =>
    refine (yields_statement env s).withScope.bind fun s' same => .pure ?_
    simp_all [CaseBody.layout, seen]

theorem yields_switchCases (env : Surroundings) (selector : Option ClassType) (cs : List Case) :
    Yields (switchCases env selector cs) (layoutCases · = layoutCases cs) := by
  match cs with
  | [] => exact .pure rfl
  | ⟨id, leading, labels, separator, body⟩ :: cs =>
    refine (yields_caseLabels env selector labels).bind fun labels' same => ?_
    refine (yields_caseBody env body).bind fun body' kept => ?_
    refine (yields_switchCases env selector cs).bind fun cs' more => .pure ?_
    have labelled : labels'.isEmpty = labels.isEmpty := by
      have := congrArg List.isEmpty same
      simpa [shapes] using this
    simp [layoutCases, labelled, layoutExprList_eq, Layout.separate_congr same, kept, more]

theorem yields_parenthesized (env : Surroundings) (e : Parenthesized) :
    Yields (parenthesized env e) (·.layout = e.layout) := by
  match e with
  | ⟨opening, tree, closing⟩ =>
    exact (yields_expression env none tree).bind fun tree' same =>
      .pure (by simp [Parenthesized.layout, same])

/-- One case for each kind of statement; the loops and the blocks open scopes. -/
theorem yields_statement (env : Surroundings) (s : Statement) :
    Yields (statement env s) (seen · = seen s) := by
  match s with
  | .expression e =>
    refine (yields_expression env none e).bind fun e' same => .pure ?_
    simp [seen, Statement.layout, Statement.needsSemicolon, same]
  | .declaration v =>
    refine (yields_declaration env true v).bind fun ⟨v', type⟩ same => .pure ?_
    simp_all [seen, Statement.layout, Statement.needsSemicolon]
  | .block b =>
    refine (yields_block env b).bind fun b' same => .pure ?_
    simp [seen, Statement.layout, Statement.needsSemicolon, same]
  | .classDeclaration c =>
    refine (yields_classDeclaration env c).bind fun c' same => .pure ?_
    simp [seen, Statement.layout, Statement.needsSemicolon, same]
  | .method m =>
    refine (yields_methodDeclaration env m).bind fun m' ⟨same, isNone⟩ => .pure ?_
    simp only [seen, Statement.layout, Statement.needsSemicolon, same, isNone]
  | .returns id leading none =>
    exact .pure rfl
  | .returns id leading (some e) =>
    refine (yields_expression env _ e).bind fun e' same => .pure ?_
    simp [seen, Statement.layout, Statement.needsSemicolon, layoutExpr?, same]
  | .conditional id leading condition ⟨whenTrue, after⟩ whenFalse =>
    refine (yields_parenthesized env condition).bind fun condition' same => ?_
    refine (yields_statement env whenTrue).withScope.bind fun whenTrue' kept => ?_
    refine (yields_elseBranch env whenFalse).bind fun whenFalse' same' => .pure ?_
    simp_all [seen, Statement.layout, Statement.needsSemicolon]
  | .whileLoop id leading condition ⟨body, after⟩ =>
    refine (yields_parenthesized env condition).bind fun condition' same => ?_
    refine (yields_statement env body).withScope.bind fun body' kept => .pure ?_
    simp_all [seen, Statement.layout, Statement.needsSemicolon]
  | .forLoop id leading opening init afterInit condition afterCondition update closing
      ⟨body, after⟩ =>
    refine .withScope ?_
    refine (yields_statement? env init).bind fun init' same => ?_
    refine (yields_expression? env condition).bind fun condition' same' => ?_
    refine (yields_expressions env none update).bind fun update' kept => ?_
    refine (yields_statement env body).bind fun body' kept' => .pure ?_
    simp_all [seen, Statement.layout, Statement.needsSemicolon, layoutExprList_eq,
      Layout.separate_congr kept]
  | .forEach id leading opening ⟨binder, afterBinder⟩ ⟨iterable, afterIterable⟩ ⟨body, after⟩ =>
    refine .withScope ?_
    refine (yields_expression env none iterable).bind fun iterable' same => ?_
    refine .get fun s => ?_
    refine (yields_declaration env true binder).bind fun ⟨binder', type⟩ same' => ?_
    have built : Yields (do
          let body ← statement env body
          return Statement.forEach id leading opening ⟨binder', afterBinder⟩
            ⟨iterable', afterIterable⟩ ⟨body, after⟩)
        (seen · = seen (.forEach id leading opening ⟨binder, afterBinder⟩
          ⟨iterable, afterIterable⟩ ⟨body, after⟩)) := by
      refine (yields_statement env body).bind fun body' kept => .pure ?_
      simp_all [seen, Statement.layout, Statement.needsSemicolon]
    exact .ite (.modify built) built
  | .tryBlock id leading list body handlers final =>
    refine Yields.bind (Yields.withScope (P := fun x : Option TryResources × Block =>
      layoutResources? x.1 = layoutResources? list ∧ x.2.layout = body.layout) ?_)
      fun ⟨list', body'⟩ ⟨same, same'⟩ => ?_
    · refine (yields_resources env list).bind fun list' same => ?_
      exact (yields_block env body).bind fun body' kept => .pure ⟨same, kept⟩
    · refine (yields_catches env handlers).bind fun handlers' kept => ?_
      refine (yields_finalizer? env final).bind fun final' kept' => .pure ?_
      simp_all [seen, Statement.layout, Statement.needsSemicolon]
  | .throws id leading exception =>
    refine (yields_expression env none exception).bind fun exception' same => .pure ?_
    simp [seen, Statement.layout, Statement.needsSemicolon, same]
  | .empty id leading =>
    exact .pure rfl
  | .doWhile id leading ⟨body, after⟩ whileLeading condition =>
    refine (yields_statement env body).withScope.bind fun body' kept => ?_
    refine (yields_parenthesized env condition).bind fun condition' same => .pure ?_
    simp_all [seen, Statement.layout, Statement.needsSemicolon]
  | .switch id leading selector opening list closing =>
    refine (yields_parenthesized env selector).bind fun selector' same => ?_
    refine (yields_switchCases env _ list).withScope.bind fun list' kept => .pure ?_
    simp [seen, Statement.layout, Statement.needsSemicolon, same, kept]
  | .breaks id leading label =>
    exact .pure rfl
  | .continues id leading label =>
    exact .pure rfl

end

theorem yields_classes (env : Surroundings) (cs : List ClassDeclaration) :
    Yields (classes env cs) (Layout.each ClassDeclaration.layout · =
      Layout.each ClassDeclaration.layout cs) := by
  induction cs with
  | nil => exact .pure rfl
  | cons c cs ih =>
    refine (yields_classDeclaration env c).bind fun c' same => ?_
    exact ih.bind fun cs' kept => .pure (by simp [Layout.each, same, kept])

end Attribution

/-- Attribution changes no piece of the layout. -/
theorem layout_attribute (u : CompilationUnit) (classpath : Classpath)
    (bindings : List (String × JavaType)) : (u.attribute classpath bindings).layout = u.layout := by
  have classes : Layout.each ClassDeclaration.layout (u.attribute classpath bindings).classes =
      Layout.each ClassDeclaration.layout u.classes :=
    Attribution.yields_classes { bindings } u.classes { names := Attribution.namesOf u classpath }
  have imports (f : Padded Import → Layout)
    (same : ∀ g p, f { p with element := Names.markImport g p.element } = f p) :
      Layout.each f (u.attribute classpath bindings).imports = Layout.each f u.imports := by
    show Layout.each f (u.imports.map _) = _
    induction u.imports with
    | nil => rfl
    | cons p ps ih => rw [List.map_cons, Layout.each, Layout.each, ih, same]
  rw [CompilationUnit.layout, classes, imports]
  · rfl
  · intro g p
    simp only [Names.layout_markImport]

end Retouch
