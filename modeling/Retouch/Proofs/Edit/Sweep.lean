import Retouch.Proofs.Edit.Trace

/-!
# Edits of every stop

An editor of identifiers and calls takes each of them in its turn, a call behind the calls in its
receiver and in its arguments. `Sweep r` is a relation between the layout of a part and that of what
the editor makes of it, with the stops of a walk through the part as its index: none is passed over,
other than with `Watch`, whose replacements do not tell which nodes were left alone.

The relation goes through parts side by side, and it holds of a call if it holds of its parts
(`Sweep.onCall`). Then it holds of the classes of a unit, with all their stops (`sweeps_unit`).
-/

namespace Retouch

/-- The nodes that an editor of identifiers and calls is asked about. -/
def Node.isHanded : Node → Bool
  | .expression (.identifier _) | .expression (.methodInvocation _) => true
  | _ => false

theorem Visit.invocation?_eq_none {v : Visit} (unasked : v.node.isHanded = false) :
    v.invocation? = none := by
  unfold invocation?
  split
  · next here =>
    rw [here] at unasked
    cases unasked
  · rfl

/-- An expression behind an edit, and what is known of it besides its layout. -/
structure Swept (R : List Visit → Layout → Layout → Prop) (fits : Expression → Expression → Prop)
    (vs : List Visit) (e e' : Expression) : Prop where
  layout : R vs e.layout e'.layout
  fits : fits e e'

/-- A statement behind an edit. -/
def SweptStatement (r : Editor) (R : List Visit → Layout → Layout → Prop) (vs : List Visit)
    (s s' : Statement) : Prop :=
  AltersStatement R vs s s' ∧ (r.keepsKinds = true → s'.kind = s.kind)

section Lists

variable {R : List Visit → Layout → Layout → Prop} [Compatible R]
  {fits : Expression → Expression → Prop} {r : Editor} {vs : List Visit}

/-- Arguments that were swept one by one are swept as a list. -/
theorem All.swept {ps ps' : List (Padded Expression)} (h : All (Swept R fits) vs ps ps') :
    R vs (layoutExprList ps) (layoutExprList ps') :=
  All.exprs (h.mono fun _ _ _ fits => fits.layout)

/-- Brackets stay as they are. -/
theorem Within.swept {opening closing : String} {c c' : Container Expression}
    (h : Within (Swept R fits) vs c c') :
    R vs (layoutExprs opening closing c) (layoutExprs opening closing c') := by
  cases h with
  | mk all => exact Within.exprs (.mk (all.mono fun _ _ _ fits => fits.layout))

/-- A statement ends as before, so the semicolons of a list stay where they are. -/
theorem All.sweptStatements {ps ps' : List (Padded Statement)}
    (h : All (SweptStatement r R) vs ps ps') :
    R vs (layoutStatements ps) (layoutStatements ps') :=
  All.statements (h.mono fun _ _ _ fits => fits.1)

theorem All.sweptResources {terminated : Bool} {ps ps' : List (Padded Statement)}
    (h : All (SweptStatement r R) vs ps ps') :
    R vs (layoutResources terminated ps) (layoutResources terminated ps') :=
  All.resources (h.mono fun _ _ _ fits => fits.1)

end Lists

/-- What an editor of identifiers and calls makes of layouts, from states that are good. -/
structure Sweep (r : Editor) where
  good : EditState → Prop
  rel : List Visit → Layout → Layout → Prop
  fits : Expression → Expression → Prop
  going : ∀ {s}, good s → (s.failure.isSome || s.session.cancelled) = false
  same : ∀ l, rel [] l l
  beside : ∀ {vs vs' a a' b b'}, rel vs a a' → rel vs' b b' → rel (vs ++ vs') (a ++ b) (a' ++ b')
  /-- A stop at a node with parts, and one at a node that nobody asks about. -/
  stop : ∀ {v vs l l'}, v.node.isHanded = false → v.node.layout = l → rel vs l l' →
    rel (v :: vs) l l'
  keepsKind : ∀ {e e'}, r.keepsKinds = true → fits e e' → e'.kind = e.kind
  rebuilt : ∀ {e e'}, (∀ n, e ≠ .literal n) → e'.kind = e.kind → fits e e'
  onUnit : ∀ u, r.onUnit u = pure ()
  onImport : ∀ i, r.onImport i = pure none
  onLiteral : ∀ n, r.onLiteral n = pure none
  literal : ∀ n, fits (.literal n) (.literal n)
  onClass : ∀ c, r.onClass c = pure none
  onIdentifier : ∀ n p scope s, good s → ∀ out t, r.onIdentifier p n scope s = (out, t) →
    good t ∧ fits (.identifier n) (out.getD (.identifier n)) ∧
      rel [⟨.expression (.identifier n), p⟩] n.layout (out.getD (.identifier n)).layout
  onCall : ∀ m {select elements} p scope s, good s →
    rel (insideSelect m.select p) (layoutSelect m.select) (layoutSelect select) →
    All (Swept rel fits) (insideExprList m.arguments.elements p) m.arguments.elements elements →
    ∀ out t, r.onCall (m.withParts select elements) scope s = (out, t) →
      good t ∧ fits (.methodInvocation m)
        (out.getD (.methodInvocation (m.withParts select elements))) ∧
        rel (⟨.expression (.methodInvocation m), p⟩ :: m.inside p) m.layout
          (out.getD (.methodInvocation (m.withParts select elements))).layout

namespace Sweep

variable {r : Editor} {w : Sweep r}

section Relation

variable {vs : List Visit} {l l' : Layout}

instance : Compatible w.rel := ⟨w.same, w.beside⟩

/-- What stands side by side is swept side by side. -/
theorem rel.beside {vs' : List Visit} {b b' : Layout} (h : w.rel vs l l') (h' : w.rel vs' b b') :
    w.rel (vs ++ vs') (l ++ b) (l' ++ b') :=
  w.beside h h'

theorem rel.left {b : Layout} (h : w.rel vs l l') : w.rel vs (l ++ b) (l' ++ b) := Compatible.left h

theorem rel.right {a : Layout} (h : w.rel vs l l') : w.rel vs (a ++ l) (a ++ l') :=
  Compatible.right h

/-- A node keeps its frame. -/
theorem rel.node {id : NodeId} {leading : Space} (h : w.rel vs l l') :
    w.rel vs (node id leading l) (node id leading l') :=
  Compatible.node h

end Relation

/-- From a good state, a part of the walk ends in a good one, with a result that has a property. -/
def Ends {α : Type} (w : Sweep r) (x : Edit α) (Q : α → Prop) : Prop :=
  ∀ scope s, w.good s → w.good (x scope s).2 ∧ Q (x scope s).1

namespace Ends

variable {α β : Type} {x : Edit α} {k : α → Edit β} {P : α → Prop} {Q : β → Prop} {n : Node}
  {up : List Node} {vs : List Visit}

theorem pure {a : α} (h : P a) : w.Ends (pure a) P := fun _ _ good => ⟨good, h⟩

/-- Good states are handed on. -/
theorem bind (hx : w.Ends x P) (hk : ∀ a, P a → w.Ends (k a) Q) : w.Ends (x >>= k) Q := by
  intro scope s good
  obtain ⟨good', holds⟩ := hx scope s good
  exact hk _ holds scope _ good'

theorem map {f : α → β} (hx : w.Ends x P) (hf : ∀ a, P a → Q (f a)) :
    w.Ends (do return f (← x)) Q :=
  hx.bind fun a holds => .pure (hf a holds)

theorem mono {Q : α → Prop} (hx : w.Ends x P) (weaken : ∀ a, P a → Q a) : w.Ends x Q :=
  fun scope s good => ⟨(hx scope s good).1, weaken _ (hx scope s good).2⟩

/-- A visitor that is asked at a node answers behind the edits inside of it. -/
theorem enter {a : α} {inside : List Node → Edit (Edited α)} {P : Edited α → Prop}
    (h : w.Ends (inside (n :: up)) P) : w.Ends (Edit.enter n a up inside) P := by
  intro scope s good
  rw [enter_run, w.going good]
  exact h scope s good

/-- An expression that keeps its kind is not refused. -/
theorem expression {e : Expression}
    (h : w.Ends (e.editInside r (.expression e :: up)) fun out =>
      Swept w.rel w.fits vs e out.value) :
    w.Ends (Edit.enterExpression r e up (e.editInside r)) fun out =>
      Swept w.rel w.fits vs e out.value := by
  refine .enter (h.bind fun out swept => ?_)
  rw [keepKind_eq fun keeps => w.keepsKind keeps swept.fits]
  exact .pure swept

theorem statement {s : Statement}
    (h : w.Ends (s.editInside r (.statement s :: up)) fun out =>
      SweptStatement r w.rel vs s out.value) :
    w.Ends (Edit.enterStatement r s up (s.editInside r))
      fun out => SweptStatement r w.rel vs s out.value := by
  refine .enter (h.bind fun out swept => ?_)
  rw [keepKind_eq swept.2]
  exact .pure swept

theorem cons {p : Edit (Edited α)} {p' : Edit (Edited (List (Padded α)))}
    {S : List Visit → α → α → Prop} {vs vs' : List Visit} {a : α} {after : Space}
    {ps : List (Padded α)} (head : w.Ends p fun out => S vs a out.value)
    (tail : w.Ends p' fun out => All S vs' ps out.value) :
    w.Ends (do
      let e ← p
      let es ← p'
      return (⟨⟨e.value, after⟩ :: es.value, e.touched ++ es.touched⟩ : Edited (List (Padded α))))
      fun out => All S (vs ++ vs') (⟨a, after⟩ :: ps) out.value :=
  head.bind fun _ h => tail.bind fun _ h' => .pure (.cons h h')

end Ends

variable (w)

mutual

/-- Inside of every expression the parts are swept, one case for each kind. -/
theorem sweeps_expression (e : Expression) (p : List Node) :
    w.Ends (e.editInside r p) fun out =>
      Swept w.rel w.fits (⟨.expression e, p⟩ :: e.inside p) e out.value := by
  match e with
  | .identifier n =>
    intro scope s good
    obtain ⟨good', fits, layout⟩ := w.onIdentifier n p scope s good _ _ rfl
    refine ⟨good', ?_⟩
    change Swept w.rel w.fits _ _ (Edited.replacedBy _ _ (r.onIdentifier p n scope s).1).value
    generalize (r.onIdentifier p n scope s).1 = out at fits layout ⊢
    cases out with
    | none => exact ⟨layout, fits⟩
    | some e => exact ⟨layout, fits⟩
  | .literal n =>
    rw [Expression.editInside, w.onLiteral]
    exact .pure ⟨w.stop rfl rfl (w.same _), w.literal n⟩
  | .fieldAccess n =>
    exact (sweeps_fieldAccess n p).map fun _ h => ⟨w.stop rfl rfl h, w.rebuilt nofun rfl⟩
  | .methodInvocation ⟨id, leading, select, name, ⟨before, elements, close⟩, method⟩ =>
    refine (sweeps_select select p).bind fun select' h => ?_
    refine (sweeps_exprs ⟨before, elements, close⟩ p).bind fun arguments' h' scope s good => ?_
    obtain ⟨arguments', touched⟩ := arguments'
    cases h' with
    | mk all =>
      obtain ⟨good', fits, layout⟩ :=
        w.onCall ⟨id, leading, select, name, ⟨before, elements, close⟩, method⟩ p scope s good h
          all _ _ rfl
      refine ⟨good', ?_⟩
      change Swept w.rel w.fits _ _ (Edited.replacedBy _ _ (r.onCall _ scope s).1).value
      unfold MethodInvocation.withParts at fits layout
      dsimp only [Edited.rebuilt]
      generalize (r.onCall _ scope s).1 = out at fits layout ⊢
      cases out with
      | none => exact ⟨layout, fits⟩
      | some e => exact ⟨layout, fits⟩
  | .newClass id leading clazz arguments body type =>
    refine (Ends.enter (sweeps_type clazz _)).bind fun clazz' h₁ => ?_
    refine (sweeps_exprs arguments p).bind fun arguments' h₂ => ?_
    refine (sweeps_block? body p).bind fun body' h₃ =>
      .pure ⟨w.stop rfl rfl ?_, w.rebuilt nofun rfl⟩
    exact .node (((w.stop rfl rfl h₁).right.beside h₂.swept).beside h₃.1)
  | .newArray id leading elementType dimensions initializer type =>
    refine (sweeps_type? elementType p).bind fun elementType' h₁ => ?_
    refine (sweeps_dimensions dimensions p).bind fun dimensions' h₂ => ?_
    refine (sweeps_exprs? "\x7b" "\x7d" initializer p).bind
      fun initializer' h₃ => .pure ⟨w.stop rfl rfl ?_, w.rebuilt nofun rfl⟩
    exact .node ((h₁.2.beside h₂).beside h₃)
  | .lambda id leading parenthesized parameters arrow body type =>
    refine (sweeps_parameters parameters p).bind fun parameters' h₁ => ?_
    refine (sweeps_lambdaBody body p).bind fun body' h₂ =>
      .pure ⟨w.stop rfl rfl ?_, w.rebuilt nofun rfl⟩
    cases parenthesized with
    | true => exact .node (h₁.parameters.left.left.beside h₂)
    | false =>
      cases parameters
      obtain ⟨⟨_, _, _⟩, _⟩ := parameters'
      cases h₁ with
      | mk all => exact .node (all.bareParameters.left.left.beside h₂)
  | .memberReference id leading containing colons name type =>
    refine (Ends.expression (sweeps_expression containing _)).bind
      fun containing' h => .pure ⟨w.stop rfl rfl ?_, w.rebuilt nofun rfl⟩
    exact .node h.layout.left.left.left
  | .binary id leading left before op right type =>
    refine (Ends.expression (sweeps_expression left _)).bind fun left' h₁ => ?_
    refine (Ends.expression (sweeps_expression right _)).bind
      fun right' h₂ => .pure ⟨w.stop rfl rfl ?_, w.rebuilt nofun rfl⟩
    exact .node (h₁.layout.left.left.beside h₂.layout)
  | .unary id leading before op operand type =>
    refine (Ends.expression (sweeps_expression operand _)).bind
      fun operand' h => .pure ⟨w.stop rfl rfl (.node ?_), w.rebuilt nofun rfl⟩
    split
    · exact h.layout.left.left
    · exact h.layout.right
  | .assignment id leading target before op value type =>
    refine (Ends.expression (sweeps_expression target _)).bind fun target' h₁ => ?_
    refine (Ends.expression (sweeps_expression value _)).bind
      fun value' h₂ => .pure ⟨w.stop rfl rfl ?_, w.rebuilt nofun rfl⟩
    exact .node (h₁.layout.left.left.beside h₂.layout)
  | .ternary id leading condition ⟨question, whenTrue⟩ ⟨colon, whenFalse⟩ type =>
    refine (Ends.expression (sweeps_expression condition _)).bind fun condition' h₁ => ?_
    refine (Ends.expression (sweeps_expression whenTrue _)).bind fun whenTrue' h₂ => ?_
    refine (Ends.expression (sweeps_expression whenFalse _)).bind
      fun whenFalse' h₃ => .pure ⟨w.stop rfl rfl ?_, w.rebuilt nofun rfl⟩
    exact .node ((h₁.layout.left.left.beside h₂.layout).left.left.beside h₃.layout)
  | .parentheses id leading ⟨tree, after⟩ =>
    refine (Ends.expression (sweeps_expression tree _)).bind
      fun tree' h => .pure ⟨w.stop rfl rfl ?_, w.rebuilt nofun rfl⟩
    exact .node h.layout.right.left.left
  | .arrayAccess id leading indexed dimension type =>
    refine (Ends.expression (sweeps_expression indexed _)).bind fun indexed' h₁ => ?_
    refine (sweeps_dimension dimension p).bind fun dimension' h₂ =>
      .pure ⟨w.stop rfl rfl ?_, w.rebuilt nofun rfl⟩
    exact .node (h₁.layout.beside h₂)
  | .typeCast id leading ⟨clazz, after⟩ operand type =>
    refine (Ends.enter (sweeps_type clazz _)).bind fun clazz' h₁ => ?_
    refine (Ends.expression (sweeps_expression operand _)).bind
      fun operand' h₂ => .pure ⟨w.stop rfl rfl ?_, w.rebuilt nofun rfl⟩
    exact .node ((w.stop rfl rfl h₁).right.left.left.beside h₂.layout)

theorem sweeps_fieldAccess (n : FieldAccess) (p : List Node) :
    w.Ends (n.editInside r p) fun out => w.rel (n.inside p) n.layout out.value.layout := by
  match n with
  | ⟨id, leading, target, dot, name, type⟩ =>
    exact (Ends.expression (sweeps_expression target _)).map fun _ h =>
      .node h.layout.left.left.left

theorem sweeps_select (s : Option (Padded Expression)) (p : List Node) :
    w.Ends (editSelect r s p) fun out =>
      w.rel (insideSelect s p) (layoutSelect s) (layoutSelect out.value) := by
  match s with
  | none => exact .pure (w.same _)
  | some ⟨e, after⟩ =>
    exact (Ends.expression (sweeps_expression e _)).map fun _ h => h.layout.left.left

theorem sweeps_exprList (es : List (Padded Expression)) (p : List Node) :
    w.Ends (editExprList r es p) fun out =>
      All (Swept w.rel w.fits) (insideExprList es p) es out.value := by
  match es with
  | [] => exact .pure .nil
  | ⟨e, after⟩ :: es => exact .cons (.expression (sweeps_expression e _)) (sweeps_exprList es p)

theorem sweeps_exprs (c : Container Expression) (p : List Node) :
    w.Ends (editExprs r c p) fun out =>
      Within (Swept w.rel w.fits) (insideExprs c p) c out.value := by
  match c with
  | ⟨before, elements, close⟩ => exact (sweeps_exprList elements p).map fun _ all => .mk all

theorem sweeps_exprs? (opening closing : String) (c : Option (Container Expression))
    (p : List Node) :
    w.Ends (editExprs? r c p) fun out =>
      w.rel (insideExprs? c p) (layoutExprs? opening closing c)
        (layoutExprs? opening closing out.value) := by
  match c with
  | none => exact .pure (w.same _)
  | some c => exact (sweeps_exprs c p).map fun _ h => h.swept

theorem sweeps_expr? (e : Option Expression) (p : List Node) :
    w.Ends (editExpr? r e p) fun out =>
      w.rel (insideExpr? e p) (layoutExpr? e) (layoutExpr? out.value) := by
  match e with
  | none => exact .pure (w.same _)
  | some e => exact (Ends.expression (sweeps_expression e _)).map fun _ h => h.layout

theorem sweeps_dimension (d : ArrayDimension) (p : List Node) :
    w.Ends (d.editInside r p) fun out => w.rel (d.inside p) d.layout out.value.layout := by
  match d with
  | ⟨opening, index, closing⟩ => exact (sweeps_expr? index p).map fun _ h => h.right.left.left

theorem sweeps_dimensions (ds : List ArrayDimension) (p : List Node) :
    w.Ends (editDimensions r ds p) fun out =>
      w.rel (insideDimensions ds p) (layoutDimensions ds) (layoutDimensions out.value) := by
  match ds with
  | [] => exact .pure (w.same _)
  | d :: ds =>
    exact (sweeps_dimension d p).bind fun _ h => (sweeps_dimensions ds p).map fun _ h' =>
      h.beside h'

theorem sweeps_lambdaBody (b : LambdaBody) (p : List Node) :
    w.Ends (b.editInside r p) fun out => w.rel (b.inside p) b.layout out.value.layout := by
  match b with
  | .expression e => exact (Ends.expression (sweeps_expression e _)).map fun _ h => h.layout
  | .block b => exact (Ends.enter (sweeps_block b _)).map fun _ h => w.stop rfl rfl h

theorem sweeps_type? (t : Option TypeTree) (p : List Node) :
    w.Ends (editType? r t p) fun out =>
      w.rel (insideType? t p) (layoutType? t) (layoutType? out.value) ∧
        w.rel (insideType? t p) (layoutNewType t) (layoutNewType out.value) := by
  match t with
  | none => exact .pure ⟨w.same _, w.same _⟩
  | some t =>
    exact (Ends.enter (sweeps_type t _)).map fun _ h => ⟨w.stop rfl rfl h, (w.stop rfl rfl h).right⟩

/-- Types are swept as expressions are. -/
theorem sweeps_type (t : TypeTree) (p : List Node) :
    w.Ends (t.editInside r p) fun out => w.rel (t.inside p) t.layout out.value.layout := by
  match t with
  | .named e => exact (Ends.expression (sweeps_expression e _)).map fun _ h => h.layout
  | .primitive id leading kind => exact .pure (w.same _)
  | .parameterized id leading clazz arguments type =>
    refine (Ends.expression (sweeps_expression clazz _)).bind fun clazz' h₁ => ?_
    exact (sweeps_types arguments p).map fun _ h₂ => .node (h₁.layout.beside h₂.types)
  | .array id leading element opening closing type =>
    exact (Ends.enter (sweeps_type element _)).map fun _ h =>
      .node (w.stop rfl rfl h).left.left.left.left
  | .wildcard id leading bound bounded =>
    exact (sweeps_type? bounded p).map fun _ h => .node h.1.right

theorem sweeps_typeList (ts : List (Padded TypeTree)) (p : List Node) :
    w.Ends (editTypeList r ts p) fun out =>
      All (Alters w.rel TypeTree.layout) (insideTypeList ts p) ts out.value := by
  match ts with
  | [] => exact .pure .nil
  | ⟨t, after⟩ :: ts =>
    exact .cons ((Ends.enter (sweeps_type t _)).mono fun _ h => w.stop rfl rfl h)
      (sweeps_typeList ts p)

theorem sweeps_types (c : Container TypeTree) (p : List Node) :
    w.Ends (editTypes r c p) fun out =>
      Within (Alters w.rel TypeTree.layout) (insideTypes c p) c out.value := by
  match c with
  | ⟨before, elements, close⟩ => exact (sweeps_typeList elements p).map fun _ all => .mk all

theorem sweeps_types? (opening closing : String) (c : Option (Container TypeTree)) (p : List Node) :
    w.Ends (editTypes? r c p) fun out =>
      w.rel (insideTypes? c p) (layoutTypes? opening closing c)
        (layoutTypes? opening closing out.value) := by
  match c with
  | none => exact .pure (w.same _)
  | some c => exact (sweeps_types c p).map fun _ h => h.types

theorem sweeps_parameterList (vs : List (Padded VariableDeclarations)) (p : List Node) :
    w.Ends (editParameterList r vs p) fun out =>
      All (Alters w.rel VariableDeclarations.layout) (insideParameterList vs p) vs out.value := by
  match vs with
  | [] => exact .pure .nil
  | ⟨v, after⟩ :: vs =>
    exact .cons ((Ends.enter (sweeps_declaration v _)).mono fun _ h => w.stop rfl rfl h)
      (sweeps_parameterList vs p)

theorem sweeps_parameters (c : Container VariableDeclarations) (p : List Node) :
    w.Ends (editParameters r c p) fun out =>
      Within (Alters w.rel VariableDeclarations.layout) (insideParameters c p) c out.value := by
  match c with
  | ⟨before, elements, close⟩ => exact (sweeps_parameterList elements p).map fun _ all => .mk all

/-- The variables of a declaration are swept one by one. -/
theorem sweeps_declaration (v : VariableDeclarations) (p : List Node) :
    w.Ends (v.editInside r p) fun out => w.rel (v.inside p) v.layout out.value.layout := by
  match v with
  | ⟨id, leading, annotations, modifiers, declaredType, varargs, declarators⟩ =>
    refine (sweeps_annotations annotations p).bind fun annotations' h₁ => ?_
    refine (sweeps_type? declaredType p).bind fun declaredType' h₂ => ?_
    exact (sweeps_variables declarators p).map
      fun _ h₃ => .node ((h₁.left.beside h₂.1).left.beside h₃.declarators)

theorem sweeps_variable (v : NamedVariable) (p : List Node) :
    w.Ends (v.editInside r p) fun out => w.rel (v.inside p) v.layout out.value.layout := by
  match v with
  | ⟨id, leading, name, initializer, type⟩ =>
    exact (sweeps_init initializer p).map fun _ h => .node h.right

theorem sweeps_init (e : Option (LeftPadded Expression)) (p : List Node) :
    w.Ends (editInit r e p) fun out =>
      w.rel (insideInit e p) (layoutInit e) (layoutInit out.value) := by
  match e with
  | none => exact .pure (w.same _)
  | some ⟨before, e⟩ =>
    exact (Ends.expression (sweeps_expression e _)).map fun _ h => h.layout.right

theorem sweeps_variables (vs : List (Padded NamedVariable)) (p : List Node) :
    w.Ends (editVariables r vs p) fun out =>
      All (Alters w.rel NamedVariable.layout) (insideVariables vs p) vs out.value := by
  match vs with
  | [] => exact .pure .nil
  | ⟨v, after⟩ :: vs => exact .cons (sweeps_variable v p) (sweeps_variables vs p)

theorem sweeps_annotated (a : Annotation) (p : List Node) :
    w.Ends (a.editInside r p) fun out => w.rel (a.inside p) a.layout out.value.layout := by
  match a with
  | ⟨id, leading, name, arguments⟩ =>
    refine (Ends.expression (sweeps_expression name _)).bind fun name' h₁ => ?_
    exact (sweeps_exprs? "(" ")" arguments p).map fun _ h₂ => .node (h₁.layout.right.beside h₂)

theorem sweeps_annotations (as : List Annotation) (p : List Node) :
    w.Ends (editAnnotations r as p) fun out =>
      w.rel (insideAnnotations as p) (layoutAnnotations as) (layoutAnnotations out.value) := by
  match as with
  | [] => exact .pure (w.same _)
  | a :: as =>
    refine (Ends.enter (sweeps_annotated a _)).bind fun _ h => ?_
    exact (sweeps_annotations as p).map fun _ h' => (w.stop rfl rfl h).beside h'

theorem sweeps_block (b : Block) (p : List Node) :
    w.Ends (b.editInside r p) fun out => w.rel (b.inside p) b.layout out.value.layout := by
  match b with
  | ⟨id, leading, statements, close⟩ =>
    exact (sweeps_statements statements p).map fun _ h => .node h.sweptStatements.right.left.left

theorem sweeps_block? (b : Option Block) (p : List Node) :
    w.Ends (editBlock? r b p) fun out =>
      w.rel (insideBlock? b p) (layoutBlock? b) (layoutBlock? out.value) ∧
        out.value.isNone = b.isNone := by
  match b with
  | none => exact .pure ⟨w.same _, rfl⟩
  | some b => exact (Ends.enter (sweeps_block b _)).map fun _ h => ⟨w.stop rfl rfl h, rfl⟩

theorem sweeps_statements (ss : List (Padded Statement)) (p : List Node) :
    w.Ends (editStatements r ss p) fun out =>
      All (SweptStatement r w.rel) (insideStatements ss p) ss out.value := by
  match ss with
  | [] => exact .pure .nil
  | ⟨s, after⟩ :: ss => exact .cons (.statement (sweeps_statement s _)) (sweeps_statements ss p)

theorem sweeps_resources? (t : Option TryResources) (p : List Node) :
    w.Ends (editResources? r t p) fun out =>
      w.rel (insideResources? t p) (layoutResources? t) (layoutResources? out.value) := by
  match t with
  | none => exact .pure (w.same _)
  | some ⟨opening, resources, terminated, closing⟩ =>
    exact (sweeps_statements resources p).map fun _ h => h.sweptResources.right.left.left

/-- A class is swept in its annotations, its types and its body. -/
theorem sweeps_class (c : ClassDeclaration) (p : List Node) :
    w.Ends (c.editInside r p) fun out => w.rel (c.inside p) c.layout out.value.layout := by
  match c with
  | ⟨id, leading, annotations, modifiers, keywordLeading, keyword, name, superclass, interfaces,
      body, type⟩ =>
    refine (sweeps_annotations annotations p).bind fun annotations' h₁ => ?_
    refine (sweeps_super superclass p).bind fun superclass' h₂ => ?_
    refine (sweeps_types? keyword.listKeyword "" interfaces p).bind fun interfaces' h₃ => ?_
    refine (Ends.enter (sweeps_block body _)).bind fun body' h₄ => ?_
    rw [Edit.finishClass, w.onClass]
    exact .pure (.node (((h₁.left.left.left.left.beside h₂).beside h₃).beside (w.stop rfl rfl h₄)))

theorem sweeps_super (t : Option (LeftPadded TypeTree)) (p : List Node) :
    w.Ends (editSuper r t p) fun out =>
      w.rel (insideSuper t p) (layoutSuper t) (layoutSuper out.value) := by
  match t with
  | none => exact .pure (w.same _)
  | some ⟨before, t⟩ => exact (Ends.enter (sweeps_type t _)).map fun _ h => (w.stop rfl rfl h).right

/-- A method is swept in its parts; its name and its modifiers stay. -/
theorem sweeps_method (m : MethodDeclaration) (p : List Node) :
    w.Ends (m.editInside r p) fun out =>
      w.rel (m.inside p) m.layout out.value.layout ∧ out.value.body.isNone = m.body.isNone := by
  match m with
  | ⟨id, leading, annotations, modifiers, returnType, name, parameters, throwing, body, method⟩ =>
    refine (sweeps_annotations annotations p).bind fun annotations' h₁ => ?_
    refine (sweeps_type? returnType p).bind fun returnType' h₂ => ?_
    refine (sweeps_parameters parameters p).bind fun parameters' h₃ => ?_
    refine (sweeps_types? "throws" "" throwing p).bind fun throwing' h₄ => ?_
    refine (sweeps_block? body p).map fun body' h₅ => ⟨.node ?_, h₅.2⟩
    exact (((h₁.left.beside h₂.1).left.beside h₃.parameters).beside h₄).beside h₅.1

theorem sweeps_parenthesized (t : Parenthesized) (p : List Node) :
    w.Ends (t.editInside r p) fun out => w.rel (t.inside p) t.layout out.value.layout := by
  match t with
  | ⟨opening, tree, closing⟩ =>
    exact (Ends.expression (sweeps_expression tree _)).map fun _ h => h.layout.right.left.left

/-- A case is swept in its labels and its body. -/
theorem sweeps_cases (cs : List Case) (p : List Node) :
    w.Ends (editCases r cs p) fun out =>
      w.rel (insideCases cs p) (layoutCases cs) (layoutCases out.value) := by
  match cs with
  | [] => exact .pure (w.same _)
  | ⟨id, leading, labels, separator, body⟩ :: cs =>
    refine (sweeps_exprList labels p).bind fun labels' h₁ => ?_
    refine (sweeps_caseBody body p).bind fun body' h₂ => ?_
    refine (sweeps_cases cs p).map fun cs' h₃ => .beside (.node ?_) h₃
    rw [h₁.isEmpty_eq]
    exact h₁.swept.right.left.beside h₂

theorem sweeps_caseBody (b : CaseBody) (p : List Node) :
    w.Ends (b.editInside r p) fun out => w.rel (b.inside p) b.layout out.value.layout := by
  match b with
  | .statements list => exact (sweeps_statements list p).map fun _ h => h.sweptStatements.right
  | .rule ⟨s, after⟩ =>
    exact (Ends.statement (sweeps_statement s _)).map fun _ h => h.1.behind (w.same _)

/-- A handler is swept in its parameter and its block. -/
theorem sweeps_catches (cs : List Catch) (p : List Node) :
    w.Ends (editCatches r cs p) fun out =>
      w.rel (insideCatches cs p) (layoutCatches cs) (layoutCatches out.value) := by
  match cs with
  | [] => exact .pure (w.same _)
  | ⟨id, leading, opening, ⟨parameter, after⟩, body⟩ :: cs =>
    refine (Ends.enter (sweeps_declaration parameter _)).bind fun parameter' h₁ => ?_
    refine (Ends.enter (sweeps_block body _)).bind fun body' h₂ => ?_
    refine (sweeps_catches cs p).map fun cs' h₃ => .beside (.node ?_) h₃
    exact (w.stop rfl rfl h₁).right.left.left.beside (w.stop rfl rfl h₂)

theorem sweeps_else (e : Option Else) (p : List Node) :
    w.Ends (editElse r e p) fun out =>
      w.rel (insideElse e p) (layoutElse e) (layoutElse out.value) := by
  match e with
  | none => exact .pure (w.same _)
  | some ⟨id, leading, ⟨s, after⟩⟩ =>
    exact (Ends.statement (sweeps_statement s _)).map fun _ h => .node (h.1.behind (w.same _))

theorem sweeps_finally (b : Option (LeftPadded Block)) (p : List Node) :
    w.Ends (editFinally r b p) fun out =>
      w.rel (insideFinally b p) (layoutFinally b) (layoutFinally out.value) := by
  match b with
  | none => exact .pure (w.same _)
  | some ⟨before, b⟩ =>
    exact (Ends.enter (sweeps_block b _)).map fun _ h => (w.stop rfl rfl h).right

theorem sweeps_statement? (s : Option Statement) (p : List Node) :
    w.Ends (editStatement? r s p) fun out =>
      w.rel (insideStatement? s p) (layoutStatement? s) (layoutStatement? out.value) := by
  match s with
  | none => exact .pure (w.same _)
  | some s => exact (Ends.statement (sweeps_statement s _)).map fun _ h => h.1.1

/-- Inside of every statement the parts are swept, one case for each kind. -/
theorem sweeps_statement (s : Statement) (p : List Node) :
    w.Ends (s.editInside r p) fun out =>
      SweptStatement r w.rel (⟨.statement s, p⟩ :: s.inside p) s out.value := by
  match s with
  | .expression e =>
    exact (Ends.expression (sweeps_expression e _)).map fun _ h =>
      ⟨⟨w.stop rfl rfl h.layout, rfl⟩, fun keeps => w.keepsKind keeps h.fits⟩
  | .declaration n =>
    exact (sweeps_declaration n p).map fun _ h =>
      ⟨⟨w.stop rfl rfl (w.stop rfl rfl h), rfl⟩, fun _ => rfl⟩
  | .block n =>
    exact (sweeps_block n p).map fun _ h => ⟨⟨w.stop rfl rfl (w.stop rfl rfl h), rfl⟩, fun _ => rfl⟩
  | .classDeclaration n =>
    exact (sweeps_class n p).map fun _ h => ⟨⟨w.stop rfl rfl (w.stop rfl rfl h), rfl⟩, fun _ => rfl⟩
  | .method n =>
    exact (sweeps_method n p).map fun _ h =>
      ⟨⟨w.stop rfl rfl (w.stop rfl rfl h.1), h.2⟩, fun _ => rfl⟩
  | .returns id leading value =>
    exact (sweeps_expr? value p).map fun _ h =>
      ⟨⟨w.stop rfl rfl (.node h.right), rfl⟩, fun _ => rfl⟩
  | .throws id leading exception =>
    exact (Ends.expression (sweeps_expression exception _)).map
      fun _ h => ⟨⟨w.stop rfl rfl (.node h.layout.right), rfl⟩, fun _ => rfl⟩
  | .empty id leading | .breaks id leading label | .continues id leading label =>
    exact .pure ⟨⟨w.stop rfl rfl (w.same _), rfl⟩, fun _ => rfl⟩
  | .conditional id leading condition ⟨whenTrue, after⟩ whenFalse =>
    refine (sweeps_parenthesized condition p).bind fun condition' h₁ => ?_
    refine (Ends.statement (sweeps_statement whenTrue _)).bind fun whenTrue' h₂ => ?_
    refine (sweeps_else whenFalse p).map fun whenFalse' h₃ =>
      ⟨⟨w.stop rfl rfl (.node ?_), rfl⟩, fun _ => rfl⟩
    exact (h₂.1.behind h₁.right).beside h₃
  | .whileLoop id leading condition ⟨body, after⟩ =>
    refine (sweeps_parenthesized condition p).bind fun condition' h₁ => ?_
    exact (Ends.statement (sweeps_statement body _)).map
      fun _ h₂ => ⟨⟨w.stop rfl rfl (.node (h₂.1.behind h₁.right)), rfl⟩, fun _ => rfl⟩
  | .forLoop id leading opening init afterInit condition afterCondition update closing
      ⟨body, after⟩ =>
    refine (sweeps_statement? init p).bind fun init' h₁ => ?_
    refine (sweeps_expr? condition p).bind fun condition' h₂ => ?_
    refine (sweeps_exprList update p).bind fun update' h₃ => ?_
    refine (Ends.statement (sweeps_statement body _)).map
      fun body' h₄ => ⟨⟨w.stop rfl rfl (.node (h₄.1.behind ?_)), rfl⟩, fun _ => rfl⟩
    exact ((h₁.right.left.left.beside h₂).left.left.beside h₃.swept).left.left
  | .forEach id leading opening ⟨binder, afterBinder⟩ ⟨iterable, afterIterable⟩ ⟨body, after⟩ =>
    refine (Ends.enter (sweeps_declaration binder _)).bind fun binder' h₁ => ?_
    refine (Ends.expression (sweeps_expression iterable _)).bind fun iterable' h₂ => ?_
    refine (Ends.statement (sweeps_statement body _)).map
      fun body' h₃ => ⟨⟨w.stop rfl rfl (.node (h₃.1.behind ?_)), rfl⟩, fun _ => rfl⟩
    exact ((w.stop rfl rfl h₁).right.left.left.beside h₂.layout).left.left
  | .tryBlock id leading resources body catches finalizer =>
    refine (sweeps_resources? resources p).bind fun resources' h₁ => ?_
    refine (Ends.enter (sweeps_block body _)).bind fun body' h₂ => ?_
    refine (sweeps_catches catches p).bind fun catches' h₃ => ?_
    refine (sweeps_finally finalizer p).map fun finalizer' h₄ =>
      ⟨⟨w.stop rfl rfl (.node ?_), rfl⟩, fun _ => rfl⟩
    exact ((h₁.right.beside (w.stop rfl rfl h₂)).beside h₃).beside h₄
  | .doWhile id leading ⟨body, after⟩ whileLeading condition =>
    refine (Ends.statement (sweeps_statement body _)).bind fun body' h₁ => ?_
    refine (sweeps_parenthesized condition p).map fun _ h₂ =>
      ⟨⟨w.stop rfl rfl (.node ?_), rfl⟩, fun _ => rfl⟩
    exact (h₁.1.behind (w.same _)).left.left.beside h₂
  | .switch id leading selector opening cases closing =>
    refine (sweeps_parenthesized selector p).bind fun selector' h₁ => ?_
    refine (sweeps_cases cases p).map fun _ h₂ => ⟨⟨w.stop rfl rfl (.node ?_), rfl⟩, fun _ => rfl⟩
    exact (h₁.right.left.left.beside h₂).left.left

end

/-- The classes of a unit, with the stops in them. -/
theorem sweeps_classes (cs : List ClassDeclaration) (p : List Node) :
    w.Ends (editClasses r p cs) fun out =>
      w.rel (cs.flatMap fun c => Visit.enter (.classDeclaration c) p c.inside)
        (.each ClassDeclaration.layout cs) (.each ClassDeclaration.layout out.value) := by
  induction cs with
  | nil => exact .pure (w.same _)
  | cons c cs ih =>
    refine (Ends.enter (sweeps_class w c _)).bind fun c' h => ?_
    exact ih.map fun _ h' => (w.stop rfl rfl h).beside h'

/-- The imports of a unit stay. -/
theorem sweeps_imports (is : List (Padded Import)) (p : List Node) :
    w.rel (is.flatMap fun i => Visit.enter (.importDeclaration i.element) p fun _ => [])
      (.each (fun i : Padded Import => i.element.layout ++ i.after.layout ++ tok ";") is)
      (.each (fun i : Padded Import => i.element.layout ++ i.after.layout ++ tok ";") is) := by
  induction is with
  | nil => exact w.same _
  | cons i is ih => exact rel.beside (rel.left (rel.left (w.stop rfl rfl (w.same _)))) ih

/-- Of a unit only classes change, and the relation holds with all stops of the unit. -/
theorem sweeps_unit (u : CompilationUnit) :
    w.Ends (u.editBy r) fun out =>
      ∃ classes, out.value = { u with classes } ∧ w.rel u.visits u.layout out.value.layout := by
  refine .enter ?_
  rw [w.onUnit, pure_bind, editImports_eq w.onImport, pure_bind]
  refine (w.sweeps_classes u.classes _).map fun classes' h =>
    ⟨classes'.value, rfl, w.stop rfl rfl ?_⟩
  exact .left (.left (.beside (.right (w.sweeps_imports u.imports _)) h))

end Sweep

end Retouch
