import Retouch.Proofs.Edit.Trace

/-!
# Edits that come to rest

A part of a tree rests if an editor leaves it as it is, whenever it meets the part from some session
on (`Course.Rests`). If the hooks of an editor leave nothing behind but nodes that rest (`Calm`),
then so does the walk through a whole tree (`ends_unit`), and a second walk changes nothing
(`rests_unit`).

Hooks may look at what a session keeps. A `Course` tells which sessions can come behind which, so
that an answer once given can be shown to stay the same.
-/

namespace Retouch

theorem Expression.withLeading_leading (e : Expression) : e.withLeading e.leading = e := by
  cases e with
  | fieldAccess n => cases n; rfl
  | methodInvocation n => cases n; rfl
  | _ => rfl

/-- The sessions of a run, and which of them can come behind which. -/
structure Course where
  good : Session → Prop
  later : Session → Session → Prop
  refl : ∀ {s}, good s → later s s
  trans : ∀ {s t u}, later s t → later t u → later s u
  good_of_later : ∀ {s t}, later s t → good t
  running : ∀ {s}, good s → s.cancelled = false

namespace Course

variable {α β : Type}

/-- From the session `t` on, the part `x` of a walk gives `a` and changes nothing but the session.
-/
def Repeats (w : Course) (t : Session) (x : Edit α) (a : α) : Prop :=
  ∀ scope s, s.failure = none → w.later t s.session →
    ∃ t', x scope s = (a, { s with session := t' }) ∧ w.later s.session t'

/-- From `t` on, the part `a` of a tree is left as it is. -/
def Rests (w : Course) (t : Session) (edit : α → List Node → Edit (Edited α)) (a : α) : Prop :=
  ∀ p, w.Repeats t (edit a p) (.same a)

/-- In the session `t`, the part `x` of a walk does not stop, and its result has a property in the
session behind it. -/
def Ends (w : Course) (t : Session) (x : Edit α) (Q : α → Session → Prop) : Prop :=
  w.good t → ∀ scope s, s.session = t → s.failure = none →
    (x scope s).2.failure = none ∧ w.later t (x scope s).2.session ∧
      Q (x scope s).1 (x scope s).2.session

/-- Editing `a` gives a part that rests. -/
def Settles (w : Course) (t : Session) (edit : α → List Node → Edit (Edited α)) (a : α) : Prop :=
  ∀ p, w.Ends t (edit a p) fun out t' => w.Rests t' edit out.value

variable {w : Course} {t t' : Session} {x : Edit α} {k : α → Edit β} {a : α} {b : β} {n : Node}
  {up : List Node} {r : Editor}

namespace Repeats

theorem pure : w.Repeats t (pure a) a :=
  fun _ s _ later => ⟨s.session, rfl, w.refl (w.good_of_later later)⟩

theorem mono (h : w.Repeats t x a) (later : w.later t t') : w.Repeats t' x a :=
  fun scope s fine later' => h scope s fine (w.trans later later')

theorem bind (hx : w.Repeats t x a) (hk : w.Repeats t (k a) b) : w.Repeats t (x >>= k) b := by
  intro scope s fine later
  obtain ⟨t₁, run, later₁⟩ := hx scope s fine later
  obtain ⟨t₂, run', later₂⟩ := hk scope { s with session := t₁ } fine (w.trans later later₁)
  refine ⟨t₂, ?_, w.trans later₁ later₂⟩
  change (let y := x scope s; k y.1 scope y.2) = _
  rw [run]
  exact run'

theorem map {f : α → β} (h : w.Repeats t x a) : w.Repeats t (do return f (← x)) (f a) :=
  h.bind .pure

theorem enter {inside : List Node → Edit (Edited α)}
    (h : w.Repeats t (inside (n :: up)) (.same a)) :
    w.Repeats t (Edit.enter n a up inside) (.same a) := by
  intro scope s fine later
  have going : (s.failure.isSome || s.session.cancelled) = false := by
    simp [fine, w.running (w.good_of_later later)]
  rw [enter_run, going]
  exact h scope s fine later

end Repeats

namespace Rests

variable {edit : α → List Node → Edit (Edited α)}

theorem mono (h : w.Rests t edit a) (later : w.later t t') : w.Rests t' edit a :=
  fun p => (h p).mono later

theorem enter (h : w.Rests t edit a) : w.Repeats t (Edit.enter n a up (edit a)) (.same a) :=
  .enter (h _)

theorem expression {e : Expression} (h : w.Rests t (Expression.editInside r) e) :
    w.Repeats t (Edit.enterExpression r e up (e.editInside r)) (.same e) := by
  refine .enter ((h _).bind ?_)
  rw [keepKind_eq (by simp)]
  exact .pure

theorem statement {s : Statement} (h : w.Rests t (Statement.editInside r) s) :
    w.Repeats t (Edit.enterStatement r s up (s.editInside r)) (.same s) := by
  refine .enter ((h _).bind ?_)
  rw [keepKind_eq (by simp)]
  exact .pure

end Rests

namespace Ends

variable {P : α → Session → Prop} {Q : β → Session → Prop}

theorem pure (h : P a t) : w.Ends t (pure a) P :=
  fun good _ s own fine => ⟨fine, by subst own; exact w.refl good, by subst own; exact h⟩

theorem bind (hx : w.Ends t x P) (hk : ∀ a t', w.later t t' → P a t' → w.Ends t' (k a) Q) :
    w.Ends t (x >>= k) Q := by
  intro good scope s own fine
  obtain ⟨fine₁, later₁, holds⟩ := hx good scope s own fine
  obtain ⟨fine₂, later₂, holds'⟩ :=
    hk _ _ later₁ holds (w.good_of_later later₁) scope (x scope s).2 rfl fine₁
  exact ⟨fine₂, w.trans later₁ later₂, holds'⟩

theorem enter {inside : List Node → Edit (Edited α)} {P : Edited α → Session → Prop}
    (h : w.Ends t (inside (n :: up)) P) : w.Ends t (Edit.enter n a up inside) P := by
  intro good scope s own fine
  have going : (s.failure.isSome || s.session.cancelled) = false := by
    simp [fine, own, w.running good]
  rw [enter_run, going]
  exact h good scope s own fine

/-- A node that keeps its kind is not refused. -/
theorem keepKind {kind : α → String} {x : Edit (Edited α)} {P : Edited α → Session → Prop}
    (h : w.Ends t x fun out t' => (r.keepsKinds = true → kind out.value = kind a) ∧ P out t') :
    w.Ends t (x >>= Edit.keepKind r kind a)
      fun out t' => (r.keepsKinds = true → kind out.value = kind a) ∧ P out t' := by
  refine h.bind fun out t' _ held => ?_
  rw [keepKind_eq held.1]
  exact .pure held

theorem expression {e : Expression} {P : Edited Expression → Session → Prop}
    (h : w.Ends t (e.editInside r (.expression e :: up)) fun out t' =>
      (r.keepsKinds = true → out.value.kind = e.kind) ∧ P out t') :
    w.Ends t (Edit.enterExpression r e up (e.editInside r)) fun out t' =>
      (r.keepsKinds = true → out.value.kind = e.kind) ∧ P out t' :=
  h.keepKind.enter

theorem statement {s : Statement} {P : Edited Statement → Session → Prop}
    (h : w.Ends t (s.editInside r (.statement s :: up)) fun out t' =>
      (r.keepsKinds = true → out.value.kind = s.kind) ∧ P out t') :
    w.Ends t (Edit.enterStatement r s up (s.editInside r)) fun out t' =>
      (r.keepsKinds = true → out.value.kind = s.kind) ∧ P out t' :=
  h.keepKind.enter

end Ends

/-! ## Nodes with trivia in front of them -/

/-- The expression rests, behind any trivia. -/
def RestsExpression (w : Course) (r : Editor) (t : Session) (e : Expression) : Prop :=
  ∀ leading, w.Rests t (Expression.editInside r) (e.withLeading leading)

def RestsAnnotation (w : Course) (r : Editor) (t : Session) (a : Annotation) : Prop :=
  ∀ leading, (w.Rests t <| Annotation.editInside r) { a with leading }

def RestsClass (w : Course) (r : Editor) (t : Session) (c : ClassDeclaration) : Prop :=
  ∀ leading, w.Rests t (ClassDeclaration.editInside r) { c with leading }

/-- Every expression of the list rests. -/
def RestsEach (w : Course) (r : Editor) (t : Session) (es : List (Padded Expression)) : Prop :=
  ∀ x ∈ es, w.RestsExpression r t x.element

section Nodes

variable {e : Expression} {es : List (Padded Expression)} {as : List Annotation}
  {m : MethodInvocation} {c : ClassDeclaration}

theorem RestsExpression.own (h : w.RestsExpression r t e) :
    w.Rests t (Expression.editInside r) e := by
  have held := h e.leading
  rwa [Expression.withLeading_leading] at held

theorem RestsExpression.withLeading (h : w.RestsExpression r t e) (s : Space) :
    w.RestsExpression r t (e.withLeading s) := by
  intro leading
  rw [Expression.withLeading_withLeading]
  exact h leading

theorem RestsExpression.mono (h : w.RestsExpression r t e) (later : w.later t t') :
    w.RestsExpression r t' e :=
  fun leading => (h leading).mono later

theorem RestsClass.own (h : w.RestsClass r t c) : w.Rests t (ClassDeclaration.editInside r) c := by
  cases c
  exact h _

theorem RestsEach.mono (h : w.RestsEach r t es) (later : w.later t t') : w.RestsEach r t' es :=
  fun x mem => (h x mem).mono later

theorem RestsEach.list (h : w.RestsEach r t es) : w.Rests t (editExprList r) es := by
  intro p
  induction es with
  | nil => exact .pure
  | cons x es ih =>
    obtain ⟨first, rest⟩ := List.forall_mem_cons.1 h
    exact first.own.expression.bind (ih rest).map

theorem RestsEach.container {before close : Space} (h : w.RestsEach r t es) :
    w.Rests t (editExprs r) ⟨before, es, close⟩ :=
  fun p => (h.list p).map

theorem rests_annotations (h : ∀ a ∈ as, w.RestsAnnotation r t a) :
    w.Rests t (editAnnotations r) as := by
  intro p
  induction as with
  | nil => exact .pure
  | cons a as ih =>
    obtain ⟨first, rest⟩ := List.forall_mem_cons.1 h
    obtain ⟨id, leading, name, arguments⟩ := a
    exact (first leading).enter.bind (ih rest).map

theorem restsExpression_identifier (idle : ∀ p n, r.onIdentifier p n = Pure.pure none)
    (n : Identifier) : w.RestsExpression r t (.identifier n) := by
  intro leading p
  change w.Repeats t (do return (Edited.same _).replacedBy _ (← r.onIdentifier p _)) _
  rw [idle]
  exact .pure

/-- A call rests if its parts do and it is left as it is. -/
theorem restsExpression_call (select : w.Rests t (editSelect r) m.select)
    (arguments : w.RestsEach r t m.arguments.elements)
    (idle : ∀ leading, w.Repeats t (r.onCall { m with leading }) none) :
    w.RestsExpression r t (.methodInvocation m) := by
  obtain ⟨id, leading, select, name, ⟨before, elements, close⟩, method⟩ := m
  intro leading' p
  exact (select p).bind ((arguments.container p).bind (idle leading').map)

/-- A class rests if its parts do and it is left as it is. -/
theorem restsClass_of_parts (annotations : ∀ a ∈ c.annotations, w.RestsAnnotation r t a)
    (superclass : w.Rests t (editSuper r) c.superclass)
    (interfaces : w.Rests t (editTypes? r) c.interfaces)
      (body : w.Rests t (Block.editInside r) c.body)
    (idle : ∀ leading, w.Repeats t (r.onClass { c with leading }) none) : w.RestsClass r t c := by
  obtain ⟨id, leading, annotations, modifiers, keywordLeading, keyword, name, superclass,
    interfaces,
    body, type⟩ := c
  intro leading' p
  refine (rests_annotations annotations p).bind ((superclass p).bind ?_)
  exact (interfaces p).bind (body.enter.bind (idle leading').map)

end Nodes

end Course

/-! ## Walks -/

/-- The hooks of an editor, given parts that rest, leave nothing behind but nodes that rest. -/
structure Calm (r : Editor) extends Course where
  onUnit : ∀ u, r.onUnit u = pure ()
  onImport : ∀ i, r.onImport i = pure none
  onIdentifier : ∀ p n, r.onIdentifier p n = pure none
  onLiteral : ∀ n, r.onLiteral n = pure none
  onCall : ∀ m t, toCourse.Rests t (editSelect r) m.select →
    toCourse.RestsEach r t m.arguments.elements →
    toCourse.Ends t (r.onCall m) fun out t' =>
      (r.keepsKinds = true → (out.getD (.methodInvocation m)).kind = "method invocation") ∧
        toCourse.RestsExpression r t' (out.getD (.methodInvocation m))
  onClass : ∀ c t, (∀ a ∈ c.annotations, toCourse.RestsAnnotation r t a) →
    toCourse.Rests t (editSuper r) c.superclass → toCourse.Rests t (editTypes? r) c.interfaces →
    toCourse.Rests t (Block.editInside r) c.body →
    toCourse.Ends t (r.onClass c) fun out t' => toCourse.RestsClass r t' (out.getD c)

namespace Calm

open Course

variable {r : Editor} (w : Calm r)

mutual

theorem ends_expression (e : Expression) (p : List Node) (t : Session) :
    w.Ends t (e.editInside r p) fun out t' =>
      (r.keepsKinds = true → out.value.kind = e.kind) ∧ w.RestsExpression r t' out.value := by
  match e with
  | .identifier n =>
    rw [Expression.editInside, w.onIdentifier]
    exact .pure ⟨fun _ => rfl, restsExpression_identifier w.onIdentifier n⟩
  | .literal n =>
    rw [Expression.editInside, w.onLiteral]
    refine .pure ⟨fun _ => rfl, fun leading p => ?_⟩
    change w.Repeats t (do return (Edited.same _).replacedBy _ (← r.onLiteral _)) _
    rw [w.onLiteral]
    exact .pure
  | .fieldAccess n =>
    refine (ends_fieldAccess n p t).bind fun n' t' _ h => .pure ⟨fun _ => rfl, fun leading p => ?_⟩
    exact (h leading p).map
  | .methodInvocation ⟨id, leading, select, name, arguments, method⟩ =>
    refine (settles_select select t p).bind fun select' t₁ _ h₁ => ?_
    refine (ends_exprs arguments p t₁).bind fun arguments' t₂ later h₂ => ?_
    refine (w.onCall _ t₂ (h₁.mono later) h₂).bind fun out t' _ h => .pure ?_
    cases out with
    | none => exact h
    | some e => exact h
  | .newClass id leading clazz arguments body type =>
    refine (Ends.enter (settles_type clazz t _)).bind fun clazz' t₁ _ h₁ => ?_
    refine (ends_exprs arguments p t₁).bind fun arguments' t₂ later₂ h₂ => ?_
    refine (settles_block? body t₂ p).bind fun body' t₃ later₃ h₃ =>
      .pure ⟨fun _ => rfl, fun leading p => ?_⟩
    refine (h₁.mono (w.trans later₂ later₃)).enter.bind ?_
    exact ((h₂.mono later₃).container p).bind (h₃ p).map
  | .newArray id leading elementType dimensions initializer type =>
    refine (settles_type? elementType t p).bind fun elementType' t₁ _ h₁ => ?_
    refine (settles_dimensions dimensions t₁ p).bind fun dimensions' t₂ later₂ h₂ => ?_
    refine (settles_exprs? initializer t₂ p).bind
      fun initializer' t₃ later₃ h₃ => .pure ⟨fun _ => rfl, fun leading p => ?_⟩
    exact (h₁.mono (w.trans later₂ later₃) p).bind ((h₂.mono later₃ p).bind (h₃ p).map)
  | .lambda id leading parenthesized parameters arrow body type =>
    refine (settles_parameters parameters t p).bind fun parameters' t₁ _ h₁ => ?_
    refine (settles_lambdaBody body t₁ p).bind
      fun body' t₂ later h₂ => .pure ⟨fun _ => rfl, fun leading p => ?_⟩
    exact (h₁.mono later p).bind (h₂ p).map
  | .memberReference id leading containing colons name type =>
    refine (Ends.expression (ends_expression containing _ t)).bind
      fun containing' t₁ _ h => .pure ⟨fun _ => rfl, fun leading p => ?_⟩
    exact h.2.own.expression.map
  | .binary id leading left before op right type =>
    refine (Ends.expression (ends_expression left _ t)).bind fun left' t₁ _ h₁ => ?_
    refine (Ends.expression (ends_expression right _ t₁)).bind
      fun right' t₂ later h₂ => .pure ⟨fun _ => rfl, fun leading p => ?_⟩
    exact (h₁.2.mono later).own.expression.bind h₂.2.own.expression.map
  | .unary id leading before op operand type =>
    refine (Ends.expression (ends_expression operand _ t)).bind
      fun operand' t₁ _ h => .pure ⟨fun _ => rfl, fun leading p => ?_⟩
    exact h.2.own.expression.map
  | .assignment id leading target before op value type =>
    refine (Ends.expression (ends_expression target _ t)).bind fun target' t₁ _ h₁ => ?_
    refine (Ends.expression (ends_expression value _ t₁)).bind
      fun value' t₂ later h₂ => .pure ⟨fun _ => rfl, fun leading p => ?_⟩
    exact (h₁.2.mono later).own.expression.bind h₂.2.own.expression.map
  | .ternary id leading condition ⟨question, whenTrue⟩ ⟨colon, whenFalse⟩ type =>
    refine (Ends.expression (ends_expression condition _ t)).bind fun condition' t₁ _ h₁ => ?_
    refine (Ends.expression (ends_expression whenTrue _ t₁)).bind fun whenTrue' t₂ later₂ h₂ => ?_
    refine (Ends.expression (ends_expression whenFalse _ t₂)).bind
      fun whenFalse' t₃ later₃ h₃ => .pure ⟨fun _ => rfl, fun leading p => ?_⟩
    refine (h₁.2.mono (w.trans later₂ later₃)).own.expression.bind ?_
    exact (h₂.2.mono later₃).own.expression.bind h₃.2.own.expression.map
  | .parentheses id leading ⟨tree, after⟩ =>
    refine (Ends.expression (ends_expression tree _ t)).bind
      fun tree' t₁ _ h => .pure ⟨fun _ => rfl, fun leading p => ?_⟩
    exact h.2.own.expression.map
  | .arrayAccess id leading indexed dimension type =>
    refine (Ends.expression (ends_expression indexed _ t)).bind fun indexed' t₁ _ h₁ => ?_
    refine (settles_dimension dimension t₁ p).bind
      fun dimension' t₂ later h₂ => .pure ⟨fun _ => rfl, fun leading p => ?_⟩
    exact (h₁.2.mono later).own.expression.bind (h₂ p).map
  | .typeCast id leading ⟨clazz, after⟩ operand type =>
    refine (Ends.enter (settles_type clazz t _)).bind fun clazz' t₁ _ h₁ => ?_
    refine (Ends.expression (ends_expression operand _ t₁)).bind
      fun operand' t₂ later h₂ => .pure ⟨fun _ => rfl, fun leading p => ?_⟩
    exact (h₁.mono later).enter.bind h₂.2.own.expression.map

theorem ends_fieldAccess (n : FieldAccess) (p : List Node) (t : Session) :
    w.Ends t (n.editInside r p) fun out t' =>
      ∀ leading, w.Rests t' (FieldAccess.editInside r) { out.value with leading } := by
  match n with
  | ⟨id, leading, target, dot, name, type⟩ =>
    refine (Ends.expression (ends_expression target _ t)).bind
      fun target' t₁ _ h => .pure fun leading p => ?_
    exact h.2.own.expression.map

theorem settles_select (s : Option (Padded Expression)) (t : Session) :
    w.Settles t (editSelect r) s := by
  intro p
  match s with
  | none => exact .pure fun _ => .pure
  | some ⟨e, after⟩ =>
    refine (Ends.expression (ends_expression e _ t)).bind fun e' t₁ _ h => .pure fun p => ?_
    exact h.2.own.expression.map

theorem ends_exprList (es : List (Padded Expression)) (p : List Node) (t : Session) :
    w.Ends t (editExprList r es p) fun out t' => w.RestsEach r t' out.value := by
  match es with
  | [] => exact .pure fun _ mem => nomatch mem
  | ⟨e, after⟩ :: es =>
    refine (Ends.expression (ends_expression e _ t)).bind fun e' t₁ _ h₁ => ?_
    refine (ends_exprList es p t₁).bind fun es' t₂ later h₂ => .pure ?_
    exact List.forall_mem_cons.2 ⟨h₁.2.mono later, h₂⟩

theorem ends_exprs (c : Container Expression) (p : List Node) (t : Session) :
    w.Ends t (editExprs r c p) fun out t' => w.RestsEach r t' out.value.elements := by
  match c with
  | ⟨before, elements, close⟩ =>
    exact (ends_exprList elements p t).bind fun _ _ _ h => .pure h

theorem settles_exprs? (c : Option (Container Expression)) (t : Session) :
    w.Settles t (editExprs? r) c := by
  intro p
  match c with
  | none => exact .pure fun _ => .pure
  | some c => exact (ends_exprs c p t).bind fun _ _ _ h => .pure fun p => (h.container p).map

theorem settles_expr? (e : Option Expression) (t : Session) : w.Settles t (editExpr? r) e := by
  intro p
  match e with
  | none => exact .pure fun _ => .pure
  | some e =>
    refine (Ends.expression (ends_expression e _ t)).bind fun e' t₁ _ h => .pure fun p => ?_
    exact h.2.own.expression.map

theorem settles_dimension (d : ArrayDimension) (t : Session) :
    w.Settles t (ArrayDimension.editInside r) d := by
  intro p
  match d with
  | ⟨opening, index, closing⟩ =>
    exact (settles_expr? index t p).bind fun _ _ _ h => .pure fun p => (h p).map

theorem settles_dimensions (ds : List ArrayDimension) (t : Session) :
    w.Settles t (editDimensions r) ds := by
  intro p
  match ds with
  | [] => exact .pure fun _ => .pure
  | d :: ds =>
    refine (settles_dimension d t p).bind fun d' t₁ _ h₁ => ?_
    refine (settles_dimensions ds t₁ p).bind fun ds' t₂ later h₂ => .pure fun p => ?_
    exact (h₁.mono later p).bind (h₂ p).map

theorem settles_lambdaBody (b : LambdaBody) (t : Session) :
    w.Settles t (LambdaBody.editInside r) b := by
  intro p
  match b with
  | .expression e =>
    refine (Ends.expression (ends_expression e _ t)).bind fun e' t₁ _ h => .pure fun p => ?_
    exact h.2.own.expression.map
  | .block b => exact (Ends.enter (settles_block b t _)).bind fun _ _ _ h => .pure fun p =>
    h.enter.map

theorem settles_type? (x : Option TypeTree) (t : Session) : w.Settles t (editType? r) x := by
  intro p
  match x with
  | none => exact .pure fun _ => .pure
  | some x => exact (Ends.enter (settles_type x t _)).bind fun _ _ _ h => .pure fun p => h.enter.map

theorem settles_type (x : TypeTree) (t : Session) : w.Settles t (TypeTree.editInside r) x := by
  intro p
  match x with
  | .named e =>
    refine (Ends.expression (ends_expression e _ t)).bind fun e' t₁ _ h => .pure fun p => ?_
    exact h.2.own.expression.map
  | .primitive id leading kind => exact .pure fun _ => .pure
  | .parameterized id leading clazz arguments type =>
    refine (Ends.expression (ends_expression clazz _ t)).bind fun clazz' t₁ _ h₁ => ?_
    refine (settles_types arguments t₁ p).bind fun arguments' t₂ later h₂ => .pure fun p => ?_
    exact (h₁.2.mono later).own.expression.bind (h₂ p).map
  | .array id leading element opening closing type =>
    exact (Ends.enter (settles_type element t _)).bind fun _ _ _ h => .pure fun p => h.enter.map
  | .wildcard id leading bound bounded =>
    exact (settles_type? bounded t p).bind fun _ _ _ h => .pure fun p => (h p).map

theorem settles_typeList (ts : List (Padded TypeTree)) (t : Session) :
    w.Settles t (editTypeList r) ts := by
  intro p
  match ts with
  | [] => exact .pure fun _ => .pure
  | ⟨x, after⟩ :: ts =>
    refine (Ends.enter (settles_type x t _)).bind fun x' t₁ _ h₁ => ?_
    refine (settles_typeList ts t₁ p).bind fun ts' t₂ later h₂ => .pure fun p => ?_
    exact (h₁.mono later).enter.bind (h₂ p).map

theorem settles_types (c : Container TypeTree) (t : Session) : w.Settles t (editTypes r) c := by
  intro p
  match c with
  | ⟨before, elements, close⟩ =>
    exact (settles_typeList elements t p).bind fun _ _ _ h => .pure fun p => (h p).map

theorem settles_types? (c : Option (Container TypeTree)) (t : Session) :
    w.Settles t (editTypes? r) c := by
  intro p
  match c with
  | none => exact .pure fun _ => .pure
  | some c => exact (settles_types c t p).bind fun _ _ _ h => .pure fun p => (h p).map

theorem settles_parameterList (vs : List (Padded VariableDeclarations)) (t : Session) :
    w.Settles t (editParameterList r) vs := by
  intro p
  match vs with
  | [] => exact .pure fun _ => .pure
  | ⟨v, after⟩ :: vs =>
    refine (Ends.enter (settles_declaration v t _)).bind fun v' t₁ _ h₁ => ?_
    refine (settles_parameterList vs t₁ p).bind fun vs' t₂ later h₂ => .pure fun p => ?_
    exact (h₁.mono later).enter.bind (h₂ p).map

theorem settles_parameters (c : Container VariableDeclarations) (t : Session) :
    w.Settles t (editParameters r) c := by
  intro p
  match c with
  | ⟨before, elements, close⟩ =>
    exact (settles_parameterList elements t p).bind fun _ _ _ h => .pure fun p => (h p).map

theorem settles_declaration (v : VariableDeclarations) (t : Session) :
    w.Settles t (VariableDeclarations.editInside r) v := by
  intro p
  match v with
  | ⟨id, leading, annotations, modifiers, declaredType, varargs, declarators⟩ =>
    refine (ends_annotations annotations p t).bind fun annotations' t₁ _ h₁ => ?_
    refine (settles_type? declaredType t₁ p).bind fun declaredType' t₂ later₂ h₂ => ?_
    refine (settles_variables declarators t₂ p).bind
      fun declarators' t₃ later₃ h₃ => .pure fun p => ?_
    refine ((rests_annotations h₁).mono (w.trans later₂ later₃) p).bind ?_
    exact (h₂.mono later₃ p).bind (h₃ p).map

theorem settles_variable (v : NamedVariable) (t : Session) :
    w.Settles t (NamedVariable.editInside r) v := by
  intro p
  match v with
  | ⟨id, leading, name, initializer, type⟩ =>
    exact (settles_init initializer t p).bind fun _ _ _ h => .pure fun p => (h p).map

theorem settles_init (e : Option (LeftPadded Expression)) (t : Session) :
    w.Settles t (editInit r) e := by
  intro p
  match e with
  | none => exact .pure fun _ => .pure
  | some ⟨before, e⟩ =>
    refine (Ends.expression (ends_expression e _ t)).bind fun e' t₁ _ h => .pure fun p => ?_
    exact h.2.own.expression.map

theorem settles_variables (vs : List (Padded NamedVariable)) (t : Session) :
    w.Settles t (editVariables r) vs := by
  intro p
  match vs with
  | [] => exact .pure fun _ => .pure
  | ⟨v, after⟩ :: vs =>
    refine (settles_variable v t p).bind fun v' t₁ _ h₁ => ?_
    refine (settles_variables vs t₁ p).bind fun vs' t₂ later h₂ => .pure fun p => ?_
    exact (h₁.mono later p).bind (h₂ p).map

theorem ends_annotated (a : Annotation) (p : List Node) (t : Session) :
    w.Ends t (a.editInside r p) fun out t' => w.RestsAnnotation r t' out.value := by
  match a with
  | ⟨id, leading, name, arguments⟩ =>
    refine (Ends.expression (ends_expression name _ t)).bind fun name' t₁ _ h₁ => ?_
    refine (settles_exprs? arguments t₁ p).bind
      fun arguments' t₂ later h₂ => .pure fun leading p => ?_
    exact (h₁.2.mono later).own.expression.bind (h₂ p).map

theorem ends_annotations (as : List Annotation) (p : List Node) (t : Session) :
    w.Ends t (editAnnotations r as p) fun out t' => ∀ a ∈ out.value, w.RestsAnnotation r t' a := by
  match as with
  | [] => exact .pure fun _ mem => nomatch mem
  | a :: as =>
    refine (Ends.enter (ends_annotated a _ t)).bind fun a' t₁ _ h₁ => ?_
    refine (ends_annotations as p t₁).bind fun as' t₂ later h₂ => .pure ?_
    exact List.forall_mem_cons.2 ⟨fun leading => (h₁ leading).mono later, h₂⟩

theorem settles_block (b : Block) (t : Session) : w.Settles t (Block.editInside r) b := by
  intro p
  match b with
  | ⟨id, leading, statements, close⟩ =>
    exact (settles_statements statements t p).bind fun _ _ _ h => .pure fun p => (h p).map

theorem settles_block? (b : Option Block) (t : Session) : w.Settles t (editBlock? r) b := by
  intro p
  match b with
  | none => exact .pure fun _ => .pure
  | some b => exact (Ends.enter (settles_block b t _)).bind fun _ _ _ h => .pure fun p =>
    h.enter.map

theorem settles_statements (ss : List (Padded Statement)) (t : Session) :
    w.Settles t (editStatements r) ss := by
  intro p
  match ss with
  | [] => exact .pure fun _ => .pure
  | ⟨s, after⟩ :: ss =>
    refine (Ends.statement (ends_statement s _ t)).bind fun s' t₁ _ h₁ => ?_
    refine (settles_statements ss t₁ p).bind fun ss' t₂ later h₂ => .pure fun p => ?_
    exact (h₁.2.mono later).statement.bind (h₂ p).map

theorem settles_resources? (x : Option TryResources) (t : Session) :
    w.Settles t (editResources? r) x := by
  intro p
  match x with
  | none => exact .pure fun _ => .pure
  | some ⟨opening, resources, terminated, closing⟩ =>
    exact (settles_statements resources t p).bind fun _ _ _ h => .pure fun p => (h p).map

theorem ends_class (c : ClassDeclaration) (p : List Node) (t : Session) :
    w.Ends t (c.editInside r p) fun out t' => w.RestsClass r t' out.value := by
  match c with
  | ⟨id, leading, annotations, modifiers, keywordLeading, keyword, name, superclass, interfaces,
      body, type⟩ =>
    refine (ends_annotations annotations p t).bind fun annotations' t₁ _ h₁ => ?_
    refine (settles_super superclass t₁ p).bind fun superclass' t₂ later₂ h₂ => ?_
    refine (settles_types? interfaces t₂ p).bind fun interfaces' t₃ later₃ h₃ => ?_
    refine (Ends.enter (settles_block body t₃ _)).bind fun body' t₄ later₄ h₄ => ?_
    have later₁ := w.trans later₂ (w.trans later₃ later₄)
    refine (w.onClass _ t₄ (fun a mem leading => (h₁ a mem leading).mono later₁)
      (h₂.mono (w.trans later₃ later₄)) (h₃.mono later₄) h₄).bind fun out t' _ h => .pure ?_
    cases out with
    | none => exact h
    | some c => exact h

theorem settles_super (x : Option (LeftPadded TypeTree)) (t : Session) :
    w.Settles t (editSuper r) x := by
  intro p
  match x with
  | none => exact .pure fun _ => .pure
  | some ⟨before, x⟩ =>
    exact (Ends.enter (settles_type x t _)).bind fun _ _ _ h => .pure fun p => h.enter.map

theorem settles_method (m : MethodDeclaration) (t : Session) :
    w.Settles t (MethodDeclaration.editInside r) m := by
  intro p
  match m with
  | ⟨id, leading, annotations, modifiers, returnType, name, parameters, throwing, body, method⟩ =>
    refine (ends_annotations annotations p t).bind fun annotations' t₁ _ h₁ => ?_
    refine (settles_type? returnType t₁ p).bind fun returnType' t₂ later₂ h₂ => ?_
    refine (settles_parameters parameters t₂ p).bind fun parameters' t₃ later₃ h₃ => ?_
    refine (settles_types? throwing t₃ p).bind fun throwing' t₄ later₄ h₄ => ?_
    refine (settles_block? body t₄ p).bind fun body' t₅ later₅ h₅ => .pure fun p => ?_
    have later₃ := w.trans later₃ (w.trans later₄ later₅)
    refine ((rests_annotations h₁).mono (w.trans later₂ later₃) p).bind ?_
    refine (h₂.mono later₃ p).bind ((h₃.mono (w.trans later₄ later₅) p).bind ?_)
    exact (h₄.mono later₅ p).bind (h₅ p).map

theorem settles_parenthesized (x : Parenthesized) (t : Session) :
    w.Settles t (Parenthesized.editInside r) x := by
  intro p
  match x with
  | ⟨opening, tree, closing⟩ =>
    refine (Ends.expression (ends_expression tree _ t)).bind fun e' t₁ _ h => .pure fun p => ?_
    exact h.2.own.expression.map

theorem settles_cases (cs : List Case) (t : Session) : w.Settles t (editCases r) cs := by
  intro p
  match cs with
  | [] => exact .pure fun _ => .pure
  | ⟨id, leading, labels, separator, body⟩ :: cs =>
    refine (ends_exprList labels p t).bind fun labels' t₁ _ h₁ => ?_
    refine (settles_caseBody body t₁ p).bind fun body' t₂ later₂ h₂ => ?_
    refine (settles_cases cs t₂ p).bind fun cs' t₃ later₃ h₃ => .pure fun p => ?_
    exact (h₁.list.mono (w.trans later₂ later₃) p).bind ((h₂.mono later₃ p).bind (h₃ p).map)

theorem settles_caseBody (b : CaseBody) (t : Session) : w.Settles t (CaseBody.editInside r) b := by
  intro p
  match b with
  | .statements list =>
    exact (settles_statements list t p).bind fun _ _ _ h => .pure fun p => (h p).map
  | .rule ⟨s, after⟩ =>
    refine (Ends.statement (ends_statement s _ t)).bind fun s' t₁ _ h => .pure fun p => ?_
    exact h.2.statement.map

theorem settles_catches (cs : List Catch) (t : Session) : w.Settles t (editCatches r) cs := by
  intro p
  match cs with
  | [] => exact .pure fun _ => .pure
  | ⟨id, leading, opening, ⟨parameter, after⟩, body⟩ :: cs =>
    refine (Ends.enter (settles_declaration parameter t _)).bind fun parameter' t₁ _ h₁ => ?_
    refine (Ends.enter (settles_block body t₁ _)).bind fun body' t₂ later₂ h₂ => ?_
    refine (settles_catches cs t₂ p).bind fun cs' t₃ later₃ h₃ => .pure fun p => ?_
    refine (h₁.mono (w.trans later₂ later₃)).enter.bind ?_
    exact (h₂.mono later₃).enter.bind (h₃ p).map

theorem settles_else (x : Option Else) (t : Session) : w.Settles t (editElse r) x := by
  intro p
  match x with
  | none => exact .pure fun _ => .pure
  | some ⟨id, leading, ⟨s, after⟩⟩ =>
    refine (Ends.statement (ends_statement s _ t)).bind fun s' t₁ _ h => .pure fun p => ?_
    exact h.2.statement.map

theorem settles_finally (b : Option (LeftPadded Block)) (t : Session) :
    w.Settles t (editFinally r) b := by
  intro p
  match b with
  | none => exact .pure fun _ => .pure
  | some ⟨before, b⟩ =>
    exact (Ends.enter (settles_block b t _)).bind fun _ _ _ h => .pure fun p => h.enter.map

theorem settles_statement? (s : Option Statement) (t : Session) :
    w.Settles t (editStatement? r) s := by
  intro p
  match s with
  | none => exact .pure fun _ => .pure
  | some s =>
    refine (Ends.statement (ends_statement s _ t)).bind fun s' t₁ _ h => .pure fun p => ?_
    exact h.2.statement.map

theorem ends_statement (s : Statement) (p : List Node) (t : Session) :
    w.Ends t (s.editInside r p) fun out t' =>
      (r.keepsKinds = true → out.value.kind = s.kind) ∧
        w.Rests t' (Statement.editInside r) out.value := by
  match s with
  | .expression e =>
    refine (Ends.expression (ends_expression e _ t)).bind
      fun e' t₁ _ h => .pure ⟨h.1, fun p => ?_⟩
    exact h.2.own.expression.map
  | .declaration n =>
    exact (settles_declaration n t p).bind
      fun _ _ _ h => .pure ⟨fun _ => rfl, fun p => (h p).map⟩
  | .block n =>
    exact (settles_block n t p).bind fun _ _ _ h => .pure ⟨fun _ => rfl, fun p => (h p).map⟩
  | .classDeclaration n =>
    refine (ends_class n p t).bind fun n' _ _ h => .pure ⟨fun _ => rfl, fun p => ?_⟩
    exact (h.own p).map
  | .method n =>
    exact (settles_method n t p).bind fun _ _ _ h => .pure ⟨fun _ => rfl, fun p => (h p).map⟩
  | .returns id leading value =>
    exact (settles_expr? value t p).bind fun _ _ _ h => .pure ⟨fun _ => rfl, fun p => (h p).map⟩
  | .throws id leading exception =>
    refine (Ends.expression (ends_expression exception _ t)).bind
      fun e' t₁ _ h => .pure ⟨fun _ => rfl, fun p => ?_⟩
    exact h.2.own.expression.map
  | .empty id leading | .breaks id leading label | .continues id leading label =>
    exact .pure ⟨fun _ => rfl, fun _ => .pure⟩
  | .conditional id leading condition ⟨whenTrue, after⟩ whenFalse =>
    refine (settles_parenthesized condition t p).bind fun condition' t₁ _ h₁ => ?_
    refine (Ends.statement (ends_statement whenTrue _ t₁)).bind fun whenTrue' t₂ later₂ h₂ => ?_
    refine (settles_else whenFalse t₂ p).bind
      fun whenFalse' t₃ later₃ h₃ => .pure ⟨fun _ => rfl, fun p => ?_⟩
    refine (h₁.mono (w.trans later₂ later₃) p).bind ?_
    exact (h₂.2.mono later₃).statement.bind (h₃ p).map
  | .whileLoop id leading condition ⟨body, after⟩ =>
    refine (settles_parenthesized condition t p).bind fun condition' t₁ _ h₁ => ?_
    refine (Ends.statement (ends_statement body _ t₁)).bind
      fun body' t₂ later h₂ => .pure ⟨fun _ => rfl, fun p => ?_⟩
    exact (h₁.mono later p).bind h₂.2.statement.map
  | .forLoop id leading opening init afterInit condition afterCondition update closing
      ⟨body, after⟩ =>
    refine (settles_statement? init t p).bind fun init' t₁ _ h₁ => ?_
    refine (settles_expr? condition t₁ p).bind fun condition' t₂ later₂ h₂ => ?_
    refine (ends_exprList update p t₂).bind fun update' t₃ later₃ h₃ => ?_
    refine (Ends.statement (ends_statement body _ t₃)).bind
      fun body' t₄ later₄ h₄ => .pure ⟨fun _ => rfl, fun p => ?_⟩
    have later₃ := w.trans later₃ later₄
    refine (h₁.mono (w.trans later₂ later₃) p).bind ((h₂.mono later₃ p).bind ?_)
    exact (h₃.list.mono later₄ p).bind h₄.2.statement.map
  | .forEach id leading opening ⟨binder, afterBinder⟩ ⟨iterable, afterIterable⟩ ⟨body, after⟩ =>
    refine (Ends.enter (settles_declaration binder t _)).bind fun binder' t₁ _ h₁ => ?_
    refine (Ends.expression (ends_expression iterable _ t₁)).bind fun iterable' t₂ later₂ h₂ => ?_
    refine (Ends.statement (ends_statement body _ t₂)).bind
      fun body' t₃ later₃ h₃ => .pure ⟨fun _ => rfl, fun p => ?_⟩
    refine (h₁.mono (w.trans later₂ later₃)).enter.bind ?_
    exact (h₂.2.mono later₃).own.expression.bind h₃.2.statement.map
  | .tryBlock id leading resources body catches finalizer =>
    refine (settles_resources? resources t p).bind fun resources' t₁ _ h₁ => ?_
    refine (Ends.enter (settles_block body t₁ _)).bind fun body' t₂ later₂ h₂ => ?_
    refine (settles_catches catches t₂ p).bind fun catches' t₃ later₃ h₃ => ?_
    refine (settles_finally finalizer t₃ p).bind
      fun finalizer' t₄ later₄ h₄ => .pure ⟨fun _ => rfl, fun p => ?_⟩
    have later₃ := w.trans later₃ later₄
    refine (h₁.mono (w.trans later₂ later₃) p).bind ((h₂.mono later₃).enter.bind ?_)
    exact (h₃.mono later₄ p).bind (h₄ p).map
  | .doWhile id leading ⟨body, after⟩ whileLeading condition =>
    refine (Ends.statement (ends_statement body _ t)).bind fun body' t₁ _ h₁ => ?_
    refine (settles_parenthesized condition t₁ p).bind
      fun condition' t₂ later h₂ => .pure ⟨fun _ => rfl, fun p => ?_⟩
    exact (h₁.2.mono later).statement.bind (h₂ p).map
  | .switch id leading selector opening cases closing =>
    refine (settles_parenthesized selector t p).bind fun selector' t₁ _ h₁ => ?_
    refine (settles_cases cases t₁ p).bind
      fun cases' t₂ later h₂ => .pure ⟨fun _ => rfl, fun p => ?_⟩
    exact (h₁.mono later p).bind (h₂ p).map

end

theorem ends_classes (cs : List ClassDeclaration) (p : List Node) (t : Session) :
    w.Ends t (editClasses r p cs) fun out t' => ∀ c ∈ out.value, w.RestsClass r t' c := by
  induction cs generalizing t with
  | nil => exact .pure fun _ mem => nomatch mem
  | cons c cs ih =>
    refine (Ends.enter (ends_class w c _ t)).bind fun c' t₁ _ h₁ => ?_
    refine (ih t₁).bind fun cs' t₂ later h₂ => .pure ?_
    exact List.forall_mem_cons.2 ⟨fun leading => (h₁ leading).mono later, h₂⟩

/-- A walk changes only the classes of a unit, and leaves classes behind that rest. -/
theorem ends_unit (u : CompilationUnit) (t : Session) :
    w.Ends t (u.editBy r) fun out t' =>
      ∃ classes, out.value = { u with classes } ∧ ∀ c ∈ classes, w.RestsClass r t' c := by
  refine .enter ?_
  rw [w.onUnit, pure_bind, editImports_eq w.onImport, pure_bind]
  exact (w.ends_classes u.classes _ t).bind fun classes t' _ h => .pure ⟨classes.value, rfl, h⟩

/-- A unit whose classes rest is left as it is. -/
theorem rests_unit {u : CompilationUnit} {t : Session} (h : ∀ c ∈ u.classes, w.RestsClass r t c) :
    w.Repeats t (u.editBy r) (.same u) := by
  have classes (p : List Node) (cs : List ClassDeclaration) (h : ∀ c ∈ cs, w.RestsClass r t c) :
      w.Repeats t (editClasses r p cs) (.same cs) := by
    induction cs with
    | nil => exact .pure
    | cons c cs ih =>
      obtain ⟨first, rest⟩ := List.forall_mem_cons.1 h
      exact first.own.enter.bind (ih rest).map
  refine .enter ?_
  rw [w.onUnit, pure_bind, editImports_eq w.onImport, pure_bind]
  exact (classes _ u.classes h).map

end Calm

end Retouch
