import Retouch.Proofs.Edit.Rewrites
import Retouch.Tree.Walk

/-!
# The trace of an edit

An edit is watched through an invariant of its state and of the replacements made so far. If the
hooks of an editor keep the invariant (`Watch`), then so does the walk through a whole tree, the
tree that comes out is the old one rewritten by the replacements, and it is the old tree itself if
there were none (`Turns`).

`Watch.Edits done p S` says this of one part `p` of the walk, behind the replacements `done` that
were made in the parts before it; it has one rule for each way in which parts are put together.
-/

namespace Retouch

namespace Edited

variable {α : Type}

@[simp]
theorem value_same (a : α) : (same a).value = a := rfl

@[simp]
theorem touched_same (a : α) : (same a).touched = [] := rfl

@[simp]
theorem rebuilt_nil (id : NodeId) (a : α) : rebuilt id [] a = same a := rfl

end Edited

/-- What a hook answers in a state where `rs` were made: nothing, or what it puts in place of the
node. -/
def Answers {α : Type} (inv : List Replacement → EditState → Prop) (ok : Replacement → Prop)
    (made : α → Replacement) (rs : List Replacement) : Option α × EditState → Prop
  | (none, t) => inv rs t
  | (some a, t) => inv (rs ++ [made a]) t ∧ ok (made a)

/-- An invariant that the hooks of an editor keep. -/
structure Watch (r : Editor) (scope : EditScope) where
  seen : MethodInvocation → Prop
  ok : Replacement → Prop
  inv : List Replacement → EditState → Prop
  onIdentifier : ∀ p n rs s, inv rs s →
    Answers inv ok (.identifier n) rs (r.onIdentifier p n scope s)
  onLiteral : ∀ n rs s, inv rs s → Answers inv ok (.literal n) rs (r.onLiteral n scope s)
  onCall : ∀ m rs s, inv rs s → Answers inv ok (.call m) rs (r.onCall m scope s)
  onClass : ∀ c rs s, inv rs s → Answers inv ok (.clazz c) rs (r.onClass c scope s)
  keepsKind : r.keepsKinds = true → ∀ x, ok x → x.KeepsKind

/-- All calls among the stops are known. -/
def Calls (seen : MethodInvocation → Prop) (vs : List Visit) : Prop :=
  ∀ v ∈ vs, ∀ m, v.invocation? = some m → seen m

namespace Calls

variable {seen : MethodInvocation → Prop} {vs ws : List Visit} {v : Visit}

theorem left (h : Calls seen (vs ++ ws)) : Calls seen vs :=
  fun v mem => h v (List.mem_append_left ws mem)

theorem right (h : Calls seen (vs ++ ws)) : Calls seen ws :=
  fun v mem => h v (List.mem_append_right vs mem)

theorem below (h : Calls seen (v :: vs)) : Calls seen vs :=
  fun v mem => h v (List.mem_cons_of_mem _ mem)

theorem here {m : MethodInvocation} {p : List Node}
    (h : Calls seen (⟨.expression (.methodInvocation m), p⟩ :: vs)) : seen m :=
  h _ List.mem_cons_self m rfl

end Calls

section Turns

variable {α β : Type} {R : List Replacement → α → α → Prop} {S : List Replacement → β → β → Prop}
  {a : α} {rs : List Replacement}

/-- A node behind the replacements `rs`. -/
structure Turns (R : List Replacement → α → α → Prop) (a : α) (rs : List Replacement)
    (out : Edited α) : Prop where
  rel : R rs a out.value
  unmoved : rs = [] → out = .same a

theorem Turns.same (h : R [] a a) : Turns R a [] (.same a) := ⟨h, fun _ => rfl⟩

theorem Turns.map {out : Edited α} {f : α → β} (h : Turns R a rs out)
    (through : ∀ a', R rs a a' → S rs (f a) (f a')) : Turns S (f a) rs (out.map f) :=
  ⟨through _ h.rel, fun none => by rw [h.unmoved none]; rfl⟩

end Turns

/-- A change that keeps the kind where the editor keeps kinds. -/
def KeepsKind {α : Type} (r : Editor) (kind : α → String) (R : List Replacement → α → α → Prop)
    (rs : List Replacement) (a a' : α) : Prop :=
  R rs a a' ∧ (r.keepsKinds = true → kind a' = kind a)

theorem enter_run {α : Type} (n : Node) (a : α) (up : List Node)
    (inside : List Node → Edit (Edited α)) (scope : EditScope) (s : EditState) :
    Edit.enter n a up inside scope s =
      if s.failure.isSome || s.session.cancelled then (.same a, s)
      else inside (n :: up) scope s := by
  change (if _ then Pure.pure _ else _ : Edit (Edited α)) scope s = _
  split <;> rfl

/-- A node of the right kind passes. -/
theorem keepKind_eq {α : Type} {r : Editor} {kind : α → String} {a : α} {out : Edited α}
    (h : r.keepsKinds = true → kind out.value = kind a) :
    Edit.keepKind r kind a out = pure out := by
  have passes : (r.keepsKinds && kind out.value != kind a) = false := by
    cases keeps : r.keepsKinds with
    | false => rfl
    | true => simp [h keeps]
  simp [Edit.keepKind, passes]

theorem enter_same {α : Type} {n : Node} {a : α} {up : List Node}
    {inside : List Node → Edit (Edited α)} (h : inside (n :: up) = pure (.same a)) :
    Edit.enter n a up inside = pure (.same a) := by
  funext scope s
  rw [enter_run, h]
  split <;> rfl

theorem editImports_eq {r : Editor} (h : ∀ i, r.onImport i = pure none) (p : List Node)
    (is : List (Padded Import)) : editImports r p is = pure (.same is) := by
  induction is with
  | nil => rfl
  | cons i is ih =>
    rw [editImports, ih, enter_same (by rw [h, pure_bind]; rfl), pure_bind, pure_bind]
    rfl

namespace Watch

variable {α β γ : Type} {r : Editor} {scope : EditScope} (w : Watch r scope)

/-- The layout of a part is rewritten. -/
abbrev Alters (view : α → Layout) : List Replacement → α → α → Prop :=
  Retouch.Alters (Rewrites w.seen w.ok) view

/-- A statement is rewritten and takes a semicolon as before. -/
abbrev AltersStatement : List Replacement → Statement → Statement → Prop :=
  Retouch.AltersStatement (Rewrites w.seen w.ok)

/-- Behind the replacements `done`, the part `p` of a walk ends in a result that fits all
replacements up to then. -/
def Edits (done : List Replacement) (p : Edit α) (S : List Replacement → α → Prop) : Prop :=
  ∀ rs s, w.inv (rs ++ done) s →
    ∃ new, w.inv (rs ++ (done ++ new)) (p scope s).2 ∧ S (done ++ new) (p scope s).1

variable {w} {done : List Replacement} {p : Edit α} {k : α → Edit β}
  {P : List Replacement → α → Prop} {S : List Replacement → β → Prop}

namespace Edits

theorem pure {out : α} (h : P done out) : w.Edits done (pure out) P :=
  fun rs s holds => ⟨[], by rwa [List.append_nil], by rwa [List.append_nil]⟩

theorem bind (hp : w.Edits [] p P) (hk : ∀ out rs, P rs out → w.Edits (done ++ rs) (k out) S) :
    w.Edits done (p >>= k) S := by
  intro rs s holds
  obtain ⟨new, holds', result⟩ := hp (rs ++ done) s (by simpa using holds)
  obtain ⟨new', holds'', result'⟩ := hk _ new result rs _ (by simpa using holds')
  refine ⟨new ++ new', ?_, ?_⟩
  · rw [← List.append_assoc done]
    exact holds''
  · rw [← List.append_assoc done]
    exact result'

theorem mono {Q : List Replacement → α → Prop} (h : w.Edits done p P)
    (weaken : ∀ rs out, P rs out → Q rs out) : w.Edits done p Q := by
  intro rs s holds
  obtain ⟨new, holds', result⟩ := h rs s holds
  exact ⟨new, holds', weaken _ _ result⟩

/-- A hook leaves a node alone or puts something in its place. -/
theorem hook {made : γ → Replacement} {p : Edit (Option γ)} {f : Option γ → β}
    (answers : ∀ rs s, w.inv rs s → Answers w.inv w.ok made rs (p scope s))
    (stays : S done (f none)) (replaced : ∀ a, w.ok (made a) → S (done ++ [made a]) (f (some a))) :
    w.Edits done (do return f (← p)) S := by
  intro rs s holds
  have answer := answers _ s holds
  change ∃ new, w.inv (rs ++ (done ++ new)) (p scope s).2 ∧ S (done ++ new) (f (p scope s).1)
  match p scope s, answer with
  | (none, t), holds =>
    exact ⟨[], by rwa [List.append_nil], by rwa [List.append_nil]⟩
  | (some a, t), ⟨holds, allowed⟩ =>
    exact ⟨[made a], by rwa [← List.append_assoc], replaced a allowed⟩

section Nodes

variable {p : Edit (Edited α)} {R : List Replacement → α → α → Prop}
  {R' : List Replacement → β → β → Prop} {a : α} {n : Node} {up : List Node}

theorem map {f : α → β} (h : w.Edits [] p (Turns R a))
    (through : ∀ rs a', R rs a a' → R' rs (f a) (f a')) :
    w.Edits [] (do return (← p).map f) (Turns R' (f a)) :=
  h.bind fun _ rs turns => .pure (turns.map (through rs))

/-- An edit that has stopped leaves a node as it is. -/
theorem enter {inside : List Node → Edit (Edited α)} (h : w.Edits [] (inside (n :: up)) (Turns R a))
    (refl : R [] a a) : w.Edits [] (Edit.enter n a up inside) (Turns R a) := by
  intro rs s holds
  rw [enter_run]
  split
  · exact ⟨[], holds, .same refl⟩
  · exact h rs s holds

/-- An expression that keeps its kind is not refused. -/
theorem keptExpression {e : Expression}
    (h : w.Edits [] (e.editInside r (.expression e :: up))
      (Turns (KeepsKind r Expression.kind (w.Alters Expression.layout)) e)) :
    w.Edits [] (Edit.enterExpression r e up (e.editInside r))
      (Turns (KeepsKind r Expression.kind (w.Alters Expression.layout)) e) := by
  refine .enter ?_ ⟨.same _, fun _ => rfl⟩
  refine h.bind fun out rs turns => ?_
  rw [keepKind_eq turns.rel.2]
  exact .pure turns

theorem expression {e : Expression}
    (h : w.Edits [] (e.editInside r (.expression e :: up))
      (Turns (KeepsKind r Expression.kind (w.Alters Expression.layout)) e)) :
    w.Edits [] (Edit.enterExpression r e up (e.editInside r))
      (Turns (w.Alters Expression.layout) e) :=
  h.keptExpression.mono fun _ _ turns => ⟨turns.rel.1, turns.unmoved⟩

theorem statement {s : Statement}
    (h : w.Edits [] (s.editInside r (.statement s :: up))
      (Turns (KeepsKind r Statement.kind w.AltersStatement) s)) :
    w.Edits [] (Edit.enterStatement r s up (s.editInside r)) (Turns w.AltersStatement s) := by
  refine .enter ?_ ⟨.same _, rfl⟩
  refine h.bind fun out rs turns => ?_
  rw [keepKind_eq turns.rel.2]
  exact .pure ⟨turns.rel.1, turns.unmoved⟩

theorem cons {p' : Edit (Edited (List (Padded α)))} {after : Space} {ps : List (Padded α)}
    (head : w.Edits [] p (Turns R a)) (tail : w.Edits [] p' (Turns (All R) ps)) :
    w.Edits [] (do
      let e ← p
      let es ← p'
      return ⟨⟨e.value, after⟩ :: es.value, e.touched ++ es.touched⟩)
      (Turns (All R) (⟨a, after⟩ :: ps)) := by
  refine head.bind fun out rs ⟨rel, still⟩ => ?_
  refine tail.bind fun out' rs' ⟨rel', still'⟩ => .pure ⟨.cons rel rel', ?_⟩
  simp_all [Edited.same]

theorem container {p : Edit (Edited (List (Padded α)))} {before close : Space}
    {ps : List (Padded α)} (h : w.Edits [] p (Turns (All R) ps)) :
    w.Edits [] (do return (← p).map (⟨before, ·, close⟩)) (Turns (Within R) ⟨before, ps, close⟩) :=
  h.map fun _ _ all => .mk all

/-- A call is handed over behind the edit of its parts. -/
theorem call {m : MethodInvocation} {id : NodeId} {rs rs' : List Replacement}
    {select : Edited (Option (Padded Expression))} {arguments : Edited (Container Expression)}
    (known : w.seen m)
    (hs : Turns (fun rs s s' => RewritesEach w.seen w.ok rs s.toList s'.toList) m.select rs select)
    (ha : Turns (Within (w.Alters Expression.layout)) m.arguments rs' arguments) :
    w.Edits (rs ++ rs') (Edit.finishCall r id
      (.rebuilt id (select.touched ++ arguments.touched)
        ⟨m.id, m.leading, select.value, m.name, arguments.value, m.method⟩))
      (Turns (KeepsKind r Expression.kind (w.Alters Expression.layout)) (.methodInvocation m)) := by
  obtain ⟨id', leading, s, name, ⟨before, ps, close⟩, method⟩ := m
  obtain ⟨⟨value, touched⟩, ⟨value', touched'⟩⟩ := select, arguments
  obtain ⟨rel, still⟩ := hs
  obtain ⟨⟨all⟩, still'⟩ := ha
  refine .hook (w.onCall _) ⟨⟨?_, fun _ => rfl⟩, ?_⟩ fun e allowed => ⟨⟨?_, fun keeps => ?_⟩, ?_⟩
  · exact .node (rel.select.left.beside (Within.mk all).exprs)
  · simp_all [Edited.same, Edited.map, Edited.replacedBy, Edited.rebuilt]
  · exact Rewrites.call known rel all.each allowed
  · exact w.keepsKind keeps _ allowed
  · simp

/-- A class is handed over behind the edit of its parts. -/
theorem clazz {c : ClassDeclaration} {id : NodeId} {out : Edited ClassDeclaration}
    (h : Turns (w.Alters ClassDeclaration.layout) c done out) :
    w.Edits done (Edit.finishClass r id out) (Turns (w.Alters ClassDeclaration.layout) c) :=
  .hook (w.onClass _) h fun _ allowed => ⟨.clazz h.rel allowed, by simp⟩

end Nodes

end Edits

variable (w)

mutual

theorem edits_expression (e : Expression) (up : List Node)
    (h : Calls w.seen (Visit.enter (.expression e) up e.inside)) :
    w.Edits [] (e.editInside r (.expression e :: up))
      (Turns (KeepsKind r Expression.kind (w.Alters Expression.layout)) e) := by
  have below := h.below
  match e with
  | .identifier n =>
    refine .hook (w.onIdentifier _ n) (.same ⟨.same _, fun _ => rfl⟩) fun e allowed => ?_
    exact ⟨⟨.identifier allowed, fun keeps => w.keepsKind keeps _ allowed⟩, by simp⟩
  | .literal n =>
    refine .hook (w.onLiteral n) (.same ⟨.same _, fun _ => rfl⟩) fun e allowed => ?_
    exact ⟨⟨.literal allowed, fun keeps => w.keepsKind keeps _ allowed⟩, by simp⟩
  | .fieldAccess n => exact (edits_fieldAccess n _ below).map fun _ _ rel => ⟨rel, fun _ => rfl⟩
  | .methodInvocation ⟨id, leading, select, name, arguments, method⟩ =>
    refine (edits_select select _ below.left).bind fun select' rs hs => ?_
    refine (edits_exprs arguments _ below.right).bind fun arguments' rs' ha => ?_
    exact .call h.here hs ha
  | .newClass id leading clazz arguments body type =>
    refine (Edits.enter (edits_type clazz _ below.left.left.below) (.same _)).bind
      fun clazz' rs ⟨rel, still⟩ => ?_
    refine (edits_exprs arguments _ below.left.right).bind fun arguments' rs' ⟨rel', still'⟩ => ?_
    refine (edits_block? body _ below.right).bind fun body' rs'' ⟨rel'', still''⟩ => .pure ?_
    refine ⟨⟨.node ((rel.right.beside rel'.exprs).beside rel''.1), fun _ => rfl⟩, ?_⟩
    simp_all
  | .newArray id leading elementType dimensions initializer type =>
    refine (edits_type? elementType _ below.left.left).bind fun elementType' rs ⟨rel, still⟩ => ?_
    refine (edits_dimensions dimensions _ below.left.right).bind
      fun dimensions' rs' ⟨rel', still'⟩ => ?_
    refine (edits_exprs? "\x7b" "\x7d" initializer _ below.right).bind
      fun initializer' rs'' ⟨rel'', still''⟩ => .pure ?_
    refine ⟨⟨.node ((rel.2.beside rel').beside rel''), fun _ => rfl⟩, ?_⟩
    simp_all
  | .lambda id leading parenthesized parameters arrow body type =>
    refine (edits_parameters parameters _ below.left).bind fun parameters' rs ⟨rel, still⟩ => ?_
    refine (edits_lambdaBody body _ below.right).bind fun body' rs' ⟨rel', still'⟩ => .pure ?_
    refine ⟨⟨?_, fun _ => rfl⟩, ?_⟩
    · cases parenthesized with
      | true => exact .node (rel.parameters.left.left.beside rel')
      | false =>
        cases parameters
        obtain ⟨⟨_, _, _⟩, _⟩ := parameters'
        cases rel with
        | mk all => exact .node (all.bareParameters.left.left.beside rel')
    · simp_all
  | .memberReference id leading containing colons name type =>
    refine (Edits.expression (edits_expression containing _ below)).bind
      fun containing' rs ⟨rel, still⟩ => .pure ?_
    refine ⟨⟨.node rel.left.left.left, fun _ => rfl⟩, ?_⟩
    simp_all
  | .binary id leading left before op right type =>
    refine (Edits.expression (edits_expression left _ below.left)).bind
      fun left' rs ⟨rel, still⟩ => ?_
    refine (Edits.expression (edits_expression right _ below.right)).bind
      fun right' rs' ⟨rel', still'⟩ => .pure ?_
    refine ⟨⟨.node (rel.left.left.beside rel'), fun _ => rfl⟩, ?_⟩
    simp_all
  | .unary id leading before op operand type =>
    refine (Edits.expression (edits_expression operand _ below)).bind
      fun operand' rs ⟨rel, still⟩ => .pure ⟨⟨.node ?_, fun _ => rfl⟩, ?_⟩
    · split
      · exact rel.left.left
      · exact rel.right
    · simp_all
  | .assignment id leading target before op value type =>
    refine (Edits.expression (edits_expression target _ below.left)).bind
      fun target' rs ⟨rel, still⟩ => ?_
    refine (Edits.expression (edits_expression value _ below.right)).bind
      fun value' rs' ⟨rel', still'⟩ => .pure ?_
    refine ⟨⟨.node (rel.left.left.beside rel'), fun _ => rfl⟩, ?_⟩
    simp_all
  | .ternary id leading condition ⟨question, whenTrue⟩ ⟨colon, whenFalse⟩ type =>
    refine (Edits.expression (edits_expression condition _ below.left.left)).bind
      fun condition' rs ⟨rel, still⟩ => ?_
    refine (Edits.expression (edits_expression whenTrue _ below.left.right)).bind
      fun whenTrue' rs' ⟨rel', still'⟩ => ?_
    refine (Edits.expression (edits_expression whenFalse _ below.right)).bind
      fun whenFalse' rs'' ⟨rel'', still''⟩ => .pure ?_
    refine ⟨⟨.node ((rel.left.left.beside rel').left.left.beside rel''), fun _ => rfl⟩, ?_⟩
    simp_all
  | .parentheses id leading ⟨tree, after⟩ =>
    refine (Edits.expression (edits_expression tree _ below)).bind
      fun tree' rs ⟨rel, still⟩ => .pure ?_
    refine ⟨⟨.node rel.right.left.left, fun _ => rfl⟩, ?_⟩
    simp_all
  | .arrayAccess id leading indexed dimension type =>
    refine (Edits.expression (edits_expression indexed _ below.left)).bind
      fun indexed' rs ⟨rel, still⟩ => ?_
    refine (edits_dimension dimension _ below.right).bind
      fun dimension' rs' ⟨rel', still'⟩ => .pure ?_
    refine ⟨⟨.node (rel.beside rel'), fun _ => rfl⟩, ?_⟩
    simp_all
  | .typeCast id leading ⟨clazz, after⟩ operand type =>
    refine (Edits.enter (edits_type clazz _ below.left.below) (.same _)).bind
      fun clazz' rs ⟨rel, still⟩ => ?_
    refine (Edits.expression (edits_expression operand _ below.right)).bind
      fun operand' rs' ⟨rel', still'⟩ => .pure ?_
    refine ⟨⟨.node (rel.right.left.left.beside rel'), fun _ => rfl⟩, ?_⟩
    simp_all

theorem edits_fieldAccess (n : FieldAccess) (p : List Node) (h : Calls w.seen (n.inside p)) :
    w.Edits [] (n.editInside r p) (Turns (w.Alters FieldAccess.layout) n) := by
  match n with
  | ⟨id, leading, target, dot, name, type⟩ =>
    refine (Edits.expression (edits_expression target _ h)).bind
      fun target' rs ⟨rel, still⟩ => .pure ⟨.node rel.left.left.left, ?_⟩
    simp_all

theorem edits_select (s : Option (Padded Expression)) (p : List Node)
    (h : Calls w.seen (insideSelect s p)) :
    w.Edits [] (editSelect r s p)
      (Turns (fun rs s s' => RewritesEach w.seen w.ok rs s.toList s'.toList) s) := by
  match s with
  | none => exact .pure (.same .nil)
  | some ⟨e, after⟩ =>
    refine (Edits.expression (edits_expression e _ h)).map fun rs e' rel => ?_
    rw [← List.append_nil rs]
    exact .cons rel .nil

theorem edits_exprList (es : List (Padded Expression)) (p : List Node)
    (h : Calls w.seen (insideExprList es p)) :
    w.Edits [] (editExprList r es p) (Turns (All (w.Alters Expression.layout)) es) := by
  match es with
  | [] => exact .pure (.same .nil)
  | ⟨e, after⟩ :: es =>
    exact .cons (.expression (edits_expression e _ h.left)) (edits_exprList es _ h.right)

theorem edits_exprs (c : Container Expression) (p : List Node)
    (h : Calls w.seen (insideExprs c p)) :
    w.Edits [] (editExprs r c p) (Turns (Within (w.Alters Expression.layout)) c) := by
  match c with
  | ⟨before, elements, close⟩ => exact .container (edits_exprList elements _ h)

theorem edits_exprs? (opening closing : String) (c : Option (Container Expression)) (p : List Node)
    (h : Calls w.seen (insideExprs? c p)) :
    w.Edits [] (editExprs? r c p) (Turns (w.Alters (layoutExprs? opening closing)) c) := by
  match c with
  | none => exact .pure (.same (.same _))
  | some c => exact (edits_exprs c _ h).map fun _ _ rel => rel.exprs

theorem edits_expr? (e : Option Expression) (p : List Node) (h : Calls w.seen (insideExpr? e p)) :
    w.Edits [] (editExpr? r e p) (Turns (w.Alters layoutExpr?) e) := by
  match e with
  | none => exact .pure (.same (.same _))
  | some e => exact (Edits.expression (edits_expression e _ h)).map fun _ _ rel => rel

theorem edits_dimension (d : ArrayDimension) (p : List Node) (h : Calls w.seen (d.inside p)) :
    w.Edits [] (d.editInside r p) (Turns (w.Alters ArrayDimension.layout) d) := by
  match d with
  | ⟨opening, index, closing⟩ =>
    exact (edits_expr? index _ h).map fun _ _ rel => rel.right.left.left

theorem edits_dimensions (ds : List ArrayDimension) (p : List Node)
    (h : Calls w.seen (insideDimensions ds p)) :
    w.Edits [] (editDimensions r ds p) (Turns (w.Alters layoutDimensions) ds) := by
  match ds with
  | [] => exact .pure (.same (.same _))
  | d :: ds =>
    refine (edits_dimension d _ h.left).bind fun d' rs ⟨rel, still⟩ => ?_
    refine (edits_dimensions ds _ h.right).bind
      fun ds' rs' ⟨rel', still'⟩ => .pure ⟨rel.beside rel', ?_⟩
    simp_all [Edited.same]

theorem edits_lambdaBody (b : LambdaBody) (p : List Node) (h : Calls w.seen (b.inside p)) :
    w.Edits [] (b.editInside r p) (Turns (w.Alters LambdaBody.layout) b) := by
  match b with
  | .expression e => exact (Edits.expression (edits_expression e _ h)).map fun _ _ rel => rel
  | .block b => exact (Edits.enter (edits_block b _ h.below) (.same _)).map fun _ _ rel => rel

theorem edits_type? (t : Option TypeTree) (p : List Node) (h : Calls w.seen (insideType? t p)) :
    w.Edits [] (editType? r t p) (Turns (fun rs t t' =>
      w.Alters layoutType? rs t t' ∧ w.Alters layoutNewType rs t t') t) := by
  match t with
  | none => exact .pure (.same ⟨.same _, .same _⟩)
  | some t =>
    exact (Edits.enter (edits_type t _ h.below) (.same _)).map fun _ _ rel => ⟨rel, rel.right⟩

theorem edits_type (t : TypeTree) (p : List Node) (h : Calls w.seen (t.inside p)) :
    w.Edits [] (t.editInside r p) (Turns (w.Alters TypeTree.layout) t) := by
  match t with
  | .named e => exact (Edits.expression (edits_expression e _ h)).map fun _ _ rel => rel
  | .primitive id leading kind => exact .pure (.same (.same _))
  | .parameterized id leading clazz arguments type =>
    refine (Edits.expression (edits_expression clazz _ h.left)).bind
      fun clazz' rs ⟨rel, still⟩ => ?_
    refine (edits_types arguments _ h.right).bind fun arguments' rs' ⟨rel', still'⟩ => .pure ?_
    refine ⟨.node (rel.beside rel'.types), ?_⟩
    simp_all
  | .array id leading element opening closing type =>
    refine (Edits.enter (edits_type element _ h.below) (.same _)).bind
      fun element' rs ⟨rel, still⟩ => .pure ⟨.node rel.left.left.left.left, ?_⟩
    simp_all
  | .wildcard id leading bound bounded =>
    refine (edits_type? bounded _ h).bind
      fun bounded' rs ⟨rel, still⟩ => .pure ⟨.node rel.1.right, ?_⟩
    simp_all

theorem edits_typeList (ts : List (Padded TypeTree)) (p : List Node)
    (h : Calls w.seen (insideTypeList ts p)) :
    w.Edits [] (editTypeList r ts p) (Turns (All (w.Alters TypeTree.layout)) ts) := by
  match ts with
  | [] => exact .pure (.same .nil)
  | ⟨t, after⟩ :: ts =>
    exact .cons (.enter (edits_type t _ h.left.below) (.same _)) (edits_typeList ts _ h.right)

theorem edits_types (c : Container TypeTree) (p : List Node) (h : Calls w.seen (insideTypes c p)) :
    w.Edits [] (editTypes r c p) (Turns (Within (w.Alters TypeTree.layout)) c) := by
  match c with
  | ⟨before, elements, close⟩ => exact .container (edits_typeList elements _ h)

theorem edits_types? (opening closing : String) (c : Option (Container TypeTree)) (p : List Node)
    (h : Calls w.seen (insideTypes? c p)) :
    w.Edits [] (editTypes? r c p) (Turns (w.Alters (layoutTypes? opening closing)) c) := by
  match c with
  | none => exact .pure (.same (.same _))
  | some c => exact (edits_types c _ h).map fun _ _ rel => rel.types

theorem edits_parameterList (vs : List (Padded VariableDeclarations)) (p : List Node)
    (h : Calls w.seen (insideParameterList vs p)) :
    w.Edits [] (editParameterList r vs p)
      (Turns (All (w.Alters VariableDeclarations.layout)) vs) := by
  match vs with
  | [] => exact .pure (.same .nil)
  | ⟨v, after⟩ :: vs =>
    exact .cons (.enter (edits_declaration v _ h.left.below) (.same _))
      (edits_parameterList vs _ h.right)

theorem edits_parameters (c : Container VariableDeclarations) (p : List Node)
    (h : Calls w.seen (insideParameters c p)) :
    w.Edits [] (editParameters r c p)
      (Turns (Within (w.Alters VariableDeclarations.layout)) c) := by
  match c with
  | ⟨before, elements, close⟩ => exact .container (edits_parameterList elements _ h)

theorem edits_declaration (v : VariableDeclarations) (p : List Node)
    (h : Calls w.seen (v.inside p)) :
    w.Edits [] (v.editInside r p) (Turns (w.Alters VariableDeclarations.layout) v) := by
  match v with
  | ⟨id, leading, annotations, modifiers, declaredType, varargs, declarators⟩ =>
    refine (edits_annotations annotations _ h.left.left).bind
      fun annotations' rs ⟨rel, still⟩ => ?_
    refine (edits_type? declaredType _ h.left.right).bind
      fun declaredType' rs' ⟨rel', still'⟩ => ?_
    refine (edits_variables declarators _ h.right).bind
      fun declarators' rs'' ⟨rel'', still''⟩ => .pure ?_
    refine ⟨.node ((rel.left.beside rel'.1).left.beside rel''.declarators), ?_⟩
    simp_all

theorem edits_variable (v : NamedVariable) (p : List Node) (h : Calls w.seen (v.inside p)) :
    w.Edits [] (v.editInside r p) (Turns (w.Alters NamedVariable.layout) v) := by
  match v with
  | ⟨id, leading, name, initializer, type⟩ =>
    refine (edits_init initializer _ h).bind
      fun initializer' rs ⟨rel, still⟩ => .pure ⟨.node rel.right, ?_⟩
    simp_all

theorem edits_init (e : Option (LeftPadded Expression)) (p : List Node)
    (h : Calls w.seen (insideInit e p)) :
    w.Edits [] (editInit r e p) (Turns (w.Alters layoutInit) e) := by
  match e with
  | none => exact .pure (.same (.same _))
  | some ⟨before, e⟩ =>
    exact (Edits.expression (edits_expression e _ h)).map fun _ _ rel => rel.right

theorem edits_variables (vs : List (Padded NamedVariable)) (p : List Node)
    (h : Calls w.seen (insideVariables vs p)) :
    w.Edits [] (editVariables r vs p) (Turns (All (w.Alters NamedVariable.layout)) vs) := by
  match vs with
  | [] => exact .pure (.same .nil)
  | ⟨v, after⟩ :: vs => exact .cons (edits_variable v _ h.left) (edits_variables vs _ h.right)

theorem edits_annotated (a : Annotation) (p : List Node) (h : Calls w.seen (a.inside p)) :
    w.Edits [] (a.editInside r p) (Turns (w.Alters Annotation.layout) a) := by
  match a with
  | ⟨id, leading, name, arguments⟩ =>
    refine (Edits.expression (edits_expression name _ h.left)).bind fun name' rs ⟨rel, still⟩ => ?_
    refine (edits_exprs? "(" ")" arguments _ h.right).bind
      fun arguments' rs' ⟨rel', still'⟩ => .pure ⟨.node (rel.right.beside rel'), ?_⟩
    simp_all

theorem edits_annotations (as : List Annotation) (p : List Node)
    (h : Calls w.seen (insideAnnotations as p)) :
    w.Edits [] (editAnnotations r as p) (Turns (w.Alters layoutAnnotations) as) := by
  match as with
  | [] => exact .pure (.same (.same _))
  | a :: as =>
    refine (Edits.enter (edits_annotated a _ h.left.below) (.same _)).bind
      fun a' rs ⟨rel, still⟩ => ?_
    refine (edits_annotations as _ h.right).bind
      fun as' rs' ⟨rel', still'⟩ => .pure ⟨rel.beside rel', ?_⟩
    simp_all [Edited.same]

theorem edits_block (b : Block) (p : List Node) (h : Calls w.seen (b.inside p)) :
    w.Edits [] (b.editInside r p) (Turns (w.Alters Block.layout) b) := by
  match b with
  | ⟨id, leading, statements, close⟩ =>
    refine (edits_statements statements _ h).bind
      fun statements' rs ⟨rel, still⟩ => .pure ⟨.node rel.statements.right.left.left, ?_⟩
    simp_all

theorem edits_block? (b : Option Block) (p : List Node) (h : Calls w.seen (insideBlock? b p)) :
    w.Edits [] (editBlock? r b p) (Turns (fun rs b b' =>
      w.Alters layoutBlock? rs b b' ∧ b'.isNone = b.isNone) b) := by
  match b with
  | none => exact .pure (.same ⟨.same _, rfl⟩)
  | some b =>
    exact (Edits.enter (edits_block b _ h.below) (.same _)).map fun _ _ rel => ⟨rel, rfl⟩

theorem edits_statements (ss : List (Padded Statement)) (p : List Node)
    (h : Calls w.seen (insideStatements ss p)) :
    w.Edits [] (editStatements r ss p) (Turns (All w.AltersStatement) ss) := by
  match ss with
  | [] => exact .pure (.same .nil)
  | ⟨s, after⟩ :: ss =>
    exact .cons (.statement (edits_statement s _ h.left.below)) (edits_statements ss _ h.right)

theorem edits_resources? (t : Option TryResources) (p : List Node)
    (h : Calls w.seen (insideResources? t p)) :
    w.Edits [] (editResources? r t p) (Turns (w.Alters layoutResources?) t) := by
  match t with
  | none => exact .pure (.same (.same _))
  | some ⟨opening, resources, terminated, closing⟩ =>
    exact (edits_statements resources _ h).map fun _ _ rel => rel.resources.right.left.left

theorem edits_class (c : ClassDeclaration) (p : List Node) (h : Calls w.seen (c.inside p)) :
    w.Edits [] (c.editInside r p) (Turns (w.Alters ClassDeclaration.layout) c) := by
  match c with
  | ⟨id, leading, annotations, modifiers, keywordLeading, keyword, name, superclass, interfaces,
      body, type⟩ =>
    refine (edits_annotations annotations _ h.left.left.left).bind
      fun annotations' rs₁ ⟨rel₁, still₁⟩ => ?_
    refine (edits_super superclass _ h.left.left.right).bind
      fun superclass' rs₂ ⟨rel₂, still₂⟩ => ?_
    refine (edits_types? keyword.listKeyword "" interfaces _ h.left.right).bind
      fun interfaces' rs₃ ⟨rel₃, still₃⟩ => ?_
    refine (Edits.enter (edits_block body _ h.right.below) (.same _)).bind
      fun body' rs₄ ⟨rel₄, still₄⟩ => .clazz ?_
    refine ⟨.node (((rel₁.left.left.left.left.beside rel₂).beside rel₃).beside rel₄), ?_⟩
    simp_all

theorem edits_super (t : Option (LeftPadded TypeTree)) (p : List Node)
    (h : Calls w.seen (insideSuper t p)) :
    w.Edits [] (editSuper r t p) (Turns (w.Alters layoutSuper) t) := by
  match t with
  | none => exact .pure (.same (.same _))
  | some ⟨before, t⟩ =>
    exact (Edits.enter (edits_type t _ h.below) (.same _)).map fun _ _ rel => rel.right

theorem edits_method (m : MethodDeclaration) (p : List Node) (h : Calls w.seen (m.inside p)) :
    w.Edits [] (m.editInside r p) (Turns (fun rs m m' =>
      w.Alters MethodDeclaration.layout rs m m' ∧ m'.body.isNone = m.body.isNone) m) := by
  match m with
  | ⟨id, leading, annotations, modifiers, returnType, name, parameters, throwing, body, method⟩ =>
    refine (edits_annotations annotations _ h.left.left.left.left).bind
      fun annotations' rs₁ ⟨rel₁, still₁⟩ => ?_
    refine (edits_type? returnType _ h.left.left.left.right).bind
      fun returnType' rs₂ ⟨rel₂, still₂⟩ => ?_
    refine (edits_parameters parameters _ h.left.left.right).bind
      fun parameters' rs₃ ⟨rel₃, still₃⟩ => ?_
    refine (edits_types? "throws" "" throwing _ h.left.right).bind
      fun throwing' rs₄ ⟨rel₄, still₄⟩ => ?_
    refine (edits_block? body _ h.right).bind fun body' rs₅ ⟨rel₅, still₅⟩ => .pure ?_
    refine ⟨⟨.node ?_, rel₅.2⟩, ?_⟩
    · exact (((rel₁.left.beside rel₂.1).left.beside rel₃.parameters).beside rel₄).beside rel₅.1
    · simp_all

theorem edits_parenthesized (t : Parenthesized) (p : List Node) (h : Calls w.seen (t.inside p)) :
    w.Edits [] (t.editInside r p) (Turns (w.Alters Parenthesized.layout) t) := by
  match t with
  | ⟨opening, tree, closing⟩ =>
    exact (Edits.expression (edits_expression tree _ h)).map fun _ _ rel => rel.right.left.left

theorem edits_cases (cs : List Case) (p : List Node) (h : Calls w.seen (insideCases cs p)) :
    w.Edits [] (editCases r cs p) (Turns (w.Alters layoutCases) cs) := by
  match cs with
  | [] => exact .pure (.same (.same _))
  | ⟨id, leading, labels, separator, body⟩ :: cs =>
    refine (edits_exprList labels _ h.left.left).bind fun labels' rs ⟨rel, still⟩ => ?_
    refine (edits_caseBody body _ h.left.right).bind fun body' rs' ⟨rel', still'⟩ => ?_
    refine (edits_cases cs _ h.right).bind fun cs' rs'' ⟨rel'', still''⟩ => .pure ⟨?_, ?_⟩
    · refine .beside (.node ?_) rel''
      rw [rel.isEmpty_eq]
      exact rel.exprs.right.left.beside rel'
    · simp_all [Edited.same]

theorem edits_caseBody (b : CaseBody) (p : List Node) (h : Calls w.seen (b.inside p)) :
    w.Edits [] (b.editInside r p) (Turns (w.Alters CaseBody.layout) b) := by
  match b with
  | .statements list => exact (edits_statements list _ h).map fun _ _ rel => rel.statements.right
  | .rule ⟨s, after⟩ =>
    exact (Edits.statement (edits_statement s _ h.below)).map fun _ _ rel => rel.behind (.same _)

theorem edits_catches (cs : List Catch) (p : List Node) (h : Calls w.seen (insideCatches cs p)) :
    w.Edits [] (editCatches r cs p) (Turns (w.Alters layoutCatches) cs) := by
  match cs with
  | [] => exact .pure (.same (.same _))
  | ⟨id, leading, opening, ⟨parameter, after⟩, body⟩ :: cs =>
    refine (Edits.enter (edits_declaration parameter _ h.left.left.below) (.same _)).bind
      fun parameter' rs ⟨rel, still⟩ => ?_
    refine (Edits.enter (edits_block body _ h.left.right.below) (.same _)).bind
      fun body' rs' ⟨rel', still'⟩ => ?_
    refine (edits_catches cs _ h.right).bind fun cs' rs'' ⟨rel'', still''⟩ => .pure ?_
    refine ⟨.beside (.node (rel.right.left.left.beside rel')) rel'', ?_⟩
    simp_all [Edited.same]

theorem edits_else (e : Option Else) (p : List Node) (h : Calls w.seen (insideElse e p)) :
    w.Edits [] (editElse r e p) (Turns (w.Alters layoutElse) e) := by
  match e with
  | none => exact .pure (.same (.same _))
  | some ⟨id, leading, ⟨s, after⟩⟩ =>
    exact (Edits.statement (edits_statement s _ h.below)).map fun _ _ rel =>
      .node (rel.behind (.same _))

theorem edits_finally (b : Option (LeftPadded Block)) (p : List Node)
    (h : Calls w.seen (insideFinally b p)) :
    w.Edits [] (editFinally r b p) (Turns (w.Alters layoutFinally) b) := by
  match b with
  | none => exact .pure (.same (.same _))
  | some ⟨before, b⟩ =>
    exact (Edits.enter (edits_block b _ h.below) (.same _)).map fun _ _ rel => rel.right

theorem edits_statement? (s : Option Statement) (p : List Node)
    (h : Calls w.seen (insideStatement? s p)) :
    w.Edits [] (editStatement? r s p) (Turns (w.Alters layoutStatement?) s) := by
  match s with
  | none => exact .pure (.same (.same _))
  | some s => exact (Edits.statement (edits_statement s _ h.below)).map fun _ _ rel => rel.1

theorem edits_statement (s : Statement) (p : List Node) (h : Calls w.seen (s.inside p)) :
    w.Edits [] (s.editInside r p) (Turns (KeepsKind r Statement.kind w.AltersStatement) s) := by
  match s with
  | .expression e =>
    refine (Edits.keptExpression (edits_expression e _ h)).map fun _ _ rel => ?_
    exact ⟨⟨rel.1, rfl⟩, rel.2⟩
  | .declaration n =>
    exact (edits_declaration n _ h.below).map fun _ _ rel => ⟨⟨rel, rfl⟩, fun _ => rfl⟩
  | .block n => exact (edits_block n _ h.below).map fun _ _ rel => ⟨⟨rel, rfl⟩, fun _ => rfl⟩
  | .classDeclaration n =>
    exact (edits_class n _ h.below).map fun _ _ rel => ⟨⟨rel, rfl⟩, fun _ => rfl⟩
  | .method n =>
    exact (edits_method n _ h.below).map fun _ _ rel => ⟨⟨rel.1, rel.2⟩, fun _ => rfl⟩
  | .returns id leading value =>
    refine (edits_expr? value _ h).bind fun value' rs ⟨rel, still⟩ => .pure ?_
    refine ⟨⟨⟨.node rel.right, rfl⟩, fun _ => rfl⟩, ?_⟩
    simp_all
  | .throws id leading exception =>
    refine (Edits.expression (edits_expression exception _ h)).bind
      fun exception' rs ⟨rel, still⟩ => .pure ?_
    refine ⟨⟨⟨.node rel.right, rfl⟩, fun _ => rfl⟩, ?_⟩
    simp_all
  | .empty id leading | .breaks id leading label | .continues id leading label =>
    exact .pure (.same ⟨⟨.same _, rfl⟩, fun _ => rfl⟩)
  | .conditional id leading condition ⟨whenTrue, after⟩ whenFalse =>
    refine (edits_parenthesized condition _ h.left.left).bind fun condition' rs ⟨rel, still⟩ => ?_
    refine (Edits.statement (edits_statement whenTrue _ h.left.right.below)).bind
      fun whenTrue' rs' ⟨rel', still'⟩ => ?_
    refine (edits_else whenFalse _ h.right).bind fun whenFalse' rs'' ⟨rel'', still''⟩ => .pure ?_
    refine ⟨⟨⟨.node ((rel'.behind rel.right).beside rel''), rfl⟩, fun _ => rfl⟩, ?_⟩
    simp_all
  | .whileLoop id leading condition ⟨body, after⟩ =>
    refine (edits_parenthesized condition _ h.left).bind fun condition' rs ⟨rel, still⟩ => ?_
    refine (Edits.statement (edits_statement body _ h.right.below)).bind
      fun body' rs' ⟨rel', still'⟩ => .pure ?_
    refine ⟨⟨⟨.node (rel'.behind rel.right), rfl⟩, fun _ => rfl⟩, ?_⟩
    simp_all
  | .forLoop id leading opening init afterInit condition afterCondition update closing
      ⟨body, after⟩ =>
    refine (edits_statement? init _ h.left.left.left).bind fun init' rs₁ ⟨rel₁, still₁⟩ => ?_
    refine (edits_expr? condition _ h.left.left.right).bind
      fun condition' rs₂ ⟨rel₂, still₂⟩ => ?_
    refine (edits_exprList update _ h.left.right).bind fun update' rs₃ ⟨rel₃, still₃⟩ => ?_
    refine (Edits.statement (edits_statement body _ h.right.below)).bind
      fun body' rs₄ ⟨rel₄, still₄⟩ => .pure ⟨⟨⟨.node (rel₄.behind ?_), rfl⟩, fun _ => rfl⟩, ?_⟩
    · exact ((rel₁.right.left.left.beside rel₂).left.left.beside rel₃.exprs).left.left
    · simp_all
  | .forEach id leading opening ⟨binder, afterBinder⟩ ⟨iterable, afterIterable⟩ ⟨body, after⟩ =>
    refine (Edits.enter (edits_declaration binder _ h.left.left.below) (.same _)).bind
      fun binder' rs₁ ⟨rel₁, still₁⟩ => ?_
    refine (Edits.expression (edits_expression iterable _ h.left.right)).bind
      fun iterable' rs₂ ⟨rel₂, still₂⟩ => ?_
    refine (Edits.statement (edits_statement body _ h.right.below)).bind
      fun body' rs₃ ⟨rel₃, still₃⟩ => .pure ⟨⟨⟨.node (rel₃.behind ?_), rfl⟩, fun _ => rfl⟩, ?_⟩
    · exact (rel₁.right.left.left.beside rel₂).left.left
    · simp_all
  | .tryBlock id leading resources body catches finalizer =>
    refine (edits_resources? resources _ h.left.left.left).bind
      fun resources' rs₁ ⟨rel₁, still₁⟩ => ?_
    refine (Edits.enter (edits_block body _ h.left.left.right.below) (.same _)).bind
      fun body' rs₂ ⟨rel₂, still₂⟩ => ?_
    refine (edits_catches catches _ h.left.right).bind fun catches' rs₃ ⟨rel₃, still₃⟩ => ?_
    refine (edits_finally finalizer _ h.right).bind fun finalizer' rs₄ ⟨rel₄, still₄⟩ => .pure ?_
    refine ⟨⟨⟨.node (((rel₁.right.beside rel₂).beside rel₃).beside rel₄), rfl⟩, fun _ => rfl⟩, ?_⟩
    simp_all
  | .doWhile id leading ⟨body, after⟩ whileLeading condition =>
    refine (Edits.statement (edits_statement body _ h.left.below)).bind
      fun body' rs ⟨rel, still⟩ => ?_
    refine (edits_parenthesized condition _ h.right).bind
      fun condition' rs' ⟨rel', still'⟩ => .pure ?_
    refine ⟨⟨⟨.node ((rel.behind (.same _)).left.left.beside rel'), rfl⟩, fun _ => rfl⟩, ?_⟩
    simp_all
  | .switch id leading selector opening cases closing =>
    refine (edits_parenthesized selector _ h.left).bind fun selector' rs ⟨rel, still⟩ => ?_
    refine (edits_cases cases _ h.right).bind fun cases' rs' ⟨rel', still'⟩ => .pure ?_
    refine ⟨⟨⟨.node ((rel.right.left.left.beside rel').left.left), rfl⟩, fun _ => rfl⟩, ?_⟩
    simp_all

end

theorem edits_classes (p : List Node) (cs : List ClassDeclaration)
    (h : Calls w.seen (cs.flatMap fun c => Visit.enter (.classDeclaration c) p c.inside)) :
    w.Edits [] (editClasses r p cs) (Turns (RewritesClasses w.seen w.ok) cs) := by
  induction cs with
  | nil => exact .pure (.same .nil)
  | cons c cs ih =>
    rw [List.flatMap_cons] at h
    refine (Edits.enter (edits_class w c _ h.left.below) (.same _)).bind
      fun c' rs ⟨rel, still⟩ => ?_
    refine (ih h.right).bind fun cs' rs' ⟨rel', still'⟩ => .pure ⟨.cons rel rel', ?_⟩
    simp_all [Edited.same]

/-- An editor that only looks at classes leaves all else in a unit as it is. -/
theorem edits_unit (u : CompilationUnit) (h : Calls w.seen u.visits)
    (onUnit : r.onUnit u = pure ()) (onImport : ∀ i, r.onImport i = pure none) :
    w.Edits [] (u.editBy r) (Turns (fun rs u u' =>
      ∃ classes, RewritesClasses w.seen w.ok rs u.classes classes ∧ u' = { u with classes })
        u) := by
  refine .enter ?_ ⟨u.classes, .refl u.classes, rfl⟩
  rw [onUnit, editImports_eq onImport, pure_bind, pure_bind]
  refine (edits_classes w _ u.classes h.below.right).bind fun classes' rs ⟨rel, still⟩ => .pure ?_
  refine ⟨⟨_, rel, rfl⟩, ?_⟩
  simp_all

end Watch

/-- An editor that looks at the unit as a whole only. -/
structure Editor.Quiet (r : Editor) : Prop where
  onImport : ∀ i, r.onImport i = pure none
  onIdentifier : ∀ p n, r.onIdentifier p n = pure none
  onLiteral : ∀ n, r.onLiteral n = pure none
  onCall : ∀ m, r.onCall m = pure none
  onClass : ∀ c, r.onClass c = pure none

/-- Such an editor makes no replacement and does not touch the state on its walk. -/
def Editor.Quiet.watch {r : Editor} (quiet : r.Quiet) (scope : EditScope) (t : EditState) :
    Watch r scope where
  seen _ := True
  ok _ := False
  inv rs s := rs = [] ∧ s = t
  onIdentifier p n rs s holds := by
    rw [quiet.onIdentifier]
    exact holds
  onLiteral n rs s holds := by
    rw [quiet.onLiteral]
    exact holds
  onCall m rs s holds := by
    rw [quiet.onCall]
    exact holds
  onClass c rs s holds := by
    rw [quiet.onClass]
    exact holds
  keepsKind _ _ h := h.elim

theorem Editor.Quiet.editBy_run {r : Editor} (quiet : r.Quiet) (u : CompilationUnit)
    (scope : EditScope) (s : EditState)
    (going : (s.failure.isSome || s.session.cancelled) = false) :
    u.editBy r scope s = (.same u, (r.onUnit u scope s).2) := by
  let t := (r.onUnit u scope s).2
  obtain ⟨new, ⟨none, still⟩, turns⟩ :=
    Watch.edits_classes (quiet.watch scope t) [.unit u] u.classes
    (fun _ _ _ _ => trivial) [] t ⟨rfl, rfl⟩
  have same := turns.unmoved none
  have classes : editClasses r [.unit u] u.classes scope t = (.same u.classes, t) :=
    Prod.ext same still
  have imports := editImports_eq quiet.onImport [.unit u] u.imports
  rw [CompilationUnit.editBy, enter_run, going, imports]
  change (let x := editClasses r [.unit u] u.classes scope t
    (Edited.rebuilt u.id ([] ++ x.1.touched) { u with imports := u.imports, classes := x.1.value },
      x.2) : Edited CompilationUnit × EditState) = _
  rw [classes]
  rfl

end Retouch
