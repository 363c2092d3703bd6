import Retouch.Proofs.Attribution.Binding
import Retouch.Proofs.Attribution.Layout
import Retouch.Proofs.Parser.Grouping

/-!
# The stops of an attributed unit

Attribution keeps every operand one and the statements in a block ended, and it binds every call
(`Setting.Fine`). These are facts about the stops of the tree that it gives. The classes around a
stop are known from the path down to it, so the facts are stated for all paths in given surroundings
(`Setting.Sees`). The names of a unit change only where a class is declared; `Setting.Finds` carries
along that they can be reached.
-/

namespace Retouch

open Attribution (Surroundings Attribute State isFunctionalArgument functionalType)

/-- What is fixed while a unit is attributed. -/
structure Setting where
  /-- The class that stands for unknown ones. -/
  object : ClassType
  /-- What names can mean. -/
  reached : Names → Prop
  /-- The classes that can be met. -/
  known : ClassDeclaration → Prop
  declares : ∀ (env : Surroundings) (c : ClassDeclaration) (g : Names), reached g → known c →
    reached (Attribution.declareClass env c { names := g }).2.names
  objectType_eq : ∀ g, reached g → g.objectType = object

/-- What attribution keeps of a node as the grammar gives it: the statements in a block end, and
operands hold together. -/
def Node.isSound (n : Node) : Bool := n.isDelimited && n.isGrouped

theorem Block.isSound_node {b : Block} (h : b.isDelimited = true) :
    (Node.block b).isSound = true := by
  simp [Node.isSound, Node.isDelimited, Node.isGrouped, h]

/-- Nothing is said of the node beyond its operands: it is no call, and no class and no block begins
here. -/
def Node.isQuiet : Node → Bool
  | block _ | classDeclaration _ | statement (.classDeclaration _)
  | expression (.methodInvocation _) | expression (.newClass ..) => false
  | _ => true

theorem Node.isQuiet_spec {n : Node} (h : n.isQuiet = true) (object : ClassType) (p : List Node) :
    enclosing object (n :: p) = enclosing object p ∧ n.bodyClass? object = none ∧
      (Visit.mk n (n :: p)).invocation? = none := by
  cases n with
  | block | classDeclaration => cases h
  | statement s => cases s <;> first | exact ⟨rfl, rfl, rfl⟩ | cases h
  | expression e => cases e <;> first | exact ⟨rfl, rfl, rfl⟩ | cases h
  | unit | importDeclaration | method | annotationUse | declaration | type => exact ⟨rfl, rfl, rfl⟩

namespace Setting

variable (ctx : Setting)

/-- A node before attribution. -/
def Raw (n : Node) : Prop := n.isRead = true ∧ ∀ c, n = .classDeclaration c → ctx.known c

/-- A stop behind attribution. -/
def Fine (v : Visit) : Prop :=
  v.node.isSound = true ∧ ∀ m, v.invocation? = some m →
    ∃ g, ctx.reached g ∧ m.Bound g (enclosing ctx.object v.path)

/-- The path ends in the surroundings. -/
def Under (env : Surroundings) (p : List Node) : Prop := enclosing ctx.object p = env.classes

/-- A block below the path is no body of a class. -/
def Inner (env : Surroundings) (p : List Node) : Prop :=
  ctx.Under env p ∧ p.head?.bind (·.bodyClass? ctx.object) = none

/-- A block below the path is the body of the class `c`. -/
def Opens (env : Surroundings) (c : ClassType) (p : List Node) : Prop :=
  ctx.Under env p ∧ p.head?.bind (·.bodyClass? ctx.object) = some c

/-- The stops are fine under every such path. -/
def Sees (place : List Node → Prop) (f : List Node → List Visit) : Prop :=
  ∀ p, place p → ∀ v ∈ f p, ctx.Fine v

variable {ctx}

theorem Raw.delimited {n : Node} (h : ctx.Raw n) :
    n.isDelimited = true := (Bool.and_eq_true_iff.1 h.1).1

theorem Raw.grouped {n : Node} (h : ctx.Raw n) : n.isGrouped = true :=
  (Bool.and_eq_true_iff.1 (Bool.and_eq_true_iff.1 h.1).2).1

theorem Raw.named {n : Node} (h : ctx.Raw n) : n.isNamed = true :=
  (Bool.and_eq_true_iff.1 (Bool.and_eq_true_iff.1 h.1).2).2

namespace Sees

variable {env : Surroundings} {place : List Node → Prop} {f g : List Node → List Visit} {n : Node}
  {c : ClassType}

theorem nil : ctx.Sees place fun _ => [] := fun _ _ _ mem => nomatch mem

theorem append (hf : ctx.Sees place f) (hg : ctx.Sees place g) :
    ctx.Sees place fun p => f p ++ g p :=
  fun p held => List.forall_mem_append.2 ⟨hf p held, hg p held⟩

theorem inner (h : ctx.Sees (ctx.Under env) f) : ctx.Sees (ctx.Inner env) f :=
  fun p held => h p held.1

theorem opens (h : ctx.Sees (ctx.Under env) f) : ctx.Sees (ctx.Opens env c) f :=
  fun p held => h p held.1

/-- A statement stops again as what it is. -/
theorem again (sound : n.isSound = true) (silent : ∀ p, (Visit.mk n p).invocation? = none)
    (h : ctx.Sees place f) : ctx.Sees place fun p => ⟨n, p⟩ :: f p := by
  refine fun p held => List.forall_mem_cons.2 ⟨⟨sound, fun m found => ?_⟩, h p held⟩
  simp [silent] at found

theorem enter (sound : n.isSound = true) (h : ctx.Sees (ctx.Inner env) f)
    (quiet : n.isQuiet = true := by rfl) : ctx.Sees (ctx.Under env) fun p => Visit.enter n p f := by
  intro p held
  obtain ⟨flat, free, silent⟩ := n.isQuiet_spec quiet ctx.object p
  refine List.forall_mem_cons.2 ⟨⟨sound, fun m found => ?_⟩, h (n :: p) ⟨flat.trans held, free⟩⟩
  simp [silent] at found

theorem call {m : MethodInvocation} (grouped : (Expression.methodInvocation m).isGrouped = true)
    (bound : ∃ g, ctx.reached g ∧ m.Bound g env.classes) (h : ctx.Sees (ctx.Under env) m.inside) :
    ctx.Sees (ctx.Under env) fun p =>
      Visit.enter (.expression (.methodInvocation m)) p m.inside := by
  intro p (held : enclosing _ _ = _)
  refine List.forall_mem_cons.2 ⟨⟨grouped, ?_⟩, h (_ :: p) held⟩
  intro m' found
  cases found
  exact held ▸ bound

/-- A block that is no body of a class. -/
theorem block {b : Block} (delimited : b.isDelimited = true)
    (h : ctx.Sees (ctx.Under env) b.inside) :
    ctx.Sees (ctx.Inner env) fun p => Visit.enter (.block b) p b.inside := by
  rintro p ⟨held, free⟩
  refine List.forall_mem_cons.2 ⟨⟨b.isSound_node delimited, fun m found => nomatch found⟩,
    h (_ :: p) ?_⟩
  rw [Under, enclosing, free]
  exact held

/-- The body of a class. -/
theorem body {b : Block} (delimited : b.isDelimited = true)
    (h : ctx.Sees (ctx.Under { env with classes := c :: env.classes }) b.inside) :
    ctx.Sees (ctx.Opens env c) fun p => Visit.enter (.block b) p b.inside := by
  rintro p ⟨held, opens⟩
  refine List.forall_mem_cons.2 ⟨⟨b.isSound_node delimited, fun m found => nomatch found⟩,
    h (_ :: p) ?_⟩
  rw [Under, enclosing, opens, held]
  rfl

/-- A node with the body of a class below it. -/
theorem opened (sound : n.isSound = true) (opens : n.bodyClass? ctx.object = some c)
    (silent : ∀ p, (Visit.mk n p).invocation? = none)
    (flat : ∀ p, enclosing ctx.object (n :: p) = enclosing ctx.object p)
    (h : ctx.Sees (ctx.Opens env c) f) : ctx.Sees (ctx.Under env) fun p => Visit.enter n p f := by
  intro p held
  refine List.forall_mem_cons.2
    ⟨⟨sound, fun m found => ?_⟩, h (n :: p) ⟨(flat p).trans held, opens⟩⟩
  simp [silent] at found

end Sees

/-- The results of `p` have the property, and names that can be reached stay so. -/
def Finds {α : Type} (ctx : Setting) (p : Attribute α) (P : α → Prop) : Prop :=
  ∀ s, ctx.reached s.names → P (p s).1 ∧ ctx.reached (p s).2.names

namespace Finds

variable {α β : Type} {p : Attribute α} {q : α → Attribute β} {P : α → Prop} {Q : β → Prop}

theorem pure {a : α} (h : P a) : ctx.Finds (pure a) P := fun _ reached => ⟨h, reached⟩

theorem bind (hp : ctx.Finds p P) (hq : ∀ a, P a → ctx.Finds (q a) Q) : ctx.Finds (p >>= q) Q :=
  fun s reached => hq _ (hp s reached).1 _ (hp s reached).2

theorem get {k : State → Attribute β} (h : ∀ s, ctx.reached s.names → ctx.Finds (k s) Q) :
    ctx.Finds (get >>= k) Q :=
  fun s reached => h s reached s reached

theorem modify {f : State → State} {k : PUnit → Attribute β} (same : ∀ s, (f s).names = s.names)
    (h : ctx.Finds (k ⟨⟩) Q) : ctx.Finds (modify f >>= k) Q :=
  fun s reached => h (f s) (same s ▸ reached)

/-- What every result has beside it. -/
theorem and {P' : α → Prop} (h : Attribution.Yields p P') (h' : ctx.Finds p P) :
    ctx.Finds p fun a => P' a ∧ P a :=
  fun s reached => ⟨⟨h s, (h' s reached).1⟩, (h' s reached).2⟩

/-- A scope does not show in the result. -/
theorem withScope (h : ctx.Finds p P) : ctx.Finds (Attribution.withScope p) P :=
  fun s reached => h { s with scopes := [] :: s.scopes } reached

theorem ite {c : Prop} [Decidable c] {p p' : Attribute α} (h : c → ctx.Finds p P)
    (h' : ¬c → ctx.Finds p' P) : ctx.Finds (if c then p else p') P := by
  split
  · next held => exact h held
  · next held => exact h' held

end Finds

/-- An attributed expression: it holds together where `e` does, and a lambda or a reference has the
type that is expected. -/
structure Keeps (ctx : Setting) (env : Surroundings) (expected : Option JavaType)
    (e e' : Expression) : Prop where
  holds : ∀ place : Operand, place.accepts e' = place.accepts e
  functional : isFunctionalArgument e' = isFunctionalArgument e
  typed : isFunctionalArgument e = true → e'.type = functionalType expected
  entered : ctx.Sees (ctx.Under env) fun p => Visit.enter (.expression e') p e'.inside

namespace Keeps

variable {env : Surroundings} {expected : Option JavaType} {e x x' : Expression} {place : Operand}

/-- An expression that is neither a lambda nor a reference. -/
theorem value {e' : Expression} (holds : ∀ place : Operand, place.accepts e' = place.accepts e)
    (entered : ctx.Sees (ctx.Under env) fun p => Visit.enter (.expression e') p e'.inside)
    (plain : isFunctionalArgument e = false := by rfl)
    (plain' : isFunctionalArgument e' = false := by rfl) : ctx.Keeps env expected e e' :=
  ⟨holds, by rw [plain, plain'], by simp [plain], entered⟩

/-- An operand is one if it was. -/
theorem accepts (h : ctx.Keeps env expected x x') (grouped : e.isGrouped = true)
    (mem : (place, x) ∈ e.operands) : place.accepts x' = true := by
  rw [h.holds]
  exact List.all_eq_true.1 grouped _ mem

end Keeps

/-- A name without calls. -/
theorem sees_name {env : Surroundings} (e : Expression) (h : e.isName = true) :
    ctx.Sees (ctx.Under env) fun p => Visit.enter (.expression e) p e.inside := by
  match e with
  | .identifier n => exact .enter rfl .nil
  | .fieldAccess ⟨id, leading, target, dot, name, type⟩ =>
    have own : target.isName = true := h
    refine .enter (Expression.isGrouped_of_one rfl ?_) (sees_name target own).inner
    cases target <;> first | rfl | cases own

end Setting

namespace Names

mutual

theorem isName_markName (g : Names) (type? : Option ClassType) (e : Expression)
    (h : e.isName = true) : (g.markName type? e).isName = true := by
  match e with
  | .identifier n => cases type? <;> rfl
  | .fieldAccess n =>
    cases type? with
    | none => exact h
    | some c => exact isName_markQualified g c n h

theorem isName_markQualified (g : Names) (c : ClassType) (n : FieldAccess)
    (h : (Expression.fieldAccess n).isName = true) :
    (Expression.fieldAccess (g.markQualified c n)).isName = true := by
  match n with
  | ⟨id, leading, target, dot, name, type⟩ => exact isName_markName g _ target h

end

end Names

/-- A name holds together everywhere. -/
theorem Operand.accepts_of_isName (place : Operand) {e : Expression} (h : e.isName = true) :
    place.accepts e = true := by
  refine accepts_of_least (Nat.le_trans place.least_le ?_)
  cases e <;> first | exact Nat.le_refl 15 | cases h

theorem Expression.isName_of_qualifiedName? (e : Expression) (h : e.qualifiedName?.isSome = true) :
    e.isName = true := by
  match e with
  | .identifier n => rfl
  | .fieldAccess ⟨_, _, target, _, _, _⟩ =>
    exact isName_of_qualifiedName? target (by simpa [qualifiedName?] using h)

namespace Setting

open Attribution Names

variable {ctx : Setting} {env : Surroundings}

/-- A name that is looked up as a whole. -/
theorem keeps_name {expected : Option JavaType} {e e' : Expression} (h : e.isName = true)
    (h' : e'.isName = true) : ctx.Keeps env expected e e' := by
  have plain {e : Expression} (h : e.isName = true) : isFunctionalArgument e = false := by
    cases e <;> first | rfl | cases h
  refine .value (fun place => ?_) (sees_name e' h') (plain h) (plain h')
  rw [place.accepts_of_isName h, place.accepts_of_isName h']

theorem keeps_markName (g : Names) (type? : Option ClassType) {expected : Option JavaType}
    {e : Expression} (h : e.isName = true) : ctx.Keeps env expected e (g.markName type? e) :=
  keeps_name h (isName_markName g type? e h)

mutual

theorem sees_markType (env : Surroundings) (g : Names) (t : TypeTree) (p : List Node)
    (h : StopsPass ctx.Raw (Visit.enter (.type t) p t.inside)) :
    ctx.Sees (ctx.Under env) fun p =>
      Visit.enter (.type (g.markType t)) p (g.markType t).inside := by
  match t with
  | .primitive id leading kind => exact .enter rfl .nil
  | .named name => exact .enter rfl (sees_name _ (isName_markName g _ name h.here.named)).inner
  | .parameterized id leading clazz ⟨before, elements, close⟩ type =>
    refine .enter rfl (Sees.inner ?_)
    exact .append (sees_name _ (isName_markName g _ clazz h.here.named))
      (sees_markTypes env g elements _ h.below.right)
  | .array id leading element opening closing type =>
    exact .enter rfl (sees_markType env g element _ h.below).inner
  | .wildcard id leading bound bounded =>
    exact .enter rfl (sees_markType? env g bounded _ h.below).inner

theorem sees_markTypes (env : Surroundings) (g : Names) (ts : List (Padded TypeTree))
    (p : List Node)
    (h : StopsPass ctx.Raw (insideTypeList ts p)) :
    ctx.Sees (ctx.Under env) (insideTypeList (g.markTypes ts)) := by
  match ts with
  | [] => exact .nil
  | ⟨t, after⟩ :: ts =>
    exact .append (sees_markType env g t _ h.left) (sees_markTypes env g ts _ h.right)

theorem sees_markType? (env : Surroundings) (g : Names) (t : Option TypeTree) (p : List Node)
    (h : StopsPass ctx.Raw (insideType? t p)) :
    ctx.Sees (ctx.Under env) (insideType? (g.markType? t)) := by
  match t with
  | none => exact .nil
  | some t => exact sees_markType env g t _ h

end

theorem sees_markContainer (env : Surroundings) (g : Names) (c : Option (Container TypeTree))
    (p : List Node)
    (h : StopsPass ctx.Raw (insideTypes? c p)) :
    ctx.Sees (ctx.Under env) (insideTypes? (c.map g.markContainer)) := by
  match c with
  | none => exact .nil
  | some ⟨before, elements, close⟩ => exact sees_markTypes env g elements p h

theorem isNone_markType? (g : Names) (t : Option TypeTree) :
    (g.markType? t).isNone = t.isNone := by
  cases t <;> rfl

theorem keeps_constant? {g : Names} {selector : Option ClassType} {e e' : Expression}
    {expected : Option JavaType} (h : constant? g selector e = some e') :
    ctx.Keeps env expected e e' := by
  unfold constant? at h
  split at h
  · next n =>
    obtain ⟨c, -, h⟩ := Option.bind_eq_some_iff.1 h
    obtain ⟨f, -, h⟩ := Option.bind_eq_some_iff.1 h
    cases h
    exact keeps_name rfl rfl
  · cases h

theorem names_declare (name : String) (type : JavaType) (s : State) :
    (s.declare name type).names = s.names := by
  unfold State.declare
  split <;> rfl

theorem finds_declareClass (env : Surroundings) {c : ClassDeclaration} (known : ctx.known c) :
    ctx.Finds (declareClass env c) fun _ => True := by
  intro s reached
  rw [names_declareClass]
  exact ⟨trivial, ctx.declares env c s.names reached known⟩

/-- Only the texts of the statements in a block say where they end. -/
theorem isDelimited_congr {id : NodeId} {leading close : Space} {ss ss' : List (Padded Statement)}
    (h : shapes seen ss' = shapes seen ss) :
    (Block.mk id leading ss' close).isDelimited = (Block.mk id leading ss close).isDelimited := by
  have ended (ss : List (Padded Statement)) : (Block.mk id leading ss close).isDelimited =
      (shapes seen ss).all fun x => (x.1.1 ++ layoutEnd x.1.2 x.2).isEnded := by
    simp [Block.isDelimited, shapes, Padded.statementLayout, seen, Function.comp_def]
  rw [ended, ended, h]

/-- An argument behind the first round: lambdas and references wait for the second one. -/
def Values (ctx : Setting) (env : Surroundings) (e v : Padded Expression) : Prop :=
  if isFunctionalArgument e.element then v = e
  else isFunctionalArgument v.element = false ∧
    ctx.Sees (ctx.Under env) fun p => Visit.enter (.expression v.element) p v.element.inside

mutual

theorem keeps_expression (env : Surroundings) (expected : Option JavaType) (e : Expression)
    (p : List Node) (h : StopsPass ctx.Raw (Visit.enter (.expression e) p e.inside)) :
    ctx.Finds (expression env expected e) (ctx.Keeps env expected e) := by
  have grouped : e.isGrouped = true := h.here.grouped
  have below := h.below
  match e with
  | .identifier n => exact fun _ reached => ⟨keeps_name rfl rfl, reached⟩
  | .literal n =>
    exact fun _ reached => ⟨.value (fun _ => rfl) (.enter rfl .nil), reached⟩
  | .fieldAccess n =>
    refine (sees_fieldAccess env n p h).bind fun n' seen => .pure ?_
    exact .value (fun _ => rfl) seen
  | .methodInvocation n =>
    refine (sees_invocation env n p h).bind fun n' seen => .pure ?_
    exact .value (fun _ => rfl) seen
  | .newClass id leading clazz ⟨before, elements, close⟩ body _ =>
    refine .get fun s reached => ?_
    refine (sees_expressions env none elements _ below.left.right).bind fun elements' inner => ?_
    refine (sees_classBody? env _ body _ below.right).bind fun body' inner' => .pure ?_
    have type := sees_markType env s.names clazz _ below.left.left
    refine .value (fun _ => rfl) ?_
    refine .opened rfl rfl (fun _ => rfl) (fun _ => rfl) (.append (type.append inner).opens ?_)
    rw [← ctx.objectType_eq s.names reached]
    exact inner'
  | .newArray id leading elementType dimensions initializer _ =>
    refine .get fun s _ => ?_
    refine (sees_dimensionList env dimensions _ below.left.right).bind fun dimensions' inner => ?_
    refine (sees_expressions? env _ initializer _ below.right).bind
      fun initializer' ⟨inner', still⟩ => .pure ?_
    have type := sees_markType? env s.names elementType _ below.left.left
    refine .value (fun place => ?_) ?_
    · exact place.accepts_newArray (isNone_markType? ..) still
    · exact .enter rfl (Sees.append (.append type inner) inner').inner
  | .lambda id leading parenthesized ⟨before, elements, close⟩ arrow body _ =>
    refine .withScope ?_
    refine (sees_parameters env elements _ below.left).bind fun elements' inner => ?_
    refine (sees_lambdaBody env body _ below.right).bind fun body' inner' => .pure ?_
    exact ⟨fun _ => rfl, rfl, fun _ => rfl, .enter rfl (.append inner.inner inner')⟩
  | .memberReference id leading containing colons name _ =>
    refine (keeps_expression env none containing _ below).bind fun containing' kept => .pure ?_
    have own := kept.accepts grouped (.head _)
    exact ⟨fun _ => rfl, rfl, fun _ => rfl,
      .enter (Expression.isGrouped_of_one rfl own) kept.entered.inner⟩
  | .binary id leading left before op right type =>
    refine (keeps_expression env none left _ below.left).bind fun left' kept => ?_
    refine .get fun s _ => ?_
    extract_lets -underBinder g tail
    have built (right' : Expression) (kept' : ctx.Keeps env none right right') :
        ctx.Finds (tail right')
          (ctx.Keeps env expected (Expression.binary id leading left before op right type)) := by
      refine .pure ?_
      have own := kept.accepts grouped (.head _)
      have own' := kept'.accepts grouped (.tail _ (.head _))
      exact .value (fun _ => rfl)
        (.enter (Expression.isGrouped_of_two rfl own own')
          (kept.entered.append kept'.entered).inner)
    refine .ite (fun isType => built _ (keeps_markName g _ ?_)) fun _ => ?_
    · have named : (op != .instanceOf || right.isName) = true := h.here.named
      simpa [bne, isType] using named
    · exact (keeps_expression env none right _ below.right).bind built
  | .unary id leading before op operand _ =>
    refine (keeps_expression env none operand _ below).bind fun operand' kept => .pure ?_
    have own := kept.accepts grouped (.head _)
    exact .value (fun _ => rfl) (.enter (Expression.isGrouped_of_one rfl own) kept.entered.inner)
  | .assignment id leading target before op value _ =>
    refine (keeps_expression env none target _ below.left).bind fun target' kept => ?_
    refine (keeps_expression env _ value _ below.right).bind fun value' kept' => .pure ?_
    have own := kept.accepts grouped (.head _)
    exact .value (fun _ => rfl)
      (.enter (Expression.isGrouped_of_one rfl own) (kept.entered.append kept'.entered).inner)
  | .ternary id leading condition ⟨question, whenTrue⟩ ⟨colon, whenFalse⟩ _ =>
    refine (keeps_expression env none condition _ below.left.left).bind fun condition' kept => ?_
    refine (keeps_expression env expected whenTrue _ below.left.right).bind
      fun whenTrue' kept₁ => ?_
    refine (keeps_expression env expected whenFalse _ below.right).bind
      fun whenFalse' kept₂ => .pure ?_
    have own := kept.accepts grouped (.head _)
    have own' := kept₂.accepts grouped (.tail _ (.head _))
    exact .value (fun _ => rfl) (.enter (Expression.isGrouped_of_two rfl own own')
        ((kept.entered.append kept₁.entered).append kept₂.entered).inner)
  | .parentheses id leading ⟨tree, after⟩ =>
    refine (keeps_expression env expected tree _ below).bind fun tree' kept => .pure ?_
    exact .value (fun _ => rfl) (.enter rfl kept.entered.inner)
  | .arrayAccess id leading indexed ⟨opening, index, closing⟩ _ =>
    refine (keeps_expression env none indexed _ below.left).bind fun indexed' kept => ?_
    refine (sees_expression? env index _ below.right).bind fun index' inner => .pure ?_
    have own := kept.accepts grouped (.head _)
    exact .value (fun _ => rfl)
      (.enter (Expression.isGrouped_of_one rfl own) (kept.entered.append inner).inner)
  | .typeCast id leading ⟨clazz, after⟩ operand _ =>
    refine .get fun s _ => ?_
    refine (keeps_expression env none operand _ below.right).bind fun operand' kept => .pure ?_
    have type := sees_markType env s.names clazz _ below.left
    have own := kept.accepts grouped (.head _)
    exact .value (fun _ => rfl)
      (.enter (Expression.isGrouped_of_one rfl own) (type.append kept.entered).inner)

theorem sees_expression? (env : Surroundings) (e : Option Expression) (p : List Node)
    (h : StopsPass ctx.Raw (insideExpr? e p)) :
    ctx.Finds (expression? env e) fun e' => ctx.Sees (ctx.Under env) (insideExpr? e') := by
  match e with
  | none => exact .pure .nil
  | some e => exact (keeps_expression env none e _ h).bind fun e' kept => .pure kept.entered

theorem sees_expressions (env : Surroundings) (expected : Option JavaType)
    (es : List (Padded Expression)) (p : List Node) (h : StopsPass ctx.Raw (insideExprList es p)) :
    ctx.Finds (expressions env expected es) fun es' =>
      ctx.Sees (ctx.Under env) (insideExprList es') := by
  match es with
  | [] => exact .pure .nil
  | ⟨e, after⟩ :: es =>
    refine (keeps_expression env expected e _ h.left).bind fun e' kept => ?_
    exact (sees_expressions env expected es _ h.right).bind fun es' inner =>
      .pure (.append kept.entered inner)

theorem sees_expressions? (env : Surroundings) (expected : Option JavaType)
    (c : Option (Container Expression)) (p : List Node) (h : StopsPass ctx.Raw (insideExprs? c p)) :
    ctx.Finds (expressions? env expected c) fun c' =>
      ctx.Sees (ctx.Under env) (insideExprs? c') ∧ c'.isNone = c.isNone := by
  match c with
  | none => exact .pure ⟨.nil, rfl⟩
  | some ⟨before, elements, close⟩ =>
    exact (sees_expressions env expected elements _ h).bind fun elements' inner =>
      .pure ⟨inner, rfl⟩

theorem sees_dimensionList (env : Surroundings) (ds : List ArrayDimension) (p : List Node)
    (h : StopsPass ctx.Raw (insideDimensions ds p)) :
    ctx.Finds (dimensionList env ds) fun ds' =>
      ctx.Sees (ctx.Under env) (insideDimensions ds') := by
  match ds with
  | [] => exact .pure .nil
  | ⟨opening, index, closing⟩ :: ds =>
    refine (sees_expression? env index _ h.left).bind fun index' inner => ?_
    exact (sees_dimensionList env ds _ h.right).bind fun ds' inner' => .pure (.append inner inner')

theorem sees_lambdaBody (env : Surroundings) (b : LambdaBody) (p : List Node)
    (h : StopsPass ctx.Raw (b.inside p)) :
    ctx.Finds (lambdaBody env b) fun b' => ctx.Sees (ctx.Inner env) b'.inside := by
  match b with
  | .expression e =>
    exact (keeps_expression env none e _ h).bind fun e' kept => .pure kept.entered.inner
  | .block b =>
    exact (sees_block { env with returned := some .unknown } b _ h.below).bind
      fun b' ⟨same, inner⟩ =>
      .pure (Sees.block (same.trans h.here.delimited) inner : ctx.Sees (ctx.Inner env) _)

theorem sees_fieldAccess (env : Surroundings) (n : FieldAccess) (p : List Node)
    (h : StopsPass ctx.Raw (Visit.enter (.expression (.fieldAccess n)) p n.inside)) :
    ctx.Finds (fieldAccess env n) fun n' =>
      ctx.Sees (ctx.Under env) fun p =>
        Visit.enter (.expression (.fieldAccess n')) p n'.inside := by
  match n with
  | ⟨id, leading, target, dot, name, type⟩ =>
    refine .get fun s _ => ?_
    split
    · next c found =>
      -- The whole chain is looked up, so it is a name.
      have named : target.isName = true := by
        refine target.isName_of_qualifiedName? ?_
        unfold namedType? at found
        split at found
        · cases found
        · cases qualified : target.qualifiedName? with
          | none => simp [qualified] at found
          | some => rfl
      exact .pure (sees_name _
        (isName_markQualified _ c ⟨id, leading, target, dot, name, type⟩ named))
    · refine (keeps_expression env none target _ h.below).bind fun target' kept => ?_
      have own := kept.accepts h.here.grouped (.head _)
      exact .get fun s _ => .pure (.enter (Expression.isGrouped_of_one rfl own) kept.entered.inner)

theorem sees_invocation (env : Surroundings) (n : MethodInvocation) (p : List Node)
    (h : StopsPass ctx.Raw (Visit.enter (.expression (.methodInvocation n)) p n.inside)) :
    ctx.Finds (invocation env n) fun n' =>
      ctx.Sees (ctx.Under env) fun p =>
        Visit.enter (.expression (.methodInvocation n')) p n'.inside := by
  match n with
  | ⟨id, leading, select, name, ⟨before, elements, close⟩, method⟩ =>
    refine (sees_receiver env select _ h.below.left
      ⟨id, leading, select, name, ⟨before, elements, close⟩, method⟩ h.here.grouped rfl).bind
      fun select' ⟨own, inner⟩ => .get fun s reached => ?_
    refine (sees_valueArguments env elements _ h.below.right).bind fun values inner' => ?_
    refine (sees_functionalArguments env _ 0 elements values _ h.below.right inner').bind
      fun arguments ⟨inner'', completed⟩ => .pure ?_
    exact .call (own _ rfl) ⟨s.names, reached, bound_invocation rfl completed⟩
      (.append inner inner'')

theorem sees_receiver (env : Surroundings) (select : Option (Padded Expression)) (p : List Node)
    (h : StopsPass ctx.Raw (insideSelect select p)) (m : MethodInvocation)
    (grouped : (Expression.methodInvocation m).isGrouped = true) (here : m.select = select) :
    ctx.Finds (receiver env select) fun select' =>
      (∀ m' : MethodInvocation, m'.select = select' →
        (Expression.methodInvocation m').isGrouped = true) ∧
          ctx.Sees (ctx.Under env) (insideSelect select') := by
  match select with
  | none =>
    exact .pure ⟨fun m' none => by simp_all [Expression.isGrouped, Expression.operands], .nil⟩
  | some ⟨e, after⟩ =>
    refine (keeps_expression env none e _ h).bind fun e' kept =>
      .pure ⟨fun m' some => ?_, kept.entered⟩
    have own : Operand.receiver.accepts e' = true :=
      kept.accepts grouped (by simp [Expression.operands, here])
    exact Expression.isGrouped_of_one (by rw [Expression.operands, some]; rfl) own

theorem sees_valueArguments (env : Surroundings) (es : List (Padded Expression)) (p : List Node)
    (h : StopsPass ctx.Raw (insideExprList es p)) :
    ctx.Finds (valueArguments env es) fun vs => List.Forall₂ (ctx.Values env) es vs := by
  match es with
  | [] => exact .pure .nil
  | ⟨e, after⟩ :: es =>
    have built (e' : Expression) (own : ctx.Values env ⟨e, after⟩ ⟨e', after⟩) :
        ctx.Finds (do return ⟨e', after⟩ :: (← valueArguments env es)) fun vs =>
          List.Forall₂ (ctx.Values env) (⟨e, after⟩ :: es) vs :=
      (sees_valueArguments env es _ h.right).bind fun vs inner => .pure (.cons own inner)
    refine .ite (fun functional => built e ?_) fun plain => ?_
    · rw [Values, if_pos functional]
    · refine (keeps_expression env none e _ h.left).bind fun e' kept => built e' ?_
      rw [Values, if_neg plain]
      exact ⟨by rw [kept.functional]; simpa using plain, kept.entered⟩

theorem sees_functionalArguments (env : Surroundings) (method : Option MethodType) (index : Nat)
    (es values : List (Padded Expression)) (p : List Node)
    (h : StopsPass ctx.Raw (insideExprList es p))
    (inner : List.Forall₂ (ctx.Values env) es values) :
    ctx.Finds (functionalArguments env method index es values) fun es' =>
      ctx.Sees (ctx.Under env) (insideExprList es') ∧ CompletesAll method index values es' := by
  match es, values with
  | [], [] =>
    rw [functionalArguments]
    · exact .pure ⟨.nil, trivial⟩
    · simp
  | [], _ :: _ => cases inner
  | _ :: _, [] => cases inner
  | ⟨e, after⟩ :: es, ⟨v, after'⟩ :: values =>
    obtain ⟨own, rest⟩ := List.forall₂_cons.1 inner
    rw [functionalArguments]
    have built (x : Padded Expression) (completed : Completes method index v x.element)
        (own : ctx.Sees (ctx.Under env) fun p =>
          Visit.enter (.expression x.element) p x.element.inside) :
        ctx.Finds (do return x :: (← functionalArguments env method (index + 1) es values))
          fun es' =>
          ctx.Sees (ctx.Under env) (insideExprList es') ∧
            CompletesAll method index (⟨v, after'⟩ :: values) es' :=
      (sees_functionalArguments env method (index + 1) es values _ h.right rest).bind
        fun es' ⟨inner, others⟩ => .pure ⟨.append own inner, completed, others⟩
    unfold Values at own
    refine .ite (fun functional => ?_) fun plain => ?_
    · rw [if_pos functional] at own
      obtain ⟨rfl, rfl⟩ := Padded.mk.inj own.symm
      refine (keeps_expression env _ e _ h.left).bind fun e' kept => ?_
      refine built ⟨e', after⟩ ?_ kept.entered
      rw [Completes, if_pos functional]
      exact ⟨kept.functional.trans functional, kept.typed functional⟩
    · rw [if_neg plain] at own
      refine built ⟨v, after'⟩ ?_ own.2
      rw [Completes, if_neg (by simp [own.1])]

theorem sees_annotated (env : Surroundings) (a : Annotation) (p : List Node)
    (h : StopsPass ctx.Raw (Visit.enter (.annotationUse a) p a.inside)) :
    ctx.Finds (annotated env a) fun a' =>
      ctx.Sees (ctx.Under env) fun p => Visit.enter (.annotationUse a') p a'.inside := by
  match a with
  | ⟨id, leading, name, arguments⟩ =>
    refine .get fun s _ => ?_
    obtain ⟨named, elements⟩ := Bool.and_eq_true_iff.1 h.here.named
    refine (sees_annotationArguments? env arguments _ h.below.right elements).bind
      fun arguments' inner => .pure ?_
    exact .enter rfl (Sees.append (sees_name _ (isName_markName _ _ name named)) inner).inner

theorem sees_annotations (env : Surroundings) (as : List Annotation) (p : List Node)
    (h : StopsPass ctx.Raw (insideAnnotations as p)) :
    ctx.Finds (annotations env as) fun as' =>
      ctx.Sees (ctx.Under env) (insideAnnotations as') := by
  match as with
  | [] => exact .pure .nil
  | a :: as =>
    refine (sees_annotated env a _ h.left).bind fun a' inner => ?_
    exact (sees_annotations env as _ h.right).bind fun as' inner' => .pure (.append inner inner')

theorem sees_annotationArguments? (env : Surroundings) (c : Option (Container Expression))
    (p : List Node) (h : StopsPass ctx.Raw (insideExprs? c p))
    (named : (c.map (·.toList)).all (·.all Expression.isElement) = true) :
    ctx.Finds (annotationArguments? env c) fun c' =>
      ctx.Sees (ctx.Under env) (insideExprs? c') := by
  match c with
  | none => exact .pure .nil
  | some ⟨before, elements, close⟩ =>
    refine (sees_annotationArguments env elements _ h ?_).bind fun elements' inner => .pure inner
    simpa [Container.toList] using named

theorem sees_annotationArguments (env : Surroundings) (es : List (Padded Expression))
    (p : List Node) (h : StopsPass ctx.Raw (insideExprList es p))
    (named : ∀ x ∈ es, x.element.isElement = true) :
    ctx.Finds (annotationArguments env es) fun es' =>
      ctx.Sees (ctx.Under env) (insideExprList es') := by
  match es with
  | [] => exact .pure .nil
  | ⟨.assignment id leading target before op value type, after⟩ :: es =>
    obtain ⟨element, others⟩ := List.forall_mem_cons.1 named
    have isName : target.isName = true := by
      cases target <;> first | rfl | cases element
    rw [annotationArguments]
    refine (keeps_expression env none value _ h.left.below.right).bind fun value' kept => ?_
    refine (sees_annotationArguments env es _ h.right others).bind fun es' inner => .pure ?_
    have own := Sees.enter (n := .expression (.assignment id leading target before op value' type))
      h.left.here.grouped ((sees_name target isName).append kept.entered).inner
    exact .append own inner
  | ⟨.identifier _, after⟩ :: es | ⟨.literal _, after⟩ :: es
  | ⟨.fieldAccess _, after⟩ :: es | ⟨.methodInvocation _, after⟩ :: es
  | ⟨.newClass .., after⟩ :: es | ⟨.newArray .., after⟩ :: es
  | ⟨.lambda .., after⟩ :: es | ⟨.memberReference .., after⟩ :: es
  | ⟨.binary .., after⟩ :: es | ⟨.unary .., after⟩ :: es | ⟨.ternary .., after⟩ :: es
  | ⟨.parentheses .., after⟩ :: es | ⟨.arrayAccess .., after⟩ :: es
  | ⟨.typeCast .., after⟩ :: es =>
    refine (keeps_expression env none _ _ h.left).bind fun e' kept => ?_
    exact (sees_annotationArguments env es _ h.right (List.forall_mem_cons.1 named).2).bind
      fun es' inner => .pure (.append kept.entered inner)

theorem sees_declaration (env : Surroundings) (declares : Bool) (v : VariableDeclarations)
    (p : List Node) (h : StopsPass ctx.Raw (v.inside p)) :
    ctx.Finds (declaration env declares v) fun out => ctx.Sees (ctx.Under env) out.1.inside := by
  match v with
  | ⟨id, leading, notes, modifiers, declaredType, varargs, list⟩ =>
    refine (sees_annotations env notes _ h.left.left).bind fun notes' inner => .get fun s _ => ?_
    refine (sees_namedVariables env declares _ _ list _ h.right).bind fun list' inner' => .pure ?_
    exact .append (.append inner (sees_markType? env _ declaredType _ h.left.right)) inner'

theorem sees_namedVariables (env : Surroundings) (declares : Bool) (type : JavaType)
    (inferred : Bool) (vs : List (Padded NamedVariable)) (p : List Node)
    (h : StopsPass ctx.Raw (insideVariables vs p)) :
    ctx.Finds (namedVariables env declares type inferred vs) fun vs' =>
      ctx.Sees (ctx.Under env) (insideVariables vs') := by
  match vs with
  | [] => exact .pure .nil
  | ⟨⟨id, leading, name, initializer, declared⟩, after⟩ :: vs =>
    refine (sees_initializer? env _ initializer _ h.left).bind fun initializer' inner => ?_
    extract_lets -underBinder own tail
    have built : ctx.Finds (tail ⟨⟩) fun vs' => ctx.Sees (ctx.Under env) (insideVariables vs') :=
      (sees_namedVariables env declares type inferred vs _ h.right).bind fun vs' inner' =>
        .pure (.append inner inner')
    exact .ite (fun _ => .modify (names_declare _ _) built) fun _ => built

theorem sees_initializer? (env : Surroundings) (expected : Option JavaType)
    (i : Option (LeftPadded Expression)) (p : List Node) (h : StopsPass ctx.Raw (insideInit i p)) :
    ctx.Finds (initializer? env expected i) fun i' => ctx.Sees (ctx.Under env) (insideInit i') := by
  match i with
  | none => exact .pure .nil
  | some ⟨before, e⟩ =>
    exact (keeps_expression env expected e _ h).bind fun e' kept => .pure kept.entered

theorem sees_parameters (env : Surroundings) (vs : List (Padded VariableDeclarations))
    (p : List Node) (h : StopsPass ctx.Raw (insideParameterList vs p)) :
    ctx.Finds (parameters env vs) fun out =>
      ctx.Sees (ctx.Under env) (insideParameterList out.1) := by
  match vs with
  | [] => exact .pure .nil
  | ⟨v, after⟩ :: vs =>
    refine (sees_declaration env true v _ h.left.below).bind fun out inner => ?_
    exact (sees_parameters env vs _ h.right).bind fun out' inner' =>
      .pure (.append (.enter rfl inner.inner) inner')

theorem sees_block (env : Surroundings) (b : Block) (p : List Node)
    (h : StopsPass ctx.Raw (b.inside p)) :
    ctx.Finds (block env b) fun b' =>
      b'.isDelimited = b.isDelimited ∧ ctx.Sees (ctx.Under env) b'.inside := by
  match b with
  | ⟨id, leading, list, close⟩ =>
    refine Finds.bind (.withScope
      (.and (yields_statements env list) (sees_statements env list _ h)))
      fun list' ⟨same, inner⟩ => .pure ⟨isDelimited_congr same, inner⟩

theorem sees_block? (env : Surroundings) (b : Option Block) (p : List Node)
    (h : StopsPass ctx.Raw (insideBlock? b p)) :
    ctx.Finds (block? env b) fun b' => ctx.Sees (ctx.Inner env) (insideBlock? b') := by
  match b with
  | none => exact .pure .nil
  | some b =>
    exact (sees_block env b _ h.below).bind fun b' ⟨same, inner⟩ =>
      .pure (.block (same.trans h.here.delimited) inner)

theorem sees_classBody? (env : Surroundings) (c : ClassType) (b : Option Block) (p : List Node)
    (h : StopsPass ctx.Raw (insideBlock? b p)) :
    ctx.Finds (classBody? { env with classes := c :: env.classes } b) fun b' =>
      ctx.Sees (ctx.Opens env c) (insideBlock? b') := by
  match b with
  | none => exact .pure .nil
  | some b =>
    exact (sees_classBody _ b _ h.below).bind fun b' ⟨same, inner⟩ =>
      .pure (.body (same.trans h.here.delimited) inner)

theorem sees_classBody (env : Surroundings) (b : Block) (p : List Node)
    (h : StopsPass ctx.Raw (b.inside p)) :
    ctx.Finds (classBody env b) fun b' =>
      b'.isDelimited = b.isDelimited ∧ ctx.Sees (ctx.Under env) b'.inside := by
  match b with
  | ⟨id, leading, list, close⟩ =>
    refine Finds.bind (.and (yields_memberList env list) (sees_memberList env list _ h))
      fun list' ⟨same, inner⟩ => .pure ⟨isDelimited_congr same, inner⟩

theorem sees_memberList (env : Surroundings) (ss : List (Padded Statement)) (p : List Node)
    (h : StopsPass ctx.Raw (insideStatements ss p)) :
    ctx.Finds (memberList env ss) fun ss' => ctx.Sees (ctx.Under env) (insideStatements ss') := by
  match ss with
  | [] => exact .pure .nil
  | ⟨.declaration v, after⟩ :: ss =>
    rw [memberList]
    refine (sees_declaration env false v _ h.left.below.below).bind fun out inner => ?_
    exact (sees_memberList env ss _ h.right).bind fun ss' inner' =>
      .pure (.append (.enter rfl (.again rfl (fun _ => rfl) inner.inner)) inner')
  | ⟨.expression _, after⟩ :: ss | ⟨.block _, after⟩ :: ss
  | ⟨.classDeclaration _, after⟩ :: ss | ⟨.method _, after⟩ :: ss
  | ⟨.returns .., after⟩ :: ss | ⟨.conditional .., after⟩ :: ss
  | ⟨.whileLoop .., after⟩ :: ss | ⟨.forLoop .., after⟩ :: ss
  | ⟨.forEach .., after⟩ :: ss | ⟨.tryBlock .., after⟩ :: ss
  | ⟨.throws .., after⟩ :: ss | ⟨.empty .., after⟩ :: ss | ⟨.doWhile .., after⟩ :: ss
  | ⟨.switch .., after⟩ :: ss | ⟨.breaks .., after⟩ :: ss
  | ⟨.continues .., after⟩ :: ss =>
    refine (sees_statement env _ _ h.left.below).bind fun s' inner => ?_
    exact (sees_memberList env ss _ h.right).bind fun ss' inner' => .pure (.append inner inner')

theorem sees_classDeclaration (env : Surroundings) (c : ClassDeclaration) (known : ctx.known c)
    (p : List Node) (h : StopsPass ctx.Raw (c.inside p)) :
    ctx.Finds (classDeclaration env c) fun c' =>
      ∃ type, c'.type = some type ∧ ctx.Sees (ctx.Opens env type) c'.inside := by
  match c with
  | ⟨id, leading, notes, modifiers, keywordLeading, keyword, name, superclass, interfaces, body,
      type⟩ =>
    refine (finds_declareClass env known).bind fun c _ => ?_
    refine (sees_annotations env notes _ h.left.left.left).bind
      fun notes' inner => .get fun s _ => ?_
    refine (sees_classBody _ body _ h.right.below).bind fun body' ⟨same, inner'⟩ =>
      .pure ⟨c, rfl, ?_⟩
    refine .append (Sees.opens ?_) (.body (same.trans h.right.here.delimited) inner')
    refine .append (.append inner ?_) (sees_markContainer env _ interfaces _ h.left.right)
    match superclass with
    | none => exact .nil
    | some ⟨before, t⟩ => exact sees_markType env _ t _ h.left.left.right

theorem sees_methodDeclaration (env : Surroundings) (m : MethodDeclaration) (p : List Node)
    (h : StopsPass ctx.Raw (m.inside p)) :
    ctx.Finds (methodDeclaration env m) fun m' => ctx.Sees (ctx.Inner env) m'.inside := by
  match m with
  | ⟨id, leading, notes, modifiers, returnType, name, ⟨before, elements, close⟩, throwing, body,
    _⟩ =>
    refine (sees_annotations env notes _ h.left.left.left.left).bind
      fun notes' inner => .get fun s _ => ?_
    extract_lets -underBinder g returned varargs
    refine .withScope ?_
    refine (sees_parameters env elements _ h.left.left.right).bind fun out inner' => ?_
    refine (sees_block? { env with returned := some returned } body _ h.right).bind
      fun body' inner'' => .pure ?_
    have type := sees_markType? env s.names returnType _ h.left.left.left.right
    have thrown := sees_markContainer env s.names throwing _ h.left.right
    exact .append (Sees.append (.append (.append inner type) inner') thrown).inner inner''

theorem sees_statements (env : Surroundings) (ss : List (Padded Statement)) (p : List Node)
    (h : StopsPass ctx.Raw (insideStatements ss p)) :
    ctx.Finds (statements env ss) fun ss' => ctx.Sees (ctx.Under env) (insideStatements ss') := by
  match ss with
  | [] => exact .pure .nil
  | ⟨s, after⟩ :: ss =>
    refine (sees_statement env s _ h.left.below).bind fun s' inner => ?_
    exact (sees_statements env ss _ h.right).bind fun ss' inner' => .pure (.append inner inner')

theorem sees_statement? (env : Surroundings) (s : Option Statement) (p : List Node)
    (h : StopsPass ctx.Raw (insideStatement? s p)) :
    ctx.Finds (statement? env s) fun s' => ctx.Sees (ctx.Under env) (insideStatement? s') := by
  match s with
  | none => exact .pure .nil
  | some s => exact (sees_statement env s _ h.below).bind fun s' inner => .pure inner

theorem sees_elseBranch (env : Surroundings) (e : Option Else) (p : List Node)
    (h : StopsPass ctx.Raw (insideElse e p)) :
    ctx.Finds (elseBranch env e) fun e' => ctx.Sees (ctx.Under env) (insideElse e') := by
  match e with
  | none => exact .pure .nil
  | some ⟨id, leading, ⟨s, after⟩⟩ =>
    exact (sees_statement env s _ h.below).withScope.bind fun s' inner => .pure inner

theorem sees_resources (env : Surroundings) (r : Option TryResources) (p : List Node)
    (h : StopsPass ctx.Raw (insideResources? r p)) :
    ctx.Finds (resources env r) fun r' => ctx.Sees (ctx.Under env) (insideResources? r') := by
  match r with
  | none => exact .pure .nil
  | some ⟨opening, list, terminated, closing⟩ =>
    exact (sees_statements env list _ h).bind fun list' inner => .pure inner

theorem sees_catches (env : Surroundings) (cs : List Catch) (p : List Node)
    (h : StopsPass ctx.Raw (insideCatches cs p)) :
    ctx.Finds (catches env cs) fun cs' => ctx.Sees (ctx.Inner env) (insideCatches cs') := by
  match cs with
  | [] => exact .pure .nil
  | ⟨id, leading, opening, ⟨parameter, after⟩, body⟩ :: cs =>
    refine .bind (P := fun c => ∀ cs, ctx.Sees (ctx.Inner env) (insideCatches cs) →
      ctx.Sees (ctx.Inner env) (insideCatches (c :: cs)))
      (.withScope ?_) fun c extend => ?_
    · refine (sees_declaration env true parameter _ h.left.left.below).bind fun out inner => ?_
      exact (sees_block env body _ h.left.right.below).bind fun body' ⟨same, inner'⟩ =>
        .pure fun cs last =>
        .append (.append (Sees.enter rfl inner.inner).inner
          (.block (same.trans h.left.right.here.delimited) inner')) last
    · exact (sees_catches env cs _ h.right).bind fun cs' inner => .pure (extend cs' inner)

theorem sees_finalizer? (env : Surroundings) (f : Option (LeftPadded Block)) (p : List Node)
    (h : StopsPass ctx.Raw (insideFinally f p)) :
    ctx.Finds (finalizer? env f) fun f' => ctx.Sees (ctx.Inner env) (insideFinally f') := by
  match f with
  | none => exact .pure .nil
  | some ⟨before, b⟩ =>
    exact (sees_block env b _ h.below).bind fun b' ⟨same, inner⟩ =>
      .pure (.block (same.trans h.here.delimited) inner)

theorem sees_caseLabels (env : Surroundings) (selector : Option ClassType)
    (es : List (Padded Expression)) (p : List Node) (h : StopsPass ctx.Raw (insideExprList es p)) :
    ctx.Finds (caseLabels env selector es) fun es' =>
      ctx.Sees (ctx.Under env) (insideExprList es') := by
  match es with
  | [] => exact .pure .nil
  | ⟨e, after⟩ :: es =>
    refine .get fun s _ => ?_
    extract_lets -underBinder tail
    have built (e' : Expression) (kept : ctx.Keeps env none e e') :
        ctx.Finds (tail e') fun es' => ctx.Sees (ctx.Under env) (insideExprList es') :=
      (sees_caseLabels env selector es _ h.right).bind fun es' inner =>
        .pure (.append kept.entered inner)
    split
    · next e' found => exact built e' (keeps_constant? found)
    · exact (keeps_expression env none e _ h.left).bind built

theorem sees_caseBody (env : Surroundings) (b : CaseBody) (p : List Node)
    (h : StopsPass ctx.Raw (b.inside p)) :
    ctx.Finds (caseBody env b) fun b' => ctx.Sees (ctx.Under env) b'.inside := by
  match b with
  | .statements list => exact (sees_statements env list _ h).bind fun list' inner => .pure inner
  | .rule ⟨s, after⟩ =>
    exact (sees_statement env s _ h.below).withScope.bind fun s' inner => .pure inner

theorem sees_switchCases (env : Surroundings) (selector : Option ClassType) (cs : List Case)
    (p : List Node) (h : StopsPass ctx.Raw (insideCases cs p)) :
    ctx.Finds (switchCases env selector cs) fun cs' =>
      ctx.Sees (ctx.Under env) (insideCases cs') := by
  match cs with
  | [] => exact .pure .nil
  | ⟨id, leading, labels, separator, body⟩ :: cs =>
    refine (sees_caseLabels env selector labels _ h.left.left).bind fun labels' inner => ?_
    refine (sees_caseBody env body _ h.left.right).bind fun body' inner' => ?_
    exact (sees_switchCases env selector cs _ h.right).bind fun cs' inner'' =>
      .pure (.append (.append inner inner') inner'')

theorem sees_parenthesized (env : Surroundings) (e : Parenthesized) (p : List Node)
    (h : StopsPass ctx.Raw (e.inside p)) :
    ctx.Finds (parenthesized env e) fun e' => ctx.Sees (ctx.Under env) e'.inside := by
  match e with
  | ⟨opening, tree, closing⟩ =>
    exact (keeps_expression env none tree _ h).bind fun tree' kept => .pure kept.entered

theorem sees_statement (env : Surroundings) (s : Statement) (p : List Node)
    (h : StopsPass ctx.Raw (s.inside p)) :
    ctx.Finds (statement env s) fun s' =>
      ctx.Sees (ctx.Under env) fun p => Visit.enter (.statement s') p s'.inside := by
  match s with
  | .expression e =>
    exact (keeps_expression env none e _ h).bind fun e' kept =>
      .pure (.enter rfl kept.entered.inner)
  | .declaration v =>
    exact (sees_declaration env true v _ h.below).bind fun out inner =>
      .pure (.enter rfl (.again rfl (fun _ => rfl) inner.inner))
  | .block b =>
    refine (sees_block env b _ h.below).bind fun b' ⟨same, inner⟩ => .pure ?_
    have sound := Block.isSound_node (same.trans h.here.delimited)
    exact .enter rfl (.again sound (fun _ => rfl) inner.inner)
  | .classDeclaration c =>
    refine (sees_classDeclaration env c (h.here.2 c rfl) _ h.below).bind
      fun c' ⟨type, known, inner⟩ =>
      .pure ?_
    exact .opened rfl known (fun _ => rfl) (fun _ => rfl) (.again rfl (fun _ => rfl) inner)
  | .method m =>
    exact (sees_methodDeclaration env m _ h.below).bind fun m' inner =>
      .pure (.enter rfl (.again rfl (fun _ => rfl) inner))
  | .returns id leading none => exact .pure (.enter rfl .nil)
  | .returns id leading (some e) =>
    exact (keeps_expression env _ e _ h).bind fun e' kept => .pure (.enter rfl kept.entered.inner)
  | .conditional id leading condition ⟨whenTrue, after⟩ whenFalse =>
    refine (sees_parenthesized env condition _ h.left.left).bind fun condition' inner => ?_
    refine (sees_statement env whenTrue _ h.left.right.below).withScope.bind
      fun whenTrue' inner' => ?_
    exact (sees_elseBranch env whenFalse _ h.right).bind fun whenFalse' inner'' =>
      .pure (.enter rfl ((inner.append inner').append inner'').inner)
  | .whileLoop id leading condition ⟨body, after⟩ =>
    refine (sees_parenthesized env condition _ h.left).bind fun condition' inner => ?_
    exact (sees_statement env body _ h.right.below).withScope.bind fun body' inner' =>
      .pure (.enter rfl (inner.append inner').inner)
  | .forLoop id leading opening init afterInit condition afterCondition update closing
      ⟨body, after⟩ =>
    refine .withScope ?_
    refine (sees_statement? env init _ h.left.left.left).bind fun init' inner => ?_
    refine (sees_expression? env condition _ h.left.left.right).bind fun condition' inner' => ?_
    refine (sees_expressions env none update _ h.left.right).bind fun update' inner'' => ?_
    exact (sees_statement env body _ h.right.below).bind fun body' last =>
      .pure (.enter rfl (((inner.append inner').append inner'').append last).inner)
  | .forEach id leading opening ⟨binder, afterBinder⟩ ⟨iterable, afterIterable⟩ ⟨body, after⟩ =>
    refine .withScope ?_
    refine (keeps_expression env none iterable _ h.left.right).bind fun iterable' kept => ?_
    refine .get fun s _ => ?_
    refine (sees_declaration env true binder _ h.left.left.below).bind
      fun ⟨binder', type⟩ inner => ?_
    have built : ctx.Finds (do
          let body ← statement env body
          return Statement.forEach id leading opening ⟨binder', afterBinder⟩
            ⟨iterable', afterIterable⟩ ⟨body, after⟩) fun s' =>
          ctx.Sees (ctx.Under env) fun p => Visit.enter (.statement s') p s'.inside :=
      (sees_statement env body _ h.right.below).bind fun body' last =>
        .pure (.enter rfl (((Sees.enter rfl inner.inner).append kept.entered).append last).inner)
    refine .ite (fun _ => .modify (fun s => ?_) built) fun _ => built
    induction binder'.declarators generalizing s with
    | nil => rfl
    | cons v vs ih => exact (ih _).trans (names_declare _ _ s)
  | .tryBlock id leading list body handlers final =>
    refine .bind (P := fun x : Option TryResources × Block =>
      ctx.Sees (ctx.Under env) (insideResources? x.1) ∧ x.2.isDelimited = body.isDelimited ∧
        ctx.Sees (ctx.Under env) x.2.inside)
      (.withScope ?_) fun out ⟨inner, same, inner'⟩ => ?_
    · refine (sees_resources env list _ h.left.left.left).bind fun list' inner => ?_
      exact (sees_block env body _ h.left.left.right.below).bind fun body' inner' =>
        .pure ⟨inner, inner'⟩
    · refine (sees_catches env handlers _ h.left.right).bind fun handlers' inner'' => ?_
      exact (sees_finalizer? env final _ h.right).bind fun final' last =>
        .pure (.enter rfl (((inner.inner.append
          (.block (same.trans h.left.left.right.here.delimited) inner')).append
          inner'').append last))
  | .throws id leading exception =>
    exact (keeps_expression env none exception _ h).bind fun exception' kept =>
      .pure (.enter rfl kept.entered.inner)
  | .empty .. | .breaks .. | .continues .. => exact .pure (.enter rfl .nil)
  | .doWhile id leading ⟨body, after⟩ whileLeading condition =>
    refine (sees_statement env body _ h.left.below).withScope.bind fun body' inner => ?_
    exact (sees_parenthesized env condition _ h.right).bind fun condition' inner' =>
      .pure (.enter rfl (inner.append inner').inner)
  | .switch id leading selector opening list closing =>
    refine (sees_parenthesized env selector _ h.left).bind fun selector' inner => ?_
    exact (sees_switchCases env _ list _ h.right).withScope.bind fun list' inner' =>
      .pure (.enter rfl (inner.append inner').inner)

end

/-! ## Whole units -/

theorem sees_classes (env : Surroundings) (cs : List ClassDeclaration) (p : List Node)
    (known : ∀ c ∈ cs, ctx.known c)
      (h : ∀ c ∈ cs, StopsPass ctx.Raw (c.inside (.classDeclaration c :: p))) :
    ctx.Finds (classes env cs) fun cs' => ∀ c ∈ cs',
      ctx.Sees (ctx.Under env) fun p => Visit.enter (.classDeclaration c) p c.inside := by
  induction cs with
  | nil => exact .pure fun _ mem => nomatch mem
  | cons c cs ih =>
    obtain ⟨own, others⟩ := List.forall_mem_cons.1 known
    obtain ⟨first, rest⟩ := List.forall_mem_cons.1 h
    refine (sees_classDeclaration env c own _ first).bind fun c' ⟨type, found, inner⟩ => ?_
    refine (ih others rest).bind fun cs' inner' => .pure (List.forall_mem_cons.2 ⟨?_, inner'⟩)
    exact .opened rfl found (fun _ => rfl) (fun _ => rfl) inner

end Setting

open Attribution (Reached Declares)

/-- What is fixed while the unit is attributed. -/
def CompilationUnit.setting (u : CompilationUnit) (classpath : Classpath) : Setting where
  object := (classpath.class? objectName).getD (.leaf objectName .clazz)
  reached := Reached u classpath
  known := Declares u
  declares env c _ reached known := .declare env c reached known
  objectType_eq g reached := by rw [Names.objectType, reached.classpath_eq]

/-- Every stop in an attributed unit is fine. -/
theorem fine_attribute {u : CompilationUnit} (classpath : Classpath)
    (bindings : List (String × JavaType)) (read : ∀ c ∈ u.classes, AllRead c.inside) :
    ∀ v ∈ (u.attribute classpath bindings).visits, (u.setting classpath).Fine v := by
  have stops (c : ClassDeclaration) (mem : c ∈ u.classes) (v : Visit)
      (there : v ∈ Visit.enter (.classDeclaration c) [.unit u] c.inside) : v ∈ u.visits :=
    .tail _ (List.mem_append_right _ (List.mem_flatMap.2 ⟨c, mem, there⟩))
  have finds : (u.setting classpath).Finds (Attribution.classes { bindings } u.classes) _ :=
    Setting.sees_classes { bindings } u.classes [.unit u]
      (fun c mem => ⟨_, stops c mem _ (.head _), rfl⟩)
      fun c mem v there =>
        ⟨read c mem _ v there, fun c' held => ⟨v, stops c mem v (.tail _ there), held⟩⟩
  have seen := (finds { names := Attribution.namesOf u classpath } .start).1
  intro v mem
  rcases List.mem_cons.1 mem with rfl | mem
  · exact ⟨rfl, fun m found => nomatch found⟩
  rcases List.mem_append.1 mem with mem | mem
  · obtain ⟨i, -, there⟩ := List.mem_flatMap.1 mem
    obtain rfl := List.mem_singleton.1 there
    exact ⟨rfl, fun m found => nomatch found⟩
  · obtain ⟨c, held, there⟩ := List.mem_flatMap.1 mem
    exact seen c held [.unit _] rfl v there

/-- In the tree of a source every statement in a block ends. -/
theorem delimited_parseSource {classpath : Classpath} {bindings : List (String × JavaType)}
    {path source : String} {nextId nextId' : NodeId} {u : CompilationUnit}
    (h : parseSource classpath bindings path source nextId = .ok (u, nextId')) :
    ∀ v ∈ u.visits, v.node.isDelimited = true := by
  obtain ⟨raw, parsed, rfl⟩ := exists_parseUnit h
  exact fun v mem => (Bool.and_eq_true_iff.1
    (fine_attribute classpath bindings (read_parseUnit parsed) v mem).1).1

/-- In the tree of a source every operand is one. -/
theorem grouped_parseSource {classpath : Classpath} {bindings : List (String × JavaType)}
    {path source : String} {nextId nextId' : NodeId} {u : CompilationUnit}
    (h : parseSource classpath bindings path source nextId = .ok (u, nextId')) :
    (Node.unit u).Grouped := by
  obtain ⟨raw, parsed, rfl⟩ := exists_parseUnit h
  exact fun v mem => (Bool.and_eq_true_iff.1
    (fine_attribute classpath bindings (read_parseUnit parsed) v mem).1).2

/-- The expression that the stop is at. -/
def Visit.expression? (v : Visit) : Option Expression :=
  match v.node with
  | .expression e => some e
  | _ => none

/-- The expressions in and below a node, an expression before its parts. -/
def Node.expressions (n : Node) : List Expression := n.visits.filterMap Visit.expression?

end Retouch
