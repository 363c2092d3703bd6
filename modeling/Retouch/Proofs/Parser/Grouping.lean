import Retouch.Proofs.Outcome
import Retouch.Proofs.Parser.Endings
import Retouch.Proofs.Parser.Operators
import Retouch.Proofs.Tree.Naming

/-!
# The grammar groups by strength

Every expression that is read is grouped (`Grouping`): a nonterminal gives expressions that are
strong enough for the places that take them. Where only a name may stand, a name is read. As in the
round trip, the facts at one bound on the depth are one structure.

* Behind the operands of a binary operator stands no operator that they could still take
  (`State.Stopped`). This is why the operator to their left may have them as they are.
* Behind the creation of an array without values stands no index (`Whole`).
-/

namespace Retouch

namespace Parser

variable {α β : Type} {p : Parse α} {q : α → Parse β} {s : State}

section Lists

variable {element : Parse α} {P : α → Prop}

theorem gives_commaSeparated (h : Gives element P) (n : Nat) :
    Gives (commaSeparated element n) fun ps => ∀ p ∈ ps, P p.element := by
  induction n with
  | zero => exact .tooDeep
  | succ n ih =>
    rw [commaSeparated]
    refine h.bind fun value own => .skip fun b => .ite (.skip fun after => ?_) (.pure ?_)
    · exact ih.bind fun rest inner => .pure (List.forall_mem_cons.2 ⟨own, inner⟩)
    · exact List.forall_mem_singleton.2 own

theorem gives_container (opening closing : String) (h : Gives element P) (n : Nat) :
    Gives (container opening closing element n) fun c => ∀ p ∈ c.elements, P p.element := by
  unfold container
  refine .skip fun before => .skip fun b => ?_
  extract_lets -underBinder tail
  have join (ps : List (Padded α)) (inner : ∀ p ∈ ps, P p.element) :
      Gives (tail ps) fun c => ∀ p ∈ c.elements, P p.element :=
    .skip fun close => .pure inner
  exact .ite (join [] fun _ mem => nomatch mem) ((gives_commaSeparated h n).bind join)

theorem gives_keywordList (keyword : String) (h : Gives element P) (n : Nat) :
    Gives (keywordList keyword element n) fun c => ∀ p ∈ c.elements, P p.element := by
  unfold keywordList
  exact .skip fun before => (gives_commaSeparated h n).bind fun ps inner => .pure inner

end Lists

/-! ## Names and types -/

/-- An expression of some strength. -/
structure Strong (least : Nat) (e : Expression) : Prop where
  read : e.Read
  strong : least ≤ e.strength

namespace Strong

variable {least : Nat} {e : Expression}

/-- What is strong enough holds together at the place. -/
theorem accepts (h : Strong least e) {place : Operand} (enough : place.least ≤ least) :
    place.accepts e = true :=
  place.accepts_of_least (Nat.le_trans enough h.strong)

theorem hoisted (h : Strong least e) : Strong least (e.withLeading .empty) :=
  ⟨h.read.withLeading _, by simpa using h.strong⟩

end Strong

theorem strong_identifier (n : Identifier) : Strong 15 (.identifier n) :=
  ⟨⟨rfl, .nil⟩, Nat.le_refl _⟩

/-- A selection from something that no dot takes apart. -/
theorem strong_fieldAccess {target : Expression} (h : Strong 14 target) (id : NodeId)
    (leading dot : Space) (name : Identifier) (type : JavaType) :
    Strong 15 (.fieldAccess ⟨id, leading, target, dot, name, type⟩) :=
  ⟨⟨Expression.isRead_of_one rfl (h.accepts (Nat.le_refl 14)), h.read.entered⟩, Nat.le_refl _⟩

/-- A name that is read. -/
structure ReadName (e : Expression) : Prop extends Strong 15 e where
  isName : e.isName = true

theorem ReadName.hoisted {e : Expression} (h : ReadName e) : ReadName (e.withLeading .empty) :=
  ⟨h.toStrong.hoisted, by simpa using h.isName⟩

/-- What was read of the name is a name, and so is the whole. -/
theorem gives_nameRest (n : Nat) (name : Expression) (h : ReadName name) :
    Gives (nameRest name n) ReadName := by
  induction n generalizing name with
  | zero => exact .tooDeep
  | succ n ih =>
    rw [nameRest]
    refine .skip fun b => .ite (.skip fun dot => .skip fun segment => .skip fun id => ?_) (.pure h)
    have own := h.hoisted
    exact ih _ ⟨strong_fieldAccess ⟨own.read, Nat.le_of_succ_le own.strong⟩ .., own.isName⟩

theorem gives_qualifiedName (n : Nat) : Gives (qualifiedName n) ReadName :=
  .skip fun name => gives_nameRest n _ ⟨strong_identifier name, rfl⟩

/-- A type that is read. -/
structure ReadType (t : TypeTree) : Prop where
  here : (Node.type t).isRead = true
  inner : AllRead t.inside
  named : ∀ e, t = .named e → ReadName e

theorem ReadType.entered {t : TypeTree} (h : ReadType t) :
    AllRead fun p => Visit.enter (.type t) p t.inside :=
  .enter h.here h.inner

theorem ReadName.named {e : Expression} (h : ReadName e) : ReadType (.named e) :=
  ⟨h.isName, h.read.entered, fun _ named => by cases named; exact h⟩

theorem ReadType.hoisted {t : TypeTree} (h : ReadType t) : ReadType (t.withLeading .empty) := by
  cases t with
  | named e => exact (h.named e rfl).hoisted.named
  | primitive | parameterized | array | wildcard =>
    exact ⟨h.here, h.inner, fun _ named => nomatch named⟩

theorem gives_arrayRest (n : Nat) (t : TypeTree) (h : ReadType t) :
    Gives (arrayRest t n) ReadType := by
  induction n generalizing t with
  | zero => exact .tooDeep
  | succ n ih =>
    rw [arrayRest]
    refine .skip fun b =>
      .ite (.skip fun opening => .skip fun closing => .skip fun id => ?_) (.pure h)
    exact ih _ ⟨rfl, h.hoisted.entered, fun _ named => by cases named⟩

theorem allRead_typeList {ts : List (Padded TypeTree)} (h : ∀ p ∈ ts, ReadType p.element) :
    AllRead (insideTypeList ts) := by
  induction ts with
  | nil => exact .nil
  | cons p ts ih =>
    obtain ⟨first, rest⟩ := List.forall_mem_cons.1 h
    exact .append first.entered (ih rest)

theorem allRead_types {c : Container TypeTree} (h : ∀ p ∈ c.elements, ReadType p.element) :
    AllRead (insideTypes c) := by
  cases c
  exact allRead_typeList h

mutual

theorem gives_typeBase (n : Nat) : Gives (typeBase n) ReadType := by
  match n with
  | 0 => exact .tooDeep
  | n + 1 =>
    rw [typeBase]
    refine .skip fun s => .ite (.skip fun space => .skip fun s => ?_) ?_
    · refine .ite (.skip fun before => .skip fun _ => ?_) ?_
      · refine (gives_typeTree n).bind fun bounded inner => .skip fun id => .pure ?_
        exact ⟨rfl, inner.entered, fun _ named => nomatch named⟩
      · exact .skip fun id => .pure ⟨rfl, .nil, fun _ named => nomatch named⟩
    · split
      · exact .skip fun space => .skip fun id => .pure ⟨rfl, .nil, fun _ named => nomatch named⟩
      · refine (gives_qualifiedName n).bind fun name own => .skip fun b => .ite ?_ (.pure ?_)
        · refine (gives_container "<" ">" (gives_typeTree n) n).bind fun arguments inner => ?_
          refine .skip fun id => .pure ⟨own.hoisted.isName, ?_, fun _ named => nomatch named⟩
          exact .append own.hoisted.read.entered (allRead_types inner)
        · exact own.named

/-- A type that is written names its classes by nothing but names. -/
theorem gives_typeTree (n : Nat) : Gives (typeTree n) ReadType := by
  match n with
  | 0 => exact .tooDeep
  | n + 1 => exact (gives_typeBase n).bind fun base inner => gives_arrayRest n base inner

end

/-! ## The grammar -/

theorem allRead_exprList {es : List (Padded Expression)} (h : ∀ p ∈ es, p.element.Read) :
    AllRead (insideExprList es) := by
  induction es with
  | nil => exact .nil
  | cons p es ih =>
    obtain ⟨first, rest⟩ := List.forall_mem_cons.1 h
    exact .append first.entered (ih rest)

theorem allRead_exprs {c : Container Expression} (h : ∀ p ∈ c.elements, p.element.Read) :
    AllRead (insideExprs c) := by
  cases c
  exact allRead_exprList h

theorem allRead_parameters {c : Container VariableDeclarations}
    (h : ∀ p ∈ c.elements, AllRead p.element.inside) : AllRead (insideParameters c) := by
  obtain ⟨before, elements, close⟩ := c
  have list : AllRead (insideParameterList elements) := by
    induction elements with
    | nil => exact .nil
    | cons p vs ih =>
      obtain ⟨first, rest⟩ := List.forall_mem_cons.1 h
      exact .append (.enter rfl first) (ih rest)
  exact list

theorem allRead_variables {vs : List (Padded NamedVariable)}
    (h : ∀ p ∈ vs, AllRead p.element.inside) : AllRead (insideVariables vs) := by
  induction vs with
  | nil => exact .nil
  | cons p vs ih =>
    obtain ⟨first, rest⟩ := List.forall_mem_cons.1 h
    exact .append first (ih rest)

/-- The next operator, if there is one, is weaker. -/
def State.Stopped (least : Nat) (s : State) : Prop :=
  ∀ op width, binaryOp? s = some (op, width) → op.precedence < least

/-- An expression that a selection may go on from. -/
structure Whole (e : Expression) (s : State) : Prop where
  strong : Strong 14 e
  /-- The creation of an array is not cut in front of an index. -/
  ended : s.is "[" = true → 15 ≤ e.strength

/-- What is as strong as a name can be indexed. -/
theorem Strong.whole {e : Expression} {s : State} (h : Strong 15 e) : Whole e s :=
  ⟨⟨h.read, Nat.le_of_succ_le h.strong⟩, fun _ => h.strong⟩

/-- What every nonterminal gives, at one bound on the depth. -/
structure Grouping (n : Nat) : Prop where
  annotationList : Gives (annotationList n) fun as => AllRead (insideAnnotations as)
  heading : Gives (heading n) fun h => AllRead (insideAnnotations h.annotations)
  annotation : (Gives <| annotation n) fun a =>
    AllRead fun p => Visit.enter (.annotationUse a) p a.inside
  annotationArgument : Gives (annotationArgument n) fun e => e.Read ∧ e.isElement = true
  elementValue : Gives (elementValue n) (Strong 2)
  classDeclaration (h : Heading) (notes : AllRead (insideAnnotations h.annotations)) :
    Gives (classDeclaration h n) fun c => AllRead c.inside
  classBody : Gives (classBody n) fun b => (Node.block b).isRead = true ∧ AllRead b.inside
  members : Gives (members n) fun ss => AllRead (insideStatements ss)
  member : Gives (member n) fun s => AllRead s.element.inside
  methodDeclaration (h : Heading) (notes : AllRead (insideAnnotations h.annotations))
    (returnType : Option TypeTree) (type : AllRead (insideType? returnType)) :
    Gives (methodDeclaration h returnType n) fun s => AllRead s.element.inside
  formalParameter : Gives (formalParameter n) fun v => AllRead v.inside
  namedVariable (withInitializer : Bool) :
    Gives (namedVariable withInitializer n) fun v => AllRead v.inside
  variableInitializer : Gives (variableInitializer n) Expression.Read
  arrayInitializer : Gives (arrayInitializer n) (Strong 15)
  declarators : Gives (declarators n) fun vs => AllRead (insideVariables vs)
  localVariables : Gives (localVariables n) fun v => AllRead v.inside
  block : Gives (block n) fun b => (Node.block b).isRead = true ∧ AllRead b.inside
  blockStatements : Gives (blockStatements n) fun ss => AllRead (insideStatements ss)
  blockStatement : Gives (blockStatement n) fun s => AllRead s.element.inside
  parenthesized : Gives (parenthesized n) fun e => AllRead e.inside
  ifStatement : Gives (ifStatement n) fun s => AllRead s.element.inside
  forStatement : Gives (forStatement n) fun s => AllRead s.element.inside
  switchStatement : Gives (switchStatement n) fun s => AllRead s.element.inside
  switchCases : Gives (switchCases n) fun cs => AllRead (insideCases cs)
  switchCase : Gives (switchCase n) fun c => AllRead (insideExprList c.labels) ∧
    AllRead c.body.inside
  caseStatements : Gives (caseStatements n) fun ss => AllRead (insideStatements ss)
  resourceList : Gives (resourceList n) fun r => AllRead (insideStatements r.1)
  tryResources : Gives (tryResources n) fun r => AllRead (insideResources? (some r))
  tryStatement : Gives (tryStatement n) fun s => AllRead s.element.inside
  catchList : Gives (catchList n) fun cs => AllRead (insideCatches cs)
  expression : Gives (expression n) Expression.Read
  lambda : Gives (lambda n) (Strong 1)
  lambdaParameter : Gives (lambdaParameter n) fun v => AllRead v.inside
  ternary : Gives (ternary n) (Strong 2)
  binary (least : Nat) (bound : least ≤ 11) (s : State) :
    Ends s (binary least n) fun e s' => Strong (least + 2) e ∧ s'.Stopped least
  binaryRest (least : Nat) (left : Expression) (strong : Strong (least + 2) left) (s : State)
    (fits : ∀ op width, binaryOp? s = some (op, width) → (Operand.left op).accepts left = true) :
    Ends s (binaryRest least left n) fun e s' => Strong (least + 2) e ∧ s'.Stopped least
  unary : Gives (unary n) (Strong 13)
  primary (s : State) : Ends s (primary n) Whole
  selection (target : Expression) (s : State) (whole : Whole target s) :
    Ends s (selection target n) fun e _ => Strong 14 e
  newExpression (s : State) : Ends s (newExpression n) Whole
  dimensionList (s : State) : Ends s (dimensionList n) fun ds s' =>
    AllRead (insideDimensions ds) ∧ s'.is "[" = false

/-- Putting a variable together. -/
theorem gives_declareOne {h : Heading} (notes : AllRead (insideAnnotations h.annotations))
    (declaredType : Option TypeTree) (type : AllRead (insideType? declaredType))
    (varargs : Option Space) {v : NamedVariable} (inner : AllRead v.inside) :
    Gives (declareOne h declaredType varargs v) fun v => AllRead v.inside :=
  .skip fun _ => .pure (.append (.append notes type) (.append inner .nil))

namespace Grouping

variable {n : Nat} (ih : Grouping n)
include ih

/-! ### Declarations -/

theorem annotationList_succ :
    Gives (Parser.annotationList (n + 1)) fun as => AllRead (insideAnnotations as) := by
  rw [Parser.annotationList]
  refine .skip fun b => .ite (ih.annotation.bind fun first own => ?_) (.pure .nil)
  exact ih.annotationList.bind fun rest inner => .pure (.append own inner)

theorem heading_succ :
    Gives (Parser.heading (n + 1)) fun h => AllRead (insideAnnotations h.annotations) := by
  rw [Parser.heading]
  exact .skip fun space => ih.annotationList.bind fun annotations inner =>
    .skip fun modifiers => .pure inner

theorem annotation_succ : Gives (Parser.annotation (n + 1)) fun a =>
    AllRead fun p => Visit.enter (.annotationUse a) p a.inside := by
  rw [Parser.annotation]
  refine .skip fun space => (gives_qualifiedName n).bind fun name own => .skip fun b => ?_
  extract_lets -underBinder tail
  have join (arguments : Option (Container Expression)) (inner : AllRead (insideExprs? arguments))
      (elements : (arguments.map (·.toList)).all (·.all Expression.isElement) = true) :
      Gives (tail arguments) fun a => AllRead fun p =>
        Visit.enter (.annotationUse a) p a.inside := by
    refine .skip fun id => .pure (.enter ?_ (.append own.read.entered inner))
    have named : (name.isName && (arguments.map (·.toList)).all (·.all Expression.isElement)) =
      true :=
      Bool.and_eq_true_iff.2 ⟨own.isName, elements⟩
    exact named
  refine .ite ?_ (join none .nil rfl)
  refine (gives_container "(" ")" ih.annotationArgument n).bind fun c inner => ?_
  refine join (some c) (allRead_exprs fun p mem => (inner p mem).1) ?_
  simpa [Container.toList] using fun p mem => (inner p mem).2

/-- An assignment stands there as the element `name = value`, with a name on its left. -/
theorem annotationArgument_succ : Gives (Parser.annotationArgument (n + 1)) fun e =>
    e.Read ∧ e.isElement = true := by
  rw [Parser.annotationArgument]
  refine .skip fun b => .ite (.skip fun name => .skip fun before => ?_) ?_
  · refine ih.elementValue.bind fun value inner => .skip fun id => .pure ⟨⟨rfl, ?_⟩, rfl⟩
    exact .append (strong_identifier _).read.entered inner.read.entered
  · refine ih.elementValue.imp fun e own => ⟨own.read, ?_⟩
    -- An assignment is weaker than every value.
    have strong := own.strong
    cases e <;> first | rfl | simp [Expression.strength] at strong

/-- A value is neither an assignment nor a function. -/
theorem elementValue_succ : Gives (Parser.elementValue (n + 1)) (Strong 2) := by
  rw [Parser.elementValue]
  refine .skip fun s => .ite (.skip fun space => ?_) (.ite .refuse ih.ternary)
  refine (gives_container _ _ ih.elementValue n).bind fun elements inner => .skip fun id => .pure ?_
  exact ⟨⟨rfl, .append (.append .nil .nil) (allRead_exprs fun p mem => (inner p mem).read)⟩,
    Nat.le_add_left 2 13⟩

theorem classDeclaration_succ (h : Heading) (notes : AllRead (insideAnnotations h.annotations)) :
    Gives (Parser.classDeclaration h (n + 1)) fun c => AllRead c.inside := by
  rw [Parser.classDeclaration]
  refine .skip fun keyword => ?_
  dsimp -zeta only
  extract_lets -underBinder tail
  have declared (keyword : ClassKeyword) : Gives (tail keyword) fun c => AllRead c.inside := by
    unfold tail
    refine .skip fun name => .skip fun b => ?_
    extract_lets -underBinder tail
    have named : Gives (tail ()) fun c => AllRead c.inside := by
      unfold tail
      refine .skip fun extended => ?_
      extract_lets -underBinder tail
      have derived (superclass : Option (LeftPadded TypeTree))
          (inner : AllRead (insideSuper superclass)) :
          Gives (tail superclass) fun c => AllRead c.inside := by
        unfold tail
        refine .skip fun b => ?_
        extract_lets -underBinder tail
        have ended (interfaces : Option (Container TypeTree))
            (inner' : AllRead (insideTypes? interfaces)) :
            Gives (tail interfaces) fun c => AllRead c.inside :=
          ih.classBody.bind fun body own => .skip fun id =>
            .pure (.append (.append (.append notes inner) inner') (.enter own.1 own.2))
        have listed (keyword : String) : Gives (keywordList keyword (typeTree n) n >>= fun c =>
            tail (some c)) fun c => AllRead c.inside :=
          (gives_keywordList keyword (gives_typeTree n) n).bind fun c inner =>
            ended (some c) (allRead_types inner)
        exact .ite (listed _) (.ite (listed _) (ended none .nil))
      refine .ite (.skip fun before => ?_) (derived none .nil)
      exact (gives_typeTree n).bind fun t own => derived (some ⟨before, t⟩) own.entered
    exact .ite (.skip fun _ => named) named
  split
  · exact declared .clazz
  · exact declared .interface
  · exact .skip declared

/-- The members of a class end as their kinds ask for. -/
theorem classBody_succ : Gives (Parser.classBody (n + 1)) fun b =>
    (Node.block b).isRead = true ∧ AllRead b.inside := by
  refine ((gives_delimited_classBody (n + 1)).imp fun b => b.isRead_node).and ?_
  rw [Parser.classBody]
  exact .skip fun space => ih.members.bind fun statements inner =>
    .skip fun close => .skip fun id => .pure inner

theorem members_succ :
    Gives (Parser.members (n + 1)) fun ss => AllRead (insideStatements ss) := by
  rw [Parser.members]
  refine .skip fun s => .ite (.pure .nil) ?_
  extract_lets -underBinder tail
  have rest : Gives (tail ()) fun ss => AllRead (insideStatements ss) := by
    refine .ite (.skip fun space => .skip fun id => ?_) (ih.member.bind fun first own => ?_)
    · exact ih.members.bind fun rest inner => .pure (.append (.enter rfl .nil) inner)
    · exact ih.members.bind fun rest inner => .pure (.append (.enter rfl own) inner)
  exact .ite (.skip fun _ => rest) rest

theorem member_succ : Gives (Parser.member (n + 1)) fun s => AllRead s.element.inside := by
  rw [Parser.member]
  refine ih.heading.bind fun h notes => .skip fun s => .ite ?_ ?_
  · exact (ih.classDeclaration h notes).bind fun c inner => .pure (.again rfl inner)
  · extract_lets -underBinder tail
    have rest : Gives (tail ()) fun s => AllRead s.element.inside := by
      refine .ite (ih.methodDeclaration h notes none .nil) ?_
      refine (gives_typeTree n).bind fun type own => .skip fun b => .ite ?_ ?_
      · exact ih.methodDeclaration h notes (some type) own.entered
      · refine ih.declarators.bind fun declarators inner => .skip fun after => .skip fun id =>
          .pure ?_
        exact .again rfl (.append (.append notes own.entered) inner)
    exact .ite (.skip fun _ => rest) rest

/-- The heading and the type were read before. -/
theorem methodDeclaration_succ (h : Heading) (notes : AllRead (insideAnnotations h.annotations))
    (returnType : Option TypeTree) (type : AllRead (insideType? returnType)) :
    Gives (Parser.methodDeclaration h returnType (n + 1)) fun s => AllRead s.element.inside := by
  rw [Parser.methodDeclaration]
  refine .skip fun name => (gives_container "(" ")" ih.formalParameter n).bind
    fun parameters inner => .skip fun b => ?_
  extract_lets -underBinder tail
  have thrown (throwing : Option (Container TypeTree)) (inner' : AllRead (insideTypes? throwing)) :
      Gives (tail throwing) fun s => AllRead s.element.inside := by
    refine .skip fun b => ?_
    extract_lets -underBinder tail
    have ended (x : Option Block × Space) (last : AllRead (insideBlock? x.1)) :
        Gives (tail x) fun s => AllRead s.element.inside :=
      .skip fun id => .pure (.again rfl (.append (.append (.append (.append notes type)
        (allRead_parameters inner)) inner') last))
    exact .ite (ih.block.bind fun b own => ended (some b, _) (.enter own.1 own.2))
      (.skip fun after => ended (none, after) .nil)
  exact .ite ((gives_keywordList _ (gives_typeTree n) n).bind fun c inner =>
    thrown (some c) (allRead_types inner)) (thrown none .nil)

theorem formalParameter_succ :
    Gives (Parser.formalParameter (n + 1)) fun v => AllRead v.inside := by
  rw [Parser.formalParameter]
  refine ih.heading.bind fun h notes => (gives_typeTree n).bind fun type own => .skip fun b => ?_
  extract_lets -underBinder tail
  have join (varargs : Option Space) : Gives (tail varargs) fun v => AllRead v.inside :=
    (ih.namedVariable false).bind fun v inner =>
      gives_declareOne notes (some type) own.entered varargs inner
  exact .ite (.skip fun space => join (some space)) (join none)

theorem namedVariable_succ (withInitializer : Bool) :
    Gives (Parser.namedVariable withInitializer (n + 1)) fun v => AllRead v.inside := by
  rw [Parser.namedVariable]
  refine .skip fun space => .skip fun name => .skip fun b => ?_
  extract_lets -underBinder tail
  have rest : Gives (tail ()) fun v => AllRead v.inside := by
    refine .skip fun b => ?_
    extract_lets -underBinder tail
    have join (initializer : Option (LeftPadded Expression))
        (inner : AllRead (insideInit initializer)) :
        Gives (tail initializer) fun v => AllRead v.inside :=
      .skip fun id => .pure inner
    refine .ite (.skip fun before => ?_) (join none .nil)
    exact ih.variableInitializer.bind fun e own => join (some ⟨before, e⟩) own.entered
  exact .ite (.skip fun _ => rest) rest

theorem variableInitializer_succ :
    Gives (Parser.variableInitializer (n + 1)) Expression.Read := by
  rw [Parser.variableInitializer]
  exact .skip fun b => .ite (ih.arrayInitializer.imp fun e own => own.read) ih.expression

theorem arrayInitializer_succ : Gives (Parser.arrayInitializer (n + 1)) (Strong 15) := by
  rw [Parser.arrayInitializer]
  refine .skip fun space => (gives_container _ _ ih.variableInitializer n).bind
    fun elements inner => .skip fun id => .pure ?_
  exact ⟨⟨rfl, .append (.append .nil .nil) (allRead_exprs inner)⟩, Nat.le_refl _⟩

theorem declarators_succ :
    Gives (Parser.declarators (n + 1)) fun vs => AllRead (insideVariables vs) := by
  rw [Parser.declarators]
  exact (gives_commaSeparated (ih.namedVariable true) n).imp fun _ => allRead_variables

theorem localVariables_succ : Gives (Parser.localVariables (n + 1)) fun v => AllRead v.inside := by
  rw [Parser.localVariables]
  refine ih.heading.bind fun h notes => (gives_typeTree n).bind fun type own => ?_
  exact ih.declarators.bind fun declarators inner => .skip fun id =>
    .pure (.append (.append notes own.entered) inner)

/-! ### Statements -/

theorem block_succ : Gives (Parser.block (n + 1)) fun b => (Node.block b).isRead = true ∧
    AllRead b.inside := by
  refine ((gives_delimited (n + 1)).imp fun b => b.isRead_node).and ?_
  rw [Parser.block]
  exact .skip fun space => ih.blockStatements.bind fun statements inner =>
    .skip fun close => .skip fun id => .pure inner

theorem blockStatements_succ :
    Gives (Parser.blockStatements (n + 1)) fun ss => AllRead (insideStatements ss) := by
  rw [Parser.blockStatements]
  refine .skip fun s => .ite (.pure .nil) ?_
  extract_lets -underBinder tail
  have rest : Gives (tail ()) fun ss => AllRead (insideStatements ss) :=
    ih.blockStatement.bind fun first own => ih.blockStatements.bind fun rest inner =>
      .pure (.append (.enter rfl own) inner)
  exact .ite (.skip fun _ => rest) rest

theorem blockStatement_succ :
    Gives (Parser.blockStatement (n + 1)) fun s => AllRead s.element.inside := by
  rw [Parser.blockStatement]
  refine .skip fun s => ?_
  refine .ite (ih.block.bind fun b own => .pure (.again own.1 own.2)) ?_
  refine .ite (.skip fun space => .skip fun id => .pure .nil) ?_
  refine .ite (.skip fun space => .skip fun b => ?_) ?_
  · extract_lets -underBinder tail
    have join (value : Option Expression) (inner : AllRead (insideExpr? value)) :
        Gives (tail value) fun s => AllRead s.element.inside :=
      .skip fun after => .skip fun id => .pure inner
    exact .ite (join none .nil) (ih.expression.bind fun e own => join (some e) own.entered)
  refine .ite (.skip fun space => ih.expression.bind fun e own =>
    .skip fun after => .skip fun id => .pure own.entered) ?_
  refine .ite ih.ifStatement ?_
  refine .ite (.skip fun space => ih.parenthesized.bind fun condition inner => ?_) ?_
  · exact ih.blockStatement.bind fun body own => .skip fun id =>
      .pure (.append inner (.enter rfl own))
  refine .ite ih.forStatement ?_
  refine .ite ih.tryStatement ?_
  refine .ite (.skip fun space => ih.blockStatement.bind fun body own => .skip fun _ => ?_) ?_
  · exact ih.parenthesized.bind fun condition inner => .skip fun after => .skip fun id =>
      .pure (.append (.enter rfl own) inner)
  refine .ite ih.switchStatement ?_
  refine .ite (.skip fun read => .skip fun b => ?_) ?_
  · extract_lets -underBinder tail
    have join (label : Option Identifier) :
        Gives (tail label) fun s => AllRead s.element.inside := by
      refine .skip fun after => .skip fun id => .pure ?_
      split <;> exact .nil
    exact .ite (.skip fun name => join (some name)) (join none)
  refine .ite (ih.heading.bind fun h notes => ?_) ?_
  · exact (ih.classDeclaration h notes).bind fun c inner => .pure (.again rfl inner)
  refine .ite (ih.localVariables.bind fun v inner => .skip fun after => .pure (.again rfl inner)) ?_
  exact ih.expression.bind fun e own => .skip fun after => .pure own.entered

theorem parenthesized_succ : Gives (Parser.parenthesized (n + 1)) fun e => AllRead e.inside := by
  rw [Parser.parenthesized]
  exact .skip fun opening => ih.expression.bind fun tree own => .skip fun closing =>
    .pure own.entered

theorem ifStatement_succ :
    Gives (Parser.ifStatement (n + 1)) fun s => AllRead s.element.inside := by
  rw [Parser.ifStatement]
  refine .skip fun space => ih.parenthesized.bind fun condition inner =>
    ih.blockStatement.bind fun whenTrue own => .skip fun b => ?_
  extract_lets -underBinder tail
  have join (whenFalse : Option Else) (last : AllRead (insideElse whenFalse)) :
      Gives (tail whenFalse) fun s => AllRead s.element.inside :=
    .skip fun id => .pure (.append (.append inner (.enter rfl own)) last)
  refine .ite (.skip fun before => ih.blockStatement.bind fun body own => .skip fun id => ?_)
    (join none .nil)
  exact join (some ⟨id, before, body⟩) (.enter rfl own)

theorem forStatement_succ :
    Gives (Parser.forStatement (n + 1)) fun s => AllRead s.element.inside := by
  rw [Parser.forStatement]
  refine .skip fun space => .skip fun opening => .skip fun s => ?_
  extract_lets -underBinder each tail
  refine .ite ?_ ?_
  · refine ih.heading.bind fun h notes => (gives_typeTree n).bind fun type typed => ?_
    refine (ih.namedVariable false).bind fun v inner => .skip fun colon => ?_
    refine ih.expression.bind fun iterable own => .skip fun close => ?_
    refine ih.blockStatement.bind fun body last => ?_
    refine (gives_declareOne notes (some type) typed.entered none inner).bind fun binder bound => ?_
    exact .skip fun id => .pure (.append (.append (.enter rfl bound) own.entered) (.enter rfl last))
  · have started (init : Option Statement) (inner : AllRead (insideStatement? init)) :
        Gives (tail init) fun s => AllRead s.element.inside := by
      refine .skip fun afterInit => .skip fun b => ?_
      extract_lets -underBinder tail
      have bounded (condition : Option Expression) (inner' : AllRead (insideExpr? condition)) :
          Gives (tail condition) fun s => AllRead s.element.inside := by
        refine .skip fun afterCondition => .skip fun b => ?_
        extract_lets -underBinder tail
        have updated (update : List (Padded Expression))
            (inner'' : AllRead (insideExprList update)) :
            Gives (tail update) fun s => AllRead s.element.inside :=
          .skip fun closing => ih.blockStatement.bind fun body last => .skip fun id =>
            .pure (.append (.append (.append inner inner') inner'') (.enter rfl last))
        exact .ite (updated [] .nil) ((gives_commaSeparated ih.expression n).bind fun es own =>
          updated es (allRead_exprList own))
      exact .ite (bounded none .nil) (ih.expression.bind fun e own => bounded (some e) own.entered)
    refine .ite (started none .nil) (.ite ?_ ?_)
    · exact ih.localVariables.bind fun v own =>
        started (some (.declaration v)) (.enter rfl (.again rfl own))
    · exact ih.expression.bind fun e own => started (some (.expression e)) (.enter rfl own.entered)

theorem switchStatement_succ :
    Gives (Parser.switchStatement (n + 1)) fun s => AllRead s.element.inside := by
  rw [Parser.switchStatement]
  refine .skip fun space => ih.parenthesized.bind fun selector inner => .skip fun opening => ?_
  exact ih.switchCases.bind fun cases inner' => .skip fun closing => .skip fun id =>
    .pure (.append inner inner')

theorem switchCases_succ :
    Gives (Parser.switchCases (n + 1)) fun cs => AllRead (insideCases cs) := by
  rw [Parser.switchCases]
  refine .skip fun s => .ite (.pure .nil) ?_
  extract_lets -underBinder tail
  have rest : Gives (tail ()) fun cs => AllRead (insideCases cs) :=
    ih.switchCase.bind fun ⟨_, _, _, _, _⟩ ⟨labels, body⟩ => ih.switchCases.bind fun rest inner =>
      .pure (.append (.append labels body) inner)
  exact .ite (.skip fun _ => rest) rest

theorem switchCase_succ : Gives (Parser.switchCase (n + 1)) fun c =>
    AllRead (insideExprList c.labels) ∧ AllRead c.body.inside := by
  rw [Parser.switchCase]
  refine .skip fun s => ?_
  extract_lets -underBinder tail
  have join (x : Space × List (Padded Expression)) (inner : AllRead (insideExprList x.2)) :
      Gives (tail x) fun c => AllRead (insideExprList c.labels) ∧ AllRead c.body.inside := by
    refine .skip fun b => .ite (.skip fun separator => ?_) (.skip fun separator => ?_)
    · exact ih.blockStatement.bind fun body own => .skip fun id => .pure ⟨inner, .enter rfl own⟩
    · exact ih.caseStatements.bind fun list own => .skip fun id => .pure ⟨inner, own⟩
  refine .ite (.skip fun space => join (space, []) .nil) (.ite (.skip fun space => ?_) ?_)
  · exact (gives_commaSeparated ih.ternary n).bind fun labels own =>
      join (space, labels) (allRead_exprList fun p mem => (own p mem).read)
  · exact fun s a s' run => by cases run

theorem caseStatements_succ :
    Gives (Parser.caseStatements (n + 1)) fun ss => AllRead (insideStatements ss) := by
  rw [Parser.caseStatements]
  refine .skip fun s => .ite (.pure .nil) ?_
  extract_lets -underBinder tail
  have rest : Gives (tail ()) fun ss => AllRead (insideStatements ss) :=
    ih.blockStatement.bind fun first own => ih.caseStatements.bind fun rest inner =>
      .pure (.append (.enter rfl own) inner)
  exact .ite (.skip fun _ => rest) rest

theorem resourceList_succ :
    Gives (Parser.resourceList (n + 1)) fun r => AllRead (insideStatements r.1) := by
  rw [Parser.resourceList]
  refine .skip fun s => .ite (.pure .nil) ?_
  extract_lets -underBinder tail
  have join (resource : Statement) (own : AllRead resource.inside) :
      Gives (tail resource) fun r => AllRead (insideStatements r.1) := by
    refine .skip fun b => .ite (.skip fun after => ?_) (.pure (.append (.enter rfl own) .nil))
    exact ih.resourceList.bind fun rest inner => .pure (.append (.enter rfl own) inner)
  exact .ite (ih.localVariables.bind fun v own => join (.declaration v) (.again rfl own))
    (ih.expression.bind fun e own => join (.expression e) own.entered)

theorem tryResources_succ :
    Gives (Parser.tryResources (n + 1)) fun r => AllRead (insideResources? (some r)) := by
  rw [Parser.tryResources]
  refine .skip fun opening => ih.resourceList.bind fun ⟨resources, terminated⟩ inner => ?_
  dsimp -zeta only
  extract_lets -underBinder tail
  have rest : Gives (tail ()) fun r => AllRead (insideResources? (some r)) :=
    .skip fun closing => .pure inner
  exact .ite (.skip fun _ => rest) rest

theorem tryStatement_succ :
    Gives (Parser.tryStatement (n + 1)) fun s => AllRead s.element.inside := by
  rw [Parser.tryStatement]
  refine .skip fun space => .skip fun b => ?_
  extract_lets -underBinder tail
  have opened (resources : Option TryResources) (inner : AllRead (insideResources? resources)) :
      Gives (tail resources) fun s => AllRead s.element.inside := by
    refine ih.block.bind fun body own => ih.catchList.bind fun catches inner' => .skip fun b => ?_
    extract_lets -underBinder tail
    have closed (finalizer : Option (LeftPadded Block)) (last : AllRead (insideFinally finalizer)) :
        Gives (tail finalizer) fun s => AllRead s.element.inside := by
      unfold tail
      extract_lets -underBinder tail
      have rest : Gives (tail ()) fun s => AllRead s.element.inside :=
        .skip fun id => .pure (.append (.append (.append inner (.enter own.1 own.2)) inner') last)
      exact .ite (.skip fun _ => rest) rest
    refine .ite (.skip fun before => ih.block.bind fun b own => ?_) (closed none .nil)
    exact closed (some ⟨before, b⟩) (.enter own.1 own.2)
  exact .ite (ih.tryResources.bind fun r inner => opened (some r) inner) (opened none .nil)

theorem catchList_succ :
    Gives (Parser.catchList (n + 1)) fun cs => AllRead (insideCatches cs) := by
  rw [Parser.catchList]
  refine .skip fun b => .ite (.skip fun space => .skip fun opening => ?_) (.pure .nil)
  refine ih.heading.bind fun h notes => (gives_typeTree n).bind fun type typed => .skip fun b => ?_
  extract_lets -underBinder tail
  have rest : Gives (tail ()) fun cs => AllRead (insideCatches cs) := by
    refine (ih.namedVariable false).bind fun v inner => .skip fun after => ?_
    refine ih.block.bind fun body own => ?_
    refine (gives_declareOne notes (some type) typed.entered none inner).bind
      fun parameter bound => ?_
    refine .skip fun id => ih.catchList.bind fun rest last => .pure ?_
    exact .append (.append (.enter rfl bound) (.enter own.1 own.2)) last
  exact .ite (.skip fun _ => rest) rest

/-! ### Expressions -/

theorem expression_succ : Gives (Parser.expression (n + 1)) Expression.Read := by
  rw [Parser.expression]
  refine .skip fun b => .ite (ih.lambda.imp fun e own => own.read) ?_
  refine ih.ternary.bind fun left own => .skip fun s => ?_
  split
  · exact .pure own.read
  · refine .skip fun before => ih.expression.bind fun value inner => .skip fun id => .pure ?_
    exact ⟨Expression.isRead_of_one rfl (own.hoisted.accepts (Nat.le_refl 2)),
      .append own.hoisted.read.entered inner.entered⟩

/-- Only an assignment is weaker than a function. -/
theorem lambda_succ : Gives (Parser.lambda (n + 1)) (Strong 1) := by
  rw [Parser.lambda]
  refine .skip fun space => .skip fun parenthesized => ?_
  extract_lets -underBinder tail
  have join (parameters : Container VariableDeclarations)
      (inner : ∀ p ∈ parameters.elements, AllRead p.element.inside) :
      Gives (tail parameters) (Strong 1) := by
    refine .skip fun arrow => .skip fun b => ?_
    extract_lets -underBinder tail
    have join (body : LambdaBody) (last : AllRead body.inside) : Gives (tail body) (Strong 1) :=
      .skip fun id =>
        .pure ⟨⟨rfl, .append (allRead_parameters inner) last⟩, Nat.le_refl 1⟩
    exact .ite (ih.block.bind fun b own => join (.block b) (.enter own.1 own.2))
      (ih.expression.bind fun e own => join (.expression e) own.entered)
  refine .ite ((gives_container "(" ")" ih.lambdaParameter n).bind join) ?_
  exact ih.lambdaParameter.bind fun v own => join _ (List.forall_mem_singleton.2 own)

theorem lambdaParameter_succ :
    Gives (Parser.lambdaParameter (n + 1)) fun v => AllRead v.inside := by
  rw [Parser.lambdaParameter]
  refine .skip fun b => .ite (.skip fun space => ?_) ih.formalParameter
  exact (ih.namedVariable false).bind fun v inner =>
    gives_declareOne (h := ⟨space, [], []⟩) .nil none .nil none inner

/-- What stands in the place of a condition is an operation or an operand. -/
theorem ternary_succ : Gives (Parser.ternary (n + 1)) (Strong 2) := by
  rw [Parser.ternary]
  have operand : Gives (Parser.binary 1 n) (Strong 3) := fun s =>
    (ih.binary 1 (by decide) s).imp fun e _ own => own.1
  refine operand.bind fun condition own => .skip fun b => .ite ?_ (.pure ⟨own.read, ?_⟩)
  · refine .skip fun question => ih.expression.bind fun whenTrue inner => .skip fun colon =>
      .skip fun b => ?_
    extract_lets -underBinder tail
    have join (whenFalse : Expression) (last : Strong 1 whenFalse) :
        Gives (tail whenFalse) (Strong 2) := by
      refine .skip fun id => .pure ⟨⟨?_, ?_⟩, Nat.le_refl 2⟩
      · exact Expression.isRead_of_two rfl (own.hoisted.accepts (Nat.le_refl 3))
          (last.accepts (Nat.le_refl 1))
      · exact .append (.append own.hoisted.read.entered inner.entered) last.read.entered
    exact .ite (ih.lambda.bind join)
      (ih.ternary.bind fun e last => join e ⟨last.read, Nat.le_of_succ_le last.strong⟩)
  · exact Nat.le_of_succ_le own.strong

/-- The operation is as strong as the place asks for, and the operator behind it is weaker than
that. -/
theorem binary_succ (least : Nat) (bound : least ≤ 11) (s : State) :
    Ends s (Parser.binary least (n + 1)) fun e s' => Strong (least + 2) e ∧ s'.Stopped least := by
  rw [Parser.binary]
  refine (ih.unary s).bind fun left s' own => ?_
  refine ih.binaryRest least left ⟨own.read, ?_⟩ s' fun op width _ => own.accepts ?_
  · exact Nat.le_trans (Nat.add_le_add_right bound 2) own.strong
  · cases op <;> decide

/-- What was read so far is the left operand of the next operator, if that one is read here. -/
theorem binaryRest_succ (least : Nat) (left : Expression) (strong : Strong (least + 2) left)
    (s : State)
    (fits : ∀ op width, binaryOp? s = some (op, width) → (Operand.left op).accepts left = true) :
    Ends s (Parser.binaryRest least left (n + 1)) fun e s' =>
      Strong (least + 2) e ∧ s'.Stopped least := by
  rw [Parser.binaryRest]
  refine .get ?_
  split
  · next none =>
    refine .pure ⟨strong, fun op width found => ?_⟩
    simpa [found] using none
  · next op width some =>
    obtain ⟨found, enough⟩ := Option.filter_eq_some_iff.1 some
    have enough : least ≤ op.precedence := by simpa using enough
    refine .skip fun before _ => .skip fun _ _ => ?_
    extract_lets -underBinder tail
    -- The new operand holds together in front of every operator that may follow its right side.
    have join (right : Expression) (own : Strong (op.precedence + 3) right) (s : State)
        (stopped : op = .instanceOf ∨ s.Stopped (op.precedence + 1))
        (named : (op != .instanceOf || right.isName) = true) :
        Ends s (tail right) fun e s' => Strong (least + 2) e ∧ s'.Stopped least := by
      refine .fresh (ih.binaryRest least _ ?_ _ ?_)
      · refine ⟨⟨?_, .append strong.hoisted.read.entered own.read.entered⟩,
          Nat.add_le_add_right enough 2⟩
        exact Expression.isRead_of_two rfl (by simpa using fits op width found)
          (own.accepts (Nat.le_refl _)) named
      · intro op' width' found'
        rcases stopped with rfl | stopped
        · rfl
        · have weaker : op'.precedence ≤ op.precedence :=
            Nat.le_of_lt_succ (stopped op' width' found')
          exact Operand.accepts_of_least (Nat.add_le_add_right weaker 2)
    refine .ite (fun isType => ?_) fun value => ?_
    · refine (gives_typeTree n _).bind fun t s' own => ?_
      have named : op = .instanceOf := eq_of_beq isType
      split
      · next name =>
        exact join name ⟨(own.named name rfl).read, by
          rw [named]
          exact Nat.le_trans (by decide) (own.named name rfl).strong⟩ s' (.inl named) (by
          simp [(own.named name rfl).isName])
      · intro a s'' run
        cases run
    · refine (ih.binary (op.precedence + 1) (by cases op <;> decide) _).bind fun right s' own => ?_
      exact join right own.1 s' (.inr own.2) (by simp [bne, value])

/-- Casts and operators in front of an operand are stronger than all operators between two. -/
theorem unary_succ : Gives (Parser.unary (n + 1)) (Strong 13) := by
  rw [Parser.unary]
  refine .skip fun s => ?_
  split
  · next op found =>
    have before : op.isPostfix = false := (unaryOp?_some found).2
    refine .skip fun _ => ih.unary.bind fun operand own => .skip fun id => .pure ⟨⟨?_, ?_⟩, ?_⟩
    · refine Expression.isRead_of_one rfl ?_
      rw [before]
      exact own.accepts (Nat.le_refl 13)
    · exact own.read.entered
    · simp [Expression.strength, before]
  · refine .ite (.skip fun space => ?_) ?_
    · refine (gives_typeTree n).bind fun clazz typed => .skip fun after => ?_
      refine ih.unary.bind fun operand own => .skip fun id => .pure ⟨⟨?_, ?_⟩, Nat.le_refl 13⟩
      · exact Expression.isRead_of_one rfl (own.accepts (Nat.le_refl 13))
      · exact .append typed.entered own.read.entered
    · intro s
      refine (ih.primary s).bind fun target s' whole => ?_
      exact (ih.selection target s' whole).imp fun e _ own =>
        ⟨own.read, Nat.le_of_succ_le own.strong⟩

/-- A selection may go on from it, and an index too unless it is a new array without values. -/
theorem primary_succ (s : State) : Ends s (Parser.primary (n + 1)) Whole := by
  have literals (s : State) : Ends s literal Whole := by
    refine .skip fun read s' => ?_
    dsimp only
    split
    · refine .skip fun id s'' => .pure ?_
      exact Strong.whole ⟨⟨rfl, .nil⟩, Nat.le_refl 15⟩
    · intro a s'' run
      cases run
  have names (name : Identifier) (s : State) : Whole (.identifier name) s :=
    (strong_identifier name).whole
  rw [Parser.primary]
  refine .get ?_
  extract_lets -underBinder text
  split
  case h_8 =>
    refine .ite (fun _ => .skip fun space s => ?_) fun _ => .ite (fun _ => ?_) fun _ => .refuse
    · refine (ih.expression s).bind fun tree s inner => .skip fun after s => .skip fun id s =>
        .pure ?_
      exact Strong.whole ⟨⟨rfl, inner.entered⟩, Nat.le_refl 15⟩
    · exact (ih.arrayInitializer s).imp fun e s own => own.whole
  case h_9 => exact .refuse
  case h_7 =>
    refine .ite (fun _ => literals s) fun _ => .ite (fun _ => ?_) fun _ => ?_
    · refine .skip fun name s => .skip fun b s => ?_
      extract_lets -underBinder tail
      have rest (s : State) : Ends s (tail ()) Whole := .pure (names name s)
      exact .ite (fun _ => .skip fun _ s => rest s) fun _ => rest s
    · refine .ite (fun _ => ih.newExpression s) fun _ => .ite (fun _ => .refuse) fun _ => ?_
      refine .skip fun name s => .skip fun b s => .ite (fun _ => ?_) fun _ => .pure (names name s)
      refine (gives_container "(" ")" ih.expression n s).bind fun arguments s inner => ?_
      refine .skip fun id s => .pure ?_
      exact Strong.whole ⟨⟨rfl, .append .nil (allRead_exprs inner)⟩, Nat.le_refl 15⟩
  all_goals exact literals s

theorem selection_succ (target : Expression) (s : State) (whole : Whole target s) :
    Ends s (Parser.selection target (n + 1)) fun e _ => Strong 14 e := by
  have own := whole.strong.hoisted
  -- Whatever is selected can be selected from again.
  have again (e : Expression) (strong : Strong 15 e) (s : State) :
      Ends s (Parser.selection e n) fun e _ => Strong 14 e :=
    ih.selection e s strong.whole
  rw [Parser.selection]
  refine .get (.ite (fun _ => ?_) fun _ => .ite (fun index => ?_) fun _ =>
    .ite (fun _ => ?_) fun _ =>
    .ite (fun _ => ?_) fun _ => .pure whole.strong)
  · extract_lets -underBinder tail
    have rest (s : State) : Ends s (tail ()) fun e _ => Strong 14 e := by
      refine .skip fun dot s => .skip fun name s => ?_
      extract_lets -underBinder isPseudoField tail
      have rest (s : State) : Ends s (tail ()) fun e _ => Strong 14 e := by
        refine .skip fun b s => .ite (fun _ => ?_) fun _ => .skip fun id s => ?_
        · refine (gives_container "(" ")" ih.expression n s).bind fun arguments s inner => ?_
          refine .skip fun id s => again _ ?_ s
          exact ⟨⟨Expression.isRead_of_one rfl (own.accepts (Nat.le_refl 14)),
            .append own.read.entered (allRead_exprs inner)⟩, Nat.le_refl 15⟩
        · exact again _ (strong_fieldAccess own ..) s
      exact .ite (fun _ => .skip fun _ s => rest s) fun _ => rest s
    exact .ite (fun _ => .skip fun _ s => rest s) fun _ => rest s
  · refine .skip fun opening s => (ih.expression s).bind fun index' s inner => ?_
    refine .skip fun closing s => .skip fun id s => again _ ?_ s
    have full : Operand.indexed.accepts (target.withLeading .empty) = true := by
      rw [Operand.accepts_withLeading]
      exact Operand.accepts_of_least (whole.ended index)
    exact ⟨⟨Expression.isRead_of_one rfl full, .append own.read.entered inner.entered⟩,
      Nat.le_refl 15⟩
  · refine .skip fun colons s => .skip fun name s => .skip fun id s => again _ ?_ s
    exact ⟨⟨Expression.isRead_of_one rfl (own.accepts (Nat.le_refl 14)), own.read.entered⟩,
      Nat.le_refl 15⟩
  · refine .skip fun mark s => .skip fun id s => ?_
    refine again _ ?_ s
    split
    all_goals
      exact ⟨⟨Expression.isRead_of_one rfl (own.accepts (Nat.le_refl 14)), own.read.entered⟩,
        Nat.le_refl 15⟩

theorem newExpression_succ (s : State) : Ends s (Parser.newExpression (n + 1)) Whole := by
  rw [Parser.newExpression]
  refine .skip fun space s => (gives_typeBase n s).bind fun base s typed =>
    .is (.ite (fun _ => ?_) fun _ => ?_)
  · refine (ih.dimensionList s).bind fun dimensions s ⟨inner, ended⟩ => .is ?_
    extract_lets -underBinder tail
    have join (initializer : Option (Container Expression)) (s : State)
        (inner' : AllRead (insideExprs? initializer))
        (cut : initializer = none → s.is "[" = false) : Ends s (tail initializer) Whole := by
      refine .fresh (.pure ⟨⟨⟨rfl, .append (.append typed.entered inner) inner'⟩, ?_⟩, ?_⟩)
      · cases initializer <;> simp [Expression.strength]
      · intro (index : s.is "[" = true)
        cases initializer with
        | none => exact absurd index (by simp [cut rfl])
        | some => exact Nat.le_refl 15
    refine .ite (fun _ => ?_) fun _ => join none s .nil fun _ => ended
    refine (gives_container _ _ ih.variableInitializer n s).bind fun c s inner => ?_
    exact join (some c) s (allRead_exprs inner) fun none => nomatch none
  · refine (gives_container "(" ")" ih.expression n s).bind fun arguments s inner =>
      .skip fun b s => ?_
    extract_lets -underBinder tail
    have join (body : Option Block) (last : AllRead (insideBlock? body)) (s : State) :
        Ends s (tail body) Whole := by
      refine .skip fun id s => .pure ?_
      exact Strong.whole ⟨⟨rfl, .append (.append typed.entered (allRead_exprs inner)) last⟩,
        Nat.le_refl 15⟩
    refine .ite (fun _ => (ih.classBody s).bind fun b s own => ?_) fun _ => join none .nil s
    exact join (some b) (.enter own.1 own.2) s

/-- All brackets that follow are read. -/
theorem dimensionList_succ (s : State) : Ends s (Parser.dimensionList (n + 1)) fun ds s' =>
    AllRead (insideDimensions ds) ∧ s'.is "[" = false := by
  rw [Parser.dimensionList]
  refine .is (.ite (fun _ => .skip fun opening s => .skip fun b s => ?_) fun ended => ?_)
  · extract_lets -underBinder tail
    have join (index : Option Expression) (inner : AllRead (insideExpr? index)) (s : State) :
        Ends s (tail index) fun ds s' => AllRead (insideDimensions ds) ∧ s'.is "[" = false :=
      .skip fun closing s => (ih.dimensionList s).bind fun rest s ⟨inner', ended⟩ =>
        .pure ⟨.append inner inner', ended⟩
    refine .ite (fun _ => join none .nil s) fun _ => ?_
    exact (ih.expression s).bind fun e s own => join (some e) own.entered s
  · exact .pure ⟨.nil, by simpa using ended⟩

end Grouping

/-- Every nonterminal gives what is grouped, at every bound on the depth. -/
theorem grouping (n : Nat) : Grouping n := by
  induction n with
  | zero => constructor <;> intros <;> first | exact Gives.tooDeep | exact Ends.tooDeep
  | succ n ih => exact {
    annotationList := ih.annotationList_succ
    heading := ih.heading_succ
    annotation := ih.annotation_succ
    annotationArgument := ih.annotationArgument_succ
    elementValue := ih.elementValue_succ
    classDeclaration := ih.classDeclaration_succ
    classBody := ih.classBody_succ
    members := ih.members_succ
    member := ih.member_succ
    methodDeclaration := ih.methodDeclaration_succ
    formalParameter := ih.formalParameter_succ
    namedVariable := ih.namedVariable_succ
    variableInitializer := ih.variableInitializer_succ
    arrayInitializer := ih.arrayInitializer_succ
    declarators := ih.declarators_succ
    localVariables := ih.localVariables_succ
    block := ih.block_succ
    blockStatements := ih.blockStatements_succ
    blockStatement := ih.blockStatement_succ
    parenthesized := ih.parenthesized_succ
    ifStatement := ih.ifStatement_succ
    forStatement := ih.forStatement_succ
    switchStatement := ih.switchStatement_succ
    switchCases := ih.switchCases_succ
    switchCase := ih.switchCase_succ
    caseStatements := ih.caseStatements_succ
    resourceList := ih.resourceList_succ
    tryResources := ih.tryResources_succ
    tryStatement := ih.tryStatement_succ
    catchList := ih.catchList_succ
    expression := ih.expression_succ
    lambda := ih.lambda_succ
    lambdaParameter := ih.lambdaParameter_succ
    ternary := ih.ternary_succ
    binary := ih.binary_succ
    binaryRest := ih.binaryRest_succ
    unary := ih.unary_succ
    primary := ih.primary_succ
    selection := ih.selection_succ
    newExpression := ih.newExpression_succ
    dimensionList := ih.dimensionList_succ
  }

theorem gives_classList (n : Nat) :
    Gives (classList n) fun cs => ∀ c ∈ cs, AllRead c.inside := by
  induction n with
  | zero => exact .tooDeep
  | succ n ih =>
    rw [classList]
    refine .skip fun b => .ite (.pure fun _ mem => nomatch mem) ?_
    refine (grouping n).heading.bind fun h notes => .skip fun b => .ite ?_ .refuse
    refine ((grouping n).classDeclaration h notes).bind fun first own => ?_
    exact ih.bind fun rest inner => .pure (List.forall_mem_cons.2 ⟨own, inner⟩)

theorem gives_unit (path : String) (n : Nat) :
    Gives (unit path n) fun u => ∀ c ∈ u.classes, AllRead c.inside := by
  unfold unit
  exact .skip fun package => .skip fun imports => (gives_classList n).bind fun classes inner =>
    .skip fun id => .skip fun s => .pure inner

end Parser

/-- What is read from a source. -/
theorem read_parseUnit {path source : String} {nextId nextId' : NodeId} {u : CompilationUnit}
    (h : parseUnit path source nextId = .ok (u, nextId')) : ∀ c ∈ u.classes, AllRead c.inside := by
  obtain ⟨tokens, s, -, run⟩ := exists_unit h
  exact Parser.gives_unit _ _ _ _ _ run

end Retouch
