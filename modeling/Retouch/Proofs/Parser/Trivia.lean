import Retouch.Proofs.Parser.Twins

/-!
# Trivia does not change what is read

Two sources of the same words and marks give units that are equal when bare, if both are read
(`bare_parseUnit`). The parser looks at trivia in one place: `>` marks are joined to a shift only
when nothing stands between them, so two runs may see different operators there. The run with the
shorter operator then stands in front of a `>`, which no operand begins with, and fails: at once if
the operator may be read (`State.Blocked`), else as soon as one may that binds as loosely
(`State.Cut`).

As in the grouping, the facts at one bound on the depth are one structure.
-/

namespace Retouch.Parser

variable {s t : State} {α β : Type} {f : α → β}

theorem isNone_of_map {a b : Option α} (h : a.map f = b.map f) : b.isNone = a.isNone := by
  simpa using (congrArg Option.isNone h).symm

theorem isEmpty_of_map {as bs : List α} (h : as.map f = bs.map f) : bs.isEmpty = as.isEmpty := by
  simpa using (congrArg List.isEmpty h).symm

/-! ## Operators -/

/-- A mark that no operand begins with. -/
def State.Barred (s : State) : Prop :=
  s.peek.kind = .punct ∧ (s.peek.text = ">" ∨ s.peek.text = "@")

namespace State.Barred

variable (h : s.Barred) (n : Nat)
include h

theorem not_name : s.isNameAt 0 = false := by
  have kind : (s.peekAt 0).kind = .punct := h.1
  simp [State.isNameAt, kind]

theorem not_is (word : String) (other : word ≠ ">" ∧ word ≠ "@") : s.is word = false := by
  obtain ⟨_, text | text⟩ := h <;> simp [State.is, Token.is, text, other.1.symm, other.2.symm]

/-- Neither an operator nor a cast nor an operand begins with such a mark. -/
theorem unary : Ends s (unary n) fun _ _ => False := by
  cases n with
  | zero => exact .tooDeep
  | succ n =>
    have none : unaryOp? s = none := by
      obtain ⟨kind, text | text⟩ := h <;> simp [unaryOp?, kind, text]
    have noCast : s.is "(" = false := h.not_is "(" (by decide)
    rw [Parser.unary]
    refine .get ?_
    simp only [none, noCast, Bool.false_and]
    refine .bind (P := fun _ _ => False) ?_ fun _ _ no => no.elim
    cases n with
    | zero => exact .tooDeep
    | succ n =>
      rw [primary]
      refine .get ?_
      obtain ⟨kind, text | text⟩ := h <;> simp only [kind, text] <;> exact .refuse

theorem binary (least : Nat) : Ends s (binary least n) fun _ _ => False := by
  cases n with
  | zero => exact .tooDeep
  | succ n =>
    rw [Parser.binary]
    exact (h.unary n).bind fun _ _ no => no.elim

theorem expression : Ends s (expression n) fun _ _ => False := by
  cases n with
  | zero => exact .tooDeep
  | succ n =>
    have noLambda : startsLambda s = false := by
      simp [startsLambda, h.not_name, h.not_is "(" (by decide)]
    rw [Parser.expression]
    change Ends s (if startsLambda s = true then _ else _) _
    simp only [noLambda]
    refine .bind (P := fun _ _ => False) ?_ fun _ _ no => no.elim
    cases n with
    | zero => exact .tooDeep
    | succ n =>
      rw [ternary]
      exact (h.binary n 1).bind fun _ _ no => no.elim

end State.Barred

/-- Behind the operator at the front stands a mark that no operand begins with. -/
def State.Blocked (s : State) (op : BinaryOp) : Prop :=
  ∃ width, binaryOp? s = some (op, width) ∧ op ≠ .instanceOf ∧ (s.peekAt width).kind = .punct ∧
    (s.peekAt width).text = ">"

/-- The operator at the front is too weak to be read here, and elsewhere it leads to nothing. -/
def State.Cut (least : Nat) (s : State) : Prop := ∃ op, s.Blocked op ∧ op.precedence < least

/-- The tokens of the operator at the front are gone. -/
theorem peek_bumps {op : BinaryOp} {width : Nat} (h : binaryOp? s = some (op, width)) :
    (Nat.repeat State.bump width s).peek = s.peekAt width := by
  have inside := binaryOp?_inside h
  have first (n : Nat) : s.bump.peekAt n = s.peekAt (n + 1) := State.peekAt_bump inside n
  have further (one : s.isAt 1 ">" = true) (n : Nat) : s.bump.bump.peekAt n = s.peekAt (n + 2) := by
    have closes : s.bump.is ">" = true := by rwa [State.is, State.peek, first]
    rw [State.peekAt_bump (State.not_atEnd_of_is closes), first]
  obtain ⟨rfl, -⟩ | ⟨-, rfl, -, second⟩ | ⟨-, rfl, -, second, third⟩ := binaryOp?_cases h
  · exact first 0
  · exact further second.1 0
  · have closes : s.bump.bump.is ">" = true := by
      rw [State.is, State.peek, further second.1]
      exact third.1
    exact (State.peekAt_bump (State.not_atEnd_of_is closes) 0).trans (further second.1 1)

/-- The operator is read and no operand is found behind it, or it is too weak and stays in front. -/
theorem State.Blocked.binaryRest {op : BinaryOp} (h : s.Blocked op) (least : Nat)
    (left : Expression)
    (n : Nat) : Ends s (binaryRest least left n) fun _ s' => s'.Cut least := by
  obtain ⟨width, found, value, kind, text⟩ := h
  cases n with
  | zero => exact .tooDeep
  | succ n =>
    rw [Parser.binaryRest]
    refine .get ?_
    rw [found]
    by_cases weak : op.precedence < least
    · rw [Option.filter_some, if_neg (by simpa using weak)]
      exact .pure ⟨op, ⟨width, found, value, kind, text⟩, weak⟩
    · rw [Option.filter_some, if_pos (by simpa using weak)]
      obtain ⟨space, run, -⟩ := leading_run s
      refine .bind (P := fun _ t => t = { s with taken := true })
        (fun a t ran => by rw [run] at ran; cases ran; rfl) ?_
      rintro _ _ rfl
      refine .bind (P := fun _ t => t.Barred) ?_ fun _ s' barred => ?_
      · intro _ t ran
        cases ran
        have front := peek_bumps (s := { s with taken := true }) found
        exact ⟨front ▸ kind, .inl (front ▸ text)⟩
      · extract_lets -underBinder tail
        refine .ite (fun isType => absurd (eq_of_beq isType) value) fun _ => ?_
        exact (barred.binary n _).bind fun _ _ no => no.elim

/-- The mark `n` places ahead is joined to the one before it. -/
def State.joins (s : State) (n : Nat) : Bool := s.isAt n ">" && (s.peekAt n).leading.isEmpty

/-- Trivia matters to an operator only where `>` marks may be joined. -/
theorem binaryOp?_of_greater (kind : s.peek.kind = .punct) (text : s.peek.text = ">") :
    binaryOp? s =
      if s.joins 1 && s.joins 2 then some (.unsignedShiftRight, 3)
      else if s.joins 1 then some (.shiftRight, 2)
      else some (.greaterThan, 1) := by
  unfold binaryOp?
  rw [kind, text]
  rfl

namespace State.Like

variable (like : s.Like t)
include like

/-- Any other mark is the same operator in both runs. -/
theorem binaryOp?_of_other (other : s.peek.kind = .punct → s.peek.text ≠ ">") :
    binaryOp? t = binaryOp? s := by
  unfold Parser.binaryOp?
  rw [like.peekKind, like.peekText]
  split
  · rfl
  · next kind =>
    split
    case h_10 text => exact absurd text (other kind)
    all_goals rfl
  · rfl

/-- A mark that is joined in one run is there in the other one, perhaps apart. -/
theorem closes {n : Nat} (joined : t.joins n = true) :
    (s.peekAt n).kind = .punct ∧ (s.peekAt n).text = ">" := by
  have found : s.isAt n ">" = true := like.isAt n ">" ▸ (Bool.and_eq_true_iff.1 joined).1
  refine ⟨like.kind_of_isAt found (by decide), ?_⟩
  simpa [State.isAt, Token.is] using (Bool.and_eq_true_iff.1 found).2

/-- Of the operators at the front of two states that are alike, the shorter one leads to nothing. -/
theorem binaryOp? : Parser.binaryOp? t = Parser.binaryOp? s ∨ (∃ op, s.Blocked op) ∨
    ∃ op, t.Blocked op := by
  by_cases greater : s.peek.kind = .punct ∧ s.peek.text = ">"
  · obtain ⟨kind, text⟩ := greater
    have here := binaryOp?_of_greater kind text
    have there := binaryOp?_of_greater (like.peekKind.trans kind) (like.peekText.trans text)
    cases one : s.joins 1 <;> cases one' : t.joins 1
    · exact .inl (by simp [here, there, one, one'])
    · exact .inr (.inl ⟨.greaterThan, 1, by simp [here, one], by decide, like.closes one'⟩)
    · exact .inr (.inr ⟨.greaterThan, 1, by simp [there, one'], by decide, like.symm.closes one⟩)
    · cases two : s.joins 2 <;> cases two' : t.joins 2
      · exact .inl (by simp [here, there, one, one', two, two'])
      · exact .inr (.inl ⟨.shiftRight, 2, by simp [here, one, two], by decide, like.closes two'⟩)
      · exact .inr (.inr ⟨.shiftRight, 2, by simp [there, one', two'], by decide,
          like.symm.closes two⟩)
      · exact .inl (by simp [here, there, one, one', two, two'])
  · exact .inl (like.binaryOp?_of_other fun kind text => greater ⟨kind, text⟩)

end State.Like

/-! ## Headings -/

def Heading.bare (h : Heading) : Heading :=
  ⟨.empty, h.annotations.map ( Annotation.bare), h.modifiers.map Modifier.bare⟩

/-- Modifiers are words. -/
theorem twin_modifierList {excuse : Prop} (n : Nat) :
    Twin excuse (Alike (List.map Modifier.bare)) (modifierList n) (modifierList n) := by
  induction n with
  | zero => exact .tooDeep
  | succ n ih =>
    rw [modifierList]
    refine .look fun s t like => ?_
    simp only [like.is, like.isAt, like.peekKind, like.peekText]
    refine .ite .refuse (.ite (.next fun _ _ a b same => .fresh fun _ _ => ?_) (.pure rfl))
    exact ih.bind fun ms ns rest => .pure (by simp [Modifier.bare, Token.text_of_bare same, rest])

/-- Without annotations a heading is read the same in both runs, also where it is refused. -/
theorem twin_heading_plain (like : s.Like t) (plain : s.is "@" = false) (n : Nat) :
    TwinAt False s t (Alike Heading.bare) (heading n) (heading n) := by
  have list (n : Nat) (s t : State) (like : s.Like t) (plain : s.is "@" = false) :
      TwinAt False s t (Alike (List.map ( Annotation.bare))) (annotationList n)
        (annotationList n) := by
    cases n with
    | zero => exact Twin.tooDeep s t like
    | succ n =>
      rw [annotationList]
      refine .ask ?_
      simp only [like.is, plain, Bool.false_and]
      exact .pure ⟨rfl, like⟩
  cases n with
  | zero => exact Twin.tooDeep s t like
  | succ n =>
    rw [heading]
    refine .bind (P := fun _ s' _ t' => s'.Like t' ∧ s'.is "@" = false) ?_ fun _ s' _ t' front => ?_
    · obtain ⟨x, run, -⟩ := leading_run s
      obtain ⟨y, run', -⟩ := leading_run t
      rw [TwinAt, run, run']
      exact ⟨like, plain⟩
    · refine (list n s' t' front.1 front.2).bind fun as s' bs t' both => ?_
      obtain ⟨notes, like⟩ := both
      refine (twin_modifierList n).bind (fun ms ns words => .pure ?_) s' t' like
      simp [Heading.bare, notes, words]

/-- A declaration of one variable is made of parts that look the same. -/
theorem twin_declareOne {h h' : Heading} (head : h.bare = h'.bare) {type type' : Option TypeTree}
    (typed : type.map TypeTree.bare = type'.map TypeTree.bare) {varargs varargs' : Option Space}
    (many : varargs.map Space.bare = varargs'.map Space.bare) {v v' : NamedVariable}
    (own : v.bare = v'.bare) :
    Twin True (Alike VariableDeclarations.bare) (declareOne h type varargs v)
      (declareOne h' type' varargs' v') := by
  simp only [Heading.bare, Heading.mk.injEq, true_and] at head
  exact .fresh fun _ _ => .pure (by
    simp [VariableDeclarations.bare, head, typed, many, own, Padded.tight, Padded.bare])

/-! ## The grammar -/

/-- Two runs of `p` give results that look the same. -/
abbrev Even {α γ : Type} (f : α → γ) (p : Parse α) : Prop := Twin True (Alike f) p p

/-- The operands look the same, or one run has come to an operator that leads to nothing. -/
def Operands (least : Nat) (a : Expression) (s : State) (b : Expression) (t : State) : Prop :=
  Alike Expression.bare a s b t ∨ s.Cut least ∨ t.Cut least

/-- What every nonterminal reads whatever the trivia is, at one bound on the depth. -/
structure Steady (n : Nat) : Prop where
  annotationList : Even (List.map ( Annotation.bare)) (annotationList n)
  heading : Even Heading.bare (heading n)
  annotation : Even ( Annotation.bare) ( annotation n)
  annotationArgument : Even Expression.bare (annotationArgument n)
  elementValue : Even Expression.bare (elementValue n)
  classDeclaration (h h' : Heading) (head : h.bare = h'.bare) :
    Twin True (Alike ClassDeclaration.bare) (classDeclaration h n) (classDeclaration h' n)
  classBody : Even Block.bare (classBody n)
  members : Even (List.map (Padded.bare Statement.bare)) (members n)
  member : Even (Padded.bare Statement.bare) (member n)
  methodDeclaration (h h' : Heading) (head : h.bare = h'.bare) (type type' : Option TypeTree)
    (typed : type.map TypeTree.bare = type'.map TypeTree.bare) :
    Twin True (Alike (Padded.bare Statement.bare)) (methodDeclaration h type n)
      (methodDeclaration h' type' n)
  formalParameter : Even VariableDeclarations.bare (formalParameter n)
  namedVariable (withInitializer : Bool) : Even NamedVariable.bare (namedVariable withInitializer n)
  variableInitializer : Even Expression.bare (variableInitializer n)
  arrayInitializer : Even Expression.bare (arrayInitializer n)
  declarators : Even (List.map (Padded.bare NamedVariable.bare)) (declarators n)
  localVariables : Even VariableDeclarations.bare (localVariables n)
  block : Even Block.bare (block n)
  blockStatements : Even (List.map (Padded.bare Statement.bare)) (blockStatements n)
  blockStatement : Even (Padded.bare Statement.bare) (blockStatement n)
  parenthesized : Even Parenthesized.bare (parenthesized n)
  ifStatement : Even (Padded.bare Statement.bare) (ifStatement n)
  forStatement : Even (Padded.bare Statement.bare) (forStatement n)
  switchStatement : Even (Padded.bare Statement.bare) (switchStatement n)
  switchCases : Even (List.map Case.bare) (switchCases n)
  switchCase : Even Case.bare (switchCase n)
  caseStatements : Even (List.map (Padded.bare Statement.bare)) (caseStatements n)
  resourceList : Even (fun r => (r.1.map (Padded.bare Statement.bare), r.2)) (resourceList n)
  tryResources : Even TryResources.bare (tryResources n)
  tryStatement : Even (Padded.bare Statement.bare) (tryStatement n)
  catchList : Even (List.map Catch.bare) (catchList n)
  expression : Even Expression.bare (expression n)
  lambda : Even Expression.bare (lambda n)
  lambdaParameter : Even VariableDeclarations.bare (lambdaParameter n)
  ternary : Even Expression.bare (ternary n)
  binary (least : Nat) : Twin True (Operands least) (binary least n) (binary least n)
  binaryRest (least : Nat) (left left' : Expression) (same : left.bare = left'.bare) :
    Twin True (Operands least) (binaryRest least left n) (binaryRest least left' n)
  unary : Even Expression.bare (unary n)
  primary : Even Expression.bare (primary n)
  selection (target target' : Expression) (same : target.bare = target'.bare) :
    Twin True (Alike Expression.bare) (selection target n) (selection target' n)
  newExpression : Even Expression.bare (newExpression n)
  dimensionList : Even (List.map ArrayDimension.bare) (dimensionList n)

namespace Steady

variable {n : Nat} (ih : Steady n)
include ih

/-! ### Declarations -/

theorem annotationList_succ :
    Even (List.map ( Annotation.bare)) (Parser.annotationList (n + 1)) := by
  rw [Parser.annotationList]
  refine .ask (fun _ _ like => by rw [like.is, like.isAt]) fun b => .ite ?_ (.pure rfl)
  refine ih.annotation.bind fun a b same => ih.annotationList.bind fun as bs rest => .pure ?_
  simp [same, rest]

theorem heading_succ : Even Heading.bare (Parser.heading (n + 1)) := by
  rw [Parser.heading]
  refine .leading fun _ _ => ih.annotationList.bind fun as bs notes => ?_
  exact (twin_modifierList n).bind fun ms ns words => .pure (by simp [Heading.bare, notes, words])

theorem annotation_succ : Even ( Annotation.bare) ( Parser.annotation (n + 1)) := by
  rw [Parser.annotation]
  refine .expect fun _ _ => (twin_qualifiedName n).bind fun a b named => .is fun _ => ?_
  extract_lets -underBinder tail tail'
  have join (c d : Option (Container Expression))
      (same : c.map (Container.bare Expression.bare) = d.map (Container.bare Expression.bare)) :
      Twin True (Alike ( Annotation.bare)) (tail c) (tail' d) :=
    .fresh fun _ _ => .pure (by simp [ Annotation.bare, named, same])
  refine .ite ?_ (join none none rfl)
  exact (twin_container _ _ ih.annotationArgument n).bind fun c d same =>
    join (some c) (some d) (congrArg some same)

theorem annotationArgument_succ : Even Expression.bare (Parser.annotationArgument (n + 1)) := by
  rw [Parser.annotationArgument]
  refine .ask (fun _ _ like => by rw [like.isNameAt, like.isAt]) fun b => .ite ?_ ih.elementValue
  refine .ident fun i j named => .expect fun _ _ => ih.elementValue.bind fun e e' same => ?_
  exact .fresh fun _ _ => .pure (by simp [Expression.bare, named, same])

theorem elementValue_succ : Even Expression.bare (Parser.elementValue (n + 1)) := by
  rw [Parser.elementValue]
  refine .look fun s t like => ?_
  simp only [like.is]
  refine .ite (.leading fun _ _ => ?_) (.ite .refuse ih.ternary)
  refine (twin_container _ _ ih.elementValue n).bind fun c d same => .fresh fun _ _ => .pure ?_
  simp [Expression.bare, same]

/-- The heading was read before, in both runs. -/
theorem classDeclaration_succ (h h' : Heading) (head : h.bare = h'.bare) :
    Twin True (Alike ClassDeclaration.bare) (Parser.classDeclaration h (n + 1))
      (Parser.classDeclaration h' (n + 1)) := by
  simp only [Heading.bare, Heading.mk.injEq, true_and] at head
  rw [Parser.classDeclaration, Parser.classDeclaration]
  refine .next fun _ _ a b same => ?_
  dsimp -zeta only
  rw [Token.text_of_bare same]
  extract_lets -underBinder tail tail'
  have declared (keyword : ClassKeyword) :
      Twin True (Alike ClassDeclaration.bare) (tail keyword) (tail' keyword) := by
    unfold tail tail'
    refine .ident fun i j named => .is fun _ => ?_
    extract_lets -underBinder tail tail'
    have rest : Twin True (Alike ClassDeclaration.bare) (tail ()) (tail' ()) := by
      unfold tail tail'
      refine .is fun extended => ?_
      extract_lets -underBinder tail tail'
      have derived (c d : Option (LeftPadded TypeTree))
          (super : c.map (LeftPadded.bare TypeTree.bare) = d.map (LeftPadded.bare TypeTree.bare)) :
          Twin True (Alike ClassDeclaration.bare) (tail c) (tail' d) := by
        unfold tail tail'
        refine .is fun _ => ?_
        extract_lets -underBinder tail tail'
        have ended (c d : Option (Container TypeTree))
            (inner : c.map (Container.bare TypeTree.bare) = d.map (Container.bare TypeTree.bare)) :
            Twin True (Alike ClassDeclaration.bare) (tail c) (tail' d) :=
          ih.classBody.bind fun body body' last => .fresh fun _ _ =>
            .pure (by simp [ClassDeclaration.bare, head, named, super, inner, last])
        have listed (keyword : String) :
            Twin True (Alike ClassDeclaration.bare)
              (keywordList keyword (typeTree n) n >>= fun c => tail (some c))
              (keywordList keyword (typeTree n) n >>= fun d => tail' (some d)) :=
          (twin_keywordList keyword (twin_typeTree n) n).bind fun c d inner =>
            ended (some c) (some d) (congrArg some inner)
        exact .ite (listed _) (.ite (listed _) (ended none none rfl))
      refine .ite (.expect fun _ _ => ?_) (derived none none rfl)
      exact (twin_typeTree n).bind fun a b typed => derived _ _ (by simp [LeftPadded.bare, typed])
    exact .ite .refuse_bind rest
  split
  · exact declared .clazz
  · exact declared .interface
  · exact .refuse_bind

theorem classBody_succ : Even Block.bare (Parser.classBody (n + 1)) := by
  rw [Parser.classBody]
  exact .expect fun _ _ => ih.members.bind fun ss ss' same => .expect fun _ _ => .fresh fun _ _ =>
    .pure (by simp [Block.bare, same])

theorem members_succ : Even (List.map (Padded.bare Statement.bare)) (Parser.members (n + 1)) := by
  rw [Parser.members]
  refine .look fun s t like => ?_
  simp -zeta only [like.is, like.atEnd]
  refine .ite (.pure rfl) ?_
  extract_lets -underBinder tail
  have rest : Even (List.map (Padded.bare Statement.bare)) (tail ()) := by
    refine .ite (.expect fun _ _ => .fresh fun _ _ => ?_) (ih.member.bind fun a b same => ?_)
    · exact ih.members.bind fun as bs rest =>
        .pure (by simp [Padded.tight, Padded.bare, Statement.bare, rest])
    · exact ih.members.bind fun as bs rest => .pure (by simp [same, rest])
  exact .ite .refuse_bind rest

/-- What kind of member it is, is told by the words behind the heading, which are the same. -/
theorem member_succ : Even (Padded.bare Statement.bare) (Parser.member (n + 1)) := by
  rw [Parser.member]
  refine ih.heading.bind fun h h' head => .look fun s t like => ?_
  simp -zeta only [like.is, like.isNameAt, like.isAt, funext like.is]
  refine .ite ((ih.classDeclaration h h' head).bind fun c d same => .pure ?_) ?_
  · simp [Padded.tight, Padded.bare, Statement.bare, same]
  · extract_lets -underBinder tail tail'
    have rest : Twin True (Alike (Padded.bare Statement.bare)) (tail ()) (tail' ()) := by
      refine .ite (ih.methodDeclaration h h' head none none rfl) ?_
      refine (twin_typeTree n).bind fun a b typed => ?_
      refine .ask (fun _ _ like => by rw [like.isNameAt, like.isAt]) fun _ => .ite ?_ ?_
      · exact ih.methodDeclaration h h' head _ _ (congrArg some typed)
      · refine ih.declarators.bind fun vs vs' same => .expect fun _ _ => .fresh fun _ _ => .pure ?_
        simp only [Heading.bare, Heading.mk.injEq, true_and] at head
        simp [Padded.bare, Statement.bare, VariableDeclarations.bare, head, typed, same]
    exact .ite .refuse_bind rest

/-- The heading and the type were read before; a constructor has none. -/
theorem methodDeclaration_succ (h h' : Heading) (head : h.bare = h'.bare)
    (type type' : Option TypeTree) (typed : type.map TypeTree.bare = type'.map TypeTree.bare) :
    Twin True (Alike (Padded.bare Statement.bare)) (Parser.methodDeclaration h type (n + 1))
      (Parser.methodDeclaration h' type' (n + 1)) := by
  simp only [Heading.bare, Heading.mk.injEq, true_and] at head
  rw [Parser.methodDeclaration, Parser.methodDeclaration]
  refine .ident fun i j named => (twin_container "(" ")" ih.formalParameter n).bind
    fun ps ps' parameters => .is fun _ => ?_
  extract_lets -underBinder tail tail'
  have thrown (c d : Option (Container TypeTree))
      (throwing : c.map (Container.bare TypeTree.bare) = d.map (Container.bare TypeTree.bare)) :
      Twin True (Alike (Padded.bare Statement.bare)) (tail c) (tail' d) := by
    refine .is fun _ => ?_
    extract_lets -underBinder tail tail'
    have ended (x y : Option Block × Space) (body : x.1.map Block.bare = y.1.map Block.bare) :
        Twin True (Alike (Padded.bare Statement.bare)) (tail x) (tail' y) :=
      .fresh fun _ _ => .pure (by simp [Padded.bare, Statement.bare, MethodDeclaration.bare, head,
        typed, named, parameters, throwing, body])
    exact .ite (ih.block.bind fun b b' own => ended (some b, _) (some b', _) (congrArg some own))
      (.expect fun x y => ended (none, x) (none, y) rfl)
  exact .ite ((twin_keywordList _ (twin_typeTree n) n).bind fun c d inner =>
    thrown (some c) (some d) (congrArg some inner)) (thrown none none rfl)

theorem formalParameter_succ : Even VariableDeclarations.bare (Parser.formalParameter (n + 1)) := by
  rw [Parser.formalParameter]
  refine ih.heading.bind fun h h' head => (twin_typeTree n).bind fun a b typed => .is fun _ => ?_
  extract_lets -underBinder tail tail'
  have join (x y : Option Space) (many : x.map Space.bare = y.map Space.bare) :
      Twin True (Alike VariableDeclarations.bare) (tail x) (tail' y) :=
    have type : (some a).map TypeTree.bare = (some b).map TypeTree.bare := congrArg some typed
    (ih.namedVariable false).bind fun v v' own => twin_declareOne head type many own
  exact .ite (.expect fun x y => join (some x) (some y) rfl) (join none none rfl)

/-- A name and perhaps a value. -/
theorem namedVariable_succ (withInitializer : Bool) :
    Even NamedVariable.bare (Parser.namedVariable withInitializer (n + 1)) := by
  rw [Parser.namedVariable]
  refine .leading fun _ _ => .ident fun i j named => .is fun _ => ?_
  extract_lets -underBinder tail tail'
  have rest : Twin True (Alike NamedVariable.bare) (tail ()) (tail' ()) := by
    refine .is fun _ => ?_
    extract_lets -underBinder tail tail'
    have join (e e' : Option (LeftPadded Expression))
        (same :
          e.map (LeftPadded.bare Expression.bare) = e'.map (LeftPadded.bare Expression.bare)) :
        Twin True (Alike NamedVariable.bare) (tail e) (tail' e') :=
      .fresh fun _ _ => .pure (by simp [NamedVariable.bare, named, same])
    refine .ite (.expect fun _ _ => ?_) (join none none rfl)
    exact ih.variableInitializer.bind fun e e' same => join _ _ (by simp [LeftPadded.bare, same])
  exact .ite .refuse_bind rest

theorem variableInitializer_succ : Even Expression.bare (Parser.variableInitializer (n + 1)) := by
  rw [Parser.variableInitializer]
  exact .is fun _ => .ite ih.arrayInitializer ih.expression

theorem arrayInitializer_succ : Even Expression.bare (Parser.arrayInitializer (n + 1)) := by
  rw [Parser.arrayInitializer]
  refine .leading fun _ _ => (twin_container _ _ ih.variableInitializer n).bind fun c d same => ?_
  exact .fresh fun _ _ => .pure (by simp [Expression.bare, same])

theorem declarators_succ :
    Even (List.map (Padded.bare NamedVariable.bare)) (Parser.declarators (n + 1)) := by
  rw [Parser.declarators]
  exact twin_commaSeparated (ih.namedVariable true) n

theorem localVariables_succ : Even VariableDeclarations.bare (Parser.localVariables (n + 1)) := by
  rw [Parser.localVariables]
  refine ih.heading.bind fun h h' head => (twin_typeTree n).bind fun a b typed => ?_
  refine ih.declarators.bind fun vs vs' same => .fresh fun _ _ => .pure ?_
  simp only [Heading.bare, Heading.mk.injEq, true_and] at head
  simp [VariableDeclarations.bare, head, typed, same]

/-! ### Statements -/

theorem block_succ : Even Block.bare (Parser.block (n + 1)) := by
  rw [Parser.block]
  exact .expect fun _ _ => ih.blockStatements.bind fun ss ss' same => .expect fun _ _ =>
    .fresh fun _ _ => .pure (by simp [Block.bare, same])

theorem blockStatements_succ :
    Even (List.map (Padded.bare Statement.bare)) (Parser.blockStatements (n + 1)) := by
  rw [Parser.blockStatements]
  refine .look fun s t like => ?_
  simp -zeta only [like.is, like.atEnd]
  refine .ite (.pure rfl) ?_
  extract_lets -underBinder tail
  have rest : Even (List.map (Padded.bare Statement.bare)) (tail ()) :=
    ih.blockStatement.bind fun a b same => ih.blockStatements.bind fun as bs rest =>
      .pure (by simp [same, rest])
  exact .ite .refuse_bind rest

/-- Every branch is taken by a word or a look-ahead at types, so both runs take the same one. -/
theorem blockStatement_succ :
    Even (Padded.bare Statement.bare) (Parser.blockStatement (n + 1)) := by
  rw [Parser.blockStatement]
  refine .look fun s t like => ?_
  simp -zeta only [like.is, like.isAt, like.declaresVariable]
  refine .ite (ih.block.bind fun b b' same => .pure ?_) ?_
  · simp [Padded.tight, Padded.bare, Statement.bare, same]
  refine .ite (.expect fun _ _ => .fresh fun _ _ => .pure rfl) ?_
  refine .ite (.expect fun _ _ => .is fun _ => ?_) ?_
  · extract_lets -underBinder tail tail'
    have join (e e' : Option Expression) (same : e.map Expression.bare = e'.map Expression.bare) :
        Twin True (Alike (Padded.bare Statement.bare)) (tail e) (tail' e') :=
      .expect fun _ _ => .fresh fun _ _ => .pure (by simp [Padded.bare, Statement.bare, same])
    exact .ite (join none none rfl) (ih.expression.bind fun e e' same =>
      join (some e) (some e') (congrArg some same))
  refine .ite (.expect fun _ _ => ih.expression.bind fun e e' same => .expect fun _ _ =>
    .fresh fun _ _ => .pure (by simp [Padded.bare, Statement.bare, same])) ?_
  refine .ite ih.ifStatement ?_
  refine .ite (.expect fun _ _ => ih.parenthesized.bind fun c d same => ?_) ?_
  · exact ih.blockStatement.bind fun a b body => .fresh fun _ _ =>
      .pure (by simp [Padded.tight, Padded.bare, Statement.bare, same, Padded.element_of_bare body])
  refine .ite ih.forStatement ?_
  refine .ite ih.tryStatement ?_
  refine .ite (.expect fun _ _ => ih.blockStatement.bind fun a b body => .expect fun _ _ => ?_) ?_
  · exact ih.parenthesized.bind fun c d same => .expect fun _ _ => .fresh fun _ _ =>
      .pure (by simp [Padded.bare, Statement.bare, same, Padded.element_of_bare body])
  refine .ite ih.switchStatement ?_
  refine .ite (.next fun _ _ a b word => .ask (fun _ _ like => like.isNameAt 0) fun _ => ?_) ?_
  · extract_lets -underBinder tail tail'
    have join (i j : Option Identifier) (same : i.map Identifier.bare = j.map Identifier.bare) :
        Twin True (Alike (Padded.bare Statement.bare)) (tail i) (tail' j) := by
      refine .expect fun _ _ => .fresh fun _ _ => .pure ?_
      rw [Token.text_of_bare word]
      split <;> simp [Padded.bare, Statement.bare, same]
    exact .ite (.ident fun i j same => join (some i) (some j) (congrArg some same))
      (join none none rfl)
  refine .ite (ih.heading.bind fun h h' head => ?_) ?_
  · refine (ih.classDeclaration h h' head).bind fun c d same => .pure ?_
    simp [Padded.tight, Padded.bare, Statement.bare, same]
  refine .ite (ih.localVariables.bind fun v v' same => .expect fun _ _ => .pure ?_) ?_
  · simp [Padded.bare, Statement.bare, same]
  exact ih.expression.bind fun e e' same => .expect fun _ _ =>
    .pure (by simp [Padded.bare, Statement.bare, same])

theorem parenthesized_succ : Even Parenthesized.bare (Parser.parenthesized (n + 1)) := by
  rw [Parser.parenthesized]
  exact .expect fun _ _ => ih.expression.bind fun e e' same => .expect fun _ _ =>
    .pure (by simp [Parenthesized.bare, same])

theorem ifStatement_succ : Even (Padded.bare Statement.bare) (Parser.ifStatement (n + 1)) := by
  rw [Parser.ifStatement]
  refine .expect fun _ _ => ih.parenthesized.bind fun c d same =>
    ih.blockStatement.bind fun a b whenTrue => .is fun _ => ?_
  extract_lets -underBinder tail tail'
  have join (e e' : Option Else) (whenFalse : e.map Else.bare = e'.map Else.bare) :
      Twin True (Alike (Padded.bare Statement.bare)) (tail e) (tail' e') :=
    .fresh fun _ _ => .pure (by
      simp [Padded.tight, Padded.bare, Statement.bare, same, Padded.element_of_bare whenTrue,
        whenFalse])
  refine .ite (.expect fun _ _ => ih.blockStatement.bind fun a b body => .fresh fun _ _ => ?_)
    (join none none rfl)
  exact join _ _ (by simp [Else.bare, Padded.element_of_bare body])

/-- The look-ahead that tells the kinds of loop apart reads a whole heading. Where the runs get
different answers an annotation stands in front, and the run that reads no heading fails at it. -/
theorem forStatement_succ : Even (Padded.bare Statement.bare) (Parser.forStatement (n + 1)) := by
  rw [Parser.forStatement]
  refine .expect fun x y => .expect fun x' y' => fun s t like => .get ?_
  extract_lets -underBinder each tail each' tail'
  -- The head of a loop that counts.
  have started (i j : Option Statement) (init : i.map Statement.bare = j.map Statement.bare) :
      Twin True (Alike (Padded.bare Statement.bare)) (tail i) (tail' j) := by
    refine .expect fun _ _ => .is fun _ => ?_
    extract_lets -underBinder tail tail'
    have bounded (c d : Option Expression)
        (condition : c.map Expression.bare = d.map Expression.bare) :
        Twin True (Alike (Padded.bare Statement.bare)) (tail c) (tail' d) := by
      refine .expect fun _ _ => .is fun _ => ?_
      extract_lets -underBinder tail tail'
      have updated (es es' : List (Padded Expression))
          (update : es.map (Padded.bare Expression.bare) = es'.map (Padded.bare Expression.bare)) :
          Twin True (Alike (Padded.bare Statement.bare)) (tail es) (tail' es') :=
        .expect fun _ _ => ih.blockStatement.bind fun a b body => .fresh fun _ _ => .pure (by
          simp [Padded.tight, Padded.bare, Statement.bare, init, condition, update,
            Padded.element_of_bare body])
      exact .ite (updated [] [] rfl) ((twin_commaSeparated ih.expression n).bind updated)
    exact .ite (bounded none none rfl) (ih.expression.bind fun e e' same =>
      bounded (some e) (some e') (congrArg some same))
  -- A loop over a collection begins with a declaration, so it is no other loop.
  have refused {s : State} (barred : s.Barred) (k : Option Statement → Parse (Padded Statement))
      (P : Padded Statement → State → Prop) : Ends s (if s.is ";" then k none
        else if s.is "final" || declaresVariable n s then
          Parser.localVariables n >>= fun v => k (some (.declaration v))
        else Parser.expression n >>= fun e => k (some (.expression e))) P := by
    have undeclared : declaresVariable n s = false := by
      simp [declaresVariable, State.isPrimitive, barred.1, barred.not_name]
    simp only [barred.not_is ";" (by decide), barred.not_is "final" (by decide),
      undeclared, Bool.or_false]
    exact (barred.expression n).bind fun _ _ no => no.elim
  by_cases agree : each' = each
  · rw [agree]
    refine .ite (fun _ => ?_) fun _ => ?_
    · refine Twin.bind ih.heading (fun h h' head => ?_) s t like
      refine (twin_typeTree n).bind fun a b typed => ?_
      have type : (some a).map TypeTree.bare = (some b).map TypeTree.bare := congrArg some typed
      refine (ih.namedVariable false).bind fun v v' own => .expect fun _ _ => ?_
      refine ih.expression.bind fun e e' iterable => .expect fun _ _ => ?_
      refine ih.blockStatement.bind fun a b body => ?_
      have one : (none : Option Space).map Space.bare = Option.map Space.bare none := rfl
      refine (twin_declareOne head type one own).bind fun p p' binder => .fresh fun _ _ => .pure ?_
      simp [Padded.tight, Padded.bare, Statement.bare, binder, iterable,
        Padded.element_of_bare body]
    · simp only [like.is, like.declaresVariable]
      refine Twin.ite (started none none rfl) (.ite ?_ ?_) s t like
      · exact ih.localVariables.bind fun v v' same =>
          started (some (.declaration v)) (some (.declaration v')) (by simp [Statement.bare, same])
      · exact ih.expression.bind fun e e' same =>
          started (some (.expression e)) (some (.expression e')) (by simp [Statement.bare, same])
  · -- Only annotations can be read in one run and refused in the other.
    have noted : s.is "@" = true := by
      cases plain : s.is "@" with
      | true => rfl
      | false =>
        refine absurd (behind?_any (twin_heading_plain like plain n) fun s t like => ?_) agree
        refine behind?_any (twin_typeTree n s t like) fun s t like => ?_
        rw [like.isNameAt, like.isAt]
    have barred : s.Barred := ⟨like.kind_of_isAt noted (by decide), .inr (State.text_of_is noted)⟩
    have barred' : t.Barred := ⟨like.peekKind ▸ barred.1, like.peekText ▸ barred.2⟩
    cases here : each
    · exact .left (refused barred tail _)
    · have there : each' = false := by simpa [here] using agree
      rw [there]
      exact .right (refused barred' tail' _)

theorem switchStatement_succ :
    Even (Padded.bare Statement.bare) (Parser.switchStatement (n + 1)) := by
  rw [Parser.switchStatement]
  refine .expect fun _ _ => ih.parenthesized.bind fun c d same => .expect fun _ _ => ?_
  exact ih.switchCases.bind fun cs ds cases => .expect fun _ _ => .fresh fun _ _ =>
    .pure (by simp [Padded.tight, Padded.bare, Statement.bare, same, cases])

theorem switchCases_succ : Even (List.map Case.bare) (Parser.switchCases (n + 1)) := by
  rw [Parser.switchCases]
  refine .look fun s t like => ?_
  simp -zeta only [like.is, like.atEnd]
  refine .ite (.pure rfl) ?_
  extract_lets -underBinder tail
  have rest : Even (List.map Case.bare) (tail ()) :=
    ih.switchCase.bind fun a b same => ih.switchCases.bind fun as bs rest =>
      .pure (by simp [same, rest])
  exact .ite .refuse_bind rest

/-- A case with labels or without, with a colon or an arrow. -/
theorem switchCase_succ : Even Case.bare (Parser.switchCase (n + 1)) := by
  rw [Parser.switchCase]
  refine .look fun s t like => ?_
  simp -zeta only [like.is]
  extract_lets -underBinder tail
  have join (x y : Space × List (Padded Expression))
      (same : x.2.map (Padded.bare Expression.bare) = y.2.map (Padded.bare Expression.bare)) :
      Twin True (Alike Case.bare) (tail x) (tail y) := by
    refine .is fun _ => .ite (.expect fun _ _ => ?_) (.expect fun _ _ => ?_)
    · exact ih.blockStatement.bind fun a b body => .fresh fun _ _ =>
        .pure (by simp [Case.bare, CaseBody.bare, same, Padded.element_of_bare body])
    · exact ih.caseStatements.bind fun as bs body => .fresh fun _ _ =>
        .pure (by simp [Case.bare, CaseBody.bare, same, body])
  refine .ite (.expect fun x y => join (x, []) (y, []) rfl) (.ite (.expect fun x y => ?_) ?_)
  · exact (twin_commaSeparated ih.ternary n).bind fun es es' same => join (x, es) (y, es') same
  · exact .refuse_bind

theorem caseStatements_succ :
    Even (List.map (Padded.bare Statement.bare)) (Parser.caseStatements (n + 1)) := by
  rw [Parser.caseStatements]
  refine .look fun s t like => ?_
  simp -zeta only [like.is, like.atEnd]
  refine .ite (.pure rfl) ?_
  extract_lets -underBinder tail
  have rest : Even (List.map (Padded.bare Statement.bare)) (tail ()) :=
    ih.blockStatement.bind fun a b same => ih.caseStatements.bind fun as bs rest =>
      .pure (by simp [same, rest])
  exact .ite .refuse_bind rest

theorem resourceList_succ : Even (fun r => (r.1.map (Padded.bare Statement.bare), r.2))
    (Parser.resourceList (n + 1)) := by
  rw [Parser.resourceList]
  refine .look fun s t like => ?_
  simp -zeta only [like.is, like.declaresVariable]
  refine .ite (.pure rfl) ?_
  extract_lets -underBinder tail
  have join (r r' : Statement) (same : r.bare = r'.bare) :
      Twin True (Alike fun r => (r.1.map (Padded.bare Statement.bare), r.2)) (tail r)
        (tail r') := by
    refine .is fun _ => .ite (.expect fun _ _ => ?_) (.pure ?_)
    · refine ih.resourceList.bind fun rs rs' rest => .pure ?_
      rw [Prod.mk.injEq] at rest
      simp [Padded.bare, same, rest]
    · simp [Padded.tight, Padded.bare, same]
  exact .ite (ih.localVariables.bind fun v v' same => join _ _ (by simp [Statement.bare, same]))
    (ih.expression.bind fun e e' same => join _ _ (by simp [Statement.bare, same]))

theorem tryResources_succ : Even TryResources.bare (Parser.tryResources (n + 1)) := by
  rw [Parser.tryResources]
  refine .expect fun _ _ => ih.resourceList.bind fun found found' same => ?_
  obtain ⟨rs, ends⟩ := found
  obtain ⟨rs', ends'⟩ := found'
  obtain ⟨inner, rfl⟩ := Prod.mk.inj same
  dsimp -zeta only
  rw [isEmpty_of_map inner]
  extract_lets -underBinder tail tail'
  have rest : Twin True (Alike TryResources.bare) (tail ()) (tail' ()) :=
    .expect fun _ _ => .pure (by simp [TryResources.bare, inner])
  exact .ite .refuse_bind rest

theorem tryStatement_succ : Even (Padded.bare Statement.bare) (Parser.tryStatement (n + 1)) := by
  rw [Parser.tryStatement]
  refine .expect fun _ _ => .is fun _ => ?_
  extract_lets -underBinder tail tail'
  have opened (r r' : Option TryResources)
    (inner : r.map TryResources.bare = r'.map TryResources.bare) :
      Twin True (Alike (Padded.bare Statement.bare)) (tail r) (tail' r') := by
    refine ih.block.bind fun b b' body => ih.catchList.bind fun cs cs' catches => .is fun _ => ?_
    extract_lets -underBinder tail tail'
    have closed (f f' : Option (LeftPadded Block))
        (final : f.map (LeftPadded.bare Block.bare) = f'.map (LeftPadded.bare Block.bare)) :
        Twin True (Alike (Padded.bare Statement.bare)) (tail f) (tail' f') := by
      unfold tail tail'
      simp -zeta only [isNone_of_map inner, isEmpty_of_map catches, isNone_of_map final]
      extract_lets -underBinder tail tail'
      have rest : Twin True (Alike (Padded.bare Statement.bare)) (tail ()) (tail' ()) :=
        .fresh fun _ _ => .pure (by
          simp [Padded.tight, Padded.bare, Statement.bare, inner, body, catches, final])
      exact .ite .refuse_bind rest
    refine .ite (.expect fun _ _ => ih.block.bind fun b b' same => ?_) (closed none none rfl)
    exact closed _ _ (by simp [LeftPadded.bare, same])
  exact .ite (ih.tryResources.bind fun r r' inner =>
    opened (some r) (some r') (congrArg some inner))
    (opened none none rfl)

theorem catchList_succ : Even (List.map Catch.bare) (Parser.catchList (n + 1)) := by
  rw [Parser.catchList]
  refine .is fun _ => .ite (.expect fun _ _ => .expect fun _ _ => ?_) (.pure rfl)
  refine ih.heading.bind fun h h' head => (twin_typeTree n).bind fun a b typed => .is fun _ => ?_
  have type : (some a).map TypeTree.bare = (some b).map TypeTree.bare := congrArg some typed
  extract_lets -underBinder tail tail'
  have rest : Twin True (Alike (List.map Catch.bare)) (tail ()) (tail' ()) := by
    refine (ih.namedVariable false).bind fun v v' own => .expect fun _ _ => ?_
    refine ih.block.bind fun body body' inner => ?_
    have one : (none : Option Space).map Space.bare = Option.map Space.bare none := rfl
    refine (twin_declareOne head type one own).bind fun p p' parameter => .fresh fun _ _ => ?_
    refine ih.catchList.bind fun cs cs' rest => .pure ?_
    simp [Catch.bare, parameter, inner, rest]
  exact .ite .refuse_bind rest

/-! ### Expressions -/

theorem expression_succ : Even Expression.bare (Parser.expression (n + 1)) := by
  rw [Parser.expression]
  refine .ask (fun _ _ like => like.startsLambda) fun _ => .ite ih.lambda ?_
  refine ih.ternary.bind fun left left' target => .look fun s t like => ?_
  simp only [like.peekKind, like.peekText]
  cases (if s.peek.kind == .punct then AssignOp.ofSpelling? s.peek.text else none) with
  | none => exact .pure target
  | some op =>
    refine .next fun _ _ _ _ _ => ih.expression.bind fun e e' value => .fresh fun _ _ => .pure ?_
    simp [Expression.bare, hoist, target, value]

/-- Parameters in parentheses or a bare one, and a body that is a block or an expression. -/
theorem lambda_succ : Even Expression.bare (Parser.lambda (n + 1)) := by
  rw [Parser.lambda]
  refine .leading fun _ _ => .is fun _ => ?_
  extract_lets -underBinder tail tail'
  have join (c d : Container VariableDeclarations)
      (parameters : c.bare VariableDeclarations.bare = d.bare VariableDeclarations.bare) :
      Twin True (Alike Expression.bare) (tail c) (tail' d) := by
    refine .expect fun _ _ => .is fun _ => ?_
    extract_lets -underBinder tail tail'
    have join (b b' : LambdaBody) (body : b.bare = b'.bare) :
        Twin True (Alike Expression.bare) (tail b) (tail' b') :=
      .fresh fun _ _ => .pure (by simp [Expression.bare, parameters, body])
    exact .ite (ih.block.bind fun b b' same => join _ _ (by simp [LambdaBody.bare, same]))
      (ih.expression.bind fun e e' same => join _ _ (by simp [LambdaBody.bare, same]))
  refine .ite ((twin_container "(" ")" ih.lambdaParameter n).bind join) ?_
  refine ih.lambdaParameter.bind fun v v' same => join _ _ ?_
  simp [Container.bare, Padded.tight, Padded.bare, same]

theorem lambdaParameter_succ : Even VariableDeclarations.bare (Parser.lambdaParameter (n + 1)) := by
  rw [Parser.lambdaParameter]
  refine .ask (fun _ _ like => by rw [like.isNameAt, funext (like.isAt 1)]) fun _ =>
    .ite (.leading fun x y => ?_) ih.formalParameter
  refine (ih.namedVariable false).bind fun v v' own => ?_
  have head : Heading.bare ⟨x, [], []⟩ = Heading.bare ⟨y, [], []⟩ := rfl
  have untyped : (none : Option TypeTree).map TypeTree.bare = Option.map TypeTree.bare none := rfl
  have one : (none : Option Space).map Space.bare = Option.map Space.bare none := rfl
  exact twin_declareOne head untyped one own

theorem ternary_succ : Even Expression.bare (Parser.ternary (n + 1)) := by
  rw [Parser.ternary]
  -- No operator is too weak for the loosest operand.
  have operand : Even Expression.bare (Parser.binary 1 n) := fun s t like =>
    (ih.binary 1 s t like).imp fun a s b t same => by
      obtain same | ⟨op, -, weak⟩ | ⟨op, -, weak⟩ := same
      · exact same
      · cases op <;> simp [BinaryOp.precedence] at weak
      · cases op <;> simp [BinaryOp.precedence] at weak
  refine operand.bind fun c c' condition => .is fun _ =>
    .ite (.expect fun _ _ => ?_) (.pure condition)
  refine ih.expression.bind fun e e' whenTrue => .expect fun _ _ => ?_
  refine .ask (fun _ _ like => like.startsLambda) fun _ => ?_
  extract_lets -underBinder tail tail'
  have join (e e' : Expression) (whenFalse : e.bare = e'.bare) :
      Twin True (Alike Expression.bare) (tail e) (tail' e') :=
    .fresh fun _ _ => .pure (by simp [Expression.bare, condition, whenTrue, whenFalse])
  exact .ite (ih.lambda.bind join) (ih.ternary.bind join)

/-- A run may end in front of an operator that leads to nothing, so the operands need not look the
same. -/
theorem binary_succ (least : Nat) : Twin True (Operands least) (Parser.binary least (n + 1))
    (Parser.binary least (n + 1)) := by
  rw [Parser.binary]
  exact ih.unary.bind fun a b same => ih.binaryRest least a b same

/-- Both runs see the same operator, or the shorter one is blocked. -/
theorem binaryRest_succ (least : Nat) (left left' : Expression) (same : left.bare = left'.bare) :
    Twin True (Operands least) (Parser.binaryRest least left (n + 1))
      (Parser.binaryRest least left' (n + 1)) := by
  intro s t like
  obtain agree | ⟨op, blocked⟩ | ⟨op, blocked⟩ := like.binaryOp?
  · rw [Parser.binaryRest, Parser.binaryRest]
    refine .get ?_
    rw [agree]
    cases (binaryOp? s).filter fun found => decide (least ≤ found.1.precedence) with
    | none => exact .pure (.inl ⟨same, like⟩)
    | some found =>
      obtain ⟨op, width⟩ := found
      refine Twin.leading (fun _ _ => .skip width ?_) s t like
      extract_lets -underBinder tail tail'
      have join (r r' : Expression) (right : r.bare = r'.bare) :
          Twin True (Operands least) (tail r) (tail' r') :=
        .fresh fun _ _ => ih.binaryRest least _ _ (by simp [Expression.bare, same, right])
      refine .ite ((twin_typeTree n).bind fun a b typed => ?_) fun s t like => ?_
      · cases a with
        | named e =>
          cases b with
          | named e' => exact join e e' (TypeTree.named.inj typed)
          | primitive | parameterized | array | wildcard => cases typed
        | primitive | parameterized | array | wildcard =>
          cases b with
          | named => cases typed
          | primitive | parameterized | array | wildcard => exact .refuse_bind
      · refine (ih.binary _ s t like).bind fun r s r' t own => ?_
        -- An operator that the operand was cut at is behind the new expression, too.
        obtain ⟨right, like⟩ | ⟨op, blocked, -⟩ | ⟨op, blocked, -⟩ := own
        · exact join r r' right s t like
        · refine .left (.fresh ?_)
          have stops := State.Blocked.binaryRest (s := { s with nextId := s.nextId + 1 }) blocked
            least
          exact (stops _ n).imp fun _ _ cut _ _ => Or.inr (.inl cut)
        · refine .right (.fresh ?_)
          have stops := State.Blocked.binaryRest (s := { t with nextId := t.nextId + 1 }) blocked
            least
          exact (stops _ n).imp fun _ _ cut _ _ => Or.inr (.inr cut)
  · exact .left ((blocked.binaryRest least left _).imp fun _ _ cut _ _ => .inr (.inl cut))
  · exact .right ((blocked.binaryRest least left' _).imp fun _ _ cut _ _ => .inr (.inr cut))

theorem unary_succ : Even Expression.bare (Parser.unary (n + 1)) := by
  rw [Parser.unary]
  refine .look fun s t like => ?_
  simp only [like.unaryOp?, like.is, like.isCast]
  cases unaryOp? s with
  | some op =>
    refine .next fun _ _ _ _ _ => ih.unary.bind fun a b same => .fresh fun _ _ => .pure ?_
    simp [Expression.bare, same]
  | none =>
    refine .ite (.expect fun _ _ => (twin_typeTree n).bind fun a b typed => ?_) ?_
    · refine .expect fun _ _ => ih.unary.bind fun a b same => .fresh fun _ _ => .pure ?_
      simp [Expression.bare, typed, same]
    · exact ih.primary.bind fun a b same => ih.selection a b same

theorem primary_succ : Even Expression.bare (Parser.primary (n + 1)) := by
  rw [Parser.primary]
  refine .look fun s t like => ?_
  simp -zeta only [like.peekKind, like.peekText]
  extract_lets -underBinder text
  split
  case h_8 =>
    refine .ite (.expect fun _ _ => ?_) (.ite ih.arrayInitializer .refuse)
    refine ih.expression.bind fun a b same => .expect fun _ _ => .fresh fun _ _ => .pure ?_
    simp [Expression.bare, same]
  case h_9 => exact .refuse
  case h_7 =>
    refine .ite twin_literal (.ite (.word fun i j named => .is fun _ => ?_) ?_)
    · extract_lets -underBinder tail tail'
      have rest : Twin True (Alike Expression.bare) (tail ()) (tail' ()) :=
        .pure (by simp [Expression.bare, named])
      exact .ite .refuse_bind rest
    · refine .ite ih.newExpression (.ite .refuse (.ident fun i j named => .is fun _ => .ite ?_ ?_))
      · refine (twin_container "(" ")" ih.expression n).bind fun c d arguments => ?_
        refine .fresh fun _ _ => .pure ?_
        have plain (i : Identifier) : Identifier.bare { i with leading := .empty } = i.bare := rfl
        simp [Expression.bare, MethodInvocation.bare, plain, named, arguments]
      · exact .pure (by simp [Expression.bare, named])
  all_goals exact twin_literal

/-- The target was read before, in both runs. -/
theorem selection_succ (target target' : Expression) (same : target.bare = target'.bare) :
    Twin True (Alike Expression.bare) (Parser.selection target (n + 1))
      (Parser.selection target' (n + 1)) := by
  rw [Parser.selection, Parser.selection]
  refine .look fun s t like => ?_
  simp -zeta only [like.is, like.isAt]
  refine .ite ?_ (.ite (.expect fun _ _ => ?_) (.ite (.expect fun _ _ => .word fun i j named => ?_)
    (.ite (.next fun _ _ a b word => .fresh fun _ _ => ?_) (.pure same))))
  · extract_lets -underBinder tail tail'
    have rest : Twin True (Alike Expression.bare) (tail ()) (tail' ()) := by
      refine .expect fun _ _ => .word fun i j named => ?_
      have name : i.name = j.name := congrArg (·.name) named
      rw [name]
      extract_lets -underBinder isPseudoField tail tail'
      have rest : Twin True (Alike Expression.bare) (tail ()) (tail' ()) := by
        refine .is fun _ => .ite ?_ (.fresh fun _ _ => ih.selection _ _ ?_)
        · refine (twin_container "(" ")" ih.expression n).bind fun c d arguments => ?_
          refine .fresh fun _ _ => ih.selection _ _ ?_
          simp [Expression.bare, MethodInvocation.bare, Padded.bare, hoist, same, named, arguments]
        · simp [Expression.bare, FieldAccess.bare, hoist, same, named]
      exact .ite .refuse_bind rest
    exact .ite .refuse_bind rest
  · refine ih.expression.bind fun e e' index => .expect fun _ _ => .fresh fun _ _ => ?_
    exact ih.selection _ _ (by simp [Expression.bare, ArrayDimension.bare, hoist, same, index])
  · exact .fresh fun _ _ => ih.selection _ _ (by simp [Expression.bare, hoist, same, named])
  · exact ih.selection _ _ (by simp [Expression.bare, hoist, same, Token.text_of_bare word])

theorem newExpression_succ : Even Expression.bare (Parser.newExpression (n + 1)) := by
  rw [Parser.newExpression]
  refine .expect fun _ _ => (twin_typeBase n).bind fun a b typed => .is fun _ => .ite ?_ ?_
  · refine ih.dimensionList.bind fun ds ds' dimensions => .is fun _ => ?_
    extract_lets -underBinder tail tail'
    have join (c d : Option (Container Expression))
        (initializer : c.map (Container.bare Expression.bare) = d.map
          (Container.bare Expression.bare)) :
        Twin True (Alike Expression.bare) (tail c) (tail' d) :=
      .fresh fun _ _ => .pure (by simp [Expression.bare, typed, dimensions, initializer])
    refine .ite ?_ (join none none rfl)
    exact (twin_container _ _ ih.variableInitializer n).bind fun c d same =>
      join (some c) (some d) (congrArg some same)
  · refine (twin_container "(" ")" ih.expression n).bind fun c d arguments => .is fun _ => ?_
    extract_lets -underBinder tail tail'
    have join (b b' : Option Block) (body : b.map Block.bare = b'.map Block.bare) :
        Twin True (Alike Expression.bare) (tail b) (tail' b') :=
      .fresh fun _ _ => .pure (by simp [Expression.bare, typed, arguments, body])
    exact .ite (ih.classBody.bind fun b b' same => join (some b) (some b') (congrArg some same))
      (join none none rfl)

theorem dimensionList_succ :
    Even (List.map ArrayDimension.bare) (Parser.dimensionList (n + 1)) := by
  rw [Parser.dimensionList]
  refine .is fun _ => .ite (.expect fun _ _ => .is fun _ => ?_) (.pure rfl)
  extract_lets -underBinder tail tail'
  have join (e e' : Option Expression) (index : e.map Expression.bare = e'.map Expression.bare) :
      Twin True (Alike (List.map ArrayDimension.bare)) (tail e) (tail' e') :=
    .expect fun _ _ => ih.dimensionList.bind fun ds ds' rest =>
      .pure (by simp [ArrayDimension.bare, index, rest])
  exact .ite (join none none rfl) (ih.expression.bind fun e e' same =>
    join (some e) (some e') (congrArg some same))

end Steady

/-- The facts hold at every bound on the depth. -/
theorem steady (n : Nat) : Steady n := by
  induction n with
  | zero => constructor <;> intros <;> exact .tooDeep
  | succ n ih => exact {
    annotationList := ih.annotationList_succ
    heading := ih.heading_succ
    annotation := ih.annotation_succ
    annotationArgument := ih.annotationArgument_succ
    elementValue := ih.elementValue_succ
    classDeclaration := ih.classDeclaration_succ
    classBody := ih.classBody_succ
    members := ih.members_succ
    member := ih.member_succ
    methodDeclaration := ih.methodDeclaration_succ
    formalParameter := ih.formalParameter_succ
    namedVariable := ih.namedVariable_succ
    variableInitializer := ih.variableInitializer_succ
    arrayInitializer := ih.arrayInitializer_succ
    declarators := ih.declarators_succ
    localVariables := ih.localVariables_succ
    block := ih.block_succ
    blockStatements := ih.blockStatements_succ
    blockStatement := ih.blockStatement_succ
    parenthesized := ih.parenthesized_succ
    ifStatement := ih.ifStatement_succ
    forStatement := ih.forStatement_succ
    switchStatement := ih.switchStatement_succ
    switchCases := ih.switchCases_succ
    switchCase := ih.switchCase_succ
    caseStatements := ih.caseStatements_succ
    resourceList := ih.resourceList_succ
    tryResources := ih.tryResources_succ
    tryStatement := ih.tryStatement_succ
    catchList := ih.catchList_succ
    expression := ih.expression_succ
    lambda := ih.lambda_succ
    lambdaParameter := ih.lambdaParameter_succ
    ternary := ih.ternary_succ
    binary := ih.binary_succ
    binaryRest := ih.binaryRest_succ
    unary := ih.unary_succ
    primary := ih.primary_succ
    selection := ih.selection_succ
    newExpression := ih.newExpression_succ
    dimensionList := ih.dimensionList_succ }

/-! ## Units -/

theorem twin_importRest (n : Nat) (e e' : Expression) (same : e.bare = e'.bare) :
    Twin True (Alike Expression.bare) (importRest e n) (importRest e' n) := by
  induction n generalizing e e' with
  | zero => exact .tooDeep
  | succ n ih =>
    rw [importRest, importRest]
    refine .is fun _ => .ite (.expect fun _ _ => .is fun _ => ?_) (.pure same)
    extract_lets -underBinder tail tail'
    have join (i j : Identifier) (named : i.bare = j.bare) :
        Twin True (Alike Expression.bare) (tail i) (tail' j) :=
      .fresh fun _ _ => ih _ _ (by simp [Expression.bare, FieldAccess.bare, same, named])
    exact .ite (.next fun _ _ _ _ _ => .fresh fun _ _ => join _ _ rfl) (.ident join)

/-- The last part of the name is split off again. -/
theorem twin_importName (n : Nat) : Even FieldAccess.bare (importName n) := by
  unfold importName
  refine .ident fun i j named => ?_
  refine (twin_importRest n _ _ (by simp [Expression.bare, named])).bind fun a b same => ?_
  cases a with
  | fieldAccess m =>
    cases b with
    | fieldAccess m' => exact .pure (Expression.fieldAccess.inj same)
    | _ => cases same
  | _ =>
    cases b with
    | fieldAccess => cases same
    | _ => exact .refuse

theorem twin_packageDeclaration (n : Nat) :
    Even (Option.map (Padded.bare Package.bare)) (packageDeclaration n) := by
  unfold packageDeclaration
  refine .is fun _ => .ite (.expect fun _ _ => ?_) (.pure rfl)
  refine (twin_qualifiedName n).bind fun a b same => .expect fun _ _ => .fresh fun _ _ => .pure ?_
  simp [Padded.bare, Package.bare, same]

theorem twin_importList (n : Nat) : Even (List.map (Padded.bare Import.bare)) (importList n) := by
  induction n with
  | zero => exact .tooDeep
  | succ n ih =>
    rw [importList]
    refine .is fun _ => .ite (.expect fun _ _ => .is fun _ => ?_) (.pure rfl)
    extract_lets -underBinder tail tail'
    have join (x y : Option Space) (still : x.map Space.bare = y.map Space.bare) :
        Twin True (Alike (List.map (Padded.bare Import.bare))) (tail x) (tail' y) := by
      refine (twin_importName n).bind fun a b named => .expect fun _ _ => .fresh fun _ _ => ?_
      exact ih.bind fun is js rest => .pure (by simp [Padded.bare, Import.bare, still, named, rest])
    exact .ite (.expect fun x y => join (some x) (some y) rfl) (join none none rfl)

theorem twin_classList (n : Nat) : Even (List.map ClassDeclaration.bare) (classList n) := by
  induction n with
  | zero => exact .tooDeep
  | succ n ih =>
    rw [classList]
    refine .ask (fun _ _ like => like.atEnd) fun _ => .ite (.pure rfl) ?_
    refine (steady n).heading.bind fun h h' head => ?_
    refine .ask (fun _ _ like => by rw [like.is, like.is]) fun _ => .ite ?_ .refuse
    refine ((steady n).classDeclaration h h' head).bind fun c d same => ih.bind fun cs ds rest => ?_
    exact .pure (by simp [same, rest])

/-- A unit is read to its end, so what is left is the trivia there. -/
theorem twin_unit (path : String) (n : Nat) : Even CompilationUnit.bare (unit path n) := by
  unfold unit
  refine (twin_packageDeclaration n).bind fun p q package => (twin_importList n).bind
    fun is js imports => (twin_classList n).bind fun cs ds classes => .fresh fun _ _ => ?_
  exact .look fun s t like => .pure (by simp [CompilationUnit.bare, package, imports, classes])

end Retouch.Parser

namespace Retouch

/-- Sources that differ only in trivia are read as the same unit. -/
theorem bare_parseUnit {path source source' : String} {ts ts' : List Token} {id id' n n' : NodeId}
    {u u' : CompilationUnit} (h : tokenize source = .ok ts) (h' : tokenize source' = .ok ts')
    (same : ts.map Token.bare = ts'.map Token.bare) (parsed : parseUnit path source id = .ok (u, n))
    (parsed' : parseUnit path source' id' = .ok (u', n')) : u.bare = u'.bare := by
  obtain ⟨_, s, lexed, run⟩ := exists_unit parsed
  obtain ⟨_, s', lexed', run'⟩ := exists_unit parsed'
  cases h.symm.trans lexed
  cases h'.symm.trans lexed'
  have length : ts'.length = ts.length := by simpa using (congrArg List.length same).symm
  rw [length] at run'
  have both := Parser.twin_unit path (Parser.rankBound * (ts.length + 1)) ⟨ts, false, id⟩
    ⟨ts', false, id'⟩ ⟨same, isWord_tokenize h⟩
  rw [Parser.TwinAt, run, run'] at both
  exact both.1

end Retouch
