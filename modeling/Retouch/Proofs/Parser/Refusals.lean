import Retouch.Parser.Grammar
import Retouch.Proofs.Parser.Lookahead
import Retouch.Proofs.Parser.Reading

/-!
# Where the parser refuses

`Stays tokens p`: from a place of the list, `p` leaves another one, or it refuses at one of the
tokens. The rules follow the code. The nonterminals recurse on one bound, so the facts at a bound
are one structure (`Staying`).
-/

namespace Retouch.Parser

/-- The tokens that are left are those from some place on, of a list whose last one is the end of
the source. -/
def State.Within (tokens : List Token) (s : State) : Prop := HasEnd tokens ∧ ∃ pos, s.At tokens pos

variable {α β : Type} {tokens : List Token} {p : Parse α} {q : α → Parse β} {s : State}

/-- The token at hand is one of the list. -/
theorem State.Within.peek_mem (h : s.Within tokens) : s.peek ∈ tokens := by
  obtain ⟨-, pos, place⟩ := h
  have inside : pos + 0 < tokens.length := place.inside
  rw [State.peek, Indexed.peekAt_inside place inside]
  exact List.getElem_mem inside

/-- Only the tokens that are left count. -/
theorem State.Within.of_tokens {s' : State} (h : s.Within tokens) (same : s'.tokens = s.tokens) :
    s'.Within tokens := by
  obtain ⟨ended, pos, place⟩ := h
  exact ⟨ended, pos, place.inside, same.trans place.left⟩

/-- To pass a token does not leave the list. -/
theorem State.Within.bump (h : s.Within tokens) : s.bump.Within tokens := by
  obtain ⟨ended, pos, place⟩ := h
  exact ⟨ended, place.bump ended⟩

/-- From the tokens of the list, `p` leaves some of them or refuses at one of them. -/
def Stays (tokens : List Token) (p : Parse α) : Prop := ∀ s : State, s.Within tokens →
  match p s with
  | .ok (_, s') => s'.Within tokens
  | .error e => ∃ t ∈ tokens, e.offset = t.offset

namespace Stays

theorem pure (a : α) : Stays tokens (pure a) := fun _ within => within

/-- A refusal of `q` names a token of the list as well, since `p` has not left it. -/
theorem bind (hp : Stays tokens p) (hq : ∀ a, Stays tokens (q a)) : Stays tokens (p >>= q) := by
  intro s within
  have first := hp s within
  change match (p s >>= fun x => q x.1 x.2) with
    | .ok (_, s') => s'.Within tokens
    | .error e => ∃ t ∈ tokens, e.offset = t.offset
  cases run : p s with
  | error e =>
    rw [run] at first
    exact first
  | ok x =>
    rw [run] at first
    exact hq x.1 x.2 first

theorem ite {c : Prop} [Decidable c] {p p' : Parse α} (hp : Stays tokens p)
    (hp' : Stays tokens p') :
    Stays tokens (if c then p else p') := by
  split
  · exact hp
  · exact hp'

/-- Branches that meet again in `tail`. -/
theorem meet {γ : Type} {body : Parse β} (tail : γ → Parse β) (ht : ∀ y, Stays tokens (tail y))
    (hb : (∀ y, Stays tokens (tail y)) → Stays tokens body) : Stays tokens body :=
  hb ht

theorem look {k : State → Parse β} (h : ∀ s, Stays tokens (k s)) :
    Stays tokens (MonadState.get >>= k) :=
  fun s => h s s

/-- A question about the state refuses nothing. -/
theorem ask {question : State → Bool} {k : Bool → Parse β} (h : ∀ b, Stays tokens (k b)) :
    Stays tokens (Parser.ask question >>= k) :=
  fun s => h (question s) s

theorem is {word : String} {k : Bool → Parse β} (h : ∀ b, Stays tokens (k b)) :
    Stays tokens (Parser.is word >>= k) :=
  ask h

theorem fresh {k : NodeId → Parse β} (h : ∀ id, Stays tokens (k id)) :
    Stays tokens (Parser.fresh >>= k) :=
  fun s within => h s.nextId { s with nextId := s.nextId + 1 } (within.of_tokens rfl)

/-- A refusal names the token at hand. -/
theorem refuse {need : Need} : Stays tokens (Parser.refuse need : Parse α) :=
  fun _ within => ⟨_, within.peek_mem, rfl⟩

theorem refuse_bind {need : Need} : Stays tokens (Parser.refuse need >>= q) :=
  fun _ within => ⟨_, within.peek_mem, rfl⟩

/-- Nesting that is too deep is reported at the token at hand. -/
theorem tooDeep : Stays tokens (Parser.tooDeep : Parse α) := fun _ within =>
    ⟨_, within.peek_mem, rfl⟩

end Stays

/-! ## Tokens -/

/-- Trivia and a token are always given: behind the end the last token is given again. -/
theorem exists_next (s : State) :
    ∃ space : Space, next s = .ok ((space, s.peek), { s with taken := true }.bump) := by
  obtain ⟨space, run, -⟩ := leading_run s
  refine ⟨space, ?_⟩
  change (leading s >>= fun x => Except.ok ((x.1, x.2.peek), x.2.bump)) = _
  rw [run]
  rfl

namespace Stays

theorem leading {k : Space → Parse β} (h : ∀ space, Stays tokens (k space)) :
    Stays tokens (Parser.leading >>= k) := by
  refine .bind (fun s within => ?_) h
  obtain ⟨space, run, -⟩ := leading_run s
  rw [run]
  exact within.of_tokens rfl

theorem bump {k : Token → Parse β} (h : ∀ t, Stays tokens (k t)) :
    Stays tokens (Parser.bump >>= k) :=
  .bind (fun _ within => within.bump) h

/-- The token that is taken is one of the list. -/
theorem next_mem {k : Space × Token → Parse β}
    (h : ∀ space, ∀ t ∈ tokens, Stays tokens (k (space, t))) :
    Stays tokens (Parser.next >>= k) := by
  intro s within
  obtain ⟨space, run⟩ := exists_next s
  change match (Parser.next s >>= fun x => k x.1 x.2) with
    | .ok (_, s') => s'.Within tokens
    | .error e => ∃ t ∈ tokens, e.offset = t.offset
  rw [run]
  exact h space s.peek within.peek_mem _ (State.Within.bump (within.of_tokens rfl))

theorem next {k : Space × Token → Parse β} (h : ∀ y, Stays tokens (k y)) :
    Stays tokens (Parser.next >>= k) :=
  .next_mem fun space t _ => h (space, t)

/-- The marks of an operator are taken. -/
theorem bumps {n : Nat} {k : PUnit → Parse β} (h : ∀ u, Stays tokens (k u)) :
    Stays tokens ((modify fun s => Nat.repeat State.bump n s) >>= k) := by
  refine .bind (fun s within => ?_) h
  change State.Within tokens (Nat.repeat State.bump n s)
  induction n with
  | zero => exact within
  | succ n ih => exact ih.bump

/-- The word that is missing is reported at the token at hand. -/
theorem expect {word : String} {k : Space → Parse β} (h : ∀ space, Stays tokens (k space)) :
    Stays tokens (Parser.expect word >>= k) := by
  refine .bind ?_ h
  unfold Parser.expect
  exact .is fun b => .ite (.next fun _ => .pure _) .refuse

end Stays

theorem stays_ident : Stays tokens ident := by
  unfold ident
  exact .ask fun b => .ite (.next fun _ => .fresh fun _ => .pure _) .refuse

theorem stays_word : Stays tokens word := by
  unfold word
  exact .ask fun b => .ite (.next fun _ => .fresh fun _ => .pure _) .refuse

/-- A literal without a value is refused at its token, which is taken by then. -/
theorem stays_literal : Stays tokens literal := by
  unfold literal
  refine .next_mem fun space t mem => ?_
  dsimp only
  split
  · exact .fresh fun _ => .pure _
  · exact fun _ _ => ⟨t, mem, rfl⟩

/-! ## Lists, names and types -/

section Lists

variable {element : Parse α}

/-- A list refuses where one of its elements does. -/
theorem stays_commaSeparated (h : Stays tokens element) (n : Nat) :
    Stays tokens (commaSeparated element n) := by
  induction n with
  | zero => exact .tooDeep
  | succ n ih =>
    rw [commaSeparated]
    exact h.bind fun _ => .is fun _ => .ite (.expect fun _ => ih.bind fun _ => .pure _) (.pure _)

/-- A container refuses at a bracket or where one of its elements does. -/
theorem stays_container (opening closing : String) (h : Stays tokens element) (n : Nat) :
    Stays tokens (container opening closing element n) := by
  unfold container
  refine .expect fun _ => .is fun _ => ?_
  extract_lets -underBinder tail
  refine .meet tail (fun _ => .expect fun _ => .pure _) fun join => ?_
  exact .ite (join []) ((stays_commaSeparated h n).bind join)

theorem stays_keywordList (keyword : String) (h : Stays tokens element) (n : Nat) :
    Stays tokens (keywordList keyword element n) := by
  unfold keywordList
  exact .expect fun _ => (stays_commaSeparated h n).bind fun _ => .pure _

end Lists

/-- A point without a name behind it is refused there. -/
theorem stays_nameRest (n : Nat) (name : Expression) : Stays tokens (nameRest name n) := by
  induction n generalizing name with
  | zero => exact .tooDeep
  | succ n ih =>
    rw [nameRest]
    exact .ask fun _ => .ite (.expect fun _ => stays_ident.bind fun _ => .fresh fun _ => ih _)
      (.pure _)

theorem stays_qualifiedName (n : Nat) : Stays tokens (qualifiedName n) := by
  unfold qualifiedName
  exact stays_ident.bind fun _ => stays_nameRest n _

theorem stays_arrayRest (n : Nat) (tree : TypeTree) : Stays tokens (arrayRest tree n) := by
  induction n generalizing tree with
  | zero => exact .tooDeep
  | succ n ih =>
    rw [arrayRest]
    exact .ask fun _ => .ite (.expect fun _ => .expect fun _ => .fresh fun _ => ih _) (.pure _)

mutual

/-- The bound of a wildcard and the arguments of a type are types again, so both facts go by one
recursion. -/
theorem stays_typeBase (n : Nat) : Stays tokens (typeBase n) := by
  match n with
  | 0 => exact .tooDeep
  | n + 1 =>
    rw [typeBase]
    refine .look fun s => .ite ?_ ?_
    · refine .expect fun _ => .look fun _ => .ite ?_ (.fresh fun _ => .pure _)
      exact .leading fun _ => .bump fun _ => (stays_typeTree n).bind fun _ => .fresh fun _ =>
        .pure _
    · split
      · exact .next fun _ => .fresh fun _ => .pure _
      · refine (stays_qualifiedName n).bind fun _ => .is fun _ => .ite ?_ (.pure _)
        exact (stays_container "<" ">" (stays_typeTree n) n).bind fun _ => .fresh fun _ => .pure _

theorem stays_typeTree (n : Nat) : Stays tokens (typeTree n) := by
  match n with
  | 0 => exact .tooDeep
  | n + 1 =>
    rw [typeTree]
    exact (stays_typeBase n).bind fun base => stays_arrayRest n base

end

theorem stays_modifierList (n : Nat) : Stays tokens (modifierList n) := by
  induction n with
  | zero => exact .tooDeep
  | succ n ih =>
    rw [modifierList]
    exact .look fun _ =>
      .ite .refuse (.ite (.next fun _ => .fresh fun _ => ih.bind fun _ => .pure _) (.pure _))

/-- To put a variable together refuses nothing. -/
theorem stays_declareOne {h : Heading} {declaredType : Option TypeTree}
    {varargs : Option Space} {v : NamedVariable} :
    Stays tokens (declareOne h declaredType varargs v) :=
  .fresh fun _ => .pure _

/-! ## The grammar -/

/-- Every nonterminal stays in the list, at one bound on the depth. -/
structure Staying (tokens : List Token) (n : Nat) : Prop where
  annotationList : Stays tokens (annotationList n)
  heading : Stays tokens (heading n)
  annotation : Stays tokens <| annotation n
  annotationArgument : Stays tokens (annotationArgument n)
  elementValue : Stays tokens (elementValue n)
  classDeclaration (h : Heading) : Stays tokens (classDeclaration h n)
  classBody : Stays tokens (classBody n)
  members : Stays tokens (members n)
  member : Stays tokens (member n)
  methodDeclaration (h : Heading) (returnType : Option TypeTree) :
    Stays tokens (methodDeclaration h returnType n)
  formalParameter : Stays tokens (formalParameter n)
  namedVariable (withInitializer : Bool) : Stays tokens (namedVariable withInitializer n)
  variableInitializer : Stays tokens (variableInitializer n)
  arrayInitializer : Stays tokens (arrayInitializer n)
  declarators : Stays tokens (declarators n)
  localVariables : Stays tokens (localVariables n)
  block : Stays tokens (block n)
  blockStatements : Stays tokens (blockStatements n)
  blockStatement : Stays tokens (blockStatement n)
  parenthesized : Stays tokens (parenthesized n)
  ifStatement : Stays tokens (ifStatement n)
  forStatement : Stays tokens (forStatement n)
  switchStatement : Stays tokens (switchStatement n)
  switchCases : Stays tokens (switchCases n)
  switchCase : Stays tokens (switchCase n)
  caseStatements : Stays tokens (caseStatements n)
  resourceList : Stays tokens (resourceList n)
  tryResources : Stays tokens (tryResources n)
  tryStatement : Stays tokens (tryStatement n)
  catchList : Stays tokens (catchList n)
  expression : Stays tokens (expression n)
  lambda : Stays tokens (lambda n)
  lambdaParameter : Stays tokens (lambdaParameter n)
  ternary : Stays tokens (ternary n)
  binary (least : Nat) : Stays tokens (binary least n)
  binaryRest (least : Nat) (left : Expression) : Stays tokens (binaryRest least left n)
  unary : Stays tokens (unary n)
  primary : Stays tokens (primary n)
  selection (target : Expression) : Stays tokens (selection target n)
  newExpression : Stays tokens (newExpression n)
  dimensionList : Stays tokens (dimensionList n)

namespace Staying

variable {n : Nat} (ih : Staying tokens n)
include ih

/-! ### Declarations -/

theorem annotationList_succ : Stays tokens (Parser.annotationList (n + 1)) := by
  rw [Parser.annotationList]
  exact .ask fun _ => .ite (ih.annotation.bind fun _ => ih.annotationList.bind fun _ => .pure _)
    (.pure _)

theorem heading_succ : Stays tokens (Parser.heading (n + 1)) := by
  rw [Parser.heading]
  exact .leading fun _ => ih.annotationList.bind fun _ => (stays_modifierList n).bind fun _ =>
    .pure _

theorem annotation_succ : Stays tokens (Parser.annotation (n + 1)) := by
  rw [Parser.annotation]
  refine .expect fun _ => (stays_qualifiedName n).bind fun _ => .is fun _ => ?_
  extract_lets -underBinder tail
  refine .meet tail (fun _ => .fresh fun _ => .pure _) fun join => .ite ?_ (join none)
  exact (stays_container "(" ")" ih.annotationArgument n).bind fun arguments =>
    join (some arguments)

theorem annotationArgument_succ : Stays tokens (Parser.annotationArgument (n + 1)) := by
  rw [Parser.annotationArgument]
  refine .ask fun _ => .ite ?_ ih.elementValue
  exact stays_ident.bind fun _ => .expect fun _ => ih.elementValue.bind fun _ => .fresh fun _ =>
    .pure _

theorem elementValue_succ : Stays tokens (Parser.elementValue (n + 1)) := by
  rw [Parser.elementValue]
  refine .look fun _ => .ite ?_ (.ite .refuse ih.ternary)
  exact .leading fun _ => (stays_container _ _ ih.elementValue n).bind fun _ => .fresh fun _ =>
    .pure _

/-- A class is refused at its keyword, or inside of its parts. -/
theorem classDeclaration_succ (h : Heading) : Stays tokens (Parser.classDeclaration h (n + 1)) := by
  rw [Parser.classDeclaration]
  refine .next fun y => ?_
  dsimp -zeta only
  extract_lets -underBinder tail
  have declared (keyword : ClassKeyword) : Stays tokens (tail keyword) := by
    unfold tail
    refine stays_ident.bind fun name => .is fun _ => ?_
    extract_lets -underBinder tail
    refine .meet tail (fun _ => .is fun extended => ?_) fun join => .ite .refuse_bind (join ())
    extract_lets -underBinder tail
    refine .meet tail (fun superclass => .is fun _ => ?_) fun join => .ite ?_ (join none)
    · extract_lets -underBinder tail
      refine .meet tail (fun interfaces => ih.classBody.bind fun _ => .fresh fun _ => .pure _)
        fun join => ?_
      have listed (word : String) :
          Stays tokens (keywordList word (typeTree n) n >>= fun list => tail (some list)) :=
        (stays_keywordList word (stays_typeTree n) n).bind fun list => join (some list)
      exact .ite (listed _) (.ite (listed _) (join none))
    · exact .expect fun before => (stays_typeTree n).bind fun type => join (some ⟨before, type⟩)
  split
  · exact declared .clazz
  · exact declared .interface
  · exact .refuse_bind

theorem classBody_succ : Stays tokens (Parser.classBody (n + 1)) := by
  rw [Parser.classBody]
  exact .expect fun _ => ih.members.bind fun _ => .expect fun _ => .fresh fun _ => .pure _

theorem members_succ : Stays tokens (Parser.members (n + 1)) := by
  rw [Parser.members]
  refine .look fun _ => .ite (.pure _) ?_
  extract_lets -underBinder tail
  refine .meet tail (fun _ => .ite ?_ ?_) fun join => .ite .refuse_bind (join ())
  · exact .expect fun _ => .fresh fun _ => ih.members.bind fun _ => .pure _
  · exact ih.member.bind fun _ => ih.members.bind fun _ => .pure _

/-- A field and a method are told apart behind the type. -/
theorem member_succ : Stays tokens (Parser.member (n + 1)) := by
  rw [Parser.member]
  refine ih.heading.bind fun h => .look fun _ =>
    .ite ((ih.classDeclaration h).bind fun _ => .pure _) ?_
  extract_lets -underBinder tail
  refine .meet tail (fun _ => .ite (ih.methodDeclaration h none) ?_) fun join =>
    .ite .refuse_bind (join ())
  refine (stays_typeTree n).bind fun type => .ask fun _ =>
    .ite (ih.methodDeclaration h (some type)) ?_
  exact ih.declarators.bind fun _ => .expect fun _ => .fresh fun _ => .pure _

theorem methodDeclaration_succ (h : Heading) (returnType : Option TypeTree) :
    Stays tokens (Parser.methodDeclaration h returnType (n + 1)) := by
  rw [Parser.methodDeclaration]
  refine stays_ident.bind fun _ => (stays_container "(" ")" ih.formalParameter n).bind fun _ =>
    .is fun _ => ?_
  extract_lets -underBinder tail
  refine .meet tail (fun throwing => .is fun _ => ?_) fun join => .ite ?_ (join none)
  · extract_lets -underBinder tail
    refine .meet tail (fun _ => .fresh fun _ => .pure _) fun join => .ite ?_ ?_
    · exact ih.block.bind fun body => join (some body, .empty)
    · exact .expect fun after => join (none, after)
  · exact (stays_keywordList _ (stays_typeTree n) n).bind fun list => join (some list)

theorem formalParameter_succ : Stays tokens (Parser.formalParameter (n + 1)) := by
  rw [Parser.formalParameter]
  refine ih.heading.bind fun h => (stays_typeTree n).bind fun type => .is fun _ => ?_
  extract_lets -underBinder tail
  refine .meet tail (fun varargs => (ih.namedVariable false).bind fun v => stays_declareOne)
    fun join => ?_
  exact .ite (.expect fun space => join (some space)) (join none)

theorem namedVariable_succ (withInitializer : Bool) :
    Stays tokens (Parser.namedVariable withInitializer (n + 1)) := by
  rw [Parser.namedVariable]
  refine .leading fun _ => stays_ident.bind fun _ => .is fun _ => ?_
  extract_lets -underBinder tail
  refine .meet tail (fun _ => .is fun _ => ?_) fun join => .ite .refuse_bind (join ())
  extract_lets -underBinder tail
  refine .meet tail (fun _ => .fresh fun _ => .pure _) fun join => .ite ?_ (join none)
  exact .expect fun before => ih.variableInitializer.bind fun value => join (some ⟨before, value⟩)

theorem variableInitializer_succ : Stays tokens (Parser.variableInitializer (n + 1)) := by
  rw [Parser.variableInitializer]
  exact .is fun _ => .ite ih.arrayInitializer ih.expression

theorem arrayInitializer_succ : Stays tokens (Parser.arrayInitializer (n + 1)) := by
  rw [Parser.arrayInitializer]
  exact .leading fun _ => (stays_container _ _ ih.variableInitializer n).bind fun _ =>
    .fresh fun _ => .pure _

theorem localVariables_succ : Stays tokens (Parser.localVariables (n + 1)) := by
  rw [Parser.localVariables]
  refine ih.heading.bind fun _ => (stays_typeTree n).bind fun _ => ih.declarators.bind fun _ => ?_
  exact .fresh fun _ => .pure _

/-! ### Statements -/

theorem block_succ : Stays tokens (Parser.block (n + 1)) := by
  rw [Parser.block]
  exact .expect fun _ => ih.blockStatements.bind fun _ => .expect fun _ => .fresh fun _ => .pure _

theorem blockStatements_succ : Stays tokens (Parser.blockStatements (n + 1)) := by
  rw [Parser.blockStatements]
  refine .look fun _ => .ite (.pure _) ?_
  extract_lets -underBinder tail
  refine .meet tail (fun _ => ?_) fun join => .ite .refuse_bind (join ())
  exact ih.blockStatement.bind fun _ => ih.blockStatements.bind fun _ => .pure _

/-- The statements are told apart by their first word, and a declaration by a look-ahead. -/
theorem blockStatement_succ : Stays tokens (Parser.blockStatement (n + 1)) := by
  rw [Parser.blockStatement]
  refine .look fun _ =>
    .ite (ih.block.bind fun _ => .pure _) (.ite (.expect fun _ => .fresh fun _ => .pure _) ?_)
  refine .ite ?returns (.ite ?throws (.ite ih.ifStatement (.ite ?loop (.ite ih.forStatement
    (.ite ih.tryStatement (.ite ?doWhile (.ite ih.switchStatement (.ite ?jump (.ite ?clazz
      (.ite ?declaration ?expression))))))))))
  case returns =>
    refine .expect fun _ => .is fun _ => ?_
    extract_lets -underBinder tail
    refine .meet tail (fun _ => .expect fun _ => .fresh fun _ => .pure _) fun join =>
      .ite (join none) ?_
    exact ih.expression.bind fun e => join (some e)
  case throws =>
    exact .expect fun _ => ih.expression.bind fun _ => .expect fun _ => .fresh fun _ => .pure _
  case loop =>
    exact .expect fun _ => ih.parenthesized.bind fun _ => ih.blockStatement.bind fun _ =>
      .fresh fun _ => .pure _
  case doWhile =>
    refine .expect fun _ => ih.blockStatement.bind fun _ => .expect fun _ =>
      ih.parenthesized.bind fun _ => ?_
    exact .expect fun _ => .fresh fun _ => .pure _
  case jump =>
    refine .next fun _ => .ask fun _ => ?_
    extract_lets -underBinder tail
    refine .meet tail (fun _ => .expect fun _ => .fresh fun _ => .pure _) fun join =>
      .ite ?_ (join none)
    exact stays_ident.bind fun label => join (some label)
  case clazz =>
    exact ih.heading.bind fun h => (ih.classDeclaration h).bind fun _ => .pure _
  case declaration =>
    exact ih.localVariables.bind fun _ => .expect fun _ => .pure _
  case expression =>
    exact ih.expression.bind fun _ => .expect fun _ => .pure _

theorem parenthesized_succ : Stays tokens (Parser.parenthesized (n + 1)) := by
  rw [Parser.parenthesized]
  exact .expect fun _ => ih.expression.bind fun _ => .expect fun _ => .pure _

theorem ifStatement_succ : Stays tokens (Parser.ifStatement (n + 1)) := by
  rw [Parser.ifStatement]
  refine .expect fun _ => ih.parenthesized.bind fun _ => ih.blockStatement.bind fun _ =>
    .is fun _ => ?_
  extract_lets -underBinder tail
  refine .meet tail (fun _ => .fresh fun _ => .pure _) fun join => .ite ?_ (join none)
  exact .expect fun before => ih.blockStatement.bind fun body => .fresh fun id =>
    join (some ⟨id, before, body⟩)

/-- The two kinds of loop are told apart behind the variable. -/
theorem forStatement_succ : Stays tokens (Parser.forStatement (n + 1)) := by
  rw [Parser.forStatement]
  refine .expect fun _ => .expect fun _ => .look fun s => ?_
  extract_lets -underBinder each tail
  refine .ite ?_ ?_
  · refine ih.heading.bind fun h => (stays_typeTree n).bind fun _ =>
      (ih.namedVariable false).bind fun _ => ?_
    refine .expect fun _ => ih.expression.bind fun _ => .expect fun _ =>
      ih.blockStatement.bind fun _ => ?_
    exact stays_declareOne.bind fun _ => .fresh fun _ => .pure _
  · refine .meet tail (fun init => ?_) fun join => ?_
    · unfold tail
      refine .expect fun _ => .is fun _ => ?_
      extract_lets -underBinder tail
      refine .meet tail (fun condition => ?_) fun join => .ite (join none) ?_
      · unfold tail
        refine .expect fun _ => .is fun _ => ?_
        extract_lets -underBinder tail
        refine .meet tail (fun update => ?_) fun join => ?_
        · exact .expect fun _ => ih.blockStatement.bind fun _ => .fresh fun _ => .pure _
        · exact .ite (join []) ((stays_commaSeparated ih.expression n).bind join)
      · exact ih.expression.bind fun e => join (some e)
    · refine .ite (join none) (.ite ?_ ?_)
      · exact ih.localVariables.bind fun _ => join (some _)
      · exact ih.expression.bind fun _ => join (some _)

theorem switchStatement_succ : Stays tokens (Parser.switchStatement (n + 1)) := by
  rw [Parser.switchStatement]
  refine .expect fun _ => ih.parenthesized.bind fun _ => .expect fun _ =>
    ih.switchCases.bind fun _ => ?_
  exact .expect fun _ => .fresh fun _ => .pure _

theorem switchCases_succ : Stays tokens (Parser.switchCases (n + 1)) := by
  rw [Parser.switchCases]
  refine .look fun _ => .ite (.pure _) ?_
  extract_lets -underBinder tail
  refine .meet tail (fun _ => ?_) fun join => .ite .refuse_bind (join ())
  exact ih.switchCase.bind fun _ => ih.switchCases.bind fun _ => .pure _

/-- Labels with an arrow and with a colon meet again behind the list. -/
theorem switchCase_succ : Stays tokens (Parser.switchCase (n + 1)) := by
  rw [Parser.switchCase]
  refine .look fun _ => ?_
  extract_lets -underBinder tail
  refine .meet tail (fun y => ?_) fun join => ?_
  · unfold tail
    refine .is fun _ => .ite ?_ ?_
    · exact .expect fun _ => ih.blockStatement.bind fun _ => .fresh fun _ => .pure _
    · exact .expect fun _ => ih.caseStatements.bind fun _ => .fresh fun _ => .pure _
  · refine .ite (.expect fun space => join (space, [])) (.ite ?_ .refuse_bind)
    exact .expect fun space => (stays_commaSeparated ih.ternary n).bind fun labels =>
      join (space, labels)

theorem caseStatements_succ : Stays tokens (Parser.caseStatements (n + 1)) := by
  rw [Parser.caseStatements]
  refine .look fun _ => .ite (.pure _) ?_
  extract_lets -underBinder tail
  refine .meet tail (fun _ => ?_) fun join => .ite .refuse_bind (join ())
  exact ih.blockStatement.bind fun _ => ih.caseStatements.bind fun _ => .pure _

theorem resourceList_succ : Stays tokens (Parser.resourceList (n + 1)) := by
  rw [Parser.resourceList]
  refine .look fun _ => .ite (.pure _) ?_
  extract_lets -underBinder tail
  refine .meet tail (fun resource => .is fun _ => .ite ?_ (.pure _)) fun join => .ite ?_ ?_
  · exact .expect fun _ => ih.resourceList.bind fun _ => .pure _
  · exact ih.localVariables.bind fun _ => join _
  · exact ih.expression.bind fun _ => join _

theorem tryResources_succ : Stays tokens (Parser.tryResources (n + 1)) := by
  rw [Parser.tryResources]
  refine .expect fun _ => ih.resourceList.bind fun ⟨resources, terminated⟩ => ?_
  dsimp -zeta only
  extract_lets -underBinder tail
  exact .meet tail (fun _ => .expect fun _ => .pure _) fun join => .ite .refuse_bind (join ())

/-- A `try` without resources, handlers and a last block is refused where it ends. -/
theorem tryStatement_succ : Stays tokens (Parser.tryStatement (n + 1)) := by
  rw [Parser.tryStatement]
  refine .expect fun _ => .is fun _ => ?_
  extract_lets -underBinder tail
  refine .meet tail (fun resources => ?_) fun join => .ite ?_ (join none)
  · unfold tail
    refine ih.block.bind fun _ => ih.catchList.bind fun _ => .is fun _ => ?_
    extract_lets -underBinder tail
    refine .meet tail (fun finalizer => ?_) fun join => .ite ?_ (join none)
    · unfold tail
      extract_lets -underBinder tail
      exact .meet tail (fun _ => .fresh fun _ => .pure _) fun join => .ite .refuse_bind (join ())
    · exact .expect fun before => ih.block.bind fun block => join (some ⟨before, block⟩)
  · exact ih.tryResources.bind fun resources => join (some resources)

theorem catchList_succ : Stays tokens (Parser.catchList (n + 1)) := by
  rw [Parser.catchList]
  refine .is fun _ => .ite ?_ (.pure _)
  refine .expect fun _ => .expect fun _ => ih.heading.bind fun h => (stays_typeTree n).bind fun _ =>
    .is fun _ => ?_
  extract_lets -underBinder tail
  refine .meet tail (fun _ => ?_) fun join => .ite .refuse_bind (join ())
  unfold tail
  refine (ih.namedVariable false).bind fun _ => .expect fun _ => ih.block.bind fun _ => ?_
  exact stays_declareOne.bind fun _ => .fresh fun _ => ih.catchList.bind fun _ => .pure _

/-! ### Expressions -/

theorem expression_succ : Stays tokens (Parser.expression (n + 1)) := by
  rw [Parser.expression]
  refine .ask fun _ => .ite ih.lambda (ih.ternary.bind fun _ => .look fun _ => ?_)
  split
  · exact .pure _
  · exact .next fun _ => ih.expression.bind fun _ => .fresh fun _ => .pure _

theorem lambda_succ : Stays tokens (Parser.lambda (n + 1)) := by
  rw [Parser.lambda]
  refine .leading fun _ => .is fun parenthesized => ?_
  extract_lets -underBinder tail
  refine .meet tail (fun parameters => ?_) fun join => .ite ?_ ?_
  · unfold tail
    refine .expect fun _ => .is fun _ => ?_
    extract_lets -underBinder tail
    refine .meet tail (fun _ => .fresh fun _ => .pure _) fun join => .ite ?_ ?_
    · exact ih.block.bind fun block => join (.block block)
    · exact ih.expression.bind fun e => join (.expression e)
  · exact (stays_container "(" ")" ih.lambdaParameter n).bind join
  · exact ih.lambdaParameter.bind fun v => join ⟨.empty, [.tight v], .empty⟩

theorem lambdaParameter_succ : Stays tokens (Parser.lambdaParameter (n + 1)) := by
  rw [Parser.lambdaParameter]
  refine .ask fun _ =>
    .ite (.leading fun _ => (ih.namedVariable false).bind fun _ => ?_) ih.formalParameter
  exact stays_declareOne

theorem ternary_succ : Stays tokens (Parser.ternary (n + 1)) := by
  rw [Parser.ternary]
  refine (ih.binary 1).bind fun _ => .is fun _ => .ite ?_ (.pure _)
  refine .expect fun _ => ih.expression.bind fun _ => .expect fun _ => .ask fun _ => ?_
  extract_lets -underBinder tail
  exact .meet tail (fun _ => .fresh fun _ => .pure _) fun join =>
    .ite (ih.lambda.bind join) (ih.ternary.bind join)

theorem binary_succ (least : Nat) : Stays tokens (Parser.binary least (n + 1)) := by
  rw [Parser.binary]
  exact ih.unary.bind fun left => ih.binaryRest least left

/-- An operator without a right operand is refused at that place. -/
theorem binaryRest_succ (least : Nat) (left : Expression) :
    Stays tokens (Parser.binaryRest least left (n + 1)) := by
  rw [Parser.binaryRest]
  refine .look fun _ => ?_
  split
  · exact .pure _
  · refine .leading fun _ => .bumps fun _ => ?_
    extract_lets -underBinder tail
    refine .meet tail (fun right => .fresh fun _ => ih.binaryRest least _) fun join => .ite ?_ ?_
    · refine (stays_typeTree n).bind fun type => ?_
      split
      · exact join _
      · exact .refuse_bind
    · exact (ih.binary _).bind join

theorem unary_succ : Stays tokens (Parser.unary (n + 1)) := by
  rw [Parser.unary]
  refine .look fun _ => ?_
  split
  · exact .next fun _ => ih.unary.bind fun _ => .fresh fun _ => .pure _
  · refine .ite ?_ (ih.primary.bind fun target => ih.selection target)
    refine .expect fun _ => (stays_typeTree n).bind fun _ =>
      .expect fun _ => ih.unary.bind fun _ => ?_
    exact .fresh fun _ => .pure _

/-- What begins no expression is refused at its first token. -/
theorem primary_succ : Stays tokens (Parser.primary (n + 1)) := by
  rw [Parser.primary]
  refine .look fun _ => ?_
  extract_lets -underBinder text
  split
  any_goals exact stays_literal
  · refine .ite stays_literal (.ite ?_ (.ite ih.newExpression (.ite .refuse ?_)))
    · exact stays_word.bind fun _ => .is fun _ => .ite .refuse_bind (.pure _)
    · refine stays_ident.bind fun _ => .is fun _ => .ite ?_ (.pure _)
      exact (stays_container "(" ")" ih.expression n).bind fun _ => .fresh fun _ => .pure _
  · refine .ite ?_ (.ite ih.arrayInitializer .refuse)
    exact .expect fun _ => ih.expression.bind fun _ => .expect fun _ => .fresh fun _ => .pure _
  · exact .refuse

/-- A selection without a name is refused behind its point. -/
theorem selection_succ (target : Expression) : Stays tokens (Parser.selection target (n + 1)) := by
  rw [Parser.selection]
  refine .look fun _ => .ite ?member (.ite ?index (.ite ?reference (.ite ?increment (.pure _))))
  case member =>
    extract_lets -underBinder tail
    refine .meet tail (fun _ => .expect fun _ => stays_word.bind fun name => ?_) fun join =>
      .ite .refuse_bind (join ())
    extract_lets -underBinder isPseudoField tail
    refine .meet tail (fun _ => .is fun _ => .ite ?_ (.fresh fun _ => ih.selection _)) fun join =>
      .ite .refuse_bind (join ())
    exact (stays_container "(" ")" ih.expression n).bind fun _ => .fresh fun _ => ih.selection _
  case index =>
    exact .expect fun _ => ih.expression.bind fun _ => .expect fun _ => .fresh fun _ =>
      ih.selection _
  case reference =>
    exact .expect fun _ => stays_word.bind fun _ => .fresh fun _ => ih.selection _
  case increment =>
    exact .next fun _ => .fresh fun _ => ih.selection _

/-- What is made is an object or an array, or it is refused. -/
theorem newExpression_succ : Stays tokens (Parser.newExpression (n + 1)) := by
  rw [Parser.newExpression]
  refine .expect fun _ => (stays_typeBase n).bind fun _ => .is fun _ => .ite ?_ ?_
  · refine ih.dimensionList.bind fun _ => .is fun _ => ?_
    extract_lets -underBinder tail
    refine .meet tail (fun _ => .fresh fun _ => .pure _) fun join => .ite ?_ (join none)
    exact (stays_container _ _ ih.variableInitializer n).bind fun elements => join (some elements)
  · refine (stays_container "(" ")" ih.expression n).bind fun _ => .is fun _ => ?_
    extract_lets -underBinder tail
    refine .meet tail (fun _ => .fresh fun _ => .pure _) fun join => .ite ?_ (join none)
    exact ih.classBody.bind fun body => join (some body)

theorem dimensionList_succ : Stays tokens (Parser.dimensionList (n + 1)) := by
  rw [Parser.dimensionList]
  refine .is fun _ => .ite (.expect fun _ => .is fun _ => ?_) (.pure _)
  extract_lets -underBinder tail
  refine .meet tail (fun _ => .expect fun _ => ih.dimensionList.bind fun _ => .pure _) fun join =>
    .ite (join none) ?_
  exact ih.expression.bind fun e => join (some e)

end Staying

/-- The facts at all bounds, by induction on the bound. -/
theorem staying (n : Nat) : Staying tokens n := by
  induction n with
  | zero => constructor <;> intros <;> exact .tooDeep
  | succ n ih => exact {
    annotationList := ih.annotationList_succ
    heading := ih.heading_succ
    annotation := ih.annotation_succ
    annotationArgument := ih.annotationArgument_succ
    elementValue := ih.elementValue_succ
    classDeclaration := ih.classDeclaration_succ
    classBody := ih.classBody_succ
    members := ih.members_succ
    member := ih.member_succ
    methodDeclaration := ih.methodDeclaration_succ
    formalParameter := ih.formalParameter_succ
    namedVariable := ih.namedVariable_succ
    variableInitializer := ih.variableInitializer_succ
    arrayInitializer := ih.arrayInitializer_succ
    declarators := stays_commaSeparated (ih.namedVariable true) n
    localVariables := ih.localVariables_succ
    block := ih.block_succ
    blockStatements := ih.blockStatements_succ
    blockStatement := ih.blockStatement_succ
    parenthesized := ih.parenthesized_succ
    ifStatement := ih.ifStatement_succ
    forStatement := ih.forStatement_succ
    switchStatement := ih.switchStatement_succ
    switchCases := ih.switchCases_succ
    switchCase := ih.switchCase_succ
    caseStatements := ih.caseStatements_succ
    resourceList := ih.resourceList_succ
    tryResources := ih.tryResources_succ
    tryStatement := ih.tryStatement_succ
    catchList := ih.catchList_succ
    expression := ih.expression_succ
    lambda := ih.lambda_succ
    lambdaParameter := ih.lambdaParameter_succ
    ternary := ih.ternary_succ
    binary := ih.binary_succ
    binaryRest := ih.binaryRest_succ
    unary := ih.unary_succ
    primary := ih.primary_succ
    selection := ih.selection_succ
    newExpression := ih.newExpression_succ
    dimensionList := ih.dimensionList_succ
  }

/-! ## Units -/

theorem stays_importRest (n : Nat) (name : Expression) : Stays tokens (importRest name n) := by
  induction n generalizing name with
  | zero => exact .tooDeep
  | succ n ih =>
    rw [importRest]
    refine .is fun _ => .ite (.expect fun _ => .is fun _ => ?_) (.pure _)
    extract_lets -underBinder tail
    refine .meet tail (fun _ => .fresh fun _ => ih _) fun join => ?_
    exact .ite (.next fun _ => .fresh fun _ => join _) (stays_ident.bind join)

theorem stays_importName (n : Nat) : Stays tokens (importName n) := by
  unfold importName
  refine stays_ident.bind fun name => (stays_importRest n _).bind fun e => ?_
  split
  · exact .pure _
  · exact .refuse

theorem stays_packageDeclaration (n : Nat) : Stays tokens (packageDeclaration n) := by
  unfold packageDeclaration
  refine .is fun _ => .ite (.expect fun _ => (stays_qualifiedName n).bind fun _ => .expect fun _ =>
    ?_) (.pure _)
  exact .fresh fun _ => .pure _

theorem stays_importList (n : Nat) : Stays tokens (importList n) := by
  induction n with
  | zero => exact .tooDeep
  | succ n ih =>
    rw [importList]
    refine .is fun _ => .ite (.expect fun _ => .is fun _ => ?_) (.pure _)
    extract_lets -underBinder tail
    refine .meet tail (fun _ => ?_) fun join =>
      .ite (.expect fun space => join (some space)) (join none)
    exact (stays_importName n).bind fun _ => .expect fun _ => .fresh fun _ => ih.bind fun _ =>
      .pure _

theorem stays_classList (n : Nat) : Stays tokens (classList n) := by
  induction n with
  | zero => exact .tooDeep
  | succ n ih =>
    rw [classList]
    refine .ask fun _ =>
      .ite (.pure _) ((staying n).heading.bind fun h => .ask fun _ => .ite ?_ .refuse)
    exact ((staying n).classDeclaration h).bind fun _ => ih.bind fun _ => .pure _

/-- Behind the classes nothing may stand but the end. -/
theorem stays_unit (path : String) (n : Nat) : Stays tokens (unit path n) := by
  unfold unit
  refine (stays_packageDeclaration n).bind fun _ => (stays_importList n).bind fun _ => ?_
  exact (stays_classList n).bind fun _ => .fresh fun _ => .look fun _ => .pure _

end Retouch.Parser
