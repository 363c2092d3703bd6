import Mathlib.Data.List.Nodup
import Retouch.Proofs.Outcome
import Retouch.Proofs.Parser.Reading
import Retouch.Proofs.Tree.Ids

/-!
# The ids of a unit that is read

Every node gets the next free id, also where a wrapper is recognised only after its first child, and
a look-ahead that reads some tokens gives its ids back. So no two nodes of a unit that is read have
one id (`nodup_ids_parseUnit`).

`Numbers x pre p times`: where `p` succeeds, `times` of its result is `pre` and one more if the id
`x` was used up on the way. The nonterminals recurse on one bound, so the facts at a bound are one
structure (`Numbered`).
-/

namespace Retouch

namespace Parser

variable {α β : Type} {p : Parse α} {q : α → Parse β} {x : NodeId}

/-- One as long as the id is not used up. -/
def State.free (x : NodeId) (s : State) : Nat := if s.nextId ≤ x then 1 else 0

/-- The nodes with the id `x` in a result of `p` are `pre` and those that `p` makes. -/
def Numbers (x : NodeId) (pre : Nat) (p : Parse α) (times : α → Nat) : Prop :=
  ∀ s a s', p s = .ok (a, s') → pre + s.free x = times a + s'.free x

/-- No id is used up. -/
def Quiet (p : Parse α) : Prop := ∀ s a s', p s = .ok (a, s') → s'.nextId = s.nextId

section Rules

variable {pre pre' : Nat} {f : α → Nat} {g : β → Nat}

namespace Numbers

/-- What `p` makes is counted before `q` runs. -/
theorem bind (hp : Numbers x 0 p f) (hq : ∀ a, Numbers x (pre + f a) (q a) g) :
    Numbers x pre (p >>= q) g := by
  intro s b s' h
  obtain ⟨a, t, first, second⟩ := bind_ok h
  have left := hp s a t first
  have right := hq a t b s' second
  omega

/-- `p` goes on with the nodes before it. -/
theorem chain (hp : Numbers x pre p f) (hq : ∀ a, Numbers x (f a) (q a) g) :
    Numbers x pre (p >>= q) g := by
  intro s b s' h
  obtain ⟨a, t, first, second⟩ := bind_ok h
  exact (hp s a t first).trans (hq a t b s' second)

/-- A `p` that uses no id up changes no count. -/
theorem quiet (hp : Quiet p) (hq : ∀ a, Numbers x pre (q a) g) : Numbers x pre (p >>= q) g := by
  intro s b s' h
  obtain ⟨a, t, first, second⟩ := bind_ok h
  have same : t.free x = s.free x := by rw [State.free, State.free, hp s a t first]
  exact same ▸ hq a t b s' second

theorem of_eq (h : Numbers x pre p f) (e : pre = pre') : Numbers x pre' p f := e ▸ h

theorem pure {a : α} (e : pre = f a) : Numbers x pre (pure a) f := by
  intro s b s' h
  cases h
  rw [e]

theorem ite {c : Prop} [Decidable c] {p p' : Parse α} (hp : Numbers x pre p f)
    (hp' : Numbers x pre p' f) :
    Numbers x pre (if c then p else p') f := by
  split
  · exact hp
  · exact hp'

/-- Branches that meet again in `tail`: what they hand over to it has so many nodes. -/
theorem meet {γ : Type} {body : Parse β} (tail : γ → Parse β) (times : γ → Nat)
    (ht : ∀ y, Numbers x (pre + times y) (tail y) g)
    (hb : (∀ y, Numbers x (pre + times y) (tail y) g) → Numbers x pre body g) :
      Numbers x pre body g :=
  hb ht

/-- To look at the state takes no id. -/
theorem look {k : State → Parse β} (h : ∀ s, Numbers x pre (k s) g) :
    Numbers x pre (MonadState.get >>= k) g :=
  fun s => h s s

theorem ask {question : State → Bool} {k : Bool → Parse β} (h : ∀ b, Numbers x pre (k b) g) :
    Numbers x pre (Parser.ask question >>= k) g :=
  fun s => h (question s) s

theorem is {word : String} {k : Bool → Parse β} (h : ∀ b, Numbers x pre (k b) g) :
    Numbers x pre (Parser.is word >>= k) g :=
  ask h

/-- The id that is handed out counts once, if it is `x`. -/
theorem fresh {k : NodeId → Parse β} (h : ∀ id, Numbers x (pre + NodeId.times x id) (k id) g) :
    Numbers x pre (Parser.fresh >>= k) g := by
  intro s b s' run
  have rest := h s.nextId { s with nextId := s.nextId + 1 } b s' run
  have step : s.free x = NodeId.times x s.nextId + State.free x { s with nextId :=
    s.nextId + 1 } := by
    unfold State.free NodeId.times
    grind
  omega

/-- A refusal makes nothing that would have to be counted. -/
theorem refuse {need : Need} : Numbers x pre (Parser.refuse need) f := fun _ _ _ h => nomatch h

theorem refuse_bind {need : Need} : Numbers x pre (Parser.refuse need >>= q) g := fun _ _ _ h =>
    nomatch h

theorem tooDeep : Numbers x pre Parser.tooDeep f := fun _ _ _ h => nomatch h

end Numbers

end Rules

/-! ## Tokens -/

section Tokens

variable {pre : Nat} {g : β → Nat}

theorem Quiet.bind (hp : Quiet p) (hq : ∀ a, Quiet (q a)) : Quiet (p >>= q) := by
  intro s b s' h
  obtain ⟨a, t, first, second⟩ := bind_ok h
  exact (hq a t b s' second).trans (hp s a t first)

theorem quiet_pure (a : α) : Quiet (pure a) := by
  intro s b s' h
  cases h
  rfl

/-- To pass a token takes no id. -/
theorem State.nextId_bump (s : State) : s.bump.nextId = s.nextId := by
  unfold bump
  split <;> rfl

theorem quiet_leading : Quiet leading := by
  intro s a s' h
  obtain ⟨space, run, -⟩ := leading_run s
  cases run.symm.trans h
  rfl

theorem quiet_bump : Quiet bump := by
  intro s a s' h
  cases h
  exact s.nextId_bump

theorem quiet_next : Quiet next :=
  quiet_leading.bind fun _ => quiet_bump.bind fun _ => quiet_pure _

/-- The marks of an operator are taken. -/
theorem quiet_bumps (n : Nat) : Quiet (modify fun s => Nat.repeat State.bump n s) := by
  intro s a s' h
  cases h
  induction n with
  | zero => rfl
  | succ n ih => exact (State.nextId_bump _).trans ih

/-- The word that is expected is taken or refused, and no id is used up. -/
theorem quiet_expect (word : String) : Quiet (expect word) := by
  intro s a s' h
  obtain ⟨b, t, asked, h⟩ := bind_ok h
  cases asked
  split at h
  · exact (quiet_next.bind fun _ => quiet_pure _) s a s' h
  · cases h

theorem Numbers.expect {word : String} {k : Space → Parse β}
    (h : ∀ space, Numbers x pre (k space) g) :
    Numbers x pre (Parser.expect word >>= k) g :=
  .quiet (quiet_expect word) h

theorem Numbers.next {k : Space × Token → Parse β} (h : ∀ y, Numbers x pre (k y) g) :
    Numbers x pre (Parser.next >>= k) g :=
  .quiet quiet_next h

theorem Numbers.leading {k : Space → Parse β} (h : ∀ space, Numbers x pre (k space) g) :
    Numbers x pre (Parser.leading >>= k) g :=
  .quiet quiet_leading h

/-- A name is one node. -/
theorem numbers_ident : Numbers x 0 ident (·.layout.times x) := by
  unfold ident
  refine .ask fun b => .ite (.next fun y => .fresh fun id => .pure ?_) .refuse
  simp [Identifier.layout]

theorem numbers_word : Numbers x 0 word (·.layout.times x) := by
  unfold word
  refine .ask fun b => .ite (.next fun y => .fresh fun id => .pure ?_) .refuse
  simp [Identifier.layout]

/-- A literal is one node, whatever value it is given. -/
theorem numbers_literal : Numbers x 0 literal (·.layout.times x) := by
  unfold literal
  refine .next fun y => ?_
  dsimp only
  split
  · exact .fresh fun id => .pure (by simp [Expression.layout, Literal.layout])
  · intro _ _ _ h
    cases h

end Tokens

/-! ## Lists, names and types -/

section Lists

variable {element : Parse α} {f : α → Nat}

/-- How often an id is found in the elements of a list. -/
def timesAll (f : α → Nat) (ps : List (Padded α)) : Nat := (ps.map fun p => f p.element).sum

@[simp]
theorem timesAll_nil : timesAll f [] = 0 := rfl

@[simp]
theorem timesAll_cons (p : Padded α) (ps : List (Padded α)) :
    timesAll f (p :: ps) = f p.element + timesAll f ps :=
  rfl

/-- A list has the nodes of its elements, and its commas have none. -/
theorem numbers_commaSeparated (h : Numbers x 0 element f) (n : Nat) :
    Numbers x 0 (commaSeparated element n) (timesAll f) := by
  induction n with
  | zero => exact .tooDeep
  | succ n ih =>
    rw [commaSeparated]
    refine h.bind fun value => .is fun comma => .ite ?_ (.pure (by simp [Padded.tight]))
    exact .expect fun after => ih.bind fun rest => .pure (by simp)

/-- Brackets are no nodes. -/
theorem numbers_container (opening closing : String) (h : Numbers x 0 element f) (n : Nat) :
    Numbers x 0 (container opening closing element n) (timesAll f ·.elements) := by
  unfold container
  refine .expect fun before => .is fun closed => ?_
  extract_lets -underBinder tail
  refine .meet tail (timesAll f) (fun elements => .expect fun close => .pure (Nat.zero_add _))
    fun join => ?_
  exact .ite ((join []).of_eq (by simp)) ((numbers_commaSeparated h n).bind join)

theorem numbers_keywordList (keyword : String) (h : Numbers x 0 element f) (n : Nat) :
    Numbers x 0 (keywordList keyword element n) (timesAll f ·.elements) := by
  unfold keywordList
  exact .expect fun before => (numbers_commaSeparated h n).bind fun elements =>
    .pure (Nat.zero_add _)

end Lists

section Layouts

/-- Commas and trivia hold no ids. -/
@[simp]
theorem times_layoutExprList (es : List (Padded Expression)) :
    (layoutExprList es).times x = timesAll (·.layout.times x) es := by
  rw [layoutExprList_eq, Layout.times_separate, timesAll]

@[simp]
theorem times_layoutExprs (opening closing : String) (c : Container Expression) :
    (layoutExprs opening closing c).times x = timesAll (·.layout.times x) c.elements := by
  cases c
  simp [layoutExprs]

@[simp]
theorem times_layoutTypes (opening closing : String) (c : Container TypeTree) :
    (layoutTypes opening closing c).times x = timesAll (·.layout.times x) c.elements := by
  cases c
  simp [layoutTypes, layoutTypeList_eq, Layout.times_separate, timesAll]

@[simp]
theorem times_layoutParameters (opening closing : String) (c : Container VariableDeclarations) :
    (layoutParameters opening closing c).times x = timesAll (·.layout.times x) c.elements := by
  cases c
  simp [layoutParameters, layoutParameterList_eq, Layout.times_separate, timesAll]

@[simp]
theorem times_layoutVariables (vs : List (Padded NamedVariable)) :
    (layoutVariables vs).times x = timesAll (·.layout.times x) vs := by
  rw [layoutVariables_eq, Layout.times_separate, timesAll]

@[simp]
theorem times_layoutEnd (semicolon : Bool) (after : Space) :
    (layoutEnd semicolon after).times x = 0 := by
  cases semicolon <;> simp [layoutEnd]

@[simp]
theorem times_layoutBound (bound : Option (LeftPadded WildcardBound)) :
    (layoutBound bound).times x = 0 := by
  cases bound <;> simp [layoutBound]

@[simp]
theorem times_layoutStatements (ss : List (Padded Statement)) :
    (layoutStatements ss).times x = timesAll (·.layout.times x) ss := by
  induction ss with
  | nil => rfl
  | cons p ps ih => simp [layoutStatements, ih]

@[simp]
theorem times_layoutBareParameters (vs : List (Padded VariableDeclarations)) :
    (layoutBareParameters vs).times x = timesAll (·.layout.times x) vs := by
  induction vs with
  | nil => rfl
  | cons p ps ih => simp [layoutBareParameters, ih]

/-- The semicolons between resources hold no ids. -/
@[simp]
theorem times_layoutResources (terminated : Bool) (ss : List (Padded Statement)) :
    (layoutResources terminated ss).times x = timesAll (·.layout.times x) ss := by
  match ss with
  | [] => rfl
  | [p] => simp [layoutResources]
  | p :: p' :: ps => simp [layoutResources, times_layoutResources terminated (p' :: ps)]

/-- How often the id is found in what stands in front of a declaration. -/
def Heading.times (x : NodeId) (h : Heading) : Nat :=
  (layoutAnnotations h.annotations).times x + (layoutModifiers h.modifiers).times x

end Layouts

/-- Each further segment makes one selection around the name in front of it. -/
theorem numbers_nameRest (n : Nat) (name : Expression) :
    Numbers x (name.layout.times x) (nameRest name n) (·.layout.times x) := by
  induction n generalizing name with
  | zero => exact .tooDeep
  | succ n ih =>
    rw [nameRest]
    refine .ask fun b => .ite ?_ (.pure rfl)
    refine .expect fun dot => numbers_ident.bind fun segment => .fresh fun id => (ih _).of_eq ?_
    simp +arith [Expression.layout, FieldAccess.layout]

theorem numbers_qualifiedName (n : Nat) : Numbers x 0 (qualifiedName n) (·.layout.times x) := by
  unfold qualifiedName
  exact numbers_ident.bind fun name => (numbers_nameRest n _).of_eq (by simp [Expression.layout])

/-- Each pair of brackets makes one array type around the type in front of it. -/
theorem numbers_arrayRest (n : Nat) (tree : TypeTree) :
    Numbers x (tree.layout.times x) (arrayRest tree n) (·.layout.times x) := by
  induction n generalizing tree with
  | zero => exact .tooDeep
  | succ n ih =>
    rw [arrayRest]
    refine .ask fun b => .ite ?_ (.pure rfl)
    refine .expect fun opening => .expect fun closing => .fresh fun id => (ih _).of_eq ?_
    simp +arith [TypeTree.layout]

mutual

/-- The bound of a wildcard and the arguments of a type are types again, so both facts go by one
recursion. -/
theorem numbers_typeBase (n : Nat) : Numbers x 0 (typeBase n) (·.layout.times x) := by
  match n with
  | 0 => exact .tooDeep
  | n + 1 =>
    rw [typeBase]
    refine .look fun s => .ite ?_ ?_
    · refine .expect fun space => .look fun s => .ite ?_ ?_
      · refine .leading fun before => .quiet quiet_bump fun _ =>
          (numbers_typeTree n).bind fun bounded => ?_
        exact .fresh fun id => .pure (by simp +arith [TypeTree.layout, layoutType?])
      · exact .fresh fun id => .pure (by simp [TypeTree.layout, layoutType?])
    · split
      · exact .next fun y => .fresh fun id => .pure (by simp [TypeTree.layout])
      · refine (numbers_qualifiedName n).bind fun name => .is fun b =>
          .ite ?_ (.pure (by simp [TypeTree.layout]))
        refine (numbers_container "<" ">" (numbers_typeTree n) n).bind fun arguments =>
          .fresh fun id => .pure ?_
        simp +arith [TypeTree.layout]

theorem numbers_typeTree (n : Nat) : Numbers x 0 (typeTree n) (·.layout.times x) := by
  match n with
  | 0 => exact .tooDeep
  | n + 1 =>
    rw [typeTree]
    exact (numbers_typeBase n).bind fun base => (numbers_arrayRest n base).of_eq (by simp)

end

/-! ## The grammar -/

/-- The ids of what every nonterminal gives, at one bound on the depth. -/
structure Numbered (x : NodeId) (n : Nat) : Prop where
  annotationList : Numbers x 0 (annotationList n) fun as => (layoutAnnotations as).times x
  heading : Numbers x 0 (heading n) (Heading.times x)
  annotation : (Numbers x 0 <| annotation n) (·.layout.times x)
  annotationArgument : Numbers x 0 (annotationArgument n) (·.layout.times x)
  elementValue : Numbers x 0 (elementValue n) (·.layout.times x)
  classDeclaration (h : Heading) : Numbers x (h.times x) (classDeclaration h n) (·.layout.times x)
  classBody : Numbers x 0 (classBody n) (·.layout.times x)
  members : Numbers x 0 (members n) (timesAll (·.layout.times x))
  member : Numbers x 0 (member n) (·.element.layout.times x)
  methodDeclaration (h : Heading) (returnType : Option TypeTree) :
    Numbers x (h.times x + (layoutType? returnType).times x) (methodDeclaration h returnType n)
      (·.element.layout.times x)
  formalParameter : Numbers x 0 (formalParameter n) (·.layout.times x)
  namedVariable (withInitializer : Bool) : Numbers x 0 (namedVariable withInitializer n)
    (·.layout.times x)
  variableInitializer : Numbers x 0 (variableInitializer n) (·.layout.times x)
  arrayInitializer : Numbers x 0 (arrayInitializer n) (·.layout.times x)
  declarators : Numbers x 0 (declarators n) (timesAll (·.layout.times x))
  localVariables : Numbers x 0 (localVariables n) (·.layout.times x)
  block : Numbers x 0 (block n) (·.layout.times x)
  blockStatements : Numbers x 0 (blockStatements n) (timesAll (·.layout.times x))
  blockStatement : Numbers x 0 (blockStatement n) (·.element.layout.times x)
  parenthesized : Numbers x 0 (parenthesized n) (·.layout.times x)
  ifStatement : Numbers x 0 (ifStatement n) (·.element.layout.times x)
  forStatement : Numbers x 0 (forStatement n) (·.element.layout.times x)
  switchStatement : Numbers x 0 (switchStatement n) (·.element.layout.times x)
  switchCases : Numbers x 0 (switchCases n) fun cs => (layoutCases cs).times x
  switchCase : Numbers x 0 (switchCase n) fun c => (layoutCases [c]).times x
  caseStatements : Numbers x 0 (caseStatements n) (timesAll (·.layout.times x))
  resourceList : Numbers x 0 (resourceList n) (timesAll (·.layout.times x) ·.1)
  tryResources : Numbers x 0 (tryResources n) fun r => (layoutResources? (some r)).times x
  tryStatement : Numbers x 0 (tryStatement n) (·.element.layout.times x)
  catchList : Numbers x 0 (catchList n) fun cs => (layoutCatches cs).times x
  expression : Numbers x 0 (expression n) (·.layout.times x)
  lambda : Numbers x 0 (lambda n) (·.layout.times x)
  lambdaParameter : Numbers x 0 (lambdaParameter n) (·.layout.times x)
  ternary : Numbers x 0 (ternary n) (·.layout.times x)
  binary (least : Nat) : Numbers x 0 (binary least n) (·.layout.times x)
  binaryRest (least : Nat) (left : Expression) :
    Numbers x (left.layout.times x) (binaryRest least left n) (·.layout.times x)
  unary : Numbers x 0 (unary n) (·.layout.times x)
  primary : Numbers x 0 (primary n) (·.layout.times x)
  selection (target : Expression) :
    Numbers x (target.layout.times x) (selection target n) (·.layout.times x)
  newExpression : Numbers x 0 (newExpression n) (·.layout.times x)
  dimensionList : Numbers x 0 (dimensionList n) fun ds => (layoutDimensions ds).times x

/-- Each modifier is one node. -/
theorem numbers_modifierList (n : Nat) :
    Numbers x 0 (modifierList n) fun ms => (layoutModifiers ms).times x := by
  induction n with
  | zero => exact .tooDeep
  | succ n ih =>
    rw [modifierList]
    refine .look fun s => .ite .refuse (.ite ?_ (.pure (by simp [layoutModifiers, Layout.each])))
    refine .next fun y => .fresh fun id => ih.bind fun rest => .pure ?_
    simp [layoutModifiers, Layout.each, Modifier.layout]

/-- Putting a variable together takes one id. -/
theorem Numbers.declareOne {pre : Nat} {g : β → Nat} {h : Heading} {declaredType : Option TypeTree}
    {varargs : Option Space} {v : NamedVariable} {k : VariableDeclarations → Parse β}
    (hk : ∀ id, Numbers x (pre + NodeId.times x id)
      (k ⟨id, h.leading, h.annotations, h.modifiers, declaredType, varargs, [.tight v]⟩) g) :
    Numbers x pre (Parser.declareOne h declaredType varargs v >>= k) g :=
  Numbers.fresh hk

/-- The heading and the type were read before it is known that a variable follows. -/
theorem numbers_declareOne (h : Heading) (declaredType : Option TypeTree) (varargs : Option Space)
    (v : NamedVariable) :
    Numbers x (h.times x + (layoutType? declaredType).times x + v.layout.times x)
      (declareOne h declaredType varargs v) (·.layout.times x) := by
  unfold declareOne
  refine .fresh fun id => .pure ?_
  cases varargs <;> simp +arith [VariableDeclarations.layout, Heading.times, Padded.tight]

/-- The cases of a `switch` stand side by side. -/
theorem times_layoutCases_cons (c : Case) (cs : List Case) :
    (layoutCases (c :: cs)).times x = (layoutCases [c]).times x + (layoutCases cs).times x := by
  cases c
  simp [layoutCases]

namespace Numbered

variable {n : Nat} (ih : Numbered x n)
include ih

/-! ### Declarations -/

theorem annotationList_succ :
    Numbers x 0 (Parser.annotationList (n + 1)) fun as => (layoutAnnotations as).times x := by
  rw [Parser.annotationList]
  refine .ask fun b => .ite ?_ (.pure (by simp [layoutAnnotations]))
  exact ih.annotation.bind fun first => ih.annotationList.bind fun rest =>
    .pure (by simp [layoutAnnotations])

theorem heading_succ : Numbers x 0 (Parser.heading (n + 1)) (Heading.times x) := by
  rw [Parser.heading]
  refine .leading fun space => ih.annotationList.bind fun annotations => ?_
  exact (numbers_modifierList n).bind fun modifiers => .pure (by simp [Heading.times])

theorem annotation_succ : Numbers x 0 (Parser.annotation (n + 1)) (·.layout.times x) := by
  rw [Parser.annotation]
  refine .expect fun space => (numbers_qualifiedName n).bind fun name => .is fun b => ?_
  extract_lets -underBinder tail
  refine .meet tail (fun c => (layoutExprs? "(" ")" c).times x) (fun c => .fresh fun id => .pure ?_)
    fun join => ?_
  · simp +arith [ Annotation.layout]
  · refine .ite ?_ ((join none).of_eq (by simp [layoutExprs?]))
    refine (numbers_container "(" ")" ih.annotationArgument n).bind fun arguments => ?_
    exact (join (some arguments)).of_eq (by simp [layoutExprs?])

theorem annotationArgument_succ : Numbers x 0 (Parser.annotationArgument (n + 1))
    (·.layout.times x) := by
  rw [Parser.annotationArgument]
  refine .ask fun b => .ite ?_ ih.elementValue
  refine numbers_ident.bind fun name => .expect fun before => ih.elementValue.bind fun value => ?_
  exact .fresh fun id =>
    .pure (by simp +arith [Expression.layout, Expression.withLeading, Identifier.layout])

theorem elementValue_succ : Numbers x 0 (Parser.elementValue (n + 1)) (·.layout.times x) := by
  rw [Parser.elementValue]
  refine .look fun s => .ite ?_ (.ite .refuse ih.ternary)
  refine .leading fun space => (numbers_container _ _ ih.elementValue n).bind fun elements => ?_
  exact .fresh fun id => .pure (by
    simp +arith [Expression.layout, layoutNewType, layoutDimensions, layoutExprs?])

/-- The heading was read before the keyword, so its nodes are there from the start. -/
theorem classDeclaration_succ (h : Heading) :
    Numbers x (h.times x) (Parser.classDeclaration h (n + 1)) (·.layout.times x) := by
  rw [Parser.classDeclaration]
  refine .next fun y => ?_
  dsimp -zeta only
  extract_lets -underBinder tail
  have declared (keyword : ClassKeyword) :
    Numbers x (h.times x) (tail keyword) (·.layout.times x) := by
    unfold tail
    refine numbers_ident.bind fun name => .is fun b => ?_
    extract_lets -underBinder tail
    refine .meet tail (fun _ => 0) (fun _ => .is fun extended => ?_) fun join =>
      .ite .refuse_bind ((join ()).of_eq (by simp))
    extract_lets -underBinder tail
    refine .meet tail (fun t => (layoutSuper t).times x) (fun superclass => .is fun b => ?_)
      fun join => ?_
    · extract_lets -underBinder tail
      refine .meet tail (fun ts => (layoutTypes? keyword.listKeyword "" ts).times x)
        (fun interfaces => ih.classBody.bind fun body => .fresh fun id => .pure ?_) fun join => ?_
      · simp +arith [ClassDeclaration.layout, Heading.times]
      · have listed (word : String) : Numbers x
            (h.times x + name.layout.times x + 0 + (layoutSuper superclass).times x)
            (keywordList word (typeTree n) n >>= fun list => tail (some list)) (·.layout.times x) :=
          (numbers_keywordList word (numbers_typeTree n) n).bind fun list =>
            (join (some list)).of_eq (by simp [layoutTypes?])
        exact .ite (listed _) (.ite (listed _) ((join none).of_eq (by simp [layoutTypes?])))
    · refine .ite ?_ ((join none).of_eq (by simp [layoutSuper]))
      refine .expect fun before => (numbers_typeTree n).bind fun type => ?_
      exact (join (some ⟨before, type⟩)).of_eq (by simp [layoutSuper])
  split
  · exact declared .clazz
  · exact declared .interface
  · exact .refuse_bind

theorem classBody_succ : Numbers x 0 (Parser.classBody (n + 1)) (·.layout.times x) := by
  rw [Parser.classBody]
  refine .expect fun space => ih.members.bind fun statements => .expect fun close =>
    .fresh fun id => .pure ?_
  simp +arith [Block.layout]

theorem members_succ : Numbers x 0 (Parser.members (n + 1)) (timesAll (·.layout.times x)) := by
  rw [Parser.members]
  refine .look fun s => .ite (.pure rfl) ?_
  extract_lets -underBinder tail
  refine .meet tail (fun _ => 0) (fun _ => .ite ?_ ?_) fun join => .ite .refuse_bind (join ())
  · refine .expect fun space => .fresh fun id => ih.members.bind fun rest => .pure ?_
    simp [Padded.tight, Statement.layout]
  · exact ih.member.bind fun first => ih.members.bind fun rest => .pure (by simp)

/-- A field and a method are told apart behind the type, which both keep. -/
theorem member_succ : Numbers x 0 (Parser.member (n + 1)) (·.element.layout.times x) := by
  rw [Parser.member]
  refine ih.heading.bind fun h => ?_
  rw [Nat.zero_add]
  refine .look fun s => .ite ?_ ?_
  · exact (ih.classDeclaration h).chain fun c => .pure (by rw [Padded.tight, Statement.layout])
  extract_lets -underBinder tail
  refine .meet tail (fun _ => 0) (fun _ => .ite ?_ ?_) fun join =>
    .ite .refuse_bind ((join ()).of_eq (by simp))
  · exact (ih.methodDeclaration h none).of_eq (by simp [layoutType?])
  · refine (numbers_typeTree n).bind fun type => .ask fun b => .ite ?_ ?_
    · exact (ih.methodDeclaration h (some type)).of_eq (by simp [layoutType?])
    · refine ih.declarators.bind fun declarators => .expect fun after => .fresh fun id => .pure ?_
      simp +arith [Statement.layout, VariableDeclarations.layout, Heading.times, layoutType?]

/-- The heading and the type were read before it is known that a method follows. -/
theorem methodDeclaration_succ (h : Heading) (returnType : Option TypeTree) :
    Numbers x (h.times x + (layoutType? returnType).times x)
      (Parser.methodDeclaration h returnType (n + 1))
      (·.element.layout.times x) := by
  rw [Parser.methodDeclaration]
  refine numbers_ident.bind fun name => ?_
  refine (numbers_container "(" ")" ih.formalParameter n).bind fun parameters => .is fun b => ?_
  extract_lets -underBinder tail
  refine .meet tail (fun ts => (layoutTypes? "throws" "" ts).times x)
    (fun throwing => .is fun b => ?_)
    fun join => ?_
  · extract_lets -underBinder tail
    refine .meet tail (fun y => (layoutBlock? y.1).times x) (fun y => .fresh fun id => .pure ?_)
      fun join => ?_
    · simp +arith [Statement.layout, MethodDeclaration.layout, Heading.times]
    · refine .ite ?_ ?_
      · exact ih.block.bind fun body => (join (some body, .empty)).of_eq (by simp [layoutBlock?])
      · exact .expect fun after => (join (none, after)).of_eq (by simp [layoutBlock?])
  · refine .ite ?_ ((join none).of_eq (by simp [layoutTypes?]))
    refine (numbers_keywordList _ (numbers_typeTree n) n).bind fun list => ?_
    exact (join (some list)).of_eq (by simp [layoutTypes?])

theorem formalParameter_succ : Numbers x 0 (Parser.formalParameter (n + 1)) (·.layout.times x) := by
  rw [Parser.formalParameter]
  refine ih.heading.bind fun h => (numbers_typeTree n).bind fun type => .is fun b => ?_
  extract_lets -underBinder tail
  refine .meet tail (fun _ => 0) (fun varargs => (ih.namedVariable false).bind fun v => ?_)
    fun join => ?_
  · exact (numbers_declareOne h (some type) varargs v).of_eq (by simp [layoutType?])
  · exact .ite (.expect fun space => join (some space)) (join none)

theorem namedVariable_succ (withInitializer : Bool) :
    Numbers x 0 (Parser.namedVariable withInitializer (n + 1)) (·.layout.times x) := by
  rw [Parser.namedVariable]
  refine .leading fun space => numbers_ident.bind fun name => .is fun b => ?_
  extract_lets -underBinder tail
  refine .meet tail (fun _ => 0) (fun _ => .is fun b => ?_) fun join =>
    .ite .refuse_bind ((join ()).of_eq (by simp))
  extract_lets -underBinder tail
  refine .meet tail (fun i => (layoutInit i).times x) (fun initializer => .fresh fun id => .pure ?_)
    fun join => ?_
  · simp +arith [NamedVariable.layout]
  · refine .ite ?_ ((join none).of_eq (by simp [layoutInit]))
    refine .expect fun before => ih.variableInitializer.bind fun value => ?_
    exact (join (some ⟨before, value⟩)).of_eq (by simp [layoutInit])

theorem variableInitializer_succ : Numbers x 0 (Parser.variableInitializer (n + 1))
    (·.layout.times x) := by
  rw [Parser.variableInitializer]
  exact .is fun b => .ite ih.arrayInitializer ih.expression

theorem arrayInitializer_succ : Numbers x 0 (Parser.arrayInitializer (n + 1))
    (·.layout.times x) := by
  rw [Parser.arrayInitializer]
  refine .leading fun space =>
    (numbers_container _ _ ih.variableInitializer n).bind fun elements => ?_
  exact .fresh fun id => .pure (by
    simp +arith [Expression.layout, layoutNewType, layoutDimensions, layoutExprs?])

theorem localVariables_succ : Numbers x 0 (Parser.localVariables (n + 1)) (·.layout.times x) := by
  rw [Parser.localVariables]
  refine ih.heading.bind fun h => (numbers_typeTree n).bind fun type =>
    ih.declarators.bind fun vs => ?_
  exact .fresh fun id =>
    .pure (by simp +arith [VariableDeclarations.layout, Heading.times, layoutType?])

/-! ### Statements -/

theorem block_succ : Numbers x 0 (Parser.block (n + 1)) (·.layout.times x) := by
  rw [Parser.block]
  refine .expect fun space => ih.blockStatements.bind fun ss => .expect fun close =>
    .fresh fun id => .pure ?_
  simp +arith [Block.layout]

theorem blockStatements_succ :
    Numbers x 0 (Parser.blockStatements (n + 1)) (timesAll (·.layout.times x)) := by
  rw [Parser.blockStatements]
  refine .look fun s => .ite (.pure rfl) ?_
  extract_lets -underBinder tail
  refine .meet tail (fun _ => 0) (fun _ => ?_) fun join => .ite .refuse_bind (join ())
  exact ih.blockStatement.bind fun first => ih.blockStatements.bind fun rest => .pure (by simp)

/-- A declaration is recognised by a look-ahead, which gives its ids back. -/
theorem blockStatement_succ : Numbers x 0 (Parser.blockStatement (n + 1))
    (·.element.layout.times x) := by
  rw [Parser.blockStatement]
  refine .look fun s =>
    .ite (ih.block.bind fun block => .pure (by simp [Padded.tight, Statement.layout])) ?_
  refine .ite (.expect fun space => .fresh fun id =>
    .pure (by simp [Padded.tight, Statement.layout])) ?_
  refine .ite ?returns (.ite ?throws (.ite ih.ifStatement (.ite ?loop (.ite ih.forStatement
    (.ite ih.tryStatement (.ite ?doWhile (.ite ih.switchStatement (.ite ?jump (.ite ?clazz
      (.ite ?declaration ?expression))))))))))
  case returns =>
    refine .expect fun space => .is fun b => ?_
    extract_lets -underBinder tail
    refine .meet tail (fun e => (layoutExpr? e).times x)
      (fun value => .expect fun after => .fresh fun id => .pure ?_) fun join => ?_
    · simp +arith [Statement.layout]
    · refine .ite ((join none).of_eq (by simp [layoutExpr?])) (ih.expression.bind fun e => ?_)
      exact (join (some e)).of_eq (by simp [layoutExpr?])
  case throws =>
    refine .expect fun space => ih.expression.bind fun e => .expect fun after => .fresh fun id =>
      .pure ?_
    simp +arith [Statement.layout]
  case loop =>
    refine .expect fun space => ih.parenthesized.bind fun condition =>
      ih.blockStatement.bind fun body => ?_
    exact .fresh fun id => .pure (by simp +arith [Padded.tight, Statement.layout])
  case doWhile =>
    refine .expect fun space => ih.blockStatement.bind fun body => .expect fun whileLeading => ?_
    refine ih.parenthesized.bind fun condition => .expect fun after => .fresh fun id => .pure ?_
    simp +arith [Statement.layout]
  case jump =>
    refine .next fun y => .ask fun b => ?_
    extract_lets -underBinder tail
    refine .meet tail (fun label => (layoutLabel label).times x)
      (fun label => .expect fun after => .fresh fun id => .pure ?_) fun join => ?_
    · split <;> simp +arith [Statement.layout]
    · refine .ite (numbers_ident.bind fun label => ?_) ((join none).of_eq (by simp [layoutLabel]))
      exact (join (some label)).of_eq (by simp [layoutLabel])
  case clazz =>
    refine ih.heading.bind fun h => ?_
    rw [Nat.zero_add]
    exact (ih.classDeclaration h).chain fun c => .pure (by rw [Padded.tight, Statement.layout])
  case declaration =>
    exact ih.localVariables.bind fun ds => .expect fun after => .pure (by simp [Statement.layout])
  case expression =>
    exact ih.expression.bind fun e => .expect fun after => .pure (by simp [Statement.layout])

theorem parenthesized_succ : Numbers x 0 (Parser.parenthesized (n + 1)) (·.layout.times x) := by
  rw [Parser.parenthesized]
  exact .expect fun opening => ih.expression.bind fun tree => .expect fun closing =>
    .pure (by simp [Parenthesized.layout])

theorem ifStatement_succ : Numbers x 0 (Parser.ifStatement (n + 1)) (·.element.layout.times x) := by
  rw [Parser.ifStatement]
  refine .expect fun space => ih.parenthesized.bind fun condition =>
    ih.blockStatement.bind fun whenTrue => ?_
  refine .is fun b => ?_
  extract_lets -underBinder tail
  refine .meet tail (fun e => (layoutElse e).times x) (fun whenFalse => .fresh fun id => .pure ?_)
    fun join => ?_
  · simp +arith [Padded.tight, Statement.layout]
  · refine .ite ?_ ((join none).of_eq (by simp [layoutElse]))
    refine .expect fun before => ih.blockStatement.bind fun body => .fresh fun id => ?_
    exact (join (some ⟨id, before, body⟩)).of_eq (by simp +arith [layoutElse])

/-- The two kinds of loop are told apart behind the variable, which both keep. -/
theorem forStatement_succ : Numbers x 0 (Parser.forStatement (n + 1))
    (·.element.layout.times x) := by
  rw [Parser.forStatement]
  refine .expect fun space => .expect fun opening => .look fun s => ?_
  extract_lets -underBinder each tail
  refine .ite ?_ ?_
  · refine ih.heading.bind fun h => (numbers_typeTree n).bind fun type => ?_
    refine (ih.namedVariable false).bind fun v => .expect fun colon =>
      ih.expression.bind fun iterable => ?_
    refine .expect fun close => ih.blockStatement.bind fun body => ?_
    -- The variable is put together behind the loop's body, from parts that were read before it.
    refine .declareOne fun id => .fresh fun id' => .pure ?_
    simp +arith [Padded.tight, Statement.layout, VariableDeclarations.layout, Heading.times,
      layoutType?]
  · refine .meet tail (fun init => (layoutStatement? init).times x) (fun init => ?_) fun join => ?_
    · unfold tail
      refine .expect fun afterInit => .is fun b => ?_
      extract_lets -underBinder tail
      refine .meet tail (fun e => (layoutExpr? e).times x) (fun condition => ?_) fun join => ?_
      · unfold tail
        refine .expect fun afterCondition => .is fun b => ?_
        extract_lets -underBinder tail
        refine .meet tail (timesAll (·.layout.times x)) (fun update => ?_) fun join => ?_
        · unfold tail
          refine .expect fun closing => ih.blockStatement.bind fun body => .fresh fun id => .pure ?_
          simp +arith [Padded.tight, Statement.layout]
        · exact .ite ((join []).of_eq
            (by simp)) ((numbers_commaSeparated ih.expression n).bind join)
      · refine .ite ((join none).of_eq (by simp [layoutExpr?])) (ih.expression.bind fun e => ?_)
        exact (join (some e)).of_eq (by simp [layoutExpr?])
    · refine .ite ((join none).of_eq (by simp [layoutStatement?])) (.ite ?_ ?_)
      · refine ih.localVariables.bind fun declarations => ?_
        exact (join (some _)).of_eq (by simp [layoutStatement?, Statement.layout])
      · refine ih.expression.bind fun e => ?_
        exact (join (some _)).of_eq (by simp [layoutStatement?, Statement.layout])

theorem switchStatement_succ : Numbers x 0 (Parser.switchStatement (n + 1))
    (·.element.layout.times x) := by
  rw [Parser.switchStatement]
  refine .expect fun space => ih.parenthesized.bind fun selector => .expect fun opening => ?_
  refine ih.switchCases.bind fun cases => .expect fun closing => .fresh fun id => .pure ?_
  simp +arith [Padded.tight, Statement.layout]

theorem switchCases_succ : Numbers x 0 (Parser.switchCases (n + 1)) fun cs =>
    (layoutCases cs).times x := by
  rw [Parser.switchCases]
  refine .look fun s => .ite (.pure (by simp [layoutCases])) ?_
  extract_lets -underBinder tail
  refine .meet tail (fun _ => 0) (fun _ => ?_) fun join => .ite .refuse_bind (join ())
  refine ih.switchCase.bind fun first => ih.switchCases.bind fun rest => .pure ?_
  simp [times_layoutCases_cons first rest]

theorem switchCase_succ : Numbers x 0 (Parser.switchCase (n + 1)) fun c =>
    (layoutCases [c]).times x := by
  rw [Parser.switchCase]
  refine .look fun s => ?_
  extract_lets -underBinder tail
  refine .meet tail (fun y => timesAll (·.layout.times x) y.2) (fun y => ?_) fun join => ?_
  · unfold tail
    refine .is fun b => .ite ?_ ?_
    · refine .expect fun separator => ih.blockStatement.bind fun body => .fresh fun id => .pure ?_
      simp +arith [layoutCases, CaseBody.layout]
    · refine .expect fun separator => ih.caseStatements.bind fun list => .fresh fun id => .pure ?_
      simp +arith [layoutCases, CaseBody.layout]
  · refine .ite (.expect fun space => (join (space, [])).of_eq (by simp)) (.ite ?_ .refuse_bind)
    exact .expect fun space => (numbers_commaSeparated ih.ternary n).bind fun labels =>
      join (space, labels)

theorem caseStatements_succ : Numbers x 0 (Parser.caseStatements (n + 1))
    (timesAll (·.layout.times x)) := by
  rw [Parser.caseStatements]
  refine .look fun s => .ite (.pure rfl) ?_
  extract_lets -underBinder tail
  refine .meet tail (fun _ => 0) (fun _ => ?_) fun join => .ite .refuse_bind (join ())
  exact ih.blockStatement.bind fun first => ih.caseStatements.bind fun rest => .pure (by simp)

theorem resourceList_succ :
    Numbers x 0 (Parser.resourceList (n + 1)) (timesAll (·.layout.times x) ·.1) := by
  rw [Parser.resourceList]
  refine .look fun s => .ite (.pure rfl) ?_
  extract_lets -underBinder tail
  refine .meet tail (fun s => s.layout.times x) (fun resource => .is fun b => .ite ?_ ?_)
    fun join => .ite ?_ ?_
  · exact .expect fun after => ih.resourceList.bind fun rest => .pure (by simp)
  · exact .pure (by simp [Padded.tight])
  · exact ih.localVariables.bind fun declarations => (join _).of_eq (by simp [Statement.layout])
  · exact ih.expression.bind fun e => (join _).of_eq (by simp [Statement.layout])

theorem tryResources_succ :
    Numbers x 0 (Parser.tryResources (n + 1)) fun r => (layoutResources? (some r)).times x := by
  rw [Parser.tryResources]
  refine .expect fun opening => ih.resourceList.bind fun ⟨resources, terminated⟩ => ?_
  dsimp -zeta only
  extract_lets -underBinder tail
  refine .meet tail (fun _ => 0) (fun _ => .expect fun closing => .pure ?_) fun join =>
    .ite .refuse_bind (join ())
  simp [layoutResources?]

theorem tryStatement_succ : Numbers x 0 (Parser.tryStatement (n + 1))
    (·.element.layout.times x) := by
  rw [Parser.tryStatement]
  refine .expect fun space => .is fun b => ?_
  extract_lets -underBinder tail
  refine .meet tail (fun r => (layoutResources? r).times x) (fun resources => ?_) fun join => ?_
  · unfold tail
    refine ih.block.bind fun body => ih.catchList.bind fun catches => .is fun b => ?_
    extract_lets -underBinder tail
    refine .meet tail (fun f => (layoutFinally f).times x) (fun finalizer => ?_) fun join => ?_
    · unfold tail
      extract_lets -underBinder tail
      refine .meet tail (fun _ => 0) (fun _ => .fresh fun id => .pure ?_) fun join =>
        .ite .refuse_bind ((join ()).of_eq (by simp))
      simp +arith [Padded.tight, Statement.layout]
    · refine .ite ?_ ((join none).of_eq (by simp [layoutFinally]))
      refine .expect fun before => ih.block.bind fun block => ?_
      exact (join (some ⟨before, block⟩)).of_eq (by simp [layoutFinally])
  · refine .ite (ih.tryResources.bind fun resources => join (some resources)) ?_
    exact (join none).of_eq (by simp [layoutResources?])

/-- Each handler declares one variable. -/
theorem catchList_succ : Numbers x 0 (Parser.catchList (n + 1)) fun cs =>
    (layoutCatches cs).times x := by
  rw [Parser.catchList]
  refine .is fun b => .ite ?_ (.pure (by simp [layoutCatches]))
  refine .expect fun space => .expect fun opening => ih.heading.bind fun h => ?_
  refine (numbers_typeTree n).bind fun type => .is fun b => ?_
  extract_lets -underBinder tail
  refine .meet tail (fun _ => 0) (fun _ => ?_) fun join =>
    .ite .refuse_bind ((join ()).of_eq (by simp))
  unfold tail
  refine (ih.namedVariable false).bind fun v => .expect fun after => ih.block.bind fun body => ?_
  refine .declareOne fun id => .fresh fun id' => ih.catchList.bind fun rest => .pure ?_
  simp +arith [Padded.tight, layoutCatches, VariableDeclarations.layout, Heading.times, layoutType?]

/-! ### Expressions -/

/-- An assignment is recognised behind its target. -/
theorem expression_succ : Numbers x 0 (Parser.expression (n + 1)) (·.layout.times x) := by
  rw [Parser.expression]
  refine .ask fun b => .ite ih.lambda (ih.ternary.bind fun left => .look fun s => ?_)
  split
  · exact .pure (Nat.zero_add _)
  · refine .next fun y => ih.expression.bind fun value => .fresh fun id => .pure ?_
    simp +arith [Expression.layout]

/-- Parameters in parentheses and a bare one meet again in front of the arrow. -/
theorem lambda_succ : Numbers x 0 (Parser.lambda (n + 1)) (·.layout.times x) := by
  rw [Parser.lambda]
  refine .leading fun space => .is fun parenthesized => ?_
  extract_lets -underBinder tail
  refine .meet tail (timesAll (·.layout.times x) ·.elements) (fun parameters => ?_) fun join => ?_
  · unfold tail
    refine .expect fun arrow => .is fun b => ?_
    extract_lets -underBinder tail
    refine .meet tail (fun body => body.layout.times x) (fun body => .fresh fun id => .pure ?_)
      fun join => .ite ?_ ?_
    · cases parenthesized <;> simp +arith [Expression.layout]
    · exact ih.block.bind fun block => (join (.block block)).of_eq (by simp [LambdaBody.layout])
    · exact ih.expression.bind fun e => (join (.expression e)).of_eq (by simp [LambdaBody.layout])
  · refine .ite ((numbers_container "(" ")" ih.lambdaParameter n).bind join) ?_
    refine ih.lambdaParameter.bind fun v => ?_
    exact (join ⟨.empty, [.tight v], .empty⟩).of_eq (by simp [Padded.tight])

theorem lambdaParameter_succ : Numbers x 0 (Parser.lambdaParameter (n + 1)) (·.layout.times x) := by
  rw [Parser.lambdaParameter]
  refine .ask fun b =>
    .ite (.leading fun space => (ih.namedVariable false).bind fun v => ?_) ih.formalParameter
  refine (numbers_declareOne ⟨space, [], []⟩ none none v).of_eq ?_
  simp [Heading.times, layoutAnnotations, layoutModifiers, Layout.each, layoutType?]

theorem ternary_succ : Numbers x 0 (Parser.ternary (n + 1)) (·.layout.times x) := by
  rw [Parser.ternary]
  refine (ih.binary 1).bind fun condition => .is fun b => .ite ?_ (.pure (Nat.zero_add _))
  refine .expect fun question => ih.expression.bind fun whenTrue => .expect fun colon =>
    .ask fun b => ?_
  extract_lets -underBinder tail
  refine .meet tail (fun e => e.layout.times x) (fun whenFalse => .fresh fun id => .pure ?_)
    fun join =>
    .ite (ih.lambda.bind join) (ih.ternary.bind join)
  simp +arith [Expression.layout]

/-- Operators of at least this precedence are taken one by one. -/
theorem binary_succ (least : Nat) : Numbers x 0 (Parser.binary least (n + 1))
    (·.layout.times x) := by
  rw [Parser.binary]
  exact ih.unary.bind fun left => (ih.binaryRest least left).of_eq (by simp)

/-- The left operand is there already when its operator is found. -/
theorem binaryRest_succ (least : Nat) (left : Expression) :
    Numbers x (left.layout.times x) (Parser.binaryRest least left (n + 1)) (·.layout.times x) := by
  rw [Parser.binaryRest]
  refine .look fun s => ?_
  split
  · exact .pure rfl
  · refine .leading fun before => .quiet (quiet_bumps _) fun _ => ?_
    extract_lets -underBinder tail
    refine .meet tail (fun e => e.layout.times x) (fun right => .fresh fun id => ?_) fun join =>
      .ite ?_ ?_
    · refine (ih.binaryRest least _).of_eq ?_
      simp +arith [Expression.layout]
    · refine (numbers_typeTree n).bind fun type => ?_
      split
      · exact (join _).of_eq (by simp [TypeTree.layout])
      · exact .refuse_bind
    · exact (ih.binary _).bind join

theorem unary_succ : Numbers x 0 (Parser.unary (n + 1)) (·.layout.times x) := by
  rw [Parser.unary]
  refine .look fun s => ?_
  split
  · next op found =>
    refine .next fun y => ih.unary.bind fun operand => .fresh fun id => .pure ?_
    rw [Expression.layout]
    split <;> simp +arith
  · refine .ite ?_ (ih.primary.bind fun target => (ih.selection target).of_eq (by simp))
    refine .expect fun space => (numbers_typeTree n).bind fun clazz => .expect fun after => ?_
    exact ih.unary.bind fun operand => .fresh fun id => .pure (by simp +arith [Expression.layout])

theorem primary_succ : Numbers x 0 (Parser.primary (n + 1)) (·.layout.times x) := by
  rw [Parser.primary]
  refine .look fun s => ?_
  extract_lets -underBinder text
  split
  any_goals exact numbers_literal
  · refine .ite numbers_literal (.ite ?_ (.ite ih.newExpression (.ite .refuse ?_)))
    · exact numbers_word.bind fun name => .is fun b =>
        .ite .refuse_bind (.pure (by simp [Expression.layout]))
    · refine numbers_ident.bind fun name => .is fun b =>
        .ite ?_ (.pure (by simp [Expression.layout]))
      refine (numbers_container "(" ")" ih.expression n).bind fun arguments => .fresh fun id =>
        .pure ?_
      simp +arith [Expression.layout, MethodInvocation.layout, layoutSelect, Identifier.layout]
  · refine .ite ?_ (.ite ih.arrayInitializer .refuse)
    refine .expect fun space => ih.expression.bind fun tree => .expect fun after => .fresh fun id =>
      .pure ?_
    simp +arith [Expression.layout]
  · exact .refuse

/-- What is selected from is there already when the point or the bracket is found. -/
theorem selection_succ (target : Expression) :
    Numbers x (target.layout.times x) (Parser.selection target (n + 1)) (·.layout.times x) := by
  rw [Parser.selection]
  refine .look fun s => .ite ?member (.ite ?index (.ite ?reference (.ite ?increment (.pure rfl))))
  case member =>
    extract_lets -underBinder tail
    refine .meet tail (fun _ => 0) (fun _ => .expect fun dot => numbers_word.bind fun name => ?_)
      fun join =>
      .ite .refuse_bind ((join ()).of_eq (by simp))
    extract_lets -underBinder isPseudoField tail
    refine .meet tail (fun _ => 0) (fun _ => .is fun b => .ite ?_ ?_) fun join =>
      .ite .refuse_bind ((join ()).of_eq (by simp))
    · refine (numbers_container "(" ")" ih.expression n).bind fun arguments => .fresh fun id => ?_
      refine (ih.selection _).of_eq ?_
      simp +arith [Expression.layout, MethodInvocation.layout, layoutSelect]
    · refine .fresh fun id => (ih.selection _).of_eq ?_
      simp +arith [Expression.layout, FieldAccess.layout]
  case index =>
    refine .expect fun opening => ih.expression.bind fun index => .expect fun closing =>
      .fresh fun id => ?_
    refine (ih.selection _).of_eq ?_
    simp +arith [Expression.layout, ArrayDimension.layout, layoutExpr?]
  case reference =>
    refine .expect fun colons => numbers_word.bind fun name => .fresh fun id =>
      (ih.selection _).of_eq ?_
    simp +arith [Expression.layout]
  case increment =>
    refine .next fun y => .fresh fun id => (ih.selection _).of_eq ?_
    split <;> simp +arith [Expression.layout, UnaryOp.isPostfix]

/-- The type is read before it is known whether an object or an array is made. -/
theorem newExpression_succ : Numbers x 0 (Parser.newExpression (n + 1)) (·.layout.times x) := by
  rw [Parser.newExpression]
  refine .expect fun space => (numbers_typeBase n).bind fun base => .is fun b => .ite ?_ ?_
  · refine ih.dimensionList.bind fun dimensions => .is fun b => ?_
    extract_lets -underBinder tail
    refine .meet tail (fun c => (layoutExprs? "\x7b" "\x7d" c).times x)
      (fun initializer => .fresh fun id => .pure ?_) fun join => ?_
    · simp +arith [Expression.layout, layoutNewType]
    · refine .ite ?_ ((join none).of_eq (by simp [layoutExprs?]))
      refine (numbers_container _ _ ih.variableInitializer n).bind fun elements => ?_
      exact (join (some elements)).of_eq (by simp [layoutExprs?])
  · refine (numbers_container "(" ")" ih.expression n).bind fun arguments => .is fun b => ?_
    extract_lets -underBinder tail
    refine .meet tail (fun b => (layoutBlock? b).times x) (fun body => .fresh fun id => .pure ?_)
      fun join => ?_
    · simp +arith [Expression.layout]
    · refine .ite (ih.classBody.bind fun body => ?_) ((join none).of_eq (by simp [layoutBlock?]))
      exact (join (some body)).of_eq (by simp [layoutBlock?])

theorem dimensionList_succ :
    Numbers x 0 (Parser.dimensionList (n + 1)) fun ds => (layoutDimensions ds).times x := by
  rw [Parser.dimensionList]
  refine .is fun b => .ite (.expect fun opening => .is fun b => ?_)
    (.pure (by simp [layoutDimensions]))
  extract_lets -underBinder tail
  refine .meet tail (fun e => (layoutExpr? e).times x)
    (fun index => .expect fun closing => ih.dimensionList.bind fun rest => .pure ?_) fun join => ?_
  · simp [layoutDimensions, ArrayDimension.layout]
  · refine .ite ((join none).of_eq (by simp [layoutExpr?])) (ih.expression.bind fun e => ?_)
    exact (join (some e)).of_eq (by simp [layoutExpr?])

end Numbered

/-- The facts at all bounds, by induction on the bound. -/
theorem numbered (x : NodeId) (n : Nat) : Numbered x n := by
  induction n with
  | zero => constructor <;> intros <;> exact .tooDeep
  | succ n ih => exact {
    annotationList := ih.annotationList_succ
    heading := ih.heading_succ
    annotation := ih.annotation_succ
    annotationArgument := ih.annotationArgument_succ
    elementValue := ih.elementValue_succ
    classDeclaration := ih.classDeclaration_succ
    classBody := ih.classBody_succ
    members := ih.members_succ
    member := ih.member_succ
    methodDeclaration := ih.methodDeclaration_succ
    formalParameter := ih.formalParameter_succ
    namedVariable := ih.namedVariable_succ
    variableInitializer := ih.variableInitializer_succ
    arrayInitializer := ih.arrayInitializer_succ
    declarators := numbers_commaSeparated (ih.namedVariable true) n
    localVariables := ih.localVariables_succ
    block := ih.block_succ
    blockStatements := ih.blockStatements_succ
    blockStatement := ih.blockStatement_succ
    parenthesized := ih.parenthesized_succ
    ifStatement := ih.ifStatement_succ
    forStatement := ih.forStatement_succ
    switchStatement := ih.switchStatement_succ
    switchCases := ih.switchCases_succ
    switchCase := ih.switchCase_succ
    caseStatements := ih.caseStatements_succ
    resourceList := ih.resourceList_succ
    tryResources := ih.tryResources_succ
    tryStatement := ih.tryStatement_succ
    catchList := ih.catchList_succ
    expression := ih.expression_succ
    lambda := ih.lambda_succ
    lambdaParameter := ih.lambdaParameter_succ
    ternary := ih.ternary_succ
    binary := ih.binary_succ
    binaryRest := ih.binaryRest_succ
    unary := ih.unary_succ
    primary := ih.primary_succ
    selection := ih.selection_succ
    newExpression := ih.newExpression_succ
    dimensionList := ih.dimensionList_succ
  }

/-! ## Units -/

/-- Each further segment makes one selection, as in other names. -/
theorem numbers_importRest (n : Nat) (name : Expression) :
    Numbers x (name.layout.times x) (importRest name n) (·.layout.times x) := by
  induction n generalizing name with
  | zero => exact .tooDeep
  | succ n ih =>
    rw [importRest]
    refine .is fun b => .ite (.expect fun dot => .is fun b => ?_) (.pure rfl)
    extract_lets -underBinder tail
    have join (segment : Identifier) :
        Numbers x (name.layout.times x + segment.layout.times x) (tail segment)
          (·.layout.times x) :=
      .fresh fun id => (ih _).of_eq (by simp +arith [Expression.layout, FieldAccess.layout])
    refine .ite (.next fun y => .fresh fun id => (join _).of_eq ?_) (numbers_ident.bind join)
    simp [Identifier.layout]

theorem numbers_importName (n : Nat) : Numbers x 0 (importName n) (·.layout.times x) := by
  unfold importName
  refine numbers_ident.bind fun name => ?_
  refine .chain ((numbers_importRest n (.identifier name)).of_eq
    (by simp [Expression.layout])) fun e => ?_
  split
  · exact .pure (by simp [Expression.layout])
  · exact .refuse

theorem numbers_packageDeclaration (n : Nat) :
    Numbers x 0 (packageDeclaration n) fun p => (p.map (·.element.layout.times x)).getD 0 := by
  unfold packageDeclaration
  refine .is fun b => .ite (.expect fun space => (numbers_qualifiedName n).bind fun name => ?_)
    (.pure rfl)
  exact .expect fun after => .fresh fun id => .pure (by simp +arith [Package.layout])

theorem numbers_importList (n : Nat) :
    Numbers x 0 (importList n) (timesAll (·.layout.times x)) := by
  induction n with
  | zero => exact .tooDeep
  | succ n ih =>
    rw [importList]
    refine .is fun b => .ite (.expect fun space => .is fun b => ?_) (.pure rfl)
    extract_lets -underBinder tail
    refine .meet tail (fun _ => 0) (fun staticLeading => ?_) fun join =>
      .ite (.expect fun space => join (some space)) (join none)
    refine (numbers_importName n).bind fun name => .expect fun after => .fresh fun id => ?_
    refine ih.bind fun rest => .pure ?_
    cases staticLeading <;> simp +arith [Import.layout]

theorem numbers_classList (n : Nat) :
    Numbers x 0 (classList n) fun cs => (Layout.each ClassDeclaration.layout cs).times x := by
  induction n with
  | zero => exact .tooDeep
  | succ n ih =>
    rw [classList]
    refine .ask fun b =>
      .ite (.pure (by simp [Layout.each])) ((numbered x n).heading.bind fun h => ?_)
    rw [Nat.zero_add]
    refine .ask fun b => .ite (((numbered x n).classDeclaration h).chain fun first => ?_) .refuse
    exact ih.bind fun rest => .pure (by simp [Layout.each])

theorem times_imports (is : List (Padded Import)) :
    (Layout.each (fun ⟨i, after⟩ => i.layout ++ after.layout ++ tok ";") is).times x =
      timesAll (·.layout.times x) is := by
  induction is with
  | nil => rfl
  | cons i is ih => simp [Layout.each, ih]

/-- The unit itself has no id that its parts do not count. -/
theorem numbers_unit (path : String) (n : Nat) : Numbers x 0 (unit path n) (·.layout.times x) := by
  unfold unit
  refine (numbers_packageDeclaration n).bind fun package =>
    (numbers_importList n).bind fun imports => ?_
  refine (numbers_classList n).bind fun classes => .fresh fun id => .look fun s => .pure ?_
  cases package <;> simp +arith [CompilationUnit.layout, times_imports]

end Parser

/-- No two nodes of a unit that is read have one id. -/
theorem nodup_ids_parseUnit {path source : String} {nextId n : NodeId} {u : CompilationUnit}
    (h : parseUnit path source nextId = .ok (u, n)) : u.ids.Nodup := by
  obtain ⟨ts, s, -, run⟩ := exists_unit h
  rw [List.nodup_iff_count_le_one]
  intro x
  have counted := Parser.numbers_unit (x := x) path _ _ u s run
  have once : Parser.State.free x ⟨ts, false, nextId⟩ ≤ 1 := by
    unfold Parser.State.free
    split <;> omega
  change u.layout.times x ≤ 1
  dsimp only at counted
  omega

end Retouch
