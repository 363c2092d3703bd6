import Retouch.Parser.Grammar
import Retouch.Proofs.Parser.Operators

/-!
# The grammar loses nothing

Every nonterminal gives a tree in which a view sees what it has read (`Lossless`). The nonterminals
recurse on one bound, so the facts at a bound are one structure: each step lemma proves one of them
at `n + 1` from all of them at `n`, and `lossless` puts them together.

* `Heading.seen`: what is seen of what stands in front of a declaration, which is read before it is
  known what is declared.
* `seenEnded`: a statement, and the semicolon that ends it.
-/

namespace Retouch.Parser

variable {δ : Type} {w : View δ}

section Texts

@[simp]
theorem seen_layoutExprs (opening closing : String) (c : Container Expression) :
    w.seen (layoutExprs opening closing c) = delimited w opening closing (w.seen ·.layout) c := by
  cases c
  simp [layoutExprs, delimited, layoutExprList_eq, View.seen_separate]

@[simp]
theorem seen_layoutParameters (opening closing : String) (c : Container VariableDeclarations) :
    w.seen (layoutParameters opening closing c) =
      delimited w opening closing (w.seen ·.layout) c := by
  cases c
  simp [layoutParameters, delimited, layoutParameterList_eq, View.seen_separate]

@[simp]
theorem seen_layoutVariables (vs : List (Padded NamedVariable)) :
    w.seen (layoutVariables vs) = w.separated (w.seen ·.layout) vs := by
  rw [layoutVariables_eq, View.seen_separate]

/-- What is seen of what stands in front of a declaration. -/
def Heading.seen (w : View δ) (h : Heading) : List δ :=
  w.see h.leading.text ++ w.seen (layoutAnnotations h.annotations) ++
    w.seen (layoutModifiers h.modifiers)

/-- What is seen of a statement and of its end. -/
def seenEnded (w : View δ) (p : Padded Statement) : List δ :=
  w.seen p.element.layout ++ w.seen (layoutEnd p.element.needsSemicolon p.after)

/-- The trivia in front of a semicolon are seen although the semicolon is left out. -/
@[simp]
theorem seen_layoutEnd (semicolon : Bool) (after : Space) :
    w.seen (layoutEnd semicolon after) =
      w.see after.text ++ if semicolon then w.see ";" else [] := by
  cases semicolon <;> simp [layoutEnd]

theorem seen_layoutCases_cons (c : Case) (cs : List Case) :
    w.seen (layoutCases (c :: cs)) = w.seen (layoutCases [c]) ++ w.seen (layoutCases cs) := by
  cases c
  simp [layoutCases]

/-- A statement that nothing ends. -/
theorem seenEnded_tight {s : Statement} (h : s.needsSemicolon = false) :
    seenEnded w (.tight s) = w.seen s.layout := by
  simp [seenEnded, Padded.tight, h]

/-- A statement with a semicolon behind it. -/
theorem seenEnded_semicolon {s : Statement} {after : Space} (h : s.needsSemicolon = true) :
    seenEnded w ⟨s, after⟩ = w.seen s.layout ++ w.see after.text ++ w.see ";" := by
  simp [seenEnded, h]

end Texts

/-- What is seen of every nonterminal, at one bound on the depth. -/
structure Lossless (w : View δ) (n : Nat) : Prop where
  annotationList : Reads w [] (annotationList n) fun as => w.seen (layoutAnnotations as)
  heading : Reads w [] (heading n) (Heading.seen w)
  annotation : (Reads w [] <| annotation n) (w.seen ·.layout)
  annotationArgument : Reads w [] (annotationArgument n) (w.seen ·.layout)
  elementValue : Reads w [] (elementValue n) (w.seen ·.layout)
  classDeclaration (h : Heading) : Reads w (h.seen w) (classDeclaration h n) (w.seen ·.layout)
  classBody : Reads w [] (classBody n) (w.seen ·.layout)
  members : Reads w [] (members n) fun ss => w.seen (layoutStatements ss)
  member : Reads w [] (member n) (seenEnded w)
  methodDeclaration (h : Heading) (returnType : Option TypeTree) :
    Reads w (h.seen w ++ w.seen (layoutType? returnType)) (methodDeclaration h returnType n)
      (seenEnded w)
  formalParameter : Reads w [] (formalParameter n) (w.seen ·.layout)
  namedVariable (withInitializer : Bool) :
    Reads w [] (namedVariable withInitializer n) (w.seen ·.layout)
  variableInitializer : Reads w [] (variableInitializer n) (w.seen ·.layout)
  arrayInitializer : Reads w [] (arrayInitializer n) (w.seen ·.layout)
  declarators : Reads w [] (declarators n) (w.separated (w.seen ·.layout))
  localVariables : Reads w [] (localVariables n) (w.seen ·.layout)
  block : Reads w [] (block n) (w.seen ·.layout)
  blockStatements : Reads w [] (blockStatements n) fun ss => w.seen (layoutStatements ss)
  blockStatement : Reads w [] (blockStatement n) (seenEnded w)
  parenthesized : Reads w [] (parenthesized n) (w.seen ·.layout)
  ifStatement : Reads w [] (ifStatement n) (seenEnded w)
  forStatement : Reads w [] (forStatement n) (seenEnded w)
  switchStatement : Reads w [] (switchStatement n) (seenEnded w)
  switchCases : Reads w [] (switchCases n) fun cs => w.seen (layoutCases cs)
  switchCase : Reads w [] (switchCase n) fun c => w.seen (layoutCases [c])
  caseStatements : Reads w [] (caseStatements n) fun ss => w.seen (layoutStatements ss)
  resourceList : Reads w [] (resourceList n) fun r => w.seen (layoutResources r.2 r.1)
  tryResources : Reads w [] (tryResources n) fun r => w.seen (layoutResources? (some r))
  tryStatement : Reads w [] (tryStatement n) (seenEnded w)
  catchList : Reads w [] (catchList n) fun cs => w.seen (layoutCatches cs)
  expression : Reads w [] (expression n) (w.seen ·.layout)
  lambda : Reads w [] (lambda n) (w.seen ·.layout)
  lambdaParameter : Reads w [] (lambdaParameter n) (w.seen ·.layout)
  ternary : Reads w [] (ternary n) (w.seen ·.layout)
  binary (least : Nat) : Reads w [] (binary least n) (w.seen ·.layout)
  binaryRest (least : Nat) (left : Expression) :
    Reads w (w.seen left.layout) (binaryRest least left n) (w.seen ·.layout)
  unary : Reads w [] (unary n) (w.seen ·.layout)
  primary : Reads w [] (primary n) (w.seen ·.layout)
  selection (target : Expression) :
    Reads w (w.seen target.layout) (selection target n) (w.seen ·.layout)
  newExpression : Reads w [] (newExpression n) (w.seen ·.layout)
  dimensionList : Reads w [] (dimensionList n) fun ds => w.seen (layoutDimensions ds)

theorem reads_modifierList (n : Nat) :
    Reads w [] (modifierList n) fun ms => w.seen (layoutModifiers ms) := by
  induction n with
  | zero => exact Reads.tooDeep
  | succ n ih =>
    rw [modifierList]
    refine Reads.look fun s => ?_
    split
    · exact Reads.refuse
    · split
      · refine Reads.next fun space token => ?_
        refine Reads.fresh fun id => ?_
        refine ih.bind fun rest => ?_
        exact Reads.pure (by simp [layoutModifiers, Layout.each, Modifier.layout])
      · exact Reads.pure (by simp [layoutModifiers, Layout.each])

/-- Putting a variable together reads nothing. -/
theorem Reads.declareOne {β : Type} {pre : List δ} {g : β → List δ} {h : Heading}
    {declaredType : Option TypeTree} {varargs : Option Space} {v : NamedVariable}
    {k : VariableDeclarations → Parse β}
    (hk : ∀ id, Reads w pre
      (k ⟨id, h.leading, h.annotations, h.modifiers, declaredType, varargs, [.tight v]⟩) g) :
    Reads w pre (Parser.declareOne h declaredType varargs v >>= k) g :=
  fun s sound => hk s.nextId { s with nextId := s.nextId + 1 } sound

/-- What was read in front of it - the heading, the type, the dots and the variable - is all of a
declaration. -/
theorem reads_declareOne (h : Heading) (declaredType : Option TypeTree) (varargs : Option Space)
    (v : NamedVariable) :
    Reads w (h.seen w ++ w.seen (layoutType? declaredType) ++
        (match varargs with | none => [] | some s => w.see s.text ++ w.see "...") ++
          w.seen v.layout)
      (declareOne h declaredType varargs v) (w.seen ·.layout) := by
  unfold declareOne
  refine Reads.fresh fun id => ?_
  refine Reads.pure ?_
  cases varargs <;> simp [VariableDeclarations.layout, Heading.seen]

namespace Lossless

variable {n : Nat} (ih : Lossless w n)
include ih

/-! ## Declarations -/

theorem annotationList_succ :
    Reads w [] (Parser.annotationList (n + 1)) fun as => w.seen (layoutAnnotations as) := by
  rw [Parser.annotationList]
  refine Reads.ask fun b => ?_
  split
  · refine ih.annotation.bind fun first => ?_
    refine ih.annotationList.bind fun rest => ?_
    exact Reads.pure (by simp [layoutAnnotations])
  · exact Reads.pure (by simp [layoutAnnotations])

/-- Annotations and modifiers stand in the order in which they were read. -/
theorem heading_succ : Reads w [] (Parser.heading (n + 1)) (Heading.seen w) := by
  rw [Parser.heading]
  refine Reads.leading fun space => ?_
  refine ih.annotationList.bind fun annotations => ?_
  refine (reads_modifierList n).bind fun modifiers => ?_
  exact Reads.pure (by simp [Heading.seen])

/-- The parentheses are seen if they were read, with arguments or without. -/
theorem annotation_succ : Reads w [] (Parser.annotation (n + 1)) (w.seen ·.layout) := by
  rw [Parser.annotation]
  refine Reads.expect fun space => ?_
  refine (reads_qualifiedName n).bind fun name => ?_
  refine Reads.is fun b => ?_
  extract_lets -underBinder tail
  refine Reads.meet tail (fun c => w.seen (layoutExprs? "(" ")" c)) (fun c => ?_) fun join => ?_
  · unfold tail
    refine Reads.fresh fun id => ?_
    exact Reads.pure (by simp [ Annotation.layout])
  · split
    · refine (reads_container "(" ")" ih.annotationArgument n).bind fun arguments => ?_
      exact (join (some arguments)).of_eq (by simp [layoutExprs?])
    · exact (join none).of_eq (by simp [layoutExprs?])

theorem annotationArgument_succ :
    Reads w [] (Parser.annotationArgument (n + 1)) (w.seen ·.layout) := by
  rw [Parser.annotationArgument]
  refine Reads.ask fun b => ?_
  split
  · refine Reads.ident fun name => ?_
    refine Reads.expect fun before => ?_
    refine ih.elementValue.bind fun value => ?_
    refine Reads.fresh fun id => ?_
    exact Reads.pure (by
      simp [Expression.layout, Expression.leading, Expression.withLeading,
        Identifier.layout, AssignOp.spelling])
  · exact ih.elementValue

theorem elementValue_succ : Reads w [] (Parser.elementValue (n + 1)) (w.seen ·.layout) := by
  rw [Parser.elementValue]
  refine Reads.look fun s => ?_
  split
  · refine Reads.leading fun space => ?_
    refine (reads_container _ _ ih.elementValue n).bind fun elements => ?_
    refine Reads.fresh fun id => ?_
    exact Reads.pure (by simp [Expression.layout, layoutNewType, layoutDimensions, layoutExprs?])
  · split
    · exact Reads.refuse
    · exact ih.ternary

/-- The heading was read by the caller, and the class goes on behind it. -/
theorem classDeclaration_succ (h : Heading) :
    Reads w (h.seen w) (Parser.classDeclaration h (n + 1)) (w.seen ·.layout) := by
  rw [Parser.classDeclaration]
  refine Reads.next fun keywordLeading token => ?_
  dsimp -zeta only
  extract_lets -underBinder tail
  have declared (keyword : ClassKeyword) (word : token.text = keyword.text) :
      Reads w (h.seen w ++ (w.see keywordLeading.text ++ w.see token.text)) (tail keyword)
        (w.seen ·.layout) := by
    unfold tail
    refine Reads.ident fun name => ?_
    refine Reads.is fun b => ?_
    extract_lets -underBinder tail
    refine Reads.meet tail (fun _ => []) (fun _ => ?_) fun join => ?_
    · unfold tail
      refine Reads.is fun extended => ?_
      extract_lets -underBinder tail
      refine Reads.meet tail (fun t => w.seen (layoutSuper t)) (fun superclass => ?_) fun join => ?_
      · unfold tail
        refine Reads.is fun b => ?_
        extract_lets -underBinder tail
        refine Reads.meet tail (fun ts => w.seen (layoutTypes? keyword.listKeyword "" ts))
          (fun interfaces => ?_) fun join => ?_
        · unfold tail
          refine ih.classBody.bind fun body => ?_
          refine Reads.fresh fun id => ?_
          exact Reads.pure (by simp [ClassDeclaration.layout, Heading.seen, word])
        · cases keyword with
          | clazz =>
            rw [if_neg (by simp)]
            split
            · refine (reads_keywordList _ (reads_typeTree n) n).bind fun list => ?_
              exact (join (some list)).of_eq (by simp [layoutTypes?, ClassKeyword.listKeyword])
            · exact (join none).of_eq (by simp [layoutTypes?])
          | interface =>
            split
            · refine (reads_keywordList _ (reads_typeTree n) n).bind fun list => ?_
              exact (join (some list)).of_eq (by simp [layoutTypes?, ClassKeyword.listKeyword])
            · rw [if_neg (by simp)]
              exact (join none).of_eq (by simp [layoutTypes?])
      · split
        · refine Reads.expect fun before => ?_
          refine (reads_typeTree n).bind fun type => ?_
          exact (join (some ⟨before, type⟩)).of_eq (by simp [layoutSuper])
        · exact (join none).of_eq (by simp [layoutSuper])
    · split
      · exact Reads.refuse_bind
      · exact (join ()).of_eq (by simp)
  split
  · next word => exact declared .clazz word
  · next word => exact declared .interface word
  · exact Reads.refuse_bind

theorem classBody_succ : Reads w [] (Parser.classBody (n + 1)) (w.seen ·.layout) := by
  rw [Parser.classBody]
  refine Reads.expect fun space => ?_
  refine ih.members.bind fun statements => ?_
  refine Reads.expect fun close => ?_
  refine Reads.fresh fun id => ?_
  exact Reads.pure (by simp [Block.layout])

/-- The members of a class, each with what ends it. -/
theorem members_succ :
    Reads w [] (Parser.members (n + 1)) fun ss => w.seen (layoutStatements ss) := by
  rw [Parser.members]
  refine Reads.look fun s => ?_
  split
  · exact Reads.pure (by simp [layoutStatements])
  · extract_lets -underBinder tail
    refine Reads.meet tail (fun _ => []) (fun _ => ?_) fun join => ?_
    · unfold tail
      split
      · refine Reads.expect fun space => ?_
        refine Reads.fresh fun id => ?_
        refine ih.members.bind fun rest => ?_
        refine Reads.pure ?_
        simp [layoutStatements, Padded.tight, Statement.layout, Statement.needsSemicolon]
      · refine ih.member.bind fun first => ?_
        refine ih.members.bind fun rest => ?_
        exact Reads.pure (by simp [layoutStatements, seenEnded])
    · split
      · exact Reads.refuse_bind
      · exact join ()

/-- A member is told by its heading, which is read before it is known what follows. -/
theorem member_succ : Reads w [] (Parser.member (n + 1)) (seenEnded w) := by
  rw [Parser.member]
  refine ih.heading.bind fun h => ?_
  rw [List.nil_append]
  refine Reads.look fun s => ?_
  split
  · refine (ih.classDeclaration h).chain fun c => ?_
    refine Reads.pure ?_
    rw [seenEnded_tight rfl, Statement.layout]
  · extract_lets -underBinder tail
    refine Reads.meet tail (fun _ => []) (fun _ => ?_) fun join => ?_
    · unfold tail
      split
      · exact (ih.methodDeclaration h none).of_eq (by simp [layoutType?])
      · refine (reads_typeTree n).bind fun type => ?_
        refine Reads.ask fun b => ?_
        split
        · exact (ih.methodDeclaration h (some type)).of_eq (by simp [layoutType?])
        · refine ih.declarators.bind fun declarators => ?_
          refine Reads.expect fun after => ?_
          refine Reads.fresh fun id => ?_
          refine Reads.pure ?_
          rw [seenEnded_semicolon rfl]
          simp [Statement.layout, VariableDeclarations.layout, Heading.seen, layoutType?]
    · split
      · exact Reads.refuse_bind
      · exact (join ()).of_eq (by simp)

/-- The heading and the type were read by the caller; a constructor has no type. -/
theorem methodDeclaration_succ (h : Heading) (returnType : Option TypeTree) :
    Reads w (h.seen w ++ w.seen (layoutType? returnType))
      (Parser.methodDeclaration h returnType (n + 1)) (seenEnded w) := by
  rw [Parser.methodDeclaration]
  refine Reads.ident fun name => ?_
  refine (reads_container "(" ")" ih.formalParameter n).bind fun parameters => ?_
  refine Reads.is fun b => ?_
  extract_lets -underBinder tail
  refine Reads.meet tail (fun ts => w.seen (layoutTypes? "throws" "" ts)) (fun throwing => ?_)
    fun join => ?_
  · unfold tail
    refine Reads.is fun b => ?_
    extract_lets -underBinder tail
    -- A body, or the end of the declaration.
    refine Reads.meet tail
      (fun x => w.seen (layoutBlock? x.1) ++ w.seen (layoutEnd x.1.isNone x.2)) (fun x => ?_)
      fun join => ?_
    · unfold tail
      refine Reads.fresh fun id => ?_
      refine Reads.pure ?_
      simp [seenEnded, Statement.layout, Statement.needsSemicolon, MethodDeclaration.layout,
        Heading.seen]
    · split
      · refine ih.block.bind fun body => ?_
        exact (join (some body, .empty)).of_eq (by simp [layoutBlock?])
      · refine Reads.expect fun after => ?_
        exact (join (none, after)).of_eq (by simp [layoutBlock?])
  · split
    · refine (reads_keywordList _ (reads_typeTree n) n).bind fun list => ?_
      exact (join (some list)).of_eq (by simp [layoutTypes?])
    · exact (join none).of_eq (by simp [layoutTypes?])

theorem formalParameter_succ : Reads w [] (Parser.formalParameter (n + 1)) (w.seen ·.layout) := by
  rw [Parser.formalParameter]
  refine ih.heading.bind fun h => ?_
  refine (reads_typeTree n).bind fun type => ?_
  refine Reads.is fun b => ?_
  extract_lets -underBinder tail
  refine Reads.meet tail
    (fun varargs => match varargs with | none => [] | some s => w.see s.text ++ w.see "...")
    (fun varargs => ?_) fun join => ?_
  · unfold tail
    refine (ih.namedVariable false).bind fun v => ?_
    exact (reads_declareOne h (some type) varargs v).of_eq (by simp [layoutType?])
  · split
    · refine Reads.expect fun space => ?_
      exact (join (some space)).of_eq (by simp)
    · exact (join none).of_eq (by simp)

/-- A name and perhaps a value; brackets behind the name are refused. -/
theorem namedVariable_succ (withInitializer : Bool) :
    Reads w [] (Parser.namedVariable withInitializer (n + 1)) (w.seen ·.layout) := by
  rw [Parser.namedVariable]
  refine Reads.leading fun space => ?_
  refine Reads.ident fun name => ?_
  refine Reads.is fun b => ?_
  extract_lets -underBinder tail
  refine Reads.meet tail (fun _ => []) (fun _ => ?_) fun join => ?_
  · unfold tail
    refine Reads.is fun b => ?_
    extract_lets -underBinder tail
    refine Reads.meet tail (fun i => w.seen (layoutInit i)) (fun initializer => ?_) fun join => ?_
    · unfold tail
      refine Reads.fresh fun id => ?_
      exact Reads.pure (by simp [NamedVariable.layout])
    · split
      · refine Reads.expect fun before => ?_
        refine ih.variableInitializer.bind fun value => ?_
        exact (join (some ⟨before, value⟩)).of_eq (by simp [layoutInit])
      · exact (join none).of_eq (by simp [layoutInit])
  · split
    · exact Reads.refuse_bind
    · exact (join ()).of_eq (by simp)

theorem variableInitializer_succ :
    Reads w [] (Parser.variableInitializer (n + 1)) (w.seen ·.layout) := by
  rw [Parser.variableInitializer]
  refine Reads.is fun b => ?_
  split
  · exact ih.arrayInitializer
  · exact ih.expression

theorem arrayInitializer_succ : Reads w [] (Parser.arrayInitializer (n + 1)) (w.seen ·.layout) := by
  rw [Parser.arrayInitializer]
  refine Reads.leading fun space => ?_
  refine (reads_container _ _ ih.variableInitializer n).bind fun elements => ?_
  refine Reads.fresh fun id => ?_
  exact Reads.pure (by simp [Expression.layout, layoutNewType, layoutDimensions, layoutExprs?])

/-- One variable behind the other, with commas between them. -/
theorem declarators_succ :
    Reads w [] (Parser.declarators (n + 1)) (w.separated (w.seen ·.layout)) := by
  rw [Parser.declarators]
  exact reads_commaSeparated (ih.namedVariable true) n

theorem localVariables_succ : Reads w [] (Parser.localVariables (n + 1)) (w.seen ·.layout) := by
  rw [Parser.localVariables]
  refine ih.heading.bind fun h => ?_
  refine (reads_typeTree n).bind fun type => ?_
  refine ih.declarators.bind fun declarators => ?_
  refine Reads.fresh fun id => ?_
  exact Reads.pure (by simp [VariableDeclarations.layout, Heading.seen, layoutType?])

/-! ## Statements -/

theorem block_succ : Reads w [] (Parser.block (n + 1)) (w.seen ·.layout) := by
  rw [Parser.block]
  refine Reads.expect fun space => ?_
  refine ih.blockStatements.bind fun statements => ?_
  refine Reads.expect fun close => ?_
  refine Reads.fresh fun id => ?_
  exact Reads.pure (by simp [Block.layout])

/-- The statements up to the brace that ends the block. -/
theorem blockStatements_succ :
    Reads w [] (Parser.blockStatements (n + 1)) fun ss => w.seen (layoutStatements ss) := by
  rw [Parser.blockStatements]
  refine Reads.look fun s => ?_
  split
  · exact Reads.pure (by simp [layoutStatements])
  · extract_lets -underBinder tail
    refine Reads.meet tail (fun _ => []) (fun _ => ?_) fun join => ?_
    · unfold tail
      refine ih.blockStatement.bind fun first => ?_
      refine ih.blockStatements.bind fun rest => ?_
      exact Reads.pure (by simp [layoutStatements, seenEnded])
    · split
      · exact Reads.refuse_bind
      · exact join ()

/-- A statement with what ends it, one case for each word that it may begin with. -/
theorem blockStatement_succ : Reads w [] (Parser.blockStatement (n + 1)) (seenEnded w) := by
  rw [Parser.blockStatement]
  refine Reads.get fun s sound => ?_
  refine ReadsFrom.ite (fun _ => ?_) fun _ => ?_
  · refine ih.block.bind (fun block => ?_) s sound
    refine Reads.pure ?_
    rw [seenEnded_tight rfl]
    simp [Statement.layout]
  refine ReadsFrom.ite (fun _ => ?_) fun _ => ?_
  · refine Reads.expect (fun space => ?_) s sound
    refine Reads.fresh fun id => ?_
    refine Reads.pure ?_
    simp [seenEnded, Padded.tight, Statement.needsSemicolon, Statement.layout]
  refine ReadsFrom.ite (fun _ => ?_) fun _ => ?_
  · refine Reads.expect (fun space => ?_) s sound
    refine Reads.is fun b => ?_
    extract_lets -underBinder tail
    refine Reads.meet tail (fun e => w.seen (layoutExpr? e)) (fun value => ?_) fun join => ?_
    · unfold tail
      refine Reads.expect fun after => ?_
      refine Reads.fresh fun id => ?_
      refine Reads.pure ?_
      rw [seenEnded_semicolon rfl]
      simp [Statement.layout]
    · split
      · exact (join none).of_eq (by simp [layoutExpr?])
      · refine ih.expression.bind fun e => ?_
        exact (join (some e)).of_eq (by simp [layoutExpr?])
  refine ReadsFrom.ite (fun _ => ?_) fun _ => ?_
  · refine Reads.expect (fun space => ?_) s sound
    refine ih.expression.bind fun exception => ?_
    refine Reads.expect fun after => ?_
    refine Reads.fresh fun id => ?_
    refine Reads.pure ?_
    rw [seenEnded_semicolon rfl]
    simp [Statement.layout]
  refine ReadsFrom.ite (fun _ => ?_) fun _ => ?_
  · exact ih.ifStatement s sound
  refine ReadsFrom.ite (fun _ => ?_) fun _ => ?_
  · refine Reads.expect (fun space => ?_) s sound
    refine ih.parenthesized.bind fun condition => ?_
    refine ih.blockStatement.bind fun body => ?_
    refine Reads.fresh fun id => ?_
    refine Reads.pure ?_
    rw [seenEnded_tight rfl]
    simp [seenEnded, Statement.layout]
  refine ReadsFrom.ite (fun _ => ?_) fun _ => ?_
  · exact ih.forStatement s sound
  refine ReadsFrom.ite (fun _ => ?_) fun _ => ?_
  · exact ih.tryStatement s sound
  refine ReadsFrom.ite (fun _ => ?_) fun _ => ?_
  · refine Reads.expect (fun space => ?_) s sound
    refine ih.blockStatement.bind fun body => ?_
    refine Reads.expect fun whileLeading => ?_
    refine ih.parenthesized.bind fun condition => ?_
    refine Reads.expect fun after => ?_
    refine Reads.fresh fun id => ?_
    refine Reads.pure ?_
    simp [seenEnded, Statement.needsSemicolon, Statement.layout]
  refine ReadsFrom.ite (fun _ => ?_) fun _ => ?_
  · exact ih.switchStatement s sound
  refine ReadsFrom.ite (fun jump => ?_) fun _ => ?_
  · refine ReadsFrom.next sound fun space => ?_
    refine Reads.ask fun b => ?_
    extract_lets -underBinder tail
    refine Reads.meet tail (fun label => w.seen (layoutLabel label)) (fun label => ?_)
      fun join => ?_
    · unfold tail
      refine Reads.expect fun after => ?_
      refine Reads.fresh fun id => ?_
      refine Reads.pure ?_
      -- The word that was read decides which of the two jumps it is.
      split
      · next word =>
        rw [seenEnded_semicolon rfl, eq_of_beq word]
        simp [Statement.layout]
      · next word =>
        have word : s.peek.text = "continue" := by
          rw [Bool.or_eq_true] at jump
          obtain isBreak | isContinue := jump
          · exact absurd (beq_iff_eq.2 (State.text_of_is isBreak)) word
          · exact State.text_of_is isContinue
        rw [seenEnded_semicolon rfl, word]
        simp [Statement.layout]
    · split
      · refine Reads.ident fun label => ?_
        exact (join (some label)).of_eq (by simp [layoutLabel])
      · exact (join none).of_eq (by simp [layoutLabel])
  refine ReadsFrom.ite (fun _ => ?_) fun _ => ?_
  · refine ih.heading.bind (fun h => ?_) s sound
    rw [List.nil_append]
    refine (ih.classDeclaration h).chain fun c => ?_
    refine Reads.pure ?_
    rw [seenEnded_tight rfl, Statement.layout]
  refine ReadsFrom.ite (fun _ => ?_) fun _ => ?_
  · refine ih.localVariables.bind (fun declarations => ?_) s sound
    refine Reads.expect fun after => ?_
    refine Reads.pure ?_
    rw [seenEnded_semicolon rfl]
    simp [Statement.layout]
  · refine ih.expression.bind (fun e => ?_) s sound
    refine Reads.expect fun after => ?_
    refine Reads.pure ?_
    rw [seenEnded_semicolon rfl]
    simp [Statement.layout]

theorem parenthesized_succ : Reads w [] (Parser.parenthesized (n + 1)) (w.seen ·.layout) := by
  rw [Parser.parenthesized]
  refine Reads.expect fun opening => ?_
  refine ih.expression.bind fun tree => ?_
  refine Reads.expect fun closing => ?_
  exact Reads.pure (by simp [Parenthesized.layout])

theorem ifStatement_succ : Reads w [] (Parser.ifStatement (n + 1)) (seenEnded w) := by
  rw [Parser.ifStatement]
  refine Reads.expect fun space => ?_
  refine ih.parenthesized.bind fun condition => ?_
  refine ih.blockStatement.bind fun whenTrue => ?_
  refine Reads.is fun b => ?_
  extract_lets -underBinder tail
  refine Reads.meet tail (fun e => w.seen (layoutElse e)) (fun whenFalse => ?_) fun join => ?_
  · unfold tail
    refine Reads.fresh fun id => ?_
    refine Reads.pure ?_
    rw [seenEnded_tight rfl]
    simp [seenEnded, Statement.layout]
  · split
    · refine Reads.expect fun before => ?_
      refine ih.blockStatement.bind fun body => ?_
      refine Reads.fresh fun id => ?_
      exact (join (some ⟨id, before, body⟩)).of_eq (by simp [layoutElse, seenEnded])
    · exact (join none).of_eq (by simp [layoutElse])

/-- Which kind of loop it is, is looked up before anything between the parentheses is read. -/
theorem forStatement_succ : Reads w [] (Parser.forStatement (n + 1)) (seenEnded w) := by
  rw [Parser.forStatement]
  refine Reads.expect fun space => ?_
  refine Reads.expect fun opening => ?_
  refine Reads.look fun s => ?_
  extract_lets -underBinder each tail
  split
  · refine ih.heading.bind fun h => ?_
    refine (reads_typeTree n).bind fun type => ?_
    refine (ih.namedVariable false).bind fun v => ?_
    refine Reads.expect fun colon => ?_
    refine ih.expression.bind fun iterable => ?_
    refine Reads.expect fun close => ?_
    refine ih.blockStatement.bind fun body => ?_
    -- The variable is put together behind the loop's body, from parts that were read before it.
    refine Reads.declareOne fun id => ?_
    refine Reads.fresh fun id => ?_
    refine Reads.pure ?_
    rw [seenEnded_tight rfl]
    simp [seenEnded, Statement.layout, VariableDeclarations.layout, Heading.seen, layoutType?]
  · refine Reads.meet tail (fun init => w.seen (layoutStatement? init)) (fun init => ?_)
      fun join => ?_
    · unfold tail
      refine Reads.expect fun afterInit => ?_
      refine Reads.is fun b => ?_
      extract_lets -underBinder tail
      refine Reads.meet tail (fun e => w.seen (layoutExpr? e)) (fun condition => ?_) fun join => ?_
      · unfold tail
        refine Reads.expect fun afterCondition => ?_
        refine Reads.is fun b => ?_
        extract_lets -underBinder tail
        refine Reads.meet tail (w.separated (w.seen ·.layout)) (fun update => ?_) fun join => ?_
        · unfold tail
          refine Reads.expect fun closing => ?_
          refine ih.blockStatement.bind fun body => ?_
          refine Reads.fresh fun id => ?_
          refine Reads.pure ?_
          rw [seenEnded_tight rfl]
          simp [seenEnded, Statement.layout, layoutExprList_eq, View.seen_separate]
        · split
          · exact (join []).of_eq (by simp)
          · exact (reads_commaSeparated ih.expression n).bind join
      · split
        · exact (join none).of_eq (by simp [layoutExpr?])
        · refine ih.expression.bind fun e => ?_
          exact (join (some e)).of_eq (by simp [layoutExpr?])
    · split
      · exact (join none).of_eq (by simp [layoutStatement?])
      · split
        · refine ih.localVariables.bind fun declarations => ?_
          exact (join (some _)).of_eq (by simp [layoutStatement?, Statement.layout])
        · refine ih.expression.bind fun e => ?_
          exact (join (some _)).of_eq (by simp [layoutStatement?, Statement.layout])

theorem switchStatement_succ : Reads w [] (Parser.switchStatement (n + 1)) (seenEnded w) := by
  rw [Parser.switchStatement]
  refine Reads.expect fun space => ?_
  refine ih.parenthesized.bind fun selector => ?_
  refine Reads.expect fun opening => ?_
  refine ih.switchCases.bind fun cases => ?_
  refine Reads.expect fun closing => ?_
  refine Reads.fresh fun id => ?_
  refine Reads.pure ?_
  rw [seenEnded_tight rfl]
  simp [Statement.layout]

theorem switchCases_succ :
    Reads w [] (Parser.switchCases (n + 1)) fun cs => w.seen (layoutCases cs) := by
  rw [Parser.switchCases]
  refine Reads.look fun s => ?_
  split
  · exact Reads.pure (by simp [layoutCases])
  · extract_lets -underBinder tail
    refine Reads.meet tail (fun _ => []) (fun _ => ?_) fun join => ?_
    · unfold tail
      refine ih.switchCase.bind fun first => ?_
      refine ih.switchCases.bind fun rest => ?_
      exact Reads.pure (by simp [seen_layoutCases_cons first rest])
    · split
      · exact Reads.refuse_bind
      · exact join ()

/-- One case, with a colon or an arrow. -/
theorem switchCase_succ :
    Reads w [] (Parser.switchCase (n + 1)) fun c => w.seen (layoutCases [c]) := by
  rw [Parser.switchCase]
  refine Reads.look fun s => ?_
  extract_lets -underBinder tail
  refine Reads.meet tail
    (fun x => w.see x.1.text ++ w.see (if x.2.isEmpty then "default" else "case") ++
      w.separated (w.seen ·.layout) x.2) (fun x => ?_) fun join => ?_
  · unfold tail
    refine Reads.is fun b => ?_
    refine Reads.ite (fun _ => ?_) fun _ => ?_
    · refine Reads.expect fun separator => ?_
      refine ih.blockStatement.bind fun body => ?_
      refine Reads.fresh fun id => ?_
      refine Reads.pure ?_
      simp [layoutCases, CaseBody.layout, seenEnded, layoutExprList_eq, View.seen_separate]
    · refine Reads.expect fun separator => ?_
      refine ih.caseStatements.bind fun list => ?_
      refine Reads.fresh fun id => ?_
      refine Reads.pure ?_
      simp [layoutCases, CaseBody.layout, layoutExprList_eq, View.seen_separate]
  · split
    · refine Reads.expect fun space => ?_
      exact (join (space, [])).of_eq (by simp)
    · split
      · refine Reads.expect fun space => ?_
        refine (reads_commaSeparated ih.ternary n).bind_returns fun labels returned => ?_
        have labelled := ne_nil_of_commaSeparated returned
        exact (join (space, labels)).of_eq (by simp [labelled])
      · exact Reads.refuse_bind

/-- The statements of a case, up to the next case or the end of the switch. -/
theorem caseStatements_succ :
    Reads w [] (Parser.caseStatements (n + 1)) fun ss => w.seen (layoutStatements ss) := by
  rw [Parser.caseStatements]
  refine Reads.look fun s => ?_
  split
  · exact Reads.pure (by simp [layoutStatements])
  · extract_lets -underBinder tail
    refine Reads.meet tail (fun _ => []) (fun _ => ?_) fun join => ?_
    · unfold tail
      refine ih.blockStatement.bind fun first => ?_
      refine ih.caseStatements.bind fun rest => ?_
      exact Reads.pure (by simp [layoutStatements, seenEnded])
    · split
      · exact Reads.refuse_bind
      · exact join ()

omit ih in
/-- Without a resource the list ends at once. -/
theorem terminated_of_resourceList {r : List (Padded Statement) × Bool}
    (h : Returns (Parser.resourceList n) r) (empty : r.1 = []) : r.2 = true := by
  obtain ⟨s, s', h⟩ := h
  cases n with
  | zero =>
    change Except.error _ = Except.ok _ at h
    simp at h
  | succ n =>
    rw [Parser.resourceList] at h
    obtain ⟨s, t, -, h⟩ := bind_ok h
    split at h
    · cases h
      rfl
    · extract_lets -underBinder tail at h
      have more {resource : Statement} {t : State} (h : tail resource t = .ok (r, s')) :
          r.1 ≠ [] := by
        obtain ⟨b, t, -, h⟩ := bind_ok h
        split at h
        · obtain ⟨after, t, -, h⟩ := bind_ok h
          obtain ⟨⟨rest, terminated⟩, t, -, h⟩ := bind_ok h
          cases h
          exact List.cons_ne_nil _ _
        · cases h
          exact List.cons_ne_nil _ _
      split at h
      · obtain ⟨declarations, t, -, h⟩ := bind_ok h
        exact absurd empty (more h)
      · obtain ⟨e, t, -, h⟩ := bind_ok h
        exact absurd empty (more h)

/-- A semicolon behind the last resource is kept as a mark of the list. -/
theorem resourceList_succ :
    Reads w [] (Parser.resourceList (n + 1)) fun r => w.seen (layoutResources r.2 r.1) := by
  rw [Parser.resourceList]
  refine Reads.look fun s => ?_
  split
  · exact Reads.pure (by simp [layoutResources])
  · extract_lets -underBinder tail
    refine Reads.meet tail (fun s => w.seen s.layout) (fun resource => ?_) fun join => ?_
    · unfold tail
      refine Reads.is fun b => ?_
      split
      · refine Reads.expect fun after => ?_
        refine ih.resourceList.bind_returns fun ⟨resources, terminated⟩ returned => ?_
        refine Reads.pure ?_
        cases resources with
        | nil =>
          obtain rfl : terminated = true := terminated_of_resourceList returned rfl
          simp [layoutResources]
        | cons p ps => simp [layoutResources]
      · exact Reads.pure (by simp [layoutResources, Padded.tight])
    · split
      · refine ih.localVariables.bind fun declarations => ?_
        exact (join _).of_eq (by simp [Statement.layout])
      · refine ih.expression.bind fun e => ?_
        exact (join _).of_eq (by simp [Statement.layout])

theorem tryResources_succ :
    Reads w [] (Parser.tryResources (n + 1)) fun r => w.seen (layoutResources? (some r)) := by
  rw [Parser.tryResources]
  refine Reads.expect fun opening => ?_
  refine ih.resourceList.bind fun ⟨resources, terminated⟩ => ?_
  dsimp -zeta only
  extract_lets -underBinder tail
  refine Reads.meet tail (fun _ => []) (fun _ => ?_) fun join => ?_
  · unfold tail
    refine Reads.expect fun closing => ?_
    exact Reads.pure (by simp [layoutResources?])
  · split
    · exact Reads.refuse_bind
    · exact (join ()).of_eq (by simp)

theorem tryStatement_succ : Reads w [] (Parser.tryStatement (n + 1)) (seenEnded w) := by
  rw [Parser.tryStatement]
  refine Reads.expect fun space => ?_
  refine Reads.is fun b => ?_
  extract_lets -underBinder tail
  refine Reads.meet tail (fun r => w.seen (layoutResources? r)) (fun resources => ?_) fun join => ?_
  · unfold tail
    refine ih.block.bind fun body => ?_
    refine ih.catchList.bind fun catches => ?_
    refine Reads.is fun b => ?_
    extract_lets -underBinder tail
    refine Reads.meet tail (fun f => w.seen (layoutFinally f)) (fun finalizer => ?_) fun join => ?_
    · unfold tail
      extract_lets -underBinder tail
      refine Reads.meet tail (fun _ => []) (fun _ => ?_) fun join => ?_
      · unfold tail
        refine Reads.fresh fun id => ?_
        refine Reads.pure ?_
        rw [seenEnded_tight rfl]
        simp [Statement.layout]
      · split
        · exact Reads.refuse_bind
        · exact (join ()).of_eq (by simp)
    · split
      · refine Reads.expect fun before => ?_
        refine ih.block.bind fun block => ?_
        exact (join (some ⟨before, block⟩)).of_eq (by simp [layoutFinally])
      · exact (join none).of_eq (by simp [layoutFinally])
  · split
    · exact ih.tryResources.bind fun resources => join (some resources)
    · exact (join none).of_eq (by simp [layoutResources?])

/-- Each clause declares one variable; several types in one clause are refused. -/
theorem catchList_succ :
    Reads w [] (Parser.catchList (n + 1)) fun cs => w.seen (layoutCatches cs) := by
  rw [Parser.catchList]
  refine Reads.is fun b => ?_
  split
  · refine Reads.expect fun space => ?_
    refine Reads.expect fun opening => ?_
    refine ih.heading.bind fun h => ?_
    refine (reads_typeTree n).bind fun type => ?_
    refine Reads.is fun b => ?_
    extract_lets -underBinder tail
    refine Reads.meet tail (fun _ => []) (fun _ => ?_) fun join => ?_
    · unfold tail
      refine (ih.namedVariable false).bind fun v => ?_
      refine Reads.expect fun after => ?_
      refine ih.block.bind fun body => ?_
      refine Reads.declareOne fun id => ?_
      refine Reads.fresh fun id => ?_
      refine ih.catchList.bind fun rest => ?_
      refine Reads.pure ?_
      simp [layoutCatches, VariableDeclarations.layout, Heading.seen, layoutType?]
    · split
      · exact Reads.refuse_bind
      · exact (join ()).of_eq (by simp)
  · exact Reads.pure (by simp [layoutCatches])

/-! ## Expressions -/

theorem expression_succ : Reads w [] (Parser.expression (n + 1)) (w.seen ·.layout) := by
  rw [Parser.expression]
  refine Reads.ask fun b => ?_
  split
  · exact ih.lambda
  · refine ih.ternary.bind fun left => ?_
    refine Reads.get fun s sound => ?_
    split
    · exact Reads.pure (by simp) s sound
    · next op found =>
      have word : op.spelling = s.peek.text := by
        split at found
        · exact spelling_of_ofSpelling? found
        · cases found
      refine ReadsFrom.next sound fun before => ?_
      refine ih.expression.bind fun value => ?_
      refine Reads.fresh fun id => ?_
      refine Reads.pure ?_
      rw [w.seen_expression left]
      simp [Expression.layout, word]

/-- Parameters with parentheses or a bare one. -/
theorem lambda_succ : Reads w [] (Parser.lambda (n + 1)) (w.seen ·.layout) := by
  rw [Parser.lambda]
  refine Reads.leading fun space => ?_
  refine Reads.is fun parenthesized => ?_
  extract_lets -underBinder tail
  refine Reads.meet tail
    (fun c => if parenthesized then delimited w "(" ")" (w.seen ·.layout) c
      else w.seen (layoutBareParameters c.elements)) (fun parameters => ?_) fun join => ?_
  · unfold tail
    refine Reads.expect fun arrow => ?_
    refine Reads.is fun b => ?_
    extract_lets -underBinder tail
    refine Reads.meet tail (fun body => w.seen body.layout) (fun body => ?_) fun join => ?_
    · unfold tail
      refine Reads.fresh fun id => ?_
      exact Reads.pure (by cases parenthesized <;> simp [Expression.layout])
    · refine Reads.ite (fun _ => ?_) fun _ => ?_
      · refine ih.block.bind fun block => ?_
        exact (join (.block block)).of_eq (by simp [LambdaBody.layout])
      · refine ih.expression.bind fun e => ?_
        exact (join (.expression e)).of_eq (by simp [LambdaBody.layout])
  · cases parenthesized with
    | true => exact (reads_container "(" ")" ih.lambdaParameter n).bind join
    | false =>
      refine ih.lambdaParameter.bind fun v => ?_
      exact (join ⟨.empty, [.tight v], .empty⟩).of_eq (by simp [layoutBareParameters, Padded.tight])

theorem lambdaParameter_succ : Reads w [] (Parser.lambdaParameter (n + 1)) (w.seen ·.layout) := by
  rw [Parser.lambdaParameter]
  refine Reads.ask fun b => ?_
  split
  · refine Reads.leading fun space => ?_
    refine (ih.namedVariable false).bind fun v => ?_
    refine (reads_declareOne ⟨space, [], []⟩ none none v).of_eq ?_
    simp [Heading.seen, layoutAnnotations, layoutModifiers, Layout.each, layoutType?]
  · exact ih.formalParameter

theorem ternary_succ : Reads w [] (Parser.ternary (n + 1)) (w.seen ·.layout) := by
  rw [Parser.ternary]
  refine (ih.binary 1).bind fun condition => ?_
  refine Reads.is fun b => ?_
  split
  · refine Reads.expect fun question => ?_
    refine ih.expression.bind fun whenTrue => ?_
    refine Reads.expect fun colon => ?_
    refine Reads.ask fun b => ?_
    extract_lets -underBinder tail
    refine Reads.meet tail (fun e => w.seen e.layout) (fun whenFalse => ?_) fun join => ?_
    · unfold tail
      refine Reads.fresh fun id => ?_
      refine Reads.pure ?_
      rw [w.seen_expression condition]
      simp [Expression.layout]
    · split
      · exact ih.lambda.bind join
      · exact ih.ternary.bind join
  · exact Reads.pure (by simp)

theorem binary_succ (least : Nat) :
    Reads w [] (Parser.binary least (n + 1)) (w.seen ·.layout) := by
  rw [Parser.binary]
  refine ih.unary.bind fun left => ?_
  exact (ih.binaryRest least left).of_eq (by simp)

/-- Behind the left operand, which was read before: each operator that is strong enough takes it
over as the left operand of a new operation. -/
theorem binaryRest_succ (least : Nat) (left : Expression) :
    Reads w (w.seen left.layout) (Parser.binaryRest least left (n + 1)) (w.seen ·.layout) := by
  rw [Parser.binaryRest]
  refine Reads.get fun s sound => ?_
  split
  · exact Reads.pure (by simp) s sound
  · next op width found =>
    have found : binaryOp? s = some (op, width) := (Option.filter_eq_some_iff.1 found).1
    refine ReadsFrom.operator sound found fun before => ?_
    extract_lets -underBinder tail
    refine Reads.meet tail (fun e => w.seen e.layout) (fun right => ?_) fun join => ?_
    · unfold tail
      refine Reads.fresh fun id => ?_
      refine (ih.binaryRest least _).of_eq ?_
      rw [w.seen_expression left]
      simp [Expression.layout]
    · split
      · refine (reads_typeTree n).bind fun type => ?_
        split
        · exact (join _).of_eq (by simp [TypeTree.layout])
        · exact Reads.refuse_bind
      · exact (ih.binary (op.precedence + 1)).bind join

/-- Operators in front of an operand, a cast, and operators behind one. -/
theorem unary_succ : Reads w [] (Parser.unary (n + 1)) (w.seen ·.layout) := by
  rw [Parser.unary]
  refine Reads.get fun s sound => ?_
  split
  · next op found =>
    obtain ⟨word, inFront⟩ := unaryOp?_some found
    refine ReadsFrom.next sound fun space => ?_
    refine ih.unary.bind fun operand => ?_
    refine Reads.fresh fun id => ?_
    exact Reads.pure (by simp [Expression.layout, inFront, word])
  · refine ReadsFrom.ite (fun _ => ?_) fun _ => ?_
    · refine Reads.expect (fun space => ?_) s sound
      refine (reads_typeTree n).bind fun clazz => ?_
      refine Reads.expect fun after => ?_
      refine ih.unary.bind fun operand => ?_
      refine Reads.fresh fun id => ?_
      exact Reads.pure (by simp [Expression.layout])
    · refine ih.primary.bind (fun target => ?_) s sound
      exact (ih.selection target).of_eq (by simp)

theorem primary_succ : Reads w [] (Parser.primary (n + 1)) (w.seen ·.layout) := by
  rw [Parser.primary]
  refine Reads.look fun s => ?_
  extract_lets -underBinder text
  split
  any_goals exact reads_literal
  · refine Reads.ite (fun _ => reads_literal) fun _ => ?_
    refine Reads.ite (fun _ => ?_) fun _ => ?_
    · refine Reads.word fun name => ?_
      refine Reads.is fun b => ?_
      refine Reads.ite (fun _ => Reads.refuse_bind) fun _ => ?_
      exact Reads.pure (by simp [Expression.layout])
    refine Reads.ite (fun _ => ih.newExpression) fun _ => ?_
    refine Reads.ite (fun _ => Reads.refuse) fun _ => ?_
    refine Reads.ident fun name => ?_
    refine Reads.is fun b => ?_
    refine Reads.ite (fun _ => ?_) fun _ => ?_
    · refine (reads_container "(" ")" ih.expression n).bind fun arguments => ?_
      refine Reads.fresh fun id => ?_
      refine Reads.pure ?_
      simp [Expression.layout, MethodInvocation.layout, layoutSelect, Identifier.layout]
    · exact Reads.pure (by simp [Expression.layout])
  · refine Reads.ite (fun _ => ?_) fun _ => ?_
    · refine Reads.expect fun space => ?_
      refine ih.expression.bind fun tree => ?_
      refine Reads.expect fun after => ?_
      refine Reads.fresh fun id => ?_
      exact Reads.pure (by simp [Expression.layout])
    · exact Reads.ite (fun _ => ih.arrayInitializer) fun _ => Reads.refuse
  · exact Reads.refuse

/-- Behind an expression that was read before: each selection takes it over as its target. -/
theorem selection_succ (target : Expression) :
    Reads w (w.seen target.layout) (Parser.selection target (n + 1)) (w.seen ·.layout) := by
  rw [Parser.selection]
  refine Reads.get fun s sound => ?_
  refine ReadsFrom.ite (fun _ => ?_) fun _ => ?_
  · refine (?_ : Reads w _ _ _) s sound
    extract_lets -underBinder tail
    refine Reads.meet tail (fun _ => []) (fun _ => ?_) fun join => ?_
    · unfold tail
      refine Reads.expect fun dot => ?_
      refine Reads.word fun name => ?_
      extract_lets -underBinder isPseudoField tail
      refine Reads.meet tail (fun _ => []) (fun _ => ?_) fun join => ?_
      · unfold tail
        rw [w.seen_expression target]
        refine Reads.is fun b => ?_
        refine Reads.ite (fun _ => ?_) fun _ => ?_
        · refine (reads_container "(" ")" ih.expression n).bind fun arguments => ?_
          refine Reads.fresh fun id => ?_
          refine (ih.selection _).of_eq ?_
          simp [Expression.layout, MethodInvocation.layout, layoutSelect]
        · refine Reads.fresh fun id => ?_
          refine (ih.selection _).of_eq ?_
          simp [Expression.layout, FieldAccess.layout]
      · refine Reads.ite (fun _ => Reads.refuse_bind) fun _ => ?_
        exact (join ()).of_eq (by simp)
    · refine Reads.ite (fun _ => Reads.refuse_bind) fun _ => ?_
      exact (join ()).of_eq (by simp)
  refine ReadsFrom.ite (fun _ => ?_) fun _ => ?_
  · refine Reads.expect (fun opening => ?_) s sound
    refine ih.expression.bind fun index => ?_
    refine Reads.expect fun closing => ?_
    refine Reads.fresh fun id => ?_
    refine (ih.selection _).of_eq ?_
    rw [w.seen_expression target]
    simp [Expression.layout, ArrayDimension.layout, layoutExpr?]
  refine ReadsFrom.ite (fun _ => ?_) fun _ => ?_
  · refine Reads.expect (fun colons => ?_) s sound
    refine Reads.word fun name => ?_
    refine Reads.fresh fun id => ?_
    refine (ih.selection _).of_eq ?_
    rw [w.seen_expression target]
    simp [Expression.layout]
  refine ReadsFrom.ite (fun step => ?_) fun _ => ?_
  · refine ReadsFrom.next sound fun before => ?_
    refine Reads.fresh fun id => ?_
    refine (ih.selection _).of_eq ?_
    rw [w.seen_expression target]
    split
    · next word =>
      rw [eq_of_beq word]
      simp [Expression.layout, UnaryOp.isPostfix, UnaryOp.spelling]
    · next word =>
      have word : s.peek.text = "--" := by
        rw [Bool.or_eq_true] at step
        obtain up | down := step
        · exact absurd (beq_iff_eq.2 (State.text_of_is up)) word
        · exact State.text_of_is down
      rw [word]
      simp [Expression.layout, UnaryOp.isPostfix, UnaryOp.spelling]
  · exact Reads.pure (by simp) s sound

theorem newExpression_succ : Reads w [] (Parser.newExpression (n + 1)) (w.seen ·.layout) := by
  rw [Parser.newExpression]
  refine Reads.expect fun space => ?_
  refine (reads_typeBase n).bind fun base => ?_
  refine Reads.is fun b => ?_
  split
  · refine ih.dimensionList.bind fun dimensions => ?_
    refine Reads.is fun b => ?_
    extract_lets -underBinder tail
    refine Reads.meet tail (fun c => w.seen (layoutExprs? "\x7b" "\x7d" c)) (fun initializer => ?_)
      fun join => ?_
    · unfold tail
      refine Reads.fresh fun id => ?_
      exact Reads.pure (by simp [Expression.layout, layoutNewType])
    · split
      · refine (reads_container _ _ ih.variableInitializer n).bind fun elements => ?_
        exact (join (some elements)).of_eq (by simp [layoutExprs?])
      · exact (join none).of_eq (by simp [layoutExprs?])
  · refine (reads_container "(" ")" ih.expression n).bind fun arguments => ?_
    refine Reads.is fun b => ?_
    extract_lets -underBinder tail
    refine Reads.meet tail (fun b => w.seen (layoutBlock? b)) (fun body => ?_) fun join => ?_
    · unfold tail
      refine Reads.fresh fun id => ?_
      exact Reads.pure (by simp [Expression.layout])
    · split
      · refine ih.classBody.bind fun body => ?_
        exact (join (some body)).of_eq (by simp [layoutBlock?])
      · exact (join none).of_eq (by simp [layoutBlock?])

theorem dimensionList_succ :
    Reads w [] (Parser.dimensionList (n + 1)) fun ds => w.seen (layoutDimensions ds) := by
  rw [Parser.dimensionList]
  refine Reads.is fun b => ?_
  split
  · refine Reads.expect fun opening => ?_
    refine Reads.is fun b => ?_
    extract_lets -underBinder tail
    refine Reads.meet tail (fun e => w.seen (layoutExpr? e)) (fun index => ?_) fun join => ?_
    · unfold tail
      refine Reads.expect fun closing => ?_
      refine ih.dimensionList.bind fun rest => ?_
      exact Reads.pure (by simp [layoutDimensions, ArrayDimension.layout])
    · split
      · exact (join none).of_eq (by simp [layoutExpr?])
      · refine ih.expression.bind fun e => ?_
        exact (join (some e)).of_eq (by simp [layoutExpr?])
  · exact Reads.pure (by simp [layoutDimensions])

end Lossless

/-- Every nonterminal reads what it gives, at every bound on the depth. -/
theorem lossless (w : View δ) (n : Nat) : Lossless w n := by
  induction n with
  | zero => constructor <;> intros <;> exact Reads.tooDeep
  | succ n ih => exact {
    annotationList := ih.annotationList_succ
    heading := ih.heading_succ
    annotation := ih.annotation_succ
    annotationArgument := ih.annotationArgument_succ
    elementValue := ih.elementValue_succ
    classDeclaration := ih.classDeclaration_succ
    classBody := ih.classBody_succ
    members := ih.members_succ
    member := ih.member_succ
    methodDeclaration := ih.methodDeclaration_succ
    formalParameter := ih.formalParameter_succ
    namedVariable := ih.namedVariable_succ
    variableInitializer := ih.variableInitializer_succ
    arrayInitializer := ih.arrayInitializer_succ
    declarators := ih.declarators_succ
    localVariables := ih.localVariables_succ
    block := ih.block_succ
    blockStatements := ih.blockStatements_succ
    blockStatement := ih.blockStatement_succ
    parenthesized := ih.parenthesized_succ
    ifStatement := ih.ifStatement_succ
    forStatement := ih.forStatement_succ
    switchStatement := ih.switchStatement_succ
    switchCases := ih.switchCases_succ
    switchCase := ih.switchCase_succ
    caseStatements := ih.caseStatements_succ
    resourceList := ih.resourceList_succ
    tryResources := ih.tryResources_succ
    tryStatement := ih.tryStatement_succ
    catchList := ih.catchList_succ
    expression := ih.expression_succ
    lambda := ih.lambda_succ
    lambdaParameter := ih.lambdaParameter_succ
    ternary := ih.ternary_succ
    binary := ih.binary_succ
    binaryRest := ih.binaryRest_succ
    unary := ih.unary_succ
    primary := ih.primary_succ
    selection := ih.selection_succ
    newExpression := ih.newExpression_succ
    dimensionList := ih.dimensionList_succ
  }

end Retouch.Parser
