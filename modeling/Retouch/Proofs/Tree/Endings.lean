import Retouch.Proofs.Tree.View

/-!
# Where statements end

A statement takes a semicolon behind it, or it ends with a brace or a semicolon itself
(`Block.isDelimited`).
-/

namespace Retouch

/-- A brace or a semicolon. -/
def isClosing (s : String) : Bool := s == "\x7b" || s == "\x7d" || s == ";"

theorem isClosing_iff {s : String} : isClosing s = true ↔ s = "\x7b" ∨ s = "\x7d" ∨ s = ";" := by
  simp [isClosing, or_assoc]

/-- The texts, without empty ones and with the marks of a shift apart. -/
def View.texts : View String where
  see s := if s.toList.all (· == '>') then s.toList.map String.singleton else [s]
  see_empty := rfl
  see_shift := by decide
  see_unsigned := by decide

namespace Layout

/-- The layout ends with a brace or a semicolon. -/
def isEnded (l : Layout) : Bool := (View.texts.seen l).getLast?.any isClosing

variable {l l' : Layout}

theorem isEnded_iff : l.isEnded = true ↔ ∃ ts s, View.texts.seen l = ts ++ [s] ∧
    isClosing s = true := by
  rw [isEnded, Option.any_eq_true]
  constructor
  · rintro ⟨s, last, closing⟩
    obtain ⟨ts, texts⟩ := List.getLast?_eq_some_iff.1 last
    exact ⟨ts, s, texts, closing⟩
  · rintro ⟨ts, s, texts, closing⟩
    exact ⟨s, by simp [texts], closing⟩

/-- Only the end of a layout matters. -/
theorem isEnded_append (h : l'.isEnded = true) : (l ++ l').isEnded = true := by
  obtain ⟨ts, s, texts, closing⟩ := isEnded_iff.1 h
  exact isEnded_iff.2 ⟨View.texts.seen l ++ ts, s, by simp [texts], closing⟩

/-- Only the texts of a layout matter. -/
theorem isEnded_of_texts (same : View.texts.seen l' = View.texts.seen l) (h : l.isEnded = true) :
    l'.isEnded = true := by
  rwa [isEnded, same]

theorem isEnded_node (id : NodeId) (leading : Space) (h : l.isEnded = true) :
    (node id leading l).isEnded = true := by
  have ends : (.piece (.text leading.text) ++ .piece (.enter id) ++ l : Layout).isEnded = true :=
    isEnded_append h
  exact isEnded_of_texts (by simp [node]) ends

theorem isEnded_tok {s : String} (h : isClosing s = true) : (tok s).isEnded = true := by
  obtain rfl | rfl | rfl := isClosing_iff.1 h <;> rfl

end Layout

/-- A statement and what is behind it in a block. -/
def Padded.statementLayout (p : Padded Statement) : Layout :=
  p.element.layout ++ layoutEnd p.element.needsSemicolon p.after

namespace Padded

variable {p : Padded Statement} {s : Statement}

/-- Behind a statement in a layout. -/
theorem isEnded_append (h : p.statementLayout.isEnded = true) (l : Layout) :
    (l ++ p.element.layout ++ layoutEnd p.element.needsSemicolon p.after).isEnded = true := by
  have behind : (l ++ p.statementLayout).isEnded = true := Layout.isEnded_append h
  exact Layout.isEnded_of_texts (by simp [statementLayout]) behind

/-- A statement with a semicolon behind it. -/
theorem isEnded_of_needsSemicolon (h : p.element.needsSemicolon = true) :
    p.statementLayout.isEnded = true := by
  unfold statementLayout layoutEnd
  rw [h]
  exact Layout.isEnded_append (Layout.isEnded_append (Layout.isEnded_tok rfl))

/-- A statement that ends with a brace or a semicolon, with nothing behind it. -/
theorem isEnded_tight (h : s.layout.isEnded = true) : (tight s).statementLayout.isEnded = true := by
  cases semicolon : s.needsSemicolon with
  | true => exact isEnded_of_needsSemicolon semicolon
  | false =>
    exact Layout.isEnded_of_texts
      (by simp [statementLayout, tight, semicolon, layoutEnd, Space.empty]) h

end Padded

/-! ## Statements that end by themselves -/

namespace Layout

theorem isEnded_block (b : Block) : b.layout.isEnded = true := by
  obtain ⟨id, leading, ss, close⟩ := b
  rw [Block.layout]
  exact isEnded_node _ _ (isEnded_append (isEnded_tok rfl))

theorem isEnded_classDeclaration (c : ClassDeclaration) : c.layout.isEnded = true := by
  obtain ⟨id, leading, annotations, modifiers, keywordLeading, keyword, name, superclass,
    interfaces, body,
    type⟩ := c
  rw [ClassDeclaration.layout]
  exact isEnded_node _ _ (isEnded_append (isEnded_block body))

theorem isEnded_method {m : MethodDeclaration} (h : m.body.isNone = false) :
    m.layout.isEnded = true := by
  obtain ⟨id, leading, annotations, modifiers, returnType, name, parameters, throwing, body,
    type⟩ := m
  cases body with
  | none => cases h
  | some body =>
    rw [MethodDeclaration.layout]
    exact isEnded_node _ _ (isEnded_append (isEnded_block body))

theorem isEnded_switch (id : NodeId) (leading : Space) (selector : Parenthesized) (opening : Space)
    (cases : List Case) (closing : Space) :
    (Statement.switch id leading selector opening cases closing).layout.isEnded = true := by
  rw [Statement.layout]
  exact isEnded_node _ _ (isEnded_append (isEnded_tok rfl))

theorem isEnded_catches {l : Layout} (h : l.isEnded = true) (cs : List Catch) :
    (l ++ layoutCatches cs).isEnded = true := by
  induction cs generalizing l with
  | nil => exact isEnded_of_texts (by simp [layoutCatches]) h
  | cons c cs ih =>
    obtain ⟨id, leading, opening, ⟨parameter, after⟩, body⟩ := c
    have behind := ih (isEnded_append (l := l) (isEnded_node id leading
      (isEnded_append (l := tok "catch" ++ opening.layout ++ tok "(" ++ parameter.layout ++
        after.layout ++ tok ")")
        (isEnded_block body))))
    exact isEnded_of_texts (by simp [layoutCatches]) behind

theorem isEnded_tryBlock (id : NodeId) (leading : Space) (resources : Option TryResources)
    (body : Block)
    (catches : List Catch) (finalizer : Option (LeftPadded Block)) :
    (Statement.tryBlock id leading resources body catches finalizer).layout.isEnded = true := by
  rw [Statement.layout]
  refine isEnded_node _ _ ?_
  have handled (l : Layout) : (l ++ body.layout ++ layoutCatches catches).isEnded = true :=
    isEnded_catches (isEnded_append (isEnded_block body)) catches
  cases finalizer with
  | none =>
    exact isEnded_of_texts (by simp [layoutFinally])
      (handled (tok "try" ++ layoutResources? resources))
  | some finalizer =>
    obtain ⟨before, b⟩ := finalizer
    exact isEnded_append (isEnded_append (isEnded_block b))

variable {body : Padded Statement} (h : body.statementLayout.isEnded = true)
include h

theorem isEnded_whileLoop (id : NodeId) (leading : Space) (condition : Parenthesized) :
    (Statement.whileLoop id leading condition body).layout.isEnded = true := by
  rw [Statement.layout]
  exact isEnded_node _ _ (body.isEnded_append h _)

theorem isEnded_forLoop (id : NodeId) (leading opening : Space) (init : Option Statement)
    (afterInit : Space)
    (condition : Option Expression) (afterCondition : Space) (update : List (Padded Expression))
      (closing : Space) :
    (Statement.forLoop id leading opening init afterInit condition afterCondition update closing
      body).layout.isEnded = true := by
  rw [Statement.layout]
  exact isEnded_node _ _ (body.isEnded_append h _)

theorem isEnded_forEach (id : NodeId) (leading opening : Space)
    (binder : Padded VariableDeclarations)
    (iterable : Padded Expression) :
    (Statement.forEach id leading opening binder iterable body).layout.isEnded = true := by
  rw [Statement.layout]
  exact isEnded_node _ _ (body.isEnded_append h _)

/-- A condition ends with its last branch. -/
theorem isEnded_conditional (id : NodeId) (leading : Space) (condition : Parenthesized)
    {whenFalse : Option Else} (last : ∀ e ∈ whenFalse, e.body.statementLayout.isEnded = true) :
    (Statement.conditional id leading condition body whenFalse).layout.isEnded = true := by
  rw [Statement.layout]
  refine isEnded_node _ _ ?_
  cases whenFalse with
  | none =>
    have behind := body.isEnded_append h (tok "if" ++ condition.layout)
    exact isEnded_of_texts (by simp [layoutElse]) behind
  | some e =>
    obtain ⟨id, leading, s⟩ := e
    exact isEnded_append (isEnded_node id leading (s.isEnded_append (last _ rfl) _))

end Layout

namespace Block

/-- Every statement in the block ends with a brace or a semicolon. -/
def isDelimited (b : Block) : Bool := b.statements.all fun p => p.statementLayout.isEnded

end Block

/-- If the node is a block, every statement in it ends with a brace or a semicolon. -/
def Node.isDelimited : Node → Bool
  | block b => b.isDelimited
  | _ => true

end Retouch
