import Retouch.Tree.Node

/-!
# The text of a layout

Printing reads a layout from left to right, so the text of two layouts side by side is the one text
behind the other. A node is its leading trivia and then the text between its marks: trivia can be
moved from a node to a wrapper around it (`print_withLeading`) without a change of the text.
-/

namespace Retouch

namespace Piece

/-- The text of one piece; a mark has none. -/
def shown : Piece → String
  | text s => s
  | enter _ | leave _ => ""

theorem print_eq_join (ps : List Piece) : Piece.print ps = String.join (ps.map shown) := by
  rw [Piece.print, String.join, List.foldl_map]
  congr 1
  funext acc p
  cases p <;> simp [shown]

theorem print_append (ps qs : List Piece) :
    Piece.print (ps ++ qs) = Piece.print ps ++ Piece.print qs := by
  simp [print_eq_join, String.join_append]

end Piece

namespace Layout

@[simp]
theorem print_append (a b : Layout) : (a ++ b).print = a.print ++ b.print := by
  rw [print, pieces_append, Piece.print_append]
  rfl

@[simp]
theorem print_empty : Layout.empty.print = "" := rfl

@[simp]
theorem print_text (s : String) : (Layout.piece (.text s)).print = s := by
  simp [print, pieces, onto, Piece.print]

@[simp]
theorem print_enter (id : NodeId) : (Layout.piece (.enter id)).print = "" := rfl

@[simp]
theorem print_leave (id : NodeId) : (Layout.piece (.leave id)).print = "" := rfl

@[simp]
theorem print_tok (s : String) : (tok s).print = s := print_text s

@[simp]
theorem print_space (s : Space) : s.layout.print = s.text := print_text s.text

@[simp]
theorem print_node (id : NodeId) (leading : Space) (body : Layout) :
    (node id leading body).print = leading.text ++ body.print := by
  simp [node]

end Layout

/-! ## Lists with commas -/

section Lists

variable {α β : Type}

/-- The layout of elements with commas between them. -/
def Layout.separate (layout : α → Layout) : List (Padded α) → Layout
  | [] => .empty
  | [⟨a, after⟩] => layout a ++ after.layout
  | ⟨a, after⟩ :: p :: ps => layout a ++ after.layout ++ tok "," ++ separate layout (p :: ps)

/-- The text of elements with commas between them. -/
def separated (text : α → String) : List (Padded α) → String
  | [] => ""
  | [⟨a, after⟩] => text a ++ after.text
  | ⟨a, after⟩ :: p :: ps => text a ++ after.text ++ "," ++ separated text (p :: ps)

theorem print_separate (layout : α → Layout) (ps : List (Padded α)) :
    (Layout.separate layout ps).print = separated (fun a => (layout a).print) ps := by
  match ps with
  | [] => rfl
  | [⟨a, after⟩] => simp [Layout.separate, separated]
  | ⟨a, after⟩ :: p :: ps => simp [Layout.separate, separated, print_separate layout (p :: ps)]

theorem layoutExprList_eq (es : List (Padded Expression)) :
    layoutExprList es = .separate Expression.layout es := by
  match es with
  | [] => rfl
  | [⟨e, after⟩] => rfl
  | ⟨e, after⟩ :: p :: ps => simp [layoutExprList, Layout.separate, layoutExprList_eq (p :: ps)]

theorem layoutTypeList_eq (ts : List (Padded TypeTree)) :
    layoutTypeList ts = .separate TypeTree.layout ts := by
  match ts with
  | [] => rfl
  | [⟨t, after⟩] => rfl
  | ⟨t, after⟩ :: p :: ps => simp [layoutTypeList, Layout.separate, layoutTypeList_eq (p :: ps)]

theorem layoutParameterList_eq (vs : List (Padded VariableDeclarations)) :
    layoutParameterList vs = .separate VariableDeclarations.layout vs := by
  match vs with
  | [] => rfl
  | [⟨v, after⟩] => rfl
  | ⟨v, after⟩ :: p :: ps =>
    simp [layoutParameterList, Layout.separate, layoutParameterList_eq (p :: ps)]

theorem layoutVariables_eq (vs : List (Padded NamedVariable)) :
    layoutVariables vs = .separate NamedVariable.layout vs := by
  match vs with
  | [] => rfl
  | [⟨v, after⟩] => rfl
  | ⟨v, after⟩ :: p :: ps => simp [layoutVariables, Layout.separate, layoutVariables_eq (p :: ps)]

/-- What is seen of the elements of a list, each with the trivia behind it. -/
def shapes (view : α → β) (ps : List (Padded α)) : List (β × Space) :=
  ps.map fun p => (view p.element, p.after)

@[simp]
theorem shapes_nil (view : α → β) : shapes view [] = [] := rfl

@[simp]
theorem shapes_cons (view : α → β) (a : α) (after : Space) (ps : List (Padded α)) :
    shapes view (⟨a, after⟩ :: ps) = (view a, after) :: shapes view ps := rfl

/-- A layout of a list depends on the layouts of its elements only. -/
theorem Layout.separate_congr {layout : α → Layout} {ps ps' : List (Padded α)}
    (h : shapes layout ps' = shapes layout ps) :
    separate layout ps' = separate layout ps := by
  induction ps generalizing ps' with
  | nil =>
    obtain rfl : ps' = [] := List.map_eq_nil_iff.1 h
    rfl
  | cons p ps ih =>
    obtain ⟨⟨a', after'⟩, ps', rfl, head, tail⟩ := List.map_eq_cons_iff.1 h
    obtain ⟨a, after⟩ := p
    obtain ⟨same, rfl⟩ := Prod.mk.inj head
    have more := ih tail
    cases ps' <;> cases ps <;> simp_all [separate]

end Lists

@[simp]
theorem Space.text_empty : Space.empty.text = "" := rfl

namespace Expression

@[simp]
theorem leading_withLeading (e : Expression) (s : Space) : (e.withLeading s).leading = s := by
  cases e <;> rfl

@[simp]
theorem withLeading_withLeading (e : Expression) (s s' : Space) :
    (e.withLeading s).withLeading s' = e.withLeading s' := by
  cases e <;> rfl

theorem print_withLeading (e : Expression) (s : Space) :
    (e.withLeading s).layout.print = s.text ++ (e.withLeading .empty).layout.print := by
  cases e with
  | lambda id leading parenthesized parameters arrow body type =>
    cases parenthesized <;> simp [withLeading, layout]
  | fieldAccess n => cases n; simp [withLeading, layout, FieldAccess.layout]
  | methodInvocation n => cases n; simp [withLeading, layout, MethodInvocation.layout]
  | _ => simp [withLeading, layout, Identifier.layout, Literal.layout]

/-- An expression is the trivia in front of it and then the rest. -/
theorem print_eq_leading (e : Expression) :
    e.layout.print = e.leading.text ++ (e.withLeading .empty).layout.print := by
  rw [← print_withLeading]
  cases e with
  | fieldAccess n => cases n; rfl
  | methodInvocation n => cases n; rfl
  | _ => rfl

end Expression

end Retouch
