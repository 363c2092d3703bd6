import Retouch.Proofs.Tree.Text

/-!
# Views of a layout

What is known of the text of a layout is known of its pieces, and what is seen of a piece need not
be its characters. A view turns each piece into a list, and the layout into these lists one behind
the other. The characters are one view (`View.chars`); the words and comments of a text are another.

The only tokens that are put together to one piece are the marks of the shifts to the right, so a
view has to see the same in such a piece as in its marks.
-/

namespace Retouch

/-- What is seen of the texts of a layout. -/
structure View (β : Type) where
  see : String → List β
  see_empty : see "" = []
  see_shift : see ">>" = see ">" ++ see ">"
  see_unsigned : see ">>>" = see ">" ++ see ">" ++ see ">"

namespace View

variable {α β : Type} (v : View β)

attribute [simp] see_empty

def piece : Piece → List β
  | .text s => v.see s
  | .enter _ | .leave _ => []

/-- What is seen of a layout. -/
def seen (l : Layout) : List β := l.pieces.flatMap v.piece

@[simp]
theorem seen_append (a b : Layout) : v.seen (a ++ b) = v.seen a ++ v.seen b := by simp [seen]

@[simp]
theorem seen_empty : v.seen .empty = [] := rfl

@[simp]
theorem seen_text (s : String) : v.seen (.piece (.text s)) = v.see s := List.append_nil _

@[simp]
theorem seen_enter (id : NodeId) : v.seen (.piece (.enter id)) = [] := rfl

@[simp]
theorem seen_leave (id : NodeId) : v.seen (.piece (.leave id)) = [] := rfl

@[simp]
theorem seen_tok (s : String) : v.seen (tok s) = v.see s := v.seen_text s

@[simp]
theorem seen_space (s : Space) : v.seen s.layout = v.see s.text := v.seen_text s.text

@[simp]
theorem seen_node (id : NodeId) (leading : Space) (body : Layout) :
    v.seen (node id leading body) = v.see leading.text ++ v.seen body := by
  simp [node]

/-- What is seen of elements with commas between them. -/
def separated (f : α → List β) : List (Padded α) → List β
  | [] => []
  | [⟨a, after⟩] => f a ++ v.see after.text
  | ⟨a, after⟩ :: p :: ps => f a ++ v.see after.text ++ v.see "," ++ separated f (p :: ps)

theorem seen_separate (layout : α → Layout) (ps : List (Padded α)) :
    v.seen (Layout.separate layout ps) = v.separated (fun a => v.seen (layout a)) ps := by
  match ps with
  | [] => rfl
  | [⟨a, after⟩] => simp [Layout.separate, separated]
  | ⟨a, after⟩ :: p :: ps => simp [Layout.separate, separated, seen_separate layout (p :: ps)]

@[simp]
theorem separated_nil (f : α → List β) : v.separated f [] = [] := rfl

@[simp]
theorem separated_tight (f : α → List β) (a : α) : v.separated f [.tight a] = f a := by
  simp [separated, Padded.tight]

theorem separated_cons {f : α → List β} {a : α} {after : Space} {ps : List (Padded α)}
    (h : ps ≠ []) :
    v.separated f (⟨a, after⟩ :: ps) = f a ++ v.see after.text ++ v.see "," ++
      v.separated f ps := by
  cases ps with
  | nil => exact absurd rfl h
  | cons p ps => rfl

theorem seen_withLeading (e : Expression) (s : Space) :
    v.seen (e.withLeading s).layout = v.see s.text ++ v.seen (e.withLeading .empty).layout := by
  cases e with
  | lambda id leading parenthesized parameters arrow body type =>
    cases parenthesized <;> simp [Expression.withLeading, Expression.layout]
  | fieldAccess n => cases n; simp [Expression.withLeading, Expression.layout, FieldAccess.layout]
  | methodInvocation n =>
    cases n; simp [Expression.withLeading, Expression.layout, MethodInvocation.layout]
  | _ => simp [Expression.withLeading, Expression.layout, Identifier.layout, Literal.layout]

/-- An expression is seen as the trivia in front of it and then the rest. -/
theorem seen_expression (e : Expression) :
    v.seen e.layout = v.see e.leading.text ++ v.seen (e.withLeading .empty).layout := by
  rw [← seen_withLeading]
  cases e with
  | fieldAccess n => cases n; rfl
  | methodInvocation n => cases n; rfl
  | _ => rfl

theorem seen_type (t : TypeTree) :
    v.seen t.layout = v.see t.leading.text ++ v.seen (t.withLeading .empty).layout := by
  cases t with
  | named e => simpa [TypeTree.withLeading, TypeTree.layout, TypeTree.leading]
    using v.seen_expression e
  | _ => simp [TypeTree.withLeading, TypeTree.layout, TypeTree.leading]

/-- The characters. -/
def chars : View Char where
  see := String.toList
  see_empty := rfl
  see_shift := rfl
  see_unsigned := rfl

theorem chars_seen (l : Layout) : chars.seen l = l.print.toList := by
  rw [Layout.print, Piece.print_eq_join, String.toList_join, seen]
  induction l.pieces with
  | nil => rfl
  | cons p ps ih =>
    simp only [List.flatMap_cons, List.map_cons, ih]
    cases p <;> rfl

end View

end Retouch
