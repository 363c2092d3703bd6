import Mathlib.Algebra.GroupWithZero.Nat
import Mathlib.Data.List.Flatten
import Retouch.Proofs.Tree.Text

/-!
# The ids of a layout

A node begins at a mark with its id, so the ids of a tree are read off its layout, a node before
those below it. `Layout.times` counts one of them.
-/

namespace Retouch

def Piece.id? : Piece → Option NodeId
  | .enter id => some id
  | .text _ | .leave _ => none

/-- The ids of the nodes, a node before those below it. -/
def Layout.ids (l : Layout) : List NodeId := l.pieces.filterMap Piece.id?

/-- The ids of the nodes of a unit. -/
def CompilationUnit.ids (u : CompilationUnit) : List NodeId := u.layout.ids

namespace Layout

@[simp]
theorem ids_append (a b : Layout) : (a ++ b).ids = a.ids ++ b.ids := by simp [ids]

@[simp]
theorem ids_empty : Layout.empty.ids = [] := rfl

@[simp]
theorem ids_text (s : String) : (Layout.piece (.text s)).ids = [] := rfl

@[simp]
theorem ids_tok (s : String) : (tok s).ids = [] := rfl

@[simp]
theorem ids_space (s : Space) : s.layout.ids = [] := rfl

@[simp]
theorem ids_enter (id : NodeId) : (Layout.piece (.enter id)).ids = [id] := rfl

@[simp]
theorem ids_leave (id : NodeId) : (Layout.piece (.leave id)).ids = [] := rfl

@[simp]
theorem ids_node (id : NodeId) (leading : Space) (l : Layout) :
    (node id leading l).ids = id :: l.ids := by
  simp [node]

end Layout

/-! ## One id -/

/-- One if the id is `x`. -/
def NodeId.times (x id : NodeId) : Nat := if id = x then 1 else 0

/-- How many nodes of a layout have the id `x`. -/
def Layout.times (x : NodeId) (l : Layout) : Nat := l.ids.count x

namespace Layout

variable {x : NodeId}

@[simp]
theorem times_append (a b : Layout) : (a ++ b).times x = a.times x + b.times x := by simp [times]

@[simp]
theorem times_empty : Layout.empty.times x = 0 := rfl

@[simp]
theorem times_tok (s : String) : (tok s).times x = 0 := rfl

@[simp]
theorem times_space (s : Space) : s.layout.times x = 0 := rfl

@[simp]
theorem times_node (id : NodeId) (leading : Space) (l : Layout) :
    (node id leading l).times x = NodeId.times x id + l.times x := by
  simp [times, NodeId.times, List.count_cons, Nat.add_comm]

@[simp]
theorem times_enter (id : NodeId) : (Layout.piece (.enter id)).times x = NodeId.times x id := by
  simp [times, NodeId.times, List.count_cons]

@[simp]
theorem times_leave (id : NodeId) : (Layout.piece (.leave id)).times x = 0 := rfl

/-- Trivia and commas have no ids. -/
theorem times_separate {α : Type} (layout : α → Layout) (ps : List (Padded α)) :
    (separate layout ps).times x = (ps.map fun p => (layout p.element).times x).sum := by
  match ps with
  | [] => rfl
  | [⟨a, after⟩] => simp [separate]
  | ⟨a, after⟩ :: p :: ps => simp [separate, times_separate layout (p :: ps)]

end Layout

@[simp]
theorem Expression.times_withLeading {x : NodeId} (e : Expression) (s : Space) :
    (e.withLeading s).layout.times x = e.layout.times x := by
  cases e with
  | lambda id leading parenthesized parameters arrow body type =>
    cases parenthesized <;> simp [withLeading, layout]
  | fieldAccess n => cases n; simp [withLeading, layout, FieldAccess.layout]
  | methodInvocation n => cases n; simp [withLeading, layout, MethodInvocation.layout]
  | _ => simp [withLeading, layout, Identifier.layout, Literal.layout]

@[simp]
theorem TypeTree.times_withLeading {x : NodeId} (t : TypeTree) (s : Space) :
    (t.withLeading s).layout.times x = t.layout.times x := by
  cases t <;> simp [withLeading, layout]

end Retouch
