import Retouch.Proofs.Tree.Endings
import Retouch.Proofs.Tree.Grouping

/-!
# Places for names

Some places of a tree take a name and nothing else (`Node.isNamed`): the class of a type, the
annotation itself and the elements that it sets, and the right side of `instanceof`. Attribution
looks such a name up as a whole and does not go into it as into an expression.
-/

namespace Retouch

/-- An identifier or a chain of field accesses on one. -/
def Expression.isName : Expression → Bool
  | identifier _ => true
  | fieldAccess ⟨_, _, target, _, _, _⟩ => target.isName
  | _ => false

/-- In an argument `name = value` of an annotation the name is an identifier. -/
def Expression.isElement : Expression → Bool
  | assignment _ _ (identifier _) _ _ _ _ => true
  | assignment .. => false
  | _ => true

/-- The places for names that the node itself has hold names. -/
def Node.isNamed : Node → Bool
  | type (.named e) => e.isName
  | type (.parameterized _ _ clazz _ _) => clazz.isName
  | annotationUse a =>
    a.name.isName && (a.arguments.map (·.toList)).all fun es => es.all Expression.isElement
  | expression (.binary _ _ _ _ op right _) => op != .instanceOf || right.isName
  | _ => true

@[simp]
theorem Expression.isName_withLeading (s : Space) (e : Expression) :
    (e.withLeading s).isName = e.isName := by
  match e with
  | .fieldAccess ⟨_, _, _, _, _, _⟩ => rfl
  | .identifier _ | .literal _ | .methodInvocation _ | .newClass .. | .newArray .. | .lambda ..
  | .memberReference .. | .binary .. | .unary .. | .assignment .. | .ternary .. | .parentheses ..
  | .arrayAccess .. | .typeCast .. => rfl

@[simp]
theorem Expression.isNamed_withLeading (s : Space) (e : Expression) :
    (Node.expression (e.withLeading s)).isNamed = (Node.expression e).isNamed := by
  cases e <;> rfl

/-- What the grammar gives of every node: the statements in a block end, operands hold together, and
names are names. -/
def Node.isRead (n : Node) : Bool := n.isDelimited && (n.isGrouped && n.isNamed)

theorem Block.isRead_node {b : Block} (h : b.isDelimited = true) :
    (Node.block b).isRead = true := by
  simp [Node.isRead, Node.isDelimited, Node.isGrouped, Node.isNamed, h]

/-- All stops are at nodes as the grammar gives them. -/
abbrev AllRead (f : List Node → List Visit) : Prop := AllPass (fun n => n.isRead = true) f

namespace Expression

/-- An expression and everything below it is as the grammar gives it. -/
structure Read (e : Expression) : Prop where
  here : (Node.expression e).isRead = true
  below : AllRead e.inside

variable {e x y : Expression} {place place' : Operand}

theorem Read.entered (h : e.Read) : AllRead fun p => Visit.enter (.expression e) p e.inside :=
  .enter h.here h.below

theorem Read.withLeading (h : e.Read) (s : Space) : (e.withLeading s).Read :=
  ⟨by simpa [Node.isRead, Node.isDelimited, Node.isGrouped] using h.here, by simpa using h.below⟩

theorem isRead_of_one (h : e.operands = [(place, x)]) (own : place.accepts x = true)
    (named : (Node.expression e).isNamed = true := by rfl) :
    (Node.expression e).isRead = true := by
  simp [Node.isRead, Node.isDelimited, Node.isGrouped, isGrouped_of_one h own, named]

theorem isRead_of_two (h : e.operands = [(place, x), (place', y)])
    (own : place.accepts x = true) (own' : place'.accepts y = true)
    (named : (Node.expression e).isNamed = true := by rfl) : (Node.expression e).isRead = true := by
  simp [Node.isRead, Node.isDelimited, Node.isGrouped, isGrouped_of_two h own own', named]

end Expression

end Retouch
