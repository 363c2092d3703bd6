import Retouch.Proofs.Tree.Stops

/-!
# How expressions group

The text of an expression is grouped by the strength of its operators. An expression is one operand
of the expression around it only if it holds together at its place (`Operand.accepts`). A tree in
which all operands do is grouped as its text is (`Node.Grouped`).

* `a instanceof T` is never taken apart on the right, where a name ends it.
* The creation of an array without values cannot be indexed: its text goes on with a dimension.
-/

namespace Retouch

/-- The place of an operand. -/
inductive Operand where
  /-- In front of a dot or of `::`. -/
  | receiver
  | left (op : BinaryOp)
  | right (op : BinaryOp)
  /-- Behind a unary operator. -/
  | prefixed
  /-- In front of a unary operator. -/
  | postfixed
  | cast
  /-- In front of an index. -/
  | indexed
  /-- The condition of a conditional. -/
  | condition
  /-- The last part of a conditional. -/
  | otherwise
  /-- The left side of an assignment. -/
  | target
deriving DecidableEq, Repr

namespace Operand

/-- The strength that an operand needs at the place. -/
def least : Operand → Nat
  | otherwise => 1
  | target => 2
  | condition => 3
  | left op => op.precedence + 2
  | right op => op.precedence + 3
  | prefixed | cast => 13
  | receiver | postfixed => 14
  | indexed => 15

end Operand

namespace Expression

/-- How strongly the text of an expression holds together. -/
def strength : Expression → Nat
  | assignment .. => 0
  | lambda .. => 1
  | ternary .. => 2
  | binary _ _ _ _ op _ _ => op.precedence + 2
  | unary _ _ _ op _ _ => if op.isPostfix then 15 else 13
  | typeCast .. => 13
  | newArray _ _ (some _) _ none _ => 14
  | _ => 15

def isInstanceOf : Expression → Bool
  | binary _ _ _ _ op _ _ => op == .instanceOf
  | _ => false

/-- The operands of an expression, with their places. -/
def operands : Expression → List (Operand × Expression)
  | fieldAccess n => [(.receiver, n.target)]
  | methodInvocation n => n.select.toList.map fun p => (.receiver, p.element)
  | memberReference _ _ containing _ _ _ => [(.receiver, containing)]
  | binary _ _ left _ op right _ => [(.left op, left), (.right op, right)]
  | unary _ _ _ op operand _ => [(if op.isPostfix then .postfixed else .prefixed, operand)]
  | assignment _ _ target _ _ _ _ => [(.target, target)]
  | ternary _ _ condition _ whenFalse _ =>
    [(.condition, condition), (.otherwise, whenFalse.element)]
  | arrayAccess _ _ indexed _ _ => [(.indexed, indexed)]
  | typeCast _ _ _ operand _ => [(.cast, operand)]
  | _ => []

end Expression

/-- An expression at the place is one operand. -/
def Operand.accepts (place : Operand) (e : Expression) : Bool :=
  match place with
  | left op => e.isInstanceOf || decide ((left op).least ≤ e.strength)
  | place => decide (place.least ≤ e.strength)

namespace Operand

theorem accepts_of_least {place : Operand} {e : Expression} (h : place.least ≤ e.strength) :
    place.accepts e = true := by
  cases place <;> simp [accepts, h]

/-- What stands inside the creation of an array does not show. -/
theorem accepts_newArray (place : Operand) {id id' : NodeId} {leading leading' : Space}
    {elementType elementType' : Option TypeTree} {dimensions dimensions' : List ArrayDimension}
    {initializer initializer' : Option (Container Expression)} {type type' : JavaType}
    (h : elementType'.isNone = elementType.isNone) (h' : initializer'.isNone = initializer.isNone) :
    place.accepts (.newArray id' leading' elementType' dimensions' initializer' type') =
      place.accepts (.newArray id leading elementType dimensions initializer type) := by
  cases elementType <;> cases elementType' <;> cases initializer <;> cases initializer' <;>
    first | rfl | simp at h h'

theorem least_le (place : Operand) : place.least ≤ 15 := by
  cases place with
  | left op | right op => cases op <;> decide
  | receiver | prefixed | postfixed | cast | indexed | condition | otherwise | target => decide

end Operand

/-- Every operand of the expression is one. -/
def Expression.isGrouped (e : Expression) : Bool :=
  e.operands.all fun (place, x) => place.accepts x

namespace Expression

variable {e x y : Expression} {place place' : Operand}

theorem isGrouped_of_one (h : e.operands = [(place, x)]) (own : place.accepts x = true) :
    e.isGrouped = true := by
  simp [isGrouped, h, own]

theorem isGrouped_of_two (h : e.operands = [(place, x), (place', y)])
    (own : place.accepts x = true) (own' : place'.accepts y = true) : e.isGrouped = true := by
  simp [isGrouped, h, own, own']

end Expression

def Node.isGrouped : Node → Bool
  | expression e => e.isGrouped
  | _ => true

/-- Every operand of the stops is one. -/
def GroupedStops (vs : List Visit) : Prop := ∀ v ∈ vs, v.node.isGrouped = true

instance (vs : List Visit) : Decidable (GroupedStops vs) :=
  inferInstanceAs (Decidable (∀ v ∈ vs, v.node.isGrouped = true))

/-- In and below the node every operand is one. -/
def Node.Grouped (n : Node) : Prop := GroupedStops n.visits

instance (n : Node) : Decidable n.Grouped := inferInstanceAs (Decidable (GroupedStops n.visits))

/-! ## Trivia in front -/

namespace Expression

@[simp]
theorem inside_withLeading (s : Space) (e : Expression) : (e.withLeading s).inside = e.inside := by
  match e with
  | .fieldAccess ⟨_, _, _, _, _, _⟩ | .methodInvocation ⟨_, _, _, _, _, _⟩ => rfl
  | .identifier _ | .literal _ | .newClass .. | .newArray .. | .lambda .. | .memberReference ..
  | .binary .. | .unary .. | .assignment .. | .ternary .. | .parentheses .. | .arrayAccess ..
  | .typeCast .. => rfl

@[simp]
theorem strength_withLeading (s : Space) (e : Expression) :
    (e.withLeading s).strength = e.strength := by
  match e with
  | .newArray _ _ elementType _ initializer _ => cases elementType <;> cases initializer <;> rfl
  | .identifier _ | .literal _ | .fieldAccess _ | .methodInvocation _ | .newClass .. | .lambda ..
  | .memberReference .. | .binary .. | .unary .. | .assignment .. | .ternary .. | .parentheses ..
  | .arrayAccess .. | .typeCast .. => rfl

@[simp]
theorem isInstanceOf_withLeading (s : Space) (e : Expression) :
    (e.withLeading s).isInstanceOf = e.isInstanceOf := by
  cases e <;> rfl

@[simp]
theorem isGrouped_withLeading (s : Space) (e : Expression) :
    (e.withLeading s).isGrouped = e.isGrouped := by
  cases e <;> rfl

end Expression

@[simp]
theorem Operand.accepts_withLeading (place : Operand) (s : Space) (e : Expression) :
    place.accepts (e.withLeading s) = place.accepts e := by
  simp [accepts]

end Retouch
