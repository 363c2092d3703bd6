import Mathlib.Data.List.Induction
import Retouch.Proofs.Import.Closure
import Retouch.Proofs.Tree.View

/-!
# The trees of dotted names

A request brings an import with the name that it asks for, segment by segment
(`importNode_of_split`), and its tree spells that name (`qualifiedExpression_spells`).
-/

namespace Retouch

/-- One more part behind a separator. -/
theorem Text.intercalate_concat (mark : String) {parts : List String} (some : parts ≠ [])
    (part : String) :
    mark.intercalate (parts ++ [part]) = mark.intercalate parts ++ mark ++ part := by
  simpa using Text.intercalate_append mark some (List.cons_ne_nil part [])

variable {outer : List String} {last : String} {n : NodeId}

theorem qualifiedExpression_concat (some : outer ≠ []) (last : String) (n : NodeId) :
    qualifiedExpression n (outer ++ [last]) =
      (.fieldAccess ⟨(qualifiedExpression n outer).2, .empty, (qualifiedExpression n outer).1,
        .empty,
        ⟨(qualifiedExpression n outer).2 + 1, .empty, last, .unknown, none⟩, .unknown⟩,
        (qualifiedExpression n outer).2 + 2) := by
  obtain _ | ⟨first, rest⟩ := outer
  · exact absurd rfl some
  · simp [qualifiedExpression, List.foldl_append]

/-- A dotted name is what its tree spells. -/
theorem qualifiedExpression_spells (some : outer ≠ []) (n : NodeId) :
    (qualifiedExpression n outer).1.qualifiedName? = .some (".".intercalate outer) ∧
      (qualifiedExpression n outer).1.layout.print = ".".intercalate outer := by
  induction outer using List.reverseRecOn with
  | nil => exact absurd rfl some
  | append_singleton outer last ih =>
    by_cases single : outer = []
    · subst single
      refine ⟨by simp [qualifiedExpression, Expression.qualifiedName?], ?_⟩
      simp [qualifiedExpression, Expression.layout, Identifier.layout, Space.empty]
    · obtain ⟨named, printed⟩ := ih single
      rw [qualifiedExpression_concat single, Text.intercalate_concat _ single]
      refine ⟨by simp [Expression.qualifiedName?, named], String.toList_inj.1 ?_⟩
      have target := congrArg String.toList printed
      rw [← View.chars_seen] at target
      simp [← View.chars_seen, Expression.layout, FieldAccess.layout, Identifier.layout, target,
        Space.empty]

/-- The import of a name, with its segments. -/
theorem importNode_of_split {name : String} (segments : Text.split '.' name = outer ++ [last])
    (some : outer ≠ [])
    (isStatic : Bool) (n : NodeId) :
    (importNode name isStatic n).1 =
      .tight ⟨(qualifiedExpression n outer).2 + 2, .empty, if isStatic then .some .single else none,
        ⟨(qualifiedExpression n outer).2, .single, (qualifiedExpression n outer).1, .empty,
          ⟨(qualifiedExpression n outer).2 + 1, .empty, last, .unknown, none⟩, .unknown⟩⟩ := by
  rw [importNode, segments, qualifiedExpression_concat some]
  rfl

end Retouch
