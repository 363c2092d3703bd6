import Retouch.Proofs.Import.Block

/-!
# Removing imports

Removals look at the imports and at what the unit refers to, and not at the next free id: requests
that only remove have one result (`meetRequests_removes`).
-/

namespace Retouch

namespace ImportBlock

variable (b : ImportBlock) (refs : References) (n : NodeId)

/-- Removals do not look at ids. -/
theorem eraseAt_withId (i : Nat) :
    ({ b with nextId := n } : ImportBlock).eraseAt i = { b.eraseAt i with nextId := n } := by
  unfold eraseAt
  simp only
  split
  · rfl
  · split
    · split <;> rfl
    · split <;> rfl

theorem sweep_withId (asType : Bool) (name : String) (count i : Nat) :
    sweep refs asType name count i { b with nextId := n } =
      { sweep refs asType name count i b with nextId := n } := by
  induction count generalizing i b with
  | zero => rfl
  | succ count ih =>
    rw [sweep, sweep, eraseAt_withId]
    have same : isUnused refs { b with nextId := n } asType name = isUnused refs b asType name :=
      rfl
    simp only [same]
    split
    · exact ih _ _
    · exact ih _ _

theorem removes_withId (names : List String) :
    names.foldl (ImportBlock.remove refs) { b with nextId := n } =
      { names.foldl (ImportBlock.remove refs) b with nextId := n } := by
  induction names generalizing b with
  | nil => rfl
  | cons name names ih =>
    rw [List.foldl_cons, List.foldl_cons, ← ih]
    congr 1
    exact sweep_withId b refs n _ _ _ _

end ImportBlock

/-- Requests that only remove give one result, whatever id comes next. -/
theorem CompilationUnit.meetRequests_removes (u : CompilationUnit) (names : List String) :
    ∃ out, ∀ n, u.meetRequests { removes := names } n = .ok (out, n) := by
  refine ⟨u.withBlock (names.foldl (ImportBlock.remove u.references) (u.importBlock 0)), fun n =>
    ?_⟩
  have same := ImportBlock.removes_withId (u.importBlock 0) u.references n names
  rw [meetRequests_eq]
  change Except.ok (_, _) = _
  change names.foldl _ (u.importBlock n) = _ at same
  rw [same]
  rfl

end Retouch
