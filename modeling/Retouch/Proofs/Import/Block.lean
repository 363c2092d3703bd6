import Mathlib.Data.List.InsertIdx
import Retouch.Import.Order

/-!
# The block of imports

Requests are met on the imports of a unit, which are then put back into it (`meetRequests_eq`).
Besides the imports only the trivia in front of the first class can change (`withBlock_value`).

The imports of a block without the trivia in front of them are its entries. An addition puts in one
entry (`entries_add`), a removal takes one out (`entries_eraseAt`), and all others stay in their
order.
-/

namespace Retouch

/-- The import without the trivia in front of it. -/
def Import.entry (i : Import) : Import := { i with leading := .empty }

namespace CompilationUnit

/-- The imports of the unit as they are edited. -/
def importBlock (u : CompilationUnit) (nextId : NodeId) : ImportBlock where
  imports := u.imports
  package := u.packageName?
  classLeading := u.classes.head?.map (·.leading)
  nextId := nextId

/-- The unit with an edited block of imports. -/
def withBlock (u : CompilationUnit) (b : ImportBlock) : Edited CompilationUnit :=
  if !b.changed then .same u
  else match u.classes, b.classLeading with
    | c :: cs, some s =>
      ⟨{ u with imports := b.imports, classes := (c.editLeading s).value :: cs },
        u.id :: (c.editLeading s).touched⟩
    | _, _ => ⟨{ u with imports := b.imports }, [u.id]⟩

theorem meetRequests_eq (u : CompilationUnit) (rs : ImportRequests) (nextId : NodeId) :
    u.meetRequests rs nextId =
      (rs.adds.foldlM (ImportBlock.add u.references) (u.importBlock nextId)).map fun b =>
        let b := rs.removes.foldl (ImportBlock.remove u.references) b
        (u.withBlock b, b.nextId) := by
  change (rs.adds.foldlM (ImportBlock.add u.references) (u.importBlock nextId) >>= _) = _
  rcases rs.adds.foldlM (ImportBlock.add u.references) (u.importBlock nextId) with e | b
  · rfl
  · change (if _ then _ else _ : Except EditError (Edited CompilationUnit × NodeId)) = .ok (_, _)
    unfold withBlock
    split
    · rfl
    · rcases u.classes with _ | ⟨c, cs⟩ <;>
        rcases (rs.removes.foldl (ImportBlock.remove u.references) b).classLeading
          with _ | s <;> rfl

/-- The unit with other trivia in front of its first class. -/
def withClassLeading (u : CompilationUnit) (s : Space) : CompilationUnit :=
  { u with classes := u.classes.modifyHead ({ · with leading := s }) }

theorem exists_withClassLeading (u : CompilationUnit) : ∃ s, u.withClassLeading s = u := by
  obtain ⟨_, _, _, _, _ | ⟨⟨_, leading, _, _, _, _, _, _, _, _, _⟩, cs⟩, _⟩ := u
  · exact ⟨.empty, rfl⟩
  · exact ⟨leading, rfl⟩

theorem withBlock_value (u : CompilationUnit) (b : ImportBlock) :
    ∃ s, (u.withBlock b).value =
      { u.withClassLeading s with imports := if b.changed then b.imports else u.imports } := by
  obtain ⟨own, same⟩ := u.exists_withClassLeading
  unfold withBlock
  cases b.changed with
  | false => exact ⟨own, by rw [same]; rfl⟩
  | true =>
    simp only [Bool.not_true, Bool.false_eq_true, if_false, if_true]
    split
    · next c cs s classes _ =>
      refine ⟨s, ?_⟩
      simp only [withClassLeading, classes, List.modifyHead_cons, ClassDeclaration.editLeading]
      split
      · next equal =>
        obtain rfl := eq_of_beq equal
        cases c
        rfl
      · rfl
    · exact ⟨own, by rw [same]⟩

theorem meetRequests_value {u : CompilationUnit} {rs : ImportRequests} {n n' : NodeId}
    {out : Edited CompilationUnit} (h : u.meetRequests rs n = .ok (out, n')) :
    ∃ s imports, out.value = { u.withClassLeading s with imports } := by
  rw [meetRequests_eq] at h
  generalize rs.adds.foldlM (ImportBlock.add u.references) (u.importBlock n) = added at h
  obtain e | b := added
  · cases h
  · obtain ⟨s, value⟩ := u.withBlock_value (rs.removes.foldl (ImportBlock.remove u.references) b)
    cases h
    exact ⟨s, _, value⟩

end CompilationUnit

namespace ImportBlock

/-- The imports of the block without the trivia in front of them. -/
def entries (b : ImportBlock) : List Import := b.imports.map (·.element.entry)

variable (b : ImportBlock) (refs : References)

@[simp]
theorem length_entries : b.entries.length = b.imports.length := by simp [entries]

@[simp]
theorem entries_setLeading (index : Nat) (s : Space) :
    (b.setLeading index s).entries = b.entries := by
  refine List.ext_getElem? fun i => ?_
  simp only [entries, setLeading, List.getElem?_map, List.getElem?_modify]
  split <;> cases b.imports[i]? <;> rfl

theorem entries_leadingAt (isStatic : Bool) (position : Nat) :
    (b.leadingAt isStatic position).2.entries = b.entries := by
  simp only [leadingAt]
  split
  · simp only [leadingOfFirst]
    split
    · split <;> rfl
    · rfl
  · split <;> simp

/-- An import goes between two others, or to an end. -/
theorem position_le (isStatic : Bool) (name : String) :
    b.position isStatic name ≤ b.imports.length := by
  have inside {i : Nat} (mem : i ∈ b.group isStatic) : i < b.imports.length :=
    List.mem_range.1 (List.mem_filter.1 mem).1
  simp only [position]
  split
  · next i found => exact Nat.le_of_lt (inside (List.mem_of_find?_eq_some found))
  · split
    · next i last => exact inside (List.mem_of_getLast? last)
    · split
      · exact Nat.le_refl _
      · cases found : b.imports.findIdx? (·.element.isStatic) with
        | none => exact Nat.le_refl _
        | some i => exact Nat.le_of_lt (List.findIdx?_eq_some_iff_getElem.1 found).1

/-- What is put in goes where its name belongs. -/
theorem entries_insert_position (node : Padded Import) : (b.insert node).entries =
    b.entries.insertIdx (b.position node.element.isStatic node.element.fullName)
      node.element.entry := by
  rw [← entries_leadingAt b node.element.isStatic]
  exact List.map_insertIdx ..

theorem entries_insert (node : Padded Import) :
    ∃ k ≤ b.entries.length, (b.insert node).entries = b.entries.insertIdx k node.element.entry := by
  refine ⟨b.position node.element.isStatic node.element.fullName, ?_,
    b.entries_insert_position node⟩
  rw [length_entries]
  exact b.position_le ..

/-- A request for a static member is always met; it puts in at most one entry. -/
theorem add_member {r : AddRequest} (h : r.member.isSome = true) :
    ∃ b', b.add refs r = .ok b' ∧
      (b'.entries = b.entries ∨
        ∃ k n, b'.entries = b.entries.insertIdx k (importNode r.name true n).1.element.entry) := by
  obtain ⟨typeName, _ | member, ifReferenced⟩ := r
  · cases h
  · simp only [add, Option.isNone_some, Option.isSome_some, Bool.false_eq_true, if_false]
    by_cases covered : b.covers ⟨typeName, some member, ifReferenced⟩ = true
    · exact ⟨b, by simp only [covered, if_true]; rfl, .inl rfl⟩
    · simp only [covered, Bool.false_eq_true, if_false]
      split
      · exact ⟨b, rfl, .inl rfl⟩
      · obtain ⟨k, -, inserted⟩ := entries_insert
          { b with nextId := (importNode (typeName ++ "." ++ member) true b.nextId).2 }
          (importNode (typeName ++ "." ++ member) true b.nextId).1
        exact ⟨_, rfl, .inr ⟨k, b.nextId, inserted⟩⟩

/-- Requests are met one by one. -/
theorem adds_ok {P : ImportBlock → Prop} {adds : List AddRequest} {b : ImportBlock}
    (step : ∀ b, ∀ r ∈ adds, P b → ∃ b', b.add refs r = .ok b' ∧ P b') (h : P b) :
    ∃ b', adds.foldlM (add refs) b = .ok b' ∧ P b' := by
  induction adds generalizing b with
  | nil => exact ⟨b, rfl, h⟩
  | cons r adds ih =>
    obtain ⟨b', added, holds⟩ := step b r List.mem_cons_self h
    obtain ⟨b'', rest, holds'⟩ := ih (fun b r mem => step b r (List.mem_cons_of_mem _ mem)) holds
    refine ⟨b'', ?_, holds'⟩
    rw [List.foldlM_cons, added]
    exact rest

theorem entries_eraseAt {index : Nat} (h : index < b.imports.length) :
    (b.eraseAt index).entries = b.entries.eraseIdx index := by
  have erased : (b.imports.eraseIdx index).map (·.element.entry) = b.entries.eraseIdx index :=
    (List.eraseIdx_map ..).symm
  simp only [eraseAt, List.getElem?_eq_getElem h]
  split
  · split
    · rw [entries_setLeading]
      exact erased
    · exact erased
  · split <;> exact erased

end ImportBlock

/-- Requests that add nothing but static members are always met. -/
theorem CompilationUnit.meetRequests_members (u : CompilationUnit) {rs : ImportRequests}
    (h : ∀ r ∈ rs.adds, r.member.isSome = true) (n : NodeId) :
    ∃ out n', u.meetRequests rs n = .ok (out, n') := by
  obtain ⟨b, added, -⟩ := ImportBlock.adds_ok (P := fun _ => True) u.references
    (fun b r mem _ => (b.add_member u.references (h r mem)).imp fun _ added => ⟨added.1, trivial⟩)
    (b := u.importBlock n) trivial
  rw [meetRequests_eq, added]
  exact ⟨_, _, rfl⟩

end Retouch
