import Mathlib.Data.List.Perm.Basic
import Retouch.Proofs.Import.Closure
import Retouch.Proofs.Import.Dotted

/-!
# What requests put in and take out

Between the imports of a unit and those behind requests there are all imports that stand in one of
the two lists (`Exchange`): what was added is missing in the first, what was dropped in the second,
and whatever stands in both keeps its place among the others.

For requests of static members the additions are exact: one import for each member that no import
covers (`adds_members`).
-/

namespace Retouch

namespace Import

/-- The import gives the static member of a type by its bare name, alone or with all others. -/
def Covers (owner member : String) (i : Import) : Prop :=
  i.isStatic = true ∧ i.typeName? = some owner ∧ (i.member? = some member ∨ i.member? = some "*")

instance (owner member : String) (i : Import) : Decidable (i.Covers owner member) :=
  inferInstanceAs (Decidable (_ ∧ _ ∧ _))

/-- The import is the single import of the static member of a type. -/
def IsMember (owner member : String) (i : Import) : Prop :=
  i.isStatic = true ∧ i.typeName? = some owner ∧ i.member? = some member

variable {owner member other : String} {i : Import}

theorem IsMember.covers (h : i.IsMember owner member) : i.Covers owner member :=
  ⟨h.1, h.2.1, .inl h.2.2⟩

/-- A single import covers no other member. -/
theorem IsMember.not_covers (h : i.IsMember owner member) (ne : other ≠ member)
    (single : member ≠ "*") :
    ¬i.Covers owner other := by
  rintro ⟨-, -, named | star⟩
  · exact ne (Option.some.inj (named.symm.trans h.2.2))
  · exact single (Option.some.inj (h.2.2.symm.trans star))

/-- A new static import of a member. -/
theorem isMember_importNode (h : '.' ∉ member.toList) (n : NodeId) :
    (importNode (owner ++ "." ++ member) true n).1.element.entry.IsMember owner member := by
  have dot : ".".toList = ['.'] := rfl
  have segments : Text.split '.' (owner ++ "." ++ member) = Text.split '.' owner ++ [member] := by
    simp [Text.split, dot, Text.splitChars_append_sep, Text.splitChars_free h]
  have some : Text.split '.' owner ≠ [] := by simp [Text.split, Text.splitChars_ne_nil]
  have named := (qualifiedExpression_spells some n).1
  rw [Text.intercalate_split rfl] at named
  simp [importNode, segments, qualifiedExpression_concat some, Expression.withLeading, IsMember,
    entry,
    isStatic, typeName?, member?, Padded.tight, named]

end Import

/-! ## Exchanging entries of a list -/

theorem exists_of_forall₂ {α β : Type} {R : α → β → Prop} {l : List α} {l' : List β}
    (h : List.Forall₂ R l l') {a : α} (mem : a ∈ l) : ∃ b ∈ l', R a b := by
  induction h with
  | nil => cases mem
  | @cons a' b _ _ fits _ ih =>
    obtain rfl | mem := List.mem_cons.1 mem
    · exact ⟨b, List.mem_cons_self, fits⟩
    · exact (ih mem).imp fun b ⟨mem, fits⟩ => ⟨List.mem_cons_of_mem _ mem, fits⟩

/-- The list `after` is `before` with `added` put in and `dropped` taken out. -/
def Exchange {α : Type} (before added dropped after : List α) : Prop :=
  ∃ all, before.Sublist all ∧ all.Perm (added ++ before) ∧ after.Sublist all ∧
    all.Perm (dropped ++ after)

namespace Exchange

variable {α : Type} {before added dropped after : List α} {a : α} {k : Nat}

theorem refl (l : List α) : Exchange l [] [] l := ⟨l, .refl l, .refl l, .refl l, .refl l⟩

/-- If nothing is taken out, the old entries are among the new ones. -/
theorem grown (h : Exchange before added [] after) :
    before.Sublist after ∧ after.Perm (added ++ before) := by
  obtain ⟨all, old, made, new, whole⟩ := h
  obtain rfl : after = all := new.eq_of_length whole.length_eq.symm
  exact ⟨old, made⟩

theorem insert (h : Exchange before added [] after) (inside : k ≤ after.length) :
    Exchange before (added ++ [a]) [] (after.insertIdx k a) := by
  obtain ⟨all, old, made, new, whole⟩ := h
  obtain rfl : after = all := new.eq_of_length whole.length_eq.symm
  refine ⟨_, old.trans (List.sublist_insertIdx _ k a), ?_, .refl _, .refl _⟩
  calc after.insertIdx k a
    _ |>.Perm (a :: after) := List.perm_insertIdx a after inside
    _ |>.Perm (a :: (added ++ before)) := made.cons a
    _ |>.Perm ((added ++ [a]) ++ before) := by simpa using List.perm_middle.symm

theorem erase (h : Exchange before added dropped after) (here : after[k]? = some a) :
    Exchange before added (a :: dropped) (after.eraseIdx k) := by
  obtain ⟨all, old, made, new, whole⟩ := h
  refine ⟨all, old, made, (List.eraseIdx_sublist ..).trans new, whole.trans ?_⟩
  obtain ⟨inside, rfl⟩ := List.getElem?_eq_some_iff.1 here
  calc dropped ++ after
    _ |>.Perm (dropped ++ after[k] :: after.eraseIdx k) :=
      (List.getElem_cons_eraseIdx_perm inside).symm.append_left dropped
    _ |>.Perm (after[k] :: dropped ++ after.eraseIdx k) := List.perm_middle

/-- What is new or was there before has been dropped or is there still. -/
theorem mem_iff (h : Exchange before added dropped after) :
    a ∈ added ∨ a ∈ before ↔ a ∈ dropped ∨ a ∈ after := by
  obtain ⟨all, -, made, -, whole⟩ := h
  rw [← List.mem_append, ← List.mem_append, ← made.mem_iff, whole.mem_iff]

end Exchange

/-! ## One import more, one import less -/

namespace ImportBlock

variable {b : ImportBlock} {refs : References} {owner member : String}
  {before added dropped : List Import}

theorem covers_iff {ifReferenced : Bool} :
    b.covers ⟨owner, some member, ifReferenced⟩ = true ↔ ∃ e ∈ b.entries,
      e.Covers owner member := by
  simp only [covers, provides, List.any_eq_true, Bool.and_eq_true, Bool.or_eq_true, beq_iff_eq,
    and_assoc]
  simp only [entries, List.mem_map, exists_exists_and_eq_and]
  rfl

/-- A block of imports behind an exchange of entries. -/
structure Exchanged (before added dropped : List Import) (b : ImportBlock) : Prop where
  entries : Exchange before added dropped b.entries
  unmoved : b.changed = false → b.entries = before

theorem Exchanged.start (u : CompilationUnit) (n : NodeId) :
    Exchanged u.entries [] [] (u.importBlock n) :=
  ⟨.refl _, fun _ => rfl⟩

/-- A member without an import gets one. -/
theorem Exchanged.add (refs : References) (h : Exchanged before added [] b)
    (dotless : '.' ∉ member.toList)
    (uncovered : ¬∃ e ∈ b.entries, e.Covers owner member) :
    ∃ b' i, b.add refs ⟨owner, some member, false⟩ = .ok b' ∧ i.IsMember owner member ∧
      (∀ e, e ∈ b'.entries ↔ e ∈ b.entries ∨ e = i) ∧ Exchanged before (added ++ [i]) [] b' := by
  have off : b.covers ⟨owner, some member, false⟩ = false := by
    rw [← Bool.not_eq_true, covers_iff]
    exact uncovered
  let made := importNode (owner ++ "." ++ member) true b.nextId
  have run : b.add refs ⟨owner, some member, false⟩ = .ok
    ({ b with nextId := made.2 }.insert made.1) := by
    simp only [ImportBlock.add, Option.isNone_some, Option.isSome_some, Bool.false_eq_true,
      if_false, off,
      Bool.false_and]
    rfl
  obtain ⟨k, inside, entries⟩ := entries_insert { b with nextId := made.2 } made.1
  refine ⟨_, made.1.element.entry, run, Import.isMember_importNode dotless _, fun e => ?_, ?_,
    fun same => ?_⟩
  · rw [entries, List.mem_insertIdx inside, or_comm]
    rfl
  · rw [entries]
    exact h.entries.insert inside
  · cases same

/-- An import is taken out. -/
theorem Exchanged.eraseAt {k : Nat} {p : Padded Import} (h : Exchanged before added dropped b)
    (here : b.imports[k]? = some p) :
    Exchanged before added (p.element.entry :: dropped) (b.eraseAt k) where
  entries := by
    rw [entries_eraseAt b (List.getElem?_eq_some_iff.1 here).1]
    exact h.entries.erase (by simp [ImportBlock.entries, here])
  unmoved same := by
    simp only [ImportBlock.eraseAt, here] at same
    split at same
    · split at same <;> cases same
    · split at same <;> cases same

/-- The static members of a type that are asked for. -/
def members (owner : String) (names : List String) : List AddRequest :=
  names.map fun member => ⟨owner, some member, false⟩

/-- Requests of members add one import for each of them that no import covers. -/
theorem Exchanged.adds (refs : References) (owner : String) {names : List String}
    (h : Exchanged before added [] b)
    (plain : ∀ name ∈ names, name ≠ "*" ∧ '.' ∉ name.toList) (once : names.Nodup) :
    ∃ b' new, (members owner names).foldlM (ImportBlock.add refs) b = .ok b' ∧
      List.Forall₂ (Import.IsMember owner)
        (names.filter fun name => ¬∃ e ∈ b.entries, e.Covers owner name) new ∧
      Exchanged before (added ++ new) [] b' := by
  induction names generalizing b added with
  | nil => exact ⟨b, [], rfl, .nil, by simpa using h⟩
  | cons name names ih =>
    obtain ⟨⟨single, dotless⟩, plain⟩ := List.forall_mem_cons.1 plain
    obtain ⟨other, once⟩ := List.nodup_cons.1 once
    by_cases covered : ∃ e ∈ b.entries, e.Covers owner name
    · have run : b.add refs ⟨owner, some name, false⟩ = .ok b := by
        simp only [ImportBlock.add, covers_iff.2 covered, Option.isNone_some, Bool.false_eq_true,
          if_false,
          if_true]
        rfl
      obtain ⟨b', new, runs, fits, exchanged⟩ := ih h plain once
      refine ⟨b', new, ?_, ?_, exchanged⟩
      · rw [members, List.map_cons, List.foldlM_cons, run]
        exact runs
      · rwa [List.filter_cons_of_neg (by simpa using covered)]
    · obtain ⟨b₁, i, run, isMember, mem, exchanged⟩ := h.add refs dotless covered
      obtain ⟨b', new, runs, fits, exchanged⟩ := ih exchanged plain once
      refine ⟨b', i :: new, ?_, ?_, by simpa using exchanged⟩
      · rw [members, List.map_cons, List.foldlM_cons, run]
        exact runs
      · rw [List.filter_cons_of_pos (by simpa using covered)]
        refine .cons isMember ?_
        -- The new import covers no other name, so the names left over are the same.
        convert fits using 1
        refine List.filter_congr fun name' mem' => ?_
        have ne : name' ≠ name := fun same => other (same ▸ mem')
        simp only [mem, decide_eq_decide, not_iff_not]
        constructor
        · rintro ⟨e, there, covers⟩
          exact ⟨e, .inl there, covers⟩
        · rintro ⟨e, there | rfl, covers⟩
          · exact ⟨e, there, covers⟩
          · exact absurd covers (isMember.not_covers ne single)

/-- Removals take out imports that a name among them is about. -/
theorem Exchanged.removes {names : List String} {P : Import → Prop}
    (h : Exchanged before added [] b)
    (about : ∀ (b : ImportBlock) (asType : Bool) (i : Import), ∀ name ∈ names,
      b.isUnused refs asType name i = true → P i.entry) :
    ∃ dropped, (∀ i ∈ dropped, P i) ∧
      Exchanged before added dropped (names.foldl (ImportBlock.remove refs) b) := by
  refine removes_keep (fun b => ∃ dropped, (∀ i ∈ dropped, P i) ∧
    Exchanged before added dropped b) ?_ ⟨[], List.forall_mem_nil _, h⟩
  rintro b k p asType name mem here unused ⟨dropped, all, exchanged⟩
  exact ⟨_, List.forall_mem_cons.2 ⟨about b asType _ name mem unused, all⟩, exchanged.eraseAt here⟩

end ImportBlock

/-- What requests of static members and removals exchange among the imports of a unit. -/
theorem CompilationUnit.meetRequests_exchange {u : CompilationUnit} {owner : String}
    {names removes : List String} {n n' : NodeId} {out : Edited CompilationUnit} {P : Import → Prop}
    (met : u.meetRequests ⟨ImportBlock.members owner names, removes⟩ n = .ok (out, n'))
    (plain : ∀ name ∈ names, name ≠ "*" ∧ '.' ∉ name.toList) (once : names.Nodup)
    (about : ∀ (b : ImportBlock) (asType : Bool) (i : Import), ∀ name ∈ removes,
      b.isUnused u.references asType name i = true → P i.entry) :
    ∃ added dropped, Exchange u.entries added dropped out.value.entries ∧
      List.Forall₂ (Import.IsMember owner)
        (names.filter fun name => ¬∃ e ∈ u.entries, e.Covers owner name) added ∧
      ∀ i ∈ dropped, P i := by
  obtain ⟨b, added, run, fits, exchanged⟩ :=
    (ImportBlock.Exchanged.start u n).adds u.references owner plain once
  obtain ⟨dropped, all, exchanged⟩ := exchanged.removes about
  rw [meetRequests_eq, run] at met
  obtain ⟨rfl, -⟩ := Prod.mk.inj (Except.ok.inj met)
  refine ⟨added, dropped, ?_, fits, all⟩
  rw [entries_withBlock]
  split
  · exact exchanged.entries
  · next same =>
    rw [← exchanged.unmoved (by simpa using same)]
    exact exchanged.unmoved (by simpa using same) ▸ exchanged.entries

end Retouch
