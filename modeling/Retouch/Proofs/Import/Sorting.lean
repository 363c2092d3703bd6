import Mathlib.Data.List.Nodup
import Mathlib.Data.String.Basic
import Retouch.Proofs.Import.Exchange
import Retouch.Proofs.Import.Named

/-!
# Imports in order

The imports of a unit are in order if those that are not static come first, and if both groups are
sorted by name (`Import.Precedes`). A new import is put behind the imports of its group that do not
come after it, so the others of the group come after it, and between the groups nothing is put
(`ImportBlock.position_splits`).
-/

namespace Retouch

namespace Import

/-- The import may stand in front of the other one: it is not static where the other one is, or it
is of the same group and its name is not behind the other name. Names are compared character by
character, which for their bytes gives the same order. -/
def Precedes (i j : Import) : Prop :=
  if i.isStatic = j.isStatic then ¬j.fullName < i.fullName else i.isStatic = false

instance : DecidableRel Precedes := fun i j =>
  inferInstanceAs (Decidable
    (if i.isStatic = j.isStatic then ¬j.fullName < i.fullName else i.isStatic = false))

/-- What an import is an import of: whether it is static, and its name. -/
def key (i : Import) : Bool × String := (i.isStatic, i.fullName)

variable {i j k : Import}

theorem precedes_of_static (first : i.isStatic = false) (last : j.isStatic = true) :
    i.Precedes j := by
  simp [Precedes, first, last]

theorem precedes_of_le (group : i.isStatic = j.isStatic) (le : ¬j.fullName < i.fullName) :
    i.Precedes j := by
  rwa [Precedes, if_pos group]

theorem Precedes.le (h : i.Precedes j) (group : i.isStatic = j.isStatic) :
    ¬j.fullName < i.fullName := by
  rwa [Precedes, if_pos group] at h

theorem Precedes.static (h : i.Precedes j) (groups : i.isStatic ≠ j.isStatic) :
    i.isStatic = false ∧ j.isStatic = true := by
  rw [Precedes, if_neg groups] at h
  exact ⟨h, by simpa [h] using groups.symm⟩

end Import

/-- What is put between two parts of a list is in order with both. -/
theorem pairwise_insertIdx {α : Type} {R : α → α → Prop} {front back : List α} {a : α}
    (sorted : (front ++ back).Pairwise R) (before : ∀ b ∈ front, R b a)
      (behind : ∀ b ∈ back, R a b) :
    ((front ++ back).insertIdx front.length a).Pairwise R := by
  have parts : (front ++ back).insertIdx front.length a = front ++ a :: back := by
    induction front with
    | nil => rfl
    | cons b front ih =>
      simp [ih (List.pairwise_cons.1 sorted).2 fun c mem => before c (List.mem_cons_of_mem _ mem)]
  rw [parts]
  obtain ⟨first, last, across⟩ := List.pairwise_append.1 sorted
  refine List.pairwise_append.2 ⟨first, List.pairwise_cons.2 ⟨behind, last⟩, fun b mem c mem' => ?_⟩
  obtain rfl | mem' := List.mem_cons.1 mem'
  · exact before b mem
  · exact across b mem c mem'

namespace ImportBlock

variable {b : ImportBlock} {isStatic : Bool} {name : String}

theorem mem_group {j : Nat} :
    j ∈ b.group isStatic ↔ ∃ e, b.entries[j]? = some e ∧ e.isStatic = isStatic := by
  simp only [group, List.mem_filter, List.mem_range, Option.any_eq_true, beq_iff_eq, entries,
    List.getElem?_map]
  constructor
  · rintro ⟨-, p, here, same⟩
    exact ⟨p.element.entry, by rw [here]; rfl, same⟩
  · rintro ⟨e, here, same⟩
    obtain ⟨p, there, rfl⟩ := Option.map_eq_some_iff.1 here
    exact ⟨(List.getElem?_eq_some_iff.1 there).1, p, there, same⟩

theorem sorted_group (b : ImportBlock) (isStatic : Bool) : (b.group isStatic).Pairwise (· < ·) :=
  List.pairwise_lt_range.filter _

/-- Where an import goes: in front of the first one of its group that comes after it, else behind
the last one of the group. An import without a group goes to the end if it is static, and else in
front of the static ones. -/
theorem position_cases (b : ImportBlock) (isStatic : Bool) (name : String) :
    (∃ e, b.entries[b.position isStatic name]? = some e ∧ e.isStatic = isStatic ∧
      name < e.fullName ∧
      ∀ j < b.position isStatic name, ∀ e, b.entries[j]? = some e → e.isStatic = isStatic →
        ¬name < e.fullName) ∨
    (∃ last e, b.position isStatic name = last + 1 ∧ b.entries[last]? = some e ∧
      e.isStatic = isStatic ∧
      ∀ j e, b.entries[j]? = some e → e.isStatic = isStatic → j ≤ last ∧ ¬name < e.fullName) ∨
    ((∀ e ∈ b.entries, e.isStatic ≠ isStatic) ∧
      b.position isStatic name = if isStatic then b.entries.length else 0) := by
  have after {j : Nat} {e : Import} (here : b.entries[j]? = some e) :
      ((b.imports[j]?).any (name < ·.element.fullName)) = decide (name < e.fullName) := by
    rw [entries, List.getElem?_map] at here
    obtain ⟨p, there, rfl⟩ := Option.map_eq_some_iff.1 here
    rw [there]
    rfl
  unfold position
  extract_lets members
  cases found : members.find? fun i => (b.imports[i]?).any (name < ·.element.fullName) with
  | some i =>
    left
    obtain ⟨larger, front, back, split, smaller⟩ := List.find?_eq_some_iff_append.1 found
    obtain ⟨e, here, same⟩ := mem_group.1 (List.mem_of_find?_eq_some found)
    rw [after here] at larger
    refine ⟨e, here, same, of_decide_eq_true larger, fun j earlier e' there same' => ?_⟩
    have sorted := b.sorted_group isStatic
    have mem : j ∈ b.group isStatic := mem_group.2 ⟨e', there, same'⟩
    rw [show b.group isStatic = front ++ i :: back from split] at sorted mem
    obtain mem | mem := List.mem_append.1 mem
    · have small := smaller j mem
      rw [after there] at small
      simpa using small
    · obtain rfl | mem := List.mem_cons.1 mem
      · exact absurd earlier (Nat.lt_irrefl _)
      · have later := (List.pairwise_cons.1 (List.pairwise_append.1 sorted).2.1).1 j mem
        exact absurd later (Nat.lt_asymm earlier)
  | none =>
    right
    have small {j : Nat} {e : Import} (here : b.entries[j]? = some e)
      (same : e.isStatic = isStatic) :
        ¬name < e.fullName := by
      have off := List.find?_eq_none.1 found j (mem_group.2 ⟨e, here, same⟩)
      rw [after here] at off
      simpa using off
    cases ends : members.getLast? with
    | some last =>
      left
      obtain ⟨front, split⟩ := List.getLast?_eq_some_iff.1 ends
      obtain ⟨e, here, same⟩ := mem_group.1 (List.mem_of_getLast? ends)
      refine ⟨last, e, rfl, here, same, fun j e' there same' => ⟨?_, small there same'⟩⟩
      have sorted := b.sorted_group isStatic
      have mem : j ∈ b.group isStatic := mem_group.2 ⟨e', there, same'⟩
      rw [show b.group isStatic = front ++ [last] from split] at sorted mem
      obtain mem | mem := List.mem_append.1 mem
      · exact Nat.le_of_lt ((List.pairwise_append.1 sorted).2.2 j mem last List.mem_cons_self)
      · exact Nat.le_of_eq (List.mem_singleton.1 mem)
    | none =>
      right
      have other : ∀ e ∈ b.entries, e.isStatic ≠ isStatic := by
        intro e mem same
        obtain ⟨j, here⟩ := List.mem_iff_getElem?.1 mem
        have mem : j ∈ members := mem_group.2 ⟨e, here, same⟩
        rw [List.getLast?_eq_none_iff.1 ends] at mem
        cases mem
      refine ⟨other, ?_⟩
      cases isStatic with
      | true => simp
      | false =>
        have all : ∀ p ∈ b.imports, p.element.isStatic = true := by
          intro p mem
          exact Bool.eq_true_of_not_eq_false (other p.element.entry (List.mem_map_of_mem mem))
        cases imports : b.imports with
        | nil => rfl
        | cons p ps =>
          have first := all p (by simp [imports])
          simp [List.findIdx?_cons, first]

/-- In a block in order, an import goes between those that may stand in front of it and those that
may stand behind it. -/
theorem position_splits (sorted : b.entries.Pairwise Import.Precedes) (i : Import) :
    ∃ front back, b.entries = front ++ back ∧ front.length = b.position i.isStatic i.fullName ∧
      (∀ e ∈ front, e.Precedes i) ∧ ∀ e ∈ back, i.Precedes e := by
  have inOrder {j k : Nat} {e e' : Import} (here : b.entries[j]? = some e)
    (there : b.entries[k]? = some e')
      (less : j < k) : e.Precedes e' := by
    obtain ⟨inside, rfl⟩ := List.getElem?_eq_some_iff.1 here
    obtain ⟨inside', rfl⟩ := List.getElem?_eq_some_iff.1 there
    exact List.pairwise_iff_getElem.1 sorted j k inside inside' less
  have cases := b.position_cases i.isStatic i.fullName
  have inside : b.position i.isStatic i.fullName ≤ b.entries.length := by
    rw [length_entries]
    exact b.position_le ..
  generalize b.position i.isStatic i.fullName = k at cases inside
  have split {P Q : Import → Prop} (front : ∀ j < k, ∀ e, b.entries[j]? = some e → P e)
      (back : ∀ j ≥ k, ∀ e, b.entries[j]? = some e → Q e) :
      (∀ e ∈ b.entries.take k, P e) ∧ ∀ e ∈ b.entries.drop k, Q e := by
    constructor <;> intro e mem <;> obtain ⟨j, here⟩ := List.mem_iff_getElem?.1 mem
    · rw [List.getElem?_take] at here
      split at here
      · next less => exact front j less e here
      · cases here
    · rw [List.getElem?_drop] at here
      exact back (k + j) (Nat.le_add_right k j) e here
  refine ⟨b.entries.take k, b.entries.drop k, (List.take_append_drop ..).symm,
    List.length_take_of_le inside, ?_⟩
  obtain ⟨o, there, same, larger, small⟩ | ⟨last, o, rfl, there, same, small⟩ | ⟨other, rfl⟩ :=
    cases
  · refine split (fun j less e here => ?_) fun j le e here => ?_
    · by_cases group : e.isStatic = i.isStatic
      · exact Import.precedes_of_le group (small j less e here group)
      · obtain ⟨first, last⟩ := (inOrder here there less).static (same ▸ group)
        exact Import.precedes_of_static first (same ▸ last)
    · obtain rfl | less := Nat.eq_or_lt_of_le le
      · obtain rfl := Option.some.inj (there.symm.trans here)
        exact Import.precedes_of_le same.symm (lt_asymm larger)
      · have behind := inOrder there here less
        by_cases group : o.isStatic = e.isStatic
        · refine Import.precedes_of_le (same.symm.trans group) fun smaller => ?_
          exact behind.le group (lt_trans smaller larger)
        · obtain ⟨first, last⟩ := behind.static group
          exact Import.precedes_of_static (same ▸ first) last
  · refine split (fun j less e here => ?_) fun j le e here => ?_
    · by_cases group : e.isStatic = i.isStatic
      · exact Import.precedes_of_le group (small j e here group).2
      · have less : j < last := by
          refine Nat.lt_of_le_of_ne (Nat.le_of_lt_succ less) ?_
          rintro rfl
          obtain rfl := Option.some.inj (there.symm.trans here)
          exact group same
        obtain ⟨first, last⟩ := (inOrder here there less).static (same ▸ group)
        exact Import.precedes_of_static first (same ▸ last)
    · have group : o.isStatic ≠ e.isStatic := fun group =>
        Nat.not_succ_le_self last (le.trans (small j e here (group.symm.trans same)).1)
      obtain ⟨first, last⟩ := (inOrder there here le).static group
      exact Import.precedes_of_static (same ▸ first) last
  · have differs {j : Nat} {e : Import} (here : b.entries[j]? = some e) :=
      other e (List.mem_of_getElem? here)
    by_cases isStatic : i.isStatic = true
    · refine split (fun j less e here => ?_) fun j le e here => ?_
      · exact Import.precedes_of_static (by simpa [isStatic] using differs here) isStatic
      · have none := (List.getElem?_eq_some_iff.1 here).1
        simp only [isStatic, if_true] at le
        omega
    · have first : i.isStatic = false := by simpa using isStatic
      refine split (fun j less e here => ?_) fun j le e here => ?_
      · simp [first] at less
      · exact Import.precedes_of_static first (by simpa [first] using differs here)

/-- An import that is put in leaves the block in order. -/
theorem sorted_insert (sorted : b.entries.Pairwise Import.Precedes) (node : Padded Import) :
    (b.insert node).entries.Pairwise Import.Precedes := by
  obtain ⟨front, back, split, length, before, behind⟩ := position_splits sorted node.element.entry
  rw [entries_insert_position,
    show b.position node.element.isStatic node.element.fullName = front.length from length.symm,
      split]
  exact pairwise_insertIdx (split ▸ sorted) before behind

end ImportBlock

/-! ## Requests -/

namespace AddRequest

/-- A request for something that an import can name: a type in a package or in another type, or a
member of a type. The name of a type has a segment that does not begin with a lower-case letter. -/
structure Importable (r : AddRequest) : Prop where
  typed : ∃ s ∈ Text.split '.' r.typeName, s.toList.head?.any Char.isLower = false
  alone : r.member = none → '.' ∈ r.typeName.toList ∧ simpleNameOf r.typeName ≠ "*"
  single : ∀ member, r.member = some member → '.' ∉ member.toList

variable {r : AddRequest}

instance : Decidable r.Importable :=
  decidable_of_iff ((∃ s ∈ Text.split '.' r.typeName, s.toList.head?.any Char.isLower = false) ∧
    (r.member = none → '.' ∈ r.typeName.toList ∧ simpleNameOf r.typeName ≠ "*") ∧
      ∀ member ∈ r.member, '.' ∉ member.toList)
    ⟨fun h => ⟨h.1, h.2.1, h.2.2⟩, fun h => ⟨h.typed, h.alone, h.single⟩⟩

theorem Importable.exists_segments (h : r.Importable) :
    ∃ outer last, Text.split '.' r.name = outer ++ [last] ∧ outer ≠ [] := by
  obtain ⟨typeName, _ | member, ifReferenced⟩ := r
  · obtain ⟨point, -⟩ := h.alone rfl
    obtain none | ⟨outer, last, segments⟩ := (Text.split '.' typeName).eq_nil_or_concat'
    · exact absurd none (by simp [Text.split, Text.splitChars_ne_nil])
    · refine ⟨outer, last, segments, ?_⟩
      rintro rfl
      have whole : ".".intercalate (Text.split '.' typeName) = typeName :=
        Text.intercalate_split rfl typeName
      rw [segments, List.nil_append, String.intercalate_singleton] at whole
      have mem : last ∈ Text.split '.' typeName := by simp [segments]
      exact Text.free_of_mem_split mem (whole ▸ point)
  · have dot : ".".toList = ['.'] := rfl
    refine ⟨Text.split '.' typeName, member, ?_, by simp [Text.split, Text.splitChars_ne_nil]⟩
    simp [AddRequest.name, Text.split, dot, Text.splitChars_append_sep,
      Text.splitChars_free (h.single member rfl)]

/-- The import that is made has the name that is asked for. -/
theorem Importable.made (h : r.Importable) (n : NodeId) :
    (importNode r.name r.member.isSome n).1.element.entry.key = (r.member.isSome, r.name) ∧
      (importNode r.name r.member.isSome n).1.element.entry.Named := by
  obtain ⟨outer, last, segments, some⟩ := h.exists_segments
  have spelled := (qualifiedExpression_spells some n).1
  have whole : ".".intercalate (Text.split '.' r.name) = r.name := Text.intercalate_split rfl r.name
  rw [segments, Text.intercalate_concat "." some] at whole
  have single : '.' ∉ last.toList := Text.free_of_mem_split (s := r.name) (by simp [segments])
  rw [importNode_of_split segments some]
  refine ⟨Prod.ext ?_ ?_, ⟨?_, single⟩⟩
  · cases r.member <;> rfl
  · rw [Import.key, Import.fullName_eq]
    simp [Import.entry, Padded.tight, spelled, whole]
  · simp [Import.entry, Padded.tight, spelled]

end AddRequest

namespace ImportBlock

variable {b : ImportBlock} {r : AddRequest}

/-- An import that nothing in the block covers is new to it. -/
theorem key_ne (h : r.Importable) (named : ∀ e ∈ b.entries, e.Named)
    (uncovered : b.covers r = false) :
    ∀ e ∈ b.entries, e.key ≠ (r.member.isSome, r.name) := by
  intro e mem same
  obtain ⟨isStatic, name⟩ := Prod.mk.inj same
  obtain ⟨p, there, rfl⟩ := List.mem_map.1 mem
  have off := List.any_eq_false.1 uncovered p there
  obtain ⟨outer, last⟩ := named _ mem
  obtain ⟨owner, spelled⟩ := Option.isSome_iff_exists.1 outer
  obtain ⟨typeName, _ | member, ifReferenced⟩ := r
  · obtain ⟨point, plain⟩ := h.alone rfl
    have group : p.element.isStatic = false := isStatic
    have own : p.element.fullName = typeName := name
    simp only [provides, group, Bool.not_false, Bool.true_and] at off
    split at off
    · next star =>
      refine plain (own ▸ Import.simpleNameOf_fullName star ?_)
      rintro none
      simp [← own, none] at point
    · exact absurd (beq_iff_eq.2 own) off
  · rw [Import.fullName_eq, spelled] at name
    obtain ⟨rfl, rfl⟩ := Text.append_inj_last rfl last (h.single member rfl) name
    have group : p.element.isStatic = true := isStatic
    have owned : p.element.typeName? = some owner := by
      rw [Import.typeName?, if_pos group]
      exact spelled
    simp [provides, group, owned, Import.member?, Import.entry] at off

/-- What is asked for can be looked for in the packages that are always visible. -/
theorem exists_isVisible (b : ImportBlock) {typeName : String}
    (typed : ∃ s ∈ Text.split '.' typeName, s.toList.head?.any Char.isLower = false) :
    ∃ visible, b.isVisible typeName = .ok visible := by
  unfold isVisible
  extract_lets package
  split
  · exact ⟨_, rfl⟩
  · next some =>
    obtain ⟨rest, behind⟩ := exists_behind_package typed fun none => some (by simp [package, none])
    have longer : package ≠ typeName := by
      intro same
      have length := congrArg String.length behind
      have dot : ".".length = 1 := rfl
      rw [show packageOf typeName = typeName from same] at length
      simp only [String.length_append] at length
      omega
    rw [if_neg (by simpa using longer)]
    exact ⟨_, rfl⟩

/-- The block with the import that is asked for. -/
def grow (b : ImportBlock) (r : AddRequest) : ImportBlock :=
  let made := importNode r.name r.member.isSome b.nextId
  ({ b with nextId := made.2 } : ImportBlock).insert made.1

/-- A request is met by an import, unless what it asks for is visible, covered, or not referred to.
-/
theorem add_eq (refs : References)
    (b : ImportBlock) {visible : Bool} (looked : b.isVisible r.typeName = .ok visible) :
    ∃ referenced, b.add refs r =
      .ok (if r.member.isNone && visible || b.covers r || r.ifReferenced &&
        !referenced then b else b.grow r) := by
  have run (skips referenced : Bool) : (do
      if skips then return b
      if b.covers r then return b
      if r.ifReferenced && !referenced then return b
      return b.grow r : Except EditError ImportBlock) =
        .ok (if skips || b.covers r || r.ifReferenced && !referenced then b else b.grow r) := by
    cases skips <;> cases b.covers r <;> cases r.ifReferenced <;> cases referenced <;> rfl
  obtain ⟨typeName, _ | member, ifReferenced⟩ := r
  · refine ⟨refs.usesType typeName, ?_⟩
    simp only [add, looked, Option.isNone_none, if_true]
    exact run visible _
  · refine ⟨(refs.staticUses typeName none).contains member, ?_⟩
    simp only [add, Option.isNone_some, Bool.false_eq_true, if_false]
    exact run false _

/-- What requests keep in order: the imports, with those that were added among those that were
there. -/
structure Ordered (before added : List Import) (b : ImportBlock) : Prop where
  exchanged : Exchanged before added [] b
  sorted : b.entries.Pairwise Import.Precedes
  named : ∀ e ∈ b.entries, e.Named
  distinct : (added.map Import.key).Nodup
  fresh : ∀ i ∈ added, ∀ e ∈ before, i.key ≠ e.key

variable {before added : List Import} {refs : References}

/-- One request keeps the imports in order. -/
theorem Ordered.add (h : Ordered before added b) (importable : r.Importable) :
    ∃ b' added', b.add refs r = .ok b' ∧ Ordered before added' b' := by
  obtain ⟨visible, looked⟩ := b.exists_isVisible importable.typed
  obtain ⟨referenced, run⟩ := add_eq refs b looked
  split at run
  · exact ⟨b, added, run, h⟩
  · next skips =>
    have uncovered : b.covers r = false := by
      simp only [Bool.or_eq_true, not_or, Bool.not_eq_true] at skips
      exact skips.1.2
    have fresh := key_ne importable h.named uncovered
    obtain ⟨key, named⟩ := importable.made b.nextId
    let made := importNode r.name r.member.isSome b.nextId
    let grown : ImportBlock := { b with nextId := made.2 }
    have inserted := grown.entries_insert_position made.1
    have inside : grown.position made.1.element.isStatic made.1.element.fullName ≤
      b.entries.length := by
      rw [length_entries]
      exact grown.position_le ..
    have all : ∀ e, e ∈ b.entries ↔ e ∈ added ∨ e ∈ before := by
      intro e
      simpa using h.exchanged.entries.mem_iff.symm
    refine ⟨b.grow r, added ++ [made.1.element.entry], run, ⟨?_, fun same => ?_⟩,
      sorted_insert (b := grown) h.sorted made.1, fun e mem => ?_, ?_, ?_⟩
    · rw [grow, inserted]
      exact h.exchanged.entries.insert inside
    · cases same
    · rw [grow, inserted] at mem
      obtain rfl | mem := (List.mem_insertIdx inside).1 mem
      · exact named
      · exact h.named e mem
    · rw [List.map_append, List.nodup_append]
      refine ⟨h.distinct, List.nodup_singleton _, fun k mem k' mem' same => ?_⟩
      obtain ⟨e, there, rfl⟩ := List.mem_map.1 mem
      obtain rfl := List.mem_singleton.1 mem'
      exact fresh e ((all e).2 (.inl there)) (same.trans key)
    · intro i mem e there
      obtain mem | mem := List.mem_append.1 mem
      · exact h.fresh i mem e there
      · obtain rfl := List.mem_singleton.1 mem
        exact fun same => fresh e ((all e).2 (.inr there)) (same.symm.trans key)

end ImportBlock

/-- Requests for imports leave the imports of a unit in order if they were. The old ones keep their
places among one another, and no new one has the kind and the name of another import. -/
theorem additions_keep_order {classpath : Classpath}
    {bindings : List (String × JavaType)} {path source : String}
    {nextId n : NodeId} {u : CompilationUnit}
      (parsed : parseSource classpath bindings path source nextId = .ok (u, n))
    (sorted : u.entries.Pairwise Import.Precedes) {adds : List AddRequest}
      (importable : ∀ r ∈ adds, r.Importable)
    (n' : NodeId) :
    ∃ out n'' added, u.meetRequests { adds } n' = .ok (out, n'') ∧
      out.value.entries.Pairwise Import.Precedes ∧
      u.entries.Sublist out.value.entries ∧ out.value.entries.Perm (added ++ u.entries) ∧
      (added.map Import.key).Nodup ∧ ∀ i ∈ added, ∀ e ∈ u.entries, i.key ≠ e.key := by
  have start : ∃ added, ImportBlock.Ordered u.entries added (u.importBlock n') := by
    refine ⟨[], .start u n', sorted, fun e mem => ?_, List.nodup_nil, List.forall_mem_nil _⟩
    obtain ⟨p, there, rfl⟩ := List.mem_map.1 mem
    exact ⟨(named_parseSource parsed p there).outer, (named_parseSource parsed p there).last⟩
  have step (b : ImportBlock) (r : AddRequest) (mem : r ∈ adds)
      (ordered : ∃ added, ImportBlock.Ordered u.entries added b) :
      ∃ b', b.add u.references r = .ok b' ∧ ∃ added, ImportBlock.Ordered u.entries added b' := by
    obtain ⟨added, ordered⟩ := ordered
    obtain ⟨b', added', run, ordered'⟩ :=
      @ImportBlock.Ordered.add b r u.entries added u.references ordered (importable r mem)
    exact ⟨b', run, added', ordered'⟩
  obtain ⟨b, run, added, ordered⟩ := ImportBlock.adds_ok u.references step start
  have entries : (u.withBlock b).value.entries = b.entries := by
    rw [u.entries_withBlock]
    split
    · rfl
    · next same => exact (ordered.exchanged.unmoved (by simpa using same)).symm
  obtain ⟨kept, made⟩ := ordered.exchanged.entries.grown
  refine ⟨u.withBlock b, b.nextId, added, ?_, ?_⟩
  · rw [CompilationUnit.meetRequests_eq, run]
    rfl
  · rw [entries]
    exact ⟨ordered.sorted, kept, made, ordered.distinct, ordered.fresh⟩

def twoGroups : String := "import b.A; import static a.B.z; class T \x7b \x7d"

def threeRequests : List AddRequest :=
    [⟨"b.C", none, false⟩, ⟨"a.B", some "m", false⟩, ⟨"a.Z", none, false⟩]

/-- In front of a name, behind the last one of a group, and into the second group. -/
theorem additions_keep_order_groups :
    ∃ u n out n' added, parseSource ⟨"", [], []⟩ [] "T.java" twoGroups 0 = .ok (u, n) ∧
      u.entries.Pairwise Import.Precedes ∧ (∀ r ∈ threeRequests, r.Importable) ∧
      u.meetRequests { adds := threeRequests } n = .ok (out, n') ∧
      out.value.entries.map Import.key =
        [(false, "a.Z"), (false, "b.A"), (false, "b.C"), (true, "a.B.m"), (true, "a.B.z")] ∧
      out.value.entries.Pairwise Import.Precedes ∧ u.entries.Sublist out.value.entries ∧
      out.value.entries.Perm (added ++ u.entries) ∧ (added.map Import.key).Nodup ∧
      ∀ i ∈ added, ∀ e ∈ u.entries, i.key ≠ e.key := by
  have computed : (parseSource ⟨"", [], []⟩ [] "T.java" twoGroups 0).toOption.any (fun parsed =>
      decide (parsed.1.entries.Pairwise Import.Precedes) &&
        (parsed.1.meetRequests { adds := threeRequests } parsed.2).toOption.any fun met =>
          met.1.value.entries.map Import.key ==
            [(false, "a.Z"), (false, "b.A"), (false, "b.C"), (true, "a.B.m"), (true, "a.B.z")]) =
              true := by
    unfold parseSource parseUnit tokenize
    rw [Text.toList_closed twoGroups rfl]
    decide +kernel
  have importable : ∀ r ∈ threeRequests, r.Importable := by decide +kernel
  obtain ⟨⟨u, n⟩, parsed, computed⟩ := exists_of_any computed
  obtain ⟨sorted, computed⟩ := Bool.and_eq_true_iff.1 computed
  obtain ⟨⟨out, n'⟩, met, keys⟩ := exists_of_any computed
  obtain ⟨out', n'', added, met', all⟩ :=
    additions_keep_order parsed (of_decide_eq_true sorted) importable n
  cases met.symm.trans met'
  exact ⟨u, n, out, n', added, parsed, of_decide_eq_true sorted, importable, met,
    by simpa using keys, all⟩

/-- A name of one segment stands for everything below it, and that is imported again. -/
theorem single_segment_repeated :
    ∃ u n out n', parseSource ⟨"", [], []⟩ [] "T.java" "import X.*; class A \x7b \x7d" 0 = .ok
      (u, n) ∧
      u.entries.Pairwise Import.Precedes ∧
        (∀ s ∈ Text.split '.' "X", s.toList.head?.any Char.isUpper = true) ∧
      u.meetRequests { adds := [⟨"X", none, false⟩] } n = .ok (out, n') ∧
      u.entries.map Import.key = [(false, "X.*")] ∧
      out.value.entries.map Import.key = [(false, "X.*"), (false, "X.*")] := by
  have computed : (parseSource ⟨"", [], []⟩ [] "T.java" "import X.*; class A \x7b \x7d"
    0).toOption.any (fun parsed =>
      decide (parsed.1.entries.Pairwise Import.Precedes) &&
        parsed.1.entries.map Import.key == [(false, "X.*")] &&
        (parsed.1.meetRequests { adds := [⟨"X", none, false⟩] } parsed.2).toOption.any fun met =>
          met.1.value.entries.map Import.key == [(false, "X.*"), (false, "X.*")]) = true := by
    unfold parseSource parseUnit tokenize
    rw [Text.toList_closed "import X.*; class A \x7b \x7d" rfl]
    decide +kernel
  obtain ⟨⟨u, n⟩, parsed, computed⟩ := exists_of_any computed
  simp only [Bool.and_eq_true, decide_eq_true_eq, beq_iff_eq] at computed
  obtain ⟨⟨sorted, before⟩, computed⟩ := computed
  obtain ⟨⟨out, n'⟩, met, after⟩ := exists_of_any computed
  exact ⟨u, n, out, n', parsed, sorted, by decide +kernel, met, before, by simpa using after⟩

end Retouch
