import Mathlib.Data.List.Range
import Retouch.Proofs.Classpath.Specificity

/-!
# What a call on a receiver is bound to

The methods of one name that a type has are those that its ancestors declare (`Declares`), in the
order of the ancestors and of their stubs (`Declaration.Before`). One with the parameters of an
earlier one is hidden (`Visible`). A call is bound in the earliest phase in which a visible method
is applicable, to the most specific one there or to the first (`Bound`); it is not bound exactly
when no visible method is applicable (`resolveMethod?_spec`).
-/

namespace Retouch

/-- A method that an ancestor of a type declares. -/
structure Declaration where
  /-- The place of the ancestor, nearest first. -/
  rank : Nat
  /-- The place of the method in the stub of the ancestor. -/
  index : Nat
  owner : ClassType
  method : MethodStub

namespace Declaration

/-- Nearer ancestors come first, and so do methods that are declared first. -/
def Before (d e : Declaration) : Prop := d.rank < e.rank ∨ d.rank = e.rank ∧ d.index < e.index

variable (cp : Classpath) (d : Declaration)

def params : List JavaType := d.method.params.map cp.typeOfName

/-- The method as a candidate for calls. -/
def candidate : Candidate where
  declaring := d.owner
  name := d.method.name
  params := d.params cp
  returns := if d.method.returns == "SELF" then .receiver else .fixed
    (cp.typeOfName d.method.returns)
  isStatic := d.method.isStatic
  varargs := d.method.varargs

/-- The signature of the method on a receiver, which stands for `SELF`. -/
def signature (receiver : JavaType) : MethodType where
  declaring := d.owner
  name := d.method.name
  parameters := d.params cp
  returns := if d.method.returns == "SELF" then receiver else cp.typeOfName d.method.returns
  isStatic := d.method.isStatic
  varargs := d.method.varargs

variable {cp d}

theorem Before.asymm {e : Declaration} (h : d.Before e) : ¬ e.Before d := by
  unfold Before at *
  omega

theorem Before.irrefl : ¬ d.Before d := fun h => h.asymm h

/-- A receiver of a class type stands for `SELF`. -/
theorem methodType_candidate (owner : ClassType) :
    (d.candidate cp).methodType (some (.declared owner)) = d.signature cp (.declared owner) := by
  unfold candidate signature Candidate.methodType
  split <;> simp_all

end Declaration

namespace Classpath

open Overload

/-! ## Methods of a type -/

/-- An ancestor of `c` declares the method under the name. -/
structure Declares (cp : Classpath) (c : ClassType) (name : String) (d : Declaration) : Prop where
  ancestor : c.ancestors[d.rank]? = some d.owner
  stub : ∃ stub, cp.stub? d.owner.fqn = some stub ∧ stub.methods[d.index]? = some d.method
  named : d.method.name = name

/-- The method is declared, and no earlier one has the same parameters. -/
structure Visible (cp : Classpath) (c : ClassType) (name : String) (d : Declaration) : Prop where
  declared : Declares cp c name d
  first : ∀ e, Declares cp c name e → e.Before d → (e.params cp == d.params cp) = false

/-- The method is visible and applicable in the phase. -/
structure Fits (cp : Classpath) (c : ClassType) (name : String) (args : List ArgShape)
    (phase : Phase)
    (d : Declaration) : Prop where
  visible : Visible cp c name d
  applicable : applicable phase args (d.candidate cp) = true

/-- The method fits in the phase, and it is as specific as every other one that does. -/
structure Best (cp : Classpath) (c : ClassType) (name : String) (args : List ArgShape)
    (phase : Phase)
    (d : Declaration) : Prop where
  fits : Fits cp c name args phase d
  specific : ∀ e, Fits cp c name args phase e → e ≠ d →
    moreSpecific phase args.length (d.candidate cp) (e.candidate cp) = true

/-- The phase is the earliest one in which a method fits, and the method is the most specific one of
that phase, or the first if there is none. -/
structure Bound (cp : Classpath) (c : ClassType) (name : String) (args : List ArgShape)
    (phase : Phase)
    (d : Declaration) : Prop where
  fits : Fits cp c name args phase d
  earliest : ∀ earlier : Phase, earlier.place < phase.place → ∀ e, ¬ Fits cp c name args earlier e
  best : (Best cp c name args phase d ∧ ∀ e, Best cp c name args phase e → ¬ e.Before d) ∨
    (∀ e, ¬ Best cp c name args phase e) ∧ ∀ e, Fits cp c name args phase e → ¬ e.Before d

variable {cp : Classpath} {c : ClassType} {name : String} {args : List ArgShape} {d : Declaration}

/-- The methods of a name that an ancestor declares, in order. -/
def declarationsOf (cp : Classpath) (name : String) (a : ClassType) (rank : Nat) :
    List Declaration :=
  match cp.stub? a.fqn with
  | none => []
  | some stub =>
    (stub.methods.zipIdx.filter (·.1.name == name)).map fun (m, index) => ⟨rank, index, a, m⟩

/-- The methods of a name that a type has, in order. -/
def declarations (cp : Classpath) (c : ClassType) (name : String) : List Declaration :=
  c.ancestors.zipIdx.flatMap fun (a, rank) => declarationsOf cp name a rank

theorem mem_declarationsOf_iff {a : ClassType} {rank : Nat} :
    d ∈ declarationsOf cp name a rank ↔ d.rank = rank ∧ d.owner = a ∧ d.method.name = name ∧
      ∃ stub, cp.stub? a.fqn = some stub ∧ stub.methods[d.index]? = some d.method := by
  unfold declarationsOf
  cases found : cp.stub? a.fqn with
  | none => simp
  | some stub =>
    simp only [List.mem_map, List.mem_filter, Prod.exists, List.mem_zipIdx_iff_getElem?, beq_iff_eq]
    constructor
    · rintro ⟨m, index, ⟨held, named⟩, rfl⟩
      exact ⟨rfl, rfl, named, stub, rfl, held⟩
    · rintro ⟨rfl, rfl, named, _, ⟨⟩, held⟩
      exact ⟨d.method, d.index, ⟨held, named⟩, rfl⟩

theorem mem_declarations_iff : d ∈ declarations cp c name ↔ Declares cp c name d := by
  simp only [declarations, List.mem_flatMap, Prod.exists, List.mem_zipIdx_iff_getElem?,
    mem_declarationsOf_iff]
  constructor
  · rintro ⟨_, _, there, rfl, rfl, named, stub⟩
    exact ⟨there, stub, named⟩
  · rintro ⟨there, stub, named⟩
    exact ⟨d.owner, d.rank, there, rfl, rfl, named, stub⟩

theorem pairwise_zipIdx {α : Type} (l : List α) : l.zipIdx.Pairwise fun x y => x.2 < y.2 := by
  rw [← List.pairwise_map (f := Prod.snd) (R := (· < ·)), List.zipIdx_map_snd]
  exact List.pairwise_lt_range'

theorem pairwise_declarations (cp : Classpath) (c : ClassType) (name : String) :
    (declarations cp c name).Pairwise Declaration.Before := by
  refine List.pairwise_flatMap.2 ⟨fun (a, rank) _ => ?_, ?_⟩
  · unfold declarationsOf
    dsimp only
    split
    · exact .nil
    · exact List.pairwise_map.2 (((pairwise_zipIdx _).filter _).imp fun lt => .inr ⟨rfl, lt⟩)
  · refine (pairwise_zipIdx _).imp fun {x y} lt d mem e mem' => .inl ?_
    rwa [(mem_declarationsOf_iff.1 mem).1, (mem_declarationsOf_iff.1 mem').1]

theorem map_declarations (cp : Classpath) (c : ClassType) (name : String) :
    (declarations cp c name).map (·.candidate cp) =
      c.ancestors.flatMap fun a => cp.declaredMethods a name := by
  have one (a : ClassType) (rank : Nat) :
      (declarationsOf cp name a rank).map (·.candidate cp) = cp.declaredMethods a name := by
    unfold declarationsOf declaredMethods
    cases cp.stub? a.fqn with
    | none => rfl
    | some stub =>
      dsimp only
      conv_rhs => rw [← List.zipIdx_map_fst 0 stub.methods, List.filter_map, List.map_map]
      rw [List.map_map]
      rfl
  simp only [declarations, List.map_flatMap, one]
  conv_rhs => rw [← List.zipIdx_map_fst 0 c.ancestors, List.flatMap_map]

/-- No method of the list that comes before this one has the same parameters. -/
def Unhidden (cp : Classpath) (ds : List Declaration) (d : Declaration) : Prop :=
  ∀ e ∈ ds, e.Before d → (e.params cp == d.params cp) = false

/-- The last one of a list in order hides none of the others. -/
theorem unhidden_concat_iff {ds : List Declaration} {last : Declaration} (late : d.Before last) :
    Unhidden cp (ds ++ [last]) d ↔ Unhidden cp ds d := by
  refine List.forall_mem_append.trans (and_iff_left ?_)
  exact List.forall_mem_singleton.2 fun early => absurd early late.asymm

theorem unhidden_last_iff {ds : List Declaration} {last : Declaration}
    (late : ∀ e ∈ ds, e.Before last) :
    Unhidden cp (ds ++ [last]) last ↔ (ds.any fun e => e.params cp == last.params cp) = false := by
  rw [List.any_eq_false]
  refine List.forall_mem_append.trans ⟨fun h e held => ?_, fun h => ⟨fun e held _ => ?_, ?_⟩⟩
  · simp [h.1 e held (late e held)]
  · simpa using h e held
  · exact List.forall_mem_singleton.2 fun early => absurd early Declaration.Before.irrefl

/-- Of methods in order those are kept that no earlier one hides. -/
theorem exists_kept (cp : Classpath) {ds : List Declaration}
    (sorted : ds.Pairwise Declaration.Before) :
    ∃ kept : List Declaration, kept.Sublist ds ∧
      visible (ds.map (·.candidate cp)) = kept.map (·.candidate cp) ∧
      ∀ d, d ∈ kept ↔ d ∈ ds ∧ Unhidden cp ds d := by
  induction ds using List.reverseRecOn with
  | nil => exact ⟨[], .slnil, rfl, by simp⟩
  | append_singleton ds last ih =>
    obtain ⟨front, -, before⟩ := List.pairwise_append.1 sorted
    have late (e : Declaration) (held : e ∈ ds) : e.Before last :=
      before e held last List.mem_cons_self
    obtain ⟨kept, part, kept_eq, mem⟩ := ih front
    have others (d : Declaration) : d ∈ ds ∧ Unhidden cp (ds ++ [last]) d ↔ d ∈ kept := by
      rw [mem]
      exact and_congr_right fun held => unhidden_concat_iff (late d held)
    have hidden : (visible (ds.map (·.candidate cp))).any (·.params == (last.candidate cp).params) =
        ds.any fun e => e.params cp == last.params cp := by
      rw [any_visible, List.any_map]
      rfl
    simp only [List.mem_append, List.mem_singleton, or_and_right, others]
    rw [List.map_append, List.map_singleton, visible_append, hidden]
    cases same : ds.any fun e => e.params cp == last.params cp with
    | true =>
      refine ⟨kept, part.trans (List.sublist_append_left _ _), by simpa using kept_eq, fun d => ?_⟩
      refine (or_iff_left ?_).symm
      rintro ⟨rfl, fresh⟩
      rw [unhidden_last_iff late, same] at fresh
      cases fresh
    | false =>
      refine ⟨kept ++ [last], part.append_right _, by simp [kept_eq], fun d => ?_⟩
      rw [List.mem_append, List.mem_singleton]
      refine or_congr_right (iff_self_and.2 ?_)
      rintro rfl
      exact (unhidden_last_iff late).2 same

/-- The visible methods, which selection keeps, are in order. -/
theorem exists_visible (cp : Classpath) (c : ClassType) (name : String) :
    ∃ kept : List Declaration, kept.Pairwise Declaration.Before ∧
      (∀ d, d ∈ kept ↔ Visible cp c name d) ∧
      visible (c.ancestors.flatMap fun a => cp.declaredMethods a name) =
        kept.map (·.candidate cp) := by
  have sorted := pairwise_declarations cp c name
  obtain ⟨kept, part, kept_eq, mem⟩ := exists_kept cp sorted
  refine ⟨kept, sorted.sublist part, fun d => ?_, map_declarations cp c name ▸ kept_eq⟩
  rw [mem, mem_declarations_iff]
  constructor
  · rintro ⟨declared, fresh⟩
    exact ⟨declared, fun e held => fresh e (mem_declarations_iff.2 held)⟩
  · rintro ⟨declared, fresh⟩
    exact ⟨declared, fun e held => fresh e (mem_declarations_iff.1 held)⟩

end Classpath

namespace Overload

variable {cp : Classpath} {candidates : List Candidate} {args : List ArgShape} {best : Candidate}

/-- The choice is made in the earliest phase in which a visible candidate is applicable. -/
theorem phase_of_select? (h : select? candidates args = some best) :
    ∃ phase, best? phase args.length ((visible candidates).filter (applicable phase args)) = some
      best ∧
      ∀ earlier : Phase, earlier.place < phase.place →
        ∀ c ∈ visible candidates, applicable earlier args c = false := by
  obtain ⟨before, phase, after, phases, found, skipped⟩ := List.findSome?_eq_some_iff.1 h
  refine ⟨phase, found, fun earlier early c mem => ?_⟩
  have order : [Phase.strict, .loose, .variable].Pairwise (·.place < ·.place) := by decide
  have all : earlier ∈ [Phase.strict, .loose, .variable] := by cases earlier <;> decide
  rw [phases] at order all
  have front : earlier ∈ before := by
    rcases List.mem_append.1 all with front | rest
    · exact front
    · rcases List.mem_cons.1 rest with rfl | late
      · exact absurd early (Nat.lt_irrefl _)
      · have late := List.rel_of_pairwise_cons (List.pairwise_append.1 order).2.1 late
        exact absurd early (Nat.lt_asymm late)
  have none := skipped earlier front
  rw [best?_eq_none_iff, List.filter_eq_nil_iff] at none
  simpa using none c mem

end Overload

namespace Classpath

open Overload

variable {cp : Classpath} {c : ClassType} {name : String} {args : List ArgShape} {phase : Phase}

/-- Nothing comes before the first of a list in order. -/
theorem not_before_head {d e : Declaration} {ds : List Declaration}
    (sorted : (d :: ds).Pairwise Declaration.Before) (mem : e ∈ d :: ds) : ¬ e.Before d := by
  rcases List.mem_cons.1 mem with rfl | late
  · exact Declaration.Before.irrefl
  · exact (List.rel_of_pairwise_cons sorted late).asymm

/-- Nothing that is looked for comes before what is found. -/
theorem not_before_of_find? {ds : List Declaration} (sorted : ds.Pairwise Declaration.Before)
    {p : Declaration → Bool} {d : Declaration} (found : ds.find? p = some d) :
    ∀ e ∈ ds, p e = true → ¬ e.Before d := by
  obtain ⟨-, front, rest, rfl, skipped⟩ := List.find?_eq_some_iff_append.1 found
  intro e mem suits
  rcases List.mem_append.1 mem with early | late
  · have skip := skipped e early
    simp [suits] at skip
  · exact not_before_head (List.pairwise_append.1 sorted).2.1 late

/-- The choice among the methods that fit in a phase, which are in order. -/
theorem exists_of_best? {fitting : List Declaration} (sorted : fitting.Pairwise Declaration.Before)
    (mem : ∀ d, d ∈ fitting ↔ Fits cp c name args phase d) {chosen : Candidate}
    (h : best? phase args.length (fitting.map (·.candidate cp)) = some chosen) :
    ∃ d, chosen = d.candidate cp ∧ Fits cp c name args phase d ∧
      ((Best cp c name args phase d ∧ ∀ e, Best cp c name args phase e → ¬ e.Before d) ∨
        (∀ e, ¬ Best cp c name args phase e) ∧
          ∀ e, Fits cp c name args phase e → ¬ e.Before d) := by
  have best (d : Declaration) : Best cp c name args phase d ↔ d ∈ fitting ∧
      (fitting.map (·.candidate cp)).all (moreSpecific phase args.length (d.candidate cp)) =
        true := by
    rw [List.all_map, List.all_eq_true, mem]
    constructor
    · intro ⟨fits, specific⟩
      refine ⟨fits, fun e held => ?_⟩
      by_cases same : e = d
      · subst same
        exact moreSpecific_self fits.applicable
      · exact specific e ((mem e).1 held) same
    · exact fun ⟨fits, specific⟩ => ⟨fits, fun e held _ => specific e ((mem e).2 held)⟩
  unfold best? at h
  rw [List.find?_map, List.head?_map, ← Option.map_or, Option.map_eq_some_iff] at h
  obtain ⟨d, chose, rfl⟩ := h
  rcases Option.or_eq_some_iff.1 chose with found | ⟨none, first⟩
  · have held := List.mem_of_find?_eq_some found
    have specific := List.find?_some found
    refine ⟨d, rfl, (mem d).1 held, .inl ⟨(best d).2 ⟨held, specific⟩, fun e least => ?_⟩⟩
    obtain ⟨held, specific⟩ := (best e).1 least
    exact not_before_of_find? sorted found e held specific
  · obtain ⟨rest, rfl⟩ := List.head?_eq_some_iff.1 first
    refine ⟨d, rfl, (mem d).1 List.mem_cons_self, .inr ⟨fun e least => ?_, fun e fits => ?_⟩⟩
    · obtain ⟨held, specific⟩ := (best e).1 least
      exact List.find?_eq_none.1 none e held specific
    · exact not_before_head sorted ((mem e).2 fits)

/-- A call on a class type is bound to the most specific visible method of the earliest phase in
which one is applicable, and to none only if no visible one is applicable. -/
theorem resolveMethod?_spec (cp : Classpath) (receiver : JavaType) (name : String)
    (args : List ArgShape) :
    (cp.resolveMethod? receiver name args = none ↔ ∀ owner, receiver = .declared owner →
      ∀ phase d, ¬ Fits cp owner name args phase d) ∧
    ∀ m, cp.resolveMethod? receiver name args = some m → ∃ owner phase d,
      receiver = .declared owner ∧ Bound cp owner name args phase d ∧
        m = d.signature cp receiver := by
  cases receiver with
  | unknown | primitive | array => simp [resolveMethod?, JavaType.class?]
  | declared owner =>
    obtain ⟨kept, sorted, mem, kept_eq⟩ := exists_visible cp owner name
    have fits_iff (phase : Phase) (d : Declaration) :
        d ∈ kept.filter (fun d => applicable phase args (d.candidate cp)) ↔
          Fits cp owner name args phase d := by
      rw [List.mem_filter, mem]
      exact ⟨fun ⟨visible, fits⟩ => ⟨visible, fits⟩, fun ⟨visible, fits⟩ => ⟨visible, fits⟩⟩
    have bound : cp.resolveMethod? (.declared owner) name args =
        (select? (owner.ancestors.flatMap fun a => cp.declaredMethods a name) args).map
          (·.methodType (some (.declared owner))) := by
      rw [Option.map_eq_bind]
      rfl
    rw [bound, Option.map_eq_none_iff, select?_eq_none_iff]
    simp only [← mem_visible_iff, kept_eq, List.forall_mem_map]
    constructor
    · constructor
      · rintro none _ ⟨⟩ phase d fits
        simpa [fits.applicable] using none d ((mem d).2 fits.visible) phase
      · intro none d held phase
        rw [Bool.eq_false_iff]
        exact fun fits => none owner rfl phase d ⟨(mem d).1 held, fits⟩
    · intro m found
      obtain ⟨chosen, chose, rfl⟩ := Option.map_eq_some_iff.1 found
      obtain ⟨phase, best, earliest⟩ := phase_of_select? chose
      rw [kept_eq, List.filter_map] at best
      obtain ⟨d, rfl, fits, least⟩ := exists_of_best? (sorted.filter _) (fits_iff phase) best
      refine ⟨owner, phase, d, rfl, ⟨fits, fun earlier early e held => ?_, least⟩,
        Declaration.methodType_candidate owner⟩
      have not := earliest earlier early (e.candidate cp) (kept_eq ▸
        List.mem_map_of_mem ((mem e).2 held.visible))
      simp [held.applicable] at not

/-! ## A fluent call -/

/-- A class path of assertions that return themselves, one of them written again below where it was
declared. -/
def fluentStubs : List TypeStub := [
  { fqn := objectName },
  { fqn := "java.lang.String" },
  { fqn := "lib.Assert", kind := .interface
    methods := [{ name := "isEqualTo", params := [objectName], returns := "SELF" }] },
  { fqn := "lib.AbstractAssert", supertypes := ["lib.Assert"]
    methods := [{ name := "isEqualTo", params := [objectName], returns := "SELF" }] },
  { fqn := "lib.StringAssert", supertypes := ["lib.AbstractAssert"]
    methods := [{ name := "isEqualTo", params := ["java.lang.String"], returns := "SELF" }] }]

/-- A number is compared by the method that hides the one of the interface. -/
theorem resolveMethod?_fluentStubs : ∃ cp owner phase d, ofStubs "fluent" fluentStubs = .ok cp ∧
    cp.class? "lib.StringAssert" = some owner ∧ d.owner.fqn = "lib.AbstractAssert" ∧
    Bound cp owner "isEqualTo" [.typed (.primitive .int)] phase d := by
  obtain ⟨cp, made, facts⟩ := exists_of_any (x := ofStubs "fluent" fluentStubs)
    (p := fun cp => (cp.class? "lib.StringAssert").any fun owner =>
      (cp.resolveMethod? (.declared owner) "isEqualTo" [.typed (.primitive .int)]).any
        (·.declaring.fqn == "lib.AbstractAssert"))
    (by decide +kernel)
  obtain ⟨owner, there, facts⟩ := (Option.any_eq_true ..).1 facts
  obtain ⟨m, found, declaring⟩ := (Option.any_eq_true ..).1 facts
  obtain ⟨_, phase, d, ⟨⟩, bound, rfl⟩ := (resolveMethod?_spec ..).2 m found
  exact ⟨cp, owner, phase, d, made, there, beq_iff_eq.1 declaring, bound⟩

end Classpath

end Retouch
