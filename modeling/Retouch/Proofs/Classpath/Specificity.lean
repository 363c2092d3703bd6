import Mathlib.Data.List.Pairwise
import Retouch.Proofs.Classpath.Hierarchy
import Retouch.Proofs.Outcome

/-!
# The most specific method

A method that is more specific than all others applicable in the deciding phase is found wherever it
stands among the candidates (`select?_perm`). No second one is as specific as all: in the strict and
the loose phase two methods that are more specific than one another have parameters that are below
one another one by one, and those of a class path are then the same (`Drawn.beq_of_isSubtypeOf`).
-/

namespace Retouch

namespace Overload

open Classpath

/-- The place of the phase among the three. -/
def Phase.place : Phase → Nat
  | .strict => 0
  | .loose => 1
  | .variable => 2

/-- The phase is the earliest one with an applicable candidate. -/
structure Decides (phase : Phase) (candidates : List Candidate) (args : List ArgShape) : Prop where
  found : ∃ c ∈ candidates, applicable phase args c = true
  first : ∀ earlier : Phase, earlier.place < phase.place →
    ∀ c ∈ candidates, applicable earlier args c = false

/-- The candidate is applicable in the phase, and more specific than all others that are. -/
structure MostSpecific (phase : Phase) (candidates : List Candidate) (args : List ArgShape)
    (best : Candidate) : Prop where
  mem : best ∈ candidates
  fits : applicable phase args best = true
  least : ∀ c ∈ candidates, applicable phase args c = true → c ≠ best →
    moreSpecific phase args.length best c = true

/-- The candidates have different parameters. -/
def Apart (a b : Candidate) : Prop := (a.params == b.params) = false

/-- No two candidates have the same parameters. -/
def Distinct (candidates : List Candidate) : Prop := candidates.Pairwise Apart

instance : DecidableRel Apart :=
  fun a b => inferInstanceAs (Decidable ((a.params == b.params) = false))

instance (candidates : List Candidate) : Decidable (Distinct candidates) :=
  inferInstanceAs (Decidable (candidates.Pairwise Apart))

variable {candidates others : List Candidate} {args : List ArgShape} {phase : Phase}
  {a b : Candidate}

/-! ## The order of the candidates -/

theorem Decides.perm (h : Decides phase candidates args) (perm : others.Perm candidates) :
    Decides phase others args := by
  obtain ⟨c, mem, fits⟩ := h.found
  refine ⟨⟨c, perm.mem_iff.2 mem, fits⟩, fun earlier before d held => ?_⟩
  exact h.first earlier before d (perm.mem_iff.1 held)

theorem MostSpecific.perm (h : MostSpecific phase candidates args b)
    (perm : others.Perm candidates) : MostSpecific phase others args b where
  mem := perm.mem_iff.2 h.mem
  fits := h.fits
  least c held := h.least c (perm.mem_iff.1 held)

theorem beq_types_iff {as bs : List JavaType} :
    (as == bs) = true ↔ List.Forall₂ (fun a b => (a == b) = true) as bs := by
  induction as generalizing bs with
  | nil => cases bs <;> simp
  | cons a as ih => cases bs <;> simp [ih]

instance : Std.Symm Apart where
  symm a b apart := by
    unfold Apart at apart ⊢
    rw [Bool.eq_false_iff] at apart ⊢
    intro same
    refine apart (beq_types_iff.2 (List.Forall₂.flip ?_))
    exact (beq_types_iff.1 same).imp fun x y like => BEq.symm like

theorem Distinct.perm (h : Distinct candidates) (perm : others.Perm candidates) :
    Distinct others :=
  (perm.pairwise_iff fun apart => Std.Symm.symm _ _ apart).2 h

/-- Of candidates with parameters of their own one is known by its parameters. -/
theorem Distinct.eq_of_beq (h : Distinct candidates) (ha : a ∈ candidates) (hb : b ∈ candidates)
    (same : (a.params == b.params) = true) : a = b := by
  by_contra different
  have apart : (a.params == b.params) = false := h.forall ha hb different
  simp [apart] at same

/-- Candidates with parameters of their own are all visible. -/
theorem visible_of_distinct (h : Distinct candidates) : visible candidates = candidates := by
  induction candidates using List.reverseRecOn with
  | nil => rfl
  | append_singleton cs c ih =>
    obtain ⟨front, -, fresh⟩ := List.pairwise_append.1 h
    have free : cs.any (·.params == c.params) = false := by
      refine List.any_eq_false.2 fun d mem => ?_
      have apart : (d.params == c.params) = false := fresh d mem c List.mem_cons_self
      simp [apart]
    rw [visible_append, any_visible, free, ih front]
    rfl

/-- The phase that decides makes the choice among its applicable candidates. -/
theorem Decides.select?_eq (h : Decides phase candidates args) (distinct : Distinct candidates) :
    select? candidates args =
      best? phase args.length (candidates.filter (applicable phase args)) := by
  have skipped (earlier : Phase) (before : earlier.place < phase.place) :
      best? earlier args.length (candidates.filter (applicable earlier args)) = none := by
    rw [best?_eq_none_iff, List.filter_eq_nil_iff]
    intro c mem
    simp [h.first earlier before c mem]
  have made : (best? phase args.length (candidates.filter (applicable phase args))).isSome := by
    rw [Option.isSome_iff_ne_none, Ne, best?_eq_none_iff, List.filter_eq_nil_iff]
    obtain ⟨c, mem, fits⟩ := h.found
    intro none
    exact none c mem fits
  obtain ⟨best, made⟩ := Option.isSome_iff_exists.1 made
  simp only [select?, visible_of_distinct distinct]
  cases phase with
  | strict => simp only [List.findSome?_cons, made]
  | loose =>
    have strict := skipped .strict (by decide)
    simp only [List.findSome?_cons, strict, made]
  | «variable» =>
    have strict := skipped .strict (by decide)
    have loose := skipped .loose (by decide)
    simp only [List.findSome?_cons, strict, loose, made]

/-! ## One most specific method -/

/-- Outside the phase of variable arity an applicable candidate has a parameter for every argument.
-/
theorem length_of_applicable (fixedArity : phase ≠ .variable)
    (fits : applicable phase args a = true) : a.params.length = args.length := by
  cases phase with
  | strict | loose =>
    simp only [applicable, Bool.and_eq_true, beq_iff_eq] at fits
    exact fits.1
  | «variable» => exact absurd rfl fixedArity

/-- Outside the phase of variable arity parameters are compared place by place. -/
theorem moreSpecific_iff (fixedArity : phase ≠ .variable)
    (ha : a.params.length = args.length) (hb : b.params.length = args.length) :
    moreSpecific phase args.length a b = true ↔
      List.Forall₂ (fun x y => (x == y) = true ∨ x.isSubtypeOf y = true) a.params b.params := by
  have at? (c : Candidate) (i : Nat) : paramAt? phase c i = c.params[i]? := by
    cases phase with
    | strict | loose => rfl
    | «variable» => exact absurd rfl fixedArity
  simp only [moreSpecific, List.all_eq_true, List.mem_range, at?]
  rw [List.forall₂_iff_get]
  constructor
  · intro all
    refine ⟨ha.trans hb.symm, fun i hi hj => ?_⟩
    have here := all i (ha ▸ hi)
    simpa [List.getElem?_eq_getElem hi, List.getElem?_eq_getElem hj] using here
  · rintro ⟨-, all⟩ i inside
    have here := all i (ha ▸ inside) (hb ▸ inside)
    simpa [List.getElem?_eq_getElem (ha ▸ inside : i < a.params.length),
      List.getElem?_eq_getElem (hb ▸ inside : i < b.params.length)] using here

/-- Every argument of an applicable candidate has a parameter that takes it. -/
theorem isSome_paramAt? (fits : applicable phase args a = true) {i : Nat}
    (inside : i < args.length) :
    (paramAt? phase a i).isSome := by
  cases phase with
  | strict | loose =>
    have length := length_of_applicable (by decide) fits
    simpa [paramAt?, length] using inside
  | «variable» =>
    simp only [applicable] at fits
    split at fits
    · cases fits
    · next fixed component found =>
      have last : a.params.getLast? = some (.array component) := by
        rw [(variableParams?_some found).2, List.getLast?_concat]
      unfold paramAt?
      split
      · simp [last]
      · next front =>
        simp only [beq_self_eq_true, Bool.true_and, decide_eq_true_eq] at front
        rw [List.getElem?_eq_getElem (by omega)]
        rfl

theorem moreSpecific_self (fits : applicable phase args a = true) :
    moreSpecific phase args.length a a = true := by
  refine List.all_eq_true.2 fun i inside => ?_
  obtain ⟨p, there⟩ := Option.isSome_iff_exists.1 (isSome_paramAt? fits (List.mem_range.1 inside))
  simp [there]

/-- Candidates over one class path that are more specific than one another have the same parameters.
-/
theorem beq_params_of_moreSpecific {stubs : List TypeStub} (hierarchic : Hierarchic stubs)
    (fixedArity : phase ≠ .variable) (ha : applicable phase args a = true)
    (hb : applicable phase args b = true) (drawnA : ∀ p ∈ a.params, Drawn stubs p)
    (drawnB : ∀ p ∈ b.params, Drawn stubs p)
    (below : moreSpecific phase args.length a b = true)
    (above : moreSpecific phase args.length b a = true) : (a.params == b.params) = true := by
  have lengthA := length_of_applicable fixedArity ha
  have lengthB := length_of_applicable fixedArity hb
  rw [moreSpecific_iff fixedArity lengthA lengthB, List.forall₂_iff_get] at below
  rw [moreSpecific_iff fixedArity lengthB lengthA, List.forall₂_iff_get] at above
  rw [beq_types_iff, List.forall₂_iff_get]
  refine ⟨below.1, fun i hi hj => ?_⟩
  rcases below.2 i hi hj with same | lower
  · exact same
  · rcases above.2 i hj hi with same | upper
    · exact BEq.symm same
    · exact (drawnA _ (List.getElem_mem hi)).beq_of_isSubtypeOf hierarchic
        (drawnB _ (List.getElem_mem hj)) lower upper

/-- The most specific method is the choice, wherever it stands. -/
theorem best?_of_mostSpecific {stubs : List TypeStub} (hierarchic : Hierarchic stubs)
    (fixedArity : phase ≠ .variable) (distinct : Distinct candidates)
    (drawn : ∀ c ∈ candidates, ∀ p ∈ c.params, Drawn stubs p)
    (h : MostSpecific phase candidates args b) :
    best? phase args.length (candidates.filter (applicable phase args)) = some b := by
  have suits (c : Candidate) (mem : c ∈ candidates.filter (applicable phase args)) :
      moreSpecific phase args.length b c = true := by
    obtain ⟨held, fits⟩ := List.mem_filter.1 mem
    by_cases same : c = b
    · subst same
      exact moreSpecific_self fits
    · exact h.least c held fits same
  have there : b ∈ candidates.filter (applicable phase args) :=
    List.mem_filter.2 ⟨h.mem, h.fits⟩
  -- The first one that is as specific as all has the parameters of `b`, so it is `b`.
  cases found : (candidates.filter (applicable phase args)).find? fun a =>
      (candidates.filter (applicable phase args)).all (moreSpecific phase args.length a) with
  | none =>
    have := List.find?_eq_none.1 found b there
    exact absurd (List.all_eq_true.2 suits) this
  | some a =>
    have least := List.find?_some found
    obtain ⟨held, fits⟩ := List.mem_filter.1 (List.mem_of_find?_eq_some found)
    have same := beq_params_of_moreSpecific hierarchic fixedArity fits h.fits (drawn a held)
      (drawn b h.mem) (List.all_eq_true.1 least b there)
      (suits a (List.mem_of_find?_eq_some found))
    obtain rfl := distinct.eq_of_beq held h.mem same
    simp only [best?, found, Option.some_or]

/-- The most specific method of the deciding phase is selected, in whatever order the candidates
are. -/
theorem select?_perm {key : String} {stubs : List TypeStub} {cp : Classpath}
    (made : ofStubs key stubs = .ok cp) (hierarchic : Hierarchic stubs)
    (drawn : ∀ c ∈ candidates, ∀ p ∈ c.params, ∃ name, p = cp.typeOfName name)
    (distinct : Distinct candidates) (decides : Decides phase candidates args)
    (fixedArity : phase ≠ .variable) (best : MostSpecific phase candidates args b)
    (perm : others.Perm candidates) : select? others args = some b := by
  rw [(decides.perm perm).select?_eq (distinct.perm perm)]
  refine best?_of_mostSpecific hierarchic fixedArity (distinct.perm perm) ?_ (best.perm perm)
  intro c mem p held
  obtain ⟨name, rfl⟩ := drawn c (perm.mem_iff.1 mem) p held
  exact drawn_typeOfName made name

/-! ## A call that boxes its argument -/

/-- A class path on which numbers can be written to a stream. -/
def numberStubs : List TypeStub := [
  { fqn := objectName },
  { fqn := "java.io.Serializable", kind := .interface },
  { fqn := "java.lang.Number", supertypes := ["java.io.Serializable"] },
  { fqn := "java.lang.String", supertypes := ["java.io.Serializable"] }]

/-- A method of the class path with one parameter. -/
def writing (cp : Classpath) (param : String) : Candidate where
  declaring := .leaf "Sink" .clazz
  name := "write"
  params := [cp.typeOfName param]
  returns := .fixed (.primitive .void)
  isStatic := false
  varargs := false

/-- A number that has to be boxed is written as a `Number`, wherever that method stands. -/
theorem select?_number : ∃ cp, ofStubs "numbers" numberStubs = .ok cp ∧
    select? (["java.lang.String", objectName, "java.lang.Number", "java.io.Serializable"].map
      (writing cp)) [.typed (.primitive .int)] = some (writing cp "java.lang.Number") := by
  obtain ⟨cp, made, facts⟩ := exists_of_any (x := ofStubs "numbers" numberStubs) (p := fun cp =>
    let best := writing cp "java.lang.Number"
    let all := ["java.lang.Number", "java.lang.String", objectName, "java.io.Serializable"].map
      (writing cp)
    let args := [ArgShape.typed (.primitive .int)]
    decide (Distinct all) && applicable .loose args best &&
      all.all (fun c => !applicable .strict args c) &&
      all.all (fun c => !applicable .loose args c || moreSpecific .loose 1 best c))
    (by decide +kernel)
  simp only [Bool.and_eq_true, decide_eq_true_eq, List.all_eq_true, Bool.or_eq_true,
    Bool.not_eq_true'] at facts
  obtain ⟨⟨⟨distinct, fits⟩, noStrict⟩, least⟩ := facts
  refine ⟨cp, made, select?_perm made ?_ ?_ distinct ⟨⟨_, List.mem_cons_self, fits⟩, ?_⟩ (by decide)
    ⟨List.mem_cons_self, fits, ?_⟩ ?_⟩
  · exact hierarchic_of_rank (fun name => if name = "java.io.Serializable" then 0 else 1)
      (by decide) (by decide)
  · intro c mem p held
    obtain ⟨name, -, rfl⟩ := List.mem_map.1 mem
    exact ⟨name, List.mem_singleton.1 held⟩
  · intro earlier before c mem
    cases earlier with
    | strict => exact noStrict c mem
    | loose | «variable» => exact absurd before (by decide)
  · intro c mem applies _
    exact (least c mem).resolve_left (by simp [applies])
  · exact List.Perm.map _ (by decide)

end Overload

end Retouch
