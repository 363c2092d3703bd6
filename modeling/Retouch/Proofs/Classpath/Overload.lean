import Mathlib.Data.List.Forall2
import Mathlib.Data.List.Induction
import Mathlib.Data.List.Zip
import Retouch.Attribution.Basic

/-!
# What overload selection finds

A method is found exactly when one that no earlier candidate hides (`Visible`) is applicable in some
phase (`select?_eq_none_iff`), and what is found is such a method (`visible_of_select?`).

A method of variable arity can be called in two ways, so the parameters that arguments are passed
for are a relation (`Spreads`): those of the method as they are, or the fixed ones and then the
component of the last one for every further argument.
-/

namespace Retouch

instance : EquivBEq JavaType where
  rfl {a} := by
    induction a with
    | unknown => rfl
    | primitive p => exact beq_self_eq_true p
    | declared c => exact beq_self_eq_true c.fqn
    | array a ih => exact ih
  symm {a b} h := by
    induction a generalizing b with
    | unknown => cases b <;> exact h
    | primitive p =>
      cases b with
      | primitive q =>
        obtain rfl : p = q := beq_iff_eq.1 h
        exact h
      | unknown | declared | array => cases h
    | declared c =>
      cases b with
      | declared d =>
        have named : c.fqn = d.fqn := beq_iff_eq.1 h
        show (d.fqn == c.fqn) = true
        exact beq_iff_eq.2 named.symm
      | unknown | primitive | array => cases h
    | array a ih =>
      cases b with
      | array b => exact ih h
      | unknown | primitive | declared => cases h
  trans {a b c} h h' := by
    induction a generalizing b c with
    | unknown => cases b <;> first | exact h' | cases h
    | primitive p =>
      cases b with
      | primitive q => rwa [show p = q from beq_iff_eq.1 h]
      | unknown | declared | array => cases h
    | declared x =>
      cases b with
      | declared y =>
        cases c with
        | declared z =>
          have named : x.fqn = y.fqn := beq_iff_eq.1 h
          show (x.fqn == z.fqn) = true
          rwa [named]
        | unknown | primitive | array => cases h'
      | unknown | primitive | array => cases h
    | array a ih =>
      cases b with
      | array b =>
        cases c with
        | array c => exact ih h h'
        | unknown | primitive | declared => cases h'
      | unknown | primitive | declared => cases h

/-- Lists of types with the same names at the same places. -/
theorem beq_types_trans {as bs cs : List JavaType} (h : (as == bs) = true)
    (h' : (bs == cs) = true) :
    (as == cs) = true := by
  induction as generalizing bs cs with
  | nil => cases bs <;> simp_all
  | cons a as ih =>
    cases bs with
    | nil => simp at h
    | cons b bs =>
      cases cs with
      | nil => simp at h'
      | cons c cs =>
        simp only [List.cons_beq_cons, Bool.and_eq_true] at h h' ⊢
        exact ⟨BEq.trans h.1 h'.1, ih h.2 h'.2⟩

theorem JavaType.isAssignableTo_of_isSubtypeOf {t target : JavaType}
    (h : t.isSubtypeOf target = true) : t.isAssignableTo target = true := by
  simp [isAssignableTo, h]

namespace Overload

/-! ## Visible candidates -/

/-- The method is a candidate, and none in front of it has the same parameters. -/
def Visible (candidates : List Candidate) (c : Candidate) : Prop :=
  ∃ before after, candidates = before ++ c :: after ∧
    ∀ d ∈ before, (d.params == c.params) = false

section

variable {cs : List Candidate} {c : Candidate} {args : List ArgShape} {phase : Phase}

theorem Visible.mem (h : Visible cs c) : c ∈ cs := by
  obtain ⟨before, after, rfl, -⟩ := h
  simp

/-- One step of the loop that drops hidden methods. -/
theorem visible_append (cs : List Candidate) (c : Candidate) :
    visible (cs ++ [c]) =
      if (visible cs).any (·.params == c.params) then visible cs else visible cs ++ [c] := by
  simp only [visible, List.foldl_append, List.foldl_cons, List.foldl_nil]
  rfl

/-- A candidate with these parameters is left over if there was one. -/
theorem any_visible (cs : List Candidate) (params : List JavaType) :
    (visible cs).any (·.params == params) = cs.any (·.params == params) := by
  induction cs using List.reverseRecOn with
  | nil => rfl
  | append_singleton cs c ih =>
    rw [visible_append, List.any_append, ← ih]
    split
    · next hidden =>
      cases same : c.params == params with
      | false => simp [same]
      | true =>
        -- The one that hides `c` has these parameters too.
        obtain ⟨d, mem, like⟩ := List.any_eq_true.1 hidden
        have found : (visible cs).any (·.params == params) = true :=
          List.any_eq_true.2 ⟨d, mem, beq_types_trans like same⟩
        simp [found]
    · rw [List.any_append]

theorem mem_visible_iff : c ∈ visible cs ↔ Visible cs c := by
  induction cs using List.reverseRecOn with
  | nil =>
    constructor
    · rintro ⟨⟩
    · intro h
      cases h.mem
  | append_singleton cs d ih =>
    have later : Visible (cs ++ [d]) c ↔ Visible cs c ∨
        c = d ∧ cs.any (·.params == d.params) = false := by
      constructor
      · rintro ⟨before, after, split, fresh⟩
        rcases List.eq_nil_or_concat after with rfl | ⟨after, e, rfl⟩
        · obtain ⟨rfl, same⟩ := List.append_inj' split rfl
          obtain rfl := List.singleton_inj.1 same
          exact .inr ⟨rfl, List.any_eq_false.2 fun d mem => by simp [fresh d mem]⟩
        · rw [List.concat_eq_append, ← List.cons_append, ← List.append_assoc] at split
          exact .inl ⟨before, after, (List.append_inj' split rfl).1, fresh⟩
      · rintro (⟨before, after, rfl, fresh⟩ | ⟨rfl, fresh⟩)
        · exact ⟨before, after ++ [d], by simp, fresh⟩
        · refine ⟨cs, [], rfl, fun d mem => ?_⟩
          simpa using List.any_eq_false.1 fresh d mem
    rw [visible_append, any_visible, later]
    split
    · next hidden => rw [ih, hidden]; simp
    · next free => rw [List.mem_append, ih, Bool.eq_false_iff.2 free]; simp

/-! ## The choice -/

theorem best?_eq_none_iff {arity : Nat} : best? phase arity cs = none ↔ cs = [] := by
  cases cs with
  | nil => simp [best?]
  | cons c cs => simp [best?]

theorem mem_of_best? {arity : Nat} (h : best? phase arity cs = some c) : c ∈ cs := by
  rcases Option.or_eq_some_iff.1 h with found | ⟨-, first⟩
  · exact List.mem_of_find?_eq_some found
  · exact List.mem_of_mem_head? first

/-- Nothing is found exactly when no visible method is applicable. -/
theorem select?_eq_none_iff : select? cs args = none ↔
    ∀ c, Visible cs c → ∀ phase, applicable phase args c = false := by
  simp only [select?, List.findSome?_eq_none_iff, best?_eq_none_iff, List.filter_eq_nil_iff,
    mem_visible_iff, Bool.not_eq_true]
  constructor
  · intro h c visible phase
    exact h phase (by cases phase <;> simp) c visible
  · intro h phase _ c visible
    exact h c visible phase

/-- What is found is a visible method that is applicable. -/
theorem visible_of_select? (h : select? cs args = some c) :
    Visible cs c ∧ ∃ phase, applicable phase args c = true := by
  obtain ⟨phase, -, found⟩ := List.exists_of_findSome?_eq_some h
  obtain ⟨mem, fits⟩ := List.mem_filter.1 (mem_of_best? found)
  exact ⟨mem_visible_iff.1 mem, phase, fits⟩

/-! ## Parameters and arguments -/

theorem compatible_loose {param : JavaType} {a : ArgShape} (h : compatible phase param a = true) :
    compatible .loose param a = true := by
  cases a with
  | functional => exact h
  | typed type =>
    change (if phase == .strict then _ else _) = true at h
    split at h
    · exact JavaType.isAssignableTo_of_isSubtypeOf h
    · exact h

/-- Arguments that fit as many parameters fit them one by one. -/
theorem forall₂_of_allCompatible {params : List JavaType} (length : params.length = args.length)
    (h : allCompatible phase args params = true) :
    List.Forall₂ (fun p a => compatible .loose p a = true) params args := by
  rw [List.forall₂_iff_zip]
  refine ⟨length, fun {p a} mem => ?_⟩
  have swapped : (a, p) ∈ args.zip params := by
    rw [← List.zip_swap, List.mem_map]
    exact ⟨(p, a), mem, rfl⟩
  exact compatible_loose (List.all_eq_true.1 h _ swapped)

theorem variableParams?_some {fixed : List JavaType} {component : JavaType}
    (h : variableParams? c = some (fixed, component)) :
    c.varargs = true ∧ c.params = fixed ++ [JavaType.array component] := by
  unfold variableParams? at h
  split at h
  · next last =>
    split at h
    · next varargs =>
      simp only [Option.some.injEq, Prod.mk.injEq] at h
      obtain ⟨rfl, rfl⟩ := h
      exact ⟨varargs, (List.dropLast_append_getLast? _ last).symm⟩
    · cases h
  · cases h

end

end Overload

/-- The parameters that `count` arguments are passed for. -/
inductive Spreads (params : List JavaType) (varargs : Bool) (count : Nat) : List JavaType → Prop
  | fixed : params.length = count → Spreads params varargs count params
  | repeated {fixed : List JavaType} {component : JavaType} : varargs = true →
      params = fixed ++ [.array component] → fixed.length ≤ count →
      Spreads params varargs count (fixed ++ List.replicate (count - fixed.length) component)

namespace Overload

/-- Arguments of an applicable method fit the parameters that they are passed for. -/
theorem spreads_of_applicable {phase : Phase} {args : List ArgShape} {c : Candidate}
    (h : applicable phase args c = true) :
    ∃ ps, Spreads c.params c.varargs args.length ps ∧
      List.Forall₂ (fun p a => compatible .loose p a = true) ps args := by
  have exact {phase : Phase}
      (h : (c.params.length == args.length && allCompatible phase args c.params) = true) :
      ∃ ps, Spreads c.params c.varargs args.length ps ∧
        List.Forall₂ (fun p a => compatible .loose p a = true) ps args := by
    simp only [Bool.and_eq_true, beq_iff_eq] at h
    exact ⟨_, .fixed h.1, forall₂_of_allCompatible h.1 h.2⟩
  match phase with
  | .strict | .loose => exact exact h
  | .variable =>
    simp only [applicable] at h
    split at h
    · cases h
    · next fixed component found =>
      simp only [Bool.and_eq_true, decide_eq_true_eq] at h
      obtain ⟨⟨enough, front⟩, rest⟩ := h
      obtain ⟨varargs, params⟩ := variableParams?_some found
      refine ⟨_, .repeated varargs params enough, ?_⟩
      have taken : List.Forall₂ (fun p a => compatible .loose p a = true) fixed
          (args.take fixed.length) := by
        have front : allCompatible .loose (args.take fixed.length) fixed = true := by
          refine List.all_eq_true.2 fun x mem => List.all_eq_true.1 front x ?_
          rw [List.zip_eq_zip_take_min, List.length_take, Nat.min_eq_left enough] at mem
          rw [List.zip_eq_zip_take_min, Nat.min_eq_right enough]
          simpa [List.take_take] using mem
        exact forall₂_of_allCompatible (by simp [enough]) front
      have dropped : List.Forall₂ (fun p a => compatible .loose p a = true)
          (List.replicate (args.length - fixed.length) component) (args.drop fixed.length) := by
        rw [List.forall₂_iff_get]
        refine ⟨by simp, fun i _ hi => ?_⟩
        simp only [List.get_eq_getElem, List.getElem_replicate]
        exact List.all_eq_true.1 rest _ (List.getElem_mem _)
      simpa using List.rel_append taken dropped

end Overload

namespace Attribution

/-- The type expected of a lambda or a reference is that of the parameter it is passed for. -/
theorem expectedArgument?_of_spreads {m : MethodType} {count i : Nat} {ps : List JavaType}
    (h : Spreads m.parameters m.varargs count ps) {param : JavaType} (there : ps[i]? = some param)
    (functional : param.isFunctional = true) : expectedArgument? m i = some param := by
  have noArray : ∀ component, param ≠ .array component := by
    rintro component rfl
    cases functional
  cases h with
  | fixed length =>
    unfold expectedArgument?
    split
    · next last =>
      simp only [Bool.and_eq_true, decide_eq_true_eq] at last
      -- The argument is passed for the last parameter itself, which is no array.
      have inside := (List.getElem?_eq_some_iff.1 there).1
      have atEnd : m.parameters.getLast? = some param := by
        rw [List.getLast?_eq_getElem?, ← there]
        congr 1
        omega
      rw [atEnd]
      cases param with
      | array component => exact absurd rfl (noArray component)
      | unknown | primitive | declared => rfl
    · exact there
  | @repeated fixed component varargs params enough =>
    unfold expectedArgument?
    rw [params, varargs]
    simp only [Bool.true_and, List.length_append, List.length_singleton, decide_eq_true_eq]
    by_cases front : i < fixed.length
    · rw [if_neg (by omega), List.getElem?_append_left front]
      rwa [List.getElem?_append_left front] at there
    · rw [if_pos (by omega)]
      rw [List.getElem?_append_right (by omega), List.getElem?_replicate] at there
      split at there
      · simpa using there
      · cases there

end Attribution

end Retouch
