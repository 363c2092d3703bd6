import Mathlib.Data.List.Forall2
import Retouch.Pattern.Basic
import Retouch.Proofs.Classpath.Construction
import Retouch.Proofs.Outcome

/-!
# The types above a class type

What is above a type is asked for in two ways: the list of its ancestors is made breadth first and
drops names that were there before; the test for a subtype follows every way up and forgets nothing
(`isSubtypeOf_iff`). They agree where a name says what is above it, so for the whole types of a
class path without cycles (`ancestors_breadthFirst`): what is dropped with a repeated name is above
the first one, too.
-/

namespace Retouch

namespace ClassType

/-- `d` is `c` or stands above it. -/
def Reaches (c d : ClassType) : Prop := Relation.ReflTransGen (fun a b => b ∈ a.supertypes) c d

/-- The types so many steps above a type, one for every way up. -/
def level (c : ClassType) : Nat → List ClassType
  | 0 => [c]
  | n + 1 => (c.level n).flatMap (·.supertypes)

/-- The name is met after `n` steps up and not sooner. -/
structure Distance (c : ClassType) (fqn : String) (n : Nat) : Prop where
  met : fqn ∈ (c.level n).map (·.fqn)
  first : ∀ m < n, fqn ∉ (c.level m).map (·.fqn)

/-- The test for a subtype finds what is above a type. -/
theorem isSubtypeOf_iff (c : ClassType) {fqn : String} :
    c.isSubtypeOf fqn = true ↔ fqn = objectName ∨ ∃ d, c.Reaches d ∧ d.fqn = fqn := by
  match c with
  | ⟨name, kind, supertypes, functional⟩ =>
    have above (s : ClassType) (mem : s ∈ supertypes) :
        s.isSubtypeOf fqn = true ↔ fqn = objectName ∨ ∃ d, s.Reaches d ∧ d.fqn = fqn :=
      isSubtypeOf_iff s
    simp only [isSubtypeOf, Bool.or_eq_true, beq_iff_eq, Classpath.anySubtypeOf_iff]
    constructor
    · rintro ((rfl | top) | ⟨s, mem, sub⟩)
      · exact .inr ⟨_, .refl, rfl⟩
      · exact .inl top
      · rcases (above s mem).1 sub with top | ⟨d, up, named⟩
        · exact .inl top
        · exact .inr ⟨d, .head mem up, named⟩
    · rintro (top | ⟨d, up, named⟩)
      · exact .inl (.inr top)
      · rcases Relation.ReflTransGen.cases_head up with rfl | ⟨s, mem, up⟩
        · exact .inl (.inl named)
        · exact .inr ⟨s, mem, (above s mem).2 (.inr ⟨d, up, named⟩)⟩
termination_by sizeOf c
decreasing_by
  have smaller := List.sizeOf_lt_of_mem mem
  simp only [mk.sizeOf_spec]
  omega

theorem Reaches.whole {stubs : List TypeStub} {c d : ClassType} (up : c.Reaches d)
    (h : Classpath.Whole stubs c) : Classpath.Whole stubs d := by
  induction up with
  | refl => exact h
  | tail _ mem ih => exact ih.supertypes _ mem

/-- Above a type are types with names above its name. -/
theorem Reaches.rises {stubs : List TypeStub} {c d : ClassType} (up : c.Reaches d)
    (h : Classpath.Whole stubs c) : Relation.ReflTransGen (Classpath.Rises stubs) c.fqn d.fqn := by
  induction up with
  | refl => exact .refl
  | tail up mem ih => exact ih.tail ((Reaches.whole up h).rises mem)

/-! ## The breadth-first walk -/

variable {seen queue rest : List ClassType} {c : ClassType}

theorem any_fqn_iff {fqn : String} : seen.any (·.fqn == fqn) = true ↔ fqn ∈ seen.map (·.fqn) := by
  simp

theorem prefix_closure (seen queue : List ClassType) : seen <+: closure seen queue := by
  fun_induction closure seen queue with
  | case1 seen => exact List.prefix_rfl
  | case2 seen c queue _ ih => exact ih
  | case3 seen c queue _ ih => exact (List.prefix_append seen [c]).trans ih

theorem nodup_closure (distinct : (seen.map (·.fqn)).Nodup) :
    ((closure seen queue).map (·.fqn)).Nodup := by
  fun_induction closure seen queue with
  | case1 seen => exact distinct
  | case2 seen c queue _ ih => exact ih distinct
  | case3 seen c queue fresh ih =>
    rw [any_fqn_iff] at fresh
    refine ih ?_
    simpa [List.nodup_append, distinct] using fresh

/-- Whatever holds of the types at the start and is passed on upwards holds of all types of the
walk. -/
theorem forall_closure {P : ClassType → Prop} (up : ∀ c, P c → ∀ s ∈ c.supertypes, P s)
    (before : ∀ c ∈ seen, P c) (waiting : ∀ c ∈ queue, P c) : ∀ c ∈ closure seen queue, P c := by
  fun_induction closure seen queue with
  | case1 seen => exact before
  | case2 seen c queue _ ih => exact ih before (List.forall_mem_cons.1 waiting).2
  | case3 seen c queue _ ih =>
    obtain ⟨here, later⟩ := List.forall_mem_cons.1 waiting
    exact ih (List.forall_mem_append.2 ⟨before, by simpa using here⟩)
      (List.forall_mem_append.2 ⟨later, up c here⟩)

/-- The walk ends with types whose supertypes are there by name. -/
theorem closed_closure
    (closed : ∀ a ∈ seen, ∀ s ∈ a.supertypes, s.fqn ∈ (seen ++ queue).map (·.fqn)) :
    ∀ a ∈ closure seen queue, ∀ s ∈ a.supertypes, s.fqn ∈ (closure seen queue).map (·.fqn) := by
  fun_induction closure seen queue with
  | case1 seen => simpa using closed
  | case2 seen c queue again ih =>
    rw [any_fqn_iff] at again
    refine ih fun a mem s super => ?_
    have := closed a mem s super
    grind
  | case3 seen c queue _ ih =>
    refine ih fun a mem s super => ?_
    grind

/-- Those types of the queue whose names are new, each name once. -/
def fresh (seen : List ClassType) : List ClassType → List ClassType
  | [] => []
  | c :: queue =>
    if seen.any (·.fqn == c.fqn) then fresh seen queue else c :: fresh (seen ++ [c]) queue

theorem fresh_subset (seen queue : List ClassType) : fresh seen queue ⊆ queue := by
  fun_induction fresh seen queue with
  | case1 seen => exact List.nil_subset _
  | case2 seen c queue _ ih => exact List.Subset.trans ih (List.subset_cons_self _ _)
  | case3 seen c queue _ ih => exact List.cons_subset_cons c ih

theorem mem_fresh_iff {fqn : String} : fqn ∈ (fresh seen queue).map (·.fqn) ↔
    fqn ∈ queue.map (·.fqn) ∧ fqn ∉ seen.map (·.fqn) := by
  fun_induction fresh seen queue with
  | case1 seen => simp
  | case2 seen c queue again ih =>
    rw [any_fqn_iff] at again
    grind
  | case3 seen c queue new ih =>
    rw [any_fqn_iff] at new
    grind

/-- The walk goes through the queue first, and then through what is above the new types of it. -/
theorem closure_append (seen queue rest : List ClassType) : closure seen (queue ++ rest) =
    closure (seen ++ fresh seen queue) (rest ++ (fresh seen queue).flatMap (·.supertypes)) := by
  fun_induction fresh seen queue generalizing rest with
  | case1 seen => simp
  | case2 seen c queue again ih => rw [List.cons_append, closure, if_pos again, ih]
  | case3 seen c queue new ih =>
    rw [List.cons_append, closure, if_neg new, List.append_assoc, ih]
    simp

theorem closure_eq (seen queue : List ClassType) : closure seen queue =
    closure (seen ++ fresh seen queue) ((fresh seen queue).flatMap (·.supertypes)) := by
  simpa using closure_append seen queue []

/-- There is less above the new types of a queue than in the queue. -/
theorem weights_fresh (seen queue : List ClassType) :
    weights ((fresh seen queue).flatMap (·.supertypes)) + queue.length ≤ weights queue := by
  fun_induction fresh seen queue with
  | case1 seen => simp [weights]
  | case2 seen c queue _ ih => simp only [weights, weight_eq, List.length_cons]; omega
  | case3 seen c queue _ ih =>
    simp only [weights, weight_eq, weights_append, List.flatMap_cons, List.length_cons]
    omega

/-! ## Distances -/

/-- The types of a level are above the type. -/
theorem reaches_of_mem_level {n : Nat} {d : ClassType} (mem : d ∈ c.level n) : c.Reaches d := by
  induction n generalizing d with
  | zero => exact List.mem_singleton.1 mem ▸ .refl
  | succ n ih =>
    obtain ⟨a, held, super⟩ := List.mem_flatMap.1 mem
    exact (ih held).tail super

/-- The walk from `c` has met the names of the levels below `n`, and all others of level `n` are
waiting. -/
structure Layered (c : ClassType) (n : Nat) (seen queue : List ClassType) : Prop where
  waiting : queue ⊆ c.level n
  met : ∀ fqn, fqn ∈ seen.map (·.fqn) ↔ ∃ m < n, fqn ∈ (c.level m).map (·.fqn)
  next : ∀ fqn, c.Distance fqn n → fqn ∈ queue.map (·.fqn)

namespace Layered

variable {n : Nat}

theorem start (c : ClassType) : Layered c 0 [] [c] where
  waiting := List.Subset.refl _
  met := by simp
  next _ far := far.met

/-- The new names of the queue are those at distance `n`. -/
theorem mem_fresh_iff (h : Layered c n seen queue) {fqn : String} :
    fqn ∈ (fresh seen queue).map (·.fqn) ↔ c.Distance fqn n := by
  rw [ClassType.mem_fresh_iff]
  constructor
  · rintro ⟨there, new⟩
    exact ⟨List.map_subset _ h.waiting there, fun m lt early => new ((h.met fqn).2 ⟨m, lt, early⟩)⟩
  · intro far
    refine ⟨h.next fqn far, fun early => ?_⟩
    obtain ⟨m, lt, there⟩ := (h.met fqn).1 early
    exact far.first m lt there

/-- Behind the queue the walk has met the names of one more level. -/
theorem step {stubs : List TypeStub} (whole : Classpath.Whole stubs c)
    (h : Layered c n seen queue) :
    Layered c (n + 1) (seen ++ fresh seen queue) ((fresh seen queue).flatMap (·.supertypes)) where
  waiting s mem := by
    obtain ⟨a, held, super⟩ := List.mem_flatMap.1 mem
    exact List.mem_flatMap.2 ⟨a, h.waiting (fresh_subset _ _ held), super⟩
  met fqn := by
    rw [List.map_append, List.mem_append, h.met, h.mem_fresh_iff]
    constructor
    · rintro (⟨m, lt, there⟩ | far)
      · exact ⟨m, Nat.lt_succ_of_lt lt, there⟩
      · exact ⟨n, Nat.lt_succ_self n, far.met⟩
    · rintro ⟨m, lt, there⟩
      by_cases early : ∃ m < n, fqn ∈ (c.level m).map (·.fqn)
      · exact .inl early
      · refine .inr ⟨?_, fun m lt there => early ⟨m, lt, there⟩⟩
        rcases Nat.lt_succ_iff_lt_or_eq.1 lt with lt | rfl
        · exact absurd ⟨m, lt, there⟩ early
        · exact there
  next fqn far := by
    obtain ⟨s, mem, rfl⟩ := List.mem_map.1 far.met
    obtain ⟨a, held, super⟩ := List.mem_flatMap.1 mem
    -- The type below `s` is not met sooner, or `s` would be.
    have distance : c.Distance a.fqn n := by
      refine ⟨List.mem_map_of_mem held, fun m lt early => ?_⟩
      obtain ⟨b, there, named⟩ := List.mem_map.1 early
      obtain rfl : b = a := ((reaches_of_mem_level there).whole whole).eq_of_fqn_eq
        ((reaches_of_mem_level held).whole whole) named
      exact far.first (m + 1) (Nat.succ_lt_succ lt)
        (List.mem_map_of_mem (List.mem_flatMap.2 ⟨b, there, super⟩))
    obtain ⟨b, new, named⟩ := List.mem_map.1 (h.mem_fresh_iff.2 distance)
    have onLevel : b ∈ c.level n := h.waiting (fresh_subset _ _ new)
    obtain rfl : b = a := ((reaches_of_mem_level onLevel).whole whole).eq_of_fqn_eq
      ((reaches_of_mem_level held).whole whole) named
    exact List.mem_map_of_mem (List.mem_flatMap.2 ⟨b, new, super⟩)

/-- The walk goes on by distance. -/
theorem exists_distances {stubs : List TypeStub} (whole : Classpath.Whole stubs c) {n : Nat}
    {seen queue : List ClassType} (h : Layered c n seen queue) :
    ∃ later ds, closure seen queue = seen ++ later ∧
      List.Forall₂ (fun a d => c.Distance a.fqn d) later ds ∧ ds.Pairwise (· ≤ ·) ∧ ∀ d ∈ ds,
        n ≤ d := by
  by_cases done : queue = []
  · subst done
    exact ⟨[], [], by simp [closure], .nil, .nil, nofun⟩
  · have smaller : weights ((fresh seen queue).flatMap (·.supertypes)) < weights queue := by
      have := weights_fresh seen queue
      have := List.length_pos_iff.2 done
      omega
    obtain ⟨later, ds, walked, far, sorted, least⟩ := exists_distances whole (h.step whole)
    have new : List.Forall₂ (fun a d => c.Distance a.fqn d) (fresh seen queue)
        (List.replicate (fresh seen queue).length n) := by
      rw [List.forall₂_iff_get]
      refine ⟨by simp, fun i hi _ => ?_⟩
      simpa using h.mem_fresh_iff.1 (List.mem_map_of_mem (List.getElem_mem hi))
    refine ⟨fresh seen queue ++ later, List.replicate (fresh seen queue).length n ++ ds, ?_,
      List.rel_append new far, ?_, ?_⟩
    · rw [closure_eq, walked, List.append_assoc]
    · refine List.pairwise_append.2 ⟨List.pairwise_replicate.2 (.inr le_rfl), sorted,
        fun d mem e mem' => ?_⟩
      rw [List.eq_of_mem_replicate mem]
      exact Nat.le_of_succ_le (least e mem')
    · refine List.forall_mem_append.2
        ⟨fun d mem => ?_, fun d mem => Nat.le_of_succ_le (least d mem)⟩
      exact le_of_eq (List.eq_of_mem_replicate mem).symm
termination_by weights queue

end Layered

/-! ## Ancestors -/

theorem head?_ancestors (c : ClassType) : c.ancestors.head? = some c := by
  obtain ⟨later, walked⟩ := prefix_closure [c] c.supertypes
  rw [ancestors, closure, if_neg (by simp), List.nil_append, List.nil_append, ← walked]
  rfl

theorem nodup_ancestors (c : ClassType) : (c.ancestors.map (·.fqn)).Nodup :=
  nodup_closure List.nodup_nil

theorem reaches_of_mem_ancestors {d : ClassType} (mem : d ∈ c.ancestors) : c.Reaches d := by
  refine forall_closure (P := c.Reaches) (fun d up s super => up.tail super) ?_ ?_ d mem
  · exact List.forall_mem_nil _
  · exact List.forall_mem_singleton.2 .refl

/-- What is above a whole type is among its ancestors. -/
theorem mem_ancestors_iff {stubs : List TypeStub} (whole : Classpath.Whole stubs c)
    {d : ClassType} :
    d ∈ c.ancestors ↔ c.Reaches d := by
  refine ⟨reaches_of_mem_ancestors, fun up => ?_⟩
  induction up with
  | refl => exact List.mem_of_mem_head? (head?_ancestors c)
  | @tail a s up super ih =>
    have closed : s.fqn ∈ c.ancestors.map (·.fqn) :=
      closed_closure (List.forall_mem_nil _) a ih s super
    obtain ⟨b, mem, named⟩ := List.mem_map.1 closed
    -- The ancestor of that name is the supertype.
    obtain rfl : b = s := ((reaches_of_mem_ancestors mem).whole whole).eq_of_fqn_eq
      ((Reaches.whole up whole).supertypes s super) named
    exact mem

/-- The two ways of asking for what is above a type agree. -/
theorem mem_fqn_ancestors_iff {stubs : List TypeStub} (whole : Classpath.Whole stubs c)
    {fqn : String}
    (low : fqn ≠ objectName) : fqn ∈ c.ancestors.map (·.fqn) ↔ c.isSubtypeOf fqn = true := by
  simp only [isSubtypeOf_iff, List.mem_map, mem_ancestors_iff whole, low, false_or]

end ClassType

namespace Classpath

variable {stubs : List TypeStub} {key : String} {cp : Classpath} {name : String} {c : ClassType}

/-- The class types of a class path without cycles are whole. -/
theorem whole_of_class? (made : ofStubs key stubs = .ok cp) (acyclic : Acyclic stubs)
    (there : cp.class? name = some c) : c.fqn = name ∧ Whole stubs c := by
  rw [class?, classes_of_ofStubs made] at there
  exact (whole_classesOf acyclic).of_lookup there

/-- A class type may be passed for another one if it is a subtype of it, in every phase. -/
theorem compatible_declared (phase : Overload.Phase) (c target : ClassType) :
    Overload.compatible phase (.declared target)
      (.typed (.declared c)) = c.isSubtypeOf target.fqn := by
  cases phase <;> simp [Overload.compatible, JavaType.isAssignableTo, JavaType.isSubtypeOf]

/-- A pattern that is one name and counts subtypes looks for the name among the ancestors. -/
theorem matchesClass_exactly {p : TypePattern} {fqn : String} (exact : p.names = .exactly fqn) :
    p.matchesClass true c = true ↔ fqn ∈ c.ancestors.map (·.fqn) := by
  simp only [TypePattern.matchesClass, TypePattern.matchesName, exact, if_true, List.any_eq_true,
    beq_iff_eq, List.mem_map, eq_comm (b := fqn)]

/-- The ancestors of a class type are the type itself and what is above it, nearest first and each
name once, and apart from the top these are the names that it is a subtype of. So a pattern that is
one name and counts subtypes stands for the class types that may be passed for a parameter of that
type. -/
theorem ancestors_breadthFirst {base : ClassType} (made : ofStubs key stubs = .ok cp)
    (acyclic : Acyclic stubs) (there : cp.class? name = some base) (up : base.Reaches c) :
    c.ancestors.head? = some c ∧ (c.ancestors.map (·.fqn)).Nodup ∧
      (∃ ds, List.Forall₂ (fun a d => c.Distance a.fqn d) c.ancestors ds ∧ ds.Pairwise (· ≤ ·)) ∧
      (∀ fqn, fqn ≠ objectName → (fqn ∈ c.ancestors.map (·.fqn) ↔ c.isSubtypeOf fqn = true)) ∧
      ∀ (p : TypePattern) (target : ClassType) (phase : Overload.Phase),
        p.names = .exactly target.fqn → target.fqn ≠ objectName →
        p.matchesClass true c = Overload.compatible phase (.declared target)
          (.typed (.declared c)) := by
  have whole := up.whole (whole_of_class? made acyclic there).2
  obtain ⟨later, ds, walked, far, sorted, -⟩ := (ClassType.Layered.start c).exists_distances whole
  refine ⟨c.head?_ancestors, c.nodup_ancestors, ⟨ds, ?_, sorted⟩,
    fun fqn low => ClassType.mem_fqn_ancestors_iff whole low, fun p target phase exact low => ?_⟩
  · rwa [ClassType.ancestors, walked]
  · rw [Bool.eq_iff_iff, matchesClass_exactly exact, compatible_declared,
      ClassType.mem_fqn_ancestors_iff whole low]

/-- At the bottom of two ways up, a pattern for the interface at their end holds as the interface is
a parameter type that fits. -/
theorem ancestors_diamondStubs : ∃ cp c, ofStubs "diamond" diamondStubs = .ok cp ∧
    cp.class? "lib.Bottom" = some c ∧ (c.ancestors.map (·.fqn)).Nodup ∧
    ∀ p : TypePattern, p.names = .exactly "lib.Top" → p.matchesClass true c = true := by
  obtain ⟨cp, made, facts⟩ := exists_of_any (x := ofStubs "diamond" diamondStubs)
    (p := fun cp => (cp.class? "lib.Bottom").any (·.isSubtypeOf "lib.Top")) (by decide +kernel)
  obtain ⟨c, there, below⟩ := (Option.any_eq_true ..).1 facts
  obtain ⟨-, distinct, -, -, agree⟩ := ancestors_breadthFirst made
    hierarchic_diamondStubs.acyclic_rises there .refl
  refine ⟨cp, c, made, there, distinct, fun p exact => ?_⟩
  rw [agree p (.leaf "lib.Top" .interface) .strict exact (by decide), compatible_declared]
  exact below

end Classpath

end Retouch
