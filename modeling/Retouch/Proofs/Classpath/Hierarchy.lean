import Mathlib.Data.List.Forall2
import Mathlib.Logic.Relation
import Retouch.Classpath.Basic
import Retouch.Proofs.Classpath.Overload

/-!
# The hierarchy of a class path

The class types of a class path are made from its stubs, so all that one of them has above it is
reached by the supertypes that the stubs name (`Grown.extends_of_isSubtypeOf`). Where no name is
reached from itself and `objectName` is at the top (`Hierarchic`), two types that are below one
another are the same type (`Drawn.beq_of_isSubtypeOf`): the subtype relation of a class path is
antisymmetric, over primitive types, classes and arrays.
-/

namespace Retouch

namespace Classpath

variable {stubs : List TypeStub}

/-! ## Names -/

/-- The stub of the type names `super` as a supertype. -/
def Extends (stubs : List TypeStub) (name super : String) : Prop :=
  ∃ stub, stubs.find? (·.fqn == name) = some stub ∧ super ∈ stub.supertypes

/-- No supertype cycles, and nothing above `objectName`. -/
structure Hierarchic (stubs : List TypeStub) : Prop where
  acyclic : ∀ name, ¬ Relation.TransGen (Extends stubs) name name
  top : ∀ super, ¬ Extends stubs objectName super

theorem Hierarchic.not_above_top (h : Hierarchic stubs) (super : String) :
    ¬ Relation.TransGen (Extends stubs) objectName super := by
  intro above
  obtain ⟨next, step, -⟩ := Relation.TransGen.head'_iff.1 above
  exact h.top next step

/-- A number for every name that is smaller for what a stub names rules cycles out. -/
theorem hierarchic_of_rank (rank : String → Nat)
    (below : ∀ stub ∈ stubs, ∀ super ∈ stub.supertypes, rank super < rank stub.fqn)
    (top : ∀ stub ∈ stubs, stub.fqn = objectName → stub.supertypes = []) : Hierarchic stubs := by
  have found {name : String} {stub : TypeStub}
      (h : stubs.find? (·.fqn == name) = some stub) : stub ∈ stubs ∧ stub.fqn = name := by
    have named := List.find?_some h
    exact ⟨List.mem_of_find?_eq_some h, by simpa using named⟩
  have descends {name super : String} (h : Relation.TransGen (Extends stubs) name super) :
      rank super < rank name := by
    induction h with
    | single step =>
      obtain ⟨stub, there, mem⟩ := step
      obtain ⟨held, rfl⟩ := found there
      exact below stub held _ mem
    | tail _ step ih =>
      obtain ⟨stub, there, mem⟩ := step
      obtain ⟨held, rfl⟩ := found there
      exact Nat.lt_trans (below stub held _ mem) ih
  constructor
  · intro name cycle
    exact Nat.lt_irrefl _ (descends cycle)
  · rintro super ⟨stub, there, mem⟩
    obtain ⟨held, named⟩ := found there
    rw [top stub held named] at mem
    cases mem

/-! ## Class types -/

/-- A class type whose supertypes are those that its stub names, all the way up. -/
inductive Grown (stubs : List TypeStub) : ClassType → Prop
  | leaf (fqn : String) (kind : TypeKind) : Grown stubs (.leaf fqn kind)
  | made {fqn : String} {stub : TypeStub} {supertypes : List ClassType} :
      stubs.find? (·.fqn == fqn) = some stub →
      supertypes.map (·.fqn) = supertypeNames stub → (∀ c ∈ supertypes, Grown stubs c) →
      Grown stubs ⟨fqn, stub.kind, supertypes, stub.functional⟩

theorem anySubtypeOf_iff {cs : List ClassType} {fqn : String} :
    ClassType.anySubtypeOf cs fqn = true ↔ ∃ c ∈ cs, c.isSubtypeOf fqn = true := by
  induction cs with
  | nil => simp [ClassType.anySubtypeOf]
  | cons c cs ih => simp [ClassType.anySubtypeOf, ih]

/-- What a class type of the class path has above it, its stub reaches. -/
theorem Grown.extends_of_isSubtypeOf (hierarchic : Hierarchic stubs) {c : ClassType}
    (grown : Grown stubs c) {fqn : String} (sub : c.isSubtypeOf fqn = true) :
    c.fqn = fqn ∨ fqn = objectName ∨ Relation.TransGen (Extends stubs) c.fqn fqn := by
  induction grown with
  | leaf name kind =>
    simp only [ClassType.leaf, ClassType.isSubtypeOf, ClassType.anySubtypeOf, Bool.or_false,
      Bool.or_eq_true, beq_iff_eq] at sub
    exact sub.imp id .inl
  | @made name stub supertypes found named _ ih =>
    simp only [ClassType.isSubtypeOf, Bool.or_eq_true, beq_iff_eq, anySubtypeOf_iff] at sub
    rcases sub with (same | top) | ⟨s, mem, sub⟩
    · exact .inl same
    · exact .inr (.inl top)
    · have written : s.fqn ∈ supertypeNames stub := named ▸ List.mem_map_of_mem mem
      have step : s.fqn = objectName ∨ Extends stubs name s.fqn := by
        unfold supertypeNames at written
        split at written
        · exact .inl (List.mem_singleton.1 written)
        · exact .inr ⟨stub, found, written⟩
      rcases ih s mem sub with same | top | above
      · subst same
        exact .inr (step.imp id .single)
      · exact .inr (.inl top)
      · rcases step with top | step
        · rw [top] at above
          exact absurd above (hierarchic.not_above_top fqn)
        · exact .inr (.inr (.head step above))

/-- Class types of one class path that are below one another have one name. -/
theorem Grown.fqn_eq_of_isSubtypeOf (hierarchic : Hierarchic stubs) {a b : ClassType}
    (ha : Grown stubs a) (hb : Grown stubs b) (below : a.isSubtypeOf b.fqn = true)
    (above : b.isSubtypeOf a.fqn = true) : a.fqn = b.fqn := by
  rcases ha.extends_of_isSubtypeOf hierarchic below with same | top | up
  · exact same
  · rcases hb.extends_of_isSubtypeOf hierarchic above with same | top' | down
    · exact same.symm
    · rw [top, top']
    · rw [top] at down
      exact absurd down (hierarchic.not_above_top _)
  · rcases hb.extends_of_isSubtypeOf hierarchic above with same | top | down
    · exact same.symm
    · rw [top] at up
      exact absurd up (hierarchic.not_above_top _)
    · exact absurd (up.trans down) (hierarchic.acyclic _)

/-! ## The class types that are made -/

/-- Class types under their names, each with the property. -/
def MadeAll (P : ClassType → Prop) (made : Made) : Prop :=
  ∀ entry ∈ made, entry.2.fqn = entry.1 ∧ P entry.2

section

variable {P : ClassType → Prop}

theorem MadeAll.nil : MadeAll P [] := by
  rintro entry ⟨⟩

theorem MadeAll.of_lookup {made : Made} (h : MadeAll P made) {fqn : String} {c : ClassType}
    (there : made.lookup fqn = some c) : c.fqn = fqn ∧ P c := by
  obtain ⟨front, back, split, -⟩ := List.lookup_eq_some_iff.1 there
  exact h (fqn, c) (by simp [split])

/-- Run on class types with the property, the computation puts others with it in front of them and
gives what `Out` says. -/
def Grows {β : Type} (P : ClassType → Prop) (x : StateM Made β) (Out : β → Prop) : Prop :=
  ∀ made, MadeAll P made →
    Out (x.run made).1 ∧ MadeAll P (x.run made).2 ∧ made <:+ (x.run made).2

theorem Grows.pure {β : Type} {Out : β → Prop} {b : β} (h : Out b) :
    Grows P (Pure.pure b) Out :=
  fun _ start => ⟨h, start, List.suffix_rfl⟩

theorem Grows.bind {β γ : Type} {Mid : β → Prop} {Out : γ → Prop} {x : StateM Made β}
    {k : β → StateM Made γ} (first : Grows P x Mid) (next : ∀ b, Mid b → Grows P (k b) Out) :
    Grows P (x >>= k) Out := by
  intro made start
  obtain ⟨mid, kept, behind⟩ := first made start
  obtain ⟨out, kept', behind'⟩ := next _ mid _ kept
  exact ⟨out, kept', behind.trans behind'⟩

/-- Of the types made so far is read that they have the property. -/
theorem Grows.get : Grows P (MonadState.get : StateM Made Made) (MadeAll P) :=
  fun _ start => ⟨start, start, List.suffix_rfl⟩

/-- A class type with the property is entered under its name. -/
theorem Grows.enter {c : ClassType} (h : P c) :
    Grows P (modify ((c.fqn, c) :: ·)) fun _ => True := by
  refine fun made start => ⟨trivial, ?_, List.suffix_cons ..⟩
  rintro entry (_ | ⟨_, mem⟩)
  · exact ⟨rfl, h⟩
  · exact start entry mem

/-- Class types that are made one behind the other, each under the name of its source. -/
theorem Grows.mapM {α : Type} {f : α → StateM Made ClassType} {name : α → String} (sources : List α)
    (each : ∀ a ∈ sources, Grows P (f a) fun c => c.fqn = name a ∧ P c) :
    Grows P (sources.mapM f) fun cs => cs.map (·.fqn) = sources.map name ∧ ∀ c ∈ cs, P c := by
  induction sources with
  | nil => exact .pure ⟨rfl, by simp⟩
  | cons a sources ih =>
    rw [List.mapM_cons]
    refine .bind (each a List.mem_cons_self) fun c first => ?_
    refine .bind (ih fun b mem => each b (List.mem_cons_of_mem _ mem)) fun cs rest => ?_
    exact .pure ⟨by simp [first.1, rest.1], List.forall_mem_cons.2 ⟨first.2, rest.2⟩⟩

end

/-- The class type of a name has that name and is grown from the stubs. -/
theorem grows_classOf (active : List String) (fqn : String) :
    Grows (Grown stubs) (classOf stubs active fqn) fun c => c.fqn = fqn ∧ Grown stubs c := by
  induction active, fqn using classOf.induct stubs with
  | case1 active fqn ih =>
    rw [classOf]
    refine .bind .get fun made start => ?_
    split
    · next c there =>
      exact .pure (start.of_lookup there)
    · split
      · exact .pure ⟨rfl, .leaf fqn .clazz⟩
      · next stub found =>
        split
        · exact .pure ⟨rfl, .leaf fqn stub.kind⟩
        · next fresh =>
          refine .bind (.mapM _ fun name _ => ih stub found fresh name) fun supertypes each => ?_
          have grown : Grown stubs ⟨fqn, stub.kind, supertypes, stub.functional⟩ :=
            .made found (by simpa using each.1) each.2
          exact .bind (.enter grown) fun _ _ => .pure ⟨rfl, grown⟩

theorem grown_classesOf (stubs : List TypeStub) : MadeAll (Grown stubs) (classesOf stubs) :=
  (Grows.mapM stubs (fun s _ => grows_classOf [] s.fqn) [] .nil).2.1

/-! ## Types by name -/

/-- What names of a class path stand for, and the type of `null`, which has none: class types that
are looked up, primitive types, and arrays of known types. -/
inductive Spelled (cp : Classpath) : JavaType → Prop
  | unknown : Spelled cp .unknown
  | primitive (p : Primitive) : Spelled cp (.primitive p)
  | declared {name : String} {c : ClassType} : cp.class? name = some c → Spelled cp (.declared c)
  | array {component : JavaType} : component ≠ .unknown → component ≠ .primitive .null →
      Spelled cp component → Spelled cp (.array component)

theorem ne_null_of_keyword {word : String} {p : Primitive}
    (h : Primitive.ofKeyword? word = some p) : p ≠ .null := by
  rintro rfl
  simpa using List.mem_of_find?_eq_some h

/-- No name stands for the type of `null`. -/
theorem spelled_typeOfChars (cp : Classpath) (cs : List Char) :
    Spelled cp (cp.typeOfChars cs) ∧ cp.typeOfChars cs ≠ .primitive .null := by
  induction cs using typeOfChars.induct cp with
  | case1 cs component bracketed nothing _ =>
    rw [typeOfChars, bracketed]
    simp only [nothing]
    exact ⟨.unknown, nofun⟩
  | case2 cs component bracketed known ih =>
    rw [typeOfChars, bracketed]
    dsimp only
    split
    · exact ⟨.unknown, nofun⟩
    · exact ⟨.array known ih.2 ih.1, nofun⟩
  | case3 cs plain p keyword =>
    rw [typeOfChars, plain]
    simp only [keyword]
    exact ⟨.primitive p, by simpa using ne_null_of_keyword keyword⟩
  | case4 cs plain noKeyword =>
    rw [typeOfChars, plain]
    simp only [noKeyword]
    cases there : cp.class? (String.ofList cs) with
    | none => exact ⟨.unknown, nofun⟩
    | some c => exact ⟨.declared there, nofun⟩

/-- The type is unknown, primitive, a class type that is grown from the stubs, or an array of such.
-/
inductive Drawn (stubs : List TypeStub) : JavaType → Prop
  | unknown : Drawn stubs .unknown
  | primitive (p : Primitive) : Drawn stubs (.primitive p)
  | declared {c : ClassType} : Grown stubs c → Drawn stubs (.declared c)
  | array {component : JavaType} : Drawn stubs component → Drawn stubs (.array component)

theorem classes_of_ofStubs {key : String} {cp : Classpath} (made : ofStubs key stubs = .ok cp) :
    cp.classes = classesOf stubs := by
  unfold ofStubs at made
  split at made
  · cases made
  · cases made
    rfl

theorem Spelled.drawn {key : String} {cp : Classpath} (made : ofStubs key stubs = .ok cp)
    {type : JavaType} (h : Spelled cp type) : Drawn stubs type := by
  induction h with
  | unknown => exact .unknown
  | primitive p => exact .primitive p
  | declared there =>
    rw [class?, classes_of_ofStubs made] at there
    exact .declared ((grown_classesOf stubs).of_lookup there).2
  | array _ _ _ ih => exact .array ih

/-- The types that the names of a class path stand for. -/
theorem drawn_typeOfName {key : String} {cp : Classpath} (made : ofStubs key stubs = .ok cp)
    (name : String) : Drawn stubs (cp.typeOfName name) :=
  (spelled_typeOfChars cp _).1.drawn made

/-! ## Types below one another -/

theorem eq_of_widensTo {p q : Primitive} (h : p.widensTo q = true) (h' : q.widensTo p = true) :
    p = q := by
  revert h h'
  cases p <;> cases q <;> decide

/-- Arrays are below one another as their components are, arrays of primitive types only when equal.
-/
theorem isSubtypeOf_array {a b : JavaType}
    (h : (JavaType.array a).isSubtypeOf (.array b) = true) :
    (∃ p, a = .primitive p ∧ b = .primitive p) ∨ a.isSubtypeOf b = true := by
  unfold JavaType.isSubtypeOf at h
  split at h <;> simp_all

/-- Types of one class path that are below one another are the same type. -/
theorem Drawn.beq_of_isSubtypeOf (hierarchic : Hierarchic stubs) {a b : JavaType}
    (ha : Drawn stubs a) (hb : Drawn stubs b) (below : a.isSubtypeOf b = true)
    (above : b.isSubtypeOf a = true) : (a == b) = true := by
  induction ha generalizing b with
  | unknown => simp [JavaType.isSubtypeOf] at below
  | primitive p =>
    cases hb with
    | unknown | array => cases p <;> simp [JavaType.isSubtypeOf] at below above
    | declared => simp [JavaType.isSubtypeOf] at above
    | primitive q =>
      have widens : p.widensTo q = true ∧ q.widensTo p = true := by
        cases p <;> cases q <;> simp_all [JavaType.isSubtypeOf]
      rw [eq_of_widensTo widens.1 widens.2]
      exact BEq.rfl
  | @declared c grown =>
    cases hb with
    | unknown | primitive | array => simp [JavaType.isSubtypeOf] at below
    | @declared c' grown' =>
      simp only [JavaType.isSubtypeOf] at below above
      show (c.fqn == c'.fqn) = true
      exact beq_iff_eq.2 (grown.fqn_eq_of_isSubtypeOf hierarchic grown' below above)
  | @array component _ ih =>
    cases hb with
    | unknown | primitive => simp [JavaType.isSubtypeOf] at below
    | declared => simp [JavaType.isSubtypeOf] at above
    | @array component' drawn' =>
      show (component == component') = true
      rcases isSubtypeOf_array below with ⟨p, rfl, rfl⟩ | below
      · exact BEq.rfl
      · rcases isSubtypeOf_array above with ⟨p, rfl, rfl⟩ | above
        · exact BEq.rfl
        · exact ih drawn' below above

end Classpath

end Retouch
