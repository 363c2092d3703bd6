import Mathlib.Data.List.Nodup
import Mathlib.Data.List.Perm.Basic
import Retouch.Proofs.Classpath.Hierarchy

/-!
# What a class path makes of its stubs

Where no name is above itself (`Acyclic`, with the step to `objectName` where a stub names no
supertypes), a class type says what the stubs say of its name, all the way up (`Whole`). Such a type
is known by its name (`Whole.eq_of_fqn_eq`), so it does not matter which names were looked up before
it, and the class types are the same in whatever order the stubs are gone through (`classes_perm`).
-/

namespace Retouch

namespace Classpath

variable {stubs others : List TypeStub}

/-! ## Steps up -/

/-- The stub of the type names `super` as a supertype, or none at all and `super` is `objectName`.
-/
def Rises (stubs : List TypeStub) (name super : String) : Prop :=
  ∃ stub, stubs.find? (·.fqn == name) = some stub ∧ super ∈ supertypeNames stub

/-- No name is above itself. -/
def Acyclic (stubs : List TypeStub) : Prop := ∀ name, ¬ Relation.TransGen (Rises stubs) name name

theorem fqn_of_find? {name : String} {stub : TypeStub}
    (h : stubs.find? (·.fqn == name) = some stub) : stub.fqn = name := by
  simpa using List.find?_some h

theorem Rises.extends_or_top {name super : String} (h : Rises stubs name super) :
    Extends stubs name super ∨ super = objectName ∧ name ≠ objectName := by
  obtain ⟨stub, found, written⟩ := h
  unfold supertypeNames at written
  split at written
  · next implied =>
    simp only [Bool.and_eq_true, bne_iff_ne, fqn_of_find? found] at implied
    exact .inr ⟨List.mem_singleton.1 written, implied.2⟩
  · exact .inl ⟨stub, found, written⟩

theorem Hierarchic.not_rises_top (h : Hierarchic stubs) (super : String) :
    ¬ Rises stubs objectName super := fun step =>
  step.extends_or_top.elim (h.top super) fun implied => implied.2 rfl

/-- A way up ends at the top or takes only steps that stubs name. -/
theorem Hierarchic.extends_of_rises (h : Hierarchic stubs) {name super : String}
    (up : Relation.TransGen (Rises stubs) name super) :
    super = objectName ∨ Relation.TransGen (Extends stubs) name super := by
  induction up with
  | single step => exact step.extends_or_top.symm.imp And.left .single
  | tail _ step ih =>
    rcases ih with rfl | up
    · exact absurd step (h.not_rises_top _)
    · exact step.extends_or_top.symm.imp And.left up.tail

theorem Hierarchic.acyclic_rises (h : Hierarchic stubs) : Acyclic stubs := by
  intro name cycle
  rcases h.extends_of_rises cycle with rfl | cycle'
  · obtain ⟨_, step, -⟩ := Relation.TransGen.head'_iff.1 cycle
    exact h.not_rises_top _ step
  · exact h.acyclic name cycle'

/-! ## Class types that say all that the stubs say -/

/-- The class type is what the stubs say of its name, all the way up. -/
inductive Whole (stubs : List TypeStub) : ClassType → Prop
  | leaf {fqn : String} : stubs.find? (·.fqn == fqn) = none → Whole stubs (.leaf fqn .clazz)
  | made {fqn : String} {stub : TypeStub} {supertypes : List ClassType} :
      stubs.find? (·.fqn == fqn) = some stub →
      supertypes.map (·.fqn) = supertypeNames stub → (∀ c ∈ supertypes, Whole stubs c) →
      Whole stubs ⟨fqn, stub.kind, supertypes, stub.functional⟩

/-- There is one such class type of a name. -/
theorem Whole.eq_of_fqn_eq {a b : ClassType} (ha : Whole stubs a) (hb : Whole stubs b)
    (same : a.fqn = b.fqn) : a = b := by
  induction ha generalizing b with
  | leaf missing =>
    cases hb with
    | leaf _ => cases same; rfl
    | made found => cases same; rw [missing] at found; cases found
  | @made fqn stub supertypes found named _ ih =>
    cases hb with
    | leaf missing => cases same; rw [missing] at found; cases found
    | @made _ stub' supertypes' found' named' each' =>
      cases same
      obtain rfl : stub = stub' := Option.some.inj (found.symm.trans found')
      -- The supertypes have the same names one by one, so they are the same.
      have names : supertypes.map (·.fqn) = supertypes'.map (·.fqn) := named.trans named'.symm
      have supers : supertypes = supertypes' := by
        refine List.ext_getElem (by simpa using congrArg List.length names) fun i hi hi' => ?_
        refine ih _ (List.getElem_mem hi) (each' _ (List.getElem_mem hi')) ?_
        simpa [hi, hi'] using congrArg (·[i]?) names
      rw [supers]

theorem Whole.supertypes {c : ClassType} (h : Whole stubs c) :
    ∀ s ∈ c.supertypes, Whole stubs s := by
  cases h with
  | leaf => exact fun s mem => absurd mem List.not_mem_nil
  | made _ _ each => exact each

theorem Whole.rises {c s : ClassType} (h : Whole stubs c) (mem : s ∈ c.supertypes) :
    Rises stubs c.fqn s.fqn := by
  cases h with
  | leaf => exact absurd mem List.not_mem_nil
  | made found named _ => exact ⟨_, found, named ▸ List.mem_map_of_mem mem⟩

theorem Whole.congr (same : ∀ name, stubs.find? (·.fqn == name) = others.find? (·.fqn == name))
    {c : ClassType} (h : Whole stubs c) : Whole others c := by
  induction h with
  | leaf missing => exact .leaf (same _ ▸ missing)
  | made found named _ ih => exact .made (same _ ▸ found) named ih

/-! ## Making them -/

/-- Below a name that is above all those under construction, whole class types are made. -/
theorem whole_classOf (acyclic : Acyclic stubs) (active : List String) (fqn : String)
    (above : ∀ name ∈ active, Relation.TransGen (Rises stubs) name fqn) :
    Grows (Whole stubs) (classOf stubs active fqn) fun c => c.fqn = fqn ∧ Whole stubs c := by
  induction active, fqn using classOf.induct stubs with
  | case1 active fqn ih =>
    rw [classOf]
    refine .bind .get fun made start => ?_
    split
    · next c there => exact .pure (start.of_lookup there)
    · split
      · next missing => exact .pure ⟨rfl, .leaf missing⟩
      · next stub found =>
        split
        · next again =>
          exact absurd (above _ again) (fqn_of_find? found ▸ acyclic fqn)
        · next fresh =>
          have super (name : String) (written : name ∈ supertypeNames stub) :
              Grows (Whole stubs) (classOf stubs (stub.fqn :: active) name) fun c =>
                c.fqn = name ∧ Whole stubs c := by
            refine ih stub found fresh name fun below mem => ?_
            have step : Rises stubs fqn name := ⟨stub, found, written⟩
            rcases List.mem_cons.1 mem with rfl | mem
            · exact .single (fqn_of_find? found ▸ step)
            · exact (above below mem).tail step
          refine .bind (.mapM _ super) fun supertypes each => ?_
          have whole : Whole stubs ⟨fqn, stub.kind, supertypes, stub.functional⟩ :=
            .made found (by simpa using each.1) each.2
          exact .bind (.enter whole) fun _ _ => .pure ⟨rfl, whole⟩

/-- When a name that has a stub is made, there is an entry for it. -/
theorem mem_classOf {fqn : String} {stub : TypeStub}
    (found : stubs.find? (·.fqn == fqn) = some stub)
    (made : Made) : fqn ∈ ((classOf stubs [] fqn).run made).2.map (·.1) := by
  rw [classOf, found]
  cases there : made.lookup fqn with
  | some c =>
    have kept : (fqn, c) ∈ made := by
      obtain ⟨front, back, split, -⟩ := List.lookup_eq_some_iff.1 there
      simp [split]
    simp only [StateT.run_bind, StateT.run_get, there, pure_bind, StateT.run_pure]
    exact List.mem_map_of_mem kept
  | none =>
    simp only [StateT.run_bind, StateT.run_get, there, pure_bind, dif_neg List.not_mem_nil]
    exact List.mem_cons_self

/-- No two stubs have one name. -/
theorem duplicate?_eq_none {seen : List String} (distinct : (stubs.map (·.fqn)).Nodup)
    (apart : ∀ name ∈ seen, name ∉ stubs.map (·.fqn)) : duplicate? seen stubs = none := by
  induction stubs generalizing seen with
  | nil => rfl
  | cons s stubs ih =>
    obtain ⟨fresh, distinct⟩ := List.nodup_cons.1 distinct
    have unseen : s.fqn ∉ seen := fun mem => apart _ mem List.mem_cons_self
    simp only [duplicate?, List.contains_iff_mem, if_neg unseen]
    refine ih distinct fun name mem => ?_
    rcases List.mem_cons.1 mem with rfl | mem
    · exact fresh
    · exact fun later => apart name mem (List.mem_cons_of_mem _ later)

/-- Of stubs with names of their own, a look-up finds the one of the name. -/
theorem find?_eq_some_iff (distinct : (stubs.map (·.fqn)).Nodup) {name : String} {stub : TypeStub} :
    stubs.find? (·.fqn == name) = some stub ↔ stub ∈ stubs ∧ stub.fqn = name := by
  constructor
  · exact fun found => ⟨List.mem_of_find?_eq_some found, fqn_of_find? found⟩
  · rintro ⟨mem, rfl⟩
    have there : (stubs.find? (·.fqn == stub.fqn)).isSome :=
      List.find?_isSome.2 ⟨stub, mem, beq_self_eq_true stub.fqn⟩
    obtain ⟨other, found⟩ := Option.isSome_iff_exists.1 there
    rw [found, List.inj_on_of_nodup_map distinct (List.mem_of_find?_eq_some found) mem
      (fqn_of_find? found)]

/-- A look-up does not depend on their order. -/
theorem find?_perm (distinct : (stubs.map (·.fqn)).Nodup) (perm : others.Perm stubs)
    (name : String) :
    others.find? (·.fqn == name) = stubs.find? (·.fqn == name) := by
  have distinct' : (others.map (·.fqn)).Nodup := (perm.map _).nodup_iff.2 distinct
  ext stub
  rw [find?_eq_some_iff distinct', find?_eq_some_iff distinct, perm.mem_iff]

/-! ## The class types of a class path -/

/-- The class type that is made of a name first. -/
def typeOf (stubs : List TypeStub) (fqn : String) : ClassType := ((classOf stubs [] fqn).run []).1

theorem whole_typeOf (acyclic : Acyclic stubs) (fqn : String) :
    (typeOf stubs fqn).fqn = fqn ∧ Whole stubs (typeOf stubs fqn) :=
  (whole_classOf acyclic [] fqn nofun [] .nil).1

/-- A whole type is what its name is made. -/
theorem Whole.eq_typeOf (acyclic : Acyclic stubs) {c : ClassType} (h : Whole stubs c) :
    c = typeOf stubs c.fqn :=
  h.eq_of_fqn_eq (whole_typeOf acyclic c.fqn).2 (whole_typeOf acyclic c.fqn).1.symm

/-- The type of a name has what its stub says. -/
theorem typeOf_eq (acyclic : Acyclic stubs) {fqn : String} {stub : TypeStub}
    (found : stubs.find? (·.fqn == fqn) = some stub) :
    typeOf stubs fqn =
      ⟨fqn, stub.kind, (supertypeNames stub).map (typeOf stubs), stub.functional⟩ := by
  obtain ⟨named, whole⟩ := whole_typeOf acyclic fqn
  refine whole.eq_of_fqn_eq (.made found ?_ ?_) named
  · simp [Function.comp_def, (whole_typeOf acyclic _).1]
  · rintro c mem
    obtain ⟨name, -, rfl⟩ := List.mem_map.1 mem
    exact (whole_typeOf acyclic name).2

theorem typeOf_eq_leaf (acyclic : Acyclic stubs) {fqn : String}
    (missing : stubs.find? (·.fqn == fqn) = none) : typeOf stubs fqn = .leaf fqn .clazz :=
  (whole_typeOf acyclic fqn).2.eq_of_fqn_eq (.leaf missing) (whole_typeOf acyclic fqn).1

theorem whole_classesOf (acyclic : Acyclic stubs) : MadeAll (Whole stubs) (classesOf stubs) :=
  (Grows.mapM stubs (fun s _ => whole_classOf acyclic [] s.fqn nofun) [] .nil).2.1

/-- What is made of a list of stubs has an entry for each. -/
theorem mem_mapM_classOf (acyclic : Acyclic stubs) {sources : List TypeStub}
    (known : ∀ s ∈ sources, s ∈ stubs)
    {made : Made} (start : MadeAll (Whole stubs) made) {stub : TypeStub} (mem : stub ∈ sources) :
    stub.fqn ∈ ((sources.mapM fun s => classOf stubs [] s.fqn).run made).2.map (·.1) := by
  induction sources generalizing made with
  | nil => cases mem
  | cons s sources ih =>
    obtain ⟨here, later⟩ := List.forall_mem_cons.1 known
    obtain ⟨-, kept, -⟩ := whole_classOf acyclic [] s.fqn nofun made start
    simp only [List.mapM_cons, StateT.run_bind]
    rcases List.mem_cons.1 mem with rfl | mem
    · have entered : stub.fqn ∈ ((classOf stubs [] stub.fqn).run made).2.map (·.1) := by
        have there : (stubs.find? (·.fqn == stub.fqn)).isSome :=
          List.find?_isSome.2 ⟨stub, here, beq_self_eq_true stub.fqn⟩
        obtain ⟨other, found⟩ := Option.isSome_iff_exists.1 there
        exact mem_classOf found made
      have suffix := (Grows.mapM sources (fun s _ => whole_classOf acyclic [] s.fqn nofun) _
        kept).2.2
      exact (suffix.map _).subset entered
    · exact ih later kept mem

/-- The class type of a stub is the type of its name. -/
theorem lookup_classesOf (acyclic : Acyclic stubs) {stub : TypeStub} (mem : stub ∈ stubs) :
    (classesOf stubs).lookup stub.fqn = some (typeOf stubs stub.fqn) := by
  have entered : stub.fqn ∈ (classesOf stubs).map (·.1) :=
    mem_mapM_classOf acyclic (fun _ => id) .nil mem
  cases there : (classesOf stubs).lookup stub.fqn with
  | none =>
    obtain ⟨entry, held, same⟩ := List.mem_map.1 entered
    have differs := List.lookup_eq_none_iff.1 there entry held
    simp [same] at differs
  | some c =>
    obtain ⟨named, whole⟩ := (whole_classesOf acyclic).of_lookup there
    rw [whole.eq_typeOf acyclic, named]

/-- Whatever the order of the stubs, each has the class type of its name: what it says itself, below
the class types of the supertypes that it names. -/
theorem ofStubs_perm (distinct : (stubs.map (·.fqn)).Nodup) (acyclic : Acyclic stubs) :
    ∃ type : String → ClassType,
      (∀ stub ∈ stubs, type stub.fqn =
        ⟨stub.fqn, stub.kind, (supertypeNames stub).map type, stub.functional⟩) ∧
      (∀ name ∉ stubs.map (·.fqn), type name = .leaf name .clazz) ∧
      ∀ key order, order.Perm stubs → ∃ cp, ofStubs key order = .ok cp ∧
        ∀ stub ∈ stubs, cp.class? stub.fqn = some (type stub.fqn) := by
  refine ⟨typeOf stubs, fun stub mem => ?_, fun name missing => ?_, fun key order perm => ?_⟩
  · exact typeOf_eq acyclic ((find?_eq_some_iff distinct).2 ⟨mem, rfl⟩)
  · refine typeOf_eq_leaf acyclic (List.find?_eq_none.2 fun stub mem same => missing ?_)
    exact List.mem_map.2 ⟨stub, mem, by simpa using same⟩
  · have same := find?_perm distinct perm
    have rises : Rises order = Rises stubs := by
      funext name super
      simp only [Rises, same]
    have acyclic' : Acyclic order := fun name => rises ▸ acyclic name
    have fresh : duplicate? [] order = none :=
      duplicate?_eq_none ((perm.map _).nodup_iff.2 distinct) nofun
    refine ⟨⟨key, order, classesOf order⟩, by simp only [ofStubs, fresh], fun stub mem => ?_⟩
    show (classesOf order).lookup stub.fqn = _
    rw [lookup_classesOf acyclic' (perm.mem_iff.2 mem)]
    obtain ⟨named, whole⟩ := whole_typeOf acyclic' stub.fqn
    rw [(whole.congr same).eq_typeOf acyclic, named]

/-! ## Two ways up -/

/-- A class with two ways up to an interface, one of them past a name that has no stub. -/
def diamondStubs : List TypeStub := [
  { fqn := "lib.Bottom", supertypes := ["lib.Left", "lib.Right"] },
  { fqn := "lib.Left", supertypes := ["lib.Top"] },
  { fqn := "lib.Right", kind := .interface, supertypes := ["lib.Missing", "lib.Top"] },
  { fqn := "lib.Top", kind := .interface, functional := true },
  { fqn := "java.lang.Cloneable", kind := .interface, supertypes := [objectName] },
  { fqn := objectName }]

theorem hierarchic_diamondStubs : Hierarchic diamondStubs :=
  hierarchic_of_rank
    [objectName, "java.lang.Cloneable", "lib.Missing", "lib.Top", "lib.Right", "lib.Left",
      "lib.Bottom"].idxOf
    (by decide) (by decide)

/-- The class at the bottom is the same type in every order of the stubs. -/
theorem ofStubs_perm_diamondStubs :
    let object : ClassType := .leaf objectName .clazz
    let top : ClassType := ⟨"lib.Top", .interface, [object], true⟩
    let left : ClassType := ⟨"lib.Left", .clazz, [top], false⟩
    let right : ClassType := ⟨"lib.Right", .interface, [.leaf "lib.Missing" .clazz, top], false⟩
    ∀ order, order.Perm diamondStubs → ∃ cp, ofStubs "diamond" order = .ok cp ∧
      cp.class? "lib.Bottom" = some ⟨"lib.Bottom", .clazz, [left, right], false⟩ := by
  intro object top left right order perm
  have distinct : (diamondStubs.map (·.fqn)).Nodup := by decide
  obtain ⟨type, made, leaf, orders⟩ := ofStubs_perm distinct hierarchic_diamondStubs.acyclic_rises
  obtain ⟨cp, built, classes⟩ := orders "diamond" order perm
  refine ⟨cp, built, (classes _ List.mem_cons_self).trans ?_⟩
  simp only [diamondStubs, List.forall_mem_cons] at made
  obtain ⟨bottom, left', right', top', -, object', -⟩ := made
  have missing := leaf "lib.Missing" (by decide)
  simp only [supertypeNames, objectName, List.isEmpty_cons, List.isEmpty_nil, String.reduceBNe,
    bne_self_eq_false, Bool.and_true, Bool.and_self, Bool.and_false, Bool.false_eq_true, if_true,
      if_false,
    List.map_cons, List.map_nil] at bottom left' right' top' object' missing
  rw [bottom, left', right', top', missing, object']
  rfl

end Classpath

end Retouch
