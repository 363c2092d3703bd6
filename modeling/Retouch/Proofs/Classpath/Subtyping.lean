import Retouch.Proofs.Classpath.Ancestors

/-!
# Subtyping is an order

Over one class path, subtyping is transitive, antisymmetric and, apart from the unknown type and
that of `null`, reflexive (`subtyping_order`). The relation is put together from widening, the
hierarchies of classes and the components of arrays; these fit together because nothing is above
`objectName`, and nothing else above the interfaces that all arrays have (`Rooted`).
-/

namespace Retouch

/-- The interfaces of all arrays. -/
def arrayInterfaces : List String := ["java.lang.Cloneable", "java.io.Serializable"]

namespace Primitive

variable {p q r : Primitive}

theorem widensTo_trans (h : p.widensTo q = true) (h' : q.widensTo r = true) :
    p.widensTo r = true := by
  cases p <;> cases q <;> cases h <;> first | exact h' | cases r <;> cases h' <;> rfl

theorem not_widensTo_null (low : p ≠ .null) : p.widensTo .null = false := by
  revert low
  cases p <;> decide

end Primitive

/-! ## What is above a type -/

namespace JavaType

variable {p : Primitive} {x : ClassType} {t b : JavaType}

theorem isSubtypeOf_null_iff : (primitive .null).isSubtypeOf b = true ↔
    (∃ y, b = .declared y) ∨ ∃ u, b = .array u := by
  cases b with
  | primitive q => cases q <;> simp [isSubtypeOf]
  | unknown | declared | array => simp [isSubtypeOf]

theorem isSubtypeOf_primitive_iff (low : p ≠ .null) :
    (primitive p).isSubtypeOf b = true ↔ ∃ q, b = .primitive q ∧ p.widensTo q = true := by
  cases b with
  | unknown | declared | array => cases p <;> simp_all [isSubtypeOf]
  | primitive q => cases p <;> simp_all [isSubtypeOf]

theorem isSubtypeOf_declared_iff : (declared x).isSubtypeOf b = true ↔
    ∃ y, b = .declared y ∧ x.isSubtypeOf y.fqn = true := by
  cases b <;> simp [isSubtypeOf]

theorem isSubtypeOf_array_iff : (array t).isSubtypeOf b = true ↔
    (∃ y, b = .declared y ∧ y.fqn ∈ objectName :: arrayInterfaces) ∨
      ∃ u, b = .array u ∧
        ((∃ q, t = .primitive q ∧ u = .primitive q) ∨ t.isSubtypeOf u = true ∧
          u.primitive? = none) := by
  cases b with
  | unknown | primitive => simp [isSubtypeOf]
  | declared y => simp [isSubtypeOf, arrayInterfaces, or_assoc]
  | array u =>
    cases t with
    | primitive q =>
      cases u with
      | primitive r => simpa [isSubtypeOf, primitive?] using eq_comm
      | unknown | declared | array => simp [isSubtypeOf, primitive?]
    | unknown => simp [isSubtypeOf]
    | declared | array => cases u <;> simp [isSubtypeOf, primitive?]

end JavaType

namespace Classpath

variable {stubs : List TypeStub} {key : String} {cp : Classpath} {a b c : JavaType}

/-- No supertype cycles, nothing above `objectName`, and nothing else above the interfaces of
arrays. -/
structure Rooted (stubs : List TypeStub) : Prop extends Hierarchic stubs where
  interfaces : ∀ name ∈ arrayInterfaces, ∀ super, Extends stubs name super → super = objectName

/-! ## Classes -/

/-- What is above a class that arrays are below, arrays are below as well. -/
theorem Rooted.mem_of_rises (h : Rooted stubs) {name super : String}
    (mem : name ∈ objectName :: arrayInterfaces)
      (up : Relation.ReflTransGen (Rises stubs) name super) :
    super ∈ objectName :: arrayInterfaces := by
  rcases Relation.ReflTransGen.cases_head up with rfl | ⟨next, step, up⟩
  · exact mem
  · have top : next = objectName := by
      rcases List.mem_cons.1 mem with rfl | mem
      · exact absurd step (h.not_rises_top next)
      · exact step.extends_or_top.elim (h.interfaces name mem next) And.left
    rcases Relation.ReflTransGen.cases_head up with same | ⟨_, step, -⟩
    · rw [← same, top]
      exact List.mem_cons_self
    · exact absurd (top ▸ step) (h.not_rises_top _)

/-- A class that is above one of the class path is at the top or found on a way up from it. -/
theorem Whole.isSubtypeOf_iff {x y : ClassType} (hx : Whole stubs x) (hy : Whole stubs y) :
    x.isSubtypeOf y.fqn = true ↔ y.fqn = objectName ∨ x.Reaches y := by
  rw [ClassType.isSubtypeOf_iff]
  constructor
  · rintro (top | ⟨d, up, named⟩)
    · exact .inl top
    · exact .inr ((up.whole hx).eq_of_fqn_eq hy named ▸ up)
  · exact Or.imp id fun up => ⟨y, up, rfl⟩

theorem Whole.isSubtypeOf_trans (hierarchic : Hierarchic stubs) {x y z : ClassType}
    (hx : Whole stubs x)
    (hy : Whole stubs y) (hz : Whole stubs z) (below : x.isSubtypeOf y.fqn = true)
    (above : y.isSubtypeOf z.fqn = true) : x.isSubtypeOf z.fqn = true := by
  rw [hx.isSubtypeOf_iff hz]
  rcases (hy.isSubtypeOf_iff hz).1 above with top | up'
  · exact .inl top
  · rcases (hx.isSubtypeOf_iff hy).1 below with top | up
    · -- Nothing else is above the top.
      rcases Relation.ReflTransGen.cases_head (up'.rises hy) with same | ⟨_, step, -⟩
      · exact .inl (same ▸ top)
      · exact absurd (top ▸ step) (hierarchic.not_rises_top _)
    · exact .inr (up.trans up')

/-! ## Types by name -/

/-- The type is that of `null`, or a name stands for it. -/
def Named (cp : Classpath) (type : JavaType) : Prop :=
  type = .primitive .null ∨ ∃ name, type = cp.typeOfName name

theorem Named.spelled {type : JavaType} (h : Named cp type) : Spelled cp type := by
  obtain rfl | ⟨name, rfl⟩ := h
  · exact .primitive .null
  · exact (spelled_typeOfChars cp _).1

/-- Types with the same names are the same. -/
theorem Spelled.eq_of_beq (made : ofStubs key stubs = .ok cp) (acyclic : Acyclic stubs)
    (ha : Spelled cp a) (hb : Spelled cp b) (same : (a == b) = true) : a = b := by
  induction ha generalizing b with
  | unknown => cases hb <;> first | rfl | cases same
  | primitive p =>
    cases hb with
    | primitive q => rw [show p = q from beq_iff_eq.1 same]
    | unknown | declared | array => cases same
  | @declared name x there =>
    cases hb with
    | unknown | primitive | array => cases same
    | @declared name' y there' =>
      have named : x.fqn = y.fqn := beq_iff_eq.1 (show (x.fqn == y.fqn) = true from same)
      rw [(whole_of_class? made acyclic there).1, (whole_of_class? made acyclic there').1] at named
      cases there.symm.trans (named ▸ there')
      rfl
  | array _ _ _ ih =>
    cases hb with
    | unknown | primitive | declared => cases same
    | array _ _ drawn => rw [ih drawn same]

theorem Spelled.isSubtypeOf_self (h : Spelled cp a) (known : a ≠ .unknown)
    (low : a ≠ .primitive .null) :
    a.isSubtypeOf a = true := by
  induction h with
  | unknown => exact absurd rfl known
  | primitive p =>
    rw [JavaType.isSubtypeOf_primitive_iff (by simpa using low)]
    exact ⟨p, rfl, by simp [Primitive.widensTo]⟩
  | @declared name x there =>
    rw [JavaType.isSubtypeOf_declared_iff]
    exact ⟨x, rfl, (x.isSubtypeOf_iff).2 (.inr ⟨x, .refl, rfl⟩)⟩
  | @array component known' low' _ ih =>
    refine JavaType.isSubtypeOf_array_iff.2 (.inr ⟨component, rfl, ?_⟩)
    cases component with
    | primitive q => exact .inl ⟨q, rfl, rfl⟩
    | unknown | declared | array => exact .inr ⟨ih known' low', rfl⟩

theorem Spelled.isSubtypeOf_trans (made : ofStubs key stubs = .ok cp) (rooted : Rooted stubs)
    (ha : Spelled cp a) (hb : Spelled cp b) (hc : Spelled cp c) (below : a.isSubtypeOf b = true)
    (above : b.isSubtypeOf c = true) : a.isSubtypeOf c = true := by
  have acyclic := rooted.acyclic_rises
  induction ha generalizing b c with
  | unknown => simp [JavaType.isSubtypeOf] at below
  | primitive p =>
    by_cases low : p = .null
    · subst low
      rw [JavaType.isSubtypeOf_null_iff] at below ⊢
      rcases below with ⟨y, rfl⟩ | ⟨u, rfl⟩
      · obtain ⟨z, rfl, -⟩ := JavaType.isSubtypeOf_declared_iff.1 above
        exact .inl ⟨z, rfl⟩
      · rcases JavaType.isSubtypeOf_array_iff.1 above with ⟨z, rfl, -⟩ | ⟨v, rfl, -⟩
        · exact .inl ⟨z, rfl⟩
        · exact .inr ⟨v, rfl⟩
    · obtain ⟨q, rfl, widens⟩ := (JavaType.isSubtypeOf_primitive_iff low).1 below
      have low' : q ≠ .null := by
        rintro rfl
        rw [Primitive.not_widensTo_null low] at widens
        cases widens
      obtain ⟨r, rfl, widens'⟩ := (JavaType.isSubtypeOf_primitive_iff low').1 above
      exact (JavaType.isSubtypeOf_primitive_iff low).2
        ⟨r, rfl, Primitive.widensTo_trans widens widens'⟩
  | @declared name x there =>
    obtain ⟨y, rfl, below⟩ := JavaType.isSubtypeOf_declared_iff.1 below
    obtain ⟨z, rfl, above⟩ := JavaType.isSubtypeOf_declared_iff.1 above
    cases hb with
    | declared there' =>
      cases hc with
      | declared there'' =>
        refine JavaType.isSubtypeOf_declared_iff.2 ⟨z, rfl, ?_⟩
        exact (whole_of_class? made acyclic there).2.isSubtypeOf_trans rooted.toHierarchic
          (whole_of_class? made acyclic there').2 (whole_of_class? made acyclic there'').2 below
            above
  | @array t _ low _ ih =>
    rw [JavaType.isSubtypeOf_array_iff]
    rcases JavaType.isSubtypeOf_array_iff.1 below with ⟨y, rfl, special⟩ | ⟨u, rfl, lower⟩
    · obtain ⟨z, rfl, above⟩ := JavaType.isSubtypeOf_declared_iff.1 above
      cases hb with
      | declared there =>
        have whole := (whole_of_class? made acyclic there).2
        refine .inl ⟨z, rfl, ?_⟩
        rcases y.isSubtypeOf_iff.1 above with top | ⟨d, up, named⟩
        · exact top ▸ List.mem_cons_self
        · exact named ▸ rooted.mem_of_rises special (up.rises whole)
    · rcases JavaType.isSubtypeOf_array_iff.1 above with ⟨z, rfl, special⟩ | ⟨v, rfl, upper⟩
      · exact .inl ⟨z, rfl, special⟩
      · refine .inr ⟨v, rfl, ?_⟩
        rcases lower with ⟨q, rfl, rfl⟩ | ⟨lower, reference⟩
        · rcases upper with same | ⟨upper, reference⟩
          · exact .inl same
          · -- Above a primitive type other than that of `null` are only primitive types.
            obtain ⟨r, rfl, -⟩ := (JavaType.isSubtypeOf_primitive_iff (by simpa using low)).1 upper
            cases reference
        · rcases upper with ⟨q, rfl, rfl⟩ | ⟨upper, reference'⟩
          · cases reference
          · cases hb with
            | array _ _ hu =>
              cases hc with
              | array _ _ hv => exact .inr ⟨ih hu hv lower upper, reference'⟩

/-- Subtyping between the types of one class path is transitive, antisymmetric, and reflexive on all
but the unknown type and that of `null`. -/
theorem subtyping_order (made : ofStubs key stubs = .ok cp) (rooted : Rooted stubs) :
    (∀ a b c, Named cp a → Named cp b → Named cp c →
      a.isSubtypeOf b = true → b.isSubtypeOf c = true → a.isSubtypeOf c = true) ∧
    (∀ a b, Named cp a → Named cp b → a.isSubtypeOf b = true → b.isSubtypeOf a = true → a = b) ∧
    ∀ a, Named cp a → (a.isSubtypeOf a = true ↔ a ≠ .unknown ∧ a ≠ .primitive .null) := by
  refine ⟨fun a b c ha hb hc => ha.spelled.isSubtypeOf_trans made rooted hb.spelled hc.spelled,
    fun a b ha hb below above => ?_, fun a ha => ⟨fun self => ?_, fun h => ?_⟩⟩
  · refine ha.spelled.eq_of_beq made rooted.acyclic_rises hb.spelled ?_
    exact (ha.spelled.drawn made).beq_of_isSubtypeOf rooted.toHierarchic
      (hb.spelled.drawn made) below above
  · constructor
    · rintro rfl
      simp [JavaType.isSubtypeOf] at self
    · rintro rfl
      simp [JavaType.isSubtypeOf] at self
  · exact ha.spelled.isSubtypeOf_self h.1 h.2

/-- Arrays of arrays of a class are arrays of a type that all arrays have above them. -/
theorem subtyping_diamondStubs : ∃ cp, ofStubs "diamond" diamondStubs = .ok cp ∧
    (cp.typeOfName "lib.Bottom[][]").isSubtypeOf (cp.typeOfName "java.lang.Cloneable[]") =
      true := by
  obtain ⟨cp, made, facts⟩ := exists_of_any (x := ofStubs "diamond" diamondStubs) (p := fun cp =>
    (cp.typeOfName "lib.Bottom[][]").isSubtypeOf (cp.typeOfName "lib.Top[][]") &&
      (cp.typeOfName "lib.Top[][]").isSubtypeOf (cp.typeOfName "java.lang.Cloneable[]"))
    (by decide +kernel)
  rw [Bool.and_eq_true] at facts
  have rooted : Rooted diamondStubs := by
    have interfaces : ∀ stub ∈ diamondStubs, stub.fqn ∈ arrayInterfaces →
        ∀ super ∈ stub.supertypes, super = objectName := by decide
    refine ⟨hierarchic_diamondStubs, fun name mem super ⟨stub, found, written⟩ => ?_⟩
    exact interfaces stub (List.mem_of_find?_eq_some found) (fqn_of_find? found ▸ mem) super written
  obtain ⟨trans, -, -⟩ := subtyping_order made rooted
  exact ⟨cp, made, trans _ _ _ (.inr ⟨_, rfl⟩) (.inr ⟨_, rfl⟩) (.inr ⟨_, rfl⟩) facts.1 facts.2⟩

end Classpath

end Retouch
