import Retouch.Proofs.Import.Exchange
import Retouch.Proofs.Rule.AssertThatImports

/-!
# The imports that a conversion exchanges

Behind a conversion the imports are the ones of the unit, with one import more for each static
member that the new chains call and no import covered, and without some imports that draw on the
assertions of Jupiter (`conversions_exchange_imports`). The additions cannot be dropped again, since
no import of AssertJ draws on the assertions of Jupiter (`DrawsOnAssertions.not_covers`).
-/

namespace Retouch

namespace Rule

/-- The import is one of `Assertions` of Jupiter, of its members, or of everything in its package.
-/
def DrawsOnAssertions (i : Import) : Prop :=
  i.fullName = jupiterAssertions ∨
    (i.isStatic = true ∧ i.typeName? = some jupiterAssertions) ∨
    (i.isStatic = false ∧ i.isWildcard = true ∧ i.packageName = "org.junit.jupiter.api")

instance (i : Import) : Decidable (DrawsOnAssertions i) :=
  inferInstanceAs (Decidable (_ ∨ _ ∨ _))

/-- A removal of the assertions is about such an import. -/
theorem drawsOnAssertions_of_isUnused {refs : References} {b : ImportBlock} {asType : Bool}
    {i : Import}
    (h : b.isUnused refs asType jupiterAssertions i = true) : DrawsOnAssertions i := by
  have cut : Text.cutLast? '.' jupiterAssertions = some
    ("org.junit.jupiter.api", "Assertions") := by
    decide +kernel
  have package : packageOf jupiterAssertions = "org.junit.jupiter.api" := by decide +kernel
  have starless : Text.dropTail? ".*" jupiterAssertions = none := by decide +kernel
  unfold ImportBlock.isUnused at h
  split at h
  · unfold ImportBlock.unusedAsType at h
    split at h
    · simp only [Bool.and_eq_true, Bool.not_eq_true', beq_iff_eq, package] at h
      exact .inr (.inr ⟨h.1.1.1, h.1.1.2, h.1.2⟩)
    · next typed =>
      have typed : i.typeName? = some jupiterAssertions := by simpa using typed
      cases isStatic : i.isStatic with
      | true => exact .inr (.inl ⟨isStatic, typed⟩)
      | false =>
        left
        cases star : i.isWildcard <;> simp [Import.typeName?, isStatic, star] at typed
        exact typed
  · have asMember : b.unusedAsMember refs jupiterAssertions i = true := by
      cases isStatic : i.isStatic <;> simpa [isStatic, starless] using h
    simp only [ImportBlock.unusedAsMember, cut, Bool.and_eq_true, beq_iff_eq] at asMember
    obtain ⟨⟨⟨isStatic, member⟩, typed⟩, -⟩ := asMember
    left
    simp only [Import.typeName?, Import.member?, isStatic, if_true] at typed member
    rw [Import.fullName_eq, typed, Option.some.inj member]
    decide +kernel

/-- No import that draws on the assertions of Jupiter covers a member of AssertJ. -/
theorem DrawsOnAssertions.not_covers {i : Import} (h : DrawsOnAssertions i) (member : String) :
    ¬i.Covers assertjAssertions member := by
  rintro ⟨isStatic, typed, -⟩
  obtain named | ⟨-, typed'⟩ | ⟨other, -⟩ := h
  · have target : i.name.target.qualifiedName? = some assertjAssertions := by
      simpa [Import.typeName?, isStatic] using typed
    rw [Import.fullName_eq, target] at named
    -- The two names differ behind `org.`.
    have fifth := congrArg (·.toList[4]?) named
    simp [assertjAssertions, jupiterAssertions] at fifth
  · rw [typed] at typed'
    exact absurd (Option.some.inj typed') (by decide)
  · simp [isStatic] at other

namespace Conversion

theorem mem_needs {rs : List Replacement} {name : String} :
    name ∈ needs rs ↔
      (name = "assertThat" ∧ rs ≠ []) ∨ (name = "within" ∧ ∃ r ∈ rs, hasTolerance r = true) := by
  rw [← List.any_eq_true]
  unfold needs
  cases rs with
  | nil => simp
  | cons r rs => cases (r :: rs).any hasTolerance <;> simp

theorem needs_plain (rs : List Replacement) :
    (∀ name ∈ needs rs, name ≠ "*" ∧ '.' ∉ name.toList) ∧ (needs rs).Nodup := by
  unfold needs
  split
  · simp
  · split <;> decide

end Conversion

/-- A conversion exchanges imports. Behind it all static members that the chains of the replaced
calls call are covered: `assertThat` as soon as there is one, and `within` as soon as one has a
tolerance. It adds nothing but a single import for each of these members that no import of the unit
covers, and drops nothing but imports that draw on the assertions of Jupiter. -/
theorem conversions_exchange_imports {build : Options → Except RecipeError Recipe}
    {method exact close : String} (mem : (build, method, exact, close) ∈ conversions)
    {options : Options} {r : Recipe} (built : build options = .ok r) (u : CompilationUnit)
    {s : Session} (ready : s.Ready Chain.sketchOf?) :
    ∃ c : Conversion, c.method = method ∧ c.exact = exact ∧ c.close = close ∧
      ∃ applied t rs, (r.apply u).run s = (.ok applied, t) ∧ t.Ready Chain.sketchOf? ∧
        c.Converted u rs applied.unit.value ∧
        (∀ name ∈ Conversion.needs rs,
          ∃ i ∈ applied.unit.value.entries, i.Covers assertjAssertions name) ∧
        ∃ added dropped, Exchange u.entries added dropped applied.unit.value.entries ∧
          List.Forall₂ (Import.IsMember assertjAssertions)
            ((Conversion.needs rs).filter fun name =>
              ¬∃ i ∈ u.entries, i.Covers assertjAssertions name) added ∧
          ∀ i ∈ dropped, DrawsOnAssertions i := by
  obtain ⟨c, named, exactly, closely, applied, t, rs, walked, run, ready', turned, asked, still⟩ :=
    apply_asked mem built u ready
  have same : walked.entries = u.entries := by
    obtain ⟨classes, -, rfl⟩ := turned
    rfl
  obtain ⟨plain, once⟩ := Conversion.needs_plain rs
  obtain ⟨added, dropped, exchange, fits, about⟩ : ∃ added dropped,
      Exchange walked.entries added dropped applied.unit.value.entries ∧
        List.Forall₂ (Import.IsMember assertjAssertions)
          ((Conversion.needs rs).filter fun name =>
            ¬∃ i ∈ walked.entries, i.Covers assertjAssertions name) added ∧
        ∀ i ∈ dropped, DrawsOnAssertions i := by
    obtain ⟨n, ordered, n', met, result⟩ := asked
    rw [result]
    refine CompilationUnit.meetRequests_exchange met plain once fun b asType i name mem unused => ?_
    rw [Conversion.removes_requests rs name mem] at unused
    exact drawsOnAssertions_of_isUnused unused
  rw [same] at exchange fits
  refine ⟨c, named, exactly, closely, applied, t, rs, run, ready',
    .of_turned turned asked.settled still,
    fun name needed => ?_, added, dropped, exchange, fits, about⟩
  -- A needed member is covered from before or by its new import, and neither is dropped.
  have provided : ∃ i, (i ∈ added ∨ i ∈ u.entries) ∧ i.Covers assertjAssertions name := by
    by_cases covered : ∃ i ∈ u.entries, i.Covers assertjAssertions name
    · obtain ⟨i, there, covers⟩ := covered
      exact ⟨i, .inr there, covers⟩
    · obtain ⟨i, there, isMember⟩ :=
        exists_of_forall₂ fits (List.mem_filter.2 ⟨needed, by simpa using covered⟩)
      exact ⟨i, .inl there, isMember.covers⟩
  obtain ⟨i, there, covers⟩ := provided
  obtain gone | stays := exchange.mem_iff.1 there
  · exact absurd covers ((about i gone).not_covers name)
  · exact ⟨i, stays, covers⟩

/-- A comparison with a tolerance. -/
def closeAssertion : Classpath :=
  ⟨"", [{ fqn := jupiterAssertions, methods := [
      { name := "assertEquals", params := ["double", "double", "double"], isStatic := true }] }],
    [(jupiterAssertions, .leaf jupiterAssertions .clazz)]⟩

/-- A session that knows of AssertJ what a chain with a tolerance needs. -/
def toleranceSession : Session where
  classpaths := [(assertjResource, .ok ⟨"", [
      { fqn := assertjAssertions, methods := [
        { name := "assertThat", params := ["double"], returns := "a.D", isStatic := true },
        { name := "within", params := ["double"], returns := "a.O", isStatic := true }] },
      { fqn := "a.D", methods := [{ name := "isCloseTo", params := ["double", "a.O"] }] },
      { fqn := "a.O" }],
    [(assertjAssertions, .leaf assertjAssertions .clazz), ("a.D", .leaf "a.D" .clazz),
      ("a.O", .leaf "a.O" .clazz)]⟩)]

def importsTolerance : String :=
  "import static org.junit.jupiter.api.Assertions.*; " ++
    "class A \x7b void t(double x) \x7b assertEquals(1.0, x, 0.1); \x7d \x7d"

/-- The chain has a tolerance, so `within` is imported, and the import of the assertions is dropped.
-/
theorem conversions_exchange_imports_tolerance :
    ∃ r u n applied t, assertEquals ⟨[]⟩ = .ok r ∧
      parseSource closeAssertion [] "A.java" importsTolerance 0 = .ok (u, n) ∧
      toleranceSession.Ready Chain.sketchOf? ∧
      (r.apply u).run toleranceSession = (.ok applied, t) ∧
      ∃ (c : Conversion) (rs : List Replacement), c.Converted u rs applied.unit.value ∧
        (∃ r ∈ rs, Conversion.hasTolerance r = true) ∧
        (∃ i ∈ applied.unit.value.entries, i.Covers assertjAssertions "within") ∧
        ∃ added dropped, Exchange u.entries added dropped applied.unit.value.entries ∧
          dropped ≠ [] ∧ ∀ i ∈ dropped, DrawsOnAssertions i := by
  obtain ⟨r, u, n, applied, t, built, parsed, run, passes⟩ :=
    exists_of_run (assertEquals ⟨[]⟩) closeAssertion toleranceSession importsTolerance
      (fun u u' => decide ((∃ i ∈ u'.entries, i.member? = some "within") ∧
        (∀ i ∈ u.entries, i.member? ≠ some "within") ∧
        ∃ i ∈ u.entries, i.member? = some "*" ∧ ∀ i ∈ u'.entries, i.member? ≠ some "*"))
      (by
        rw [assertEquals_eq]
        unfold Conversion.convert Conversion.replace Plan.fill Template.replaceExpression
          Template.expression Template.compile Template.read Session.parse parseSource parseUnit
            tokenize
        simp only [Template.toList_source, Template.unitChars_written]
        rw [Text.toList_closed importsTolerance (Text.written_append rfl rfl)]
        decide +kernel)
  obtain ⟨⟨i, new, named⟩, unnamed, ⟨j, old, star, starless⟩⟩ := of_decide_eq_true passes
  have ready : toleranceSession.Ready Chain.sketchOf? := ⟨rfl, fun _ _ mem => by cases mem⟩
  obtain ⟨c, -, -, -, applied', t', rs, run', -, converted, covers, added, dropped, exchange, fits,
    about⟩ :=
    conversions_exchange_imports (List.mem_cons_self ..) built u ready
  obtain rfl : applied = applied' := Except.ok.inj (Prod.mk.inj (run.symm.trans run')).1
  have needed : "within" ∈ Conversion.needs rs := by
    obtain made | there := exchange.mem_iff.2 (.inr new)
    · obtain ⟨name, mem, isMember⟩ := exists_of_forall₂ fits.flip made
      obtain rfl : name = "within" := Option.some.inj (isMember.2.2.symm.trans named)
      exact (List.mem_filter.1 mem).1
    · exact absurd named (unnamed i there)
  refine ⟨r, u, n, applied, t, built, parsed, ready, run, c, rs, converted, ?_, covers _ needed,
    added, dropped, exchange, ?_, about⟩
  · obtain ⟨other, -⟩ | ⟨-, tolerance⟩ := Conversion.mem_needs.1 needed
    · exact absurd other (by decide)
    · exact tolerance
  · rintro rfl
    obtain gone | stays := exchange.mem_iff.1 (.inr old)
    · cases gone
    · exact starless j stays star

end Rule

end Retouch
