import Retouch.Proofs.Import.Closure
import Retouch.Proofs.Rule.AssertThat
import Retouch.Proofs.Tree.Stops

/-!
# The imports of assertions that stay

A conversion asks for the removal of the imports of `Assertions` as soon as it replaces one call.
Those that a bound call still needs stay (`conversions_keep_imports`). A call for which no method
was found is no reference, so its import goes (`unboundCall_stranded`).
-/

namespace Retouch

/-- A bare call of a static method is a reference of the unit. -/
theorem mem_statics {u : CompilationUnit} {call : MethodInvocation} {method : MethodType}
    (mem : call ∈ (Node.unit u).invocations) (bare : call.select = none)
    (bound : call.method = some method) (isStatic : method.isStatic = true) :
    (method.declaring, method.name) ∈ u.references.statics := by
  obtain ⟨v, stop, found⟩ := List.mem_filterMap.1 mem
  refine List.mem_filterMap.2 ⟨v, stop, ?_⟩
  obtain ⟨node, path⟩ := v
  unfold Visit.invocation? at found
  split at found
  · next m here =>
    cases found
    obtain rfl : node = _ := here
    simp [Visit.staticReference?, bare, bound, isStatic]
  · cases found

/-- The trivia in front of the first class and the imports have no calls. -/
theorem invocations_settled (u : CompilationUnit) (s : Space) (imports : List (Padded Import)) :
    (Node.unit { u.withClassLeading s with imports }).invocations = (Node.unit u).invocations := by
  rw [invocations_unit, invocations_unit]
  obtain ⟨_, _, _, _, _ | ⟨c, cs⟩, _⟩ := u
  · rfl
  · cases c
    rfl

theorem mem_insertIdx_iff {α : Type} {a b : α} {l : List α} {k : Nat} :
    a ∈ l.insertIdx k b ↔ a ∈ l ∨ (a = b ∧ k ≤ l.length) := by
  by_cases inside : k ≤ l.length
  · simp [List.mem_insertIdx inside, inside, or_comm]
  · simp [List.insertIdx_of_length_lt (by omega : l.length < k), inside]

namespace Rule

/-- The assertions that Jupiter declares. -/
def assertionNames : List String :=
  (Resource.junitJupiter.filter (·.fqn == jupiterAssertions)).flatMap fun s =>
    s.methods.map (·.name)

/-- The import provides the assertion. -/
def ImportsAssertion (name : String) (i : Import) : Prop :=
  i.isStatic = true ∧ i.typeName? = some jupiterAssertions ∧
    (i.member? = some name ∨ i.member? = some "*")

instance (name : String) (i : Import) : Decidable (ImportsAssertion name i) :=
  inferInstanceAs (Decidable (_ ∧ _ ∧ _))

theorem assertionNames_plain :
    "*" ∉ assertionNames ∧ "assertThat" ∉ assertionNames ∧ "within" ∉ assertionNames := by
  decide +kernel

/-- The imports of the chains have names that no assertion has. -/
theorem member?_chainImports {r : AddRequest} (mem : r ∈ Conversion.chainImports) (n : NodeId)
    {name : String} (declared : name ∈ assertionNames) :
    (importNode r.name true n).1.element.member? ≠ some name := by
  obtain ⟨-, notThat, notWithin⟩ := assertionNames_plain
  simp only [Conversion.chainImports, List.mem_cons, List.not_mem_nil, or_false] at mem
  obtain rfl | rfl := mem
  · rw [AddRequest.name, member?_importNode (by decide)]
    rintro ⟨⟩
    exact notThat declared
  · rw [AddRequest.name, member?_importNode (by decide)]
    rintro ⟨⟩
    exact notWithin declared

theorem memberProvided_insert {P : Import → Prop} {name : String} {es : List Import} {i : Import}
    (k : Nat) (other : i.member? ≠ some name) (h : ImportBlock.MemberProvided P name es) :
    ImportBlock.MemberProvided P name (es.insertIdx k i) := by
  obtain ⟨e, mem, holds, singles⟩ := h
  refine ⟨e, mem_insertIdx_iff.2 (.inl mem), holds, fun star o mem' isStatic named => ?_⟩
  obtain old | ⟨rfl, -⟩ := mem_insertIdx_iff.1 mem'
  · exact singles star o old isStatic named
  · exact absurd named other

/-- Behind a conversion, a bare call of an assertion that Jupiter declares has its import if it had
one before. If that is an import of all members, then the single imports of the name have to
be imports of the assertion as well. -/
theorem conversions_keep_imports {build : Options → Except RecipeError Recipe}
    {method exact close : String} (mem : (build, method, exact, close) ∈ conversions)
    {options : Options} {r : Recipe} (built : build options = .ok r) {u : CompilationUnit}
    {s t : Session} (ready : s.Ready Chain.sketchOf?) {applied : Applied}
    (run : (r.apply u).run s = (.ok applied, t)) {call : MethodInvocation} {bound : MethodType}
    (left : call ∈ (Node.unit applied.unit.value).invocations) (bare : call.select = none)
    (found : call.method = some bound) (isStatic : bound.isStatic = true)
    (declaring : bound.declaring.fqn = jupiterAssertions) (declared : bound.name ∈ assertionNames)
    {p : Padded Import} (imported : p ∈ u.imports)
      (provides : ImportsAssertion bound.name p.element)
    (only : p.element.isWildcard = true → ∀ o ∈ u.imports, o.element.isStatic = true →
      o.element.member? = some bound.name → ImportsAssertion bound.name o.element) :
    ∃ q ∈ applied.unit.value.imports, ImportsAssertion bound.name q.element := by
  obtain ⟨c, -, -, -, applied', t', rs, walked, run', -, ⟨classes, -, same⟩, settled, -⟩ :=
    apply_settled mem built u ready
  obtain rfl : applied = applied' := Except.ok.inj (Prod.mk.inj (run.symm.trans run')).1
  obtain ⟨requests, n, ordered, n', adds, -, met, result⟩ := settled
  have used : (bound.declaring, bound.name) ∈ walked.references.statics := by
    obtain ⟨leading, imports, value⟩ := CompilationUnit.meetRequests_value met
    rw [result, value, invocations_settled] at left
    exact mem_statics left bare found isStatic
  have before : ImportBlock.MemberProvided (ImportsAssertion bound.name) bound.name
    walked.entries := by
    rw [same]
    refine ⟨p.element.entry, List.mem_map_of_mem imported, provides, fun star o mem => ?_⟩
    obtain ⟨q, there, rfl⟩ := List.mem_map.1 mem
    exact only star q there
  have provider (e : Import) (holds : ImportsAssertion bound.name e) :
      e.ProvidesMember bound.declaring bound.name := by
    refine ⟨holds.1, ?_, holds.2.2, jupiterAssertions, holds.2.1, .inl declaring⟩
    rintro star
    exact assertionNames_plain.1 (star ▸ declared)
  have members : ∀ r ∈ requests.adds, r.member.isSome = true := fun r mem => by
    have known := adds r mem
    simp only [Conversion.chainImports, List.mem_cons, List.not_mem_nil, or_false] at known
    obtain rfl | rfl := known <;> rfl
  obtain ⟨e, mem', holds, -⟩ := CompilationUnit.meetRequests_inv met members
    (fun _ k n r mem => memberProvided_insert k
      (i := (importNode r.name true n).1.element.entry)
        (member?_chainImports (adds r mem) n declared))
    (fun _ _ _ => ImportBlock.memberProvided_step used provider) before
  obtain ⟨q, there, rfl⟩ := List.mem_map.1 mem'
  exact ⟨q, result ▸ there, holds⟩

/-- `exists_of_run` for numbers. -/
theorem exists_of_converted (source : String) (test : CompilationUnit → CompilationUnit → Bool)
    (h : (assertEquals ⟨[]⟩).toOption.any (fun r =>
      (parseSource fewAssertions [] "A.java" source 0).toOption.any fun (u, _) =>
        ((r.apply u).run numbersSession).1.toOption.any fun applied =>
          test u applied.unit.value) = true) :
    ∃ r u n applied t, assertEquals ⟨[]⟩ = .ok r ∧
      parseSource fewAssertions [] "A.java" source 0 = .ok (u, n) ∧
      (r.apply u).run numbersSession = (.ok applied, t) ∧ test u applied.unit.value = true :=
  exists_of_run _ fewAssertions numbersSession source test h

def importsAll : String :=
  "import static org.junit.jupiter.api.Assertions.*; " ++
    "class A \x7b void t() \x7b assertEquals(1, 2); assertTrue(true); \x7d \x7d"

/-- The import of all assertions stays for `assertTrue`. -/
theorem conversions_keep_imports_others :
    ∃ r u n applied t, assertEquals ⟨[]⟩ = .ok r ∧
      parseSource fewAssertions [] "A.java" importsAll 0 = .ok (u, n) ∧
      (r.apply u).run numbersSession = (.ok applied, t) ∧
      ∃ call ∈ (Node.unit applied.unit.value).invocations, call.select = none ∧
        ∃ bound, call.method = some bound ∧ bound.isStatic = true ∧
          bound.declaring.fqn = jupiterAssertions ∧ bound.name ∈ assertionNames ∧
          (∃ p ∈ u.imports, ImportsAssertion bound.name p.element) ∧
          ∃ q ∈ applied.unit.value.imports, ImportsAssertion bound.name q.element := by
  obtain ⟨r, u, n, applied, t, built, parsed, run, passes⟩ := exists_of_converted importsAll
    (fun u u' => decide (∃ call ∈ (Node.unit u').invocations, call.select.isNone ∧
      ∃ bound ∈ call.method, bound.isStatic = true ∧ bound.declaring.fqn = jupiterAssertions ∧
        bound.name ∈ assertionNames ∧ (∃ p ∈ u.imports, ImportsAssertion bound.name p.element) ∧
        ∀ o ∈ u.imports, ImportsAssertion bound.name o.element))
    (by
      rw [assertEquals_eq]
      unfold Conversion.convert Conversion.replace Plan.fill Template.replaceExpression
        Template.expression Template.compile Template.read Session.parse parseSource parseUnit
          tokenize
      simp only [Template.toList_source, Template.unitChars_written]
      rw [Text.toList_closed importsAll (Text.written_append rfl rfl)]
      decide +kernel)
  obtain ⟨call, left, bare, bound, found, isStatic, declaring, declared, ⟨p, imported, provides⟩,
    only⟩ := of_decide_eq_true passes
  have bare := Option.isNone_iff_eq_none.1 bare
  refine ⟨r, u, n, applied, t, built, parsed, run, call, left, bare, bound, found, isStatic,
    declaring, declared, ⟨p, imported, provides⟩, ?_⟩
  exact conversions_keep_imports (List.mem_cons_self ..) built numbersSession_ready run left bare
    found
    isStatic declaring declared imported provides fun _ o mem _ _ => only o mem

def importsOne : String :=
  "import static org.junit.jupiter.api.Assertions.assertEquals; " ++
    "class A \x7b void t() \x7b assertEquals(1, 2); assertEquals(1, 2, u()); \x7d \x7d"

/-- The import goes with the first call, and the second one, for which no method was found, is left
without. -/
theorem unboundCall_stranded :
    ∃ r u n applied t, assertEquals ⟨[]⟩ = .ok r ∧
      parseSource fewAssertions [] "A.java" importsOne 0 = .ok (u, n) ∧
      (r.apply u).run numbersSession = (.ok applied, t) ∧ "assertEquals" ∈ assertionNames ∧
      (∃ p ∈ u.imports, ImportsAssertion "assertEquals" p.element) ∧
      (∃ call ∈ (Node.unit applied.unit.value).invocations, call.select = none ∧
        call.name.name = "assertEquals") ∧
      ¬∃ q ∈ applied.unit.value.imports, ImportsAssertion "assertEquals" q.element := by
  obtain ⟨r, u, n, applied, t, built, parsed, run, passes⟩ := exists_of_converted importsOne
    (fun u u' => decide ((∃ p ∈ u.imports, ImportsAssertion "assertEquals" p.element) ∧
      (∃ call ∈ (Node.unit u').invocations, call.select.isNone ∧ call.name.name = "assertEquals") ∧
      ¬∃ q ∈ u'.imports, ImportsAssertion "assertEquals" q.element))
    (by
      rw [assertEquals_eq]
      unfold Conversion.convert Conversion.replace Plan.fill Template.replaceExpression
        Template.expression Template.compile Template.read Session.parse parseSource parseUnit
          tokenize
      simp only [Template.toList_source, Template.unitChars_written]
      rw [Text.toList_closed importsOne (Text.written_append rfl rfl)]
      decide +kernel)
  obtain ⟨imported, ⟨call, left, bare, named⟩, gone⟩ := of_decide_eq_true passes
  exact ⟨r, u, n, applied, t, built, parsed, run, by decide +kernel, imported,
    ⟨call, left, Option.isNone_iff_eq_none.1 bare, named⟩, gone⟩

end Rule

end Retouch
