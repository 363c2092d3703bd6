import Retouch.Proofs.Import.Closure
import Retouch.Proofs.Recipe.Apply
import Retouch.Proofs.Recipe.Passes
import Retouch.Rule.MockitoImports

/-!
# The cleanup of Mockito imports

The recipe looks at a unit as a whole and only asks for removals (`apply_mockitoImports`), so what
comes of a unit does not depend on the session (`steady_mockitoImports`).

It asks for nothing on behalf of a static import whose member is called without a method that is
known, so the import stays unless another one has it removed (`mockitoImports_keeps_called`). Names
that are no calls are not looked at: an import of a constant or of a type goes although something
that could not be resolved may need it (`unresolvedNames_stranded`).
-/

namespace Retouch

/-- Asking for removals changes nothing but the requests. -/
theorem forM_removeImport (names : List String) (scope : EditScope) (s : EditState) :
    names.forM Edit.removeImport scope s =
      ((), { s with requests := names.foldl ImportRequests.remove s.requests }) := by
  induction names generalizing s with
  | nil => rfl
  | cons name names ih => exact ih { s with requests := s.requests.remove name }

theorem adds_foldl_remove (names : List String) (rs : ImportRequests) :
    (names.foldl ImportRequests.remove rs).adds = rs.adds := by
  induction names generalizing rs with
  | nil => rfl
  | cons name names ih =>
    rw [List.foldl_cons, ih]
    unfold ImportRequests.remove
    split <;> rfl

/-- Only names that are asked for are in the requests. -/
theorem mem_of_mem_removes {name : String} (names : List String) (rs : ImportRequests)
    (mem : name ∈ (names.foldl ImportRequests.remove rs).removes) : name ∈ rs.removes ∨
      name ∈ names := by
  induction names generalizing rs with
  | nil => exact .inl mem
  | cons first names ih =>
    rcases ih _ mem with mem | mem
    · unfold ImportRequests.remove at mem
      split at mem
      · exact .inl mem
      · rcases List.mem_append.1 mem with mem | mem
        · exact .inl mem
        · exact .inr (List.mem_singleton.1 mem ▸ List.mem_cons_self)
    · exact .inr (List.mem_cons_of_mem _ mem)

/-- Requests that only remove have one result in all sessions. -/
theorem settle_removes (u : CompilationUnit) (names : List String) :
    ∃ out, (out = .same u ∨ ∀ n, u.meetRequests { removes := names } n = .ok (out, n)) ∧
      ∀ s : Session, s.cancelled = false →
        ∃ t, Editor.settle (.same u) { session := s, requests := { removes := names } } =
          (.ok out, t) ∧ t.cancelled = false := by
  obtain ⟨ordered, met⟩ := u.meetRequests_removes names
  cases empty : ({ removes := names } : ImportRequests).isEmpty with
  | true => exact ⟨.same u, .inl rfl, fun s running => ⟨s, by simp [Editor.settle, empty], running⟩⟩
  | false =>
    refine ⟨ordered, .inr met, fun s running => ⟨s, ?_, running⟩⟩
    simp [Editor.settle, empty, met]

/-- Removals keep an import that none of the names is about. -/
theorem ImportBlock.mem_removes {refs : References} {e : Import} {names : List String}
    (safe : ∀ b asType, ∀ name ∈ names, ImportBlock.isUnused refs b asType name e = false)
    {b : ImportBlock} (mem : e ∈ b.entries) :
    e ∈ (names.foldl (ImportBlock.remove refs) b).entries := by
  have sweeps (asType : Bool) (name : String) (asked : name ∈ names) (count k : Nat)
    (b : ImportBlock)
      (mem : e ∈ b.entries) : e ∈ (sweep refs asType name count k b).entries := by
    induction count generalizing k b with
    | zero => exact mem
    | succ count ih =>
      rw [sweep]
      split
      · next dropped =>
        obtain ⟨p, here, unused⟩ := (Option.any_eq_true ..).1 dropped
        refine ih k _ ?_
        rw [entries_eraseAt b (List.getElem?_eq_some_iff.1 here).1]
        refine mem_eraseIdx_of_ne mem (i := p.element.entry) (by simp [entries, here]) ?_
        rintro rfl
        have unused : b.isUnused refs asType name p.element.entry = true := unused
        simp [safe b asType name asked] at unused
      · exact ih (k + 1) b mem
  induction names generalizing b with
  | nil => exact mem
  | cons name names ih =>
    refine ih (fun b asType name asked => safe b asType name (List.mem_cons_of_mem _ asked)) ?_ ?_
    · exact sweeps _ name List.mem_cons_self _ _ b mem
    · exact fun asType name asked => sweeps asType name (List.mem_cons_of_mem _ asked)

/-- A static import of one member of a type. -/
def Import.Draws (i : Import) (typeName member : String) : Prop :=
  i.isStatic = true ∧ i.isWildcard = false ∧ i.typeName? = some typeName ∧ i.member? = some member

instance (i : Import) (typeName member : String) : Decidable (i.Draws typeName member) :=
  inferInstanceAs (Decidable (_ ∧ _ ∧ _ ∧ _))

/-- Two names are about a static import of one member: that of the type, and that of the member
behind it. -/
theorem ImportBlock.name_of_isUnused {refs : References} {b : ImportBlock} {asType : Bool}
    {i : Import}
    {name typeName member : String} (draws : i.Draws typeName member)
    (h : b.isUnused refs asType name i = true) : name = typeName ∨ name = typeName ++ "." ++
      member := by
  obtain ⟨isStatic, -, typed, named⟩ := draws
  unfold isUnused at h
  split at h
  · unfold unusedAsType at h
    by_cases same : typeName = name
    · exact .inl same.symm
    · simp [typed, same, isStatic] at h
  · dsimp only at h
    unfold unusedAsMember at h
    split at h
    · cases h
    · next owner last cut =>
      simp only [isStatic, typed, named, Bool.true_and, Bool.and_eq_true, beq_iff_eq,
        Option.some.injEq] at h
      obtain ⟨⟨rfl, rfl⟩, -⟩ := h
      exact .inr (Text.eq_of_cutLast? rfl cut)

/-- The name stands in the unit and means nothing. -/
def CompilationUnit.leavesOpen (u : CompilationUnit) (name : String) : Bool :=
  u.visits.any fun v => match v.node with
    | .expression (.identifier n) => n.name == name && n.symbol.isNone
    | _ => false

namespace Rule

/-- The names of the calls for which no method was found. -/
def unboundNames (u : CompilationUnit) : List String :=
  ((Node.unit u).invocations.filter (·.method.isNone)).map (·.name.name)

/-- The names whose removal is asked for in a session that is not cancelled. -/
def removables (u : CompilationUnit) : List String :=
  u.imports.filterMap fun i => removable? (unboundNames u) i.element

theorem cleanImports_run (u : CompilationUnit) (scope : EditScope) (s : Session)
    (running : s.cancelled = false) :
    cleanImports u scope { session := s } =
      ((), { session := s, requests := (removables u).foldl ImportRequests.remove {} }) := by
  have names : (s.findUnattributed u).map (·.name.name) = unboundNames u := by
    rw [Session.findUnattributed, Session.findCalls_eq running, unboundNames, Node.invocations,
      List.filter_filterMap]
    rfl
  unfold removables
  rw [← names]
  exact forM_removeImport _ scope { session := s }

theorem quiet_cleanImports : Editor.Quiet { onUnit := cleanImports } :=
  ⟨fun _ => rfl, fun _ _ => rfl, fun _ => rfl, fun _ => rfl, fun _ => rfl⟩

/-- The recipe gives one result in all sessions: the unit, or the unit without imports that it asks
for. -/
theorem apply_mockitoImports {options : Options} {r : Recipe}
    (built : mockitoImports options = .ok r)
    (u : CompilationUnit) :
    ∃ applied, (∀ s : Session, s.cancelled = false →
        ∃ t, (r.apply u).run s = (.ok applied, t) ∧ t.cancelled = false) ∧
      (applied.unit.value = u ∨ ∃ names out, (∀ name ∈ names, name ∈ removables u) ∧
        (∀ n, u.meetRequests { removes := names } n = .ok (out, n)) ∧
          applied.unit.value = out.value) := by
  obtain ⟨types, -, rfl⟩ : ∃ types, _ = Except.ok types ∧
      r = ⟨mockitoImportsDescriptor, some (.usesType ⟨types, false⟩),
        some { onUnit := cleanImports }, []⟩ := by
    unfold mockitoImports at built
    cases parsed : (TypePattern.ofText "org.mockito.*").mapError RecipeError.pattern with
    | error e =>
      rw [parsed] at built
      cases built
    | ok types =>
      rw [parsed] at built
      cases built
      exact ⟨types, parsed, rfl⟩
  obtain ⟨requests, asked⟩ : ∃ requests, requests = (removables u).foldl ImportRequests.remove {} :=
    ⟨_, rfl⟩
  have walk (s : Session) (running : s.cancelled = false) :
      (Editor.run { onUnit := cleanImports } mockitoImportsDescriptor.id u).run s =
        Editor.settle (.same u) { session := s, requests } := by
    refine Editor.run_eq ?_ rfl running
    rw [quiet_cleanImports.editBy_run u _ _ (by simp [running]), asked]
    exact congrArg (fun x => (Edited.same u, x.2)) (cleanImports_run u _ s running)
  have removes : requests = { removes := requests.removes } := by
    have adds := adds_foldl_remove (removables u) {}
    rw [← asked] at adds
    cases requests
    simp_all
  obtain ⟨out, met, settled⟩ := settle_removes u requests.removes
  rw [← removes] at settled
  refine ⟨if (Precondition.usesType ⟨types, false⟩).isOpen {} u then ⟨out, .done⟩
    else ⟨.same u, .skipped⟩, fun s running => ?_, ?_⟩
  · rw [Recipe.apply_leaf running, Precondition.isOpen_congr running (t := {}) rfl, walk s running]
    obtain ⟨t, ends, running'⟩ := settled s running
    rw [ends]
    split
    · exact ⟨t, rfl, running'⟩
    · exact ⟨s, rfl, running⟩
  · split
    · rcases met with rfl | met
      · exact .inl rfl
      · refine .inr ⟨requests.removes, out, fun name mem => ?_, met, rfl⟩
        rw [asked] at mem
        simpa using mem_of_mem_removes _ _ mem
    · exact .inl rfl

/-- What comes of a unit depends on the unit only. -/
theorem steady_mockitoImports {options : Options} {r : Recipe}
    (built : mockitoImports options = .ok r) : @Recipe.Steady ⟨Eq, eq_equivalence⟩ r := by
  refine Recipe.steady_of_eq fun u => ?_
  obtain ⟨applied, runs, -⟩ := apply_mockitoImports built u
  exact ⟨.ok applied, runs⟩

/-- Nothing is asked for on behalf of an import whose member is called without a method. -/
theorem removable?_eq_none {unresolved : List String} {i : Import} {typeName member : String}
    (draws : i.Draws typeName member) (called : member ∈ unresolved) :
    removable? unresolved i = none := by
  obtain ⟨isStatic, single, typed, named⟩ := draws
  have last : i.name.name.name = member := by simpa [Import.member?, isStatic] using named
  have plain : (member == "*") = false := last ▸ single
  simp [removable?, typed, named, plain, called]

/-- An import of a static member stays while the unit has a bare call of this name for which no
method was found, unless an import of something else has the type or the member removed. -/
theorem mockitoImports_keeps_called {options : Options} {r : Recipe}
    (built : mockitoImports options = .ok r) (u : CompilationUnit) {s : Session}
    (running : s.cancelled = false) :
    ∃ applied t, (r.apply u).run s = (.ok applied, t) ∧
      ∀ p ∈ u.imports, ∀ typeName member, p.element.Draws typeName member →
        (∃ call ∈ (Node.unit u).invocations, call.select = none ∧ call.name.name = member ∧
          call.method = none) →
        (∀ q ∈ u.imports, (∀ owner, ¬q.element.Draws owner member) →
          removable? (unboundNames u) q.element ≠ some typeName ∧
            removable? (unboundNames u) q.element ≠ some (typeName ++ "." ++ member)) →
        p.element.entry ∈ applied.unit.value.entries := by
  obtain ⟨applied, runs, outcome⟩ := apply_mockitoImports built u
  obtain ⟨t, run, -⟩ := runs s running
  refine ⟨applied, t, run, ?_⟩
  rintro p mem typeName member draws ⟨call, there, -, rfl, unbound⟩ apart
  have before : p.element.entry ∈ u.entries := List.mem_map_of_mem mem
  have called : call.name.name ∈ unboundNames u :=
    List.mem_map.2 ⟨call, List.mem_filter.2 ⟨there, by simp [unbound]⟩, rfl⟩
  rcases outcome with same | ⟨names, out, asked, met, value⟩
  · rwa [same]
  rw [value]
  have met := met 0
  rw [CompilationUnit.meetRequests_eq] at met
  obtain ⟨rfl, -⟩ := Prod.mk.inj (Except.ok.inj met)
  rw [CompilationUnit.entries_withBlock]
  split
  · refine ImportBlock.mem_removes (fun b asType name mem => ?_) before
    obtain ⟨q, held, request⟩ := List.mem_filterMap.1 (asked name mem)
    by_contra used
    have about := ImportBlock.name_of_isUnused (i := p.element.entry) draws (by simpa using used)
    by_cases same : ∃ owner, q.element.Draws owner call.name.name
    · obtain ⟨owner, draws'⟩ := same
      simp [removable?_eq_none draws' called] at request
    · obtain ⟨notType, notMember⟩ := apart q held fun owner draws' => same ⟨owner, draws'⟩
      rcases about with rfl | rfl
      · exact notType request
      · exact notMember request
  · exact before

/-- The recipe runs on the source, and the unit and the result of the run pass the test. -/
theorem exists_of_cleaned (classpath : Classpath) (source : String)
    (test : CompilationUnit → CompilationUnit → Bool)
    (h : (mockitoImports ⟨[]⟩).toOption.any (fun r =>
      (parseSource classpath [] "A.java" source 0).toOption.any fun (u, _) =>
        ((r.apply u).run {}).1.toOption.any fun applied => test u applied.unit.value) = true) :
    ∃ r u n applied t, mockitoImports ⟨[]⟩ = .ok r ∧
      parseSource classpath [] "A.java" source 0 = .ok (u, n) ∧
      (r.apply u).run {} = (.ok applied, t) ∧ test u applied.unit.value = true := by
  obtain ⟨r, built, h⟩ := exists_of_any h
  obtain ⟨⟨u, n⟩, parsed, h⟩ := exists_of_any h
  obtain ⟨applied, run, h⟩ := exists_of_any h
  exact ⟨r, u, n, applied, _, built, parsed, Prod.ext run rfl, h⟩

def verifiesUnknown : String :=
  "import static org.mockito.Mockito.mock; import static org.mockito.Mockito.verify; " ++
    "class A \x7b void t() \x7b verify(x); \x7d \x7d"

/-- The import of `verify` stays, the other one goes. -/
theorem mockitoImports_keeps_called_verify :
    ∃ r u n applied t, mockitoImports ⟨[]⟩ = .ok r ∧
      parseSource ⟨"", [], []⟩ [] "A.java" verifiesUnknown 0 = .ok (u, n) ∧
      (r.apply u).run {} = (.ok applied, t) ∧
      (∃ p ∈ u.imports, p.element.Draws "org.mockito.Mockito" "verify" ∧
        p.element.entry ∈ applied.unit.value.entries) ∧
      (∃ q ∈ u.imports, q.element.Draws "org.mockito.Mockito" "mock") ∧
      ¬∃ q ∈ applied.unit.value.imports, q.element.Draws "org.mockito.Mockito" "mock" := by
  obtain ⟨r, u, n, applied, t, built, parsed, run, passes⟩ :=
    exists_of_cleaned ⟨"", [], []⟩ verifiesUnknown
    (fun u u' => decide ((∃ p ∈ u.imports, p.element.Draws "org.mockito.Mockito" "verify") ∧
      (∃ call ∈ (Node.unit u).invocations, call.select.isNone ∧ call.name.name = "verify" ∧
        call.method.isNone) ∧
      (∀ q ∈ u.imports, removable? (unboundNames u) q.element ≠ some "org.mockito.Mockito" ∧
        removable? (unboundNames u) q.element ≠ some ("org.mockito.Mockito" ++ "." ++ "verify")) ∧
      (∃ q ∈ u.imports, q.element.Draws "org.mockito.Mockito" "mock") ∧
      ¬∃ q ∈ u'.imports, q.element.Draws "org.mockito.Mockito" "mock"))
    (by
      unfold parseSource parseUnit tokenize
      rw [Text.toList_closed verifiesUnknown (Text.written_append rfl rfl)]
      decide +kernel)
  obtain ⟨⟨p, imported, draws⟩, ⟨call, there, bare, named, unbound⟩, apart, other, gone⟩ :=
    of_decide_eq_true passes
  obtain ⟨applied', t', run', kept⟩ := mockitoImports_keeps_called built u (s := {}) rfl
  obtain ⟨same, rfl⟩ := Prod.mk.inj (run.symm.trans run')
  obtain rfl := Except.ok.inj same
  refine ⟨r, u, n, _, t, built, parsed, run, ⟨p, imported, draws, ?_⟩, other, gone⟩
  exact kept p imported _ _ draws ⟨call, there, Option.isNone_iff_eq_none.1 bare, named,
    Option.isNone_iff_eq_none.1 unbound⟩ fun q mem _ => apart q mem

def verifiesBeside : String :=
  "import org.mockito.Mockito; import static org.mockito.Mockito.verify; " ++
    "class A \x7b void t() \x7b verify(x); \x7d \x7d"

/-- The removal asked for the unused import of the type takes the import of `verify` along, although
that call was not resolved. -/
theorem calledImport_lost :
    ∃ r u n applied t, mockitoImports ⟨[]⟩ = .ok r ∧
      parseSource ⟨"", [], []⟩ [] "A.java" verifiesBeside 0 = .ok (u, n) ∧
      (r.apply u).run {} = (.ok applied, t) ∧
      (∃ p ∈ u.imports, p.element.Draws "org.mockito.Mockito" "verify") ∧
      (∃ call ∈ (Node.unit u).invocations, call.select = none ∧ call.name.name = "verify" ∧
        call.method = none) ∧
      applied.unit.value.imports = [] := by
  obtain ⟨r, u, n, applied, t, built, parsed, run, passes⟩ :=
    exists_of_cleaned ⟨"", [], []⟩ verifiesBeside
    (fun u u' => decide ((∃ p ∈ u.imports, p.element.Draws "org.mockito.Mockito" "verify") ∧
      (∃ call ∈ (Node.unit u).invocations, call.select.isNone ∧ call.name.name = "verify" ∧
        call.method.isNone) ∧ u'.imports.isEmpty))
    (by
      unfold parseSource parseUnit tokenize
      rw [Text.toList_closed verifiesBeside (Text.written_append rfl rfl)]
      decide +kernel)
  obtain ⟨imported, ⟨call, there, bare, named, unbound⟩, gone⟩ := of_decide_eq_true passes
  exact ⟨r, u, n, applied, t, built, parsed, run, imported, ⟨call, there,
    Option.isNone_iff_eq_none.1 bare, named, Option.isNone_iff_eq_none.1 unbound⟩,
    List.isEmpty_iff.1 gone⟩

def namesUnknown : String :=
  "import org.mockito.Foo; import static org.mockito.Answers.MISSING; " ++
    "class A \x7b Foo.Bar x; Object y = MISSING; \x7d"

/-- A type and a constant that could not be resolved, and both of their imports go. -/
theorem unresolvedNames_stranded :
    let answers := "org.mockito.Answers"
    ∃ r u n applied t, mockitoImports ⟨[]⟩ = .ok r ∧
      parseSource ⟨"", [{ fqn := answers, kind := .enum }], [(answers, .leaf answers .enum)]⟩ []
        "A.java"
        namesUnknown 0 = .ok (u, n) ∧
      (r.apply u).run {} = (.ok applied, t) ∧
      (u.leavesOpen "Foo" = true ∧ ∃ p ∈ u.imports, p.element.isStatic = false ∧
        p.element.fullName = "org.mockito.Foo") ∧
      (u.leavesOpen "MISSING" = true ∧ ∃ p ∈ u.imports, p.element.Draws answers "MISSING") ∧
      applied.unit.value.imports = [] := by
  intro answers
  obtain ⟨r, u, n, applied, t, built, parsed, run, passes⟩ := exists_of_cleaned
    ⟨"", [{ fqn := answers, kind := .enum }], [(answers, .leaf answers .enum)]⟩ namesUnknown
    (fun u u' => decide ((u.leavesOpen "Foo" = true ∧ ∃ p ∈ u.imports, p.element.isStatic = false ∧
        p.element.fullName = "org.mockito.Foo") ∧
      (u.leavesOpen "MISSING" = true ∧ ∃ p ∈ u.imports, p.element.Draws answers "MISSING") ∧
      u'.imports.isEmpty))
    (by
      unfold parseSource parseUnit tokenize
      rw [Text.toList_closed namesUnknown (Text.written_append rfl rfl)]
      decide +kernel)
  obtain ⟨type, constant, gone⟩ := of_decide_eq_true passes
  exact ⟨r, u, n, applied, t, built, parsed, run, type, constant, List.isEmpty_iff.1 gone⟩

end Rule

end Retouch
