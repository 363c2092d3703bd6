import Retouch.Proofs.Import.Block
import Retouch.Proofs.Outcome
import Retouch.Proofs.Recipe.Apply
import Retouch.Proofs.Rule.Chain

/-!
# Conversions to `assertThat` chains

A conversion leaves a call alone or replaces it as a whole by its chain (`Converts`). What the walk
through a unit asks for on the way is kept as an invariant (`Conversion.Progress`): nothing as long
as no call was replaced, and then the static imports that the chains need so far and the removal of
the imports of the assertions.
-/

namespace Retouch

theorem Session.Ready.report {sketchOf? : String → Option Sketch} {s : Session}
    (ready : s.Ready sketchOf?) (d : Diagnostic) : (s.report d).Ready sketchOf? :=
  ⟨ready.running, ready.keeps⟩

namespace Rule

namespace Conversion

variable (c : Conversion)

/-- What a conversion puts in place of a call of its assertion: the chain of the arguments, behind
the trivia of the call. -/
def Converts : Replacement → Prop
  | .call m e =>
    m.name.name = c.method ∧ c.pattern.matches m = true ∧ e.kind = "method invocation" ∧
      ∃ roles, Roles.ofArguments? m.arguments.toList = some roles ∧
        e.print = m.leading.text ++ roles.text c.exact c.close
  | _ => False

/-- The static imports that the chains need. -/
def chainImports : List AddRequest :=
  [⟨assertjAssertions, some "assertThat", false⟩, ⟨assertjAssertions, some "within", false⟩]

/-- The replaced call has a tolerance. -/
def hasTolerance : Replacement → Bool
  | .call m _ => (Roles.ofArguments? m.arguments.toList).any (·.tolerance.isSome)
  | _ => false

/-- The static members that the chains of the replacements `rs` call by their bare names. -/
def needs (rs : List Replacement) : List String :=
  if rs.isEmpty then [] else "assertThat" :: if rs.any hasTolerance then ["within"] else []

/-- What a conversion asks for behind the replacements `rs`. -/
def requests (rs : List Replacement) : ImportRequests where
  adds := (needs rs).map fun member => ⟨assertjAssertions, some member, false⟩
  removes := if rs.isEmpty then [] else [jupiterAssertions]

/-- An edit behind the replacements `rs`. -/
structure Progress (rs : List Replacement) (s : EditState) : Prop where
  fine : s.failure = none
  ready : s.session.Ready Chain.sketchOf?
  asked : s.requests = requests rs

/-- The requests of a replacement. -/
def request (within : Bool) (rs : ImportRequests) : ImportRequests :=
  let rs := rs.add ⟨assertjAssertions, some "assertThat", false⟩
  (if within then rs.add ⟨assertjAssertions, some "within", false⟩ else rs).remove jupiterAssertions

variable {c} {rs : List Replacement} {scope : EditScope} {s : EditState} {m : MethodInvocation}
  {p : Plan}

theorem replace_run (c : Conversion) (m : MethodInvocation) (p : Plan) (scope : EditScope)
    (s : EditState) :
    c.replace m p scope s =
      match (p.fill (.methodInvocation m)).run s.session with
      | (.ok e, session) =>
        (some e, { s with session, requests := request p.within s.requests })
      | (.error e, session) =>
        ((Edit.report .warning ("could not convert `" ++ c.method ++ "` to AssertJ: " ++ e.message)
          m.id
          >>= fun _ => pure none) scope { s with session }) := by
  rw [replace, Edit.withSession_bind]
  rcases (p.fill (.methodInvocation m)).run s.session with ⟨e | e, session⟩
  · rfl
  · unfold request
    dsimp only
    cases p.within <;> rfl

theorem adds_requests (rs : List Replacement) : ∀ r ∈ (requests rs).adds, r ∈ chainImports := by
  unfold requests needs
  split
  · simp
  · split <;> simp [chainImports]

theorem removes_requests (rs : List Replacement) :
    ∀ name ∈ (requests rs).removes, name = jupiterAssertions := by
  unfold requests
  split <;> simp

/-- A replacement more asks for what its chain needs. -/
theorem request_requests (rs : List Replacement) (r : Replacement) :
    request (hasTolerance r) (requests rs) = requests (rs ++ [r]) := by
  have all : (rs ++ [r]).any hasTolerance = (rs.any hasTolerance || hasTolerance r) := by
    simp [Bool.or_comm]
  have some : (rs ++ [r]).isEmpty = false := by simp
  unfold requests needs
  rw [all, some]
  cases rs with
  | nil => cases hasTolerance r <;> rfl
  | cons r' rs => cases (r' :: rs).any hasTolerance <;> cases hasTolerance r <;> rfl

/-- A chain has a tolerance if the arguments have one. -/
theorem within_plan (h : c.plan m.arguments.toList = .ok p) (e : Expression) :
    p.within = hasTolerance (.call m e) := by
  rw [hasTolerance]
  generalize m.arguments.toList = args at h ⊢
  match args with
  | [expected, actual] =>
    cases h
    rfl
  | [expected, actual, third] =>
    rw [plan] at h
    split at h
    · cases h
    split at h
    · next floating =>
      cases h
      simp [Roles.ofArguments?, floating]
    · next other =>
      cases h
      simp [Roles.ofArguments?, other]
  | [expected, actual, tolerance, message] =>
    rw [plan] at h
    split at h
    · cases h
    split at h
    · cases h
    cases h
    rfl
  | [] | [_] | _ :: _ :: _ :: _ :: _ :: _ => cases h

theorem Progress.report (h : Progress rs s) (d : Diagnostic) :
    Progress rs { s with session := s.session.report d } :=
  ⟨h.fine, h.ready.report d, h.asked⟩

theorem Progress.replaced {session : Session} (h : Progress rs s)
    (ready : session.Ready Chain.sketchOf?) (r : Replacement) :
    Progress (rs ++ [r]) { s with session, requests := request (hasTolerance r) s.requests } :=
  ⟨h.fine, ready, by rw [h.asked, request_requests]⟩

/-- A conversion leaves a call alone or puts its chain in place. -/
theorem convert_answers (known : c.wording ∈ wordings) (h : Progress rs s) :
    Answers Progress c.Converts (.call m) rs (c.convert m scope s) := by
  unfold convert
  split
  · exact h
  next named =>
  split
  · exact h.report _
  split
  · exact h
  next matched =>
  rcases plan : c.plan m.arguments.toList with (_ | _) | p
  · exact h.report _
  · exact h
  · dsimp only
    rw [replace_run]
    obtain ⟨ready, fits⟩ := fills_plan known plan (.methodInvocation m) s.session h.ready
    generalize (p.fill (.methodInvocation m)).run s.session = filled at ready fits ⊢
    obtain ⟨e | e, session⟩ := filled
    · exact Progress.report (s := { s with session }) ⟨h.fine, ready, h.asked⟩ _
    · obtain ⟨kind, text⟩ := fits e rfl
      dsimp only
      rw [within_plan plan e]
      exact ⟨h.replaced ready _, by simpa using named, by simpa using matched, kind, text⟩

/-- The editor of a conversion. -/
def editor (c : Conversion) : Editor := { keepsKinds := true, onCall := c.convert }

/-- The walk of a conversion makes progress. -/
def watch (known : c.wording ∈ wordings) (u : CompilationUnit) (scope : EditScope) :
    Watch c.editor scope where
  seen m := m ∈ (Node.unit u).invocations
  ok := c.Converts
  inv := Progress
  onIdentifier _ _ _ _ h := h
  onLiteral _ _ _ h := h
  onCall _ _ _ h := convert_answers known h
  onClass _ _ _ h := h
  keepsKind _ r h := by
    cases r with
    | call m e => exact h.2.2.1
    | identifier | literal | clazz => exact h.elim

/-- The calls of the unit `u` were converted as in `rs`. -/
def Turned (c : Conversion) (u : CompilationUnit) (rs : List Replacement) (u' : CompilationUnit) :
    Prop :=
  ∃ classes, RewritesClasses (· ∈ (Node.unit u).invocations) c.Converts rs u.classes classes ∧
    u' = { u with classes }

theorem walk (known : c.wording ∈ wordings) (u : CompilationUnit) {s : Session}
    (ready : s.Ready Chain.sketchOf?) (scope : EditScope) :
    ∃ rs out state, u.editBy c.editor scope { session := s } = (out, state) ∧ Progress rs state ∧
      c.Turned u rs out.value ∧ (rs = [] → out = .same u) := by
  have start : Progress [] { session := s } := ⟨rfl, ready, rfl⟩
  have calls : Calls (· ∈ (Node.unit u).invocations) u.visits :=
    fun v mem m found => List.mem_filterMap.2 ⟨v, mem, found⟩
  obtain ⟨rs, progress, turns⟩ :=
    (watch known u scope).edits_unit u calls rfl (fun _ => rfl) [] { session := s } start
  exact ⟨rs, _, _, rfl, progress, turns.rel, turns.unmoved⟩

/-- The unit `u'` is `walked` with requests of a conversion met. -/
def Settled (walked u' : CompilationUnit) : Prop :=
  ∃ requests n ordered n', (∀ r ∈ requests.adds, r ∈ chainImports) ∧
    (∀ name ∈ requests.removes, name = jupiterAssertions) ∧
    walked.meetRequests requests n = .ok (ordered, n') ∧ u' = ordered.value

/-- The unit `u'` is `walked` with what the replacements `rs` ask for. -/
def Asked (rs : List Replacement) (walked u' : CompilationUnit) : Prop :=
  ∃ n ordered n', walked.meetRequests (requests rs) n = .ok (ordered, n') ∧ u' = ordered.value

theorem Asked.nil (u : CompilationUnit) : Asked [] u u := ⟨0, .same u, 0, rfl, rfl⟩

theorem Asked.settled {walked u' : CompilationUnit} : Asked rs walked u' → Settled walked u' :=
  fun ⟨n, ordered, n', met, result⟩ =>
    ⟨_, n, ordered, n', adds_requests rs, removes_requests rs, met, result⟩

/-- A conversion succeeds, and its session can be used further. -/
theorem run_editor (known : c.wording ∈ wordings) (id : String) (u : CompilationUnit) {s : Session}
    (ready : s.Ready Chain.sketchOf?) :
    ∃ edited t rs walked, (c.editor.run id u).run s = (.ok edited, t) ∧ t.Ready Chain.sketchOf? ∧
      c.Turned u rs walked ∧ Asked rs walked edited.value ∧ (rs = [] → edited = .same u) := by
  obtain ⟨rs, out, state, run, progress, turned, still⟩ := walk known u ready ⟨id, some u⟩
  rw [Editor.run_eq run progress.fine progress.ready.running]
  unfold Editor.settle
  rw [progress.asked]
  split
  · next quiet =>
    have none : rs = [] := by
      by_contra some
      simp [requests, needs, some, ImportRequests.isEmpty] at quiet
    subst none
    exact ⟨out, _, [], out.value, rfl, progress.ready, turned, .nil _, still⟩
  · next busy =>
    have members : ∀ r ∈ (requests rs).adds, r.member.isSome = true := fun r mem => by
      have := adds_requests rs r mem
      simp [chainImports] at this
      rcases this with rfl | rfl <;> rfl
    obtain ⟨ordered, n, met⟩ := out.value.meetRequests_members members state.session.nextId
    rw [met]
    refine ⟨_, _, rs, out.value, rfl, ⟨progress.ready.running, progress.ready.keeps⟩, turned,
      ⟨_, ordered, n, met, rfl⟩, fun none => ?_⟩
    subst none
    exact absurd rfl busy

/-- The unit `u'` is `u` with its calls converted as in `rs`. Besides, only the imports and the
trivia in front of the first class can be others, and nothing is if no call was converted. -/
structure Converted (c : Conversion) (u : CompilationUnit) (rs : List Replacement)
    (u' : CompilationUnit) : Prop where
  text : ∃ classes leading imports,
    RewritesClasses (· ∈ (Node.unit u).invocations) c.Converts rs u.classes classes ∧
      u' = { ({ u with classes } : CompilationUnit).withClassLeading leading with imports }
  unmoved : rs = [] → u' = u

theorem Converted.of_turned {walked u' : CompilationUnit} {u : CompilationUnit}
    (turned : c.Turned u rs walked) (settled : Settled walked u') (still : rs = [] → u' = u) :
    c.Converted u rs u' := by
  obtain ⟨classes, rewritten, rfl⟩ := turned
  obtain ⟨requests, n, ordered, n', -, -, met, rfl⟩ := settled
  obtain ⟨leading, imports, value⟩ := CompilationUnit.meetRequests_value met
  exact ⟨⟨classes, leading, imports, rewritten, value⟩, still⟩

theorem recipe_ok {d : RecipeDescriptor} {method exact close operand : String} {r : Recipe}
    (built : recipe d method exact close operand = .ok r) :
    ∃ pattern types, r = ⟨d, some (.usesType ⟨types, false⟩),
      some (editor ⟨method, exact, close, operand, pattern⟩), []⟩ := by
  unfold recipe at built
  cases parsed : (MethodPattern.ofText (jupiterAssertions ++ " " ++ method ++ "(..)")).mapError
      RecipeError.pattern with
  | error e =>
    rw [parsed] at built
    cases built
  | ok pattern =>
    cases typed : (TypePattern.ofText jupiterAssertions).mapError RecipeError.pattern with
    | error e =>
      rw [parsed, typed] at built
      cases built
    | ok types =>
      rw [parsed, typed] at built
      cases built
      exact ⟨pattern, types, rfl⟩

/-- The recipe of a conversion succeeds on every unit: it turns the calls and then meets the
requests. -/
theorem apply_recipe {d : RecipeDescriptor} {r : Recipe} {method exact close operand : String}
    (known : ⟨exact, close, operand⟩ ∈ wordings)
      (built : recipe d method exact close operand = .ok r)
    (u : CompilationUnit) {s : Session} (ready : s.Ready Chain.sketchOf?) :
    ∃ c : Conversion, c.method = method ∧ c.exact = exact ∧ c.close = close ∧
      ∃ applied t rs walked, (r.apply u).run s = (.ok applied, t) ∧ t.Ready Chain.sketchOf? ∧
        c.Turned u rs walked ∧ Asked rs walked applied.unit.value ∧
        (rs = [] → applied.unit.value = u) := by
  obtain ⟨pattern, types, rfl⟩ := recipe_ok built
  refine ⟨⟨method, exact, close, operand, pattern⟩, rfl, rfl, rfl, ?_⟩
  rw [Recipe.apply_leaf ready.running]
  cases (Precondition.usesType ⟨types, false⟩).isOpen s u with
  | false =>
    exact ⟨⟨.same u, .skipped⟩, s, [], u, rfl, ready, ⟨u.classes, .refl _, rfl⟩, .nil u, fun _ =>
      rfl⟩
  | true =>
    obtain ⟨edited, t, rs, walked, run, ready', turned, asked, still⟩ :=
      run_editor (c := ⟨method, exact, close, operand, pattern⟩) known d.id u ready
    refine ⟨⟨edited, .done⟩, t, rs, walked, by rw [run]; rfl, ready', turned, asked, fun none => ?_⟩
    rw [still none]
    rfl

end Conversion

/-- The recipes that convert assertions, each with the name of the assertion and the names of the
exact and the close comparison. -/
def conversions : List ((Options → Except RecipeError Recipe) × String × String × String) :=
  [(assertEquals, "assertEquals", "isEqualTo", "isCloseTo"),
    (assertArrayEquals, "assertArrayEquals", "containsExactly", "containsExactly")]

/-- A conversion turns calls, and then it meets what the replacements ask for. -/
theorem apply_asked {build : Options → Except RecipeError Recipe} {method exact close : String}
    (mem : (build, method, exact, close) ∈ conversions) {options : Options} {r : Recipe}
    (built : build options = .ok r) (u : CompilationUnit) {s : Session}
    (ready : s.Ready Chain.sketchOf?) :
    ∃ c : Conversion, c.method = method ∧ c.exact = exact ∧ c.close = close ∧
      ∃ applied t rs walked, (r.apply u).run s = (.ok applied, t) ∧ t.Ready Chain.sketchOf? ∧
        c.Turned u rs walked ∧ Conversion.Asked rs walked applied.unit.value ∧
        (rs = [] → applied.unit.value = u) := by
  simp only [conversions, List.mem_cons, Prod.mk.injEq, List.not_mem_nil, or_false] at mem
  obtain ⟨rfl, rfl, rfl, rfl⟩ | ⟨rfl, rfl, rfl, rfl⟩ := mem
  · exact Conversion.apply_recipe (by simp [wordings]) built u ready
  · exact Conversion.apply_recipe (by simp [wordings]) built u ready

theorem apply_settled {build : Options → Except RecipeError Recipe} {method exact close : String}
    (mem : (build, method, exact, close) ∈ conversions) {options : Options} {r : Recipe}
    (built : build options = .ok r) (u : CompilationUnit) {s : Session}
    (ready : s.Ready Chain.sketchOf?) :
    ∃ c : Conversion, c.method = method ∧ c.exact = exact ∧ c.close = close ∧
      ∃ applied t rs walked, (r.apply u).run s = (.ok applied, t) ∧ t.Ready Chain.sketchOf? ∧
        c.Turned u rs walked ∧ Conversion.Settled walked applied.unit.value ∧
        (rs = [] → applied.unit.value = u) := by
  obtain ⟨c, named, exactly, closely, applied, t, rs, walked, run, ready', turned, asked, still⟩ :=
    apply_asked mem built u ready
  exact ⟨c, named, exactly, closely, applied, t, rs, walked, run, ready', turned, asked.settled,
    still⟩

/-- A conversion succeeds, and all that it makes of the calls of a unit is to replace some of them
as a whole by `assertThat(actual).as(message).close(expected, within(tolerance))` with what their
arguments stand for (`Roles.text`). Without a replacement the unit is the old one. -/
theorem apply_conversion {build : Options → Except RecipeError Recipe} {method exact close : String}
    (mem : (build, method, exact, close) ∈ conversions) {options : Options} {r : Recipe}
    (built : build options = .ok r) (u : CompilationUnit) {s : Session}
    (ready : s.Ready Chain.sketchOf?) :
    ∃ c : Conversion, c.method = method ∧ c.exact = exact ∧ c.close = close ∧
      ∃ applied t rs, (r.apply u).run s = (.ok applied, t) ∧ t.Ready Chain.sketchOf? ∧
        c.Converted u rs applied.unit.value := by
  obtain ⟨c, named, exactly, closely, applied, t, rs, walked, run, ready', turned, settled,
    still⟩ :=
    apply_settled mem built u ready
  exact ⟨c, named, exactly, closely, applied, t, rs, run, ready', .of_turned turned settled still⟩

/-- The conversion of `assertEquals`. -/
def equality : Conversion where
  method := "assertEquals"
  exact := "isEqualTo"
  close := "isCloseTo"
  operand := "#\x7bany()\x7d"
  pattern := {
    text := "org.junit.jupiter.api.Assertions assertEquals(..)"
    declaring := ⟨jupiterAssertions, .exactly jupiterAssertions⟩
    name := "assertEquals"
    arguments := [.rest] }

theorem assertEquals_eq (options : Options) : assertEquals options = .ok ⟨assertEqualsDescriptor,
    some (.usesType ⟨⟨jupiterAssertions, .exactly jupiterAssertions⟩, false⟩),
    some { keepsKinds := true, onCall := equality.convert }, []⟩ := by
  have pattern : (MethodPattern.ofText (jupiterAssertions ++ " " ++ "assertEquals" ++
    "(..)")).toOption =
      some equality.pattern := by
    decide +kernel
  have types : (TypePattern.ofText jupiterAssertions).toOption =
      some ⟨jupiterAssertions, .exactly jupiterAssertions⟩ := by
    decide +kernel
  unfold assertEquals Conversion.recipe
  rcases read : MethodPattern.ofText (jupiterAssertions ++ " " ++ "assertEquals" ++ "(..)")
    with e | p
  · simp [read, Except.toOption] at pattern
  rcases read' : TypePattern.ofText jupiterAssertions with e | q
  · simp [read', Except.toOption] at types
  simp only [read, read', Except.toOption, Option.some.injEq] at pattern types
  subst pattern types
  rfl

/-- Two assertions of Jupiter, and code to run. -/
def fewAssertions : Classpath :=
  ⟨"", [{ fqn := jupiterAssertions, methods := [
      { name := "assertEquals", params := ["int", "int"], isStatic := true },
      { name := "assertTrue", params := ["boolean"], isStatic := true }] },
      { fqn := "java.lang.Runnable", kind := .interface, functional := true }],
    [(jupiterAssertions, .leaf jupiterAssertions .clazz),
      ("java.lang.Runnable", ⟨"java.lang.Runnable", .interface, [], true⟩)]⟩

/-- A session that knows of AssertJ what a chain for numbers needs. -/
def numbersSession : Session where
  classpaths := [(assertjResource, .ok ⟨"", [
      { fqn := assertjAssertions, methods := [
        { name := "assertThat", params := ["int"], returns := "a.N", isStatic := true }] },
      { fqn := "a.N", methods := [{ name := "isEqualTo", params := ["int"] }] }],
    [(assertjAssertions, .leaf assertjAssertions .clazz), ("a.N", .leaf "a.N" .clazz)]⟩)]

theorem numbersSession_ready : numbersSession.Ready Chain.sketchOf? :=
  ⟨rfl, fun _ _ mem => by cases mem⟩

/-- The recipe runs on the source, and the unit and the result of the run pass the test. -/
theorem exists_of_run {ε : Type} (made : Except ε Recipe) (cp : Classpath) (s : Session)
    (source : String) (test : CompilationUnit → CompilationUnit → Bool)
    (h : made.toOption.any (fun r =>
      (parseSource cp [] "A.java" source 0).toOption.any fun (u, _) =>
        ((r.apply u).run s).1.toOption.any fun applied => test u applied.unit.value) = true) :
    ∃ r u n applied t, made = .ok r ∧
      parseSource cp [] "A.java" source 0 = .ok (u, n) ∧
      (r.apply u).run s = (.ok applied, t) ∧ test u applied.unit.value = true := by
  obtain ⟨r, built, h⟩ := exists_of_any h
  obtain ⟨⟨u, n⟩, parsed, h⟩ := exists_of_any h
  obtain ⟨applied, run, h⟩ := exists_of_any h
  exact ⟨r, u, n, applied, _, built, parsed, Prod.ext run rfl, h⟩

def nestedAssertions : String :=
  "import static org.junit.jupiter.api.Assertions.*; " ++
    "class A \x7b int f(Runnable r) \x7b return 1; \x7d " ++
    "void t() \x7b assertEquals( 1, f(() -> assertEquals(2, 3))); \x7d \x7d"

def nestedChains : String :=
  "import static org.assertj.core.api.Assertions.assertThat; " ++
    "class A \x7b int f(Runnable r) \x7b return 1; \x7d " ++
    "void t() \x7b assertThat(f(() -> assertThat(3).isEqualTo(2))).isEqualTo(1); \x7d \x7d"

/-- Two assertions are converted, one of them in an argument of the other. -/
theorem apply_conversion_nested :
    ∃ r u n applied t, assertEquals ⟨[]⟩ = .ok r ∧
      parseSource fewAssertions [] "A.java" nestedAssertions 0 = .ok (u, n) ∧
      numbersSession.Ready Chain.sketchOf? ∧ (r.apply u).run numbersSession = (.ok applied, t) ∧
      applied.unit.value.print = nestedChains ∧
      ∃ (c : Conversion) (rs : List Replacement), c.method = "assertEquals" ∧
        c.exact = "isEqualTo" ∧
        c.close = "isCloseTo" ∧ t.Ready Chain.sketchOf? ∧ c.Converted u rs applied.unit.value ∧
        rs ≠ [] := by
  obtain ⟨r, u, n, applied, t, built, parsed, run, passes⟩ :=
    exists_of_run (assertEquals ⟨[]⟩) fewAssertions numbersSession nestedAssertions
      (fun u u' => decide (u'.print = nestedChains ∧ u.print ≠ nestedChains))
      (by
        rw [assertEquals_eq]
        unfold Conversion.convert Conversion.replace Plan.fill Template.replaceExpression
          Template.expression Template.compile Template.read Session.parse parseSource parseUnit
            tokenize
        simp only [Template.toList_source, Template.unitChars_written]
        rw [Text.toList_closed nestedAssertions
          (Text.written_append (Text.written_append rfl rfl) rfl)]
        decide +kernel)
  obtain ⟨printed, other⟩ := of_decide_eq_true passes
  obtain ⟨c, named, exactly, closely, applied', t', rs, run', ready, converted⟩ :=
    apply_conversion (List.mem_cons_self ..) built u numbersSession_ready
  obtain ⟨same, rfl⟩ := Prod.mk.inj (run.symm.trans run')
  obtain rfl : applied = applied' := Except.ok.inj same
  refine ⟨r, u, n, applied, t, built, parsed, numbersSession_ready, run, printed, c, rs, named,
    exactly,
    closely, ready, converted, fun none => ?_⟩
  rw [converted.unmoved none] at printed
  exact other printed

end Rule

end Retouch
