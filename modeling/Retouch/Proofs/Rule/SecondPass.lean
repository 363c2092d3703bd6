import Retouch.Proofs.Edit.Rest
import Retouch.Proofs.Outcome
import Retouch.Proofs.Rule.AssertThat
import Retouch.Proofs.Rule.EmptyString
import Retouch.Proofs.Template.Cache
import Retouch.Rule.Runners

/-!
# Second passes

A rule that is applied to its own result changes nothing (`second_pass_idle`). What a rule leaves
behind rests:

* A comparison that became `isEmpty()` has no argument left, and of the annotations of a class those
  that stay are not about an obsolete runner.
* The calls of a chain have other names than the assertion, and between them stand arguments that
  were edited before (`Sketch.gives_rests`).
* A call that got no chain gets none later: if its template was refused, the session has kept the
  refusal (`fill_refused`).
-/

namespace Retouch

/-! ## Applying a recipe again -/

/-- Requests for imports change nothing but imports and the trivia in front of the first class. -/
theorem Editor.settle_value {out edited : Edited CompilationUnit} {state : EditState} {t : Session}
    (h : settle out state = (.ok edited, t)) :
    ∃ leading imports n, edited.value = { out.value.withClassLeading leading with imports } ∧
      t = { state.session with nextId := n } := by
  unfold settle at h
  split at h
  · cases h
    obtain ⟨leading, same⟩ := out.value.exists_withClassLeading
    exact ⟨leading, out.value.imports, state.session.nextId, by rw [same], rfl⟩
  · cases met : out.value.meetRequests state.requests state.session.nextId with
    | error e =>
      rw [met] at h
      cases h
    | ok ordered =>
      rw [met] at h
      cases h
      obtain ⟨leading, imports, value⟩ := CompilationUnit.meetRequests_value met
      exact ⟨leading, imports, ordered.2, value, rfl⟩

namespace Calm

variable {editor : Editor} {d : RecipeDescriptor} {gate : Option Precondition} {s t : Session}

theorem apply_resting (w : Calm editor) {u : CompilationUnit} (good : w.good t)
    (h : ∀ c ∈ u.classes, w.RestsClass editor t c) :
    ∃ again t', (Recipe.apply ⟨d, gate, some editor, []⟩ u).run t = (.ok again, t') ∧
      again.unit = .same u ∧ w.good t' := by
  rw [Recipe.apply_alone (w.running good)]
  split
  · obtain ⟨t', walk, later⟩ := w.rests_unit h ⟨d.id, some u⟩ { session := t } rfl (w.refl good)
    have good' := w.good_of_later later
    rw [Editor.run_eq walk rfl (w.running good')]
    exact ⟨⟨.same u, .done⟩, t', rfl, rfl, good'⟩
  · exact ⟨⟨.same u, .skipped⟩, t, rfl, rfl, good⟩

/-- What a recipe gives, it leaves as it is when it is applied again. -/
theorem apply_again (w : Calm editor) (ids : ∀ t n, w.good t → w.later t { t with nextId := n })
    {u : CompilationUnit} (good : w.good s) {applied : Applied}
    (first : (Recipe.apply ⟨d, gate, some editor, []⟩ u).run s = (.ok applied, t)) :
    ∃ again t', (Recipe.apply ⟨d, gate, some editor, []⟩ applied.unit.value).run t =
      (.ok again, t') ∧
      again.unit = .same applied.unit.value ∧ w.good t' := by
  rw [Recipe.apply_alone (w.running good)] at first
  by_cases opened : gate.all (·.isOpen s u) = true
  · rw [if_pos opened] at first
    have ends := w.ends_unit u s good ⟨d.id, some u⟩ { session := s } rfl rfl
    rcases walk : u.editBy editor ⟨d.id, some u⟩ { session := s } with ⟨out, state⟩
    rw [walk] at ends
    obtain ⟨fine, later, classes, value, resting⟩ := ends
    have good' := w.good_of_later later
    rw [Editor.run_eq walk fine (w.running good')] at first
    rcases settled : Editor.settle out state with ⟨e | edited, t₁⟩
    · rw [settled] at first
      cases first
    · rw [settled] at first
      cases first
      obtain ⟨leading, imports, n, value', rfl⟩ := Editor.settle_value settled
      have later' := ids state.session n good'
      refine w.apply_resting (w.good_of_later later') fun c mem => ?_
      have mem : c ∈ classes.modifyHead ({ · with leading }) := by
        rw [value', value] at mem
        exact mem
      cases classes with
      | nil => cases mem
      | cons first rest =>
        obtain ⟨resting₁, resting₂⟩ := List.forall_mem_cons.1 resting
        rcases List.mem_cons.1 mem with rfl | mem
        · exact fun leading' => (resting₁ leading').mono later'
        · exact fun leading' => (resting₂ c mem leading').mono later'
  · rw [if_neg opened] at first
    cases first
    exact ⟨⟨.same u, .skipped⟩, s, (Recipe.apply_alone (w.running good)).trans (if_neg opened), rfl,
      good⟩

end Calm

/-! ## Filling a template again -/

theorem Session.KeptBy.withId (s : Session) (n : NodeId) : s.KeptBy { s with nextId := n } :=
  ⟨id, fun _ _ h => h, fun _ _ h => h⟩

theorem Session.KeptBy.report (s : Session) (d : Diagnostic) : s.KeptBy (s.report d) :=
  ⟨id, fun _ _ h => h, fun _ _ h => h⟩

namespace Rule

variable {p : Plan} {s t : Session}

theorem fill_keeps (p : Plan) (call : Expression) (running : s.cancelled = false) :
    s.KeptBy ((p.fill call).run s).2 := by
  have keeps : Keeps s.KeptBy (p.fill call) := by
    refine .bind (.lift fun _ _ => trivial) fun template => .map ?_ _
    refine Template.keeps_expression (fun s' n kept => kept.trans (.withId s' n))
      fun shape s' kept => ?_
    exact ⟨kept.trans (template.compile_again shape p.args (kept.running running)).1, fun _ _ =>
      trivial⟩
  exact (keeps s (.refl s)).1

/-- What was refused once is refused again, whatever the trivia in front of the call. -/
theorem fill_refused {call : Expression} {e : TemplateError} (running : s.cancelled = false)
    (h : (p.fill call).run s = (.error e, t)) (call' : Expression) {s' : Session}
      (kept : t.KeptBy s') :
    (p.fill call').run s' = (.error e, s') := by
  unfold Plan.fill at h ⊢
  cases made : p.template with
  | error e' =>
    rw [made] at h
    cases h
    rfl
  | ok template =>
    rw [made] at h
    change (template.replaceExpression call p.args).run s = (.error e, t) at h
    change (template.replaceExpression call' p.args).run s' = (.error e, s')
    unfold Template.replaceExpression Template.expression at h ⊢
    obtain ⟨-, again⟩ := template.compile_again .expression p.args running
    rw [run_bind, run_bind] at h ⊢
    rcases read : (template.compile .expression p.args).run s with ⟨e' | f, s₁⟩
    · rw [read] at h again
      cases h
      rw [again s' kept]
    · rw [read] at h again
      cases f with
      | expression _ => cases h
      | statements _ | annotated _ =>
        cases h
        rw [again s' kept]
        rfl

end Rule

/-! ## Chains -/

namespace Sketch

mutual

/-- No call of the sketch has the name. -/
def avoids (name : String) : Sketch → Bool
  | word .. => true
  | call _ receiver method arguments =>
    method != name && avoidsAll name receiver && avoidsAll name arguments

def avoidsAll (name : String) : List Sketch → Bool
  | [] => true
  | k :: ks => k.avoids name && avoidsAll name ks

end

/-- The editor looks at calls of one name only, and the arguments rest. -/
structure Inert (w : Course) (r : Editor) (t : Session) (name : String) (args : List Expression) :
    Prop where
  names : ∀ p n, r.onIdentifier p n = pure none
  calls : ∀ m, m.name.name ≠ name → r.onCall m = pure none
  args : ∀ arg ∈ args, w.RestsExpression r t arg

variable {w : Course} {r : Editor} {t : Session} {name : String} {args : List Expression}
  {scope : EditScope} {s : EditState}

mutual

/-- Arguments that rest, filled into calls that are left alone, give a tree that rests. -/
theorem gives_rests (going : (s.failure.isSome || s.session.cancelled) = false)
    (inert : Inert w r t name args) (k : Sketch) (e : Expression) (up : List Node)
      (h : k.fits e = true)
    (other : k.avoids name = true)
    (safe : k.isCall = true ∨ ∀ arg, needsParentheses (.expression e :: up) arg = false) :
    Gives scope s (Edit.enterExpression (substitution args) e up (e.editInside (substitution args)))
      fun out => w.RestsExpression r t out.value := by
  refine .enterExpression going rfl ?_
  match k with
  | .word leading text =>
    obtain ⟨n, rfl, -, -⟩ := fits_word h
    rw [Expression.editInside, substitution_identifier (by simpa [isCall] using safe)]
    refine .pure ?_
    cases found : (Placeholder.parameterIndex? n.name).bind (args[·]?) with
    | none => exact Course.restsExpression_identifier inert.names n
    | some arg =>
      obtain ⟨index, -, there⟩ := Option.bind_eq_some_iff.1 found
      exact (inert.args arg (List.mem_of_getElem? there)).withLeading n.leading
  | .call leading receiver method arguments =>
    obtain ⟨⟨id, lead, select, called, ⟨before, elements, close⟩, _⟩, rfl, h₁, h₂, h₃, h₄, h₅, h₆,
      h₇,
      h₈⟩ := fits_call h
    simp only [avoids, Bool.and_eq_true, bne_iff_ne] at other
    refine (gives_rests_receiver going inert receiver select _ h₃ h₂ other.1.2).bind
      fun select' rests => ?_
    refine .bind (P := fun out => w.RestsEach r t out.value.elements) ?_
      fun arguments' rests' => .pure ?_
    · exact (gives_restsEach going inert arguments elements _ h₇ other.2 fun p mem =>
        safe_argument mem).bind
        fun out rests => .pure rests
    · refine Course.restsExpression_call rests rests' fun leading => ?_
      rw [inert.calls _ (by rw [← h₅] at other; exact other.1.1)]
      exact .pure

theorem gives_restsEach (going : (s.failure.isSome || s.session.cancelled) = false)
    (inert : Inert w r t name args) (ks : List Sketch) (es : List (Padded Expression))
      (up : List Node)
    (h : fitsAll ks es = true) (other : avoidsAll name ks = true)
    (safe : ∀ p ∈ es, ∀ arg, needsParentheses (.expression p.element :: up) arg = false) :
    Gives scope s (editExprList (substitution args) es up) fun out =>
      w.RestsEach r t out.value := by
  match ks with
  | [] =>
    obtain rfl := fitsAll_nil h
    exact .pure fun _ mem => nomatch mem
  | k :: ks =>
    obtain ⟨e, after, es, rfl, fits, -, rest⟩ := fitsAll_cons h
    obtain ⟨first, others⟩ := Bool.and_eq_true_iff.1 other
    rw [List.forall_mem_cons] at safe
    refine (gives_rests going inert k e up fits first (.inr safe.1)).bind fun out rests => ?_
    refine (gives_restsEach going inert ks es up rest others safe.2).bind fun out' rests' =>
      .pure ?_
    exact List.forall_mem_cons.2 ⟨rests, rests'⟩

theorem gives_rests_receiver (going : (s.failure.isSome || s.session.cancelled) = false)
    (inert : Inert w r t name args) (ks : List Sketch) (select : Option (Padded Expression))
      (up : List Node)
    (h : fitsAll ks select.toList = true) (calls : ∀ k ∈ ks, k.isCall = true)
    (other : avoidsAll name ks = true) :
    Gives scope s (editSelect (substitution args) select up) fun out =>
      w.Rests t (editSelect r) out.value := by
  match ks, select with
  | [], none => exact .pure fun _ => .pure
  | [k], some ⟨e, after⟩ =>
    obtain ⟨fits, -⟩ : k.fits e = true ∧ after.text = "" := by simpa [fitsAll] using h
    obtain ⟨first, -⟩ := Bool.and_eq_true_iff.1 other
    refine (gives_rests going inert k e up fits first
      (.inl (calls k (by simp)))).bind fun out rests => .pure ?_
    exact fun p => rests.own.expression.map
  | [], some _ | _ :: _, none | _ :: _ :: _, some _ => simp [fitsAll] at h

end

end Sketch

namespace Rule

/-! ## Conversions -/

/-- Sessions that can fill chains; a later one has all that an earlier one has made. -/
def course : Course where
  good := Session.Ready Chain.sketchOf?
  later s t := s.KeptBy t ∧ t.Ready Chain.sketchOf?
  refl ready := ⟨.refl _, ready⟩
  trans h h' := ⟨h.1.trans h'.1, h'.2⟩
  good_of_later h := h.2
  running ready := ready.running

theorem course_withId {t : Session} (n : NodeId) (ready : course.good t) :
    course.later t { t with nextId := n } :=
  ⟨.withId t n, ready.running, ready.keeps⟩

namespace Conversion

variable {c : Conversion} {m : MethodInvocation} {args : List Expression} {p : Plan} {t : Session}

/-- The chains call neither of the assertions. -/
theorem avoids_assertions {chain : Chain} (mem : chain ∈ Chain.all) :
    ∀ method ∈ ["assertEquals", "assertArrayEquals"], chain.sketch.avoids method = true := by
  have all : ∀ chain ∈ Chain.all, ∀ method ∈ ["assertEquals", "assertArrayEquals"],
      chain.sketch.avoids method = true := by decide +kernel
  exact all chain mem

theorem mem_of_plan (h : c.plan args = .ok p) {arg : Expression} (mem : arg ∈ p.args) :
    arg ∈ args := by
  unfold plan at h
  repeat' split at h
  all_goals cases h
  all_goals simp only [List.mem_cons, List.not_mem_nil, or_false] at mem ⊢
  all_goals tauto

/-- Whether a call gets a chain does not depend on the trivia in front of it, and on the session
only by what comes of its plan. -/
theorem convert_cases (c : Conversion) (m : MethodInvocation) :
    (∀ leading, c.convert { m with leading } = pure none) ∨
      (∃ message, ∀ leading, c.convert { m with leading } = do
        Edit.report .debug message m.id
        return none) ∨
      ∃ p, c.plan m.arguments.toList = .ok p ∧
        ∀ leading, c.convert { m with leading } = c.replace { m with leading } p := by
  unfold convert
  dsimp only
  by_cases named : (m.name.name != c.method) = true
  · exact .inl fun _ => if_pos named
  by_cases unbound : m.method.isNone = true
  · exact .inr (.inl ⟨_, fun _ => by rw [if_neg named, if_pos unbound]⟩)
  by_cases strange : (!c.pattern.matches m) = true
  · exact .inl fun _ => by rw [if_neg named, if_neg unbound]; exact if_pos strange
  rcases plan : c.plan m.arguments.toList with (argument | _) | p
  · exact .inr (.inl ⟨_, fun _ => by rw [if_neg named, if_neg unbound]; exact if_neg strange⟩)
  · exact .inl fun _ => by rw [if_neg named, if_neg unbound]; exact if_neg strange
  · exact .inr (.inr ⟨p, rfl, fun _ => by rw [if_neg named, if_neg unbound]; exact if_neg strange⟩)

/-- Reporting does not change what the session has made. -/
theorem report_ends {α : Type} {P : Option α → Session → Prop} (severity : Severity)
    (message : String)
    (node : NodeId) (h : ∀ d, course.later t (t.report d) → P none (t.report d)) :
    course.Ends t (do Edit.report severity message node; return none) P := by
  rintro ready scope s rfl fine
  exact ⟨fine, ⟨.report .., ready.report _⟩, h _ ⟨.report .., ready.report _⟩⟩

theorem report_repeats {α : Type} (severity : Severity) (message : String) (node : NodeId) :
    course.Repeats t (do Edit.report severity message node; return none) (none : Option α) :=
  fun _ _ _ later => ⟨_, rfl, .report .., later.2.report _⟩

/-- A plan that was refused is refused later on. -/
theorem replace_repeats {call : Expression} {e : TemplateError} {session : Session}
    (running : t.cancelled = false) (refused : (p.fill call).run t = (.error e, session))
    (m : MethodInvocation) : course.Repeats session (c.replace m p) none := by
  rintro scope s fine ⟨kept, ready⟩
  rw [replace_run, fill_refused running refused _ kept]
  exact ⟨_, rfl, .report .., ready.report _⟩

theorem replace_ends (known : c.wording ∈ wordings)
    (named : c.method ∈ ["assertEquals", "assertArrayEquals"])
    (plan : c.plan m.arguments.toList = .ok p)
    (select : course.Rests t (editSelect c.editor) m.select)
    (arguments : course.RestsEach c.editor t m.arguments.elements)
    (eager : ∀ leading, c.convert { m with leading } = c.replace { m with leading } p) :
    course.Ends t (c.replace m p) fun out t' =>
      (out.getD (.methodInvocation m)).kind = "method invocation" ∧
        course.RestsExpression c.editor t' (out.getD (.methodInvocation m)) := by
  rintro ready scope s rfl fine
  have inert : Sketch.Inert course c.editor s.session c.method p.args :=
    ⟨fun _ _ => rfl, fun m' other => if_pos (by simpa using other), fun arg mem => by
      obtain ⟨x, held, rfl⟩ := List.mem_map.1 (mem_of_plan plan mem)
      exact arguments x held⟩
  obtain ⟨ready', fits⟩ := fills_plan known plan (.methodInvocation m) s.session ready
  have gives (chain : Chain) (mem : chain ∈ Chain.all) (e : Expression)
    (fits : chain.sketch.fits e = true)
      (s' : Session) (running : s'.cancelled = false) : Sketch.Gives ⟨"", none⟩ { session := s' }
        (e.editBy (substitution p.args)) fun out =>
          course.RestsExpression c.editor s.session out.value :=
    Sketch.gives_rests (by
      simp [running]) inert chain.sketch e [] fits (avoids_assertions mem _ named)
      (.inr fun _ => by simp [needsParentheses])
  obtain ⟨-, rests⟩ := fills_plan_of known plan (.methodInvocation m)
    (fun chain mem _ => gives chain mem) s.session ready
  have kept := fill_keeps p (.methodInvocation m) ready.running
  rw [replace_run]
  rcases filled : (p.fill (.methodInvocation m)).run s.session with ⟨e | e, session⟩
  · rw [filled] at ready' kept
    have later : course.later s.session session := ⟨kept, ready'⟩
    refine ⟨fine, ⟨kept.trans (.report ..), ready'.report _⟩, rfl, ?_⟩
    refine (Course.restsExpression_call (select.mono later) (arguments.mono later) fun leading =>
      ?_).mono
      ⟨.report .., ready'.report _⟩
    change course.Repeats session (c.convert { m with leading }) none
    rw [eager]
    exact replace_repeats ready.running filled _
  · rw [filled] at ready' kept fits rests
    obtain ⟨out, resting, rfl⟩ := rests e rfl
    exact ⟨fine, ⟨kept, ready'⟩, (fits _ rfl).1, (resting.withLeading _).mono ⟨kept, ready'⟩⟩

theorem convert_ends (known : c.wording ∈ wordings)
    (named : c.method ∈ ["assertEquals", "assertArrayEquals"])
    (select : course.Rests t (editSelect c.editor) m.select)
    (arguments : course.RestsEach c.editor t m.arguments.elements) :
    course.Ends t (c.convert m) fun out t' =>
      (out.getD (.methodInvocation m)).kind = "method invocation" ∧
        course.RestsExpression c.editor t' (out.getD (.methodInvocation m)) := by
  rcases c.convert_cases m with idle | ⟨message, idle⟩ | ⟨p, plan, eager⟩
  · have own : c.convert m = pure none := by cases m; exact idle _
    rw [own]
    refine .pure ⟨rfl, Course.restsExpression_call select arguments fun leading => ?_⟩
    change course.Repeats t (c.convert { m with leading }) none
    rw [idle]
    exact .pure
  · have own : c.convert m = do
        Edit.report .debug message m.id
        return none := by cases m; exact idle _
    rw [own]
    refine report_ends _ _ _ fun d later => ⟨rfl, .mono ?_ later⟩
    refine Course.restsExpression_call select arguments fun leading => ?_
    change course.Repeats t (c.convert { m with leading }) none
    rw [idle]
    exact report_repeats _ _ _
  · have own : c.convert m = c.replace m p := by cases m; exact eager _
    rw [own]
    exact replace_ends known named plan select arguments eager

/-- The chains of a conversion rest, and so do the calls that it leaves alone. -/
def calm (known : c.wording ∈ wordings) (named : c.method ∈ ["assertEquals", "assertArrayEquals"]) :
    Calm c.editor where
  toCourse := course
  onUnit _ := rfl
  onImport _ := rfl
  onIdentifier _ _ := rfl
  onLiteral _ := rfl
  onCall m t select arguments := by
    intro ready scope s own fine
    obtain ⟨fine', later, kind, rests⟩ :=
      convert_ends known named select arguments ready scope s own fine
    exact ⟨fine', later, fun _ => kind, rests⟩
  onClass _ _ annotations superclass interfaces body :=
    .pure (Course.restsClass_of_parts annotations superclass interfaces body fun _ => .pure)

end Conversion

/-! ## Comparisons with the empty string -/

theorem classpath_ends {t : Session} (names : List String) :
    course.Ends t (Edit.withSession (·.classpath names)) fun _ _ => True := by
  rintro ready scope s rfl fine
  exact ⟨fine, ⟨(Session.KeptBy.classpath s.session names).1, ready.classpath names⟩, trivial⟩

theorem rebind_ends {t : Session} (m : MethodInvocation) (old : Option MethodType) :
    course.Ends t (old.mapM (rebindIsEmpty m)) fun _ _ => True := by
  cases old with
  | none => exact .pure trivial
  | some old =>
    refine Course.Ends.bind (P := fun _ _ => True) ?_ fun _ _ _ _ => .pure trivial
    unfold rebindIsEmpty
    dsimp only
    split
    · exact .pure trivial
    · refine (classpath_ends _).bind fun made _ _ _ => ?_
      split <;> exact .pure trivial

theorem isEmptyFor_ends {p : MethodPattern} {m : MethodInvocation} {t : Session}
    (select : course.Rests t (editSelect (emptyStringEditor p)) m.select)
    (arguments : course.RestsEach (emptyStringEditor p) t m.arguments.elements) :
    course.Ends t (isEmptyFor p m) fun out t' =>
      (out.getD (.methodInvocation m)).kind = "method invocation" ∧
        course.RestsExpression (emptyStringEditor p) t' (out.getD (.methodInvocation m)) := by
  have idle {m : MethodInvocation} (skip : (!hasEmptyArgument m || !p.matches m) = true) :
      isEmptyFor p m = pure none :=
    if_pos skip
  have rests {m : MethodInvocation} {t : Session}
    (skip : (!hasEmptyArgument m || !p.matches m) = true) :
      course.Repeats t ((emptyStringEditor p).onCall m) none := by
    change course.Repeats t (isEmptyFor p m) none
    rw [idle skip]
    exact .pure
  by_cases skip : (!hasEmptyArgument m || !p.matches m) = true
  · rw [idle skip]
    exact .pure ⟨rfl, Course.restsExpression_call select arguments fun _ => rests skip⟩
  · rw [isEmptyFor, if_neg skip]
    refine (rebind_ends m m.method).bind fun method t' later _ => .pure ⟨rfl, ?_⟩
    exact Course.restsExpression_call (select.mono later) (fun _ mem => nomatch mem) fun _ =>
      rests rfl

/-- A comparison that became `isEmpty()` rests, and so do the calls that are left alone. -/
def emptyStringCalm (p : MethodPattern) : Calm (emptyStringEditor p) where
  toCourse := course
  onUnit _ := rfl
  onImport _ := rfl
  onIdentifier _ _ := rfl
  onLiteral _ := rfl
  onCall m t select arguments := by
    intro ready scope s own fine
    obtain ⟨fine', later, kind, rests⟩ := isEmptyFor_ends select arguments ready scope s own fine
    exact ⟨fine', later, fun _ => kind, rests⟩
  onClass _ _ annotations superclass interfaces body :=
    .pure (Course.restsClass_of_parts annotations superclass interfaces body fun _ => .pure)

/-! ## Obsolete runners -/

/-- The editor of the rule. -/
def runnersEditor (runners : List (String × AnnotationPattern)) : Editor :=
  { onClass := removeRunners runners }

/-- What stays is not about a runner, and only the trivia in front of it can be other. -/
theorem mem_dropRunners {runner? : Annotation → Option String} {owed : Option Space}
    {as : List Annotation} {a : Annotation} (mem : a ∈ (dropRunners runner? owed as).1) :
    ∃ a' ∈ as, runner? a' = none ∧ ∃ leading, a = { a' with leading } := by
  induction as generalizing owed with
  | nil => cases mem
  | cons first rest ih =>
    cases stays : runner? first with
    | some runner =>
      simp only [dropRunners, stays] at mem
      obtain ⟨a', held, found⟩ := ih mem
      exact ⟨a', .tail _ held, found⟩
    | none =>
      simp only [dropRunners, stays] at mem
      rcases List.mem_cons.1 mem with rfl | mem
      · refine ⟨first, .head _, stays, ?_⟩
        cases owed with
        | none => exact ⟨first.leading, by cases first; rfl⟩
        | some s => exact ⟨_, rfl⟩
      · obtain ⟨a', held, found⟩ := ih mem
        exact ⟨a', .tail _ held, found⟩

/-- Nothing is dropped if nothing is about a runner. -/
theorem dropRunners_nil {runner? : Annotation → Option String} {owed : Option Space}
    {as : List Annotation} (h : ∀ a ∈ as, runner? a = none) :
      (dropRunners runner? owed as).2.2 = [] := by
  induction as generalizing owed with
  | nil => rfl
  | cons first rest ih =>
    obtain ⟨stays, rest⟩ := List.forall_mem_cons.1 h
    simp only [dropRunners, stays]
    exact ih rest

/-- The runner that an annotation is about. -/
def runnerOf? (runners : List (String × AnnotationPattern)) (a : Annotation) : Option String :=
  (runners.find? fun (_, p) => p.matches a).map (·.1)

variable {runners : List (String × AnnotationPattern)} {c : ClassDeclaration} {t : Session}

theorem removeRunners_eq (runners : List (String × AnnotationPattern)) (c : ClassDeclaration) :
    removeRunners runners c = (do
      let (kept, owed, dropped) := dropRunners (runnerOf? runners) none c.annotations
      dropped.forM Edit.removeImport
      if dropped.isEmpty then return none
      Edit.removeImport runWith
      return some (payOwed { c with annotations := kept } owed)) :=
  rfl

/-- A class rests if its parts do and there is nothing to drop. -/
theorem restsClass_of_dropRunners
    (h : (dropRunners (runnerOf? runners) none c.annotations).2.2 = [])
    (annotations : ∀ a ∈ c.annotations, course.RestsAnnotation (runnersEditor runners) t a)
    (superclass : course.Rests t (editSuper (runnersEditor runners)) c.superclass)
    (interfaces : course.Rests t (editTypes? (runnersEditor runners)) c.interfaces)
    (body : course.Rests t (Block.editInside (runnersEditor runners)) c.body) :
    course.RestsClass (runnersEditor runners) t c := by
  refine Course.restsClass_of_parts annotations superclass interfaces body fun leading => ?_
  change course.Repeats t (removeRunners runners { c with leading }) none
  rw [removeRunners_eq]
  generalize dropRunners (runnerOf? runners) none c.annotations = dropped at h ⊢
  obtain ⟨kept, owed, dropped⟩ := dropped
  obtain rfl : dropped = [] := h
  exact .pure

theorem removeImport_ends (name : String) : course.Ends t (Edit.removeImport name) fun _ _ =>
    True := by
  rintro ready scope s rfl fine
  exact ⟨fine, ⟨.refl _, ready⟩, trivial⟩

theorem removeImports_ends (names : List String) :
    course.Ends t (names.forM Edit.removeImport) fun _ _ => True := by
  induction names generalizing t with
  | nil => exact .pure trivial
  | cons name names ih => exact (removeImport_ends name).bind fun _ _ _ _ => ih

theorem restsClass_payOwed {r : Editor} {owed : Option Space}
    (h : ∀ modifiers keywordLeading, course.RestsClass r t { c with modifiers, keywordLeading }) :
    course.RestsClass r t (payOwed c owed) := by
  obtain ⟨id, leading, annotations, modifiers, keywordLeading, keyword, name, superclass,
    interfaces,
    body, type⟩ := c
  match owed, modifiers with
  | none, _ | some _, _ :: _ | some _, [] => exact h _ _

/-- A class that the rule has seen has no annotation left that is about a runner. -/
theorem removeRunners_ends
    (annotations : ∀ a ∈ c.annotations, course.RestsAnnotation (runnersEditor runners) t a)
    (superclass : course.Rests t (editSuper (runnersEditor runners)) c.superclass)
    (interfaces : course.Rests t (editTypes? (runnersEditor runners)) c.interfaces)
    (body : course.Rests t (Block.editInside (runnersEditor runners)) c.body) :
    course.Ends t (removeRunners runners c) fun out t' =>
      course.RestsClass (runnersEditor runners) t' (out.getD c) := by
  have kept (a : Annotation) (mem : a ∈ (dropRunners (runnerOf? runners) none c.annotations).1) :
      runnerOf? runners a = none ∧ course.RestsAnnotation (runnersEditor runners) t a := by
    obtain ⟨a', held, none, leading, rfl⟩ := mem_dropRunners mem
    exact ⟨none, annotations a' held⟩
  rw [removeRunners_eq]
  rcases found : dropRunners (runnerOf? runners) none c.annotations with ⟨as, owed, dropped⟩
  rw [found] at kept
  refine (removeImports_ends dropped).bind fun _ t₁ later₁ _ => ?_
  split
  · next nothing =>
    have nothing : (dropRunners (runnerOf? runners) none c.annotations).2.2 = [] := by
      rw [found]
      exact List.isEmpty_iff.1 nothing
    exact .pure (restsClass_of_dropRunners nothing
      (fun a mem leading => (annotations a mem leading).mono later₁) (superclass.mono later₁)
      (interfaces.mono later₁) (body.mono later₁))
  · refine (removeImport_ends runWith).bind fun _ t₂ later₂ _ => .pure ?_
    have later := course.trans later₁ later₂
    refine restsClass_payOwed fun modifiers keywordLeading => ?_
    exact restsClass_of_dropRunners (dropRunners_nil fun a mem => (kept a mem).1)
      (fun a mem leading => ((kept a mem).2 leading).mono later) (superclass.mono later)
      (interfaces.mono later) (body.mono later)

/-- A class without its obsolete runners rests. -/
def runnersCalm (runners : List (String × AnnotationPattern)) : Calm (runnersEditor runners) where
  toCourse := course
  onUnit _ := rfl
  onImport _ := rfl
  onIdentifier _ _ := rfl
  onLiteral _ := rfl
  onCall _ _ select arguments :=
    .pure ⟨fun keeps => (nomatch keeps), Course.restsExpression_call select arguments fun _ =>
      .pure⟩
  onClass _ _ annotations superclass interfaces body :=
    removeRunners_ends annotations superclass interfaces body

/-! ## The rules -/

theorem emptyString_ok {options : Options} {r : Recipe} (built : emptyString options = .ok r) :
    ∃ p, r = ⟨emptyStringDescriptor, some (.usesMethod p), some (emptyStringEditor p), []⟩ := by
  unfold emptyString at built
  obtain ⟨p, -, rest⟩ := exists_of_bind_ok built
  exact ⟨p, (Except.ok.inj rest).symm⟩

theorem runners_ok {options : Options} {r : Recipe} (built : Rule.runners options = .ok r) :
    ∃ patterns, r = ⟨runnersDescriptor, none, some (runnersEditor patterns), []⟩ := by
  unfold Rule.runners at built
  split at built
  · cases built
  · obtain ⟨patterns, -, rest⟩ := exists_of_bind_ok built
    exact ⟨patterns, (Except.ok.inj rest).symm⟩

/-- The rules that reach their result in one pass. -/
def onePass : List (Options → Except RecipeError Recipe) :=
  [emptyString, assertEquals, assertArrayEquals, Rule.runners]

/-- What one of these rules gives, it leaves as it is in the same session. -/
theorem second_pass_idle {build : Options → Except RecipeError Recipe} (mem : build ∈ onePass)
    {options : Options} {r : Recipe} (built : build options = .ok r)
      (u : CompilationUnit) {s t : Session}
    (ready : s.Ready Chain.sketchOf?) {applied : Applied}
      (first : (r.apply u).run s = (.ok applied, t)) :
    ∃ again t', (r.apply applied.unit.value).run t = (.ok again, t') ∧
      again.unit = .same applied.unit.value ∧ t'.Ready Chain.sketchOf? := by
  simp only [onePass, List.mem_cons, List.not_mem_nil, or_false] at mem
  obtain rfl | rfl | rfl | rfl := mem
  · obtain ⟨p, rfl⟩ := emptyString_ok built
    exact (emptyStringCalm p).apply_again (fun _ => course_withId) ready first
  · obtain ⟨pattern, types, rfl⟩ := Conversion.recipe_ok built
    exact (Conversion.calm (by simp [Conversion.wording, wordings]) (by simp)).apply_again
      (fun _ => course_withId) ready first
  · obtain ⟨pattern, types, rfl⟩ := Conversion.recipe_ok built
    exact (Conversion.calm (by simp [Conversion.wording, wordings]) (by simp)).apply_again
      (fun _ => course_withId) ready first
  · obtain ⟨patterns, rfl⟩ := runners_ok built
    exact (runnersCalm patterns).apply_again (fun _ => course_withId) ready first

/-- Two classes of which one is inside the other. -/
def nestedRunners : String :=
  "import org.junit.runner.RunWith; import a.R; " ++
    "@RunWith(R.class) class A \x7b @RunWith(R.class) class B \x7b \x7d \x7d"

def runnerClasses : Classpath :=
  ⟨"", [{ fqn := runWith, kind := .annotationType }, { fqn := "a.R", kind := .clazz }],
    [(runWith, .leaf runWith .annotationType), ("a.R", .leaf "a.R" .clazz)]⟩

/-- The first pass drops annotations and imports, the second one nothing. -/
theorem second_pass_idle_nested :
    ∃ r u n applied t, Rule.runners ⟨[(obsoleteRunners, .text "a.R")]⟩ = .ok r ∧
      parseSource runnerClasses [] "A.java" nestedRunners 0 = .ok (u, n) ∧
      (r.apply u).run {} = (.ok applied, t) ∧
      u.imports.length = 2 ∧ applied.unit.value.imports = [] ∧
      ∃ again t', (r.apply applied.unit.value).run t = (.ok again, t') ∧
        again.unit = .same applied.unit.value ∧ t'.Ready Chain.sketchOf? := by
  have runs : (Rule.runners ⟨[(obsoleteRunners, .text "a.R")]⟩).toOption.any (fun r =>
      (parseSource runnerClasses [] "A.java" nestedRunners 0).toOption.any fun parsed =>
        ((r.apply parsed.1).run {}).1.toOption.any fun applied =>
          parsed.1.imports.length == 2 && applied.unit.value.imports.isEmpty) = true := by
    unfold parseSource parseUnit tokenize
    rw [Text.toList_closed nestedRunners (Text.written_append rfl rfl)]
    decide +kernel
  obtain ⟨r, built, runs⟩ := exists_of_any runs
  obtain ⟨⟨u, n⟩, parsed, runs⟩ := exists_of_any runs
  obtain ⟨applied, run, passes⟩ := exists_of_any runs
  simp only [Bool.and_eq_true, beq_iff_eq, List.isEmpty_iff] at passes
  have first : (r.apply u).run {} = (.ok applied, ((r.apply u).run {}).2) := Prod.ext run rfl
  have ready : Session.Ready Chain.sketchOf? {} := ⟨rfl, fun _ _ mem => by cases mem⟩
  exact ⟨r, u, n, applied, _, built, parsed, first, passes.1, passes.2,
    second_pass_idle (by simp [onePass]) built u ready first⟩

end Rule

end Retouch
