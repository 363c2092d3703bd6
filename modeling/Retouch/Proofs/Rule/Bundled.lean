import Retouch.Proofs.Recipe.Building
import Retouch.Proofs.Rule.MockitoImports
import Retouch.Proofs.Rule.SecondPass
import Retouch.Recipe.Registry

/-!
# The bundled recipes succeed

A recipe fails if a hook puts a node of another kind in place of an expression, if it asks for
the import of something that is no type, or if the session is cancelled. In a session that was
reached in any way and is not cancelled, none of this happens to a recipe that the registry makes
of the bundled rules (`build_succeeds`).

* The hooks of the rules keep an edit sound (`EditState.Sound`): nothing failed, the session holds
  the chains of the conversions under their codes (`Session.Ready`), and only members of classes are
  asked for.
* What the session holds is made by reading templates. The only thing that could go wrong is a
  template with the code of a chain that reads it as something else (`Template.Faithful`).
-/

namespace Retouch

open Rule (Chain)

/-! ## Recipes that succeed -/

/-- The recipe succeeds on every unit, and its session can be used further. -/
def Recipe.Succeeds (r : Recipe) : Prop :=
  ∀ (u : CompilationUnit) (s : Session), s.Ready Chain.sketchOf? →
    ∃ applied t, (r.apply u).run s = (.ok applied, t) ∧ t.Ready Chain.sketchOf?

/-- Nothing failed so far, and nothing that was asked for can fail. -/
structure EditState.Sound (s : EditState) : Prop where
  fine : s.failure = none
  ready : s.session.Ready Chain.sketchOf?
  members : ∀ a ∈ s.requests.adds, a.member.isSome = true

namespace EditState.Sound

variable {s : EditState}

theorem start {t : Session} (ready : t.Ready Chain.sketchOf?) : Sound { session := t } :=
  ⟨rfl, ready, List.forall_mem_nil _⟩

theorem removeAll (h : s.Sound) (names : List String) :
    Sound { s with requests := names.foldl ImportRequests.remove s.requests } :=
  ⟨h.fine, h.ready, by rw [adds_foldl_remove]; exact h.members⟩

/-- Behind a sound walk the requests can be met. -/
theorem settles (h : s.Sound) (out : Edited CompilationUnit) :
    ∃ edited t, Editor.settle out s = (.ok edited, t) ∧ t.Ready Chain.sketchOf? := by
  unfold Editor.settle
  split
  · exact ⟨out, _, rfl, h.ready⟩
  · obtain ⟨ordered, n, met⟩ := out.value.meetRequests_members h.members s.session.nextId
    rw [met]
    exact ⟨_, _, rfl, h.ready.running, h.ready.keeps⟩

end EditState.Sound

/-- A recipe without children succeeds if its walk stays sound. -/
theorem Recipe.succeeds_of_walk {d : RecipeDescriptor} {gate : Option Precondition}
    {editor : Editor}
    (walk : ∀ (u : CompilationUnit) (scope : EditScope) (s : Session), s.Ready Chain.sketchOf? →
      (u.editBy editor scope { session := s }).2.Sound) :
    Recipe.Succeeds ⟨d, gate, some editor, []⟩ := by
  intro u s ready
  rw [Recipe.apply_alone ready.running]
  split
  · have sound := walk u ⟨d.id, some u⟩ s ready
    rcases walked : u.editBy editor ⟨d.id, some u⟩ { session := s } with ⟨out, state⟩
    rw [walked] at sound
    obtain ⟨edited, t, settled, ready'⟩ := sound.settles out
    rw [Editor.run_eq walked sound.fine sound.ready.running, settled]
    exact ⟨_, _, rfl, ready'⟩
  · exact ⟨_, _, rfl, ready⟩

/-- An editor of calls and classes that keeps an edit sound and puts calls in place of calls. -/
structure Editor.Sound (r : Editor) : Prop where
  onUnit : ∀ u, r.onUnit u = pure ()
  onImport : ∀ i, r.onImport i = pure none
  onIdentifier : ∀ p n, r.onIdentifier p n = pure none
  onLiteral : ∀ n, r.onLiteral n = pure none
  onCall : ∀ m scope s, s.Sound → (r.onCall m scope s).2.Sound ∧
    ∀ e, (r.onCall m scope s).1 = some e → e.kind = "method invocation"
  onClass : ∀ c scope s, s.Sound → (r.onClass c scope s).2.Sound

namespace Editor.Sound

variable {r : Editor}

/-- The walk of such an editor. -/
def watch (sound : r.Sound) (scope : EditScope) : Watch r scope where
  seen _ := True
  ok x := x.KeepsKind
  inv _ s := s.Sound
  onIdentifier p n rs s h := by
    rw [sound.onIdentifier]
    exact h
  onLiteral n rs s h := by
    rw [sound.onLiteral]
    exact h
  onCall m rs s h := by
    obtain ⟨after, kind⟩ := sound.onCall m scope s h
    match r.onCall m scope s, after, kind with
    | (none, t), after, _ => exact after
    | (some e, t), after, kind => exact ⟨after, kind e rfl⟩
  onClass c rs s h := by
    have after := sound.onClass c scope s h
    match r.onClass c scope s, after with
    | (none, t), after => exact after
    | (some c', t), after => exact ⟨after, trivial⟩
  keepsKind _ _ h := h

theorem succeeds (sound : r.Sound) (d : RecipeDescriptor) (gate : Option Precondition) :
    Recipe.Succeeds ⟨d, gate, some r, []⟩ := by
  refine Recipe.succeeds_of_walk fun u scope s ready => ?_
  obtain ⟨rs, after, -⟩ :=
    (sound.watch scope).edits_unit u (fun _ _ _ _ => trivial) (sound.onUnit u)
    sound.onImport [] { session := s } (.start ready)
  exact after

end Editor.Sound

/-- Recipes that succeed, one behind the other. -/
theorem applyAll_succeeds {rs : List Recipe} (h : ∀ r ∈ rs, r.Succeeds)
    (edited : Edited CompilationUnit) {s : Session} (ready : s.Ready Chain.sketchOf?) :
    ∃ out t, (applyAll rs edited).run s = (.ok out, t) ∧ t.Ready Chain.sketchOf? := by
  induction rs generalizing edited s with
  | nil => exact ⟨edited, s, by rw [applyAll]; rfl, ready⟩
  | cons r rs ih =>
    obtain ⟨first, rest⟩ := List.forall_mem_cons.1 h
    obtain ⟨applied, t, run, ready'⟩ := first edited.value s ready
    obtain ⟨out, t', run', ready''⟩ := ih rest _ ready'
    refine ⟨out, t', ?_, ready''⟩
    rw [applyAll, run_bind, run]
    exact run'

theorem Recipe.succeeds_group {rs : List Recipe} (h : ∀ r ∈ rs, r.Succeeds) (d : RecipeDescriptor) :
    Recipe.Succeeds ⟨d, none, none, rs⟩ := by
  intro u s ready
  obtain ⟨out, t, run, ready'⟩ := applyAll_succeeds h (.same u) ready
  refine ⟨⟨out, if !rs.isEmpty then .done else .enabled⟩, t, ?_, ready'⟩
  rw [Recipe.apply]
  change (if s.cancelled = true then _ else _ : Running Applied) s = _
  rw [if_neg (by simp [ready.running])]
  change ((applyAll rs (.same u) >>= _) : Running Applied).run s = _
  rw [run_bind, run]
  rfl

/-! ## The rules -/

namespace Rule

theorem sound_emptyString (p : MethodPattern) : (emptyStringEditor p).Sound where
  onUnit _ := rfl
  onImport _ := rfl
  onIdentifier _ _ := rfl
  onLiteral _ := rfl
  onCall m scope s h := by
    have rebound (old : MethodType) : (rebindIsEmpty m old scope s).2.Sound := by
      unfold rebindIsEmpty
      cases m.select with
      | none => exact h
      | some select =>
        have ready := h.ready.classpath [assertjResource]
        dsimp only
        rw [Edit.withSession_bind]
        generalize s.session.classpath [assertjResource] = asked at ready ⊢
        obtain ⟨_ | cp, session⟩ := asked <;> exact ⟨h.fine, ready, h.members⟩
    change (isEmptyFor p m scope s).2.Sound ∧ ∀ e, (isEmptyFor p m scope s).1 = some e → _
    unfold isEmptyFor
    split
    · exact ⟨h, fun e made => by cases made⟩
    · cases m.method with
      | none => exact ⟨h, fun e made => by cases made; rfl⟩
      | some old => exact ⟨rebound old, fun e made => by cases made; rfl⟩
  onClass _ _ _ h := h

/-- A class is left alone, or annotations are taken out and removals are asked for. -/
theorem removeRunners_run (runners : List (String × AnnotationPattern)) (c : ClassDeclaration)
    (scope : EditScope) (s : EditState) :
    removeRunners runners c scope s =
      let (kept, owed, dropped) := dropRunners (runnerOf? runners) none c.annotations
      if dropped.isEmpty then (none, s)
      else (some (payOwed { c with annotations := kept } owed),
        { s with requests := (dropped ++ [runWith]).foldl ImportRequests.remove s.requests }) := by
  rw [removeRunners_eq]
  generalize dropRunners (runnerOf? runners) none c.annotations = found
  obtain ⟨kept, owed, dropped⟩ := found
  change (match dropped.forM Edit.removeImport scope s with
    | (_, t) => ((if dropped.isEmpty then pure none
      else do
        Edit.removeImport runWith
        return some (payOwed { c with annotations := kept } owed) :
        Edit (Option ClassDeclaration)) scope t)) = _
  rw [forM_removeImport]
  cases dropped with
  | nil => rfl
  | cons name names =>
    dsimp only
    rw [List.foldl_append]
    rfl

theorem sound_runners (runners : List (String × AnnotationPattern)) :
    (runnersEditor runners).Sound where
  onUnit _ := rfl
  onImport _ := rfl
  onIdentifier _ _ := rfl
  onLiteral _ := rfl
  onCall _ _ _ h := ⟨h, fun _ made => nomatch made⟩
  onClass c scope s h := by
    change (removeRunners runners c scope s).2.Sound
    rw [removeRunners_run]
    dsimp only
    split
    · exact h
    · exact h.removeAll _

/-- The rules that come with the library. -/
def bundled : List (Options → Except RecipeError Recipe) :=
  [emptyString, assertEquals, assertArrayEquals, Rule.runners, mockitoImports]

theorem succeeds_conversion {make : Options → Except RecipeError Recipe}
    {method exact close : String}
    (mem : (make, method, exact, close) ∈ conversions) {options : Options} {r : Recipe}
    (made : make options = .ok r) : r.Succeeds := by
  intro u s ready
  obtain ⟨-, -, -, -, applied, t, -, -, run, ready', -⟩ := apply_settled mem made u ready
  exact ⟨applied, t, run, ready'⟩

theorem succeeds_mockitoImports {options : Options} {r : Recipe}
    (made : mockitoImports options = .ok r) :
    r.Succeeds := by
  unfold mockitoImports at made
  obtain ⟨types, -, rest⟩ := exists_of_bind_ok made
  obtain rfl := Except.ok.inj rest
  refine Recipe.succeeds_of_walk fun u scope s ready => ?_
  rw [quiet_cleanImports.editBy_run u _ _ (by simp [ready.running])]
  change EditState.Sound (cleanImports u scope { session := s }).2
  rw [cleanImports_run u scope s ready.running]
  exact (EditState.Sound.start ready).removeAll _

theorem succeeds_bundled {make : Options → Except RecipeError Recipe} (mem : make ∈ bundled)
    {options : Options} {r : Recipe} (made : make options = .ok r) : r.Succeeds := by
  simp only [bundled, List.mem_cons, List.not_mem_nil, or_false] at mem
  obtain rfl | rfl | rfl | rfl | rfl := mem
  · obtain ⟨p, rfl⟩ := emptyString_ok made
    exact (sound_emptyString p).succeeds _ _
  · exact succeeds_conversion (List.mem_cons_self ..) made
  · exact succeeds_conversion (List.mem_cons_of_mem _ (List.mem_cons_self ..)) made
  · obtain ⟨patterns, rfl⟩ := runners_ok made
    exact (sound_runners patterns).succeeds _ _
  · exact succeeds_mockitoImports made

end Rule

/-! ## The registry -/

namespace Registry

/-- If the rules of a registry make recipes that succeed, then so does it. -/
theorem buildWith_succeeds {registry : Registry}
    (rules : ∀ e ∈ registry.entries, ∀ make, e.source = .rule make →
      ∀ options r, make options = .ok r → r.Succeeds)
    {options : Table (Table Value)} {active : List String} {inline : Table Value} {id : String}
    {r : Recipe} (built : registry.buildWith options active inline id = .ok r) : r.Succeeds := by
  -- Each group takes one entry out of those that are not under construction.
  induction bound : (registry.idle active).length using Nat.strongRecOn
    generalizing active inline id r with
  | _ bound' ih =>
    rw [buildWith] at built
    split at built
    · cases built
    next fresh =>
    split at built
    · cases built
    next entry found =>
    obtain ⟨valid, -, built⟩ := exists_of_bind_ok built
    split at built
    · next make source =>
      exact rules entry (List.mem_of_find?_eq_some found) make source valid r built
    · next list source =>
      obtain ⟨children, mapped, built⟩ := exists_of_bind_ok built
      cases built
      refine Recipe.succeeds_group (fun child mem => ?_) _
      obtain ⟨reference, -, made⟩ := exists_of_mem_mapM mapped child mem
      exact ih _ (bound ▸ idle_cons_length_lt found fresh) made rfl

theorem mem_bundled {e : RegistryEntry} (mem : e ∈ builtin.entries)
    {make : Options → Except RecipeError Recipe} (source : e.source = .rule make) :
    make ∈ Rule.bundled := by
  have added {registry : Registry} {e other : RegistryEntry}
    (mem : e ∈ (registry.add other).entries) :
      e = other ∨ e ∈ registry.entries := mem_insertEntry mem
  unfold builtin declare at mem
  simp only [List.foldl_cons, List.foldl_nil] at mem
  obtain rfl | mem := added mem
  · cases source
  obtain rfl | rfl | rfl | rfl | rfl | mem := (added mem).imp_right fun mem => (added mem).imp_right
    fun mem => (added mem).imp_right fun mem => (added mem).imp_right added
  all_goals first | cases source; simp [Rule.bundled] | cases mem

theorem build_bundled {options : Table (Table Value)} {id : String} {r : Recipe}
    (built : builtin.build options id = .ok r) : r.Succeeds :=
  buildWith_succeeds (fun _ mem _ source _ _ made =>
    Rule.succeeds_bundled (mem_bundled mem source) made)
    built

end Registry

/-! ## Sessions -/

/-- Code that begins, up to its first NUL, with the code of a chain is read as that chain, whatever
the template imports.

This leaves out templates that have the code of a chain and read it as something else, by imports of
their own or by what stands behind a NUL. The recipes use no templates but the chains, so such a
template could only come from elsewhere. If it has no NUL, then it is kept under another key than a
chain, as a key goes on with the imports: a chain never gets its fragment. `Session.Ready` looks at
the code alone and cannot tell the two apart. -/
def Template.Faithful (t : Template) : Prop :=
  ∀ code k, (Text.split '\x00' t.code).head? = some code → Chain.sketchOf? code = some k → t.Reads k

namespace Template

variable {t : Template} {args : List Expression}

/-- A key begins with the kind and the code. -/
theorem keyHead_eq (t : Template) (shape : Shape) (cp : Classpath) (args : List Expression) :
    keyHead (t.key shape cp args) = shape.name :: (Text.split '\x00' t.code).head?.toList := by
  have named : '\x00' ∉ shape.name.toList := by cases shape <;> decide
  obtain ⟨rest, parts⟩ : ∃ rest, (t.key shape cp args).toList =
      shape.name.toList ++ '\x00' :: (t.code.toList ++ '\x00' :: rest) := by
    simp [key]
  have some : Text.splitChars '\x00' t.code.toList ≠ [] := Text.splitChars_ne_nil _
  simp only [keyHead, Text.split, parts, Text.splitChars_append_sep, Text.splitChars_free named]
  cases first : Text.splitChars '\x00' t.code.toList with
  | nil => exact absurd first some
  | cons code codes => simp

theorem keeps_compile (faithful : t.Faithful) (shape : Shape) :
    Keeps (Session.Ready Chain.sketchOf?) (t.compile shape args) := by
  intro s ready
  refine ⟨?_, fun _ _ => trivial⟩
  rw [compile_run]
  split
  · exact ready
  have ready' := ready.classpath t.resources
  generalize s.classpath t.resources = asked at ready' ⊢
  obtain ⟨_ | cp, s'⟩ := asked
  · exact ready'
  dsimp only
  cases t.bind cp args with
  | error e => exact ready'
  | ok bindings =>
    dsimp only [readKept]
    split
    · exact ready'
    obtain ⟨-, n, left⟩ := read_eq t shape cp bindings ready'.running
    rw [left]
    refine ⟨ready'.running, fun key f mem code k head known => ?_⟩
    obtain old | ⟨rfl, new⟩ := Session.mem_set mem
    · exact ready'.keeps key f old code k head known
    · rw [keyHead_eq] at head
      obtain ⟨shapes, codes⟩ := List.cons.inj head
      obtain rfl : shape = .expression := by
        cases shape <;> first | rfl | exact absurd shapes (by decide)
      have reads := faithful code k (by simpa [Option.toList_eq_singleton_iff] using codes) known
      exact (reads.read cp bindings s').2 f new.symm

end Template

/-- The sessions that are reached from new ones, as long as they are not cancelled. -/
inductive Session.Reached : Session → Prop
  | fresh {s : Session} : s.Fresh → Reached s
  /-- A recipe of the registry is applied to a unit. -/
  | recipe {s : Session} {options : Table (Table Value)} {id : String} {r : Recipe}
      (u : CompilationUnit) : Reached s → Registry.builtin.build options id = .ok r →
      Reached ((r.apply u).run s).2
  /-- A template is used, with any arguments and at any place, and whether it succeeds or not. -/
  | template {s : Session} {a : Application} : Reached s → a.template.Faithful →
      Reached (a.apply.run s).2
  /-- Anything else: options, messages, diagnostics, class paths and ids. -/
  | other {s t : Session} : Reached s → t.cancelled = false → t.fragments = s.fragments → Reached t

/-- A session that was reached holds the chains under their codes. -/
theorem Session.Reached.ready {s : Session} (h : s.Reached) : s.Ready Chain.sketchOf? := by
  induction h with
  | fresh fresh => exact ⟨fresh.running, by simp [fresh.fragments]⟩
  | recipe u _ built ih =>
    obtain ⟨applied, t, run, ready⟩ := Registry.build_bundled built u _ ih
    rw [run]
    exact ready
  | template _ faithful ih =>
    exact (Template.keeps_applyAt (fun _ _ h => ⟨h.running, h.keeps⟩)
      (fun shape => Template.keeps_compile faithful shape) _ _ _ _ ih).1
  | other _ running same ih => exact ⟨running, fun key f mem => ih.keeps key f (same ▸ mem)⟩

/-- A recipe of the registry succeeds on every unit, in every session that was reached; so does it
in the session behind it. A chain that cannot be made leaves its call as it is, and asks for
nothing. -/
theorem build_succeeds {options : Table (Table Value)} {id : String} {r : Recipe}
    (built : Registry.builtin.build options id = .ok r) (u : CompilationUnit) {s : Session}
    (reached : s.Reached) :
    (∃ applied t, (r.apply u).run s = (.ok applied, t) ∧ t.Reached) ∧
      ∀ (c : Rule.Conversion) m p scope (st : EditState) e,
        ((p.fill (.methodInvocation m)).run st.session).1 = .error e →
          (c.replace m p scope st).1 = none ∧ (c.replace m p scope st).2.requests = st.requests ∧
            (c.replace m p scope st).2.failure = st.failure := by
  refine ⟨?_, fun c m p scope st e refused => ?_⟩
  · obtain ⟨applied, t, run, -⟩ := Registry.build_bundled built u s reached.ready
    have after := Session.Reached.recipe u reached built
    rw [run] at after
    exact ⟨applied, t, run, after⟩
  · rw [Rule.Conversion.replace_run]
    generalize (p.fill (.methodInvocation m)).run st.session = filled at refused ⊢
    obtain ⟨made, session⟩ := filled
    obtain rfl : made = .error e := refused
    exact ⟨rfl, rfl, rfl⟩

def asserting : String :=
  "import static org.junit.jupiter.api.Assertions.*; class A \x7b void t() \x7b " ++
    "assertEquals(1, 2); \x7d \x7d"

def chaining : String :=
  "import static org.assertj.core.api.Assertions.assertThat; class A \x7b void t() \x7b " ++
    "assertThat(2).isEqualTo(1); \x7d \x7d"

/-- The group of three rules converts a call. -/
theorem build_succeeds_group :
    ∃ r u n applied t, Registry.builtin.build [] "testing.assertj.JUnitToAssertj" = .ok r ∧
      parseSource Rule.fewAssertions [] "A.java" asserting 0 = .ok (u, n) ∧
      Rule.numbersSession.Reached ∧ (r.apply u).run Rule.numbersSession = (.ok applied, t) ∧
      applied.unit.value.print = chaining ∧ t.Reached ∧
        ∀ (c : Rule.Conversion) m p scope (st : EditState) e,
          ((p.fill (.methodInvocation m)).run st.session).1 = .error e →
            (c.replace m p scope st).1 = none ∧ (c.replace m p scope st).2.requests = st.requests ∧
              (c.replace m p scope st).2.failure = st.failure := by
  obtain ⟨r, u, n, applied, t, built, parsed, run, printed⟩ :=
    Rule.exists_of_run (Registry.builtin.build [] "testing.assertj.JUnitToAssertj")
      Rule.fewAssertions Rule.numbersSession asserting (fun _ u => u.print == chaining)
      (by
        unfold Registry.builtin
        rw [funext Rule.emptyString_eq, funext Rule.assertEquals_eq]
        unfold Rule.Conversion.convert Rule.Conversion.replace Rule.Plan.fill
          Template.replaceExpression Template.expression Template.compile Template.read
            Session.parse
          parseSource parseUnit tokenize
        simp only [Template.toList_source, Template.unitChars_written]
        rw [Text.toList_closed asserting (Text.written_append rfl rfl)]
        decide +kernel)
  have reached : Rule.numbersSession.Reached := .other (.fresh (s := {}) ⟨rfl, rfl, rfl⟩) rfl rfl
  obtain ⟨⟨applied', t', run', reached'⟩, refused⟩ := build_succeeds built u reached
  obtain ⟨same, rfl⟩ := Prod.mk.inj (run.symm.trans run')
  exact ⟨r, u, n, applied, t, built, parsed, reached, run, eq_of_beq printed, reached', refused⟩

end Retouch
