import Retouch.Proofs.Attribution.Layout
import Retouch.Proofs.Edit.Sweep
import Retouch.Proofs.Parser.Unit
import Retouch.Proofs.Rule.SecondPass

/-!
# What comparisons with the empty string leave alone

The rule cuts the text of a unit into stretches (`Stretch`): what stays byte for byte, and the ends
of some calls, each from its name to its closing parenthesis, which become `isEmpty()` with the
trivia in front of the parenthesis. An end that is cut out holds a literal and no call, so the
stretches lie one behind the other however the calls are nested.

The walk hands over every call (`Sweep`), so it is known of each call of the unit whether it was cut
out: all comparisons that the pattern fits by the declaring class were (`emptyString_frame`).
-/

namespace Retouch

/-! ## Patterns without wildcards -/

theorem matchWord_plain {pattern word : List Char} (plain : '*' ∉ pattern) :
    matchWord pattern word = true ↔ word = pattern := by
  unfold matchWord
  induction pattern generalizing word with
  | nil => simp [Wildcard.accepts_nil]
  | cons c pattern ih =>
    obtain ⟨other, plain⟩ : ¬ '*' = c ∧ '*' ∉ pattern := by simpa using plain
    have first : wordWildcard c = .item (· == c) := by simp [wordWildcard, Ne.symm other]
    rw [List.map_cons, first]
    cases word with
    | nil => simp [Wildcard.accepts_item_nil]
    | cons d word => simp [Wildcard.accepts_item, ih plain]

/-! ## Stretches -/

/-- The end of a call, from its name on, with a name and arguments. -/
def MethodInvocation.ending (m : MethodInvocation) (name : String)
    (arguments : Container Expression) :
    List Piece :=
  [Piece.enter m.name.id, .text name, .leave m.name.id] ++ (layoutExprs "(" ")" arguments).pieces ++
    [Piece.leave m.id]

/-- Trivia, the receiver and trivia again stand in front of the end of a call. -/
theorem MethodInvocation.pieces_layout (m : MethodInvocation) :
    m.layout.pieces = [Piece.text m.leading.text, .enter m.id] ++ (layoutSelect m.select).pieces ++
      [Piece.text m.name.leading.text] ++ m.ending m.name.name m.arguments := by
  obtain ⟨id, leading, select, name, arguments, method⟩ := m
  simp only [layout, node, Identifier.layout, Layout.pieces_append, ending, List.append_assoc]
  rfl

theorem MethodInvocation.print_ending (m : MethodInvocation) (name : String)
    (arguments : Container Expression) :
    Piece.print (m.ending name arguments) = name ++ (layoutExprs "(" ")" arguments).print := by
  simp [ending, Piece.print_eq_join, Layout.print, Piece.shown]

/-- A part of the text of a unit. -/
inductive Stretch where
  | kept (pieces : List Piece)
  /-- The end of a call, from its name on. -/
  | call (m : MethodInvocation)

namespace Stretch

/-- The stretch in front of the rule. -/
def before : Stretch → List Piece
  | kept ps => ps
  | call m => m.ending m.name.name m.arguments

/-- The stretch behind the rule. -/
def after : Stretch → List Piece
  | kept ps => ps
  | call m => m.ending "isEmpty" { Container.empty with before := m.arguments.before }

/-- The text in front of the rule. -/
def source : Stretch → String
  | kept ps => Piece.print ps
  | call m => m.name.name ++ (layoutExprs "(" ")" m.arguments).print

/-- The text behind the rule. -/
def result : Stretch → String
  | kept ps => Piece.print ps
  | call m => "isEmpty" ++ m.arguments.before.text ++ "()"

def call? : Stretch → Option MethodInvocation
  | kept _ => none
  | call m => some m

theorem print_before (x : Stretch) : Piece.print x.before = x.source := by
  cases x with
  | kept ps => rfl
  | call m => exact m.print_ending _ _

theorem print_after (x : Stretch) : Piece.print x.after = x.result := by
  cases x with
  | kept ps => rfl
  | call m =>
    rw [after, MethodInvocation.print_ending]
    simp [layoutExprs, layoutExprList, Container.empty, result, String.append_assoc]

theorem print_flatMap (f : Stretch → List Piece) (xs : List Stretch) :
    Piece.print (xs.flatMap f) = String.join (xs.map fun x => Piece.print (f x)) := by
  induction xs with
  | nil => rfl
  | cons x xs ih => rw [List.flatMap_cons, Piece.print_append, ih, List.map_cons, String.join_cons]

end Stretch

namespace Rule

/-! ## The calls in question -/

/-- The only argument is a literal of the empty string. -/
def TakesEmptyString (m : MethodInvocation) : Prop :=
  ∃ n after, m.arguments.elements = [⟨.literal n, after⟩] ∧ n.value = .string ""

/-- A call of some `isEqualTo` with the empty string. -/
def ComparesEmpty (m : MethodInvocation) : Prop :=
  TakesEmptyString m ∧ ∃ method, m.method = some method ∧ method.name = "isEqualTo"

/-- The comparison is one of texts: a class at or below `AbstractStringAssert` declares the method,
for a `String`. -/
def ComparesText (m : MethodInvocation) : Prop :=
  TakesEmptyString m ∧ ∃ method, m.method = some method ∧ method.name = "isEqualTo" ∧
    (∃ c ∈ method.declaring.ancestors, c.fqn = "org.assertj.core.api.AbstractStringAssert") ∧
    ∃ c, method.parameters = [.declared c] ∧ c.fqn = "java.lang.String"

theorem hasEmptyArgument_iff {m : MethodInvocation} :
    hasEmptyArgument m = true ↔ TakesEmptyString m := by
  obtain ⟨id, leading, select, name, ⟨before, elements, close⟩, method⟩ := m
  unfold hasEmptyArgument TakesEmptyString
  match elements with
  | [] | _ :: _ :: _ => simp [Container.toList]
  | [⟨e, after⟩] =>
    cases e with
    | literal n =>
      obtain ⟨id, leading, value, source, type⟩ := n
      cases value <;> simp [Container.toList]
    | _ => simp [Container.toList]

theorem comparesEmpty_of_matches {m : MethodInvocation} (empty : hasEmptyArgument m = true)
    (fits : comparisons.matches m = true) : ComparesEmpty m := by
  refine ⟨hasEmptyArgument_iff.1 empty, ?_⟩
  obtain ⟨method, bound, fits⟩ := (Option.any_eq_true ..).1 fits
  simp only [MethodPattern.matchesMethod, Bool.and_eq_true] at fits
  exact ⟨method, bound, String.toList_inj.1 ((matchWord_plain (by decide)).1 fits.1.1)⟩

theorem matches_of_comparesText {m : MethodInvocation} (h : ComparesText m) :
    hasEmptyArgument m = true ∧ comparisons.matches m = true := by
  obtain ⟨empty, method, bound, named, ⟨a, above, assert⟩, c, parameters, text⟩ := h
  refine ⟨hasEmptyArgument_iff.2 empty, (Option.any_eq_true ..).2 ⟨method, bound, ?_⟩⟩
  have name : matchWord comparisons.name.toList method.name.toList = true :=
    (matchWord_plain (by decide)).2 (by rw [named]; rfl)
  have declaring : comparisons.declaring.matchesClass true method.declaring = true :=
    List.any_eq_true.2 ⟨a, above, by simp [comparisons, TypePattern.matchesName, assert]⟩
  have arguments : ArgPattern.matchAll comparisons.arguments method.parameters = true := by
    simp [ArgPattern.matchAll, parameters, comparisons, ArgPattern.wildcard, Wildcard.accepts_item,
      Wildcard.accepts_nil, TypePattern.matchesType, TypePattern.matchesName,
        JavaType.declarationName,
      text]
  simp only [MethodPattern.matchesMethod, name, declaring, arguments, Bool.true_or, Bool.and_self]

/-! ## The walk -/

/-- The pieces `ps` cut into stretches, and `ps'` as what comes out of them. Of the calls in them,
`left` are the ones that are not cut out. -/
structure Cut (stretches : List Stretch) (left calls : List MethodInvocation)
    (ps ps' : List Piece) :
    Prop where
  before : ps = stretches.flatMap Stretch.before
  after : ps' = stretches.flatMap Stretch.after
  all : (stretches.filterMap Stretch.call? ++ left).Perm calls
  cut : ∀ m ∈ stretches.filterMap Stretch.call?, ComparesEmpty m
  spared : ∀ m ∈ left, ¬ComparesText m

/-- The rule makes `l'` of `l`, with the calls at the stops. -/
def Cuts (vs : List Visit) (l l' : Layout) : Prop :=
  ∃ stretches left, Cut stretches left (vs.filterMap Visit.invocation?) l.pieces l'.pieces

namespace Cuts

variable {vs vs' : List Visit} {v : Visit} {a a' b b' : Layout} {m : MethodInvocation}

theorem same (l : Layout) : Cuts [] l l :=
  ⟨[.kept l.pieces], [], by simp [Stretch.before], by simp [Stretch.after], .refl _,
    List.forall_mem_nil _, List.forall_mem_nil _⟩

theorem beside (h : Cuts vs a a') (h' : Cuts vs' b b') : Cuts (vs ++ vs') (a ++ b) (a' ++ b') := by
  obtain ⟨xs, left, before, after, all, cut, spared⟩ := h
  obtain ⟨xs', left', before', after', all', cut', spared'⟩ := h'
  refine ⟨xs ++ xs', left ++ left', ?_, ?_, ?_, ?_, List.forall_mem_append.2 ⟨spared, spared'⟩⟩
  · rw [Layout.pieces_append, before, before', List.flatMap_append]
  · rw [Layout.pieces_append, after, after', List.flatMap_append]
  · rw [List.filterMap_append, List.filterMap_append]
    refine List.Perm.trans ?_ (all.append all')
    simp only [List.append_assoc]
    exact (List.perm_append_comm_assoc ..).append_left _
  · rw [List.filterMap_append]
    exact List.forall_mem_append.2 ⟨cut, cut'⟩

theorem skip (other : v.invocation? = none) (h : Cuts vs a a') : Cuts (v :: vs) a a' := by
  unfold Cuts
  rwa [List.filterMap_cons_none other]

theorem widen (other : ∀ v ∈ vs', v.invocation? = none) (h : Cuts vs a a') :
    Cuts (vs ++ vs') a a' := by
  unfold Cuts
  rwa [List.filterMap_append, List.filterMap_eq_nil_iff.2 other, List.append_nil]

/-- A call that is left alone, around its parts. -/
theorem spare (here : v.invocation? = some m) (other : ¬ComparesText m) (h : Cuts vs a a') :
    Cuts (v :: vs) a a' := by
  obtain ⟨xs, left, before, after, all, cut, spared⟩ := h
  refine ⟨xs, m :: left, before, after, ?_, cut, List.forall_mem_cons.2 ⟨other, spared⟩⟩
  rw [List.filterMap_cons_some here]
  exact List.perm_middle.trans (all.cons m)

/-- The end of a call that is cut out, behind its receiver. -/
theorem ending (here : v.invocation? = some m) (compares : ComparesEmpty m)
    (front : List Piece) (h : Cuts vs a a') (gap : List Piece) {l l' : Layout}
    (before : l.pieces = front ++ a.pieces ++ gap ++ (Stretch.call m).before)
    (after : l'.pieces = front ++ a'.pieces ++ gap ++ (Stretch.call m).after) :
      Cuts (v :: vs) l l' := by
  obtain ⟨xs, left, old, new, all, cut, spared⟩ := h
  refine ⟨.kept front :: (xs ++ [Stretch.kept gap, .call m]), left, ?_, ?_, ?_, ?_, spared⟩
  · rw [before, old]
    simp [Stretch.before]
  · rw [after, new]
    simp [Stretch.after]
  · rw [List.filterMap_cons_some here]
    have ends :
        (Stretch.kept front :: (xs ++ [Stretch.kept gap, .call m])).filterMap Stretch.call? =
          xs.filterMap Stretch.call? ++ [m] := by
      rw [List.filterMap_cons_none rfl, List.filterMap_append]
      rfl
    rw [ends, List.append_assoc]
    exact List.perm_middle.trans (all.cons m)
  · intro m' mem
    rw [List.filterMap_cons_none rfl, List.filterMap_append] at mem
    obtain old | new := List.mem_append.1 mem
    · exact cut m' old
    · obtain rfl := List.mem_singleton.1 new
      exact compares

end Cuts

instance : Compatible Cuts := ⟨Cuts.same, Cuts.beside⟩

/-- A state in which the rule goes on and has asked for nothing. -/
structure Going (s : EditState) : Prop where
  fine : s.failure = none
  running : s.session.cancelled = false
  quiet : s.requests = {}

theorem Going.rebound {s : EditState} (h : Going s) (m : MethodInvocation) (old : Option MethodType)
    (scope : EditScope) : Going ((old.mapM (rebindIsEmpty m)) scope s).2 := by
  have rebind (old : MethodType) : Going (rebindIsEmpty m old scope s).2 := by
    unfold rebindIsEmpty
    cases m.select with
    | none => exact h
    | some select =>
      have running : (s.session.classpath [assertjResource]).2.cancelled = false := by
        simp only [Session.classpath]
        split <;> exact h.running
      dsimp only
      rw [Edit.withSession_bind]
      generalize s.session.classpath [assertjResource] = asked at running ⊢
      obtain ⟨_ | cp, session⟩ := asked <;> exact ⟨h.fine, running, h.quiet⟩
  cases old with
  | none => exact h
  | some old => exact rebind old

/-- The rule leaves a call alone, or it cuts its end out. -/
theorem isEmptyFor_cases {m : MethodInvocation} {scope : EditScope} {s t : EditState}
    {out : Option Expression} (good : Going s) (run : isEmptyFor comparisons m scope s = (out, t)) :
    (¬ComparesText m ∧ out = none ∧ t = s) ∨
      (ComparesEmpty m ∧ Going t ∧ ∃ method, out = some (.methodInvocation { m with
        name := { m.name with name := "isEmpty" }
        arguments := { Container.empty with before := m.arguments.before }
        method })) := by
  unfold isEmptyFor at run
  split at run
  · next idle =>
    cases run
    refine .inl ⟨fun text => ?_, rfl, rfl⟩
    obtain ⟨empty, matched⟩ := matches_of_comparesText text
    simp [empty, matched] at idle
  · next hit =>
    obtain ⟨empty, matched⟩ : hasEmptyArgument m = true ∧ comparisons.matches m = true :=
      by simpa using hit
    cases run
    exact .inr ⟨comparesEmpty_of_matches empty matched, good.rebound m m.method scope, _, rfl⟩

/-- The rule keeps the kinds of expressions, and literals as they are. -/
def KeepsKindAndText (e e' : Expression) : Prop := e'.kind = e.kind ∧ ∀ n, e = .literal n → e' = e

/-- The edit of a list of arguments keeps the one that is a literal. -/
theorem takesEmptyString_withParts {R : List Visit → Layout → Layout → Prop} {vs : List Visit}
    {m : MethodInvocation}
      (select : Option (Padded Expression)) {elements : List (Padded Expression)}
    (h : All (Swept R KeepsKindAndText) vs m.arguments.elements elements) :
    TakesEmptyString (m.withParts select elements) ↔ TakesEmptyString m := by
  obtain ⟨id, leading, old, name, ⟨before, es, close⟩, method⟩ := m
  unfold TakesEmptyString MethodInvocation.withParts
  dsimp only at h ⊢
  constructor
  · rintro ⟨n, after, rfl, value⟩
    cases h with
    | @cons e _ _ _ _ _ _ swept rest =>
      cases rest
      cases e with
      | literal n' =>
        cases swept.fits.2 n' rfl
        exact ⟨n, after, rfl, value⟩
      | _ => exact absurd swept.fits.1 (by simp [Expression.kind])
  · rintro ⟨n, after, rfl, value⟩
    cases h with
    | cons swept rest =>
      cases rest
      cases swept.fits.2 n rfl
      exact ⟨n, after, rfl, value⟩

/-- What the rule makes of the layouts of a unit. -/
def cutting : Sweep (emptyStringEditor comparisons) where
  good := Going
  rel := Cuts
  fits := KeepsKindAndText
  going h := by simp [h.fine, h.running]
  same := Cuts.same
  beside := Cuts.beside
  stop unasked _ := Cuts.skip (Visit.invocation?_eq_none unasked)
  keepsKind _ fits := fits.1
  rebuilt other kind := ⟨kind, fun n same => absurd same (other n)⟩
  onUnit _ := rfl
  onImport _ := rfl
  onLiteral _ := rfl
  literal _ := ⟨rfl, fun _ _ => rfl⟩
  onClass _ := rfl
  onIdentifier n p scope s good out t run := by
    cases run
    exact ⟨good, ⟨rfl, nofun⟩, Cuts.skip rfl (Cuts.same _)⟩
  onCall m select elements p scope s good selected swept out t run := by
    have argument := takesEmptyString_withParts select swept
    obtain ⟨id, leading, old, name, ⟨before, es, close⟩, method⟩ := m
    obtain ⟨other, rfl, rfl⟩ | ⟨compares, good', method, rfl⟩ := isEmptyFor_cases good run
    · refine ⟨good, ⟨rfl, nofun⟩,
        .spare rfl (fun ⟨empty, bound⟩ => other ⟨argument.2 empty, bound⟩) ?_⟩
      exact Compatible.node (.beside (Compatible.left selected) (Within.swept (.mk swept)))
    · refine ⟨good', ⟨rfl, nofun⟩, ?_⟩
      have compares : ComparesEmpty _ := ⟨argument.1 compares.1, compares.2⟩
      obtain ⟨n, after, rfl, -⟩ := compares.1
      -- The only argument is no call, so all calls inside stand in the receiver.
      have selected : Cuts (insideSelect old p ++ insideExprList [⟨.literal n, after⟩] p)
          (layoutSelect old) (layoutSelect select) :=
        .widen (List.forall_mem_singleton.2 rfl) selected
      exact .ending rfl compares _ selected _ (MethodInvocation.pieces_layout _)
        (MethodInvocation.pieces_layout _)

/-! ## The rule -/

/-- A closed gate means that the pattern fits no call. -/
theorem spared_of_closed {p : MethodPattern} {u : CompilationUnit} {s : Session}
    (running : s.cancelled = false) (closed : ¬(Precondition.usesMethod p).isOpen s u = true) :
    ∀ m ∈ (Node.unit u).invocations, p.matches m = false := by
  intro m mem
  have found : s.findMethods u p = [] := by simpa [Precondition.isOpen, running] using closed
  rw [Session.findMethods, Session.findCalls_eq running, List.filterMap_eq_nil_iff] at found
  obtain ⟨v, stop, here⟩ := List.mem_filterMap.1 mem
  simpa [here, Option.filter_eq_none_iff] using found v stop

/-- The rule succeeds on every unit, and what it does is to cut out the ends of calls. -/
theorem apply_emptyString {options : Options} {r : Recipe} (built : emptyString options = .ok r)
    (u : CompilationUnit) {s : Session} (running : s.cancelled = false) :
    ∃ applied t, (r.apply u).run s = (.ok applied, t) ∧
      Cuts u.visits u.layout applied.unit.value.layout := by
  rw [emptyString_eq] at built
  obtain rfl := Except.ok.inj built
  rw [Recipe.apply_leaf running]
  split
  · have ends := cutting.sweeps_unit u ⟨emptyStringDescriptor.id, some u⟩ { session := s }
      ⟨rfl, running, rfl⟩
    rcases walk : u.editBy (emptyStringEditor comparisons) ⟨emptyStringDescriptor.id, some u⟩
      { session := s } with ⟨out, state⟩
    rw [walk] at ends
    obtain ⟨going, classes, -, cuts⟩ := ends
    have settled : Editor.settle out state = (.ok out, state.session) :=
      if_pos (by rw [going.quiet]; rfl)
    rw [Editor.run_eq walk going.fine going.running, settled]
    exact ⟨_, _, rfl, cuts⟩
  · next closed =>
    refine ⟨_, _, rfl, [.kept u.layout.pieces], (Node.unit u).invocations, ?_⟩
    refine ⟨by simp [Stretch.before], by simp [Stretch.after, Edited.same], .refl _,
      List.forall_mem_nil _, ?_⟩
    intro m mem text
    have fits := (matches_of_comparesText text).2
    rw [spared_of_closed running closed m mem] at fits
    cases fits

/-- The rule replaces the ends of some comparisons with the empty string and keeps every other byte.
It takes all comparisons of texts. -/
theorem emptyString_frame {options : Options} {r : Recipe} (built : emptyString options = .ok r)
    {classpath : Classpath} {bindings : List (String × JavaType)} {path source : String}
    {nextId n : NodeId} {u : CompilationUnit}
    (parsed : parseSource classpath bindings path source nextId = .ok (u, n))
    {s : Session} (running : s.cancelled = false) :
    ∃ applied t, (r.apply u).run s = (.ok applied, t) ∧
      ∃ stretches left,
        Cut stretches left (Node.unit u).invocations u.layout.pieces
          applied.unit.value.layout.pieces ∧
        source = String.join (stretches.map Stretch.source) ∧
        applied.unit.value.print = String.join (stretches.map Stretch.result) := by
  obtain ⟨applied, t, run, stretches, left, cut⟩ := apply_emptyString built u running
  refine ⟨applied, t, run, stretches, left, cut, ?_, ?_⟩
  · obtain ⟨raw, read, rfl⟩ := exists_parseUnit parsed
    have text : (raw.attribute classpath bindings).print = source := by
      rw [CompilationUnit.print, layout_attribute]
      exact print_parseUnit read
    rw [← text, CompilationUnit.print, Layout.print, cut.before, Stretch.print_flatMap]
    simp only [Stretch.print_before]
  · rw [CompilationUnit.print, Layout.print, cut.after, Stretch.print_flatMap]
    simp only [Stretch.print_after]

/-- A comparison behind another one, inside the receiver of a call that is none. -/
def nestedComparisons : String :=
  "import org.assertj.core.api.AbstractStringAssert; class T \x7b void t(AbstractStringAssert a) \x7b " ++
    "a . isEqualTo /* b */ ( \"\" /* c */ ) // d\n .isEqualTo(\"\").isNotNull(); \x7d \x7d"

/-- Both comparisons are cut out, the trivia between them stay. -/
theorem emptyString_frame_nested :
    ∃ r u n applied t, emptyString ⟨[]⟩ = .ok r ∧
      parseSource fewMethods [] "T.java" nestedComparisons 0 = .ok (u, n) ∧
      fewSession.cancelled = false ∧ (r.apply u).run fewSession = (.ok applied, t) ∧
      applied.unit.value.print =
        "import org.assertj.core.api.AbstractStringAssert; class T \x7b void t(AbstractStringAssert a) \x7b " ++
          "a . isEmpty /* b */ () // d\n .isEmpty().isNotNull(); \x7d \x7d" ∧
      ∃ stretches left,
        Cut stretches left (Node.unit u).invocations u.layout.pieces
          applied.unit.value.layout.pieces ∧
        nestedComparisons = String.join (stretches.map Stretch.source) ∧
        applied.unit.value.print = String.join (stretches.map Stretch.result) := by
  have cuts : (emptyString ⟨[]⟩).toOption.any (fun r =>
      (parseSource fewMethods [] "T.java" nestedComparisons 0).toOption.any fun parsed =>
        ((r.apply parsed.1).run fewSession).1.toOption.any fun applied =>
          applied.unit.value.print ==
            "import org.assertj.core.api.AbstractStringAssert; class T \x7b " ++
              "void t(AbstractStringAssert a) \x7b " ++
              "a . isEmpty /* b */ () // d\n .isEmpty().isNotNull(); \x7d \x7d") = true := by
    rw [emptyString_eq]
    unfold parseSource parseUnit tokenize
    rw [Text.toList_closed nestedComparisons (Text.written_append rfl rfl)]
    decide +kernel
  obtain ⟨r, built, cuts⟩ := exists_of_any cuts
  obtain ⟨⟨u, n⟩, parsed, cuts⟩ := exists_of_any cuts
  obtain ⟨applied, run, text⟩ := exists_of_any cuts
  obtain ⟨applied', t, run', frame⟩ := emptyString_frame built parsed (s := fewSession) rfl
  obtain rfl : applied = applied' := by simpa [run'] using run.symm
  exact ⟨r, u, n, applied, t, built, parsed, rfl, run', by simpa using text, frame⟩

end Rule

end Retouch
