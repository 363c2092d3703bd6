import Mathlib.Data.List.Infix
import Mathlib.Data.Option.Basic
import Retouch.Proofs.Edit.Sweep
import Retouch.Proofs.Outcome
import Retouch.Proofs.Template.Cache
import Retouch.Proofs.Template.Placing

/-!
# Arguments in the places of parameters

The text of a filled template is that of its fragment with some identifiers cut out and arguments in
their places (`Splice`, `fill_splices`). These identifiers are the stand-ins among the stops of a
walk. A placeholder whose stand-in is no stop is lost: it may stand in a literal, in the name of a
method or behind the part of the code that is the fragment. If there are no such stand-ins
(`Fragment.WellPlaced`), every argument is spliced once, in order, and no stand-in is left over.
-/

namespace Retouch

/-! ## Splices -/

/-- An argument that takes the place of a parameter, with what stands in front of it. -/
structure Splice where
  before : List Piece
  parameter : Identifier
  argument : Expression
  filled : Expression

/-- What is put in the place of a parameter: the argument behind the trivia of the parameter, maybe
in parentheses. -/
inductive TakesPlace (n : Identifier) (arg : Expression) : Expression → Prop
  | bare : TakesPlace n arg (arg.withLeading n.leading)
  | wrapped (id : NodeId) :
      TakesPlace n arg (.parentheses id n.leading (.tight (arg.withLeading .empty)))

namespace Splice

/-- The pieces of the fragment. -/
def source (x : Splice) : List Piece := x.before ++ x.parameter.layout.pieces

/-- The pieces of the filled template. -/
def result (x : Splice) : List Piece := x.before ++ x.filled.layout.pieces

/-- The argument is the one that the parameter stands for. -/
structure Fits (args : List Expression) (x : Splice) : Prop where
  stands : (Placeholder.parameterIndex? x.parameter.name).bind (args[·]?) = some x.argument
  takesPlace : TakesPlace x.parameter x.argument x.filled

end Splice

/-- The parameter that stands for one of the arguments. -/
def Visit.parameter? (args : List Expression) (v : Visit) : Option Identifier :=
  match v.node with
  | .expression (.identifier n) =>
    if ((Placeholder.parameterIndex? n.name).bind (args[·]?)).isSome then some n else none
  | _ => none

/-- The second pieces are the first ones with arguments in the places of all parameters among the
stops. -/
structure SplicedBy (args : List Expression) (vs : List Visit) (splices : List Splice)
    (last : List Piece) (ps ps' : List Piece) : Prop where
  source : ps = splices.flatMap Splice.source ++ last
  result : ps' = splices.flatMap Splice.result ++ last
  fits : ∀ x ∈ splices, x.Fits args
  stops : splices.map Splice.parameter = vs.filterMap (Visit.parameter? args)

/-- The second layout is the first one with arguments in the places of all parameters among the
stops. -/
def Spliced (args : List Expression) (vs : List Visit) (l l' : Layout) : Prop :=
  ∃ splices last, SplicedBy args vs splices last l.pieces l'.pieces

namespace Spliced

variable {args : List Expression} {vs ws : List Visit} {v : Visit} {a a' b b' l l' : Layout}

theorem same (l : Layout) : Spliced args [] l l :=
  ⟨[], l.pieces, rfl, rfl, List.forall_mem_nil _, rfl⟩

theorem beside (h : Spliced args vs a a') (h' : Spliced args ws b b') :
    Spliced args (vs ++ ws) (a ++ b) (a' ++ b') := by
  obtain ⟨xs, gap, h⟩ := h
  obtain ⟨ys, last, h'⟩ := h'
  -- What is behind the last splice on the left stands in front of the first one on the right.
  cases ys with
  | nil =>
    refine ⟨xs, gap ++ last, ?_, ?_, h.fits, ?_⟩
    · simp [h.source, h'.source]
    · simp [h.result, h'.result]
    · simp [h.stops, ← h'.stops]
  | cons y ys =>
    obtain ⟨first, rest⟩ := List.forall_mem_cons.1 h'.fits
    refine ⟨xs ++ { y with before := gap ++ y.before } :: ys, last, ?_, ?_, ?_, ?_⟩
    · simp [h.source, h'.source, Splice.source]
    · simp [h.result, h'.result, Splice.result]
    · exact List.forall_mem_append.2
        ⟨h.fits, List.forall_mem_cons.2 ⟨⟨first.stands, first.takesPlace⟩, rest⟩⟩
    · have stops := h'.stops
      simp_all [h.stops]

theorem skip (other : v.parameter? args = none) (h : Spliced args vs l l') :
    Spliced args (v :: vs) l l' := by
  obtain ⟨xs, last, h⟩ := h
  exact ⟨xs, last, h.source, h.result, h.fits, by rw [h.stops, List.filterMap_cons_none other]⟩

theorem parameter {n : Identifier} {arg e : Expression} (p : List Node)
    (stands : (Placeholder.parameterIndex? n.name).bind (args[·]?) = some arg)
    (takesPlace : TakesPlace n arg e) :
    Spliced args [⟨.expression (.identifier n), p⟩] n.layout e.layout := by
  refine ⟨[⟨[], n, arg, e⟩], [], ?_, ?_, ?_, ?_⟩
  · simp [Splice.source]
  · simp [Splice.result]
  · exact List.forall_mem_singleton.2 ⟨stands, takesPlace⟩
  · simp [Visit.parameter?, stands]

end Spliced

instance (args : List Expression) : Compatible (Spliced args) := ⟨Spliced.same, Spliced.beside⟩

theorem Visit.parameter?_eq_none {v : Visit} (args : List Expression)
    (unasked : v.node.isHanded = false) : v.parameter? args = none := by
  unfold parameter?
  split
  · next here =>
    rw [here] at unasked
    cases unasked
  · rfl

/-- What the substitution of parameters makes of layouts. -/
def splicing (args : List Expression) : Sweep (substitution args) where
  good s := (s.failure.isSome || s.session.cancelled) = false
  rel := Spliced args
  fits _ _ := True
  going good := good
  same := Spliced.same
  beside := Spliced.beside
  stop unasked _ := Spliced.skip (Visit.parameter?_eq_none args unasked)
  keepsKind keeps := nomatch keeps
  rebuilt _ _ := trivial
  onUnit _ := rfl
  onImport _ := rfl
  onLiteral _ := rfl
  literal _ := trivial
  onClass _ := rfl
  onIdentifier n p scope s good out t run := by
    simp only [substitution] at run
    cases stands : (Placeholder.parameterIndex? n.name).bind (args[·]?) with
    | none =>
      rw [stands] at run
      cases run
      exact ⟨good, trivial, .skip (by simp [Visit.parameter?, stands]) (.same _)⟩
    | some arg =>
      rw [stands] at run
      dsimp only at run
      by_cases loose : needsParentheses p arg = true
      · rw [if_pos loose] at run
        cases run
        exact ⟨good, trivial, .parameter p stands (.wrapped _)⟩
      · rw [if_neg loose] at run
        cases run
        exact ⟨good, trivial, .parameter p stands .bare⟩
  onCall m select elements p scope s good selected swept out t run := by
    cases run
    refine ⟨good, trivial, .skip rfl ?_⟩
    obtain ⟨id, leading, old, name, ⟨before, es, close⟩, method⟩ := m
    exact Compatible.node (.beside (Compatible.left selected) (Within.swept (.mk swept)))

/-! ## Fragments -/

namespace Fragment

def layout : Fragment → Layout
  | .expression e => e.layout
  | .statements list => .each Statement.layout list
  | .annotated a => a.layout

/-- The stops of walks through the trees. -/
def stops : Fragment → List Visit
  | .expression e => (Node.expression e).visits
  | .statements list => list.flatMap fun s => (Node.statement s).visits
  | .annotated a => (Node.annotationUse a).visits

end Fragment

/-- The text has the name of a stand-in in it. -/
def Piece.mentions : Piece → Bool
  | .text s => s.toList.tails.any fun rest => rest.inits.any fun part =>
    (Placeholder.parameterIndex? (String.ofList part)).isSome
  | .enter _ | .leave _ => false

theorem Piece.mentions_text {s : String} (h : (Placeholder.parameterIndex? s).isSome = true) :
    (Piece.text s).mentions = true := by
  have whole : (s.toList.inits.any fun part =>
      (Placeholder.parameterIndex? (String.ofList part)).isSome) = true :=
    List.any_eq_true.2 ⟨s.toList, (List.mem_inits _ _).2 List.prefix_rfl,
      by rwa [String.ofList_toList]⟩
  exact List.any_eq_true.2 ⟨s.toList, (List.mem_tails _ _).2 List.suffix_rfl, whole⟩

/-- The index of the stand-in that a stop is at. -/
def Visit.standIn? (v : Visit) : Option Nat :=
  match v.node with
  | .expression (.identifier n) => Placeholder.parameterIndex? n.name
  | _ => none

/-- The stand-ins of all placeholders are stops, each one once and in order, and no other text has
the name of a stand-in in it. -/
structure Fragment.WellPlaced (count : Nat) (f : Fragment) : Prop where
  visited : f.stops.filterMap Visit.standIn? = List.range count
  noOthers : f.layout.pieces.countP Piece.mentions = count

instance (count : Nat) (f : Fragment) : Decidable (f.WellPlaced count) :=
  decidable_of_iff (_ ∧ _) ⟨fun ⟨visited, noOthers⟩ => ⟨visited, noOthers⟩, fun h => ⟨h.1, h.2⟩⟩

/-- What stays of a fragment in front of the argument: the pieces before the parameter, and its
trivia. -/
def Splice.kept (x : Splice) : List Piece := x.before ++ [Piece.text x.parameter.leading.text]

/-- Each parameter is a mention besides those in what stays. -/
theorem length_add_kept_le {args : List Expression} {splices : List Splice}
    (fits : ∀ x ∈ splices, x.Fits args) (last : List Piece) :
    splices.length + (splices.flatMap Splice.kept ++ last).countP Piece.mentions ≤
      (splices.flatMap Splice.source ++ last).countP Piece.mentions := by
  induction splices with
  | nil => simp
  | cons x xs ih =>
    obtain ⟨first, rest⟩ := List.forall_mem_cons.1 fits
    have named : (Piece.text x.parameter.name).mentions = true := by
      apply Piece.mentions_text
      have stands := first.stands
      cases h : Placeholder.parameterIndex? x.parameter.name with
      | none => simp [h] at stands
      | some i => rfl
    have own : x.source.countP Piece.mentions = x.kept.countP Piece.mentions + 1 := by
      have shape : x.source = x.kept ++ [Piece.enter x.parameter.id, Piece.text x.parameter.name,
          Piece.leave x.parameter.id] := by
        simp only [Splice.source, Splice.kept, Identifier.layout, node, Layout.pieces_append,
          List.append_assoc]
        rfl
      have enter : (Piece.enter x.parameter.id).mentions = false := rfl
      have leave : (Piece.leave x.parameter.id).mentions = false := rfl
      rw [shape, List.countP_append]
      simp [named, enter, leave]
    simp only [List.flatMap_cons, List.append_assoc, List.countP_append, List.length_cons] at ih ⊢
    have := ih rest
    omega

/-- The stand-ins of the stops are the parameters, if there is an argument for each one. -/
theorem standIns_eq {args : List Expression} {vs : List Visit}
    (known : ∀ i ∈ vs.filterMap Visit.standIn?, i < args.length) :
    ((vs.filterMap (Visit.parameter? args)).map fun n => Placeholder.parameterIndex? n.name) =
      (vs.filterMap Visit.standIn?).map some := by
  induction vs with
  | nil => rfl
  | cons v vs ih =>
    cases standing : v.standIn? with
    | none =>
      have other : v.parameter? args = none := by
        unfold Visit.parameter?
        unfold Visit.standIn? at standing
        split <;> simp_all
      rw [List.filterMap_cons_none standing] at known ⊢
      rw [List.filterMap_cons_none other, ih known]
    | some i =>
      rw [List.filterMap_cons_some standing] at known ⊢
      obtain ⟨here, rest⟩ := List.forall_mem_cons.1 known
      obtain ⟨n, at_n, named⟩ : ∃ n, v.node = .expression (.identifier n) ∧
          Placeholder.parameterIndex? n.name = some i := by
        unfold Visit.standIn? at standing
        split at standing
        · next n at_n => exact ⟨n, at_n, standing⟩
        · cases standing
      have parameter : v.parameter? args = some n := by
        simp [Visit.parameter?, at_n, named, here]
      rw [List.filterMap_cons_some parameter, List.map_cons, List.map_cons, named, ih rest]

/-- In a well placed fragment every argument is spliced once, in order, and no stand-in stays. -/
theorem SplicedBy.arguments {args : List Expression} {f : Fragment} {splices : List Splice}
    {last ps' : List Piece} (h : SplicedBy args f.stops splices last f.layout.pieces ps')
    (placed : f.WellPlaced args.length) :
    splices.map Splice.argument = args ∧
      ∀ p ∈ splices.flatMap Splice.kept ++ last, p.mentions = false := by
  have indices : (splices.map fun x => Placeholder.parameterIndex? x.parameter.name) =
      (List.range args.length).map some := by
    have known : ∀ i ∈ f.stops.filterMap Visit.standIn?, i < args.length := by simp [placed.visited]
    have standing := standIns_eq known
    rw [placed.visited, ← h.stops, List.map_map] at standing
    exact standing
  have count : splices.length = args.length := by simpa using congrArg List.length indices
  constructor
  · have each : splices.map (fun x => some x.argument) =
        (splices.map fun x => Placeholder.parameterIndex? x.parameter.name).map
          fun i => i.bind (args[·]?) := by
      rw [List.map_map]
      exact List.map_congr_left fun x mem => (h.fits x mem).stands.symm
    rw [indices, List.map_map] at each
    refine List.map_injective_iff.2 (Option.some_injective _) ?_
    rw [List.map_map]
    refine each.trans (List.ext_getElem (by simp) fun i _ _ => ?_)
    simp_all
  · have counted := length_add_kept_le h.fits last
    rw [← h.source, placed.noOthers, count] at counted
    have none_left : (splices.flatMap Splice.kept ++ last).countP Piece.mentions = 0 := by omega
    simpa using List.countP_eq_zero.1 none_left

/-- The session is not cancelled. -/
def Session.Running (s : Session) : Prop := s.cancelled = false

section Fill

variable {args : List Expression} {t : Template}

/-- An edit of a tree under a relation, run on the session. -/
theorem fills_runEdit {α : Type} {edit : Edit (Edited α)} {P : α → Prop}
    (h : (splicing args).Ends edit fun out => P out.value) :
    Fills Session.Running (Template.runEdit edit) P := by
  intro s running
  obtain ⟨going, holds⟩ := h ⟨"", none⟩ { session := s } running
  refine ⟨(Bool.or_eq_false_iff.1 going).2, fun a result => ?_⟩
  cases result
  exact holds

theorem fills_expression (e : Expression) :
    Fills Session.Running (Template.runEdit (e.editBy (substitution args)))
      fun out => Spliced args (Node.expression e).visits e.layout out.layout :=
  fills_runEdit ((Sweep.Ends.expression ((splicing args).sweeps_expression e _)).mono
    fun _ swept => swept.layout)

theorem fills_statement (s : Statement) :
    Fills Session.Running (Template.runEdit (s.editBy (substitution args)))
      fun out => Spliced args (Node.statement s).visits s.layout out.layout :=
  fills_runEdit ((Sweep.Ends.statement ((splicing args).sweeps_statement s _)).mono
    fun _ swept => swept.1.1)

theorem fills_annotated (a : Annotation) :
    Fills Session.Running (Template.runEdit (a.editBy (substitution args)))
      fun out => Spliced args (Node.annotationUse a).visits a.layout out.layout :=
  fills_runEdit (Sweep.Ends.enter (((splicing args).sweeps_annotated a _).mono
    fun _ spliced => .skip rfl spliced))

theorem fills_statements (list : List Statement) :
    Fills Session.Running (list.mapM fun s => Template.runEdit (s.editBy (substitution args)))
      fun out => Spliced args (Fragment.statements list).stops (.each Statement.layout list)
        (.each Statement.layout out) := by
  induction list with
  | nil => exact .pure (.same _)
  | cons s list ih =>
    rw [List.mapM_cons]
    refine .bind (fills_statement s) fun s' first => .bind ih fun list' rest => .pure ?_
    exact first.beside rest

theorem running_of_compile {shape : Shape} {s s' : Session} {made : Except TemplateError Fragment}
    (running : s.Running) (compiled : (t.compile shape args).run s = (made, s')) : s'.Running := by
  have kept := (t.compile_again shape args running).1
  rw [compiled] at kept
  exact kept.running running

/-- A filled template is its fragment with arguments in the places of parameters. -/
theorem exists_compile_of_fill {shape : Shape} {s : Session} (running : s.Running)
    {filled : Fragment}
    (run : ((t.fill shape args).run s).1 = .ok filled) :
    ∃ f, ((t.compile shape args).run s).1 = .ok f ∧
      Spliced args f.stops f.layout filled.layout := by
  cases shape with
  | expression =>
    obtain ⟨out, s₁, made, run⟩ := exists_of_run_bind run
    cases run
    obtain ⟨f, s₂, compiled, filling⟩ := exists_of_run_bind (congrArg Prod.fst made)
    have running' := running_of_compile running compiled
    refine ⟨f, by rw [compiled], ?_⟩
    cases f with
    | expression e => exact (fills_expression e s₂ running').2 _ filling
    | statements | annotated => cases filling
  | statements =>
    obtain ⟨out, s₁, made, run⟩ := exists_of_run_bind run
    cases run
    obtain ⟨f, s₂, compiled, filling⟩ := exists_of_run_bind (congrArg Prod.fst made)
    have running' := running_of_compile running compiled
    refine ⟨f, by rw [compiled], ?_⟩
    cases f with
    | statements list => exact (fills_statements list s₂ running').2 _ filling
    | expression | annotated => cases filling
  | annotated =>
    obtain ⟨out, s₁, made, run⟩ := exists_of_run_bind run
    cases run
    obtain ⟨f, s₂, compiled, filling⟩ := exists_of_run_bind (congrArg Prod.fst made)
    have running' := running_of_compile running compiled
    refine ⟨f, by rw [compiled], ?_⟩
    cases f with
    | annotated a => exact (fills_annotated a s₂ running').2 _ filling
    | expression | statements => cases filling

end Fill

theorem length_of_compile {t : Template} {shape : Shape} {args : List Expression} {s : Session}
    {f : Fragment} (compiled : ((t.compile shape args).run s).1 = .ok f) :
    args.length = t.placeholders.length := by
  rw [Template.compile_run] at compiled
  split at compiled
  · cases compiled
  · next same => simpa using same

/-- A use of a template that succeeds splices arguments in the places of all parameters among the
stops of the compiled fragment, and leaves the rest of it as it is. In a well placed fragment this
is every argument once, in order, and no stand-in stays. -/
theorem applyAt_splices {t : Template} {args : List Expression} {path : List Node}
    {target out : Node}
    {place : Place} {s : Session} (running : s.Running)
    (run : ((t.applyAt path target place args).run s).1 = .ok out) :
    ∃ shape f filled splices last, ((t.compile shape args).run s).1 = .ok f ∧
      ((t.fill shape args).run s).1 = .ok filled ∧ filled.StandsIn out ∧
      SplicedBy args f.stops splices last f.layout.pieces filled.layout.pieces ∧
      (f.WellPlaced t.placeholders.length → splices.map Splice.argument = args ∧
        ∀ p ∈ splices.flatMap Splice.kept ++ last, p.mentions = false) := by
  obtain ⟨shape, filled, made, stands⟩ := exists_fill_of_applyAt run
  obtain ⟨f, compiled, splices, last, spliced⟩ := exists_compile_of_fill running made
  refine ⟨shape, f, filled, splices, last, compiled, made, stands, spliced, fun placed => ?_⟩
  exact spliced.arguments (length_of_compile compiled ▸ placed)

/-- A session that has a class path without types, to which templates without resources are read. -/
def untyped : Session := { classpaths := [("", .ok ⟨"", [], []⟩)] }

def nameOf (name : String) : Expression := .identifier ⟨0, .empty, name, .unknown, none⟩

/-- Both arguments are spliced. -/
theorem applyAt_splices_sum :
    ∃ t out f, Template.ofCode "#\x7bany()\x7d + #\x7bany()\x7d" [] [] [] = .ok t ∧
      ((t.applyAt [] (.expression (nameOf "x")) .replace [nameOf "a", nameOf "b"]).run untyped).1 =
        .ok out ∧ out.print = "a + b" ∧
      ((t.compile .expression [nameOf "a", nameOf "b"]).run untyped).1 = .ok f ∧ f.WellPlaced 2 ∧
      ∃ shape f filled splices last,
        ((t.compile shape [nameOf "a", nameOf "b"]).run untyped).1 = .ok f ∧
        ((t.fill shape [nameOf "a", nameOf "b"]).run untyped).1 = .ok filled ∧ filled.StandsIn out ∧
        SplicedBy [nameOf "a", nameOf "b"] f.stops splices last f.layout.pieces
          filled.layout.pieces ∧
        (f.WellPlaced t.placeholders.length →
          splices.map Splice.argument = [nameOf "a", nameOf "b"] ∧
          ∀ p ∈ splices.flatMap Splice.kept ++ last, p.mentions = false) := by
  let t : Template :=
    ⟨"#\x7bany()\x7d + #\x7bany()\x7d", "__p0__ + __p1__", [.any, .any], [], [], []⟩
  have computed : (((t.applyAt [] (.expression (nameOf "x")) .replace
      [nameOf "a", nameOf "b"]).run untyped).1.toOption.any fun out => out.print == "a + b" &&
        ((t.compile .expression [nameOf "a", nameOf "b"]).run untyped).1.toOption.any fun f =>
          decide (f.WellPlaced 2)) = true := by
    decide +kernel
  obtain ⟨out, run, computed⟩ := exists_of_any computed
  obtain ⟨printed, computed⟩ := Bool.and_eq_true_iff.1 computed
  obtain ⟨f, compiled, placed⟩ := exists_of_any computed
  exact ⟨t, out, f, Template.ofCode_of_parametrize [] [] [] (by decide +kernel), run,
    beq_iff_eq.1 printed, compiled, of_decide_eq_true placed, applyAt_splices rfl run⟩

/-- A placeholder in a literal takes an argument, which is lost, and its stand-in stays. -/
theorem applyAt_loses :
    ∃ t out, Template.ofCode "\"#\x7bany()\x7d\"" [] [] [] = .ok t ∧ t.placeholders.length = 1 ∧
      ((t.applyAt [] (.expression (nameOf "x")) .replace [nameOf "a"]).run untyped).1 = .ok out ∧
      out.print = "\"__p0__\"" := by
  let t : Template := ⟨"\"#\x7bany()\x7d\"", "\"__p0__\"", [.any], [], [], []⟩
  have computed : (((t.applyAt [] (.expression (nameOf "x")) .replace
      [nameOf "a"]).run untyped).1.toOption.any fun out => out.print == "\"__p0__\"") = true := by
    decide +kernel
  obtain ⟨out, run, printed⟩ := exists_of_any computed
  exact ⟨t, out, Template.ofCode_of_parametrize [] [] [] (by decide +kernel), rfl, run,
    beq_iff_eq.1 printed⟩

end Retouch
