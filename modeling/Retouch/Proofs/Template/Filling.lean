import Retouch.Proofs.Recipe.Apply
import Retouch.Proofs.Template.Sketch
import Retouch.Proofs.Text.Closed
import Retouch.Proofs.Text.Split

/-!
# Templates with a sketch

A template whose code is read as an expression with a known sketch gives what filling in the
arguments makes of such an expression (`fills_replaceExpression`), as long as the fragments that the
session keeps have the sketches of their codes (`Session.Ready`). Filling a template keeps this
true.
-/

namespace Retouch

/-! ## Reading -/

namespace Sketch

variable (k : Sketch)

/-- The declarators are a single one, with a value that looks like the sketch. -/
def FitsVariables (vs : List (Padded NamedVariable)) : Prop :=
  ∃ v after before e, vs = [⟨v, after⟩] ∧ v.initializer = some ⟨before, e⟩ ∧ k.fits e = true

/-- The statements are a single declaration of that kind. -/
def FitsStatements (ss : List (Padded Statement)) : Prop :=
  ∃ d after, ss = [⟨.declaration d, after⟩] ∧ k.FitsVariables d.declarators

/-- The members are a single method with such a body. -/
def FitsMembers (ss : List (Padded Statement)) : Prop :=
  ∃ m b after, ss = [⟨.method m, after⟩] ∧ m.body = some b ∧ k.FitsStatements b.statements

/-- The classes are a single one with such a method. -/
def FitsClasses (cs : List ClassDeclaration) : Prop :=
  ∃ c, cs = [c] ∧ k.FitsMembers c.body.statements

/-- The test for `FitsClasses`. -/
def fitsUnit (u : CompilationUnit) : Bool :=
  match u.classes with
  | [⟨_, _, _, _, _, _, _, _, _, ⟨_, _, [⟨.method m, _⟩], _⟩, _⟩] =>
    match m.body with
    | some ⟨_, _, [⟨.declaration d, _⟩], _⟩ =>
      match d.declarators with
      | [⟨⟨_, _, _, some ⟨_, e⟩, _⟩, _⟩] => k.fits e
      | _ => false
    | _ => false
  | _ => false

variable {k}

theorem fitsClasses_of_fitsUnit {u : CompilationUnit} (h : k.fitsUnit u = true) :
    k.FitsClasses u.classes := by
  unfold fitsUnit at h
  split at h
  · next classes =>
    split at h
    · next body =>
      split at h
      · next declarators =>
        exact ⟨_, classes, _, _, _, rfl, body, _, _, rfl, _, _, _, _, declarators, rfl, h⟩
      · exact absurd h Bool.false_ne_true
    · exact absurd h Bool.false_ne_true
  · exact absurd h Bool.false_ne_true

theorem extract?_of_fits {u : CompilationUnit} (h : k.FitsClasses u.classes) :
    ∃ e, Template.extract? .expression u = some (.expression e) ∧ k.fits e = true := by
  obtain ⟨c, classes, m, b, after, members, body, d, after', statements, v, after'', before, e,
    declarators, initializer, fits⟩ := h
  refine ⟨e, ?_, fits⟩
  simp [Template.extract?, Template.methodBody?, classes, members, body, statements, declarators,
    initializer]

open Attribution

theorem yields_fitsVariables (env : Surroundings) (declares : Bool) (type : JavaType)
    (inferred : Bool) (vs : List (Padded NamedVariable)) (h : k.FitsVariables vs) :
    Yields (namedVariables env declares type inferred vs) k.FitsVariables := by
  obtain ⟨⟨id, leading, name, _, own⟩, after, before, e, rfl, rfl, fits⟩ := h
  refine .bind (P := fun i => ∃ before e, i = some ⟨before, e⟩ ∧ k.fits e = true) ?_
    fun value ⟨before, e, held, fits⟩ => ?_
  · exact (yields_fits env _ k e fits).bind fun e' fits' => .pure ⟨before, e', rfl, fits'⟩
  · subst held
    cases declares
    · exact .pure ⟨_, _, before, e, rfl, rfl, fits⟩
    · exact .modify (.pure ⟨_, _, before, e, rfl, rfl, fits⟩)

theorem yields_fitsStatements (env : Surroundings) (ss : List (Padded Statement))
    (h : k.FitsStatements ss) : Yields (statements env ss) k.FitsStatements := by
  obtain ⟨⟨id, leading, notes, modifiers, declaredType, varargs, list⟩, after, rfl, fits⟩ := h
  refine .bind (P := fun s => ∃ d, s = .declaration d ∧ k.FitsVariables d.declarators) ?_
    fun s ⟨d, held, fits⟩ => .pure ⟨d, after, by rw [held], fits⟩
  refine .bind (P := fun out => k.FitsVariables out.1.declarators) ?_
    fun out fits => .pure ⟨out.1, rfl, fits⟩
  refine .bind (P := fun _ => True) (fun _ => trivial) fun notes _ => .get fun s => ?_
  exact (yields_fitsVariables env _ _ _ list fits).bind fun list' fits => .pure fits

theorem yields_fitsMembers (env : Surroundings) (ss : List (Padded Statement))
    (h : k.FitsMembers ss) : Yields (memberList env ss) k.FitsMembers := by
  obtain ⟨⟨id, leading, notes, modifiers, returnType, name, ⟨before, elements, close⟩, throwing,
    body,
    method⟩, ⟨blockId, blockLeading, list, blockClose⟩, after, rfl, rfl, fits⟩ := h
  refine .bind (P := fun s => ∃ m b, s = .method m ∧ m.body = some b ∧
    k.FitsStatements b.statements)
    ?_ fun s ⟨m, b, held, body, fits⟩ => .pure ⟨m, b, after, by rw [held], body, fits⟩
  refine .bind (P := fun m => ∃ b, m.body = some b ∧ k.FitsStatements b.statements) ?_
    fun m ⟨b, body, fits⟩ => .pure ⟨m, b, rfl, body, fits⟩
  refine .bind (P := fun _ => True) (fun _ => trivial) fun notes _ => .get fun s => .withScope ?_
  refine .bind (P := fun _ => True) (fun _ => trivial) fun parameters _ => ?_
  refine .bind (P := fun body => ∃ b, body = some b ∧ k.FitsStatements b.statements) ?_
    fun body ⟨b, held, fits⟩ => .pure ⟨b, held, fits⟩
  exact .bind (.bind (.withScope (yields_fitsStatements _ list fits)) fun list' fits =>
    .pure (P := fun b : Block => k.FitsStatements b.statements) fits) fun b fits =>
      .pure ⟨b, rfl, fits⟩

theorem yields_fitsClasses (env : Surroundings) (cs : List ClassDeclaration)
    (h : k.FitsClasses cs) : Yields (classes env cs) k.FitsClasses := by
  obtain ⟨⟨id, leading, notes, modifiers, keywordLeading, keyword, name, superclass, interfaces,
    ⟨blockId, blockLeading, list, blockClose⟩, type⟩, rfl, fits⟩ := h
  refine .bind (P := fun c => k.FitsMembers c.body.statements) ?_ fun c fits => .pure ⟨c, rfl, fits⟩
  refine .bind (P := fun _ => True) (fun _ => trivial) fun c _ => ?_
  refine .bind (P := fun _ => True) (fun _ => trivial) fun notes _ => .get fun s => ?_
  exact .bind (.bind (yields_fitsMembers _ list fits) fun list' fits =>
    .pure (P := fun b : Block => k.FitsMembers b.statements) fits) fun b fits => .pure fits

theorem fitsClasses_attribute {u : CompilationUnit} (classpath : Classpath)
    (bindings : List (String × JavaType)) (h : k.FitsClasses u.classes) :
    k.FitsClasses (u.attribute classpath bindings).classes :=
  yields_fitsClasses _ u.classes h _

/-- A fragment is an expression that looks like the sketch. -/
def FitsFragment (k : Sketch) (f : Fragment) : Prop := ∃ e, f = .expression e ∧ k.fits e = true

end Sketch

/-! ## Keeping fragments -/

namespace Template

/-- The kind and the code that stand first in a key. -/
def keyHead (key : String) : List String := (Text.split '\x00' key).take 2

theorem keyHead_key {t : Template} (free : '\x00' ∉ t.code.toList) (shape : Shape) (cp : Classpath)
    (args : List Expression) : keyHead (t.key shape cp args) = [shape.name, t.code] := by
  have named : '\x00' ∉ shape.name.toList := by cases shape <;> decide
  obtain ⟨rest, parts⟩ : ∃ rest, (t.key shape cp args).toList =
      shape.name.toList ++ '\x00' :: (t.code.toList ++ '\x00' :: rest) := by
    simp [key]
  simp [keyHead, Text.split, parts, Text.splitChars_append_sep,
    Text.splitChars_free named, Text.splitChars_free free]

/-- The characters of the unit in which an expression is read. -/
def unitChars (imports staticImports : List String) (code : List Char) : List Char :=
  imports.flatMap (fun i => "import ".toList ++ i.toList ++ ";\n".toList) ++
    staticImports.flatMap (fun i => "import static ".toList ++ i.toList ++ ";\n".toList) ++
    "class __Template \x7b\nvoid __template() \x7b\nObject __expr = ".toList ++
    Text.trimEndChars (Text.trimStartChars code) ++ ";\n\x7d\n\x7d\n".toList

theorem toList_source (t : Template) :
    (t.source .expression).toList = unitChars t.imports t.staticImports t.parametrized.toList := by
  simp [source, unitChars, Text.trim, List.flatMap_map, String.toList_join]

def importWord : Text.Written "import " := .of rfl

def staticWord : Text.Written "import static " := .of rfl

def importEnd : Text.Written ";\n" := .of rfl

def opening : Text.Written "class __Template \x7b\nvoid __template() \x7b\nObject __expr = " :=
    .of rfl

def closing : Text.Written ";\n\x7d\n\x7d\n" := .of rfl

theorem unitChars_written (imports staticImports : List String) (code : List Char) :
    unitChars imports staticImports code =
      imports.flatMap (fun i => importWord.chars ++ i.toList ++ importEnd.chars) ++
        staticImports.flatMap (fun i => staticWord.chars ++ i.toList ++ importEnd.chars) ++
          opening.chars ++
        Text.trimEndChars (Text.trimStartChars code) ++ closing.chars := by
  conv_lhs => rw [unitChars, importWord.toList_eq, staticWord.toList_eq, importEnd.toList_eq,
    opening.toList_eq, closing.toList_eq]

/-- The unit around the code is read and holds an expression with the sketch. -/
def holds (k : Sketch) (imports staticImports : List String) (code : List Char) (n : NodeId) :
    Bool :=
  match Lexer.tokensFrom 0 (unitChars imports staticImports code) with
  | .error _ => false
  | .ok tokens =>
    match Parser.parseTokens "__Template.java" tokens n with
    | .error _ => false
    | .ok (u, _) => k.fitsUnit u

/-- The code of the template is read as an expression with the sketch. -/
structure Reads (t : Template) (k : Sketch) : Prop where
  free : '\x00' ∉ t.code.toList
  parses : ∀ n, ∃ u n', parseUnit "__Template.java" (t.source .expression) n = .ok (u, n') ∧
    k.FitsClasses u.classes

theorem Reads.of_holds {t : Template} {k : Sketch} (free : '\x00' ∉ t.code.toList)
    (h : ∀ n, holds k t.imports t.staticImports t.parametrized.toList n = true) : t.Reads k := by
  refine ⟨free, fun n => ?_⟩
  have held := h n
  rw [holds, ← toList_source] at held
  split at held
  · cases held
  · next tokens lexed =>
    split at held
    · cases held
    · next u n' parsed =>
      refine ⟨u, n', ?_, Sketch.fitsClasses_of_fitsUnit held⟩
      simp only [parseUnit, tokenize, lexed]
      exact congrArg (Except.mapError _) parsed

end Template

/-- The session is not cancelled, and the expressions that it keeps have the sketches of their
codes. -/
structure Session.Ready (sketchOf? : String → Option Sketch) (s : Session) : Prop where
  running : s.cancelled = false
  keeps : ∀ key f, (key, .ok f) ∈ s.fragments → ∀ code k,
    Template.keyHead key = [Shape.expression.name, code] → sketchOf? code = some k →
      k.FitsFragment f

namespace Template

variable {t : Template} {k : Sketch} {sketchOf? : String → Option Sketch} {s : Session}
  {args : List Expression}

theorem Reads.read (h : t.Reads k) (cp : Classpath) (bindings : List (String × JavaType))
    (s : Session) :
    (∃ n, (t.read .expression cp bindings s).2 = { s with nextId := n }) ∧
      ∀ f, (t.read .expression cp bindings s).1 = .ok f → k.FitsFragment f := by
  obtain ⟨u, n, parsed, fits⟩ := h.parses s.nextId
  obtain ⟨e, extracted, fits⟩ :=
    Sketch.extract?_of_fits (Sketch.fitsClasses_attribute cp bindings fits)
  have parse : s.parse cp bindings "__Template.java" (t.source .expression) =
      (.ok (u.attribute cp bindings), { s with nextId := n }) := by
    rw [Session.parse, parseSource, parsed]
    rfl
  rw [Template.read, parse]
  refine ⟨⟨n, rfl⟩, fun f made => ?_⟩
  simp only at made
  split at made
  · cases made
  · rw [extracted] at made
    cases made
    exact ⟨e, rfl, fits⟩

end Template

/-- From a session with the property `Inv`, the computation ends in one, and its results have the
property `P`. -/
def Fills {α : Type} (Inv : Session → Prop) (p : Templating α) (P : α → Prop) : Prop :=
  ∀ s : Session, Inv s → Inv (p.run s).2 ∧ ∀ a, (p.run s).1 = .ok a → P a

section Fills

variable {α β : Type} {Inv : Session → Prop} {p : Templating α} {q : α → Templating β}
  {P : α → Prop} {Q : β → Prop}

namespace Fills

theorem pure {a : α} (h : P a) : Fills Inv (pure a) P :=
  fun _ holds => ⟨holds, fun _ result => by cases result; exact h⟩

theorem lift {x : Except TemplateError α} (h : ∀ a, x = .ok a → P a) : Fills Inv (liftM x) P := by
  intro s holds
  cases x with
  | error e => exact ⟨holds, fun _ result => by cases result⟩
  | ok a => exact pure (h a rfl) s holds

theorem throw (e : TemplateError) : Fills Inv (throw e : Templating α) P :=
  fun _ holds => ⟨holds, fun _ result => by cases result⟩

theorem bind (hp : Fills Inv p P) (hq : ∀ a, P a → Fills Inv (q a) Q) :
    Fills Inv (p >>= q) Q := by
  intro s holds
  obtain ⟨holds', fits⟩ := hp s holds
  rw [run_bind]
  rcases run : p.run s with ⟨e | a, s'⟩
  · rw [run] at holds'
    exact ⟨holds', fun _ result => by cases result⟩
  · rw [run] at holds' fits
    exact hq a (fits a rfl) s' holds'

theorem get {k : Session → Templating β} (h : ∀ s, Inv s → Fills Inv (k s) Q) :
    Fills Inv (get >>= k) Q :=
  fun s holds => h s holds s holds

theorem set {s : Session} {k : PUnit → Templating β} (holds : Inv s) (h : Fills Inv (k ⟨⟩) Q) :
    Fills Inv (set s >>= k) Q :=
  fun _ _ => h s holds

end Fills

end Fills

namespace Session.Ready

variable {sketchOf? : String → Option Sketch} {s : Session}

theorem classpath (ready : s.Ready sketchOf?) (resources : List String) :
    (s.classpath resources).2.Ready sketchOf? := by
  simp only [Session.classpath]
  split
  · exact ready
  · exact ⟨ready.running, ready.keeps⟩

/-- What is kept for a template has its sketch. -/
theorem kept {t : Template} {k : Sketch} (ready : s.Ready sketchOf?) (reads : t.Reads k)
    (known : sketchOf? t.code = some k) {cp : Classpath} {args : List Expression} {f : Fragment}
    (found : s.fragments.get? (t.key .expression cp args) = some (.ok f)) : k.FitsFragment f := by
  obtain ⟨front, back, split, -⟩ := List.lookup_eq_some_iff.1 found
  have mem : (t.key .expression cp args, .ok f) ∈ s.fragments := by simp [split]
  exact ready.keeps _ f mem _ k (Template.keyHead_key reads.free ..) known

theorem keep {t : Template} {k : Sketch} (ready : s.Ready sketchOf?) (reads : t.Reads k)
    (known : sketchOf? t.code = some k) (cp : Classpath) (args : List Expression)
    {made : Except TemplateError Fragment} (fits : ∀ f, made = .ok f → k.FitsFragment f)
      (n : NodeId) :
    Session.Ready sketchOf?
      { s with nextId := n, fragments := s.fragments.set (t.key .expression cp args) made } := by
  refine ⟨ready.running, fun key f mem code k' head known' => ?_⟩
  rcases List.mem_append.1 mem with old | new
  · exact ready.keeps key f (List.mem_filter.1 old).1 code k' head known'
  · obtain ⟨rfl, same⟩ := Prod.mk.inj (List.mem_singleton.1 new)
    obtain rfl : t.code = code := by simpa [Template.keyHead_key reads.free] using head
    obtain rfl : k = k' := Option.some.inj (known.symm.trans known')
    exact fits f same.symm

end Session.Ready

namespace Template

variable {t : Template} {k : Sketch} {sketchOf? : String → Option Sketch}

theorem fills_compile (reads : t.Reads k) (known : sketchOf? t.code = some k)
    (args : List Expression) :
    Fills (Session.Ready sketchOf?) (t.compile .expression args) k.FitsFragment := by
  unfold compile
  split
  · exact .bind (.throw (P := fun _ => False) _) fun _ absurd => absurd.elim
  refine .get fun s ready => ?_
  have ready' := ready.classpath t.resources
  generalize s.classpath t.resources = found at ready' ⊢
  obtain ⟨made, s'⟩ := found
  refine .set ready' (.bind (.lift fun _ _ => trivial) fun cp _ => ?_)
  refine .bind (.lift fun _ _ => trivial) fun bindings _ => ?_
  dsimp only
  split
  · next made found =>
    exact .lift fun f eq => ready'.kept reads known (eq ▸ found)
  · obtain ⟨⟨n, left⟩, fits⟩ := reads.read cp bindings s'
    generalize t.read .expression cp bindings s' = read at left fits ⊢
    obtain ⟨made, s''⟩ := read
    subst left
    exact .set (ready'.keep reads known cp args fits n) (.lift fits)

/-- What filling in the arguments makes of an expression with the sketch, it makes of the template.
-/
theorem fills_replaceExpression (reads : t.Reads k) (known : sketchOf? t.code = some k)
    (target : Expression) {args : List Expression} {P : Edited Expression → Prop}
    (gives : ∀ e, k.fits e = true → ∀ s : Session, s.cancelled = false →
      Sketch.Gives ⟨"", none⟩ { session := s } (e.editBy (substitution args)) P) :
    Fills (Session.Ready sketchOf?) (t.replaceExpression target args) fun e =>
      ∃ out, P out ∧ e = out.value.withLeading target.leading := by
  refine .bind (P := fun e => ∃ out, P out ∧ e = out.value) ?_
    fun e ⟨out, filled, value⟩ => .pure ⟨out, filled, by rw [value]⟩
  refine (fills_compile reads known args).bind fun f ⟨e, shape, fits⟩ => ?_
  subst shape
  intro s ready
  obtain ⟨out, run, filled⟩ := gives e fits s ready.running
  have ended : (runEdit (e.editBy (substitution args))).run s =
      (.ok (e.editBy (substitution args) ⟨"", none⟩ { session := s }).1.value,
        (e.editBy (substitution args) ⟨"", none⟩ { session := s }).2.session) := rfl
  rw [ended, run]
  exact ⟨ready, fun a result => by cases result; exact ⟨out, filled, rfl⟩⟩

end Template

end Retouch
