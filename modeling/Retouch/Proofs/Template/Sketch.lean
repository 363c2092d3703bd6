import Retouch.Proofs.Attribution.Layout
import Retouch.Proofs.Edit.Trace
import Retouch.Template.Apply

/-!
# Sketches of chains

A sketch is what an expression of calls and plain names looks like: its words and the trivia in
front of its nodes, without ids and meanings. No trivia stands anywhere else.

* Attribution keeps the sketch of an expression (`yields_fits`).
* Putting arguments in place of the parameters of an expression gives the text of its sketch with
  the arguments filled in (`substitution_fill`). No argument needs parentheses there, because a
  parameter is always an argument of a call.
-/

namespace Retouch

inductive Sketch where
  | word (leading text : String)
  /-- At most one receiver. -/
  | call (leading : String) (receiver : List Sketch) (method : String) (arguments : List Sketch)

namespace Sketch

def isCall : Sketch → Bool
  | word .. => false
  | call .. => true

/-- The trivia in front of the whole. -/
def leading : Sketch → String
  | word leading _ => leading
  | call leading .. => leading

@[simp]
theorem leading_word (leading text : String) : (word leading text).leading = leading := rfl

@[simp]
theorem leading_call (leading method : String) (receiver arguments : List Sketch) :
    (call leading receiver method arguments).leading = leading := rfl

mutual

/-- The expression looks like the sketch. -/
def fits : Sketch → Expression → Bool
  | word leading text, .identifier n => n.leading.text == leading && n.name == text
  | call leading receiver method arguments, .methodInvocation m =>
    m.leading.text == leading && receiver.all isCall && fitsAll receiver m.select.toList &&
      m.name.leading.text == "" && m.name.name == method && m.arguments.before.text == "" &&
      fitsAll arguments m.arguments.elements && m.arguments.close.text == ""
  | _, _ => false

def fitsAll : List Sketch → List (Padded Expression) → Bool
  | [], [] => true
  | k :: ks, ⟨e, after⟩ :: es => k.fits e && after.text == "" && fitsAll ks es
  | _, _ => false

end

/-- What a name stands for: the text of the argument if it is that of a parameter. -/
def fillName (args : List Expression) (text : String) : String :=
  match (Placeholder.parameterIndex? text).bind (args[·]?) with
  | some arg => (arg.withLeading .empty).print
  | none => text

mutual

/-- The text of the sketch with the arguments in place of the parameters, without the trivia in
front of it. -/
def fill (args : List Expression) : Sketch → String
  | word _ text => fillName args text
  | call _ receiver method arguments =>
    String.join ((fillAll args receiver).map (· ++ ".")) ++ method ++ "(" ++
      ",".intercalate (fillAll args arguments) ++ ")"

/-- The texts of sketches, each behind its trivia. -/
def fillAll (args : List Expression) : List Sketch → List String
  | [] => []
  | k :: ks => (k.leading ++ k.fill args) :: fillAll args ks

end

theorem fits_word {leading text : String} {e : Expression}
    (h : (word leading text).fits e = true) :
    ∃ n, e = .identifier n ∧ n.leading.text = leading ∧ n.name = text := by
  cases e <;> simp_all [fits]

theorem fits_call {leading method : String} {receiver arguments : List Sketch} {e : Expression}
    (h : (call leading receiver method arguments).fits e = true) :
    ∃ m, e = .methodInvocation m ∧ m.leading.text = leading ∧ (∀ k ∈ receiver, k.isCall = true) ∧
      fitsAll receiver m.select.toList = true ∧ m.name.leading.text = "" ∧ m.name.name = method ∧
      m.arguments.before.text = "" ∧ fitsAll arguments m.arguments.elements = true ∧
      m.arguments.close.text = "" := by
  cases e <;> simp_all [fits]

theorem fitsAll_nil {ps : List (Padded Expression)} (h : fitsAll [] ps = true) : ps = [] := by
  cases ps <;> simp_all [fitsAll]

theorem fitsAll_cons {k : Sketch} {ks : List Sketch} {ps : List (Padded Expression)}
    (h : fitsAll (k :: ks) ps = true) :
    ∃ e after es, ps = ⟨e, after⟩ :: es ∧ k.fits e = true ∧ after.text = "" ∧
      fitsAll ks es = true := by
  cases ps with
  | nil => simp [fitsAll] at h
  | cons p es => exact ⟨p.element, p.after, es, rfl, by simpa [fitsAll, and_assoc] using h⟩

/-! ## Attribution -/

open Attribution

theorem functional_of_fits {k : Sketch} {e : Expression} (h : k.fits e = true) :
    isFunctionalArgument e = false := by
  cases k with
  | word =>
    obtain ⟨n, rfl, -⟩ := fits_word h
    rfl
  | call =>
    obtain ⟨m, rfl, -⟩ := fits_call h
    rfl

theorem yields_functionalArguments_fits (env : Surroundings) (method : Option MethodType)
    (ks : List Sketch) (index : Nat) (es values : List (Padded Expression))
    (h : fitsAll ks es = true) (h' : fitsAll ks values = true) :
    Yields (functionalArguments env method index es values) (fitsAll ks · = true) := by
  induction ks generalizing index es values with
  | nil =>
    obtain rfl := fitsAll_nil h
    obtain rfl := fitsAll_nil h'
    exact .pure rfl
  | cons k ks ih =>
    obtain ⟨e, after, es, rfl, fits, -, rest⟩ := fitsAll_cons h
    obtain ⟨e', after', values, rfl, fits', none, rest'⟩ := fitsAll_cons h'
    rw [functionalArguments, functional_of_fits fits]
    refine (ih (index + 1) es values rest rest').bind fun values' kept => .pure ?_
    simp [fitsAll, fits', none, kept]

mutual

theorem yields_fits (env : Surroundings) (expected : Option JavaType) (k : Sketch) (e : Expression)
    (h : k.fits e = true) : Yields (expression env expected e) (k.fits · = true) := by
  match k with
  | .word leading text =>
    obtain ⟨n, rfl, lead, name⟩ := fits_word h
    exact .bind (P := fun n' => n'.leading = n.leading ∧ n'.name = n.name)
      (.get fun s => .pure ⟨rfl, rfl⟩) fun n' ⟨lead', name'⟩ => .pure (by simp [fits, *])
  | .call leading receiver method arguments =>
    obtain ⟨⟨id, lead, select, name, ⟨before, elements, close⟩, _⟩, rfl, h₁, h₂, h₃, h₄, h₅, h₆, h₇,
      h₈⟩ := fits_call h
    refine .bind (P := fun m => (Sketch.call leading receiver method arguments).fits
      (.methodInvocation m) = true) ?_ fun m fits => .pure fits
    refine (yields_receiver_fits env receiver select h₃).bind fun select' kept => ?_
    refine .get fun s => ?_
    refine (yields_values_fits env arguments elements h₇).bind fun values kept' => ?_
    refine (yields_functionalArguments_fits env _ arguments 0 elements values h₇ kept').bind
      fun elements' kept'' => .pure ?_
    simp_all [fits]

theorem yields_values_fits (env : Surroundings) (ks : List Sketch) (es : List (Padded Expression))
    (h : fitsAll ks es = true) : Yields (valueArguments env es) (fitsAll ks · = true) := by
  match ks with
  | [] =>
    obtain rfl := fitsAll_nil h
    exact .pure rfl
  | k :: ks =>
    obtain ⟨e, after, es, rfl, fits, none, rest⟩ := fitsAll_cons h
    rw [valueArguments, functional_of_fits fits]
    refine (yields_fits env .none k e fits).bind fun e' fits' => ?_
    refine (yields_values_fits env ks es rest).bind fun es' kept => .pure ?_
    simp [fitsAll, fits', none, kept]

theorem yields_receiver_fits (env : Surroundings) (ks : List Sketch)
    (select : Option (Padded Expression)) (h : fitsAll ks select.toList = true) :
    Yields (receiver env select) (fitsAll ks ·.toList = true) := by
  match ks, select with
  | [], none => exact .pure rfl
  | [k], some ⟨e, after⟩ =>
    obtain ⟨fits, none, -⟩ : k.fits e = true ∧ after.text = "" ∧ True := by
      simpa [fitsAll] using h
    refine (yields_fits env .none k e fits).bind fun e' fits' => .pure ?_
    simp [fitsAll, fits', none]
  | [], some _ | _ :: _, none | _ :: _ :: _, some _ => simp [fitsAll] at h

end

/-! ## Substitution -/

theorem separated_eq_intercalate {ps : List (Padded Expression)} {ts : List String}
    (h : shapes Expression.print ps = ts.map (·, Space.empty)) :
    separated Expression.print ps = ",".intercalate ts := by
  induction ts generalizing ps with
  | nil =>
    obtain rfl : ps = [] := List.map_eq_nil_iff.1 h
    simp [separated]
  | cons t ts ih =>
    obtain ⟨⟨e, after⟩, ps, rfl, head, tail⟩ := List.map_eq_cons_iff.1 h
    obtain ⟨rfl, rfl⟩ := Prod.mk.inj head
    have more := ih tail
    cases ps <;> cases ts <;> simp_all [separated, shapes, String.intercalate_cons_cons]

theorem print_call (m : MethodInvocation) :
    (Expression.methodInvocation m).print =
      m.leading.text ++ (layoutSelect m.select).print ++ m.name.leading.text ++ m.name.name ++
        m.arguments.before.text ++ "(" ++ separated Expression.print m.arguments.elements ++
        m.arguments.close.text ++ ")" := by
  obtain ⟨id, leading, select, name, ⟨before, elements, close⟩, _⟩ := m
  simp [Expression.print, Expression.layout, MethodInvocation.layout, layoutExprs,
    layoutExprList_eq,
    print_separate, Identifier.layout, String.append_assoc]
  rfl

/-- An identifier that needs no parentheses gives way to its argument. -/
theorem substitution_identifier {args : List Expression} {path : List Node} {n : Identifier}
    (safe : ∀ arg, needsParentheses path arg = false) :
    (substitution args).onIdentifier path n =
      pure (((Placeholder.parameterIndex? n.name).bind (args[·]?)).map
        (·.withLeading n.leading)) := by
  simp only [substitution, safe]
  cases (Placeholder.parameterIndex? n.name).bind (args[·]?) <;> rfl

/-- An argument of a call needs no parentheses. -/
theorem safe_argument {m : MethodInvocation} {p : Padded Expression} {up : List Node}
    (mem : p ∈ m.arguments.elements) (arg : Expression) :
    needsParentheses (.expression p.element :: .expression (.methodInvocation m) :: up) arg =
      false := by
  have inside : (Expression.methodInvocation m).hasArgument p.element.id = true :=
    List.any_eq_true.2 ⟨p.element, List.mem_map.2 ⟨p, mem, rfl⟩, by simp⟩
  simp [needsParentheses, inside]

/-- A part of an edit ends in a result with the property `P` and leaves the state as it is. -/
def Gives {α : Type} (scope : EditScope) (s : EditState) (p : Edit α) (P : α → Prop) : Prop :=
  ∃ a, p scope s = (a, s) ∧ P a

namespace Gives

variable {α β : Type} {scope : EditScope} {s : EditState} {p : Edit α} {k : α → Edit β}
  {P : α → Prop} {Q : β → Prop}

theorem pure {a : α} (h : P a) : Gives scope s (pure a) P := ⟨a, rfl, h⟩

theorem bind (hp : Gives scope s p P) (hk : ∀ a, P a → Gives scope s (k a) Q) :
    Gives scope s (p >>= k) Q := by
  obtain ⟨a, run, h⟩ := hp
  obtain ⟨b, run', h'⟩ := hk a h
  refine ⟨b, ?_, h'⟩
  change (let x := p scope s; k x.1 scope x.2) = _
  rw [run]
  exact run'

theorem enterExpression {r : Editor} {e : Expression} {up : List Node}
    {inside : List Node → Edit (Edited Expression)} {P : Edited Expression → Prop}
    (going : (s.failure.isSome || s.session.cancelled) = false) (free : r.keepsKinds = false)
    (h : Gives scope s (inside (.expression e :: up)) P) :
    Gives scope s (Edit.enterExpression r e up inside) P := by
  have opened : Gives scope s (inside (.expression e :: up) >>= Edit.keepKind r Expression.kind e)
      P := by
    refine h.bind fun out holds => ?_
    rw [keepKind_eq (by simp [free])]
    exact .pure holds
  obtain ⟨a, run, holds⟩ := opened
  refine ⟨a, ?_, holds⟩
  rw [Edit.enterExpression, enter_run, going]
  exact run

end Gives

/-- What the substitution makes of an expression with a sketch. -/
structure Filled (args : List Expression) (k : Sketch) (out : Edited Expression) : Prop where
  leading : out.value.leading.text = k.leading
  text : (out.value.withLeading .empty).print = k.fill args
  kind : k.isCall = true → out.value.kind = "method invocation"

theorem Filled.print {args : List Expression} {k : Sketch} {out : Edited Expression}
    (h : Filled args k out) : out.value.print = k.leading ++ k.fill args := by
  rw [← h.leading, ← h.text]
  exact out.value.print_eq_leading

variable {args : List Expression} {scope : EditScope} {s : EditState}

mutual

theorem substitution_fill (going : (s.failure.isSome || s.session.cancelled) = false) (k : Sketch)
    (e : Expression) (up : List Node) (h : k.fits e = true)
    (safe : k.isCall = true ∨ ∀ arg, needsParentheses (.expression e :: up) arg = false) :
    Gives scope s (Edit.enterExpression (substitution args) e up (e.editInside (substitution args)))
      (Filled args k) := by
  refine .enterExpression going rfl ?_
  match k with
  | .word leading text =>
    obtain ⟨n, rfl, lead, name⟩ := fits_word h
    rw [Expression.editInside, substitution_identifier (by simpa [isCall] using safe)]
    subst lead name
    refine .pure ⟨?_, ?_, by simp [isCall]⟩
    · cases (Placeholder.parameterIndex? n.name).bind (args[·]?) with
      | none => rfl
      | some arg => simp [Edited.replacedBy]
    · rw [fill, fillName]
      cases (Placeholder.parameterIndex? n.name).bind (args[·]?) with
      | none =>
        simp [Edited.replacedBy, Expression.withLeading, Expression.print, Expression.layout,
          Identifier.layout]
      | some arg => simp [Edited.replacedBy]
  | .call leading receiver method arguments =>
    obtain ⟨⟨id, lead, select, name, ⟨before, elements, close⟩, _⟩, rfl, h₁, h₂, h₃, h₄, h₅, h₆, h₇,
      h₈⟩ := fits_call h
    refine (substitution_receiver going receiver select _ h₃ h₂).bind fun select' filled => ?_
    refine .bind (P := fun out => out.value.before = before ∧ out.value.close = close ∧
      separated Expression.print out.value.elements = ",".intercalate (fillAll args arguments)) ?_
      fun arguments' ⟨opening, closing, filled'⟩ => .pure ⟨h₁, ?_, fun _ => rfl⟩
    · refine (substitution_fillAll going arguments elements _ h₇ fun p mem =>
        safe_argument mem).bind
        fun out shape => .pure ⟨rfl, rfl, separated_eq_intercalate shape⟩
    · subst opening closing h₁ h₅
      simp_all [Edited.replacedBy, Edited.map, Edited.rebuilt, Expression.withLeading, print_call,
        fill]

theorem substitution_fillAll (going : (s.failure.isSome || s.session.cancelled) = false)
    (ks : List Sketch) (es : List (Padded Expression)) (up : List Node) (h : fitsAll ks es = true)
    (safe : ∀ p ∈ es, ∀ arg, needsParentheses (.expression p.element :: up) arg = false) :
    Gives scope s (editExprList (substitution args) es up) fun out =>
      shapes Expression.print out.value = (fillAll args ks).map (·, Space.empty) := by
  match ks with
  | [] =>
    obtain rfl := fitsAll_nil h
    exact .pure rfl
  | k :: ks =>
    obtain ⟨e, after, es, rfl, fits, none, rest⟩ := fitsAll_cons h
    rw [List.forall_mem_cons] at safe
    refine (substitution_fill going k e up fits (.inr safe.1)).bind fun out filled => ?_
    refine (substitution_fillAll going ks es up rest safe.2).bind fun out' kept => .pure ?_
    obtain rfl : after = Space.empty := by
      cases after
      exact congrArg Space.mk none
    simp [fillAll, filled.print, kept]

theorem substitution_receiver (going : (s.failure.isSome || s.session.cancelled) = false)
    (ks : List Sketch) (select : Option (Padded Expression)) (up : List Node)
    (h : fitsAll ks select.toList = true) (calls : ∀ k ∈ ks, k.isCall = true) :
    Gives scope s (editSelect (substitution args) select up) fun out =>
      (layoutSelect out.value).print = String.join ((fillAll args ks).map (· ++ ".")) := by
  match ks, select with
  | [], none => exact .pure rfl
  | [k], some ⟨e, after⟩ =>
    obtain ⟨fits, none⟩ : k.fits e = true ∧ after.text = "" := by simpa [fitsAll] using h
    refine (substitution_fill going k e up fits (.inl (calls k (by simp)))).bind
      fun out filled => .pure ?_
    simp [Edited.map, layoutSelect, fillAll, ← filled.print, none, Expression.print]
  | [], some _ | _ :: _, none | _ :: _ :: _, some _ => simp [fitsAll] at h

end

end Sketch

end Retouch
