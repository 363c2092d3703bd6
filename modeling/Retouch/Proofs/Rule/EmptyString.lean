import Retouch.Proofs.Outcome
import Retouch.Rule.EmptyString

/-!
# Comparisons with the empty string

A comparison that becomes `isEmpty()` gets the method that attribution finds for the new call, and a
statement that consists of it leaves all statements around it as they were (`statements_isEmpty`).
So the attributed block and the block that is rewritten first and then attributed are the same, with
any number of comparisons in it (`statements_emptied`).

This does not hold where the value of the call is used: `isEmpty()` returns nothing, but a call on
it keeps the method that it had before (`chained_unbound`).
-/

namespace Retouch

namespace Attribution

variable {env : Surroundings}

theorem statements_cons (a : Statement) (after : Space) (as : List (Padded Statement)) (s : State) :
    statements env (⟨a, after⟩ :: as) s =
      (⟨(statement env a s).1, after⟩ :: (statements env as (statement env a s).2).1,
        (statements env as (statement env a s).2).2) := by
  rw [statements]
  rfl

theorem statements_append (as bs : List (Padded Statement)) (s : State) :
    statements env (as ++ bs) s =
      ((statements env as s).1 ++ (statements env bs (statements env as s).2).1,
        (statements env bs (statements env as s).2).2) := by
  induction as generalizing s with
  | nil =>
    rw [List.nil_append, statements.eq_def env []]
    rfl
  | cons a as ih =>
    obtain ⟨a, after⟩ := a
    rw [List.cons_append, statements_cons, statements_cons, ih]
    rfl

/-- A literal as an argument. -/
def literalArgument (l : Padded Literal) : Padded Expression := ⟨.literal l.element, l.after⟩

/-- A literal as an argument, with its type. -/
def typedArgument (g : Names) (l : Padded Literal) : Padded Expression :=
  ⟨.literal { l.element with type := literalType g l.element.value }, l.after⟩

theorem valueArguments_literals (literals : List (Padded Literal)) (s : State) :
    valueArguments env (literals.map literalArgument) s =
      (literals.map (typedArgument s.names), s) := by
  induction literals with
  | nil =>
    rw [List.map_nil, valueArguments]
    rfl
  | cons l literals ih =>
    rw [List.map_cons, literalArgument, valueArguments]
    change (let rest := valueArguments env (literals.map literalArgument) s
      (typedArgument s.names l :: rest.1, rest.2)) = _
    rw [ih]
    rfl

theorem functionalArguments_literals (method : Option MethodType) (index : Nat)
    (literals : List (Padded Literal)) (values : List (Padded Expression)) (s : State) :
    functionalArguments env method index (literals.map literalArgument) values s = (values, s) := by
  induction literals generalizing index values with
  | nil =>
    rw [functionalArguments.eq_def]
    rfl
  | cons l literals ih =>
    cases values with
    | nil =>
      rw [functionalArguments.eq_def]
      rfl
    | cons value values =>
      rw [List.map_cons, literalArgument, functionalArguments]
      change (
        let rest :=
          functionalArguments env method (index + 1) (literals.map literalArgument) values s
        (value :: rest.1, rest.2)) = _
      rw [ih]

/-- A call on a receiver with literals as arguments: only the receiver changes what names mean. -/
theorem invocation_literals (env : Surroundings) (id : NodeId) (leading : Space) (e : Expression)
    (after : Space) (name : Identifier) (before : Space) (literals : List (Padded Literal))
    (close : Space)
    (old : Option MethodType) (s : State) :
    let e' := (expression env none e s).1
    let s' := (expression env none e s).2
    let found := candidatesOf env s'.names (some ⟨e', after⟩) name.name
    let arguments := literals.map (typedArgument s'.names)
    invocation env ⟨id, leading, some ⟨e, after⟩, name,
        ⟨before, literals.map literalArgument, close⟩, old⟩ s =
      (⟨id, leading, some ⟨e', after⟩, name, ⟨before, arguments, close⟩,
        (Overload.select? found.1 (arguments.map fun p => argShape p.element)).map
          (·.methodType found.2)⟩, s') := by
  intro e' s' found arguments
  rw [invocation, receiver]
  change (let values := valueArguments env (literals.map literalArgument) s'
    let method := (Overload.select? found.1 (values.1.map fun p => argShape p.element)).map
      (·.methodType found.2)
    let all := functionalArguments env method 0 (literals.map literalArgument) values.1 values.2
    ((⟨id, leading, some ⟨e', after⟩, name, ⟨before, all.1, close⟩, method⟩ : MethodInvocation),
      all.2)) = _
  rw [valueArguments_literals]
  dsimp only
  rw [functionalArguments_literals]

end Attribution

namespace Names

/-- The unit declares neither the class nor anything above it, and a class path tells of their
methods of the name what the one of the unit tells. -/
structure Shares (g : Names) (cp : Classpath) (owner : ClassType) (name : String) : Prop where
  foreign : ∀ a ∈ owner.ancestors, g.locals.lookup a.fqn = none
  methods : ∀ a ∈ owner.ancestors, g.classpath.declaredMethods a name = cp.declaredMethods a name

theorem Shares.methods_eq {g : Names} {cp : Classpath} {owner : ClassType} {name : String}
    (h : g.Shares cp owner name) :
    g.methods owner name false = owner.ancestors.flatMap fun a => cp.declaredMethods a name := by
  unfold Names.methods
  rw [List.filter_eq_self.2 (by simp)]
  rw [List.flatMap_def, List.flatMap_def]
  refine congrArg List.flatten (List.map_congr_left fun a mem => ?_)
  rw [h.foreign a mem, h.methods a mem]

end Names

namespace Rule

open Attribution

variable {env : Surroundings} {p : MethodPattern} {cp : Classpath}

/-- A comparison of what `receiver` gives with the empty string. -/
structure Comparison where
  id : NodeId
  leading : Space
  receiver : Expression
  dot : Space
  name : Identifier
  before : Space
  /-- The empty string. -/
  text : Padded Literal
  close : Space

namespace Comparison

/-- The call as it stands in the source. -/
def call (c : Comparison) : MethodInvocation :=
  ⟨c.id, c.leading, some ⟨c.receiver, c.dot⟩, c.name, ⟨c.before, [literalArgument c.text], c.close⟩,
    none⟩

/-- The call that takes its place, as it stands in the source. -/
def isEmpty (c : Comparison) : MethodInvocation :=
  ⟨c.id, c.leading, some ⟨c.receiver, c.dot⟩, { c.name with name := "isEmpty" },
    { Container.empty with before := c.before }, none⟩

/-- The receiver with its types, and what names mean behind it. -/
def attributed (c : Comparison) (env : Surroundings) (s : State) : Expression × State :=
  expression env none c.receiver s

/-- The rule is sure of what `isEmpty()` is: the receiver is a value whose class has that method,
and the class path of the rule knows it as the unit does. -/
structure Settled (c : Comparison) (env : Surroundings) (cp : Classpath) (s : State)
    (owner : ClassType) : Prop where
  value : (c.attributed env s).1.typeSymbol? = none
  typed : (c.attributed env s).1.type = .declared owner
  shares : (c.attributed env s).2.names.Shares cp owner "isEmpty"
  found : (cp.resolveMethod? (.declared owner) "isEmpty" []).isSome = true

end Comparison

/-- The old method under the new name and without parameters. -/
def renamed (old : MethodType) : MethodType :=
  { old with name := "isEmpty", parameters := [], varargs := false }

theorem rebindIsEmpty_run {m : MethodInvocation} (old : MethodType) (scope : EditScope)
    {t : EditState} (known : (t.session.classpath [assertjResource]).1 = .ok cp) :
    (rebindIsEmpty m old scope t).1 = (m.select.bind fun select =>
      cp.resolveMethod? select.element.type "isEmpty" []).getD (renamed old) := by
  unfold rebindIsEmpty
  cases m.select with
  | none => rfl
  | some select =>
    have asked (k : Except ClasspathError Classpath → Edit MethodType) :
        ((Edit.withSession (·.classpath [assertjResource])) >>= k) scope t =
          k (t.session.classpath [assertjResource]).1 scope
            { t with session := (t.session.classpath [assertjResource]).2 } := rfl
    dsimp only
    rw [asked, known]
    rfl

/-- What the rule makes of an attributed call. -/
theorem isEmptyFor_some {m : MethodInvocation} {scope : EditScope} {t : EditState} {e : Expression}
    (known : (t.session.classpath [assertjResource]).1 = .ok cp)
    (run : (isEmptyFor p m scope t).1 = some e) :
    ∃ old, e = .methodInvocation { m with
      name := { m.name with name := "isEmpty" }
      arguments := { Container.empty with before := m.arguments.before }
      method := some ((m.select.bind fun select =>
        cp.resolveMethod? select.element.type "isEmpty" []).getD (renamed old)) } := by
  unfold isEmptyFor at run
  by_cases skip : (!hasEmptyArgument m || !p.matches m) = true
  · rw [if_pos skip] at run
    cases run
  · rw [if_neg skip] at run
    have fits : p.matches m = true := by
      simp only [Bool.or_eq_true, Bool.not_eq_true', not_or, Bool.not_eq_false] at skip
      exact skip.2
    obtain ⟨old, bound, -⟩ := (Option.any_eq_true ..).1 fits
    refine ⟨old, ?_⟩
    rw [← rebindIsEmpty_run old scope known]
    rw [bound] at run
    cases run
    rfl

namespace Comparison

variable {c : Comparison} {s : State}

theorem call_run (c : Comparison) (env : Surroundings) (s : State) :
    ∃ elements method, invocation env c.call s =
      (⟨c.id, c.leading, some ⟨(c.attributed env s).1, c.dot⟩, c.name,
        ⟨c.before, elements, c.close⟩, method⟩, (c.attributed env s).2) :=
  ⟨_, _, invocation_literals env c.id c.leading c.receiver c.dot c.name c.before [c.text] c.close
    none s⟩

theorem isEmpty_run {owner : ClassType} (settled : c.Settled env cp s owner) :
    invocation env c.isEmpty s =
      (⟨c.id, c.leading, some ⟨(c.attributed env s).1, c.dot⟩, { c.name with name := "isEmpty" },
        { Container.empty with before := c.before },
        cp.resolveMethod? (.declared owner) "isEmpty" []⟩, (c.attributed env s).2) := by
  have chosen : candidatesOf env (c.attributed env s).2.names
      (some ⟨(c.attributed env s).1, c.dot⟩) "isEmpty" =
      (owner.ancestors.flatMap fun a => cp.declaredMethods a "isEmpty",
        some (.declared owner)) := by
    rw [← settled.shares.methods_eq, candidatesOf, settled.typed, settled.value]
  have bound : cp.resolveMethod? (.declared owner) "isEmpty" [] =
      (Overload.select? (owner.ancestors.flatMap fun a => cp.declaredMethods a "isEmpty") []).map
        (·.methodType (some (.declared owner))) := by
    rw [Option.map_eq_bind]
    rfl
  have run := invocation_literals env c.id c.leading c.receiver c.dot
    { c.name with name := "isEmpty" } c.before [] Space.empty none s
  rw [show expression env none c.receiver s = c.attributed env s from rfl] at run
  dsimp only at run
  rw [chosen] at run
  rw [bound]
  exact run

/-- Rewriting a comparison and attributing it can be done in either order. -/
theorem expression_isEmpty {owner : ClassType} (settled : c.Settled env cp s owner)
    {scope : EditScope} {t : EditState} (known : (t.session.classpath [assertjResource]).1 = .ok cp)
    {e : Expression} (run : (isEmptyFor p (invocation env c.call s).1 scope t).1 = some e) :
    expression env none (.methodInvocation c.isEmpty) s = (e, (invocation env c.call s).2) := by
  obtain ⟨old, rfl⟩ := isEmptyFor_some known run
  obtain ⟨elements, method, compared⟩ := c.call_run env s
  obtain ⟨method', found⟩ := Option.isSome_iff_exists.1 settled.found
  have emptied : expression env none (.methodInvocation c.isEmpty) s =
      (.methodInvocation (invocation env c.isEmpty s).1, (invocation env c.isEmpty s).2) := rfl
  rw [emptied, isEmpty_run settled, compared, found]
  simp [settled.typed, found]

end Comparison

/-- A statement that is a comparison is rewritten before or behind attribution, with the same block
in the end: the new call is bound to `isEmpty()`, and the statements in front of it and behind it
are the ones that stand around the comparison. -/
theorem statements_isEmpty (as bs : List (Padded Statement)) (c : Comparison) (after : Space)
    (s₀ : State) {owner : ClassType} (settled : c.Settled env cp (statements env as s₀).2 owner)
    {scope : EditScope} {t : EditState} (known : (t.session.classpath [assertjResource]).1 = .ok cp)
    {e : Expression}
    (run : (isEmptyFor p (invocation env c.call (statements env as s₀).2).1 scope t).1 = some e) :
    ∃ m bs' s', statements env (as ++ ⟨.expression (.methodInvocation c.call), after⟩ :: bs) s₀ =
        ((statements env as s₀).1 ++ ⟨.expression (.methodInvocation m), after⟩ :: bs', s') ∧
      (isEmptyFor p m scope t).1 = some e ∧
      statements env (as ++ ⟨.expression (.methodInvocation c.isEmpty), after⟩ :: bs) s₀ =
        ((statements env as s₀).1 ++ ⟨.expression e, after⟩ :: bs', s') := by
  have ofCall (m : MethodInvocation) (s : State) :
      statement env (.expression (.methodInvocation m)) s =
        (.expression (expression env none (.methodInvocation m) s).1,
          (expression env none (.methodInvocation m) s).2) := rfl
  have before (s : State) : expression env none (.methodInvocation c.call) s =
      (.methodInvocation (invocation env c.call s).1, (invocation env c.call s).2) := rfl
  let m := invocation env c.call (statements env as s₀).2
  refine ⟨m.1, (statements env bs m.2).1, (statements env bs m.2).2, ?_, run, ?_⟩
  · rw [statements_append, statements_cons, ofCall, before]
  · rw [statements_append, statements_cons, ofCall, Comparison.expression_isEmpty settled known run]

/-- In place of some comparisons of the first block stands `isEmpty()` in the second one, and the
rule is sure of each of them where it stands. -/
inductive Emptied (env : Surroundings) (cp : Classpath) :
    State → List (Padded Statement) → List (Padded Statement) → Prop
  | nil {s : State} : Emptied env cp s [] []
  | keep {s : State} {ss ss' : List (Padded Statement)} (a : Statement) (after : Space) :
      Emptied env cp (statement env a s).2 ss ss' →
        Emptied env cp s (⟨a, after⟩ :: ss) (⟨a, after⟩ :: ss')
  | replace {s : State} {ss ss' : List (Padded Statement)} {owner : ClassType} (c : Comparison)
      (after : Space) :
      c.Settled env cp s owner → Emptied env cp (invocation env c.call s).2 ss ss' →
        Emptied env cp s (⟨.expression (.methodInvocation c.call), after⟩ :: ss)
          (⟨.expression (.methodInvocation c.isEmpty), after⟩ :: ss')

/-- The same statement, or a call and what the rule makes of it, if it makes anything of it. -/
inductive Turned (p : MethodPattern) (cp : Classpath) : Padded Statement → Padded Statement → Prop
  | keep (a : Padded Statement) : Turned p cp a a
  | replace {m : MethodInvocation} {e : Expression} (after : Space) :
      (∀ scope (t : EditState) e', (t.session.classpath [assertjResource]).1 = .ok cp →
        (isEmptyFor p m scope t).1 = some e' → e' = e) →
      Turned p cp ⟨.expression (.methodInvocation m), after⟩ ⟨.expression e, after⟩

/-- Any number of comparisons in a block are rewritten before or behind attribution, and names mean
the same behind the block. -/
theorem statements_emptied {s : State} {ss ss' : List (Padded Statement)}
    (h : Emptied env cp s ss ss') :
    (statements env ss' s).2 = (statements env ss s).2 ∧
      List.Forall₂ (Turned p cp) (statements env ss s).1 (statements env ss' s).1 := by
  induction h with
  | nil => exact ⟨rfl, .nil⟩
  | keep a after _ ih =>
    rw [statements_cons, statements_cons]
    exact ⟨ih.1, .cons (.keep _) ih.2⟩
  | @replace s ss ss' owner c after settled _ ih =>
    have ofCall (m : MethodInvocation) : statement env (.expression (.methodInvocation m)) s =
        (.expression (.methodInvocation (invocation env m s).1), (invocation env m s).2) := rfl
    have behind : (invocation env c.isEmpty s).2 = (invocation env c.call s).2 := by
      obtain ⟨_, _, compared⟩ := c.call_run env s
      rw [c.isEmpty_run settled, compared]
    rw [statements_cons, statements_cons, ofCall, ofCall, behind]
    refine ⟨ih.1, .cons (.replace after fun scope t e' known run => ?_) ih.2⟩
    exact congrArg Prod.fst (Comparison.expression_isEmpty settled known run).symm

/-- The pattern of the rule. -/
def comparisons : MethodPattern where
  text := "org.assertj.core.api.AbstractStringAssert isEqualTo(java.lang.String)"
  declaring := ⟨"org.assertj.core.api.AbstractStringAssert",
    .exactly "org.assertj.core.api.AbstractStringAssert"⟩
  name := "isEqualTo"
  arguments := [.type ⟨"java.lang.String", .exactly "java.lang.String"⟩]

theorem ofText_comparisons : MethodPattern.ofText
    "org.assertj.core.api.AbstractStringAssert isEqualTo(java.lang.String)" = .ok comparisons := by
  have parsed : (MethodPattern.ofText
      "org.assertj.core.api.AbstractStringAssert isEqualTo(java.lang.String)").toOption =
      some comparisons := by
    decide +kernel
  rcases read : MethodPattern.ofText
      "org.assertj.core.api.AbstractStringAssert isEqualTo(java.lang.String)" with e | p
  · rw [read] at parsed
    cases parsed
  · rw [read] at parsed
    rw [Option.some.inj parsed]

/-- The editor of the rule. -/
def emptyStringEditor (p : MethodPattern) : Editor := { keepsKinds := true, onCall := isEmptyFor p }

theorem emptyString_eq (options : Options) :
    emptyString options = .ok ⟨emptyStringDescriptor, some (.usesMethod comparisons),
      some (emptyStringEditor comparisons), []⟩ := by
  rw [emptyString, ofText_comparisons]
  rfl

/-- A class with the methods of `AbstractStringAssert` that matter here. -/
def fewMethods : Classpath :=
  ⟨"", [{ fqn := "org.assertj.core.api.AbstractStringAssert", methods := [
      { name := "isEqualTo", params := ["java.lang.String"], returns := "SELF" },
      { name := "isEmpty" },
      { name := "isNotNull", returns := "SELF" }] }],
    [("org.assertj.core.api.AbstractStringAssert",
      .leaf "org.assertj.core.api.AbstractStringAssert" .clazz),
      ("java.lang.String", .leaf "java.lang.String" .clazz)]⟩

/-- A session whose AssertJ has this class only. -/
def fewSession : Session where
  classpaths := [(assertjResource, .ok fewMethods)]

/-- `a.isEqualTo("")` -/
def plainComparison : Comparison where
  id := 0
  leading := .empty
  receiver := .identifier ⟨1, .empty, "a", .unknown, none⟩
  dot := .empty
  name := ⟨2, .empty, "isEqualTo", .unknown, none⟩
  before := .empty
  text := ⟨⟨3, .empty, .string "", "\"\"", .unknown⟩, .empty⟩
  close := .empty

def stringAssert : ClassType := .leaf "org.assertj.core.api.AbstractStringAssert" .clazz

/-- A scope with a variable `a` that has the type. -/
def scopeOfA : State where
  names := { classpath := fewMethods, package := none, imports := {} }
  scopes := [[("a", .declared stringAssert)]]

theorem plainComparison_settled : plainComparison.Settled {} fewMethods scopeOfA stringAssert where
  value := rfl
  typed := rfl
  shares := ⟨fun _ _ => rfl, fun _ _ => rfl⟩
  found := by decide +kernel

/-- Two comparisons of a variable, of which the first is rewritten. -/
theorem statements_isEmpty_variable :
    let second : Padded Statement := ⟨.expression (.methodInvocation plainComparison.call), .empty⟩
    let t : EditState := { session := fewSession }
    ∃ p e, MethodPattern.ofText
        "org.assertj.core.api.AbstractStringAssert isEqualTo(java.lang.String)" = .ok p ∧
      (isEmptyFor p (invocation {} plainComparison.call scopeOfA).1 ⟨"", none⟩ t).1 = some e ∧
      ∃ m bs s, statements {}
          [⟨.expression (.methodInvocation plainComparison.call), .empty⟩, second]
          scopeOfA = (⟨.expression (.methodInvocation m), .empty⟩ :: bs, s) ∧
        statements {} [⟨.expression (.methodInvocation plainComparison.isEmpty), .empty⟩, second]
          scopeOfA = (⟨.expression e, .empty⟩ :: bs, s) := by
  intro second t
  have answers : (isEmptyFor comparisons (invocation {} plainComparison.call scopeOfA).1 ⟨"", none⟩
      t).1.isSome = true := by
    decide +kernel
  obtain ⟨e, run⟩ := Option.isSome_iff_exists.1 answers
  have nothing : statements {} [] scopeOfA = ([], scopeOfA) := rfl
  obtain ⟨m, bs, s, compared, -, emptied⟩ := statements_isEmpty [] [second] plainComparison .empty
    scopeOfA (by rw [nothing]; exact plainComparison_settled) (t := t) rfl
    (by rw [nothing]; exact run)
  rw [nothing] at compared emptied
  exact ⟨comparisons, e, ofText_comparisons, run, m, bs, s, compared, emptied⟩

/-- A call on what `isEmpty()` gives keeps its method, but it has none when the result is read. -/
theorem chained_unbound :
    let source := "import org.assertj.core.api.AbstractStringAssert; class T \x7b " ++
      "void t(AbstractStringAssert a) \x7b a.isEqualTo(\"\").isNotNull(); \x7d \x7d"
    ∃ r u n applied t u' n', emptyString ⟨[]⟩ = .ok r ∧
      parseSource fewMethods [] "T.java" source 0 = .ok (u, n) ∧
      (r.apply u).run fewSession = (.ok applied, t) ∧
      parseSource fewMethods [] "T.java" applied.unit.value.print n = .ok (u', n') ∧
      (Node.unit applied.unit.value).invocations.map (fun m => (m.name.name, m.method.isSome)) =
        [("isNotNull", true), ("isEmpty", true)] ∧
      (Node.unit u').invocations.map (fun m => (m.name.name, m.method.isSome)) =
        [("isNotNull", false), ("isEmpty", true)] := by
  intro source
  have lost : (emptyString ⟨[]⟩).toOption.any (fun r =>
      (parseSource fewMethods [] "T.java" source 0).toOption.any fun parsed =>
        ((r.apply parsed.1).run fewSession).1.toOption.any fun applied =>
          (parseSource fewMethods [] "T.java" applied.unit.value.print parsed.2).toOption.any
            fun again =>
              (Node.unit applied.unit.value).invocations.map
                (fun m => (m.name.name, m.method.isSome)) ==
                  [("isNotNull", true), ("isEmpty", true)] &&
              (Node.unit again.1).invocations.map (fun m => (m.name.name, m.method.isSome)) ==
                [("isNotNull", false), ("isEmpty", true)]) = true := by
    rw [emptyString_eq]
    unfold parseSource parseUnit tokenize
    rw [Text.toList_closed source (Text.written_append rfl rfl)]
    decide +kernel
  obtain ⟨r, built, lost⟩ := exists_of_any lost
  obtain ⟨⟨u, n⟩, parsed, lost⟩ := exists_of_any lost
  obtain ⟨applied, run, lost⟩ := exists_of_any lost
  obtain ⟨⟨u', n'⟩, again, lost⟩ := exists_of_any lost
  simp only [Bool.and_eq_true, beq_iff_eq] at lost
  exact ⟨r, u, n, applied, _, u', n', built, parsed, Prod.ext run rfl, again, lost⟩

end Rule

end Retouch
