import Retouch.Proofs.Classpath.Overload
import Retouch.Tree.Walk

/-!
# Calls and the methods they are bound to

A call is bound (`MethodInvocation.Bound`) to a method of its name that takes its arguments, and it
is left without a method exactly when none of the methods that can be meant is applicable. Which
methods those are depends on the types that are known (`Attribution.Reached`) and on the classes
around the call (`enclosing`).
-/

namespace Retouch

namespace Node

/-- The class whose body stands directly below the node. A class without a type that is known is
`object`. -/
def bodyClass? (object : ClassType) : Node → Option ClassType
  | classDeclaration c | statement (.classDeclaration c) => c.type
  | expression (.newClass _ _ _ _ _ made) => some (made.class?.getD object)
  | _ => none

end Node

/-- The classes around a stop, innermost first, from the path down to it. -/
def enclosing (object : ClassType) : List Node → List ClassType
  | [] => []
  | .block _ :: path => (path.head?.bind (·.bodyClass? object)).toList ++ enclosing object path
  | _ :: path => enclosing object path

/-- An argument can be passed for the parameter. Lambdas and references have the type of the
parameter, which is a functional interface. -/
def JavaType.Takes (param : JavaType) (e : Expression) : Prop :=
  if Attribution.isFunctionalArgument e then param.isFunctional = true ∧ e.type = param
  else e.type.isAssignableTo param = true

namespace MethodInvocation

/-- The methods that the call can mean where the names mean `g` and these classes are around it, and
its receiver. -/
def meant (g : Names) (classes : List ClassType) (m : MethodInvocation) :
    List Candidate × Option JavaType :=
  Attribution.candidatesOf { classes } g m.select m.name.name

/-- What attribution found is right. -/
structure Bound (g : Names) (classes : List ClassType) (m : MethodInvocation) : Prop where
  /-- The method is among those that can be meant, and it takes the arguments. -/
  sound : ∀ method, m.method = some method →
    method.name = m.name.name ∧
      (∃ c, Overload.Visible (m.meant g classes).1 c ∧
        method = c.methodType (m.meant g classes).2) ∧
      ∃ ps, Spreads method.parameters method.varargs m.arguments.toList.length ps ∧
        List.Forall₂ JavaType.Takes ps m.arguments.toList
  /-- Without a method, no method that can be meant is applicable. -/
  complete : m.method = none ↔ ∀ c, Overload.Visible (m.meant g classes).1 c →
    ∀ phase, Overload.applicable phase (m.arguments.toList.map Attribution.argShape) c = false

end MethodInvocation

namespace Names

theorem name_of_mem_methods {g : Names} {owner : ClassType} {name : String} {staticOnly : Bool}
    {c : Candidate} (h : c ∈ g.methods owner name staticOnly) : c.name = name := by
  obtain ⟨a, -, mem⟩ := List.mem_flatMap.1 (List.mem_filter.1 h).1
  split at mem
  · simpa using (List.mem_filter.1 mem).2
  · unfold Classpath.declaredMethods at mem
    split at mem
    · cases mem
    · obtain ⟨m, held, rfl⟩ := List.mem_map.1 mem
      simpa using (List.mem_filter.1 held).2

theorem name_of_mem_unqualified {g : Names} {classes : List ClassType} {name : String}
    {c : Candidate} (h : c ∈ (g.unqualified classes name).1) : c.name = name := by
  unfold unqualified at h
  split at h
  · exact name_of_mem_methods h
  · dsimp only at h
    split at h
    · obtain ⟨owner, -, mem⟩ := List.mem_flatMap.1 h
      exact name_of_mem_methods mem
    · obtain ⟨owner, -, mem⟩ := List.mem_flatMap.1 h
      exact name_of_mem_methods mem

end Names

namespace Attribution

theorem name_of_mem_candidatesOf {env : Surroundings} {g : Names}
    {select : Option (Padded Expression)}
    {name : String} {c : Candidate} (h : c ∈ (candidatesOf env g select name).1) :
      c.name = name := by
  unfold candidatesOf at h
  split at h
  · exact Names.name_of_mem_unqualified h
  · split at h
    · exact Names.name_of_mem_methods h
    · split at h
      · exact Names.name_of_mem_methods h
      · exact Names.name_of_mem_methods h
      · cases h

/-! ## Arguments in two rounds -/

/-- An argument behind the second round: a lambda or a reference has the type expected at its index,
and all others are as the first round left them. -/
def Completes (method : Option MethodType) (index : Nat) (value e : Expression) : Prop :=
  if isFunctionalArgument value then
    isFunctionalArgument e = true ∧
      e.type = functionalType (method.bind (expectedArgument? · index))
  else e = value

/-- The arguments behind the second round, from an index on. -/
def CompletesAll (method : Option MethodType) : Nat → List (Padded Expression) →
    List (Padded Expression) → Prop
  | _, [], [] => True
  | index, value :: values, e :: es =>
    Completes method index value.element e.element ∧ CompletesAll method (index + 1) values es
  | _, _, _ => False

theorem Completes.argShape {method : Option MethodType} {index : Nat} {value e : Expression}
    (h : Completes method index value e) : argShape e = argShape value := by
  unfold Completes at h
  split at h
  · next functional => simp [Attribution.argShape, functional, h.1]
  · rw [h]

theorem CompletesAll.argShapes {method : Option MethodType} {index : Nat}
    {values es : List (Padded Expression)} (h : CompletesAll method index values es) :
    (es.map fun p => argShape p.element) = values.map fun p => argShape p.element := by
  induction values generalizing index es with
  | nil =>
    cases es with
    | nil => rfl
    | cons => exact h.elim
  | cons value values ih =>
    cases es with
    | nil => exact h.elim
    | cons e es => simp only [List.map_cons, h.1.argShape, ih h.2]

/-- Arguments that fit by their shapes are taken once lambdas and references have their types. -/
theorem CompletesAll.takes {method : MethodType} {count index : Nat} {all ps : List JavaType}
    {values es : List (Padded Expression)} (h : CompletesAll (some method) index values es)
    (spreads : Spreads method.parameters method.varargs count all) (rest : ps = all.drop index)
    (fits : List.Forall₂ (fun p a => Overload.compatible .loose p a = true) ps
      (values.map fun p => argShape p.element)) :
    List.Forall₂ JavaType.Takes ps (es.map (·.element)) := by
  induction values generalizing index es ps with
  | nil =>
    cases es with
    | nil =>
      cases fits
      exact .nil
    | cons => exact h.elim
  | cons value values ih =>
    cases es with
    | nil => exact h.elim
    | cons e es =>
      rw [List.map_cons] at fits ⊢
      cases fits with
      | @cons param _ ps _ own others =>
        have here : all[index]? = some param := by
          rw [← List.head?_drop, ← rest]
          rfl
        refine .cons ?_ (ih h.2 (by rw [← List.drop_drop, ← rest]; rfl) others)
        have first := h.1
        unfold Completes at first
        unfold argShape at own
        split at first
        · next functional =>
          rw [if_pos functional] at own
          have expected := expectedArgument?_of_spreads spreads here own
          have typed : e.element.type = param := by
            simpa [functionalType, expected, Option.filter, show param.isFunctional = true from own]
              using first.2
          rw [JavaType.Takes, if_pos first.1]
          exact ⟨own, typed⟩
        · next plain =>
          rw [if_neg plain] at own
          rw [first, JavaType.Takes, if_neg plain]
          exact own

/-- The call that attribution puts together is bound. -/
theorem bound_invocation {env : Surroundings} {g : Names} {id : NodeId}
    {leading before close : Space}
    {select : Option (Padded Expression)} {name : Identifier} {values es : List (Padded Expression)}
    {method : Option MethodType}
    (chosen : method = (Overload.select? (candidatesOf env g select name.name).1
      (values.map fun p => argShape p.element)).map
        (·.methodType (candidatesOf env g select name.name).2))
    (completed : CompletesAll method 0 values es) :
    MethodInvocation.Bound g env.classes ⟨id, leading, select, name, ⟨before, es, close⟩,
      method⟩ := by
  have shapes : ((es.map (·.element)).map argShape) = values.map fun p => argShape p.element := by
    rw [← completed.argShapes, List.map_map]
    rfl
  constructor
  · rintro m (rfl : method = some m)
    obtain ⟨c, found, rfl⟩ := Option.map_eq_some_iff.1 chosen.symm
    obtain ⟨visible, phase, applicable⟩ := Overload.visible_of_select? found
    obtain ⟨ps, spreads, fits⟩ := Overload.spreads_of_applicable applicable
    refine ⟨name_of_mem_candidatesOf visible.mem, ⟨c, visible, rfl⟩, ps, ?_, ?_⟩
    · have length : (Container.toList ⟨before, es, close⟩).length =
          (values.map fun p => argShape p.element).length := by
        rw [← shapes, List.length_map]
        rfl
      rw [length]
      exact spreads
    · exact completed.takes spreads rfl fits
  · change method = none ↔ ∀ c, Overload.Visible (candidatesOf env g select name.name).1 c →
      ∀ phase, Overload.applicable phase ((es.map (·.element)).map argShape) c = false
    rw [chosen, Option.map_eq_none_iff, Overload.select?_eq_none_iff, shapes]

/-! ## The types that are known -/

/-- The classes that are declared in a unit, at any depth. -/
def Declares (u : CompilationUnit) (c : ClassDeclaration) : Prop :=
  ∃ v ∈ u.visits, v.node = .classDeclaration c

/-- What names can mean while a unit is attributed: at first its types and imports, then also the
local classes that were met. -/
inductive Reached (u : CompilationUnit) (classpath : Classpath) : Names → Prop
  | start : Reached u classpath (namesOf u classpath)
  | declare {g : Names} (env : Surroundings) (c : ClassDeclaration) : Reached u classpath g →
      Declares u c → Reached u classpath (declareClass env c { names := g }).2.names

/-- Scopes do not matter for declarations. -/
theorem names_declareClass (env : Surroundings) (c : ClassDeclaration) (s : State) :
    (declareClass env c s).2.names = (declareClass env c { names := s.names }).2.names := by
  change (StateT.run (declareClass env c) s).2.names =
    (StateT.run (declareClass env c) { names := s.names }).2.names
  unfold declareClass
  simp only [StateT.run_bind, StateT.run_get, pure_bind]
  cases s.names.locals.lookup (s.names.qualify (env.classes.head?.map (·.fqn)) c.name.name) <;> rfl

theorem classpath_declareClass (env : Surroundings) (c : ClassDeclaration) (s : State) :
    (declareClass env c s).2.names.classpath = s.names.classpath := by
  change (StateT.run (declareClass env c) s).2.names.classpath = _
  unfold declareClass
  simp only [StateT.run_bind, StateT.run_get, pure_bind]
  cases s.names.locals.lookup (s.names.qualify (env.classes.head?.map (·.fqn)) c.name.name) <;> rfl

theorem classpath_namesOf (u : CompilationUnit) (classpath : Classpath) :
    (namesOf u classpath).classpath = classpath := by
  have kept (step : Names → String × ClassDeclaration → Names)
      (same : ∀ g d, (step g d).classpath = g.classpath) (ds : List (String × ClassDeclaration))
      (g : Names) : (ds.foldl step g).classpath = g.classpath := by
    induction ds generalizing g with
    | nil => rfl
    | cons d ds ih => rw [List.foldl_cons, ih, same]
  refine (kept _ (fun g d => ?_) _ _).trans rfl
  dsimp only
  split <;> rfl

theorem Reached.classpath_eq {u : CompilationUnit} {classpath : Classpath} {g : Names}
    (h : Reached u classpath g) : g.classpath = classpath := by
  induction h with
  | start => exact classpath_namesOf u classpath
  | declare env c _ _ ih => rw [classpath_declareClass, ih]

end Attribution

end Retouch
