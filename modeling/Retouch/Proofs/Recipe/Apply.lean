import Retouch.Proofs.Edit.Trace
import Retouch.Recipe.Basic

/-!
# Applying one recipe

What a recipe without children gives in a session that is not cancelled, from what its editor does
on the walk: the gate, the walk, and then the requests for imports.
-/

namespace Retouch

/-- A computation that may fail and shares a state, one part behind the other. -/
theorem run_bind {α β ε σ : Type} (x : ExceptT ε (StateM σ) α) (k : α → ExceptT ε (StateM σ) β)
    (s : σ) :
    (x >>= k).run s =
      match x.run s with
      | (.ok a, t) => (k a).run t
      | (.error e, t) => (.error e, t) := by
  change (match x.run s with | (a, t) => ExceptT.bindCont k a t) = _
  rcases x.run s with ⟨e | a, t⟩ <;> rfl

/-- An operation of the session, with what is done about its result. -/
theorem Edit.withSession_bind {α β : Type} (f : Session → α × Session) (k : α → Edit β)
    (scope : EditScope) (s : EditState) :
    (Edit.withSession f >>= k) scope s = k (f s.session).1 scope { s with session :=
      (f s.session).2 } :=
  rfl

namespace Session

/-- A session that is not cancelled makes all stops. -/
theorem stops_eq {s : Session} (running : s.cancelled = false) (u : CompilationUnit) :
    s.stops u = u.visits := by
  simp [stops, running]

theorem findCalls_eq {s : Session} (running : s.cancelled = false) (u : CompilationUnit)
    (p : MethodInvocation → Bool) :
    s.findCalls u p = u.visits.filterMap fun v => v.invocation?.filter p := by
  rw [findCalls, stops_eq running]

end Session

mutual

/-- The gate depends on the session only by its cancellation. -/
theorem Precondition.isOpen_congr {s t : Session} (running : s.cancelled = false)
    (running' : t.cancelled = false) (u : CompilationUnit) (p : Precondition) :
    p.isOpen s u = p.isOpen t u := by
  match p with
  | .usesType q =>
    simp [isOpen, running, running', TypeQuery.holds, Session.stops_eq running,
      Session.stops_eq running']
  | .usesMethod m =>
    simp [isOpen, running, running', Session.findMethods, Session.findCalls_eq running,
      Session.findCalls_eq running']
  | .all parts => simp [isOpen, running, running',
    Precondition.allOpen_congr running running' u parts]
  | .any parts => simp [isOpen, running, running',
    Precondition.anyOpen_congr running running' u parts]
  | .not part => simp [isOpen, running, running', Precondition.isOpen_congr running running' u part]

theorem Precondition.allOpen_congr {s t : Session} (running : s.cancelled = false)
    (running' : t.cancelled = false) (u : CompilationUnit) (ps : List Precondition) :
    allOpen s u ps = allOpen t u ps := by
  match ps with
  | [] => rfl
  | p :: ps =>
    simp [allOpen, Precondition.isOpen_congr running running' u p,
      Precondition.allOpen_congr running running' u ps]

theorem Precondition.anyOpen_congr {s t : Session} (running : s.cancelled = false)
    (running' : t.cancelled = false) (u : CompilationUnit) (ps : List Precondition) :
    anyOpen s u ps = anyOpen t u ps := by
  match ps with
  | [] => rfl
  | p :: ps =>
    simp [anyOpen, Precondition.isOpen_congr running running' u p,
      Precondition.anyOpen_congr running running' u ps]

end

/-- The result of an editor once its walk is over: the requests are met, if there are any. -/
def Editor.settle (out : Edited CompilationUnit) (state : EditState) :
    Except EditError (Edited CompilationUnit) × Session :=
  if state.requests.isEmpty then (.ok out, state.session)
  else match out.value.meetRequests state.requests state.session.nextId with
    | .ok (ordered, nextId) =>
      (.ok ⟨ordered.value, out.touched ++ ordered.touched⟩, { state.session with nextId })
    | .error e => (.error e, state.session)

theorem Editor.run_eq {editor : Editor} {recipe : String} {u : CompilationUnit} {s : Session}
    {out : Edited CompilationUnit} {state : EditState}
    (walk : u.editBy editor ⟨recipe, some u⟩ { session := s } = (out, state))
    (fine : state.failure = none) (running : state.session.cancelled = false) :
    (editor.run recipe u).run s = settle out state := by
  have asked : (get : Running Session).run s = (.ok s, s) := rfl
  have walked : (u.editBy editor ⟨recipe, some u⟩).run { session := s } = (out, state) := walk
  rw [Editor.run, run_bind]
  simp only [asked, walked, fine, running, Bool.false_eq_true, if_false]
  unfold settle
  split
  · rfl
  · rcases out.value.meetRequests state.requests state.session.nextId with e | ⟨ordered, nextId⟩ <;>
      rfl

/-- A recipe without children, with or without a gate. -/
theorem Recipe.apply_alone {d : RecipeDescriptor} {gate : Option Precondition} {editor : Editor}
    {u : CompilationUnit} {s : Session} (running : s.cancelled = false) :
    (Recipe.apply ⟨d, gate, some editor, []⟩ u).run s =
      if gate.all (·.isOpen s u) then
        match (editor.run d.id u).run s with
        | (.ok edited, t) => (.ok ⟨edited, .done⟩, t)
        | (.error e, t) => (.error e, t)
      else (.ok ⟨.same u, .skipped⟩, s) := by
  have walk (k : Edited CompilationUnit → Running Applied) (done : ∀ e, k e = pure ⟨e, .done⟩) :
      (editor.run d.id u >>= k).run s =
        match (editor.run d.id u).run s with
        | (.ok edited, t) => (.ok ⟨edited, .done⟩, t)
        | (.error e, t) => (.error e, t) := by
    rw [run_bind]
    rcases (editor.run d.id u).run s with ⟨e | edited, t⟩
    · rfl
    · simp only [done]
      rfl
  rw [Recipe.apply]
  simp only [applyAll]
  change (if s.cancelled = true then _ else _ : Running Applied) s = _
  rw [if_neg (by simp [running])]
  cases gate with
  | none => exact walk _ fun _ => rfl
  | some p =>
    change (if (!p.isOpen s u) = true then _ else _ : Running Applied) s = _
    cases opened : p.isOpen s u with
    | false => simp [opened]; rfl
    | true =>
      simp only [Bool.not_true, Bool.false_eq_true, if_false, Option.all_some, opened, if_true]
      exact walk _ fun _ => rfl

theorem Recipe.apply_leaf {d : RecipeDescriptor} {p : Precondition} {editor : Editor}
    {u : CompilationUnit} {s : Session} (running : s.cancelled = false) :
    (Recipe.apply ⟨d, some p, some editor, []⟩ u).run s =
      if p.isOpen s u then
        match (editor.run d.id u).run s with
        | (.ok edited, t) => (.ok ⟨edited, .done⟩, t)
        | (.error e, t) => (.error e, t)
      else (.ok ⟨.same u, .skipped⟩, s) :=
  Recipe.apply_alone running

end Retouch
