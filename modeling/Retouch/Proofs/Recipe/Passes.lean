import Mathlib.Tactic.Common
import Retouch.Recipe.Run

/-!
# One unit on its way through recipes

`Passes u rs ids out` is the way of a unit through a list of recipes: each one fails, changes the
unit or leaves it, in some session that is not cancelled; `ids` are those that changed it, in their
order.

* One cycle of a unit goes one such way (`cycle_passes`).
* Units count as the same up to an equivalence `≈`, such as equality up to the ids of nodes. If the
  outcome of every recipe depends on the unit only (`Recipe.Steady`), so do the changes and the end
  of the way (`Passes.agree`).
-/

namespace Retouch

/-- The way of a unit through recipes, with the ids of those that change it. -/
inductive Passes : CompilationUnit → List Recipe → List String →
    Except EditError CompilationUnit → Prop
  | done {u : CompilationUnit} : Passes u [] [] (.ok u)
  | fails {u : CompilationUnit} {r : Recipe} {rs : List Recipe} {s t : Session} {e : EditError} :
      s.cancelled = false → (r.apply u).run s = (.error e, t) → Passes u (r :: rs) [] (.error e)
  | changes {u : CompilationUnit} {r : Recipe} {rs : List Recipe} {s t : Session} {a : Applied}
      {ids : List String} {out : Except EditError CompilationUnit} :
      s.cancelled = false → (r.apply u).run s = (.ok a, t) → a.unit.isChanged = true →
      Passes a.unit.value rs ids out → Passes u (r :: rs) (r.id :: ids) out
  | keeps {u : CompilationUnit} {r : Recipe} {rs : List Recipe} {s t : Session} {a : Applied}
      {ids : List String} {out : Except EditError CompilationUnit} :
      s.cancelled = false → (r.apply u).run s = (.ok a, t) → a.unit.isChanged = false →
      Passes u rs ids out → Passes u (r :: rs) ids out

namespace Passes

variable {u v : CompilationUnit} {rs rs' : List Recipe} {ids ids' : List String}
  {out out' : Except EditError CompilationUnit}

theorem append (h : Passes u rs ids (.ok v)) (h' : Passes v rs' ids' out) :
    Passes u (rs ++ rs') (ids ++ ids') out := by
  generalize reached : Except.ok v = way at h
  induction h with
  | done =>
    cases reached
    exact h'
  | fails => cases reached
  | changes running outcome changed _ ih => exact .changes running outcome changed (ih reached)
  | keeps running outcome kept _ ih => exact .keeps running outcome kept (ih reached)

/-- Behind a failure no recipe is applied. -/
theorem append_error {e : EditError} (h : Passes u rs ids (.error e)) (rs' : List Recipe) :
    Passes u (rs ++ rs') ids (.error e) := by
  generalize stopped : Except.error e = way at h
  induction h with
  | done => cases stopped
  | fails running outcome => exact .fails running outcome
  | changes running outcome changed _ ih => exact .changes running outcome changed (ih stopped)
  | keeps running outcome kept _ ih => exact .keeps running outcome kept (ih stopped)

/-- A way without changes ends where it began. -/
theorem eq_of_nil (h : Passes u rs [] (.ok v)) : v = u := by
  generalize reached : Except.ok v = way at h
  generalize unchanged : [] = ids at h
  induction h with
  | done =>
    cases reached
    rfl
  | fails => cases reached
  | changes => cases unchanged
  | keeps _ _ _ _ ih => exact ih reached unchanged

end Passes

/-- Ids that were told, each once. -/
def note (told : List String) (id : String) : List String :=
  if told.contains id then told else told ++ [id]

/-- Telling each id once keeps the first of equal ones. -/
theorem foldl_note (told ids : List String) :
    ids.foldl note told.eraseDups = (told ++ ids).eraseDups := by
  induction ids generalizing told with
  | nil => simp
  | cons id ids ih =>
    have step : note told.eraseDups id = (told ++ [id]).eraseDups := by
      by_cases known : id ∈ told <;>
        simp [note, known, List.eraseDups_append, List.removeAll, List.mem_eraseDups,
          List.eraseDups_cons]
    rw [List.foldl_cons, step, ih, List.append_assoc, List.singleton_append]

namespace UnitResult

/-- The result at the end of a way through recipes, and whether the unit changed on it. -/
def close (r : UnitResult) (ids : List String) :
    Except EditError CompilationUnit → UnitResult × Bool
  | .ok v =>
    ({ r with
      after := v
      changed := r.changed || !ids.isEmpty
      recipes := ids.foldl note r.recipes }, !ids.isEmpty)
  | .error e => (r.failed e, false)

theorem cycle_cons (r : UnitResult) (recipe : Recipe) (rest : List Recipe) (s : Session) :
    r.cycle (recipe :: rest) s =
      match (recipe.apply r.after).run s with
      | (.error e, t) => ((r.failed e, false), t)
      | (.ok a, t) =>
        let next := (r.update recipe.id a.unit).cycle rest t
        ((next.1.1, next.1.1.error.isNone && (a.unit.isChanged || next.1.2)), next.2) := by
  rcases outcome : (recipe.apply r.after).run s with ⟨e | a, t⟩
  · simp only [cycle, bind, StateT.bind, outcome]
    rfl
  · simp only [cycle, bind, StateT.bind, outcome]
    rfl

end UnitResult

section Steady

variable [Setoid CompilationUnit]

/-- Outcomes of a recipe with the same error or equivalent units. -/
inductive Agree : Except EditError Applied → Except EditError Applied → Prop
  | error (e : EditError) : Agree (.error e) (.error e)
  | ok {a b : Applied} : a.unit.value ≈ b.unit.value → a.unit.isChanged = b.unit.isChanged →
      Agree (.ok a) (.ok b)

/-- The outcome of the recipe depends on the unit only, and the recipe does not cancel the session.
-/
structure Recipe.Steady (r : Recipe) : Prop where
  agree : ∀ u v s t, u ≈ v → s.cancelled = false → t.cancelled = false →
    Agree ((r.apply u).run s).1 ((r.apply v).run t).1
  running : ∀ u s, s.cancelled = false → ((r.apply u).run s).2.cancelled = false

/-- Ends of a way: the same error, or equivalent units. -/
def SameEnd : Except EditError CompilationUnit → Except EditError CompilationUnit → Prop
  | .ok u, .ok v => u ≈ v
  | .error e, .error e' => e = e'
  | _, _ => False

omit [Setoid CompilationUnit] in
/-- A recipe whose outcome is one and the same in all sessions. -/
theorem Recipe.steady_of_eq {r : Recipe} (h : ∀ u, ∃ out, ∀ s : Session, s.cancelled = false →
    ∃ t, (r.apply u).run s = (out, t) ∧ t.cancelled = false) :
    @Recipe.Steady ⟨Eq, eq_equivalence⟩ r := by
  let _ : Setoid CompilationUnit := ⟨Eq, eq_equivalence⟩
  refine Recipe.Steady.mk (fun u v s t same running running' => ?_) fun u s running => ?_
  · obtain rfl : u = v := same
    obtain ⟨out, outcome⟩ := h u
    obtain ⟨_, first, -⟩ := outcome s running
    obtain ⟨_, second, -⟩ := outcome t running'
    rw [first, second]
    cases out with
    | error e => exact .error e
    | ok a => exact .ok rfl rfl
  · obtain ⟨_, outcome⟩ := h u
    obtain ⟨_, ends, running'⟩ := outcome s running
    rw [ends]
    exact running'

theorem Recipe.Steady.compare {r : Recipe} {u v : CompilationUnit} {s t : Session}
    {x : Except EditError Applied} (steady : r.Steady) (same : u ≈ v)
    (running : s.cancelled = false) (outcome : (r.apply u).run s = (x, t)) :
    ∀ ⦃s' t' : Session⦄ ⦃y : Except EditError Applied⦄, s'.cancelled = false →
      (r.apply v).run s' = (y, t') → Agree x y := by
  intro s' t' y running' outcome'
  have agree := steady.agree u v s s' same running running'
  rwa [outcome, outcome'] at agree

namespace Passes

variable {u v : CompilationUnit} {rs : List Recipe} {ids ids' : List String}
  {out out' : Except EditError CompilationUnit}

/-- The changes and the end of a way depend on the unit only. -/
theorem agree (steady : ∀ r ∈ rs, r.Steady) (h : Passes u rs ids out) (h' : Passes v rs ids' out')
    (same : u ≈ v) : ids' = ids ∧ SameEnd out out' := by
  induction h generalizing v ids' with
  | done =>
    cases h'
    exact ⟨rfl, same⟩
  | fails running outcome =>
    have compare := (steady _ List.mem_cons_self).compare same running outcome
    cases h' with
    | fails running' outcome' =>
      cases compare running' outcome'
      exact ⟨rfl, rfl⟩
    | changes running' outcome' => cases compare running' outcome'
    | keeps running' outcome' => cases compare running' outcome'
  | changes running outcome changed _ ih =>
    rw [List.forall_mem_cons] at steady
    have compare := steady.1.compare same running outcome
    cases h' with
    | fails running' outcome' => cases compare running' outcome'
    | changes running' outcome' _ rest =>
      cases compare running' outcome' with
      | ok same' _ =>
        obtain ⟨rfl, ends⟩ := ih steady.2 rest same'
        exact ⟨rfl, ends⟩
    | keeps running' outcome' kept =>
      cases compare running' outcome' with
      | ok _ flags => simp [changed, kept] at flags
  | keeps running outcome kept _ ih =>
    rw [List.forall_mem_cons] at steady
    have compare := steady.1.compare same running outcome
    cases h' with
    | fails running' outcome' => cases compare running' outcome'
    | changes running' outcome' changed =>
      cases compare running' outcome' with
      | ok _ flags => simp [changed, kept] at flags
    | keeps running' outcome' _ rest => exact ih steady.2 rest same

/-- Where nothing changes, no recipe changes anything, whatever the session. -/
theorem idle (steady : ∀ r ∈ rs, r.Steady) (h : Passes u rs [] (.ok v)) :
    ∀ r ∈ rs, ∀ s : Session, s.cancelled = false →
      ∃ a t, (r.apply u).run s = (.ok a, t) ∧ a.unit.isChanged = false := by
  generalize reached : Except.ok v = way at h
  generalize unchanged : [] = ids at h
  induction h with
  | done => simp
  | fails => cases reached
  | changes => cases unchanged
  | keeps running outcome kept _ ih =>
    rw [List.forall_mem_cons] at steady ⊢
    refine ⟨fun s' running' => ?_, ih steady.2 reached unchanged⟩
    match outcome' : ExceptT.run (Recipe.apply _ _) s' with
    | (y, t') =>
      cases steady.1.compare (Setoid.refl _) running outcome running' outcome' with
      | ok _ flags => exact ⟨_, t', rfl, flags ▸ kept⟩

end Passes

/-- One cycle takes a unit through the recipes. -/
theorem UnitResult.cycle_passes {recipes : List Recipe} (steady : ∀ r ∈ recipes, r.Steady)
    (r : UnitResult) (fine : r.error = none) (s : Session) (running : s.cancelled = false) :
    (r.cycle recipes s).2.cancelled = false ∧
      ∃ ids out, Passes r.after recipes ids out ∧ (r.cycle recipes s).1 = r.close ids out := by
  induction recipes generalizing r s with
  | nil =>
    refine ⟨running, [], .ok r.after, .done, ?_⟩
    simp [cycle, close]
    rfl
  | cons recipe rest ih =>
    rw [List.forall_mem_cons] at steady
    have running' := steady.1.running r.after s running
    rw [cycle_cons]
    match outcome : (recipe.apply r.after).run s with
    | (.error e, t) =>
      rw [outcome] at running'
      exact ⟨running', [], .error e, .fails running outcome, rfl⟩
    | (.ok a, t) =>
      rw [outcome] at running'
      have keeps : (r.update recipe.id a.unit).error = none := by
        unfold update
        split <;> exact fine
      obtain ⟨running'', ids, out, passes, closed⟩ := ih steady.2 _ keeps t running'
      refine ⟨running'', ?_⟩
      simp only [closed]
      cases changed : a.unit.isChanged with
      | true =>
        simp only [update, changed, if_true] at passes
        refine ⟨recipe.id :: ids, out, .changes running outcome changed passes, ?_⟩
        cases out <;> simp [close, update, changed, failed, note, fine]
      | false =>
        simp only [update, changed] at passes
        refine ⟨ids, out, .keeps running outcome changed passes, ?_⟩
        cases out <;> simp [close, update, changed, failed, fine]

end Steady

end Retouch
