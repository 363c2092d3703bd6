import Retouch.Proofs.Recipe.Run
import Retouch.Proofs.Rule.MockitoImports

/-!
# The contract of a run

What a run over many units promises of every one of them (`UnitContract`): it goes through the
recipes once in each cycle, as it would alone, until nothing changes any more or an error keeps it
out (`run_contract`).
-/

namespace Retouch

namespace RecipeRun

open UnitResult (Moves)

section Steady

variable [Setoid CompilationUnit] {recipes : List Recipe}

/-- What a run of `cycles` cycles promises of the result of the unit at an index. -/
structure UnitContract (recipes : List Recipe) (maxCycles cycles : Nat) (before : Nat → Progress)
    (i : Nat) (r : UnitResult) : Prop where
  /-- Without an error, the unit went through the recipes once in each cycle, and those that changed
  it are told in the order in which they first did. -/
  passed : r.error = none → ∃ ids,
    Passes r.before (List.replicate cycles recipes).flatten ids (.ok r.after) ∧
      r.recipes = ids.eraseDups
  /-- If the run ended early, no recipe changes the unit any more. -/
  stable : r.error = none → cycles < max 1 maxCycles → ∀ recipe ∈ recipes, ∀ s : Session,
    s.cancelled = false → ∃ a t, (recipe.apply r.after).run s = (.ok a, t) ∧
      a.unit.isChanged = false
  /-- An error leaves the unit as it was, comes from the way through the recipes in one cycle, and
  keeps the unit out of the later ones. -/
  failed : ∀ e, r.error = some e → r.after = r.before ∧ r.recipes = [] ∧
    ∃ k < cycles,
      (∃ ids, Passes r.before (List.replicate (k + 1) recipes).flatten ids (.error e)) ∧
      ∀ j, k < j → SitsOut recipes i (before j).1
  /-- The other units make no difference. -/
  alone : ∀ s : Session, s.cancelled = false → ∃ a,
    (run recipes maxCycles [r.before] s).1.results = [a] ∧
      r.after ≈ a.after ∧ r.recipes = a.recipes ∧ r.error = a.error

/-- A unit that runs alone ends like one among others. -/
theorem alone_alike (steady : ∀ r ∈ recipes, r.Steady) {maxCycles n : Nat} {u : CompilationUnit}
    {h : Nat → UnitResult} {f busy : Nat → Bool} (H : History recipes h f)
    (first : h 0 = { before := u, after := u }) (seen : ∀ j, f j = true → busy j = true)
    (stops : Stops (max 1 maxCycles) busy n) (s : Session) (running : s.cancelled = false) :
    ∃ a, (run recipes maxCycles [u] s).1.results = [a] ∧ (h n).Alike a := by
  obtain ⟨m, stops', -, results⟩ := run_eq steady maxCycles [u] s running
  obtain ⟨h', first', found, H'⟩ :=
    exists_history_alone steady { before := u, after := u } s running
  refine ⟨h' m, results.trans (found m), ?_⟩
  refine H.meet steady H' ?_ (by omega) seen stops stops'
  rw [first, first']
  exact .refl _

theorem unit_contract (steady : ∀ r ∈ recipes, r.Steady) {maxCycles n i : Nat}
    {u : CompilationUnit} {before : Nat → Progress} {h : Nat → UnitResult} {f : Nat → Bool}
    (H : History recipes h f) (first : h 0 = { before := u, after := u })
    (found : ∀ j, (before j).1[i]? = some (h j) ∧ (f j = true → busy recipes (before j) = true))
    (stops : Stops (max 1 maxCycles) (fun j => busy recipes (before j)) n) :
    UnitContract recipes maxCycles n before i (h n) ∧ (h n).before = u := by
  obtain ⟨ids, out, passes, told⟩ := H.accounts first n
  have unit : (h n).before = u := by
    cases out <;> exact told.1
  refine ⟨⟨fun fine => ?_, fun fine early => ?_, fun e error => ?_, fun s running => ?_⟩, unit⟩
  · cases out with
    | error e => simp [told.2.2.2] at fine
    | ok v =>
      obtain ⟨-, rfl, recipes, -⟩ := told
      exact ⟨ids, unit ▸ passes, recipes⟩
  · obtain ⟨m, rfl⟩ : ∃ m, n = m + 1 := ⟨n - 1, by have := stops.pos (by omega); omega⟩
    have quiet : f m = false := by
      have quiet := stops.quiet early
      cases moved : f m with
      | false => rfl
      | true => exact ((found m).2 moved).symm.trans quiet
    have moves := H m
    rw [quiet] at moves
    obtain ⟨e, error⟩ | ⟨-, idle⟩ := moves.settled
    · simp [fine] at error
    · exact idle.idle steady
  · obtain ⟨k, less, fails, later⟩ := H.failed first error
    cases out with
    | ok v => simp [told.2.2.2] at error
    | error e' =>
      refine ⟨told.2.1.trans unit.symm, told.2.2.1, k, less, unit ▸ fails, fun j behind => ?_⟩
      exact sitsOut (found j).1 (later j behind)
  · obtain ⟨a, only, alike⟩ := alone_alike steady H first (fun j => (found j).2) stops s running
    exact ⟨a, unit ▸ only, alike.after, alike.recipes, alike.error⟩

variable (recipes) in
/-- The contract of a run: the results stand in the order of the units, there are between one and
the greatest number of cycles, and each unit gets what `UnitContract` promises. -/
theorem run_contract (steady : ∀ r ∈ recipes, r.Steady) (maxCycles : Nat)
    (units : List CompilationUnit) (s : Session) (running : s.cancelled = false) :
    let out := (run recipes maxCycles units s).1
    let before (j : Nat) := (step recipes)^[j] (start units, s)
    1 ≤ out.cycles ∧ out.cycles ≤ max 1 maxCycles ∧ out.results = (before out.cycles).1 ∧
      out.results.map (·.before) = units ∧
      ∀ (i : Nat) (r : UnitResult), out.results[i]? = some r →
        UnitContract recipes maxCycles out.cycles before i r := by
  intro out before
  obtain ⟨n, stops, cycles, results⟩ := run_eq steady maxCycles units s running
  have each (i : Nat) (u : CompilationUnit) (here : units[i]? = some u) : ∃ r,
      out.results[i]? = some r ∧ UnitContract recipes maxCycles n before i r ∧ r.before = u := by
    obtain ⟨h, f, first, H, found⟩ := exists_history steady (start units, s) running
      (i := i) (r := { before := u, after := u }) (by simp [start, here])
    exact ⟨h n, results ▸ (found n).1, unit_contract steady H first found stops⟩
  have length : out.results.length = units.length := by
    rw [results, length_step]
    exact List.length_map _
  rw [show out.cycles = n from cycles]
  refine ⟨stops.pos (by omega), stops.le, results, ?_, fun i r there => ?_⟩
  · refine List.ext_getElem? fun i => ?_
    cases here : units[i]? with
    | none =>
      rw [List.getElem?_eq_none_iff] at here ⊢
      simpa [length] using here
    | some u =>
      obtain ⟨r, there, -, rfl⟩ := each i u here
      simp [there]
  · have inside : i < units.length := length ▸ (List.getElem?_eq_some_iff.1 there).1
    obtain ⟨r', there', contract, -⟩ := each i units[i] (List.getElem?_eq_getElem inside)
    obtain rfl := Option.some.inj (there.symm.trans there')
    exact contract

end Steady

/-- The cleanup of imports over a unit with an import that it does not use and an empty one. -/
theorem run_contract_mockito :
    ∃ r, Rule.mockitoImports ⟨[]⟩ = .ok r ∧
      let _ : Setoid CompilationUnit := ⟨Eq, eq_equivalence⟩
      let unused : CompilationUnit :=
        ⟨0, "A.java", none, [(importNode "org.mockito.Mockito.mock" true 1).1], [], .empty⟩
      let units : List CompilationUnit := [unused, ⟨0, "B.java", none, [], [], .empty⟩]
      let out := (run [r] 3 units {}).1
      r.Steady ∧ 1 ≤ out.cycles ∧ out.cycles ≤ 3 ∧ out.results.map (·.before) = units ∧
        ∀ (i : Nat) (q : UnitResult), out.results[i]? = some q →
          UnitContract [r] 3 out.cycles (fun j => (step [r])^[j] (start units, {})) i q := by
  have builds : (Rule.mockitoImports ⟨[]⟩).toOption.isSome = true := by decide +kernel
  cases built : Rule.mockitoImports ⟨[]⟩ with
  | error e =>
    rw [built] at builds
    cases builds
  | ok r =>
    let _ : Setoid CompilationUnit := ⟨Eq, eq_equivalence⟩
    have steady : r.Steady := Rule.steady_mockitoImports built
    obtain ⟨some, most, -, order, each⟩ := run_contract [r] (by simpa using steady) 3
      [⟨0, "A.java", none, [(importNode "org.mockito.Mockito.mock" true 1).1], [], .empty⟩,
        ⟨0, "B.java", none, [], [], .empty⟩] {} rfl
    exact ⟨r, rfl, steady, some, most, order, each⟩

end RecipeRun

end Retouch
