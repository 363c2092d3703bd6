import Retouch.Recipe.Basic

/-!
# Runs

A run carries a list of recipes through many units, over and over until a cycle changes nothing or the
greatest number of cycles is reached.

* A unit that a recipe fails on is left as it was at the start and takes no part in later cycles; the
  other units go on.
* Equal diagnostics are told once.
-/

namespace Retouch

/-- A unit behind a run. -/
structure UnitResult where
  before : CompilationUnit
  after : CompilationUnit
  changed : Bool := false
  /-- The recipes that changed the unit, in the order in which they first did. -/
  recipes : List String := []
  error : Option EditError := none

structure RecipeRun where
  results : List UnitResult
  /-- The cycles made, the one that changed nothing included. -/
  cycles : Nat
  diagnostics : List Diagnostic

namespace UnitResult

/-- The unit as it was at the start, with the reason. -/
def failed (r : UnitResult) (e : EditError) : UnitResult :=
  { before := r.before, after := r.before, error := some e }

/-- Takes over what a recipe made of the unit. -/
def update (r : UnitResult) (recipe : String) (unit : Edited CompilationUnit) : UnitResult :=
  if unit.isChanged then
    { r with
      after := unit.value
      changed := true
      recipes := if r.recipes.contains recipe then r.recipes else r.recipes ++ [recipe] }
  else r

/-- Every recipe once, and whether one changed the unit. -/
def cycle (r : UnitResult) : List Recipe → StateM Session (UnitResult × Bool)
  | [] => return (r, false)
  | recipe :: rest => do
    match ← (recipe.apply r.after).run with
    | .error e => return (r.failed e, false)
    | .ok applied =>
      let (out, changed) ← (r.update recipe.id applied.unit).cycle rest
      return (out, out.error.isNone && (applied.unit.isChanged || changed))

end UnitResult

namespace RecipeRun

/-- One cycle over all units without errors, and whether one of them changed. -/
def cycleAll (recipes : List Recipe) :
    List UnitResult → StateM Session (List UnitResult × Bool)
  | [] => return ([], false)
  | r :: rs => do
    let (r, changed) ← if r.error.isNone then r.cycle recipes else pure (r, false)
    let (rs, others) ← cycleAll recipes rs
    return (r :: rs, changed || others)

/-- Up to `limit` further cycles behind `cycles` ones. -/
def cyclesFrom (recipes : List Recipe) (cycles : Nat) :
    Nat → List UnitResult → StateM Session (List UnitResult × Nat)
  | 0, results => return (results, cycles)
  | limit + 1, results => do
    let (results, changed) ← cycleAll recipes results
    if !changed || (← get).cancelled then return (results, cycles + 1)
    cyclesFrom recipes (cycles + 1) limit results

/-- Runs recipes over units, in at least one cycle. -/
def run (recipes : List Recipe) (maxCycles : Nat) (units : List CompilationUnit) :
    StateM Session RecipeRun := do
  let start := units.map fun u => { before := u, after := u : UnitResult }
  let (results, cycles) ← cyclesFrom recipes 0 (max 1 maxCycles) start
  let diagnostics ← modifyGet Session.takeDiagnostics
  return ⟨results, cycles, diagnostics.foldl
    (fun told d => if told.contains d then told else told ++ [d]) []⟩

/-- The name that a recipe wanted to import and that is no type: a mistake of the recipe that spoils
the whole run. -/
def untypedImport? (r : RecipeRun) : Option String :=
  r.results.findSome? fun u =>
    match u.error with
    | some (.untypedImport name) => some name
    | _ => none

end RecipeRun

end Retouch
