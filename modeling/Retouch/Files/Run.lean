import Retouch.Diff.Unified
import Retouch.Files.Collect
import Retouch.Recipe.Run

/-!
# Runs over files

The recipes of a configuration over sources or over the files that paths lead to. A source that cannot be
parsed takes no part in the run. Nothing is written until `FileStore.writeChanges`.
-/

namespace Retouch

/-- A run over sources. -/
structure SourceRun where
  run : RecipeRun
  /-- The sources that could not be parsed. -/
  parseErrors : List ParseError

/-- Parses sources one behind the other. -/
def parseAll (cp : Classpath) :
    List (String × String) → StateM Session (List CompilationUnit × List ParseError)
  | [] => return ([], [])
  | (path, source) :: rest => do
    let made ← modifyGet fun s => s.parse cp [] path source
    let (units, errors) ← parseAll cp rest
    match made with
    | .ok u => return (u :: units, errors)
    | .error e => return (units, e :: errors)

namespace RunConfig

/-- Runs recipes over sources in a session. -/
def runOn (c : RunConfig) (s : Session) (recipes : List Recipe) (sources : List (String × String)) :
    Except ClasspathError SourceRun := do
  let (cp, s) := s.classpath c.classpath
  let ((units, parseErrors), s) := (parseAll (← cp) sources).run s
  let (run, _) := (RecipeRun.run recipes c.maxCycles units).run s
  return { run, parseErrors }

/-- Runs the configured recipes over files. -/
def runFiles (c : RunConfig) (files : FileStore) (paths : List String) :
    Except SourceError SourceRun := do
  let recipes ← c.build.mapError SourceError.recipe
  let exclusions ← c.exclusions.mapError SourceError.recipe
  let collected ← files.collect exclusions paths
  let sources := collected.filterMap fun path =>
    (files.read path).toOption.map fun text => (path, text)
  (c.runOn c.session recipes sources).mapError SourceError.classpath

end RunConfig

namespace UnitResult

/-- The change of the unit as a diff with three lines of context. -/
def diff (r : UnitResult) : String × Diff.Stats :=
  Diff.unified r.before.path r.before.print r.after.print 3

end UnitResult

namespace RecipeRun

def changedUnits (r : RecipeRun) : List UnitResult := r.results.filter (·.changed)

/-- The units that a recipe failed on. -/
def errors (r : RecipeRun) : List (String × EditError) :=
  r.results.filterMap fun u => u.error.map fun e => (u.before.path, e)

end RecipeRun

/-- The files with the changes of a run. -/
def FileStore.writeChanges (files : FileStore) (r : RecipeRun) : FileStore :=
  r.changedUnits.foldl (fun files u => files.write u.before.path u.after.print) files

end Retouch
