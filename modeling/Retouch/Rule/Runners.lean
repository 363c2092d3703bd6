import Retouch.Recipe.Basic

/-!
# Obsolete runners

Drops `@RunWith(Runner.class)` from classes for the runners of an option, and asks for the removal of
the imports. The comments in front of a dropped annotation go to whatever follows it, behind the blanks
that stood in front of the first one.
-/

namespace Retouch

namespace Rule

def runWith : String := "org.junit.runner.RunWith"

def obsoleteRunners : String := "obsoleteRunners"

/-- The annotations that stay, the trivia owed to what follows the last one, and the runners dropped.
`owed` is the trivia owed to the first annotation. -/
def dropRunners (runner? : Annotation → Option String) (owed : Option Space) :
    List Annotation → List Annotation × Option Space × List String
  | [] => ([], owed, [])
  | a :: as =>
    match runner? a with
    | some runner =>
      let owed := match owed with
        | some s => s.absorb a.leading
        | none => a.leading
      let (kept, owed, dropped) := dropRunners runner? (some owed) as
      (kept, owed, runner :: dropped)
    | none =>
      let a := match owed with
        | some s => { a with leading := s.absorb a.leading }
        | none => a
      let (kept, owed, dropped) := dropRunners runner? none as
      (a :: kept, owed, dropped)

/-- The class with the trivia that is owed to its first modifier or its keyword. -/
def payOwed (c : ClassDeclaration) : Option Space → ClassDeclaration
  | none => c
  | some s =>
    match c.modifiers with
    | m :: ms => { c with modifiers := { m with leading := s.absorb m.leading } :: ms }
    | [] => { c with keywordLeading := s.absorb c.keywordLeading }

def removeRunners (runners : List (String × AnnotationPattern)) (c : ClassDeclaration) :
    Edit (Option ClassDeclaration) := do
  let runner? (a : Annotation) := (runners.find? fun (_, p) => p.matches a).map (·.1)
  let (kept, owed, dropped) := dropRunners runner? none c.annotations
  dropped.forM Edit.removeImport
  if dropped.isEmpty then return none
  Edit.removeImport runWith
  return some (payOwed { c with annotations := kept } owed)

def runnersDescriptor : RecipeDescriptor where
  id := "testing.junit5.RemoveObsoleteRunners"
  displayName := "Remove JUnit 4 `@RunWith` annotations that do not require an `@ExtendsWith` " ++
    "replacement"
  description := "Some JUnit 4 `@RunWith` annotations do not require replacement with an equivalent " ++
    "JUnit Jupiter `@ExtendsWith` annotation. This can be used to remove those runners that either do " ++
    "not have a JUnit Jupiter equivalent or do not require a replacement as part of JUnit 4 to 5 " ++
    "migration."
  options := [
    { name := obsoleteRunners
      displayName := "Obsolete Runners"
      description := "The fully qualified class names of the JUnit 4 runners to be removed."
      sample := some "org.junit.runners.JUnit4"
      kind := .stringList
      required := true }]

def runnerPattern (runner : String) : Except RecipeError (String × AnnotationPattern) := do
  let p ← (AnnotationPattern.ofText ("@" ++ runWith ++ "(" ++ runner ++ ".class)")).mapError
    RecipeError.pattern
  return (runner, p)

def runners (options : Options) : Except RecipeError Recipe := do
  match options.texts? obsoleteRunners with
  | none => throw (.missingOption runnersDescriptor.id obsoleteRunners)
  | some names =>
    let patterns ← names.mapM runnerPattern
    return ⟨runnersDescriptor, none, some { onClass := removeRunners patterns }, []⟩

end Rule

end Retouch
