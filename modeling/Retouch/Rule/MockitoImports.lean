import Retouch.Recipe.Basic

/-!
# Unused Mockito imports

Asks for the removal of every import of `org.mockito`; those in use stay. An import that may provide a
call for which no method was found is left out.
-/

namespace Retouch

namespace Rule

/-- The static methods that an import of all members of `Mockito` may provide. -/
def mockitoMethods : List String := [
  "mock", "mockingDetails", "spy", "stub", "when", "verify", "reset", "verifyNoMoreInteractions",
  "verifyZeroInteractions", "stubVoid", "doThrow", "doCallRealMethod", "doAnswer", "doNothing",
  "doReturn", "inOrder", "ignoreStubs", "times", "never", "atLeastOnce", "atLeast", "atMost",
  "calls", "only", "timeout", "after"]

/-- The name whose removal is asked for on behalf of an import. -/
def removable? (unresolved : List String) (i : Import) : Option String :=
  if !Text.hasLead "org.mockito" i.packageName then none
  else match i.typeName?, i.member? with
    | none, _ => some i.fullName
    | some typeName, none => some typeName
    | some typeName, some member =>
      if member == "*" then
        if mockitoMethods.any unresolved.contains then none else some typeName
      else if unresolved.contains member then none
      else some (typeName ++ "." ++ member)

def cleanImports (u : CompilationUnit) : Edit Unit := do
  let unresolved := ((← get).session.findUnattributed u).map (·.name.name)
  (u.imports.filterMap fun i => removable? unresolved i.element).forM Edit.removeImport

def mockitoImportsDescriptor : RecipeDescriptor where
  id := "testing.mockito.CleanupMockitoImports"
  displayName := "Cleanup Mockito imports"
  description := "Removes unused `org.mockito` import symbols, unless its possible they are " ++
    "associated with method invocations having null or unknown type information."

def mockitoImports (_ : Options) : Except RecipeError Recipe := do
  let types ← (TypePattern.ofText "org.mockito.*").mapError RecipeError.pattern
  return ⟨mockitoImportsDescriptor, some (.usesType ⟨types, false⟩),
    some { onUnit := cleanImports }, []⟩

end Rule

end Retouch
