import Retouch.Config.Reading
import Retouch.Path.Glob
import Retouch.Recipe.Registry

/-!
# Configurations of runs

Which recipes a run has, their options, the resources of its class path, the files it leaves alone and
further groups of recipes. `RunConfig.ofText` reads a configuration, and `RunConfig.setOption` changes one
option of it.

* Fields that a table does not have are refused, and so are fields that occur twice. A missing field has
  its default; `null` is no value for one.
* A scalar without quotes is its text where a text is expected, except in the list of a group.
-/

namespace Retouch

open Config (Spot)

/-- The values that a name has among fields. -/
def valuesNamed (name : String) (fields : List (String × Value)) : List Value :=
  fields.filterMap fun (n, v) => if n == name then some v else none

/-- A table of options by their names; the last one of a name counts. Within the values, no key may be
repeated. -/
def optionTable? : Value → Option (Table Value)
  | .table entries => entries.foldlM (fun t (key, v) => do
      let name ← key.text?
      if v.isDistinct then return t.set name v else none) []
  | _ => none

/-- A recipe in the list of a group: its id, or a table of its id and its options, where other fields do not
count. -/
def RecipeReference.ofValue? : Value → Option RecipeReference
  | .text id => some { id }
  | .table entries => do
    let fields ← entries.mapM fun (key, v) => return (← key.text?, v)
    let [id] := valuesNamed "id" fields | none
    let options ← match valuesNamed "options" fields with
      | [] => some []
      | [options] => optionTable? options
      | _ => none
    return { id := ← id.text?, options }
  | _ => none

/-- The references of a group. One that names no recipe is told at the place of the whole list. -/
def RecipeReference.ofSpots (s : Spot) : Except Config.Error (List RecipeReference) :=
  s.list fun item => do
    let v ← item.rawValue
    match RecipeReference.ofValue? v with
    | some r => return r
    | none => throw (s.error .noReference)

/-- A group of recipes that a configuration declares. -/
def DeclaredRecipe.ofSpot (s : Spot) : Except Config.Error DeclaredRecipe := do
  let start : DeclaredRecipe := { id := "", displayName := "", description := "", recipeList := [] }
  let (d, names) ← s.fields "struct DeclarativeRecipe"
    ["id", "display_name", "description", "recipe_list"] start fun d name value => do
      match name with
      | "id" => return { d with id := ← value.text }
      | "display_name" => return { d with displayName := ← value.text }
      | "description" => return { d with description := ← value.text }
      | _ => return { d with recipeList := ← RecipeReference.ofSpots value }
  for name in ["id", "display_name"] do
    if !names.contains name then throw (s.error (.missingField name))
  return d

/-- Everything that a run needs besides its sources. -/
structure RunConfig where
  /-- The ids of the recipes to run, in order. -/
  recipes : List String := []
  /-- The values of options by recipe and name. -/
  options : Table (Table Value) := []
  classpath : List String :=
    ["junit-4.13", "junit-jupiter-api-5.9", "assertj-core-3.24", "mockito-core-5"]
  maxCycles : Nat := 3
  /-- Patterns of the files to leave alone. -/
  exclude : List String := []
  /-- Further groups of recipes. -/
  declared : List DeclaredRecipe := []

namespace RunConfig

def ofSpot (s : Spot) : Except Config.Error RunConfig := do
  let (c, _) ← s.fields "struct RunConfig"
    ["recipes", "options", "classpath", "max_cycles", "exclude", "declared"] ({} : RunConfig)
    fun c name value => do
      match name with
      | "recipes" => return { c with recipes := ← value.list Spot.text }
      | "options" => return { c with options := ← value.table (Spot.table Spot.value) }
      | "classpath" => return { c with classpath := ← value.list Spot.text }
      | "max_cycles" => return { c with maxCycles := ← value.count }
      | "exclude" => return { c with exclude := ← value.list Spot.text }
      | _ => return { c with declared := ← value.list DeclaredRecipe.ofSpot }
  return c

/-- Reads a text as a configuration or as a part of one. -/
def readText {α : Type} (read : Spot → Except Config.Error α) (text : String) :
    Except RecipeError α :=
  (Config.readText read text).mapError .unreadable

def ofText (text : String) : Except RecipeError RunConfig := readText ofSpot text

/-- Sets one option by an assignment such as `recipe.option=value`. The last point in front of the first
equals sign divides the recipe from the option. -/
def setOption (c : RunConfig) (assignment : String) : Except RecipeError RunConfig := do
  let malformed : RecipeError :=
    .invalidOption "" assignment "expected <recipe>.<option>=<value>"
  let some (key, value) := Text.cut? '=' assignment | throw malformed
  let some (recipe, name) := Text.cutLast? '.' key | throw malformed
  if recipe.isEmpty || name.isEmpty then throw malformed
  let value ← readText Spot.value value
  let values := ((c.options.get? recipe).getD []).set name value
  return { c with options := c.options.set recipe values }

/-- The bundled recipes and the declared groups. -/
def registry (c : RunConfig) : Registry := c.declared.foldl Registry.declare Registry.builtin

def session (c : RunConfig) : Session := { options := c.options }

/-- The recipes of the run. -/
def build (c : RunConfig) : Except RecipeError (List Recipe) :=
  c.recipes.mapM (c.registry.build c.options)

/-- The patterns of the files to leave alone. -/
def exclusions (c : RunConfig) : Except RecipeError (List Glob) :=
  c.exclude.mapM fun text => (Glob.ofText text).mapError fun e => .invalidPath text e.message

end RunConfig

/-- One of the patterns accepts the path. -/
def isExcluded (exclusions : List Glob) (path : String) : Bool := exclusions.any (·.accepts path)

end Retouch
