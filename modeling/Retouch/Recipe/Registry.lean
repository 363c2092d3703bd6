import Retouch.Rule.EmptyString
import Retouch.Rule.MockitoImports
import Retouch.Rule.Runners
import Retouch.Text.Quoted
import Retouch.Text.Similarity

/-!
# The registry

All recipes by their ids: the bundled rules, and the groups that are declared as lists of other recipes.
A recipe is made from its id, the values of its options and, for groups, the recipes in its list. A group
that contains itself is refused.
-/

namespace Retouch

/-- A recipe in the list of a group, with values that win over those of the session. -/
structure RecipeReference where
  id : String
  options : Table Value := []

/-- A group of recipes. -/
structure DeclaredRecipe where
  id : String
  displayName : String
  description : String := ""
  recipeList : List RecipeReference := []

def DeclaredRecipe.descriptor (d : DeclaredRecipe) : RecipeDescriptor where
  id := d.id
  displayName := d.displayName
  description := d.description
  recipeList := d.recipeList.map (·.id)

/-- How a recipe is made. -/
inductive RecipeSource where
  | rule (make : Options → Except RecipeError Recipe)
  | group (list : List RecipeReference)

structure RegistryEntry where
  descriptor : RecipeDescriptor
  source : RecipeSource

/-- The entries in the order of their ids, one for each id. -/
structure Registry where
  entries : List RegistryEntry

namespace Registry

/-- An entry among sorted ones, in place of one of the same id. -/
def insertEntry (e : RegistryEntry) : List RegistryEntry → List RegistryEntry
  | [] => [e]
  | other :: rest =>
    if e.descriptor.id < other.descriptor.id then e :: other :: rest
    else if e.descriptor.id == other.descriptor.id then e :: rest
    else other :: insertEntry e rest

def add (r : Registry) (e : RegistryEntry) : Registry := ⟨insertEntry e r.entries⟩

/-- Adds a group; the recipes in its list may be added later. -/
def declare (r : Registry) (d : DeclaredRecipe) : Registry :=
  r.add ⟨d.descriptor, .group d.recipeList⟩

/-- The bundled group. -/
def junitToAssertj : DeclaredRecipe where
  id := "testing.assertj.JUnitToAssertj"
  displayName := "Migrate JUnit asserts to AssertJ"
  description := "Rewrites JUnit Jupiter `assertEquals` and `assertArrayEquals` calls as AssertJ " ++
    "`assertThat` chains, then tidies the resulting string assertions."
  recipeList := [⟨Rule.assertEqualsDescriptor.id, []⟩, ⟨Rule.assertArrayEqualsDescriptor.id, []⟩,
    ⟨Rule.emptyStringDescriptor.id, []⟩]

/-- The bundled rules and groups. -/
def builtin : Registry :=
  let rules : List RegistryEntry := [
    ⟨Rule.emptyStringDescriptor, .rule Rule.emptyString⟩,
    ⟨Rule.assertEqualsDescriptor, .rule Rule.assertEquals⟩,
    ⟨Rule.assertArrayEqualsDescriptor, .rule Rule.assertArrayEquals⟩,
    ⟨Rule.runnersDescriptor, .rule Rule.runners⟩,
    ⟨Rule.mockitoImportsDescriptor, .rule Rule.mockitoImports⟩]
  (rules.foldl add ⟨[]⟩).declare junitToAssertj

def descriptors (r : Registry) : List RecipeDescriptor := r.entries.map (·.descriptor)

def entry? (r : Registry) (id : String) : Option RegistryEntry :=
  r.entries.find? (·.descriptor.id == id)

/-- The more similar of two ids, the second one if there is no difference. -/
def closer (best : Option (Float × String)) (scored : Float × String) : Option (Float × String) :=
  match best with
  | some (score, id) => if scored.1 < score then some (score, id) else some scored
  | none => some scored

/-- The most similar id, if there is one similar enough. -/
def suggestion? (r : Registry) (id : String) : Option String :=
  let scored := r.descriptors.map fun d => (Text.similarity id d.id, d.id)
  ((scored.filter (·.1 > 0.8)).foldl closer none).map (·.2)

def unknown (r : Registry) (id : String) : RecipeError := .unknownRecipe id (r.suggestion? id)

def descriptor (r : Registry) (id : String) : Except RecipeError RecipeDescriptor :=
  match r.entry? id with
  | some e => .ok e.descriptor
  | none => .error (r.unknown id)

/-- The entries that are not under construction. -/
def idle (r : Registry) (active : List String) : List RegistryEntry :=
  r.entries.filter fun e => !active.contains e.descriptor.id

theorem idle_cons_length_lt {r : Registry} {active : List String} {id : String}
    {e : RegistryEntry} (found : r.entry? id = some e) (fresh : id ∉ active) :
    (r.idle (id :: active)).length < (r.idle active).length := by
  have mem := List.mem_of_find?_eq_some found
  have same : e.descriptor.id = id := by simpa using List.find?_some found
  have sub : r.idle (id :: active) = (r.idle active).filter fun e => e.descriptor.id != id := by
    simp only [idle, List.filter_filter]
    congr 1
    funext x
    by_cases h : x.descriptor.id = id <;> simp [h]
  rw [sub, List.length_filter_lt_length_iff_exists]
  exact ⟨e, by simp [idle, mem, same, fresh], by simp [same]⟩

/-- Makes the recipe of an id; `active` are the groups around it and `inline` the values that its
reference gives. -/
def buildWith (r : Registry) (options : Table (Table Value)) (active : List String)
    (inline : Table Value) (id : String) : Except RecipeError Recipe :=
  if fresh : id ∈ active then .error (.cycle id)
  else match found : r.entry? id with
    | none => .error (r.unknown id)
    | some entry => do
      let values := Table.extend ((options.get? id).getD []) inline
      let valid ← Options.validate entry.descriptor values
      match entry.source with
      | .rule make => make valid
      | .group list =>
        let children ← list.mapM fun child =>
          r.buildWith options (id :: active) child.options child.id
        return ⟨entry.descriptor, none, none, children⟩
termination_by (r.idle active).length
decreasing_by exact idle_cons_length_lt found fresh

/-- Makes the recipe of an id with the values of options that a session has. -/
def build (r : Registry) (options : Table (Table Value)) (id : String) :
    Except RecipeError Recipe := r.buildWith options [] [] id

/-- The ids in braces. -/
def display (r : Registry) : String :=
  "\x7b" ++ ", ".intercalate (r.descriptors.map fun d => Text.shown d.id) ++ "\x7d"

end Registry

end Retouch
