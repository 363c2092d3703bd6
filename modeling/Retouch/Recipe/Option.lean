import Retouch.Config.Fault
import Retouch.Config.Value
import Retouch.Pattern.Basic

/-!
# Options of recipes

A recipe describes the options that it takes, and values for them are checked against the description
before the recipe is made. `RecipeError` says why a recipe cannot be made.
-/

namespace Retouch

/-- What the value of an option has to be. -/
inductive OptionKind where
  | string | integer | boolean | stringList
  | enumeration (values : List String)
deriving DecidableEq, Repr

namespace OptionKind

def display : OptionKind → String
  | string => "string"
  | integer => "integer"
  | boolean => "boolean"
  | stringList => "list of strings"
  | enumeration values => "one of " ++ ", ".intercalate values

/-- The value is of the kind. One text may stand for a list of them. -/
def accepts : OptionKind → Value → Bool
  | string, .text _ => true
  | integer, .integer n => Value.isWord n
  | boolean, .boolean _ => true
  | stringList, .text _ => true
  | stringList, .list items => items.all (·.text?.isSome)
  | enumeration values, .text s => values.contains s
  | _, _ => false

end OptionKind

structure OptionDescriptor where
  name : String
  displayName : String
  description : String := ""
  sample : Option String := none
  kind : OptionKind
  required : Bool := false

structure RecipeDescriptor where
  id : String
  displayName : String
  description : String
  /-- The seconds that each occurrence saves. -/
  effort : Nat := 5 * 60
  options : List OptionDescriptor := []
  /-- The recipes that a group runs, in order. -/
  recipeList : List String := []

/-- Why a recipe cannot be made. -/
inductive RecipeError where
  | unknownRecipe (id : String) (suggestion : Option String)
  | missingOption (recipe option : String)
  | invalidOption (recipe option reason : String)
  | unknownOption (recipe option : String)
  | cycle (id : String)
  | invalidPath (text reason : String)
  /-- A configuration that cannot be read. -/
  | unreadable (e : Config.Error)
  | pattern (e : PatternError)
deriving DecidableEq, Repr

def RecipeError.message : RecipeError → String
  | unknownRecipe id suggestion =>
    "unknown recipe '" ++ id ++ "'" ++
      (match suggestion with
        | some s => " (did you mean '" ++ s ++ "'?)"
        | none => "")
  | missingOption recipe option => "recipe '" ++ recipe ++ "' requires option '" ++ option ++ "'"
  | invalidOption recipe option reason =>
    "recipe '" ++ recipe ++ "' option '" ++ option ++ "': " ++ reason
  | unknownOption recipe option =>
    "recipe '" ++ recipe ++ "' has no option named '" ++ option ++ "'"
  | cycle id => "recipe '" ++ id ++ "' includes itself"
  | invalidPath text reason => "invalid pattern '" ++ text ++ "': " ++ reason
  | unreadable e => "invalid recipe configuration: " ++ e.message
  | pattern e => e.message

/-- The values of options that fit a descriptor. -/
structure Options where
  values : Table Value

namespace Options

/-- Checks one value. -/
def check (d : RecipeDescriptor) : String × Value → Except RecipeError Unit
  | (name, value) =>
    match d.options.find? (·.name == name) with
    | none => .error (.unknownOption d.id name)
    | some option =>
      if option.kind.accepts value then .ok ()
      else .error (.invalidOption d.id name ("expected " ++ option.kind.display))

/-- Every name has to be described, every value of its kind, and every required option there. -/
def validate (d : RecipeDescriptor) (values : Table Value) : Except RecipeError Options := do
  values.forM (check d)
  match d.options.find? fun o => o.required && !values.has o.name with
  | some missing => throw (.missingOption d.id missing.name)
  | none => return ⟨values⟩

def text? (o : Options) (name : String) : Option String := (o.values.get? name).bind (·.text?)

def integer? (o : Options) (name : String) : Option Int := (o.values.get? name).bind (·.integer?)

def boolean? (o : Options) (name : String) : Option Bool := (o.values.get? name).bind (·.boolean?)

def texts? (o : Options) (name : String) : Option (List String) :=
  (o.values.get? name).bind (·.texts?)

end Options

end Retouch
