import Retouch.Recipe.Registry
import Retouch.Text.Document

/-!
# Lists of recipes

The descriptors of recipes as lines for readers and as a JSON document.
-/

namespace Retouch

/-- The kind between the angle brackets of a list. -/
def OptionKind.label : OptionKind → String
  | string => "String"
  | integer => "Integer"
  | boolean => "Boolean"
  | stringList => "StringList"
  | enumeration values =>
    "Enumeration([" ++ ", ".intercalate (values.map Text.shown) ++ "])"

def OptionKind.document : OptionKind → Document
  | string => .object [("type", .text "string")]
  | integer => .object [("type", .text "integer")]
  | boolean => .object [("type", .text "boolean")]
  | stringList => .object [("type", .text "string_list")]
  | enumeration values =>
    .object [("type", .text "enumeration"), ("values", .list (values.map .text))]

def OptionDescriptor.document (o : OptionDescriptor) : Document :=
  .object <|
    [("name", Document.text o.name), ("display_name", .text o.displayName),
      ("description", .text o.description)] ++
    (o.sample.map fun s => ("example", Document.text s)).toList ++
    [("kind", o.kind.document), ("required", Document.boolean o.required)]

namespace RecipeDescriptor

/-- A field for a list, left out if the list is empty. -/
def listField (name : String) (items : List Document) : List (String × Document) :=
  if items.isEmpty then [] else [(name, .list items)]

def document (d : RecipeDescriptor) : Document :=
  .object <|
    [("id", Document.text d.id), ("display_name", .text d.displayName), ("description", .text d.description),
      ("estimated_effort_per_occurrence",
        .object [("secs", .number d.effort), ("nanos", .number 0)])] ++
    listField "options" (d.options.map (·.document)) ++
    listField "recipe_list" (d.recipeList.map .text)

/-- The lines on an option of a recipe. -/
def optionLines (id : String) (o : OptionDescriptor) : List String :=
  ("    --option " ++ id ++ "." ++ o.name ++ "=<" ++ o.kind.label ++ ">" ++
    (if o.required then " (required)" else "")) ::
    if o.description.isEmpty then [] else ["        " ++ o.description]

/-- The lines on a recipe. -/
def lines (d : RecipeDescriptor) : List String :=
  [d.id, "    " ++ d.displayName] ++ d.recipeList.map ("    - " ++ ·) ++
    d.options.flatMap (optionLines d.id)

end RecipeDescriptor

end Retouch
