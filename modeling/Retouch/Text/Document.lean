import Retouch.Text.Quoted

/-!
# JSON documents

Documents and their text on several lines: each item of a list and each field of an object stands on
a line of its own, two blanks further to the right than what is around it.
-/

namespace Retouch

inductive Document where
  | text (s : String)
  | number (n : Nat)
  | boolean (b : Bool)
  | list (items : List Document)
  | object (fields : List (String × Document))

namespace Document

/-- Items on lines of their own between brackets; nothing between them if there are no items. -/
def bracket (opening closing : String) (depth : Nat) (items : List String) : String :=
  let line (depth : Nat) := "\n" ++ String.ofList (List.replicate (2 * depth) ' ')
  if items.isEmpty then opening ++ closing
  else opening ++ ",".intercalate (items.map (line (depth + 1) ++ ·)) ++ line depth ++ closing

mutual

/-- The text of a document inside `depth` others. -/
def prettyAt (depth : Nat) : Document → String
  | text s => Text.jsonString s
  | number n => toString n
  | boolean b => toString b
  | list items => bracket "[" "]" depth (prettyItems (depth + 1) items)
  | object fields => bracket "\x7b" "\x7d" depth (prettyFields (depth + 1) fields)

def prettyItems (depth : Nat) : List Document → List String
  | [] => []
  | d :: ds => d.prettyAt depth :: prettyItems depth ds

def prettyFields (depth : Nat) : List (String × Document) → List String
  | [] => []
  | (name, d) :: ds =>
    (Text.jsonString name ++ ": " ++ d.prettyAt depth) :: prettyFields depth ds

end

def pretty (d : Document) : String := d.prettyAt 0

end Document

end Retouch
