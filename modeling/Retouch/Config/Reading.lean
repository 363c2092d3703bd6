import Retouch.Config.Node
import Retouch.Config.Scalar

/-!
# Reading of trees

How a tree is read as what is expected in its place: a text, a number, a list, a table or any value.
Everything is read in the order in which it is written, so the first fault of a text is the one that is
told.

* An empty scalar stands for an empty list or table where one is expected.
* A scalar without quotes is its text where a text is expected.
* Lists and tables are nested at most 128 times.
-/

namespace Retouch.Config

/-- A node with the field that it stands for. -/
structure Spot where
  node : Node
  /-- The field, a point for the whole. -/
  path : String := "."
  /-- How often lists and tables may be nested from here on. -/
  depth : Nat := 128

/-- An item of the field at `path`. -/
def itemPath (path : String) (i : Nat) : String := path ++ "[" ++ toString i ++ "]"

/-- The field of the field at `path` with a key, which is told only if it is a scalar. -/
def fieldPath (path : String) (key : Node) : String :=
  (if path == "." then "" else path ++ ".") ++
    match key with
    | .scalar _ s => s.text
    | _ => "?"

/-- How a message calls a node. -/
def Node.describe : Node → String
  | scalar _ s => s.meaning.describe
  | list .. => "sequence"
  | table .. => "map"
  | broken _ => ""

namespace Spot

def error (s : Spot) (fault : Fault) : Error := { fault, place := s.node.place, path := s.path }

/-- The error of a node that is not what was expected. -/
def refuse (s : Spot) (expected : String) : Error :=
  match s.node with
  | .broken e => e
  | node => s.error (.unexpected node.describe expected)

/-- The depth that is left inside of a list or table. -/
def inner (s : Spot) : Except Error Nat :=
  match s.depth with
  | 0 => .error { fault := .tooDeep, place := s.node.place }
  | depth + 1 => .ok depth

/-- A scalar as a text. -/
def textAs (expected : String) (s : Spot) : Except Error String :=
  match s.node with
  | .scalar _ t => .ok t.text
  | _ => .error (s.refuse expected)

def text (s : Spot) : Except Error String := s.textAs "a string"

/-- A number that is not negative. -/
def count (s : Spot) : Except Error Nat :=
  match s.node with
  | .scalar _ t =>
    match t.count? with
    | some n => .ok n
    | none => .error (s.refuse "usize")
  | _ => .error (s.refuse "usize")

def items (s : Spot) : Except Error (List Spot) :=
  match s.node with
  | .list _ nodes => do
    let depth ← s.inner
    return nodes.zipIdx.map fun (node, i) => { node, path := itemPath s.path i, depth }
  | .scalar _ ⟨"", false⟩ => .ok []
  | _ => .error (s.refuse "a sequence")

/-- The keys and the values of a table; the field of a key is that of the table. -/
def entriesAs (expected : String) (s : Spot) : Except Error (List (Spot × Spot)) :=
  match s.node with
  | .table _ nodes => do
    let depth ← s.inner
    return nodes.map fun (key, node) =>
      ({ node := key, path := s.path, depth }, { node, path := fieldPath s.path key, depth })
  | .scalar _ ⟨"", false⟩ => .ok []
  | _ => .error (s.refuse expected)

/-- A list of the same sort. -/
def list {α : Type} (read : Spot → Except Error α) (s : Spot) : Except Error (List α) := do
  (← s.items).mapM read

/-- A table of the same sort; the last entry of a name counts. -/
def table {α : Type} (read : Spot → Except Error α) (s : Spot) : Except Error (Table α) := do
  (← s.entriesAs "a map").foldlM (fun t (key, value) => do
    let name ← key.text
    return Table.set t name (← read value)) []

/-- A table of known fields, each of which occurs at most once. `read` takes a field to what the ones in
front of it gave. The names of the fields that occur are given as well. -/
def fields {α : Type} (expected : String) (known : List String) (start : α)
    (read : α → String → Spot → Except Error α) (s : Spot) : Except Error (α × List String) := do
  (← s.entriesAs expected).foldlM (fun (a, names) (key, value) => do
    let name ← key.textAs "field identifier"
    if !known.contains name then throw (key.error (.unknownField name known))
    if names.contains name then throw (s.error (.repeatedField name))
    return (← read a name value, names ++ [name])) (start, [])

end Spot

/-- How a message calls a key that is repeated. -/
def describeKey : Value → String
  | .null => "with null key"
  | .boolean b => "with key `" ++ toString b ++ "`"
  | .integer n => "with key " ++ toString n
  | .decimal x => "with key " ++ Decimal.positional x
  | .text s => "with key " ++ Text.shown s
  | .list _ | .table _ => "in YAML map"

/-- How values are read. -/
structure ValueReading where
  /-- What a message says that was expected. -/
  expected : String
  /-- Keys may be repeated. -/
  repeats : Bool

namespace Node

mutual

/-- The value of a node, which stands for a field and may be nested only so deep. -/
def value (r : ValueReading) (path : String) (depth : Nat) : Node → Except Error Value
  | scalar place s =>
    match s.meaning with
    | .value v => .ok v
    | .large n =>
      .error { fault := .unexpected (Scalar.Meaning.large n).describe r.expected, place, path }
  | list place nodes =>
    match depth with
    | 0 => .error { fault := .tooDeep, place }
    | depth + 1 => return .list (← values r path depth 0 nodes)
  | table place nodes =>
    match depth with
    | 0 => .error { fault := .tooDeep, place }
    | depth + 1 => return .table (← entryValues r path depth place [] nodes)
  | broken e => .error e

/-- The values of the items of a list from a number on. -/
def values (r : ValueReading) (path : String) (depth i : Nat) : List Node → Except Error (List Value)
  | [] => return []
  | node :: nodes => do
    let v ← node.value r (itemPath path i) depth
    return v :: (← values r path depth (i + 1) nodes)

/-- The values of the entries of a table behind the keys that were read. -/
def entryValues (r : ValueReading) (path : String) (depth : Nat) (place : Place)
    (seen : List Value) : List (Node × Node) → Except Error (List (Value × Value))
  | [] => return []
  | (key, node) :: nodes => do
    let k ← key.value r path depth
    if !r.repeats && seen.any k.same then
      throw { fault := .repeatedKey (describeKey k), place, path }
    let v ← node.value r (fieldPath path key) depth
    return (k, v) :: (← entryValues r path depth place (k :: seen) nodes)

end

end Node

namespace Spot

/-- Any value. -/
def value (s : Spot) : Except Error Value := s.node.value ⟨"any YAML value", false⟩ s.path s.depth

/-- Any value whose keys may be repeated, before it is known what it has to be. -/
def rawValue (s : Spot) : Except Error Value := s.node.value ⟨"any value", true⟩ s.path s.depth

end Spot

/-- Reads a text by way of its tree. What is wrong behind the value is told only if the value is right. -/
def readText {α : Type} (read : Spot → Except Error α) (text : String) : Except Error α := do
  let written := Written.ofText text
  let a ← read { node := written.root }
  match written.trailing with
  | some e => throw e
  | none => return a

end Retouch.Config
