/-!
# Values of options

What an option can be set to: a scalar, a list, or a table of values by values. `Table` is used for every
collection that is looked up by a name; it keeps one entry for each name.
-/

namespace Retouch

/-- Entries by name. -/
abbrev Table (α : Type) := List (String × α)

namespace Table

variable {α : Type}

/-- The table with one entry for `name`, behind the entries of other names. -/
def set (t : Table α) (name : String) (a : α) : Table α :=
  t.filter (fun e => e.1 != name) ++ [(name, a)]

def get? (t : Table α) (name : String) : Option α := List.lookup name t

def has (t : Table α) (name : String) : Bool := (t.get? name).isSome

/-- The table with the entries of another one, which win. -/
def extend (t other : Table α) : Table α := other.foldl (fun t (name, a) => t.set name a) t

end Table

/-- The value of an option. -/
inductive Value where
  | null
  | boolean (b : Bool)
  | integer (n : Int)
  /-- A number with a point or an exponent, or an integer of more than 128 bits. -/
  | decimal (x : Float)
  | text (s : String)
  | list (items : List Value)
  | table (entries : List (Value × Value))

namespace Value

def text? : Value → Option String
  | text s => some s
  | _ => none

def boolean? : Value → Option Bool
  | boolean b => some b
  | _ => none

/-- An integer of 64 bits, signed or not. -/
def isWord (n : Int) : Bool := -9223372036854775808 ≤ n && n < 18446744073709551616

/-- A signed integer of 64 bits. -/
def integer? : Value → Option Int
  | integer n => if -9223372036854775808 ≤ n ∧ n < 9223372036854775808 then some n else none
  | _ => none

/-- A list of texts, or one text as a list; elements that are no texts do not count. -/
def texts? : Value → Option (List String)
  | text s => some [s]
  | list items => some (items.filterMap text?)
  | _ => none

mutual

/-- Equality of values; two zeros are equal whatever their signs. -/
def same : Value → Value → Bool
  | null, null => true
  | boolean a, boolean b => a == b
  | integer a, integer b => a == b
  | decimal x, decimal y => x == y
  | text s, text t => s == t
  | list vs, list ws => sameList vs ws
  | table es, table fs => sameTable es fs
  | _, _ => false

/-- Equality item by item. -/
def sameList : List Value → List Value → Bool
  | [], [] => true
  | v :: vs, w :: ws => same v w && sameList vs ws
  | _, _ => false

/-- Equality entry by entry. -/
def sameTable : List (Value × Value) → List (Value × Value) → Bool
  | [], [] => true
  | (k, v) :: es, (l, w) :: fs => same k l && same v w && sameTable es fs
  | _, _ => false

end

/-- No key is repeated. -/
def hasDistinctKeys : List (Value × Value) → Bool
  | [] => true
  | (k, _) :: es => !(es.any fun e => k.same e.1) && hasDistinctKeys es

mutual

/-- No key is repeated in the value or in a part of it. -/
def isDistinct : Value → Bool
  | list vs => areDistinct vs
  | table es => hasDistinctKeys es && areDistinctEntries es
  | _ => true

def areDistinct : List Value → Bool
  | [] => true
  | v :: vs => isDistinct v && areDistinct vs

def areDistinctEntries : List (Value × Value) → Bool
  | [] => true
  | (k, v) :: es => isDistinct k && isDistinct v && areDistinctEntries es

end

end Value

end Retouch
