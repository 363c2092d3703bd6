/-!
# Faults of configurations

Why a configuration cannot be read, and where. Some faults are of the notation: characters, tokens and
brackets. The others are of what is written in it: a value of the wrong sort, or a field that is unknown,
missing or repeated.

* Places are counted in characters. A carriage return with the line feed behind it is one line break.
* A message names the place of a fault unless it is the very first one.
-/

namespace Retouch.Config

/-- A place in a text: the characters in front of it, and its line and column, all counted from zero. -/
structure Place where
  index : Nat := 0
  line : Nat := 0
  column : Nat := 0
deriving DecidableEq, Repr

/-- A character that ends a line. -/
def isBreak (c : Char) : Bool :=
  c == '\n' || c == '\r' || c == '\u0085' || c == '\u2028' || c == '\u2029'

namespace Place

/-- The place behind some characters. -/
def advance (p : Place) : List Char → Place
  | [] => p
  | '\r' :: '\n' :: cs => advance ⟨p.index + 2, p.line + 1, 0⟩ cs
  | c :: cs =>
    if isBreak c then advance ⟨p.index + 1, p.line + 1, 0⟩ cs
    else advance ⟨p.index + 1, p.line, p.column + 1⟩ cs

/-- The start of a line: the place itself, or else the start of a further line. -/
def lineStart (p : Place) : Place :=
  if p.column == 0 then p else { p with line := p.line + 1, column := 0 }

/-- The place as messages tell it, from one; the first place of all is not told. -/
def display (p : Place) : String :=
  if p.line == 0 && p.column == 0 then ""
  else " at line " ++ toString (p.line + 1) ++ " column " ++ toString (p.column + 1)

/-- The index of a place counts the characters in front of it. -/
theorem advance_index (p : Place) (cs : List Char) :
    (p.advance cs).index = p.index + cs.length := by
  fun_induction advance p cs with
  | case1 p => simp
  | case2 p cs ih => simp only [ih, List.length_cons]; omega
  | case3 p c cs _ _ ih => simp only [ih, List.length_cons]; omega
  | case4 p c cs _ _ ih => simp only [ih, List.length_cons]; omega

end Place

/-- What is wrong with a configuration. -/
inductive Fault where
  /-- A character that must not stand in a configuration, behind some bytes. -/
  | controlCharacter (bytes : Nat)
  /-- A character that no token begins with. -/
  | strayCharacter
  /-- A quoted text does not end. -/
  | openQuote
  /-- A mark between documents stands inside a quoted text. -/
  | markInQuote
  | unknownEscape
  /-- An escape by code has too few digits. -/
  | shortEscape
  /-- An escape by a code that no character has. -/
  | invalidEscape
  /-- A colon inside a scalar without quotes, with a bracket or a comma behind it. -/
  | strayColon
  /-- A tab in front of a further line of a scalar. -/
  | tabInIndent
  | noColon
  | noValueHere
  | noKeyHere
  | noItemHere
  /-- A value is missing inside brackets. -/
  | noFlowContent
  /-- A value is missing outside brackets. -/
  | noBlockContent
  /-- A list in brackets does not go on. -/
  | openList
  /-- A table in brackets does not go on. -/
  | openTable
  /-- A list of lines does not go on. -/
  | noItem
  /-- A table of lines does not go on. -/
  | noKey
  /-- Something stands behind the value. -/
  | secondDocument
  | tooDeep
  | unknownField (name : String) (known : List String)
  | missingField (name : String)
  | repeatedField (name : String)
  /-- A table of values has two entries for one key. -/
  | repeatedKey (key : String)
  | unexpected (found expected : String)
  /-- An item in the list of a group that names no recipe. -/
  | noReference
deriving DecidableEq, Repr

namespace Fault

def message : Fault → String
  | controlCharacter bytes =>
    "control characters are not allowed" ++
      if bytes == 0 then "" else " at position " ++ toString bytes
  | strayCharacter => "found character that cannot start any token"
  | openQuote => "found unexpected end of stream"
  | markInQuote => "found unexpected document indicator"
  | unknownEscape => "found unknown escape character"
  | shortEscape => "did not find expected hexadecimal number"
  | invalidEscape => "found invalid Unicode character escape code"
  | strayColon => "found unexpected ':'"
  | tabInIndent => "found a tab character that violates indentation"
  | noColon => "could not find expected ':'"
  | noValueHere => "mapping values are not allowed in this context"
  | noKeyHere => "mapping keys are not allowed in this context"
  | noItemHere => "block sequence entries are not allowed in this context"
  | noFlowContent | noBlockContent => "did not find expected node content"
  | openList => "did not find expected ',' or ']'"
  | openTable => "did not find expected ',' or '\x7d'"
  | noItem => "did not find expected '-' indicator"
  | noKey => "did not find expected key"
  | secondDocument =>
    "deserializing from YAML containing more than one document is not supported"
  | tooDeep => "recursion limit exceeded"
  | unknownField name known =>
    "unknown field `" ++ name ++ "`, expected one of " ++
      ", ".intercalate (known.map fun k => "`" ++ k ++ "`")
  | missingField name => "missing field `" ++ name ++ "`"
  | repeatedField name => "duplicate field `" ++ name ++ "`"
  | repeatedKey key => "duplicate entry " ++ key
  | unexpected found expected => "invalid type: " ++ found ++ ", expected " ++ expected
  | noReference => "data did not match any variant of untagged enum ReferenceRepr"

/-- What was being read, for faults of the notation. -/
def context? : Fault → Option String
  | strayCharacter => some "while scanning for the next token"
  | openQuote | markInQuote => some "while scanning a quoted scalar"
  | unknownEscape | shortEscape | invalidEscape => some "while parsing a quoted scalar"
  | strayColon | tabInIndent => some "while scanning a plain scalar"
  | noColon => some "while scanning a simple key"
  | noFlowContent => some "while parsing a flow node"
  | noBlockContent => some "while parsing a block node"
  | openList => some "while parsing a flow sequence"
  | openTable => some "while parsing a flow mapping"
  | noItem => some "while parsing a block collection"
  | noKey => some "while parsing a block mapping"
  | _ => none

end Fault

/-- A configuration that cannot be read: why, where, and in which field. -/
structure Error where
  fault : Fault
  place : Place := {}
  /-- Where that begins in which the fault was found. -/
  beginning : Place := {}
  /-- The field in question, a point for the whole. -/
  path : String := "."
deriving DecidableEq, Repr

namespace Error

/-- What was being read. Its beginning is told only if it is elsewhere than the fault. -/
def contextText (e : Error) : String :=
  match e.fault.context? with
  | none => ""
  | some context =>
    let same := e.beginning.line == e.place.line && e.beginning.column == e.place.column
    ", " ++ context ++ if same then "" else e.beginning.display

def message (e : Error) : String :=
  (if e.path == "." then "" else e.path ++ ": ") ++ e.fault.message ++ e.place.display ++
    e.contextText

end Error

end Retouch.Config
