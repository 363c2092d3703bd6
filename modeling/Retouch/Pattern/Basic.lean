import Retouch.Text.Alphanumeric
import Retouch.Text.Blank
import Retouch.Text.Wildcard
import Retouch.Types.Basic

/-!
# Patterns of type names

* `java.lang.String` is that type.
* `org.mockito.*` is every type in `org.mockito` or a package below it.
* In every other pattern `..` spans any number of segments and `*` any run of characters within one.

`PatternError` is the one error of all patterns: what was to be a pattern of which sort, and its fault.
-/

namespace Retouch

/-- What a pattern describes. -/
inductive PatternSort where
  | types | methods | annotations
deriving DecidableEq, Repr

def PatternSort.name : PatternSort → String
  | types => "type"
  | methods => "method"
  | annotations => "annotation"

/-- What is wrong with a text that was to be a pattern. -/
inductive PatternFault where
  | emptyType
  | unexpectedCharacter (c : Char)
  | danglingDot
  | noTypeAndName
  | noOpening
  | noClosingAtEnd
  | noMethodName
  | badMethodName
  | emptyArgument
  | severalRests
  | noAtSign
  | noClosing
  /-- A part of the pattern is no pattern of a type. -/
  | badType (pattern : String) (fault : PatternFault)
deriving DecidableEq, Repr

/-- The first words of the message on a text that is no pattern. -/
def invalidPattern (sort : PatternSort) (pattern : String) : String :=
  "invalid " ++ sort.name ++ " pattern '" ++ pattern ++ "': "

def PatternFault.reason : PatternFault → String
  | emptyType => "empty type"
  | unexpectedCharacter c => "unexpected character '" ++ c.toString ++ "'"
  | danglingDot => "dangling '.'"
  | noTypeAndName => "expected '<type> <name>(<args>)'"
  | noOpening => "missing '('"
  | noClosingAtEnd => "missing ')' at the end"
  | noMethodName => "missing method name"
  | badMethodName => "invalid method name"
  | emptyArgument => "empty argument"
  | severalRests => "at most one '..' is allowed"
  | noAtSign => "must start with '@'"
  | noClosing => "missing ')'"
  | badType pattern fault => invalidPattern .types pattern ++ fault.reason

structure PatternError where
  sort : PatternSort
  pattern : String
  fault : PatternFault
deriving DecidableEq, Repr

def PatternError.message (e : PatternError) : String :=
  invalidPattern e.sort e.pattern ++ e.fault.reason

/-- What a character of a pattern of words stands for. -/
def wordWildcard (c : Char) : Wildcard Char := if c == '*' then .anything else .item (· == c)

/-- A word is the pattern with a run of characters in place of each star. -/
def matchWord (pattern word : List Char) : Bool :=
  Wildcard.accepts (pattern.map wordWildcard) word

/-- A part of a pattern of names. -/
inductive Segment where
  /-- Any number of segments of a name. -/
  | gap
  /-- One segment, in which a star stands for any run of characters. -/
  | word (chars : List Char)
deriving DecidableEq, Repr

namespace Segment

def ofChars (chars : List Char) : List Segment := if chars.isEmpty then [] else [word chars]

/-- The segments of a pattern behind the characters `current` of an unfinished one. -/
def readFrom (current : List Char) : List Char → List Segment
  | [] => ofChars current
  | '.' :: '.' :: cs => ofChars current ++ gap :: readFrom [] cs
  | '.' :: cs => ofChars current ++ readFrom [] cs
  | c :: cs => readFrom (current ++ [c]) cs

/-- The segments of a pattern: its words between dots, and a gap for each `..`. -/
def read (pattern : String) : List Segment := readFrom [] pattern.toList

/-- What a segment of a pattern stands for in a name. -/
def wildcard : Segment → Wildcard String
  | gap => .anything
  | word chars => .item fun segment => matchWord chars segment.toList

/-- The name can be cut into one segment for each word and any number for each gap. -/
def matchAll (pattern : List Segment) (name : List String) : Bool :=
  Wildcard.accepts (pattern.map wildcard) name

end Segment

/-- The types that a pattern stands for. -/
inductive TypeNames where
  | exactly (fqn : String)
  /-- Everything in a package and the packages below it. -/
  | inPackage (package : String)
  | like (segments : List Segment)
deriving DecidableEq, Repr

/-- A pattern of type names. -/
structure TypePattern where
  /-- How it is written. -/
  text : String
  names : TypeNames
deriving DecidableEq, Repr

namespace TypePattern

/-- The characters of patterns. -/
def isPatternChar (c : Char) : Bool :=
  Text.isAlphanumeric c || ['.', '*', '_', '$', '[', ']'].contains c

/-- There is a star or a `..`. -/
def isOpen (text : String) : Bool := Text.hasPart "*" text || Text.hasPart ".." text

/-- What a text without faults stands for. -/
def namesOf (text : String) : TypeNames :=
  if !isOpen text then .exactly text
  else match (Text.dropTail? ".*" text).filter (!isOpen ·) with
    | some package => .inPackage package
    | none => .like (Segment.read text)

/-- Reads a pattern; blanks around it do not count. -/
def parse (source : String) : Except PatternFault TypePattern :=
  let text := Text.trim source
  if text.isEmpty then .error .emptyType
  else match text.toList.find? (!isPatternChar ·) with
    | some c => .error (.unexpectedCharacter c)
    | none =>
      if (Text.hasLead "." text && !Text.hasLead ".." text) || Text.hasTail ".." text then
        .error .danglingDot
      else .ok ⟨text, namesOf text⟩

/-- Reads a text that is a pattern as a whole. -/
def ofText (source : String) : Except PatternError TypePattern :=
  (parse source).mapError (⟨.types, source, ·⟩)

/-- Reads a text that is a part of another pattern. -/
def ofPart (source : String) : Except PatternFault TypePattern :=
  (parse source).mapError (.badType source)

/-- The name matches, whatever is above it. -/
def matchesName (p : TypePattern) (fqn : String) : Bool :=
  match p.names with
  | .exactly name => name == fqn
  | .inPackage package => (Text.dropLead? package fqn).any (Text.hasLead ".")
  | .like segments => Segment.matchAll segments (Text.split '.' fqn)

/-- The class or, if `subtypes` count, one above it matches. -/
def matchesClass (p : TypePattern) (subtypes : Bool) (c : ClassType) : Bool :=
  if subtypes then c.ancestors.any fun a => p.matchesName a.fqn else p.matchesName c.fqn

/-- The type matches by the name that a declaration would use. -/
def matchesType (p : TypePattern) : JavaType → Bool
  | .unknown => false
  | type => p.matchesName type.declarationName

end TypePattern

end Retouch
