import Retouch.Text.Blank

/-!
# Trivia

`Space` is the whitespace and the comments in front of a token, verbatim. The tree keeps every one of
them, so printing a tree never invents a blank; edits that have to choose one take it from a
neighbour with the operations below.
-/

namespace Retouch

/-- Whitespace and comments, verbatim. -/
structure Space where
  text : String
deriving DecidableEq, Repr, Inhabited

namespace Space

def empty : Space := ⟨""⟩

def single : Space := ⟨" "⟩

def isEmpty (s : Space) : Bool := s.text.isEmpty

/-- The number of line feeds. -/
def newlines (s : Space) : Nat := s.text.toList.count '\n'

def hasNewline (s : Space) : Bool := 1 ≤ s.newlines

/-- Two line feeds anywhere count as a blank line, also with a comment between them. -/
def hasBlankLine (s : Space) : Bool := 2 ≤ s.newlines

/-- The characters behind the last line feed, none if there is no line feed. -/
def indentChars (cs : List Char) : List Char :=
  if '\n' ∈ cs then (cs.reverse.takeWhile (· ≠ '\n')).reverse else []

/-- What stands behind the last line feed: the indentation of the token that follows. -/
def indent (s : Space) : String := String.ofList (indentChars s.text.toList)

/-- The comments and all that follows them, without the blanks in front. -/
def comments (s : Space) : String := Text.trimStart s.text

/-- This space with the comments of `other` behind it. -/
def absorb (s other : Space) : Space := ⟨s.text ++ other.comments⟩

/-- The same indentation behind exactly one line feed. -/
def onOwnLine (s : Space) : Space := ⟨"\n" ++ s.indent⟩

/-- The same indentation behind a blank line. -/
def afterBlankLine (s : Space) : Space := ⟨"\n\n" ++ s.indent⟩

end Space

/-- An element and the trivia in front of the delimiter that follows it. -/
structure Padded (α : Type) where
  element : α
  after : Space

/-- An element and the trivia in front of the keyword that introduces it. -/
structure LeftPadded (α : Type) where
  before : Space
  element : α

/-- A delimited, comma separated list: `before` is the trivia in front of the opening delimiter and
`close` that in front of the closing one. -/
structure Container (α : Type) where
  before : Space
  elements : List (Padded α)
  close : Space

/-- An element that nothing separates from its delimiter. -/
def Padded.tight {α : Type} (a : α) : Padded α := ⟨a, .empty⟩

namespace Container

variable {α : Type}

/-- Brackets around nothing. -/
def empty : Container α := ⟨.empty, [], .empty⟩

def toList (c : Container α) : List α := c.elements.map (·.element)

def size (c : Container α) : Nat := c.elements.length

/-- New elements between the old delimiters: the one at an index takes over the trivia in front of
the delimiter there. -/
def withElements (c : Container α) (as : List α) : Container α :=
  { c with elements := as.zipIdx.map fun (a, i) =>
      ⟨a, (c.elements[i]?.map (·.after)).getD .empty⟩ }

end Container

end Retouch
