import Retouch.Space
import Retouch.Text.Split

/-!
# Tokens

A token owns the whitespace and the comments in front of it, so the tokens of a source, printed one
after the other, are the source. `Fault` names every reason why a source is refused.
-/

namespace Retouch

inductive TokenKind where
  | identifier | int | long | float | double | char | string | punct | eof
deriving DecidableEq, Repr

structure Token where
  kind : TokenKind
  text : String
  leading : Space
  /-- The number of bytes in front of `text`. -/
  offset : Nat
deriving DecidableEq, Repr

namespace Token

/-- A word or a punctuation mark with this text. -/
def is (t : Token) (text : String) : Bool :=
  (t.kind == .identifier || t.kind == .punct) && t.text == text

/-- The token and its leading trivia as they stand in the source. -/
def print (t : Token) : String := t.leading.text ++ t.text

/-- The end of a source, `offset` bytes long, behind `leading`. -/
def atEnd (leading : Space) (offset : Nat) : Token := ⟨.eof, "", leading, offset⟩

end Token

/-- The reserved words. -/
def keywords : List String := [
  "abstract", "assert", "boolean", "break", "byte", "case", "catch", "char", "class", "const",
  "continue", "default", "do", "double", "else", "enum", "extends", "final", "finally", "float",
  "for", "goto", "if", "implements", "import", "instanceof", "int", "interface", "long", "native",
  "new", "package", "private", "protected", "public", "return", "short", "static", "strictfp",
  "super", "switch", "synchronized", "this", "throw", "throws", "transient", "try", "void",
  "volatile", "while", "true", "false", "null"]

def isKeyword (word : String) : Bool := keywords.contains word

/-- The words that may stand in front of a declaration. -/
def modifierWords : List String := [
  "public", "protected", "private", "static", "final", "abstract", "native", "synchronized",
  "transient", "volatile", "strictfp", "default"]

/-- The punctuation marks in the order in which they are tried. `>>` and `>>>` are missing, so that
nested type arguments close; the parser joins them. -/
def punctuation : List String := [
  "<<=", "...", "->", "::", "++", "--", "&&", "||", "==", "!=", "<=", ">=", "+=", "-=", "*=", "/=",
  "%=", "&=", "|=", "^=", "<<", "(", ")", "\x7b", "\x7d", "[", "]", ";", ",", ".", "@", "=", "<",
  ">", "!", "~", "?", ":", "+", "-", "*", "/", "&", "|", "^", "%"]

/-- What the grammar asks for where the source has something else. -/
inductive Need where
  | mark (text : String)
  | identifier
  | qualifiedImport
  | declaration
  | annotationFirst
  | unnestedAnnotations
  | classKeyword
  | plainDeclaration
  | member
  | plainVariable
  | caseLabel
  | resource
  | singleCatch
  | handler
  | ordinaryCall
  | expression
  | plainSelection
  | identifierAfterDot
  | namedType
deriving DecidableEq, Repr

def Need.text : Need → String
  | mark text => "expected '" ++ text ++ "'"
  | identifier => "expected identifier"
  | qualifiedImport => "expected qualified import name"
  | declaration => "expected class or interface declaration"
  | annotationFirst => "annotations after modifiers are not supported"
  | unnestedAnnotations => "nested annotations are not supported"
  | classKeyword => "expected 'class' or 'interface'"
  | plainDeclaration => "generic type declarations are not supported"
  | member => "unsupported class member"
  | plainVariable => "array dimensions after a variable name are not supported"
  | caseLabel => "expected 'case' or 'default'"
  | resource => "expected a resource"
  | singleCatch => "multi-catch is not supported"
  | handler => "expected 'catch' or 'finally'"
  | ordinaryCall => "explicit constructor calls are not supported"
  | expression => "expected expression"
  | plainSelection => "unsupported member selection"
  | identifierAfterDot => "expected identifier after '.'"
  | namedType => "only named types are supported after instanceof"

/-- Why a source is refused. -/
inductive Fault where
  | unterminatedComment
  | unterminatedLiteral
  | unterminatedTextBlock
  | unexpectedCharacter (c : Char)
  | invalidLiteral (text : String)
  /-- A token, or the end of the source, that does not fit. -/
  | unexpectedToken (need : Need) (found : Option String)
  /-- The bound on the depth of the grammar was too small. -/
  | tooDeep
deriving DecidableEq, Repr

def Fault.message : Fault → String
  | unterminatedComment => "unterminated comment"
  | unterminatedLiteral => "unterminated literal"
  | unterminatedTextBlock => "unterminated text block"
  | unexpectedCharacter c => "unexpected character '" ++ c.toString ++ "'"
  | invalidLiteral text => "invalid literal " ++ text
  | unexpectedToken need (some text) => need.text ++ ", found '" ++ text ++ "'"
  | unexpectedToken need none => need.text ++ ", found end of input"
  | tooDeep => "nested too deeply"

/-- A fault and the byte at which it was found. -/
structure SyntaxError where
  offset : Nat
  fault : Fault
deriving DecidableEq, Repr

/-- A line and a column, both from one; columns count bytes. -/
structure Position where
  line : Nat
  column : Nat
deriving DecidableEq, Repr

/-- The position behind the first `offset` bytes: one line more for each line feed in front of it. -/
def Position.advance (pos : Position) (offset : Nat) : List Char → Position
  | [] => pos
  | c :: cs =>
    if offset < c.utf8Size then pos
    else if c == '\n' then advance ⟨pos.line + 1, 1⟩ (offset - c.utf8Size) cs
    else advance ⟨pos.line, pos.column + c.utf8Size⟩ (offset - c.utf8Size) cs

def Position.ofOffset (source : String) (offset : Nat) : Position :=
  Position.advance ⟨1, 1⟩ offset source.toList

/-- A source that was refused: where, and why. -/
structure ParseError where
  path : String
  offset : Nat
  position : Position
  fault : Fault
deriving DecidableEq, Repr

def ParseError.ofSyntax (path source : String) (e : SyntaxError) : ParseError :=
  ⟨path, e.offset, Position.ofOffset source e.offset, e.fault⟩

def ParseError.message (e : ParseError) : String :=
  e.path ++ ":" ++ toString e.position.line ++ ":" ++ toString e.position.column ++ ": " ++
    e.fault.message

end Retouch
