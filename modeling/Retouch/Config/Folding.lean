import Retouch.Config.Fault
import Retouch.Token.Literal

/-!
# Scalars over several lines

How the characters of a scalar are read, with and without quotes. A scalar is cut into pieces first, and
then the lines are folded: blanks around a line break are dropped, a single line break becomes a space,
and of several ones all but the first are kept.

* Two single quotes inside single quotes denote one. A backslash inside double quotes escapes a character
  or a line break.
* A scalar without quotes ends in front of a colon with a blank behind it, of a comment and, inside
  brackets, of a comma or a bracket.
* Lengths are in characters. Faults are told with the characters in front of them.
-/

namespace Retouch.Config

/-- A space or a tab. -/
def isBlank (c : Char) : Bool := c == ' ' || c == '\t'

/-- Nothing follows, a blank or a line break. -/
def endsWord : List Char → Bool
  | [] => true
  | c :: _ => isBlank c || isBreak c

/-- Three hyphens or three points, which divide documents at the start of a line. -/
def isDocumentMark : List Char → Bool
  | '-' :: '-' :: '-' :: cs | '.' :: '.' :: '.' :: cs => endsWord cs
  | _ => false

/-! ## Folding -/

/-- A part of a scalar. -/
inductive Piece where
  | char (c : Char)
  | blank (c : Char)
  /-- A line break, by the character that denotes it if it is kept. -/
  | lineBreak (c : Char)
  /-- An escaped line break. -/
  | joint
deriving DecidableEq, Repr

/-- What was read since the last character that counts. -/
inductive Gap where
  | blanks (cs : List Char)
  /-- Line breaks, the first one apart; it is missing behind an escaped line break. -/
  | lines (first : Option Char) (further : List Char)
deriving DecidableEq, Repr

/-- What a gap denotes. -/
def Gap.folded : Gap → List Char
  | blanks cs => cs
  | lines none further => further
  | lines (some '\n') [] => [' ']
  | lines (some '\n') further => further
  | lines (some c) further => c :: further

/-- The characters that pieces denote behind a gap. -/
def foldFrom (gap : Gap) : List Piece → List Char
  | [] => gap.folded
  | .char c :: ps => gap.folded ++ c :: foldFrom (.blanks []) ps
  | .joint :: ps => gap.folded ++ foldFrom (.lines none []) ps
  | .blank c :: ps =>
    match gap with
    | .blanks cs => foldFrom (.blanks (cs ++ [c])) ps
    | .lines first further => foldFrom (.lines first further) ps
  | .lineBreak c :: ps =>
    match gap with
    | .blanks _ => foldFrom (.lines (some c) []) ps
    | .lines first further => foldFrom (.lines first (further ++ [c])) ps

/-- The characters that pieces denote. -/
def fold (ps : List Piece) : List Char := foldFrom (.blanks []) ps

/-- Characters that are neither blanks nor line breaks stay as they are. -/
theorem fold_map_char (cs : List Char) : fold (cs.map .char) = cs := by
  unfold fold
  induction cs with
  | nil => rfl
  | cons c cs ih => simp [foldFrom, Gap.folded, ih]

/-- The character that denotes a line break if it is kept. -/
def keptBreak (c : Char) : Char := if c == '\u2028' || c == '\u2029' then c else '\n'

/-- A character that is not escaped, as a piece. -/
def Piece.ofChar (c : Char) : Piece :=
  if isBlank c then .blank c else if isBreak c then .lineBreak (keptBreak c) else .char c

/-- Characters that are not escaped, as pieces. -/
def plainPieces : List Char → List Piece
  | [] => []
  | '\r' :: '\n' :: cs => .lineBreak '\n' :: plainPieces cs
  | c :: cs => .ofChar c :: plainPieces cs

/-! ## Quotes -/

/-- The character that an escape of one letter denotes. -/
def escape? : Char → Option Char
  | '0' => some '\x00'
  | 'a' => some '\x07'
  | 'b' => some '\x08'
  | 't' | '\t' => some '\t'
  | 'n' => some '\n'
  | 'v' => some '\x0b'
  | 'f' => some '\x0c'
  | 'r' => some '\r'
  | 'e' => some '\x1b'
  | ' ' => some ' '
  | '"' => some '"'
  | '/' => some '/'
  | '\\' => some '\\'
  | 'N' => some '\u0085'
  | '_' => some '\u00a0'
  | 'L' => some '\u2028'
  | 'P' => some '\u2029'
  | _ => none

/-- The digits of an escape by code. -/
def escapeWidth? : Char → Option Nat
  | 'x' => some 2
  | 'u' => some 4
  | 'U' => some 8
  | _ => none

/-- The code of the digits that an escape needs. -/
def escapeCode (width : Nat) (cs : List Char) : Except Fault Char :=
  match Literals.digitsValue? 16 (cs.take width) with
  | some code =>
    if (cs.take width).length < width then .error .shortEscape
    else if code.isValidChar then .ok (Char.ofNat code)
    else .error .invalidEscape
  | none => .error .shortEscape

/-- A fault, and the characters in front of it. -/
abbrev FaultBehind := Nat × Fault

/-- The pieces of a quoted text, and the characters up to and with the closing quote. -/
abbrev QuotedPieces := Except FaultBehind (List Piece × Nat)

/-- Puts a piece of some characters in front. -/
def QuotedPieces.push (p : Piece) (length : Nat) (r : QuotedPieces) : QuotedPieces :=
  match r with
  | .ok (ps, n) => .ok (p :: ps, n + length)
  | .error (n, fault) => .error (n + length, fault)

/-- Puts a line break in front, which no mark between documents may follow. -/
def QuotedPieces.pushBreak (p : Piece) (length : Nat) (rest : List Char) (r : QuotedPieces) :
    QuotedPieces :=
  if isDocumentMark rest then .error (length, .markInQuote) else r.push p length

/-- The characters behind an opening single quote. -/
def singleQuoted : List Char → QuotedPieces
  | [] => .error (0, .openQuote)
  | '\'' :: '\'' :: cs => (singleQuoted cs).push (.char '\'') 2
  | '\r' :: '\n' :: cs => (singleQuoted cs).pushBreak (.lineBreak '\n') 2 cs
  | c :: cs =>
    if c == '\'' then .ok ([], 1)
    else if isBreak c then (singleQuoted cs).pushBreak (.ofChar c) 1 cs
    else (singleQuoted cs).push (.ofChar c) 1

/-- The characters behind an opening double quote. -/
def doubleQuoted (cs : List Char) : QuotedPieces :=
  match cs with
  | [] => .error (0, .openQuote)
  | '\\' :: '\r' :: '\n' :: rest => (doubleQuoted rest).pushBreak .joint 3 rest
  | '\\' :: c :: rest =>
    if isBreak c then (doubleQuoted rest).pushBreak .joint 2 rest
    else
      match escape? c, escapeWidth? c with
      | some e, _ => (doubleQuoted rest).push (.char e) 2
      | none, some width =>
        match escapeCode width rest with
        | .error fault => .error (2, fault)
        | .ok e => (doubleQuoted (rest.drop width)).push (.char e) (2 + width)
      | none, none => .error (0, .unknownEscape)
  | '\r' :: '\n' :: rest => (doubleQuoted rest).pushBreak (.lineBreak '\n') 2 rest
  | c :: rest =>
    if c == '"' then .ok ([], 1)
    else if c == '\\' then .error (0, .unknownEscape)
    else if isBreak c then (doubleQuoted rest).pushBreak (.ofChar c) 1 rest
    else (doubleQuoted rest).push (.ofChar c) 1
termination_by cs.length
decreasing_by
  all_goals simp only [List.length_cons, List.length_drop]
  all_goals omega

/-! ## Without quotes -/

/-- A character that a scalar inside brackets does not go over. -/
def isFlowMark (c : Char) : Bool :=
  c == ',' || c == '[' || c == ']' || c == '{' || c == '}'

/-- Where a scalar is read. -/
structure PlainContext where
  inBrackets : Bool
  /-- The column that its further lines have to reach outside brackets. -/
  indent : Nat

/-- What stands between the last character that counts and the next one. -/
inductive PlainGap where
  | nothing | blanks | lines
deriving DecidableEq, Repr

/-- A colon ends a scalar in front of a blank. Inside brackets there must be no bracket or comma behind
one. -/
def colonEnds (inBrackets : Bool) (rest : List Char) : Except Fault Bool :=
  match rest with
  | c :: _ =>
    if inBrackets && (isFlowMark c || c == '?') then .error .strayColon else .ok (endsWord rest)
  | [] => .ok true

/-- A scalar cannot go on with these characters behind a gap. -/
def endsBehindGap (x : PlainContext) (gap : PlainGap) (column : Nat) (cs : List Char) : Bool :=
  gap != .nothing && (cs.head? == some '#' || (column == 0 && isDocumentMark cs) ||
    (!x.inBrackets && column < x.indent))

/-- A length, or the place of a fault, with characters added in front. -/
def behind (length : Nat) : Except FaultBehind Nat → Except FaultBehind Nat
  | .ok n => .ok (n + length)
  | .error (n, fault) => .error (n + length, fault)

/-- The length of a scalar with the blanks and line breaks behind it, from a column on. -/
def plainLength (x : PlainContext) (column : Nat) (gap : PlainGap) :
    List Char → Except FaultBehind Nat
  | [] => .ok 0
  | '\r' :: '\n' :: cs => behind 2 (plainLength x 0 .lines cs)
  | c :: cs =>
    if isBreak c then behind 1 (plainLength x 0 .lines cs)
    else if isBlank c then
      if gap == .lines && column < x.indent && c == '\t' then .error (0, .tabInIndent)
      else behind 1 (plainLength x (column + 1) (if gap == .lines then .lines else .blanks) cs)
    else if endsBehindGap x gap column (c :: cs) then .ok 0
    else if c == ':' then
      match colonEnds x.inBrackets cs with
      | .error fault => .error (0, fault)
      | .ok true => .ok 0
      | .ok false => behind 1 (plainLength x (column + 1) .nothing cs)
    else if x.inBrackets && isFlowMark c then .ok 0
    else behind 1 (plainLength x (column + 1) .nothing cs)

/-- The blanks and line breaks at the end. -/
def trailingGap (cs : List Char) : List Char :=
  (cs.reverse.takeWhile fun c => isBlank c || isBreak c).reverse

/-- The text of a scalar without the gap behind it. -/
def plainText (cs : List Char) : String :=
  String.ofList (fold (plainPieces (cs.take (cs.length - (trailingGap cs).length))))

end Retouch.Config
