import Retouch.Token.Basic

/-!
# Cutting a source into tokens

Every scanner answers how many characters it takes; the text of a token and the rest of the source
are then `take` and `drop` of that number, so no character can get lost between them.
-/

namespace Retouch.Lexer

/-- Blanks between tokens. -/
def isTriviaBlank (c : Char) : Bool :=
  c == ' ' || c == '\t' || c == '\n' || c == '\r' || c == '\x0c'

/-- The characters up to and with the end of a block comment. -/
def blockCommentLength? : List Char → Option Nat
  | [] => none
  | '*' :: '/' :: _ => some 2
  | _ :: cs => (blockCommentLength? cs).map (· + 1)

/-- The characters up to the end of the line, without the line feed. -/
def lineLength (cs : List Char) : Nat := (cs.takeWhile (· != '\n')).length

/-- The blanks and comments at the front. An error is the number of characters in front of a comment
that does not end. -/
def triviaLength (cs : List Char) : Except Nat Nat :=
  match cs with
  | [] => .ok 0
  | '/' :: '/' :: rest =>
    let n := lineLength rest
    match triviaLength (rest.drop n) with
    | .ok m => .ok (2 + n + m)
    | .error m => .error (2 + n + m)
  | '/' :: '*' :: rest =>
    match blockCommentLength? rest with
    | none => .error 0
    | some n =>
      match triviaLength (rest.drop n) with
      | .ok m => .ok (2 + n + m)
      | .error m => .error (2 + n + m)
  | c :: rest =>
    if isTriviaBlank c then
      match triviaLength rest with
      | .ok m => .ok (1 + m)
      | .error m => .error (1 + m)
    else .ok 0
termination_by cs.length
decreasing_by
  all_goals simp only [List.length_cons, List.length_drop]
  all_goals omega

/-- A word begins with a letter, an underscore, a dollar sign or any character above ASCII. -/
def isWordStart (c : Char) : Bool := c.isAlpha || c == '_' || c == '$' || 0x80 ≤ c.toNat

def isWordPart (c : Char) : Bool := isWordStart c || c.isDigit

def isHexDigit (c : Char) : Bool :=
  c.isDigit || ('a' ≤ c && c ≤ 'f') || ('A' ≤ c && c ≤ 'F')

/-- The digits and underscores at the front. -/
def digitsLength (cs : List Char) : Nat := (cs.takeWhile fun c => c.isDigit || c == '_').length

/-- The fraction at the front. A point in front of a letter other than an exponent or a suffix is a
selection and no fraction. -/
def fractionLength : List Char → Nat
  | '.' :: cs =>
    match cs with
    | c :: _ =>
      if c.isAlpha && !("eEdDfF".toList.contains c) then 0 else 1 + digitsLength cs
    | [] => 1
  | _ => 0

/-- The exponent at the front, also one without digits. -/
def exponentLength : List Char → Nat
  | c :: cs =>
    if c == 'e' || c == 'E' then
      match cs with
      | s :: rest =>
        if s == '+' || s == '-' then 2 + (rest.takeWhile Char.isDigit).length
        else 1 + (cs.takeWhile Char.isDigit).length
      | [] => 1
    else 0
  | [] => 0

/-- The kind that the character behind the digits gives to a number, and whether it belongs to it. -/
def numberSuffix (floating : Bool) : List Char → TokenKind × Nat
  | c :: _ =>
    if c == 'l' || c == 'L' then (.long, 1)
    else if c == 'f' || c == 'F' then (.float, 1)
    else if c == 'd' || c == 'D' then (.double, 1)
    else (if floating then .double else .int, 0)
  | [] => (if floating then .double else .int, 0)

/-- The characters and the kind of the number at the front. -/
def numberLength (cs : List Char) : TokenKind × Nat :=
  match cs with
  | '0' :: x :: rest =>
    if "xXbB".toList.contains x then
      let n := 2 + (rest.takeWhile fun c => isHexDigit c || c == '_').length
      let (kind, m) := numberSuffix false (cs.drop n)
      (kind, n + m)
    else decimalLength cs
  | _ => decimalLength cs
where
  decimalLength (cs : List Char) : TokenKind × Nat :=
    let whole := digitsLength cs
    let fraction := fractionLength (cs.drop whole)
    let exponent := exponentLength (cs.drop (whole + fraction))
    let n := whole + fraction + exponent
    let (kind, m) := numberSuffix (0 < fraction + exponent) (cs.drop n)
    (kind, n + m)

/-- The characters behind an opening quote, up to and with the closing one. A backslash takes the
character behind it along; a line feed ends the search. -/
def quotedLength? (quote : Char) : List Char → Option Nat
  | [] => none
  | '\\' :: [] => none
  | '\\' :: _ :: cs => (quotedLength? quote cs).map (· + 2)
  | c :: cs =>
    if c == '\n' then none
    else if c == quote then some 1
    else (quotedLength? quote cs).map (· + 1)

/-- The characters up to and with three quotes. -/
def textBlockLength? : List Char → Option Nat
  | [] => none
  | '"' :: '"' :: '"' :: _ => some 3
  | _ :: cs => (textBlockLength? cs).map (· + 1)

/-- The kind of the token that begins with `c`, and how many characters behind `c` belong to it. -/
def tokenLength (c : Char) (cs : List Char) : Except Fault (TokenKind × Nat) :=
  if isWordStart c then .ok (.identifier, (cs.takeWhile isWordPart).length)
  else if c.isDigit || (c == '.' && (cs.head?.any Char.isDigit)) then
    let (kind, n) := numberLength (c :: cs)
    .ok (kind, n - 1)
  else if c == '"' then
    match cs with
    | '"' :: '"' :: rest =>
      match textBlockLength? rest with
      | some n => .ok (.string, 2 + n)
      | none => .error .unterminatedTextBlock
    | _ =>
      match quotedLength? '"' cs with
      | some n => .ok (.string, n)
      | none => .error .unterminatedLiteral
  else if c == '\'' then
    match quotedLength? '\'' cs with
    | some n => .ok (.char, n)
    | none => .error .unterminatedLiteral
  else
    match punctuation.find? fun mark => mark.toList.isPrefixOf (c :: cs) with
    | some mark => .ok (.punct, mark.length - 1)
    | none => .error (.unexpectedCharacter c)

/-- The tokens of the characters that stand behind `offset` bytes. -/
def tokensFrom (offset : Nat) (cs : List Char) : Except SyntaxError (List Token) :=
  match triviaLength cs with
  | .error n => .error ⟨offset + Text.byteSize (cs.take n), .unterminatedComment⟩
  | .ok n =>
    let leading := cs.take n
    let start := offset + Text.byteSize leading
    match h : cs.drop n with
    | [] => .ok [Token.atEnd ⟨String.ofList leading⟩ start]
    | c :: rest =>
      match tokenLength c rest with
      | .error fault => .error ⟨start, fault⟩
      | .ok (kind, m) =>
        let text := c :: rest.take m
        match tokensFrom (start + Text.byteSize text) (rest.drop m) with
        | .error e => .error e
        | .ok tokens =>
          .ok (⟨kind, String.ofList text, ⟨String.ofList leading⟩, start⟩ :: tokens)
termination_by cs.length
decreasing_by
  have := congrArg List.length h
  simp only [List.length_drop, List.length_cons] at this ⊢
  omega

end Retouch.Lexer

namespace Retouch

/-- The tokens of a source; the last one is its end. -/
def tokenize (source : String) : Except SyntaxError (List Token) :=
  Lexer.tokensFrom 0 source.toList

end Retouch
