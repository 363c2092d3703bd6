import Retouch.Config.Folding

/-!
# Tokens of configurations

A configuration is cut into tokens: scalars, brackets, commas, colons, and the hyphens and indents of
lists and tables that are written over several lines. `Token.ofText` gives the tokens of a text and, if
there is a fault among them, the error that stands for the rest.

* What stands in front of a colon is a key only on the line of the colon and within 1024 characters.
  Until that is settled, a possible key keeps back all tokens from itself on, so a fault that comes
  first hides them.
* There is at most one possible key outside brackets and one for each open bracket.
* Outside brackets, a key or a hyphen that stands further to the right than the ones before opens a table
  or a list; a token that stands further to the left closes it.
-/

namespace Retouch.Config

/-- A scalar as it is written. -/
structure Scalar where
  text : String
  /-- Within quotes it is a text, whatever it looks like. -/
  quoted : Bool
deriving DecidableEq, Repr

/-- What a token is. -/
inductive Mark where
  | listOpen | listClose | tableOpen | tableClose | comma
  /-- A key comes next. -/
  | key
  /-- A value comes next. -/
  | colon
  /-- An item of a list over several lines comes next. -/
  | hyphen
  /-- A list over several lines begins. -/
  | blockList
  /-- A table over several lines begins. -/
  | blockTable
  /-- A list or a table over several lines ends. -/
  | blockEnd
  | documentStart | documentEnd
  /-- The end of the text. -/
  | finish
  | scalar (s : Scalar)
deriving DecidableEq, Repr

structure Token where
  mark : Mark
  start : Place
  stop : Place
deriving DecidableEq, Repr

/-- A token that may turn out to be a key. -/
structure PossibleKey where
  /-- The tokens in front of it. -/
  number : Nat
  place : Place
  /-- Nothing but a key can stand there. -/
  required : Bool
deriving DecidableEq, Repr

/-- It is too late for a colon. -/
def PossibleKey.isStale (k : PossibleKey) (p : Place) : Bool :=
  k.place.line < p.line || k.place.index + 1024 < p.index

/-- What is known while a text is cut into tokens. -/
structure Scan where
  place : Place := {}
  /-- The tokens so far, the last one first. -/
  tokens : List Token := []
  /-- The numbers of the tokens that are keys, with those that open a table. -/
  keys : List (Nat × Bool) := []
  /-- The possible key inside the innermost bracket, or outside all of them. -/
  candidate : Option PossibleKey := none
  /-- The possible keys outside the innermost bracket, from the inside to the outside. -/
  outer : List (Option PossibleKey) := []
  /-- The characters up to and with the column of the innermost list or table over several lines; zero
  outside of them. -/
  indent : Nat := 0
  outerIndents : List Nat := []
  keyAllowed : Bool := true

namespace Scan

def inBrackets (s : Scan) : Bool := !s.outer.isEmpty

def error (s : Scan) (fault : Fault) (beginning : Place) : Error :=
  { fault, place := s.place, beginning }

/-- A token without characters. -/
def mark (s : Scan) (m : Mark) : Scan := { s with tokens := ⟨m, s.place, s.place⟩ :: s.tokens }

/-- Gives the innermost possible key up. -/
def dropCandidate (s : Scan) : Except Error Scan :=
  match s.candidate with
  | some k =>
    if k.required then .error (s.error .noColon k.place) else .ok { s with candidate := none }
  | none => .ok s

/-- The next token may be a key if a key is allowed here. -/
def saveCandidate (s : Scan) : Except Error Scan :=
  if s.keyAllowed then do
    let s ← s.dropCandidate
    let required := !s.inBrackets && s.indent == s.place.column + 1
    return { s with candidate := some ⟨s.tokens.length, s.place, required⟩ }
  else .ok s

/-- A key that had to be there and has no colon. -/
def checkCandidates (s : Scan) : Except Error Unit :=
  match (s.candidate :: s.outer).find? fun k => k.any fun k => k.required && k.isStale s.place with
  | some (some k) => .error (s.error .noColon k.place)
  | _ => .ok ()

/-- The possible keys that a colon could still follow. -/
def liveCandidates (s : Scan) : List PossibleKey :=
  (s.candidate :: s.outer).filterMap fun k => k.filter fun k => !k.isStale s.place

/-- Makes room for a list or a table at a column; it is told whether one begins. -/
def indentTo (s : Scan) (column : Nat) : Scan × Bool :=
  if !s.inBrackets && s.indent < column + 1 then
    ({ s with indent := column + 1, outerIndents := s.indent :: s.outerIndents }, true)
  else (s, false)

/-- Ends lists and tables as long as they stand further to the right than an indent. -/
def closeBlocks (s : Scan) (indent : Nat) : List Nat → Scan
  | [] => s
  | outer :: rest =>
    if indent < s.indent then
      closeBlocks { s.mark .blockEnd with indent := outer, outerIndents := rest } indent rest
    else s

/-- Ends the lists and tables that stand further to the right, unless a bracket is open. -/
def closeTo (s : Scan) (indent : Nat) : Scan :=
  if s.inBrackets then s else s.closeBlocks indent s.outerIndents

/-- The possible key in front of a colon. -/
def keyHere? (s : Scan) : Option PossibleKey := s.candidate.filter fun k => !k.isStale s.place

/-- A colon: what stands in front of it becomes a key. -/
def colon (s : Scan) : Except Error Scan := do
  s.checkCandidates
  match s.keyHere? with
  | some k =>
    let (s, opens) := s.indentTo k.place.column
    return { s with keys := (k.number, opens) :: s.keys, candidate := none, keyAllowed := false }
  | none =>
    if s.inBrackets then return { s with keyAllowed := false }
    if !s.keyAllowed then throw (s.error .noValueHere s.place)
    let (s, opens) := s.indentTo s.place.column
    return { (if opens then s.mark .blockTable else s) with keyAllowed := true }

/-- A hyphen in front of an item. -/
def hyphen (s : Scan) : Except Error Scan := do
  if !s.inBrackets && !s.keyAllowed then throw (s.error .noItemHere s.place)
  let (s, opens) := s.indentTo s.place.column
  let s ← (if opens then s.mark .blockList else s).dropCandidate
  return { s with keyAllowed := true }

/-- A question mark in front of a key. -/
def question (s : Scan) : Except Error Scan := do
  if !s.inBrackets && !s.keyAllowed then throw (s.error .noKeyHere s.place)
  let (s, opens) := s.indentTo s.place.column
  let s ← (if opens then s.mark .blockTable else s).dropCandidate
  return { s with keyAllowed := !s.inBrackets }

/-- An opening bracket. -/
def openBracket (s : Scan) : Except Error Scan := do
  let s ← s.saveCandidate
  return { s with candidate := none, outer := s.candidate :: s.outer, keyAllowed := true }

/-- A closing bracket. -/
def closeBracket (s : Scan) : Except Error Scan := do
  let s ← s.dropCandidate
  let s := match s.outer with
    | k :: outer => { s with candidate := k, outer }
    | [] => s
  return { s with keyAllowed := false }

def comma (s : Scan) : Except Error Scan := do
  return { ← s.dropCandidate with keyAllowed := true }

/-- A mark between documents. -/
def documentMark (s : Scan) : Except Error Scan := do
  return { ← (s.closeTo 0).dropCandidate with keyAllowed := false }

/-- A character that a scalar without quotes can begin with. -/
def startsPlain (s : Scan) (c : Char) (rest : List Char) : Bool :=
  if c == '-' then !rest.head?.any isBlank
  else if c == '?' || c == ':' then !s.inBrackets && !endsWord rest
  else !(isBlank c || isBreak c || isFlowMark c || "#&*!|>'\"%@`".toList.contains c)

/-- A token of some characters behind the first, and what is known behind it. -/
abbrev Step := Except Error (Scan × Mark × Nat)

/-- A token of one character. -/
def single (m : Mark) (s : Except Error Scan) : Step := s.map fun s => (s, m, 0)

/-- A quoted text of the pieces behind its first quote. -/
def quoted (s : Scan) (quote : Char) (r : QuotedPieces) (rest : List Char) : Step := do
  let s ← s.saveCandidate
  match r with
  | .ok (ps, n) =>
    return ({ s with keyAllowed := false }, .scalar ⟨String.ofList (fold ps), true⟩, n)
  | .error (n, fault) =>
    throw { fault, place := s.place.advance (quote :: rest.take n), beginning := s.place }

/-- A scalar without quotes. A key may follow on a further line. -/
def plain (s : Scan) (c : Char) (rest : List Char) : Step := do
  let s ← s.saveCandidate
  match plainLength ⟨s.inBrackets, s.indent⟩ (s.place.column + 1) .nothing rest with
  | .ok n =>
    let cs := c :: rest.take n
    return ({ s with keyAllowed := (trailingGap cs).any isBreak }, .scalar ⟨plainText cs, false⟩, n)
  | .error (n, fault) =>
    throw { fault, place := s.place.advance (c :: rest.take n), beginning := s.place }

/-- The token that begins with `c`. -/
def step (s : Scan) (c : Char) (rest : List Char) : Step :=
  if s.place.column == 0 && isDocumentMark (c :: rest) then
    s.documentMark.map fun s => (s, if c == '-' then .documentStart else .documentEnd, 2)
  else match c with
  | '[' => single .listOpen s.openBracket
  | '{' => single .tableOpen s.openBracket
  | ']' => single .listClose s.closeBracket
  | '}' => single .tableClose s.closeBracket
  | ',' => single .comma s.comma
  | '\'' => s.quoted c (singleQuoted rest) rest
  | '"' => s.quoted c (doubleQuoted rest) rest
  | _ =>
    if c == '-' && endsWord rest then single .hyphen s.hyphen
    else if c == '?' && (s.inBrackets || endsWord rest) then single .key s.question
    else if c == ':' && (s.inBrackets || endsWord rest) then single .colon s.colon
    else if s.startsPlain c rest then s.plain c rest
    else .error (s.error .strayCharacter s.place)

/-- The blanks, comments and line breaks in front of a token. Outside brackets, a tab is none of them
where a key may stand. -/
def gapLength (inBrackets tabs comment : Bool) : List Char → Nat
  | [] => 0
  | c :: cs =>
    if isBreak c then 1 + gapLength inBrackets inBrackets false cs
    else if comment || c == ' ' || (tabs && c == '\t') then 1 + gapLength inBrackets tabs comment cs
    else if c == '#' then 1 + gapLength inBrackets tabs true cs
    else 0

/-- Goes over a gap. -/
def skip (s : Scan) (gap : List Char) : Scan :=
  { s with
    place := s.place.advance gap
    keyAllowed := s.keyAllowed || (!s.inBrackets && gap.any isBreak) }

/-- The end of a text. -/
def finish (s : Scan) : Except Error Scan := do
  let s ← (({ s with place := s.place.lineStart } : Scan).closeTo 0).dropCandidate
  return s.mark .finish

/-- Cuts the characters behind a place into tokens, up to the first fault. -/
def scanFrom (s : Scan) (cs : List Char) : Scan × Option Error :=
  let n := gapLength s.inBrackets (s.inBrackets || !s.keyAllowed) false cs
  let here := s.skip (cs.take n)
  match s.checkCandidates with
  | .error e => (s, some e)
  | .ok () =>
    match cs.drop n, List.length_drop (i := n) (l := cs) with
    | [], _ =>
      match here.finish with
      | .error e => (s, some e)
      | .ok done => (done, none)
    | c :: rest, _ =>
      match (here.closeTo (here.place.column + 1)).step c rest with
      | .error e => (s, some e)
      | .ok (next, m, k) =>
        let stop := here.place.advance (c :: rest.take k)
        scanFrom { next with place := stop, tokens := ⟨m, here.place, stop⟩ :: next.tokens }
          (rest.drop k)
termination_by cs.length
decreasing_by
  simp only [List.length_cons, List.length_drop] at *
  omega

/-- The tokens with the ones that stand for keys and the tables that they open. -/
def spliced (s : Scan) : List Token :=
  s.tokens.reverse.zipIdx.flatMap fun (t, i) =>
    match s.keys.lookup i with
    | none => [t]
    | some opens =>
      (if opens then [⟨.blockTable, t.start, t.start⟩] else []) ++ [⟨.key, t.start, t.start⟩, t]

/-- The scan without the tokens that a possible key keeps back. -/
def withoutHeld (s : Scan) : Scan :=
  let count := s.liveCandidates.foldl (fun n k => min n k.number) s.tokens.length
  { s with tokens := s.tokens.drop (s.tokens.length - count) }

end Scan

/-- A character that may stand in a configuration. -/
def isAllowed (c : Char) : Bool :=
  let n := c.toNat
  n == 0x9 || n == 0xA || n == 0xD || (0x20 ≤ n && n ≤ 0x7E) || n == 0x85 ||
    (0xA0 ≤ n && n ≤ 0xFFFD) || 0x10000 ≤ n

/-- The bytes in front of the first character that must not be there. -/
def disallowedAt? (bytes : Nat) : List Char → Option Nat
  | [] => none
  | c :: cs => if isAllowed c then disallowedAt? (bytes + c.utf8Size) cs else some bytes

/-- The tokens of a text, and the error that stands for the rest if there is a fault. A byte order mark
in front of everything does not count. -/
def Token.ofText (text : String) : List Token × Option Error :=
  let (bytes, cs) := match text.toList with
    | '\ufeff' :: cs => (3, cs)
    | cs => (0, cs)
  match disallowedAt? bytes cs with
  | some n => ([], some { fault := .controlCharacter n })
  | none =>
    match Scan.scanFrom {} cs with
    | (s, none) => (s.spliced, none)
    | (s, some e) => (s.withoutHeld.spliced, some e)

end Retouch.Config
