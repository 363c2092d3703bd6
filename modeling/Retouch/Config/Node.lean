import Retouch.Config.Token

/-!
# Configurations as trees

A configuration is a tree of scalars, lists and tables. `Written.ofText` reads one. Scalars are kept as they
are written, since the meaning of a scalar without quotes depends on what is expected in its place.

* A fault does not undo what stands in front of it. The tree then ends in a broken node, so that a
  reader who goes through the tree in order meets the first thing that is wrong.
* A value that is left out is an empty scalar. So is a text without any token.
* Behind the value, only the end of the text may follow.
-/

namespace Retouch.Config

/-- A configuration as it is written, with the places at which its parts begin. -/
inductive Node where
  | scalar (place : Place) (s : Scalar)
  | list (place : Place) (items : List Node)
  | table (place : Place) (entries : List (Node × Node))
  /-- Nothing can be read from here on. -/
  | broken (e : Error)

namespace Node

def place : Node → Place
  | scalar p _ | list p _ | table p _ => p
  | broken e => e.place

/-- A value that is left out. -/
def absent (p : Place) : Node := scalar p ⟨"", false⟩

/-! ## Trees from tokens -/

/-- Where a node stands. -/
inductive Style where
  /-- Inside brackets. -/
  | flow
  /-- Outside brackets. -/
  | block
  /-- A key or a value of a table over several lines. The items of a list may stand in the column of
  the key. -/
  | entry
deriving DecidableEq, Repr

/-- A part of a tree and the tokens behind it; no tokens are left behind a fault. -/
abbrev Parsed (α : Type) := α × Option (List Token)

/-- Nothing but a fault. -/
def fail (fault : Fault) (place beginning : Place) : Parsed Node :=
  (.broken { fault, place, beginning }, none)

/-- The rest of a list whose tokens end in a fault. -/
def failList (fault : Fault) (place beginning : Place) : Parsed (List Node) :=
  ([.broken { fault, place, beginning }], none)

/-- The rest of a table whose tokens end in a fault. -/
def failTable (e : Error) : Parsed (List (Node × Node)) := ([(.broken e, .broken e)], none)

/-- Goes on behind a part unless it is broken. -/
def Parsed.followedBy {α : Type} (p : Parsed α) (rest : List Token → Parsed (List α)) :
    Parsed (List α) :=
  match p with
  | (a, none) => ([a], none)
  | (a, some ts) => let (as, left) := rest ts; (a :: as, left)

/-- A pair of a key and of the value behind it. -/
def Parsed.pairedBy (key : Parsed Node) (value : List Token → Parsed Node) : Parsed (Node × Node) :=
  match key with
  | (k, none) => ((k, k), none)
  | (k, some ts) => let (v, left) := value ts; ((k, v), left)

/-- The marks that a value in brackets cannot begin with, where `close` ends the bracket. -/
def endsFlowValue (close m : Mark) : Bool := m == .comma || m == close

/-- The marks that no part of an entry over several lines begins with. -/
def endsBlockPart (m : Mark) : Bool := m == .key || m == .colon || m == .blockEnd

mutual

/-- The node at the beginning of the tokens, which end in `e` if there is a fault among them. -/
def parse (e : Error) : Nat → Style → List Token → Parsed Node
  | 0, _, _ | _, _, [] => (.broken e, none)
  | fuel + 1, style, t :: ts =>
    match t.mark, style with
    | .scalar s, _ => (.scalar t.start s, some ts)
    | .listOpen, _ =>
      let (items, left) := parseFlowItems e fuel t.start true ts
      (.list t.start items, left)
    | .tableOpen, _ =>
      let (entries, left) := parseFlowEntries e fuel t.start true ts
      (.table t.start entries, left)
    | _, .flow => fail .noFlowContent t.start t.start
    | .blockList, _ =>
      let (items, left) := parseBlockItems e fuel t.start ts
      (.list t.start items, left)
    | .blockTable, _ =>
      let (entries, left) := parseBlockEntries e fuel t.start ts
      (.table t.start entries, left)
    | .hyphen, .entry =>
      let (items, left) := parseOutdentedItems e fuel (t :: ts)
      (.list t.start items, left)
    | _, _ => fail .noBlockContent t.start t.start

/-- The items of a list in brackets that begins at a place. -/
def parseFlowItems (e : Error) : Nat → Place → Bool → List Token → Parsed (List Node)
  | 0, _, _, _ | _, _, _, [] => ([.broken e], none)
  | fuel + 1, beginning, first, t :: ts =>
    if t.mark == .listClose then ([], some ts)
    else if first then parseFlowItem e fuel beginning (t :: ts)
    else if t.mark == .comma then parseFlowItem e fuel beginning ts
    else failList .openList t.start beginning

/-- An item of a list in brackets and the items behind it; a pair is a table of its own. -/
def parseFlowItem (e : Error) : Nat → Place → List Token → Parsed (List Node)
  | 0, _, _ | _, _, [] => ([.broken e], none)
  | fuel + 1, beginning, t :: ts =>
    if t.mark == .listClose then ([], some ts)
    else if t.mark == .key then
      let (entry, left) := parseFlowPair e fuel ts
      Parsed.followedBy (.table t.start [entry], left) (parseFlowItems e fuel beginning false)
    else (parse e fuel .flow (t :: ts)).followedBy (parseFlowItems e fuel beginning false)

/-- The key and the value of a pair in a list. -/
def parseFlowPair (e : Error) : Nat → List Token → Parsed (Node × Node)
  | 0, _ | _, [] => ((.broken e, .broken e), none)
  | fuel + 1, t :: ts =>
    let key : Parsed Node :=
      if t.mark == .colon || endsFlowValue .listClose t.mark then (absent t.stop, some ts)
      else parse e fuel .flow (t :: ts)
    key.pairedBy (parseFlowValue e fuel .listClose)

/-- The value behind a key in brackets, from the colon on. -/
def parseFlowValue (e : Error) : Nat → Mark → List Token → Parsed Node
  | 0, _, _ | _, _, [] => (.broken e, none)
  | fuel + 1, close, t :: ts =>
    if t.mark == .colon then
      match ts with
      | [] => (.broken e, none)
      | next :: _ =>
        if endsFlowValue close next.mark then (absent next.start, some ts)
        else parse e fuel .flow ts
    else (absent t.start, some (t :: ts))

/-- The entries of a table in brackets that begins at a place. -/
def parseFlowEntries (e : Error) : Nat → Place → Bool → List Token → Parsed (List (Node × Node))
  | 0, _, _, _ | _, _, _, [] => failTable e
  | fuel + 1, beginning, first, t :: ts =>
    if t.mark == .tableClose then ([], some ts)
    else if first then parseFlowEntry e fuel beginning (t :: ts)
    else if t.mark == .comma then parseFlowEntry e fuel beginning ts
    else failTable { fault := .openTable, place := t.start, beginning }

/-- An entry of a table in brackets and the entries behind it. A key without a colon has no value. -/
def parseFlowEntry (e : Error) : Nat → Place → List Token → Parsed (List (Node × Node))
  | 0, _, _ | _, _, [] => failTable e
  | fuel + 1, beginning, t :: ts =>
    if t.mark == .tableClose then ([], some ts)
    else
      let entry : Parsed (Node × Node) :=
        if t.mark == .key then (parseFlowKey e fuel ts).pairedBy (parseFlowValue e fuel .tableClose)
        else (parse e fuel .flow (t :: ts)).pairedBy fun ts =>
          match ts with
          | [] => (.broken e, none)
          | next :: _ => (absent next.start, some ts)
      entry.followedBy (parseFlowEntries e fuel beginning false)

/-- A key in brackets. -/
def parseFlowKey (e : Error) : Nat → List Token → Parsed Node
  | 0, _ | _, [] => (.broken e, none)
  | fuel + 1, t :: ts =>
    if t.mark == .colon || endsFlowValue .tableClose t.mark then (absent t.start, some (t :: ts))
    else parse e fuel .flow (t :: ts)

/-- The items of a list over several lines that begins at a place. -/
def parseBlockItems (e : Error) : Nat → Place → List Token → Parsed (List Node)
  | 0, _, _ | _, _, [] => ([.broken e], none)
  | fuel + 1, beginning, t :: ts =>
    if t.mark == .hyphen then
      (parseBlockPart e fuel .block t.stop (fun m => m == .hyphen || m == .blockEnd) ts).followedBy
        (parseBlockItems e fuel beginning)
    else if t.mark == .blockEnd then ([], some ts)
    else failList .noItem t.start beginning

/-- The items of a list in the column of the key in front of it. -/
def parseOutdentedItems (e : Error) : Nat → List Token → Parsed (List Node)
  | 0, _ | _, [] => ([.broken e], none)
  | fuel + 1, t :: ts =>
    if t.mark == .hyphen then
      (parseBlockPart e fuel .block t.stop (fun m => m == .hyphen || endsBlockPart m) ts).followedBy
        (parseOutdentedItems e fuel)
    else ([], some (t :: ts))

/-- The entries of a table over several lines that begins at a place. -/
def parseBlockEntries (e : Error) : Nat → Place → List Token → Parsed (List (Node × Node))
  | 0, _, _ | _, _, [] => failTable e
  | fuel + 1, beginning, t :: ts =>
    if t.mark == .key then
      ((parseBlockPart e fuel .entry t.stop endsBlockPart ts).pairedBy
        (parseBlockValue e fuel)).followedBy (parseBlockEntries e fuel beginning)
    else if t.mark == .blockEnd then ([], some ts)
    else failTable { fault := .noKey, place := t.start, beginning }

/-- The value behind a key outside brackets, from the colon on. -/
def parseBlockValue (e : Error) : Nat → List Token → Parsed Node
  | 0, _ | _, [] => (.broken e, none)
  | fuel + 1, t :: ts =>
    if t.mark == .colon then parseBlockPart e fuel .entry t.stop endsBlockPart ts
    else (absent t.start, some (t :: ts))

/-- A part that is left out in front of the marks that `ends` accepts. -/
def parseBlockPart (e : Error) :
    Nat → Style → Place → (Mark → Bool) → List Token → Parsed Node
  | 0, _, _, _, _ | _, _, _, _, [] => (.broken e, none)
  | fuel + 1, style, place, ends, t :: ts =>
    if ends t.mark then (absent place, some (t :: ts)) else parse e fuel style (t :: ts)

end

end Node

/-- A text as a tree. -/
structure Written where
  root : Node
  /-- What is wrong behind the value. -/
  trailing : Option Error := none

namespace Written

/-- The value of a document that has begun. -/
def parseRoot (e : Error) (fuel : Nat) : List Token → Node.Parsed Node
  | [] => (.broken e, none)
  | t :: ts =>
    if t.mark == .documentStart || t.mark == .documentEnd || t.mark == .finish then
      (.absent t.start, some (t :: ts))
    else Node.parse e fuel .block (t :: ts)

/-- The value of the first document, with a mark in front of it or without. -/
def parseDocument (e : Error) (fuel : Nat) (ts : List Token) : Node.Parsed Node :=
  match ts.dropWhile (·.mark == .documentEnd) with
  | t :: rest => if t.mark == .documentStart then parseRoot e fuel rest else parseRoot e fuel (t :: rest)
  | [] => (.broken e, none)

/-- What is wrong with the tokens behind the value. -/
def trailingError (e : Error) : List Token → Option Error
  | [] => some e
  | t :: ts =>
    match (t :: ts).dropWhile (·.mark == .documentEnd) with
    | ⟨.finish, _, _⟩ :: _ => none
    | _ => some { fault := .secondDocument }

/-- What stands in tokens, which end in an error if there is a fault among them. -/
def ofTokens (ts : List Token) (e : Option Error) : Written :=
  let e := e.getD { fault := .openQuote }
  match parseDocument e (8 * ts.length + 8) ts with
  | (root, none) => { root }
  | (root, some rest) => { root, trailing := trailingError e rest }

def ofText (text : String) : Written :=
  let (ts, e) := Token.ofText text
  ofTokens ts e

end Written

end Retouch.Config
