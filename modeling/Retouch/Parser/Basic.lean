import Retouch.Token.Lexer
import Retouch.Token.Literal
import Retouch.Tree.Node

/-!
# Reading tokens

The state of the parser is the list of tokens that are left. The outermost node that begins at a
token owns the trivia in front of it: `leading` hands it out once, and `hoist` moves it up when a
wrapper is recognised only after its first child was read (`a.b`, `x + y`).

A look-ahead is a function of the state that answers without changing it.
-/

namespace Retouch.Parser

/-- The tokens that are left, whether the trivia of the first one was handed out, and the next free
node id. -/
structure State where
  tokens : List Token
  taken : Bool
  nextId : NodeId

abbrev Parse := StateT State (Except SyntaxError)

namespace State

/-- The token `n` places ahead; behind the last token its end goes on. -/
def peekAt (s : State) (n : Nat) : Token := s.tokens.getD n (Token.atEnd .empty 0)

def peek (s : State) : Token := s.peekAt 0

def is (s : State) (text : String) : Bool := s.peek.is text

def isAt (s : State) (n : Nat) (text : String) : Bool := (s.peekAt n).is text

def atEnd (s : State) : Bool := s.peek.kind == .eof

/-- A word that is no keyword stands `n` places ahead. -/
def isNameAt (s : State) (n : Nat) : Bool :=
  (s.peekAt n).kind == .identifier && !isKeyword (s.peekAt n).text

def isPrimitive (s : State) : Bool :=
  s.peek.kind == .identifier && (Primitive.ofKeyword? s.peek.text).isSome

/-- The state behind the first token; the end is never passed. -/
def bump (s : State) : State :=
  if s.atEnd then s else { s with tokens := s.tokens.tail, taken := false }

/-- What is asked for is not there. -/
def fault (s : State) (need : Need) : SyntaxError :=
  ⟨s.peek.offset, .unexpectedToken need (if s.atEnd then none else some s.peek.text)⟩

end State

/-- A question about the state. -/
def ask (question : State → Bool) : Parse Bool := return question (← get)

def is (text : String) : Parse Bool := ask (·.is text)

def refuse {α : Type} (need : Need) : Parse α := do throw ((← get).fault need)

/-- The bound on the depth is used up. -/
def tooDeep {α : Type} : Parse α := do throw ⟨(← get).peek.offset, .tooDeep⟩

def fresh : Parse NodeId := do
  let s ← get
  set { s with nextId := s.nextId + 1 }
  return s.nextId

/-- The trivia in front of the first token, the first time it is asked for. -/
def leading : Parse Space := do
  let s ← get
  if s.taken then return .empty
  set { s with taken := true }
  return s.peek.leading

def bump : Parse Token := do
  let s ← get
  set s.bump
  return s.peek

/-- The trivia in front of the first token, and the token. -/
def next : Parse (Space × Token) := return (← leading, ← bump)

/-- The trivia in front of a word or a mark that must stand here. -/
def expect (text : String) : Parse Space := do
  if ← is text then return (← next).1
  refuse (.mark text)

/-- An identifier, which is no keyword. -/
def ident : Parse Identifier := do
  if ← ask (·.isNameAt 0) then
    let (space, token) ← next
    return { id := ← fresh, leading := space, name := token.text }
  refuse .identifier

/-- An identifier that may be a keyword. -/
def word : Parse Identifier := do
  if ← ask (·.peek.kind == .identifier) then
    let (space, token) ← next
    return { id := ← fresh, leading := space, name := token.text }
  refuse .identifier

/-- An expression without its leading trivia, and the trivia. -/
def hoist (e : Expression) : Space × Expression := (e.leading, e.withLeading .empty)

def hoistType (t : TypeTree) : Space × TypeTree := (t.leading, t.withLeading .empty)

/-- Elements with commas between them, at least one. -/
def commaSeparated {α : Type} (element : Parse α) : Nat → Parse (List (Padded α))
  | 0 => tooDeep
  | n + 1 => do
    let value ← element
    if ← is "," then
      let after ← expect ","
      return ⟨value, after⟩ :: (← commaSeparated element n)
    return [.tight value]

/-- A delimited list of elements. -/
def container {α : Type} (opening closing : String) (element : Parse α) (n : Nat) :
    Parse (Container α) := do
  let before ← expect opening
  let elements ← if ← is closing then pure [] else commaSeparated element n
  let close ← expect closing
  return ⟨before, elements, close⟩

/-- A list of elements behind a keyword, without a closing delimiter. -/
def keywordList {α : Type} (keyword : String) (element : Parse α) (n : Nat) :
    Parse (Container α) := do
  let before ← expect keyword
  let elements ← commaSeparated element n
  return ⟨before, elements, .empty⟩

/-- The segments that extend a qualified name. -/
def nameRest (name : Expression) : Nat → Parse Expression
  | 0 => tooDeep
  | n + 1 => do
    if ← ask fun s => s.is "." && s.isNameAt 1 then
      let dot ← expect "."
      let segment ← ident
      let (space, target) := hoist name
      nameRest (.fieldAccess ⟨← fresh, space, target, dot, segment, .unknown⟩) n
    else return name

/-- An identifier or a chain of field accesses on one. -/
def qualifiedName (n : Nat) : Parse Expression := do
  nameRest (.identifier (← ident)) n

/-- The brackets that make arrays of a type. -/
def arrayRest (tree : TypeTree) : Nat → Parse TypeTree
  | 0 => tooDeep
  | n + 1 => do
    if ← ask fun s => s.is "[" && s.isAt 1 "]" then
      let opening ← expect "["
      let closing ← expect "]"
      let (space, element) := hoistType tree
      arrayRest (.array (← fresh) space element opening closing .unknown) n
    else return tree

mutual

/-- A type without brackets behind it: a wildcard, a primitive type or a class with its type
arguments. -/
def typeBase : Nat → Parse TypeTree
  | 0 => tooDeep
  | n + 1 => do
    let s ← get
    if s.is "?" then
      let space ← expect "?"
      let s ← get
      if s.is "extends" || s.is "super" then
        let before ← leading
        let _ ← bump
        let bounded ← typeTree n
        let bound := if s.is "extends" then WildcardBound.extends else .super
        return .wildcard (← fresh) space (some ⟨before, bound⟩) (some bounded)
      return .wildcard (← fresh) space none none
    match if s.isPrimitive then Primitive.ofKeyword? s.peek.text else none with
    | some p =>
      let (space, _) ← next
      return .primitive (← fresh) space p
    | none =>
      let name ← qualifiedName n
      if ← is "<" then
        let (space, clazz) := hoist name
        let arguments ← container "<" ">" (typeTree n) n
        return .parameterized (← fresh) space clazz arguments .unknown
      return .named name

/-- A type, with the brackets behind it. -/
def typeTree : Nat → Parse TypeTree
  | 0 => tooDeep
  | n + 1 => do
    let base ← typeBase n
    arrayRest base n

end

/-- What a parser leaves behind, if it succeeds from `s`. -/
def behind? {α : Type} (p : Parse α) (s : State) : Option State :=
  match p s with
  | .ok (_, s) => some s
  | .error _ => none

/-- Look-ahead: a primitive type, or a type and a name in front of `=`, `;`, `,` or `:`. -/
def declaresVariable (n : Nat) (s : State) : Bool :=
  (s.isPrimitive && !s.isAt 1 ".") ||
    (s.isNameAt 0 && (behind? (typeTree n) s).any fun s =>
      s.isNameAt 0 && [ "=", ";", ",", ":"].any (s.isAt 1))

/-- Look-ahead at an opening parenthesis: a type stands in parentheses, and behind them something that
a cast may apply to. After a primitive type anything may follow. -/
def isCast (n : Nat) (s : State) : Bool :=
  let inside := s.bump
  (behind? (typeTree n) inside).any fun s =>
    s.is ")" && (inside.isPrimitive ||
      let following := s.peekAt 1
      match following.kind with
      | .identifier => following.text != "instanceof"
      | .punct => ["(", "!", "~"].contains following.text
      | .eof => false
      | _ => true)

/-- The token list behind a parenthesis that closes, `depth` of them being open, if it begins with an
arrow. -/
def arrowBehind (depth : Nat) : List Token → Bool
  | [] => false
  | t :: ts =>
    if t.kind == .eof then false
    else if t.kind == .punct && t.text == "(" then arrowBehind (depth + 1) ts
    else if t.kind == .punct && t.text == ")" then
      if depth ≤ 1 then (ts.head?.any (·.is "->")) else arrowBehind (depth - 1) ts
    else arrowBehind depth ts

/-- Look-ahead: a name or a parenthesis that closes stands in front of an arrow. -/
def startsLambda (s : State) : Bool :=
  (s.isNameAt 0 && s.isAt 1 "->") || (s.is "(" && arrowBehind 0 s.tokens)

/-- The binary operator at the front and the number of tokens it takes; `>` marks are joined only when
nothing stands between them. -/
def binaryOp? (s : State) : Option (BinaryOp × Nat) :=
  let joined := fun n => s.isAt n ">" && (s.peekAt n).leading.isEmpty
  match s.peek.kind with
  | .identifier => if s.peek.text == "instanceof" then some (.instanceOf, 1) else none
  | .punct =>
    match s.peek.text with
    | "||" => some (.or, 1)
    | "&&" => some (.and, 1)
    | "|" => some (.bitOr, 1)
    | "^" => some (.bitXor, 1)
    | "&" => some (.bitAnd, 1)
    | "==" => some (.equal, 1)
    | "!=" => some (.notEqual, 1)
    | "<" => some (.lessThan, 1)
    | "<=" => some (.lessThanOrEqual, 1)
    | ">" =>
      if joined 1 && joined 2 then some (.unsignedShiftRight, 3)
      else if joined 1 then some (.shiftRight, 2)
      else some (.greaterThan, 1)
    | ">=" => some (.greaterThanOrEqual, 1)
    | "<<" => some (.shiftLeft, 1)
    | "+" => some (.addition, 1)
    | "-" => some (.subtraction, 1)
    | "*" => some (.multiplication, 1)
    | "/" => some (.division, 1)
    | "%" => some (.modulo, 1)
    | _ => none
  | _ => none

/-- The operator in front of an operand. -/
def unaryOp? (s : State) : Option UnaryOp :=
  if s.peek.kind == .punct then
    match s.peek.text with
    | "!" => some .not
    | "~" => some .complement
    | "-" => some .negative
    | "+" => some .positive
    | "++" => some .preIncrement
    | "--" => some .preDecrement
    | _ => none
  else none

/-- The literal at the front. -/
def literal : Parse Expression := do
  let (space, token) ← next
  match Literals.value? token with
  | some value => return .literal { id := ← fresh, leading := space, value, source := token.text }
  | none => throw ⟨token.offset, .invalidLiteral token.text⟩

end Retouch.Parser
