import Retouch.Parser.Basic
import Retouch.Proofs.Token.Gaps

/-!
# Looking ahead by places

The parser may keep all tokens of the source and the place of the next one. A token `n` places ahead
is then an entry of this list, at the last place at most, and the parentheses that are open are a
number that goes down at each closing one. `State.At tokens pos`: the tokens that are left are those
from a place of the list on. There every entry that is asked for exists (`peekAt?_eq`), the number
of open parentheses never falls below zero (`startsLambda?_eq`), and a token that is taken leaves a
place of the list (`State.At.bump`).
-/

namespace Retouch.Parser

namespace Indexed

/-- The token so many places ahead of a place; behind the last one it stays the last one. -/
def peekAt? (tokens : List Token) (pos n : Nat) : Option Token := do
  let last ← tokens.length.ppred
  tokens[min (pos + n) last]?

/-- Whether an arrow stands behind the parenthesis that closes, if `depth` of them are open `n`
places ahead. A list without an end has no answer. -/
def arrowAhead? (tokens : List Token) (pos n depth : Nat) : Option Bool := do
  let t ← peekAt? tokens pos n
  if t.kind == .eof then return false
  else if tokens.length ≤ pos + n then none
  else if t.kind == .punct && t.text == "(" then arrowAhead? tokens pos (n + 1) (depth + 1)
  else if t.kind == .punct && t.text == ")" then
    let depth ← depth.ppred
    if depth == 0 then return (← peekAt? tokens pos (n + 1)).is "->"
    else arrowAhead? tokens pos (n + 1) depth
  else arrowAhead? tokens pos (n + 1) depth
termination_by tokens.length - (pos + n)

def startsLambda? (tokens : List Token) (pos : Nat) : Option Bool := do
  let first ← peekAt? tokens pos 0
  let second ← peekAt? tokens pos 1
  if first.kind == .identifier && !isKeyword first.text && second.is "->" then return true
  else if first.is "(" then arrowAhead? tokens pos 0 0
  else return false

end Indexed

/-- The tokens that are left are those from a place on. -/
structure State.At (tokens : List Token) (pos : Nat) (s : State) : Prop where
  inside : pos < tokens.length
  left : s.tokens = tokens.drop pos

/-- The last token is the end of the source. -/
def HasEnd (tokens : List Token) : Prop :=
  ∃ front last, tokens = front ++ [last] ∧ last.kind = .eof ∧ last.text = ""

variable {tokens : List Token} {pos n : Nat} {s : State}

theorem hasEnd_tokenize {source : String} (lexed : tokenize source = .ok tokens) :
    HasEnd tokens := by
  obtain ⟨front, last, rfl, text⟩ := Lexer.exists_end lexed
  obtain ⟨-, -, isEnd, -⟩ := Lexer.placed_of_tokensFrom lexed rfl
  exact ⟨front, last, rfl, isEnd.2 rfl, text⟩

/-- Behind a token that is not the end there is another one. -/
theorem HasEnd.succ_lt (ended : HasEnd tokens) (inside : pos < tokens.length)
    (more : tokens[pos].kind ≠ .eof) :
    pos + 1 < tokens.length := by
  obtain ⟨front, last, rfl, kind, -⟩ := ended
  rw [List.length_append, List.length_singleton] at inside ⊢
  by_cases atLast : pos = front.length
  · subst atLast
    rw [List.getElem_concat_length rfl] at more
    exact absurd kind more
  · omega

namespace Indexed

open State

theorem peekAt?_inside (h : pos + n < tokens.length) :
    peekAt? tokens pos n = some tokens[pos + n] := by
  have last : tokens.length.ppred = some (tokens.length - 1) := Nat.ppred_eq_some.2 (by omega)
  rw [peekAt?, last, Option.bind_eq_bind, Option.bind_some,
    Nat.min_eq_left (by omega), List.getElem?_eq_getElem h]

theorem peekAt?_behind (ended : HasEnd tokens) (h : tokens.length ≤ pos + n) :
    ∃ t, peekAt? tokens pos n = some t ∧ t.kind = .eof ∧ t.text = "" := by
  obtain ⟨front, last, rfl, kind, text⟩ := ended
  refine ⟨last, ?_, kind, text⟩
  rw [List.length_append, List.length_singleton] at h
  have before : (front ++ [last]).length.ppred = some front.length := Nat.ppred_eq_some.2 (by simp)
  rw [peekAt?, before, Option.bind_eq_bind, Option.bind_some, Nat.min_eq_right (by omega),
    List.getElem?_concat_length]

theorem peekAt_inside (h : s.At tokens pos) (inside : pos + n < tokens.length) :
    s.peekAt n = tokens[pos + n] := by
  rw [State.peekAt, h.left, List.getD_eq_getElem?_getD, List.getElem?_drop,
    List.getElem?_eq_getElem inside,
    Option.getD_some]

theorem peekAt_behind (h : s.At tokens pos) (behind : tokens.length ≤ pos + n) :
    s.peekAt n = .atEnd .empty 0 := by
  rw [State.peekAt, h.left, List.getD_eq_getElem?_getD, List.getElem?_drop,
    List.getElem?_eq_none behind,
    Option.getD_none]

/-- The token that is asked for exists. It is the one that the state gives; behind the last token
only its kind and its text are. -/
theorem peekAt?_eq (ended : HasEnd tokens) (h : s.At tokens pos) (n : Nat) :
    ∃ t, peekAt? tokens pos n = some t ∧
    t.kind = (s.peekAt n).kind ∧ t.text = (s.peekAt n).text ∧
      (pos + n < tokens.length → t = s.peekAt n) := by
  by_cases inside : pos + n < tokens.length
  · exact ⟨_, peekAt?_inside inside, by simp [peekAt_inside h inside]⟩
  · have behind : tokens.length ≤ pos + n := Nat.le_of_not_lt inside
    obtain ⟨t, found, kind, text⟩ := peekAt?_behind ended behind
    rw [peekAt_behind h behind]
    exact ⟨t, found, kind, text, fun held => absurd held inside⟩

theorem is_congr {t t' : Token} (kind : t.kind = t'.kind) (text : t.text = t'.text)
    (word : String) :
    t.is word = t'.is word := by
  rw [Token.is, Token.is, kind, text]

/-- A closing parenthesis finds an open one, and the search ends at the end of the source at the
latest. -/
theorem arrowAhead?_eq (ended : HasEnd tokens)
    (inside : pos + n < tokens.length) {depth : Nat} (opened : 0 < depth) :
    arrowAhead? tokens pos n depth = some (arrowBehind depth (tokens.drop (pos + n))) := by
  induction left : tokens.length - (pos + n) generalizing n depth with
  | zero => omega
  | succ k ih =>
    rw [arrowAhead?, peekAt?_inside inside, Option.bind_eq_bind, Option.bind_some,
      List.drop_eq_getElem_cons inside,
      Nat.add_assoc, arrowBehind]
    have more (eof : ¬(tokens[pos + n].kind == .eof) = true) : pos + (n + 1) < tokens.length :=
      ended.succ_lt inside (by simpa using eof)
    by_cases eof : (tokens[pos + n].kind == .eof) = true
    · rw [if_pos eof, if_pos eof]
      rfl
    rw [if_neg eof, if_neg eof, if_neg (Nat.not_le.2 inside)]
    by_cases opens : (tokens[pos + n].kind == .punct && tokens[pos + n].text == "(") = true
    · rw [if_pos opens, if_pos opens]
      exact ih (more eof) (Nat.succ_pos depth) (by omega)
    rw [if_neg opens, if_neg opens]
    by_cases closes : (tokens[pos + n].kind == .punct && tokens[pos + n].text == ")") = true
    · obtain _ | _ | depth := depth
      · omega
      · have one : (0 + 1 : Nat).ppred = some 0 := rfl
        rw [if_pos closes, if_pos closes, one, Option.bind_eq_bind, Option.bind_some,
          peekAt?_inside (more eof),
          List.drop_eq_getElem_cons (more eof)]
        rfl
      · have down : (depth + 1 + 1).ppred = some (depth + 1) := rfl
        rw [if_pos closes, if_pos closes, down, Option.bind_eq_bind, Option.bind_some]
        exact ih (more eof) (Nat.succ_pos depth) (by omega)
    · rw [if_neg closes, if_neg closes]
      exact ih (more eof) opened (by omega)

/-- A parenthesis is a mark. -/
theorem punct_of_is {source : String} (lexed : tokenize source = .ok tokens) {t : Token}
    (mem : t ∈ tokens)
    (h : t.is "(" = true) : t.kind = .punct ∧ t.text = "(" := by
  simp only [Token.is, Bool.and_eq_true, Bool.or_eq_true, beq_iff_eq] at h
  obtain ⟨word | mark, text⟩ := h
  · have start := isWord_tokenize lexed t mem word
    rw [text] at start
    exact absurd start (by decide)
  · exact ⟨mark, text⟩

/-- The look-ahead for a lambda takes no token that does not exist and closes no parenthesis that is
not open. -/
theorem startsLambda?_eq {source : String} (lexed : tokenize source = .ok tokens)
    (h : s.At tokens pos) :
    startsLambda? tokens pos = some (startsLambda s) := by
  have ended := hasEnd_tokenize lexed
  have inside : pos + 0 < tokens.length := h.inside
  obtain ⟨second, found, kind, text, -⟩ := peekAt?_eq ended h 1
  have front := peekAt_inside h inside
  rw [startsLambda?, peekAt?_inside inside, found, Option.bind_eq_bind, Option.bind_some,
    Option.bind_some, ← front,
    is_congr kind text]
  unfold startsLambda State.isNameAt State.isAt State.is State.peek
  by_cases name : ((s.peekAt 0).kind == .identifier && !isKeyword (s.peekAt 0).text &&
    (s.peekAt 1).is "->") = true
  · rw [if_pos name, name]
    rfl
  rw [if_neg name, Bool.eq_false_iff.2 name, Bool.false_or]
  by_cases opens : (s.peekAt 0).is "(" = true
  · have mark := opens
    rw [front] at mark
    obtain ⟨punct, text⟩ := punct_of_is lexed (List.getElem_mem inside) mark
    have more := ended.succ_lt inside (by rw [punct]; decide)
    have left : tokens.drop pos = tokens[pos + 0] :: tokens.drop (pos + 0 + 1) :=
      List.drop_eq_getElem_cons inside
    rw [if_pos opens, opens, Bool.true_and, h.left, arrowAhead?, peekAt?_inside inside,
      Option.bind_eq_bind,
      Option.bind_some, left, arrowBehind, if_neg (Nat.not_le.2 inside)]
    simp only [punct, text]
    exact arrowAhead?_eq ended more Nat.one_pos
  · rw [if_neg opens, Bool.eq_false_iff.2 opens]
    rfl

end Indexed

/-- A token that is taken leaves a place of the list. -/
theorem State.At.bump (ended : HasEnd tokens) (h : s.At tokens pos) :
    ∃ pos', s.bump.At tokens pos' := by
  have inside : pos + 0 < tokens.length := h.inside
  have front := Indexed.peekAt_inside h inside
  unfold State.bump
  split_ifs with atEnd
  · exact ⟨pos, h⟩
  · have more : tokens[pos + 0].kind ≠ .eof := by
      rw [← front]
      simpa [State.atEnd, State.peek] using atEnd
    exact ⟨pos + 1, ended.succ_lt h.inside more, by rw [h.left, List.tail_drop]⟩

end Retouch.Parser
