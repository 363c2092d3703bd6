import Retouch.Token.Lexer

/-!
# Tokens lose nothing

The tokens of a source, printed one behind the other, are the source (`join_print_tokenize`): a
scanner only says where to cut. The end of the source is a token without text, and it is the last
one (`endsLast_tokenize`). A word begins with a letter, so it is never spelled like a mark
(`isWord_tokenize`).
-/

namespace Retouch

/-- Only the last token may be the end of the source, and it has no text. -/
def Token.EndsLast : List Token → Prop
  | [] => True
  | t :: ts => (t.kind = .eof → t.text = "" ∧ ts = []) ∧ EndsLast ts

/-- A word begins with a letter, or what counts as one. -/
def Token.IsWord (t : Token) : Prop :=
  t.kind = .identifier → t.text.toList.head?.any Lexer.isWordStart = true

namespace Lexer

theorem numberSuffix_kind (floating : Bool) (cs : List Char) :
    (numberSuffix floating cs).1 ∈ [TokenKind.int, .long, .float, .double] := by
  unfold numberSuffix
  split <;> (repeat' split) <;> simp

theorem numberLength_kind (cs : List Char) :
    (numberLength cs).1 ∈ [TokenKind.int, .long, .float, .double] := by
  unfold numberLength
  split
  · split
    · exact numberSuffix_kind _ _
    · exact numberSuffix_kind _ _
  · exact numberSuffix_kind _ _

variable {c : Char} {cs : List Char} {kind : TokenKind} {n : Nat}

/-- A scanner never answers that a character is the end. -/
theorem tokenLength_ne_eof (h : tokenLength c cs = .ok (kind, n)) : kind ≠ .eof := by
  have number := numberLength_kind (c :: cs)
  unfold tokenLength at h
  grind

theorem isWordStart_of_tokenLength (h : tokenLength c cs = .ok (.identifier, n)) :
    isWordStart c = true := by
  have number := numberLength_kind (c :: cs)
  unfold tokenLength at h
  grind

theorem tokensFrom_ok {offset : Nat} {cs : List Char} {ts : List Token}
    (h : tokensFrom offset cs = .ok ts) :
    String.join (ts.map Token.print) = String.ofList cs ∧ Token.EndsLast ts ∧
      ∀ t ∈ ts, t.IsWord := by
  rw [tokensFrom] at h
  split at h
  · simp at h
  · next n trivia =>
    have whole : String.ofList (cs.take n) ++ String.ofList (cs.drop n) = String.ofList cs := by
      rw [← String.ofList_append, List.take_append_drop]
    split at h
    · next rest =>
      simp only [Except.ok.injEq] at h
      subst h
      rw [rest] at whole
      simpa [Token.EndsLast, Token.print, Token.atEnd, Token.IsWord] using whole
    · next c rest cut =>
      split at h
      · simp at h
      · next kind m found =>
        dsimp only at h
        split at h
        · simp at h
        · next tokens more =>
          simp only [Except.ok.injEq] at h
          subst h
          have shorter : rest.length - m < cs.length := by
            have := congrArg List.length cut
            simp only [List.length_drop, List.length_cons] at this
            omega
          obtain ⟨joined, ends, words⟩ := tokensFrom_ok more
          have word (isWord : kind = .identifier) : isWordStart c = true :=
            isWordStart_of_tokenLength (isWord ▸ found)
          refine ⟨?_, ⟨fun isEof => absurd isEof (tokenLength_ne_eof found), ends⟩,
            List.forall_mem_cons.2 ⟨fun isWord => by simpa using word isWord, words⟩⟩
          rw [List.map_cons, String.join_cons, joined, Token.print, String.append_assoc,
            ← String.ofList_append, List.cons_append, List.take_append_drop, ← cut]
          exact whole
termination_by cs.length

end Lexer

variable {source : String} {tokens : List Token}

theorem join_print_tokenize (h : tokenize source = .ok tokens) :
    String.join (tokens.map Token.print) = source := by
  rw [(Lexer.tokensFrom_ok h).1, String.ofList_toList]

theorem endsLast_tokenize (h : tokenize source = .ok tokens) : Token.EndsLast tokens :=
  (Lexer.tokensFrom_ok h).2.1

theorem isWord_tokenize (h : tokenize source = .ok tokens) : ∀ t ∈ tokens, t.IsWord :=
  (Lexer.tokensFrom_ok h).2.2

end Retouch
