import Mathlib.Data.List.TakeWhile
import Retouch.Proofs.Outcome
import Retouch.Proofs.Text.Slices
import Retouch.Proofs.Token.Cutting

/-!
# Tokens and the gaps in front of them

The tokens of a source and the gaps in front of them lie side by side and leave nothing out
(`tokens_tile_source`). A gap holds blanks and whole comments and nothing else; only in the last
one, in front of the end of the source, a comment of one line may do without its line feed. The
offset of a token counts the bytes of all that stands in front of its text.
-/

namespace Retouch

namespace Lexer

/-- What stands behind the beginning of a comment of several lines: its first end is its last two
characters. -/
def EndsComment (body : List Char) : Prop :=
  ∃ text, body = text ++ ['*', '/'] ∧ ¬['*', '/'] <:+: text ++ ['*']

theorem endsComment_of_length {cs : List Char} {n : Nat} (h : blockCommentLength? cs = some n) :
    EndsComment (cs.take n) := by
  induction cs using blockCommentLength?.induct generalizing n with
  | case1 => cases h
  | case2 cs =>
    cases h
    exact ⟨[], rfl, fun inside => by simpa using inside.length_le⟩
  | case3 c cs opens ih =>
    rw [blockCommentLength?.eq_3 c cs opens] at h
    obtain ⟨m, found, rfl⟩ := Option.map_eq_some_iff.1 h
    obtain ⟨text, taken, free⟩ := ih found
    refine ⟨c :: text, by rw [List.take_succ_cons, taken, List.cons_append], fun inside => ?_⟩
    rw [List.cons_append, List.infix_cons_iff] at inside
    obtain front | inside := inside
    · -- An end at the front would have been found there.
      obtain ⟨rfl, slash⟩ := List.cons_prefix_cons.1 front
      obtain _ | ⟨d, text⟩ := text
      · exact absurd (List.cons_prefix_cons.1 slash).1 (by decide)
      · obtain ⟨rfl, -⟩ := List.cons_prefix_cons.1 slash
        obtain _ | ⟨d, cs⟩ := cs
        · cases found
        · obtain _ | m := m
          · simp at taken
          · obtain ⟨rfl, -⟩ := List.cons.inj taken
            exact opens cs rfl rfl
    · exact free inside

/-- Blanks and whole comments. A comment of one line has its line feed behind it, unless it may be
the last thing of all. -/
inductive Gap (last : Prop) : List Char → Prop
  | nil : Gap last []
  | blank {c : Char} {cs : List Char} : c ∈ [' ', '\t', '\n', '\r', '\x0c'] → Gap last cs →
    Gap last (c :: cs)
  | line {text cs : List Char} : '\n' ∉ text → Gap last cs →
    Gap last ('/' :: '/' :: (text ++ '\n' :: cs))
  | lastLine {text : List Char} : last → '\n' ∉ text → Gap last ('/' :: '/' :: text)
  | block {body cs : List Char} : EndsComment body → Gap last cs →
    Gap last ('/' :: '*' :: (body ++ cs))

namespace Gap

variable {last : Prop} {cs : List Char}

theorem imp {last' : Prop} (h : Gap last cs) (weaker : last → last') : Gap last' cs := by
  induction h with
  | nil => exact .nil
  | blank blank _ ih => exact .blank blank ih
  | line free _ ih => exact .line free ih
  | lastLine held free => exact .lastLine (weaker held) free
  | block ends _ ih => exact .block ends ih

theorem behind_feed {feed : Char} (notSlash : feed ≠ '/') (h : Gap last (feed :: cs)) :
    Gap last cs := by
  cases h with
  | blank _ rest => exact rest
  | line | lastLine | block => exact absurd rfl notSlash

end Gap

theorem mem_blanks_of_isTriviaBlank {c : Char} (h : isTriviaBlank c = true) :
    c ∈ [' ', '\t', '\n', '\r', '\x0c'] := by
  simpa [isTriviaBlank, or_assoc] using h

/-- What is skipped is a gap. Only a gap that nothing stands behind may end within a comment of one
line. -/
theorem gap_of_triviaLength {cs : List Char} {n : Nat} (h : triviaLength cs = .ok n) :
    Gap (cs.drop n = []) (cs.take n) := by
  induction cs using triviaLength.induct generalizing n with
  | case1 => simpa using Gap.nil
  | case2 rest =>
    rename_i m more ih
    change triviaLength (rest.drop (lineLength rest)) = .ok m at more
    rw [triviaLength.eq_2, more] at h
    cases h
    have inner : Gap ((rest.drop (lineLength rest)).drop m = [])
      ((rest.drop (lineLength rest)).take m) := ih more
    have whole : (('/' :: '/' :: rest).take (2 + lineLength rest + m)) =
        '/' :: '/' :: (rest.take (lineLength rest) ++ (rest.drop (lineLength rest)).take m) := by
      rw [Nat.add_assoc, Nat.add_comm 2, List.take_succ_cons, List.take_succ_cons, ← List.take_add]
    have left : (('/' :: '/' :: rest).drop (2 + lineLength rest + m)) =
        (rest.drop (lineLength rest)).drop m := by
      rw [Nat.add_assoc, Nat.add_comm 2, List.drop_succ_cons, List.drop_succ_cons, List.drop_drop]
    rw [whole, left]
    obtain all | ⟨text, tail, free, rfl, cut⟩ := lineLength_cases rest
    · have free : '\n' ∉ rest := by
        intro feed
        have same := List.takeWhile_eq_self_iff.1 ((List.takeWhile_prefix _).eq_of_length all) _
          feed
        simp at same
      rw [all, List.drop_length, List.take_length, List.take_nil, List.append_nil]
      exact .lastLine (by simp) free
    · rw [cut, List.drop_left] at more
      rw [cut, List.drop_left] at inner
      rw [cut, List.drop_left, List.take_left]
      -- The line feed is skipped as a blank of its own.
      obtain _ | m := m
      · exact absurd more (triviaLength_blank_ne rfl tail)
      · exact .line free (inner.behind_feed (by decide))
  | case3 rest =>
    rename_i m more _
    change triviaLength (rest.drop (lineLength rest)) = .error m at more
    rw [triviaLength.eq_2, more] at h
    cases h
  | case4 rest opens =>
    rw [triviaLength.eq_3, opens] at h
    cases h
  | case5 rest k ends m more ih =>
    rw [triviaLength.eq_3, ends] at h
    dsimp only at h
    rw [more] at h
    cases h
    rw [Nat.add_assoc, Nat.add_comm 2, List.take_succ_cons, List.take_succ_cons, List.take_add,
      List.drop_succ_cons, List.drop_succ_cons, ← List.drop_drop]
    exact .block (endsComment_of_length ends) (ih more)
  | case6 rest k ends m more =>
    rw [triviaLength.eq_3, ends] at h
    dsimp only at h
    rw [more] at h
    cases h
  | case7 c rest line block isBlank m more ih =>
    rw [triviaLength.eq_4 _ _ line block, if_pos isBlank, more] at h
    cases h
    rw [Nat.add_comm, List.take_succ_cons, List.drop_succ_cons]
    exact .blank (mem_blanks_of_isTriviaBlank isBlank) (ih more)
  | case8 c rest line block isBlank m more =>
    rw [triviaLength.eq_4 _ _ line block, if_pos isBlank, more] at h
    cases h
  | case9 c rest line block solid =>
    rw [triviaLength.eq_4 _ _ line block, if_neg solid] at h
    cases h
    exact .nil

variable {offset : Nat} {cs : List Char} {tokens : List Token}

/-- Tokens side by side, in front of what is left, from an offset on. -/
theorem placed_of_tokensFrom (h : tokensFrom offset cs = .ok tokens) {front back : List Token}
    {t : Token}
    (split : tokens = front ++ t :: back) :
    t.offset = offset + Text.byteSize (Token.chars front ++ t.leading.text.toList) ∧
      Gap (back = []) t.leading.text.toList ∧ (t.kind = .eof ↔ back = []) ∧
        (t.text = "" ↔ back = []) := by
  induction front generalizing offset cs tokens with
  | nil =>
    subst split
    obtain ⟨t', single, isEnd, text, lead, ends, place⟩ |
      ⟨t', ts', ks, r, offset', first, word, whole, trivia, cut, more, place, -⟩ :=
        tokensFrom_cases h
    · obtain ⟨rfl, rfl⟩ := List.cons.inj single
      have gap := gap_of_triviaLength ends
      rw [List.take_length, List.drop_length, lead] at gap
      refine ⟨by rw [place, lead]; rfl, gap.imp fun _ => rfl, iff_of_true isEnd rfl,
        iff_of_true text rfl⟩
    · obtain ⟨rfl, rfl⟩ := List.cons.inj first
      have some : back ≠ [] := by
        rintro rfl
        obtain ⟨t', none, -⟩ | ⟨t', ts', ks, r, offset', none, -⟩ := tokensFrom_cases more
        · cases none
        · cases none
      have spelled : t.text.toList ≠ [] := by
        obtain ⟨c, y, chars, -⟩ := cut.taken
        simp [chars]
      have skipped : triviaLength cs = .ok t.leading.text.toList.length := by
        rw [whole]
        exact trivia.length_append cut.solid
      have gap := gap_of_triviaLength skipped
      rw [whole, List.take_left, List.drop_left] at gap
      refine ⟨place, gap.imp fun none => ?_, iff_of_false word some,
        iff_of_false (fun none => ?_) some⟩
      · exact absurd (List.append_eq_nil_iff.1 none).1 spelled
      · exact spelled (by rw [none]; rfl)
  | cons a front ih =>
    subst split
    obtain ⟨t', single, -⟩ | ⟨t', ts', ks, r, offset', first, -, -, -, -, more, place, next⟩ :=
      tokensFrom_cases h
    · simp at single
    · obtain ⟨rfl, rfl⟩ := List.cons.inj first
      obtain ⟨placed, rest⟩ := ih more rfl
      refine ⟨?_, rest⟩
      rw [placed, next, place]
      simp only [Token.chars, List.flatMap_cons, Text.byteSize_append]
      omega

end Lexer

theorem Token.toList_join_print (tokens : List Token) :
    (String.join (tokens.map Token.print)).toList = Token.chars tokens := by
  rw [String.toList_join, List.flatMap_map, Token.chars]
  congr
  funext t
  rw [Token.print, String.toList_append]

/-- The tokens of a source leave nothing out: with the gaps in front of them they are the source,
each one stands where its offset says, only the last one is the end and only the end has no text,
and the gaps hold nothing but blanks and whole comments. -/
theorem tokens_tile_source {source : String} {tokens : List Token}
    (h : tokenize source = .ok tokens) :
    String.join (tokens.map Token.print) = source ∧
      (∀ (front : List Token) (t : Token) (back : List Token), tokens = front ++ t :: back →
        t.offset = (String.join (front.map Token.print) ++ t.leading.text).utf8ByteSize ∧
          Lexer.Gap (back = []) t.leading.text.toList) ∧
      ∃ (front : List Token) (last : Token), tokens = front ++ [last] ∧ last.kind = .eof ∧
        last.text = "" ∧
        ∀ t ∈ front, t.kind ≠ .eof ∧ t.text ≠ "" := by
  refine ⟨join_print_tokenize h, fun front t back split => ?_, ?_⟩
  · obtain ⟨place, gap, -⟩ := Lexer.placed_of_tokensFrom h split
    refine ⟨?_, gap⟩
    rw [place, ← Text.byteSize_toList, String.toList_append, Token.toList_join_print, Nat.zero_add]
  · obtain ⟨front, last, rfl, -⟩ := Lexer.exists_end h
    obtain ⟨-, -, isEnd, empty⟩ := Lexer.placed_of_tokensFrom h rfl
    refine ⟨front, last, rfl, isEnd.2 rfl, empty.2 rfl, fun t mem => ?_⟩
    obtain ⟨front, back, rfl⟩ := List.append_of_mem mem
    have inside : front ++ t :: back ++ [last] = front ++ t :: (back ++ [last]) := by simp
    obtain ⟨-, -, isEnd, empty⟩ := Lexer.placed_of_tokensFrom h inside
    exact ⟨fun eof => by simpa using isEnd.1 eof, fun none => by simpa using empty.1 none⟩

/-- Behind a letter of two bytes, and in front of a comment that the end of the source ends. -/
theorem tokens_tile_source_letters :
    let source := "/* ä */ ä += 1; // end"
    ∃ tokens, tokenize source = .ok tokens ∧
      tokens.map (fun t => (t.leading.text, t.text, t.offset)) =
        [("/* ä */ ", "ä", 9), (" ", "+=", 12), (" ", "1", 15), ("", ";", 16),
          (" // end", "", 24)] ∧
      String.join (tokens.map Token.print) = source ∧
      (∀ (front : List Token) (t : Token) (back : List Token), tokens = front ++ t :: back →
        t.offset = (String.join (front.map Token.print) ++ t.leading.text).utf8ByteSize ∧
          Lexer.Gap (back = []) t.leading.text.toList) ∧
      ∃ (front : List Token) (last : Token), tokens = front ++ [last] ∧ last.kind = .eof ∧
        last.text = "" ∧
        ∀ t ∈ front, t.kind ≠ .eof ∧ t.text ≠ "" := by
  intro source
  have run : (tokenize source).toOption.any (fun tokens =>
      tokens.map (fun t => (t.leading.text, t.text, t.offset)) ==
        [("/* ä */ ", "ä", 9), (" ", "+=", 12), (" ", "1", 15), ("", ";", 16), (" // end", "", 24)])
          = true := by
    unfold tokenize
    rw [Text.toList_closed source rfl]
    decide +kernel
  obtain ⟨tokens, lexed, cut⟩ := exists_of_any run
  exact ⟨tokens, lexed, by simpa using cut, tokens_tile_source lexed⟩

end Retouch
