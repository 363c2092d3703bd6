import Mathlib.Data.List.DropRight
import Retouch.Proofs.Parser.Refusals
import Retouch.Proofs.Token.Decoding

/-!
# A front end that fails nowhere

The lexer by places, the literals by places and the look-ahead by places give what the definitions
without places give, so none of their indices and slices fails. What is refused is refused at a
place of the source, and the line and the column of this place are counted from what stands in front
of it (`frontEnd_safe`).
-/

namespace Retouch

open Text (byteSize)

/-! ## Lines and columns -/

/-- The position behind some characters: their line feeds and, of the bytes, those behind the last
of them. -/
def Position.behind (front : List Char) : Position :=
  ⟨1 + front.count '\n', 1 + byteSize (front.rtakeWhile (· != '\n'))⟩

namespace Position

theorem advance_zero (pos : Position) (cs : List Char) : pos.advance 0 cs = pos := by
  obtain _ | ⟨c, cs⟩ := cs
  · rfl
  · rw [advance, if_pos c.utf8Size_pos]

theorem advance_cons (pos : Position) (c : Char) (cs : List Char) (n : Nat) :
    pos.advance (c.utf8Size + n) (c :: cs) =
      if c == '\n' then advance ⟨pos.line + 1, 1⟩ n cs else advance
        ⟨pos.line, pos.column + c.utf8Size⟩ n cs := by
  rw [advance, if_neg (by omega), Nat.add_sub_cancel_left]

theorem advance_append (pos : Position) (front cs : List Char) (n : Nat) :
    pos.advance (byteSize front + n) (front ++ cs) = (pos.advance (byteSize front) front).advance n
      cs := by
  induction front generalizing pos with
  | nil => rw [byteSize, Nat.zero_add, List.nil_append, advance_zero]
  | cons c front ih =>
    rw [List.cons_append, byteSize, Nat.add_assoc, advance_cons, advance_cons]
    split_ifs
    · exact ih _
    · exact ih _

theorem advance_eq_behind (front : List Char) :
    advance ⟨1, 1⟩ (byteSize front) front = behind front := by
  induction front using List.reverseRecOn with
  | nil => rfl
  | append_singleton front c ih =>
    have one : byteSize [c] = c.utf8Size := rfl
    rw [Text.byteSize_append, advance_append, ih, one, ← Nat.add_zero c.utf8Size, advance_cons,
      advance_zero,
      advance_zero]
    by_cases feed : c = '\n'
    · subst feed
      simp [behind, Nat.add_assoc]
      rfl
    · rw [if_neg (by simpa using feed), behind, behind,
        List.rtakeWhile_concat_pos _ _ _ (by simpa using feed)]
      simp [Text.byteSize_append, one, feed, Nat.add_assoc]

theorem ofOffset_eq_behind {source : String} {front back : List Char}
    (h : source.toList = front ++ back) :
    ofOffset source (byteSize front) = behind front := by
  have whole := advance_append ⟨1, 1⟩ front back 0
  rw [Nat.add_zero, advance_zero] at whole
  rw [ofOffset, h, whole, advance_eq_behind]

end Position

/-! ## Places of faults -/

namespace Lexer

variable {offset : Nat} {cs : List Char} {e : SyntaxError}

/-- What cannot be cut into tokens is refused at a place of the source. -/
theorem place_of_error (h : tokensFrom offset cs = .error e) :
    ∃ front back, cs = front ++ back ∧ e.offset = offset + byteSize front := by
  induction length : cs.length using Nat.strong_induction_on generalizing offset cs with
  | _ k ih
  subst length
  cases skips : triviaLength cs with
  | error n =>
    rw [tokensFrom, skips] at h
    cases h
    exact ⟨cs.take n, cs.drop n, (List.take_append_drop n cs).symm, rfl⟩
  | ok n =>
    rw [Indexed.tokensFrom_behind skips] at h
    dsimp only at h
    split at h
    · cases h
    · next c rest front =>
      split at h
      · cases h
        exact ⟨cs.take n, cs.drop n, (List.take_append_drop n cs).symm, rfl⟩
      · next kind m taken =>
        split at h
        · next e' failed =>
          cases h
          have fewer : (rest.drop m).length < cs.length := by
            have count := congrArg List.length front
            rw [List.length_drop, List.length_cons] at count
            rw [List.length_drop]
            omega
          obtain ⟨middle, back, left, place⟩ := ih _ fewer failed rfl
          refine ⟨cs.take n ++ (c :: rest.take m) ++ middle, back, ?_, ?_⟩
          · rw [List.append_assoc, ← left, List.append_assoc, List.cons_append,
              List.take_append_drop, ← front,
              List.take_append_drop]
          · rw [place, Text.byteSize_append, Text.byteSize_append, Nat.add_assoc, Nat.add_assoc,
              Nat.add_assoc]
        · cases h

/-- A token begins at a place of the source. -/
theorem place_of_mem {tokens : List Token} (h : tokensFrom offset cs = .ok tokens) {t : Token}
    (mem : t ∈ tokens) :
    ∃ front back, cs = front ++ back ∧ t.offset = offset + byteSize front := by
  obtain ⟨before, after, rfl⟩ := List.append_of_mem mem
  obtain ⟨place, -⟩ := placed_of_tokensFrom h rfl
  refine ⟨_, t.text.toList ++ Token.chars after, ?_, place⟩
  rw [← chars_tokensFrom h, Token.chars, Token.chars, Token.chars, List.flatMap_append,
    List.flatMap_cons]
  simp only [List.append_assoc]

/-- The words of a source that is cut into tokens are its identifiers. -/
theorem words_of_tokensFrom {tokens : List Token} (h : tokensFrom offset cs = .ok tokens) :
    Indexed.words cs = (tokens.filter (·.kind = .identifier)).map (·.text.toList) := by
  induction tokens generalizing offset cs with
  | nil =>
    obtain ⟨_, none, -⟩ | ⟨_, _, _, _, _, none, -⟩ := tokensFrom_cases h
    · cases none
    · cases none
  | cons t tokens ih =>
    cases skips : triviaLength cs with
    | error n =>
      rw [tokensFrom, skips] at h
      cases h
    | ok n =>
      rw [Indexed.tokensFrom_behind skips] at h
      rw [Indexed.words_behind skips]
      dsimp only at h
      split at h
      · cases h
        rfl
      · split at h
        · cases h
        · next kind m _ =>
          split at h
          · cases h
          · next more =>
            cases h
            rw [ih more, List.filter_cons]
            by_cases word : kind = .identifier
            · simp [word]
            · simp [word]

end Lexer

/-- What is refused is refused at a place of the source. -/
theorem place_of_refusal {path source : String} {nextId : NodeId} {e : ParseError}
    (h : parseUnit path source nextId = .error e) :
    ∃ front back, source.toList = front ++ back ∧ e.offset = byteSize front ∧
      e.position = .behind front := by
  obtain ⟨fault, rfl, front, back, whole, place⟩ : ∃ fault : SyntaxError,
    e = .ofSyntax path source fault ∧
      ∃ front back, source.toList = front ++ back ∧ fault.offset = byteSize front := by
    unfold parseUnit at h
    cases lexed : tokenize source with
    | error fault =>
      rw [lexed] at h
      cases h
      obtain ⟨front, back, whole, place⟩ := Lexer.place_of_error lexed
      exact ⟨fault, rfl, front, back, whole, by rw [place, Nat.zero_add]⟩
    | ok tokens =>
      rw [lexed] at h
      change (Parser.parseTokens path tokens nextId).mapError _ = _ at h
      have within : Parser.State.Within tokens ⟨tokens, false, nextId⟩ := by
        have ended := Parser.hasEnd_tokenize lexed
        refine ⟨ended, 0, ?_, rfl⟩
        obtain ⟨front, last, rfl, -⟩ := ended
        simp
      have stays := Parser.stays_unit path (Parser.rankBound * (tokens.length + 1)) _ within
      unfold Parser.parseTokens at h
      split at h
      · cases h
      · next fault refused =>
        cases h
        rw [refused] at stays
        obtain ⟨t, mem, same⟩ := stays
        obtain ⟨front, back, whole, place⟩ := Lexer.place_of_mem lexed mem
        exact ⟨fault, rfl, front, back, whole, by rw [same, place, Nat.zero_add]⟩
  refine ⟨front, back, whole, place, ?_⟩
  rw [ParseError.ofSyntax, place]
  exact Position.ofOffset_eq_behind whole

/-- Outside comments and literals, in front of the end or of what cannot be cut into tokens, the
source has no character above ASCII but letters and digits. -/
def Lexer.Covered (source : String) : Prop :=
  ∀ word ∈ Indexed.words source.toList, ∀ c ∈ word, Indexed.isWordChar c = true

/-- No index and no slice of the lexer, of the literals and of the look-ahead fails, no number that
goes down falls below zero, and what is refused is refused at a place of the source, with its line
and its column. -/
theorem frontEnd_safe {source : String} (covered : Lexer.Covered source) :
    Lexer.Indexed.tokensAt source 0 = some (tokenize source) ∧
      (∀ tokens, tokenize source = .ok tokens →
        (∀ t ∈ tokens, Literals.Indexed.value? t = some (Literals.value? t)) ∧
          ∀ pos s, Parser.State.At tokens pos s →
            (∀ n, ∃ t, Parser.Indexed.peekAt? tokens pos n = some t ∧ t.kind = (s.peekAt n).kind ∧
                t.text = (s.peekAt n).text ∧ (pos + n < tokens.length → t = s.peekAt n)) ∧
              Parser.Indexed.startsLambda? tokens pos = some (Parser.startsLambda s) ∧
              ∃ pos', Parser.State.At tokens pos' s.bump) ∧
      ∀ path nextId e, parseUnit path source nextId = .error e → e.offset ≤ source.utf8ByteSize ∧
        ∃ front back, source.toList = front ++ back ∧ e.offset = byteSize front ∧
          e.position = ⟨1 + front.count '\n', 1 + byteSize (front.rtakeWhile (· != '\n'))⟩ := by
  refine ⟨Lexer.Indexed.tokensAt_zero covered, fun tokens lexed => ?_, fun path nextId e refused =>
    ?_⟩
  · have ended := Parser.hasEnd_tokenize lexed
    refine ⟨fun t mem => Literals.Indexed.value?_eq lexed mem, fun pos s place => ?_⟩
    exact ⟨Parser.Indexed.peekAt?_eq ended place, Parser.Indexed.startsLambda?_eq lexed place,
      place.bump ended⟩
  · obtain ⟨front, back, whole, place, position⟩ := place_of_refusal refused
    refine ⟨?_, front, back, whole, place, position⟩
    rw [← Text.byteSize_toList, whole, Text.byteSize_append, place]
    exact Nat.le_add_right ..

/-- A letter above ASCII behind a backslash and in a word, and an expression that is missing. -/
theorem frontEnd_safe_letters :
    let source := "class Ä \x7b\n  String s = \"\\ä\"; // ü\n  int x = ;\n\x7d\n"
    Lexer.Covered source ∧ Lexer.Indexed.tokensAt source 0 = some (tokenize source) ∧
      ∃ e, parseUnit "A.java" source 0 = .error e ∧ e.offset = 47 ∧ e.position = ⟨3, 11⟩ ∧
        e.offset ≤ source.utf8ByteSize ∧ ∃ front back, source.toList = front ++ back ∧
          e.offset = byteSize front ∧
          e.position = ⟨1 + front.count '\n', 1 + byteSize (front.rtakeWhile (· != '\n'))⟩ := by
  intro source
  have covered : Lexer.Covered source := by
    have all : ((Lexer.Indexed.words source.toList).all (·.all Lexer.Indexed.isWordChar)) =
      true := by
      rw [Text.toList_closed source rfl]
      decide +kernel
    intro word mem c at_
    exact List.all_eq_true.mp (List.all_eq_true.mp all word mem) c at_
  have run : (match parseUnit "A.java" source 0 with
      | .error e => e.offset == 47 && e.position == ⟨3, 11⟩
      | .ok _ => false) = true := by
    unfold parseUnit tokenize
    rw [Text.toList_closed source rfl]
    decide +kernel
  obtain ⟨lexes, -, refusals⟩ := frontEnd_safe covered
  refine ⟨covered, lexes, ?_⟩
  cases refused : parseUnit "A.java" source 0 with
  | ok unit => simp [refused] at run
  | error e =>
    simp only [refused, Bool.and_eq_true, beq_iff_eq] at run
    exact ⟨e, rfl, run.1, run.2, refusals _ _ _ refused⟩

end Retouch
