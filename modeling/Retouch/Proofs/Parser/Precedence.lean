import Retouch.Proofs.Attribution.Stops
import Retouch.Proofs.RoundTrip
import Retouch.Proofs.Token.Gaps
import Retouch.Proofs.Token.Texts
import Retouch.Proofs.Tree.Positions

/-!
# Operators of a source

An operation holds its operands together: what stands beside an operator without parentheses binds
tighter than the operator, on its left side at least as tight (`BinaryOp.AllowsLeft`,
`BinaryOp.AllowsRight`). The operator is printed where the source has it: the tokens at its place
are the operator (`IsSpelledAt`), and only marks that touch each other are one. No two operations
share an operator (`operations_parseSource`).
-/

namespace Retouch

/-! ## What stands beside an operator -/

namespace BinaryOp

/-- What may stand in front of the operator without parentheses. A type ends a test for one,
whatever follows it. -/
def AllowsLeft (op : BinaryOp) : Expression → Prop
  | .binary _ _ _ _ inner _ _ => inner = .instanceOf ∨ op.precedence ≤ inner.precedence
  | .ternary .. | .assignment .. | .lambda .. => False
  | _ => True

/-- What may stand behind the operator without parentheses. -/
def AllowsRight (op : BinaryOp) : Expression → Prop
  | .binary _ _ _ _ inner _ _ => op.precedence < inner.precedence
  | .ternary .. | .assignment .. | .lambda .. => False
  | _ => True

theorem precedence_pos (op : BinaryOp) : 0 < op.precedence := by cases op <;> decide

theorem allowsLeft_of_accepts {op : BinaryOp} {e : Expression}
    (h : (Operand.left op).accepts e = true) :
    op.AllowsLeft e := by
  have pos := op.precedence_pos
  have strong : e.isInstanceOf = true ∨ op.precedence + 2 ≤ e.strength :=
    (Bool.or_eq_true_iff.1 h).imp_right of_decide_eq_true
  cases e with
  | binary => exact strong.imp beq_iff_eq.1 Nat.le_of_add_le_add_right
  | ternary | assignment | lambda =>
    obtain test | le := strong
    · cases test
    · simp only [Expression.strength] at le
      omega
  | _ => trivial

theorem allowsRight_of_accepts {op : BinaryOp} {e : Expression}
    (h : (Operand.right op).accepts e = true) :
    op.AllowsRight e := by
  have strong : op.precedence + 3 ≤ e.strength := of_decide_eq_true h
  cases e with
  | binary | ternary | assignment | lambda =>
    simp only [Expression.strength, AllowsRight] at strong ⊢
    omega
  | _ => trivial

end BinaryOp

/-! ## Texts of tokens -/

open Lexer

/-- The tokens from a place on are the operator. Only marks that touch each other are put together.
-/
def BinaryOp.IsSpelledAt (op : BinaryOp) (tokens : List Token) (offset : Nat) : Prop :=
  ∃ front first rest back, tokens = front ++ first :: (rest ++ back) ∧ first.offset = offset ∧
    first.text ++ String.join (rest.map Token.text) = op.spelling ∧
    ∀ t ∈ rest, first.text = ">" ∧ t.text = ">" ∧ t.leading.text = ""

theorem charsOf_see (s : String) : charsOf (View.texts.see s) = s.toList := by
  have layout := charsOf_texts (.piece (.text s))
  rw [View.seen_text] at layout
  rw [layout]
  congr 1

theorem charsOf_tokens (tokens : List Token) :
    charsOf (tokens.flatMap View.texts.token) = Token.chars tokens := by
  induction tokens with
  | nil => rfl
  | cons t ts ih =>
    rw [List.flatMap_cons, charsOf_append, ih, View.token, charsOf_append, charsOf_see, charsOf_see]
    rfl

namespace Piece

/-- The texts among pieces, with the marks of a shift apart. -/
def texts (ps : List Piece) : List String := ps.flatMap View.texts.piece

theorem charsOf_texts (ps : List Piece) : charsOf (texts ps) = (Piece.print ps).toList := by
  obtain ⟨l, rfl⟩ : ∃ l : Layout, l.pieces = ps := by
    induction ps with
    | nil => exact ⟨.empty, rfl⟩
    | cons p ps ih =>
      obtain ⟨l, rfl⟩ := ih
      exact ⟨.piece p ++ l, Layout.pieces_append _ _⟩
  exact Retouch.charsOf_texts l

theorem size_eq_byteSize (ps : List Piece) : size ps = Text.byteSize (charsOf (texts ps)) := by
  rw [charsOf_texts, Text.byteSize_toList, size]

end Piece

namespace Lexer

variable {offset : Nat} {cs : List Char} {tokens : List Token} {s : String} {A B : List String}

/-- The text is no trivia. -/
def IsSolid (s : String) : Prop := triviaLength s.toList ≠ .ok s.toList.length

theorem isSolid_of_toList {c : Char} {cs : List Char} (chars : s.toList = c :: cs)
    (blank : isTriviaBlank c = false)
    (comment : c = '/' → cs.head? ≠ some '/' ∧ cs.head? ≠ some '*') : IsSolid s := by
  intro all
  rw [chars, triviaLength_eq_zero_iff.2 ⟨blank, comment⟩] at all
  cases all

theorem not_mem_see_of_isSolid {trivia : String}
    (h : triviaLength trivia.toList = .ok trivia.toList.length)
    (solid : IsSolid s) : s ∉ View.texts.see trivia := by
  intro mem
  obtain rfl | one := see_trivia h
  · simp at mem
  · rw [one, List.mem_singleton] at mem
    exact solid (mem ▸ h)

theorem append_cons_cases {α : Type} {l rest A B : List α} {t s : α}
    (h : l ++ t :: rest = A ++ s :: B) :
    s ∈ l ∨ (l = A ∧ t = s ∧ rest = B) ∨ ∃ A', A = l ++ t :: A' ∧ rest = A' ++ s :: B := by
  obtain ⟨A', rfl, eq⟩ | ⟨l', rfl, eq⟩ := List.append_eq_append_iff.1 h
  · obtain _ | ⟨a, A'⟩ := A'
    · obtain ⟨rfl, rfl⟩ := List.cons.inj eq
      exact .inr (.inl ⟨(List.append_nil _).symm, rfl, rfl⟩)
    · obtain ⟨rfl, rfl⟩ := List.cons.inj eq
      exact .inr (.inr ⟨A', rfl, rfl⟩)
  · obtain _ | ⟨a, l'⟩ := l'
    · obtain ⟨rfl, rfl⟩ := List.cons.inj eq
      exact .inr (.inl ⟨List.append_nil _, rfl, rfl⟩)
    · obtain ⟨rfl, -⟩ := List.cons.inj eq
      exact .inl (by simp)

/-- A text that is no trivia is that of a token. -/
theorem exists_token_of_texts (h : tokensFrom offset cs = .ok tokens)
    (texts : tokens.flatMap View.texts.token = A ++ s :: B) (solid : IsSolid s) :
    ∃ (front : List Token) (t : Token) (back : List Token) (offset' : Nat) (r : List Char),
      tokens = front ++ t :: back ∧ t.text = s ∧
      A = front.flatMap View.texts.token ++ View.texts.see t.leading.text ∧
      B = back.flatMap View.texts.token ∧ tokensFrom offset' r = .ok back := by
  induction tokens generalizing offset cs A with
  | nil => simp at texts
  | cons t tokens ih =>
    obtain ⟨t', single, -, text, rfl, ends, -⟩ | ⟨t', ts', ks, r, offset', first, -, rfl, trivia,
      cut, more, -⟩ :=
      tokensFrom_cases h
    · obtain ⟨rfl, rfl⟩ := List.cons.inj single
      have last : [t].flatMap View.texts.token = View.texts.see t.leading.text :=
        by simp [View.token, text]
      rw [last] at texts
      exact absurd (texts ▸ by simp) (not_mem_see_of_isSolid ends solid)
    · obtain ⟨rfl, rfl⟩ := List.cons.inj first
      have skipped : triviaLength t.leading.text.toList = .ok t.leading.text.toList.length := by
        simpa using trivia.length_append triviaLength.eq_1
      rw [List.flatMap_cons, View.token, see_cut cut, List.append_assoc,
        List.singleton_append] at texts
      obtain inside | ⟨rfl, same, rfl⟩ | ⟨A', rfl, behind⟩ := append_cons_cases texts
      · exact absurd inside (not_mem_see_of_isSolid skipped solid)
      · exact ⟨[], t, tokens, _, _, rfl, same, rfl, rfl, more⟩
      · obtain ⟨front, t', back, offset'', r', rfl, found⟩ := ih more behind
        obtain ⟨same, rfl, rest⟩ := found
        refine ⟨t :: front, t', back, offset'', r', rfl, same, ?_, rest⟩
        rw [List.flatMap_cons, View.token, see_cut cut]
        simp

/-- Texts one behind the other, with no trivia in between, are those of tokens that touch each
other. -/
theorem exists_tokens_of_texts {more : List String} (h : tokensFrom offset cs = .ok tokens)
    (texts : tokens.flatMap View.texts.token = A ++ s :: (more ++ B))
      (solid : ∀ x ∈ s :: more, IsSolid x) :
    ∃ (front : List Token) (first : Token) (rest back : List Token),
      tokens = front ++ first :: (rest ++ back) ∧ first.text = s ∧
      rest.map Token.text = more ∧ (∀ t ∈ rest, t.leading.text = "") ∧
      A = front.flatMap View.texts.token ++ View.texts.see first.leading.text := by
  induction more generalizing offset cs tokens A s with
  | nil =>
    have own : IsSolid s := solid s List.mem_cons_self
    obtain ⟨front, t, back, -, -, rfl, same, before, -⟩ := exists_token_of_texts h texts own
    exact ⟨front, t, [], back, rfl, same, rfl, by simp, before⟩
  | cons x more ih =>
    obtain ⟨own, others⟩ := List.forall_mem_cons.1 solid
    obtain ⟨front, t, back, offset', r, rfl, same, before, behind, lexed⟩ :=
      exists_token_of_texts h texts own
    obtain ⟨front', first, rest, back', rfl, own', others', tight, nothing⟩ :=
      ih (A := []) lexed behind.symm others
    obtain ⟨none, blank⟩ := List.append_eq_nil_iff.1 nothing.symm
    have noLeading : first.leading.text = "" := by
      have chars := charsOf_see first.leading.text
      rw [blank] at chars
      exact String.toList_eq_nil_iff.1 chars.symm
    have front'_eq : front' = [] := by
      obtain _ | ⟨t', front'⟩ := front'
      · rfl
      · obtain ⟨_, single, -⟩ | ⟨_, _, _, _, _, first', -, -, -, cut, -⟩ := tokensFrom_cases lexed
        · simp at single
        · obtain ⟨rfl, -⟩ := List.cons.inj first'
          rw [List.flatMap_cons, View.token, see_cut cut] at none
          simp at none
    subst front'_eq
    refine ⟨front, t, first :: rest, back', rfl, same, ?_, ?_, before⟩
    · rw [List.map_cons, own', others']
    · exact List.forall_mem_cons.2 ⟨noLeading, tight⟩

end Lexer

/-- An operator is one text, or marks that are put together. -/
theorem BinaryOp.see_spelling (op : BinaryOp) :
    ∃ s more, View.texts.see op.spelling = s :: more ∧ s ++ String.join more = op.spelling ∧
      (∀ x ∈ s :: more, IsSolid x) ∧ ∀ x ∈ more, s = ">" ∧ x = ">" := by
  have angle : IsSolid ">" := isSolid_of_toList rfl rfl (by decide)
  cases op with
  | shiftRight => exact ⟨">", [">"], by decide, by decide, by simp [angle], by decide⟩
  | unsignedShiftRight => exact ⟨">", [">", ">"], by decide, by decide, by simp [angle], by decide⟩
  | _ =>
    exact ⟨_, [], rfl, rfl,
      List.forall_mem_singleton.2 (isSolid_of_toList rfl rfl (by decide)), by simp⟩

/-- Where an operator is printed, the tokens are the operator. -/
theorem BinaryOp.isSpelledAt_of_pieces {source : String} {tokens : List Token}
    {op : BinaryOp} {ps qs : List Piece}
    (lexed : tokenize source = .ok tokens)
    (same : Piece.texts (ps ++ .text op.spelling :: qs) = tokens.flatMap View.texts.token) :
    op.IsSpelledAt tokens (Piece.size ps) := by
  obtain ⟨s, more, seen, whole, solid, marks⟩ := op.see_spelling
  have texts : tokens.flatMap View.texts.token = Piece.texts ps ++
    s :: (more ++ Piece.texts qs) := by
    rw [← same, Piece.texts, List.flatMap_append, List.flatMap_cons, View.piece, seen]
    rfl
  obtain ⟨front, first, rest, back, rfl, text, others, tight, before⟩ :=
    exists_tokens_of_texts lexed texts solid
  obtain ⟨place, -⟩ := placed_of_tokensFrom lexed rfl
  refine ⟨front, first, rest, back, rfl, ?_, by rw [text, others, whole], fun t mem => ?_⟩
  · rw [place, Piece.size_eq_byteSize, before, charsOf_append, charsOf_tokens, charsOf_see,
      Nat.zero_add]
  · obtain ⟨mark, mark'⟩ := marks t.text (others ▸ List.mem_map_of_mem mem)
    exact ⟨text.trans mark, mark', tight t mem⟩

/-! ## Places of operators -/

namespace Piece

variable {ps qs : List Piece}

/-- At the end of balanced pieces no more nodes begin than end. -/
theorem Balanced.length_begun_le (h : Balanced ps) {front back : List Piece}
    (cut : ps = front ++ back) :
    (back.filterMap id?).length ≤ (back.filterMap ended?).length := by
  induction h generalizing front back with
  | nil => simp [(List.append_eq_nil_iff.1 cut.symm).2]
  | @text s ps balanced ih =>
    cases front with
    | nil =>
      obtain rfl := cut
      exact (balanced.text s).perm_ended.length_eq.ge
    | cons p front => exact ih (List.cons.inj cut).2
  | @nest id inner rest balanced balanced' ih ih' =>
    cases front with
    | nil =>
      obtain rfl := cut
      exact (balanced.nest id balanced').perm_ended.length_eq.ge
    | cons p front =>
      obtain ⟨between, rfl, behind⟩ | ⟨part, rfl, rfl⟩ :=
        List.append_eq_append_iff.1 (List.cons.inj cut).2
      · cases between with
        | nil =>
          obtain rfl := behind
          have rest := balanced'.perm_ended.length_eq
          simp only [List.filterMap_cons, id?, ended?, List.length_cons]
          omega
        | cons q between => exact ih' (List.cons.inj behind).2
      · have first := ih rfl
        have second := balanced'.perm_ended.length_eq
        simp only [List.filterMap_append, List.filterMap_cons, List.length_append, id?, ended?,
          List.length_cons]
        omega

/-- The node that was the last one to begin, of those that have not ended. -/
theorem enter_inj {inner inner' : List Piece} {id id' : NodeId} (balanced : Balanced inner)
    (balanced' : Balanced inner') (same : ps ++ .enter id :: inner = qs ++ .enter id' :: inner') :
      id = id' := by
  have lone {inner inner' front : List Piece} {id : NodeId} (balanced : Balanced inner)
      (balanced' : Balanced inner') : inner' ≠ front ++ .enter id :: inner := by
    intro inside
    have begun := balanced'.length_begun_le inside
    have ended := balanced.perm_ended.length_eq
    simp only [List.filterMap_cons, id?, ended?, List.length_cons] at begun
    omega
  obtain ⟨front, rfl, behind⟩ | ⟨front, rfl, behind⟩ := List.append_eq_append_iff.1 same
  · cases front with
    | nil => exact enter.inj (List.cons.inj behind).1
    | cons p front => exact absurd (List.cons.inj behind).2 (lone balanced' balanced)
  · cases front with
    | nil => exact (enter.inj (List.cons.inj behind).1).symm
    | cons p front => exact absurd (List.cons.inj behind).2 (lone balanced balanced')

/-- A place in the printed text is that of one text. -/
theorem append_text_inj {ps' qs' : List Piece} {s s' : String} (some : s ≠ "") (some' : s' ≠ "")
    (same : ps ++ .text s :: qs = ps' ++ .text s' :: qs') (place : size ps = size ps') :
      ps = ps' := by
  have pos {s : String} (some : s ≠ "") : 0 < s.utf8ByteSize :=
    Nat.pos_of_ne_zero fun none => some (String.utf8ByteSize_eq_zero_iff.1 none)
  obtain ⟨front, rfl, behind⟩ | ⟨front, rfl, behind⟩ := List.append_eq_append_iff.1 same
  · cases front with
    | nil => exact (List.append_nil ps).symm
    | cons p front =>
      obtain ⟨rfl, -⟩ := List.cons.inj behind
      have := pos some
      simp only [size_append, size_text] at place
      omega
  · cases front with
    | nil => exact List.append_nil ps'
    | cons p front =>
      obtain ⟨rfl, -⟩ := List.cons.inj behind
      have := pos some'
      simp only [size_append, size_text] at place
      omega

end Piece

open Piece (size Balanced)

/-- Where the operator of an operation is printed. -/
def CompilationUnit.operatorPlace? (u : CompilationUnit) : Expression → Option Nat
  | .binary id _ left before _ _ _ =>
    (u.locate id).map fun span => span.start + (left.print ++ before.text).utf8ByteSize
  | _ => none

theorem BinaryOp.spelling_ne (op : BinaryOp) : op.spelling ≠ "" := by cases op <;> decide

/-- An operator stands behind the beginning of its operation, and nothing that begins in between is
left open. -/
theorem CompilationUnit.exists_operator {u : CompilationUnit} {id : NodeId} {leading before : Space}
    {left right : Expression} {op : BinaryOp} {type : JavaType} (nodup : u.ids.Nodup)
    (mem : .binary id leading left before op right type ∈ (Node.unit u).expressions) :
    ∃ ps inner qs : List Piece, u.layout.pieces = ps ++ .enter id :: inner ++
      .text op.spelling :: qs ∧ Balanced inner ∧
      u.operatorPlace? (.binary id leading left before op right type) = some
        (size (ps ++ .enter id :: inner)) := by
  obtain ⟨⟨node, path⟩, stop, held⟩ := List.mem_filterMap.1 mem
  obtain ⟨e, rfl⟩ : ∃ e, node = .expression e := by
    cases node with
    | expression e => exact ⟨e, rfl⟩
    | _ => cases held
  obtain rfl := Option.some.inj held
  obtain ⟨front, rear, stands⟩ := (contains_of_mem_visits stop).stands
  have located := Node.locate_of_stands nodup stands.symm
  refine ⟨front ++ [.text leading.text], left.layout.pieces ++ [.text before.text],
    right.layout.pieces ++ .leave id :: rear, ?_, ?_, ?_⟩
  · rw [← stands]
    simp only [Node.layout, Expression.layout, Retouch.node, Space.layout, tok,
      Layout.pieces_append]
    simp [Layout.pieces, Layout.onto]
  · exact (Node.balanced (.expression left)).append (.text _ .nil)
  · have place : u.locate id = some ⟨size front + leading.text.utf8ByteSize, _⟩ := located
    rw [operatorPlace?, place, Option.map_some, String.utf8ByteSize_append, Expression.print,
      Layout.print]
    simp only [Piece.size_append, Piece.size_text, Piece.size_enter, Piece.size_nil, Nat.add_zero]
    rfl

/-- In the tree of a source what stands beside an operator binds as its place asks for, and no
assignment, conditional or function stands there without parentheses. The operators of the tree are
printed where the source has them, each one its own. -/
theorem operations_parseSource {classpath : Classpath} {bindings : List (String × JavaType)}
    {path source : String} {nextId nextId' : NodeId} {u : CompilationUnit}
    (h : parseSource classpath bindings path source nextId = .ok (u, nextId')) :
    u.print = source ∧ ∃ tokens, tokenize source = .ok tokens ∧
      (∀ id leading left before op right type,
        .binary id leading left before op right type ∈ (Node.unit u).expressions →
          op.AllowsLeft left ∧ op.AllowsRight right ∧
          ∃ place, u.operatorPlace? (.binary id leading left before op right type) = some place ∧
            op.IsSpelledAt tokens place) ∧
      ∀ e ∈ (Node.unit u).expressions, ∀ e' ∈ (Node.unit u).expressions, ∀ place,
        u.operatorPlace? e = some place → u.operatorPlace? e' = some place → e.id = e'.id := by
  have nodup := nodup_ids_parseSource h
  obtain ⟨raw, parsed, rfl⟩ := exists_parseUnit h
  obtain ⟨tokens, s, lexed, -⟩ := exists_unit parsed
  have seen : Piece.texts (raw.attribute classpath bindings).layout.pieces = tokens.flatMap
    View.texts.token := by
    rw [layout_attribute]
    exact seen_parseUnit View.texts lexed parsed
  refine ⟨print_parseSource h, tokens, lexed, fun id leading left before op right type mem => ?_,
    ?_⟩
  · have grouped : (Expression.binary id leading left before op right type).isGrouped = true := by
      obtain ⟨⟨node, p⟩, stop, held⟩ := List.mem_filterMap.1 mem
      have own := grouped_parseSource h _ stop
      cases node with
      | expression e =>
        obtain rfl := Option.some.inj held
        exact own
      | _ => cases held
    have operands := List.all_eq_true.1 grouped
    obtain ⟨ps, inner, qs, pieces, -, place⟩ := CompilationUnit.exists_operator nodup mem
    refine ⟨BinaryOp.allowsLeft_of_accepts
      (operands (.left op, left) (by simp [Expression.operands])),
      BinaryOp.allowsRight_of_accepts
        (operands (.right op, right) (by simp [Expression.operands])), _, place, ?_⟩
    exact BinaryOp.isSpelledAt_of_pieces lexed (pieces ▸ seen)
  · intro e mem e' mem' place found found'
    cases e with
    | binary id leading left before op right type =>
      cases e' with
      | binary id' leading' left' before' op' right' type' =>
        obtain ⟨ps, inner, qs, pieces, balanced, place⟩ := CompilationUnit.exists_operator nodup mem
        obtain ⟨ps', inner', qs', pieces', balanced', place'⟩ :=
          CompilationUnit.exists_operator nodup mem'
        have same : size (ps ++ .enter id :: inner) = size (ps' ++ .enter id' :: inner') := by
          refine Option.some.inj ?_
          rw [← place, ← place', found, found']
        have front := Piece.append_text_inj op.spelling_ne op'.spelling_ne
          (pieces.symm.trans pieces') same
        exact Piece.enter_inj balanced balanced' front
      | _ => cases found'
    | _ => cases found

/-- A test for a type in front of an operator that binds tighter, and marks that touch each other as
one operator. -/
theorem operations_parseSource_marks :
    let source :=
      "class A \x7b boolean f(A o, int a) \x7b return o instanceof A + a == a - 1 - 2 >>> 3 >> 4 > 5; \x7d \x7d"
    ∃ u n, parseSource ⟨"", [], []⟩ [] "A.java" source 0 = .ok (u, n) ∧
      (Node.unit u).expressions.filterMap u.operatorPlace? = [60, 56, 43, 84, 79, 73, 69, 65] ∧
      u.print = source ∧ ∃ tokens, tokenize source = .ok tokens ∧
        (∀ id leading left before op right type,
          .binary id leading left before op right type ∈ (Node.unit u).expressions →
            op.AllowsLeft left ∧ op.AllowsRight right ∧
            ∃ place, u.operatorPlace? (.binary id leading left before op right type) = some place ∧
              op.IsSpelledAt tokens place) ∧
        ∀ e ∈ (Node.unit u).expressions, ∀ e' ∈ (Node.unit u).expressions, ∀ place,
          u.operatorPlace? e = some place → u.operatorPlace? e' = some place → e.id = e'.id := by
  intro source
  have run : (parseSource ⟨"", [], []⟩ [] "A.java" source 0).toOption.any (fun r =>
      (Node.unit r.1).expressions.filterMap r.1.operatorPlace? == [60, 56, 43, 84, 79, 73, 69, 65])
        = true := by
    unfold parseSource parseUnit tokenize
    rw [Text.toList_closed source rfl]
    decide +kernel
  obtain ⟨⟨u, n⟩, parsed, places⟩ := exists_of_any run
  exact ⟨u, n, parsed, by simpa using places, operations_parseSource parsed⟩

end Retouch
