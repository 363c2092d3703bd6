import Retouch.Proofs.Token.Cutting
import Retouch.Proofs.Tree.Endings

/-!
# Texts of tokens and trivia

The texts of a layout are looked at one by one (`View.texts`). What stands in front of a token is
one text, if there is any (`Lexer.see_trivia`), and a token is one text (`Lexer.see_cut`).
-/

namespace Retouch

namespace View

theorem see_texts {s : String} (other : ∃ c ∈ s.toList, c ≠ '>') : texts.see s = [s] := by
  obtain ⟨c, mem, other⟩ := other
  refine if_neg fun all => other ?_
  exact beq_iff_eq.1 (List.all_eq_true.1 all c mem)

/-- What is seen of the texts one by one is what is seen of the layout. -/
theorem flatMap_texts {β : Type} (v : View β)
    (angles : ∀ n, v.see (String.ofList (List.replicate n '>')) =
      (List.replicate n (v.see ">")).flatten)
    (l : Layout) : (texts.seen l).flatMap v.see = v.seen l := by
  have each (s : String) : (texts.see s).flatMap v.see = v.see s := by
    unfold texts
    dsimp only
    split
    · next all =>
      obtain ⟨n, same⟩ : ∃ n, s.toList = List.replicate n '>' :=
        ⟨_, List.eq_replicate_iff.2 ⟨rfl, fun c mem => beq_iff_eq.1 (List.all_eq_true.1 all c mem)⟩⟩
      have whole : s = String.ofList (List.replicate n '>') := by rw [← same, String.ofList_toList]
      have one : String.singleton '>' = ">" := rfl
      rw [same, whole, angles, List.map_replicate, one, List.flatMap_def, List.map_replicate]
    · simp
  unfold seen
  induction l.pieces with
  | nil => rfl
  | cons p ps ih =>
    rw [List.flatMap_cons, List.flatMap_cons, List.flatMap_append, ih]
    cases p with
    | text s => exact congrArg (· ++ ps.flatMap v.piece) (each s)
    | enter id | leave id => rfl

end View

/-- The characters of texts. -/
def charsOf (ts : List String) : List Char := ts.flatMap String.toList

@[simp]
theorem charsOf_append (ts ts' : List String) : charsOf (ts ++ ts') = charsOf ts ++ charsOf ts' :=
  List.flatMap_append

theorem charsOf_texts (l : Layout) : charsOf (View.texts.seen l) = l.print.toList := by
  rw [← View.chars_seen]
  refine View.chars.flatMap_texts (fun n => ?_) l
  simp [View.chars, List.flatten_replicate_singleton]

namespace Lexer

/-- Trivia is one text, if there is any. -/
theorem see_trivia {s : String} (h : triviaLength s.toList = .ok s.toList.length) :
    s = "" ∨ View.texts.see s = [s] := by
  cases chars : s.toList with
  | nil => exact .inl (String.toList_eq_nil_iff.1 chars)
  | cons c cs =>
    refine .inr (View.see_texts ⟨c, by simp [chars], ?_⟩)
    rintro rfl
    have solid : triviaLength ('>' :: cs) = .ok 0 :=
      triviaLength_eq_zero_iff.2 ⟨rfl, fun slash => absurd slash (by decide)⟩
    rw [chars, solid] at h
    cases h

/-- The mark of a shift goes on with nothing but an equals sign. -/
theorem cut_angle {kind : TokenKind} {y r : List Char} (h : Cut kind ('>' :: '>' :: y) r) :
    False := by
  obtain ⟨c, rest, spelled, taken⟩ := h.taken
  cases spelled
  cases taken

/-- A token is one text. -/
theorem see_cut {s : String} {kind : TokenKind} {r : List Char} (h : Cut kind s.toList r) :
    View.texts.see s = [s] := by
  by_cases all : s.toList.all (· == '>') = true
  · have same : s.toList = List.replicate s.toList.length '>' :=
      List.eq_replicate_iff.2 ⟨rfl, fun c mem => beq_iff_eq.1 (List.all_eq_true.1 all c mem)⟩
    match length : s.toList.length with
    | 0 =>
      obtain ⟨c, y, spelled, -⟩ := h.taken
      simp [spelled] at length
    | 1 =>
      obtain rfl : s = ">" := String.toList_inj.1 (by rw [same, length]; rfl)
      rfl
    | n + 2 =>
      rw [same, length] at h
      exact (cut_angle h).elim
  · exact if_neg all

end Lexer

end Retouch
