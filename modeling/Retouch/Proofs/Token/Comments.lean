import Retouch.Proofs.Token.Lossless

/-!
# Comments between tokens

`Trivia cs ks` says that `cs` is nothing but blanks and whole comments, a comment of one line with
its line feed behind it; `ks` are the texts of the comments. What is in front of a token is such
trivia (`exists_trivia`), and it is skipped whatever stands behind it (`Trivia.length_append`).
-/

namespace Retouch.Lexer

/-- Blanks and whole comments, with the texts of the comments. -/
inductive Trivia : List Char → List String → Prop
  | nil : Trivia [] []
  | blank {c : Char} {cs : List Char} {ks : List String} : isTriviaBlank c = true → Trivia cs ks →
      Trivia (c :: cs) ks
  | line {body cs : List Char} {ks : List String} : '\n' ∉ body → Trivia ('\n' :: cs) ks →
      Trivia ('/' :: '/' :: (body ++ '\n' :: cs)) (String.ofList ('/' :: '/' :: body) :: ks)
  | block {body cs : List Char} {ks : List String} : blockCommentLength? body = some body.length →
      Trivia cs ks → Trivia ('/' :: '*' :: (body ++ cs)) (String.ofList ('/' :: '*' :: body) :: ks)

/-! ## The scanners of comments -/

theorem lineLength_append {body : List Char} (free : '\n' ∉ body) (cs : List Char) :
    lineLength (body ++ '\n' :: cs) = body.length := by
  have all : ∀ c ∈ body, (c != '\n') = true := fun c mem => by
    simpa using fun equal : c = '\n' => free (equal ▸ mem)
  simp [lineLength, List.takeWhile_append_of_pos all]

/-- The line ends at a line feed, or with the text. -/
theorem lineLength_cases (cs : List Char) :
    lineLength cs = cs.length ∨
      ∃ body rest, '\n' ∉ body ∧ cs = body ++ '\n' :: rest ∧ lineLength cs = body.length := by
  induction cs with
  | nil => exact .inl rfl
  | cons c cs ih =>
    by_cases feed : c = '\n'
    · exact .inr ⟨[], cs, by simp, by simp [feed], by simp [lineLength, feed]⟩
    · have longer : lineLength (c :: cs) = lineLength cs + 1 := by simp [lineLength, feed]
      obtain whole | ⟨body, rest, free, rfl, cut⟩ := ih
      · exact .inl (by rw [longer, whole, List.length_cons])
      · exact .inr ⟨c :: body, rest,
          by simp [free, Ne.symm feed], rfl, by rw [longer, cut, List.length_cons]⟩

/-- A comment that ends does not depend on what stands behind it. -/
theorem blockCommentLength?_append {cs : List Char} {n : Nat} (h : blockCommentLength? cs = some n)
    (r : List Char) : blockCommentLength? (cs.take n ++ r) = some n ∧ 0 < n ∧ n ≤ cs.length := by
  induction cs using blockCommentLength?.induct generalizing n with
  | case1 => simp [blockCommentLength?] at h
  | case2 cs =>
    simp only [blockCommentLength?, Option.some.injEq] at h
    subst h
    simp [blockCommentLength?]
  | case3 c cs opens ih =>
    rw [blockCommentLength?.eq_3 c cs opens] at h
    obtain ⟨m, found, rfl⟩ := Option.map_eq_some_iff.1 h
    obtain ⟨again, some, short⟩ := ih found
    refine ⟨?_, Nat.succ_pos m, Nat.succ_le_succ short⟩
    -- The comment goes on, so the character behind `c` is still there.
    obtain _ | ⟨d, ds⟩ := cs
    · cases found
    · obtain ⟨k, rfl⟩ := Nat.exists_eq_succ_of_ne_zero (Nat.pos_iff_ne_zero.1 some)
      rw [List.take_succ_cons, List.take_succ_cons, List.cons_append, List.cons_append,
        blockCommentLength?.eq_3]
      · rw [List.take_succ_cons, List.cons_append] at again
        rw [again]
        rfl
      · intro tail star slash
        exact opens _ star (congrArg (· :: ds) (List.cons.inj slash).1)

theorem ne_slash_of_blank {c : Char} (h : isTriviaBlank c = true) : c ≠ '/' := by
  rintro rfl
  cases h

theorem triviaLength_blank_ne {c : Char} (h : isTriviaBlank c = true) (cs : List Char) :
    triviaLength (c :: cs) ≠ .ok 0 := by
  rw [triviaLength.eq_4, if_pos h]
  · cases triviaLength cs with
    | ok m => simp
    | error m => simp
  · exact fun _ slash => absurd slash (ne_slash_of_blank h)
  · exact fun _ slash => absurd slash (ne_slash_of_blank h)

/-- Nothing is skipped in front of what is neither blank nor the beginning of a comment. -/
theorem triviaLength_eq_zero_iff {c : Char} {cs : List Char} : triviaLength (c :: cs) = .ok 0 ↔
    isTriviaBlank c = false ∧ (c = '/' → cs.head? ≠ some '/' ∧ cs.head? ≠ some '*') := by
  by_cases line : c = '/' ∧ cs.head? = some '/'
  · obtain ⟨rfl, first⟩ := line
    obtain ⟨rest, rfl⟩ := List.head?_eq_some_iff.1 first
    rw [triviaLength.eq_2]
    refine iff_of_false ?_ fun h => (h.2 rfl).1 rfl
    split <;> simp
  by_cases block : c = '/' ∧ cs.head? = some '*'
  · obtain ⟨rfl, first⟩ := block
    obtain ⟨rest, rfl⟩ := List.head?_eq_some_iff.1 first
    rw [triviaLength.eq_3]
    refine iff_of_false ?_ fun h => (h.2 rfl).2 rfl
    split
    · simp
    · split <;> simp
  have open₁ (rest : List Char) : c = '/' → cs = '/' :: rest → False :=
    fun slash first => line ⟨slash, by rw [first]; rfl⟩
  have open₂ (rest : List Char) : c = '/' → cs = '*' :: rest → False :=
    fun slash first => block ⟨slash, by rw [first]; rfl⟩
  constructor
  · intro h
    refine ⟨?_, fun slash => ⟨fun first => line ⟨slash, first⟩, fun first => block ⟨slash, first⟩⟩⟩
    cases blank : isTriviaBlank c with
    | true => exact absurd h (triviaLength_blank_ne blank cs)
    | false => rfl
  · rintro ⟨solid, -⟩
    rw [triviaLength.eq_4 _ _ open₁ open₂, if_neg (by simp [solid])]

namespace Trivia

variable {t r : List Char} {ks : List String}

/-- Trivia is skipped. -/
theorem length_append (h : Trivia t ks) {n : Nat} (rest : triviaLength r = .ok n) :
    triviaLength (t ++ r) = .ok (t.length + n) := by
  induction h with
  | nil => simpa using rest
  | @blank c cs ks isBlank _ ih =>
    rw [List.cons_append, triviaLength.eq_4, if_pos isBlank, ih]
    · exact congrArg Except.ok (by rw [List.length_cons]; omega)
    · exact fun _ slash => absurd slash (ne_slash_of_blank isBlank)
    · exact fun _ slash => absurd slash (ne_slash_of_blank isBlank)
  | @line body cs ks free _ ih =>
    rw [List.cons_append, List.cons_append, List.append_assoc, List.cons_append, triviaLength.eq_2,
      lineLength_append free, List.drop_left, ← List.cons_append, ih]
    exact congrArg Except.ok (by simp only [List.length_cons, List.length_append]; omega)
  | @block body cs ks ends _ ih =>
    have whole := (blockCommentLength?_append ends (cs ++ r)).1
    rw [List.take_length] at whole
    rw [List.cons_append, List.cons_append, List.append_assoc, triviaLength.eq_3, whole]
    dsimp only
    rw [List.drop_left, ih]
    exact congrArg Except.ok (by simp only [List.length_cons, List.length_append]; omega)

end Trivia

/-! ## The front of a text -/

/-- What is skipped is trivia if anything stands behind it, and nothing more can be skipped there.
-/
theorem exists_trivia {cs : List Char} {n : Nat} (h : triviaLength cs = .ok n) :
    ∃ t r, cs = t ++ r ∧ t.length = n ∧ triviaLength r = .ok 0 ∧ (r ≠ [] → ∃ ks, Trivia t ks) := by
  induction cs using triviaLength.induct generalizing n with
  | case1 =>
    rw [triviaLength.eq_1] at h
    cases h
    exact ⟨[], [], rfl, rfl, triviaLength.eq_1, fun more => absurd rfl more⟩
  | case2 rest =>
    rename_i m more ih
    change triviaLength (rest.drop (lineLength rest)) = .ok m at more
    rw [triviaLength.eq_2, more] at h
    cases h
    obtain ⟨t, r, (left : rest.drop (lineLength rest) = t ++ r), rfl, ends, closed⟩ := ih more
    obtain whole | ⟨body, tail, free, rfl, cut⟩ := lineLength_cases rest
    · rw [whole, List.drop_length] at left
      obtain ⟨rfl, rfl⟩ := List.append_eq_nil_iff.1 left.symm
      exact ⟨'/' :: '/' :: rest, [],
        by simp, by simp [whole]; omega, ends, fun more => absurd rfl more⟩
    · rw [cut, List.drop_left] at left
      refine ⟨'/' :: '/' :: (body ++ t), r,
        by simp [left], by simp [cut]; omega, ends, fun some => ?_⟩
      obtain ⟨ks, closed⟩ := closed some
      obtain _ | ⟨c, t⟩ := t
      · -- The line feed itself is a blank.
        obtain rfl : '\n' :: tail = r := left
        exact absurd ends (triviaLength_blank_ne rfl tail)
      · obtain ⟨rfl, -⟩ := List.cons.inj left
        exact ⟨_, .line free closed⟩
  | case3 rest =>
    rename_i m more _
    change triviaLength (rest.drop (lineLength rest)) = .error m at more
    rw [triviaLength.eq_2, more] at h
    cases h
  | case4 rest opens =>
    rw [triviaLength.eq_3, opens] at h
    cases h
  | case5 rest k ends m more ih =>
    rw [triviaLength.eq_3, ends] at h
    dsimp only at h
    rw [more] at h
    cases h
    obtain ⟨t, r, left, rfl, stop, closed⟩ := ih more
    obtain ⟨whole, -, short⟩ := blockCommentLength?_append ends []
    rw [List.append_nil] at whole
    refine ⟨'/' :: '*' :: (rest.take k ++ t), r, ?_, ?_, stop, fun some => ?_⟩
    · rw [List.cons_append, List.cons_append, List.append_assoc, ← left, List.take_append_drop]
    · simp only [List.length_cons, List.length_append, List.length_take]
      omega
    · obtain ⟨ks, closed⟩ := closed some
      exact ⟨_, .block (by rw [whole, List.length_take_of_le short]) closed⟩
  | case6 rest k ends m more =>
    rw [triviaLength.eq_3, ends] at h
    dsimp only at h
    rw [more] at h
    cases h
  | case7 c rest line block isBlank m more ih =>
    rw [triviaLength.eq_4 _ _ line block, if_pos isBlank, more] at h
    cases h
    obtain ⟨t, r, rfl, rfl, ends, closed⟩ := ih more
    exact ⟨c :: t, r, rfl,
      by simp [Nat.add_comm], ends, fun some => (closed some).imp fun _ => .blank isBlank⟩
  | case8 c rest line block isBlank m more =>
    rw [triviaLength.eq_4 _ _ line block, if_pos isBlank, more] at h
    cases h
  | case9 c rest line block solid =>
    rw [triviaLength.eq_4 _ _ line block, if_neg solid] at h
    cases h
    exact ⟨[], c :: rest, rfl, rfl,
      by rw [triviaLength.eq_4 _ _ line block, if_neg solid], fun _ => ⟨[], .nil⟩⟩

end Retouch.Lexer
