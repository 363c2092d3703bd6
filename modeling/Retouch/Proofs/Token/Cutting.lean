import Mathlib.Data.List.Find
import Retouch.Proofs.Token.Comments

/-!
# Where a token ends

`Cut kind x r` says that `x` in front of `r` is cut off as a token; it is one with nothing behind
it, too (`Cut.alone`). The scanner takes the trivia in front of the first token and the token, and
goes on behind it (`tokensFrom_cases`).
-/

namespace Retouch

/-- The characters of tokens. -/
def Token.chars (ts : List Token) : List Char := ts.flatMap fun t => t.leading.text.toList ++
    t.text.toList

namespace Lexer

/-- In front of `r`, the characters `x` are cut off as a token. -/
structure Cut (kind : TokenKind) (x r : List Char) : Prop where
  solid : triviaLength (x ++ r) = .ok 0
  taken : ∃ c y, x = c :: y ∧ tokenLength c (y ++ r) = .ok (kind, y.length)

theorem fractionLength_point (c : Char) (cs : List Char) : fractionLength ('.' :: c :: cs) =
    if c.isAlpha && !("eEdDfF".toList.contains c) then 0 else 1 + digitsLength (c :: cs) := rfl

theorem fractionLength_other {c : Char} (h : c ≠ '.') (cs : List Char) :
    fractionLength (c :: cs) = 0 := by
  unfold fractionLength
  split
  · next point => exact absurd (List.cons.inj point).1 h
  · rfl

theorem exponentLength_mark {c d : Char} (h : (c == 'e' || c == 'E') = true) (cs : List Char) :
    exponentLength (c :: d :: cs) = if d == '+' ||
      d == '-' then 2 + (cs.takeWhile Char.isDigit).length
      else 1 + ((d :: cs).takeWhile Char.isDigit).length :=
  if_pos h

theorem exponentLength_pos {c : Char} (h : (c == 'e' || c == 'E') = true) (cs : List Char) :
    0 < exponentLength (c :: cs) := by
  obtain _ | ⟨d, cs⟩ := cs
  · exact Nat.lt_of_lt_of_eq Nat.one_pos (if_pos h).symm
  · rw [exponentLength_mark h]
    split <;> omega

theorem exponentLength_other {c : Char} (h : (c == 'e' || c == 'E') = false) (cs : List Char) :
    exponentLength (c :: cs) = 0 :=
  if_neg (by simp [h])

theorem numberLength_based {x : Char} (h : "xXbB".toList.contains x = true) (cs : List Char) :
    numberLength ('0' :: x :: cs) =
      let n := (cs.takeWhile fun c => isHexDigit c || c == '_').length
      ((numberSuffix false (cs.drop n)).1, 2 + n + (numberSuffix false (cs.drop n)).2) := by
  rw [numberLength.eq_1, if_pos h]
  dsimp only
  rw [Nat.add_comm 2, List.drop_succ_cons, List.drop_succ_cons]

theorem numberLength_decimal {c x : Char} (h : c = '0' → "xXbB".toList.contains x = false)
    (cs : List Char) :
    numberLength (c :: x :: cs) = numberLength.decimalLength (c :: x :: cs) := by
  by_cases zero : c = '0'
  · subst zero
    rw [numberLength.eq_1, if_neg (by rw [h rfl]; decide)]
  · exact numberLength.eq_2 _ fun _ _ equal => zero (List.cons.inj equal).1

/-! ## No scanner takes more than there is -/

theorem takeWhile_le (p : Char → Bool) (cs : List Char) : (cs.takeWhile p).length ≤ cs.length :=
  (List.takeWhile_prefix p).length_le

theorem fractionLength_le (cs : List Char) : fractionLength cs ≤ cs.length := by
  obtain _ | ⟨c, cs⟩ := cs
  · exact Nat.le_refl 0
  by_cases point : c = '.'
  · subst point
    obtain _ | ⟨d, cs⟩ := cs
    · exact Nat.le_refl 1
    · have digits : digitsLength (d :: cs) ≤ (d :: cs).length := takeWhile_le _ _
      rw [fractionLength_point]
      simp only [List.length_cons] at digits ⊢
      split <;> omega
  · rw [fractionLength_other point]
    exact Nat.zero_le _

theorem exponentLength_le (cs : List Char) : exponentLength cs ≤ cs.length := by
  obtain _ | ⟨c, cs⟩ := cs
  · exact Nat.le_refl 0
  cases mark : c == 'e' || c == 'E' with
  | true =>
    obtain _ | ⟨d, cs⟩ := cs
    · exact Nat.le_of_eq (if_pos mark)
    · have tail := takeWhile_le Char.isDigit cs
      have digits := takeWhile_le Char.isDigit (d :: cs)
      rw [exponentLength_mark mark]
      simp only [List.length_cons] at digits ⊢
      split <;> omega
  | false =>
    rw [exponentLength_other mark]
    exact Nat.zero_le _

theorem numberSuffix_le (floating : Bool) (cs : List Char) :
    (numberSuffix floating cs).2 ≤ cs.length := by
  unfold numberSuffix
  split
  · rw [List.length_cons]
    repeat' split
    all_goals omega
  · exact Nat.le_refl 0

theorem decimalLength_le (cs : List Char) : (numberLength.decimalLength cs).2 ≤ cs.length := by
  have digits : digitsLength cs ≤ cs.length := takeWhile_le _ _
  have fraction (n : Nat) : fractionLength (cs.drop n) ≤ cs.length - n := by
    simpa using fractionLength_le (cs.drop n)
  have exponent (n : Nat) : exponentLength (cs.drop n) ≤ cs.length - n := by
    simpa using exponentLength_le (cs.drop n)
  have suffix (b : Bool) (n : Nat) : (numberSuffix b (cs.drop n)).2 ≤ cs.length - n := by
    simpa using numberSuffix_le b (cs.drop n)
  simp only [numberLength.decimalLength]
  have first := fraction (digitsLength cs)
  generalize fractionLength (cs.drop (digitsLength cs)) = f at first ⊢
  have second := exponent (digitsLength cs + f)
  generalize exponentLength (cs.drop (digitsLength cs + f)) = e at second ⊢
  have third := suffix (decide (0 < f + e)) (digitsLength cs + f + e)
  omega

theorem numberLength_le (cs : List Char) : (numberLength cs).2 ≤ cs.length := by
  obtain _ | ⟨c, _ | ⟨x, cs⟩⟩ := cs
  · exact Nat.le_refl 0
  · rw [numberLength.eq_2 _ (by simp)]
    exact decimalLength_le [c]
  · by_cases based : c = '0' ∧ "xXbB".toList.contains x = true
    · obtain ⟨rfl, base⟩ := based
      have digits := takeWhile_le (fun c => isHexDigit c || c == '_') cs
      have suffix := numberSuffix_le false
        (cs.drop (cs.takeWhile fun c => isHexDigit c || c == '_').length)
      rw [numberLength_based base]
      simp only [List.length_drop, List.length_cons] at suffix ⊢
      omega
    · rw [numberLength_decimal (by simpa using based)]
      exact decimalLength_le (c :: x :: cs)

/-! ## A number alone -/

section Alone

-- Behind the characters `z` that a scanner takes stands `r`, or nothing.
variable {z r : List Char}

theorem takeWhile_alone {p : Char → Bool} (h : ((z ++ r).takeWhile p).length ≤ z.length) :
    z.takeWhile p = (z ++ r).takeWhile p := by
  obtain _ | ⟨d, r⟩ := r
  · rw [List.append_nil]
  · induction z with
    | nil =>
      rw [List.nil_append] at h ⊢
      exact (List.length_eq_zero_iff.1 (Nat.le_zero.1 h)).symm
    | cons c z ih =>
      simp only [List.cons_append, List.takeWhile_cons] at h ⊢
      cases goes : p c with
      | true =>
        simp only [goes, if_true, List.length_cons, Nat.add_le_add_iff_right] at h ⊢
        rw [ih h]
      | false => rfl

theorem digitsLength_alone (h : digitsLength (z ++ r) ≤ z.length) :
    digitsLength z = digitsLength (z ++ r) :=
  congrArg List.length (takeWhile_alone h)

/-- A point at the end is taken for a fraction. -/
theorem fractionLength_alone (h : fractionLength (z ++ r) ≤ z.length)
    (taken : z = ['.'] → fractionLength (z ++ r) ≠ 0) :
      fractionLength z = fractionLength (z ++ r) := by
  obtain _ | ⟨c, z⟩ := z
  · exact (Nat.le_zero.1 h).symm
  by_cases point : c = '.'
  · subst point
    obtain _ | ⟨d, z⟩ := z
    · have one : fractionLength (['.'] ++ r) = 1 := by
        have pos := Nat.pos_of_ne_zero (taken rfl)
        simp only [List.length_singleton] at h
        omega
      rw [one]
      rfl
    · simp only [List.cons_append, fractionLength_point] at h ⊢
      split at h
      · next letter => rw [if_pos letter, if_pos letter]
      · next digit =>
        rw [if_neg digit, if_neg digit]
        have same := digitsLength_alone (z := d :: z) (r := r)
          (by simp only [List.cons_append, List.length_cons] at h ⊢; omega)
        exact congrArg (1 + ·) same
  · exact (fractionLength_other point _).trans (fractionLength_other point _).symm

theorem exponentLength_alone (h : exponentLength (z ++ r) ≤ z.length) :
    exponentLength z = exponentLength (z ++ r) := by
  obtain _ | ⟨c, z⟩ := z
  · exact (Nat.le_zero.1 h).symm
  cases mark : c == 'e' || c == 'E' with
  | true =>
    obtain _ | ⟨d, z⟩ := z
    · have pos : 0 < exponentLength ([c] ++ r) := exponentLength_pos mark r
      have one : exponentLength [c] = 1 := if_pos mark
      simp only [List.length_singleton] at h
      omega
    · simp only [List.cons_append, exponentLength_mark mark] at h ⊢
      split at h
      · next sign =>
        rw [if_pos sign, if_pos sign, takeWhile_alone (r := r)]
        simp only [List.length_cons] at h
        omega
      · next plain =>
        rw [if_neg plain, if_neg plain]
        have same := takeWhile_alone (p := Char.isDigit) (z := d :: z) (r := r)
          (by simp only [List.cons_append, List.length_cons] at h ⊢; omega)
        exact congrArg (1 + ·.length) same
  | false => exact (exponentLength_other mark _).trans (exponentLength_other mark _).symm

theorem numberSuffix_alone {floating : Bool} (h : (numberSuffix floating (z ++ r)).2 ≤ z.length) :
    numberSuffix floating z = numberSuffix floating (z ++ r) := by
  obtain _ | ⟨c, z⟩ := z
  · obtain _ | ⟨d, r⟩ := r
    · rfl
    · simp only [List.nil_append, numberSuffix] at h ⊢
      split at h
      · cases h
      · next long =>
        rw [if_neg long]
        split at h
        · cases h
        · next float =>
          rw [if_neg float]
          split at h
          · cases h
          · next double => rw [if_neg double]
  · rfl

theorem decimalLength_alone (h : (numberLength.decimalLength (z ++ r)).2 = z.length) :
    numberLength.decimalLength z = numberLength.decimalLength (z ++ r) := by
  have behind {n : Nat} (short : n ≤ z.length) : (z ++ r).drop n = z.drop n ++ r :=
    List.drop_append_of_le_length short
  simp only [numberLength.decimalLength] at h ⊢
  generalize whole : digitsLength (z ++ r) = w at h ⊢
  have digits : digitsLength z = w := by
    rw [digitsLength_alone (r := r) (by omega), whole]
  rw [digits]
  rw [behind (by omega)] at h ⊢
  generalize part : fractionLength (z.drop w ++ r) = f at h ⊢
  -- A point that is no fraction is neither an exponent nor a suffix, so the number would end before
  -- it.
  have taken (point : z.drop w = ['.']) : fractionLength (z.drop w ++ r) ≠ 0 := by
    rw [part]
    rintro rfl
    have longer : z.length = w + 1 := by
      have := congrArg List.length point
      rw [List.length_drop, List.length_singleton] at this
      omega
    rw [Nat.add_zero, behind (by omega), point] at h
    have power : exponentLength (['.'] ++ r) = 0 := exponentLength_other rfl r
    rw [power, Nat.add_zero, behind (by omega), point] at h
    have suffix : (numberSuffix (decide (0 < 0 + 0)) (['.'] ++ r)).2 = 0 := rfl
    rw [suffix] at h
    omega
  have fraction : fractionLength (z.drop w) = f := by
    rw [fractionLength_alone (by rw [List.length_drop]; omega) taken, part]
  rw [fraction]
  rw [behind (by omega)] at h ⊢
  generalize power : exponentLength (z.drop (w + f) ++ r) = e at h ⊢
  have exponent : exponentLength (z.drop (w + f)) = e := by
    rw [exponentLength_alone (r := r) (by rw [List.length_drop]; omega), power]
  rw [exponent]
  rw [behind (by omega)] at h ⊢
  rw [numberSuffix_alone (r := r) (by rw [List.length_drop]; omega)]

theorem numberLength_alone (h : (numberLength (z ++ r)).2 = z.length) (some : z ≠ []) :
    numberLength z = numberLength (z ++ r) := by
  obtain _ | ⟨c, z⟩ := z
  · exact absurd rfl some
  obtain _ | ⟨x, z⟩ := z
  · have single : numberLength [c] = numberLength.decimalLength [c] := numberLength.eq_2 _ (by simp)
    obtain _ | ⟨x, r⟩ := r
    · rfl
    · rw [List.cons_append, List.nil_append] at h ⊢
      by_cases based : c = '0' ∧ "xXbB".toList.contains x = true
      · obtain ⟨rfl, base⟩ := based
        rw [numberLength_based base] at h
        simp only [List.length_singleton] at h
        omega
      · have plain : c = '0' → "xXbB".toList.contains x = false := by simpa using based
        rw [numberLength_decimal plain] at h ⊢
        rw [single]
        exact decimalLength_alone (z := [c]) h
  · rw [List.cons_append, List.cons_append] at h ⊢
    by_cases based : c = '0' ∧ "xXbB".toList.contains x = true
    · obtain ⟨rfl, base⟩ := based
      rw [numberLength_based base] at h ⊢
      rw [numberLength_based base]
      simp only [List.length_cons] at h ⊢
      rw [takeWhile_alone (r := r) (by omega), List.drop_append_of_le_length (by omega)]
      rw [List.drop_append_of_le_length (by omega)] at h
      rw [numberSuffix_alone (r := r) (by rw [List.length_drop]; omega)]
    · have plain : c = '0' → "xXbB".toList.contains x = false := by simpa using based
      rw [numberLength_decimal plain] at h ⊢
      rw [numberLength_decimal plain]
      exact decimalLength_alone (z := c :: x :: z) h

end Alone

/-! ## Literals and marks -/

/-- In the last cases of the scanner the character is no backslash. -/
theorem solid_of_cases {c : Char} {cs : List Char} (last : c = '\\' → cs = [] → False)
    (escape : ∀ (head : Char) (tail : List Char), c = '\\' → cs = head :: tail → False) :
      c ≠ '\\' := by
  rintro rfl
  cases cs with
  | nil => exact last rfl rfl
  | cons d ds => exact escape d ds rfl rfl

theorem quotedLength?_solid {quote c : Char} (solid : c ≠ '\\') (cs : List Char) :
    quotedLength? quote (c :: cs) =
      if (c == '\n') = true then none
      else if (c == quote) = true then some 1 else (quotedLength? quote cs).map (· + 1) :=
  quotedLength?.eq_4 _ _ _ (fun equal => absurd equal solid) fun _ _ equal => absurd equal solid

/-- A literal that ends does not depend on what stands behind it. -/
theorem quotedLength?_append {quote : Char} {cs : List Char} {n : Nat}
    (h : quotedLength? quote cs = some n)
    (r : List Char) : quotedLength? quote (cs.take n ++ r) = some n ∧ 0 < n ∧ n ≤ cs.length := by
  induction cs using quotedLength?.induct quote generalizing n with
  | case1 => cases h
  | case2 => cases h
  | case3 c cs ih =>
    rw [quotedLength?.eq_3] at h
    obtain ⟨m, found, rfl⟩ := Option.map_eq_some_iff.1 h
    rw [List.take_succ_cons, List.take_succ_cons, List.cons_append, List.cons_append,
      quotedLength?.eq_3,
      (ih found).1]
    exact ⟨rfl, Nat.succ_pos _, Nat.succ_le_succ (Nat.succ_le_succ (ih found).2.2)⟩
  | case4 c cs last escape feed =>
    rw [quotedLength?_solid (solid_of_cases last escape), if_pos feed] at h
    cases h
  | case5 c cs last escape feed closes =>
    rw [quotedLength?_solid (solid_of_cases last escape), if_neg feed, if_pos closes] at h
    cases h
    rw [List.take_succ_cons, List.cons_append, quotedLength?_solid (solid_of_cases last escape),
      if_neg feed, if_pos closes]
    exact ⟨rfl, Nat.one_pos, Nat.succ_le_succ (Nat.zero_le _)⟩
  | case6 c cs last escape feed inside ih =>
    rw [quotedLength?_solid (solid_of_cases last escape), if_neg feed, if_neg inside] at h
    obtain ⟨m, found, rfl⟩ := Option.map_eq_some_iff.1 h
    rw [List.take_succ_cons, List.cons_append, quotedLength?_solid (solid_of_cases last escape),
      if_neg feed, if_neg inside,
      (ih found).1]
    exact ⟨rfl, Nat.succ_pos _, Nat.succ_le_succ (ih found).2.2⟩

theorem textBlockLength?_append {cs : List Char} {n : Nat} (h : textBlockLength? cs = some n)
    (r : List Char) : textBlockLength? (cs.take n ++ r) = some n ∧ 3 ≤ n ∧ n ≤ cs.length := by
  induction cs using textBlockLength?.induct generalizing n with
  | case1 => cases h
  | case2 cs =>
    cases h
    simp [textBlockLength?]
  | case3 c cs opens ih =>
    rw [textBlockLength?.eq_3 _ _ opens] at h
    obtain ⟨m, found, rfl⟩ := Option.map_eq_some_iff.1 h
    obtain ⟨again, long, short⟩ := ih found
    refine ⟨?_, by omega, Nat.succ_le_succ short⟩
    -- The block goes on, so the two characters behind `c` are still there.
    obtain ⟨k, rfl⟩ : ∃ k, m = k + 2 := ⟨m - 2, by omega⟩
    obtain _ | ⟨d, _ | ⟨e, cs⟩⟩ := cs
    · cases found
    · exact absurd short (by simp)
    · rw [List.take_succ_cons, List.cons_append, textBlockLength?.eq_3, again]
      · rfl
      · intro tail quote quotes
        rw [List.take_succ_cons, List.take_succ_cons, List.cons_append, List.cons_append] at quotes
        simp only [List.cons.injEq] at quotes
        obtain ⟨rfl, rfl, -⟩ := quotes
        exact opens cs quote rfl

/-- The characters behind an opening double quote. -/
def stringLength (cs : List Char) : Except Fault (TokenKind × Nat) :=
  match cs with
  | '"' :: '"' :: rest =>
    match textBlockLength? rest with
    | some n => .ok (.string, 2 + n)
    | none => .error .unterminatedTextBlock
  | _ =>
    match quotedLength? '"' cs with
    | some n => .ok (.string, n)
    | none => .error .unterminatedLiteral

theorem tokenLength_quote (cs : List Char) : tokenLength '"' cs = stringLength cs := rfl

theorem stringLength_block (cs : List Char) : stringLength ('"' :: '"' :: cs) =
    match textBlockLength? cs with
    | some n => .ok (.string, 2 + n)
    | none => .error .unterminatedTextBlock := rfl

theorem stringLength_plain {cs : List Char} (h : ∀ rest, cs ≠ '"' :: '"' :: rest) :
    stringLength cs =
    match quotedLength? '"' cs with
    | some n => .ok (.string, n)
    | none => .error .unterminatedLiteral := by
  unfold stringLength
  split
  · next rest => exact absurd rfl (h rest)
  · rfl

theorem stringLength_alone {y r : List Char} {kind : TokenKind}
    (h : stringLength (y ++ r) = .ok (kind, y.length)) : stringLength y = .ok (kind, y.length) := by
  by_cases block : ∃ rest, y ++ r = '"' :: '"' :: rest
  · obtain ⟨rest, opens⟩ := block
    rw [opens, stringLength_block] at h
    cases found : textBlockLength? rest with
    | none => simp [found] at h
    | some n =>
      rw [found] at h
      obtain ⟨rfl, whole⟩ := Prod.mk.inj (Except.ok.inj h)
      obtain _ | ⟨d, _ | ⟨e, y⟩⟩ := y
      · simp at whole
      · simp at whole; omega
      · simp only [List.cons_append, List.cons.injEq] at opens
        obtain ⟨rfl, rfl, rfl⟩ := opens
        obtain rfl : n = y.length := by simp only [List.length_cons] at whole; omega
        have again := (textBlockLength?_append found []).1
        rw [List.take_left, List.append_nil] at again
        rw [stringLength_block, again]
        exact congrArg (fun n => Except.ok (TokenKind.string, n)) whole
  · have plain (rest : List Char) : y ++ r ≠ '"' :: '"' :: rest := fun opens => block ⟨rest, opens⟩
    rw [stringLength_plain plain] at h
    cases found : quotedLength? '"' (y ++ r) with
    | none => simp [found] at h
    | some n =>
      rw [found] at h
      obtain ⟨rfl, rfl⟩ := Prod.mk.inj (Except.ok.inj h)
      have again := (quotedLength?_append found []).1
      rw [List.take_left, List.append_nil] at again
      rw [stringLength_plain, again]
      rintro rest rfl
      exact plain (rest ++ r) rfl

theorem mark_alone {c : Char} {y r : List Char} {mark : String}
    (found : punctuation.find? (fun m => m.toList.isPrefixOf (c :: (y ++ r))) = some mark)
    (whole : mark.length - 1 = y.length) :
    punctuation.find? (fun m => m.toList.isPrefixOf (c :: y)) = some mark := by
  have longer : ∀ m ∈ punctuation, 0 < m.length := by decide
  obtain ⟨fits, before, behind, split, others⟩ := List.find?_eq_some_iff_append.1 found
  have pos := longer mark (by simp [split])
  rw [List.isPrefixOf_iff_prefix, ← List.cons_append] at fits
  refine List.find?_eq_some_iff_append.2 ⟨?_, before, behind, split, fun m mem => ?_⟩
  · rw [List.isPrefixOf_iff_prefix]
    refine List.prefix_of_prefix_length_le fits (List.prefix_append ..) ?_
    rw [String.length_toList, List.length_cons]
    omega
  · have apart := others m mem
    simp only [Bool.not_eq_true', ← Bool.not_eq_true, List.isPrefixOf_iff_prefix] at apart ⊢
    exact fun fits => apart (fits.trans (List.prefix_append (c :: y) r))

theorem digitsLength_pos {c : Char} (h : c.isDigit = true) (cs : List Char) :
    0 < digitsLength (c :: cs) := by
  simp [digitsLength, h]

theorem not_isAlpha {c : Char} (h : c.isDigit = true) : c.isAlpha = false := by
  have digit : c.val ≤ '9'.val := of_decide_eq_true (Bool.and_eq_true_iff.1 h).2
  rw [Bool.eq_false_iff]
  intro letter
  -- Letters have greater codes than digits.
  rcases Bool.or_eq_true_iff.1 letter with upper | lower
  · have above : 'A'.val ≤ c.val := (of_decide_eq_true upper).1
    exact absurd (UInt32.le_trans above digit) (by decide)
  · have above : 'a'.val ≤ c.val := of_decide_eq_true (Bool.and_eq_true_iff.1 lower).1
    exact absurd (UInt32.le_trans above digit) (by decide)

/-- A number has a character, and two of them if it begins with a point. -/
theorem numberLength_pos {c : Char} {cs : List Char}
    (h : (c.isDigit || c == '.' && cs.head?.any Char.isDigit) = true) :
    0 < (numberLength (c :: cs)).2 ∧ (c.isDigit = false → 2 ≤ (numberLength (c :: cs)).2) := by
  have decimal : 0 < (numberLength.decimalLength (c :: cs)).2 ∧
      (c.isDigit = false → 2 ≤ (numberLength.decimalLength (c :: cs)).2) := by
    simp only [numberLength.decimalLength]
    cases digit : c.isDigit with
    | true =>
      have := digitsLength_pos digit cs
      exact ⟨by omega, by simp⟩
    | false =>
      simp only [digit, Bool.false_or, Bool.and_eq_true, beq_iff_eq] at h
      obtain ⟨rfl, front⟩ := h
      obtain _ | ⟨d, cs⟩ := cs
      · cases front
      have isDigit : d.isDigit = true := front
      have none : digitsLength ('.' :: d :: cs) = 0 := rfl
      have letter : ¬(d.isAlpha && !("eEdDfF".toList.contains d)) = true := by
        simp [not_isAlpha isDigit]
      have some := digitsLength_pos isDigit cs
      rw [none, List.drop_zero, fractionLength_point, if_neg letter]
      omega
  obtain _ | ⟨x, cs⟩ := cs
  · rwa [numberLength.eq_2 _ (by simp)]
  · by_cases based : c = '0' ∧ "xXbB".toList.contains x = true
    · obtain ⟨rfl, base⟩ := based
      rw [numberLength_based base]
      dsimp only
      omega
    · rw [numberLength_decimal (by simpa using based)]
      exact decimal

theorem tokenLength_alone {c : Char} {y r : List Char} {kind : TokenKind}
    (h : tokenLength c (y ++ r) = .ok (kind, y.length)) :
      tokenLength c y = .ok (kind, y.length) := by
  unfold tokenLength at h ⊢
  split at h
  · next word =>
    rw [if_pos word]
    obtain ⟨rfl, whole⟩ := Prod.mk.inj (Except.ok.inj h)
    rw [takeWhile_alone (r := r) (Nat.le_of_eq whole), whole]
  · next word =>
    rw [if_neg word]
    split at h
    · next number =>
      obtain ⟨pos, long⟩ := numberLength_pos number
      have whole : (numberLength (c :: (y ++ r))).2 - 1 = y.length :=
        (Prod.mk.inj (Except.ok.inj h)).2
      have same : (c.isDigit || c == '.' && y.head?.any Char.isDigit) = true := by
        obtain _ | ⟨d, y⟩ := y
        · cases digit : c.isDigit with
          | true => rfl
          | false =>
            have := long digit
            simp only [List.length_nil] at whole
            omega
        · exact number
      rw [if_pos same, numberLength_alone (z := c :: y) (r := r)
        (by rw [List.cons_append, List.length_cons]; omega)
        (List.cons_ne_nil c y)]
      exact h
    · next number =>
      have other : ¬(c.isDigit || c == '.' && y.head?.any Char.isDigit) = true := by
        obtain _ | ⟨d, y⟩ := y
        · simp only [Bool.or_eq_true, not_or] at number
          simpa using number.1
        · exact number
      rw [if_neg other]
      split at h
      · next quote =>
        rw [if_pos quote]
        exact stringLength_alone h
      · next quote =>
        rw [if_neg quote]
        split at h
        · next quote =>
          rw [if_pos quote]
          cases found : quotedLength? '\'' (y ++ r) with
          | none => simp [found] at h
          | some n =>
            rw [found] at h
            obtain ⟨rfl, rfl⟩ := Prod.mk.inj (Except.ok.inj h)
            have again := (quotedLength?_append found []).1
            rw [List.take_left, List.append_nil] at again
            rw [again]
        · next quote =>
          rw [if_neg quote]
          split at h
          · next mark found =>
            obtain ⟨rfl, whole⟩ := Prod.mk.inj (Except.ok.inj h)
            rw [mark_alone found whole]
            exact congrArg (fun n => Except.ok (TokenKind.punct, n)) whole
          · cases h

theorem stringLength_le {cs : List Char} {kind : TokenKind} {n : Nat}
    (h : stringLength cs = .ok (kind, n)) :
    n ≤ cs.length := by
  by_cases block : ∃ rest, cs = '"' :: '"' :: rest
  · obtain ⟨rest, rfl⟩ := block
    rw [stringLength_block] at h
    cases found : textBlockLength? rest with
    | none => simp [found] at h
    | some m =>
      rw [found] at h
      cases h
      have := (textBlockLength?_append found []).2.2
      simp only [List.length_cons]
      omega
  · rw [stringLength_plain fun rest opens => block ⟨rest, opens⟩] at h
    cases found : quotedLength? '"' cs with
    | none => simp [found] at h
    | some m =>
      rw [found] at h
      cases h
      exact (quotedLength?_append found []).2.2

theorem tokenLength_le {c : Char} {cs : List Char} {kind : TokenKind} {n : Nat}
    (h : tokenLength c cs = .ok (kind, n)) : n ≤ cs.length := by
  unfold tokenLength at h
  split at h
  · cases h
    exact takeWhile_le _ _
  split at h
  · have whole : (numberLength (c :: cs)).2 - 1 = n := (Prod.mk.inj (Except.ok.inj h)).2
    have := numberLength_le (c :: cs)
    simp only [List.length_cons] at this
    omega
  split at h
  · exact stringLength_le h
  split at h
  · cases found : quotedLength? '\'' cs with
    | none => simp [found] at h
    | some m =>
      rw [found] at h
      cases h
      exact (quotedLength?_append found []).2.2
  split at h
  · next mark found =>
    cases h
    have fits := List.find?_some found
    have := (List.isPrefixOf_iff_prefix.1 fits).length_le
    simp only [String.length_toList, List.length_cons] at this
    omega
  · cases h

namespace Cut

variable {kind : TokenKind} {x r s q : List Char}

/-- A token is one by itself. -/
theorem alone (h : Cut kind x r) : Cut kind x [] := by
  obtain ⟨solid, c, y, rfl, taken⟩ := h
  refine ⟨?_, c, y, rfl, by rw [List.append_nil]; exact tokenLength_alone taken⟩
  rw [List.cons_append, triviaLength_eq_zero_iff] at solid ⊢
  rw [List.append_nil]
  refine ⟨solid.1, fun slash => ?_⟩
  obtain _ | ⟨d, y⟩ := y
  · exact ⟨by simp, by simp⟩
  · exact solid.2 slash

end Cut

/-! ## The tokens of a text -/

section Tokens

variable {cs : List Char} {offset : Nat} {ts : List Token}

/-- What the scanner does for one token. -/
theorem tokensFrom_cases (h : tokensFrom offset cs = .ok ts) :
    (∃ t, ts = [t] ∧ t.kind = .eof ∧ t.text = "" ∧ cs = t.leading.text.toList ∧
      triviaLength cs = .ok cs.length ∧
        t.offset = offset + Text.byteSize cs) ∨
      ∃ t ts' ks r offset', ts = t :: ts' ∧ t.kind ≠ .eof ∧ cs = t.leading.text.toList ++
        (t.text.toList ++ r) ∧
        Trivia t.leading.text.toList ks ∧ Cut t.kind t.text.toList r ∧
          tokensFrom offset' r = .ok ts' ∧
        t.offset = offset + Text.byteSize t.leading.text.toList ∧
        offset' = t.offset + Text.byteSize t.text.toList := by
  rw [tokensFrom] at h
  split at h
  · cases h
  · next n trivia =>
    obtain ⟨t, r, rfl, rfl, solid, closed⟩ := exists_trivia trivia
    rw [List.take_left] at h
    split at h
    · next rest =>
      rw [List.drop_left] at rest
      cases h
      left
      subst rest
      exact ⟨_, rfl, rfl, rfl, by simp [Token.atEnd], by simpa using trivia, by simp [Token.atEnd]⟩
    · next c rest cut =>
      rw [List.drop_left] at cut
      subst cut
      obtain ⟨ks, closed⟩ := closed (List.cons_ne_nil c rest)
      split at h
      · cases h
      · next kind m found =>
        dsimp only at h
        split at h
        · cases h
        · next tokens more =>
          cases h
          right
          have short : (rest.take m).length = m := List.length_take_of_le (tokenLength_le found)
          have whole : rest.take m ++ rest.drop m = rest := List.take_append_drop m rest
          refine ⟨_, tokens, ks, rest.drop m, _, rfl, tokenLength_ne_eof found, ?_, ?_, ?_, more,
            ?_, ?_⟩
          · simp
          · simpa using closed
          rotate_left
          · simp
          · simp
          · refine ⟨?_, c, rest.take m, String.toList_ofList, by rw [whole, short]; exact found⟩
            rwa [String.toList_ofList, List.cons_append, whole]

theorem chars_tokensFrom (h : tokensFrom offset cs = .ok ts) : Token.chars ts = cs := by
  have joined := congrArg String.toList (tokensFrom_ok h).1
  rw [String.toList_join, List.flatMap_map, String.toList_ofList] at joined
  rw [← joined, Token.chars]
  congr
  funext t
  rw [Token.print, String.toList_append]

/-- The last token is the end. -/
theorem exists_end (h : tokensFrom offset cs = .ok ts) :
    ∃ (ts' : List Token) (t : Token), ts = ts' ++ [t] ∧ t.text = "" := by
  induction ts generalizing offset cs with
  | nil =>
    obtain ⟨t, none, -⟩ | ⟨t, ts', ks, r, offset', none, -⟩ := tokensFrom_cases h
    · cases none
    · cases none
  | cons t ts ih =>
    obtain ⟨t', single, -, text, -⟩ | ⟨t', ts', ks, r, offset', first, -, -, -, -, more, -⟩ :=
      tokensFrom_cases h
    · obtain ⟨rfl, rfl⟩ := List.cons.inj single
      exact ⟨[], t, rfl, text⟩
    · obtain ⟨rfl, rfl⟩ := List.cons.inj first
      obtain ⟨ts', last, rfl, text⟩ := ih more
      exact ⟨t :: ts', last, rfl, text⟩

/-- All tokens but the last one are cut off in front of something. -/
theorem exists_cut (h : tokensFrom offset cs = .ok ts) {t : Token} (mem : t ∈ ts)
    (inside : t.kind ≠ .eof) :
    ∃ r, Cut t.kind t.text.toList r := by
  induction ts generalizing offset cs with
  | nil => cases mem
  | cons a ts ih =>
    obtain ⟨t', single, eof, -⟩ | ⟨t', ts', ks, r, offset', first, -, -, -, cut, more, -⟩ :=
      tokensFrom_cases h
    · rw [single] at mem
      obtain rfl := List.mem_singleton.1 mem
      exact absurd eof inside
    · obtain ⟨rfl, rfl⟩ := List.cons.inj first
      obtain rfl | later := List.mem_cons.1 mem
      · exact ⟨r, cut⟩
      · exact ih more later

end Tokens

end Lexer

end Retouch
