import Mathlib.Algebra.GroupWithZero.Nat
import Retouch.Proofs.Outcome
import Retouch.Proofs.Text.Split
import Retouch.Proofs.Token.Cutting
import Retouch.Token.Literal

/-!
# Values of strings

What stands between the quotes of a string is its body; of a text block, the opening line is left
out (`Token.Body`). Every string of a source has a body, and its value is the body without escapes.

Of the escapes of the language (`Spelled`), only those of surrogates give no character. So the value
of a string is empty where its body is, and where the body spells surrogates and nothing else
(`value?_tokenize`).
-/

namespace Retouch

namespace Literals

/-! ## Escapes -/

/-- The letters behind a backslash, but for `u`. A line may end behind one, and of an octal number
only the first digit counts. -/
def escapeLetters : List Char := "btnfrs\"'\\01234567\n".toList

/-- What may stand between quotes, as to its escapes. -/
inductive Spelled : List Char → Prop
  | nil : Spelled []
  | plain {c : Char} {cs : List Char} : c ≠ '\\' → Spelled cs → Spelled (c :: cs)
  | letter {c : Char} {cs : List Char} : c ∈ escapeLetters → Spelled cs → Spelled ('\\' :: c :: cs)
  | code {n k : Nat} {hex cs : List Char} : hex.length = 4 → digitsValue? 16 hex = some k →
    Spelled cs →
      Spelled ('\\' :: (List.replicate (n + 1) 'u' ++ (hex ++ cs)))

/-- One half of a character above 16 bits. -/
def isSurrogate (n : Nat) : Bool := 0xD800 ≤ n && n ≤ 0xDFFF

/-- Escapes of surrogates and nothing else. -/
inductive Surrogates : List Char → Prop
  | nil : Surrogates []
  | code {n k : Nat} {hex cs : List Char} : hex.length = 4 → digitsValue? 16 hex = some k →
      isSurrogate k = true → Surrogates cs →
      Surrogates ('\\' :: (List.replicate (n + 1) 'u' ++ (hex ++ cs)))

variable {c : Char} {cs hex : List Char} {n k : Nat}

theorem digitValue?_lt {base d : Nat} (h : digitValue? base c = some d) : d < base := by
  simpa using (Option.filter_eq_some_iff.1 h).2

theorem digitsValueFrom?_lt {base acc : Nat} (h : digitsValueFrom? base acc cs = some k) :
    k < (acc + 1) * base ^ cs.length := by
  induction cs generalizing acc with
  | nil =>
    cases h
    simp
  | cons c cs ih =>
    obtain ⟨d, digit, rest⟩ := Option.bind_eq_some_iff.1 h
    have small := digitValue?_lt digit
    calc k < (acc * base + d + 1) * base ^ cs.length := ih rest
      _ ≤ ((acc + 1) * base) * base ^ cs.length := by
        refine Nat.mul_le_mul_right _ ?_
        rw [Nat.add_mul]
        omega
      _ = (acc + 1) * base ^ (c :: cs).length := by
        rw [List.length_cons, Nat.pow_succ, Nat.mul_assoc, Nat.mul_comm base]

/-- The first of digits is neither a sign nor a letter `u`. -/
theorem exists_digit (h : digitsValue? 16 hex = some k) :
    ∃ c rest, hex = c :: rest ∧ c ≠ '+' ∧ c ≠ 'u' := by
  cases hex with
  | nil => cases h
  | cons c rest =>
    obtain ⟨d, digit, -⟩ := Option.bind_eq_some_iff.1 h
    refine ⟨c, rest, rfl, ?_, ?_⟩
    · rintro rfl
      cases digit
    · rintro rfl
      cases digit

/-- Four digits give no character exactly if they are those of a surrogate. -/
theorem codeChar?_eq_none_iff (long : hex.length = 4) (h : digitsValue? 16 hex = some k) :
    codeChar? hex = none ↔ isSurrogate k = true := by
  obtain ⟨c, rest, rfl, unsigned, -⟩ := exists_digit h
  have bound : k < 16 ^ 4 := by
    have small : k < (0 + 1) * 16 ^ (c :: rest).length := digitsValueFrom?_lt h
    rwa [long, Nat.zero_add, Nat.one_mul] at small
  have code : codeChar? (c :: rest) = if k.isValidChar then some (Char.ofNat k) else none := by
    unfold codeChar?
    split
    · next first => exact absurd (List.cons.inj first).1 unsigned
    · simp [h]
  have valid : k.isValidChar ↔ isSurrogate k = false := by
    unfold Nat.isValidChar isSurrogate
    grind
  rw [code]
  split
  · next held => simp [valid.1 held]
  · next held => simpa using fun other => held (valid.2 other)

theorem unescape_nil : unescape [] = [] := by rw [unescape]

theorem unescape_plain (h : c ≠ '\\') : unescape (c :: cs) = c :: unescape cs := by
  rw [unescape]
  · simp [h]
  · simp [h]

theorem unescape_letter (h : c ∈ escapeLetters) :
    unescape ('\\' :: c :: cs) = simpleEscape c :: unescape cs := by
  rw [unescape]
  rintro rfl
  revert h
  decide

theorem unescape_code (long : hex.length = 4) (h : digitsValue? 16 hex = some k) :
    unescape ('\\' :: (List.replicate (n + 1) 'u' ++ (hex ++ cs))) =
      (codeChar? hex).toList ++ unescape cs := by
  obtain ⟨c, rest, rfl, -, other⟩ := exists_digit h
  have behind : (List.replicate n 'u' ++ (c :: rest ++ cs)).dropWhile (· == 'u') = c :: rest ++
    cs := by
    rw [List.dropWhile_append, List.dropWhile_replicate]
    simp [other]
  rw [List.replicate_succ, List.cons_append, unescape, behind, List.take_left' long,
    List.drop_left' long]
  cases codeChar? (c :: rest) <;> rfl

/-- Only escapes of surrogates denote nothing. -/
theorem unescape_eq_nil_iff (h : Spelled cs) : unescape cs = [] ↔ Surrogates cs := by
  constructor
  · intro empty
    induction h with
    | nil => exact .nil
    | plain other _ _ => simp [unescape_plain other] at empty
    | letter mem _ _ => simp [unescape_letter mem] at empty
    | code long value _ ih =>
      rw [unescape_code long value, List.append_eq_nil_iff, Option.toList_eq_nil_iff] at empty
      exact .code long value ((codeChar?_eq_none_iff long value).1 empty.1) (ih empty.2)
  · intro all
    clear h
    induction all with
    | nil => exact unescape_nil
    | code long value surrogate _ ih =>
      rw [unescape_code long value, (codeChar?_eq_none_iff long value).2 surrogate, ih]
      rfl

end Literals

/-! ## Bodies -/

/-- What the quotes of a string enclose; of a text block, only what stands behind its first line
feed. -/
inductive Token.Body (t : Token) : List Char → Prop
  | line {body : List Char} : t.text.toList = '"' :: (body ++ ['"']) →
    body.head? ≠ some '"' → t.Body body
  | block {opening body : List Char} : '\n' ∉ opening →
      t.text.toList = ['"', '"', '"'] ++ (opening ++ '\n' :: body) ++ ['"', '"', '"'] → t.Body body
  /-- A text block without a line feed. -/
  | unbroken {body : List Char} : '\n' ∉ body →
      t.text.toList = ['"', '"', '"'] ++ body ++ ['"', '"', '"'] → t.Body body

namespace Lexer

theorem exists_quoted {quote : Char} {cs : List Char}
    (h : quotedLength? quote cs = some cs.length) :
    ∃ body, cs = body ++ [quote] ∧ (quote ≠ '\\' → body.head? ≠ some quote) := by
  induction cs using quotedLength?.induct quote with
  | case1 => cases h
  | case2 => cases h
  | case3 c cs ih =>
    rw [quotedLength?.eq_3] at h
    obtain ⟨m, found, length⟩ := Option.map_eq_some_iff.1 h
    obtain rfl : m = cs.length := Nat.add_right_cancel length
    obtain ⟨body, rfl, -⟩ := ih found
    exact ⟨'\\' :: c :: body, rfl, fun other first => other (Option.some.inj first).symm⟩
  | case4 c cs last escape feed =>
    rw [quotedLength?_solid (solid_of_cases last escape), if_pos feed] at h
    cases h
  | case5 c cs last escape feed closes =>
    rw [quotedLength?_solid (solid_of_cases last escape), if_neg feed, if_pos closes] at h
    obtain rfl : cs = [] := by simpa using h
    exact ⟨[], by simpa using closes, fun _ first => Option.some_ne_none _ first.symm⟩
  | case6 c cs last escape feed inside ih =>
    rw [quotedLength?_solid (solid_of_cases last escape), if_neg feed, if_neg inside] at h
    obtain ⟨m, found, length⟩ := Option.map_eq_some_iff.1 h
    obtain rfl : m = cs.length := Nat.add_right_cancel length
    obtain ⟨body, rfl, -⟩ := ih found
    exact ⟨c :: body, rfl, fun _ first => inside (beq_iff_eq.2 (Option.some.inj first))⟩

theorem exists_textBlock {cs : List Char} (h : textBlockLength? cs = some cs.length) :
    ∃ body, cs = body ++ ['"', '"', '"'] := by
  induction cs using textBlockLength?.induct with
  | case1 => cases h
  | case2 cs =>
    obtain rfl : cs = [] := by simpa [textBlockLength?] using h
    exact ⟨[], rfl⟩
  | case3 c cs opens ih =>
    rw [textBlockLength?.eq_3 _ _ opens] at h
    obtain ⟨m, found, length⟩ := Option.map_eq_some_iff.1 h
    obtain rfl : m = cs.length := Nat.succ.inj length
    obtain ⟨body, rfl⟩ := ih found
    exact ⟨c :: body, rfl⟩

theorem quote_of_tokenLength {c : Char} {cs : List Char} {n : Nat}
    (h : tokenLength c cs = .ok (.string, n)) : c = '"' := by
  have number := numberLength_kind (c :: cs)
  unfold tokenLength at h
  grind

theorem Cut.exists_body {t : Token} {r : List Char} (h : Cut t.kind t.text.toList r)
    (kind : t.kind = .string) : ∃ body, t.Body body := by
  obtain ⟨c, cs, text, taken⟩ := h.alone.taken
  rw [List.append_nil, kind] at taken
  obtain rfl := quote_of_tokenLength taken
  rw [tokenLength_quote] at taken
  by_cases opens : ∃ rest, cs = '"' :: '"' :: rest
  · obtain ⟨rest, rfl⟩ := opens
    rw [stringLength_block] at taken
    split at taken
    · next n found =>
      obtain rfl : n = rest.length := by simpa [Nat.add_comm 2] using taken
      obtain ⟨body, rfl⟩ := exists_textBlock found
      by_cases feed : '\n' ∈ body
      · obtain ⟨opening, body, rfl, first⟩ := List.eq_append_cons_of_mem feed
        exact ⟨body, .block first (by simpa using text)⟩
      · exact ⟨body, .unbroken feed (by simpa using text)⟩
    · cases taken
  · rw [stringLength_plain fun rest block => opens ⟨rest, block⟩] at taken
    split at taken
    · next n found =>
      obtain rfl : n = cs.length := by simpa using taken
      obtain ⟨body, rfl, first⟩ := exists_quoted found
      exact ⟨body, .line text (first (by decide))⟩
    · cases taken

end Lexer

namespace Literals

theorem inner_append {n : Nat} {opening closing : List Char} (first : opening.length = n)
    (last : closing.length = n) (body : List Char) :
      inner n (opening ++ body ++ closing) = body := by
  have length : (opening ++ body ++ closing).length - 2 * n = body.length := by
    simp only [List.length_append]
    omega
  rw [inner, length, List.append_assoc, List.drop_left' first, List.take_left' rfl]

theorem textBlockBody_quoted (whole : List Char) :
    textBlockBody (['"', '"', '"'] ++ whole ++ ['"', '"', '"']) =
      ((Text.cutChars? '\n' whole).map Prod.snd).getD whole := by
  have inside : inner 3 (['"', '"', '"'] ++ whole ++ ['"', '"', '"']) = whole :=
    inner_append rfl rfl whole
  rw [textBlockBody, inside]
  cases Text.cutChars? '\n' whole <;> rfl

variable {t : Token} {body : List Char}

/-- The value is the body without escapes. -/
theorem value?_of_body (kind : t.kind = .string) (h : t.Body body) :
    value? t = some (.string (String.ofList (unescape body))) := by
  have block {whole : List Char}
    (text : t.text.toList = ['"', '"', '"'] ++ whole ++ ['"', '"', '"']) :
      value? t = some (.string (String.ofList (unescape
        (((Text.cutChars? '\n' whole).map Prod.snd).getD whole)))) := by
    have lead : Text.hasLead "\"\"\"" t.text = true := by simp [Text.hasLead, text]
    simp only [value?, kind, lead, if_true]
    rw [text, textBlockBody_quoted]
  cases h with
  | line text first =>
    have lead : Text.hasLead "\"\"\"" t.text = false := by
      cases body with
      | nil => simp [Text.hasLead, text]
      | cons c body =>
        have other : ¬ '"' = c := fun same => first (congrArg some same.symm)
        simp [Text.hasLead, List.isPrefixOf, text, other]
    have inside : inner 1 (['"'] ++ body ++ ['"']) = body := inner_append rfl rfl body
    simp only [value?, kind, lead, Bool.false_eq_true, if_false]
    rw [text, ← List.singleton_append, ← List.append_assoc, inside]
  | block first text =>
    rw [block text, Text.cutChars?_append first]
    rfl
  | unbroken free text =>
    rw [block text, Text.cutChars?_free free]
    rfl

/-- Every string of a source has a value. It is the empty one, for a body with the escapes of the
language, exactly if the body spells nothing but surrogates. -/
theorem value?_tokenize {source : String} {tokens : List Token}
    (lexed : tokenize source = .ok tokens)
    (mem : t ∈ tokens) (kind : t.kind = .string) :
    ∃ body s, t.Body body ∧ value? t = some (.string s) ∧
      (Spelled body → (s = "" ↔ Surrogates body)) := by
  obtain ⟨r, cut⟩ := Lexer.exists_cut lexed mem (by simp [kind])
  obtain ⟨body, holds⟩ := cut.exists_body kind
  refine ⟨body, _, holds, value?_of_body kind holds, fun spelled => ?_⟩
  rw [← unescape_eq_nil_iff spelled, ← String.ofList_nil, String.ofList_inj]

/-- A word, the empty string and a character of two surrogates. -/
theorem value?_tokenize_surrogates :
    let t : Token := ⟨.string, "\"\\uD83D\\uDE00\"", ⟨" "⟩, 5⟩
    ∃ tokens, tokenize "a \"\" \"\\uD83D\\uDE00\"" = .ok tokens ∧ t ∈ tokens ∧ t.kind = .string ∧
      ∃ body s, t.Body body ∧ value? t = some (.string s) ∧
        (Spelled body → (s = "" ↔ Surrogates body)) := by
  intro t
  have reads : (tokenize "a \"\" \"\\uD83D\\uDE00\"").toOption.any
    (fun tokens => decide (t ∈ tokens)) = true := by
    decide +kernel
  obtain ⟨tokens, lexed, mem⟩ := exists_of_any reads
  have mem : t ∈ tokens := of_decide_eq_true mem
  exact ⟨tokens, lexed, mem, rfl, value?_tokenize lexed mem rfl⟩

end Literals

end Retouch
