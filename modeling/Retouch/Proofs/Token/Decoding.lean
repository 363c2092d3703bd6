import Retouch.Proofs.Token.Indexed
import Retouch.Proofs.Token.Literals

/-!
# Reading literals by places

What `Literals.value?` reads, with every part of the text as a slice between two places and every
difference of places as a number that may not exist. `value?_eq`: for the tokens of a source all of
them exist. A text block is told by its three quotes, which it has at both ends then.
-/

namespace Retouch.Literals

namespace Indexed

open Text

/-- An integer. The digits of an octal number stand behind its zero. -/
def integer? (text : List Char) : Option (Option Int) := do
  let digits := text.filter (· != '_')
  let value? ← match digits with
    | '0' :: 'x' :: hex | '0' :: 'X' :: hex => some (digitsValue? 16 hex)
    | '0' :: 'b' :: bin | '0' :: 'B' :: bin => some (digitsValue? 2 bin)
    | '0' :: _ :: _ => (slice? digits 1 (byteSize digits)).map (digitsValue? 8)
    | ds => some (digitsValue? 10 ds)
  return (value?.filter (· ≤ maxLong)).map Int.ofNat

/-- The text without so many bytes at its ends. -/
def trim? (front back : Nat) (cs : List Char) : Option (List Char) := do
  slice? cs front (← (byteSize cs).psub back)

/-- The value of a token, as far as the places exist. -/
def value? (t : Token) : Option (Option LiteralValue) := do
  let cs := t.text.toList
  match t.kind with
  | .int => return (← integer? cs).map .int
  | .long => return (← integer? (← trim? 0 1 cs)).map .long
  | .float => return (decimal? ((← trim? 0 1 cs).filter (· != '_'))).map .float
  | .char => return (unescape (← trim? 1 1 cs)).head?.map .char
  | .string =>
    if Text.hasLead "\"\"\"" t.text then
      let body ← trim? 3 3 cs
      return some (.string
        (String.ofList (unescape (((cutChars? '\n' body).map Prod.snd).getD body))))
    else return some (.string (String.ofList (unescape (← trim? 1 1 cs))))
  | _ => return Literals.value? t

variable {t : Token}

theorem integer?_eq (text : List Char) : integer? text = some (Literals.integer? text) := by
  have behind (c d : Char) (cs : List Char) (one : c.utf8Size = 1) :
      slice? (c :: d :: cs) 1 (byteSize (c :: d :: cs)) = some (d :: cs) :=
    slice?_eq_some_iff.2 ⟨[c], [], by simp, by rw [byteSize, one]; rfl, rfl⟩
  unfold integer? Literals.integer?
  generalize text.filter (· != '_') = digits
  dsimp only
  split
  · rfl
  · rfl
  · rfl
  · rfl
  · next c cs noHex noHex' noBin noBin' =>
    rw [behind '0' c cs rfl, Option.map_some, Option.bind_eq_bind, Option.bind_some]
    grind
  · next noHex noHex' noBin noBin' noOct =>
    rw [Option.bind_eq_bind, Option.bind_some]
    grind

theorem trim?_append {front back body : List Char} :
    trim? (byteSize front) (byteSize back) (front ++ (body ++ back)) = some body := by
  have size : (byteSize (front ++ (body ++ back))).psub (byteSize back) = some
    (byteSize (front ++ body)) :=
    Nat.psub_eq_some.2 (by simp only [byteSize_append, Nat.add_assoc])
  rw [trim?, size, Option.bind_eq_bind, Option.bind_some]
  exact slice?_eq_some_iff.2 ⟨front, back, rfl, rfl, rfl⟩

theorem length_le_byteSize (cs : List Char) : cs.length ≤ byteSize cs := by
  induction cs with
  | nil => exact Nat.le_refl 0
  | cons c cs ih =>
    have positive := c.utf8Size_pos
    rw [List.length_cons, byteSize]
    omega

/-- The last character of a text of ASCII is one byte. -/
theorem trim?_dropLast {cs : List Char} (full : cs ≠ []) (plain : byteSize cs = cs.length) :
    trim? 0 1 cs = some cs.dropLast := by
  obtain ⟨front, last, rfl⟩ := (List.eq_nil_or_concat cs).resolve_left full
  rw [List.concat_eq_append] at plain ⊢
  have least := length_le_byteSize front
  have one : byteSize [last] = 1 := by
    have positive := last.utf8Size_pos
    rw [byteSize_append, List.length_append, List.length_singleton, byteSize] at plain
    rw [byteSize]
    have none : byteSize [] = 0 := rfl
    omega
  have body : trim? (byteSize []) (byteSize [last]) ([] ++ (front ++ [last])) = _ := trim?_append
  rw [one] at body
  rw [List.dropLast_concat]
  exact body

/-- Numbers are texts of ASCII. -/
theorem plain_of_tokenLength {c : Char} {cs : List Char} {kind : TokenKind}
    (h : Lexer.tokenLength c cs = .ok (kind, cs.length))
    (number : kind = .long ∨ kind = .float) : byteSize (c :: cs) = (c :: cs).length := by
  have count : (Lexer.numberLength (c :: cs)).2 = cs.length + 1 := by
    unfold Lexer.tokenLength at h
    split_ifs at h with word digits quotes quote
    · have same := congrArg Prod.fst (Except.ok.inj h)
      rcases number with rfl | rfl <;> cases same
    · have positive := (Lexer.numberLength_pos digits).1
      generalize Lexer.numberLength (c :: cs) = found at h positive ⊢
      have length : found.2 - 1 = cs.length := congrArg Prod.snd (Except.ok.inj h)
      omega
    all_goals grind
  obtain ⟨-, plain⟩ :=
    Lexer.Indexed.numberEnd_eq (show Stands (String.ofList (c :: cs)) 0 (c :: cs) from
    ⟨[], String.toList_ofList, rfl⟩)
  rw [count, Plain, List.take_of_length_le (by simp)] at plain
  rw [plain, List.length_cons]

theorem quoted_of_tokenLength {c : Char} {cs : List Char}
    (h : Lexer.tokenLength c cs = .ok (.char, cs.length)) :
    c = '\'' ∧ Lexer.quotedLength? '\'' cs = some cs.length := by
  have number := Lexer.numberLength_kind (c :: cs)
  unfold Lexer.tokenLength at h
  grind

/-- A string has three quotes at both ends if it begins with them, else one. -/
theorem quotes_of_body {body : List Char} (h : t.Body body) :
    (Text.hasLead "\"\"\"" t.text = true ∧
      ∃ whole, t.text.toList = ['"', '"', '"'] ++ (whole ++ ['"', '"', '"'])) ∨
    Text.hasLead "\"\"\"" t.text = false ∧ ∃ whole, t.text.toList = ['"'] ++ (whole ++ ['"']) := by
  cases h with
  | line text first =>
    refine .inr ⟨?_, body, text⟩
    cases body with
    | nil => simp [Text.hasLead, text]
    | cons c body =>
      have other : ¬ '"' = c := fun same => first (congrArg some same.symm)
      simp [Text.hasLead, List.isPrefixOf, text, other]
  | block _ text => exact .inl ⟨by simp [Text.hasLead, text], _, text.trans (List.append_assoc ..)⟩
  | unbroken _ text =>
    exact .inl ⟨by simp [Text.hasLead, text], _, text.trans (List.append_assoc ..)⟩

/-- Every slice of a literal exists. -/
theorem value?_eq {source : String} {tokens : List Token} (lexed : tokenize source = .ok tokens)
    (mem : t ∈ tokens) :
    value? t = some (Literals.value? t) := by
  have cut (inside : t.kind ≠ .eof) :
      ∃ c y, t.text.toList = c :: y ∧ Lexer.tokenLength c y = .ok (t.kind, y.length) := by
    obtain ⟨r, cut⟩ := Lexer.exists_cut lexed mem inside
    obtain ⟨c, y, text, taken⟩ := cut.alone.taken
    exact ⟨c, y, text, by rwa [List.append_nil] at taken⟩
  have number (kind : t.kind = .long ∨ t.kind = .float) :
    trim? 0 1 t.text.toList = some t.text.toList.dropLast := by
    obtain ⟨c, y, text, taken⟩ := cut (by rcases kind with kind | kind <;> simp [kind])
    rw [text]
    exact trim?_dropLast (List.cons_ne_nil c y) (plain_of_tokenLength taken kind)
  unfold value? Literals.value?
  cases kind : t.kind with
  | int =>
    simp only [integer?_eq]
    rfl
  | long =>
    simp only [number (.inl kind), integer?_eq]
    rfl
  | float =>
    simp only [number (.inr kind)]
    rfl
  | char =>
    obtain ⟨body, text⟩ : ∃ body, t.text.toList = ['\''] ++ (body ++ ['\'']) := by
      obtain ⟨c, y, text, taken⟩ := cut (by simp [kind])
      rw [kind] at taken
      obtain ⟨rfl, closes⟩ := quoted_of_tokenLength taken
      obtain ⟨body, rfl, -⟩ := Lexer.exists_quoted closes
      exact ⟨body, text⟩
    have inside : inner 1 (['\''] ++ body ++ ['\'']) = body := inner_append rfl rfl body
    have sliced : trim? 1 1 t.text.toList = some body := text ▸ trim?_append
    rw [List.append_assoc, ← text] at inside
    simp only [sliced, inside]
    rfl
  | string =>
    obtain ⟨r, whole⟩ := Lexer.exists_cut lexed mem (by simp [kind])
    obtain ⟨body, holds⟩ := whole.exists_body kind
    obtain ⟨lead, body, text⟩ | ⟨lead, body, text⟩ := quotes_of_body holds
    · have inside := textBlockBody_quoted body
      have sliced : trim? 3 3 t.text.toList = some body := text ▸ trim?_append
      rw [List.append_assoc, ← text] at inside
      simp only [lead, sliced, inside]
      rfl
    · have inside : inner 1 (['"'] ++ body ++ ['"']) = body := inner_append rfl rfl body
      have sliced : trim? 1 1 t.text.toList = some body := text ▸ trim?_append
      rw [List.append_assoc, ← text] at inside
      simp only [lead, sliced, inside]
      rfl
  | identifier | double | punct | eof => rfl

end Indexed

end Retouch.Literals
