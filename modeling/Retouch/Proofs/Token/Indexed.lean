import Retouch.Proofs.Text.Slices
import Retouch.Proofs.Token.Cutting
import Retouch.Text.Alphanumeric
import Retouch.Token.Literal

/-!
# Cutting a source by places

The lexer once more, as a loop over the bytes of the source that keeps a place. It takes a byte at a
place and slices between two places, and it gives nothing if one of them does not exist or if a
round does not get on. Words are made of letters and digits here, those above ASCII included.

So `tokensAt_zero` says that no index and no slice of this loop fails, whatever the source is, and
that it gives the tokens or the error of `tokenize`. A place can be reached in the middle of a
character, behind a backslash; no byte in there is taken for a quote.
-/

namespace Retouch.Lexer

namespace Indexed

open Text

/-- The bytes in front of the first occurrence of a mark. -/
def find? (mark : List Char) : List Char → Option Nat
  | [] => none
  | c :: cs => if mark.isPrefixOf (c :: cs) then some 0 else (find? mark cs).map (· + c.utf8Size)

/-- The place behind the blanks and comments. -/
def skipTrivia (source : String) (pos : Nat) : Option (Except SyntaxError Nat) :=
  if pos < (bytes source).length then do
    let b ← (bytes source)[pos]?
    if isTriviaBlank b then skipTrivia source (pos + 1)
    else if b == '/' && (bytes source)[pos + 1]?.any (· == '/') then
      let rest ← slice? source.toList pos (bytes source).length
      let stop := ((find? ['\n'] rest).map (pos + ·)).getD (bytes source).length
      if pos < stop then skipTrivia source stop else none
    else if b == '/' && (bytes source)[pos + 1]?.any (· == '*') then
      let rest ← slice? source.toList (pos + 2) (bytes source).length
      match find? ['*', '/'] rest with
      | some n => skipTrivia source (pos + 2 + n + 2)
      | none => return .error ⟨pos, .unterminatedComment⟩
    else return .ok pos
  else return .ok pos
termination_by (bytes source).length - pos

/-- The place behind the bytes that a test lets through. -/
def skipWhile (source : String) (p : Char → Bool) (pos : Nat) : Option Nat :=
  if pos < (bytes source).length then do
    let b ← (bytes source)[pos]?
    if p b then skipWhile source p (pos + 1) else return pos
  else return pos
termination_by (bytes source).length - pos

/-- A letter or digit of any script, an underscore or a dollar sign. -/
def isWordChar (c : Char) : Bool := isAlphanumeric c || c == '_' || c == '$'

def wordEnd (source : String) (start : Nat) : Option Nat := do
  let rest ← slice? source.toList start (bytes source).length
  return start + byteSize (rest.takeWhile isWordChar)

/-- The kind that the byte behind the digits gives to a number, and the place behind it. -/
def suffixEnd (source : String) (floating : Bool) (pos : Nat) : TokenKind × Nat :=
  if (bytes source)[pos]?.any (fun b => b == 'l' || b == 'L') then (.long, pos + 1)
  else if (bytes source)[pos]?.any (fun b => b == 'f' || b == 'F') then (.float, pos + 1)
  else if (bytes source)[pos]?.any (fun b => b == 'd' || b == 'D') then (.double, pos + 1)
  else (if floating then .double else .int, pos)

def isDecimal (b : Char) : Bool := b.isDigit || b == '_'

/-- A point in front of a letter other than an exponent or a suffix is a selection. -/
def fractionEnd (source : String) (pos : Nat) : Option Nat :=
  let selects := (bytes source)[pos + 1]?.any fun b => b.isAlpha && !"eEdDfF".toList.contains b
  if (bytes source)[pos]?.any (· == '.') &&
    !selects then skipWhile source isDecimal (pos + 1) else some pos

def exponentEnd (source : String) (pos : Nat) : Option Nat :=
  if (bytes source)[pos]?.any fun b => b == 'e' || b == 'E' then
    if (bytes source)[pos + 1]?.any fun b => b == '+' ||
      b == '-' then skipWhile source Char.isDigit (pos + 2)
    else skipWhile source Char.isDigit (pos + 1)
  else some pos

def numberEnd (source : String) (start : Nat) : Option (TokenKind × Nat) := do
  let first ← (bytes source)[start]?
  if first == '0' && (bytes source)[start + 1]?.any ("xXbB".toList.contains ·) then
    let pos ← skipWhile source (fun b => isHexDigit b || b == '_') (start + 2)
    return suffixEnd source false pos
  else
    let whole ← skipWhile source isDecimal start
    let fraction ← fractionEnd source whole
    let exponent ← exponentEnd source fraction
    return suffixEnd source (whole < exponent) exponent

/-- The place behind the closing quote, if there is one. A backslash passes two bytes. -/
def quotedEnd (source : String) (quote : Char) (pos : Nat) : Option (Option Nat) :=
  if pos < (bytes source).length then do
    let b ← (bytes source)[pos]?
    if b == '\\' then quotedEnd source quote (pos + 2)
    else if b == '\n' then return none
    else if b == quote then return some (pos + 1)
    else quotedEnd source quote (pos + 1)
  else return none
termination_by (bytes source).length - pos

def stringEnd (source : String) (start : Nat) : Option (Except Fault (TokenKind × Nat)) := do
  let rest ← slice? source.toList start (bytes source).length
  if ['"', '"', '"'].isPrefixOf rest then
    let inside ← slice? source.toList (start + 3) (bytes source).length
    match find? ['"', '"', '"'] inside with
    | some n => return .ok (.string, start + 3 + n + 3)
    | none => return .error .unterminatedTextBlock
  else
    match ← quotedEnd source '"' (start + 1) with
    | some stop => return .ok (.string, stop)
    | none => return .error .unterminatedLiteral

/-- The kind of the token that begins at a place, and the place behind it. -/
def tokenEnd (source : String) (start : Nat) : Option (Except Fault (TokenKind × Nat)) := do
  let b ← (bytes source)[start]?
  if isWordStart b then
    return .ok (.identifier, ← wordEnd source start)
  else if b.isDigit || (b == '.' && (bytes source)[start + 1]?.any Char.isDigit) then
    return .ok (← numberEnd source start)
  else if b == '"' then
    stringEnd source start
  else if b == '\'' then
    match ← quotedEnd source '\'' (start + 1) with
    | some stop => return .ok (.char, stop)
    | none => return .error .unterminatedLiteral
  else
    let rest ← slice? source.toList start (bytes source).length
    match punctuation.find? fun mark => mark.toList.isPrefixOf rest with
    | some mark => return .ok (.punct, start + mark.utf8ByteSize)
    | none => return .error (.unexpectedCharacter (rest.head?.getD '?'))

/-- The tokens from a place on. -/
def tokensAt (source : String) (pos : Nat) : Option (Except SyntaxError (List Token)) := do
  match ← skipTrivia source pos with
  | .error e => return .error e
  | .ok start =>
    let leading ← slice? source.toList pos start
    if start < (bytes source).length then
      match ← tokenEnd source start with
      | .error fault => return .error ⟨start, fault⟩
      | .ok (kind, stop) =>
        let text ← slice? source.toList start stop
        match ← (if (bytes source).length - stop < (bytes source).length - pos then tokensAt source
          stop else none) with
        | .error e => return .error e
        | .ok tokens =>
          return .ok (⟨kind, String.ofList text, ⟨String.ofList leading⟩, start⟩ :: tokens)
    else return .ok [Token.atEnd ⟨String.ofList leading⟩ start]
termination_by (bytes source).length - pos

open Text

variable {source : String} {pos : Nat} {cs : List Char}

/-! ## Blanks and comments -/

theorem find?_feed (cs : List Char) :
    (find? ['\n'] cs).getD (byteSize cs) = byteSize (cs.take (lineLength cs)) := by
  induction cs with
  | nil => rfl
  | cons c cs ih =>
    unfold find? lineLength
    by_cases feed : c = '\n'
    · subst feed
      simp [byteSize]
    · have other : ¬['\n'].isPrefixOf (c :: cs) = true := fun held =>
        feed (List.cons_prefix_cons.1 (List.isPrefixOf_iff_prefix.1 held)).1.symm
      rw [if_neg other, List.takeWhile_cons_of_pos (by simpa using feed), List.length_cons,
        List.take_succ_cons, byteSize, byteSize, ← lineLength, ← ih]
      cases find? ['\n'] cs with
      | none => rfl
      | some n => exact Nat.add_comm ..

/-- A search for a mark, whose outcome counts the characters up to and with the mark. -/
theorem find?_of_length {mark : List Char} {length? : List Char → Option Nat}
    (none : length? [] = none)
    (here : ∀ rest, length? (mark ++ rest) = some mark.length)
    (there : ∀ c cs, ¬mark <+: c :: cs → length? (c :: cs) = (length? cs).map (· + 1))
      (cs : List Char) :
    (find? mark cs).map (· + byteSize mark) = (length? cs).map fun n => byteSize (cs.take n) := by
  induction cs with
  | nil => rw [none]; rfl
  | cons c cs ih =>
    unfold find?
    by_cases front : mark <+: c :: cs
    · obtain ⟨rest, whole⟩ := front
      rw [if_pos (List.isPrefixOf_iff_prefix.2 ⟨rest, whole⟩), ← whole, here]
      simp
    · rw [if_neg (fun held => front (List.isPrefixOf_iff_prefix.1 held)), there c cs front]
      have count : ∀ n, byteSize ((c :: cs).take (n + 1)) = byteSize (cs.take n) + c.utf8Size :=
        fun n => by rw [List.take_succ_cons, byteSize, Nat.add_comm]
      have found := congrArg (Option.map (· + c.utf8Size)) ih
      simp only [Option.map_map, Function.comp_def, count] at found ⊢
      rw [← found]
      congr 1
      funext n
      omega

theorem find?_end (cs : List Char) : (find? ['*', '/'] cs).map (· + 2) =
    (blockCommentLength? cs).map fun n => byteSize (cs.take n) :=
  find?_of_length rfl (fun _ => rfl) (fun c cs other =>
    blockCommentLength?.eq_3 c cs fun rest first second =>
      other ⟨rest, by rw [first, second]; rfl⟩) cs

theorem find?_quotes (cs : List Char) : (find? ['"', '"', '"'] cs).map (· + 3) =
    (textBlockLength? cs).map fun n => byteSize (cs.take n) :=
  find?_of_length rfl (fun _ => rfl) (fun c cs other =>
    textBlockLength?.eq_3 c cs fun rest first second => other ⟨rest, by rw [first, second]; rfl⟩) cs

theorem onlyAscii_blank : OnlyAscii isTriviaBlank :=
  ((((OnlyAscii.beq (by
    decide)).or (.beq (by decide))).or (.beq (by decide))).or (.beq (by decide))).or
    (.beq (by decide))

theorem isAsciiTest_slash : IsAsciiTest (· == '/') := (OnlyAscii.beq (by decide)).isAsciiTest

/-- What is skipped from a place on. -/
def skipped (pos : Nat) (cs : List Char) : Except SyntaxError Nat :=
  match triviaLength cs with
  | .ok n => .ok (pos + byteSize (cs.take n))
  | .error n => .error ⟨pos + byteSize (cs.take n), .unterminatedComment⟩

/-- What is skipped behind a beginning that is skipped. -/
theorem skipped_drop {k : Nat} (h : triviaLength cs = match triviaLength (cs.drop k) with
      | .ok m => .ok (k + m)
      | .error m => .error (k + m)) :
    skipped pos cs = skipped (pos + byteSize (cs.take k)) (cs.drop k) := by
  have place (m : Nat) : byteSize (cs.take (k + m)) = byteSize (cs.take k) + byteSize
    ((cs.drop k).take m) := by
    rw [List.take_add, byteSize_append]
  unfold skipped
  rw [h]
  cases triviaLength (cs.drop k) <;> simp only [place, Nat.add_assoc]

theorem skipTrivia_eq (h : Stands source pos cs) :
    skipTrivia source pos = some (skipped pos cs) := by
  induction length : cs.length using Nat.strong_induction_on generalizing pos cs with
  | _ k ih
  subst length
  obtain _ | ⟨c, rest⟩ := cs
  · have size := h.size
    rw [byteSize, Nat.add_zero] at size
    rw [skipTrivia, if_neg (by omega), skipped, triviaLength.eq_1]
    rfl
  · have size := h.size
    have positive := c.utf8Size_pos
    rw [byteSize] at size
    rw [skipTrivia, if_pos (by omega), h.byte_cons]
    simp only [Option.bind_eq_bind, Option.bind_some]
    rw [onlyAscii_blank.isAsciiTest.lead c, isAsciiTest_slash.lead c]
    have second (mark : Char) (ascii : mark.toNat < 128) (front : c = '/') :
        (bytes source)[pos + 1]?.any (· == mark) = rest.head?.any (· == mark) := by
      subst front
      exact h.next.any (OnlyAscii.beq ascii).isAsciiTest
    split_ifs with blank line block
    · have one := utf8Size_of_ascii (onlyAscii_blank c blank)
      have place : pos + byteSize ((c :: rest).take 1) = pos + 1 :=
        by rw [List.take_succ_cons, byteSize, one]; rfl
      have notSlash : c ≠ '/' := by rintro rfl; cases blank
      have skips := triviaLength.eq_4 c rest (fun _ front => absurd front notSlash) fun _ front =>
        absurd front notSlash
      rw [if_pos blank] at skips
      rw [skipped_drop (k := 1) skips, place, List.drop_succ_cons, List.drop_zero]
      exact ih _ (by simp) (one ▸ h.next) rfl
    · obtain ⟨front, follows⟩ := Bool.and_eq_true_iff.1 line
      rw [second '/' (by decide) (eq_of_beq front)] at follows
      obtain rfl := eq_of_beq front
      obtain _ | ⟨d, rest⟩ := rest
      · cases follows
      obtain rfl : d = '/' := eq_of_beq follows
      have count : lineLength ('/' :: '/' :: rest) = 2 + lineLength rest := by
        rw [Nat.add_comm]
        rfl
      have skips := triviaLength.eq_2 rest
      have place := find?_feed ('/' :: '/' :: rest)
      rw [count] at place
      have onward : 0 < byteSize (('/' :: '/' :: rest).take (2 + lineLength rest)) := by
        rw [Nat.add_comm, List.take_succ_cons, byteSize]
        exact Nat.add_pos_left (Char.utf8Size_pos _) _
      rw [h.slice_rest, Option.bind_some, h.size, Option.getD_map, place, if_pos (by omega)]
      rw [skipped_drop (k := 2 + lineLength rest) (by rw [skips, Nat.add_comm 2]; rfl)]
      exact ih _ (by simp; omega) (h.drop _) rfl
    · obtain ⟨front, follows⟩ := Bool.and_eq_true_iff.1 block
      rw [second '*' (by decide) (eq_of_beq front)] at follows
      obtain rfl := eq_of_beq front
      obtain _ | ⟨d, rest⟩ := rest
      · cases follows
      obtain rfl : d = '*' := eq_of_beq follows
      have inside : Stands source (pos + 2) rest := h.next.next
      have found := find?_end rest
      rw [inside.slice_rest, Option.bind_some]
      cases ends : blockCommentLength? rest with
      | none =>
        rw [ends, Option.map_none, Option.map_eq_none_iff] at found
        rw [found, skipped, triviaLength.eq_3, ends]
        rfl
      | some n =>
        rw [ends, Option.map_some] at found
        obtain ⟨k, hit, count⟩ := Option.map_eq_some_iff.1 found
        have place : pos + byteSize (('/' :: '*' :: rest).take (2 + n)) = pos + 2 + k + 2 := by
          rw [Nat.add_comm 2, List.take_succ_cons, List.take_succ_cons, byteSize, byteSize, ← count]
          change pos + (1 + (1 + _)) = _
          omega
        have skips := triviaLength.eq_3 rest
        rw [ends] at skips
        dsimp only at skips
        rw [hit, skipped_drop (k := 2 + n) (by rw [skips, Nat.add_comm 2]; rfl), place]
        exact ih _ (by simp; omega) (place ▸ h.drop (2 + n)) rfl
    · have skips := triviaLength.eq_4 c rest (fun more front back => line ?_)
        (fun more front back => block ?_)
      · rw [if_neg blank] at skips
        rw [skipped, skips]
        rfl
      · subst front back
        rw [second '/' (by decide) rfl]
        rfl
      · subst front back
        rw [second '*' (by decide) rfl]
        rfl

/-! ## Numbers -/

theorem onlyAscii_decimal : OnlyAscii isDecimal := onlyAscii_isDigit.or (.beq (by decide))

theorem onlyAscii_hex : OnlyAscii fun b => isHexDigit b || b == '_' :=
  .or (.or (.or onlyAscii_isDigit
    (onlyAscii_of_le (d := 'f')
      (by decide) fun _ letter => of_decide_eq_true (Bool.and_eq_true_iff.1 letter).2))
    (onlyAscii_of_le (d := 'F')
      (by decide) fun _ letter => of_decide_eq_true (Bool.and_eq_true_iff.1 letter).2))
    (.beq (by decide))

theorem skipWhile_eq {p : Char → Bool} (ascii : OnlyAscii p) (h : Stands source pos cs) :
    skipWhile source p pos = some (pos + (cs.takeWhile p).length) := by
  induction cs generalizing pos with
  | nil =>
    have size := h.size
    rw [byteSize, Nat.add_zero] at size
    rw [skipWhile, if_neg (by omega)]
    rfl
  | cons c cs ih =>
    have size := h.size
    have positive := c.utf8Size_pos
    rw [byteSize] at size
    rw [skipWhile, if_pos (by omega), h.byte_cons, Option.bind_eq_bind, Option.bind_some,
      ascii.isAsciiTest.lead c]
    split_ifs with held
    · have one := utf8Size_of_ascii (ascii c held)
      rw [ih (one ▸ h.next), List.takeWhile_cons_of_pos held, List.length_cons, Nat.add_right_comm,
        Nat.add_assoc]
    · rw [List.takeWhile_cons_of_neg held]
      rfl

theorem plain_digitsLength : Plain cs (digitsLength cs) := .takeWhile onlyAscii_decimal

theorem plain_fractionLength : Plain cs (fractionLength cs) := by
  obtain _ | ⟨c, cs⟩ := cs
  · exact .zero
  · by_cases point : c = '.'
    · subst point
      obtain _ | ⟨d, cs⟩ := cs
      · exact Plain.zero.succ (by decide)
      · rw [fractionLength_point]
        split_ifs
        · exact .zero
        · rw [Nat.add_comm]
          exact plain_digitsLength.succ (by decide)
    · rw [fractionLength_other point]
      exact .zero

theorem fractionEnd_eq (h : Stands source pos cs) :
    fractionEnd source pos = some (pos + fractionLength cs) := by
  have letter : OnlyAscii fun b => b.isAlpha && !"eEdDfF".toList.contains b := onlyAscii_isAlpha.and
  unfold fractionEnd
  rw [h.any (OnlyAscii.beq (by decide)).isAsciiTest]
  obtain _ | ⟨c, cs⟩ := cs
  · rfl
  · by_cases point : c = '.'
    · subst point
      have next : Stands source (pos + 1) cs := h.next
      rw [next.any letter.isAsciiTest]
      obtain _ | ⟨d, cs⟩ := cs
      · exact (skipWhile_eq onlyAscii_decimal next).trans rfl
      · rw [fractionLength_point]
        by_cases selects : (d.isAlpha && !"eEdDfF".toList.contains d) = true
        · rw [if_pos selects]
          simp only [List.head?_cons, Option.any_some, selects]
          rfl
        · rw [if_neg selects]
          simp only [List.head?_cons, Option.any_some, selects]
          rw [if_pos (by rfl), skipWhile_eq onlyAscii_decimal next, Nat.add_assoc]
          rfl
    · rw [fractionLength_other point]
      simp [point]

theorem onlyAscii_exponent : OnlyAscii fun b => b == 'e' || b == 'E' :=
    .or (.beq (by decide)) (.beq (by decide))

theorem onlyAscii_sign : OnlyAscii fun b => b == '+' || b == '-' :=
    .or (.beq (by decide)) (.beq (by decide))

theorem plain_exponentLength : Plain cs (exponentLength cs) := by
  obtain _ | ⟨c, cs⟩ := cs
  · exact .zero
  · cases mark : c == 'e' || c == 'E' with
    | false =>
      rw [exponentLength_other mark]
      exact .zero
    | true =>
      obtain _ | ⟨d, cs⟩ := cs
      · rw [exponentLength, if_pos mark]
        exact Plain.zero.succ (onlyAscii_exponent c mark)
      · rw [exponentLength_mark mark]
        split_ifs with sign
        · rw [Nat.add_comm]
          exact ((Plain.takeWhile onlyAscii_isDigit).succ (onlyAscii_sign d sign)).succ
            (onlyAscii_exponent c mark)
        · rw [Nat.add_comm]
          exact (Plain.takeWhile onlyAscii_isDigit).succ (onlyAscii_exponent c mark)

theorem exponentEnd_eq (h : Stands source pos cs) :
    exponentEnd source pos = some (pos + exponentLength cs) := by
  unfold exponentEnd
  rw [h.any onlyAscii_exponent.isAsciiTest]
  obtain _ | ⟨c, cs⟩ := cs
  · rfl
  · rw [List.head?_cons, Option.any_some]
    cases mark : c == 'e' || c == 'E' with
    | false => rw [exponentLength_other mark]; rfl
    | true =>
      have next := h.succ (onlyAscii_exponent c mark)
      rw [if_pos rfl, next.any onlyAscii_sign.isAsciiTest]
      obtain _ | ⟨d, cs⟩ := cs
      · rw [exponentLength, if_pos mark]
        exact skipWhile_eq onlyAscii_isDigit next
      · rw [exponentLength_mark mark, List.head?_cons, Option.any_some]
        split_ifs with sign
        · have digits : Stands source (pos + 2) cs := next.succ (onlyAscii_sign d sign)
          rw [skipWhile_eq onlyAscii_isDigit digits, Nat.add_assoc]
        · rw [skipWhile_eq onlyAscii_isDigit next, Nat.add_assoc]

theorem onlyAscii_suffix (c d : Char) (small : c.toNat < 128) (small' : d.toNat < 128) :
    OnlyAscii fun b => b == c || b == d :=
  .or (.beq small) (.beq small')

theorem suffixEnd_eq (floating : Bool) (h : Stands source pos cs) : suffixEnd source floating pos =
    ((numberSuffix floating cs).1, pos + (numberSuffix floating cs).2) ∧
      Plain cs (numberSuffix floating cs).2 := by
  have long := onlyAscii_suffix 'l' 'L' (by decide) (by decide)
  have float := onlyAscii_suffix 'f' 'F' (by decide) (by decide)
  have double := onlyAscii_suffix 'd' 'D' (by decide) (by decide)
  unfold suffixEnd
  obtain _ | ⟨c, cs⟩ := cs
  · rw [h.byte_nil]
    exact ⟨rfl, .zero⟩
  · rw [h.any_cons long.isAsciiTest, h.any_cons float.isAsciiTest, h.any_cons double.isAsciiTest,
      numberSuffix]
    by_cases isLong : (c == 'l' || c == 'L') = true
    · rw [if_pos isLong, if_pos isLong]
      exact ⟨rfl, Plain.zero.succ (long c isLong)⟩
    rw [if_neg isLong, if_neg isLong]
    by_cases isFloat : (c == 'f' || c == 'F') = true
    · rw [if_pos isFloat, if_pos isFloat]
      exact ⟨rfl, Plain.zero.succ (float c isFloat)⟩
    rw [if_neg isFloat, if_neg isFloat]
    by_cases isDouble : (c == 'd' || c == 'D') = true
    · rw [if_pos isDouble, if_pos isDouble]
      exact ⟨rfl, Plain.zero.succ (double c isDouble)⟩
    · rw [if_neg isDouble, if_neg isDouble]
      exact ⟨rfl, .zero⟩

/-- What a number without a base mark takes. -/
theorem decimal_eq (h : Stands source pos cs) :
    (do
      let whole ← skipWhile source isDecimal pos
      let fraction ← fractionEnd source whole
      let exponent ← exponentEnd source fraction
      return suffixEnd source (whole < exponent) exponent) =
      some ((numberLength.decimalLength cs).1, pos + (numberLength.decimalLength cs).2) ∧
    Plain cs (numberLength.decimalLength cs).2 := by
  unfold numberLength.decimalLength
  extract_lets whole fraction exponent n
  have plainFraction : Plain cs (whole + fraction) := plain_digitsLength.add plain_fractionLength
  have plainAll : Plain cs n := plainFraction.add plain_exponentLength
  have floating : decide (pos + whole < pos + (whole + fraction) + exponent) = decide
    (0 < fraction + exponent) :=
    decide_eq_decide.2 (by omega)
  obtain ⟨last, plainSuffix⟩ := suffixEnd_eq (decide (0 < fraction + exponent)) (h.plain plainAll)
  have first : skipWhile source isDecimal pos = some (pos + whole) :=
    skipWhile_eq onlyAscii_decimal h
  have second : fractionEnd source (pos + whole) = some (pos + (whole + fraction)) := by
    rw [fractionEnd_eq (h.plain plain_digitsLength), Nat.add_assoc]
  have third : exponentEnd source (pos + (whole + fraction)) = some
    (pos + (whole + fraction) + exponent) :=
    exponentEnd_eq (h.plain plainFraction)
  refine ⟨?_, plainAll.add plainSuffix⟩
  simp only [first, second, third, floating, Option.bind_eq_bind, Option.bind_some, Option.pure_def]
  rw [Nat.add_assoc, last, Nat.add_assoc]

theorem numberEnd_eq {c : Char} (h : Stands source pos (c :: cs)) :
    numberEnd source pos = some ((numberLength (c :: cs)).1, pos + (numberLength (c :: cs)).2) ∧
      Plain (c :: cs) (numberLength (c :: cs)).2 := by
  have mark : OnlyAscii ("xXbB".toList.contains ·) := .contains (by simp)
  have second : (c == '0' && (bytes source)[pos + 1]?.any ("xXbB".toList.contains ·)) =
      (c == '0' && cs.head?.any ("xXbB".toList.contains ·)) := by
    by_cases zero : c = '0'
    · rw [(h.succ (by rw [zero]; decide)).any mark.isAsciiTest]
    · rw [beq_eq_false_iff_ne.2 zero, Bool.false_and, Bool.false_and]
  unfold numberEnd
  rw [h.byte_cons, Option.bind_eq_bind, Option.bind_some,
    (OnlyAscii.beq (by decide)).isAsciiTest.lead c, second]
  obtain _ | ⟨x, cs⟩ := cs
  · rw [List.head?_nil, Option.any_none, Bool.and_false, numberLength.eq_2 _ (by simp)]
    exact decimal_eq h
  rw [List.head?_cons, Option.any_some]
  by_cases based : c = '0' ∧ "xXbB".toList.contains x = true
  · obtain ⟨rfl, base⟩ := based
    have next : Stands source (pos + 1) (x :: cs) := h.succ (by decide)
    have digits : Stands source (pos + 2) cs := next.succ (mark x base)
    have taken : Plain cs (cs.takeWhile fun c => isHexDigit c || c == '_').length :=
      .takeWhile onlyAscii_hex
    obtain ⟨last, suffix⟩ := suffixEnd_eq false (digits.plain taken)
    rw [base, if_pos (by rfl), skipWhile_eq onlyAscii_hex digits, numberLength_based base]
    refine ⟨?_, ?_⟩
    · simp only [Option.bind_eq_bind, Option.bind_some, Option.pure_def, last]
      rw [Nat.add_assoc, Nat.add_assoc, Nat.add_assoc]
    · dsimp only
      rw [Nat.add_assoc, Nat.add_comm]
      exact ((taken.add suffix).succ (mark x base)).succ (show ('0' : Char).toNat < 128 by decide)
  · have plain : ¬(c == '0' && "xXbB".toList.contains x) = true := fun held =>
      based ⟨eq_of_beq (Bool.and_eq_true_iff.1 held).1, (Bool.and_eq_true_iff.1 held).2⟩
    rw [if_neg plain, numberLength_decimal fun zero => Bool.eq_false_iff.2 fun base =>
      based ⟨zero, base⟩]
    exact decimal_eq h

/-! ## Quotes -/

/-- Within a character above ASCII no byte is taken for a mark. -/
theorem quotedEnd_inside {quote : Char} (ascii : quote.toNat < 128) {k : Nat}
    (h : ∀ i < k, ∃ b : Char, (bytes source)[pos + i]? = some b ∧ 128 ≤ b.toNat) :
    quotedEnd source quote pos = quotedEnd source quote (pos + k) := by
  induction k generalizing pos with
  | zero => rfl
  | succ k ih =>
    obtain ⟨b, found, above⟩ := h 0 (by omega)
    have other (d : Char) (small : d.toNat < 128) : ¬(b == d) = true := fun same => by
      rw [eq_of_beq same] at above
      omega
    rw [Nat.add_zero] at found
    obtain ⟨inside, -⟩ := List.getElem?_eq_some_iff.1 found
    rw [quotedEnd, if_pos inside, found, Option.bind_eq_bind, Option.bind_some,
      if_neg (other _ (by decide)),
      if_neg (other _ (by decide)), if_neg (other _ ascii)]
    rw [ih fun i small => ?_, Nat.add_right_comm, Nat.add_assoc]
    rw [Nat.add_right_comm, Nat.add_assoc]
    exact h (i + 1) (by omega)

theorem quotedEnd_char {quote c : Char} (ascii : quote.toNat < 128)
    (h : Stands source pos (c :: cs)) :
    quotedEnd source quote (pos + 1) = quotedEnd source quote (pos + c.utf8Size) := by
  obtain ⟨k, size⟩ := Nat.exists_eq_succ_of_ne_zero (Nat.pos_iff_ne_zero.1 c.utf8Size_pos)
  rw [size, Nat.succ_eq_add_one, Nat.add_comm k, ← Nat.add_assoc]
  refine quotedEnd_inside ascii fun i small => ?_
  have inside : i + 1 < (codes c).length := by rw [length_codes, size]; omega
  refine ⟨(codes c)[i + 1], ?_, ?_⟩
  · rw [Nat.add_assoc, Nat.add_comm 1, h.byte, List.flatMap_cons, List.getElem?_append_left inside,
      List.getElem?_eq_getElem inside]
  · obtain ⟨-, one⟩ | ⟨-, above⟩ := codes_cases c
    · rw [one, List.length_singleton] at inside
      omega
    · exact above _ (List.getElem_mem inside)

/-- The place behind the quoted text at the front. -/
def quoted (quote : Char) (pos : Nat) (cs : List Char) : Option Nat :=
  (quotedLength? quote cs).map fun n => pos + byteSize (cs.take n)

theorem quoted_drop {quote : Char} {k : Nat}
    (h : quotedLength? quote cs = (quotedLength? quote (cs.drop k)).map (· + k)) :
    quoted quote pos cs = quoted quote (pos + byteSize (cs.take k)) (cs.drop k) := by
  unfold quoted
  rw [h, Option.map_map]
  congr 1
  funext n
  rw [Function.comp_apply, Nat.add_comm n, List.take_add, byteSize_append, Nat.add_assoc]

theorem quotedEnd_eq {quote : Char} (ascii : quote.toNat < 128) (h : Stands source pos cs) :
    quotedEnd source quote pos = some (quoted quote pos cs) := by
  have stop (p : Nat) (behind : (bytes source).length ≤ p) :
    quotedEnd source quote p = some none := by
    rw [quotedEnd, if_neg (Nat.not_lt.2 behind)]
    rfl
  have first {c : Char} {cs : List Char} {p : Nat} (h : Stands source p (c :: cs)) :
    quotedEnd source quote p =
      if c == '\\' then quotedEnd source quote (p + 2)
      else if c == '\n' then some none
      else if c == quote then some (some (p + 1))
      else quotedEnd source quote (p + c.utf8Size) := by
    have size := h.size
    have positive := c.utf8Size_pos
    rw [byteSize] at size
    rw [quotedEnd, if_pos (by omega), h.byte_cons, Option.bind_eq_bind, Option.bind_some,
      quotedEnd_char ascii h, (OnlyAscii.beq (by decide)).isAsciiTest.lead c,
      (OnlyAscii.beq (by decide)).isAsciiTest.lead c, (OnlyAscii.beq ascii).isAsciiTest.lead c]
    rfl
  induction cs using quotedLength?.induct quote generalizing pos with
  | case1 => exact stop pos (by rw [h.size]; exact Nat.le_refl _)
  | case2 =>
    rw [first h, if_pos (by
      rfl), stop (pos + 2) (by rw [h.size]; exact Nat.add_le_add_left (by decide) pos)]
    rfl
  | case3 c cs ih =>
    have next : Stands source (pos + 1) (c :: cs) := h.succ (by decide)
    rw [first h, if_pos (by rfl), quotedEnd_char ascii next, ih next.next,
      quoted_drop (k := 2) (quotedLength?.eq_3 quote c cs), Nat.add_assoc]
    rfl
  | case4 c cs last escape feed =>
    have solid := solid_of_cases last escape
    rw [first h, if_neg (by
      simpa using solid), if_pos feed, quoted, quotedLength?_solid solid, if_pos feed]
    rfl
  | case5 c cs last escape feed closes =>
    have solid := solid_of_cases last escape
    rw [first h, if_neg (by
      simpa using solid), if_neg feed, if_pos closes, quoted, quotedLength?_solid solid,
      if_neg feed, if_pos closes]
    obtain rfl := eq_of_beq closes
    rw [Option.map_some, List.take_succ_cons, List.take_zero, byteSize, utf8Size_of_ascii ascii]
    rfl
  | case6 c cs last escape feed inside ih =>
    have solid := solid_of_cases last escape
    have longer : quotedLength? quote (c :: cs) = (quotedLength? quote ((c :: cs).drop 1)).map
      (· + 1) := by
      rw [quotedLength?_solid solid, if_neg feed, if_neg inside]
      rfl
    rw [first h, if_neg (by
      simpa using solid), if_neg feed, if_neg inside, ih h.next, quoted_drop longer]
    rfl

/-! ## Tokens -/

/-- What is cut off at a place, where the token takes so many characters behind its first one. -/
def placed (pos : Nat) (c : Char) (cs : List Char) (length : Except Fault (TokenKind × Nat)) :
    Except Fault (TokenKind × Nat) :=
  length.map fun (kind, n) => (kind, pos + byteSize (c :: cs.take n))

theorem stringEnd_eq (h : Stands source pos ('"' :: cs)) :
    stringEnd source pos = some (placed pos '"' cs (stringLength cs)) := by
  have next : Stands source (pos + 1) cs := h.next
  unfold stringEnd
  rw [h.slice_rest, Option.bind_eq_bind, Option.bind_some]
  by_cases block : ∃ rest, cs = '"' :: '"' :: rest
  · obtain ⟨rest, rfl⟩ := block
    have inside : Stands source (pos + 3) rest := next.next.next
    have found := find?_quotes rest
    rw [if_pos (by rfl), inside.slice_rest, Option.bind_some, stringLength_block]
    cases ends : textBlockLength? rest with
    | none =>
      rw [ends, Option.map_none, Option.map_eq_none_iff] at found
      rw [found]
      rfl
    | some n =>
      rw [ends, Option.map_some] at found
      obtain ⟨k, hit, count⟩ := Option.map_eq_some_iff.1 found
      have size : byteSize ('"' :: ('"' :: '"' :: rest).take (2 + n)) = 3 + (k + 3) := by
        rw [count, Nat.add_comm 2]
        change 1 + (1 + (1 + byteSize (rest.take n))) = 3 + byteSize (rest.take n)
        omega
      rw [hit]
      simp only [placed, Except.map, size, Option.pure_def, Nat.add_assoc]
  · have plain : ¬['"', '"', '"'].isPrefixOf ('"' :: cs) = true := by
      intro front
      obtain ⟨rest, whole⟩ := List.isPrefixOf_iff_prefix.1 front
      exact block ⟨rest, (List.cons.inj whole).2.symm⟩
    rw [if_neg plain, quotedEnd_eq (by decide) next, Option.bind_eq_bind, Option.bind_some, quoted,
      stringLength_plain fun rest front => block ⟨rest, front⟩]
    cases quotedLength? '"' cs with
    | none => rfl
    | some n =>
      have size : byteSize ('"' :: cs.take n) = 1 + byteSize (cs.take n) := rfl
      simp only [placed, Except.map, size, Option.map_some, Option.pure_def, Nat.add_assoc]

theorem ascii_punctuation : ∀ mark ∈ punctuation, mark.utf8ByteSize = mark.toList.length ∧
    mark.toList ≠ [] := by
  decide

/-- The words of a source in front of its end or of its first fault. -/
def words (cs : List Char) : List (List Char) :=
  match triviaLength cs with
  | .error _ => []
  | .ok n =>
    match _h : cs.drop n with
    | [] => []
    | c :: rest =>
      match tokenLength c rest with
      | .error _ => []
      | .ok (kind, m) => (if kind = .identifier then [c :: rest.take m] else []) ++
        words (rest.drop m)
termination_by cs.length
decreasing_by
  have := congrArg List.length _h
  simp only [List.length_drop, List.length_cons] at this ⊢
  omega

theorem isWordPart_of_isWordChar {c : Char} (h : isWordChar c = true) : isWordPart c = true := by
  simp only [isWordChar, isWordPart, isWordStart, Bool.or_eq_true] at h ⊢
  obtain (letter | underscore) | dollar := h
  · by_cases small : c.toNat < 0x80
    · rw [isAlphanumeric_of_ascii small, Char.isAlphanum, Bool.or_eq_true] at letter
      exact letter.imp (fun alpha => .inl (.inl (.inl alpha))) id
    · exact .inl (.inr (by simpa using small))
  · exact .inl (.inl (.inl (.inr underscore)))
  · exact .inl (.inl (.inr dollar))

/-- A word that is made of letters and digits ends where it ends for a scanner that takes every
character above ASCII. -/
theorem takeWhile_isWordChar (h : ∀ c ∈ cs.takeWhile isWordPart, isWordChar c = true) :
    cs.takeWhile isWordChar = cs.takeWhile isWordPart := by
  induction cs with
  | nil => rfl
  | cons c cs ih =>
    by_cases part : isWordPart c = true
    · rw [List.takeWhile_cons_of_pos part] at h ⊢
      rw [List.takeWhile_cons_of_pos (h c List.mem_cons_self), ih fun d mem =>
        h d (List.mem_cons_of_mem c mem)]
    · rw [List.takeWhile_cons_of_neg part, List.takeWhile_cons_of_neg fun word =>
        part (isWordPart_of_isWordChar word)]

theorem isAsciiTest_isWordStart : IsAsciiTest isWordStart := by
  have above : ∀ c : Char, 128 ≤ c.toNat → isWordStart c = true := fun c large =>
    by simp [isWordStart, large]
  exact fun c d large large' => (above c large).trans (above d large').symm

theorem wordEnd_eq {c : Char} (h : Stands source pos (c :: cs))
    (word : ∀ d ∈ c :: cs.takeWhile isWordPart, isWordChar d = true) :
    wordEnd source pos = some (pos + byteSize (c :: cs.takeWhile isWordPart)) := by
  rw [wordEnd, h.slice_rest, Option.bind_eq_bind, Option.bind_some,
    List.takeWhile_cons_of_pos (word c List.mem_cons_self),
    takeWhile_isWordChar fun d mem => word d (List.mem_cons_of_mem c mem)]
  rfl

/-- The marks are tried at the rest of the source. -/
theorem mark_eq {c : Char} :
    (match punctuation.find? fun mark => mark.toList.isPrefixOf (c :: cs) with
      | some mark => some (Except.ok (.punct, pos + mark.utf8ByteSize))
      | none => some (.error (.unexpectedCharacter ((c :: cs).head?.getD '?')))) =
    some (placed pos c cs (match punctuation.find? fun mark => mark.toList.isPrefixOf (c :: cs) with
      | some mark => .ok (.punct, mark.length - 1)
      | none => .error (.unexpectedCharacter c))) := by
  cases found : punctuation.find? fun mark => mark.toList.isPrefixOf (c :: cs) with
  | none => rfl
  | some mark =>
    have front := List.find?_some (p := fun mark : String => mark.toList.isPrefixOf (c :: cs)) found
    obtain ⟨rest, whole⟩ := List.isPrefixOf_iff_prefix.1 front
    obtain ⟨size, some⟩ := ascii_punctuation mark (List.mem_of_find?_eq_some found)
    obtain ⟨d, more, chars⟩ := List.exists_cons_of_ne_nil some
    rw [chars, List.cons_append] at whole
    obtain ⟨rfl, rfl⟩ := List.cons.inj whole
    have length : mark.length = more.length + 1 :=
      by rw [← String.length_toList, chars, List.length_cons]
    have taken : byteSize (d :: (more ++ rest).take (mark.length - 1)) = mark.utf8ByteSize := by
      rw [length, Nat.add_sub_cancel, List.take_left, ← chars, byteSize_toList]
    simp only [placed, Except.map, taken]

theorem tokenEnd_eq {c : Char} (h : Stands source pos (c :: cs))
    (word : isWordStart c = true → ∀ d ∈ c :: cs.takeWhile isWordPart, isWordChar d = true) :
    tokenEnd source pos = some (placed pos c cs (tokenLength c cs)) := by
  have second : (c == '.' && (bytes source)[pos + 1]?.any Char.isDigit) =
    (c == '.' && cs.head?.any Char.isDigit) := by
    by_cases point : c = '.'
    · rw [(h.succ (by rw [point]; decide)).any onlyAscii_isDigit.isAsciiTest]
    · rw [beq_eq_false_iff_ne.2 point, Bool.false_and, Bool.false_and]
  unfold tokenEnd
  rw [h.byte_cons, Option.bind_eq_bind, Option.bind_some, isAsciiTest_isWordStart.lead,
    onlyAscii_isDigit.isAsciiTest.lead, (OnlyAscii.beq (by decide)).isAsciiTest.lead c, second,
    (OnlyAscii.beq (by decide)).isAsciiTest.lead c, (OnlyAscii.beq (by decide)).isAsciiTest.lead c]
  unfold tokenLength
  split_ifs with start number quotes quote
  · have whole := List.prefix_iff_eq_take.1 (List.takeWhile_prefix (l := cs) isWordPart)
    rw [wordEnd_eq h (word start), placed, Except.map]
    dsimp only
    rw [← whole]
    rfl
  · obtain ⟨found, plain⟩ := numberEnd_eq h
    obtain ⟨k, length⟩ :=
      Nat.exists_eq_succ_of_ne_zero (Nat.pos_iff_ne_zero.1 (numberLength_pos number).1)
    rw [found, placed, Except.map]
    dsimp only
    rw [length] at plain ⊢
    rw [Nat.succ_eq_add_one, Nat.add_sub_cancel, ← List.take_succ_cons, plain]
    rfl
  · obtain rfl := eq_of_beq quotes
    exact stringEnd_eq h
  · obtain rfl := eq_of_beq quote
    have next : Stands source (pos + 1) cs := h.next
    rw [quotedEnd_eq (by decide) next, Option.bind_eq_bind, Option.bind_some, quoted]
    cases quotedLength? '\'' cs with
    | none => rfl
    | some n =>
      have size : byteSize ('\'' :: cs.take n) = 1 + byteSize (cs.take n) := rfl
      simp only [placed, Except.map, size, Option.map_some, Option.pure_def, Nat.add_assoc]
  · rw [h.slice_rest, Option.bind_eq_bind, Option.bind_some]
    exact mark_eq

theorem words_behind {n : Nat} (h : triviaLength cs = .ok n) : words cs =
    match cs.drop n with
    | [] => []
    | c :: rest =>
      match tokenLength c rest with
      | .error _ => []
      | .ok (kind, m) => (if kind = .identifier then [c :: rest.take m] else []) ++
        words (rest.drop m) := by
  rw [words, h]
  dsimp only
  split <;> next front => rw [front]

theorem tokensFrom_behind {n : Nat} (h : triviaLength cs = .ok n) : tokensFrom pos cs =
    let start := pos + byteSize (cs.take n)
    match cs.drop n with
    | [] => .ok [Token.atEnd ⟨String.ofList (cs.take n)⟩ start]
    | c :: rest =>
      match tokenLength c rest with
      | .error fault => .error ⟨start, fault⟩
      | .ok (kind, m) =>
        match tokensFrom (start + byteSize (c :: rest.take m)) (rest.drop m) with
        | .error e => .error e
        | .ok tokens =>
          .ok (⟨kind, String.ofList (c :: rest.take m), ⟨String.ofList (cs.take n)⟩, start⟩ ::
            tokens) := by
  rw [tokensFrom, h]
  dsimp only
  cases cs.drop n <;> rfl

theorem tokensAt_eq (h : Stands source pos cs)
    (covered : ∀ word ∈ words cs, ∀ c ∈ word, isWordChar c = true) :
    tokensAt source pos = some (tokensFrom pos cs) := by
  induction length : cs.length using Nat.strong_induction_on generalizing pos cs with
  | _ k ih
  subst length
  rw [tokensAt, skipTrivia_eq h, skipped]
  cases skips : triviaLength cs with
  | error n =>
    rw [tokensFrom, skips]
    rfl
  | ok n =>
    rw [words_behind skips] at covered
    rw [tokensFrom_behind skips]
    have rest := h.drop n
    have leading := (show Stands source pos
      (cs.take n ++ cs.drop n) by rwa [List.take_append_drop]).slice
    rw [Option.bind_eq_bind, Option.bind_some]
    dsimp only
    rw [leading, Option.bind_eq_bind, Option.bind_some]
    obtain none | ⟨c, more, front⟩ : cs.drop n = [] ∨ ∃ c more, cs.drop n = c :: more := by
      cases cs.drop n with
      | nil => exact .inl rfl
      | cons c more => exact .inr ⟨c, more, rfl⟩
    · have size := rest.size
      rw [none, byteSize, Nat.add_zero] at size
      simp only [none]
      rw [if_neg (by omega)]
      rfl
    · have positive := c.utf8Size_pos
      have size := rest.size
      rw [front] at rest
      rw [front, byteSize] at size
      simp only [front] at covered ⊢
      have word : isWordStart c = true → ∀ d ∈ c :: more.takeWhile isWordPart,
        isWordChar d = true := by
        intro start
        have whole := List.prefix_iff_eq_take.1 (List.takeWhile_prefix (l := more) isWordPart)
        have taken : tokenLength c more = .ok (.identifier, (more.takeWhile isWordPart).length) :=
          if_pos start
        simp only [taken] at covered
        rw [if_pos trivial, ← whole] at covered
        exact covered _ (List.mem_append_left _ (List.mem_singleton_self _))
      rw [if_pos (by omega), tokenEnd_eq rest word, Option.bind_eq_bind, Option.bind_some]
      cases taken : tokenLength c more with
      | error fault => rfl
      | ok cut =>
        obtain ⟨kind, m⟩ := cut
        rw [taken] at covered
        have text : Stands source (pos + byteSize (cs.take n))
          ((c :: more.take m) ++ more.drop m) := by
          rwa [List.cons_append, List.take_append_drop]
        have fewer : (more.drop m).length < cs.length := by
          have count := congrArg List.length front
          rw [List.length_drop, List.length_cons] at count
          rw [List.length_drop]
          omega
        have behind := ih _ fewer text.behind (fun x mem => covered x (List.mem_append_right _ mem))
          rfl
        have onward : 0 < byteSize (c :: more.take m) := Nat.add_pos_left positive _
        rw [placed, Except.map]
        dsimp only
        rw [text.slice, Option.bind_some,
          if_pos (by omega), behind, Option.bind_eq_bind, Option.bind_some]
        cases tokensFrom (pos + byteSize (cs.take n) + byteSize (c :: more.take m))
          (more.drop m) <;> rfl

/-- No index and no slice of the loop fails, and it gives what `tokenize` gives, for a source whose
words are made of letters and digits. -/
theorem tokensAt_zero (covered : ∀ word ∈ words source.toList, ∀ c ∈ word, isWordChar c = true) :
    tokensAt source 0 = some (tokenize source) :=
  tokensAt_eq (.start source) covered

end Indexed

end Retouch.Lexer
