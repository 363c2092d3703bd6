import Mathlib.Data.Nat.PSub
import Retouch.Proofs.Text.Closed
import Retouch.Text.Split

/-!
# Places in a text

A place is a number of bytes. A slice between two places exists only if the first one does not lie
behind the second, none of them lies behind the end, and none of them lies within a character
(`slice?_eq_some_iff`).

`Stands s n cs`: the characters `cs` are what the text `s` has behind the place `n`. From such a
place on the bytes are those of `cs` (`Stands.byte`); the byte of a character above ASCII is never
one of ASCII.
-/

namespace Retouch.Text

/-- The bytes of a text, each as the character with its number. -/
def bytes (s : String) : List Char := s.toByteArray.data.toList.map fun b => Char.ofNat b.toNat

/-- The characters in front of a place and those behind it. -/
def cutBytes? : Nat → List Char → Option (List Char × List Char)
  | 0, cs => some ([], cs)
  | _ + 1, [] => none
  | n + 1, c :: cs =>
    if c.utf8Size ≤ n + 1 then (cutBytes? (n + 1 - c.utf8Size) cs).map fun (a, b) =>
      (c :: a, b) else none

/-- The characters between two places. -/
def slice? (cs : List Char) (start stop : Nat) : Option (List Char) :=
  if start ≤ stop then do
    let (_, rest) ← cutBytes? start cs
    let (middle, _) ← cutBytes? (stop - start) rest
    return middle
  else none

variable {cs a b : List Char} {n : Nat}

theorem cutBytes?_eq_some_iff : cutBytes? n cs = some (a, b) ↔ cs = a ++ b ∧ byteSize a = n := by
  induction cs generalizing n a with
  | nil =>
    cases n with
    | zero =>
      rw [cutBytes?, Option.some_inj, Prod.mk.injEq]
      constructor
      · rintro ⟨rfl, rfl⟩
        exact ⟨rfl, rfl⟩
      · rintro ⟨whole, -⟩
        obtain ⟨rfl, rfl⟩ := List.append_eq_nil_iff.1 whole.symm
        exact ⟨rfl, rfl⟩
    | succ n =>
      rw [cutBytes?]
      constructor
      · exact fun none => nomatch none
      · rintro ⟨whole, size⟩
        obtain ⟨rfl, rfl⟩ := List.append_eq_nil_iff.1 whole.symm
        cases size
  | cons c cs ih =>
    have positive := c.utf8Size_pos
    cases n with
    | zero =>
      rw [cutBytes?, Option.some_inj, Prod.mk.injEq]
      constructor
      · rintro ⟨rfl, rfl⟩
        exact ⟨rfl, rfl⟩
      · rintro ⟨whole, size⟩
        obtain _ | ⟨d, a⟩ := a
        · exact ⟨rfl, whole⟩
        · obtain ⟨rfl, -⟩ := List.cons.inj whole
          rw [byteSize] at size
          omega
    | succ n =>
      rw [cutBytes?]
      constructor
      · intro found
        split at found
        · next fits =>
          obtain ⟨⟨a', b'⟩, cut, same⟩ := Option.map_eq_some_iff.1 found
          obtain ⟨rfl, rfl⟩ := Prod.mk.inj same
          obtain ⟨rfl, size⟩ := ih.1 cut
          exact ⟨rfl, by rw [byteSize]; omega⟩
        · cases found
      · rintro ⟨whole, size⟩
        obtain _ | ⟨d, a⟩ := a
        · cases size
        · obtain ⟨rfl, rest⟩ := List.cons.inj whole
          rw [byteSize] at size
          rw [if_pos (by omega), ih.2 ⟨rest, (Nat.sub_eq_of_eq_add' size.symm).symm⟩]
          rfl

/-- A slice is what stands between two places of the text. -/
theorem slice?_eq_some_iff {start stop : Nat} : slice? cs start stop = some a ↔
    ∃ front back, cs = front ++ (a ++ back) ∧ byteSize front = start ∧
      byteSize (front ++ a) = stop := by
  unfold slice?
  constructor
  · intro found
    split at found
    · next ordered =>
      obtain ⟨⟨front, rest⟩, first, found⟩ := Option.bind_eq_some_iff.1 found
      obtain ⟨⟨middle, back⟩, second, found⟩ := Option.bind_eq_some_iff.1 found
      obtain rfl := Option.some.inj found
      obtain ⟨rfl, rfl⟩ := cutBytes?_eq_some_iff.1 first
      obtain ⟨rfl, size⟩ := cutBytes?_eq_some_iff.1 second
      exact ⟨front, back, rfl, rfl, by rw [byteSize_append]; omega⟩
    · cases found
  · rintro ⟨front, back, rfl, rfl, rfl⟩
    have first := cutBytes?_eq_some_iff.2 (show front ++ (a ++ back) = front ++ (a ++ back) ∧
      _ from ⟨rfl, rfl⟩)
    have second := cutBytes?_eq_some_iff.2 (show a ++ back = a ++ back ∧ _ from ⟨rfl, rfl⟩)
    rw [if_pos (by rw [byteSize_append]; omega), byteSize_append, Nat.add_sub_cancel_left]
    simp [first, second]

/-! ## Bytes -/

theorem byteSize_toList (s : String) : byteSize s.toList = s.utf8ByteSize := by
  have chars (cs : List Char) : byteSize cs = (String.ofList cs).utf8ByteSize := by
    induction cs with
    | nil => rfl
    | cons c cs ih => rw [byteSize, ih, String.ofList_cons, String.utf8ByteSize_append,
      String.utf8ByteSize_singleton]
  rw [chars, String.ofList_toList]

/-- The bytes of a character, each as the character with its number. -/
def codes (c : Char) : List Char := (String.utf8EncodeChar c).map fun b => Char.ofNat b.toNat

theorem length_codes (c : Char) : (codes c).length = c.utf8Size := by
  rw [codes, List.length_map, String.length_utf8EncodeChar]

/-- A character of ASCII is its only byte; the bytes of another one are all above ASCII. -/
theorem codes_cases (c : Char) : c.toNat < 128 ∧ codes c = [c] ∨ 128 ≤ c.toNat ∧ ∀ b ∈ codes c,
    128 ≤ b.toNat := by
  by_cases plain : c.toNat < 128
  · refine .inl ⟨plain, ?_⟩
    have one : String.utf8EncodeChar c = [UInt8.ofNat c.toNat] := by
      unfold String.utf8EncodeChar
      simp only [Char.toNat] at *
      rw [if_pos (by omega)]
    have same : Char.ofNat (UInt8.ofNat c.toNat).toNat = c := by
      rw [UInt8.toNat_ofNat_of_lt' (show c.toNat < 256 by omega)]
      exact Char.ofNat_toNat c
    rw [codes, one, List.map_singleton, same]
  · refine .inr ⟨Nat.le_of_not_lt plain, fun b mem => ?_⟩
    obtain ⟨byte, inside, rfl⟩ := List.mem_map.1 mem
    have small : byte.toNat < 256 := byte.toNat_lt
    have valid : byte.toNat.isValidChar := .inl (by omega)
    have large : 128 ≤ byte.toNat := by
      unfold String.utf8EncodeChar at inside
      simp only [Char.toNat] at *
      split_ifs at inside
      · omega
      all_goals
        simp only [List.mem_cons, List.not_mem_nil, or_false] at inside
        rcases inside with rfl | rfl | rfl | rfl <;> simp <;> omega
    rw [Char.ofNat, dif_pos valid]
    exact large

theorem bytes_eq (s : String) : bytes s = s.toList.flatMap codes := by
  have same : s.toByteArray.data.toList = s.toList.flatMap String.utf8EncodeChar := by
    conv_lhs => rw [← String.ofList_toList (s := s), String.toByteArray_ofList]
    simp [List.utf8Encode]
  rw [bytes, same, List.map_flatMap]
  rfl

theorem length_flatMap_codes (cs : List Char) : (cs.flatMap codes).length = byteSize cs := by
  induction cs with
  | nil => rfl
  | cons c cs ih => rw [List.flatMap_cons, List.length_append, ih, length_codes, byteSize]

theorem utf8Size_of_ascii {c : Char} (h : c.toNat < 128) : c.utf8Size = 1 := by
  obtain ⟨-, one⟩ | ⟨large, -⟩ := codes_cases c
  · rw [← length_codes, one, List.length_singleton]
  · omega

/-- The first byte of a character. -/
def lead (c : Char) : Char := (codes c).headD c

theorem codes_eq_cons (c : Char) : ∃ more, codes c = lead c :: more := by
  have some : codes c ≠ [] := by
    intro none
    have size := length_codes c
    have positive := c.utf8Size_pos
    rw [none, List.length_nil] at size
    omega
  obtain ⟨first, more, shape⟩ := List.exists_cons_of_ne_nil some
  exact ⟨more, by rw [lead, shape, List.headD_cons]⟩

/-- A test that does not tell the characters above ASCII apart. -/
def IsAsciiTest (p : Char → Bool) : Prop := ∀ c d : Char, 128 ≤ c.toNat → 128 ≤ d.toNat → p c = p d

/-- Such a test may look at the first byte in place of the character. -/
theorem IsAsciiTest.lead {p : Char → Bool} (h : IsAsciiTest p) (c : Char) : p (lead c) = p c := by
  obtain ⟨more, shape⟩ := codes_eq_cons c
  obtain ⟨-, one⟩ | ⟨large, above⟩ := codes_cases c
  · rw [Text.lead, one, List.headD_cons]
  · exact h _ _ (above _ (shape ▸ List.mem_cons_self)) large

/-- A test that lets no character above ASCII through. -/
def OnlyAscii (p : Char → Bool) : Prop := ∀ c, p c = true → c.toNat < 128

namespace OnlyAscii

variable {p q : Char → Bool}

theorem isAsciiTest (h : OnlyAscii p) : IsAsciiTest p := by
  have other : ∀ c : Char, 128 ≤ c.toNat → p c = false :=
    fun c above => Bool.eq_false_iff.2 fun held => absurd (h c held) (Nat.not_lt.2 above)
  exact fun c d above above' => (other c above).trans (other d above').symm

theorem beq {d : Char} (h : d.toNat < 128) : OnlyAscii (· == d) := fun _ same => eq_of_beq same ▸ h

theorem or (h : OnlyAscii p) (h' : OnlyAscii q) : OnlyAscii fun c => p c || q c :=
  fun c held => (Bool.or_eq_true_iff.1 held).elim (h c) (h' c)

theorem and (h : OnlyAscii p) : OnlyAscii fun c => p c && q c := fun c held =>
    h c (Bool.and_eq_true_iff.1 held).1

theorem contains {l : List Char} (h : ∀ c ∈ l, c.toNat < 128) : OnlyAscii (l.contains ·) :=
  fun c held => h c (List.contains_iff_mem.1 held)

end OnlyAscii

theorem onlyAscii_of_le {p : Char → Bool} {d : Char} (small : d.toNat < 128)
    (h : ∀ c, p c = true → c.val ≤ d.val) :
    OnlyAscii p :=
  fun c held => Nat.lt_of_le_of_lt (UInt32.le_iff_toNat_le.1 (h c held)) small

theorem onlyAscii_isDigit : OnlyAscii Char.isDigit :=
  onlyAscii_of_le (d := '9')
    (by decide) fun _ digit => of_decide_eq_true (Bool.and_eq_true_iff.1 digit).2

theorem onlyAscii_isAlpha : OnlyAscii Char.isAlpha :=
  .or (onlyAscii_of_le (d := 'Z') (by decide) fun _ upper => (of_decide_eq_true upper).2)
    (onlyAscii_of_le (d := 'z')
      (by decide) fun _ lower => of_decide_eq_true (Bool.and_eq_true_iff.1 lower).2)

/-- So many characters at the front take as many bytes. -/
def Plain (cs : List Char) (k : Nat) : Prop := byteSize (cs.take k) = k

namespace Plain

variable {c : Char} {k m : Nat}

theorem zero : Plain cs 0 := rfl

theorem succ (ascii : c.toNat < 128) (h : Plain cs k) : Plain (c :: cs) (k + 1) := by
  rw [Plain, List.take_succ_cons, byteSize, utf8Size_of_ascii ascii, h, Nat.add_comm]

theorem add (h : Plain cs k) (h' : Plain (cs.drop k) m) : Plain cs (k + m) := by
  rw [Plain, List.take_add, byteSize_append, h, h']

theorem takeWhile {p : Char → Bool} (ascii : OnlyAscii p) : Plain cs (cs.takeWhile p).length := by
  induction cs with
  | nil => exact zero
  | cons c cs ih =>
    by_cases held : p c = true
    · rw [List.takeWhile_cons_of_pos held]
      exact ih.succ (ascii c held)
    · rw [List.takeWhile_cons_of_neg held]
      exact zero

end Plain

/-! ## What stands behind a place -/

/-- The characters that a text has behind a place. -/
def Stands (s : String) (n : Nat) (cs : List Char) : Prop := ∃ front, s.toList = front ++ cs ∧
    byteSize front = n

namespace Stands

variable {s : String} {c : Char} {xs : List Char}

theorem start (s : String) : Stands s 0 s.toList := ⟨[], rfl, rfl⟩

theorem behind (h : Stands s n (xs ++ cs)) : Stands s (n + byteSize xs) cs := by
  obtain ⟨front, whole, rfl⟩ := h
  exact ⟨front ++ xs, by rw [whole, List.append_assoc], byteSize_append ..⟩

theorem drop (h : Stands s n cs) (k : Nat) : Stands s (n + byteSize (cs.take k)) (cs.drop k) :=
  behind (by rwa [List.take_append_drop])

theorem next (h : Stands s n (c :: cs)) : Stands s (n + c.utf8Size) cs :=
  behind (show Stands s n ([c] ++ cs) from h)

theorem succ (h : Stands s n (c :: cs)) (ascii : c.toNat < 128) : Stands s (n + 1) cs :=
  utf8Size_of_ascii ascii ▸ h.next

theorem plain {k : Nat} (h : Stands s n cs) (ascii : Plain cs k) :
    Stands s (n + k) (cs.drop k) := by
  have behind := h.drop k
  rwa [ascii] at behind

theorem size (h : Stands s n cs) : (bytes s).length = n + byteSize cs := by
  obtain ⟨front, whole, rfl⟩ := h
  rw [bytes_eq, length_flatMap_codes, whole, byteSize_append]

theorem byte (h : Stands s n cs) (k : Nat) : (bytes s)[n + k]? = (cs.flatMap codes)[k]? := by
  obtain ⟨front, whole, rfl⟩ := h
  rw [bytes_eq, whole, List.flatMap_append,
    List.getElem?_append_right (by rw [length_flatMap_codes]; omega),
    length_flatMap_codes, Nat.add_sub_cancel_left]

theorem byte_cons (h : Stands s n (c :: cs)) : (bytes s)[n]? = some (lead c) := by
  obtain ⟨more, shape⟩ := codes_eq_cons c
  rw [← Nat.add_zero n, h.byte, List.flatMap_cons, shape, List.cons_append, List.getElem?_cons_zero]

theorem byte_nil (h : Stands s n []) : (bytes s)[n]? = none := by
  rw [← Nat.add_zero n, h.byte, List.flatMap_nil, List.getElem?_nil]

theorem any_cons {p : Char → Bool} (ascii : IsAsciiTest p) (h : Stands s n (c :: cs)) :
    (bytes s)[n]?.any p = p c := by
  rw [h.byte_cons]
  exact ascii.lead c

/-- Whether there is a byte that such a test lets through. -/
theorem any {p : Char → Bool} (ascii : IsAsciiTest p) (h : Stands s n cs) :
    (bytes s)[n]?.any p = cs.head?.any p := by
  obtain _ | ⟨c, cs⟩ := cs
  · rw [h.byte_nil]
    rfl
  · exact h.any_cons ascii

theorem slice (h : Stands s n (xs ++ cs)) : slice? s.toList n (n + byteSize xs) = some xs := by
  obtain ⟨front, whole, rfl⟩ := h
  exact slice?_eq_some_iff.2 ⟨front, cs, whole, rfl, byteSize_append ..⟩

/-- All that stands behind the place. -/
theorem slice_rest (h : Stands s n cs) : slice? s.toList n (bytes s).length = some cs := by
  have whole : Stands s n (cs ++ []) := by rwa [List.append_nil]
  rw [h.size]
  exact whole.slice

end Stands

end Retouch.Text
