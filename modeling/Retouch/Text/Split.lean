/-!
# Cutting texts

Cutting a text at a separator, at its first or its last occurrence or at all of them, and removing a
known beginning or end. A cut never loses a character but the separator itself.
-/

namespace Retouch.Text

/-- The characters before the first `sep` and those after it. -/
def cutChars? (sep : Char) : List Char → Option (List Char × List Char)
  | [] => none
  | c :: cs =>
    if c == sep then some ([], cs) else (cutChars? sep cs).map fun (a, b) => (c :: a, b)

/-- The parts of a text around its first `sep`. -/
def cut? (sep : Char) (s : String) : Option (String × String) :=
  (cutChars? sep s.toList).map fun (a, b) => (String.ofList a, String.ofList b)

/-- The parts of a text around its last `sep`. -/
def cutLast? (sep : Char) (s : String) : Option (String × String) :=
  (cutChars? sep s.toList.reverse).map fun (a, b) =>
    (String.ofList b.reverse, String.ofList a.reverse)

/-- The parts of a list of characters between occurrences of `sep`; there is always one. -/
def splitChars (sep : Char) : List Char → List (List Char)
  | [] => [[]]
  | c :: cs =>
    if c == sep then [] :: splitChars sep cs
    else match splitChars sep cs with
      | [] => [[c]]
      | part :: parts => (c :: part) :: parts

/-- The parts of a text between occurrences of `sep`; there is always one. -/
def split (sep : Char) (s : String) : List String := (splitChars sep s.toList).map String.ofList

/-- What follows `lead` in a text that begins with it. -/
def dropLead? (lead s : String) : Option String :=
  (lead.toList.isPrefixOf? s.toList).map String.ofList

/-- What precedes `tail` in a text that ends with it. -/
def dropTail? (tail s : String) : Option String :=
  (tail.toList.isSuffixOf? s.toList).map String.ofList

/-- A text begins with another. -/
def hasLead (lead s : String) : Bool := lead.toList.isPrefixOf s.toList

/-- A text ends with another. -/
def hasTail (tail s : String) : Bool := tail.toList.isSuffixOf s.toList

/-- The characters around the first occurrence of `mark`. -/
def cutAtChars? (mark : List Char) : List Char → Option (List Char × List Char)
  | [] => if mark.isEmpty then some ([], []) else none
  | c :: cs =>
    match mark.isPrefixOf? (c :: cs) with
    | some rest => some ([], rest)
    | none => (cutAtChars? mark cs).map fun (a, b) => (c :: a, b)

/-- A text occurs in another. -/
def hasPart (mark s : String) : Bool := (cutAtChars? mark.toList s.toList).isSome

/-- The characters around the first one that satisfies `p`, which is dropped. -/
def cutWhere? (p : Char → Bool) : List Char → Option (List Char × List Char)
  | [] => none
  | c :: cs => if p c then some ([], cs) else (cutWhere? p cs).map fun (a, b) => (c :: a, b)

/-- The bytes a list of characters takes in UTF-8. -/
def byteSize : List Char → Nat
  | [] => 0
  | c :: cs => c.utf8Size + byteSize cs

/-- The first occurrence of `sep` cut out and put back gives the text. -/
theorem eq_of_cutChars? {sep : Char} {cs a b : List Char} (h : cutChars? sep cs = some (a, b)) :
    cs = a ++ sep :: b := by
  induction cs generalizing a b with
  | nil => simp [cutChars?] at h
  | cons c cs ih =>
    unfold cutChars? at h
    split at h
    · simp_all
    · obtain ⟨⟨x, y⟩, hxy, he⟩ := Option.map_eq_some_iff.1 h
      simp only [Prod.mk.injEq] at he
      obtain ⟨rfl, rfl⟩ := he
      rw [ih hxy]
      rfl

theorem byteSize_append (a b : List Char) : byteSize (a ++ b) = byteSize a + byteSize b := by
  induction a with
  | nil => simp [byteSize]
  | cons c cs ih => simp [byteSize, ih, Nat.add_assoc]

end Retouch.Text
