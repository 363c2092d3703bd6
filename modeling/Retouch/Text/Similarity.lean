/-!
# Similarity of texts

The Jaro–Winkler measure: one for equal texts, zero for texts without a common character.

* A character of the one text matches the first equal character of the other that is not matched yet
  and not farther away than half the length of the longer text, less one.
* Half of the matched characters that come in another order are transpositions.
* Texts that are alike get closer by a tenth of what is missing for each character, up to four, that
  their beginnings share.
-/

namespace Retouch.Text

/-- How far apart two characters may stand to match. -/
def matchWindow (a b : List Char) : Nat := max a.length b.length / 2 - 1

/-- Takes away the first character from index `low` to `high` that is `c` and not yet taken; the
characters are counted from `index`. -/
def takeMatch (c : Char) (low high index : Nat) :
    List (Char × Bool) → Option (List (Char × Bool))
  | [] => none
  | (d, taken) :: rest =>
    if low ≤ index && index ≤ high && c == d && !taken then some ((d, true) :: rest)
    else (takeMatch c low high (index + 1) rest).map ((d, taken) :: ·)

/-- The characters of a text that match, in order, and the other text with the matched ones marked;
the characters are counted from `index`. -/
def matchedFrom (window index : Nat) :
    List Char → List (Char × Bool) → List Char × List (Char × Bool)
  | [], b => ([], b)
  | c :: cs, b =>
    match takeMatch c (index - window) (index + window) 0 b with
    | some b =>
      let (matched, b) := matchedFrom window (index + 1) cs b
      (c :: matched, b)
    | none => matchedFrom window (index + 1) cs b

/-- The Jaro measure. -/
def jaro (s t : String) : Float :=
  let a := s.toList
  let b := t.toList
  if a.isEmpty && b.isEmpty then 1
  else
    let (left, marked) := matchedFrom (matchWindow a b) 0 a (b.map (·, false))
    let right := (marked.filter (·.2)).map (·.1)
    let moved := ((left.zip right).filter fun (c, d) => c != d).length / 2
    if left.isEmpty then 0
    else
      let m := Float.ofNat left.length
      (m / Float.ofNat a.length + m / Float.ofNat b.length +
        Float.ofNat (left.length - moved) / m) / 3

/-- The number of characters that two lists have in common at their beginnings. -/
def commonLead : List Char → List Char → Nat
  | c :: cs, d :: ds => if c == d then commonLead cs ds + 1 else 0
  | _, _ => 0

/-- The Jaro–Winkler measure. -/
def similarity (s t : String) : Float :=
  let base := jaro s t
  if base > 0.7 then
    base + 0.1 * Float.ofNat (commonLead (s.toList.take 4) t.toList) * (1 - base)
  else base

end Retouch.Text
