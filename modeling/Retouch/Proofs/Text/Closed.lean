import Mathlib.Tactic.Common

/-!
# Closed texts

To evaluate `String.toList` is to look for each character among the bytes of the text. A text that
is written out is its characters one for one, and where an outcome of a closed text is evaluated
they are put in its place.
-/

namespace Retouch.Text

theorem toList_closed (s : String) {cs : List Char} (written : s = String.ofList cs) :
    s.toList = cs := by
  rw [written, String.toList_ofList]

/-- The characters of a text that is written out. -/
structure Written (s : String) where
  chars : List Char
  toList_eq : s.toList = chars

def Written.of {s : String} {cs : List Char} (written : s = String.ofList cs) : Written s :=
  ⟨cs, toList_closed s written⟩

/-- A text that is written in two parts. -/
theorem written_append {a b : String} {cs ds : List Char} (first : a = String.ofList cs)
    (second : b = String.ofList ds) : a ++ b = String.ofList (cs ++ ds) := by
  rw [first, second, String.ofList_append]

end Retouch.Text
