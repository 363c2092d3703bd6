/-!
# Blank characters

The characters with the White_Space property, and trimming by them. Trimming never looks inside a
text: it drops the longest run of blanks at an end.
-/

namespace Retouch.Text

/-- The characters of the White_Space property. -/
def isBlank (c : Char) : Bool :=
  let n := c.toNat
  (9 ≤ n && n ≤ 13) || n == 0x20 || n == 0x85 || n == 0xA0 || n == 0x1680 ||
    (0x2000 ≤ n && n ≤ 0x200A) || n == 0x2028 || n == 0x2029 || n == 0x202F || n == 0x205F ||
    n == 0x3000

/-- The characters with the blanks in front of them dropped. -/
def trimStartChars (cs : List Char) : List Char := cs.dropWhile isBlank

/-- The characters with the blanks behind them dropped. -/
def trimEndChars (cs : List Char) : List Char := (cs.reverse.dropWhile isBlank).reverse

/-- A text without the blanks in front of it. -/
def trimStart (s : String) : String := String.ofList (trimStartChars s.toList)

/-- A text without the blanks behind it. -/
def trimEnd (s : String) : String := String.ofList (trimEndChars s.toList)

/-- A text without the blanks at both ends. -/
def trim (s : String) : String := String.ofList (trimEndChars (trimStartChars s.toList))

/-- Trimming at the front drops blanks only: what is dropped, put back, gives the characters. -/
theorem takeWhile_append_trimStartChars (cs : List Char) :
    cs.takeWhile isBlank ++ trimStartChars cs = cs := List.takeWhile_append_dropWhile

end Retouch.Text
