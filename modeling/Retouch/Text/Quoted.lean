import Retouch.Text.Graphic

/-!
# Quoted texts

Two ways to write a text between double quotes. Both put a backslash in front of quotes and
backslashes; they differ in what else they spell. A text for readers spells every character that is not
graphic, a JSON string only the control characters below the space.
-/

namespace Retouch.Text

/-- The hexadecimal digits of a code, with zeros in front of them up to a width. -/
def hexDigits (width code : Nat) : List Char :=
  let digits := Nat.toDigits 16 code
  List.replicate (width - digits.length) '0' ++ digits

/-- A text between quotes, its characters spelled by `spell`. -/
def quoteBy (spell : Char → List Char) (s : String) : String :=
  String.ofList ('"' :: s.toList.flatMap spell ++ ['"'])

/-- A character of a quoted text for readers: what is not graphic by its code in braces. -/
def spellShown (c : Char) : List Char :=
  match c with
  | '"' => ['\\', '"']
  | '\\' => ['\\', '\\']
  | '\n' => ['\\', 'n']
  | '\r' => ['\\', 'r']
  | '\t' => ['\\', 't']
  | '\x00' => ['\\', '0']
  | _ => if isGraphic c then [c] else ['\\', 'u', '{'] ++ hexDigits 1 c.toNat ++ ['}']

/-- A text as messages show it. -/
def shown (s : String) : String := quoteBy spellShown s

/-- A character of a JSON string: the control characters below the space are escaped. -/
def spellJson (c : Char) : List Char :=
  match c with
  | '"' => ['\\', '"']
  | '\\' => ['\\', '\\']
  | '\n' => ['\\', 'n']
  | '\r' => ['\\', 'r']
  | '\t' => ['\\', 't']
  | '\x08' => ['\\', 'b']
  | '\x0c' => ['\\', 'f']
  | _ => if c.toNat < 0x20 then ['\\', 'u'] ++ hexDigits 4 c.toNat else [c]

/-- A text as a JSON string. -/
def jsonString (s : String) : String := quoteBy spellJson s

end Retouch.Text
