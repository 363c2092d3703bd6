import Retouch.Token.Basic
import Retouch.Tree.Basic

/-!
# Values of literals

How the spelling of a literal is read: escapes of characters and strings, integers in four bases
within 64 signed bits, and decimal fractions rounded to the nearest double.
-/

namespace Retouch.Literals

/-- The value of a digit in a base up to sixteen. -/
def digitValue? (base : Nat) (c : Char) : Option Nat :=
  let v? :=
    if c.isDigit then some (c.toNat - '0'.toNat)
    else if 'a' ≤ c && c ≤ 'f' then some (c.toNat - 'a'.toNat + 10)
    else if 'A' ≤ c && c ≤ 'F' then some (c.toNat - 'A'.toNat + 10)
    else none
  v?.filter (· < base)

/-- The number that digits denote behind `acc`. -/
def digitsValueFrom? (base acc : Nat) : List Char → Option Nat
  | [] => some acc
  | c :: cs => (digitValue? base c).bind fun d => digitsValueFrom? base (acc * base + d) cs

/-- The number that a non-empty list of digits denotes. -/
def digitsValue? (base : Nat) (cs : List Char) : Option Nat :=
  if cs.isEmpty then none else digitsValueFrom? base 0 cs

/-- The largest number of 64 signed bits. -/
def maxLong : Nat := 9223372036854775807

/-- An integer without suffix: hexadecimal behind `0x`, binary behind `0b`, octal behind `0`, decimal
otherwise; underscores do not count. Numbers above 64 signed bits have no value in any base. -/
def integer? (text : List Char) : Option Int :=
  let digits := text.filter (· != '_')
  let value? := match digits with
    | '0' :: 'x' :: hex | '0' :: 'X' :: hex => digitsValue? 16 hex
    | '0' :: 'b' :: bin | '0' :: 'B' :: bin => digitsValue? 2 bin
    | '0' :: c :: oct => digitsValue? 8 (c :: oct)
    | ds => digitsValue? 10 ds
  (value?.filter (· ≤ maxLong)).map Int.ofNat

/-- The double nearest to `digits · 10 ^ exponent`, a tie going to the even one. An exponent that puts
every digit out of the range of doubles is not multiplied out. -/
def nearestDouble (digits : Nat) (exponent : Int) : Float :=
  let magnitude := (toString digits).length + exponent
  if digits == 0 then 0.0
  else if 400 < magnitude then 1.0 / 0.0
  else if magnitude < -400 then 0.0
  else if 0 ≤ exponent then Float.ofScientific digits false exponent.toNat
  else Float.ofScientific digits true (-exponent).toNat

/-- The exponent behind `e`, with an optional sign; it must have a digit. -/
def exponent? : List Char → Option Int
  | '+' :: cs => (digitsValue? 10 cs).map Int.ofNat
  | '-' :: cs => (digitsValue? 10 cs).map fun n => -Int.ofNat n
  | cs => (digitsValue? 10 cs).map Int.ofNat

/-- A decimal fraction as its digits and a power of ten: digits with an optional point, at least one
digit in all, and an optional exponent. -/
def fraction? (text : List Char) : Option (Nat × Int) :=
  let isExponentMark := fun c => c == 'e' || c == 'E'
  let mantissa := text.takeWhile (!isExponentMark ·)
  let rest := text.dropWhile (!isExponentMark ·)
  let whole := mantissa.takeWhile (· != '.')
  let fraction := (mantissa.dropWhile (· != '.')).drop 1
  match digitsValue? 10 (whole ++ fraction), rest with
  | some digits, [] => some (digits, -Int.ofNat fraction.length)
  | some digits, _ :: e => (exponent? e).map fun n => (digits, n - fraction.length)
  | none, _ => none

/-- The double nearest to a decimal fraction. -/
def decimal? (text : List Char) : Option Float :=
  (fraction? text).map fun (digits, exponent) => nearestDouble digits exponent

/-- The character that an escape denotes by one letter. An octal escape denotes the character zero,
whatever its digit. -/
def simpleEscape (c : Char) : Char :=
  match c with
  | 'n' => '\n'
  | 't' => '\t'
  | 'r' => '\r'
  | 'b' => '\x08'
  | 'f' => '\x0c'
  | 's' => ' '
  | _ => if '0' ≤ c && c ≤ '7' then '\x00' else c

/-- The character with the code that hexadecimal digits denote; a plus sign may stand in front. -/
def codeChar? (hex : List Char) : Option Char :=
  let digits := match hex with
    | '+' :: rest => rest
    | _ => hex
  (digitsValue? 16 digits).bind fun n => if n.isValidChar then some (Char.ofNat n) else none

/-- The body of a character or string literal without its escapes. `\u` takes the four characters
behind its `u`s and is dropped if they are no character; a backslash at the end stays. -/
def unescape (cs : List Char) : List Char :=
  match cs with
  | [] => []
  | '\\' :: 'u' :: rest =>
    let hex := rest.dropWhile (· == 'u')
    match codeChar? (hex.take 4) with
    | some c => c :: unescape (hex.drop 4)
    | none => unescape (hex.drop 4)
  | '\\' :: c :: rest => simpleEscape c :: unescape rest
  | c :: rest => c :: unescape rest
termination_by cs.length
decreasing_by
  all_goals simp only [List.length_cons, List.length_drop]
  all_goals try omega
  all_goals
    have := (List.dropWhile_suffix (l := rest) (· == 'u')).length_le
    omega

/-- A list without its first and last `n` elements. -/
def inner (n : Nat) (cs : List Char) : List Char := (cs.drop n).take (cs.length - 2 * n)

/-- The text of a text block: what follows the line of the opening quotes. -/
def textBlockBody (cs : List Char) : List Char :=
  let body := inner 3 cs
  match Text.cutChars? '\n' body with
  | some (_, rest) => rest
  | none => body

/-- The value of a token, missing if it is no literal or its spelling has no value. -/
def value? (t : Token) : Option LiteralValue :=
  let cs := t.text.toList
  match t.kind with
  | .int => (integer? cs).map .int
  | .long => (integer? cs.dropLast).map .long
  | .float => (decimal? (cs.dropLast.filter (· != '_'))).map .float
  | .double =>
    let digits := (cs.reverse.dropWhile fun c => c == 'd' || c == 'D').reverse
    (decimal? (digits.filter (· != '_'))).map .double
  | .char => (unescape (inner 1 cs)).head?.map .char
  | .string =>
    if Text.hasLead "\"\"\"" t.text then some (.string (String.ofList (unescape (textBlockBody cs))))
    else some (.string (String.ofList (unescape (inner 1 cs))))
  | _ =>
    if t.text == "true" then some (.boolean true)
    else if t.text == "false" then some (.boolean false)
    else if t.text == "null" then some .null
    else none

end Retouch.Literals
