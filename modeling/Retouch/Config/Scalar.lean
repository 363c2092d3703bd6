import Retouch.Config.Token
import Retouch.Config.Value
import Retouch.Decimal.Shortest
import Retouch.Text.Quoted

/-!
# Values of scalars

What a scalar without quotes denotes: nothing, a boolean, a number, or else itself. A decimal number with
a zero in front of other digits is a text. Integers have up to 64 bits; those of up to 128 bits are refused,
and the ones beyond are decimals.
-/

namespace Retouch.Config.Scalar

open Literals

/-- More than one digit, the first of them a zero. -/
def isPaddedNumber (cs : List Char) : Bool :=
  match cs with
  | '0' :: c :: rest => (c :: rest).all Char.isDigit
  | _ => false

/-- A number without a sign, in base sixteen, eight, two or ten. -/
def natural? : List Char → Option Nat
  | '0' :: 'x' :: cs => digitsValue? 16 cs
  | '0' :: 'o' :: cs => digitsValue? 8 cs
  | '0' :: 'b' :: cs => digitsValue? 2 cs
  | cs => if isPaddedNumber cs then none else digitsValue? 10 cs

/-- A number that may have a plus sign. -/
def unsigned? : List Char → Option Nat
  | '+' :: cs => natural? cs
  | cs => natural? cs

def integer? : List Char → Option Int
  | '-' :: cs => (natural? cs).map fun n => -Int.ofNat n
  | cs => (unsigned? cs).map Int.ofNat

/-- A number with a point or an exponent and without a sign, in the range of doubles. -/
def magnitude? (cs : List Char) : Option Float := do
  if isPaddedNumber cs then none
  let x ← decimal? cs
  if x.isInf then none else some x

/-- A decimal number, or one of the words for infinity and for no number. -/
def float? (text : String) : Option Float :=
  match text with
  | ".inf" | ".Inf" | ".INF" | "+.inf" | "+.Inf" | "+.INF" => some (1.0 / 0.0)
  | "-.inf" | "-.Inf" | "-.INF" => some (-1.0 / 0.0)
  | ".nan" | ".NaN" | ".NAN" => some (0.0 / 0.0)
  | _ =>
    match text.toList with
    | '-' :: cs => (magnitude? cs).map fun x => -x
    | '+' :: cs => magnitude? cs
    | cs => magnitude? cs

/-- The integers of more than 64 and at most 128 bits. -/
def isLarge (n : Int) : Bool :=
  !Value.isWord n && -170141183460469231731687303715884105728 ≤ n &&
    n < 340282366920938463463374607431768211456

/-- What a scalar is read as. -/
inductive Meaning where
  | value (v : Value)
  /-- An integer that no value has. -/
  | large (n : Int)

/-- The meaning of a scalar without quotes. -/
def plainMeaning (text : String) : Meaning :=
  match text with
  | "" | "~" | "null" | "Null" | "NULL" => .value .null
  | "true" | "True" | "TRUE" => .value (.boolean true)
  | "false" | "False" | "FALSE" => .value (.boolean false)
  | _ =>
    let other := match float? text with
      | some x => Value.decimal x
      | none => .text text
    match integer? text.toList with
    | some n =>
      if Value.isWord n then .value (.integer n)
      else if isLarge n then .large n
      else .value other
    | none => .value other

/-- The meaning of a scalar. -/
def meaning (s : Scalar) : Meaning := if s.quoted then .value (.text s.text) else plainMeaning s.text

/-- A number that is not negative and below two to the power of 64. -/
def count? (s : Scalar) : Option Nat :=
  if s.quoted then none else (unsigned? s.text.toList).filter (· < 18446744073709551616)

/-- How a message calls a scalar of the meaning. -/
def Meaning.describe : Meaning → String
  | value .null => "unit value"
  | value (.boolean b) => "boolean `" ++ toString b ++ "`"
  | value (.integer n) => "integer `" ++ toString n ++ "`"
  | value (.decimal x) => "floating point `" ++ Decimal.positional x ++ "`"
  | value (.text s) => "string " ++ Text.shown s
  | value (.list _) => "sequence"
  | value (.table _) => "map"
  | large n => "integer `" ++ toString n ++ "` as " ++ if n < 0 then "i128" else "u128"

end Retouch.Config.Scalar
