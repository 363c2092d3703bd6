/-!
# Shortest decimals of doubles

The decimal of fewest digits that is rounded to a given double. A double is taken apart into a natural
number and a power of two; every comparison is one of natural numbers, so nothing is rounded on the way.

* The reals that round to a double form an interval that ends halfway to its neighbours. The ends
  belong to it if the mantissa is even.
* Powers of ten are tried from the largest to the smallest. On the multiples of one of them, only the two
  next to the double can be the nearest ones that round to it.
-/

namespace Retouch.Decimal

/-- The number `digits * 10 ^ exponent`. -/
structure Numeral where
  digits : Nat
  exponent : Int
deriving DecidableEq, Repr

/-- A finite double without its sign, the number `mantissa * 2 ^ exponent`. -/
structure Magnitude where
  mantissa : Nat
  exponent : Int
  /-- The next smaller double is half as far away as the next larger one. -/
  closerBelow : Bool
deriving DecidableEq, Repr

/-- The finite double with the given bits, whatever its sign. -/
def Magnitude.ofBits (bits : Nat) : Magnitude :=
  let fraction := bits % 4503599627370496
  let biased := bits / 4503599627370496 % 2048
  if biased = 0 then ⟨fraction, -1074, false⟩
  else ⟨4503599627370496 + fraction, (biased : Int) - 1075, fraction = 0 && 1 < biased⟩

/-- Compares `a * 10 ^ i` with `b * 2 ^ j`. -/
def compareScaled (a : Nat) (i : Int) (b : Nat) (j : Int) : Ordering :=
  compare (a * Nat.pow 10 i.toNat * Nat.pow 2 (-j).toNat)
    (b * Nat.pow 2 j.toNat * Nat.pow 10 (-i).toNat)

namespace Magnitude

/-- The numeral is in the interval of reals that round to the double. -/
def covers (x : Magnitude) (n : Numeral) : Bool :=
  let below := if x.closerBelow then 4 * x.mantissa - 1 else 4 * x.mantissa - 2
  let low := compareScaled n.digits n.exponent below (x.exponent - 2)
  let high := compareScaled n.digits n.exponent (4 * x.mantissa + 2) (x.exponent - 2)
  if x.mantissa % 2 = 0 then low != .lt && high != .gt else low == .gt && high == .lt

/-- The nearest multiple of a power of ten that rounds to the double; of two that are equally near, the
greater one. -/
def onGrid? (x : Magnitude) (power : Int) : Option Numeral :=
  let floor := x.mantissa * Nat.pow 2 x.exponent.toNat * Nat.pow 10 (-power).toNat /
    (Nat.pow 2 (-x.exponent).toNat * Nat.pow 10 power.toNat)
  let lower : Numeral := ⟨floor, power⟩
  let upper : Numeral := ⟨floor + 1, power⟩
  match x.covers lower, x.covers upper with
  | true, true =>
    let middle := compareScaled (2 * floor + 1) power (2 * x.mantissa) x.exponent
    some (if middle == .gt then lower else upper)
  | true, false => some lower
  | false, true => some upper
  | false, false => none

/-- The double itself, with all of its digits. -/
def exact (x : Magnitude) : Numeral :=
  if 0 ≤ x.exponent then ⟨x.mantissa * Nat.pow 2 x.exponent.toNat, 0⟩
  else ⟨x.mantissa * Nat.pow 5 (-x.exponent).toNat, x.exponent⟩

/-- The shortest numeral that rounds to the double. -/
def shortest (x : Magnitude) : Numeral :=
  if x.mantissa = 0 then ⟨0, 0⟩
  else ((List.range 660).findSome? fun i => x.onGrid? (309 - Int.ofNat i)).getD x.exact

end Magnitude

/-- The number in digits with a point among them and at least one digit on each side of it. -/
def Numeral.positional (n : Numeral) : String :=
  let places := (-n.exponent).toNat
  let digits := (toString (n.digits * Nat.pow 10 n.exponent.toNat)).toList
  let digits := List.replicate (places + 1 - digits.length) '0' ++ digits
  let whole := digits.take (digits.length - places)
  let fraction := digits.drop (digits.length - places)
  String.ofList (whole ++ '.' :: if fraction.isEmpty then ['0'] else fraction)

/-- A minus sign stands in front of the double, also if it is zero. -/
def isNegative (x : Float) : Bool := 9223372036854775808 ≤ x.toBits.toNat

/-- The shortest numeral that rounds to a finite double, its sign apart. -/
def shortest (x : Float) : Numeral := (Magnitude.ofBits x.toBits.toNat).shortest

/-- A double in digits, without an exponent. -/
def positional (x : Float) : String :=
  if x.isNaN then "NaN"
  else
    (if isNegative x then "-" else "") ++ if x.isInf then "inf" else (shortest x).positional

/-- What is taken from a grid rounds to the double. -/
theorem Magnitude.covers_of_onGrid? {x : Magnitude} {power : Int} {n : Numeral}
    (h : x.onGrid? power = some n) : x.covers n = true := by
  simp only [onGrid?] at h
  split at h
  · split at h <;> simp_all
  · simp_all
  · simp_all
  · simp at h

end Retouch.Decimal
