import NavStream.Decimal.Binary

/-!
# The shortest decimal of a floating-point number

A floating-point number is written with the fewest significant digits that read back as the same
number; of the decimals with that many digits the one nearest to the number is taken.

The decimals that read back form an interval around the number, whose ends belong to it when the
significand is even. For one digit, two digits and so on, only the two decimals next to the number
have to be tried: if any decimal of that length lies in the interval, one of these does.

All comparisons are between natural numbers and exact.
-/

namespace NavStream.Decimal

/-- The number `digits * 10 ^ exponent`. -/
structure Numeral where
  /-- The significant digits, as a whole number. -/
  digits : Nat
  /-- The power of ten that the last digit stands for. -/
  exponent : Int
deriving DecidableEq, Repr

/-- Which of two equally near decimals is taken. -/
inductive Tie where
  /-- The larger one. -/
  | up
  /-- The one whose last digit is even. -/
  | even
deriving DecidableEq, Repr

/-- A positive fraction of natural numbers. -/
structure Ratio where
  /-- The numerator. -/
  num : Nat
  /-- The denominator. -/
  den : Nat

/-- A power of `base` as a fraction. -/
def powerRatio (base : Nat) (exponent : Int) : Ratio :=
  if 0 ≤ exponent then ⟨Nat.pow base exponent.toNat, 1⟩
  else ⟨1, Nat.pow base (-exponent).toNat⟩

/-- How many decimal digits a number has; zero has one. -/
def digitCount (n : Nat) : Nat := (Nat.toDigits 10 n).length

/-- The power of ten of the leading digit of a positive fraction. -/
def leadingExponent (x : Ratio) : Int :=
  let guess : Int := (digitCount x.num : Int) - digitCount x.den
  let power := powerRatio 10 guess
  if power.num * x.den ≤ x.num * power.den then guess else guess - 1

/-- Drops the zeros at the end of a number, counting them into the exponent. At most `fuel` are
dropped. -/
def stripZeros : (fuel : Nat) → Numeral → Numeral
  | 0, d => d
  | fuel + 1, d =>
    if d.digits ≠ 0 ∧ d.digits % 10 = 0 then stripZeros fuel ⟨d.digits / 10, d.exponent + 1⟩ else d

/-- The decimals that read back as a number, in quarters of its last place: between `low` and
`high`, the ends included where `closed` says so. -/
structure Interval where
  /-- The number itself. -/
  value : Nat
  /-- The lower end. -/
  low : Nat
  /-- The upper end. -/
  high : Nat
  /-- Whether the ends read back as well. -/
  closed : Bool
  /-- A quarter of the last place. -/
  unit : Ratio

/-- The interval around a positive number. -/
def intervalOf (significand : Nat) (exponent : Int) (narrowBelow : Bool) : Interval where
  value := 4 * significand
  low := 4 * significand - (if narrowBelow then 1 else 2)
  high := 4 * significand + 2
  closed := significand % 2 == 0
  unit := powerRatio 2 (exponent - 2)

namespace Interval

/-- Whether the decimal `digits * power` reads back as the number. -/
def contains (interval : Interval) (digits : Nat) (power : Ratio) : Bool :=
  let point := digits * power.num * interval.unit.den
  let low := interval.low * interval.unit.num * power.den
  let high := interval.high * interval.unit.num * power.den
  if interval.closed then low ≤ point && point ≤ high else low < point && point < high

/-- The decimal on the grid of `power` that reads back and is nearest to the number, if there is
one. -/
def nearest? (interval : Interval) (tie : Tie) (power : Ratio) : Option Nat :=
  let value := interval.value * interval.unit.num * power.den
  let step := power.num * interval.unit.den
  let below := value / step
  match interval.contains below power, interval.contains (below + 1) power with
  | true, true =>
    let middle := (2 * below + 1) * step
    if 2 * value < middle then some below
    else if middle < 2 * value then some (below + 1)
    else match tie with
      | .up => some (below + 1)
      | .even => some (if below % 2 = 0 then below else below + 1)
  | true, false => some below
  | false, true => some (below + 1)
  | false, false => none

/-- The first grid with a decimal that reads back, from the one that gives the number `count` digits
on; `leading` is the exponent of the number's leading digit. -/
def search (interval : Interval) (tie : Tie) (leading : Int) :
    (fuel count : Nat) → Option Numeral
  | 0, _ => none
  | fuel + 1, count =>
    let exponent := leading - count + 1
    match interval.nearest? tie (powerRatio 10 exponent) with
    | some digits => some ⟨digits, exponent⟩
    | none => search interval tie leading fuel (count + 1)

end Interval

/-- The shortest decimal that reads back as the positive number `significand * 2 ^ exponent` of a
format. -/
def shortest (format : Format) (tie : Tie) (significand : Nat) (exponent : Int)
    (narrowBelow : Bool) : Numeral :=
  let interval := intervalOf significand exponent narrowBelow
  let leading := leadingExponent ⟨interval.value * interval.unit.num, interval.unit.den⟩
  let found := interval.search tie leading format.sufficientDigits 1
  stripZeros format.sufficientDigits (found.getD ⟨0, 0⟩)

end NavStream.Decimal
