/-!
# Binary floating point, taken apart

A finite binary floating-point number is a whole significand times a power of two. `Binary.parts`
takes the pattern of such a number apart, for either width.

* `Format` — the two field widths of a format;
* `Parts` — what a pattern stands for;
* `partsOf`, `partsOf32` — the parts of a number of double and of single precision.
-/

namespace NavStream.Decimal

/-- The widths of the two fields behind the sign bit. -/
structure Format where
  /-- Bits of the fraction field. -/
  fractionBits : Nat
  /-- Bits of the exponent field. -/
  exponentBits : Nat
  /-- Significant decimal digits that always suffice to tell two numbers apart. -/
  sufficientDigits : Nat

/-- Double precision. -/
def binary64 : Format := ⟨52, 11, 17⟩

/-- Single precision. -/
def binary32 : Format := ⟨23, 8, 9⟩

/-- What a pattern of bits stands for. -/
inductive Parts where
  /-- Not a number. -/
  | nan
  /-- An infinity. -/
  | infinite (negative : Bool)
  /-- The number `significand * 2 ^ exponent`, with its sign. Where `narrowBelow` holds, the next
  number toward zero is only half as far away as the next one away from zero. -/
  | finite (negative : Bool) (significand : Nat) (exponent : Int) (narrowBelow : Bool)
deriving DecidableEq, Repr

namespace Format

/-- What the exponent field of the number one holds. -/
def bias (format : Format) : Nat := Nat.pow 2 (format.exponentBits - 1) - 1

/-- The parts of a pattern of bits. -/
def parts (format : Format) (bits : Nat) : Parts :=
  let fractions := Nat.pow 2 format.fractionBits
  let exponents := Nat.pow 2 format.exponentBits
  let fraction := bits % fractions
  let exponent := bits / fractions % exponents
  let negative := bits / (fractions * exponents) % 2 == 1
  -- the exponent of the last place, the same for subnormal numbers and the smallest normal ones
  let place (e : Nat) : Int := (e : Int) - (format.bias + format.fractionBits : Nat)
  if exponent = exponents - 1 then
    if fraction = 0 then .infinite negative else .nan
  else if exponent = 0 then .finite negative fraction (place 1) false
  else .finite negative (fractions + fraction) (place exponent)
    (fraction == 0 && exponent > 1)

end Format

/-- The parts of a number of double precision. -/
def partsOf (x : Float) : Parts := binary64.parts x.toBits.toNat

/-- The parts of a number of single precision. -/
def partsOf32 (x : Float32) : Parts := binary32.parts x.toBits.toNat

end NavStream.Decimal
