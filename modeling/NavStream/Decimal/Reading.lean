import NavStream.Text.Blank

/-!
# Reading numbers

The numeric fields of a sentence are read by three grammars.

* `word32?` — an optional plus sign and decimal digits, below two to the power of 32;
* `hexWord8?` — the same with hexadecimal digits, below 256;
* `float?` — an optional sign and either a word for infinity or for no number, or digits with an
  optional point and an optional power of ten; the result is the nearest number of double precision.
-/

namespace NavStream.Decimal

open NavStream.Text

/-- The value of a digit in a base of at most 16, of either case. -/
def digitValue? (base : Nat) (c : Char) : Option Nat :=
  let code := c.toNat
  let value? :=
    if 48 ≤ code && code ≤ 57 then some (code - 48)
    else if 65 ≤ code && code ≤ 70 then some (code - 55)
    else if 97 ≤ code && code ≤ 102 then some (code - 87)
    else none
  value?.filter (· < base)

/-- The number that one or more digits spell. -/
def natural? (base : Nat) (digits : List Char) : Option Nat :=
  if digits.isEmpty then none
  else (digits.mapM (digitValue? base)).map fun values => values.foldl (fun n d => base * n + d) 0

/-- What follows an optional plus sign. -/
def dropPlus : List Char → List Char
  | '+' :: rest => rest
  | text => text

/-- A number below two to the power of 32. -/
def word32? (text : List Char) : Option UInt32 :=
  ((natural? 10 (dropPlus text)).filter (· < 0x100000000)).map UInt32.ofNat

/-- A hexadecimal number below 256. -/
def hexWord8? (text : List Char) : Option UInt8 :=
  ((natural? 16 (dropPlus text)).filter (· < 256)).map UInt8.ofNat

/-- Splits an optional sign off; `true` means minus. -/
def splitSign : List Char → Bool × List Char
  | '-' :: rest => (true, rest)
  | '+' :: rest => (false, rest)
  | text => (false, text)

/-- Whether a character is a decimal digit. -/
def isDigit (c : Char) : Bool := (digitValue? 10 c).isSome

/-- The number that a run of digits spells, zero for none. -/
def digitsValue (digits : List Char) : Nat := (natural? 10 digits).getD 0

/-- The power of ten behind the digits, zero where none is written. -/
def power? : List Char → Option Int
  | [] => some 0
  | c :: rest =>
    if c = 'e' || c = 'E' then
      let (negative, digits) := splitSign rest
      (natural? 10 digits).map fun n => if negative then -(n : Int) else n
    else none

/-- The nearest number of double precision to `digits * 10 ^ exponent`. Exponents far outside its
range are answered without calculating the power. -/
def nearest (digits : Nat) (exponent : Int) : Float :=
  let size : Int := (Nat.toDigits 10 digits).length
  if digits = 0 || exponent + size < -400 then 0.0
  else if 400 < exponent + size then 1.0 / 0.0
  else if 0 ≤ exponent then Float.ofScientific digits false exponent.toNat
  else Float.ofScientific digits true (-exponent).toNat

/-- A number without its sign, in digits. -/
def magnitude? (text : List Char) : Option Float :=
  let whole := text.takeWhile isDigit
  let rest := text.dropWhile isDigit
  let (fraction, rest) :=
    match rest with
    | '.' :: tail => (tail.takeWhile isDigit, tail.dropWhile isDigit)
    | _ => ([], rest)
  if whole.isEmpty && fraction.isEmpty then none
  else (power? rest).map fun power =>
    nearest (digitsValue (whole ++ fraction)) (power - fraction.length)

/-- A number of double precision. -/
def float? (text : List Char) : Option Float :=
  let (negative, rest) := splitSign text
  let word := String.ofList (rest.map Char.toLower)
  let value? :=
    if word = "inf" || word = "infinity" then some (1.0 / 0.0)
    else if word = "nan" then some (0.0 / 0.0)
    else magnitude? rest
  value?.map fun value => if negative then -value else value

end NavStream.Decimal
