import NavStream.Datum.Shape
import NavStream.Json.Failure

/-!
# Numbers in a text

A number is read into the integers of 64 bits where it can be, and otherwise into double precision:
its digits, as far as they fit 64 bits, are rounded first and their power of ten is applied after.
A number that is only skipped may be of any size.

* `readNumber` — the value of a number;
* `skipNumber` — its end.
-/

namespace NavStream.Json

/-- Whether a byte is a decimal digit. -/
def isDigit (b : UInt8) : Bool := 48 ≤ b && b ≤ 57

/-- A number as it was read. -/
inductive Number where
  /-- A number without point and power that has 64 bits. -/
  | integer (n : Int)
  /-- Any other number. -/
  | float (x : Float)

namespace Number

/-- A number as one of double precision. -/
def toFloat : Number → Float
  | integer n => Float.ofInt n
  | float x => x

/-- A number as one of single precision. -/
def toFloat32 : Number → Float32
  | integer n => Float32.ofInt n
  | float x => x.toFloat32

/-- What a number is called where something else is expected. -/
def found : Number → Found
  | integer n => .integer n
  | float x => .float x

/-- A number as a whole one of a range, where `rest` follows it. -/
def within (n : Number) (range : IntegerRange) (rest : List UInt8) : Except Failure Int :=
  match n with
  | integer i =>
    if range.contains i then .ok i
    else .error
      ⟨.complaint (.invalidValue (.integer i) range.name), .settled (Failure.looked rest)⟩
  | float x =>
    .error ⟨.complaint (.invalidType (.float x) range.name), .settled (Failure.looked rest)⟩

end Number

/-- The number that follows the largest one of 64 bits. -/
def wordBound : Nat := 0x10000000000000000

/-- The largest power of ten that is not infinite. -/
def largestPower : Nat := 308

/-- A power of ten. -/
def powerOfTen (n : Nat) : Float := Float.ofScientific 1 false n

/-- Divides by a power of ten, in steps where the power is too large for one. At most `steps` steps
are done. -/
def divideByPower : (steps : Nat) → Float → Nat → Float
  | 0, x, _ => x
  | steps + 1, x, power =>
    if power ≤ largestPower then x / powerOfTen power
    else if x == 0.0 then x
    else divideByPower steps (x / powerOfTen largestPower) (power - largestPower)

/-- The number `digits * 10 ^ exponent`, rounded once for the digits and once for the power. Numbers
too large are refused. -/
def scaled? (digits : Nat) (exponent : Int) : Option Float :=
  let x := digits.toUInt64.toFloat
  if exponent < 0 then
    let power := exponent.natAbs
    some (divideByPower (power / largestPower + 1) x power)
  else if exponent ≤ largestPower then
    let y := x * powerOfTen exponent.toNat
    if y.isInf then none else some y
  else if x == 0.0 then some x
  else none

/-- A number with its sign. -/
def signed (negative : Bool) (x : Float) : Float := if negative then -x else x

/-- The number `digits * 10 ^ exponent` in front of `rest`. -/
def finishFloat (negative : Bool) (digits : Nat) (exponent : Int) (rest : List UInt8) :
    Except Failure (Number × List UInt8) :=
  match scaled? digits exponent with
  | some x => .ok (.float (signed negative x), rest)
  | none => .error (.lookingAt rest .numberOutOfRange)

/-- The largest power of ten that is counted, with either sign. -/
def powerLimit : Nat := 0x7FFFFFFF

/-- The digits of a power of ten, of which the first ones spell `power`. A power that cannot be
counted makes a number infinite or zero. -/
def readPowerDigits (negative : Bool) (digits : Nat) (exponent : Int) (down : Bool) (power : Nat) :
    List UInt8 → Except Failure (Number × List UInt8)
  | [] => finishPower []
  | b :: rest =>
    if isDigit b then
      let next := 10 * power + (b.toNat - 48)
      if powerLimit < next then
        if digits ≠ 0 && !down then .error (.before rest .numberOutOfRange)
        else .ok (.float (signed negative 0.0), rest.dropWhile isDigit)
      else readPowerDigits negative digits exponent down next rest
    else finishPower (b :: rest)
where
  /-- The number, once its power is known. -/
  finishPower (rest : List UInt8) : Except Failure (Number × List UInt8) :=
    finishFloat negative digits (if down then exponent - power else exponent + power) rest

/-- The power of ten of a number, behind its mark. -/
def readPower (negative : Bool) (digits : Nat) (exponent : Int) (text : List UInt8) :
    Except Failure (Number × List UInt8) :=
  let (down, text) :=
    match text with
    | 43 :: rest => (false, rest)
    | 45 :: rest => (true, rest)
    | _ => (false, text)
  match text with
  | [] => .error (.lookingAt [] .endOfValue)
  | b :: rest =>
    if isDigit b then readPowerDigits negative digits exponent down (b.toNat - 48) rest
    else .error (.lookingAt (b :: rest) .invalidNumber)

/-- Whether a byte marks a power of ten. -/
def isPowerMark (b : UInt8) : Bool := b == 101 || b == 69

/-- What may follow the digits of a number that has a point or is too long: a power of ten. -/
def readOptionalPower (negative : Bool) (digits : Nat) (exponent : Int) :
    List UInt8 → Except Failure (Number × List UInt8)
  | [] => finishFloat negative digits exponent []
  | b :: rest =>
    if isPowerMark b then readPower negative digits exponent rest
    else finishFloat negative digits exponent (b :: rest)

/-- The digits behind the point. Digits that would not fit 64 bits any more are left out. -/
def readFraction (negative : Bool) (digits : Nat) (exponent : Int) (any : Bool) :
    List UInt8 → Except Failure (Number × List UInt8)
  | [] =>
    if any then finishFloat negative digits exponent [] else .error (.lookingAt [] .endOfValue)
  | b :: rest =>
    if isDigit b then
      let next := 10 * digits + (b.toNat - 48)
      if wordBound ≤ next then
        readOptionalPower negative digits exponent (rest.dropWhile isDigit)
      else readFraction negative next (exponent - 1) true rest
    else if any then readOptionalPower negative digits exponent (b :: rest)
    else .error (.lookingAt (b :: rest) .invalidNumber)

/-- The digits in front of the point that do not fit 64 bits any more; each is worth a power. -/
def readLong (negative : Bool) (digits : Nat) (exponent : Int) :
    List UInt8 → Except Failure (Number × List UInt8)
  | [] => finishFloat negative digits exponent []
  | b :: rest =>
    if isDigit b then readLong negative digits (exponent + 1) rest
    else if b = 46 then readFraction negative digits exponent false rest
    else if isPowerMark b then readPower negative digits exponent rest
    else finishFloat negative digits exponent (b :: rest)

/-- A number of which nothing but digits was read. The negative of zero, and of what has no negative
of 64 bits, is no integer. -/
def integerOf (negative : Bool) (digits : Nat) : Number :=
  if !negative then .integer digits
  else if digits = 0 || 0x8000000000000000 < digits then .float (-digits.toUInt64.toFloat)
  else .integer (-(digits : Int))

/-- The digits in front of the point, of which the first ones spell `digits`. -/
def readWhole (negative : Bool) (digits : Nat) :
    List UInt8 → Except Failure (Number × List UInt8)
  | [] => .ok (integerOf negative digits, [])
  | b :: rest =>
    if isDigit b then
      let next := 10 * digits + (b.toNat - 48)
      if wordBound ≤ next then readLong negative digits 1 rest
      else readWhole negative next rest
    else if b = 46 then readFraction negative digits 0 false rest
    else if isPowerMark b then readPower negative digits 0 rest
    else .ok (integerOf negative digits, b :: rest)

/-- A number without its sign. A zero in front of further digits is refused. -/
def readUnsigned (negative : Bool) : List UInt8 → Except Failure (Number × List UInt8)
  | [] => .error (.lookingAt [] .endOfValue)
  | b :: rest =>
    if b = 48 then
      match rest with
      | c :: _ =>
        if isDigit c then .error (.lookingAt rest .invalidNumber) else readWhole negative 0 rest
      | [] => readWhole negative 0 rest
    else if isDigit b then readWhole negative (b.toNat - 48) rest
    else .error (.lookingAt (b :: rest) .invalidNumber)

/-- A number. -/
def readNumber : List UInt8 → Except Failure (Number × List UInt8)
  | 45 :: rest => readUnsigned true rest
  | text => readUnsigned false text

/-- The end of a power of ten, behind its mark. -/
def skipPower (text : List UInt8) : Except Failure (List UInt8) :=
  let text :=
    match text with
    | 43 :: rest => rest
    | 45 :: rest => rest
    | _ => text
  match text with
  | b :: rest =>
    if isDigit b then .ok (rest.dropWhile isDigit)
    else .error (.lookingAt (b :: rest) .invalidNumber)
  | [] => .error (.lookingAt [] .invalidNumber)

/-- The end of a number, behind the digits in front of its point. -/
def skipTail : List UInt8 → Except Failure (List UInt8)
  | 46 :: rest =>
    let behind := rest.dropWhile isDigit
    if behind.length = rest.length then .error (.lookingAt rest .invalidNumber)
    else
      match behind with
      | b :: tail => if isPowerMark b then skipPower tail else .ok behind
      | [] => .ok behind
  | b :: rest => if isPowerMark b then skipPower rest else .ok (b :: rest)
  | [] => .ok []

/-- The end of a number. -/
def skipNumber (text : List UInt8) : Except Failure (List UInt8) :=
  let digits :=
    match text with
    | 45 :: rest => rest
    | _ => text
  match digits with
  | [] => .error (.lookingAt [] .invalidNumber)
  | b :: rest =>
    if b = 48 then
      match rest with
      | c :: _ => if isDigit c then .error (.lookingAt rest .invalidNumber) else skipTail rest
      | [] => skipTail rest
    else if isDigit b then skipTail (rest.dropWhile isDigit)
    else .error (.lookingAt digits .invalidNumber)

end NavStream.Json
