import NavStream.Decimal.Shortest

/-!
# Writing a decimal

A decimal is written positionally while its leading digit stands near the point, and otherwise as
a digit, a fraction and a power of ten. Where the one form ends and the other begins, and how the
power is marked, is a `Style`.
-/

namespace NavStream.Decimal

/-- The choices that one family of texts makes for its numbers. -/
structure Style where
  /-- The smallest exponent of the leading digit that is written positionally. -/
  plainFrom : Int
  /-- The largest one. -/
  plainTo : Int
  /-- Whether a positive power of ten carries a plus sign. -/
  signedPower : Bool
  /-- Which of two equally near decimals is taken. -/
  tie : Tie
  /-- What stands for a value that is no number. -/
  nan : String
  /-- What stands for positive infinity. -/
  infinity : String

namespace Style

/-- The digits of a decimal, positionally, where `lead` is the exponent of the first one. At least
one digit follows the point. -/
def positional (digits : List Char) (lead : Int) : List Char :=
  if lead < 0 then '0' :: '.' :: List.replicate (-lead - 1).toNat '0' ++ digits
  else
    let whole := lead.toNat + 1
    if digits.length ≤ whole then
      digits ++ List.replicate (whole - digits.length) '0' ++ ['.', '0']
    else digits.take whole ++ '.' :: digits.drop whole

/-- The digits of a decimal behind the power of ten of the first one. -/
def scientific (style : Style) (digits : List Char) (lead : Int) : List Char :=
  let mark := if style.signedPower && 0 ≤ lead then ['e', '+'] else ['e']
  let fraction := if digits.length ≤ 1 then digits else digits.take 1 ++ '.' :: digits.drop 1
  fraction ++ mark ++ (toString lead).toList

/-- A positive decimal. -/
def unsigned (style : Style) (d : Numeral) : List Char :=
  let digits := Nat.toDigits 10 d.digits
  let lead := d.exponent + digits.length - 1
  if style.plainFrom ≤ lead && lead ≤ style.plainTo then positional digits lead
  else style.scientific digits lead

/-- The text of a number of either precision. -/
def render (style : Style) (format : Format) : Parts → String
  | .nan => style.nan
  | .infinite negative => (if negative then "-" else "") ++ style.infinity
  | .finite negative significand exponent narrowBelow =>
    let magnitude :=
      if significand = 0 then ['0', '.', '0']
      else style.unsigned (shortest format style.tie significand exponent narrowBelow)
    String.ofList (if negative then '-' :: magnitude else magnitude)

/-- The text of a number of double precision. -/
def float (style : Style) (x : Float) : String := style.render binary64 (partsOf x)

/-- The text of a number of single precision. -/
def float32 (style : Style) (x : Float32) : String := style.render binary32 (partsOf32 x)

end Style

end NavStream.Decimal
