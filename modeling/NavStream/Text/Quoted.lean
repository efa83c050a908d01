import NavStream.Text.Printable

/-!
# Quoted text

Text that a diagnostic repeats is put between double quotes, and what could be mistaken for its end
or could not be seen is written as an escape.

* `escape` — the escape of a character, itself where it needs none;
* `quote` — text between double quotes.
-/

namespace NavStream.Text

/-- The hexadecimal digits of a number, in lower case and without leading zeros. -/
def hexDigits (n : Nat) : String := String.ofList (Nat.toDigits 16 n)

/-- A character by its code point. -/
def escapeCode (c : Char) : String := "\\u\x7b" ++ hexDigits c.toNat ++ "\x7d"

/-- How a character stands between double quotes. -/
def escape (c : Char) : String :=
  if c = '\x00' then "\\0"
  else if c = '\t' then "\\t"
  else if c = '\r' then "\\r"
  else if c = '\n' then "\\n"
  else if c = '"' then "\\\""
  else if c = '\\' then "\\\\"
  else if isCombining c || !isPrintable c then escapeCode c
  else c.toString

/-- Text between double quotes. -/
def quote (text : String) : String :=
  "\"" ++ String.join (text.toList.map escape) ++ "\""

end NavStream.Text
