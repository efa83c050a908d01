import NavStream.Checksum.Xor
import NavStream.Json.Failure
import NavStream.Text.Utf8

/-!
# Strings in a text

A string stands between quotes, with escapes for what cannot stand for itself. A string that is only
skipped need not spell valid text.

* `readString` — the value of a string;
* `skipString` — its end.
-/

namespace NavStream.Json

open NavStream.Checksum

/-- The byte that an escape of one letter stands for. -/
def escaped? (letter : UInt8) : Option UInt8 :=
  if letter = 34 then some 34
  else if letter = 92 then some 92
  else if letter = 47 then some 47
  else if letter = 98 then some 8
  else if letter = 102 then some 12
  else if letter = 110 then some 10
  else if letter = 114 then some 13
  else if letter = 116 then some 9
  else none

/-- The number that four hexadecimal digits spell. -/
def hexUnit? (a b c d : UInt8) : Option Nat := do
  let high ← hexByte? a b
  let low ← hexByte? c d
  return high.toNat * 256 + low.toNat

/-- The number that the four digits of an escape spell, with what follows them. -/
def readUnit : List UInt8 → Except Failure (Nat × List UInt8)
  | a :: b :: c :: d :: rest =>
    match hexUnit? a b c d with
    | some unit => .ok (unit, rest)
    | none => .error (.before rest .invalidEscape)
  | _ => .error (.lookingAt [] .endOfString)

/-- The end of a string, behind its opening quote. -/
def skipString : List UInt8 → Except Failure (List UInt8)
  | [] => .error (.lookingAt [] .endOfString)
  | 34 :: rest => .ok rest
  | [92] => .error (.lookingAt [] .endOfString)
  | 92 :: 117 :: a :: b :: c :: d :: rest =>
    if (hexUnit? a b c d).isSome then skipString rest else .error (.before rest .invalidEscape)
  | 92 :: letter :: rest =>
    if letter = 117 then .error (.lookingAt [] .endOfString)
    else if (escaped? letter).isSome then skipString rest
    else .error (.before rest .invalidEscape)
  | b :: rest =>
    if b < 32 then .error (.before rest .controlCharacter) else skipString rest

/-- Whether a number is the first half of a surrogate pair. -/
def isLeading (unit : Nat) : Bool := 0xD800 ≤ unit && unit < 0xDC00

/-- Whether a number is the second half of a surrogate pair. -/
def isTrailing (unit : Nat) : Bool := 0xDC00 ≤ unit && unit < 0xE000

/-- The code point of a surrogate pair. -/
def pairPoint (leading trailing : Nat) : Nat :=
  (leading - 0xD800) * 0x400 + (trailing - 0xDC00) + 0x10000

/-- The bytes of a code point. -/
def pointBytes (point : Nat) : List UInt8 := String.utf8EncodeChar (Char.ofNat point)

/-- The second half of a surrogate pair. -/
def readTrailing : List UInt8 → Except Failure (Nat × List UInt8)
  | [] => .error (.lookingAt [] .endOfString)
  | [92] => .error (.lookingAt [] .endOfString)
  | 92 :: 117 :: text => do
    let (unit, rest) ← readUnit text
    if isTrailing unit then return (unit, rest) else throw (.before rest .loneSurrogate)
  | 92 :: _ :: rest => .error (.before rest .unfinishedPair)
  | _ :: rest => .error (.before rest .unfinishedPair)

/-- The code point of an escape, behind its mark. -/
def readPoint (text : List UInt8) : Except Failure (Nat × List UInt8) := do
  let (unit, rest) ← readUnit text
  if isTrailing unit then throw (.before rest .loneSurrogate)
  else if isLeading unit then
    let (trailing, rest) ← readTrailing rest
    return (pairPoint unit trailing, rest)
  else return (unit, rest)

/-- The bytes of a string, behind its opening quote. At most `fuel` characters are read. -/
def readStringBytes : (fuel : Nat) → List UInt8 → Except Failure (List UInt8 × List UInt8)
  | 0, _ => .error (.lookingAt [] .endOfString)
  | _ + 1, [] => .error (.lookingAt [] .endOfString)
  | fuel + 1, b :: rest =>
    if b = 34 then .ok ([], rest)
    else if b = 92 then
      match rest with
      | [] => .error (.lookingAt [] .endOfString)
      | letter :: tail =>
        if letter = 117 then do
          let (point, tail) ← readPoint tail
          let (bytes, tail) ← readStringBytes fuel tail
          return (pointBytes point ++ bytes, tail)
        else
          match escaped? letter with
          | some byte => do
            let (bytes, tail) ← readStringBytes fuel tail
            return (byte :: bytes, tail)
          | none => .error (.before tail .invalidEscape)
    else if b < 32 then .error (.before rest .controlCharacter)
    else do
      let (bytes, tail) ← readStringBytes fuel rest
      return (b :: bytes, tail)

/-- A string, behind its opening quote. One that does not spell valid text is at fault as many bytes
in front of its end as its value has behind the part that is valid. -/
def readString (text : List UInt8) : Except Failure (String × List UInt8) := do
  let (bytes, rest) ← readStringBytes (text.length + 1) text
  match Text.decode? bytes with
  | some s => return (s, rest)
  | none =>
    let invalid := bytes.length - Text.validLength bytes
    throw ⟨.defect .invalidCodePoint, .settled (rest.length + invalid)⟩

end NavStream.Json
