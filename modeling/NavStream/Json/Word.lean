import NavStream.Json.Failure

/-!
# White space and words

White space may stand around every value. Three words stand for values of their own.

* `skipBlanks` — what follows white space;
* `Word`, `readLetters` — the words and how they are read.
-/

namespace NavStream.Json

/-- Whether a byte is white space. -/
def isBlank (b : UInt8) : Bool := b == 32 || b == 10 || b == 9 || b == 13

/-- What follows white space. -/
def skipBlanks (text : List UInt8) : List UInt8 := text.dropWhile isBlank

/-- The words that stand for a value. -/
inductive Word where
  | null | true | false
deriving DecidableEq, Repr

namespace Word

/-- Every word. -/
def all : List Word := [null, true, false]

/-- The bytes of a word. -/
def bytes : Word → List UInt8
  | null => [110, 117, 108, 108]
  | true => [116, 114, 117, 101]
  | false => [102, 97, 108, 115, 101]

/-- The word that begins with a byte. -/
def startingWith? (b : UInt8) : Option Word := all.find? (·.bytes.head? == some b)

/-- What a word is called where something else is expected. -/
def found : Word → Found
  | null => .null
  | true => .boolean Bool.true
  | false => .boolean Bool.false

end Word

/-- What follows the letters of a word. -/
def readLetters : (letters text : List UInt8) → Except Failure (List UInt8)
  | [], text => .ok text
  | _ :: _, [] => .error (.lookingAt [] .endOfValue)
  | letter :: letters, b :: text =>
    if b = letter then readLetters letters text else .error (.before text .expectedWord)

end NavStream.Json
