import NavStream.Json.Writer

/-!
# What can be wrong with a text

A text may not be JSON at all, may end too early, or may be JSON that does not describe what is
asked for. A `Cause` names what is wrong, and a `Failure` tells how far the text was read when it
showed.

* `Defect`, `Complaint`, `Cause` — the causes and their texts;
* `Category` — the three kinds of causes;
* `Failure` — a cause and its place;
* `Location` — line and column of a place.
-/

namespace NavStream.Json

/-- What is wrong with the form of a text. -/
inductive Defect where
  | endOfArray | endOfObject | endOfString | endOfValue
  | expectedColon | expectedArrayComma | expectedObjectComma
  /-- A word is not one of the three that there are. -/
  | expectedWord
  | expectedValue
  | invalidEscape | invalidNumber | numberOutOfRange
  /-- The bytes of a string are not valid UTF-8. -/
  | invalidCodePoint
  | controlCharacter
  | keyNotString
  /-- The second half of a surrogate pair stands where none is expected, or the other way round. -/
  | loneSurrogate
  | trailingComma | trailingCharacters
  /-- The first half of a surrogate pair is not followed by an escape. -/
  | unfinishedPair
  | tooDeep
deriving DecidableEq, Repr

/-- The kinds of causes. -/
inductive Category where
  /-- The text is not JSON. -/
  | form
  /-- The text is JSON and does not describe what is asked for. -/
  | content
  /-- The text ends too early. -/
  | ending
deriving DecidableEq, Repr

namespace Defect

/-- The text of a defect. -/
def message : Defect → String
  | endOfArray => "EOF while parsing a list"
  | endOfObject => "EOF while parsing an object"
  | endOfString => "EOF while parsing a string"
  | endOfValue => "EOF while parsing a value"
  | expectedColon => "expected \x60:\x60"
  | expectedArrayComma => "expected \x60,\x60 or \x60]\x60"
  | expectedObjectComma => "expected \x60,\x60 or \x60\x7d\x60"
  | expectedWord => "expected ident"
  | expectedValue => "expected value"
  | invalidEscape => "invalid escape"
  | invalidNumber => "invalid number"
  | numberOutOfRange => "number out of range"
  | invalidCodePoint => "invalid unicode code point"
  | controlCharacter => "control character (\\u0000-\\u001F) found while parsing a string"
  | keyNotString => "key must be a string"
  | loneSurrogate => "lone leading surrogate in hex escape"
  | trailingComma => "trailing comma"
  | trailingCharacters => "trailing characters"
  | unfinishedPair => "unexpected end of hex escape"
  | tooDeep => "recursion limit exceeded"

/-- The kind of a defect. -/
def category : Defect → Category
  | endOfArray | endOfObject | endOfString | endOfValue => .ending
  | _ => .form

end Defect

/-- What stands where something else is expected. -/
inductive Found where
  | null
  | boolean (b : Bool)
  | integer (n : Int)
  | float (x : Float)
  | string (s : String)
  | sequence
  | map
  /-- The name of an alternative without a value. -/
  | bareVariant

namespace Found

/-- How it is described. -/
def text : Found → String
  | null => "null"
  | boolean true => "boolean \x60true\x60"
  | boolean false => "boolean \x60false\x60"
  | integer n => "integer \x60" ++ toString n ++ "\x60"
  | float x => "floating point \x60" ++ style64.float x ++ "\x60"
  | string s => "string " ++ Text.quote s
  | sequence => "sequence"
  | map => "map"
  | bareVariant => "unit variant"

end Found

/-- Why a text that is JSON does not describe what is asked for. -/
inductive Complaint where
  | invalidType (found : Found) (expected : String)
  | invalidValue (found : Found) (expected : String)
  | invalidLength (length : Nat) (expected : String)
  | unknownVariant (name : String) (known : List String)
  | missingField (name : String)
  | duplicateField (name : String)
  /-- A number that stands for nothing. -/
  | unsupported (subject : String) (code : Nat)

/-- A name between grave accents. -/
def accented (name : String) : String := "\x60" ++ name ++ "\x60"

/-- The names of which one is expected. -/
def oneOf : List String → String
  | [] => "there are no variants"
  | [only] => "expected " ++ accented only
  | [first, second] => "expected " ++ accented first ++ " or " ++ accented second
  | names => "expected one of " ++ ", ".intercalate (names.map accented)

namespace Complaint

/-- The text of a complaint. -/
def message : Complaint → String
  | invalidType found expected => "invalid type: " ++ found.text ++ ", expected " ++ expected
  | invalidValue found expected => "invalid value: " ++ found.text ++ ", expected " ++ expected
  | invalidLength length expected =>
    "invalid length " ++ toString length ++ ", expected " ++ expected
  | unknownVariant name known => "unknown variant " ++ accented name ++ ", " ++ oneOf known
  | missingField name => "missing field " ++ accented name
  | duplicateField name => "duplicate field " ++ accented name
  | unsupported subject code => "unsupported " ++ subject ++ " " ++ toString code

end Complaint

/-- What is wrong with a text. -/
inductive Cause where
  | defect (defect : Defect)
  | complaint (complaint : Complaint)

namespace Cause

/-- The text of a cause. -/
def message : Cause → String
  | defect d => d.message
  | complaint c => c.message

/-- The kind of a cause. -/
def category : Cause → Category
  | defect d => d.category
  | complaint _ => .content

end Cause

/-- How far a text was read. -/
inductive Place where
  /-- Until so many bytes remained. -/
  | settled (unread : Nat)
  /-- Until these bytes remained. What encloses the value at fault is still to be closed, which
  reads on. -/
  | pending (rest : List UInt8)

/-- Something wrong with a text. -/
structure Failure where
  /-- What is wrong. -/
  cause : Cause
  /-- Where it showed. -/
  place : Place

namespace Failure

/-- How many bytes remain once the first of `rest` was looked at. -/
def looked (rest : List UInt8) : Nat := rest.length - 1

/-- A defect that shows at the first byte of `rest`, or at the end of the text. -/
def lookingAt (rest : List UInt8) (defect : Defect) : Failure :=
  ⟨.defect defect, .settled (looked rest)⟩

/-- A defect that shows while `rest` is not looked at yet. -/
def before (rest : List UInt8) (defect : Defect) : Failure :=
  ⟨.defect defect, .settled rest.length⟩

/-- The number of bytes that remain, where `close` tells it for a pending place. -/
def settle (close : List UInt8 → Nat) (failure : Failure) : Failure :=
  match failure.place with
  | .settled _ => failure
  | .pending rest => { failure with place := .settled (close rest) }

/-- The number of bytes that remain. -/
def unread (failure : Failure) : Nat :=
  match failure.place with
  | .settled unread => unread
  | .pending rest => rest.length

end Failure

/-- A place as line and column, both counted from one; the column is zero at the start of a line. -/
structure Location where
  line : Nat
  column : Nat
deriving DecidableEq, Repr

/-- The place behind some bytes. -/
def Location.after (bytes : List UInt8) : Location where
  line := bytes.count 10 + 1
  column := (bytes.reverse.takeWhile (· != 10)).length

/-- An error: what is wrong with a text, and where. -/
structure Error where
  /-- What is wrong. -/
  cause : Cause
  /-- Where. -/
  location : Location

namespace Error

/-- The error of a failure in a text. -/
def ofFailure (text : List UInt8) (failure : Failure) : Error :=
  ⟨failure.cause, .after (text.take (text.length - failure.unread))⟩

/-- The text of an error with its place. -/
def message (error : Error) : String :=
  error.cause.message ++ " at line " ++ toString error.location.line ++ " column " ++
    toString error.location.column

end Error

end NavStream.Json
