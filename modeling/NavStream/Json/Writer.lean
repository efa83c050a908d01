import NavStream.Datum.Basic
import NavStream.Decimal.Layout
import NavStream.Text.Quoted

/-!
# Writing data as JSON

Records become objects, enumerations become strings or objects of one member, and a missing value or
a number that is not finite becomes null.

* `compact` — without any space;
* `pretty` — one member or item a line, two spaces a level.
-/

namespace NavStream.Json

/-- Numbers of double precision are plain from a hundred-thousandth up to ten to the power of 16. -/
def style64 : Decimal.Style := ⟨-5, 15, true, .even, "null", "null"⟩

/-- Numbers of single precision are plain from a millionth up to ten to the power of 13. -/
def style32 : Decimal.Style := ⟨-6, 12, true, .even, "null", "null"⟩

/-- A number of double precision. -/
def float64 (x : Float) : String := if x.isFinite then style64.float x else "null"

/-- A number of single precision. -/
def float32 (x : Float32) : String := if x.isFinite then style32.float32 x else "null"

/-- How a character stands in a string. -/
def escape (c : Char) : String :=
  if c = '"' then "\\\""
  else if c = '\\' then "\\\\"
  else if c = '\x08' then "\\b"
  else if c = '\t' then "\\t"
  else if c = '\n' then "\\n"
  else if c = '\x0c' then "\\f"
  else if c = '\r' then "\\r"
  else if c.toNat < 16 then "\\u000" ++ Text.hexDigits c.toNat
  else if c.toNat < 32 then "\\u00" ++ Text.hexDigits c.toNat
  else c.toString

/-- A string. -/
def string (s : String) : String := "\"" ++ String.join (s.toList.map escape) ++ "\""

/-- A member of an object without spaces. -/
def member (name value : String) : String := string name ++ ":" ++ value

/-- An object without spaces. -/
def object (members : List String) : String := "\x7b" ++ ",".intercalate members ++ "\x7d"

/-- An array without spaces. -/
def array (items : List String) : String := "[" ++ ",".intercalate items ++ "]"

mutual

/-- A datum without spaces. -/
def compact : Datum → String
  | .float64 x => float64 x
  | .float32 x => float32 x
  | .integer n => toString n
  | .text s => string s
  | .missing => "null"
  | .present value => compact value
  | .list items => array (compactItems items)
  | .record _ fields => object (compactFields fields)
  | .variant name none => string name
  | .variant name (some payload) => object [member name (compact payload)]
  | .tagged name payload =>
    object [member "type" (string name), member "data" (compact payload)]

/-- Several data without spaces. -/
def compactItems : List Datum → List String
  | [] => []
  | item :: rest => compact item :: compactItems rest

/-- The fields of a record without spaces. -/
def compactFields : List (String × Datum) → List String
  | [] => []
  | (name, value) :: rest => member name (compact value) :: compactFields rest

end

/-- The start of a line at some depth. -/
def newline (depth : Nat) : String := "\n" ++ String.ofList (List.replicate (2 * depth) ' ')

/-- Parts between brackets, one a line, where the brackets stand at some depth. -/
def block (opening closing : String) (depth : Nat) (parts : List String) : String :=
  if parts.isEmpty then opening ++ closing
  else
    let start := newline (depth + 1)
    opening ++ start ++ ("," ++ start).intercalate parts ++ newline depth ++ closing

/-- A member of an object, the value set off. -/
def prettyMember (name value : String) : String := string name ++ ": " ++ value

/-- An object, one member a line. -/
def prettyObject (depth : Nat) (members : List String) : String := block "\x7b" "\x7d" depth members

mutual

/-- A datum over several lines, of which the first stands at some depth. -/
def prettyAt (depth : Nat) : Datum → String
  | .float64 x => float64 x
  | .float32 x => float32 x
  | .integer n => toString n
  | .text s => string s
  | .missing => "null"
  | .present value => prettyAt depth value
  | .list items => block "[" "]" depth (prettyItems (depth + 1) items)
  | .record _ fields => prettyObject depth (prettyFields (depth + 1) fields)
  | .variant name none => string name
  | .variant name (some payload) =>
    prettyObject depth [prettyMember name (prettyAt (depth + 1) payload)]
  | .tagged name payload =>
    prettyObject depth
      [prettyMember "type" (string name), prettyMember "data" (prettyAt (depth + 1) payload)]

/-- Several data at some depth. -/
def prettyItems (depth : Nat) : List Datum → List String
  | [] => []
  | item :: rest => prettyAt depth item :: prettyItems depth rest

/-- The fields of a record at some depth. -/
def prettyFields (depth : Nat) : List (String × Datum) → List String
  | [] => []
  | (name, value) :: rest => prettyMember name (prettyAt depth value) :: prettyFields depth rest

end

/-- A datum over several lines. -/
def pretty (datum : Datum) : String := prettyAt 0 datum

end NavStream.Json
