import NavStream.Json.Writer

/-!
# Data with the types of their JSON values

A report that shows a value from inside names the JSON type of each of its parts.

* `typed` — a datum with the types of its values.
-/

namespace NavStream.Json

/-- A value of a type. -/
def typedValue (type value : String) : String := type ++ "(" ++ value ++ ")"

/-- A string. -/
def typedString (s : String) : String := typedValue "String" (Text.quote s)

/-- A number, or nothing where it is not finite. -/
def typedNumber (finite : Bool) (digits : String) : String :=
  if finite then typedValue "Number" digits else "Null"

/-- A member of an object. -/
def typedMember (name value : String) : String := Text.quote name ++ ": " ++ value

/-- An object. -/
def typedObject (members : List String) : String :=
  "Object \x7b" ++ ", ".intercalate members ++ "\x7d"

mutual

/-- A datum with the types of its values. -/
def typed : Datum → String
  | .float64 x => typedNumber x.isFinite (float64 x)
  | .float32 x => typedNumber x.isFinite (float32 x)
  | .integer n => typedNumber true (toString n)
  | .text s => typedString s
  | .missing => "Null"
  | .present value => typed value
  | .list items => "Array [" ++ ", ".intercalate (typedItems items) ++ "]"
  | .record _ fields => typedObject (typedFields fields)
  | .variant name none => typedString name
  | .variant name (some payload) => typedObject [typedMember name (typed payload)]
  | .tagged name payload =>
    typedObject [typedMember "type" (typedString name), typedMember "data" (typed payload)]

/-- Several data with the types of their values. -/
def typedItems : List Datum → List String
  | [] => []
  | item :: rest => typed item :: typedItems rest

/-- The fields of a record with the types of their values. -/
def typedFields : List (String × Datum) → List String
  | [] => []
  | (name, value) :: rest => typedMember name (typed value) :: typedFields rest

end

end NavStream.Json
