/-!
# Self-describing values

Texts of messages are written and read through one type of values that carry their names along. A
message becomes a `Datum` once, and every text is a function on data.
-/

namespace NavStream

/-- A value that carries the names of its records and variants along. -/
inductive Datum where
  /-- A number of double precision. -/
  | float64 (x : Float)
  /-- A number of single precision. -/
  | float32 (x : Float32)
  /-- A whole number. -/
  | integer (n : Int)
  /-- Text. -/
  | text (s : String)
  /-- A value that may be missing, and is. -/
  | missing
  /-- A value that may be missing, and is not. -/
  | present (value : Datum)
  /-- Values in order. -/
  | list (items : List Datum)
  /-- A record with its fields in order. -/
  | record (name : String) (fields : List (String × Datum))
  /-- One of the alternatives of an enumeration, some of which have a value. -/
  | variant (name : String) (payload : Option Datum)
  /-- One of several records, told apart by a name beside it. -/
  | tagged (name : String) (payload : Datum)

end NavStream
