import NavStream.Datum.Basic
import NavStream.Decimal.Layout
import NavStream.Text.Quoted

/-!
# Data as text for people

Records are shown with their names and the names of their fields, on one line.

* `Datum.display` — the text of a datum;
* `displayStyle` — how numbers are shown.
-/

namespace NavStream

/-- Numbers are shown plain from a ten-thousandth up to ten to the power of 16, and a tie between
two shortest decimals goes up. -/
def displayStyle : Decimal.Style := ⟨-4, 15, false, .up, "NaN", "inf"⟩

namespace Datum

mutual

/-- The text of a datum. -/
def display : Datum → String
  | float64 x => displayStyle.float x
  | float32 x => displayStyle.float32 x
  | integer n => toString n
  | text s => Text.quote s
  | missing => "None"
  | present value => "Some(" ++ value.display ++ ")"
  | list items => "[" ++ ", ".intercalate (displayItems items) ++ "]"
  | record name fields =>
    name ++ " \x7b " ++ ", ".intercalate (displayFields fields) ++ " \x7d"
  | variant name none => name
  | variant name (some payload) => name ++ "(" ++ payload.display ++ ")"
  | tagged name payload => name ++ "(" ++ payload.display ++ ")"

/-- The texts of several data. -/
def displayItems : List Datum → List String
  | [] => []
  | item :: rest => item.display :: displayItems rest

/-- The texts of the fields of a record. -/
def displayFields : List (String × Datum) → List String
  | [] => []
  | (name, value) :: rest => (name ++ ": " ++ value.display) :: displayFields rest

end

end Datum

end NavStream
