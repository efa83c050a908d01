import NavStream.Proofs.Json.Floating
import NavStream.Proofs.Json.Tree

/-!
# Data are written as trees

The text of a datum without spaces is the text of a tree. Floating-point numbers that are not finite
become nothing in it, as if they were missing.

* `Datum.floats`, `Datum.masked` — the floating-point numbers of a datum, and the datum without
  those that are not finite;
* `Value.ofDatum` — the tree of a datum;
* `utf8_compact` — the text of a datum is that of its tree.
-/

namespace NavStream

open NavStream.Json (Floating)

/-! ## Floating-point numbers -/

namespace Datum

/-- A floating-point number as a datum. -/
def ofFloating : Floating → Datum
  | .double x => float64 x
  | .single x => float32 x

mutual

/-- The floating-point numbers of a datum. -/
def floats : Datum → List Floating
  | float64 x => [.double x]
  | float32 x => [.single x]
  | present value => value.floats
  | list items => floatsOfItems items
  | record _ fields => floatsOfFields fields
  | variant _ (some payload) => payload.floats
  | tagged _ payload => payload.floats
  | _ => []

/-- The floating-point numbers of several data. -/
def floatsOfItems : List Datum → List Floating
  | [] => []
  | item :: items => item.floats ++ floatsOfItems items

/-- The floating-point numbers of the fields of a record. -/
def floatsOfFields : List (String × Datum) → List Floating
  | [] => []
  | (_, value) :: fields => value.floats ++ floatsOfFields fields

end

mutual

/-- A datum without the floating-point numbers that are not finite. -/
def masked : Datum → Datum
  | float64 x => if x.isFinite then float64 x else missing
  | float32 x => if x.isFinite then float32 x else missing
  | present value => present value.masked
  | list items => list (maskedItems items)
  | record name fields => record name (maskedFields fields)
  | variant name (some payload) => variant name (some payload.masked)
  | tagged name payload => tagged name payload.masked
  | datum => datum

/-- Several data without the floating-point numbers that are not finite. -/
def maskedItems : List Datum → List Datum
  | [] => []
  | item :: items => item.masked :: maskedItems items

/-- Fields of a record without the floating-point numbers that are not finite. -/
def maskedFields : List (String × Datum) → List (String × Datum)
  | [] => []
  | (name, value) :: fields => (name, value.masked) :: maskedFields fields

end

mutual

/-- Just the finite numbers are left. -/
theorem floats_masked : ∀ d : Datum, d.masked.floats = d.floats.filter (·.isFinite)
  | float64 x => by cases hx : x.isFinite <;> simp [masked, floats, hx, Floating.isFinite]
  | float32 x => by cases hx : x.isFinite <;> simp [masked, floats, hx, Floating.isFinite]
  | integer _ | text _ | missing | variant _ none => rfl
  | present value => floats_masked value
  | list items => floatsOfItems_masked items
  | record _ fields => floatsOfFields_masked fields
  | variant _ (some payload) => floats_masked payload
  | tagged _ payload => floats_masked payload

theorem floatsOfItems_masked : ∀ items : List Datum,
    floatsOfItems (maskedItems items) = (floatsOfItems items).filter (·.isFinite)
  | [] => rfl
  | item :: items => by
    rw [maskedItems, floatsOfItems, floatsOfItems, List.filter_append, floats_masked item,
      floatsOfItems_masked items]

theorem floatsOfFields_masked : ∀ fields : List (String × Datum),
    floatsOfFields (maskedFields fields) = (floatsOfFields fields).filter (·.isFinite)
  | [] => rfl
  | (_, value) :: fields => by
    rw [maskedFields, floatsOfFields, floatsOfFields, List.filter_append, floats_masked value,
      floatsOfFields_masked fields]

end

end Datum

namespace Json

open NavStream.Datum

mutual

/-- Numbers that are not finite are written as if they were missing. -/
theorem compact_masked : ∀ d : Datum, compact d.masked = compact d
  | .float64 x => by cases hx : x.isFinite <;> simp [masked, compact, hx, float64]
  | .float32 x => by cases hx : x.isFinite <;> simp [masked, compact, hx, float32]
  | .integer _ | .text _ | .missing | .variant _ none => rfl
  | .present value => compact_masked value
  | .list items => by rw [masked, compact, compact, compactItems_masked items]
  | .record _ fields => by rw [masked, compact, compact, compactFields_masked fields]
  | .variant _ (some payload) => by rw [masked, compact, compact, compact_masked payload]
  | .tagged _ payload => by rw [masked, compact, compact, compact_masked payload]

theorem compactItems_masked : ∀ items : List Datum,
    compactItems (maskedItems items) = compactItems items
  | [] => rfl
  | item :: items => by
    rw [maskedItems, compactItems, compactItems, compact_masked item, compactItems_masked items]

theorem compactFields_masked : ∀ fields : List (String × Datum),
    compactFields (maskedFields fields) = compactFields fields
  | [] => rfl
  | (_, value) :: fields => by
    rw [maskedFields, compactFields, compactFields, compact_masked value,
      compactFields_masked fields]

end

/-! ## Trees of data -/

namespace Value

/-- A floating-point number, or nothing where it is not finite. -/
def ofFloating (x : Floating) : Value :=
  if h : x.isFinite = true then
    .number ⟨utf8 x.text.toList, let ⟨l, hl, _⟩ := Floating.exists_literal h; ⟨l, hl⟩⟩
  else .null

/-- A whole number. -/
def ofInt (n : Int) : Value := .number ⟨(Literal.ofInt n).bytes, _, rfl⟩

mutual

/-- The tree of a datum. -/
def ofDatum : Datum → Value
  | .float64 x => ofFloating (.double x)
  | .float32 x => ofFloating (.single x)
  | .integer n => ofInt n
  | .text s => .string s
  | .missing => .null
  | .present value => ofDatum value
  | .list items => .array (ofItems items)
  | .record _ fields => .object (ofFields fields)
  | .variant name none => .string name
  | .variant name (some payload) => .object [(name, ofDatum payload)]
  | .tagged name payload => .object [("type", .string name), ("data", ofDatum payload)]

/-- The trees of several data. -/
def ofItems : List Datum → List Value
  | [] => []
  | item :: items => ofDatum item :: ofItems items

/-- The trees of the fields of a record. -/
def ofFields : List (String × Datum) → List (String × Value)
  | [] => []
  | (name, value) :: fields => (name, ofDatum value) :: ofFields fields

end

end Value

/-! ## Texts of data -/

open Value (ofDatum ofItems ofFields itemsBehind membersBehind)

theorem utf8_null : utf8 "null".toList = [110, 117, 108, 108] := by decide

/-- A floating-point number is written as its tree. -/
theorem utf8_floating (x : Floating) (rest : List UInt8) :
    utf8 x.text.toList ++ rest = (Value.ofFloating x).before rest := by
  cases hx : x.isFinite with
  | true => simp [Value.ofFloating, hx, Value.before]
  | false =>
    rw [Floating.text_of_not_isFinite hx, utf8_null]
    simp [Value.ofFloating, hx, Value.before]

/-- A member of an object is written as its name and its value. -/
theorem utf8_member (name value : String) (rest : List UInt8) :
    utf8 (member name value).toList ++ rest =
      quotedBefore name (58 :: (utf8 value.toList ++ rest)) := by
  have hcolon : utf8 ":".toList = [58] := by decide
  rw [member, String.toList_append, String.toList_append, utf8_append, utf8_append, utf8_string,
    hcolon, quotedBefore]
  simp

/-- Items are written between their brackets. -/
theorem utf8_array (items : List String) (rest : List UInt8) :
    utf8 (array items).toList ++ rest =
      91 :: (utf8 (",".intercalate items).toList ++ 93 :: rest) := by
  have hopen : utf8 "[".toList = [91] := by decide
  have hclose : utf8 "]".toList = [93] := by decide
  rw [array, String.toList_append, String.toList_append, utf8_append, utf8_append, hopen, hclose]
  simp

/-- Members are written between their brackets. -/
theorem utf8_object (members : List String) (rest : List UInt8) :
    utf8 (object members).toList ++ rest =
      123 :: (utf8 (",".intercalate members).toList ++ 125 :: rest) := by
  have hopen : utf8 "\x7b".toList = [123] := by decide
  have hclose : utf8 "\x7d".toList = [125] := by decide
  rw [object, String.toList_append, String.toList_append, utf8_append, utf8_append, hopen, hclose]
  simp

/-- Parts are written with commas between them. -/
theorem utf8_intercalate (part next : String) (parts : List String) (rest : List UInt8) :
    utf8 (",".intercalate (part :: next :: parts)).toList ++ rest =
      utf8 part.toList ++ 44 :: (utf8 (",".intercalate (next :: parts)).toList ++ rest) := by
  have hcomma : utf8 ",".toList = [44] := by decide
  rw [String.intercalate_cons_cons, String.toList_append, String.toList_append, utf8_append,
    utf8_append, hcomma]
  simp

mutual

/-- The text of a datum is that of its tree. -/
theorem utf8_compact : ∀ (d : Datum) (rest : List UInt8),
    utf8 (compact d).toList ++ rest = (ofDatum d).before rest
  | .float64 x, rest => utf8_floating (.double x) rest
  | .float32 x, rest => utf8_floating (.single x) rest
  | .integer n, rest => by rw [compact, Literal.utf8_toString, ofDatum, Value.ofInt, Value.before]
  | .text s, rest => by rw [compact, utf8_string]; rfl
  | .missing, rest => by rw [compact, utf8_null]; rfl
  | .present value, rest => by rw [compact, ofDatum, utf8_compact value rest]
  | .list items, rest => by rw [compact, utf8_array, utf8_compactItems items rest, ofDatum]
  | .record _ fields, rest => by rw [compact, utf8_object, utf8_compactFields fields rest, ofDatum]
  | .variant name none, rest => by rw [compact, utf8_string]; rfl
  | .variant name (some payload), rest => by
    rw [compact, utf8_object, String.intercalate_singleton, utf8_member,
      utf8_compact payload (125 :: rest)]
    rfl
  | .tagged name payload, rest => by
    rw [compact, utf8_object, utf8_intercalate, String.intercalate_singleton, utf8_member,
      utf8_member, utf8_string, utf8_compact payload (125 :: rest)]
    rfl

/-- The texts of several data are those of their trees. -/
theorem utf8_compactItems : ∀ (items : List Datum) (rest : List UInt8),
    91 :: (utf8 (",".intercalate (compactItems items)).toList ++ 93 :: rest) =
      (Value.array (ofItems items)).before rest
  | [], rest => by rw [compactItems, String.intercalate_nil]; rfl
  | [item], rest => by
    rw [compactItems, compactItems, String.intercalate_singleton, utf8_compact item (93 :: rest)]
    rfl
  | item :: next :: items, rest => by
    have hitems := List.tail_eq_of_cons_eq (utf8_compactItems (next :: items) rest)
    rw [compactItems] at hitems
    rw [compactItems, compactItems, utf8_intercalate, hitems, utf8_compact item]
    rfl

/-- The texts of fields are those of their trees. -/
theorem utf8_compactFields : ∀ (fields : List (String × Datum)) (rest : List UInt8),
    123 :: (utf8 (",".intercalate (compactFields fields)).toList ++ 125 :: rest) =
      (Value.object (ofFields fields)).before rest
  | [], rest => by rw [compactFields, String.intercalate_nil]; rfl
  | [(name, value)], rest => by
    rw [compactFields, compactFields, String.intercalate_singleton, utf8_member,
      utf8_compact value (125 :: rest)]
    rfl
  | (name, value) :: (other, next) :: fields, rest => by
    have hfields := List.tail_eq_of_cons_eq (utf8_compactFields ((other, next) :: fields) rest)
    rw [compactFields] at hfields
    rw [compactFields, compactFields, utf8_intercalate, hfields, utf8_member, utf8_compact value]
    rfl

end

/-- The bytes of the text of a datum are those of its tree. -/
theorem toUTF8_compact (d : Datum) : (compact d).toUTF8.toList = (ofDatum d).before [] := by
  rw [toList_toUTF8, ← utf8_compact, List.append_nil]

end Json

end NavStream
