import NavStream.Datum.Basic

/-!
# Shapes of data

A `Shape` describes the data of one type, so that a text can be read into a datum of that shape.

* `Shape` — the descriptions;
* `Datum.fits` — whether a datum is of a shape.
-/

namespace NavStream

/-- The ranges of whole numbers. -/
inductive IntegerRange where
  | word8 | word32 | int32 | size
deriving DecidableEq, Repr

namespace IntegerRange

/-- The name by which a range is known. -/
def name : IntegerRange → String
  | word8 => "u8"
  | word32 => "u32"
  | int32 => "i32"
  | size => "usize"

/-- The smallest number of a range. -/
def lowest : IntegerRange → Int
  | int32 => -0x80000000
  | _ => 0

/-- The number that follows the largest one of a range. -/
def bound : IntegerRange → Int
  | word8 => 0x100
  | word32 => 0x100000000
  | int32 => 0x80000000
  | size => 0x10000000000000000

/-- Whether a number lies in a range. -/
def contains (range : IntegerRange) (n : Int) : Bool := range.lowest ≤ n && n < range.bound

/-- A number is in a range exactly when it lies between the bounds. -/
theorem contains_eq_true_iff {range : IntegerRange} {n : Int} :
    range.contains n = true ↔ range.lowest ≤ n ∧ n < range.bound := by
  simp [contains]

end IntegerRange

/-- Whether a field of a record may be left out. -/
inductive Presence where
  /-- It may not. -/
  | required
  /-- It is missing then. -/
  | nullable
  /-- It has a value of its own then. -/
  | optional (fallback : Datum)

/-- The description of a kind of data. -/
inductive Shape where
  /-- Numbers of double precision. -/
  | float64
  /-- Numbers of single precision. -/
  | float32
  /-- Whole numbers. -/
  | integer (range : IntegerRange)
  /-- Numbers of a byte that stand for one of several things each; `subject` names these. -/
  | coded (subject : String) (codes : List Nat)
  /-- Text. -/
  | text
  /-- Any number of items. -/
  | list (item : Shape)
  /-- A fixed number of items. -/
  | array (length : Nat) (item : Shape)
  /-- Records. -/
  | record (name : String) (fields : List (String × Presence × Shape))
  /-- Enumerations, with the shape of the value of those alternatives that have one. -/
  | enumeration (variants : List (String × Option Shape))
  /-- Records of several kinds, told apart by a name beside them. -/
  | tagged (name : String) (variants : List (String × Shape))

namespace Datum

mutual

/-- Whether a datum is of a shape. -/
def fits : Datum → Shape → Bool
  | float64 _, .float64 => true
  | float32 _, .float32 => true
  | integer n, .integer range => range.contains n
  | integer n, .coded _ codes => 0 ≤ n && codes.contains n.toNat
  | text _, .text => true
  | list items, .list item => fitAll items item
  | list items, .array length item => items.length == length && fitAll items item
  | record name fields, .record expected shapes => name == expected && fitFields fields shapes
  | variant name none, .enumeration variants =>
    match variants.lookup name with
    | some none => true
    | _ => false
  | variant name (some payload), .enumeration variants =>
    match variants.lookup name with
    | some (some shape) => payload.fits shape
    | _ => false
  | tagged name payload, .tagged _ variants =>
    match variants.lookup name with
    | some shape => payload.fits shape
    | none => false
  | _, _ => false

/-- Whether all items are of one shape. -/
def fitAll : List Datum → Shape → Bool
  | [], _ => true
  | item :: rest, shape => item.fits shape && fitAll rest shape

/-- Whether a value stands where a field of some presence and shape is expected. -/
def fitsField : Datum → Presence → Shape → Bool
  | missing, .nullable, _ => true
  | present value, .nullable, shape => value.fits shape
  | _, .nullable, _ => false
  | value, _, shape => value.fits shape

/-- Whether fields are those of a record, in order. -/
def fitFields : List (String × Datum) → List (String × Presence × Shape) → Bool
  | [], [] => true
  | (name, value) :: rest, (expected, presence, shape) :: others =>
    name == expected && fitsField value presence shape && fitFields rest others
  | _, _ => false

end

/-- Fields that are put behind each other fit where the shapes do. -/
theorem fitFields_append {xs ys : List (String × Datum)}
    {shapes others : List (String × Presence × Shape)} (hx : fitFields xs shapes = true)
    (hy : fitFields ys others = true) : fitFields (xs ++ ys) (shapes ++ others) = true := by
  induction xs generalizing shapes with
  | nil =>
    cases shapes with
    | nil => exact hy
    | cons s shapes => simp [fitFields] at hx
  | cons x xs ih =>
    cases shapes with
    | nil => simp [fitFields] at hx
    | cons s shapes =>
      obtain ⟨name, value⟩ := x
      obtain ⟨expected, presence, shape⟩ := s
      simp only [List.cons_append, fitFields, Bool.and_eq_true] at hx ⊢
      exact ⟨hx.1, ih hx.2⟩

/-- Items are all of a shape exactly when each of them is. -/
theorem fitAll_eq_true_iff {items : List Datum} {shape : Shape} :
    fitAll items shape = true ↔ ∀ item ∈ items, item.fits shape = true := by
  induction items with
  | nil => simp [fitAll]
  | cons item rest ih => simp [fitAll, ih]

end Datum

end NavStream
