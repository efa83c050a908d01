import NavStream.Datum.Shape

/-!
# Codecs between types and data

A `Codec` turns the values of a type into data of one shape and back, and nothing is lost on the
way. Codecs of records are put together field by field.

* `Codec` — the two directions with their law;
* `Codec.word32`, `Codec.text`, … — codecs of plain values;
* `Codec.ofNames`, `Codec.ofCodes` — codecs of enumerations;
* `Fields` — the fields of a record as far as they are put together.
-/

namespace NavStream

/-- The way of a type into data and back. -/
structure Codec (α : Type) where
  /-- The shape of the data. -/
  shape : Shape
  /-- The datum of a value. -/
  toDatum : α → Datum
  /-- The value of a datum, if it is one of this type. -/
  ofDatum? : Datum → Option α
  /-- A value comes back from its datum. -/
  ofDatum?_toDatum : ∀ value, ofDatum? (toDatum value) = some value
  /-- Every datum is of the shape. -/
  fits : ∀ value, (toDatum value).fits shape = true

namespace Codec

variable {α β : Type}

/-- Numbers of double precision. -/
def float64 : Codec Float where
  shape := .float64
  toDatum := .float64
  ofDatum?
    | .float64 x => some x
    | _ => none
  ofDatum?_toDatum _ := rfl
  fits _ := by simp [Datum.fits]

/-- Numbers of single precision. -/
def float32 : Codec Float32 where
  shape := .float32
  toDatum := .float32
  ofDatum?
    | .float32 x => some x
    | _ => none
  ofDatum?_toDatum _ := rfl
  fits _ := by simp [Datum.fits]

/-- Text. -/
def text : Codec String where
  shape := .text
  toDatum := .text
  ofDatum?
    | .text s => some s
    | _ => none
  ofDatum?_toDatum _ := rfl
  fits _ := by simp [Datum.fits]

/-- Bytes. -/
def word8 : Codec UInt8 where
  shape := .integer .word8
  toDatum n := .integer n.toNat
  ofDatum?
    | .integer n => some (UInt8.ofNat n.toNat)
    | _ => none
  ofDatum?_toDatum n := by simp
  fits n := by
    have := n.toNat_lt
    simp only [Datum.fits, IntegerRange.contains_eq_true_iff, IntegerRange.lowest,
      IntegerRange.bound]
    omega

/-- Numbers of four bytes. -/
def word32 : Codec UInt32 where
  shape := .integer .word32
  toDatum n := .integer n.toNat
  ofDatum?
    | .integer n => some (UInt32.ofNat n.toNat)
    | _ => none
  ofDatum?_toDatum n := by simp
  fits n := by
    have := n.toNat_lt
    simp only [Datum.fits, IntegerRange.contains_eq_true_iff, IntegerRange.lowest,
      IntegerRange.bound]
    omega

/-- Numbers of four bytes with a sign. -/
def int32 : Codec Int32 where
  shape := .integer .int32
  toDatum n := .integer n.toInt
  ofDatum?
    | .integer n => some (Int32.ofInt n)
    | _ => none
  ofDatum?_toDatum n := by simp
  fits n := by
    have := n.toInt_lt
    have := n.le_toInt
    simp only [Datum.fits, IntegerRange.contains_eq_true_iff, IntegerRange.lowest,
      IntegerRange.bound]
    omega

/-- Sizes in memory. -/
def size : Codec UInt64 where
  shape := .integer .size
  toDatum n := .integer n.toNat
  ofDatum?
    | .integer n => some (UInt64.ofNat n.toNat)
    | _ => none
  ofDatum?_toDatum n := by simp
  fits n := by
    have := n.toNat_lt
    simp only [Datum.fits, IntegerRange.contains_eq_true_iff, IntegerRange.lowest,
      IntegerRange.bound]
    omega

/-- Values come back from their data one by one. -/
theorem mapM_toDatum (item : Codec α) (values : List α) :
    (values.map item.toDatum).mapM item.ofDatum? = some values := by
  induction values with
  | nil => rfl
  | cons value rest ih => simp [item.ofDatum?_toDatum, ih]

/-- The data of values are all of one shape. -/
theorem fitAll_toDatum (item : Codec α) (values : List α) :
    Datum.fitAll (values.map item.toDatum) item.shape = true := by
  rw [Datum.fitAll_eq_true_iff]
  intro datum hd
  obtain ⟨value, _, rfl⟩ := List.mem_map.1 hd
  exact item.fits value

/-- Lists. -/
def list (item : Codec α) : Codec (List α) where
  shape := .list item.shape
  toDatum values := .list (values.map item.toDatum)
  ofDatum?
    | .list items => items.mapM item.ofDatum?
    | _ => none
  ofDatum?_toDatum := item.mapM_toDatum
  fits values := by
    simp only [Datum.fits]
    exact item.fitAll_toDatum values

/-- Lists of a fixed length. -/
def vector (length : Nat) (item : Codec α) : Codec (Vector α length) where
  shape := .array length item.shape
  toDatum values := .list (values.toList.map item.toDatum)
  ofDatum?
    | .list items => (items.mapM item.ofDatum?).bind fun values =>
      if h : values.length = length then some ⟨values.toArray, by simpa using h⟩ else none
    | _ => none
  ofDatum?_toDatum values := by
    obtain ⟨values, rfl⟩ := values
    simp [item.mapM_toDatum]
  fits values := by
    simp only [Datum.fits, Bool.and_eq_true]
    exact ⟨by simp, item.fitAll_toDatum values.toList⟩

/-- Enumerations whose alternatives are told apart by their names. -/
def ofNames (all : List α) (name : α → String)
    (found : ∀ value, all.find? (fun other => name other == name value) = some value) :
    Codec α where
  shape := .enumeration (all.map fun value => (name value, none))
  toDatum value := .variant (name value) none
  ofDatum?
    | .variant chosen none => all.find? fun value => name value == chosen
    | _ => none
  ofDatum?_toDatum value := found value
  fits value := by
    have known : ∀ (values : List α),
        values.find? (fun other => name other == name value) = some value →
        (values.map fun value => (name value, (none : Option Shape))).lookup (name value) =
          some none := by
      intro values h
      induction values with
      | nil => cases h
      | cons first rest ih =>
        rw [List.map_cons, List.lookup_cons]
        by_cases heq : name value = name first
        · simp [heq]
        · have hne : (name first == name value) = false := by
            simpa using fun h' => heq h'.symm
          have hne' : (name value == name first) = false := by simpa using heq
          rw [List.find?_cons, hne] at h
          rw [hne']
          exact ih h
    simp [Datum.fits, known all (found value)]

/-- The name of an alternative that keeps a number which stands for nothing known. -/
def unknownName : String := "Unrecognized"

/-- Enumerations of known alternatives, told apart by their names, and one more that keeps a number
of its own. -/
def ofCodes (known : List α) (name : α → String) (number : Codec β) (unknown : β → α)
    (number? : α → Option β)
    (found : ∀ value, number? value = none →
      known.find? (fun other => name other == name value) = some value)
    (kept : ∀ value n, number? value = some n → unknown n = value)
    (apart : known.all (fun value => name value != unknownName)) : Codec α where
  shape :=
    .enumeration ((known.map fun value => (name value, none)) ++ [(unknownName, some number.shape)])
  toDatum value :=
    match number? value with
    | some n => .variant unknownName (some (number.toDatum n))
    | none => .variant (name value) none
  ofDatum?
    | .variant chosen none => known.find? fun value => name value == chosen
    | .variant _ (some payload) => (number.ofDatum? payload).map unknown
    | _ => none
  ofDatum?_toDatum value := by
    cases h : number? value with
    | none => exact found value h
    | some n => simp [number.ofDatum?_toDatum, kept value n h]
  fits value := by
    cases h : number? value with
    | none =>
      have look : ∀ (values : List α) (others : List (String × Option Shape)),
          values.find? (fun other => name other == name value) = some value →
          ((values.map fun value => (name value, (none : Option Shape))) ++ others).lookup
            (name value) = some none := by
        intro values others h
        induction values with
        | nil => cases h
        | cons first rest ih =>
          rw [List.map_cons, List.cons_append, List.lookup_cons]
          by_cases heq : name value = name first
          · simp [heq]
          · have hne : (name first == name value) = false := by
              simpa using fun h' => heq h'.symm
            have hne' : (name value == name first) = false := by simpa using heq
            rw [List.find?_cons, hne] at h
            rw [hne']
            exact ih h
      simp [Datum.fits, look known _ (found value h)]
    | some n =>
      have look : ∀ (values : List α), values.all (fun value => name value != unknownName) = true →
          ((values.map fun value => (name value, (none : Option Shape))) ++
            [(unknownName, some number.shape)]).lookup unknownName = some (some number.shape) := by
        intro values h
        induction values with
        | nil => simp
        | cons first rest ih =>
          simp only [List.all_cons, Bool.and_eq_true, bne_iff_ne, ne_eq] at h
          rw [List.map_cons, List.cons_append, List.lookup_cons]
          have hne : (unknownName == name first) = false := by simpa using Ne.symm h.1
          rw [hne]
          exact ih (by simpa using h.2)
      simp [Datum.fits, look known apart, number.fits]

end Codec

/-- The fields of a record `σ` that were put together so far, with `α` what they are handed to. -/
structure Fields (σ α : Type) where
  /-- The names, presences and shapes, in order. -/
  shapes : List (String × Presence × Shape)
  /-- The fields of a record as data. -/
  toData : σ → List (String × Datum)
  /-- Hands the data of the fields on and leaves what follows them. -/
  ofData? : List (String × Datum) → Option (α × List (String × Datum))
  /-- Hands the fields of a record on. -/
  build : σ → α
  /-- The fields come back from their data. -/
  ofData?_toData : ∀ record rest, ofData? (toData record ++ rest) = some (build record, rest)
  /-- The data are of the shapes. -/
  fits : ∀ record, Datum.fitFields (toData record) shapes = true

namespace Fields

variable {σ α β : Type}

/-- No fields yet. -/
def start (make : α) : Fields σ α where
  shapes := []
  toData _ := []
  ofData? data := some (make, data)
  build _ := make
  ofData?_toData _ _ := rfl
  fits _ := by simp [Datum.fitFields]

/-- One more field. -/
def field (fields : Fields σ (β → α)) (name : String) (codec : Codec β) (get : σ → β) :
    Fields σ α where
  shapes := fields.shapes ++ [(name, .required, codec.shape)]
  toData record := fields.toData record ++ [(name, codec.toDatum (get record))]
  ofData? data :=
    match fields.ofData? data with
    | some (make, (_, value) :: rest) =>
      (codec.ofDatum? value).map fun value => (make value, rest)
    | _ => none
  build record := fields.build record (get record)
  ofData?_toData record rest := by
    simp [List.append_assoc, fields.ofData?_toData, codec.ofDatum?_toDatum]
  fits record :=
    Datum.fitFields_append (fields.fits record)
      (by simp [Datum.fitFields, Datum.fitsField, codec.fits])

/-- One more field, which may be left out. -/
def nullable (fields : Fields σ (Option β → α)) (name : String) (codec : Codec β)
    (get : σ → Option β) : Fields σ α where
  shapes := fields.shapes ++ [(name, .nullable, codec.shape)]
  toData record :=
    fields.toData record ++
      [(name, match get record with
        | none => .missing
        | some value => .present (codec.toDatum value))]
  ofData? data :=
    match fields.ofData? data with
    | some (make, (_, .missing) :: rest) => some (make none, rest)
    | some (make, (_, .present value) :: rest) =>
      (codec.ofDatum? value).map fun value => (make (some value), rest)
    | _ => none
  build record := fields.build record (get record)
  ofData?_toData record rest := by
    rw [List.append_assoc, fields.ofData?_toData]
    cases get record <;> simp [codec.ofDatum?_toDatum]
  fits record :=
    Datum.fitFields_append (fields.fits record)
      (by cases get record <;> simp [Datum.fitFields, Datum.fitsField, codec.fits])

/-- One more field, which has a value of its own where it is left out. -/
def optional (fields : Fields σ (β → α)) (name : String) (codec : Codec β) (fallback : β)
    (get : σ → β) : Fields σ α where
  shapes := fields.shapes ++ [(name, .optional (codec.toDatum fallback), codec.shape)]
  toData record := fields.toData record ++ [(name, codec.toDatum (get record))]
  ofData? data :=
    match fields.ofData? data with
    | some (make, (_, value) :: rest) =>
      (codec.ofDatum? value).map fun value => (make value, rest)
    | _ => none
  build record := fields.build record (get record)
  ofData?_toData record rest := by
    simp [List.append_assoc, fields.ofData?_toData, codec.ofDatum?_toDatum]
  fits record :=
    Datum.fitFields_append (fields.fits record)
      (by simp [Datum.fitFields, Datum.fitsField, codec.fits])

/-- The record of fields that were all put together. -/
def record (fields : Fields σ σ) (name : String) (whole : ∀ record, fields.build record = record) :
    Codec σ where
  shape := .record name fields.shapes
  toDatum value := .record name (fields.toData value)
  ofDatum?
    | .record _ data => (fields.ofData? data).map (·.1)
    | _ => none
  ofDatum?_toDatum value := by
    have h := fields.ofData?_toData value []
    rw [List.append_nil] at h
    simp [h, whole]
  fits value := by
    simp only [Datum.fits, Bool.and_eq_true]
    exact ⟨by simp, fields.fits value⟩

end Fields

end NavStream
