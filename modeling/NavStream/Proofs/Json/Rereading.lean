import NavStream.Json.Reader
import NavStream.Proofs.Json.Writing
import Mathlib.Data.List.Nodup

/-!
# Data that are written are read again

A datum of a shape is written as a tree, and the nodes of the tree are read by the shape. Reading
stops at the first floating-point number that is not finite, because nothing stands in its place;
where all are finite it gives a datum, which is the same one if all numbers are restored.

* `Shape.regular` — what a shape must satisfy so that its texts can be told apart;
* `Reread` — what reading gives;
* `reread_field` — reading a tree of a datum by the shape of the datum.
-/

namespace NavStream

/-! ## Regular shapes -/

namespace Shape

/-- Whether a shape is of floating-point numbers. -/
def isFloat : Shape → Bool
  | float64 | float32 => true
  | _ => false

mutual

/-- Whether no two fields of a record share a name, no number that may be missing is of floating
point, and all codes are bytes. -/
def regular : Shape → Bool
  | coded _ codes => codes.all (· < 256)
  | list item => item.regular
  | array _ item => item.regular
  | record _ fields => decide (fields.map (·.1)).Nodup && regularFields fields
  | enumeration variants => regularVariants variants
  | tagged _ kinds => regularKinds kinds
  | _ => true

/-- Whether the shapes of fields are regular. -/
def regularFields : List (String × Presence × Shape) → Bool
  | [] => true
  | (_, .nullable, shape) :: fields => !shape.isFloat && shape.regular && regularFields fields
  | (_, _, shape) :: fields => shape.regular && regularFields fields

/-- Whether the shapes of the values of alternatives are regular. -/
def regularVariants : List (String × Option Shape) → Bool
  | [] => true
  | (_, none) :: variants => regularVariants variants
  | (_, some shape) :: variants => shape.regular && regularVariants variants

/-- Whether the shapes of kinds are regular. -/
def regularKinds : List (String × Shape) → Bool
  | [] => true
  | (_, shape) :: kinds => shape.regular && regularKinds kinds

end

/-- What the first of some fields must satisfy. -/
theorem regularFields_cons {name : String} {presence : Presence} {shape : Shape}
    {fields : List (String × Presence × Shape)}
    (h : regularFields ((name, presence, shape) :: fields) = true) :
    (presence = .nullable → shape.isFloat = false) ∧ shape.regular = true ∧
      regularFields fields = true := by
  cases presence <;> simp_all [regularFields]

/-- The value of a regular alternative is regular. -/
theorem regular_of_lookup_variants {variants : List (String × Option Shape)} {name : String}
    {shape : Shape} (regular : regularVariants variants = true)
    (h : variants.lookup name = some (some shape)) : shape.regular = true := by
  induction variants with
  | nil => cases h
  | cons variant variants ih =>
    obtain ⟨other, _ | payload⟩ := variant
    · simp only [regularVariants] at regular
      rw [List.lookup_cons] at h
      split at h
      · cases h
      · exact ih regular h
    · simp only [regularVariants, Bool.and_eq_true] at regular
      rw [List.lookup_cons] at h
      split at h
      · cases h
        exact regular.1
      · exact ih regular.2 h

/-- A regular kind is regular. -/
theorem regular_of_lookup_kinds {kinds : List (String × Shape)} {name : String} {shape : Shape}
    (regular : regularKinds kinds = true) (h : kinds.lookup name = some shape) :
    shape.regular = true := by
  induction kinds with
  | nil => cases h
  | cons kind kinds ih =>
    simp only [regularKinds, Bool.and_eq_true] at regular
    rw [List.lookup_cons] at h
    split at h
    · cases h
      exact regular.1
    · exact ih regular.2 h

end Shape

namespace Json

/-! ## What reading gives -/

/-- The result of reading a text in which `value` was written with some floating-point numbers. -/
inductive Reread {α : Type} (floats : List Floating) (value : α) : Except Failure α → Prop where
  /-- All numbers are finite. What is read is the same if they are all restored. -/
  | ok (a : α) (finite : ∀ x ∈ floats, x.isFinite = true)
      (same : (∀ x ∈ floats, x.Restored) → a = value) : Reread floats value (.ok a)
  /-- Some number is not finite, and the text does not describe what is asked for. -/
  | error (failure : Failure) (undefined : ∃ x ∈ floats, x.isFinite = false)
      (content : failure.cause.category = .content) : Reread floats value (.error failure)

namespace Reread

variable {α β : Type} {floats others : List Floating} {value : α} {result : Except Failure α}

/-- What holds no number is read as it is. -/
theorem pure (value : α) : Reread [] value (.ok value) :=
  .ok value (by simp) fun _ => rfl

/-- Two values are read one after the other. -/
theorem bind {f : α → β} {next : α → Except Failure β} (h : Reread floats value result)
    (hnext : ∀ a, result = .ok a → Reread others (f a) (next a)) :
    Reread (floats ++ others) (f value) (result >>= next) := by
  cases h with
  | ok a finite same =>
    rw [ok_bind]
    have ha := hnext a rfl
    generalize next a = second at ha
    cases ha with
    | ok b finite' same' =>
      refine .ok b ?_ ?_
      · simp only [List.mem_append]
        rintro x (hx | hx)
        exacts [finite x hx, finite' x hx]
      · intro restored
        rw [List.forall_mem_append] at restored
        rw [same' restored.2, same restored.1]
    | error failure undefined content =>
      obtain ⟨x, hx, hundefined⟩ := undefined
      exact .error failure ⟨x, List.mem_append_right _ hx, hundefined⟩ content
  | error failure undefined content =>
    obtain ⟨x, hx, hundefined⟩ := undefined
    exact .error failure ⟨x, List.mem_append_left _ hx, hundefined⟩ content

/-- What follows the numbers cannot fail. -/
theorem bind_ok (f : α → β) {next : α → Except Failure β} (h : Reread floats value result)
    (hnext : ∀ a, result = .ok a → next a = .ok (f a)) :
    Reread floats (f value) (result >>= next) := by
  have hbind : Reread (floats ++ []) (f value) (result >>= next) :=
    h.bind fun a ha => hnext a ha ▸ pure (f a)
  rwa [List.append_nil] at hbind

theorem map (f : α → β) (h : Reread floats value result) :
    Reread floats (f value) (result.map f) := by
  cases h with
  | ok a finite same => exact .ok (f a) finite fun restored => by rw [same restored]
  | error failure undefined content => exact .error failure undefined content

/-- Closing what encloses a value does not change what is wrong with it. -/
theorem settle (close : List UInt8 → Nat) (h : Reread floats value result) :
    Reread floats value (result.mapError (·.settle close)) := by
  cases h with
  | ok a finite same => exact .ok a finite same
  | error failure undefined content =>
    refine .error (failure.settle close) undefined ?_
    unfold Failure.settle
    split <;> exact content

end Reread

/-! ## Single values -/

section Single

variable {rest : List UInt8}

/-- A finite number is read, and is the same if it is restored. -/
theorem readNumber_floating {x : Floating} (finite : x.isFinite = true) (h : Delimited rest) :
    ∃ n, readNumber (utf8 x.text.toList ++ rest) = .ok (n, rest) ∧
      (x.Restored → x.ofNumber n = x) := by
  obtain ⟨l, hbytes, hcountable, hnumber⟩ := Floating.exists_literal finite
  obtain ⟨n, hn⟩ := Option.isSome_iff_exists.mp hnumber
  refine ⟨n, hbytes ▸ l.readNumber_bytes hcountable hn h, ?_⟩
  rintro ⟨m, hm, hsame⟩
  have hread := l.readNumber_bytes hcountable hn .nil
  rw [List.append_nil, hbytes] at hread
  rw [toList_toUTF8, hread] at hm
  cases hm
  exact hsame

/-- A number of a shape is read into a datum of the shape, and nothing is read as no number. -/
theorem reread_floating (x : Floating) {shape : Shape} (float : shape.isFloat = true)
    (reading : ∀ start, readNumberAs start shape =
      (readNumber start).map fun (n, _) => .ofFloating (x.ofNumber n)) (h : Delimited rest) :
    Reread [x] (.ofFloating x) (read .direct ((Value.ofFloating x).node rest) shape) := by
  have hnumber : ∀ start, read .direct (.number start) shape = readNumberAs start shape := by
    intro start
    cases shape <;> first | rfl | cases float
  cases hx : x.isFinite with
  | true =>
    obtain ⟨n, hread, hsame⟩ := readNumber_floating hx h
    have hresult : read .direct ((Value.ofFloating x).node rest) shape =
        .ok (.ofFloating (x.ofNumber n)) := by
      simp only [Value.ofFloating, hx, dite_true, Value.node]
      rw [hnumber, reading, hread]
      rfl
    rw [hresult]
    refine .ok _ (by simpa using hx) fun restored => ?_
    rw [hsame (restored x (List.mem_singleton_self x))]
  | false =>
    have hresult : read .direct ((Value.ofFloating x).node rest) shape =
        .error ((Node.word .null (Value.null.before rest)).misfit .direct shape) := by
      simp [Value.ofFloating, hx, Value.node, read]
    rw [hresult]
    refine .error _ ⟨x, List.mem_singleton_self x, hx⟩ ?_
    cases shape <;> first | rfl | cases float

/-- A number of double precision is read. -/
theorem reread_double (x : Float) {shape : Shape} (fits : (Datum.float64 x).fits shape = true)
    (h : Delimited rest) : Reread [.double x] (.float64 x)
      (read .direct ((Value.ofFloating (.double x)).node rest) shape) := by
  cases shape with
  | float64 =>
    refine reread_floating (.double x) rfl (fun start => ?_) h
    rw [readNumberAs]
    cases readNumber start <;> rfl
  | _ => simp [Datum.fits] at fits

/-- A number of single precision is read. -/
theorem reread_single (x : Float32) {shape : Shape} (fits : (Datum.float32 x).fits shape = true)
    (h : Delimited rest) : Reread [.single x] (.float32 x)
      (read .direct ((Value.ofFloating (.single x)).node rest) shape) := by
  cases shape with
  | float32 =>
    refine reread_floating (.single x) rfl (fun start => ?_) h
    rw [readNumberAs]
    cases readNumber start <;> rfl
  | _ => simp [Datum.fits] at fits

/-- Every range of whole numbers has 64 bits. -/
theorem bounds_of_contains {range : IntegerRange} {n : Int} (h : range.contains n = true) :
    -0x8000000000000000 ≤ n ∧ n < 0x10000000000000000 := by
  rw [IntegerRange.contains_eq_true_iff] at h
  cases range <;> simp only [IntegerRange.lowest, IntegerRange.bound] at h <;> omega

/-- A whole number of 64 bits is read. -/
theorem readNumber_ofInt {n : Int} (bounds : -0x8000000000000000 ≤ n ∧ n < 0x10000000000000000)
    (h : Delimited rest) :
    readNumber ((Literal.ofInt n).bytes ++ rest) = .ok (.integer n, rest) :=
  (Literal.ofInt n).readNumber_bytes (Literal.countable_ofInt bounds.1 bounds.2)
    (Literal.number?_ofInt bounds.1) h

/-- A whole number is read. -/
theorem reread_integer {n : Int} {shape : Shape} (fits : (Datum.integer n).fits shape = true)
    (regular : shape.regular = true) (h : Delimited rest) :
    Reread [] (.integer n) (read .direct ((Value.ofInt n).node rest) shape) := by
  cases shape with
  | integer range =>
    rw [Datum.fits] at fits
    have hread := readNumber_ofInt (bounds_of_contains fits) h
    have hresult : read .direct ((Value.ofInt n).node rest) (.integer range) =
        .ok (.integer n) := by
      simp [Value.ofInt, Value.node, read, readNumberAs, hread, Number.within, fits]
    rw [hresult]
    exact .pure _
  | coded subject codes =>
    rw [Datum.fits, Bool.and_eq_true, decide_eq_true_eq] at fits
    rw [Shape.regular, List.all_eq_true] at regular
    have hsmall := regular n.toNat (by simpa using fits.2)
    have hcontains : IntegerRange.word8.contains n = true := by
      rw [decide_eq_true_eq] at hsmall
      simp only [IntegerRange.contains_eq_true_iff, IntegerRange.lowest, IntegerRange.bound]
      omega
    have hread := readNumber_ofInt (bounds_of_contains hcontains) h
    have hresult : read .direct ((Value.ofInt n).node rest) (.coded subject codes) =
        .ok (.integer n) := by
      simp [Value.ofInt, Value.node, read, readNumberAs, hread, Number.within, hcontains]
      rw [if_pos (by simpa using fits.2)]
      rfl
    rw [hresult]
    exact .pure _
  | _ => simp [Datum.fits] at fits

/-- Text is read. -/
theorem reread_text (s : String) {shape : Shape} (fits : (Datum.text s).fits shape = true) :
    Reread [] (.text s) (read .direct ((Value.string s).node rest) shape) := by
  cases shape with
  | text =>
    have hresult : read .direct ((Value.string s).node rest) .text = .ok (.text s) := by
      simp [Value.node, read, Except.map]
    rw [hresult]
    exact .pure _
  | _ => simp [Datum.fits] at fits

/-- The name of an alternative is read. -/
theorem readVariantName_quoted {name : String} {variants : List (String × Option Shape)}
    (known : variants.lookup name = some none) :
    readVariantName (quoted name ++ rest) variants = .ok (.variant name none) := by
  simp [readVariantName, known]
  rfl

end Single

/-! ## Fields -/

section Fields

variable {α : Type}

/-- What has another name than all entries is not found. -/
theorem lookup_eq_none {entries : List (String × α)} {name : String}
    (h : name ∉ entries.map (·.1)) : entries.lookup name = none := by
  rw [List.lookup_eq_none_iff]
  intro entry hentry
  rw [bne_iff_ne]
  rintro rfl
  exact h (List.mem_map_of_mem hentry)

/-- What stands behind other names is found by its own. -/
theorem lookup_append_cons {front back : List (String × α)} {name : String} {value : α}
    (h : name ∉ front.map (·.1)) : (front ++ (name, value) :: back).lookup name = some value := by
  rw [List.lookup_append, lookup_eq_none h, Option.none_or, List.lookup_cons_self]

/-- A record of which every field was met is complete. -/
theorem completeFields_append (rest : List UInt8) {shapes : List (String × Presence × Shape)}
    (front back : List (String × Datum)) (names : back.map (·.1) = shapes.map (·.1))
    (distinct : ((front ++ back).map (·.1)).Nodup) :
    completeFields rest (front ++ back) shapes = .ok back := by
  induction shapes generalizing front back with
  | nil =>
    rw [List.map_nil, List.map_eq_nil_iff] at names
    rw [names]
    rfl
  | cons field shapes ih =>
    obtain ⟨name, presence, shape⟩ := field
    obtain _ | ⟨⟨found, value⟩, back⟩ := back
    · cases names
    rw [List.map_cons, List.map_cons, List.cons.injEq] at names
    obtain ⟨rfl, names⟩ := names
    have hfront : found ∉ front.map (·.1) := by
      rw [List.map_append, List.map_cons, List.nodup_middle, List.nodup_cons] at distinct
      exact fun h => distinct.1 (List.mem_append_left _ h)
    have hrest := ih (front ++ [(found, value)]) back names (by simpa using distinct)
    rw [List.append_assoc, List.singleton_append] at hrest
    simp only [completeFields, lookup_append_cons hfront, hrest]
    rfl

/-- Nothing stands only where a value is missing or a number is not finite. -/
theorem node_ofDatum_ne_null {d : Datum} {shape : Shape} (fits : d.fits shape = true)
    (float : shape.isFloat = false) (rest start : List UInt8) :
    (Value.ofDatum d).node rest ≠ .word .null start := by
  cases d with
  | float64 x => cases shape <;> simp_all [Datum.fits, Shape.isFloat]
  | float32 x => cases shape <;> simp_all [Datum.fits, Shape.isFloat]
  | missing => cases shape <;> simp [Datum.fits] at fits
  | present value => cases shape <;> simp [Datum.fits] at fits
  | integer n => rintro ⟨⟩
  | text s => rintro ⟨⟩
  | list items => rintro ⟨⟩
  | record name fields => rintro ⟨⟩
  | variant name payload => cases payload <;> rintro ⟨⟩
  | tagged name payload => rintro ⟨⟩

/-- What is neither missing nor known to be there is read as itself. -/
theorem reread_plain {d : Datum} {presence : Presence} {shape : Shape} {node : Node}
    {result : Except Failure Datum} (fits : Datum.fitsField d presence shape = true)
    (missing : d ≠ .missing) (present : ∀ value, d ≠ .present value)
    (reading : d.fits shape = true → Reread d.floats d result) :
    Reread d.floats d (fieldValue presence node result) := by
  cases presence with
  | required => exact reading (by simpa [Datum.fitsField] using fits)
  | optional fallback => exact reading (by simpa [Datum.fitsField] using fits)
  | nullable =>
    cases d with
    | missing => exact absurd rfl missing
    | present value => exact absurd rfl (present value)
    | _ => simp [Datum.fitsField] at fits

/-- A value that is missing is read as nothing. -/
theorem reread_missing {presence : Presence} {shape : Shape} {rest : List UInt8}
    (fits : Datum.fitsField .missing presence shape = true) (result : Except Failure Datum) :
    Reread [] .missing (fieldValue presence (Value.null.node rest) result) := by
  cases presence with
  | nullable => exact .pure _
  | _ => cases shape <;> simp [Datum.fitsField, Datum.fits] at fits

/-- A value that may be missing, and is not, is read. -/
theorem reread_present {value : Datum} {presence : Presence} {shape : Shape} {rest : List UInt8}
    (fits : Datum.fitsField (.present value) presence shape = true)
    (float : presence = .nullable → shape.isFloat = false)
    (reading : value.fits shape = true →
      Reread value.floats value (read .direct ((Value.ofDatum value).node rest) shape)) :
    Reread value.floats (.present value)
      (fieldValue presence ((Value.ofDatum value).node rest)
        (read .direct ((Value.ofDatum value).node rest) shape)) := by
  have hnullable : presence = .nullable := by
    cases presence with
    | nullable => rfl
    | _ => cases shape <;> simp [Datum.fitsField, Datum.fits] at fits
  subst hnullable
  have hfits : value.fits shape = true := by simpa [Datum.fitsField] using fits
  have hfield : ∀ node : Node, (∀ start, node ≠ .word .null start) → ∀ result,
      fieldValue .nullable node result = result.map .present := by
    intro node hne result
    unfold fieldValue
    split
    · exact absurd rfl (hne _)
    · rfl
    · contradiction
  rw [hfield _ (node_ofDatum_ne_null hfits (float rfl) rest)]
  exact (reading hfits).map Datum.present

end Fields

/-! ## Arrays -/

section Arrays

variable {floats : List Floating} {items : List Datum} {start rest : List UInt8}
  {nodes : List Node}

/-- A list or an array is read as its items. -/
theorem reread_array {shape : Shape} (fits : (Datum.list items).fits shape = true)
    (regular : shape.regular = true)
    (reading : ∀ item : Shape, Datum.fitAll items item = true → item.regular = true →
      Reread floats items (readItems .direct nodes item))
    (exactly : ∀ (item : Shape) (expected : String), Datum.fitAll items item = true →
      item.regular = true → Reread floats items (readElements .direct expected (.closed rest)
        nodes 0 (List.replicate items.length (.required, item)))) :
    Reread floats (.list items) (read .direct (.array start nodes (.closed rest)) shape) := by
  cases shape with
  | list item =>
    rw [Datum.fits] at fits
    rw [Shape.regular] at regular
    rw [read]
    exact ((reading item fits regular).bind_ok Datum.list fun _ _ => rfl).settle closeArray
  | array length item =>
    rw [Datum.fits, Bool.and_eq_true, beq_iff_eq] at fits
    obtain ⟨rfl, hitems⟩ := fits
    rw [Shape.regular] at regular
    rw [read]
    exact ((exactly item _ hitems regular).bind_ok Datum.list fun _ _ => rfl).settle closeArray
  | _ => simp [Datum.fits] at fits

end Arrays

/-! ## Objects -/

section Objects

variable {floats : List Floating} {start rest : List UInt8}

/-- The names of the fields of a record are those of its shape. -/
theorem names_of_fitFields {fields : List (String × Datum)}
    {shapes : List (String × Presence × Shape)} (fits : Datum.fitFields fields shapes = true) :
    fields.map (·.1) = shapes.map (·.1) := by
  induction fields generalizing shapes with
  | nil =>
    cases shapes with
    | nil => rfl
    | cons shape shapes => simp [Datum.fitFields] at fits
  | cons field fields ih =>
    cases shapes with
    | nil => simp [Datum.fitFields] at fits
    | cons shape shapes =>
      obtain ⟨name, value⟩ := field
      obtain ⟨expected, presence, shape⟩ := shape
      simp only [Datum.fitFields, Bool.and_eq_true, beq_iff_eq] at fits
      rw [List.map_cons, List.map_cons, fits.1.1, ih fits.2]

/-- Members that a record has are read under their names. -/
theorem names_readMembers {shapes : List (String × Presence × Shape)} {fields seen result :
    List (String × Datum)} (known : ∀ name ∈ fields.map (·.1), name ∈ shapes.map (·.1))
    (h : readMembers .direct shapes (Value.memberNodes (Value.ofFields fields) rest) seen =
      .ok result) : result.map (·.1) = seen.map (·.1) ++ fields.map (·.1) := by
  induction fields generalizing seen with
  | nil =>
    rw [Value.ofFields, Value.memberNodes, readMembers] at h
    cases h
    simp
  | cons field fields ih =>
    obtain ⟨name, value⟩ := field
    rw [Value.ofFields, Value.memberNodes, readMembers, readString_quoted, ok_bind] at h
    dsimp only at h
    split at h
    next hnone =>
      obtain ⟨entry, hentry, hname⟩ := List.mem_map.mp (known name (List.mem_cons_self ..))
      have hne := List.lookup_eq_none_iff.mp hnone entry hentry
      rw [hname, bne_self_eq_false] at hne
      cases hne
    next presence shape hsome =>
      split at h
      · cases h
      cases hvalue : fieldValue presence _ _ with
      | error failure =>
        rw [hvalue] at h
        cases h
      | ok datum =>
        rw [hvalue, ok_bind] at h
        rw [ih (fun other hother => known other (List.mem_cons_of_mem _ hother)) h]
        simp

/-- A record is read as its fields, of which none is missing in the end. -/
theorem reread_record {name : String} {fields : List (String × Datum)} {shape : Shape}
    (fits : (Datum.record name fields).fits shape = true) (regular : shape.regular = true)
    (reading : ∀ shapes : List (String × Presence × Shape), Datum.fitFields fields shapes = true →
      Shape.regularFields shapes = true → (shapes.map (·.1)).Nodup →
      Reread floats fields
        (readMembers .direct shapes (Value.memberNodes (Value.ofFields fields) rest) [])) :
    Reread floats (.record name fields)
      (read .direct (.object start (Value.memberNodes (Value.ofFields fields) rest) (.closed rest))
        shape) := by
  cases shape with
  | record expected shapes =>
    rw [Datum.fits, Bool.and_eq_true, beq_iff_eq] at fits
    rw [Shape.regular, Bool.and_eq_true, decide_eq_true_eq] at regular
    obtain ⟨rfl, hfields⟩ := fits
    obtain ⟨distinct, hregular⟩ := regular
    have names := names_of_fitFields hfields
    rw [read]
    refine ((reading shapes hfields hregular distinct).bind_ok (Datum.record name)
      fun seen hseen => ?_).settle closeObject
    have hnames : seen.map (·.1) = shapes.map (·.1) := by
      rw [names_readMembers (fun _ h => names ▸ h) hseen, List.map_nil, List.nil_append, names]
    have hcomplete := completeFields_append rest [] seen hnames (hnames ▸ distinct)
    rw [List.nil_append] at hcomplete
    simp only [Stop.endsObject, closing, ok_bind, hcomplete]
    rfl
  | _ => simp [Datum.fits] at fits

/-- An alternative without a value is read by its name. -/
theorem reread_name {name : String} {shape : Shape}
    (fits : (Datum.variant name none).fits shape = true) :
    Reread [] (.variant name none) (read .direct (.string (quoted name ++ rest)) shape) := by
  cases shape with
  | enumeration variants =>
    have known : variants.lookup name = some none := by
      rw [Datum.fits] at fits
      split at fits
      · assumption
      · cases fits
    rw [read, readVariantName_quoted known]
    exact .pure _
  | _ => simp [Datum.fits] at fits

/-- An alternative with a value is read by its name and its value. -/
theorem reread_variant {name : String} {payload : Datum} {shape : Shape} {value : Node}
    {tail : List UInt8} (fits : (Datum.variant name (some payload)).fits shape = true)
    (regular : shape.regular = true) (ends : value.rest? = some (125 :: rest))
    (reading : ∀ shape : Shape, payload.fits shape = true → shape.regular = true →
      Reread floats payload (read .direct value shape)) :
    Reread floats (.variant name (some payload))
      (read .direct (.object start [(quoted name ++ tail, value)] (.closed rest)) shape) := by
  cases shape with
  | enumeration variants =>
    obtain ⟨shape, known, hfits⟩ : ∃ shape, variants.lookup name = some (some shape) ∧
        payload.fits shape = true := by
      rw [Datum.fits] at fits
      split at fits
      · exact ⟨_, by assumption, fits⟩
      · cases fits
    rw [Shape.regular] at regular
    have hclose : isBlank 125 = false := by decide
    have hends : endsVariant value = .ok () := by
      simp [endsVariant, ends, skipBlanks_cons _ hclose]
    have h := reading shape hfits (Shape.regular_of_lookup_variants regular known)
    rw [read]
    refine Reread.settle closeObject ?_
    simp only [readString_quoted, ok_bind, known]
    refine h.bind_ok (fun datum => Datum.variant name (some datum)) fun a _ => ?_
    rw [hends]
    rfl
  | _ => simp [Datum.fits] at fits

/-- The kinds of a record are alternatives without values. -/
theorem lookup_kindNames {kinds : List (String × Shape)} {name : String} {shape : Shape}
    (known : kinds.lookup name = some shape) : (kindNames kinds).lookup name = some none := by
  induction kinds with
  | nil => cases known
  | cons kind kinds ih =>
    rw [List.lookup_cons] at known
    rw [kindNames, List.map_cons, List.lookup_cons]
    split at known
    · rfl
    · exact ih known

/-- A record of several kinds is read by the name of its kind, which comes first, and its value. -/
theorem reread_tagged {name : String} {payload : Datum} {shape : Shape} {value : Node}
    {first second third : List UInt8} (fits : (Datum.tagged name payload).fits shape = true)
    (regular : shape.regular = true)
    (reading : ∀ shape : Shape, payload.fits shape = true → shape.regular = true →
      Reread floats payload (read .direct value shape)) :
    Reread floats (.tagged name payload)
      (read .direct (.object start
        [(quoted "type" ++ first, .string (quoted name ++ second)), (quoted "data" ++ third, value)]
        (.closed rest)) shape) := by
  cases shape with
  | tagged union kinds =>
    obtain ⟨shape, known, hfits⟩ : ∃ shape, kinds.lookup name = some shape ∧
        payload.fits shape = true := by
      rw [Datum.fits] at fits
      split at fits
      · exact ⟨_, by assumption, fits⟩
      · cases fits
    rw [Shape.regular] at regular
    have h := reading shape hfits (Shape.regular_of_lookup_kinds regular known)
    have hkind : read .direct (.string (quoted name ++ second)) (Json.kinds kinds) =
        .ok (.variant name none) := by
      rw [Json.kinds, read]
      exact readVariantName_quoted (lookup_kindNames known)
    have hdata : ("data" : String) ≠ "type" := by decide
    rw [read]
    refine Reread.settle closeObject ?_
    simp only [readTagged, readString_quoted, ok_bind, if_true, hkind, kindOf, known, hdata,
      if_false, bind_assoc]
    exact h.bind_ok (Datum.tagged name) fun _ _ => rfl
  | _ => simp [Datum.fits] at fits

end Objects

/-! ## All data -/

mutual

/-- A datum is read by its shape, or as the value of a field that may be missing. -/
theorem reread_field : ∀ (d : Datum) (presence : Presence) (shape : Shape) (rest : List UInt8),
    Datum.fitsField d presence shape = true → (presence = .nullable → shape.isFloat = false) →
    shape.regular = true → Delimited rest →
    Reread d.floats d (fieldValue presence ((Value.ofDatum d).node rest)
      (read .direct ((Value.ofDatum d).node rest) shape))
  | .float64 x, _, _, _, fits, _, _, h =>
    reread_plain fits (by simp) (by simp) fun fits => reread_double x fits h
  | .float32 x, _, _, _, fits, _, _, h =>
    reread_plain fits (by simp) (by simp) fun fits => reread_single x fits h
  | .integer _, _, _, _, fits, _, regular, h =>
    reread_plain fits (by simp) (by simp) fun fits => reread_integer fits regular h
  | .text s, _, _, _, fits, _, _, _ =>
    reread_plain fits (by simp) (by simp) fun fits => reread_text s fits
  | .missing, _, _, _, fits, _, _, _ => reread_missing fits _
  | .present value, _, shape, rest, fits, float, regular, h =>
    reread_present fits float fun fits =>
      reread_field value .required shape rest (by simpa [Datum.fitsField] using fits) (by simp)
        regular h
  | .list items, _, _, rest, fits, _, regular, _ =>
    reread_plain fits (by simp) (by simp) fun fits =>
      reread_array fits regular (fun item => reread_items items item rest)
        fun item expected => reread_elements items item expected 0 rest
  | .record _ fields, _, _, rest, fits, _, regular, _ =>
    reread_plain fits (by simp) (by simp) fun fits =>
      reread_record fits regular fun shapes hfits hregular distinct =>
        reread_members fields [] shapes [] rest hfits hregular distinct rfl
  | .variant _ none, _, _, _, fits, _, _, _ =>
    reread_plain fits (by simp) (by simp) fun fits => reread_name fits
  | .variant _ (some payload), _, _, rest, fits, _, regular, _ =>
    reread_plain fits (by simp) (by simp) fun fits =>
      reread_variant fits regular (Value.rest?_node _ (.cons rest (by decide)))
        fun shape hfits hregular => reread_field payload .required shape (125 :: rest)
          (by simpa [Datum.fitsField] using hfits) (by simp) hregular (.cons rest (by decide))
  | .tagged _ payload, _, _, rest, fits, _, regular, _ =>
    reread_plain fits (by simp) (by simp) fun fits =>
      reread_tagged fits regular
        fun shape hfits hregular => reread_field payload .required shape (125 :: rest)
          (by simpa [Datum.fitsField] using hfits) (by simp) hregular (.cons rest (by decide))

/-- Items of one shape are read. -/
theorem reread_items : ∀ (items : List Datum) (shape : Shape) (rest : List UInt8),
    Datum.fitAll items shape = true → shape.regular = true →
    Reread (Datum.floatsOfItems items) items
      (readItems .direct (Value.itemNodes (Value.ofItems items) rest) shape)
  | [], _, _, _, _ => .pure _
  | item :: items, shape, rest, fits, regular => by
    rw [Datum.fitAll, Bool.and_eq_true] at fits
    have hitem := reread_field item .required shape _ (by simpa [Datum.fitsField] using fits.1)
      (by simp) regular (Value.delimited_itemsBehind (Value.ofItems items) rest)
    have hitems := reread_items items shape rest fits.2 regular
    rw [Value.ofItems, Value.itemNodes, readItems, Datum.floatsOfItems]
    exact hitem.bind fun datum _ => hitems.bind_ok (datum :: ·) fun _ _ => rfl

/-- As many items as are expected are read. -/
theorem reread_elements : ∀ (items : List Datum) (shape : Shape) (expected : String)
    (index : Nat) (rest : List UInt8), Datum.fitAll items shape = true → shape.regular = true →
    Reread (Datum.floatsOfItems items) items
      (readElements .direct expected (.closed rest)
        (Value.itemNodes (Value.ofItems items) rest) index
        (List.replicate items.length (.required, shape)))
  | [], _, _, _, _, _, _ => .pure _
  | item :: items, shape, expected, index, rest, fits, regular => by
    rw [Datum.fitAll, Bool.and_eq_true] at fits
    have hitem := reread_field item .required shape _ (by simpa [Datum.fitsField] using fits.1)
      (by simp) regular (Value.delimited_itemsBehind (Value.ofItems items) rest)
    have hitems := reread_elements items shape expected (index + 1) rest fits.2 regular
    rw [Value.ofItems, Value.itemNodes, List.length_cons, List.replicate_succ, readElements,
      Datum.floatsOfItems]
    exact hitem.bind fun datum _ => hitems.bind_ok (datum :: ·) fun _ _ => rfl

/-- The fields of a record are read behind those that were. -/
theorem reread_members : ∀ (fields : List (String × Datum))
    (front back : List (String × Presence × Shape)) (seen : List (String × Datum))
    (rest : List UInt8),
    Datum.fitFields fields back = true → Shape.regularFields back = true →
    ((front ++ back).map (·.1)).Nodup → seen.map (·.1) = front.map (·.1) →
    Reread (Datum.floatsOfFields fields) (seen ++ fields)
      (readMembers .direct (front ++ back) (Value.memberNodes (Value.ofFields fields) rest) seen)
  | [], front, back, seen, rest, _, _, _, _ => by
    rw [Value.ofFields, Value.memberNodes, readMembers, List.append_nil]
    exact .pure _
  | (name, value) :: fields, front, [], seen, rest, fits, _, _, _ => by
    simp [Datum.fitFields] at fits
  | (name, value) :: fields, front, (expected, presence, shape) :: back, seen, rest, fits, regular,
      distinct, names => by
    simp only [Datum.fitFields, Bool.and_eq_true, beq_iff_eq] at fits
    obtain ⟨⟨rfl, hfits⟩, hfields⟩ := fits
    have hfront : name ∉ front.map (·.1) := by
      rw [List.map_append, List.map_cons, List.nodup_middle, List.nodup_cons] at distinct
      exact fun h => distinct.1 (List.mem_append_left _ h)
    have hseen : (seen.lookup name).isSome = false := by
      rw [lookup_eq_none (names ▸ hfront)]
      rfl
    obtain ⟨float, hregular, hothers⟩ := Shape.regularFields_cons regular
    have hvalue := reread_field value presence shape _ hfits float hregular
      (Value.delimited_membersBehind (Value.ofFields fields) rest)
    have hmembers : ∀ datum, Reread (Datum.floatsOfFields fields) (seen ++ (name, datum) :: fields)
        (readMembers .direct (front ++ (name, presence, shape) :: back)
          (Value.memberNodes (Value.ofFields fields) rest) (seen ++ [(name, datum)])) := by
      intro datum
      have h := reread_members fields (front ++ [(name, presence, shape)]) back
        (seen ++ [(name, datum)]) rest hfields hothers (by simpa using distinct) (by simp [names])
      rwa [List.append_assoc, List.append_assoc, List.singleton_append, List.singleton_append] at h
    rw [Value.ofFields, Value.memberNodes, readMembers, readString_quoted, ok_bind,
      Datum.floatsOfFields]
    simp only [lookup_append_cons hfront, hseen]
    exact hvalue.bind fun datum _ => hmembers datum

end

end Json

end NavStream
