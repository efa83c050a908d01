/-!
# Fixed-width fields

Log payloads are sequences of tightly packed little-endian fields. `FieldReader` reads them one
after the other from the front of the remaining bytes and fails as soon as too few remain.

* `leBytes`, `leValue` — little-endian bytes of a number and the number they spell;
* `word8` … `float64` — one field of each kind;
* `skip` — bytes that carry nothing of interest.
-/

namespace NavStream.Bytes

/-- The `width` low bytes of a number, least significant first. -/
def leBytes : (width : Nat) → Nat → List UInt8
  | 0, _ => []
  | width + 1, value => UInt8.ofNat value :: leBytes width (value / 256)

/-- The number that little-endian bytes spell. -/
def leValue : List UInt8 → Nat
  | [] => 0
  | b :: rest => b.toNat + 256 * leValue rest

/-- A number is written with as many bytes as its width says. -/
@[simp] theorem leBytes_length (width value : Nat) : (leBytes width value).length = width := by
  induction width generalizing value with
  | zero => rfl
  | succ width ih => simp [leBytes, ih]

/-- Bytes of a number spell that number, as far as the width reaches. -/
theorem leValue_leBytes (width value : Nat) :
    leValue (leBytes width value) = value % Nat.pow 256 width := by
  induction width generalizing value with
  | zero => simp [leBytes, leValue, Nat.mod_one]
  | succ width ih =>
    have split : Nat.pow 256 (width + 1) = 256 * Nat.pow 256 width := Nat.mul_comm _ _
    rw [leBytes, leValue, ih, UInt8.toNat_ofNat', split, Nat.mod_mul]

/-- The bytes of the number that bytes spell are those bytes. -/
theorem leBytes_leValue (bytes : List UInt8) : leBytes bytes.length (leValue bytes) = bytes := by
  induction bytes with
  | nil => rfl
  | cons b rest ih =>
    have hb := b.toNat_lt
    simp only [List.length_cons, leValue, leBytes]
    rw [show (b.toNat + 256 * leValue rest) / 256 = leValue rest by omega, ih]
    congr 1
    apply UInt8.toNat_inj.1
    simp only [UInt8.toNat_ofNat']
    omega

/-- Bytes spell no number that needs more of them. -/
theorem leValue_lt (bytes : List UInt8) : leValue bytes < Nat.pow 256 bytes.length := by
  induction bytes with
  | nil => exact Nat.one_pos
  | cons byte rest ih =>
    have hbyte := byte.toNat_lt
    have split : Nat.pow 256 (rest.length + 1) = 256 * Nat.pow 256 rest.length := Nat.mul_comm _ _
    rw [leValue, List.length_cons, split]
    omega

/-- A reader of the fields in front of the remaining bytes. -/
abbrev FieldReader (α : Type) := StateT (List UInt8) Option α

namespace FieldReader

/-- The next `n` bytes, when there are that many. -/
def take (n : Nat) : FieldReader (List UInt8) := fun bytes =>
  if n ≤ bytes.length then some (bytes.take n, bytes.drop n) else none

/-- Steps over `n` bytes. -/
def skip (n : Nat) : FieldReader Unit := do
  let _ ← take n

/-- An unsigned number of `width` bytes. -/
def number (width : Nat) : FieldReader Nat := do
  return leValue (← take width)

/-- An unsigned byte. -/
def word8 : FieldReader UInt8 := do return UInt8.ofNat (← number 1)

/-- An unsigned number of two bytes. -/
def word16 : FieldReader UInt16 := do return UInt16.ofNat (← number 2)

/-- An unsigned number of four bytes. -/
def word32 : FieldReader UInt32 := do return UInt32.ofNat (← number 4)

/-- A two's complement number of four bytes. -/
def int32 : FieldReader Int32 := do return (← word32).toInt32

/-- A single precision number. -/
def float32 : FieldReader Float32 := do return Float32.ofBits (← word32)

/-- A double precision number. -/
def float64 : FieldReader Float := do return Float.ofBits (UInt64.ofNat (← number 8))

/-- `n` double precision numbers. -/
def floats : (n : Nat) → FieldReader (Vector Float n)
  | 0 => return #v[]
  | n + 1 => do
    let init ← floats n
    let last ← float64
    return init.push last

/-- Reads the whole of a payload's layout, whatever follows it. -/
def decode? {α : Type} (reader : FieldReader α) (bytes : List UInt8) : Option α :=
  (reader bytes).map (·.1)

end FieldReader

end NavStream.Bytes
