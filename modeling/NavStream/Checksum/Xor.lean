import NavStream.Checksum.Verdict

/-!
# The exclusive-or check of sentences

A sentence ends in two hexadecimal digits that spell the exclusive or of its bytes.

* `xorChecksum` — the check value of a byte sequence;
* `hexByte?` — the byte that two digits spell;
* `checkXor` — their comparison.
-/

namespace NavStream.Checksum

/-- The exclusive or of all bytes. -/
def xorChecksum (bytes : List UInt8) : UInt8 := bytes.foldl (· ^^^ ·) 0

/-- The value of a hexadecimal digit of either case. -/
def hexDigit? (digit : UInt8) : Option UInt8 :=
  if 48 ≤ digit ∧ digit ≤ 57 then some (digit - 48)
  else if 65 ≤ digit ∧ digit ≤ 70 then some (digit - 55)
  else if 97 ≤ digit ∧ digit ≤ 102 then some (digit - 87)
  else none

/-- The byte that two hexadecimal digits spell, the high one first. -/
def hexByte? (high low : UInt8) : Option UInt8 := do
  let h ← hexDigit? high
  let l ← hexDigit? low
  return 16 * h + l

/-- Compares the exclusive or of `bytes` with the byte that two digits spell. Digits that are not
hexadecimal agree with nothing and count as the largest value. -/
def checkXor (bytes : List UInt8) (high low : UInt8) : Verdict :=
  let computed := (xorChecksum bytes).toUInt32
  match hexByte? high low with
  | some expected => .compare expected.toUInt32 computed
  | none => .mismatch 0xFFFFFFFF computed

/-- The check passes exactly where the digits spell the exclusive or of the bytes. -/
theorem checkXor_eq_intact_iff {bytes : List UInt8} {high low : UInt8} :
    checkXor bytes high low = .intact ↔ hexByte? high low = some (xorChecksum bytes) := by
  unfold checkXor
  cases hexByte? high low with
  | none => simp
  | some expected =>
    dsimp only
    rw [Verdict.compare_eq_intact_iff, Option.some.injEq]
    exact UInt8.toUInt32_inj

/-- The check of a concatenation is the exclusive or of the checks of its parts. -/
theorem xorChecksum_append (front back : List UInt8) :
    xorChecksum (front ++ back) = xorChecksum front ^^^ xorChecksum back := by
  have shift : ∀ (bytes : List UInt8) (start : UInt8),
      bytes.foldl (· ^^^ ·) start = start ^^^ bytes.foldl (· ^^^ ·) 0 := by
    intro bytes
    induction bytes with
    | nil => intro start; simp
    | cons b rest ih =>
      intro start
      rw [List.foldl_cons, List.foldl_cons, ih (start ^^^ b), ih (0 ^^^ b), UInt8.zero_xor,
        UInt8.xor_assoc]
  rw [xorChecksum, List.foldl_append, shift back]
  rfl

end NavStream.Checksum
