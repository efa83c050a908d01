/-!
# The outcome of an integrity check

A frame carries a check value behind its contents. The check compares it with the value calculated
over the contents.
-/

namespace NavStream.Checksum

/-- What comparing a frame with its check value showed. -/
inductive Verdict where
  /-- The values agree. -/
  | intact
  /-- The frame carries `expected`, its contents give `computed`. -/
  | mismatch (expected computed : UInt32)
deriving DecidableEq, Repr

namespace Verdict

/-- Compares the value that a frame carries with the one calculated over its contents. -/
def compare (expected computed : UInt32) : Verdict :=
  if expected = computed then .intact else .mismatch expected computed

/-- Whether the values agreed. -/
def isIntact : Verdict → Bool
  | .intact => true
  | .mismatch .. => false

/-- Data are intact exactly when both values agree. -/
theorem compare_eq_intact_iff {expected computed : UInt32} :
    compare expected computed = .intact ↔ expected = computed := by
  unfold compare
  split <;> simp_all

end Verdict

end NavStream.Checksum
