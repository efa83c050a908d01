import Mathlib.Data.List.Induction

/-!
# Taking logs in one after the other

Some logs do not lead to a message of their own: an accumulator takes them in and gives a message
once it has enough of them.

* `gather` — an accumulator that takes in many logs;
* `gather_concat`, `gather_append` — the last log, and logs behind others;
* `latestOf` — the latest of what logs bring.
-/

namespace NavStream.Oem

variable {α β γ : Type}

/-- What an accumulator has come to, and what it has given. -/
structure Gathered (α γ : Type) where
  /-- The accumulator afterwards. -/
  acc : α
  /-- What was given, in order. -/
  given : List γ

/-- Takes in one more log. -/
def Gathered.take (apply : α → β → α × Option γ) (before : Gathered α γ) (log : β) :
    Gathered α γ :=
  let (acc, given) := apply before.acc log
  ⟨acc, before.given ++ given.toList⟩

/-- Takes in logs one after the other. -/
def gather (apply : α → β → α × Option γ) (acc : α) (logs : List β) : Gathered α γ :=
  logs.foldl (Gathered.take apply) ⟨acc, []⟩

/-- The last log is taken in by what the others have led to. -/
theorem gather_concat (apply : α → β → α × Option γ) (acc : α) (before : List β) (last : β) :
    gather apply acc (before ++ [last]) = (gather apply acc before).take apply last :=
  List.foldl_append

/-- Logs behind others are taken in by what these have led to. -/
theorem gather_append (apply : α → β → α × Option γ) (acc : α) (first others : List β) :
    gather apply acc (first ++ others) =
      ⟨(gather apply (gather apply acc first).acc others).acc,
        (gather apply acc first).given ++
          (gather apply (gather apply acc first).acc others).given⟩ := by
  induction others using List.reverseRecOn with
  | nil => simp [gather]
  | append_singleton others last ih =>
    rw [← List.append_assoc, gather_concat, gather_concat, ih]
    simp [Gathered.take]

/-- The latest of what logs bring. -/
def latestOf (bring? : β → Option γ) (logs : List β) : Option γ :=
  (logs.filterMap bring?).getLast?

/-- What the later logs bring is the latest. -/
theorem latestOf_append (bring? : β → Option γ) (first others : List β) :
    latestOf bring? (first ++ others) = (latestOf bring? others).or (latestOf bring? first) := by
  rw [latestOf, List.filterMap_append, List.getLast?_append]
  rfl

/-- A single log brings what it brings. -/
theorem latestOf_singleton (bring? : β → Option γ) (log : β) :
    latestOf bring? [log] = bring? log := by
  unfold latestOf
  cases h : bring? log <;> simp [h]

end NavStream.Oem
