import Mathlib.Data.List.Destutter
import NavStream.Proofs.Oem.FixTags

/-!
# Time tags that return

The fix accumulator remembers one time tag, that of the fix which it gave last. So no two fixes in a
row have the same tag, but when both halves of an earlier tag come again after a fix of another one,
the tag gets a fix once more. Whatever logs arrive and in whatever order, the tags of the fixes are
those that the latest position and the latest velocity share after each log, without the repetitions
in a row.

* `destutter_concat` — leaving out repetitions in a row, with one more element;
* `pairwise_destutter_iff` — nothing is left twice exactly where nothing returns;
* `sharedTag?`, `sharedTags` — the tags that the latest halves share, log after log;
* `FixAccumulator.tag_givenBy` — the tag of the fix that a log gives;
* `FixAccumulator.tags_of_fixes` — the tags of the fixes, and when one of them occurs twice.
-/

namespace NavStream.Oem

/-! ## Repetitions in a row -/

section Repetitions

variable {α : Type}

/-- One more element is left if it does not repeat the last one that was left. -/
theorem destutter_concat {R : α → α → Prop} [DecidableRel R] (l : List α) (last : α) :
    (l ++ [last]).destutter R =
      l.destutter R ++ if ∀ kept ∈ (l.destutter R).getLast?, R kept last then [last] else [] := by
  cases l with
  | nil => simp
  | cons first rest =>
    rw [List.cons_append, List.destutter_cons', List.destutter_cons']
    induction rest generalizing first with
    | nil => by_cases h : R first last <;> simp [h]
    | cons next rest ih =>
      rw [List.cons_append]
      by_cases h : R first next
      · rw [List.destutter'_cons_pos _ h, List.destutter'_cons_pos _ h, ih,
          List.getLast?_cons_of_ne_nil (List.destutter'_ne_nil rest R), List.cons_append]
      · rw [List.destutter'_cons_neg _ h, List.destutter'_cons_neg _ h, ih]

variable [BEq α]

/-- Two elements that are not equal. -/
def Differ (x y : α) : Prop := ¬(x == y) = true

instance : DecidableRel (Differ (α := α)) := fun x y => inferInstanceAs (Decidable (¬(x == y) = true))

/-- Nothing returns: where an element occurs again, all between have been equal to it. -/
def Unreturning (l : List α) : Prop :=
  l.Triplewise fun first middle last => first == last → first == middle

instance (l : List α) : Decidable (Unreturning l) :=
  inferInstanceAs (Decidable (l.Triplewise _))

variable {before l : List α} {middle last : α}

/-- With one more element, that one does not return either. -/
theorem unreturning_concat :
    Unreturning (before ++ [last]) ↔
      Unreturning before ∧ before.Pairwise fun x y => x == last → x == y := by
  simp [Unreturning, List.triplewise_append]

/-- The last element that is left equals the last one. -/
theorem exists_getLast?_destutter (hlast : l.getLast? = some last) (hrefl : last == last) :
    ∃ kept, (l.destutter Differ).getLast? = some kept ∧ kept == last := by
  obtain ⟨before, rfl⟩ := List.getLast?_eq_some_iff.1 hlast
  rw [destutter_concat]
  split
  next => exact ⟨last, List.getLast?_concat, hrefl⟩
  next hrepeats =>
    simp only [Differ, not_forall, not_not] at hrepeats
    obtain ⟨kept, hkept, hsame⟩ := hrepeats
    exact ⟨kept, by rwa [List.append_nil], hsame⟩

/-- Every element equals one that is left. -/
theorem exists_mem_destutter (hrefl : ∀ x ∈ l, x == x) {x : α} (hx : x ∈ l) :
    ∃ kept ∈ l.destutter Differ, kept == x := by
  induction l using List.reverseRecOn with
  | nil => cases hx
  | append_singleton before last ih =>
    rcases List.mem_append.1 hx with hbefore | hlast
    · obtain ⟨kept, hkept, hsame⟩ := ih (fun y hy => hrefl y (List.mem_append_left _ hy)) hbefore
      rw [destutter_concat]
      exact ⟨kept, List.mem_append_left _ hkept, hsame⟩
    · obtain rfl := List.mem_singleton.1 hlast
      obtain ⟨kept, hkept, hsame⟩ := exists_getLast?_destutter List.getLast?_concat (hrefl x hx)
      exact ⟨kept, List.mem_of_getLast? hkept, hsame⟩

variable [PartialEquivBEq α]

/-- Whether one more element repeats the last one is seen from the last one that was left. -/
theorem differ_getLast?_destutter_iff (hrefl : ∀ x ∈ before, x == x) :
    (∀ kept ∈ (before.destutter Differ).getLast?, Differ kept last) ↔
      ∀ middle ∈ before.getLast?, Differ middle last := by
  cases hmiddle : before.getLast? with
  | none => simp [List.getLast?_eq_none_iff.1 hmiddle]
  | some middle =>
    obtain ⟨kept, hkept, hsame⟩ :=
      exists_getLast?_destutter hmiddle (hrefl middle (List.mem_of_getLast? hmiddle))
    simp only [hkept, Option.mem_some_iff, forall_eq']
    exact not_congr ⟨PartialEquivBEq.trans (BEq.symm hsame), PartialEquivBEq.trans hsame⟩

/-- An element that repeats the one before it does not return. -/
theorem pairwise_of_repeats (h : Unreturning before) (hmiddle : before.getLast? = some middle)
    (hsame : middle == last) : before.Pairwise fun x y => x == last → x == y := by
  obtain ⟨front, rfl⟩ := List.getLast?_eq_some_iff.1 hmiddle
  have hback {x : α} (hx : x == last) : x == middle := PartialEquivBEq.trans hx (BEq.symm hsame)
  refine List.pairwise_append.2 ⟨?_, List.pairwise_singleton _ _, ?_⟩
  · exact (unreturning_concat.1 h).2.imp fun hreturns hx => hreturns (hback hx)
  · intro x _ y hy hx
    rw [List.mem_singleton.1 hy]
    exact hback hx

/-- An element that differs from the one before it returns if it has been left already. -/
theorem pairwise_iff_of_differs (hrefl : ∀ x ∈ before, x == x)
    (hdiffers : ∀ middle ∈ before.getLast?, Differ middle last) :
    (before.Pairwise fun x y => x == last → x == y) ↔
      ∀ kept ∈ before.destutter Differ, Differ kept last := by
  constructor
  · intro hreturns kept hkept hsame
    have hkeep : before.Pairwise fun x y => x == last → y == last :=
      hreturns.imp fun h hx => PartialEquivBEq.trans (BEq.symm (h hx)) hx
    obtain ⟨middle, hmiddle, hagain⟩ := exists_getLast?_of_pairwise hkeep
      ⟨kept, (List.destutter_sublist _ _).subset hkept, hsame⟩
    exact hdiffers middle hmiddle hagain
  · intro hnew
    refine List.pairwise_of_forall_mem_list fun x hx y _ hsame => ?_
    obtain ⟨kept, hkept, hleft⟩ := exists_mem_destutter hrefl hx
    exact absurd (PartialEquivBEq.trans hleft hsame) (hnew kept hkept)

/-- **Nothing is left twice exactly where nothing returns** after something else. -/
theorem pairwise_destutter_iff (hrefl : ∀ x ∈ l, x == x) :
    (l.destutter Differ).Pairwise Differ ↔ Unreturning l := by
  induction l using List.reverseRecOn with
  | nil => simp [Unreturning]
  | append_singleton before last ih =>
    have hbefore : ∀ x ∈ before, x == x := fun x hx => hrefl x (List.mem_append_left _ hx)
    rw [unreturning_concat, ← ih hbefore, destutter_concat]
    simp only [differ_getLast?_destutter_iff hbefore]
    by_cases hdiffers : ∀ middle ∈ before.getLast?, Differ middle last
    · rw [if_pos hdiffers, pairwise_iff_of_differs hbefore hdiffers, List.pairwise_append]
      simp
    · rw [if_neg hdiffers, List.append_nil]
      simp only [Differ, not_forall, not_not] at hdiffers
      obtain ⟨middle, hmiddle, hsame⟩ := hdiffers
      rw [iff_self_and]
      intro hpairwise
      exact pairwise_of_repeats ((ih hbefore).1 hpairwise) hmiddle hsame

end Repetitions

/-! ## The tags that the latest halves share -/

/-- The tag of two halves, if both are there and have the same one. -/
def commonTag? : Option (Float × BestPos) → Option (Float × BestVel) → Option Float
  | some pos, some vel => if pos.1 == vel.1 then some pos.1 else none
  | _, _ => none

/-- The tag that the latest position and the latest velocity among logs share, if they do. -/
def sharedTag? (logs : List FixUpdate) : Option Float :=
  commonTag? (latest FixUpdate.position? logs) (latest FixUpdate.velocity? logs)

/-- The tags that the latest halves share after each of the logs, in order. -/
def sharedTags (logs : List FixUpdate) : List Float := logs.inits.filterMap sharedTag?

/-- A common tag equals itself: one that is not a number is not common to two halves. -/
theorem beq_self_of_commonTag? {pos? : Option (Float × BestPos)} {vel? : Option (Float × BestVel)}
    {tag : Float} (h : commonTag? pos? vel? = some tag) : tag == tag := by
  unfold commonTag? at h
  split at h
  next pos vel =>
    split at h
    next hsame =>
      cases h
      exact PartialEquivBEq.trans hsame (BEq.symm hsame)
    next => cases h
  next => cases h

/-- One more log adds the tag that the latest halves share with it. -/
theorem sharedTags_concat (before : List FixUpdate) (last : FixUpdate) :
    sharedTags (before ++ [last]) = sharedTags before ++ (sharedTag? (before ++ [last])).toList := by
  rw [sharedTags, List.inits_append, List.filterMap_append]
  cases h : sharedTag? (before ++ [last]) <;> simp [sharedTags, h]

/-- Shared tags equal themselves. -/
theorem beq_self_of_mem_sharedTags {logs : List FixUpdate} {tag : Float}
    (h : tag ∈ sharedTags logs) : tag == tag := by
  obtain ⟨front, -, hshared⟩ := List.mem_filterMap.1 h
  exact beq_self_of_commonTag? hshared

/-! ## The tags of the fixes -/

namespace FixAccumulator

/-- A fix has the tag of both halves, unless this is the tag that was given last. -/
theorem tag_complete (acc : FixAccumulator) :
    acc.complete.map (·.measurementTime) =
      (commonTag? acc.position acc.velocity).filter fun tag => !acc.wasEmitted tag := by
  unfold complete
  cases acc.position with
  | none => rfl
  | some pos =>
    cases acc.velocity with
    | none => rfl
    | some vel =>
      dsimp only [commonTag?]
      by_cases hsame : pos.1 == vel.1 <;> by_cases hgiven : acc.wasEmitted pos.1 <;>
        simp [hsame, hgiven, combine, Option.filter]

/-- One more log is taken in by what the others have led to. -/
theorem after_concat (before : List FixUpdate) (last : FixUpdate) :
    after (before ++ [last]) = ((after before).apply last).1 := by
  rw [after, gather_concat]
  rfl

/-- The accumulator keeps the latest halves, whatever logs arrive. -/
theorem halves_after (logs : List FixUpdate) :
    (after logs).position = latest FixUpdate.position? logs ∧
      (after logs).velocity = latest FixUpdate.velocity? logs := by
  induction logs using List.reverseRecOn with
  | nil => exact ⟨rfl, rfl⟩
  | append_singleton before last ih =>
    rw [after_concat, apply_eq, latest_concat, latest_concat, ← ih.1, ← ih.2, ← position_store,
      ← velocity_store]
    exact ⟨rfl, rfl⟩

/-- The tags of the fixes that logs give, in order. -/
def tags (logs : List FixUpdate) : List Float := (fixes logs).map (·.measurementTime)

/-- **A log gives a fix of the tag that the latest halves share with it**, unless this is the tag
that was given last. -/
theorem tag_givenBy (before : List FixUpdate) (last : FixUpdate) :
    (givenBy before last).map (·.measurementTime) =
      (sharedTag? (before ++ [last])).filter fun tag => !(after before).wasEmitted tag := by
  rw [givenBy, apply_snd, tag_complete, position_store, velocity_store, (halves_after before).1,
    (halves_after before).2, ← latest_concat, ← latest_concat]
  simp only [wasEmitted_store]
  rfl

/-- One more log adds the tag of the fix that it gives. -/
theorem tags_concat (before : List FixUpdate) (last : FixUpdate) :
    tags (before ++ [last]) =
      tags before ++ ((givenBy before last).map (·.measurementTime)).toList := by
  rw [tags, fixes_concat, List.map_append]
  cases givenBy before last <;> rfl

/-- The accumulator remembers the tag of the last fix. -/
theorem emitted_after (logs : List FixUpdate) : (after logs).emitted = (tags logs).getLast? := by
  induction logs using List.reverseRecOn with
  | nil => rfl
  | append_singleton before last ih =>
    rw [after_concat, apply_eq, tags_concat, givenBy, apply_snd, List.getLast?_append, ← ih]
    cases ((after before).store last).complete <;> rfl

/-- A tag was given last unless the last fix has another one. -/
theorem wasEmitted_after_eq_false_iff (logs : List FixUpdate) (tag : Float) :
    (after logs).wasEmitted tag = false ↔ ∀ kept ∈ (tags logs).getLast?, Differ kept tag := by
  rw [wasEmitted, emitted_after]
  cases (tags logs).getLast? <;> simp [Differ]

/-- **The tags of the fixes are the shared ones without repetitions in a row.** -/
theorem tags_eq_destutter (logs : List FixUpdate) :
    tags logs = (sharedTags logs).destutter Differ := by
  induction logs using List.reverseRecOn with
  | nil => rfl
  | append_singleton before last ih =>
    rw [tags_concat, tag_givenBy, sharedTags_concat]
    cases sharedTag? (before ++ [last]) with
    | none => simp [ih]
    | some tag =>
      rw [Option.toList_some, destutter_concat, ← ih]
      simp only [← wasEmitted_after_eq_false_iff]
      cases hgiven : (after before).wasEmitted tag <;> simp [Option.filter, hgiven]

/-- **A time tag gets another fix exactly when it returns.** Whatever logs arrive, the tags of the
fixes are those that the latest position and the latest velocity share after each log, without
repetitions in a row. So fixes that follow each other have different tags, and no two fixes at all
have the same one exactly where no shared tag returns after another one. -/
theorem tags_of_fixes (logs : List FixUpdate) :
    tags logs = (sharedTags logs).destutter Differ ∧
      (tags logs).IsChain Differ ∧
      ((tags logs).Pairwise Differ ↔ Unreturning (sharedTags logs)) := by
  rw [tags_eq_destutter]
  refine ⟨rfl, List.isChain_destutter Differ _, ?_⟩
  exact pairwise_destutter_iff fun tag htag => beq_self_of_mem_sharedTags htag

/-- Both halves of the first tag come again after those of the second one, and the first tag gets
its fix once more. -/
theorem two_fixes_of_returning_tag :
    let logs := [seaLevel 1, northward 1, seaLevel 2, northward 2, seaLevel 1, northward 1]
    (∀ log ∈ logs, log.time == log.time) ∧ tags logs = [1, 2, 1] ∧
      ¬(tags logs).Pairwise Differ := by
  decide

end FixAccumulator

end NavStream.Oem
