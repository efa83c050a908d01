import Mathlib
import NavStream.Oem.Fix
import NavStream.Proofs.Oem.Gathered

/-!
# One fix for every time tag

Positions and velocities arrive in any order, each of them any number of times. As long as the logs
of one time tag stand together, a tag for which both have arrived gives exactly one fix, and it does
so at the first moment when both are there. The accumulator needs no more than the latest two halves
and the tag of the last fix for it, although halves of earlier tags stay in it.

* `latest` — the latest half among logs;
* `Arrived` — both halves of a time tag are among logs;
* `Contiguous` — the logs of a time tag stand together;
* `FixOf` — what a fix takes from a position and what from a velocity;
* `FixAccumulator.combine_eq_iff` — combining a position and a velocity gives the fix of them;
* `FixAccumulator.Keeps` — what the accumulator keeps of the logs so far;
* `FixAccumulator.Keeps.complete_iff` — the moment when a fix is given;
* `FixAccumulator.one_fix_per_tag` — the fixes of any logs.
-/

namespace NavStream.Oem

/-! ## Halves among logs -/

namespace FixUpdate

/-- The time tag of a log. -/
def time : FixUpdate → Float
  | position time _ | velocity time _ => time

/-- The position half of a fix that a log brings. -/
def position? : FixUpdate → Option (Float × BestPos)
  | position time log => some (time, log)
  | velocity .. => none

/-- The velocity half of a fix that a log brings. -/
def velocity? : FixUpdate → Option (Float × BestVel)
  | position .. => none
  | velocity time log => some (time, log)

/-- A position has the tag of its log. -/
theorem time_of_position? {log : FixUpdate} {half : Float × BestPos}
    (h : log.position? = some half) : half.1 = log.time := by
  cases log with
  | position time pos =>
    cases h
    rfl
  | velocity time vel => cases h

/-- A velocity has the tag of its log. -/
theorem time_of_velocity? {log : FixUpdate} {half : Float × BestVel}
    (h : log.velocity? = some half) : half.1 = log.time := by
  cases log with
  | position time pos => cases h
  | velocity time vel =>
    cases h
    rfl

end FixUpdate

variable {α : Type} {logs before : List FixUpdate} {last : FixUpdate} {tag : Float}

/-- The latest half among logs. -/
def latest (half? : FixUpdate → Option (Float × α)) (logs : List FixUpdate) :
    Option (Float × α) :=
  (logs.filterMap half?).getLast?

/-- Some log brings a half with a time tag. -/
def Brought (half? : FixUpdate → Option (Float × α)) (logs : List FixUpdate) (tag : Float) :
    Prop :=
  ∃ half ∈ logs.filterMap half?, half.1 == tag

/-- Both halves of a time tag are among logs. -/
def Arrived (logs : List FixUpdate) (tag : Float) : Prop :=
  Brought FixUpdate.position? logs tag ∧ Brought FixUpdate.velocity? logs tag

instance (half? : FixUpdate → Option (Float × α)) (logs : List FixUpdate) (tag : Float) :
    Decidable (Brought half? logs tag) :=
  inferInstanceAs (Decidable (∃ half ∈ logs.filterMap half?, half.1 == tag))

instance (logs : List FixUpdate) (tag : Float) : Decidable (Arrived logs tag) :=
  inferInstanceAs (Decidable (_ ∧ _))

/-- Logs of one time tag stand together: none of another tag is between two of them. -/
def Contiguous (logs : List FixUpdate) : Prop :=
  logs.Triplewise fun first middle last => first.time == last.time → first.time == middle.time

instance decidableTriplewise {p : α → α → α → Prop} [∀ x y z, Decidable (p x y z)] :
    (l : List α) → Decidable (l.Triplewise p)
  | [] => isTrue .nil
  | x :: l =>
    have := decidableTriplewise (p := p) l
    decidable_of_iff' (l.Pairwise (p x) ∧ l.Triplewise p) List.triplewise_cons

instance (logs : List FixUpdate) : Decidable (Contiguous logs) :=
  inferInstanceAs (Decidable (logs.Triplewise _))

/-- One more log is the latest if it brings a half. -/
theorem latest_concat (half? : FixUpdate → Option (Float × α)) (before : List FixUpdate)
    (last : FixUpdate) :
    latest half? (before ++ [last]) = (half? last).or (latest half? before) := by
  show latestOf half? (before ++ [last]) = (half? last).or (latestOf half? before)
  rw [latestOf_append, latestOf_singleton]

/-- One more log brings what it brings. -/
theorem brought_concat (half? : FixUpdate → Option (Float × α)) :
    Brought half? (before ++ [last]) tag ↔
      Brought half? before tag ∨ ∃ half, half? last = some half ∧ half.1 == tag := by
  unfold Brought
  cases h : half? last <;> simp [h, or_and_right, exists_or]

/-- What is the latest half was brought. -/
theorem brought_of_latest {half? : FixUpdate → Option (Float × α)} {half : Float × α}
    (h : latest half? logs = some half) (htag : half.1 == tag) : Brought half? logs tag :=
  ⟨half, List.mem_of_getLast? h, htag⟩

/-- Halves stay brought. -/
theorem Arrived.concat (h : Arrived before tag) : Arrived (before ++ [last]) tag :=
  ⟨(brought_concat _).mpr (.inl h.1), (brought_concat _).mpr (.inl h.2)⟩

/-- Equal tags are not told apart, also those that are zero with different signs. -/
theorem Arrived.congr {other : Float} (h : Arrived logs tag) (htag : tag == other) :
    Arrived logs other := by
  obtain ⟨⟨pos, hpos, hposTag⟩, ⟨vel, hvel, hvelTag⟩⟩ := h
  exact ⟨⟨pos, hpos, PartialEquivBEq.trans hposTag htag⟩,
    ⟨vel, hvel, PartialEquivBEq.trans hvelTag htag⟩⟩

/-- A tag that is brought is that of some log. -/
theorem Arrived.exists_log (h : Arrived logs tag) : ∃ log ∈ logs, log.time == tag := by
  obtain ⟨half, hmem, htag⟩ := h.1
  obtain ⟨log, hlog, hhalf⟩ := List.mem_filterMap.mp hmem
  rw [FixUpdate.time_of_position? hhalf] at htag
  exact ⟨log, hlog, htag⟩

/-- One more log can complete its own tag only. -/
theorem Arrived.of_concat (h : Arrived (before ++ [last]) tag) (hbefore : ¬Arrived before tag) :
    last.time == tag := by
  rcases (brought_concat _).mp h.1 with hpos | ⟨half, hhalf, htag⟩
  · rcases (brought_concat _).mp h.2 with hvel | ⟨half, hhalf, htag⟩
    · exact absurd ⟨hpos, hvel⟩ hbefore
    · rwa [← FixUpdate.time_of_velocity? hhalf]
  · rwa [← FixUpdate.time_of_position? hhalf]

/-! ## The logs of a tag stand together -/

/-- Where a property is kept from one to the next, the last one has it if any has. -/
theorem exists_getLast?_of_pairwise {p : α → Prop} {l : List α}
    (hkeep : l.Pairwise fun x y => p x → p y) (h : ∃ x ∈ l, p x) :
    ∃ x, l.getLast? = some x ∧ p x := by
  obtain ⟨x, hx, hp⟩ := h
  induction l using List.reverseRecOn with
  | nil => cases hx
  | append_singleton l last =>
    refine ⟨last, List.getLast?_concat, ?_⟩
    rcases List.mem_append.mp hx with hx | hx
    · exact (List.pairwise_append.mp hkeep).2.2 x hx last (List.mem_singleton_self last) hp
    · rwa [← List.mem_singleton.mp hx]

/-- Once the tag of one more log has occurred, all logs since then have it. -/
theorem Contiguous.pairwise (h : Contiguous (before ++ [last])) :
    before.Pairwise fun x y => x.time == last.time → y.time == last.time := by
  have hgroup := (List.triplewise_append.mp h).2.2.2 last (List.mem_singleton_self last)
  refine hgroup.imp ?_
  intro x y hxy hx
  exact PartialEquivBEq.trans (PartialEquivBEq.symm (hxy hx)) hx

/-- The logs before one more stand together too. -/
theorem Contiguous.of_concat (h : Contiguous (before ++ [last])) : Contiguous before :=
  (List.triplewise_append.mp h).1

/-- If the tag of one more log has occurred, the log before it has it. -/
theorem Contiguous.exists_getLast? (h : Contiguous (before ++ [last]))
    (hlog : ∃ log ∈ before, log.time == last.time) :
    ∃ log, before.getLast? = some log ∧ log.time == last.time :=
  exists_getLast?_of_pairwise h.pairwise hlog

/-- If a half with the tag of one more log was brought, the latest such half has it. -/
theorem Contiguous.exists_latest {half? : FixUpdate → Option (Float × α)}
    (hhalf : ∀ {log half}, half? log = some half → half.1 = log.time)
    (h : Contiguous (before ++ [last])) (hbrought : Brought half? before last.time) :
    ∃ half, latest half? before = some half ∧ half.1 == last.time := by
  refine exists_getLast?_of_pairwise (List.pairwise_filterMap.mpr ?_) hbrought
  refine h.pairwise.imp ?_
  intro x y hxy half hx half' hy
  rw [hhalf hx, hhalf hy]
  exact hxy

/-- If a half with the tag of the last log was brought, the latest such half has it. -/
theorem Contiguous.exists_latest_concat {half? : FixUpdate → Option (Float × α)}
    (hhalf : ∀ {log half}, half? log = some half → half.1 = log.time)
    (h : Contiguous (before ++ [last])) (hbrought : Brought half? (before ++ [last]) last.time) :
    ∃ half, latest half? (before ++ [last]) = some half ∧ half.1 == last.time := by
  rw [latest_concat]
  cases hlast : half? last with
  | none =>
    rcases (brought_concat half?).mp hbrought with hbefore | ⟨half, hsome, -⟩
    · exact h.exists_latest hhalf hbefore
    · rw [hlast] at hsome
      cases hsome
  | some half =>
    obtain ⟨other, -, htag⟩ := hbrought
    refine ⟨half, rfl, ?_⟩
    rw [hhalf hlast]
    exact PartialEquivBEq.trans (BEq.symm htag) htag

/-! ## What a fix takes from which log -/

/-- `FixOf pos vel fix`: a fix that takes all but its velocity from a position log, and its velocity
from a velocity log. -/
structure FixOf (pos : BestPos) (vel : BestVel) (fix : Fix) : Prop where
  /-- The place is that of the position, its height counted from the ellipsoid. -/
  position : fix.position = ⟨pos.latitude, pos.longitude, pos.heightMsl + pos.undulation.toFloat⟩
  /-- The deviations are those of the position, that of the longitude first. -/
  deviations : fix.positionStdDev =
    ⟨pos.longitudeStdDev.toFloat, pos.latitudeStdDev.toFloat, pos.heightStdDev.toFloat⟩
  /-- The velocity is that along the track, which is counted clockwise from north, and upwards. -/
  velocity : fix.linearVelocity =
    ⟨vel.horizontalSpeed * ((90.0 - vel.trackOverGround) * degree).cos,
      vel.horizontalSpeed * ((90.0 - vel.trackOverGround) * degree).sin, vel.verticalSpeed⟩
  /-- Status and type are those of the position. -/
  status : fix.solutionStatus = pos.solutionStatus ∧ fix.solutionType = pos.positionType
  /-- The quality is that of the type of a position that was computed. -/
  computed : pos.solutionStatus = .solComputed → fix.fixType = .ofSolution pos.positionType
  /-- A position that was not computed has none. -/
  uncomputed : pos.solutionStatus ≠ .solComputed → fix.fixType = .invalid
  /-- The satellites are those of the position. -/
  satellites : fix.numSats.toNat = pos.numSatsInSolution.toNat
  /-- The ages are those of the position. -/
  ages : fix.differentialAge = pos.differentialAge ∧ fix.solutionAge = pos.solutionAge

namespace FixAccumulator

/-- What is combined is a fix of its halves. -/
theorem fixOf_combine (time : Float) (pos : BestPos) (vel : BestVel) :
    FixOf pos vel (combine time pos vel) where
  position := rfl
  deviations := rfl
  velocity := rfl
  status := ⟨rfl, rfl⟩
  computed h := if_pos h
  uncomputed h := if_neg h
  satellites := UInt8.toNat_toUInt32 _
  ages := ⟨rfl, rfl⟩

/-- **Combining a position and a velocity gives the fix of them**, with the time tag. -/
theorem combine_eq_iff {time : Float} {pos : BestPos} {vel : BestVel} {fix : Fix} :
    combine time pos vel = fix ↔ fix.measurementTime = time ∧ FixOf pos vel fix := by
  constructor
  · rintro rfl
    exact ⟨rfl, fixOf_combine time pos vel⟩
  · rintro ⟨htime, h⟩
    have hsame := fixOf_combine time pos vel
    have hquality : (combine time pos vel).fixType = fix.fixType := by
      by_cases hcomputed : pos.solutionStatus = .solComputed
      · rw [hsame.computed hcomputed, h.computed hcomputed]
      · rw [hsame.uncomputed hcomputed, h.uncomputed hcomputed]
    have hsatellites : (combine time pos vel).numSats = fix.numSats :=
      UInt32.toNat_inj.1 (hsame.satellites.trans h.satellites.symm)
    rw [Fix.mk.injEq]
    exact ⟨htime.symm, hsame.position.trans h.position.symm,
      hsame.deviations.trans h.deviations.symm, hsame.velocity.trans h.velocity.symm,
      h.status.1.symm, h.status.2.symm, hquality, hsatellites, h.ages.1.symm, h.ages.2.symm⟩

/-! ## What the accumulator keeps -/

variable {acc : FixAccumulator} {fix : Fix}

/-- What an accumulator keeps of the logs that it has taken in. -/
structure Keeps (logs : List FixUpdate) (acc : FixAccumulator) : Prop where
  /-- The position is the latest one. -/
  position : acc.position = latest FixUpdate.position? logs
  /-- The velocity is the latest one. -/
  velocity : acc.velocity = latest FixUpdate.velocity? logs
  /-- A fix was given only of a tag whose halves are there. -/
  arrived : ∀ tag, acc.wasEmitted tag → Arrived logs tag
  /-- If the halves of the latest tag are there, its fix was the last one given. -/
  emitted : ∀ log ∈ logs.getLast?, Arrived logs log.time → acc.wasEmitted log.time

/-- Nothing is kept of no logs. -/
theorem keeps_nil : Keeps [] {} where
  position := rfl
  velocity := rfl
  arrived _ h := nomatch h
  emitted _ h := nomatch h

/-- A log takes the place of the latest position if it has one. -/
theorem position_store (acc : FixAccumulator) (log : FixUpdate) :
    (acc.store log).position = log.position?.or acc.position := by
  cases log <;> rfl

/-- A log takes the place of the latest velocity if it has one. -/
theorem velocity_store (acc : FixAccumulator) (log : FixUpdate) :
    (acc.store log).velocity = log.velocity?.or acc.velocity := by
  cases log <;> rfl

/-- Taking a log in does not change which fix was given last. -/
theorem wasEmitted_store (acc : FixAccumulator) (log : FixUpdate) :
    (acc.store log).wasEmitted tag = acc.wasEmitted tag := by
  cases log <;> rfl

/-- A fix is given of two halves whose tags are equal, unless one of that tag was given last. -/
theorem complete_eq_some :
    acc.complete = some fix ↔ ∃ pos ∈ acc.position, ∃ vel ∈ acc.velocity,
      pos.1 == vel.1 ∧ acc.wasEmitted pos.1 = false ∧ combine pos.1 pos.2 vel.2 = fix := by
  unfold complete
  cases acc.position with
  | none => simp
  | some position =>
    cases acc.velocity with
    | none => simp
    | some velocity => simp [and_assoc]

/-- A log gives the fix that it completes, whose tag is remembered in place of the one before. -/
theorem apply_eq (acc : FixAccumulator) (log : FixUpdate) :
    acc.apply log =
      ({ acc.store log with
          emitted := ((acc.store log).complete.map (·.measurementTime)).or acc.emitted },
        (acc.store log).complete) := by
  have hemitted : (acc.store log).emitted = acc.emitted := by cases log <;> rfl
  unfold apply
  dsimp only
  cases (acc.store log).complete with
  | none => simp [← hemitted]
  | some fix => rfl

/-- A log gives the fix that it completes. -/
theorem apply_snd (acc : FixAccumulator) (log : FixUpdate) :
    (acc.apply log).2 = (acc.store log).complete := by
  rw [apply_eq]

/-- The fix that a log completes becomes the last one given. -/
theorem wasEmitted_apply (acc : FixAccumulator) (log : FixUpdate) (tag : Float) :
    (acc.apply log).1.wasEmitted tag =
      match (acc.store log).complete with
      | some fix => fix.measurementTime == tag
      | none => acc.wasEmitted tag := by
  rw [apply_eq]
  cases (acc.store log).complete <;> rfl

/-- Equal tags are not told apart. -/
theorem wasEmitted_congr {other : Float} (h : acc.wasEmitted tag) (htag : tag == other) :
    acc.wasEmitted other := by
  unfold wasEmitted at h ⊢
  cases hemitted : acc.emitted with
  | none =>
    rw [hemitted] at h
    cases h
  | some time =>
    rw [hemitted] at h
    exact PartialEquivBEq.trans h htag

/-! ## The moment when a fix is given -/

/-- The position that is stored with one more log is the latest one. -/
theorem Keeps.position_store (h : Keeps before acc) :
    (acc.store last).position = latest FixUpdate.position? (before ++ [last]) := by
  rw [FixAccumulator.position_store, latest_concat, h.position]

/-- The velocity that is stored with one more log is the latest one. -/
theorem Keeps.velocity_store (h : Keeps before acc) :
    (acc.store last).velocity = latest FixUpdate.velocity? (before ++ [last]) := by
  rw [FixAccumulator.velocity_store, latest_concat, h.velocity]

/-- Since the logs of a tag stand together, remembering one tag is enough to know whether the fix of
the next log's tag was given already. -/
theorem Keeps.wasEmitted_iff (h : Keeps before acc) (hnext : Contiguous (before ++ [last])) :
    acc.wasEmitted last.time ↔ Arrived before last.time := by
  constructor
  · exact h.arrived last.time
  · intro harrived
    obtain ⟨log, hlog, htag⟩ := hnext.exists_getLast? harrived.exists_log
    exact wasEmitted_congr (h.emitted log hlog (harrived.congr (BEq.symm htag))) htag

/-- A fix is of the latest halves and has the tag of the log that completes it, which is not the tag
of the fix before it. -/
theorem Keeps.exists_halves (h : Keeps before acc) (hfix : (acc.store last).complete = some fix) :
    fix.measurementTime == last.time ∧ acc.wasEmitted fix.measurementTime = false ∧
      ∃ pos ∈ latest FixUpdate.position? (before ++ [last]),
        ∃ vel ∈ latest FixUpdate.velocity? (before ++ [last]),
          pos.1 == vel.1 ∧ combine pos.1 pos.2 vel.2 = fix := by
  obtain ⟨pos, hpos, vel, hvel, htag, hnot, rfl⟩ := complete_eq_some.mp hfix
  rw [h.position_store] at hpos
  rw [h.velocity_store] at hvel
  rw [wasEmitted_store] at hnot
  refine ⟨?_, hnot, pos, hpos, vel, hvel, htag, rfl⟩
  -- one of the halves is that of the log itself
  rw [latest_concat] at hpos hvel
  cases last with
  | position time log =>
    cases hpos
    exact PartialEquivBEq.trans htag (BEq.symm htag)
  | velocity time log =>
    cases hvel
    exact htag

/-- **A log gives a fix of a tag exactly when both halves of the tag are there with it and were not
before.** -/
theorem Keeps.complete_iff (h : Keeps before acc) (hnext : Contiguous (before ++ [last])) :
    (∃ fix, (acc.store last).complete = some fix ∧ fix.measurementTime == tag) ↔
      Arrived (before ++ [last]) tag ∧ ¬Arrived before tag := by
  constructor
  · rintro ⟨fix, hfix, htag⟩
    obtain ⟨htime, hnot, pos, hpos, vel, hvel, hhalves, rfl⟩ := h.exists_halves hfix
    have hvelTag : vel.1 == tag := PartialEquivBEq.trans (BEq.symm hhalves) htag
    refine ⟨⟨brought_of_latest hpos htag, brought_of_latest hvel hvelTag⟩, ?_⟩
    intro harrived
    have hlast := PartialEquivBEq.trans (BEq.symm htag) htime
    have hemitted := (h.wasEmitted_iff hnext).mpr (harrived.congr hlast)
    rw [wasEmitted_congr hemitted (BEq.symm htime)] at hnot
    cases hnot
  · rintro ⟨harrived, hbefore⟩
    have hlast := harrived.of_concat hbefore
    obtain ⟨hpos, hvel⟩ := harrived.congr (BEq.symm hlast)
    obtain ⟨pos, hpos, hposTag⟩ := hnext.exists_latest_concat FixUpdate.time_of_position? hpos
    obtain ⟨vel, hvel, hvelTag⟩ := hnext.exists_latest_concat FixUpdate.time_of_velocity? hvel
    refine ⟨combine pos.1 pos.2 vel.2, complete_eq_some.mpr ⟨pos, ?_, vel, ?_, ?_, ?_, rfl⟩,
      PartialEquivBEq.trans hposTag hlast⟩
    · rwa [h.position_store]
    · rwa [h.velocity_store]
    · exact PartialEquivBEq.trans hposTag (BEq.symm hvelTag)
    · rw [wasEmitted_store]
      by_contra hemitted
      have hbefore' := h.arrived pos.1 (Bool.not_eq_false _ ▸ hemitted)
      exact hbefore (hbefore'.congr (PartialEquivBEq.trans hposTag hlast))

/-! ## Any number of logs -/

/-- What is kept of logs is kept with one more log of them. -/
theorem Keeps.apply (h : Keeps before acc) (hnext : Contiguous (before ++ [last])) :
    Keeps (before ++ [last]) (acc.apply last).1 where
  position := by rw [apply_eq, ← h.position_store]
  velocity := by rw [apply_eq, ← h.velocity_store]
  arrived tag hemitted := by
    rw [wasEmitted_apply] at hemitted
    cases hfix : (acc.store last).complete with
    | none =>
      rw [hfix] at hemitted
      exact (h.arrived tag hemitted).concat
    | some fix =>
      rw [hfix] at hemitted
      exact ((h.complete_iff hnext).mp ⟨fix, hfix, hemitted⟩).1
  emitted log hlog harrived := by
    rw [List.getLast?_concat] at hlog
    cases hlog
    rw [wasEmitted_apply]
    cases hfix : (acc.store last).complete with
    | none =>
      rw [h.wasEmitted_iff hnext]
      by_contra hbefore
      obtain ⟨fix, hsome, -⟩ := (h.complete_iff hnext).mpr ⟨harrived, hbefore⟩
      rw [hfix] at hsome
      cases hsome
    | some fix => exact (h.exists_halves hfix).1

/-- What may have been given counts if it was and is counted. -/
theorem countP_toList {p : α → Bool} (given : Option α) :
    given.toList.countP p = (given.any p).toNat := by
  cases given with
  | none => rfl
  | some x => by_cases hp : p x <;> simp [hp]

/-- The accumulator after logs, from the beginning. -/
def after (logs : List FixUpdate) : FixAccumulator := (gather apply {} logs).acc

/-- The fixes that logs give from the beginning, in order. -/
def fixes (logs : List FixUpdate) : List Fix := (gather apply {} logs).given

/-- The fix that a log gives after others, if it gives one. -/
def givenBy (before : List FixUpdate) (last : FixUpdate) : Option Fix :=
  ((after before).apply last).2

/-- One more log adds the fix that it gives. -/
theorem fixes_concat (before : List FixUpdate) (last : FixUpdate) :
    fixes (before ++ [last]) = fixes before ++ (givenBy before last).toList := by
  rw [fixes, gather_concat]
  rfl

/-- After logs whose tags stand together, their halves are kept. -/
theorem keeps_after (h : Contiguous logs) : Keeps logs (after logs) := by
  induction logs using List.reverseRecOn with
  | nil => exact keeps_nil
  | append_singleton before last ih =>
    rw [after, gather_concat]
    exact (ih h.of_concat).apply h

/-- There is one fix of every tag whose halves are among the logs, and none of another one. -/
theorem countP_fixes (h : Contiguous logs) (tag : Float) :
    (fixes logs).countP (·.measurementTime == tag) = if Arrived logs tag then 1 else 0 := by
  induction logs using List.reverseRecOn with
  | nil => rfl
  | append_singleton before last ih =>
    have hgiven : ((after before).store last).complete.any (·.measurementTime == tag) = true ↔
        Arrived (before ++ [last]) tag ∧ ¬Arrived before tag :=
      (Option.any_eq_true _ _).trans ((keeps_after h.of_concat).complete_iff h)
    rw [fixes_concat, List.countP_append, ih h.of_concat, countP_toList, givenBy, apply_snd]
    by_cases hbefore : Arrived before tag
    · have hnone := mt hgiven.mp (fun harrived => harrived.2 hbefore)
      rw [if_pos hbefore, if_pos hbefore.concat, Bool.eq_false_iff.mpr hnone]
      rfl
    · by_cases harrived : Arrived (before ++ [last]) tag
      · rw [if_neg hbefore, if_pos harrived, hgiven.mpr ⟨harrived, hbefore⟩]
        rfl
      · have hnone := mt hgiven.mp (fun hnew => harrived hnew.1)
        rw [if_neg hbefore, if_neg harrived, Bool.eq_false_iff.mpr hnone]
        rfl

/-- **Every time tag gets one fix.** As long as the logs of a tag stand together, there is exactly
one fix of each tag whose position and velocity are both among the logs, and none of another tag. It
is given at the first log with which both are there. It takes its velocity from the latest velocity
log up to this one, and all else, the time tag included, from the latest position log. -/
theorem one_fix_per_tag (h : Contiguous logs) :
    (∀ tag, (fixes logs).countP (·.measurementTime == tag) = if Arrived logs tag then 1 else 0) ∧
      ∀ before last rest, logs = before ++ last :: rest →
        (∀ tag, (∃ fix, givenBy before last = some fix ∧ fix.measurementTime == tag) ↔
          Arrived (before ++ [last]) tag ∧ ¬Arrived before tag) ∧
        ∀ fix, givenBy before last = some fix →
          fix.measurementTime == last.time ∧
            ∃ pos ∈ latest FixUpdate.position? (before ++ [last]),
              ∃ vel ∈ latest FixUpdate.velocity? (before ++ [last]),
                pos.1 == vel.1 ∧ fix.measurementTime = pos.1 ∧ FixOf pos.2 vel.2 fix := by
  refine ⟨countP_fixes h, ?_⟩
  rintro before last rest rfl
  have hnext : Contiguous (before ++ [last]) := by
    rw [List.append_cons] at h
    exact (List.triplewise_append.mp h).1
  have hkeeps := keeps_after hnext.of_concat
  rw [givenBy, apply_snd]
  refine ⟨fun tag => hkeeps.complete_iff hnext, ?_⟩
  intro fix hfix
  obtain ⟨htag, -, pos, hpos, vel, hvel, hhalves, hcombine⟩ := hkeeps.exists_halves hfix
  exact ⟨htag, pos, hpos, vel, hvel, hhalves, combine_eq_iff.1 hcombine⟩

/-- A position at sea level with a time tag. -/
def seaLevel (time : Float) : FixUpdate :=
  .position time
    { solutionStatus := .solComputed, positionType := .single
      latitude := 51, longitude := -114, heightMsl := 0, undulation := -17
      datumId := 61, latitudeStdDev := 2, longitudeStdDev := 2, heightStdDev := 4
      baseStationId := "", differentialAge := 0, solutionAge := 0
      numSatsTracked := 12, numSatsInSolution := 11, numSatsL1 := 11, numSatsMulti := 0
      extendedSolutionStatus := 0, galileoBeidouUsedMask := 0, gpsGlonassUsedMask := 3 }

/-- A velocity to the north with a time tag. -/
def northward (time : Float) : FixUpdate :=
  .velocity time
    { solutionStatus := .solComputed, velocityType := .single, latency := 0, age := 0
      horizontalSpeed := 3, trackOverGround := 0, verticalSpeed := 0 }

/-- The velocity of the first tag comes first and its position twice, the second tag has both the
other way round, and the third one has no velocity. The first fix is that of the position that comes
behind its velocity. -/
theorem one_fix_of_repeated_halves :
    let logs := [northward 1, seaLevel 1, seaLevel 1, seaLevel 2, northward 2, seaLevel 3]
    Contiguous logs ∧ (fixes logs).countP (·.measurementTime == 1) = 1 ∧
      (fixes logs).countP (·.measurementTime == 2) = 1 ∧
      (fixes logs).countP (·.measurementTime == 3) = 0 ∧
      ∃ fix, givenBy [northward 1] (seaLevel 1) = some fix ∧ fix.measurementTime = 1 ∧
        fix.position.longitude = -114 ∧ fix.positionStdDev.z = (4 : Float32).toFloat ∧
        fix.linearVelocity.z = 0 ∧ fix.fixType = .single ∧ fix.numSats.toNat = 11 := by
  have hlogs : Contiguous
      [northward 1, seaLevel 1, seaLevel 1, seaLevel 2, northward 2, seaLevel 3] := by decide
  obtain ⟨hcount, hmoments⟩ := one_fix_per_tag hlogs
  obtain ⟨hgiven, hmade⟩ := hmoments [northward 1] (seaLevel 1) _ rfl
  obtain ⟨fix, hfix, -⟩ := (hgiven 1).2 (by decide)
  obtain ⟨-, pos, hpos, vel, hvel, -, htime, hof⟩ := hmade fix hfix
  cases hpos
  cases hvel
  refine ⟨hlogs, (hcount 1).trans ?_, (hcount 2).trans ?_, (hcount 3).trans ?_, fix, hfix, htime,
    congrArg Position.longitude hof.position, congrArg Vector3.z hof.deviations,
    congrArg Vector3.z hof.velocity, hof.computed rfl, hof.satellites⟩ <;> decide

end FixAccumulator

end NavStream.Oem
