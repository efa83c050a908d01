import Mathlib.LinearAlgebra.Matrix.Symmetric
import NavStream.Oem.Ins
import NavStream.Proofs.Oem.Gathered

/-!
# Samples of inertial solutions

Every solution gives a sample, and no other log does. What a sample tells beyond its solution comes
from two earlier logs, the latest corrected changes and the latest covariances, and from nothing
else: changes that are of another time are left out, covariances are kept however old they are. So
neither the order of these logs between two solutions matters, nor those that are followed by others
of their sort.

* `entries_eulerCovariance` — the covariance of the attitude by rows and columns;
* `InsAccumulator.after_eq` — what the accumulator keeps is the latest of what logs bring;
* `InsAccumulator.SampleOf` — the sample of a solution, told by the logs before it;
* `InsAccumulator.samples_congr` — logs that leave the same behind are followed by the same samples;
* `InsAccumulator.samples_of_logs` — the samples of any logs.
-/

namespace NavStream.Oem

/-! ## What logs bring -/

/-- The time of corrected changes. -/
def CorrImuData.time (log : CorrImuData) : Float := Time.gpsSecondsOfWeek log.gpsWeek log.gpsSeconds

/-- The time of a solution. -/
def InsPva.time (log : InsPva) : Float := Time.gpsSecondsOfWeek log.gpsWeek log.gpsSeconds

/-- Corrected changes as rates. -/
def CorrImuData.toRates (log : CorrImuData) (rate : Float) : Rates where
  time := log.time
  angularVelocity := changeRate log.angleChange rate
  linearAcceleration := changeRate log.velocityChange rate

/-- Covariances in the order of messages. -/
def InsCov.toCovariances (log : InsCov) : Covariances where
  position := log.positionCovariance
  eulerAngles := eulerCovariance log.attitudeCovariance
  linearVelocity := log.velocityCovariance

namespace InsUpdate

/-- The corrected changes that a log brings. -/
def rates? : InsUpdate → Option CorrImuData
  | rates log => some log
  | covariance _ | solution _ => none

/-- The covariances that a log brings. -/
def covariance? : InsUpdate → Option InsCov
  | covariance log => some log
  | rates _ | solution _ => none

/-- The solution that a log brings. -/
def solution? : InsUpdate → Option InsPva
  | solution log => some log
  | rates _ | covariance _ => none

end InsUpdate

/-! ## Rows and columns -/

/-- A matrix by rows and columns. -/
def entries (matrix : Matrix3) : Matrix (Fin 3) (Fin 3) Float :=
  .of fun row column => matrix[3 * row.val + column.val]

/-- Exchanging places is exchanging the first two rows, and the first two columns. -/
theorem exchangedIndex_eq (row column : Fin 3) :
    exchangedIndex ⟨3 * row + column, by omega⟩ =
      ⟨3 * Equiv.swap 0 1 row + Equiv.swap 0 1 column, by omega⟩ := by
  revert row column
  decide

/-- **The covariance of the attitude has its first two rows, and its first two columns, exchanged**,
and is in radians. -/
theorem entries_eulerCovariance (attitude : Matrix3) :
    entries (eulerCovariance attitude) =
      ((entries attitude).submatrix (Equiv.swap 0 1) (Equiv.swap 0 1)).map
        fun entry => entry * degree * degree := by
  ext row column
  have hindex := exchangedIndex_eq row column
  simp [entries, eulerCovariance, hindex]

namespace InsAccumulator

/-! ## What the accumulator keeps -/

variable {rate : Float} {before first second quiet : List InsUpdate}

/-- The accumulator after logs, from the beginning. -/
def after (rate : Float) (logs : List InsUpdate) : InsAccumulator :=
  (gather apply (.new rate) logs).acc

/-- The samples that logs give from the beginning, in order. -/
def samples (rate : Float) (logs : List InsUpdate) : List Ins :=
  (gather apply (.new rate) logs).given

/-- The sample that a log gives after others, if it gives one. -/
def givenBy (rate : Float) (before : List InsUpdate) (last : InsUpdate) : Option Ins :=
  ((after rate before).apply last).2

/-- **The accumulator keeps the latest of what logs bring**, and nothing else. -/
theorem after_eq (rate : Float) (logs : List InsUpdate) :
    after rate logs =
      { rate
        rates := (latestOf InsUpdate.rates? logs).map (·.toRates rate)
        covariances := (latestOf InsUpdate.covariance? logs).map (·.toCovariances) } := by
  induction logs using List.reverseRecOn with
  | nil => rfl
  | append_singleton before last ih =>
    have hafter : after rate (before ++ [last]) = ((after rate before).apply last).1 := by
      rw [after, gather_concat]
      rfl
    rw [hafter, ih, latestOf_append, latestOf_append, latestOf_singleton, latestOf_singleton]
    cases last <;> rfl

/-- Only a solution gives a sample. -/
theorem givenBy_eq (rate : Float) (before : List InsUpdate) (last : InsUpdate) :
    givenBy rate before last = last.solution?.map (after rate before).sample := by
  cases last <;> rfl

/-- One more log adds the sample that it gives. -/
theorem samples_concat (rate : Float) (before : List InsUpdate) (last : InsUpdate) :
    samples rate (before ++ [last]) = samples rate before ++ (givenBy rate before last).toList := by
  rw [samples, gather_concat]
  rfl

/-- There are as many samples as solutions. -/
theorem length_samples (rate : Float) (logs : List InsUpdate) :
    (samples rate logs).length = logs.countP (·.solution?.isSome) := by
  induction logs using List.reverseRecOn with
  | nil => rfl
  | append_singleton before last ih =>
    rw [samples_concat, List.length_append, List.countP_append, ih, givenBy_eq,
      List.countP_singleton]
    cases last.solution? <;> rfl

/-- **Logs that leave the same behind are followed by the same samples.** -/
theorem samples_congr (hsamples : samples rate first = samples rate second)
    (hafter : after rate first = after rate second) (rest : List InsUpdate) :
    samples rate (first ++ rest) = samples rate (second ++ rest) := by
  unfold samples after at *
  rw [gather_append, gather_append, hsamples, hafter]

/-- Logs without a solution add no sample. -/
theorem samples_append_quiet (hquiet : ∀ log ∈ quiet, log.solution? = none) :
    samples rate (before ++ quiet) = samples rate before := by
  induction quiet using List.reverseRecOn with
  | nil => rw [List.append_nil]
  | append_singleton quiet last ih =>
    have hlast : last.solution? = none := hquiet last (by simp)
    rw [← List.append_assoc, samples_concat, givenBy_eq, hlast,
      ih fun log hmem => hquiet log (List.mem_append_left _ hmem)]
    exact List.append_nil _

/-- The sample of a solution stands behind those of the logs before it. -/
theorem getElem?_samples (rate : Float) (before : List InsUpdate) (pva : InsPva)
    (rest : List InsUpdate) :
    (samples rate (before ++ .solution pva :: rest))[before.countP (·.solution?.isSome)]? =
      givenBy rate before (.solution pva) := by
  rw [← length_samples rate, List.append_cons, samples, gather_append]
  show (samples rate (before ++ [.solution pva]) ++ _)[(samples rate before).length]? = _
  rw [samples_concat, List.append_assoc, List.getElem?_append_right (Nat.le_refl _), Nat.sub_self]
  rfl

/-! ## What a sample tells -/

/-- `SampleOf rate before pva ins`: the sample of a solution behind other logs, told by these. -/
structure SampleOf (rate : Float) (before : List InsUpdate) (pva : InsPva) (ins : Ins) : Prop where
  /-- It is of the time of the solution. -/
  time : ins.measurementTime = pva.time
  /-- The latest changes are added if they are of the same time, per second and in the frame of the
  vehicle. -/
  attached : ∀ log ∈ latestOf InsUpdate.rates? before, log.time == pva.time →
    ins.angularVelocity =
        some ⟨log.angleChange.y * rate, -log.angleChange.x * rate, log.angleChange.z * rate⟩ ∧
      ins.linearAcceleration =
        some ⟨log.velocityChange.y * rate, -log.velocityChange.x * rate,
          log.velocityChange.z * rate⟩
  /-- Where the latest ones are of another time, or there are none, nothing is added. -/
  unattached : (∀ log ∈ latestOf InsUpdate.rates? before, (log.time == pva.time) = false) →
    ins.angularVelocity = none ∧ ins.linearAcceleration = none
  /-- The latest covariances are added: those of position and velocity as they are, that of the
  attitude with the first two rows and columns exchanged, in radians. -/
  covered : ∀ log ∈ latestOf InsUpdate.covariance? before,
    ins.positionCovariance = some log.positionCovariance ∧
      ins.linearVelocityCovariance = some log.velocityCovariance ∧
      ∃ euler, ins.eulerAnglesCovariance = some euler ∧
        entries euler = ((entries log.attitudeCovariance).submatrix (Equiv.swap 0 1)
          (Equiv.swap 0 1)).map (fun entry => entry * degree * degree) ∧
        ((entries log.attitudeCovariance).IsSymm → (entries euler).IsSymm)
  /-- Where there are none nothing is added. -/
  uncovered : latestOf InsUpdate.covariance? before = none →
    ins.positionCovariance = none ∧ ins.linearVelocityCovariance = none ∧
      ins.eulerAnglesCovariance = none

/-- The latest changes are those of a time if their own time is equal. -/
theorem ratesAt_after (rate : Float) (before : List InsUpdate) (time : Float) :
    (after rate before).ratesAt time =
      ((latestOf InsUpdate.rates? before).filter (·.time == time)).map (·.toRates rate) := by
  rw [after_eq, ratesAt, Option.filter_map]
  rfl

/-- **A solution gives its sample.** -/
theorem sampleOf_sample (rate : Float) (before : List InsUpdate) (pva : InsPva) :
    SampleOf rate before pva ((after rate before).sample pva) := by
  have hangular : ((after rate before).sample pva).angularVelocity =
      ((after rate before).ratesAt pva.time).map (·.angularVelocity) := rfl
  have hlinear : ((after rate before).sample pva).linearAcceleration =
      ((after rate before).ratesAt pva.time).map (·.linearAcceleration) := rfl
  have hcovariances : (after rate before).covariances =
      (latestOf InsUpdate.covariance? before).map (·.toCovariances) := by
    rw [after_eq]
  refine ⟨rfl, ?_, ?_, ?_, ?_⟩
  · intro log hlatest htime
    have hattached : (after rate before).ratesAt pva.time = some (log.toRates rate) := by
      rw [ratesAt_after, Option.mem_def.1 hlatest, Option.filter_some, if_pos htime,
        Option.map_some]
    rw [hangular, hlinear, hattached]
    exact ⟨rfl, rfl⟩
  · intro hother
    have hnone : (after rate before).ratesAt pva.time = none := by
      rw [ratesAt_after, Option.map_eq_none_iff, Option.filter_eq_none_iff]
      intro log hlatest
      exact Bool.eq_false_iff.1 (hother log hlatest)
    rw [hangular, hlinear, hnone]
    exact ⟨rfl, rfl⟩
  · intro log hlatest
    rw [Option.mem_def.1 hlatest, Option.map_some] at hcovariances
    unfold sample
    rw [hcovariances]
    have hentries := entries_eulerCovariance log.attitudeCovariance
    refine ⟨rfl, rfl, eulerCovariance log.attitudeCovariance, rfl, hentries, fun hsymm => ?_⟩
    rw [hentries]
    exact (hsymm.submatrix _).map _
  · intro hnone
    rw [hnone, Option.map_none] at hcovariances
    unfold sample
    rw [hcovariances]
    exact ⟨rfl, rfl, rfl⟩

/-! ## Logs that make no difference -/

/-- Logs that are followed by others of their sort leave nothing behind. -/
theorem latestOf_superseded {α β : Type} (bring? : β → Option α) (before : List β)
    {old : β} (middle : List β) {new : β} (h : bring? old ≠ none → bring? new ≠ none) :
    latestOf bring? (before ++ old :: (middle ++ [new])) =
      latestOf bring? (before ++ (middle ++ [new])) := by
  rw [List.append_cons, latestOf_append _ (before ++ [old]), latestOf_append _ before (middle ++ _),
    latestOf_append _ before [old], latestOf_append _ middle, latestOf_singleton,
    latestOf_singleton]
  cases hold : bring? old with
  | none => rw [Option.none_or]
  | some value =>
    obtain ⟨value', hnew⟩ := Option.ne_none_iff_exists'.1 (h (by simp [hold]))
    simp [hnew]

/-- **A log that is no solution may be left out** if one of its sort follows before the next
solution. -/
theorem samples_superseded (rate : Float) (before : List InsUpdate) {middle : List InsUpdate}
    (hquiet : ∀ log ∈ middle, log.solution? = none) (rest : List InsUpdate) {old new : InsUpdate}
    (hold : old.solution? = none) (hnew : new.solution? = none)
    (hrates : old.rates? ≠ none → new.rates? ≠ none)
    (hcovariance : old.covariance? ≠ none → new.covariance? ≠ none) :
    samples rate (before ++ old :: (middle ++ new :: rest)) =
      samples rate (before ++ (middle ++ new :: rest)) := by
  have hlast : ∀ log ∈ middle ++ [new], log.solution? = none := by
    intro log hmem
    rcases List.mem_append.1 hmem with hmem | hmem
    · exact hquiet log hmem
    · rwa [List.mem_singleton.1 hmem]
  have hall : ∀ log ∈ old :: (middle ++ [new]), log.solution? = none :=
    List.forall_mem_cons.2 ⟨hold, hlast⟩
  have hsamples : samples rate (before ++ old :: (middle ++ [new])) =
      samples rate (before ++ (middle ++ [new])) := by
    rw [samples_append_quiet hall, samples_append_quiet hlast]
  have hafter : after rate (before ++ old :: (middle ++ [new])) =
      after rate (before ++ (middle ++ [new])) := by
    rw [after_eq, after_eq, latestOf_superseded _ _ _ hrates,
      latestOf_superseded _ _ _ hcovariance]
  simpa using samples_congr hsamples hafter rest

/-- **Changes and covariances that follow each other may be exchanged.** -/
theorem samples_exchanged (rate : Float) (before rest : List InsUpdate) (changes : CorrImuData)
    (cov : InsCov) :
    samples rate (before ++ .rates changes :: .covariance cov :: rest) =
      samples rate (before ++ .covariance cov :: .rates changes :: rest) := by
  have hfirst : ∀ log ∈ [InsUpdate.rates changes, .covariance cov], log.solution? = none := by
    simp [InsUpdate.solution?]
  have hsecond : ∀ log ∈ [InsUpdate.covariance cov, .rates changes], log.solution? = none := by
    simp [InsUpdate.solution?]
  have hsamples : samples rate (before ++ [.rates changes, .covariance cov]) =
      samples rate (before ++ [.covariance cov, .rates changes]) := by
    rw [samples_append_quiet hfirst, samples_append_quiet hsecond]
  have hafter : after rate (before ++ [.rates changes, .covariance cov]) =
      after rate (before ++ [.covariance cov, .rates changes]) := by
    rw [after_eq, after_eq, latestOf_append, latestOf_append, latestOf_append, latestOf_append]
    rfl
  simpa using samples_congr hsamples hafter rest

/-- **Samples tell the latest of what logs have brought.** Just the solutions give samples, each of
them one, and its sample is told by the logs before it: by the latest changes, if these are of the
same time, and by the latest covariances. So the samples are the same if changes and covariances
that follow each other are exchanged, and if changes or covariances are left out behind which others
of their sort stand before the next solution. -/
theorem samples_of_logs (rate : Float) :
    (∀ logs, (samples rate logs).length = logs.countP (·.solution?.isSome)) ∧
    (∀ before last, (givenBy rate before last).isSome = last.solution?.isSome) ∧
    (∀ before pva rest, ∃ ins, givenBy rate before (.solution pva) = some ins ∧
      (samples rate (before ++ .solution pva :: rest))[before.countP (·.solution?.isSome)]? =
        some ins ∧
      SampleOf rate before pva ins) ∧
    (∀ before changes cov rest,
      samples rate (before ++ .rates changes :: .covariance cov :: rest) =
        samples rate (before ++ .covariance cov :: .rates changes :: rest)) ∧
    ∀ before middle rest, (∀ log ∈ middle, log.solution? = none) →
      (∀ old new : CorrImuData,
        samples rate (before ++ .rates old :: (middle ++ .rates new :: rest)) =
          samples rate (before ++ (middle ++ .rates new :: rest))) ∧
      ∀ old new : InsCov,
        samples rate (before ++ .covariance old :: (middle ++ .covariance new :: rest)) =
          samples rate (before ++ (middle ++ .covariance new :: rest)) := by
  refine ⟨length_samples rate, ?_, ?_, ?_, ?_⟩
  · intro before last
    rw [givenBy_eq, Option.isSome_map]
  · intro before pva rest
    refine ⟨(after rate before).sample pva, rfl, ?_, sampleOf_sample rate before pva⟩
    exact getElem?_samples rate before pva rest
  · intro before changes cov rest
    exact samples_exchanged rate before rest changes cov
  · intro before middle rest hquiet
    constructor
    · intro old new
      exact samples_superseded rate before hquiet rest rfl rfl nofun nofun
    · intro old new
      exact samples_superseded rate before hquiet rest rfl rfl nofun nofun

end InsAccumulator

end NavStream.Oem
