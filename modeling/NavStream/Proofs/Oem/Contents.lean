import NavStream.Proofs.Oem.Layouts
import NavStream.Proofs.Oem.LogGroups
import NavStream.Proofs.Oem.Signals

/-!
# What payloads of accepted lengths hold

The length of a payload is compared with that of its log before it is read, and reading needs no
more than this: whatever the bytes are, the layout of every log fits. Only a range log may announce
more records than its length has room for, and only a raw sample may name a unit that is not known.

* `LogId.exists_width` — layouts against the lengths that are accepted;
* `LogId.exists_content` — a payload of an accepted length can be read;
* `message_eq_none_iff` — which logs that are not put together with others give no message;
* `accepted_payloads_are_read` — all this about what is dispatched.
-/

namespace NavStream.Oem

open NavStream.Bytes NavStream.Bytes.FieldReader

variable {id : LogId} {payload : List UInt8}

/-! ## Layouts and lengths -/

namespace LogId

/-- **Every layout but that of range logs has a width**, and the payloads of its log are as long. -/
theorem exists_width (time : Float) (hid : id ≠ .range) :
    ∃ width length, id.payloadLength = .fixed length ∧ width ≤ length ∧
      FixedWidth (id.reader time) width := by
  cases id with
  | bestPos | psrPos | bestGnssPos => exact ⟨72, 72, rfl, Nat.le_refl _, fixedWidth_bestPos⟩
  | bestVel | psrVel | bestGnssVel => exact ⟨40, 44, rfl, by decide, fixedWidth_bestVel⟩
  | corrImuData | corrImuDataS | imuRateCorrImuS =>
    exact ⟨60, 60, rfl, Nat.le_refl _, fixedWidth_corrImuData⟩
  | insCov | insCovS => exact ⟨228, 228, rfl, Nat.le_refl _, fixedWidth_insCov⟩
  | insPva | insPvaS => exact ⟨88, 88, rfl, Nat.le_refl _, fixedWidth_insPva⟩
  | insPvaX => exact ⟨126, 126, rfl, Nat.le_refl _, fixedWidth_insPvaX⟩
  | rawImu | rawImuS => exact ⟨40, 40, rfl, Nat.le_refl _, fixedWidth_rawImu⟩
  | rawImuX | rawImuSX => exact ⟨40, 40, rfl, Nat.le_refl _, fixedWidth_extendedRawImu⟩
  | gpsEphemeris => exact ⟨224, 224, rfl, Nat.le_refl _, fixedWidth_gpsOrbit⟩
  | bdsEphemeris => exact ⟨196, 196, rfl, Nat.le_refl _, fixedWidth_beiDouOrbit⟩
  | gloEphemeris => exact ⟨140, 144, rfl, by decide, fixedWidth_glonassOrbit⟩
  | range => exact absurd rfl hid
  | heading => exact ⟨44, 44, rfl, Nat.le_refl _, fixedWidth_heading time⟩

/-- A payload of an accepted length can be read, whatever its bytes are. -/
theorem exists_content (time : Float) (hid : id ≠ .range)
    (haccepts : id.accepts payload.length = true) :
    ∃ content, decode? (id.reader time) payload = some content := by
  obtain ⟨width, length, hlength, hle, hwidth⟩ := id.exists_width time hid
  have hsame : payload.length = length := by
    rw [accepts, hlength] at haccepts
    exact eq_of_beq haccepts
  rw [← Option.isSome_iff_exists, hwidth.isSome_decode?, hsame]
  exact hle

/-- Range logs are as long as a count and any number of records. -/
theorem accepts_range_iff (length : Nat) :
    range.accepts length = true ↔ ∃ n, length = recordOffset n := by
  unfold accepts payloadLength PayloadLength.admits recordOffset recordLength
  rw [Bool.and_eq_true, decide_eq_true_iff, beq_iff_eq]
  constructor
  · rintro ⟨hcount, hrecords⟩
    exact ⟨(length - 4) / 44, by omega⟩
  · rintro ⟨n, rfl⟩
    omega

end LogId

/-! ## Raw samples of a unit that is not known -/

/-- Whether a payload is a raw sample of a unit that it names, but that is not known. -/
def namesUnknownUnit (id : LogId) (payload : List UInt8) : Prop :=
  (id = .rawImuX ∨ id = .rawImuSX) ∧ ImuType.ofCode? (payload.getD 1 0) = none

/-- The fields at the end of a raw sample do not change the unit. -/
theorem yields_counts (imuType : Option UInt8) (imuError : UInt8) (gpsWeek : UInt32)
    (gpsSeconds : Float) :
    Yields (RawImu.counts imuType imuError gpsWeek gpsSeconds) fun log => log.imuType = imuType :=
  .bind fun _ => .bind fun _ => .bind fun _ => .bind fun _ => .bind fun _ => .bind fun _ =>
  .bind fun _ => .pure rfl

/-- A raw sample names its unit in its second byte. -/
theorem imuType_of_decode? {log : RawImu} (h : decode? RawImu.extendedReader payload = some log) :
    log.imuType = some (payload.getD 1 0) := by
  have hlength : 40 ≤ payload.length := by
    rw [← fixedWidth_extendedRawImu.isSome_decode?, h]
    rfl
  match payload, hlength, h with
  | imuError :: imuType :: rest, _, h =>
    obtain ⟨⟨read, left⟩, hread, rfl⟩ := Option.map_eq_some_iff.1 h
    rw [RawImu.extendedReader, bind_of_eq (word8_cons imuError _),
      bind_of_eq (word8_cons imuType _)] at hread
    have hyields : Yields (word16 >>= fun gpsWeek => float64 >>= fun gpsSeconds =>
        RawImu.counts (some imuType) imuError gpsWeek.toUInt32 gpsSeconds)
        fun log => log.imuType = some imuType :=
      .bind fun _ => .bind fun _ => yields_counts _ _ _ _
    exact hyields rest read left hread

/-- **Outside of groups, only a sample of a unit that is not known gives no message.** -/
theorem message_eq_none_iff (memory : Memory) (settings : Settings) (time : Float)
    {content : id.Content} (hread : decode? (id.reader time) payload = some content)
    (hgroup : id.group? = none) :
    (memory.perform settings (id.action time content)).message = none ↔
      namesUnknownUnit id payload := by
  rw [Memory.message_perform, namesUnknownUnit]
  cases id with
  | bestPos | psrPos | bestVel | psrVel | bestGnssVel | corrImuData | corrImuDataS |
    imuRateCorrImuS | insCov | insCovS | insPva | insPvaS => cases hgroup
  | rawImuX | rawImuSX =>
    have hunit : content.imuType = some (payload.getD 1 0) := imuType_of_decode? hread
    simp [LogId.action, Settings.extendedSample?, hunit]
  | bestGnssPos | insPvaX | rawImu | rawImuS | gpsEphemeris | bdsEphemeris | gloEphemeris | range |
    heading => simp [LogId.action]

/-- A sample of a unit that is not known leaves the memory as it is. -/
theorem memory_eq_of_namesUnknownUnit (memory : Memory) (settings : Settings) (time : Float)
    {content : id.Content} (hread : decode? (id.reader time) payload = some content)
    (hunknown : namesUnknownUnit id payload) :
    (memory.perform settings (id.action time content)).memory = memory := by
  obtain ⟨rfl | rfl, hnone⟩ := hunknown
  all_goals
    have hunit : content.imuType = some (payload.getD 1 0) := imuType_of_decode? hread
    have hsample : settings.extendedSample? content = none := by
      unfold Settings.extendedSample?
      rw [hunit, Option.getD_some, hnone, Option.map_none]
    exact (memory.applyExtended_eq settings content).2.2.2 hsample

/-! ## Dispatching -/

/-- A payload of an accepted length does what its log does. -/
theorem dispatch_of_accepts (memory : Memory) (settings : Settings) {header : Header}
    (hcode : LogId.ofCode? header.messageId = some id)
    (haccepts : id.accepts payload.length = true) {content : id.Content}
    (hread : decode? (id.reader header.measurementTime) payload = some content) :
    memory.dispatch settings header payload =
      memory.perform settings (id.action header.measurementTime content) := by
  unfold Memory.dispatch
  rw [hcode]
  dsimp only
  rw [if_pos haccepts, Memory.applyLog_eq, hread]
  rfl

/-- **A payload of an accepted length can be read.** Whatever its bytes are, every log but a range
log finds its content there, and dispatching does what the log does with it: it goes into its group,
or it gives a message, and only a raw sample of a unit that is not known is dropped. A range log of
`n` records can be read if it announces at most as many. It is then read as the records that it
announces, whatever stands behind them. -/
theorem accepted_payloads_are_read (settings : Settings) (memory : Memory) (header : Header)
    (payload : List UInt8) :
    (∀ id : LogId, id ≠ .range → id.accepts payload.length = true →
      ∃ content, decode? (id.reader header.measurementTime) payload = some content ∧
        (LogId.ofCode? header.messageId = some id →
          memory.dispatch settings header payload =
              memory.perform settings (id.action header.measurementTime content) ∧
            (id.group? = none →
              ((memory.dispatch settings header payload).message = none ↔
                namesUnknownUnit id payload)) ∧
            (namesUnknownUnit id payload →
              (memory.dispatch settings header payload).memory = memory))) ∧
    (∀ length, LogId.range.accepts length = true ↔ ∃ n, length = 4 + 44 * n) ∧
    ∀ (n : Nat) (time : Float), payload.length = 4 + 44 * n →
      ((decode? (rangeReader time) payload).isSome = true ↔ announcedSignals payload ≤ n) ∧
      (announcedSignals payload ≤ n → ∀ rest : List UInt8,
        rangeReader time (payload.take (4 + 44 * announcedSignals payload) ++ rest) =
          some (⟨time, groupSatellites (signalsOf payload)⟩, rest)) := by
  refine ⟨?_, LogId.accepts_range_iff, ?_⟩
  · intro id hid haccepts
    obtain ⟨content, hread⟩ := id.exists_content header.measurementTime hid haccepts
    refine ⟨content, hread, fun hcode => ?_⟩
    rw [dispatch_of_accepts memory settings hcode haccepts hread]
    refine ⟨rfl, ?_, ?_⟩
    · intro hgroup
      exact message_eq_none_iff memory settings _ hread hgroup
    · intro hunknown
      exact memory_eq_of_namesUnknownUnit memory settings _ hread hunknown
  · intro n time hlength
    refine ⟨isSome_rangeReader_iff time hlength, ?_⟩
    intro hroom rest
    have hinside : recordOffset (announcedSignals payload) ≤ payload.length := by
      unfold recordOffset recordLength
      omega
    exact rangeReader_take_append time hinside rest

end NavStream.Oem
