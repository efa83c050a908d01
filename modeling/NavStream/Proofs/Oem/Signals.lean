import Mathlib.Data.List.Chain
import NavStream.Oem.Log.Range
import NavStream.Proofs.Bytes.Offsets

/-!
# The signals of a range log

A range log begins with a count, and behind it the records of as many signals stand at fixed
distances. All of them are put together by satellites, in their order: no record is lost, repeated
or counted for another satellite, and no satellite is told twice in a row.

* `signalAt` — the record at a place, field by field;
* `rangeReader_eq`, `rangeReader_eq_none` — what a range log is read as, and when it cannot be read;
* `rangeReader_take_append` — what stands behind the announced records is left alone;
* `groupSatellites_cons` — what one more record in front adds to the groups;
* `signals_of_groups`, `bands_ne_nil_of_groups`, `isChain_groups` — what groups are;
* `grouping_keeps_signals` — all this about the payload of a range log.
-/

namespace NavStream.Oem

open NavStream.Bytes NavStream.Bytes.FieldReader

/-! ## Records at their places -/

/-- The length of a record. -/
def recordLength : Nat := 44

/-- Where the record behind `index` others begins. -/
def recordOffset (index : Nat) : Nat := 4 + recordLength * index

/-- The number of records that a range log announces. -/
def announcedSignals (payload : List UInt8) : Nat := numberAt payload 0 4

/-- The record that stands at an offset, field by field. Satellites of GLONASS are numbered from 38
on, and smaller numbers count as zero. -/
def signalAt (payload : List UInt8) (offset : Nat) : SignalObservation :=
  let prn := numberAt payload offset 2
  let double (place : Nat) := Float.ofBits (UInt64.ofNat (numberAt payload (offset + place) 8))
  let single (place : Nat) := Float32.ofBits (UInt32.ofNat (numberAt payload (offset + place) 4))
  let status : TrackingStatus := ⟨UInt32.ofNat (numberAt payload (offset + 40) 4)⟩
  { system := status.system
    satPrn := UInt32.ofNat (if status.system = .glonass then prn - 37 else prn)
    observation :=
      { band := status.band
        pseudoRange := double 4
        pseudoRangeStdDev := single 12
        carrierPhase := -double 16
        carrierPhaseStdDev := single 24
        doppler := single 28
        snr := single 32
        lockTime := single 36 } }

/-- The records that a range log announces, in order. -/
def signalsOf (payload : List UInt8) : List SignalObservation :=
  (List.range (announcedSignals payload)).map fun index => signalAt payload (recordOffset index)

/-! ## Reading records -/

variable {payload : List UInt8}

/-- A satellite is numbered by its system. -/
theorem satelliteNumber_ofNat (system : GnssSystem) {prn : Nat} (h : prn < 65536) :
    SignalObservation.satelliteNumber system (UInt16.ofNat prn) =
      UInt32.ofNat (if system = .glonass then prn - 37 else prn) := by
  have hprn : (UInt16.ofNat prn).toNat = prn := UInt16.toNat_ofNat_of_lt' h
  unfold SignalObservation.satelliteNumber
  by_cases hsystem : system = .glonass
  · subst hsystem
    rw [if_pos rfl, hprn]
    rfl
  · rw [if_neg hsystem]
    cases system with
    | glonass => exact absurd rfl hsystem
    | _ =>
      rw [← UInt32.toNat_inj, UInt16.toNat_toUInt32, hprn]
      exact (UInt32.toNat_ofNat_of_lt' (Nat.lt_trans h (by decide))).symm

/-- **A record is read at its offset**, field by field. -/
theorem reader_drop {offset : Nat} (h : offset + recordLength ≤ payload.length) :
    SignalObservation.reader (payload.drop offset) =
      some (signalAt payload offset, payload.drop (offset + recordLength)) := by
  unfold recordLength at h ⊢
  rw [SignalObservation.reader, bind_of_eq (word16_drop (by omega)),
    bind_of_eq (skip_drop (by omega)), bind_of_eq (float64_drop (by omega)),
    bind_of_eq (float32_drop (by omega)), bind_of_eq (float64_drop (by omega)),
    bind_of_eq (float32_drop (by omega)), bind_of_eq (float32_drop (by omega)),
    bind_of_eq (float32_drop (by omega)), bind_of_eq (float32_drop (by omega)),
    bind_of_eq (word32_drop (by omega))]
  rw [satelliteNumber_ofNat _ (numberAt_lt payload offset 2)]
  rfl

/-- Records that follow each other are read at their places. -/
theorem signals_drop (count : Nat) {offset : Nat}
    (h : offset + recordLength * count ≤ payload.length) :
    signals count (payload.drop offset) =
      some ((List.range count).map fun index => signalAt payload (offset + recordLength * index),
        payload.drop (offset + recordLength * count)) := by
  induction count generalizing offset with
  | zero => rfl
  | succ count ih =>
    rw [Nat.mul_succ] at h ⊢
    have hfirst : SignalObservation.reader (payload.drop offset) = _ := reader_drop (by omega)
    have hothers : signals count (payload.drop (offset + recordLength)) = _ := ih (by omega)
    have hplace : ∀ index, offset + recordLength + recordLength * index =
        offset + recordLength * (index + 1) := by
      intro index
      rw [Nat.mul_succ]
      omega
    rw [signals, bind_of_eq hfirst, bind_of_eq hothers, List.range_succ_eq_map, List.map_cons,
      List.map_map]
    simp only [hplace, Function.comp_def]
    rw [Nat.mul_succ]
    rfl

/-- A record takes its bytes, whatever they are. -/
theorem fixedWidth_signal : FixedWidth SignalObservation.reader recordLength :=
  fixedWidth_word16.bind fun _ => (fixedWidth_skip 2).bind fun _ => fixedWidth_float64.bind fun _ =>
  fixedWidth_float32.bind fun _ => fixedWidth_float64.bind fun _ => fixedWidth_float32.bind fun _ =>
  fixedWidth_float32.bind fun _ => fixedWidth_float32.bind fun _ => fixedWidth_float32.bind fun _ =>
  fixedWidth_word32.map _

/-- So do records that follow each other. -/
theorem fixedWidth_signals (count : Nat) : FixedWidth (signals count) (recordLength * count) := by
  induction count with
  | zero => exact .pure _
  | succ count ih =>
    rw [Nat.mul_succ, Nat.add_comm (recordLength * count)]
    exact fixedWidth_signal.bind fun first => ih.map (first :: ·)

/-- The count in front of the records is read as it is announced. -/
theorem toNat_announcedSignals (payload : List UInt8) :
    (UInt32.ofNat (announcedSignals payload)).toNat = announcedSignals payload :=
  UInt32.toNat_ofNat_of_lt' (numberAt_lt payload 0 4)

/-- **A range log that holds the records it announces** is read as these, grouped, and what stands
behind them is left alone. -/
theorem rangeReader_eq (time : Float)
    (h : recordOffset (announcedSignals payload) ≤ payload.length) :
    rangeReader time payload =
      some (⟨time, groupSatellites (signalsOf payload)⟩,
        payload.drop (recordOffset (announcedSignals payload))) := by
  unfold recordOffset at h ⊢
  have hcount : word32 (payload.drop 0) = _ := word32_drop (by omega)
  have hsignals : signals (announcedSignals payload) (payload.drop 4) = _ := signals_drop _ h
  rw [List.drop_zero] at hcount
  rw [rangeReader, bind_of_eq hcount, ← announcedSignals, toNat_announcedSignals,
    bind_of_eq hsignals]
  rfl

/-- What a range log is read as is decided by the bytes that are taken. -/
theorem forward_rangeReader (time : Float) : Forward (rangeReader time) :=
  fixedWidth_word32.forward.bind fun count =>
    (fixedWidth_signals count.toNat).forward.bind fun _ => .pure _

/-- A range log that announces more records than it holds cannot be read. -/
theorem rangeReader_eq_none (time : Float)
    (h : payload.length < recordOffset (announcedSignals payload)) :
    rangeReader time payload = none := by
  unfold recordOffset at h
  rcases Nat.lt_or_ge payload.length 4 with hshort | hlong
  · rw [rangeReader, bind_apply, fixedWidth_word32.short payload hshort]
    rfl
  · have hcount : word32 (payload.drop 0) = _ := word32_drop hlong
    have hnone : signals (announcedSignals payload) (payload.drop 4) = none := by
      refine (fixedWidth_signals _).short _ ?_
      rw [List.length_drop]
      omega
    rw [List.drop_zero] at hcount
    rw [rangeReader, bind_of_eq hcount, ← announcedSignals, toNat_announcedSignals, bind_apply,
      hnone]
    rfl

/-- A range log cannot be read exactly where it announces more records than it holds. -/
theorem decode?_rangeReader_eq_none_iff (time : Float) :
    decode? (rangeReader time) payload = none ↔
      payload.length < recordOffset (announcedSignals payload) := by
  unfold decode?
  constructor
  · intro hnone
    by_contra hroom
    rw [rangeReader_eq time (Nat.le_of_not_lt hroom)] at hnone
    cases hnone
  · intro hshort
    rw [rangeReader_eq_none time hshort, Option.map_none]

/-- A range log of `n` records can be read if it announces at most as many. -/
theorem isSome_rangeReader_iff (time : Float) {n : Nat}
    (hlength : payload.length = recordOffset n) :
    (decode? (rangeReader time) payload).isSome = true ↔ announcedSignals payload ≤ n := by
  have hnone := @decode?_rangeReader_eq_none_iff payload time
  rw [hlength, recordOffset, recordOffset, recordLength] at hnone
  rw [Option.isSome_iff_ne_none, Ne, hnone]
  omega

/-- What a range log is read as is decided by the records that it announces, and whatever stands
behind them is left alone. -/
theorem rangeReader_take_append (time : Float)
    (hinside : recordOffset (announcedSignals payload) ≤ payload.length) (rest : List UInt8) :
    rangeReader time (payload.take (recordOffset (announcedSignals payload)) ++ rest) =
      some (⟨time, groupSatellites (signalsOf payload)⟩, rest) := by
  obtain ⟨front, hfront, hreads⟩ :=
    forward_rangeReader time _ _ _ (rangeReader_eq time hinside)
  have hsplit := List.take_append_drop (recordOffset (announcedSignals payload)) payload
  have hsame : payload.take (recordOffset (announcedSignals payload)) = front :=
    List.append_cancel_right (hsplit.trans hfront)
  rw [hsame]
  exact hreads rest

/-! ## Groups -/

/-- Which satellite a group of signals belongs to. -/
def identity (satellite : SatelliteObservation) : GnssSystem × UInt32 :=
  (satellite.system, satellite.satPrn)

/-- The signals of a group, one for each band. -/
def signalsOfGroup (satellite : SatelliteObservation) : List SignalObservation :=
  satellite.bands.map fun observation => ⟨satellite.system, satellite.satPrn, observation⟩

/-- **One more record in front** joins the first group if it is of the same satellite, and makes a
group of its own otherwise. -/
theorem groupSatellites_cons (signal : SignalObservation) (rest : List SignalObservation) :
    (∃ next others, groupSatellites rest = next :: others ∧
      identity next = (signal.system, signal.satPrn) ∧
      groupSatellites (signal :: rest) =
        { next with bands := signal.observation :: next.bands } :: others) ∨
    ((∀ next ∈ (groupSatellites rest).head?, identity next ≠ (signal.system, signal.satPrn)) ∧
      groupSatellites (signal :: rest) =
        ⟨signal.system, signal.satPrn, [signal.observation]⟩ :: groupSatellites rest) := by
  rw [groupSatellites]
  cases groupSatellites rest with
  | nil => exact .inr ⟨by simp, rfl⟩
  | cons next others =>
    dsimp only
    by_cases hsame : signal.system = next.system ∧ signal.satPrn = next.satPrn
    · rw [if_pos hsame]
      exact .inl ⟨next, others, rfl, Prod.ext hsame.1.symm hsame.2.symm, rfl⟩
    · rw [if_neg hsame]
      refine .inr ⟨?_, rfl⟩
      intro first hfirst hidentity
      obtain rfl : next = first := Option.some.inj hfirst
      obtain ⟨hsystem, hprn⟩ := Prod.mk.inj hidentity
      exact hsame ⟨hsystem.symm, hprn.symm⟩

/-- The groups hold the signals that were grouped, in order. -/
theorem signals_of_groups (records : List SignalObservation) :
    (groupSatellites records).flatMap signalsOfGroup = records := by
  induction records with
  | nil => rfl
  | cons signal rest ih =>
    rcases groupSatellites_cons signal rest with ⟨next, others, hrest, hsame, hgroups⟩ |
      ⟨-, hgroups⟩
    · obtain ⟨hsystem, hprn⟩ := Prod.mk.inj hsame
      rw [hrest] at ih
      rw [hgroups, ← ih]
      simp [signalsOfGroup, hsystem, hprn]
    · rw [hgroups, List.flatMap_cons, ih]
      rfl

/-- No group is empty. -/
theorem bands_ne_nil_of_groups {records : List SignalObservation} {satellite : SatelliteObservation}
    (h : satellite ∈ groupSatellites records) : satellite.bands ≠ [] := by
  induction records generalizing satellite with
  | nil => cases h
  | cons signal rest ih =>
    rcases groupSatellites_cons signal rest with ⟨next, others, hrest, -, hgroups⟩ | ⟨-, hgroups⟩
    · rw [hgroups] at h
      rcases List.mem_cons.1 h with rfl | hmem
      · exact List.cons_ne_nil _ _
      · exact ih (hrest ▸ List.mem_cons_of_mem _ hmem)
    · rw [hgroups] at h
      rcases List.mem_cons.1 h with rfl | hmem
      · exact List.cons_ne_nil _ _
      · exact ih hmem

/-- Groups that follow each other belong to different satellites. -/
theorem isChain_groups (records : List SignalObservation) :
    (groupSatellites records).IsChain fun earlier later => identity earlier ≠ identity later := by
  induction records with
  | nil => exact List.isChain_nil
  | cons signal rest ih =>
    rcases groupSatellites_cons signal rest with ⟨next, others, hrest, -, hgroups⟩ |
      ⟨hother, hgroups⟩
    · rw [hrest, List.isChain_cons] at ih
      rw [hgroups, List.isChain_cons]
      exact ⟨fun later hlater => ih.1 later hlater, ih.2⟩
    · rw [hgroups, List.isChain_cons]
      exact ⟨fun next hnext => (hother next hnext).symm, ih⟩

/-- **Grouping keeps every signal, and keeps satellites apart.** Where a range log is read, all the
records that it announces lie inside it. The bands of the satellites it is read as, one after the
other, are these records in order, each counted for its own satellite. No satellite is without a
band, and satellites that follow each other are different ones. -/
theorem grouping_keeps_signals (time : Float) (payload : List UInt8) {observation : Observation}
    (h : decode? (rangeReader time) payload = some observation) :
    recordOffset (announcedSignals payload) ≤ payload.length ∧
      observation.satellites.flatMap signalsOfGroup = signalsOf payload ∧
      (∀ satellite ∈ observation.satellites, satellite.bands ≠ []) ∧
      observation.satellites.IsChain fun earlier later => identity earlier ≠ identity later := by
  have hinside : recordOffset (announcedSignals payload) ≤ payload.length := by
    by_contra hshort
    rw [decode?, rangeReader_eq_none time (Nat.lt_of_not_le hshort)] at h
    cases h
  rw [decode?, rangeReader_eq time hinside, Option.map_some, Option.some.injEq] at h
  subst h
  refine ⟨hinside, signals_of_groups _, ?_, isChain_groups _⟩
  intro satellite hmem
  exact bands_ne_nil_of_groups hmem

/-- A record of a satellite with its tracking word, and nothing else in it. -/
def bareRecord (prn : UInt16) (word : UInt32) : List UInt8 :=
  leBytes 2 prn.toNat ++ List.replicate 38 0 ++ leBytes 4 word.toNat

/-- Two bands of a GPS satellite stay together, and the GLONASS satellite behind them is told by its
slot. -/
theorem grouping_keeps_three_signals :
    let payload := leBytes 4 3 ++ bareRecord 5 0 ++ bareRecord 5 0x00A00000 ++
      bareRecord 45 0x00010000
    let observation : Observation := ⟨10.0, groupSatellites (signalsOf payload)⟩
    decode? (rangeReader 10.0) payload = some observation ∧
      observation.satellites.flatMap signalsOfGroup = signalsOf payload ∧
      observation.satellites.map identity = [(.gps, 5), (.glonass, 8)] ∧
      observation.satellites.map (fun satellite => satellite.bands.map (·.band)) =
        [[.gpsL1, .gpsL2], [.gloG1]] := by
  intro payload observation
  have hinside : recordOffset (announcedSignals payload) ≤ payload.length := by decide +kernel
  have hread : decode? (rangeReader 10.0) payload = some observation := by
    rw [decode?, rangeReader_eq 10.0 hinside]
    rfl
  exact ⟨hread, (grouping_keeps_signals 10.0 payload hread).2.1, by decide +kernel,
    by decide +kernel⟩

end NavStream.Oem
