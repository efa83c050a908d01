import NavStream.Proofs.Oem.Signals

/-!
# Which records share a satellite

A range log is grouped by satellites: each record gives one band, to the satellite of the record in
front of it if both are of the same one, and else to a new satellite. What counts as the same is the
system and the number that is reported. GLONASS satellites are numbered from 38 on, and all smaller
numbers are reported as zero, so records of these are put together although their numbers differ.
Nothing else is.

* `placedBands`, `ShareSatellite` — which satellite the band of a record belongs to;
* `places_succ` — what one more record adds;
* `exists_place_of_le` — the places of records that are further apart;
* `satPrn_eq_iff` — which numbers are reported as the same;
* `sharing_iff` — when two records of a range log share a satellite.
-/

namespace NavStream.Oem

open NavStream.Bytes NavStream.Bytes.FieldReader

/-! ## The satellite of a band -/

/-- The bands of satellites, one after the other, each with the place of its satellite. -/
def placedBands : List SatelliteObservation → List (Nat × BandObservation)
  | [] => []
  | satellite :: others =>
    satellite.bands.map (0, ·) ++ (placedBands others).map (Prod.map (· + 1) id)

/-- The places of the satellites, once for each of their bands. -/
def places (satellites : List SatelliteObservation) : List Nat :=
  (placedBands satellites).map Prod.fst

/-- Two bands belong to the same satellite. -/
def ShareSatellite (satellites : List SatelliteObservation) (first second : Nat) : Prop :=
  ∃ place band other, (placedBands satellites)[first]? = some (place, band) ∧
    (placedBands satellites)[second]? = some (place, other)

/-- The satellite that a record is counted for. -/
def satelliteOf (signal : SignalObservation) : GnssSystem × UInt32 := (signal.system, signal.satPrn)

/-- The bands are those of the satellites, one after the other. -/
theorem bands_placedBands (satellites : List SatelliteObservation) :
    (placedBands satellites).map Prod.snd = satellites.flatMap (·.bands) := by
  induction satellites with
  | nil => rfl
  | cons satellite others ih =>
    rw [placedBands, List.map_append, List.flatMap_cons, ← ih, List.map_map, List.map_map]
    simp [Function.comp_def]

/-- Each record gives its own band. -/
theorem bands_groupSatellites (records : List SignalObservation) :
    (placedBands (groupSatellites records)).map Prod.snd = records.map (·.observation) := by
  have hsignals := congrArg (List.map (·.observation)) (signals_of_groups records)
  rw [bands_placedBands, ← hsignals, List.map_flatMap]
  simp [signalsOfGroup, Function.comp_def]

/-- Of the satellites that records are grouped into the first one is that of the first record. -/
theorem groupSatellites_head (signal : SignalObservation) (rest : List SignalObservation) :
    ∃ satellite others, groupSatellites (signal :: rest) = satellite :: others ∧
      identity satellite = satelliteOf signal ∧ satellite.bands ≠ [] := by
  rcases groupSatellites_cons signal rest with ⟨next, others, -, hsame, hgroups⟩ | ⟨-, hgroups⟩
  · exact ⟨_, _, hgroups, hsame, List.cons_ne_nil _ _⟩
  · exact ⟨_, _, hgroups, rfl, List.cons_ne_nil _ _⟩

/-- The first band belongs to the first satellite. -/
theorem places_head (signal : SignalObservation) (rest : List SignalObservation) :
    (places (groupSatellites (signal :: rest)))[0]? = some 0 := by
  obtain ⟨satellite, others, hgroups, -, hbands⟩ := groupSatellites_head signal rest
  obtain ⟨band, bands, hbands⟩ := List.exists_cons_of_ne_nil hbands
  rw [hgroups, places, placedBands, hbands]
  rfl

/-- **One more record in front** moves all places on, unless it is of the same satellite as the next
one. -/
theorem places_cons (signal next : SignalObservation) (rest : List SignalObservation) :
    places (groupSatellites (signal :: next :: rest)) =
      0 :: (places (groupSatellites (next :: rest))).map
        (· + if satelliteOf signal = satelliteOf next then 0 else 1) := by
  obtain ⟨satellite, others, hnext, hfirst, -⟩ := groupSatellites_head next rest
  rcases groupSatellites_cons signal (next :: rest) with
    ⟨joined, later, hrest, hsame, hgroups⟩ | ⟨hother, hgroups⟩
  · rw [hrest] at hnext
    cases hnext
    have hsame : satelliteOf signal = satelliteOf next := hsame.symm.trans hfirst
    rw [if_pos hsame, hgroups, hrest]
    simp [places, placedBands, Function.comp_def]
  · have hdiffers : satelliteOf signal ≠ satelliteOf next := by
      intro hsame
      exact hother satellite (by rw [hnext]; rfl) (hfirst.trans hsame.symm)
    rw [if_neg hdiffers, hgroups]
    simp [places, placedBands, Function.comp_def]

/-! ## Records that follow each other -/

variable {records : List SignalObservation} {first second : Nat}

/-- The satellite that the record behind `index` others is counted for. -/
def satelliteAt (records : List SignalObservation) (index : Nat) : Option (GnssSystem × UInt32) :=
  records[index]?.map satelliteOf

/-- There is one band for each record. -/
theorem length_places (records : List SignalObservation) :
    (places (groupSatellites records)).length = records.length := by
  have hbands := congrArg List.length (bands_groupSatellites records)
  simpa [places] using hbands

/-- **The next band belongs to the same satellite if its record is of the same one**, and otherwise
to the next satellite. -/
theorem places_succ {index place : Nat} (hnext : index + 1 < records.length)
    (hplace : (places (groupSatellites records))[index]? = some place) :
    (places (groupSatellites records))[index + 1]? =
      some (place + if satelliteAt records index = satelliteAt records (index + 1) then 0 else 1) := by
  induction records generalizing index place with
  | nil => cases hnext
  | cons signal rest ih =>
    cases rest with
    | nil => simp at hnext
    | cons next rest =>
      rw [places_cons, List.getElem?_cons_succ, List.getElem?_map]
      rw [places_cons] at hplace
      cases index with
      | zero =>
        cases hplace
        rw [places_head]
        simp [satelliteAt]
      | succ index =>
        rw [List.getElem?_cons_succ, List.getElem?_map, Option.map_eq_some_iff] at hplace
        obtain ⟨before, hbefore, rfl⟩ := hplace
        rw [ih (Nat.lt_of_succ_lt_succ hnext) hbefore, Option.map_some, Nat.add_right_comm]
        rfl

/-- **The band of a later record stands no earlier**, and belongs to the same satellite exactly
where all records up to it are of the same one. -/
theorem exists_place_of_le {place : Nat} (hle : first ≤ second) (hsecond : second < records.length)
    (hplace : (places (groupSatellites records))[first]? = some place) :
    ∃ later, (places (groupSatellites records))[second]? = some later ∧ place ≤ later ∧
      (later = place ↔
        ∀ index, first ≤ index → index ≤ second →
          satelliteAt records index = satelliteAt records first) := by
  induction second, hle using Nat.le_induction with
  | base =>
    refine ⟨place, hplace, Nat.le_refl _, iff_of_true rfl fun index hfrom hto => ?_⟩
    rw [Nat.le_antisymm hto hfrom]
  | succ second hle ih =>
    obtain ⟨later, hlater, hbehind, hsame⟩ := ih (Nat.lt_of_succ_lt hsecond)
    refine ⟨_, places_succ hsecond hlater, Nat.le_add_right_of_le hbehind, ?_⟩
    by_cases hnext : satelliteAt records second = satelliteAt records (second + 1)
    · rw [if_pos hnext, Nat.add_zero, hsame]
      constructor
      · intro hall index hfrom hto
        rcases Nat.lt_or_eq_of_le hto with hlt | rfl
        · exact hall index hfrom (Nat.le_of_lt_succ hlt)
        · rw [← hnext]
          exact hall second hle (Nat.le_refl _)
      · intro hall index hfrom hto
        exact hall index hfrom (Nat.le_succ_of_le hto)
    · rw [if_neg hnext]
      refine iff_of_false (by omega) fun hall => hnext ?_
      rw [hall second hle (Nat.le_succ _), hall (second + 1) (Nat.le_succ_of_le hle) (Nat.le_refl _)]

/-- Records that share a satellite belong to one place. -/
theorem shareSatellite_iff {satellites : List SatelliteObservation} {place : Nat}
    (hplace : (places satellites)[first]? = some place) :
    ShareSatellite satellites first second ↔ (places satellites)[second]? = some place := by
  rw [places, List.getElem?_map, Option.map_eq_some_iff] at hplace ⊢
  obtain ⟨⟨here, band⟩, hfirst, rfl⟩ := hplace
  constructor
  · rintro ⟨shared, _, other, hband, hother⟩
    rw [hfirst] at hband
    cases hband
    exact ⟨_, hother, rfl⟩
  · rintro ⟨⟨there, other⟩, hother, rfl⟩
    exact ⟨_, band, other, hfirst, hother⟩

/-- **Two records share a satellite exactly where all from the one to the other are counted for the
same one.** -/
theorem shareSatellite_groups_iff (hle : first ≤ second) (hsecond : second < records.length) :
    ShareSatellite (groupSatellites records) first second ↔
      ∀ index, first ≤ index → index ≤ second →
        satelliteAt records index = satelliteAt records first := by
  have hfirst : first < (places (groupSatellites records)).length := by
    rw [length_places]
    exact Nat.lt_of_le_of_lt hle hsecond
  have hplace := List.getElem?_eq_getElem hfirst
  obtain ⟨later, hlater, -, hsame⟩ := exists_place_of_le hle hsecond hplace
  rw [shareSatellite_iff hplace, hlater, Option.some.injEq, hsame]

/-! ## Numbers of satellites -/

variable {payload : List UInt8}

/-- The number that the record behind `index` others has for its satellite. -/
def prnAt (payload : List UInt8) (index : Nat) : Nat := numberAt payload (recordOffset index) 2

/-- The system that the tracking word of the record behind `index` others selects. -/
def systemAt (payload : List UInt8) (index : Nat) : GnssSystem :=
  TrackingStatus.system ⟨UInt32.ofNat (numberAt payload (recordOffset index + 40) 4)⟩

/-- The record behind `index` others is counted for the satellite that its number and its tracking
word tell. -/
theorem satelliteAt_signalsOf {index : Nat} (h : index < announcedSignals payload) :
    satelliteAt (signalsOf payload) index =
      some (systemAt payload index,
        UInt32.ofNat (if systemAt payload index = .glonass then prnAt payload index - 37
          else prnAt payload index)) := by
  rw [satelliteAt, signalsOf, List.getElem?_map, List.getElem?_range h]
  rfl

/-- **Two numbers are reported as the same** if they are, or if they are of GLONASS and not above
37. -/
theorem satPrn_eq_iff (system : GnssSystem) {prn other : Nat} (hprn : prn < 65536)
    (hother : other < 65536) :
    UInt32.ofNat (if system = .glonass then prn - 37 else prn) =
        UInt32.ofNat (if system = .glonass then other - 37 else other) ↔
      prn = other ∨ system = .glonass ∧ prn ≤ 37 ∧ other ≤ 37 := by
  have hfits (number : Nat) (h : number < 65536) : (UInt32.ofNat number).toNat = number :=
    UInt32.toNat_ofNat_of_lt' (Nat.lt_trans h (by decide))
  rw [← UInt32.toNat_inj]
  by_cases hsystem : system = .glonass
  · rw [if_pos hsystem, if_pos hsystem, hfits _ (by omega), hfits _ (by omega)]
    simp only [hsystem, true_and]
    omega
  · rw [if_neg hsystem, if_neg hsystem, hfits _ hprn, hfits _ hother]
    simp [hsystem]

/-- The satellites of a range log that is read are the groups of its records. -/
theorem satellites_of_decode? {time : Float} {observation : Observation}
    (h : decode? (rangeReader time) payload = some observation) :
    observation.satellites = groupSatellites (signalsOf payload) := by
  have hinside : recordOffset (announcedSignals payload) ≤ payload.length := by
    rw [← Nat.not_lt, ← decode?_rangeReader_eq_none_iff time, h]
    exact Option.some_ne_none observation
  rw [decode?, rangeReader_eq time hinside] at h
  cases h
  rfl

/-- **When two records of a range log share a satellite.** Where a range log is read, the bands of
its satellites, one after the other, are those of its records. The bands of two records belong to
the same satellite exactly where all records from the one to the other select the same system and
have the same number, or select GLONASS and have numbers that are not above 37. -/
theorem sharing_iff (time : Float) (payload : List UInt8) {observation : Observation}
    (h : decode? (rangeReader time) payload = some observation) :
    (placedBands observation.satellites).map Prod.snd =
        (signalsOf payload).map (·.observation) ∧
      ∀ first second, first ≤ second → second < announcedSignals payload →
        (ShareSatellite observation.satellites first second ↔
          ∀ index, first ≤ index → index ≤ second →
            systemAt payload index = systemAt payload first ∧
              (prnAt payload index = prnAt payload first ∨
                systemAt payload first = .glonass ∧
                  prnAt payload index ≤ 37 ∧ prnAt payload first ≤ 37)) := by
  rw [satellites_of_decode? h]
  refine ⟨bands_groupSatellites _, fun first second hle hsecond => ?_⟩
  have hlength : second < (signalsOf payload).length := by simpa [signalsOf] using hsecond
  rw [shareSatellite_groups_iff hle hlength]
  refine forall_congr' fun index => forall_congr' fun hfrom => forall_congr' fun hto => ?_
  rw [satelliteAt_signalsOf (Nat.lt_of_le_of_lt hto hsecond),
    satelliteAt_signalsOf (Nat.lt_of_le_of_lt hle hsecond), Option.some.injEq, Prod.mk.injEq]
  refine and_congr_right fun hsystem => ?_
  rw [hsystem]
  exact satPrn_eq_iff _ (numberAt_lt payload _ 2) (numberAt_lt payload _ 2)

/-- Two GLONASS records with small numbers share a satellite, which a GPS record does not. -/
theorem sharing_of_small_numbers :
    let payload := leBytes 4 3 ++ bareRecord 1 0x00010000 ++ bareRecord 2 0x00210000 ++
      bareRecord 2 0
    let observation : Observation := ⟨10.0, groupSatellites (signalsOf payload)⟩
    decode? (rangeReader 10.0) payload = some observation ∧
      ShareSatellite observation.satellites 0 1 ∧
      ¬ShareSatellite observation.satellites 1 2 := by
  intro payload observation
  have hinside : recordOffset (announcedSignals payload) ≤ payload.length := by decide +kernel
  have hread : decode? (rangeReader 10.0) payload = some observation := by
    rw [decode?, rangeReader_eq 10.0 hinside]
    rfl
  have hsharing := (sharing_iff 10.0 payload hread).2
  have hcount : announcedSignals payload = 3 := by decide +kernel
  refine ⟨hread, (hsharing 0 1 (by decide) (by omega)).2 ?_, fun hshared => ?_⟩
  · have hboth : ∀ index < 2, systemAt payload index = .glonass ∧ prnAt payload index ≤ 37 := by
      decide +kernel
    intro index _ hto
    obtain ⟨hsystem, hsmall⟩ := hboth index (Nat.lt_succ_of_le hto)
    obtain ⟨hfirst, hsmallFirst⟩ := hboth 0 (by decide)
    exact ⟨hsystem.trans hfirst.symm, .inr ⟨hfirst, hsmall, hsmallFirst⟩⟩
  · have hlast := ((hsharing 1 2 (by decide) (by omega)).1 hshared 2 (by decide) (by decide)).1
    exact absurd hlast (by decide +kernel)

/-- The records of a range log select GLONASS and have different numbers, of which none is above 37.
Both give their bands to one satellite. -/
theorem different_satellites_merged :
    let payload := leBytes 4 2 ++ bareRecord 1 0x00010000 ++ bareRecord 2 0x00210000
    let observation : Observation := ⟨0.0, groupSatellites (signalsOf payload)⟩
    decode? (rangeReader 0.0) payload = some observation ∧
      prnAt payload 0 ≠ prnAt payload 1 ∧
      ShareSatellite observation.satellites 0 1 ∧
      observation.satellites.map (fun satellite =>
        (identity satellite, satellite.bands.map (·.band))) =
        [((.glonass, 0), [.gloG1, .gloG2])] := by
  intro payload observation
  have hinside : recordOffset (announcedSignals payload) ≤ payload.length := by decide +kernel
  have hfirst : (places observation.satellites)[0]? = some 0 := by decide +kernel
  have hsecond : (places observation.satellites)[1]? = some 0 := by decide +kernel
  refine ⟨?_, by decide +kernel, (shareSatellite_iff hfirst).2 hsecond, by decide +kernel⟩
  rw [decode?, rangeReader_eq 0.0 hinside]
  rfl

end NavStream.Oem
