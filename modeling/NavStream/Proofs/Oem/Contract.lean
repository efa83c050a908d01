import NavStream.Proofs.Frame.Contract
import NavStream.Proofs.Oem.Front

/-!
# The binary decoder honours its contract

The binary decoder records a header when it has located it, and forgets it when it is done with the
frame. No frame is shorter than the shortest header.

* `recording` — what the decoder records;
* `stalled_not_mem_dispatch` — no log reports what is for the session to report;
* `honors_decoder` — the contract.
-/

namespace NavStream.Oem

open NavStream.Bytes NavStream.Frame

/-- The decoder records the header at the front. -/
def recording : Recording State where
  Record := Header
  record? := State.header
  Begins header bytes := Header.decode? bytes = some header

/-- The length of the shortest header. -/
def shortestHeader : Nat := HeaderKind.short.length

/-- No header is shorter than the shortest. -/
theorem shortestHeader_le (header : Header) : shortestHeader ≤ header.length := by
  obtain ⟨kind⟩ := header
  cases kind
  · exact Nat.le_of_ble_eq_true rfl
  · exact Nat.le_refl _

/-! ## Reports of logs -/

/-- What a raw sample leads to is not for the session to report. -/
theorem stalled_not_mem_applyRaw (memory : Memory) (settings : Settings) (log : RawImu)
    (model : ImuType) (name : String) :
    .stalled name ∉ (memory.applyRaw settings log model).diagnostics := by
  unfold Memory.applyRaw ImuClock.tick
  dsimp only
  cases memory.clock.previous with
  | none => exact List.not_mem_nil
  | some previous =>
    dsimp only
    split <;> simp

/-- What a raw sample leads to that tells its model is not for the session to report. -/
theorem stalled_not_mem_applyExtended (memory : Memory) (settings : Settings) (log : RawImu)
    (name : String) : .stalled name ∉ (memory.applyExtended settings log).diagnostics := by
  have herrors : .stalled name ∉
      (if log.imuError ≠ 0 then [.imuError log.imuStatus] else [] : List Diagnostic) := by
    split <;> simp
  unfold Memory.applyExtended
  dsimp only
  cases ImuType.ofCode? (log.imuType.getD 0) with
  | none =>
    rw [List.mem_append, not_or]
    exact ⟨herrors, by simp⟩
  | some model =>
    rw [List.mem_append, not_or]
    exact ⟨herrors, stalled_not_mem_applyRaw memory settings log model name⟩

/-- What a payload leads to reports nothing that none of the logs reports which it may hold. -/
theorem not_mem_getD_map {α : Type} {memory : Memory} {report : Diagnostic} {log? : Option α}
    {apply : α → Dispatched} (h : ∀ log, report ∉ (apply log).diagnostics) :
    report ∉ ((log?.map apply).getD (memory.give none)).diagnostics := by
  cases log? with
  | none => exact List.not_mem_nil
  | some log => exact h log

/-- No log reports what is for the session to report. -/
theorem stalled_not_mem_applyLog (memory : Memory) (settings : Settings) (id : LogId)
    (time : Float) (payload : List UInt8) (name : String) :
    .stalled name ∉ (memory.applyLog settings id time payload).diagnostics := by
  unfold Memory.applyLog
  cases id with
  | rawImu | rawImuS =>
    exact not_mem_getD_map fun log => stalled_not_mem_applyRaw memory settings log _ name
  | rawImuX | rawImuSX =>
    exact not_mem_getD_map fun log => stalled_not_mem_applyExtended memory settings log name
  | _ => exact not_mem_getD_map fun log => List.not_mem_nil

/-- No frame that is dispatched reports what is for the session to report. -/
theorem stalled_not_mem_dispatch (memory : Memory) (settings : Settings) (header : Header)
    (payload : List UInt8) (name : String) :
    .stalled name ∉ (memory.dispatch settings header payload).diagnostics := by
  unfold Memory.dispatch
  cases LogId.ofCode? header.messageId with
  | none => simp
  | some id =>
    dsimp only
    split
    · exact stalled_not_mem_applyLog memory settings id header.measurementTime payload name
    · simp

/-! ## The contract -/

/-- Looking for a header reports how many bytes were skipped, and nothing else. -/
theorem stalled_not_mem_seek (state : State) (bytes : List UInt8) (name : String) :
    .stalled name ∉ (seek state bytes).diagnostics := by
  unfold seek
  cases findOffset startsWithSync bytes <;> dsimp only <;> split <;> simp

/-- Extracting a frame reports nothing that is for the session to report. -/
theorem stalled_not_mem_extract (settings : Settings) (state : State) (bytes : List UInt8)
    (name : String) : .stalled name ∉ (extract settings state bytes).diagnostics := by
  unfold extract
  cases state.header <|> Header.decode? bytes with
  | none => exact List.not_mem_nil
  | some header =>
    dsimp only
    cases checkFrame header bytes with
    | incomplete => exact List.not_mem_nil
    | corrupt expected computed => simp
    | intact payload =>
      exact stalled_not_mem_dispatch state.memory settings header payload name

section Extract

variable {settings : Settings} {state : State} {header : Header} {bytes : List UInt8}
  (hstate : state.header = some header)

include hstate

/-- As long as the frame is not complete, no byte is used up and the header is kept. -/
theorem extract_of_needMore (houtcome : (extract settings state bytes).outcome = .needMore) :
    (extract settings state bytes).discard = 0 ∧
      (extract settings state bytes).state.header = some header := by
  rw [extract_of_recorded settings hstate bytes] at houtcome ⊢
  cases hcheck : checkFrame header bytes with
  | incomplete => exact ⟨rfl, rfl⟩
  | corrupt expected computed => simp [hcheck] at houtcome
  | intact payload => simp [hcheck] at houtcome

/-- A frame that is complete is used up, or its header is, and the header is forgotten. -/
theorem extract_of_done {messages : List Message} (hbytes : Header.decode? bytes = some header)
    (houtcome : (extract settings state bytes).outcome = .done messages) :
    (shortestHeader ≤ (extract settings state bytes).discard ∧
        (extract settings state bytes).discard ≤ bytes.length) ∧
      (extract settings state bytes).state.header = none := by
  have hshortest := shortestHeader_le header
  rw [extract_of_recorded settings hstate bytes] at houtcome ⊢
  cases hcheck : checkFrame header bytes with
  | incomplete => simp [hcheck] at houtcome
  | corrupt expected computed =>
    exact ⟨⟨hshortest, Header.length_le_of_decode? hbytes⟩, rfl⟩
  | intact payload =>
    exact ⟨⟨Nat.le_trans hshortest header.length_le_frameLength,
      frameLength_le_of_intact hcheck⟩, rfl⟩

end Extract

/-- What is located is the header that the bytes begin with, behind those that are skipped. -/
theorem seek_of_located {state : State} {bytes : List UInt8}
    (h : (seek state bytes).located = true) :
    ∃ header, (seek state bytes).state.header = some header ∧
      Header.decode? (bytes.drop (seek state bytes).discard) = some header := by
  unfold seek at h ⊢
  cases hfind : findOffset startsWithSync bytes with
  | none =>
    rw [hfind] at h
    cases h
  | some offset =>
    rw [hfind] at h
    obtain ⟨header, hheader⟩ := Option.isSome_iff_exists.1 h
    exact ⟨header, hheader, hheader⟩

/-- Where no header is located none is recorded. -/
theorem seek_of_unlocated {state : State} {bytes : List UInt8}
    (h : (seek state bytes).located = false) : (seek state bytes).state.header = none := by
  unfold seek at h ⊢
  cases hfind : findOffset startsWithSync bytes with
  | none => rfl
  | some offset =>
    rw [hfind] at h
    exact Option.not_isSome_iff_eq_none.1 (Bool.eq_false_iff.1 h)

/-- **The binary decoder honours its contract.** -/
theorem honors_decoder (settings : Settings) :
    (decoder settings).Honors recording shortestHeader where
  initial := rfl
  begins_append := fun h later => Header.decode?_append h later
  nonempty := fun {header _} h =>
    Nat.lt_of_lt_of_le (Header.length_pos header) (Header.length_le_of_decode? h)
  located := fun h => seek_of_located h
  unlocated := fun h => seek_of_unlocated h
  needMore := fun hstate _ houtcome => extract_of_needMore hstate houtcome
  done := fun hstate hbytes houtcome => extract_of_done hstate hbytes houtcome
  stalled_not_mem := by
    intro state bytes name
    rw [List.mem_append, not_or]
    exact ⟨stalled_not_mem_seek state bytes name, stalled_not_mem_extract settings state bytes name⟩

end NavStream.Oem
