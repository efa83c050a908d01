import NavStream.Proofs.Frame.History

/-!
# The contract of a decoder

A session, its decoder and its buffer each keep a part of what is known about the frame at the
front: the session is in the phase of extracting, the decoder has recorded the header, and the
header stands at the front of the unread bytes. A decoder that honours its contract keeps these
parts in step, in every session and under any calls.

* `Recording`, `FrameDecoder.Honors` — what a decoder records, and the contract;
* `Session.InStep` — phase, record and unread bytes agree;
* `Session.begun?`, `Session.begun_cases` — the session at the moment when the next cycle begins to
  extract;
* `InStep.extract_cases` — all that extracting can do;
* `InStep.cycle` — a cycle keeps the session in step;
* `Session.inStep_after`, `Session.reliable_after` — a new session stays in step and keeps to the
  contract under any calls.
-/

namespace NavStream.Bytes.ByteBuffer

/-- Discarding nothing leaves a buffer as it is that holds something. -/
theorem drain_zero {buffer : ByteBuffer} (h : 0 < buffer.readable) : buffer.drain 0 = buffer := by
  rw [drain, dif_pos h]
  rfl

end NavStream.Bytes.ByteBuffer

namespace NavStream.Frame

open NavStream.Bytes

variable {σ : Type}

/-- What a decoder records between locating a header and being done with its frame. -/
structure Recording (σ : Type) where
  /-- The records. -/
  Record : Type
  /-- The record of a state, if there is one. -/
  record? : σ → Option Record
  /-- Whether bytes begin with what was recorded. -/
  Begins : Record → List UInt8 → Prop

/-- A decoder that records what it locates, keeps the record as long as it needs more bytes for the
frame, and uses up at least `least` bytes when it is done with it. -/
structure FrameDecoder.Honors (decoder : FrameDecoder σ) (recording : Recording σ) (least : Nat) :
    Prop where
  /-- Nothing is recorded at the start. -/
  initial : recording.record? decoder.initial = none
  /-- What was recorded stays at the front when more bytes arrive. -/
  begins_append : ∀ {record bytes}, recording.Begins record bytes →
    ∀ later, recording.Begins record (bytes ++ later)
  /-- What was recorded is not nothing. -/
  nonempty : ∀ {record bytes}, recording.Begins record bytes → 0 < bytes.length
  /-- What is located stands at the front, and is recorded. -/
  located : ∀ {state bytes}, (decoder.seek state bytes).located = true →
    ∃ record, recording.record? (decoder.seek state bytes).state = some record ∧
      recording.Begins record (bytes.drop (decoder.seek state bytes).discard)
  /-- Where nothing is located nothing is recorded. -/
  unlocated : ∀ {state bytes}, (decoder.seek state bytes).located = false →
    recording.record? (decoder.seek state bytes).state = none
  /-- As long as more bytes are needed none is used up, and the record is kept. -/
  needMore : ∀ {state bytes record}, recording.record? state = some record →
    recording.Begins record bytes → (decoder.extract state bytes).outcome = .needMore →
      (decoder.extract state bytes).discard = 0 ∧
        recording.record? (decoder.extract state bytes).state = some record
  /-- A frame that is done with uses up some of the bytes that are there, and leaves no record. -/
  done : ∀ {state bytes record messages}, recording.record? state = some record →
    recording.Begins record bytes → (decoder.extract state bytes).outcome = .done messages →
      (least ≤ (decoder.extract state bytes).discard ∧
        (decoder.extract state bytes).discard ≤ bytes.length) ∧
        recording.record? (decoder.extract state bytes).state = none
  /-- Stalling is for the session to report. -/
  stalled_not_mem : ∀ state bytes name,
    .stalled name ∉ (decoder.seek state bytes).diagnostics ++
      (decoder.extract state bytes).diagnostics

namespace Session

/-- The session at the moment when its next cycle begins to extract, if it comes to that. -/
def begun? (session : Session σ) : Option (Session σ) :=
  match session.phase with
  | .extractPayload => some session
  | .seekHeader => if session.seek.located then some session.seek.session else none

/-- A session, its decoder and its buffer agree on whether a header stands at the front: the session
is about to extract exactly where one is recorded, and then it does stand there. -/
structure InStep (recording : Recording σ) (session : Session σ) : Prop where
  /-- The session is about to extract exactly where something is recorded. -/
  phase_iff : session.phase = .extractPayload ↔
    ∃ record, recording.record? session.state = some record
  /-- What is recorded stands at the front. -/
  begins : ∀ record, recording.record? session.state = some record →
    recording.Begins record session.buffer.peek

/-- A session that extracts what is recorded and stands at the front is in step. -/
theorem inStep_of_some {recording : Recording σ} {session : Session σ} {record : recording.Record}
    (hphase : session.phase = .extractPayload)
    (hrecord : recording.record? session.state = some record)
    (hbegins : recording.Begins record session.buffer.peek) : InStep recording session := by
  refine ⟨iff_of_true hphase ⟨record, hrecord⟩, fun other hother => ?_⟩
  rw [hrecord] at hother
  cases hother
  exact hbegins

/-- A session that looks for a header and has recorded none is in step. -/
theorem inStep_of_none {recording : Recording σ} {session : Session σ}
    (hphase : session.phase = .seekHeader) (hrecord : recording.record? session.state = none) :
    InStep recording session := by
  have hnone : ∀ record, recording.record? session.state ≠ some record := by
    intro record hsome
    rw [hrecord] at hsome
    cases hsome
  refine ⟨iff_of_false ?_ ?_, fun record hsome => absurd hsome (hnone record)⟩
  · rw [hphase]
    exact Phase.noConfusion
  · rintro ⟨record, hsome⟩
    exact hnone record hsome

/-! ## What a cycle consists of -/

/-- A cycle begins to extract at once, or when it has located a header. -/
theorem begun_cases {session begun : Session σ} (h : session.begun? = some begun) :
    session.phase = .extractPayload ∧ begun = session ∨
      session.phase = .seekHeader ∧ session.seek.located = true ∧
        begun = session.seek.session := by
  unfold begun? at h
  cases hphase : session.phase with
  | extractPayload =>
    rw [hphase] at h
    exact .inl ⟨rfl, (Option.some.inj h).symm⟩
  | seekHeader =>
    rw [hphase] at h
    dsimp only at h
    split at h
    next hlocated => exact .inr ⟨rfl, hlocated, (Option.some.inj h).symm⟩
    next => cases h

/-- A cycle that begins to extract does what extracting does, after the reports of looking for the
header. -/
theorem cycle_of_begun {session begun : Session σ} (h : session.begun? = some begun) :
    session.cycle.session = begun.extract.session ∧ session.cycle.next = begun.extract.next ∧
      session.cycle.diagnostics =
        (if session.phase = .seekHeader then session.seek.diagnostics else []) ++
          begun.extract.diagnostics := by
  unfold cycle
  rcases begun_cases h with ⟨hphase, rfl⟩ | ⟨hphase, hlocated, rfl⟩
  · rw [hphase]
    exact ⟨rfl, rfl, rfl⟩
  · rw [hphase]
    dsimp only
    rw [if_pos hlocated]
    exact ⟨rfl, rfl, rfl⟩

/-- A cycle that begins to extract gives what extracting gives. -/
theorem messages_cycle_of_begun {session begun : Session σ} (h : session.begun? = some begun) :
    session.cycle.messages = begun.extract.messages := by
  unfold cycle
  rcases begun_cases h with ⟨hphase, rfl⟩ | ⟨hphase, hlocated, rfl⟩
  · rw [hphase]
  · rw [hphase]
    dsimp only
    rw [if_pos hlocated]

/-- A cycle that does not begin to extract has looked for a header in vain. -/
theorem cycle_of_not_begun {session : Session σ} (h : session.begun? = none) :
    session.cycle = ⟨session.seek.session, [], session.seek.diagnostics, .wait⟩ := by
  unfold begun? at h
  unfold cycle
  cases hphase : session.phase with
  | extractPayload =>
    rw [hphase] at h
    cases h
  | seekHeader =>
    rw [hphase] at h
    dsimp only at h ⊢
    split at h
    next => cases h
    next hlocated => rw [if_neg hlocated]

/-- Where a cycle begins to extract it is the decoder's turn, and nothing was taken back. -/
theorem extracting_of_begun {session begun : Session σ} (h : session.begun? = some begun) :
    begun.phase = .extractPayload ∧ begun.decoder = session.decoder ∧
      session.buffer.consumed ≤ begun.buffer.consumed := by
  rcases begun_cases h with ⟨hphase, rfl⟩ | ⟨-, hlocated, rfl⟩
  · exact ⟨hphase, rfl, Nat.le_refl _⟩
  · have hsought : (session.decoder.seek session.state session.buffer.peek).located = true :=
      hlocated
    refine ⟨by simp [seek, hsought], rfl, ?_⟩
    show session.buffer.consumed ≤ (session.buffer.drain _).consumed
    rw [ByteBuffer.consumed_drain]
    exact Nat.le_add_right _ _

/-! ## Looking for a header and extracting its frame -/

section Contract

variable {recording : Recording σ} {least : Nat} {session : Session σ}

/-- A session stays in step when it is fed. -/
theorem InStep.feed (h : InStep recording session) (honors : session.decoder.Honors recording least)
    (chunk : List UInt8) : InStep recording (session.feed chunk) where
  phase_iff := h.phase_iff
  begins := by
    intro record hrecord
    rw [peek_feed]
    exact honors.begins_append (h.begins record hrecord) chunk

/-- Looking for a header brings a session in step. -/
theorem inStep_seek (honors : session.decoder.Honors recording least) :
    InStep recording session.seek.session := by
  have hstate : session.seek.session.state =
      (session.decoder.seek session.state session.buffer.peek).state := rfl
  have hpeek : session.seek.session.buffer.peek = session.buffer.peek.drop
      (session.decoder.seek session.state session.buffer.peek).discard := by
    simp [Session.seek]
  cases hlocated : (session.decoder.seek session.state session.buffer.peek).located with
  | true =>
    obtain ⟨record, hrecord, hbegins⟩ := honors.located hlocated
    rw [← hstate] at hrecord
    rw [← hpeek] at hbegins
    exact inStep_of_some (by simp [Session.seek, hlocated]) hrecord hbegins
  | false =>
    have hrecord := honors.unlocated hlocated
    rw [← hstate] at hrecord
    exact inStep_of_none (by simp [Session.seek, hlocated]) hrecord

/-- **What is extracted is recorded, and stands at the front.** -/
theorem InStep.of_begun {begun : Session σ} (h : InStep recording session)
    (honors : session.decoder.Honors recording least) (hbegun : session.begun? = some begun) :
    InStep recording begun := by
  rcases begun_cases hbegun with ⟨-, rfl⟩ | ⟨-, -, rfl⟩
  · exact h
  · exact inStep_seek honors

variable (h : InStep recording session) (honors : session.decoder.Honors recording least)
  (hphase : session.phase = .extractPayload) (hleast : 0 < least)

include h honors hphase hleast

/-- **Extracting either needs more bytes, and changes nothing but the decoder's state, or it is done
with the frame**, which the decoder has used up. The session never has to skip a byte. -/
theorem InStep.extract_cases :
    let result := session.decoder.extract session.state session.buffer.peek
    (∃ record, recording.record? result.state = some record ∧
        recording.Begins record session.buffer.peek ∧
        session.extract = ⟨{ session with state := result.state }, [], result.diagnostics, .wait⟩) ∨
      ∃ messages, recording.record? result.state = none ∧ least ≤ result.discard ∧
        result.discard ≤ session.buffer.readable ∧
        session.extract =
          ⟨{ session with
              buffer := session.buffer.drain result.discard
              state := result.state
              phase := .seekHeader },
            messages,
            result.diagnostics ++ [.frameDecoded session.decoder.name messages.length],
            .continue⟩ := by
  intro result
  obtain ⟨record, hrecord⟩ := h.phase_iff.1 hphase
  have hbegins := h.begins record hrecord
  cases houtcome : result.outcome with
  | needMore =>
    obtain ⟨hdiscard, hkept⟩ := honors.needMore hrecord hbegins houtcome
    have hpositive := honors.nonempty hbegins
    rw [ByteBuffer.length_peek] at hpositive
    refine .inl ⟨record, hkept, hbegins, ?_⟩
    have hbuffer : session.buffer.drain result.discard = session.buffer := by
      rw [show result.discard = 0 from hdiscard, ByteBuffer.drain_zero hpositive]
    unfold Session.extract
    dsimp only
    rw [houtcome, hbuffer]
  | done messages =>
    obtain ⟨⟨hused, hinside⟩, hnone⟩ := honors.done hrecord hbegins houtcome
    rw [ByteBuffer.length_peek] at hinside
    have hmoved : ((session.buffer.drain result.discard).consumed ==
        session.buffer.consumed) = false := by
      rw [ByteBuffer.consumed_drain, Nat.min_eq_left hinside, beq_eq_false_iff_ne]
      have hpositive := Nat.lt_of_lt_of_le hleast hused
      omega
    refine .inr ⟨messages, hnone, hused, hinside, ?_⟩
    unfold Session.extract
    dsimp only
    rw [houtcome, hmoved, if_neg Bool.false_ne_true, if_neg Bool.false_ne_true, List.append_nil]

/-- Extracting keeps the session in step. -/
theorem InStep.extract : InStep recording session.extract.session := by
  rcases h.extract_cases honors hphase hleast with
    ⟨record, hrecord, hbegins, heq⟩ | ⟨messages, hnone, -, -, heq⟩
  · rw [heq]
    exact inStep_of_some hphase hrecord hbegins
  · rw [heq]
    exact inStep_of_none rfl hnone

/-- Extracting never reports that the session has to skip a byte. -/
theorem InStep.stalled_not_mem_extract (name : String) :
    .stalled name ∉ session.extract.diagnostics := by
  have hreports := honors.stalled_not_mem session.state session.buffer.peek name
  rw [List.mem_append, not_or] at hreports
  rcases h.extract_cases honors hphase hleast with
    ⟨record, hrecord, hbegins, heq⟩ | ⟨messages, hnone, -, -, heq⟩
  · rw [heq]
    exact hreports.2
  · rw [heq, List.mem_append, List.mem_singleton, not_or]
    exact ⟨hreports.2, Diagnostic.noConfusion⟩

end Contract

/-! ## Whole cycles -/

section Cycle

variable {recording : Recording σ} {least : Nat} {session : Session σ}
  (h : InStep recording session) (honors : session.decoder.Honors recording least)
  (hleast : 0 < least)

include h honors hleast

/-- **A cycle keeps the session in step.** -/
theorem InStep.cycle : InStep recording session.cycle.session := by
  cases hbegun : session.begun? with
  | none =>
    rw [cycle_of_not_begun hbegun]
    exact inStep_seek honors
  | some begun =>
    obtain ⟨hphase, hdecoder, -⟩ := extracting_of_begun hbegun
    rw [(cycle_of_begun hbegun).1]
    exact (h.of_begun honors hbegun).extract (hdecoder ▸ honors) hphase hleast

/-- **A cycle that goes on uses up as much as the contract says**, or more. -/
theorem InStep.consumed_cycle_of_continue (hnext : session.cycle.next = .continue) :
    session.buffer.consumed + least ≤ session.cycle.session.buffer.consumed := by
  cases hbegun : session.begun? with
  | none =>
    rw [cycle_of_not_begun hbegun] at hnext
    cases hnext
  | some begun =>
    obtain ⟨hphase, hdecoder, hkept⟩ := extracting_of_begun hbegun
    obtain ⟨hsession, hcontinue, -⟩ := cycle_of_begun hbegun
    rw [hcontinue] at hnext
    rw [hsession]
    rcases (h.of_begun honors hbegun).extract_cases (hdecoder ▸ honors) hphase hleast with
      ⟨record, -, -, heq⟩ | ⟨messages, -, hused, hinside, heq⟩
    · rw [heq] at hnext
      cases hnext
    · rw [heq, ByteBuffer.consumed_drain, Nat.min_eq_left hinside]
      exact Nat.add_le_add hkept hused

/-- A cycle never reports that the session has to skip a byte. -/
theorem InStep.stalled_not_mem_cycle (name : String) :
    .stalled name ∉ session.cycle.diagnostics := by
  have hreports := honors.stalled_not_mem session.state session.buffer.peek name
  rw [List.mem_append, not_or] at hreports
  cases hbegun : session.begun? with
  | none =>
    rw [cycle_of_not_begun hbegun]
    exact hreports.1
  | some begun =>
    obtain ⟨hphase, hdecoder, -⟩ := extracting_of_begun hbegun
    rw [(cycle_of_begun hbegun).2.2, List.mem_append, not_or]
    refine ⟨?_, (h.of_begun honors hbegun).stalled_not_mem_extract (hdecoder ▸ honors) hphase
      hleast name⟩
    split
    next => exact hreports.1
    next => exact List.not_mem_nil

end Cycle

/-- What a session does that keeps to the contract. -/
structure Reliable (recording : Recording σ) (least : Nat) (session : Session σ) : Prop where
  /-- Phase, record and unread bytes agree. -/
  inStep : InStep recording session
  /-- What the next cycle extracts is recorded, and stands at the front. -/
  recorded : ∀ begun, session.begun? = some begun →
    ∃ record, recording.record? begun.state = some record ∧
      recording.Begins record begun.buffer.peek
  /-- Where the next cycle needs more bytes for a frame, the buffer stays as it is. -/
  waits : ∀ begun, session.begun? = some begun → begun.extract.next = .wait →
    begun.extract.session.buffer = begun.buffer
  /-- Where the next cycle is done with a frame, the decoder has used up some of the bytes that are
  there, and the session discards nothing else. -/
  uses : ∀ begun, session.begun? = some begun → begun.extract.next = .continue →
    let used := (begun.decoder.extract begun.state begun.buffer.peek).discard
    0 < used ∧ used ≤ begun.buffer.readable ∧
      begun.extract.session.buffer = begun.buffer.drain used
  /-- A cycle that goes on uses up as much as the contract says, or more. -/
  progress : session.cycle.next = .continue →
    least ≤ (session.progress session.cycle).consumed
  /-- It is never reported that a byte had to be skipped. -/
  silent : ∀ name, .stalled name ∉ session.cycle.diagnostics

/-- **A session in step does what the contract says.** -/
theorem InStep.reliable {recording : Recording σ} {least : Nat} {session : Session σ}
    (h : InStep recording session) (honors : session.decoder.Honors recording least)
    (hleast : 0 < least) : Reliable recording least session where
  inStep := h
  recorded := by
    intro begun hbegun
    have hready := h.of_begun honors hbegun
    obtain ⟨record, hrecord⟩ := hready.phase_iff.1 (extracting_of_begun hbegun).1
    exact ⟨record, hrecord, hready.begins record hrecord⟩
  waits := by
    intro begun hbegun hwait
    obtain ⟨hphase, hdecoder, -⟩ := extracting_of_begun hbegun
    rcases (h.of_begun honors hbegun).extract_cases (hdecoder ▸ honors) hphase hleast with
      ⟨record, -, -, heq⟩ | ⟨messages, -, -, -, heq⟩
    · rw [heq]
    · rw [heq] at hwait
      cases hwait
  uses := by
    intro begun hbegun hnext
    obtain ⟨hphase, hdecoder, -⟩ := extracting_of_begun hbegun
    rcases (h.of_begun honors hbegun).extract_cases (hdecoder ▸ honors) hphase hleast with
      ⟨record, -, -, heq⟩ | ⟨messages, -, hused, hinside, heq⟩
    · rw [heq] at hnext
      cases hnext
    · refine ⟨Nat.lt_of_lt_of_le hleast hused, hinside, ?_⟩
      rw [heq]
  progress := by
    intro hnext
    exact Nat.le_sub_of_add_le' (h.consumed_cycle_of_continue honors hleast hnext)
  silent := h.stalled_not_mem_cycle honors hleast

/-- **A new session is in step after any calls**, and was so at the start of every cycle. -/
theorem inStep_after {recording : Recording σ} {least : Nat} {decoder : FrameDecoder σ}
    (honors : decoder.Honors recording least) (hleast : 0 < least) (buffer : ByteBuffer)
    (calls : List Call) :
    ∀ stage ∈ ((new decoder buffer).after calls).cycles ++
        [((new decoder buffer).after calls).session],
      stage.decoder = decoder ∧ InStep recording stage := by
  refine @after_induction σ (fun history => ∀ stage ∈ history.cycles ++ [history.session],
    stage.decoder = decoder ∧ InStep recording stage) _ calls ?_ ?_ ?_
  · intro stage hstage
    obtain rfl := List.mem_singleton.1 hstage
    exact ⟨rfl, inStep_of_none rfl honors.initial⟩
  · intro history chunk h stage hstage
    rcases List.mem_append.1 hstage with hearlier | hlast
    · exact h stage (List.mem_append_left _ hearlier)
    · obtain rfl := List.mem_singleton.1 hlast
      obtain ⟨hdecoder, hstep⟩ := h history.session (by simp)
      exact ⟨hdecoder, hstep.feed (hdecoder ▸ honors) chunk⟩
  · intro history h stage hstage
    rcases List.mem_append.1 hstage with hearlier | hlast
    · exact h stage hearlier
    · obtain rfl := List.mem_singleton.1 hlast
      obtain ⟨hdecoder, hstep⟩ := h history.session (by simp)
      have hcycle : (history.call .cycle).session = history.session.cycle.session := rfl
      rw [hcycle, decoder_cycle]
      exact ⟨hdecoder, hstep.cycle (hdecoder ▸ honors) hleast⟩

/-- **A new session keeps to the contract of its decoder under any calls.** -/
theorem reliable_after {recording : Recording σ} {least : Nat} {decoder : FrameDecoder σ}
    (honors : decoder.Honors recording least) (hleast : 0 < least) (buffer : ByteBuffer)
    (calls : List Call) : Reliable recording least ((new decoder buffer).after calls).session := by
  obtain ⟨hdecoder, h⟩ := inStep_after honors hleast buffer calls
    ((new decoder buffer).after calls).session (by simp)
  exact h.reliable (by rw [hdecoder]; exact honors) hleast

end Session

end NavStream.Frame
