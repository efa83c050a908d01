import Mathlib.Data.List.Infix
import Mathlib.Data.List.Pairwise
import NavStream.Proofs.Frame.Contract
import NavStream.Proofs.Frame.Placement

/-!
# Which cycle has located a frame

A frame may be located by one cycle and completed by a later one, with bytes fed in between. What is
recorded of it then is what was recorded when it was located. A decoder that honours its contract
locates nothing at the same place again, so there is just one cycle that has located a frame.

* `Session.Locates` — a session whose next cycle locates a header at a place of the stream;
* `Session.LocatedBy` — what is recorded of a frame was recorded when it was located;
* `Session.Follows` — a session holds what was located last, and has left the rest behind;
* `Session.Follows.feed`, `Session.Follows.cycle` — feeding and cycles keep it so;
* `History.Located` — a history in which each frame was located once;
* `Session.located_after` — a new session has located each frame once, whatever calls were made;
* `Session.exists_locating` — the one cycle that has located a frame.
-/

namespace NavStream.Frame

open NavStream.Bytes

variable {σ : Type}

/-- When a header is looked for, what is unread behind it still stands in the stream. -/
theorem ReadsIn.seek {stream : List UInt8} {session : Session σ}
    (h : ReadsIn stream session) :
    session.seek.session.buffer.peek <+: stream.drop session.seek.session.buffer.consumed := by
  show (session.buffer.drain _).peek <+: stream.drop (session.buffer.drain _).consumed
  rw [ByteBuffer.peek_drain, ByteBuffer.consumed_drain, ← List.drop_drop,
    ← ByteBuffer.drop_min_readable]
  exact h.unread.drop _

namespace Session

/-- A session whose next cycle locates a header at `start` of the stream. -/
structure Locates (session : Session σ) (start : Nat) : Prop where
  phase : session.phase = .seekHeader
  located : session.seek.located = true
  place : session.seek.session.buffer.consumed = start

/-- Sessions whose next cycles do not locate headers at the same place. -/
def Apart (session other : Session σ) : Prop :=
  ∀ start, session.Locates start → ¬other.Locates start

/-- Being apart goes both ways. -/
instance : Std.Symm (Apart (σ := σ)) where
  symm _ _ h start hother hsession := h start hsession hother

/-- What is recorded of the frame at the front was recorded by the cycle of some stage when it
located the frame there. -/
def LocatedBy (recording : Recording σ) (stages : List (Session σ)) (begun : Session σ) : Prop :=
  ∃ locating ∈ stages, locating.Locates begun.buffer.consumed ∧
    recording.record? begun.state = recording.record? locating.seek.session.state

/-- A session that lies behind a place of the stream, or is about to extract the frame there. -/
def Beyond (session : Session σ) (start : Nat) : Prop :=
  start < session.buffer.consumed ∨
    start = session.buffer.consumed ∧ session.phase = .extractPayload

/-- A session that holds a frame which one of the stages so far has located, or that has left behind
all that they have located. -/
structure Follows (recording : Recording σ) (stages : List (Session σ)) (session : Session σ) :
    Prop where
  /-- The frame that is to be extracted next was located. -/
  held : session.phase = .extractPayload → LocatedBy recording stages session
  /-- Nothing was located that the session has still to come to. -/
  beyond : ∀ stage ∈ stages, ∀ start, stage.Locates start → session.Beyond start

variable {recording : Recording σ} {stages : List (Session σ)} {session begun : Session σ}
  {start : Nat}

/-- A session that locates a header begins to extract its frame. -/
theorem Locates.begun?_eq (h : session.Locates start) :
    session.begun? = some session.seek.session := by
  rw [begun?, h.phase]
  exact if_pos h.located

/-- A header is located no earlier than at the first unread byte. -/
theorem Locates.consumed_le (h : session.Locates start) : session.buffer.consumed ≤ start := by
  rw [← h.place]
  exact (extracting_of_begun h.begun?_eq).2.2

/-- A session that does not begin to extract goes on looking for a header, behind bytes that it may
have skipped. -/
theorem seeking_of_not_begun (h : session.begun? = none) :
    session.phase = .seekHeader ∧ session.seek.session.phase = .seekHeader ∧
      session.buffer.consumed ≤ session.seek.session.buffer.consumed := by
  unfold begun? at h
  cases hphase : session.phase with
  | extractPayload =>
    rw [hphase] at h
    cases h
  | seekHeader =>
    rw [hphase] at h
    dsimp only at h
    split at h
    next => cases h
    next hlocated =>
      have hsought : (session.decoder.seek session.state session.buffer.peek).located = false :=
        Bool.eq_false_iff.2 hlocated
      refine ⟨rfl, by simp [seek, hsought], ?_⟩
      show session.buffer.consumed ≤ (session.buffer.drain _).consumed
      rw [ByteBuffer.consumed_drain]
      exact Nat.le_add_right _ _

/-- What was located stays so when there are more stages. -/
theorem LocatedBy.append (h : LocatedBy recording stages begun) (others : List (Session σ)) :
    LocatedBy recording (stages ++ others) begun := by
  obtain ⟨locating, hmem, hlocates⟩ := h
  exact ⟨locating, List.mem_append_left _ hmem, hlocates⟩

/-- A session that lies behind a place locates nothing there. -/
theorem Beyond.not_locates (h : session.Beyond start) : ¬session.Locates start := by
  intro hlocates
  have hle := hlocates.consumed_le
  rcases h with hbehind | ⟨-, hphase⟩
  · omega
  · rw [hlocates.phase] at hphase
    cases hphase

/-- As long as more bytes are needed for a frame its record is kept. -/
theorem InStep.record_of_wait {least : Nat} (h : InStep recording session)
    (honors : session.decoder.Honors recording least) (hphase : session.phase = .extractPayload)
    (hwait : session.extract.next = .wait) :
    recording.record? session.extract.session.state = recording.record? session.state := by
  obtain ⟨record, hrecord⟩ := h.phase_iff.1 hphase
  have hrealizes := realizes_extract hphase
  rw [hrealizes.next] at hwait
  rw [hrealizes.state]
  unfold FrameDecoder.extractEffect at hwait ⊢
  dsimp only at hwait ⊢
  cases houtcome : (session.decoder.extract session.state session.buffer.peek).outcome with
  | needMore => rw [(honors.needMore hrecord (h.begins record hrecord) houtcome).2, hrecord]
  | done messages =>
    rw [houtcome] at hwait
    cases hwait

/-! ## From stage to stage -/

/-- Feeding locates nothing. -/
theorem Follows.feed (h : Follows recording stages session) (chunk : List UInt8) :
    Follows recording stages (session.feed chunk) where
  held := by
    intro hphase
    rw [LocatedBy, consumed_feed]
    exact h.held hphase
  beyond := by
    intro stage hstage start hlocates
    rw [Beyond, consumed_feed]
    exact h.beyond stage hstage start hlocates

/-- What the next cycle begins to extract is located then, if it was not so before. -/
theorem Follows.of_begun (h : Follows recording stages session)
    (hbegun : session.begun? = some begun) :
    LocatedBy recording (stages ++ [session]) begun := by
  rcases begun_cases hbegun with ⟨hphase, rfl⟩ | ⟨hphase, hlocated, rfl⟩
  · exact (h.held hphase).append _
  · exact ⟨session, List.mem_append_right _ (List.mem_singleton.2 rfl),
      ⟨hphase, hlocated, rfl⟩, rfl⟩

/-- Nothing was located behind the frame that the next cycle begins to extract. -/
theorem Follows.le_of_begun (h : Follows recording stages session)
    (hbegun : session.begun? = some begun) {stage : Session σ}
    (hstage : stage ∈ stages ++ [session]) (hlocates : stage.Locates start) :
    start ≤ begun.buffer.consumed := by
  have hkept := (extracting_of_begun hbegun).2.2
  rcases List.mem_append.1 hstage with hearlier | hlast
  · rcases h.beyond stage hearlier start hlocates with hbehind | ⟨rfl, -⟩
    · omega
    · exact hkept
  · obtain rfl := List.mem_singleton.1 hlast
    rw [hlocates.begun?_eq, Option.some.injEq] at hbegun
    rw [← hbegun]
    exact Nat.le_of_eq hlocates.place.symm

/-- A cycle that begins to extract nothing leaves everything behind that was located. -/
theorem Follows.cycle_of_not_begun (h : Follows recording stages session)
    (hbegun : session.begun? = none) :
    Follows recording (stages ++ [session]) session.cycle.session := by
  obtain ⟨hphase, hafter, hkept⟩ := seeking_of_not_begun hbegun
  rw [Session.cycle_of_not_begun hbegun]
  refine ⟨fun hextract => ?_, fun stage hstage start hlocates => .inl ?_⟩
  · rw [hafter] at hextract
    cases hextract
  · show start < session.seek.session.buffer.consumed
    rcases List.mem_append.1 hstage with hearlier | hlast
    · rcases h.beyond stage hearlier start hlocates with hbehind | ⟨-, hextract⟩
      · omega
      · rw [hphase] at hextract
        cases hextract
    · rw [List.mem_singleton.1 hlast] at hlocates
      rw [hlocates.begun?_eq] at hbegun
      cases hbegun

section Cycle

variable {least : Nat} (h : Follows recording stages session) (hstep : InStep recording session)
  (honors : session.decoder.Honors recording least) (hleast : 0 < least)

include h hstep honors hleast

/-- A cycle that begins to extract keeps the frame as it was located, or it leaves it behind. -/
theorem Follows.cycle_of_begun (hbegun : session.begun? = some begun) :
    Follows recording (stages ++ [session]) session.cycle.session := by
  obtain ⟨hphase, hdecoder, -⟩ := extracting_of_begun hbegun
  have hready := hstep.of_begun honors hbegun
  rw [(Session.cycle_of_begun hbegun).1]
  rcases hready.extract_cases (hdecoder ▸ honors) hphase hleast with
    ⟨record, hkept, hbegins, heq⟩ | ⟨messages, -, hused, hinside, heq⟩
  · -- more bytes are needed, and the frame stays where it is
    have hrecord := hready.record_of_wait (hdecoder ▸ honors) hphase (by rw [heq])
    have hplace : begun.extract.session.buffer.consumed = begun.buffer.consumed := by rw [heq]
    refine ⟨fun _ => ?_, fun stage hstage start hlocates => ?_⟩
    · rw [LocatedBy, hplace, hrecord]
      exact h.of_begun hbegun
    · rw [Beyond, hplace, heq]
      rcases Nat.lt_or_eq_of_le (h.le_of_begun hbegun hstage hlocates) with hbehind | hsame
      · exact .inl hbehind
      · exact .inr ⟨hsame, hphase⟩
  · rw [heq]
    refine ⟨Phase.noConfusion, fun stage hstage start hlocates => .inl ?_⟩
    have hle := h.le_of_begun hbegun hstage hlocates
    show start < (begun.buffer.drain _).consumed
    rw [ByteBuffer.consumed_drain, Nat.min_eq_left hinside]
    omega

/-- **A cycle holds on to what was located**, or it leaves it behind. -/
theorem Follows.cycle : Follows recording (stages ++ [session]) session.cycle.session := by
  cases hbegun : session.begun? with
  | some begun => exact h.cycle_of_begun hstep honors hleast hbegun
  | none => exact h.cycle_of_not_begun hbegun

end Cycle

end Session

/-! ## Histories -/

namespace History

open Session

/-- A history in which each frame was located once. -/
structure Located (recording : Recording σ) (history : History σ) : Prop where
  /-- The session holds what was located last, and has left the rest behind. -/
  follows : Follows recording history.cycles history.session
  /-- What a cycle has extracted was located. -/
  located : ∀ stage ∈ history.cycles, ∀ begun, stage.begun? = some begun →
    LocatedBy recording history.cycles begun
  /-- No two cycles have located a header at the same place. -/
  apart : history.cycles.Pairwise Apart

variable {recording : Recording σ} {least : Nat} {history : History σ}

/-- Feeding locates nothing. -/
theorem Located.feed (h : Located recording history) (chunk : List UInt8) :
    Located recording (history.call (.feed chunk)) :=
  ⟨h.follows.feed chunk, h.located, h.apart⟩

/-- **A cycle locates no frame that was located before**, and extracts none that was not. -/
theorem Located.cycle (h : Located recording history) (hstep : InStep recording history.session)
    (honors : history.session.decoder.Honors recording least) (hleast : 0 < least) :
    Located recording (history.call .cycle) where
  follows := h.follows.cycle hstep honors hleast
  located := by
    intro stage hstage begun hbegun
    rcases List.mem_append.1 hstage with hearlier | hlast
    · exact (h.located stage hearlier begun hbegun).append _
    · rw [List.mem_singleton.1 hlast] at hbegun
      exact h.follows.of_begun hbegun
  apart := by
    refine List.pairwise_append.2 ⟨h.apart, List.pairwise_singleton _ _, ?_⟩
    intro earlier hbefore later hlast start hlocates
    rw [List.mem_singleton.1 hlast]
    exact (h.follows.beyond earlier hbefore start hlocates).not_locates

end History

namespace Session

variable {recording : Recording σ} {least : Nat} {decoder : FrameDecoder σ}
  (honors : decoder.Honors recording least) (hleast : 0 < least) (buffer : ByteBuffer)
  (calls : List Call)

include honors hleast

/-- **A new session has located each frame once**, whatever calls were made on it. -/
theorem located_after : ((new decoder buffer).after calls).Located recording := by
  refine (@after_induction σ (fun history => history.session.decoder = decoder ∧
    InStep recording history.session ∧ history.Located recording) _ calls ?_ ?_ ?_).2.2
  · refine ⟨rfl, inStep_of_none rfl honors.initial, ⟨Phase.noConfusion, ?_⟩, ?_, .nil⟩
    · exact fun _ hmem => absurd hmem List.not_mem_nil
    · exact fun _ hmem => absurd hmem List.not_mem_nil
  · rintro history chunk ⟨hdecoder, hstep, hlocated⟩
    exact ⟨hdecoder, hstep.feed (hdecoder ▸ honors) chunk, hlocated.feed chunk⟩
  · rintro history ⟨hdecoder, hstep, hlocated⟩
    refine ⟨?_, ?_, hlocated.cycle hstep (hdecoder ▸ honors) hleast⟩
    · exact (decoder_cycle history.session).trans hdecoder
    · exact hstep.cycle (hdecoder ▸ honors) hleast

/-- **Each frame that is extracted was located by just one cycle**, and what is recorded of it is
what was recorded then. -/
theorem exists_locating {stage begun : Session σ}
    (hstage : stage ∈ ((new decoder buffer).after calls).cycles)
    (hbegun : stage.begun? = some begun) :
    ∃ locating ∈ ((new decoder buffer).after calls).cycles,
      locating.Locates begun.buffer.consumed ∧
        (∀ other ∈ ((new decoder buffer).after calls).cycles,
          other.Locates begun.buffer.consumed → other = locating) ∧
        recording.record? begun.state = recording.record? locating.seek.session.state := by
  have hhistory := located_after honors hleast buffer calls
  obtain ⟨locating, hmem, hlocates, hrecord⟩ := hhistory.located stage hstage begun hbegun
  refine ⟨locating, hmem, hlocates, fun other hother hsame => ?_, hrecord⟩
  by_contra hne
  exact hhistory.apart.forall hother hmem hne _ hsame hlocates

end Session

end NavStream.Frame
