import NavStream.Proofs.Oem.Front

/-!
# Sessions whose header stands at the front

A binary session that is about to extract a frame keeps its header, which was read by an earlier
cycle, perhaps from fewer bytes. The header is still the one that the unread bytes begin with: this
is what ties the three parts of a session together, its phase, the decoder's state and the buffer.

* `Anchored` — the invariant;
* `Anchored.effect` — what the next cycle does depends on the unread bytes and the memory only;
* `Anchored.feed`, `Anchored.cycle` — feeding and cycles keep the invariant;
* `Anchored.cycle_of_corrupt`, `Anchored.cycle_of_intact` — what a cycle does with a complete frame.
-/

namespace NavStream.Oem

open NavStream.Bytes NavStream.Frame

/-- A binary session that begins to extract only where a header stands at the front. -/
structure Anchored (settings : Settings) (session : Session State) : Prop where
  decoder : session.decoder = Oem.decoder settings
  header : session.phase = .extractPayload → ∃ header,
    session.state.header = some header ∧ Header.decode? session.buffer.peek = some header

/-- A session that looks for a header is anchored. -/
theorem anchored_of_seekHeader {settings : Settings} {session : Session State}
    (hdecoder : session.decoder = Oem.decoder settings) (hphase : session.phase = .seekHeader) :
    Anchored settings session :=
  ⟨hdecoder, fun h => by rw [hphase] at h; cases h⟩

namespace Anchored

variable {settings : Settings} {session : Session State} (h : Anchored settings session)

include h

/-- The next cycle does what the front of the unread bytes calls for. -/
theorem effect :
    session.effect = (front session.buffer.peek).effect settings session.state.memory := by
  rw [Session.effect, h.decoder]
  exact cycleEffect_eq_front settings h.header

/-- The next cycle asks to be continued where no more bytes are needed to decide what to do. -/
theorem next_cycle :
    session.cycle.next = if (front session.buffer.peek).found.settled then .continue else .wait := by
  rw [Session.next_cycle, h.effect, Front.effect_next]

/-- A session stays anchored when it is fed. -/
theorem feed (chunk : List UInt8) : Anchored settings (session.feed chunk) := by
  refine ⟨h.decoder, fun hphase => ?_⟩
  obtain ⟨header, hstate, hbytes⟩ := h.header hphase
  refine ⟨header, hstate, ?_⟩
  rw [Session.peek_feed]
  exact Header.decode?_append hbytes chunk

/-- A session stays anchored when it runs a cycle. -/
theorem cycle : Anchored settings session.cycle.session := by
  refine ⟨by rw [Session.decoder_cycle, h.decoder], fun hphase => ?_⟩
  rw [Session.phase_cycle, h.effect] at hphase
  rw [Session.state_cycle, Session.peek_cycle, h.effect, Front.effect_consumed]
  unfold front at hphase ⊢
  cases hfind : findOffset startsWithSync session.buffer.peek with
  | none => simp [hfind, Front.effect] at hphase
  | some offset =>
    simp only [hfind] at hphase ⊢
    unfold Front.effect Found.ofBytes at hphase ⊢
    cases hheader : Header.decode? (session.buffer.peek.drop offset) with
    | none => simp [hheader] at hphase
    | some header =>
      simp only [hheader] at hphase ⊢
      cases hcheck : checkFrame header (session.buffer.peek.drop offset) with
      | incomplete => exact ⟨header, rfl, hheader⟩
      | corrupt expected computed => simp [hcheck] at hphase
      | intact payload => simp [hcheck] at hphase

/-- A cycle that meets a corrupt frame steps over its header and gives nothing. -/
theorem cycle_of_corrupt {skip : Nat} {header : Header} {expected computed : UInt32}
    (hfront : front session.buffer.peek = ⟨skip, .corrupt header expected computed⟩) :
    session.cycle.session.phase = .seekHeader ∧
      session.cycle.session.buffer.peek = session.buffer.peek.drop (skip + header.length) ∧
      session.cycle.session.state = ⟨none, session.state.memory⟩ ∧
      session.cycle.messages = [] := by
  have heffect := h.effect
  rw [hfront] at heffect
  rw [Session.phase_cycle, Session.peek_cycle, Session.state_cycle, Session.messages_cycle,
    heffect]
  exact ⟨rfl, rfl, rfl, rfl⟩

/-- A cycle that meets an intact frame dispatches it and steps over it. -/
theorem cycle_of_intact {skip : Nat} {header : Header} {payload : List UInt8}
    (hfront : front session.buffer.peek = ⟨skip, .intact header payload⟩) :
    let dispatched := session.state.memory.dispatch settings header payload
    session.cycle.session.phase = .seekHeader ∧
      session.cycle.session.buffer.peek = session.buffer.peek.drop (skip + header.frameLength) ∧
      session.cycle.session.state = ⟨none, dispatched.memory⟩ ∧
      session.cycle.messages = dispatched.message.toList := by
  have heffect := h.effect
  rw [hfront] at heffect
  rw [Session.phase_cycle, Session.peek_cycle, Session.state_cycle, Session.messages_cycle,
    heffect]
  exact ⟨rfl, rfl, rfl, rfl⟩

end Anchored

end NavStream.Oem
