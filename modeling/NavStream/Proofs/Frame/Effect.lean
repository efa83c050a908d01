import NavStream.Frame.Session
import NavStream.Proofs.Bytes.Queue

/-!
# The effect of a cycle

All that a cycle does is told by the decoder's answers to the unread bytes; the layout of the buffer
does not matter. An `Effect` is this account: how many bytes leave at the front, what they gave, and
where the session stands afterwards.

* `Session.effect` — what the next cycle of a session will do;
* `peek_cycle`, `messages_cycle`, … — the cycle does just that;
* `Effect.IsBehind` — effects that differ in the number of bytes in front only;
* `Session.Alike` — sessions that differ in the layout of their buffers only.
-/

namespace NavStream.Frame

open NavStream.Bytes

/-- What one cycle does. -/
structure Effect (σ : Type) where
  /-- What comes next. -/
  phase : Phase
  /-- The decoder's next state. -/
  state : σ
  /-- How many unread bytes leave at the front. -/
  consumed : Nat
  /-- The messages, in order. -/
  messages : List Message
  /-- The reports, in order. -/
  diagnostics : List Diagnostic
  /-- Whether to go on. -/
  next : Progress.State

/-- An effect that is another one behind `count` more bytes. The reports may differ. -/
structure Effect.IsBehind {σ : Type} (effect : Effect σ) (count : Nat) (other : Effect σ) :
    Prop where
  phase : effect.phase = other.phase
  state : effect.state = other.state
  consumed : effect.consumed = count + other.consumed
  messages : effect.messages = other.messages
  next : effect.next = other.next

/-- An effect is itself behind no bytes. -/
theorem Effect.isBehind_zero {σ : Type} (effect : Effect σ) : effect.IsBehind 0 effect :=
  ⟨rfl, rfl, (Nat.zero_add _).symm, rfl, rfl⟩

/-- What is behind so many bytes, which are behind others, is behind all of them. -/
theorem Effect.IsBehind.trans {σ : Type} {effect other last : Effect σ} {first second : Nat}
    (h : effect.IsBehind first other) (hlast : other.IsBehind second last) :
    effect.IsBehind (first + second) last where
  phase := h.phase.trans hlast.phase
  state := h.state.trans hlast.state
  consumed := by rw [h.consumed, hlast.consumed, Nat.add_assoc]
  messages := h.messages.trans hlast.messages
  next := h.next.trans hlast.next

/-- Of two effects that are another one behind more and behind fewer bytes, the first is the second
one behind the bytes that it has more. -/
theorem Effect.IsBehind.of_behind {σ : Type} {effect other last : Effect σ} {first second : Nat}
    (h : effect.IsBehind (first + second) last) (hother : other.IsBehind second last) :
    effect.IsBehind first other where
  phase := h.phase.trans hother.phase.symm
  state := h.state.trans hother.state.symm
  consumed := by rw [h.consumed, hother.consumed, Nat.add_assoc]
  messages := h.messages.trans hother.messages.symm
  next := h.next.trans hother.next.symm

namespace FrameDecoder

variable {σ : Type} (decoder : FrameDecoder σ)

/-- What extracting a frame from unread bytes does. -/
def extractEffect (state : σ) (bytes : List UInt8) : Effect σ :=
  let result := decoder.extract state bytes
  let used := min result.discard bytes.length
  match result.outcome with
  | .needMore => ⟨.extractPayload, result.state, used, [], result.diagnostics, .wait⟩
  | .done messages =>
    let stalled := used == 0
    ⟨.seekHeader, result.state, if stalled then min 1 bytes.length else used, messages,
      result.diagnostics ++ (if stalled then [.stalled decoder.name] else []) ++
        [.frameDecoded decoder.name messages.length],
      .continue⟩

/-- What a cycle over unread bytes does. -/
def cycleEffect (phase : Phase) (state : σ) (bytes : List UInt8) : Effect σ :=
  match phase with
  | .extractPayload => decoder.extractEffect state bytes
  | .seekHeader =>
    let sought := decoder.seek state bytes
    let used := min sought.discard bytes.length
    if sought.located then
      let effect := decoder.extractEffect sought.state (bytes.drop sought.discard)
      { effect with
        consumed := used + effect.consumed
        diagnostics := sought.diagnostics ++ effect.diagnostics }
    else ⟨.seekHeader, sought.state, used, [], sought.diagnostics, .wait⟩

end FrameDecoder

namespace Session

variable {σ : Type}

/-- What the next cycle of a session will do. -/
def effect (session : Session σ) : Effect σ :=
  session.decoder.cycleEffect session.phase session.state session.buffer.peek

/-- `Realizes effect before after`: what was decoded `after` is what `effect` says of `before`. -/
structure Realizes (effect : Effect σ) (before : Session σ) (after : Decoded σ) : Prop where
  decoder : after.session.decoder = before.decoder
  phase : after.session.phase = effect.phase
  state : after.session.state = effect.state
  peek : after.session.buffer.peek = before.buffer.peek.drop effect.consumed
  consumed : after.session.buffer.consumed = before.buffer.consumed + effect.consumed
  messages : after.messages = effect.messages
  diagnostics : after.diagnostics = effect.diagnostics
  next : after.next = effect.next

/-- Extracting a frame has the effect that the decoder's answer tells. -/
theorem realizes_extract {session : Session σ} (h : session.phase = .extractPayload) :
    Realizes (session.decoder.extractEffect session.state session.buffer.peek) session
      session.extract := by
  unfold extract FrameDecoder.extractEffect
  rcases session.decoder.extract session.state session.buffer.peek with
    ⟨state, discard, outcome, reports⟩
  cases outcome with
  | needMore => constructor <;> simp [h]
  | done messages =>
    -- the buffer's count of discarded bytes stands still exactly when none are used
    have hstalled : ((session.buffer.drain discard).consumed == session.buffer.consumed) =
        (min discard session.buffer.peek.length == 0) := by
      rw [ByteBuffer.consumed_drain, ByteBuffer.length_peek, Bool.eq_iff_iff, beq_iff_eq,
        beq_iff_eq]
      omega
    dsimp only
    rw [hstalled]
    cases hused : (min discard session.buffer.peek.length == 0) with
    | true =>
      rw [beq_iff_eq, ByteBuffer.length_peek] at hused
      refine ⟨rfl, rfl, rfl, ?_, ?_, rfl, rfl, rfl⟩
      · have hdrop : session.buffer.peek.drop discard = session.buffer.peek := by
          rw [← ByteBuffer.drop_min_readable, hused, List.drop_zero]
        simp [hdrop]
      · simp only [if_true, ByteBuffer.consumed_drain, ByteBuffer.readable_drain,
          ByteBuffer.length_peek]
        omega
    | false => refine ⟨rfl, rfl, rfl, ?_, ?_, rfl, rfl, rfl⟩ <;> simp

/-- **A cycle has the effect that the decoder's answers tell.** -/
theorem realizes_cycle (session : Session σ) : Realizes session.effect session session.cycle := by
  unfold effect FrameDecoder.cycleEffect cycle
  cases hp : session.phase with
  | extractPayload => exact realizes_extract hp
  | seekHeader =>
    dsimp only
    cases hl : (session.decoder.seek session.state session.buffer.peek).located with
    | false =>
      have hsought : session.seek.located = false := hl
      rw [if_neg (by simp), if_neg (by simp [hsought])]
      constructor <;> simp [seek, hl]
    | true =>
      have hsought : session.seek.located = true := hl
      rw [if_pos rfl, if_pos hsought]
      have hphase : session.seek.session.phase = .extractPayload := by simp [seek, hl]
      have hpeek : session.seek.session.buffer.peek =
          session.buffer.peek.drop
            (session.decoder.seek session.state session.buffer.peek).discard := by
        simp [seek]
      obtain ⟨h₁, h₂, h₃, h₄, h₅, h₆, h₇, h₈⟩ := realizes_extract hphase
      rw [hpeek] at h₂ h₃ h₄ h₅ h₆ h₇ h₈
      refine ⟨h₁, h₂, h₃, ?_, ?_, h₆, ?_, h₈⟩
      · rw [h₄, ByteBuffer.length_peek, ← List.drop_drop, ByteBuffer.drop_min_readable]
        rfl
      · rw [h₅, ← Nat.add_assoc]
        congr 1
        simp [seek]
      · rw [h₇]
        rfl

/-! ## What a cycle leaves behind -/

/-- A cycle keeps the decoder. -/
@[simp] theorem decoder_cycle (session : Session σ) :
    session.cycle.session.decoder = session.decoder :=
  (realizes_cycle session).decoder

/-- The phase after a cycle. -/
theorem phase_cycle (session : Session σ) : session.cycle.session.phase = session.effect.phase :=
  (realizes_cycle session).phase

/-- The decoder's state after a cycle. -/
theorem state_cycle (session : Session σ) : session.cycle.session.state = session.effect.state :=
  (realizes_cycle session).state

/-- The unread bytes after a cycle. -/
theorem peek_cycle (session : Session σ) :
    session.cycle.session.buffer.peek = session.buffer.peek.drop session.effect.consumed :=
  (realizes_cycle session).peek

/-- The count of discarded bytes after a cycle. -/
theorem consumed_cycle (session : Session σ) :
    session.cycle.session.buffer.consumed = session.buffer.consumed + session.effect.consumed :=
  (realizes_cycle session).consumed

/-- The messages of a cycle. -/
theorem messages_cycle (session : Session σ) : session.cycle.messages = session.effect.messages :=
  (realizes_cycle session).messages

/-- Whether a cycle asks to be continued. -/
theorem next_cycle (session : Session σ) : session.cycle.next = session.effect.next :=
  (realizes_cycle session).next

/-- A cycle that does not go on waits. -/
theorem next_eq_wait {session : Session σ} (h : session.cycle.next ≠ .continue) :
    session.cycle.next = .wait := by
  cases hnext : session.cycle.next with
  | «continue» => exact absurd hnext h
  | wait => rfl

/-! ## Feeding -/

@[simp] theorem decoder_feed (session : Session σ) (bytes : List UInt8) :
    (session.feed bytes).decoder = session.decoder := rfl

@[simp] theorem phase_feed (session : Session σ) (bytes : List UInt8) :
    (session.feed bytes).phase = session.phase := rfl

@[simp] theorem state_feed (session : Session σ) (bytes : List UInt8) :
    (session.feed bytes).state = session.state := rfl

@[simp] theorem peek_feed (session : Session σ) (bytes : List UInt8) :
    (session.feed bytes).buffer.peek = session.buffer.peek ++ bytes := by
  simp [feed]

@[simp] theorem consumed_feed (session : Session σ) (bytes : List UInt8) :
    (session.feed bytes).buffer.consumed = session.buffer.consumed := by
  simp [feed]

/-! ## Sessions that act alike -/

/-- Sessions that agree in everything but the layout of their buffers. -/
structure Alike (left right : Session σ) : Prop where
  decoder : left.decoder = right.decoder
  phase : left.phase = right.phase
  state : left.state = right.state
  peek : left.buffer.peek = right.buffer.peek

/-- The next cycle of sessions that are alike does the same. -/
theorem Alike.effect {left right : Session σ} (h : Alike left right) :
    left.effect = right.effect := by
  rw [Session.effect, Session.effect, h.decoder, h.phase, h.state, h.peek]

/-- Sessions that are alike stay so when both run a cycle. -/
theorem Alike.cycle {left right : Session σ} (h : Alike left right) :
    Alike left.cycle.session right.cycle.session where
  decoder := by rw [decoder_cycle, decoder_cycle, h.decoder]
  phase := by rw [phase_cycle, phase_cycle, h.effect]
  state := by rw [state_cycle, state_cycle, h.effect]
  peek := by rw [peek_cycle, peek_cycle, h.effect, h.peek]

/-- Feeding two pieces is like feeding both at once. -/
theorem alike_feed_feed (session : Session σ) (first second : List UInt8) :
    Alike ((session.feed first).feed second) (session.feed (first ++ second)) where
  decoder := rfl
  phase := rfl
  state := rfl
  peek := by simp

end Session

end NavStream.Frame
