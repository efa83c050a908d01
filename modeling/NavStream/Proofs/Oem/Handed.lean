import NavStream.Proofs.Oem.Anchored

/-!
# Frames that are handed to dispatch

A cycle hands at most one frame to dispatch: the one behind a located header, once its check value
was found to hold. Whatever a cycle gives, and whatever it changes in the memory, it does by
dispatching this frame.

* `handedBy` — the frame that a cycle hands on;
* `replay` — dispatching frames one after the other;
* `replay_cycle` — a cycle gives and remembers what dispatching its frame does;
* `Anchored.handedBy_eq` — the frame is the one at the front of the unread bytes.
-/

namespace NavStream.Oem

open NavStream.Bytes NavStream.Frame

/-- A frame as it is handed to dispatch. -/
structure Handed where
  /-- The header of the frame. -/
  header : Header
  /-- What stands between the header and the check value. -/
  payload : List UInt8
deriving DecidableEq

/-- The frame that extracting hands on, if there is one. -/
def handed? (state : State) (bytes : List UInt8) : Option Handed :=
  match state.header <|> Header.decode? bytes with
  | none => none
  | some header =>
    match checkFrame header bytes with
    | .intact payload => some ⟨header, payload⟩
    | .incomplete | .corrupt .. => none

/-- The frame that the next cycle of a session hands on, if there is one. -/
def handedBy (session : Session State) : Option Handed :=
  match session.phase with
  | .extractPayload => handed? session.state session.buffer.peek
  | .seekHeader =>
    let sought := seek session.state session.buffer.peek
    if sought.located then handed? sought.state (session.buffer.peek.drop sought.discard) else none

/-! ## Dispatching frames -/

/-- What dispatching frames has led to. -/
structure Replay where
  /-- The memory afterwards. -/
  memory : Memory
  /-- The messages, in order. -/
  messages : List Message

/-- Dispatches one more frame. -/
def Replay.dispatch (settings : Settings) (before : Replay) (frame : Handed) : Replay :=
  let dispatched := before.memory.dispatch settings frame.header frame.payload
  ⟨dispatched.memory, before.messages ++ dispatched.message.toList⟩

/-- Dispatches frames one after the other. -/
def replay (settings : Settings) (memory : Memory) (frames : List Handed) : Replay :=
  frames.foldl (Replay.dispatch settings) ⟨memory, []⟩

/-- Messages from before stay in front. -/
theorem foldl_dispatch (settings : Settings) (before : Replay) (frames : List Handed) :
    frames.foldl (Replay.dispatch settings) before =
      ⟨(replay settings before.memory frames).memory,
        before.messages ++ (replay settings before.memory frames).messages⟩ := by
  induction frames generalizing before with
  | nil => simp [replay]
  | cons frame rest ih =>
    have hfirst : replay settings before.memory (frame :: rest) =
        rest.foldl (Replay.dispatch settings)
          (Replay.dispatch settings ⟨before.memory, []⟩ frame) :=
      rfl
    rw [List.foldl_cons, hfirst, ih, ih (Replay.dispatch settings ⟨before.memory, []⟩ frame)]
    simp [Replay.dispatch]

/-- Frames are dispatched by dispatching the first ones and then the others. -/
theorem replay_append (settings : Settings) (memory : Memory) (first others : List Handed) :
    replay settings memory (first ++ others) =
      ⟨(replay settings (replay settings memory first).memory others).memory,
        (replay settings memory first).messages ++
          (replay settings (replay settings memory first).memory others).messages⟩ := by
  have hfirst : replay settings memory (first ++ others) =
      others.foldl (Replay.dispatch settings) (replay settings memory first) :=
    List.foldl_append
  rw [hfirst, foldl_dispatch]

/-! ## A cycle does nothing but to dispatch its frame -/

/-- Extracting gives and remembers what dispatching its frame does. -/
theorem replay_extractEffect (settings : Settings) (state : State) (bytes : List UInt8) :
    replay settings state.memory (handed? state bytes).toList =
      ⟨((decoder settings).extractEffect state bytes).state.memory,
        ((decoder settings).extractEffect state bytes).messages⟩ := by
  have hextract : (decoder settings).extract state bytes = extract settings state bytes := rfl
  unfold FrameDecoder.extractEffect handed?
  rw [hextract, extract]
  cases state.header <|> Header.decode? bytes with
  | none => rfl
  | some header =>
    dsimp only
    cases checkFrame header bytes with
    | incomplete => rfl
    | corrupt expected computed => rfl
    | intact payload => simp [replay, Replay.dispatch]

/-- **A cycle gives and remembers what dispatching its frame does**, and where it hands on no frame
it gives nothing and remembers what it did. -/
theorem replay_cycle {settings : Settings} {session : Session State}
    (h : session.decoder = decoder settings) :
    replay settings session.state.memory (handedBy session).toList =
      ⟨session.cycle.session.state.memory, session.cycle.messages⟩ := by
  rw [Session.state_cycle, Session.messages_cycle, Session.effect, h]
  unfold handedBy FrameDecoder.cycleEffect
  cases session.phase with
  | extractPayload => exact replay_extractEffect settings session.state session.buffer.peek
  | seekHeader =>
    have hseek : (decoder settings).seek session.state session.buffer.peek =
        seek session.state session.buffer.peek := rfl
    have hmemory : (seek session.state session.buffer.peek).state.memory =
        session.state.memory := by
      unfold seek
      cases findOffset startsWithSync session.buffer.peek <;> rfl
    dsimp only
    rw [hseek, ← hmemory]
    by_cases hlocated : (seek session.state session.buffer.peek).located = true
    · rw [if_pos hlocated, if_pos hlocated]
      exact replay_extractEffect settings _ _
    · rw [if_neg hlocated, if_neg hlocated]
      rfl

/-! ## The frame stands at the front -/

/-- The frame that is found, if an intact one is. -/
def Found.handed? : Found → Option Handed
  | intact header payload => some ⟨header, payload⟩
  | nothing | partialHeader | partialFrame _ | corrupt .. => none

/-- What is handed on once a header was located is what stands there. -/
theorem handed?_eq {state : State} {bytes : List UInt8} {header : Header}
    (hstate : state.header = some header) (hbytes : Header.decode? bytes = some header) :
    handed? state bytes = (Found.ofBytes bytes).handed? := by
  unfold handed? Found.ofBytes
  rw [hstate, hbytes]
  dsimp only [HOrElse.hOrElse, OrElse.orElse, Option.orElse]
  cases checkFrame header bytes <;> rfl

/-- **A cycle hands on the frame at the front of the unread bytes**, also where an earlier cycle has
located the header already. -/
theorem Anchored.handedBy_eq {settings : Settings} {session : Session State}
    (h : Anchored settings session) :
    handedBy session = (front session.buffer.peek).found.handed? := by
  unfold handedBy
  cases hphase : session.phase with
  | extractPayload =>
    obtain ⟨header, hstate, hbytes⟩ := h.header hphase
    have hsync := Header.startsWithSync_of_decode? hbytes
    have hne : session.buffer.peek ≠ [] := by
      intro hnil
      rw [hnil] at hsync
      cases hsync
    rw [front, findOffset_eq_zero hsync hne]
    exact handed?_eq hstate hbytes
  | seekHeader =>
    rw [seek, front]
    cases findOffset startsWithSync session.buffer.peek with
    | none => rfl
    | some offset =>
      dsimp only
      cases hheader : Header.decode? (session.buffer.peek.drop offset) with
      | none => simp [Found.ofBytes, hheader, Found.handed?]
      | some header =>
        rw [if_pos Option.isSome_some]
        exact handed?_eq rfl hheader

end NavStream.Oem
