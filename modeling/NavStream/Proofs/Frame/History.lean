import Mathlib.Data.List.Induction
import NavStream.Proofs.Frame.Effect

/-!
# Histories of sessions

The user of a session feeds it and makes it decode in any order. A `History` records what came of
all the calls so far. Decoding in one go is a number of single cycles, so what feeding and a single
cycle preserve holds of every history.

* `Session.after` — the history of a session after calls;
* `History.call_drive`, `History.call_decode` — driving is decoding, and decoding is cycle after
  cycle;
* `Session.after_induction` — what feeding and cycles preserve holds after all calls.
-/

namespace NavStream.Frame

open NavStream.Bytes

/-- What the user of a session asks of it. -/
inductive Call where
  /-- To take in a chunk of the stream. -/
  | feed (chunk : List UInt8)
  /-- To run one cycle. -/
  | cycle
  /-- To decode every frame that is complete. -/
  | decode
  /-- To decode every frame that is complete and to publish its messages. -/
  | drive
deriving DecidableEq, Repr

/-- The chunk that a call feeds. -/
def Call.chunk : Call → List UInt8
  | .feed chunk => chunk
  | _ => []

/-- The stream that calls feed, chunk by chunk. -/
def streamOf (calls : List Call) : List UInt8 := calls.flatMap Call.chunk

/-- The stream of calls is fed by the first ones and then by the others. -/
@[simp] theorem streamOf_append (first others : List Call) :
    streamOf (first ++ others) = streamOf first ++ streamOf others :=
  List.flatMap_append

/-- What became of a session. -/
structure History (σ : Type) where
  /-- The session as it is now. -/
  session : Session σ
  /-- Everything that it was fed. -/
  fed : List UInt8 := []
  /-- The messages that it returned or published, in order. -/
  messages : List Message := []
  /-- The reports, in order. -/
  diagnostics : List Diagnostic := []
  /-- The number of bytes that its calls report as discarded. -/
  consumed : Nat := 0
  /-- The session as it was at the start of every cycle, in order. -/
  cycles : List (Session σ) := []

namespace Session

variable {σ : Type}

/-- The session at the start of every cycle that decoding runs, in order. -/
def stages (session : Session σ) : List (Session σ) :=
  session :: if _h : session.cycle.next = .continue then session.cycle.session.stages else []
termination_by session.weight
decreasing_by exact weight_cycle_lt _h

/-- Decoding discards no less than its first cycle. -/
theorem consumed_le_decode (session : Session σ) :
    session.buffer.consumed ≤ session.decode.session.buffer.consumed := by
  fun_induction decode session with
  | case1 session first hnext rest ih =>
    have hfirst : first.session.buffer.consumed =
        session.buffer.consumed + session.effect.consumed := consumed_cycle session
    show session.buffer.consumed ≤ first.session.decode.session.buffer.consumed
    omega
  | case2 session first hnext =>
    show session.buffer.consumed ≤ session.cycle.session.buffer.consumed
    rw [consumed_cycle]
    exact Nat.le_add_right _ _

end Session

namespace History

variable {σ : Type}

/-- The history after one more call that decoded. -/
def record (history : History σ) (decoded : Decoded σ) (messages : List Message)
    (diagnostics : List Diagnostic) (cycles : List (Session σ)) : History σ where
  session := decoded.session
  fed := history.fed
  messages := messages
  diagnostics := history.diagnostics ++ diagnostics
  consumed := history.consumed + (history.session.progress decoded).consumed
  cycles := history.cycles ++ cycles

/-- The history after one more call. A session that is driven publishes to the messages so far. -/
def call (history : History σ) : Call → History σ
  | .feed chunk =>
    { history with session := history.session.feed chunk, fed := history.fed ++ chunk }
  | .cycle =>
    let decoded := history.session.cycle
    history.record decoded (history.messages ++ decoded.messages) decoded.diagnostics
      [history.session]
  | .decode =>
    let decoded := history.session.decode
    history.record decoded (history.messages ++ decoded.messages) decoded.diagnostics
      history.session.stages
  | .drive =>
    let (messages, decoded, diagnostics) :=
      history.session.drive (fun received message => (received ++ [message], [])) history.messages
    history.record decoded messages diagnostics history.session.stages

/-- What is published to a list stands at its end, and the list reports nothing. -/
theorem publishAll_list (received messages : List Message) :
    Session.publishAll (fun received message => (received ++ [message], [])) received messages =
      (received ++ messages, []) := by
  induction messages generalizing received with
  | nil => rw [Session.publishAll, List.append_nil]
  | cons message rest ih => simp [Session.publishAll, ih]

/-- Driving a session is decoding it. -/
theorem call_drive (history : History σ) : history.call .drive = history.call .decode := by
  simp only [call, Session.drive, publishAll_list, List.append_nil]

/-- Decoding is cycle after cycle, until one does not ask to be continued. -/
theorem call_decode (history : History σ) :
    history.call .decode =
      if history.session.cycle.next = .continue then (history.call .cycle).call .decode
      else history.call .cycle := by
  by_cases hnext : history.session.cycle.next = .continue
  · have hcycle := Session.consumed_cycle history.session
    have hdecode := Session.consumed_le_decode history.session.cycle.session
    have hconsumed : history.consumed +
        (history.session.cycle.session.decode.session.buffer.consumed -
          history.session.buffer.consumed) =
        history.consumed +
          (history.session.cycle.session.buffer.consumed - history.session.buffer.consumed) +
          (history.session.cycle.session.decode.session.buffer.consumed -
            history.session.cycle.session.buffer.consumed) := by
      omega
    rw [if_pos hnext]
    simp only [call, record, Session.progress]
    rw [Session.decode, dif_pos hnext, Session.stages, dif_pos hnext]
    simp only [hconsumed, List.append_assoc, List.singleton_append]
  · rw [if_neg hnext]
    simp only [call, record, Session.progress]
    rw [Session.decode, dif_neg hnext, Session.stages, dif_neg hnext]

/-- What every cycle preserves is preserved by decoding. -/
theorem call_decode_preserves {holds : History σ → Prop}
    (cycle : ∀ history, holds history → holds (history.call .cycle)) (history : History σ)
    (h : holds history) : holds (history.call .decode) := by
  induction hw : history.session.weight using Nat.strongRecOn generalizing history with
  | ind weight ih =>
    rw [call_decode]
    by_cases hnext : history.session.cycle.next = .continue
    · rw [if_pos hnext]
      exact ih _ (hw ▸ Session.weight_cycle_lt hnext) _ (cycle history h) rfl
    · rw [if_neg hnext]
      exact cycle history h

end History

namespace Session

variable {σ : Type}

/-- The history of a session after calls. -/
def after (session : Session σ) (calls : List Call) : History σ :=
  calls.foldl History.call { session }

/-- One more call extends the history. -/
theorem after_concat (session : Session σ) (calls : List Call) (last : Call) :
    session.after (calls ++ [last]) = (session.after calls).call last := by
  rw [after, List.foldl_append]
  rfl

/-- **What feeding and single cycles preserve holds after all calls.** -/
theorem after_induction {holds : History σ → Prop} (session : Session σ) (calls : List Call)
    (start : holds { session })
    (feed : ∀ history chunk, holds history → holds (history.call (.feed chunk)))
    (cycle : ∀ history, holds history → holds (history.call .cycle)) :
    holds (session.after calls) := by
  induction calls using List.reverseRecOn with
  | nil => exact start
  | append_singleton calls last ih =>
    rw [after_concat]
    cases last with
    | feed chunk => exact feed _ chunk ih
    | cycle => exact cycle _ ih
    | decode => exact History.call_decode_preserves cycle _ ih
    | drive =>
      rw [History.call_drive]
      exact History.call_decode_preserves cycle _ ih

/-- A session was fed the stream of its calls. -/
@[simp] theorem fed_after (session : Session σ) (calls : List Call) :
    (session.after calls).fed = streamOf calls := by
  induction calls using List.reverseRecOn with
  | nil => rfl
  | append_singleton calls last ih =>
    rw [after_concat, streamOf_append, ← ih]
    cases last with
    | feed chunk => simp [History.call, streamOf, Call.chunk]
    | _ => simp [History.call, History.record, streamOf, Call.chunk]

end Session

end NavStream.Frame
