import Mathlib.Data.List.Induction
import NavStream.Correction.Stream
import NavStream.Proofs.Bytes.QueueRun

/-!
# Corrections are handed on byte by byte

The external decoder of a correction stream has a state of its own, so a byte that it missed or got
twice would go unnoticed and spoil all that follows. It gets every byte once and in order, however
the bytes arrive and however the events are asked for.

* `Decoder.after`, `Decoder.statuses` — what an external decoder makes of bytes;
* `Decoder.remembering` — a decoder that also remembers the bytes;
* `Hands` — one stream is another one after some bytes were handed on;
* `Stream.exists_hands_next`, `Stream.hands_drain` — asking for one event, and for all of them;
* `Stream.delivers_after` — what was handed on after any calls;
* `Stream.delivered_once` — every byte is handed on once, and the events are those of the bytes.
-/

namespace NavStream.Correction

open NavStream.Bytes

variable {σ : Type}

/-- Zero is the only status that completes nothing. -/
theorem Event.ofStatus_eq_none_iff {status : Int} : ofStatus status = none ↔ status = 0 := by
  unfold ofStatus
  split_ifs <;> simp_all

/-! ## What a decoder makes of bytes -/

namespace Decoder

/-- The state of a decoder after bytes. -/
def after (decoder : Decoder σ) (state : σ) (bytes : List UInt8) : σ :=
  bytes.foldl (fun state byte => (decoder.input state byte).1) state

/-- The statuses that a decoder answers bytes with, in order. -/
def statuses (decoder : Decoder σ) (state : σ) : List UInt8 → List Int
  | [] => []
  | byte :: rest =>
    (decoder.input state byte).2 :: decoder.statuses (decoder.input state byte).1 rest

/-- The events that bytes complete, in order. -/
def events (decoder : Decoder σ) (state : σ) (bytes : List UInt8) : List Event :=
  (decoder.statuses state bytes).filterMap Event.ofStatus

/-- A decoder that also remembers the bytes that it was given. -/
def remembering (decoder : Decoder σ) : Decoder (σ × List UInt8) where
  input state byte :=
    (((decoder.input state.1 byte).1, state.2 ++ [byte]), (decoder.input state.1 byte).2)

variable (decoder : Decoder σ) (state : σ)

/-- A decoder goes on from the state that the first bytes left. -/
theorem after_append (first others : List UInt8) :
    decoder.after state (first ++ others) = decoder.after (decoder.after state first) others :=
  List.foldl_append

/-- A decoder answers the first bytes, and the others from the state that these left. -/
theorem statuses_append (first others : List UInt8) :
    decoder.statuses state (first ++ others) =
      decoder.statuses state first ++ decoder.statuses (decoder.after state first) others := by
  induction first generalizing state with
  | nil => rfl
  | cons byte rest ih => exact congrArg (_ :: ·) (ih (decoder.input state byte).1)

/-- The first bytes complete their events before the others do. -/
theorem events_append (first others : List UInt8) :
    decoder.events state (first ++ others) =
      decoder.events state first ++ decoder.events (decoder.after state first) others := by
  rw [events, statuses_append, List.filterMap_append]
  rfl

/-- A byte completes what its status tells. -/
theorem events_singleton (byte : UInt8) :
    decoder.events state [byte] = (Event.ofStatus (decoder.input state byte).2).toList := by
  cases hstatus : Event.ofStatus (decoder.input state byte).2 <;> simp [events, statuses, hstatus]

/-- The events are those of the statuses other than zero. -/
theorem events_map_some (bytes : List UInt8) :
    (decoder.events state bytes).map some =
      ((decoder.statuses state bytes).filter (· ≠ 0)).map Event.ofStatus := by
  rw [events]
  induction decoder.statuses state bytes with
  | nil => rfl
  | cons status rest ih =>
    cases hevent : Event.ofStatus status with
    | none =>
      have hzero := Event.ofStatus_eq_none_iff.1 hevent
      rw [List.filterMap_cons_none hevent, List.filter_cons_of_neg (by simp [hzero]), ih]
    | some event =>
      have hne : status ≠ 0 := fun hzero => by
        rw [Event.ofStatus_eq_none_iff.2 hzero] at hevent
        cases hevent
      rw [List.filterMap_cons_some hevent, List.filter_cons_of_pos (by simp [hne]), List.map_cons,
        List.map_cons, ih, hevent]

/-- Bytes that complete nothing are all answered with zero. -/
theorem eq_zero_of_events_eq_nil {decoder : Decoder σ} {state : σ} {bytes : List UInt8}
    (h : decoder.events state bytes = []) : ∀ status ∈ decoder.statuses state bytes, status = 0 :=
  fun status hmem => Event.ofStatus_eq_none_iff.1 (List.filterMap_eq_nil_iff.1 h status hmem)

/-- What a decoder remembers are the bytes that it was given. -/
theorem after_remembering (seen bytes : List UInt8) :
    decoder.remembering.after (state, seen) bytes = (decoder.after state bytes, seen ++ bytes) := by
  induction bytes generalizing state seen with
  | nil => rw [List.append_nil]; rfl
  | cons byte rest ih =>
    have hrest := ih (decoder.input state byte).1 (seen ++ [byte])
    rw [List.append_assoc, List.singleton_append] at hrest
    exact hrest

end Decoder

/-! ## Handing bytes on -/

/-- `Hands before given events after`: the stream `after` is the stream `before` once it has handed
on the bytes `given`, which completed `events`. -/
structure Hands (before : Stream σ) (given : List UInt8) (events : List Event)
    (after : Stream σ) : Prop where
  decoder : after.decoder = before.decoder
  peek : before.buffer.peek = given ++ after.buffer.peek
  consumed : after.buffer.consumed = before.buffer.consumed + given.length
  state : after.state = before.decoder.after before.state given
  events : before.decoder.events before.state given = events

/-- A stream that hands nothing on stays as it is. -/
theorem Hands.refl (stream : Stream σ) : Hands stream [] [] stream :=
  ⟨rfl, rfl, rfl, rfl, rfl⟩

/-- Bytes that are handed on one after the other are handed on in this order. -/
theorem Hands.trans {first second third : Stream σ} {given later : List UInt8}
    {events others : List Event} (h : Hands first given events second)
    (hlater : Hands second later others third) :
    Hands first (given ++ later) (events ++ others) third where
  decoder := hlater.decoder.trans h.decoder
  peek := by rw [h.peek, hlater.peek, List.append_assoc]
  consumed := by rw [hlater.consumed, h.consumed, List.length_append, Nat.add_assoc]
  state := by rw [hlater.state, h.decoder, h.state, Decoder.after_append]
  events := by
    rw [Decoder.events_append, h.events, ← h.state, ← h.decoder, hlater.events]

/-- Nothing waits once all that waited was handed on. -/
theorem Hands.peek_eq_nil {before after : Stream σ} {events : List Event}
    (h : Hands before before.buffer.peek events after) : after.buffer.peek = [] := by
  have hlength := congrArg List.length h.peek
  rw [List.length_append] at hlength
  exact List.eq_nil_of_length_eq_zero (by omega)

/-- Taking a byte out of the buffer and handing it on. -/
theorem hands_of_poll {stream : Stream σ} {byte : UInt8} {rest : ByteBuffer}
    (h : stream.buffer.poll = some (byte, rest)) :
    Hands stream [byte] (Event.ofStatus (stream.decoder.input stream.state byte).2).toList
      { stream with state := (stream.decoder.input stream.state byte).1, buffer := rest } := by
  rw [ByteBuffer.poll_eq, Option.map_eq_some_iff] at h
  obtain ⟨first, hfirst, hpair⟩ := h
  obtain ⟨rfl, rfl⟩ := Prod.mk.inj hpair
  obtain ⟨others, hpeek⟩ := List.head?_eq_some_iff.1 hfirst
  have hreadable : 0 < stream.buffer.readable := by
    rw [← ByteBuffer.length_peek, hpeek]
    exact Nat.succ_pos _
  refine ⟨rfl, ?_, ?_, rfl, stream.decoder.events_singleton stream.state first⟩
  · show stream.buffer.peek = [first] ++ (stream.buffer.drain 1).peek
    rw [ByteBuffer.peek_drain, hpeek]
    rfl
  · show (stream.buffer.drain 1).consumed = _
    rw [ByteBuffer.consumed_drain, Nat.min_eq_left hreadable]
    rfl

/-- There is no byte to take out where nothing is left to read. -/
theorem peek_of_poll_eq_none {buffer : ByteBuffer} (h : buffer.poll = none) : buffer.peek = [] := by
  rw [ByteBuffer.poll_eq, Option.map_eq_none_iff] at h
  exact List.head?_eq_none_iff.1 h

namespace Stream

/-- **Asking for an event hands on bytes up to the one that completes it**, and where there is no
event it hands on all of them. -/
theorem exists_hands_next (stream : Stream σ) :
    ∃ given, Hands stream given stream.next.event?.toList stream.next.stream ∧
      (stream.next.event? = none → stream.next.stream.buffer.peek = []) ∧
      (stream.next.event?.isSome → ∃ silent byte, given = silent ++ [byte] ∧
        stream.decoder.events stream.state silent = []) := by
  fun_induction next stream with
  | case1 stream hpoll =>
    exact ⟨[], Hands.refl stream, fun _ => peek_of_poll_eq_none hpoll, fun h => by cases h⟩
  | case2 stream byte rest hpoll state status hinput after hstatus ih =>
    have hbyte := hands_of_poll hpoll
    rw [hinput, hstatus] at hbyte
    obtain ⟨given, hgiven, hnone, hsome⟩ := ih
    refine ⟨[byte] ++ given, hbyte.trans hgiven, hnone, fun h => ?_⟩
    obtain ⟨silent, last, hlast, hsilent⟩ := hsome h
    refine ⟨[byte] ++ silent, last, by rw [hlast, List.append_assoc], ?_⟩
    rw [Decoder.events_append, hbyte.events, ← hbyte.state]
    exact hsilent
  | case3 stream byte rest hpoll state status hinput after event hstatus =>
    have hbyte := hands_of_poll hpoll
    rw [hinput, hstatus] at hbyte
    exact ⟨[byte], hbyte, fun h => (by cases h), fun _ => ⟨[], byte, rfl, rfl⟩⟩

/-- **Asking for all events hands on all bytes.** -/
theorem hands_drain (stream : Stream σ) :
    Hands stream stream.buffer.peek stream.drain.events stream.drain.stream := by
  have hall : ∃ given, Hands stream given stream.drain.events stream.drain.stream ∧
      stream.drain.stream.buffer.peek = [] := by
    fun_induction drain stream with
    | case1 stream delivery hnone =>
      obtain ⟨given, hgiven, hempty, -⟩ := stream.exists_hands_next
      rw [hnone] at hgiven
      exact ⟨given, hgiven, hempty hnone⟩
    | case2 stream delivery event hevent rest ih =>
      obtain ⟨given, hgiven, -, -⟩ := stream.exists_hands_next
      obtain ⟨later, hlater, hempty⟩ := ih
      rw [hevent] at hgiven
      exact ⟨given ++ later, hgiven.trans hlater, hempty⟩
  obtain ⟨given, hgiven, hempty⟩ := hall
  have hpeek := hgiven.peek
  rw [hempty, List.append_nil] at hpeek
  rw [hpeek]
  exact hgiven

end Stream

/-! ## Any calls in any order -/

/-- What the user of a stream asks of it. -/
inductive Call where
  /-- To take bytes in. -/
  | feed (bytes : List UInt8)
  /-- To give the next event. -/
  | next
  /-- To give all events of the bytes that wait. -/
  | drain
deriving DecidableEq, Repr

/-- The bytes that a call feeds. -/
def Call.bytes : Call → List UInt8
  | .feed bytes => bytes
  | .next | .drain => []

/-- The bytes that calls feed, in order. -/
def fedBy (calls : List Call) : List UInt8 := calls.flatMap Call.bytes

/-- What came of the calls on a stream. -/
structure Transcript (σ : Type) where
  /-- The stream as it is now. -/
  stream : Stream σ
  /-- The events that were given, in order. -/
  events : List Event := []

/-- The transcript after one more call. -/
def Transcript.call (transcript : Transcript σ) : Call → Transcript σ
  | .feed bytes => { transcript with stream := transcript.stream.feed bytes }
  | .next =>
    let delivery := transcript.stream.next
    ⟨delivery.stream, transcript.events ++ delivery.event?.toList⟩
  | .drain =>
    let deliveries := transcript.stream.drain
    ⟨deliveries.stream, transcript.events ++ deliveries.events⟩

/-- The transcript of a stream after calls. -/
def Stream.after (stream : Stream σ) (calls : List Call) : Transcript σ :=
  calls.foldl Transcript.call { stream }

/-- One more call extends the transcript. -/
theorem Stream.after_concat (stream : Stream σ) (calls : List Call) (last : Call) :
    stream.after (calls ++ [last]) = (stream.after calls).call last := by
  rw [after, List.foldl_append]
  rfl

/-- A transcript in which the decoder was given the first of the bytes that were fed, as many as the
buffer has let go, and in which the events are those of these bytes. -/
structure Delivers (decoder : Decoder σ) (start : σ) (fed : List UInt8)
    (transcript : Transcript σ) : Prop where
  kept : transcript.stream.decoder = decoder
  peek : transcript.stream.buffer.peek = fed.drop transcript.stream.buffer.consumed
  within : transcript.stream.buffer.consumed ≤ fed.length
  state : transcript.stream.state =
    decoder.after start (fed.take transcript.stream.buffer.consumed)
  events : transcript.events = decoder.events start (fed.take transcript.stream.buffer.consumed)

namespace Delivers

variable {decoder : Decoder σ} {start : σ} {fed : List UInt8} {transcript : Transcript σ}
  (h : Delivers decoder start fed transcript)

include h

/-- Bytes that are fed wait behind the others. -/
theorem feed (bytes : List UInt8) :
    Delivers decoder start (fed ++ bytes) (transcript.call (.feed bytes)) := by
  have hconsumed : (transcript.call (.feed bytes)).stream.buffer.consumed =
      transcript.stream.buffer.consumed := ByteBuffer.consumed_append _ _
  have hgiven : (fed ++ bytes).take (transcript.call (.feed bytes)).stream.buffer.consumed =
      fed.take transcript.stream.buffer.consumed := by
    rw [hconsumed, List.take_append_of_le_length h.within]
  constructor
  · exact h.kept
  · rw [hconsumed, List.drop_append_of_le_length h.within, ← h.peek]
    exact ByteBuffer.peek_append _ _
  · rw [hconsumed, List.length_append]
    exact Nat.le_add_right_of_le h.within
  · rw [hgiven]
    exact h.state
  · rw [hgiven]
    exact h.events

/-- Bytes that are handed on follow those that were handed on before. -/
theorem hands {given : List UInt8} {events : List Event} {after : Stream σ}
    (hhands : Hands transcript.stream given events after) :
    Delivers decoder start fed ⟨after, transcript.events ++ events⟩ := by
  have hfront : fed.drop transcript.stream.buffer.consumed = given ++ after.buffer.peek := by
    rw [← h.peek, hhands.peek]
  have hlength := congrArg List.length hfront
  rw [List.length_drop, List.length_append] at hlength
  have hgiven : fed.take after.buffer.consumed =
      fed.take transcript.stream.buffer.consumed ++ given := by
    rw [hhands.consumed, List.take_add, hfront, List.take_left]
  constructor
  · exact hhands.decoder.trans h.kept
  · rw [hhands.consumed, ← List.drop_drop, hfront, List.drop_left]
  · have hwithin := h.within
    have hconsumed := hhands.consumed
    show after.buffer.consumed ≤ fed.length
    omega
  · show after.state = _
    rw [hgiven, Decoder.after_append, ← h.state, ← h.kept]
    exact hhands.state
  · rw [hgiven, Decoder.events_append, ← h.state, ← h.events, ← h.kept, hhands.events]

/-- Everything was handed on where nothing waits. -/
theorem take_consumed_of_peek_eq_nil (hempty : transcript.stream.buffer.peek = []) :
    fed.take transcript.stream.buffer.consumed = fed :=
  List.take_of_length_le (List.drop_eq_nil_iff.1 (h.peek.symm.trans hempty))

/-- Where nothing waits the state is that after all that was fed. -/
theorem state_of_peek_eq_nil (hempty : transcript.stream.buffer.peek = []) :
    transcript.stream.state = decoder.after start fed := by
  rw [h.state, h.take_consumed_of_peek_eq_nil hempty]

/-- Where nothing waits the events are those of all that was fed. -/
theorem events_of_peek_eq_nil (hempty : transcript.stream.buffer.peek = []) :
    transcript.events = decoder.events start fed := by
  rw [h.events, h.take_consumed_of_peek_eq_nil hempty]

end Delivers

/-- **After any calls** the decoder was given the first of the bytes that were fed, and the events
were those of these bytes. -/
theorem Stream.delivers_after (decoder : Decoder σ) (start : σ) (calls : List Call) :
    Delivers decoder start (fedBy calls) ((Stream.new decoder start).after calls) := by
  induction calls using List.reverseRecOn with
  | nil => exact ⟨rfl, ByteBuffer.peek_withCapacity _, Nat.zero_le _, rfl, rfl⟩
  | append_singleton calls last ih =>
    have hfed : fedBy (calls ++ [last]) = fedBy calls ++ last.bytes := by
      rw [fedBy, List.flatMap_append, List.flatMap_singleton]
      rfl
    rw [Stream.after_concat, hfed]
    cases last with
    | feed bytes => exact ih.feed bytes
    | next =>
      have hnext := ((Stream.new decoder start).after calls).stream.exists_hands_next
      obtain ⟨given, hgiven, -, -⟩ := hnext
      rw [Call.bytes, List.append_nil]
      exact ih.hands hgiven
    | drain =>
      rw [Call.bytes, List.append_nil]
      exact ih.hands ((Stream.new decoder start).after calls).stream.hands_drain

/-! ## A decoder that remembers -/

namespace Stream

/-- There is no event where no byte waits. -/
theorem next_of_poll_eq_none {stream : Stream σ} (h : stream.buffer.poll = none) :
    stream.next = ⟨stream, none, []⟩ := by
  unfold next
  split
  next => rfl
  next hpoll => rw [h] at hpoll; cases hpoll

/-- Where a byte waits it is handed on, and then others unless it completes something. -/
theorem next_of_poll {stream : Stream σ} {byte : UInt8} {rest : ByteBuffer}
    (h : stream.buffer.poll = some (byte, rest)) :
    stream.next =
      let answer := stream.decoder.input stream.state byte
      let after : Stream σ := { stream with state := answer.1, buffer := rest }
      match Event.ofStatus answer.2 with
      | none => after.next
      | some event => ⟨after, some event, [report rest.consumed event]⟩ := by
  conv_lhs => unfold next
  split
  next hpoll => rw [h] at hpoll; cases hpoll
  next hpoll =>
    rw [h] at hpoll
    cases hpoll
    rfl

/-- All events are the next one, if there is one, and those behind it. -/
theorem drain_eq (stream : Stream σ) :
    stream.drain =
      match stream.next.event? with
      | none => ⟨stream.next.stream, [], stream.next.diagnostics⟩
      | some event =>
        let rest := stream.next.stream.drain
        ⟨rest.stream, event :: rest.events, stream.next.diagnostics ++ rest.diagnostics⟩ := by
  conv_lhs => unfold drain
  dsimp only
  split <;> simp_all

/-- A stream whose decoder also remembers the bytes that it was given. -/
def remembering (stream : Stream σ) (seen : List UInt8) : Stream (σ × List UInt8) :=
  ⟨stream.decoder.remembering, (stream.state, seen), stream.buffer⟩

/-- Remembering makes no difference to the next event. -/
theorem exists_next_remembering (stream : Stream σ) (seen : List UInt8) :
    ∃ later, (stream.remembering seen).next =
      ⟨stream.next.stream.remembering later, stream.next.event?, stream.next.diagnostics⟩ := by
  fun_induction next stream generalizing seen with
  | case1 stream hpoll => exact ⟨seen, next_of_poll_eq_none hpoll⟩
  | case2 stream byte rest hpoll state status hinput after hstatus ih =>
    obtain ⟨later, hlater⟩ := ih (seen ++ [byte])
    have hpoll' : (stream.remembering seen).buffer.poll = some (byte, rest) := hpoll
    refine ⟨later, ?_⟩
    rw [next_of_poll hpoll', ← hlater]
    simp only [remembering, Decoder.remembering, hinput, hstatus]
    rfl
  | case3 stream byte rest hpoll state status hinput after event hstatus =>
    have hpoll' : (stream.remembering seen).buffer.poll = some (byte, rest) := hpoll
    refine ⟨seen ++ [byte], ?_⟩
    rw [next_of_poll hpoll']
    simp only [remembering, Decoder.remembering, hinput, hstatus]
    rfl

/-- Remembering makes no difference to all events. -/
theorem exists_drain_remembering (stream : Stream σ) (seen : List UInt8) :
    ∃ later, (stream.remembering seen).drain =
      ⟨stream.drain.stream.remembering later, stream.drain.events, stream.drain.diagnostics⟩ := by
  fun_induction drain stream generalizing seen with
  | case1 stream delivery hnone =>
    obtain ⟨later, hlater⟩ := stream.exists_next_remembering seen
    refine ⟨later, ?_⟩
    rw [drain_eq, hlater]
    simp only [show stream.next.event? = none from hnone]
    rfl
  | case2 stream delivery event hevent rest ih =>
    obtain ⟨between, hbetween⟩ := stream.exists_next_remembering seen
    obtain ⟨later, hlater⟩ := ih between
    refine ⟨later, ?_⟩
    rw [drain_eq, hbetween]
    simp only [show stream.next.event? = some event from hevent]
    rw [show stream.next.stream.remembering between = delivery.stream.remembering between from rfl,
      hlater]

end Stream

/-- Remembering makes no difference to any calls. -/
theorem Stream.exists_after_remembering (stream : Stream σ) (calls : List Call) :
    ∃ seen, (stream.remembering []).after calls =
      ⟨(stream.after calls).stream.remembering seen, (stream.after calls).events⟩ := by
  induction calls using List.reverseRecOn with
  | nil => exact ⟨[], rfl⟩
  | append_singleton calls last ih =>
    obtain ⟨seen, hseen⟩ := ih
    rw [after_concat, after_concat, hseen]
    cases last with
    | feed bytes => exact ⟨seen, rfl⟩
    | next =>
      obtain ⟨later, hlater⟩ := (stream.after calls).stream.exists_next_remembering seen
      refine ⟨later, ?_⟩
      simp only [Transcript.call, hlater]
    | drain =>
      obtain ⟨later, hlater⟩ := (stream.after calls).stream.exists_drain_remembering seen
      refine ⟨later, ?_⟩
      simp only [Transcript.call, hlater]

/-- **A decoder that remembers has been given what was handed on**, and the stream is the same as
without its memory. -/
theorem Stream.after_remembering (decoder : Decoder σ) (start : σ) (calls : List Call) :
    let transcript := (Stream.new decoder start).after calls
    (Stream.new decoder.remembering (start, [])).after calls =
      ⟨transcript.stream.remembering
        ((fedBy calls).take transcript.stream.buffer.consumed), transcript.events⟩ := by
  intro transcript
  obtain ⟨seen, hseen⟩ := (Stream.new decoder start).exists_after_remembering calls
  have hstate := (Stream.delivers_after decoder.remembering (start, []) calls).state
  have hrun : (Stream.new decoder.remembering (start, [])).after calls =
      ⟨transcript.stream.remembering seen, transcript.events⟩ := hseen
  rw [hrun, Decoder.after_remembering, List.nil_append] at hstate
  have hgiven : seen = (fedBy calls).take transcript.stream.buffer.consumed :=
    congrArg Prod.snd hstate
  rw [hrun, hgiven]

/-- **Every byte is handed on once.** After any calls on a new stream the decoder has been given the
first of the bytes that were fed, each one once and in order, and the other bytes wait. The events
given so far are those of its answers other than zero. Asking for an event stops right behind the
byte that completes it; where there is none, and where all events are asked for, every byte is
handed on. So the events that were given and those that are still to come are the events of what was
fed, whatever the calls were. -/
theorem Stream.delivered_once (decoder : Decoder σ) (start : σ) (calls : List Call) :
    let transcript := (Stream.new decoder start).after calls
    let stream := transcript.stream
    let fed := fedBy calls
    let given := fed.take stream.buffer.consumed
    (given ++ stream.buffer.peek = fed ∧ stream.state = decoder.after start given ∧
        (Stream.new decoder.remembering (start, [])).after calls =
          ⟨stream.remembering given, transcript.events⟩) ∧
      transcript.events.map some =
        ((decoder.statuses start given).filter (· ≠ 0)).map Event.ofStatus ∧
      (∀ event, stream.next.event? = some event → ∃ silent byte,
        stream.buffer.peek = silent ++ byte :: stream.next.stream.buffer.peek ∧
        (∀ status ∈ decoder.statuses stream.state silent, status = 0) ∧
        Event.ofStatus (decoder.input (decoder.after stream.state silent) byte).2 = some event ∧
        stream.next.stream.state = decoder.after start (given ++ silent ++ [byte])) ∧
      (stream.next.event? = none → stream.next.stream.buffer.peek = [] ∧
        stream.next.stream.state = decoder.after start fed) ∧
      (stream.drain.stream.buffer.peek = [] ∧
        stream.drain.stream.state = decoder.after start fed) ∧
      transcript.events ++ stream.drain.events = decoder.events start fed := by
  intro transcript stream fed given
  have h := Stream.delivers_after decoder start calls
  have hfed : given ++ stream.buffer.peek = fed := by
    rw [show stream.buffer.peek = fed.drop stream.buffer.consumed from h.peek]
    exact List.take_append_drop _ _
  obtain ⟨taken, hnext, hnone, hsome⟩ := stream.exists_hands_next
  have hdrained := stream.hands_drain.peek_eq_nil
  have hall := h.hands stream.hands_drain
  refine ⟨⟨hfed, h.state, Stream.after_remembering decoder start calls⟩, ?_, ?_, ?_,
    ⟨hdrained, hall.state_of_peek_eq_nil hdrained⟩, hall.events_of_peek_eq_nil hdrained⟩
  · rw [show transcript.events = decoder.events start given from h.events]
    exact decoder.events_map_some start given
  · intro event hevent
    obtain ⟨silent, byte, rfl, hsilent⟩ := hsome (by rw [hevent]; rfl)
    have hkept : stream.decoder = decoder := h.kept
    have hstate : stream.state = decoder.after start given := h.state
    have hlast := hnext.events
    rw [hkept] at hsilent
    rw [hkept, Decoder.events_append, hsilent, List.nil_append, Decoder.events_singleton,
      hevent] at hlast
    refine ⟨silent, byte, ?_, Decoder.eq_zero_of_events_eq_nil hsilent, ?_, ?_⟩
    · rw [hnext.peek, List.append_assoc, List.singleton_append]
    · exact Option.toList_eq_singleton_iff.1 hlast
    · rw [hnext.state, hkept, hstate, ← Decoder.after_append, List.append_assoc]
  · intro hevent
    exact ⟨hnone hevent, (h.hands hnext).state_of_peek_eq_nil (hnone hevent)⟩

end NavStream.Correction
