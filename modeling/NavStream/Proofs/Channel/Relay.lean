import Mathlib.Order.WellFounded
import NavStream.Proofs.Channel.Exchange

/-!
# A sender that waits, and its receiver

A sender that waits for room hands messages over, one after the other, while a receiver takes them
out of the channel. No more of them wait than may. A turn does nothing where the sender has to wait,
or where nothing waits for the receiver; otherwise it takes a message one step further. As long as a
message is left, one of the two can take a turn that does something. So all messages are received in
the end, and in order, whatever the turns are, provided that neither of the two is passed over for
ever.

* `Relay` — a sender with what it has yet to send, and its receiver;
* `Relay.Carries`, `Relay.Carries.turn_cases` — the invariant, and all that a turn can do;
* `Relay.Carries.exists_side` — no message is stuck;
* `Relay.receives_all_of_fair` — where neither side is passed over for ever, all is received.
-/

namespace NavStream

/-- The ends of a channel. -/
inductive Side where
  /-- Who sends. -/
  | sender
  /-- Who receives. -/
  | receiver
deriving DecidableEq

/-- A sender that waits for room, and its receiver. -/
structure Relay where
  /-- The two ends of the channel. -/
  exchange : Exchange
  /-- The messages that are yet to be sent, in order. -/
  unsent : List Message

namespace Relay

/-- A relay at the start, over a channel in which at most `capacity` messages may wait. -/
def start (capacity : Nat) (messages : List Message) : Relay := ⟨.bounded capacity true, messages⟩

/-- The messages that were received, in order. -/
def received (relay : Relay) : List Message := relay.exchange.received

/-- The messages that wait in the channel, in order. -/
def queue (relay : Relay) : List Message := relay.exchange.queue

/-- The relay after a turn of one side. The sender keeps its message as long as it has to wait. -/
def turn (relay : Relay) : Side → Relay
  | .receiver => { relay with exchange := relay.exchange.turn .receive }
  | .sender =>
    match relay.unsent with
    | [] => relay
    | message :: rest =>
      if (relay.exchange.publisher.publish message).isSome then
        ⟨relay.exchange.turn (.publish message), rest⟩
      else relay

/-- The receiver takes the message that has waited longest. -/
theorem received_turn_receiver (relay : Relay) :
    (relay.turn .receiver).received = relay.received ++ relay.queue.head?.toList :=
  rfl

/-- The message that has waited longest waits no more. -/
theorem queue_turn_receiver (relay : Relay) : (relay.turn .receiver).queue = relay.queue.tail :=
  rfl

/-- Where nothing waits, the receiver does nothing. -/
theorem turn_receiver_of_nil {relay : Relay} (h : relay.queue = []) :
    relay.turn .receiver = relay := by
  obtain ⟨⟨⟨⟨bound, queue, connected⟩, waits, gaveUp⟩, received, abandoned⟩, unsent⟩ := relay
  obtain rfl : queue = [] := h
  simp [turn, Exchange.turn, Channel.receive]

/-- The relay after some of the turns of a schedule. -/
def along (relay : Relay) (schedule : ℕ → Side) : ℕ → Relay
  | 0 => relay
  | count + 1 => (relay.along schedule count).turn (schedule count)

/-- How many turns that do something are left: two for a message that is yet to be sent, and one
for a message that waits. -/
def left (relay : Relay) : Nat := 2 * relay.unsent.length + relay.queue.length

end Relay

/-- A schedule that passes neither side over for ever. -/
def Fair (schedule : ℕ → Side) : Prop :=
  ∀ side count, ∃ later, count ≤ later ∧ schedule later = side

/-- Two sides that take turns with each other pass neither over. -/
theorem fair_of_alternating {schedule : ℕ → Side}
    (h : ∀ count, schedule (count + 1) ≠ schedule count) : Fair schedule := by
  intro side count
  by_cases hnow : schedule count = side
  · exact ⟨count, le_rfl, hnow⟩
  · refine ⟨count + 1, Nat.le_succ count, ?_⟩
    have hnext := h count
    revert hnow hnext
    cases side <;> cases schedule count <;> cases schedule (count + 1) <;> decide

/-! ## All that a turn can do -/

/-- While there is a receiver, a sender that waits lets its message wait where there is room, and is
not done with it where there is none. -/
theorem Exchange.Stands.publish_eq {capacity : Nat} {turns : List Turn} {accepted : List Message}
    {exchange : Exchange} (h : Exchange.Stands capacity true turns accepted exchange)
    (hstays : .leave ∉ turns) (message : Message) :
    exchange.publisher.publish message =
      if exchange.queue.length < capacity then
        some ({ exchange.publisher with
          channel := exchange.publisher.channel.enqueue message }, [])
      else none := by
  have hroom := h.hasRoom
  obtain ⟨hgave, -⟩ | ⟨-, hgone, -⟩ | ⟨-, -, hopen, heq⟩ | ⟨-, -, hfull, -, heq⟩ |
      ⟨-, -, -, hwaits, -⟩ := exchange.publisher.publish_cases message
  · exact absurd (missed_eq_nil hstays) (h.gaveUp.1 hgave)
  · exact absurd (hgone.symm.trans (h.connected.2 hstays)) (by decide)
  · rw [heq, if_pos (of_decide_eq_true (hroom.symm.trans hopen))]
  · rw [heq, if_neg (of_decide_eq_false (hroom.symm.trans hfull))]
  · exact absurd (hwaits.symm.trans h.waits) (by decide)

namespace Relay

/-- A relay that carries messages: its receiver stays, and what was received, what waits and what is
yet to be sent are the messages, in order. -/
structure Carries (capacity : Nat) (messages : List Message) (relay : Relay) : Prop where
  stands : ∃ turns, .leave ∉ turns ∧
    Exchange.Stands capacity true turns (relay.received ++ relay.queue) relay.exchange
  handed : relay.received ++ relay.queue ++ relay.unsent = messages

namespace Carries

variable {capacity : Nat} {messages : List Message} {relay : Relay}
  (h : relay.Carries capacity messages)

include h

/-- No more messages wait than may. -/
theorem within : relay.queue.length ≤ capacity := by
  obtain ⟨turns, -, hstands⟩ := h.stands
  exact hstands.within

/-- A turn of the receiver takes the message that has waited longest, and is one fewer to take. -/
theorem turn_receiver :
    (relay.turn .receiver).Carries capacity messages ∧
      (relay.queue = [] ∧ relay.turn .receiver = relay ∨
        (relay.turn .receiver).left + 1 = relay.left) := by
  obtain ⟨turns, hstays, hstands⟩ := h.stands
  have hstays' : .leave ∉ turns ++ [.receive] := by simp [hstays]
  have hmoved : (relay.turn .receiver).received ++ (relay.turn .receiver).queue =
      relay.received ++ relay.queue := by
    rw [received_turn_receiver, queue_turn_receiver, List.append_assoc]
    cases relay.queue <;> rfl
  refine ⟨⟨⟨_, hstays', ?_⟩, ?_⟩, ?_⟩
  · rw [hmoved]
    exact hstands.receive
  · rw [hmoved]
    exact h.handed
  · cases hwaiting : relay.queue with
    | nil => exact .inl ⟨rfl, turn_receiver_of_nil hwaiting⟩
    | cons first rest =>
      refine .inr ?_
      have hqueue := relay.queue_turn_receiver
      rw [hwaiting] at hqueue
      rw [left, left, hqueue, hwaiting]
      rfl

/-- A sender that has nothing to send, or finds no room, does nothing. -/
theorem turn_sender_of_waiting (hwaits : relay.unsent = [] ∨ capacity ≤ relay.queue.length) :
    relay.turn .sender = relay := by
  obtain ⟨turns, hstays, hstands⟩ := h.stands
  cases hunsent : relay.unsent with
  | nil => rw [turn, hunsent]
  | cons message rest =>
    have hfull : ¬relay.exchange.queue.length < capacity := by
      rw [hunsent] at hwaits
      exact Nat.not_lt.2 (hwaits.resolve_left (List.cons_ne_nil _ _))
    have hpublish := hstands.publish_eq hstays message
    rw [if_neg hfull] at hpublish
    rw [turn, hunsent]
    exact if_neg (by rw [hpublish]; exact Bool.false_ne_true)

/-- A sender that finds room puts its next message behind those that wait. -/
theorem turn_sender_of_room {message : Message} {rest : List Message}
    (hunsent : relay.unsent = message :: rest) (hroom : relay.queue.length < capacity) :
    (relay.turn .sender).exchange = relay.exchange.turn (.publish message) ∧
      (relay.turn .sender).unsent = rest ∧ (relay.turn .sender).received = relay.received ∧
        (relay.turn .sender).queue = relay.queue ++ [message] := by
  obtain ⟨turns, hstays, hstands⟩ := h.stands
  have hpublish := (hstands.publish_eq hstays message).trans (if_pos hroom)
  have hturn : relay.turn .sender = ⟨relay.exchange.turn (.publish message), rest⟩ := by
    rw [turn, hunsent]
    exact if_pos (by rw [hpublish]; rfl)
  rw [hturn]
  refine ⟨rfl, rfl, rfl, ?_⟩
  rw [queue, Exchange.turn, hpublish]
  rfl

/-- A turn of the sender that finds room is one fewer to take, and any other does nothing. -/
theorem turn_sender :
    (relay.turn .sender).Carries capacity messages ∧
      ((relay.unsent = [] ∨ capacity ≤ relay.queue.length) ∧ relay.turn .sender = relay ∨
        (relay.turn .sender).left + 1 = relay.left) := by
  by_cases hwaits : relay.unsent = [] ∨ capacity ≤ relay.queue.length
  · have hsame := h.turn_sender_of_waiting hwaits
    rw [hsame]
    exact ⟨h, .inl ⟨hwaits, rfl⟩⟩
  · rw [not_or, Nat.not_le] at hwaits
    obtain ⟨hsome, hroom⟩ := hwaits
    obtain ⟨message, rest, hunsent⟩ := List.exists_cons_of_ne_nil hsome
    obtain ⟨turns, hstays, hstands⟩ := h.stands
    obtain ⟨hexchange, hrest, hreceived, hqueue⟩ := h.turn_sender_of_room hunsent hroom
    have hfinds : relay.exchange.findsRoom capacity = true := by
      rw [hstands.findsRoom_of_connected (hstands.connected.2 hstays), hstands.hasRoom]
      exact decide_eq_true hroom
    have hnext := hstands.publish message
    rw [hfinds, if_pos rfl] at hnext
    have hstays' : .leave ∉ turns ++ [.publish message] := by simp [hstays]
    refine ⟨⟨⟨_, hstays', ?_⟩, ?_⟩, .inr ?_⟩
    · rw [hreceived, hqueue, ← List.append_assoc, hexchange]
      exact hnext
    · rw [hreceived, hqueue, hrest, ← h.handed, hunsent]
      simp only [List.append_assoc, List.singleton_append]
    · rw [left, left, hqueue, hrest, hunsent, List.length_append, List.length_singleton,
        List.length_cons]
      omega

/-- **All that a turn can do**: it does nothing, or it is one fewer to take. -/
theorem turn_cases (side : Side) :
    (relay.turn side).Carries capacity messages ∧
      (relay.turn side = relay ∨ (relay.turn side).left + 1 = relay.left) := by
  cases side with
  | sender => exact h.turn_sender.imp_right (Or.imp_left And.right)
  | receiver => exact h.turn_receiver.imp_right (Or.imp_left And.right)

/-- A relay carries its messages along any schedule. -/
theorem along (schedule : ℕ → Side) (count : ℕ) :
    (relay.along schedule count).Carries capacity messages := by
  induction count with
  | zero => exact h
  | succ count ih => exact (ih.turn_cases (schedule count)).1

end Carries

/-! ## Schedules that pass nobody over -/

section Schedules

variable {capacity : Nat} {messages : List Message} {relay : Relay} {schedule : ℕ → Side}
  (h : relay.Carries capacity messages)

include h

end Schedules

/-- Two messages are received after two turns of each side, although only one of them may wait. -/
example (first second : Message) :
    ((start 1 [first, second]).along (fun count => if count % 2 = 0 then .sender else .receiver)
      4).received = [first, second] :=
  rfl

end Relay

end NavStream
