import Mathlib.Data.List.Induction
import NavStream.Channel

/-!
# Sender and receiver

A sender publishes messages while a receiver takes them out of the channel between them, until it
goes. Their turns may be interleaved in any way. What the receiver finds are the messages that got
into the channel, in order, and the sender tells of every other message why it was dropped until it
has told that the receiver is gone.

* `Turn`, `Exchange` — what happens at either end of a channel, and what came of it;
* `published`, `missed` — the messages of all turns, and of those behind the receiver's going;
* `Exchange.publishedWhen` — the messages that were published in a certain situation;
* `Publisher.publish_cases` — all that publishing can do;
* `Exchange.Stands`, `Exchange.stands_after` — the invariant, kept by every turn;
* `Exchange.after_of_gaveUp` — giving up is for good;
* `Exchange.delivers_what_found_room` — what a sender that does not wait delivers and reports.
-/

namespace NavStream

/-- What happens at one of the ends of a channel. -/
inductive Turn where
  /-- The sender publishes a message. -/
  | publish (message : Message)
  /-- The receiver takes the message that has waited longest, if one waits. -/
  | receive
  /-- The receiver goes, if it has not gone before. -/
  | leave
deriving DecidableEq

/-- The message that a turn publishes. -/
def Turn.message? : Turn → Option Message
  | publish message => some message
  | receive | leave => none

/-- The messages that turns publish, in order. -/
def published (turns : List Turn) : List Message := turns.filterMap Turn.message?

/-- The messages that turns publish after the receiver has gone, in order. -/
def missed : List Turn → List Message
  | [] => []
  | .leave :: rest => published rest
  | .publish _ :: rest | .receive :: rest => missed rest

/-- A sender and its receiver. -/
structure Exchange where
  /-- The sender, with the channel. -/
  publisher : Publisher
  /-- The messages that were received, in order. -/
  received : List Message := []
  /-- The messages that waited when the receiver went, in order. -/
  abandoned : List Message := []

namespace Exchange

/-- An exchange at the start, over a channel in which at most `capacity` messages may wait. -/
def bounded (capacity : Nat) (waits : Bool) : Exchange where
  publisher := { channel := { bound := some capacity }, waits }

/-- Whether there still is a receiver. -/
def connected (exchange : Exchange) : Bool := exchange.publisher.channel.connected

/-- The messages that wait in the channel, in order. -/
def queue (exchange : Exchange) : List Message := exchange.publisher.channel.queue

/-- The exchange after one more turn. A sender that has to wait for room takes none. -/
def turn (exchange : Exchange) : Turn → Exchange
  | .publish message =>
    { exchange with
      publisher := (exchange.publisher.publish message).elim exchange.publisher Prod.fst }
  | .receive =>
    let (message?, channel) := exchange.publisher.channel.receive
    { exchange with
      publisher := { exchange.publisher with channel }
      received := exchange.received ++ message?.toList }
  | .leave =>
    { exchange with
      publisher :=
        { exchange.publisher with channel := exchange.publisher.channel.disconnect }
      abandoned := exchange.abandoned ++ exchange.queue }

/-- What the sender reports in a turn. -/
def reports (exchange : Exchange) : Turn → List Diagnostic
  | .publish message => (exchange.publisher.publish message).elim [] Prod.snd
  | .receive | .leave => []

/-- The exchange after turns. -/
def after (exchange : Exchange) (turns : List Turn) : Exchange := turns.foldl turn exchange

/-- What the sender reports in turns, in order. -/
def log (exchange : Exchange) : List Turn → List Diagnostic
  | [] => []
  | turn :: rest => exchange.reports turn ++ (exchange.turn turn).log rest

/-- The messages that turns publish where `situation` holds, in order. -/
def publishedWhen (situation : Exchange → Bool) (exchange : Exchange) : List Turn → List Message
  | [] => []
  | turn :: rest =>
    (if situation exchange then turn.message?.toList else []) ++
      (exchange.turn turn).publishedWhen situation rest

/-- Whether there still is a receiver and fewer than `capacity` messages wait. -/
def findsRoom (capacity : Nat) (exchange : Exchange) : Bool :=
  exchange.connected && exchange.queue.length < capacity

end Exchange

/-! ## Turns, one after the other -/

/-- All of what follows is missed where the receiver has gone before. -/
theorem missed_append (turns later : List Turn) :
    missed (turns ++ later) =
      missed turns ++ if .leave ∈ turns then published later else missed later := by
  induction turns with
  | nil => rfl
  | cons first rest ih =>
    cases first with
    | leave =>
      rw [List.cons_append, missed, missed, if_pos List.mem_cons_self]
      exact List.filterMap_append
    | publish message =>
      rw [List.cons_append, missed, missed, ih]
      simp only [List.mem_cons, reduceCtorEq, false_or]
    | receive =>
      rw [List.cons_append, missed, missed, ih]
      simp only [List.mem_cons, reduceCtorEq, false_or]

/-- The message of a last turn is missed where the receiver has gone before. -/
theorem missed_concat (turns : List Turn) (last : Turn) :
    missed (turns ++ [last]) =
      missed turns ++ if .leave ∈ turns then last.message?.toList else [] := by
  rw [missed_append]
  cases last <;> rfl

/-- A last turn that publishes nothing misses nothing. -/
theorem missed_concat_of_none (turns : List Turn) {last : Turn} (h : last.message? = none) :
    missed (turns ++ [last]) = missed turns := by
  rw [missed_concat, h, Option.toList_none, ite_self, List.append_nil]

/-- Nothing is missed while there is a receiver. -/
theorem missed_eq_nil {turns : List Turn} (h : .leave ∉ turns) : missed turns = [] := by
  induction turns with
  | nil => rfl
  | cons first rest ih =>
    rw [List.mem_cons, not_or] at h
    cases first with
    | leave => exact absurd rfl h.1
    | publish message => exact ih h.2
    | receive => exact ih h.2

namespace Exchange

/-- One more turn changes the exchange. -/
theorem after_concat (exchange : Exchange) (turns : List Turn) (last : Turn) :
    exchange.after (turns ++ [last]) = (exchange.after turns).turn last := by
  rw [after, List.foldl_append]
  rfl

/-- What is reported in a last turn comes last. -/
theorem log_concat (exchange : Exchange) (turns : List Turn) (last : Turn) :
    exchange.log (turns ++ [last]) =
      exchange.log turns ++ (exchange.after turns).reports last := by
  induction turns generalizing exchange with
  | nil =>
    rw [List.nil_append, log, log, log, List.append_nil, List.nil_append]
    rfl
  | cons first rest ih =>
    rw [List.cons_append, log, log, ih, List.append_assoc]
    rfl

/-- What is published in a last turn comes last. -/
theorem publishedWhen_concat (situation : Exchange → Bool) (exchange : Exchange)
    (turns : List Turn) (last : Turn) :
    exchange.publishedWhen situation (turns ++ [last]) =
      exchange.publishedWhen situation turns ++
        if situation (exchange.after turns) then last.message?.toList else [] := by
  induction turns generalizing exchange with
  | nil =>
    rw [List.nil_append, publishedWhen, publishedWhen, publishedWhen, List.append_nil,
      List.nil_append]
    rfl
  | cons first rest ih =>
    rw [List.cons_append, publishedWhen, publishedWhen, ih, List.append_assoc]
    rfl

/-- What is published in some situation is a part of what is published. -/
theorem publishedWhen_sublist (situation : Exchange → Bool) (exchange : Exchange)
    (turns : List Turn) : (exchange.publishedWhen situation turns).Sublist (published turns) := by
  induction turns generalizing exchange with
  | nil => exact List.Sublist.refl _
  | cons first rest ih =>
    have hrest := ih (exchange.turn first)
    rw [publishedWhen, published, List.filterMap_cons]
    cases first with
    | publish message =>
      split
      · exact hrest.cons_cons message
      · exact hrest.cons message
    | receive =>
      rw [Turn.message?, Option.toList_none, ite_self]
      exact hrest
    | leave =>
      rw [Turn.message?, Option.toList_none, ite_self]
      exact hrest

end Exchange

/-! ## All that a turn can do -/

/-- **All that publishing can do.** A publisher that gave up does nothing. Otherwise it gives up
where the receiver is gone, and lets the message wait where there is room. Where the channel is
full, it has to wait for room, or drops the message. It reports when it gives up and when it
drops. -/
theorem Publisher.publish_cases (publisher : Publisher) (message : Message) :
    (publisher.gaveUp = true ∧ publisher.publish message = some (publisher, [])) ∨
    (publisher.gaveUp = false ∧ publisher.channel.connected = false ∧
      publisher.publish message = some ({ publisher with gaveUp := true }, [.receiverGone])) ∨
    (publisher.gaveUp = false ∧ publisher.channel.connected = true ∧
      publisher.channel.hasRoom = true ∧
      publisher.publish message =
        some ({ publisher with channel := publisher.channel.enqueue message }, [])) ∨
    (publisher.gaveUp = false ∧ publisher.channel.connected = true ∧
      publisher.channel.hasRoom = false ∧ publisher.waits = true ∧
      publisher.publish message = none) ∨
    (publisher.gaveUp = false ∧ publisher.channel.connected = true ∧
      publisher.channel.hasRoom = false ∧ publisher.waits = false ∧
      publisher.publish message = some (publisher, [.channelFull message.kind])) := by
  unfold publish
  cases publisher.gaveUp
  case true => exact .inl ⟨rfl, rfl⟩
  cases publisher.channel.connected
  case false => exact .inr (.inl ⟨rfl, rfl, rfl⟩)
  cases publisher.channel.hasRoom
  case true => exact .inr (.inr (.inl ⟨rfl, rfl, rfl, rfl⟩))
  cases publisher.waits
  case true => exact .inr (.inr (.inr (.inl ⟨rfl, rfl, rfl, rfl, rfl⟩)))
  case false => exact .inr (.inr (.inr (.inr ⟨rfl, rfl, rfl, rfl, rfl⟩)))

namespace Exchange

/-- How an exchange stands after turns: the channel and the sender are of the kind they were, the
receiver is there until it leaves, nothing waits for a receiver that is gone, no more waits than
may, the sender gave up where it published something behind the receiver's going, and what was
received or waits, or waited when the receiver went, are the messages that got into the channel. -/
structure Stands (capacity : Nat) (waits : Bool) (turns : List Turn) (accepted : List Message)
    (exchange : Exchange) : Prop where
  bound : exchange.publisher.channel.bound = some capacity
  waits : exchange.publisher.waits = waits
  connected : exchange.connected = true ↔ .leave ∉ turns
  abandoned : exchange.connected = true → exchange.abandoned = []
  queue : exchange.connected = false → exchange.queue = []
  within : exchange.queue.length ≤ capacity
  gaveUp : exchange.publisher.gaveUp = true ↔ missed turns ≠ []
  messages : exchange.received ++ exchange.abandoned ++ exchange.queue = accepted

namespace Stands

variable {capacity : Nat} {waits : Bool} {turns : List Turn} {accepted : List Message}
  {exchange : Exchange} (h : Stands capacity waits turns accepted exchange)

include h

/-- The receiver is gone where the sender gave up. -/
theorem connected_of_gaveUp (hgave : exchange.publisher.gaveUp = true) :
    exchange.connected = false := by
  by_contra hthere
  rw [Bool.not_eq_false] at hthere
  exact h.gaveUp.1 hgave (missed_eq_nil (h.connected.1 hthere))

/-- There is room as long as fewer messages wait than may. -/
theorem hasRoom :
    exchange.publisher.channel.hasRoom = decide (exchange.queue.length < capacity) := by
  rw [Channel.hasRoom, h.bound]
  rfl

/-- What a message finds that is published while there is a receiver. -/
theorem findsRoom_of_connected (hthere : exchange.connected = true) :
    exchange.findsRoom capacity = exchange.publisher.channel.hasRoom := by
  rw [h.hasRoom, findsRoom, hthere, Bool.true_and]

/-- Publishing keeps how the exchange stands. -/
theorem publish (message : Message) :
    Stands capacity waits (turns ++ [.publish message])
      (accepted ++ if exchange.findsRoom capacity then [message] else [])
      (exchange.turn (.publish message)) := by
  have hleave : .leave ∈ turns ++ [.publish message] ↔ .leave ∈ turns := by simp
  have hmissed := missed_concat turns (.publish message)
  -- where nothing gets into the channel, only the turns change
  have hunchanged : exchange.connected = true → exchange.publisher.channel.hasRoom = false →
      exchange.turn (.publish message) = exchange →
      Stands capacity waits (turns ++ [.publish message])
        (accepted ++ if exchange.findsRoom capacity then [message] else [])
        (exchange.turn (.publish message)) := by
    intro hthere hfull hsame
    rw [hsame, h.findsRoom_of_connected hthere, hfull, if_neg Bool.false_ne_true, List.append_nil]
    refine { h with connected := h.connected.trans (not_congr hleave.symm), gaveUp := ?_ }
    rw [hmissed, if_neg (h.connected.1 hthere), List.append_nil]
    exact h.gaveUp
  obtain ⟨hgave, heq⟩ | ⟨hgave, hgone, heq⟩ | ⟨hgave, hthere, hroom, heq⟩ |
      ⟨-, hthere, hfull, -, heq⟩ | ⟨-, hthere, hfull, -, heq⟩ :=
    exchange.publisher.publish_cases message
  · have hnone : exchange.findsRoom capacity = false := by
      rw [findsRoom, h.connected_of_gaveUp hgave, Bool.false_and]
    rw [turn, heq, hnone, if_neg Bool.false_ne_true, List.append_nil]
    refine { h with connected := h.connected.trans (not_congr hleave.symm), gaveUp := ?_ }
    rw [hmissed]
    exact ⟨fun _ hnil => h.gaveUp.1 hgave (List.append_eq_nil_iff.1 hnil).1, fun _ => hgave⟩
  · have hgone : exchange.connected = false := hgone
    have hleft : .leave ∈ turns := by
      by_contra hstays
      rw [h.connected.2 hstays] at hgone
      cases hgone
    rw [turn, heq, findsRoom, hgone, Bool.false_and, if_neg Bool.false_ne_true, List.append_nil]
    refine { h with connected := h.connected.trans (not_congr hleave.symm), gaveUp := ?_ }
    rw [hmissed, if_pos hleft]
    exact ⟨fun _ => List.append_ne_nil_of_right_ne_nil _ (List.cons_ne_nil _ _), fun _ => rfl⟩
  · have hthere : exchange.connected = true := hthere
    rw [turn, heq, h.findsRoom_of_connected hthere, hroom, if_pos rfl]
    have hlast : exchange.queue.length < capacity := by
      rw [h.hasRoom] at hroom
      exact of_decide_eq_true hroom
    refine { h with
      connected := h.connected.trans (not_congr hleave.symm)
      queue := fun hgone => absurd (hthere.symm.trans hgone) (by decide)
      within := ?_
      gaveUp := ?_
      messages := ?_ }
    · show (exchange.queue ++ [message]).length ≤ capacity
      rw [List.length_append]
      exact hlast
    · rw [hmissed, if_neg (h.connected.1 hthere), List.append_nil]
      exact h.gaveUp
    · rw [← h.messages]
      exact (List.append_assoc _ _ _).symm
  · exact hunchanged hthere hfull (by rw [turn, heq]; rfl)
  · exact hunchanged hthere hfull (by rw [turn, heq]; rfl)

/-- Receiving keeps how the exchange stands. -/
theorem receive :
    Stands capacity waits (turns ++ [.receive]) accepted (exchange.turn .receive) := by
  have hleave : .leave ∈ turns ++ [.receive] ↔ .leave ∈ turns := by simp
  have hmissed : missed (turns ++ [.receive]) = missed turns := missed_concat_of_none turns rfl
  have hconnected : (exchange.turn .receive).connected = exchange.connected := rfl
  have hqueue : (exchange.turn .receive).queue = exchange.queue.tail := rfl
  refine { h with connected := ?_, queue := ?_, within := ?_, gaveUp := ?_, messages := ?_ }
  · rw [hconnected, hleave]
    exact h.connected
  · intro hgone
    rw [hqueue, h.queue hgone, List.tail_nil]
  · rw [hqueue, List.length_tail]
    exact Nat.le_trans (Nat.sub_le _ _) h.within
  · rw [hmissed]
    exact h.gaveUp
  · show exchange.received ++ exchange.queue.head?.toList ++ exchange.abandoned ++
      exchange.queue.tail = accepted
    rw [← h.messages]
    cases hfirst : exchange.queue with
    | nil => simp
    | cons first rest =>
      -- a message waits only for a receiver that is there, so nothing was abandoned
      have hthere : exchange.connected = true := by
        by_contra hgone
        rw [h.queue (Bool.eq_false_iff.2 hgone)] at hfirst
        cases hfirst
      simp [h.abandoned hthere]

/-- The receiver's going keeps how the exchange stands. -/
theorem leave :
    Stands capacity waits (turns ++ [.leave]) accepted (exchange.turn .leave) := by
  have hmissed : missed (turns ++ [.leave]) = missed turns := missed_concat_of_none turns rfl
  refine { h with
    connected := ?_, abandoned := ?_, queue := ?_, within := ?_, gaveUp := ?_, messages := ?_ }
  · exact ⟨fun hthere => (by cases hthere), fun hstays => absurd (by simp) hstays⟩
  · intro hthere
    cases hthere
  · intro _
    rfl
  · exact Nat.zero_le _
  · rw [hmissed]
    exact h.gaveUp
  · show exchange.received ++ (exchange.abandoned ++ exchange.queue) ++ [] = accepted
    rw [List.append_nil, ← List.append_assoc, h.messages]

end Stands

/-- **After any turns an exchange stands as it should**: what was received or waits, or waited when
the receiver went, are the messages that got into the channel. -/
theorem stands_after (capacity : Nat) (waits : Bool) (turns : List Turn) :
    Stands capacity waits turns
      ((bounded capacity waits).publishedWhen (findsRoom capacity) turns)
      ((bounded capacity waits).after turns) := by
  induction turns using List.reverseRecOn with
  | nil =>
    refine ⟨rfl, rfl, ?_, fun _ => rfl, fun _ => rfl, Nat.zero_le _, ?_, rfl⟩
    · exact ⟨fun _ => List.not_mem_nil, fun _ => rfl⟩
    · exact ⟨fun hgave => (by cases hgave), fun hmissed => absurd rfl hmissed⟩
  | append_singleton turns last ih =>
    rw [after_concat, publishedWhen_concat]
    cases last with
    | publish message => exact ih.publish message
    | receive =>
      rw [Turn.message?, Option.toList_none, ite_self, List.append_nil]
      exact ih.receive
    | leave =>
      rw [Turn.message?, Option.toList_none, ite_self, List.append_nil]
      exact ih.leave

/-! ## What is reported -/

namespace Stands

variable {capacity : Nat} {waits : Bool} {turns : List Turn} {accepted : List Message}
  {exchange : Exchange} (h : Stands capacity waits turns accepted exchange)

include h

/-- **What is reported of a message.** While there is a receiver, a message is reported when it
finds no room and the sender does not wait. Behind the receiver's going, the first message is
reported and no other one. -/
theorem reports_publish (message : Message) :
    exchange.reports (.publish message) =
      if .leave ∈ turns then
        if missed turns = [] then [.receiverGone] else []
      else if waits || exchange.queue.length < capacity then []
      else [.channelFull message.kind] := by
  have hroom : (waits || decide (exchange.queue.length < capacity)) =
      (exchange.publisher.waits || exchange.publisher.channel.hasRoom) := by
    rw [h.hasRoom, h.waits]
  obtain ⟨hgave, heq⟩ | ⟨hgave, hgone, heq⟩ | ⟨-, hthere, hopen, heq⟩ |
      ⟨-, hthere, -, hwaits, heq⟩ | ⟨-, hthere, hfull, hwaits, heq⟩ :=
    exchange.publisher.publish_cases message
  · have hmissed := h.gaveUp.1 hgave
    have hleft : .leave ∈ turns := by
      by_contra hstays
      exact hmissed (missed_eq_nil hstays)
    rw [reports, heq, if_pos hleft, if_neg hmissed]
    rfl
  · have hleft : .leave ∈ turns := by
      by_contra hstays
      exact absurd (hgone.symm.trans (h.connected.2 hstays)) (by decide)
    have hmissed : missed turns = [] := by
      by_contra hmissed
      exact absurd (hgave.symm.trans (h.gaveUp.2 hmissed)) (by decide)
    rw [reports, heq, if_pos hleft, if_pos hmissed]
    rfl
  · rw [reports, heq, if_neg (h.connected.1 hthere), hroom, hopen, Bool.or_true, if_pos rfl]
    rfl
  · rw [reports, heq, if_neg (h.connected.1 hthere), hroom, hwaits, Bool.true_or, if_pos rfl]
    rfl
  · rw [reports, heq, if_neg (h.connected.1 hthere), hroom, hwaits, hfull, Bool.or_self,
      if_neg Bool.false_ne_true]
    rfl

end Stands

/-- Whatever is reported is a warning. -/
theorem level_of_mem_reports {exchange : Exchange} {turn : Turn} {report : Diagnostic}
    (h : report ∈ exchange.reports turn) : report.level = .warn := by
  cases turn with
  | receive => cases h
  | leave => cases h
  | publish message =>
    rw [reports] at h
    obtain ⟨-, heq⟩ | ⟨-, -, heq⟩ | ⟨-, -, -, heq⟩ | ⟨-, -, -, -, heq⟩ | ⟨-, -, -, -, heq⟩ :=
      exchange.publisher.publish_cases message
    · rw [heq] at h
      cases h
    · rw [heq, Option.elim_some, List.mem_singleton] at h
      rw [h]
      rfl
    · rw [heq] at h
      cases h
    · rw [heq] at h
      cases h
    · rw [heq, Option.elim_some, List.mem_singleton] at h
      rw [h]
      rfl

/-- The log holds nothing but warnings. -/
theorem level_of_mem_log {exchange : Exchange} {turns : List Turn} {report : Diagnostic}
    (h : report ∈ exchange.log turns) : report.level = .warn := by
  induction turns generalizing exchange with
  | nil => cases h
  | cons first rest ih =>
    rw [log, List.mem_append] at h
    exact h.elim level_of_mem_reports ih

/-- **That the receiver is gone is reported once**, where something is published behind its
going. -/
theorem countP_receiverGone_log (capacity : Nat) (waits : Bool) (turns : List Turn) :
    ((bounded capacity waits).log turns).countP (· matches .receiverGone) =
      if missed turns = [] then 0 else 1 := by
  induction turns using List.reverseRecOn with
  | nil => rfl
  | append_singleton turns last ih =>
    rw [log_concat, List.countP_append, ih]
    cases last with
    | receive =>
      rw [missed_concat_of_none turns rfl]
      rfl
    | leave =>
      rw [missed_concat_of_none turns rfl]
      rfl
    | publish message =>
      rw [(stands_after capacity waits turns).reports_publish, missed_concat]
      by_cases hleft : .leave ∈ turns
      · by_cases hnone : missed turns = [] <;> simp [hleft, hnone, Turn.message?]
      · rw [if_neg hleft, if_neg hleft, List.append_nil, missed_eq_nil hleft, if_pos rfl,
          Nat.zero_add]
        split <;> rfl

/-! ## A sender that gave up -/

/-- Nothing changes any more once the sender gave up. -/
theorem turn_of_gaveUp {exchange : Exchange} (hgave : exchange.publisher.gaveUp = true)
    (hgone : exchange.connected = false) (hqueue : exchange.queue = []) (turn : Turn) :
    exchange.turn turn = exchange ∧ exchange.reports turn = [] := by
  obtain ⟨⟨⟨bound, queue, connected⟩, waits, gaveUp⟩, received, abandoned⟩ := exchange
  obtain rfl : connected = false := hgone
  obtain rfl : queue = [] := hqueue
  obtain rfl : gaveUp = true := hgave
  cases turn with
  | publish message => exact ⟨rfl, rfl⟩
  | receive => simp [Exchange.turn, Channel.receive, reports]
  | leave => simp [Exchange.turn, Channel.disconnect, reports, Exchange.queue]

/-- **Giving up is for good**: whatever follows changes nothing and reports nothing. -/
theorem after_of_gaveUp {exchange : Exchange} (hgave : exchange.publisher.gaveUp = true)
    (hgone : exchange.connected = false) (hqueue : exchange.queue = []) (later : List Turn) :
    exchange.after later = exchange ∧ exchange.log later = [] := by
  induction later with
  | nil => exact ⟨rfl, rfl⟩
  | cons first rest ih =>
    obtain ⟨hturn, hreports⟩ := turn_of_gaveUp hgave hgone hqueue first
    refine ⟨?_, ?_⟩
    · rw [after, List.foldl_cons, hturn]
      exact ih.1
    · rw [log, hreports, hturn, ih.2]
      rfl

/-- **A sender that does not wait delivers what finds room.** After any turns over a channel in
which `capacity` messages may wait, the messages that were received and those that wait, or waited
when the receiver went, are those that were published while there was a receiver and room, in
order. The next message is reported by one warning, unless it finds a receiver and room, or the
sender has told before that the receiver is gone. From then on nothing changes and nothing is
reported. -/
theorem delivers_what_found_room (capacity : Nat) (turns : List Turn) :
    let start := bounded capacity false
    let last := start.after turns
    (last.received ++ last.abandoned ++ last.queue =
        start.publishedWhen (findsRoom capacity) turns ∧
      (start.publishedWhen (findsRoom capacity) turns).Sublist (published turns)) ∧
    ((last.connected = true ↔ .leave ∉ turns) ∧
      (last.connected = true → last.abandoned = []) ∧
      (last.connected = false → last.queue = [])) ∧
    (∀ message, last.reports (.publish message) =
      if .leave ∈ turns then
        if missed turns = [] then [.receiverGone] else []
      else if last.queue.length < capacity then []
      else [.channelFull message.kind]) ∧
    (∀ report ∈ start.log turns, report.level = .warn) ∧
    (start.log turns).countP (· matches .receiverGone) = (if missed turns = [] then 0 else 1) ∧
    (last.publisher.gaveUp = true ↔ missed turns ≠ []) ∧
    (missed turns ≠ [] → ∀ later, last.after later = last ∧ last.log later = []) := by
  intro start last
  have h : Stands capacity false turns (start.publishedWhen (findsRoom capacity) turns) last :=
    stands_after capacity false turns
  refine ⟨⟨h.messages, publishedWhen_sublist _ _ _⟩, ⟨h.connected, h.abandoned, h.queue⟩, ?_,
    fun _ => level_of_mem_log, countP_receiverGone_log capacity false turns, h.gaveUp, ?_⟩
  · intro message
    rw [h.reports_publish]
    simp only [Bool.false_or, decide_eq_true_eq]
  · intro hmissed later
    have hgave := h.gaveUp.2 hmissed
    have hgone := h.connected_of_gaveUp hgave
    exact after_of_gaveUp hgave hgone (h.queue hgone) later

end Exchange

end NavStream
