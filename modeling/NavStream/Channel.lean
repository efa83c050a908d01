import NavStream.Frame.Session

/-!
# Channels of messages

Decoded messages go to a receiver through a channel, which holds them until they are received. A
channel may have a bound. A sender that does not wait drops a message that finds no room, one that
does is not done with the message before there is room, and every sender gives up for good once the
receiver is gone.

* `Channel` — the messages on their way;
* `Publisher` — the sending side;
* `Publisher.publish`, `Publisher.drive` — sending one message, and all that a session decodes.
-/

namespace NavStream

open NavStream.Frame

/-- The messages that wait for a receiver. -/
structure Channel where
  /-- How many messages may wait, if there is a bound. -/
  bound : Option Nat
  /-- The messages that wait, the oldest first. -/
  queue : List Message := []
  /-- Whether there still is a receiver. -/
  connected : Bool := true

namespace Channel

/-- Whether one more message may wait. -/
def hasRoom (channel : Channel) : Bool :=
  match channel.bound with
  | none => true
  | some bound => channel.queue.length < bound

/-- Lets one more message wait. -/
def enqueue (channel : Channel) (message : Message) : Channel :=
  { channel with queue := channel.queue ++ [message] }

/-- Takes the message that has waited longest, if one waits. -/
def receive (channel : Channel) : Option Message × Channel :=
  (channel.queue.head?, { channel with queue := channel.queue.tail })

/-- Takes every message that waits; nothing once the receiver is gone. -/
def receiveAll (channel : Channel) : Option (List Message) × Channel :=
  if channel.connected then (some channel.queue, { channel with queue := [] }) else (none, channel)

/-- The receiver goes, and with it the messages that wait. -/
def disconnect (channel : Channel) : Channel := { channel with queue := [], connected := false }

end Channel

/-- The sending side of a channel. -/
structure Publisher where
  /-- The channel. -/
  channel : Channel
  /-- Whether to wait for room. -/
  waits : Bool
  /-- Whether the receiver was found to be gone. -/
  gaveUp : Bool := false

namespace Publisher

/-- Sends a message. Nothing comes of it as long as the publisher waits for room. -/
def publish (publisher : Publisher) (message : Message) : Option (Publisher × List Diagnostic) :=
  if publisher.gaveUp then some (publisher, [])
  else if !publisher.channel.connected then
    some ({ publisher with gaveUp := true }, [.receiverGone])
  else if publisher.channel.hasRoom then
    some ({ publisher with channel := publisher.channel.enqueue message }, [])
  else if publisher.waits then none
  else some (publisher, [.channelFull message.kind])

/-- Sends a message unless the publisher still waits with an earlier one. -/
def offer (publisher? : Option Publisher) (message : Message) :
    Option Publisher × List Diagnostic :=
  match publisher?.bind (·.publish message) with
  | some (publisher, reports) => (some publisher, reports)
  | none => (none, [])

/-- Decodes every frame that is complete and sends its messages, unless the publisher has to wait
for room. -/
def drive {σ : Type} (publisher : Publisher) (session : Session σ) :
    Option (Publisher × Decoded σ × List Diagnostic) :=
  let (publisher?, decoded, reports) := session.drive offer (some publisher)
  publisher?.map fun publisher => (publisher, decoded, reports)

end Publisher

end NavStream
