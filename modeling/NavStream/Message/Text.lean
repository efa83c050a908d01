import NavStream.Datum.Display
import NavStream.Json.Reader
import NavStream.Message.Data

/-!
# Texts of messages

A message is shown to people on one line, and exchanged as JSON.

* `Message.display` — the text for people;
* `Message.toJson`, `Message.ofJson` — writing and reading JSON.
-/

namespace NavStream.Message

/-- The text of a message for people. -/
def display (message : Message) : String := message.toDatum.display

/-- The JSON text of a message. -/
def toJson (message : Message) : String := Json.compact message.toDatum

/-- The message that a JSON text describes. -/
def ofJson (text : String) : Except Json.Error Message :=
  Json.decode Codecs.message text.toUTF8.toList

end NavStream.Message
