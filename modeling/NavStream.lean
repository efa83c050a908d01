import NavStream.Axes
import NavStream.Bytes.Buffer
import NavStream.Bytes.Fields
import NavStream.Bytes.Search
import NavStream.Capture.Filling
import NavStream.Capture.Listing
import NavStream.Capture.Run
import NavStream.Capture.Summary
import NavStream.Channel
import NavStream.Checksum.Crc
import NavStream.Checksum.Verdict
import NavStream.Checksum.Xor
import NavStream.Cli.Arguments
import NavStream.Cli.Folder
import NavStream.Cli.LogFilter
import NavStream.Cli.Report
import NavStream.Cli.Run
import NavStream.Config
import NavStream.Correction.Status
import NavStream.Correction.Stream
import NavStream.Datum.Basic
import NavStream.Datum.Codec
import NavStream.Datum.Display
import NavStream.Datum.Shape
import NavStream.Decimal.Binary
import NavStream.Decimal.Layout
import NavStream.Decimal.Reading
import NavStream.Decimal.Shortest
import NavStream.Diagnostic
import NavStream.Frame.Decoder
import NavStream.Frame.Session
import NavStream.Json.Failure
import NavStream.Json.Node
import NavStream.Json.Number
import NavStream.Json.Quoted
import NavStream.Json.Reader
import NavStream.Json.Typed
import NavStream.Json.Word
import NavStream.Json.Writer
import NavStream.Message.Basic
import NavStream.Message.Codes
import NavStream.Message.Data
import NavStream.Message.Text
import NavStream.Oem.Decoder
import NavStream.Oem.Fix
import NavStream.Oem.Header
import NavStream.Oem.Imu
import NavStream.Oem.Ins
import NavStream.Oem.Log.Ephemeris
import NavStream.Oem.Log.Inertial
import NavStream.Oem.Log.Range
import NavStream.Oem.Log.Solution
import NavStream.Oem.LogId
import NavStream.Oem.RawSample
import NavStream.Oem.Unsupported
import NavStream.Pattern.Basic
import NavStream.Pattern.Reader
import NavStream.Pattern.Support
import NavStream.Proofs.Bytes.FirstToken
import NavStream.Proofs.Bytes.FixedWidth
import NavStream.Proofs.Bytes.Offsets
import NavStream.Proofs.Bytes.Queue
import NavStream.Proofs.Bytes.QueueRun
import NavStream.Proofs.Bytes.Windows
import NavStream.Proofs.Capture.Agreement
import NavStream.Proofs.Capture.Lines
import NavStream.Proofs.Capture.Tally
import NavStream.Proofs.Channel.Exchange
import NavStream.Proofs.Channel.Relay
import NavStream.Proofs.Checksum.Burst
import NavStream.Proofs.Checksum.Residue
import NavStream.Proofs.Checksum.Xor
import NavStream.Proofs.Correction.Delivery
import NavStream.Proofs.Decimal.Binary
import NavStream.Proofs.Decimal.Floating
import NavStream.Proofs.Decimal.Numeral
import NavStream.Proofs.Decimal.Shortest
import NavStream.Proofs.Frame.Agreement
import NavStream.Proofs.Frame.Bounded
import NavStream.Proofs.Frame.Contract
import NavStream.Proofs.Frame.Effect
import NavStream.Proofs.Frame.History
import NavStream.Proofs.Frame.Locating
import NavStream.Proofs.Frame.Loop
import NavStream.Proofs.Frame.NewSession
import NavStream.Proofs.Frame.Placement
import NavStream.Proofs.Frame.Schedule
import NavStream.Proofs.Json.Floating
import NavStream.Proofs.Json.Layout
import NavStream.Proofs.Json.Literal
import NavStream.Proofs.Json.Quotation
import NavStream.Proofs.Json.Rereading
import NavStream.Proofs.Json.Rounding
import NavStream.Proofs.Json.Tree
import NavStream.Proofs.Json.Writing
import NavStream.Proofs.Message.RoundTrip
import NavStream.Proofs.Oem.Anchored
import NavStream.Proofs.Oem.Contents
import NavStream.Proofs.Oem.Contract
import NavStream.Proofs.Oem.Corruption
import NavStream.Proofs.Oem.EncodedFrame
import NavStream.Proofs.Oem.FixTags
import NavStream.Proofs.Oem.FrameCheck
import NavStream.Proofs.Oem.FrameRange
import NavStream.Proofs.Oem.Front
import NavStream.Proofs.Oem.Gathered
import NavStream.Proofs.Oem.Handed
import NavStream.Proofs.Oem.HeaderCodec
import NavStream.Proofs.Oem.Layouts
import NavStream.Proofs.Oem.LogGroups
import NavStream.Proofs.Oem.Merging
import NavStream.Proofs.Oem.Resync
import NavStream.Proofs.Oem.ReturningTags
import NavStream.Proofs.Oem.Schedule
import NavStream.Proofs.Oem.Signals
import NavStream.Proofs.Oem.Soundness
import NavStream.Proofs.Sentence.Anchored
import NavStream.Proofs.Sentence.Contract
import NavStream.Proofs.Sentence.Corruption
import NavStream.Proofs.Sentence.Ending
import NavStream.Proofs.Sentence.Intact
import NavStream.Proofs.Sentence.Item
import NavStream.Proofs.Sentence.LocatedKind
import NavStream.Proofs.Sentence.Outcome
import NavStream.Proofs.Sentence.Recorded
import NavStream.Proofs.Sentence.Schedule
import NavStream.Proofs.Sentence.Segments
import NavStream.Proofs.Sentence.Soundness
import NavStream.Proofs.Sentence.Table
import NavStream.Proofs.Sentence.Tokens
import NavStream.Proofs.Text.OneLine
import NavStream.Sentence.Bundle
import NavStream.Sentence.Decoder
import NavStream.Sentence.Kind
import NavStream.Sentence.Record
import NavStream.Text.Alphanumeric
import NavStream.Text.Blank
import NavStream.Text.Printable
import NavStream.Text.Quoted
import NavStream.Text.Ranges
import NavStream.Text.Slice
import NavStream.Text.Utf8
import NavStream.Time.Calendar
import NavStream.Time.Gps
import NavStream.Main
import NavStream.Proofs.Oem.InsSamples
import NavStream.Proofs.Time.LeapSeconds
import NavStream.Proofs.Oem.Traces
import NavStream.Proofs.Sentence.Told
