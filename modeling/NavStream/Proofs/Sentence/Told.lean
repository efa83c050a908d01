import NavStream.Proofs.Frame.Placement
import NavStream.Proofs.Sentence.Contract

/-!
# Every sentence is delivered or warned of

A cycle that is done with a sentence gives the messages of the sentence, or it warns once and gives
nothing. It never does both and never neither, and a cycle that waits for more bytes does nothing of
the kind. So as many warnings are reported as there are sentences of which nothing was given.

* `checkFrame_cases` — a whole sentence gives its messages, or one warning;
* `Told` — what a cycle tells of the sentence at the front;
* `told_of_inStep` — every cycle does so;
* `sentences_are_told` — the warnings after any calls.
-/

namespace NavStream.Sentence

open NavStream.Bytes NavStream.Checksum NavStream.Frame

/-! ## Warnings -/

/-- The number of warnings among reports. -/
def warnings (reports : List Diagnostic) : Nat := reports.countP fun report => report.level = .warn

/-- Warnings add up. -/
theorem warnings_append (first others : List Diagnostic) :
    warnings (first ++ others) = warnings first + warnings others :=
  List.countP_append

/-- Nothing is warned of where bytes are skipped. -/
theorem warnings_seek (state : State) (bytes : List UInt8) :
    warnings (seek state bytes).diagnostics = 0 := by
  rw [seek_eq]
  cases findOffset startsWithToken bytes <;> dsimp only <;> split <;> rfl

/-! ## Whole sentences -/

/-- Interpreting a sentence gives its messages, or one warning. -/
theorem interpret_cases (kind : Kind) (frame : List UInt8) :
    (∃ messages, interpret kind frame (bodyOf frame) = (messages, []) ∧
        Delivers frame kind messages) ∨
      ∃ report : Diagnostic, interpret kind frame (bodyOf frame) = ([], [report]) ∧
        report.level = .warn := by
  unfold interpret
  cases kind with
  | gpgga => exact .inl ⟨_, rfl, .forwarded⟩
  | gpchc | gpchcx =>
    dsimp only
    cases htext : Text.decode? (bodyOf frame) with
    | none => exact .inr ⟨_, rfl, rfl⟩
    | some sentence =>
      dsimp only
      cases hparse : Record.parse sentence with
      | error error => exact .inr ⟨_, rfl, rfl⟩
      | ok record =>
        refine .inl ⟨_, rfl, Carries.delivers (.record Kind.noConfusion ?_)⟩
        rw [recordOf?, htext, Option.bind_some, hparse]
        rfl

/-- **A whole sentence gives its messages, or one warning.** -/
theorem checkFrame_cases (kind : Kind) (frame : List UInt8) :
    (∃ messages, checkFrame kind frame = (messages, []) ∧ Delivers frame kind messages) ∨
      ∃ report : Diagnostic, checkFrame kind frame = ([], [report]) ∧ report.level = .warn := by
  by_cases hintact : Intact kind frame
  · rw [checkFrame_of_intact hintact]
    exact interpret_cases kind frame
  · exact .inr (checkFrame_of_not_intact hintact)

/-! ## Cycles -/

/-- `Told session`: the next cycle of a session tells of the sentence at the front, once. -/
inductive Told (session : Session State) : Prop where
  /-- The cycle gives the messages of the sentence, and warns of nothing. -/
  | delivered {begun : Session State} {kind : Kind} {frame : List UInt8}
      (hbegun : session.begun? = some begun) (hfront : frame <+: begun.buffer.peek)
      (htoken : kind.token <+: frame) (hnext : session.cycle.next = .continue)
      (hmessages : Delivers frame kind session.cycle.messages)
      (hquiet : warnings session.cycle.diagnostics = 0)
  /-- The cycle gives nothing of the sentence, and warns once. -/
  | reported {begun : Session State} {kind : Kind} (hbegun : session.begun? = some begun)
      (htoken : kind.token <+: begun.buffer.peek) (hnext : session.cycle.next = .continue)
      (hmessages : session.cycle.messages = []) (honce : warnings session.cycle.diagnostics = 1)
  /-- There is no sentence yet, or it does not end yet. -/
  | waiting (hnext : session.cycle.next = .wait) (hmessages : session.cycle.messages = [])
      (hquiet : warnings session.cycle.diagnostics = 0)

section Cycle

variable {session begun : Session State} (hdecoder : session.decoder = decoder)

include hdecoder

/-- Looking for a sentence warns of nothing. -/
theorem warnings_sought : warnings session.seek.diagnostics = 0 := by
  have hseek : session.seek.diagnostics =
      (session.decoder.seek session.state session.buffer.peek).diagnostics := rfl
  rw [hseek, hdecoder]
  exact warnings_seek session.state session.buffer.peek

/-- A cycle that begins to extract warns of what extracting warns of. -/
theorem warnings_cycle_of_begun (hbegun : session.begun? = some begun) :
    warnings session.cycle.diagnostics = warnings begun.extract.diagnostics := by
  rw [(Session.cycle_of_begun hbegun).2.2, warnings_append]
  split
  next => rw [warnings_sought hdecoder, Nat.zero_add]
  next => exact Nat.zero_add _

/-- What is extracted is a sentence, and extracting it does what its ending calls for. -/
theorem realizes_extract_of_begun (h : Session.InStep recording session)
    (hbegun : session.begun? = some begun) :
    ∃ kind : Kind, kind.token <+: begun.buffer.peek ∧
      Session.Realizes ((ending begun.buffer.peek).effect kind begun.buffer.peek) begun
        begun.extract := by
  have honors : session.decoder.Honors recording shortestToken := hdecoder ▸ honors_decoder
  obtain ⟨hphase, hsame, -⟩ := Session.extracting_of_begun hbegun
  have hready := h.of_begun honors hbegun
  obtain ⟨kind, hstate⟩ : ∃ kind : Kind, begun.state = some kind := hready.phase_iff.1 hphase
  have htoken : kind.token <+: begun.buffer.peek := hready.begins kind hstate
  have hrealizes := Session.realizes_extract hphase
  rw [hsame, hdecoder, hstate, extractEffect_eq htoken] at hrealizes
  exact ⟨kind, htoken, hrealizes⟩

/-- **Every cycle tells of the sentence at the front.** -/
theorem told_of_inStep (h : Session.InStep recording session) : Told session := by
  cases hbegun : session.begun? with
  | none =>
    have hcycle := Session.cycle_of_not_begun hbegun
    refine .waiting ?_ ?_ ?_
    · rw [hcycle]
    · rw [hcycle]
    · rw [hcycle]
      exact warnings_sought hdecoder
  | some begun =>
    obtain ⟨kind, htoken, hrealizes⟩ := realizes_extract_of_begun hdecoder h hbegun
    have hmessages := (Session.messages_cycle_of_begun hbegun).trans hrealizes.messages
    have hnext := (Session.cycle_of_begun hbegun).2.1.trans hrealizes.next
    have hwarnings := warnings_cycle_of_begun hdecoder hbegun
    rw [hrealizes.diagnostics] at hwarnings
    cases hending : ending begun.buffer.peek with
    | pending =>
      rw [hending] at hmessages hnext hwarnings
      exact .waiting hnext hmessages hwarnings
    | endless =>
      rw [hending] at hmessages hnext hwarnings
      exact .reported hbegun htoken hnext hmessages hwarnings
    | closed length =>
      rw [hending, Ending.effect] at hmessages hnext hwarnings
      -- the sentence is whole, so its checks and its record decide
      rcases checkFrame_cases kind (begun.buffer.peek.take length) with
        ⟨given, hcheck, hdelivers⟩ | ⟨report, hcheck, hlevel⟩
      · rw [hcheck] at hmessages hnext hwarnings
        have hbehind := token_length_le_of_closed htoken hending
        have hfront : kind.token <+: begun.buffer.peek.take length :=
          List.prefix_take_iff.2 ⟨htoken, by omega⟩
        exact .delivered hbegun (List.take_prefix _ _) hfront hnext (hmessages ▸ hdelivers)
          hwarnings
      · rw [hcheck] at hmessages hnext hwarnings
        refine .reported hbegun htoken hnext hmessages ?_
        rw [hwarnings, warnings_append, warnings, List.countP_singleton, hlevel]
        rfl

end Cycle

/-! ## Calls -/

/-- A cycle that is done with a sentence and gives nothing of it warns once, and no other does. -/
theorem Told.warnings_eq {session : Session State} (h : Told session) :
    warnings session.cycle.diagnostics =
      if session.cycle.next = .continue ∧ session.cycle.messages = [] then 1 else 0 := by
  cases h with
  | delivered hbegun hfront htoken hnext hmessages hquiet =>
    rw [hquiet, if_neg fun hdropped => hmessages.ne_nil hdropped.2]
  | reported hbegun htoken hnext hmessages honce => rw [honce, if_pos ⟨hnext, hmessages⟩]
  | waiting hnext hmessages hquiet =>
    rw [hquiet, if_neg]
    rintro ⟨hcontinue, -⟩
    cases hnext.symm.trans hcontinue

/-- Cycles that tell of their sentences warn as often as they give nothing of one. -/
theorem warnings_of_told {stages : List (Session State)} (h : ∀ stage ∈ stages, Told stage) :
    warnings (stages.map fun stage => stage.cycle.diagnostics).flatten =
      stages.countP fun stage => stage.cycle.next = .continue ∧ stage.cycle.messages = [] := by
  induction stages with
  | nil => rfl
  | cons stage rest ih =>
    rw [List.map_cons, List.flatten_cons, warnings_append,
      (h stage (List.mem_cons_self ..)).warnings_eq,
      ih fun other hother => h other (List.mem_cons_of_mem _ hother), List.countP_cons,
      Nat.add_comm]
    simp only [decide_eq_true_eq]

/-- **Every sentence is delivered or warned of, once.** Whatever calls feed a new session and make
it decode, each of its cycles gives the messages of a sentence and warns of nothing, or it is done
with a sentence, gives nothing and warns once, or it waits, gives nothing and warns of nothing. What
the session gives and reports is what its cycles give and report. So it has warned as often as cycles
were done with a sentence and gave nothing. -/
theorem sentences_are_told (buffer : ByteBuffer) (calls : List Call) :
    let history := (Session.new decoder buffer).after calls
    (∀ stage ∈ history.cycles, Told stage) ∧
      history.messages = (history.cycles.map fun stage => stage.cycle.messages).flatten ∧
      history.diagnostics = (history.cycles.map fun stage => stage.cycle.diagnostics).flatten ∧
      warnings history.diagnostics = history.cycles.countP fun stage =>
        stage.cycle.next = .continue ∧ stage.cycle.messages = [] := by
  intro history
  have htold : ∀ stage ∈ history.cycles, Told stage := by
    intro stage hstage
    obtain ⟨hdecoder, hstep⟩ := Session.inStep_after honors_decoder (by decide) buffer calls stage
      (List.mem_append_left _ hstage)
    exact told_of_inStep hdecoder hstep
  have hreports := Session.diagnostics_after (Session.new decoder buffer) calls
  refine ⟨htold, Session.messages_after _ calls, hreports, ?_⟩
  rw [hreports]
  exact warnings_of_told htold

end NavStream.Sentence
