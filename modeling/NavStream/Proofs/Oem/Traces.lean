import NavStream.Proofs.Oem.Contents
import NavStream.Proofs.Oem.EncodedFrame
import NavStream.Proofs.Oem.FixTags
import NavStream.Proofs.Oem.InsSamples

/-!
# What frames leave behind

An intact frame of a log that is understood gives a message, or is kept for a later one, or is
warned of. There is one exception: a range log whose payload is of an accepted length but announces
more records than the payload holds. It is used up, and nothing tells that it was there.

* `FixAccumulator.Holds`, `InsAccumulator.Holds` — a log is kept;
* `LeavesTrace` — the ways in which a frame can be accounted for;
* `leavesTrace_perform` — every log that can be read is;
* `Handed.Overcounted`, `Handed.action?_eq_none_iff` — which payloads of accepted lengths cannot be
  read;
* `leavesTrace_iff_not_overcounted` — what extracting a frame leaves behind.
-/

namespace NavStream.Oem

open NavStream.Bytes NavStream.Frame

variable {settings : Settings} {memory : Memory} {frame : Handed} {id : LogId}

/-! ## Logs that are kept -/

/-- A half of a fix is kept as it has come. -/
def FixAccumulator.Holds (acc : FixAccumulator) : FixUpdate → Prop
  | .position time log => acc.position = some (time, log)
  | .velocity time log => acc.velocity = some (time, log)

/-- Rates or covariances are kept as they are added to samples. Solutions are not kept. -/
def InsAccumulator.Holds (acc : InsAccumulator) : InsUpdate → Prop
  | .rates log => acc.rates = some (log.toRates acc.rate)
  | .covariance log => acc.covariances = some log.toCovariances
  | .solution _ => False

/-- Every half of a fix is kept, whether it completes one or not. -/
theorem FixAccumulator.holds_apply (acc : FixAccumulator) (update : FixUpdate) :
    (acc.apply update).1.Holds update := by
  rw [apply_eq]
  cases update <;> rfl

/-- An inertial log is kept if it does not give a sample. -/
theorem InsAccumulator.holds_apply {acc : InsAccumulator} {update : InsUpdate}
    (h : (acc.apply update).2 = none) : (acc.apply update).1.Holds update := by
  cases update with
  | rates log => rfl
  | covariance log => rfl
  | solution log => cases h

/-! ## Traces -/

/-- What a frame asks for, if its log is understood and can be read. -/
def Handed.action? (frame : Handed) : Option Action :=
  frame.log?.bind fun id =>
    (FieldReader.decode? (id.reader frame.header.measurementTime) frame.payload).map
      (id.action frame.header.measurementTime)

/-- The answer about a frame that was dispatched. -/
def Dispatched.answer (dispatched : Dispatched) (header : Header) : ExtractResult State where
  state := ⟨none, dispatched.memory⟩
  discard := header.frameLength
  outcome := .done dispatched.message.toList
  diagnostics := dispatched.diagnostics

/-- `LeavesTrace frame answer`: the answer tells of the frame in one way or another. -/
inductive LeavesTrace (frame : Handed) (answer : ExtractResult State) : Prop where
  /-- A message is given. -/
  | message (message : Message) (hgiven : answer.outcome = .done [message])
  /-- Its log is kept as half of a fix. -/
  | fix (update : FixUpdate) (hasked : frame.action? = some (.fix update))
    (hheld : answer.state.memory.fix.Holds update)
  /-- Its log is kept for the samples of later solutions. -/
  | ins (update : InsUpdate) (hasked : frame.action? = some (.ins update))
    (hheld : answer.state.memory.ins.Holds update)
  /-- There is a warning. -/
  | warning (report : Diagnostic) (hmem : report ∈ answer.diagnostics)
    (hlevel : report.level = .warn)

/-- A frame with a message leaves a trace. -/
theorem leavesTrace_of_message {dispatched : Dispatched} (message : Message)
    (h : dispatched.message = some message) :
    LeavesTrace frame (dispatched.answer frame.header) := by
  refine .message message ?_
  show Extraction.done dispatched.message.toList = _
  rw [h]
  rfl

/-- A sample of a unit that is not known is warned of. -/
theorem unsupportedImu_mem_applyExtended {log : RawImu}
    (h : settings.extendedSample? log = none) :
    .unsupportedImu (log.imuType.getD 0) ∈ (memory.applyExtended settings log).diagnostics := by
  have hunknown : ImuType.ofCode? (log.imuType.getD 0) = none := Option.map_eq_none_iff.mp h
  unfold Memory.applyExtended
  dsimp only
  rw [hunknown]
  exact List.mem_append_right _ (List.mem_singleton_self _)

/-- **Whatever a frame asks for leaves a trace.** -/
theorem leavesTrace_perform {action : Action} (hasked : frame.action? = some action)
    (hsome : action ≠ .nothing) :
    LeavesTrace frame ((memory.perform settings action).answer frame.header) := by
  cases action with
  | fix update => exact .fix update hasked (memory.fix.holds_apply update)
  | ins update =>
    -- a solution is not kept, but then it gives its sample
    cases hgiven : (memory.ins.apply update).2 with
    | none => exact .ins update hasked (InsAccumulator.holds_apply hgiven)
    | some ins =>
      refine leavesTrace_of_message (.ins ins) ?_
      rw [Memory.message_perform]
      exact congrArg (Option.map Message.ins) hgiven
  | raw log => exact leavesTrace_of_message _ rfl
  | extended log =>
    cases hsample : settings.extendedSample? log with
    | none => exact .warning _ (unsupportedImu_mem_applyExtended hsample) rfl
    | some imu =>
      refine leavesTrace_of_message (.imu imu) ?_
      rw [Memory.message_perform]
      exact congrArg (Option.map Message.imu) hsample
  | give message => exact leavesTrace_of_message _ rfl
  | nothing => exact absurd rfl hsome

/-! ## Payloads that cannot be read -/

/-- A range log that announces more records than its payload holds. -/
def Handed.Overcounted (frame : Handed) : Prop :=
  frame.log? = some .range ∧ frame.payload.length < recordOffset (announcedSignals frame.payload)

instance (frame : Handed) : Decidable frame.Overcounted :=
  inferInstanceAs (Decidable (_ ∧ _))

/-- A log that can be read asks for something. -/
theorem Handed.action?_ne_nothing {action : Action} (h : frame.action? = some action) :
    action ≠ .nothing := by
  obtain ⟨id, -, hread⟩ := Option.bind_eq_some_iff.mp h
  obtain ⟨content, -, rfl⟩ := Option.map_eq_some_iff.mp hread
  cases id <;> nofun

/-- A frame does what its log asks for. -/
theorem Handed.dispatch_eq_perform (hlog : frame.log? = some id) (memory : Memory) :
    memory.dispatch settings frame.header frame.payload =
      memory.perform settings (frame.action?.getD .nothing) := by
  rw [dispatch_of_log? hlog, Memory.applyLog_eq, action?, hlog]
  rfl

/-- **A payload of an accepted length can be read**, unless it announces more than it holds. -/
theorem Handed.action?_eq_none_iff (hlog : frame.log? = some id) :
    frame.action? = none ↔ frame.Overcounted := by
  have haccepts : id.accepts frame.payload.length = true := (Option.filter_eq_some_iff.mp hlog).2
  rw [action?, Overcounted, hlog, Option.bind_some, Option.map_eq_none_iff]
  by_cases hid : id = .range
  · -- a range log has no fixed width: that its length is accepted does not bound its count
    subst hid
    have hnone : FieldReader.decode? (LogId.range.reader frame.header.measurementTime)
        frame.payload = none ↔ _ := decode?_rangeReader_eq_none_iff _
    rw [hnone, and_iff_right rfl]
  · obtain ⟨content, hread⟩ := id.exists_content frame.header.measurementTime hid haccepts
    simp [hread, hid]

/-! ## Extracting -/

/-- Extracting a frame that is handed on answers with what it leads to. -/
theorem extract_of_handed? {state : State} {bytes : List UInt8}
    (h : handed? state bytes = some frame) :
    extract settings state bytes =
      (state.memory.dispatch settings frame.header frame.payload).answer frame.header := by
  unfold handed? at h
  unfold extract
  cases hheader : state.header <|> Header.decode? bytes with
  | none => simp [hheader] at h
  | some header =>
    cases hcheck : checkFrame header bytes with
    | incomplete => simp [hheader, hcheck] at h
    | corrupt expected computed => simp [hheader, hcheck] at h
    | intact payload =>
      simp only [hheader, hcheck, Option.some.injEq] at h
      subst h
      simp only [hcheck]
      rfl

/-- A range log that announces more than it holds is used up, and nothing is kept of it. -/
theorem dispatch_of_overcounted (memory : Memory) (h : frame.Overcounted) :
    memory.dispatch settings frame.header frame.payload = memory.give none := by
  rw [Handed.dispatch_eq_perform h.1, (Handed.action?_eq_none_iff h.1).mpr h]
  rfl

/-- Nothing tells of a range log that announces more than it holds. -/
theorem not_leavesTrace_of_overcounted (memory : Memory) (h : frame.Overcounted) :
    ¬LeavesTrace frame ((memory.give none).answer frame.header) := by
  have hunread := (Handed.action?_eq_none_iff h.1).mpr h
  rintro (⟨message, hgiven⟩ | ⟨update, hasked, -⟩ | ⟨update, hasked, -⟩ | ⟨report, hmem, -⟩)
  · cases hgiven
  · cases hunread.symm.trans hasked
  · cases hunread.symm.trans hasked
  · cases hmem

/-- Every other frame of a log that is understood leaves a trace. -/
theorem leavesTrace_of_not_overcounted (settings : Settings) (memory : Memory)
    (hsupported : LogId.ofCode? frame.header.messageId = some id) (h : ¬frame.Overcounted) :
    LeavesTrace frame
      ((memory.dispatch settings frame.header frame.payload).answer frame.header) := by
  cases hlog : frame.log? with
  | none =>
    rw [Handed.dispatch_of_rejected hsupported hlog]
    exact .warning _ (List.mem_singleton_self _) rfl
  | some log =>
    rw [Handed.dispatch_eq_perform hlog]
    cases hasked : frame.action? with
    | none => exact absurd ((Handed.action?_eq_none_iff hlog).mp hasked) h
    | some action => exact leavesTrace_perform hasked (Handed.action?_ne_nothing hasked)

/-- **A frame of a log that is understood leaves a trace, unless it is a range log that announces
more records than it holds.** Whatever the decoder has kept, an intact frame gives a message, is kept
as half of a fix or for later samples, or is warned of. Of the exception nothing is left: its bytes
are used up without a message, a report or a change of what is kept. -/
theorem leavesTrace_iff_not_overcounted {state : State} {bytes : List UInt8}
    (hhanded : handed? state bytes = some frame)
    (hsupported : LogId.ofCode? frame.header.messageId = some id) :
    (LeavesTrace frame (extract settings state bytes) ↔ ¬frame.Overcounted) ∧
      (frame.Overcounted → extract settings state bytes =
        ⟨⟨none, state.memory⟩, frame.header.frameLength, .done [], []⟩) := by
  rw [extract_of_handed? hhanded]
  refine ⟨⟨?_, leavesTrace_of_not_overcounted settings state.memory hsupported⟩, ?_⟩
  · intro htrace hover
    rw [dispatch_of_overcounted state.memory hover] at htrace
    exact not_leavesTrace_of_overcounted state.memory hover htrace
  · intro hover
    rw [dispatch_of_overcounted state.memory hover]
    rfl

/-- A new decoder is given the frame of a velocity log, whose bytes are all zero. -/
theorem velocity_leaves_trace :
    let bytes := encodeFrame (.short LogId.bestVel.code 0 0 0) (List.replicate 44 0)
    let state : State := ⟨none, .new default⟩
    let frame : Handed :=
      ⟨announced (.short LogId.bestVel.code 0 0 0) (List.replicate 44 0), List.replicate 44 0⟩
    handed? state bytes = some frame ∧
      LogId.ofCode? frame.header.messageId = some .bestVel ∧
      LeavesTrace frame (extract default state bytes) := by
  intro bytes state frame
  have hhanded : handed? state bytes = some frame := by decide +kernel
  have hsupported : LogId.ofCode? frame.header.messageId = some .bestVel := by decide
  refine ⟨hhanded, hsupported, ?_⟩
  exact (leavesTrace_iff_not_overcounted hhanded hsupported).1.mpr (by decide)

/-- A new session is fed the frame of a range log that announces a record and holds none. The check
value of the frame is right, but the cycle that uses the frame up gives no message, keeps nothing and
reports no more than that a frame is done with. -/
theorem overcounted_range_leaves_no_trace :
    let bytes := encodeFrame (.short LogId.range.code 0 0 0) [1, 0, 0, 0]
    let state : State := ⟨none, .new default⟩
    let frame : Handed := ⟨announced (.short LogId.range.code 0 0 0) [1, 0, 0, 0], [1, 0, 0, 0]⟩
    let cycle := ((Session.new (decoder default) (.withCapacity 64)).feed bytes).cycle
    handed? state bytes = some frame ∧
      LogId.ofCode? frame.header.messageId = some .range ∧
      ¬LeavesTrace frame (extract default state bytes) ∧
      cycle.messages = [] ∧ cycle.session.state.memory = .new default ∧
      cycle.diagnostics.map (·.level) = [.trace] ∧ cycle.session.buffer.peek = [] := by
  intro bytes state frame cycle
  have hhanded : handed? state bytes = some frame := by decide +kernel
  have hover : frame.Overcounted := by decide
  refine ⟨hhanded, by decide, ?_, ?_⟩
  · rw [extract_of_handed? hhanded, dispatch_of_overcounted state.memory hover]
    exact not_leavesTrace_of_overcounted state.memory hover
  · decide +kernel

end NavStream.Oem
