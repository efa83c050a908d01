import Mathlib.Data.List.Induction
import NavStream.Proofs.Oem.Handed

/-!
# Groups of logs do not interfere

One memory serves all logs, but the logs of fixes and those of inertial samples each have a part of
it to themselves. No other frame reads or changes this part, or gives a message of the same kind,
and the frames of neither group give messages that do not depend on the memory at all. So a group
gives the same messages whatever is dispatched between its frames, and frames that are ignored
change nothing.

* `Action` — what a log does with the memory;
* `LogId.reader`, `LogId.action`, `Memory.applyLog_eq` — how a payload is read, and what follows;
* `Memory.exists_action` — every log does one of these things, whatever the memory;
* `Group.part_perform`, `Group.part_perform_of_ne` — the part of a group changes by its own logs
  only, and in a way that depends on nothing else;
* `Group.replay_filter` — only the frames of a group matter to it;
* `replay_filter_ignored` — frames that are ignored matter to nothing;
* `groups_do_not_interfere` — what this means for the messages of any frames.
-/

namespace NavStream.Oem

open NavStream.Bytes

variable {settings : Settings} {memory other : Memory}

/-! ## Groups -/

/-- The logs that are put together before they give a message. -/
inductive Group where
  /-- Positions and velocities, which make fixes. -/
  | fix
  /-- Corrected rates, covariances and solutions, which make inertial samples. -/
  | ins
deriving DecidableEq

namespace Group

/-- What a group leaves behind in the memory. -/
def Part : Group → Type
  | fix => FixAccumulator
  | ins => InsAccumulator

/-- The part of the memory that belongs to a group. -/
def part : (group : Group) → Memory → group.Part
  | fix, memory => memory.fix
  | ins, memory => memory.ins

/-- The kind of messages that a group gives. -/
def kind : Group → MessageKind
  | fix => .fix
  | ins => .ins

/-- The group that gives messages of a kind, if one does. -/
def ofKind? : MessageKind → Option Group
  | .fix => some .fix
  | .ins => some .ins
  | .bestPosition | .imu | .insStatus | .heading | .ephemeris | .observation | .raw => none

/-- A group gives messages of its own kind. -/
theorem ofKind?_kind (group : Group) : ofKind? group.kind = some group := by
  cases group <;> rfl

end Group

/-- The group of a log, if it is in one. -/
def LogId.group? : LogId → Option Group
  | bestPos | psrPos | bestVel | psrVel | bestGnssVel => some .fix
  | corrImuData | corrImuDataS | imuRateCorrImuS | insCov | insCovS | insPva | insPvaS => some .ins
  | bestGnssPos | insPvaX | rawImu | rawImuS | rawImuX | rawImuSX | gpsEphemeris | bdsEphemeris
  | gloEphemeris | range | heading => none

example : (LogId.all.filter (·.group? = some .fix)).map LogId.code = [42, 47, 99, 100, 1430] := by
  decide

example : (LogId.all.filter (·.group? = some .ins)).map LogId.code =
    [812, 813, 1362, 264, 320, 507, 508] := by
  decide

namespace Handed

/-- The log of a frame, if it is understood and accepts a payload of this length. -/
def log? (frame : Handed) : Option LogId :=
  (LogId.ofCode? frame.header.messageId).filter (·.accepts frame.payload.length)

/-- The group of a frame, if it is in one. -/
def group? (frame : Handed) : Option Group := frame.log?.bind LogId.group?

end Handed

/-! ## What a log does with the memory -/

/-- What a log does with the memory. -/
inductive Action where
  /-- It goes into the halves of a fix. -/
  | fix (update : FixUpdate)
  /-- It goes into the inertial logs. -/
  | ins (update : InsUpdate)
  /-- It is a raw sample of the unit that the settings name. -/
  | raw (log : RawImu)
  /-- It is a raw sample of the unit that it names. -/
  | extended (log : RawImu)
  /-- It is a message of another kind than those of groups. -/
  | give (message : Message) (hkind : Group.ofKind? message.kind = none)
  /-- It does nothing. -/
  | nothing

/-- The group of the logs that do something. -/
def Action.group? : Action → Option Group
  | fix _ => some .fix
  | ins _ => some .ins
  | raw _ | extended _ | give .. | nothing => none

/-- The sample of a unit that a log names, if it is known. -/
def Settings.extendedSample? (settings : Settings) (log : RawImu) : Option Imu :=
  (ImuType.ofCode? (log.imuType.getD 0)).map fun model =>
    scaleRawImu log model.parameter settings.mapping

namespace Memory

/-- Does what a log does. -/
def perform (memory : Memory) (settings : Settings) : Action → Dispatched
  | .fix update => memory.applyFix update
  | .ins update => memory.applyIns update
  | .raw log => memory.applyRaw settings log settings.imuType
  | .extended log => memory.applyExtended settings log
  | .give message .. => memory.give (some message)
  | .nothing => memory.give none

end Memory

namespace LogId

/-- What a payload of a log holds. -/
def Content : LogId → Type
  | bestPos | psrPos | bestGnssPos => BestPos
  | bestVel | psrVel | bestGnssVel => BestVel
  | corrImuData | corrImuDataS | imuRateCorrImuS => CorrImuData
  | insCov | insCovS => InsCov
  | insPva | insPvaS => InsPva
  | insPvaX => InsPvaX
  | rawImu | rawImuS | rawImuX | rawImuSX => RawImu
  | gpsEphemeris | bdsEphemeris => KeplerOrbit
  | gloEphemeris => GlonassOrbit
  | range => Observation
  | heading => Heading

/-- The layout of a log's payloads. -/
def reader (time : Float) : (id : LogId) → FieldReader id.Content
  | bestPos | psrPos | bestGnssPos => BestPos.reader
  | bestVel | psrVel | bestGnssVel => BestVel.reader
  | corrImuData | corrImuDataS | imuRateCorrImuS => CorrImuData.reader
  | insCov | insCovS => InsCov.reader
  | insPva | insPvaS => InsPva.reader
  | insPvaX => InsPvaX.reader
  | rawImu | rawImuS => RawImu.reader
  | rawImuX | rawImuSX => RawImu.extendedReader
  | gpsEphemeris => gpsOrbit
  | bdsEphemeris => beiDouOrbit
  | gloEphemeris => glonassOrbit
  | range => rangeReader time
  | heading => headingReader time

/-- What a log does, once its payload was read. -/
def action (time : Float) : (id : LogId) → id.Content → Action
  | bestPos | psrPos => fun log => .fix (.position time log)
  | bestVel | psrVel | bestGnssVel => fun log => .fix (.velocity time log)
  | bestGnssPos => fun log => .give (.bestPosition (log.bestPosition time)) rfl
  | corrImuData | corrImuDataS | imuRateCorrImuS => fun log => .ins (.rates log)
  | insCov | insCovS => fun log => .ins (.covariance log)
  | insPva | insPvaS => fun log => .ins (.solution log)
  | insPvaX => fun log => .give (.insStatus ⟨time, log.insStatus, log.positionType⟩) rfl
  | rawImu | rawImuS => .raw
  | rawImuX | rawImuSX => .extended
  | gpsEphemeris => fun orbit => .give (.ephemeris ⟨time, .gps, .keplerian orbit⟩) rfl
  | bdsEphemeris => fun orbit => .give (.ephemeris ⟨time, .beiDou, .keplerian orbit⟩) rfl
  | gloEphemeris => fun orbit => .give (.ephemeris ⟨time, .glonass, .glonass orbit⟩) rfl
  | range => fun observation => .give (.observation observation) rfl
  | heading => fun heading => .give (.heading heading) rfl

/-- A log is taken into its own group. -/
theorem group?_action (time : Float) (id : LogId) (content : id.Content) :
    (id.action time content).group? = id.group? := by
  cases id <;> rfl

end LogId

namespace Memory

/-- A payload that can be read does what its log does, and another one does nothing. -/
theorem applyLog_eq (memory : Memory) (settings : Settings) (id : LogId) (time : Float)
    (payload : List UInt8) :
    memory.applyLog settings id time payload =
      memory.perform settings
        (((FieldReader.decode? (id.reader time) payload).map (id.action time)).getD .nothing) := by
  have hmap {α : Type} (log? : Option α) (action : α → Action) :
      (log?.map fun log => memory.perform settings (action log)).getD (memory.give none) =
        memory.perform settings ((log?.map action).getD .nothing) := by
    cases log? <;> rfl
  rw [← hmap]
  cases id <;> rfl

/-- **What a log does is not decided by the memory**, but by its layout and its payload. -/
theorem exists_action (settings : Settings) (id : LogId) (time : Float) (payload : List UInt8) :
    ∃ action : Action, (action = .nothing ∨ action.group? = id.group?) ∧ ∀ memory : Memory,
      memory.applyLog settings id time payload = memory.perform settings action := by
  refine ⟨_, ?_, fun memory => memory.applyLog_eq settings id time payload⟩
  cases FieldReader.decode? (id.reader time) payload with
  | none => exact .inl rfl
  | some content => exact .inr (id.group?_action time content)

/-- A sample of a unit that is not known is left out, and any other one is scaled. -/
theorem applyExtended_eq (memory : Memory) (settings : Settings) (log : RawImu) :
    (memory.applyExtended settings log).message = (settings.extendedSample? log).map .imu ∧
      (memory.applyExtended settings log).memory.fix = memory.fix ∧
      (memory.applyExtended settings log).memory.ins = memory.ins ∧
      (settings.extendedSample? log = none →
        (memory.applyExtended settings log).memory = memory) := by
  unfold applyExtended Settings.extendedSample?
  dsimp only
  cases ImuType.ofCode? (log.imuType.getD 0) with
  | none => exact ⟨rfl, rfl, rfl, fun _ => rfl⟩
  | some model => exact ⟨rfl, rfl, rfl, nofun⟩

/-- The message that an action gives. -/
theorem message_perform (memory : Memory) (settings : Settings) (action : Action) :
    (memory.perform settings action).message =
      match action with
      | .fix update => (memory.fix.apply update).2.map .fix
      | .ins update => (memory.ins.apply update).2.map .ins
      | .raw log => some (.imu (scaleRawImu log settings.imuType.parameter settings.mapping))
      | .extended log => (settings.extendedSample? log).map .imu
      | .give message .. => some message
      | .nothing => none := by
  cases action with
  | extended log => exact (memory.applyExtended_eq settings log).1
  | fix | ins | raw | give | nothing => rfl

end Memory

namespace Group

/-- The part of a group changes by its own logs only. -/
theorem part_perform_of_ne {group : Group} {action : Action} (h : action.group? ≠ some group)
    (memory : Memory) :
    group.part (memory.perform settings action).memory = group.part memory := by
  cases action with
  | extended log =>
    obtain ⟨-, hfix, hins, -⟩ := memory.applyExtended_eq settings log
    cases group with
    | fix => exact hfix
    | ins => exact hins
  | fix update =>
    cases group with
    | fix => exact absurd rfl h
    | ins => rfl
  | ins update =>
    cases group with
    | fix => rfl
    | ins => exact absurd rfl h
  | raw | give | nothing => cases group <;> rfl

/-- What the logs of a group give, and how they change its part, depends on nothing else. -/
theorem part_perform (settings : Settings) {group : Group} {action : Action}
    (h : action = .nothing ∨ action.group? = some group)
    (hpart : group.part memory = group.part other) :
    group.part (memory.perform settings action).memory =
        group.part (other.perform settings action).memory ∧
      (memory.perform settings action).message = (other.perform settings action).message := by
  rcases h with rfl | h
  · exact ⟨hpart, rfl⟩
  · rw [Memory.message_perform, Memory.message_perform]
    cases action with
    | fix update =>
      cases h
      have hfix : memory.fix = other.fix := hpart
      exact ⟨congrArg (fun acc => (acc.apply update).1) hfix, by rw [hfix]⟩
    | ins update =>
      cases h
      have hins : memory.ins = other.ins := hpart
      exact ⟨congrArg (fun acc => (acc.apply update).1) hins, by rw [hins]⟩
    | raw | extended | give | nothing => cases h

end Group

/-- A message is of the kind that the group of the action gives. -/
theorem Action.group?_eq {action : Action} {message : Message}
    (h : message ∈ (memory.perform settings action).message) :
    Group.ofKind? message.kind = action.group? := by
  rw [Memory.message_perform] at h
  cases action with
  | fix update =>
    obtain ⟨fix, -, rfl⟩ := Option.map_eq_some_iff.mp h
    rfl
  | ins update =>
    obtain ⟨ins, -, rfl⟩ := Option.map_eq_some_iff.mp h
    rfl
  | raw log =>
    cases h
    rfl
  | extended log =>
    obtain ⟨imu, -, rfl⟩ := Option.map_eq_some_iff.mp h
    rfl
  | give message hkind =>
    cases h
    exact hkind
  | nothing => cases h

/-! ## Frames of a group, and others between them -/

namespace Handed

variable {frame : Handed}

/-- A frame with a log does what the log does. -/
theorem dispatch_of_log? {id : LogId} (h : frame.log? = some id) (memory : Memory) :
    memory.dispatch settings frame.header frame.payload =
      memory.applyLog settings id frame.header.measurementTime frame.payload := by
  obtain ⟨hcode, haccepts⟩ := Option.filter_eq_some_iff.mp h
  unfold Memory.dispatch
  rw [hcode]
  exact if_pos haccepts

/-- A frame whose log does not accept its payload is reported, and does nothing else. -/
theorem dispatch_of_rejected {id : LogId}
    (hcode : LogId.ofCode? frame.header.messageId = some id) (h : frame.log? = none)
    (memory : Memory) :
    memory.dispatch settings frame.header frame.payload =
      ⟨memory, none, [.payloadSize id frame.payload.length]⟩ := by
  have hrejects : ¬id.accepts frame.payload.length = true :=
    Option.filter_eq_none_iff.mp h id hcode
  unfold Memory.dispatch
  rw [hcode]
  exact if_neg hrejects

/-- A frame without one does nothing. -/
theorem dispatch_of_log?_eq_none (h : frame.log? = none) (memory : Memory) :
    (memory.dispatch settings frame.header frame.payload).memory = memory ∧
      (memory.dispatch settings frame.header frame.payload).message = none := by
  cases hcode : LogId.ofCode? frame.header.messageId with
  | none =>
    unfold Memory.dispatch
    rw [hcode]
    exact ⟨rfl, rfl⟩
  | some id =>
    rw [dispatch_of_rejected hcode h]
    exact ⟨rfl, rfl⟩

/-- What a frame does is not decided by the memory. -/
theorem exists_action (settings : Settings) (frame : Handed) :
    ∃ action : Action, (action = .nothing ∨ action.group? = frame.group?) ∧
      ∀ memory : Memory,
        (memory.dispatch settings frame.header frame.payload).memory =
            (memory.perform settings action).memory ∧
          (memory.dispatch settings frame.header frame.payload).message =
            (memory.perform settings action).message := by
  unfold group?
  cases hlog : frame.log? with
  | none => exact ⟨.nothing, .inl rfl, dispatch_of_log?_eq_none hlog⟩
  | some id =>
    obtain ⟨action, hgroup, heq⟩ :=
      Memory.exists_action settings id frame.header.measurementTime frame.payload
    refine ⟨action, hgroup, fun memory => ?_⟩
    rw [dispatch_of_log? hlog, heq]
    exact ⟨rfl, rfl⟩

end Handed

/-- The last frame is dispatched by what the others have led to. -/
theorem replay_concat (settings : Settings) (memory : Memory) (before : List Handed)
    (last : Handed) :
    replay settings memory (before ++ [last]) =
      (replay settings memory before).dispatch settings last :=
  List.foldl_append

namespace Group

/-- **Only the frames of a group matter to it.** Its part of the memory, and its messages, are the
same if all other frames are left out. -/
theorem replay_filter (settings : Settings) (group : Group) (memory : Memory)
    (frames : List Handed) :
    group.part (replay settings memory frames).memory =
        group.part
          (replay settings memory (frames.filter (·.group? = some group))).memory ∧
      (replay settings memory frames).messages.filter (·.kind = group.kind) =
        (replay settings memory (frames.filter (·.group? = some group))).messages.filter
          (·.kind = group.kind) := by
  induction frames using List.reverseRecOn with
  | nil => exact ⟨rfl, rfl⟩
  | append_singleton before last ih =>
    obtain ⟨hpart, hmessages⟩ := ih
    obtain ⟨action, hgroup, hdoes⟩ := last.exists_action settings
    rw [replay_concat, List.filter_append]
    by_cases hlast : last.group? = some group
    · -- both runs dispatch it, with equal parts
      obtain ⟨hpart', hmessage⟩ := part_perform settings (hlast ▸ hgroup) hpart
      have hkeep : [last].filter (·.group? = some group) = [last] := by simp [hlast]
      rw [hkeep, replay_concat]
      unfold Replay.dispatch
      dsimp only
      rw [(hdoes _).1, (hdoes _).1, (hdoes _).2, (hdoes _).2, hpart', hmessage,
        List.filter_append, List.filter_append, hmessages]
      exact ⟨rfl, rfl⟩
    · -- it is left out, and does nothing to the group
      have hdrop : [last].filter (·.group? = some group) = [] := by simp [hlast]
      have hne : action.group? ≠ some group := by
        rcases hgroup with rfl | hgroup
        · nofun
        · rwa [hgroup]
      rw [hdrop, List.append_nil]
      unfold Replay.dispatch
      dsimp only
      rw [(hdoes _).1, (hdoes _).2, part_perform_of_ne hne, hpart, List.filter_append,
        hmessages]
      refine ⟨rfl, List.append_right_eq_self.mpr ?_⟩
      rw [List.filter_eq_nil_iff]
      intro message hmem hkind
      have hgiven := Action.group?_eq (Option.mem_toList.mp hmem)
      rw [of_decide_eq_true hkind, ofKind?_kind] at hgiven
      exact hne hgiven.symm

end Group

/-- The message of a frame that is in no group does not depend on the memory. -/
theorem Handed.message_dispatch {frame : Handed} (h : frame.group? = none)
    (memory other : Memory) :
    (memory.dispatch settings frame.header frame.payload).message =
      (other.dispatch settings frame.header frame.payload).message := by
  obtain ⟨action, hgroup, hdoes⟩ := frame.exists_action settings
  have hnone : action.group? = none := by
    rcases hgroup with rfl | hgroup
    · rfl
    · rw [hgroup, h]
  rw [(hdoes memory).2, (hdoes other).2, Memory.message_perform, Memory.message_perform]
  cases action with
  | fix | ins => cases hnone
  | raw | extended | give | nothing => rfl

/-! ## Frames that are ignored -/

/-- Whether a frame leads to nothing: its log is not understood, its payload is of a length that the
log does not accept, or it is a raw sample of a unit that is not known. -/
def Handed.ignored (frame : Handed) : Bool :=
  match frame.log? with
  | none => true
  | some .rawImuX | some .rawImuSX =>
    (FieldReader.decode? RawImu.extendedReader frame.payload).any fun log =>
      ImuType.ofCode? (log.imuType.getD 0) = none
  | some _ => false

/-- A frame that is ignored changes nothing and gives no message. -/
theorem Handed.dispatch_of_ignored (settings : Settings) {frame : Handed}
    (h : frame.ignored = true) (memory : Memory) :
    (memory.dispatch settings frame.header frame.payload).memory = memory ∧
      (memory.dispatch settings frame.header frame.payload).message = none := by
  unfold Handed.ignored at h
  cases hlog : frame.log? with
  | none => exact Handed.dispatch_of_log?_eq_none hlog memory
  | some id =>
    rw [hlog] at h
    rw [Handed.dispatch_of_log? hlog]
    cases id with
    | rawImuX | rawImuSX =>
      obtain ⟨log, hread, hunknown⟩ := (Option.any_eq_true _ _).mp h
      have hsample : settings.extendedSample? log = none := by
        rw [Settings.extendedSample?, of_decide_eq_true hunknown]
        rfl
      obtain ⟨hmessage, -, -, hmemory⟩ := memory.applyExtended_eq settings log
      rw [hsample] at hmessage
      unfold Memory.applyLog
      rw [hread]
      exact ⟨hmemory hsample, hmessage⟩
    | _ => cases h

/-- **Frames that are ignored matter to nothing.** -/
theorem replay_filter_ignored (settings : Settings) (memory : Memory) (frames : List Handed) :
    replay settings memory (frames.filter (!·.ignored)) = replay settings memory frames := by
  induction frames using List.reverseRecOn with
  | nil => rfl
  | append_singleton before last ih =>
    rw [List.filter_append, replay_concat]
    by_cases hlast : last.ignored = true
    · obtain ⟨hmemory, hmessage⟩ := Handed.dispatch_of_ignored settings hlast
        (replay settings memory before).memory
      have hdrop : [last].filter (!·.ignored) = [] := by simp [hlast]
      rw [hdrop, List.append_nil, ih, Replay.dispatch, hmemory, hmessage, Option.toList_none,
        List.append_nil]
    · have hkeep : [last].filter (!·.ignored) = [last] := by simp [hlast]
      rw [hkeep, replay_concat, ih]

/-- **Groups of logs do not interfere.** The fixes are the same for any frames with the same frames
of the fix group, and the inertial samples for any with the same frames of the inertial group,
whatever the other frames are and wherever they stand. The message of any other frame is given by
the frame and the settings alone. Frames that are ignored change no message at all. -/
theorem groups_do_not_interfere (settings : Settings) :
    (∀ frames others : List Handed,
      (frames.filter (·.group? = some .fix) = others.filter (·.group? = some .fix) →
        (replay settings (.new settings) frames).messages.filter (·.kind = .fix) =
          (replay settings (.new settings) others).messages.filter (·.kind = .fix)) ∧
      (frames.filter (·.group? = some .ins) = others.filter (·.group? = some .ins) →
        (replay settings (.new settings) frames).messages.filter (·.kind = .ins) =
          (replay settings (.new settings) others).messages.filter (·.kind = .ins))) ∧
    (∀ frame : Handed, frame.group? = none → ∀ memory other : Memory,
      (memory.dispatch settings frame.header frame.payload).message =
        (other.dispatch settings frame.header frame.payload).message) ∧
    ∀ frames others : List Handed,
      frames.filter (!·.ignored) = others.filter (!·.ignored) →
        (replay settings (.new settings) frames).messages =
          (replay settings (.new settings) others).messages := by
  refine ⟨fun frames others => ⟨?_, ?_⟩, ?_, ?_⟩
  · intro h
    refine (Group.fix.replay_filter settings _ frames).2.trans ?_
    rw [h]
    exact (Group.fix.replay_filter settings _ others).2.symm
  · intro h
    refine (Group.ins.replay_filter settings _ frames).2.trans ?_
    rw [h]
    exact (Group.ins.replay_filter settings _ others).2.symm
  · intro frame h memory other
    exact Handed.message_dispatch h memory other
  · intro frames others h
    rw [← replay_filter_ignored, h, replay_filter_ignored]

end NavStream.Oem
