import NavStream.Proofs.Frame.Locating
import NavStream.Proofs.Frame.NewSession
import NavStream.Proofs.Frame.Placement
import NavStream.Proofs.Sentence.Contract

/-!
# Under which kind a sentence is decoded

A sentence is decoded under the kind of the token that stood there when it was located, and every
warning names this kind. It is the kind of the longest token, unless the longer token had come
without its last byte: then the shorter one is complete and counts, whatever comes behind it.

* `Names` — reports that name the kind of a sentence;
* `locatedKind` — the kind under which a sentence is located;
* `leading?_eq_locatedKind` — what is located among the bytes that have come;
* `Decodes` — a cycle that decodes a sentence, and the cycle that has located it;
* `decodes_of_continue` — every cycle that is done with a sentence, after any calls;
* `longer_token_cut_short` — a stream that begins with the longer token and is decoded under the
  shorter one.
-/

namespace NavStream.Sentence

open NavStream.Bytes NavStream.Frame

/-! ## Reports that name a kind -/

/-- A warning that names a kind, or a report of lesser weight that names none. -/
def Names (kind : Kind) (report : Diagnostic) : Prop :=
  report.fields.lookup "kind" = if report.level = .warn then some (.word kind.name) else none

variable {kind : Kind} {report : Diagnostic}

/-- Reports on bytes that are skipped name no kind. -/
theorem names_seek {state : State} {bytes : List UInt8}
    (h : report ∈ (seek state bytes).diagnostics) : Names kind report := by
  rw [seek_eq] at h
  cases hfind : findOffset startsWithToken bytes with
  | none | some offset =>
    rw [hfind] at h
    dsimp only at h
    split at h
    next =>
      rw [List.mem_singleton.1 h]
      rfl
    next => cases h

/-- Interpreting a sentence reports its kind. -/
theorem names_interpret {frame body : List UInt8}
    (h : report ∈ (interpret kind frame body).2) : Names kind report := by
  unfold interpret at h
  cases kind with
  | gpgga => cases h
  | gpchc | gpchcx =>
    dsimp only at h
    cases htext : Text.decode? body with
    | none =>
      rw [htext] at h
      rw [List.mem_singleton.1 h]
      rfl
    | some sentence =>
      rw [htext] at h
      dsimp only at h
      cases hparse : Record.parse sentence with
      | ok record =>
        rw [hparse] at h
        cases h
      | error error =>
        rw [hparse] at h
        rw [List.mem_singleton.1 h]
        rfl

/-- The checks of a sentence report its kind. -/
theorem names_checkFrame {frame : List UInt8} (h : report ∈ (checkFrame kind frame).2) :
    Names kind report := by
  rw [checkFrame_eq] at h
  split at h
  next =>
    rw [List.mem_singleton.1 h]
    rfl
  next =>
    split at h
    next =>
      rw [List.mem_singleton.1 h]
      rfl
    next =>
      split at h
      next =>
        rw [List.mem_singleton.1 h]
        rfl
      next => exact names_interpret h

/-- **What is done with a sentence is reported under its kind.** -/
theorem names_effect {bytes : List UInt8} {ending : Ending}
    (h : report ∈ (ending.effect kind bytes).diagnostics) : Names kind report := by
  cases ending with
  | pending => cases h
  | endless =>
    rcases List.mem_cons.1 h with rfl | hlast
    · rfl
    · rw [List.mem_singleton.1 hlast]
      rfl
  | closed length =>
    rcases List.mem_append.1 h with hcheck | hlast
    · exact names_checkFrame hcheck
    · rw [List.mem_singleton.1 hlast]
      rfl

/-! ## What is located -/

/-- The kind under which a sentence is located that has come as far as `bytes`, and whose longest
token is that of the kind `longest`. -/
def locatedKind (longest : Kind) (bytes : List UInt8) : Kind :=
  if longest = .gpchcx ∧ bytes = Kind.gpchc.token then .gpchc else longest

/-- **The kind that is located is that of the longest token**, unless just the shorter token has
come. -/
theorem leading?_eq_locatedKind {bytes stream : List UInt8} (hcame : bytes <+: stream)
    (h : leading? bytes = some kind) :
    ∃ longest, leading? stream = some longest ∧ kind = locatedKind longest bytes := by
  have htoken := prefix_of_leading? h
  rcases leading?_of_token (htoken.trans hcame) with hsame | ⟨rfl, hlonger⟩
  · refine ⟨kind, hsame, ?_⟩
    have hwhole : ¬(kind = .gpchcx ∧ bytes = Kind.gpchc.token) := by
      rintro ⟨rfl, rfl⟩
      exact absurd h (by decide)
    rw [locatedKind, if_neg hwhole]
  · refine ⟨.gpchcx, hlonger, ?_⟩
    -- with one byte more the longer token would have been seen
    have hshort : bytes.length < longestToken := by
      by_contra hlong
      obtain ⟨later, rfl⟩ := hcame
      rw [leading?_append (Nat.le_of_not_lt hlong), h] at hlonger
      cases hlonger
    have hbytes : bytes = Kind.gpchc.token :=
      (htoken.eq_of_length_le (Nat.le_of_lt_succ hshort)).symm
    rw [locatedKind, if_pos ⟨rfl, hbytes⟩]

/-! ## What cycles decode -/

section Session

variable {session begun : Session State}

/-- A session that decodes sentences looks for their tokens. -/
theorem sought_eq (hdecoder : session.decoder = decoder) :
    session.decoder.seek session.state session.buffer.peek =
      seek session.state session.buffer.peek := by
  rw [hdecoder]
  rfl

/-- What is recorded when a sentence is located is the kind of the token that stands there. -/
theorem state_of_located (hdecoder : session.decoder = decoder)
    (hlocated : session.seek.located = true) :
    session.seek.session.state = leading? session.seek.session.buffer.peek := by
  have hsought := sought_eq hdecoder
  have hstate : session.seek.session.state =
      (seek session.state session.buffer.peek).state := congrArg SeekResult.state hsought
  have hpeek : session.seek.session.buffer.peek =
      session.buffer.peek.drop (seek session.state session.buffer.peek).discard := by
    rw [← hsought]
    exact ByteBuffer.peek_drain _ _
  have hfound : (seek session.state session.buffer.peek).located = true := by
    rw [← hsought]
    exact hlocated
  rw [hstate, hpeek]
  rw [seek_eq] at hfound ⊢
  cases hfind : findOffset startsWithToken session.buffer.peek with
  | none =>
    rw [hfind] at hfound
    cases hfound
  | some offset => rfl

/-- A cycle that decodes a sentence under some kind reports this kind. -/
theorem names_cycle (hdecoder : session.decoder = decoder) (hbegun : session.begun? = some begun)
    (hstate : begun.state = some kind) (htoken : kind.token <+: begun.buffer.peek)
    (h : report ∈ session.cycle.diagnostics) : Names kind report := by
  obtain ⟨hphase, hsame, -⟩ := Session.extracting_of_begun hbegun
  have hrealizes := Session.realizes_extract hphase
  rw [hsame, hdecoder, hstate, extractEffect_eq htoken] at hrealizes
  rw [(Session.cycle_of_begun hbegun).2.2, hrealizes.diagnostics] at h
  rcases List.mem_append.1 h with hsought | hextract
  · split at hsought
    next =>
      have hseek : session.seek.diagnostics =
          (seek session.state session.buffer.peek).diagnostics :=
        congrArg SeekResult.diagnostics (sought_eq hdecoder)
      rw [hseek] at hsought
      exact names_seek hsought
    next => cases hsought
  · exact names_effect hextract

end Session

/-- The cycle of `stage`, which decodes a sentence of a stream, and the one among all stages that
has located it. -/
structure Decodes (stream : List UInt8) (stages : List (Session State))
    (stage begun locating : Session State) (longest : Kind) : Prop where
  /-- The cycle begins to extract the sentence. -/
  begins : stage.begun? = some begun
  /-- The longest token that stands there. -/
  token : leading? (stream.drop begun.buffer.consumed) = some longest
  /-- The sentence was located by one of the cycles. -/
  mem : locating ∈ stages
  /-- It was located at the place where it is extracted. -/
  locates : locating.Locates begun.buffer.consumed
  /-- No other cycle has located anything there. -/
  once : ∀ other ∈ stages, other.Locates begun.buffer.consumed → other = locating
  /-- What had come of it by then. -/
  came : locating.seek.session.buffer.peek <+: stream.drop begun.buffer.consumed
  /-- The sentence is decoded under the kind that was located. -/
  recorded : begun.state = some (locatedKind longest locating.seek.session.buffer.peek)
  /-- The kind is named by every warning. -/
  named : ∀ report ∈ stage.cycle.diagnostics,
    Names (locatedKind longest locating.seek.session.buffer.peek) report

/-- What a new session decodes, it has located by one of its cycles. -/
theorem decodes_of_begun (capacity : Nat) (calls : List Call) :
    let history := (Session.new decoder (.withCapacity capacity)).after calls
    ∀ stage ∈ history.cycles, ∀ begun, stage.begun? = some begun →
      ∃ locating longest,
        Decodes (streamOf calls) history.cycles stage begun locating longest := by
  intro history stage hstage begun hbegun
  have hkept := Session.inStep_after honors_decoder (by decide) (.withCapacity capacity) calls
  have hplaced : Placed (fun _ => True) history :=
    Session.placed_after (fun _ _ _ => trivial) (fun _ _ => trivial) trivial
      (ByteBuffer.peek_withCapacity capacity) rfl calls
  have hfed : history.fed = streamOf calls := Session.fed_after _ calls
  obtain ⟨hdecoder, hstep⟩ := hkept stage (List.mem_append_left _ hstage)
  obtain ⟨locating, hmem, hlocates, honce, hrecord⟩ :=
    Session.exists_locating honors_decoder (by decide) (.withCapacity capacity) calls hstage hbegun
  -- what was recorded is the kind of the bytes that had come
  have hphase := (Session.extracting_of_begun hbegun).1
  have hready := hstep.of_begun (hdecoder ▸ honors_decoder) hbegun
  obtain ⟨kind, hstate⟩ : ∃ kind : Kind, begun.state = some kind := hready.phase_iff.1 hphase
  have hcame := (hplaced.read locating hmem).2.seek
  rw [hfed, hlocates.place] at hcame
  have hlocated := state_of_located (hkept locating (List.mem_append_left _ hmem)).1
    hlocates.located
  have hrecorded : begun.state = locating.seek.session.state := hrecord
  rw [hstate, hlocated] at hrecorded
  obtain ⟨longest, hlongest, hkind⟩ := leading?_eq_locatedKind hcame hrecorded.symm
  refine ⟨locating, longest, hbegun, hlongest, hmem, hlocates, honce, hcame, ?_, ?_⟩
  · rw [hstate, hkind]
  · rw [← hkind]
    intro report hreport
    exact names_cycle hdecoder hbegun hstate (hready.begins kind hstate) hreport

/-- **A sentence is decoded under the kind that was located.** Whatever calls feed a new session and
make it decode, each cycle that is done with a sentence has recorded the kind of the longest token
that stands there in the stream, and every warning names it. There is one exception: where the
cycle that has located the sentence had just the six bytes of the shorter token of it, the kind is
that of the shorter token, although the next byte may make the longer one. -/
theorem decodes_of_continue (config : Config) (calls : List Call) :
    let history := ({ config with format := .sentences } : Config).session.after calls
    let stream := streamOf calls
    ∀ stage ∈ history.cycles, stage.cycle.next = .continue →
      ∃ begun locating longest, Decodes stream history.cycles stage begun locating longest := by
  intro history stream stage hstage hnext
  cases hbegun : stage.begun? with
  | none =>
    rw [Session.cycle_of_not_begun hbegun] at hnext
    cases hnext
  | some begun =>
    exact ⟨begun, decodes_of_begun config.bufferCapacity.toNat calls stage hstage begun hbegun⟩

/-- A sentence of the longer token of which the first six bytes come alone. -/
def cutToken : List Call :=
  [.feed [36, 71, 80, 67, 72, 67], .cycle, .feed [88, 42, 48, 48, 13, 10], .cycle]

/-- The second cycle is done with this sentence, which the first one has located. -/
theorem decodes_cutToken :
    let history := ({ format := .sentences } : Config).session.after cutToken
    ∃ stage, (stage ∈ history.cycles ∧ stage.cycle.next = .continue) ∧
      ∃ begun locating longest,
        Decodes (streamOf cutToken) history.cycles stage begun locating longest := by
  intro history
  have hstage : (({ format := .sentences } : Config).session.after (cutToken.take 3)).session ∈
      history.cycles := List.mem_cons_of_mem _ List.mem_cons_self
  exact ⟨_, ⟨hstage, rfl⟩, decodes_of_continue { format := .sentences } cutToken _ hstage rfl⟩

/-- **The longest token does not always count.** The stream begins with the longer token, yet the
cycle that is done with the sentence has recorded the shorter one, and warns under its name. -/
theorem longer_token_cut_short :
    let history := ({ format := .sentences } : Config).session.after cutToken
    let stage := (({ format := .sentences } : Config).session.after (cutToken.take 3)).session
    stage ∈ history.cycles ∧ stage.cycle.next = .continue ∧
      (stage.begun?.map fun begun => (begun.buffer.consumed, begun.state)) =
        some (0, some .gpchc) ∧
      stage.cycle.diagnostics = [.checksumMismatch .gpchc 0 7, .frameDecoded "huace" 0] ∧
      leading? (streamOf cutToken) = some .gpchcx :=
  ⟨List.mem_cons_of_mem _ List.mem_cons_self, rfl, rfl, rfl, by decide⟩

end NavStream.Sentence
