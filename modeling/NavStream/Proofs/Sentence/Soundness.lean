import Mathlib.Data.List.Forall2
import NavStream.Proofs.Frame.NewSession
import NavStream.Proofs.Frame.Placement
import NavStream.Proofs.Sentence.Anchored
import NavStream.Proofs.Sentence.Intact

/-!
# No sentence is made up

Whatever calls are made on a session that decodes sentences, and whatever bytes it is fed, all that
it gives was said by intact sentences of the stream, each at a range of its own, in the order of the
stream.

* `SentenceRange`, `SentenceRange.Tells` — where a sentence stands in a stream, and what it tells;
* `exists_range` — a cycle that gives anything tells what a sentence does among the bytes that it
  uses up;
* `exists_ranges` — the sentences of cycles that read one after the other follow each other;
* `emitted_ranges` — what a new session has given after any calls.
-/

namespace NavStream.Sentence

open NavStream.Bytes NavStream.Frame

/-- The place of a sentence in a stream, with its kind. -/
structure SentenceRange where
  /-- Where the sentence begins. -/
  start : Nat
  /-- Where the bytes behind its terminator begin. -/
  stop : Nat
  /-- The kind of the longest token that it begins with. -/
  kind : Kind
deriving DecidableEq

namespace SentenceRange

/-- The bytes of the sentence. -/
def frame (range : SentenceRange) (stream : List UInt8) : List UInt8 :=
  stream.extract range.start range.stop

/-- A range of the stream at which an intact sentence stands that carries these messages. -/
structure Tells (range : SentenceRange) (stream : List UInt8) (messages : List Message) : Prop where
  inside : range.stop ≤ stream.length
  token : leading? (range.frame stream) = some range.kind
  terminated : Terminated (range.frame stream)
  intact : Intact range.kind (range.frame stream)
  carries : Carries (range.frame stream) range.kind messages

/-- The range of `length` bytes that stand at `offset` of the unread ones. -/
def ofUnread (session : Session State) (offset length : Nat) (kind : Kind) : SentenceRange where
  start := session.buffer.consumed + offset
  stop := session.buffer.consumed + offset + length
  kind := kind

end SentenceRange

/-! ## The sentence of a cycle -/

variable {session : Session State} {stream : List UInt8}

/-- Where a session reads its stream, unread bytes are bytes of the stream. -/
theorem frame_ofUnread (h : ReadsIn stream session) {offset length : Nat} (kind : Kind)
    (hinside : length ≤ (session.buffer.peek.drop offset).length) :
    (SentenceRange.ofUnread session offset length kind).frame stream =
      (session.buffer.peek.drop offset).take length :=
  (h.take_drop_peek hinside).symm

/-- A sentence among the bytes that a cycle uses up, which tells what the cycle gives. -/
structure SaidIn (stream : List UInt8) (session : Session State) (range : SentenceRange) :
    Prop where
  tells : range.Tells stream session.effect.messages
  behind : session.buffer.consumed ≤ range.start
  used : range.stop ≤ session.buffer.consumed + session.effect.consumed

/-- A cycle that meets a sentence gives nothing but what this sentence tells. -/
theorem exists_range_of_located (hreads : ReadsIn stream session) {bytes : List UInt8}
    {kind : Kind} {offset : Nat}
    (heffect : session.effect.IsBehind offset ((ending bytes).effect kind bytes))
    (hdrop : session.buffer.peek.drop offset = bytes) (htoken : kind.token <+: bytes)
    (hmessages : session.effect.messages ≠ []) : ∃ range, SaidIn stream session range := by
  rw [heffect.messages, Ending.effect_messages] at hmessages
  cases hending : ending bytes with
  | pending | endless =>
    rw [hending] at hmessages
    exact absurd rfl hmessages
  | closed length =>
    rw [hending, Ending.messages] at hmessages
    obtain ⟨hintact, hcarries⟩ := of_checkFrame_ne_nil hmessages
    have hinside := (length_le_of_closed hending).1
    have hbehind := token_length_le_of_closed htoken hending
    have hfront : kind.token <+: bytes.take length :=
      List.prefix_take_iff.2 ⟨htoken, Nat.le_trans (Nat.le_add_right _ _) hbehind⟩
    obtain ⟨counts, hcounts⟩ := Option.isSome_iff_exists.1 (startsWithToken_of_token hfront)
    have hframe : (SentenceRange.ofUnread session offset length counts).frame stream =
        bytes.take length := by
      rw [← hdrop] at hinside ⊢
      exact frame_ofUnread hreads counts hinside
    refine ⟨.ofUnread session offset length counts, ⟨?_, ?_, ?_, ?_, ?_⟩, Nat.le_add_right _ _, ?_⟩
    · have hplace := hreads.consumed_add_le
      have hpositive : 0 < terminator.length := by decide
      rw [← hdrop, List.length_drop] at hinside
      show session.buffer.consumed + offset + length ≤ stream.length
      omega
    · rw [hframe]
      exact hcounts
    · rw [hframe]
      exact terminated_of_closed hending
    · rw [hframe]
      exact hintact.of_leading? hfront hcounts
    · rw [hframe, heffect.messages, Ending.effect_messages, hending]
      exact hcarries.of_leading? hfront hcounts
    · have hused : session.effect.consumed = offset + length := by
        rw [heffect.consumed, Ending.effect_consumed, hending, Ending.used]
      exact Nat.le_of_eq (by rw [hused, ← Nat.add_assoc]; rfl)

/-- **A cycle gives nothing but what one sentence tells** among the bytes that it uses up. -/
theorem exists_range (h : Anchored session) (hreads : ReadsIn stream session)
    (hmessages : session.effect.messages ≠ []) : ∃ range, SaidIn stream session range := by
  cases h with
  | holds kind h =>
    exact exists_range_of_located hreads h.isBehind List.drop_zero h.token hmessages
  | seeks h =>
    cases hfind : findOffset startsWithToken session.buffer.peek with
    | none =>
      rw [h.effect_of_none hfind] at hmessages
      exact absurd rfl hmessages
    | some offset =>
      obtain ⟨kind, hkind⟩ := Option.isSome_iff_exists.1 (findOffset_eq_some hfind).2.1
      exact exists_range_of_located hreads (h.effect_of_some hfind hkind) rfl
        (prefix_of_leading? hkind) hmessages

/-! ## The sentences of all cycles -/

/-- What cycles give, cycle by cycle, without those that give nothing. -/
def groups (cycles : List (Session State)) : List (List Message) :=
  (cycles.map fun session => session.cycle.messages).filter (· ≠ [])

/-- A cycle that gives nothing adds no group. -/
theorem groups_cons_of_nil {first : Session State} (rest : List (Session State))
    (h : first.effect.messages = []) : groups (first :: rest) = groups rest := by
  rw [groups, List.map_cons, Session.messages_cycle, h]
  exact List.filter_cons_of_neg (by simp)

/-- A cycle that gives anything adds a group. -/
theorem groups_cons_of_ne_nil {first : Session State} (rest : List (Session State))
    (h : first.effect.messages ≠ []) :
    groups (first :: rest) = first.effect.messages :: groups rest := by
  rw [groups, List.map_cons, Session.messages_cycle]
  exact List.filter_cons_of_pos (by simp [h])

/-- The groups are all that the cycles give. -/
theorem flatten_groups (cycles : List (Session State)) :
    (groups cycles).flatten = (cycles.map fun session => session.cycle.messages).flatten :=
  List.flatten_filter_ne_nil

/-- **The sentences of cycles that read one after the other follow each other.** -/
theorem exists_ranges {cycles : List (Session State)}
    (hread : ∀ session ∈ cycles, Anchored session ∧ ReadsIn stream session)
    (hordered : cycles.Pairwise UsesBefore) :
    ∃ ranges : List SentenceRange,
      ranges.Pairwise (fun earlier later => earlier.stop ≤ later.start) ∧
        List.Forall₂ (fun range messages => range.Tells stream messages) ranges (groups cycles) ∧
        ∀ range ∈ ranges, ∃ session ∈ cycles, SaidIn stream session range := by
  induction cycles with
  | nil => exact ⟨[], List.Pairwise.nil, .nil, fun _ hmem => absurd hmem List.not_mem_nil⟩
  | cons first rest ih =>
    obtain ⟨hbefore, hrest⟩ := List.pairwise_cons.1 hordered
    obtain ⟨ranges, hpairwise, hgroups, hsaid⟩ :=
      ih (fun session hmem => hread session (List.mem_cons_of_mem _ hmem)) hrest
    have hlater : ∀ range ∈ ranges, ∃ session ∈ first :: rest, SaidIn stream session range := by
      intro range hmem
      obtain ⟨session, hsession, h⟩ := hsaid range hmem
      exact ⟨session, List.mem_cons_of_mem _ hsession, h⟩
    by_cases hmessages : first.effect.messages = []
    · refine ⟨ranges, hpairwise, ?_, hlater⟩
      rw [groups_cons_of_nil rest hmessages]
      exact hgroups
    · obtain ⟨hanchored, hreads⟩ := hread first List.mem_cons_self
      obtain ⟨range, hrange⟩ := exists_range hanchored hreads hmessages
      refine ⟨range :: ranges, List.pairwise_cons.2 ⟨?_, hpairwise⟩, ?_, ?_⟩
      · intro later hmem
        obtain ⟨session, hsession, h⟩ := hsaid later hmem
        exact Nat.le_trans hrange.used (Nat.le_trans (hbefore session hsession) h.behind)
      · rw [groups_cons_of_ne_nil rest hmessages]
        exact .cons hrange.tells hgroups
      · intro range' hmem
        rcases List.mem_cons.1 hmem with rfl | hmem
        · exact ⟨first, List.mem_cons_self, hrange⟩
        · exact hlater range' hmem

/-- **Only sentences of the stream give messages.** After any calls on a new session, the messages
fall into one group for each cycle that gave any, and the groups belong, one by one, to ranges of
the stream that follow each other. At each of these stands a sentence that begins with a token,
whose only terminator is its end, which is no longer than the longest, has the asterisk in its
place, and whose digits spell the check value. A position sentence gives itself, and any other the
messages of the record in front of its asterisk, which are five of fixed kinds and of one time. -/
theorem emitted_ranges (config : Config) (calls : List Call) :
    let history := ({ config with format := .sentences } : Config).session.after calls
    let stream := streamOf calls
    ∃ ranges : List SentenceRange,
      ranges.Pairwise (fun earlier later => earlier.stop ≤ later.start) ∧
        List.Forall₂ (fun range messages => range.Tells stream messages ∧
          Delivers (range.frame stream) range.kind messages) ranges (groups history.cycles) ∧
        history.messages = (groups history.cycles).flatten := by
  intro history stream
  have hanchored : Anchored ({ config with format := .sentences } : Config).session :=
    .seeks ⟨rfl, rfl, rfl⟩
  have hplaced : Placed Anchored history := by
    refine Session.placed_after ?_ ?_ hanchored (Config.peek_session _) rfl calls
    · intro session chunk h
      exact h.feed chunk
    · intro session h
      exact h.cycle
  have hfed : history.fed = stream := Session.fed_after _ calls
  obtain ⟨ranges, hpairwise, hgroups, -⟩ := exists_ranges hplaced.read hplaced.ordered
  refine ⟨ranges, hpairwise, ?_, ?_⟩
  · rw [← hfed]
    exact hgroups.imp fun range messages htells => ⟨htells, htells.carries.delivers⟩
  · exact (Session.messages_after _ calls).trans (flatten_groups history.cycles).symm

end NavStream.Sentence
