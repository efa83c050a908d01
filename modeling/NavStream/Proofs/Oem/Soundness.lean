import NavStream.Proofs.Frame.History
import NavStream.Proofs.Frame.NewSession
import NavStream.Proofs.Oem.FrameRange
import NavStream.Proofs.Oem.Handed

/-!
# Nothing is made up

Whatever calls are made on a binary session, every frame that is dispatched was a frame of the
stream, at a range of its own, in the order of the stream, and with a check value that holds. The
messages and the memory come from dispatching these frames and from nothing else.

* `Accounts` — the invariant: the dispatched frames are ranges of the stream in front of the unread
  bytes;
* `Accounts.feed`, `Accounts.cycle` — feeding and cycles keep it;
* `dispatched_ranges` — what a new session has dispatched after any calls.
-/

namespace NavStream.Oem

open NavStream.Bytes NavStream.Frame

/-- The frame of a range as it is handed to dispatch. -/
def FrameRange.handed (stream : List UInt8) (range : FrameRange) : Handed :=
  ⟨range.header, range.payload stream⟩

/-- The frames that the cycles of a history have handed on, in order. -/
def handedIn (history : History State) : List Handed := history.cycles.filterMap handedBy

/-- A history whose unread bytes begin at `position` of its stream, and which has dispatched just
the frames at `ranges`, starting from `memory`. -/
structure Accounts (settings : Settings) (memory : Memory) (ranges : List FrameRange)
    (position : Nat) (history : History State) : Prop where
  anchored : Anchored settings history.session
  within : position ≤ history.fed.length
  unread : history.session.buffer.peek = history.fed.drop position
  framed : ∀ range ∈ ranges, range.Located history.fed ∧ range.CrcHolds history.fed
  ordered : ranges.Pairwise fun earlier later => earlier.stop ≤ later.start
  behind : ∀ range ∈ ranges, range.stop ≤ position
  handed : handedIn history = ranges.map (FrameRange.handed history.fed)
  replayed : replay settings memory (handedIn history) =
    ⟨history.session.state.memory, history.messages⟩

/-- A history that has dispatched just the frames at some ranges in front of its unread bytes. -/
def Accounted (settings : Settings) (memory : Memory) (history : History State) : Prop :=
  ∃ ranges position, Accounts settings memory ranges position history

/-- The intact frame at the front stands behind the bytes to skip. -/
theorem ofBytes_of_front_eq_intact {bytes : List UInt8} {header : Header} {payload : List UInt8}
    (h : (front bytes).found = .intact header payload) :
    Found.ofBytes (bytes.drop (front bytes).skip) = .intact header payload := by
  unfold front at h ⊢
  cases hfind : findOffset startsWithSync bytes with
  | none => simp [hfind] at h
  | some offset =>
    rw [hfind] at h
    exact h

namespace Accounts

variable {settings : Settings} {memory : Memory} {ranges : List FrameRange} {position : Nat}
  {history : History State} (h : Accounts settings memory ranges position history)

include h

/-- Feeding moves no range: the frames stand where they stood in the longer stream. -/
theorem feed (chunk : List UInt8) :
    Accounts settings memory ranges position (history.call (.feed chunk)) where
  anchored := h.anchored.feed chunk
  within := by
    show position ≤ (history.fed ++ chunk).length
    rw [List.length_append]
    exact Nat.le_add_right_of_le h.within
  unread := by
    show (history.session.feed chunk).buffer.peek = (history.fed ++ chunk).drop position
    rw [Session.peek_feed, h.unread, List.drop_append_of_le_length h.within]
  framed := by
    intro range hmem
    obtain ⟨hlocated, hcrc⟩ := h.framed range hmem
    exact ⟨hlocated.append chunk, (FrameRange.crcHolds_append hlocated chunk).2 hcrc⟩
  ordered := h.ordered
  behind := h.behind
  handed := by
    show handedIn history = ranges.map (FrameRange.handed (history.fed ++ chunk))
    rw [h.handed]
    refine List.map_congr_left fun range hmem => ?_
    rw [FrameRange.handed, FrameRange.handed, FrameRange.payload_append (h.framed range hmem).1]
  replayed := h.replayed

/-- A cycle discards bytes of the stream only. -/
theorem within_cycle : position + history.session.effect.consumed ≤ history.fed.length := by
  have hle := skip_add_length_le history.session.buffer.peek
  have hwithin := h.within
  rw [h.anchored.effect, Front.effect_consumed]
  rw [h.unread, List.length_drop] at hle
  rw [h.unread]
  omega

/-- After a cycle the unread bytes begin behind what it has discarded. -/
theorem unread_cycle :
    history.session.cycle.session.buffer.peek =
      history.fed.drop (position + history.session.effect.consumed) := by
  rw [Session.peek_cycle, h.unread, List.drop_drop]

/-- A cycle adds the frame that it hands on to those that were handed on before. -/
theorem handedIn_cycle :
    handedIn (history.call .cycle) =
      handedIn history ++ (front history.session.buffer.peek).found.handed?.toList := by
  show (history.cycles ++ [history.session]).filterMap handedBy = _
  rw [List.filterMap_append, ← h.anchored.handedBy_eq, handedIn]
  cases hby : handedBy history.session <;> simp [hby]

/-- A cycle gives and remembers what dispatching the longer list of frames does. -/
theorem replayed_cycle :
    replay settings memory (handedIn (history.call .cycle)) =
      ⟨history.session.cycle.session.state.memory,
        history.messages ++ history.session.cycle.messages⟩ := by
  have hstep := replay_cycle h.anchored.decoder
  rw [h.handedIn_cycle, ← h.anchored.handedBy_eq, replay_append, h.replayed]
  dsimp only
  rw [hstep]

/-- The intact frame that a cycle meets is a range of the stream between the bytes that were
discarded before and those that are left. -/
theorem exists_range {header : Header} {payload : List UInt8}
    (hfound : (front history.session.buffer.peek).found = .intact header payload) :
    ∃ range : FrameRange, position ≤ range.start ∧
      range.stop = position + history.session.effect.consumed ∧ range.Located history.fed ∧
      range.CrcHolds history.fed ∧ range.handed history.fed = ⟨header, payload⟩ := by
  have hintact := ofBytes_of_front_eq_intact hfound
  rw [h.unread, List.drop_drop, ← h.unread] at hintact
  obtain ⟨hlocated, hcrc, hpayload⟩ := FrameRange.of_ofBytes_eq_intact hintact
  refine ⟨_, Nat.le_add_right _ _, ?_, hlocated, hcrc, ?_⟩
  · rw [h.anchored.effect, Front.effect_consumed, hfound, Found.length, Nat.add_assoc]
  · rw [FrameRange.handed, hpayload]

/-- **A cycle dispatches the next frame of the stream**, or none. -/
theorem cycle : Accounted settings memory (history.call .cycle) := by
  cases hfound : (front history.session.buffer.peek).found with
  | intact header payload =>
    -- its range begins behind all earlier ones, which end in front of the unread bytes
    obtain ⟨range, hstart, hstop, hlocated, hcrc, hhanded⟩ := h.exists_range hfound
    refine ⟨ranges ++ [range], position + history.session.effect.consumed, h.anchored.cycle,
      h.within_cycle, h.unread_cycle, ?_, ?_, ?_, ?_, h.replayed_cycle⟩
    · intro range' hmem
      rcases List.mem_append.1 hmem with hbefore | hlast
      · exact h.framed range' hbefore
      · rw [List.mem_singleton.1 hlast]
        exact ⟨hlocated, hcrc⟩
    · refine List.pairwise_append.2 ⟨h.ordered, List.pairwise_singleton _ _, ?_⟩
      intro earlier hbefore later hlast
      rw [List.mem_singleton.1 hlast]
      exact Nat.le_trans (h.behind earlier hbefore) hstart
    · intro range' hmem
      rcases List.mem_append.1 hmem with hbefore | hlast
      · exact Nat.le_add_right_of_le (h.behind range' hbefore)
      · rw [List.mem_singleton.1 hlast]
        exact Nat.le_of_eq hstop
    · show _ = (ranges ++ [range]).map (FrameRange.handed history.fed)
      rw [h.handedIn_cycle, hfound, h.handed, List.map_append, List.map_singleton, hhanded]
      rfl
  | nothing | partialHeader | partialFrame _ | corrupt _ _ _ =>
    refine ⟨ranges, position + history.session.effect.consumed, h.anchored.cycle, h.within_cycle,
      h.unread_cycle, h.framed, h.ordered,
      fun range hmem => Nat.le_add_right_of_le (h.behind range hmem), ?_, h.replayed_cycle⟩
    rw [h.handedIn_cycle, hfound, h.handed]
    exact List.append_nil _

end Accounts

/-- A history without calls accounts for no frame. -/
theorem accounts_start {settings : Settings} {session : Session State}
    (h : Anchored settings session) (hempty : session.buffer.peek = []) :
    Accounts settings session.state.memory [] 0 { session } where
  anchored := h
  within := Nat.zero_le _
  unread := hempty
  framed _ hmem := absurd hmem List.not_mem_nil
  ordered := List.Pairwise.nil
  behind _ hmem := absurd hmem List.not_mem_nil
  handed := rfl
  replayed := rfl

/-- **Only frames of the stream are dispatched.** After any calls on a new session, the frames that
were handed to dispatch are, one by one, ranges of the stream that follow each other: each begins
with the header that it was dispatched with, is as long as this header announces, ends in the check
value of the bytes in front, and gave the payload in between. The messages and the memory are what
dispatching these frames in this order leads to. -/
theorem dispatched_ranges (config : Config) (calls : List Call) :
    let history := ({ config with format := .binary } : Config).session.after calls
    let stream := streamOf calls
    ∃ ranges : List FrameRange,
      ranges.Pairwise (fun earlier later => earlier.stop ≤ later.start) ∧
        (∀ range ∈ ranges, range.Located stream ∧ range.CrcHolds stream) ∧
        handedIn history = ranges.map (FrameRange.handed stream) ∧
        replay config.settings (.new config.settings) (handedIn history) =
          ⟨history.session.state.memory, history.messages⟩ := by
  intro history stream
  have hempty := ({ config with format := .binary } : Config).peek_session
  have haccounts : Accounted config.settings (.new config.settings) history := by
    refine Session.after_induction _ calls ?_ ?_ ?_
    · exact ⟨[], 0, accounts_start (anchored_of_seekHeader rfl rfl) hempty⟩
    · rintro before chunk ⟨ranges, position, h⟩
      exact ⟨ranges, position, h.feed chunk⟩
    · rintro before ⟨ranges, position, h⟩
      exact h.cycle
  obtain ⟨ranges, position, h⟩ := haccounts
  have hfed : history.fed = stream := Session.fed_after _ calls
  refine ⟨ranges, h.ordered, ?_, ?_, h.replayed⟩
  · rw [← hfed]
    exact h.framed
  · rw [← hfed]
    exact h.handed

end NavStream.Oem
