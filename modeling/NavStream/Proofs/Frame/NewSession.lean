import NavStream.Config
import NavStream.Proofs.Frame.Effect

/-!
# New sessions

What a new session decodes does not depend on the room that its buffer starts with, since nothing is
in it.

* `Config.peek_session` — a new session has nothing to read;
* `Config.alike_session` — new sessions differ in the layout of their buffers only.
-/

namespace NavStream.Config

open NavStream.Bytes NavStream.Frame

/-- A new session has nothing to read. -/
@[simp] theorem peek_session (config : Config) : config.session.buffer.peek = [] := by
  rw [session, Session.new]
  exact ByteBuffer.peek_withCapacity _

/-- New sessions differ in the layout of their buffers only, whatever room they start with. -/
theorem alike_session (config : Config) (capacity : UInt64) :
    Session.Alike config.session ({ config with bufferCapacity := capacity } : Config).session where
  decoder := rfl
  phase := rfl
  state := rfl
  peek := by rw [peek_session, peek_session]

end NavStream.Config
