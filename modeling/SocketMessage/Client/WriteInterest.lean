import SocketMessage.Client.Select

/-!
# What a connection wants to write

`Select::Work` decides by `m_CfdIsWrite` alone whether the rest of a write buffer is ever
sent. Here is one `ClientSocket` under the calls of its two writers, one after the other:
the flag says at the end of each call what the buffer says.
-/

namespace SocketMessage.Client

open SocketMessage.Lib

/-- `ClientSocket::SOCKET_CLOSE`. -/
def socketClose : Int := -1

/-- A call of a writer, with what the kernel answers to its `send`s. -/
inductive WriteCall where
  | write (pData : List Byte) (answers : List Server.SendAnswer)
  | send (answers : List Server.SendAnswer)
deriving DecidableEq, Repr

namespace ClientSocket

/-- What `Send` returns. -/
def returned : Server.SendExit → Int
  | .closed => socketClose
  | .finished | .pending => 0

/-- A whole call and what it returns. A `Write` that finds no room does not get to `Send`. -/
def call (self : ClientSocket) : WriteCall → Option (ClientSocket × Int)
  | .write pData answers =>
      match self.write pData with
      | none => if answers = [] then some (self, 0) else none
      | some filled => (filled.send answers).map fun result => (result.1, returned result.2)
  | .send answers => (self.send answers).map fun result => (result.1, returned result.2)

/-- `m_IsWriteing`, `m_CfdIsWrite` and `m_CurWriteBufSize > 0` are the same. -/
def Mirrors (self : ClientSocket) : Prop :=
  self.isWriteing = self.cfdIsWrite ∧ self.cfdIsWrite = decide (0 < self.writeBuffer.length)

end ClientSocket

/-- A connection of `ConnectServerSocket` under calls that do not return `SOCKET_CLOSE`. -/
def writeCalls : LabelledSystem ClientSocket WriteCall where
  Initial socket := ∃ cfd, socket = .connect cfd
  Step self call next := ∃ returned, self.call call = some (next, returned) ∧ returned ≠ socketClose

namespace ClientSocket

variable {self socket : ClientSocket} {answers : List Server.SendAnswer} {exit : Server.SendExit}

/-- `Send` returns `SOCKET_CLOSE` only where its loop closes. -/
theorem ne_closed_of_returned (notClose : returned exit ≠ socketClose) : exit ≠ .closed := by
  rintro rfl
  exact notClose rfl

/-- The end of `Send` makes the flags what it is told, when they were the same before. -/
theorem report_mirrors {hasData : Bool} (flags : self.isWriteing = self.cfdIsWrite)
    (buffer : hasData = decide (0 < self.writeBuffer.length)) : (self.report hasData).Mirrors := by
  obtain ⟨-, kept, reported⟩ := report_cases self hasData
  obtain ⟨same, told⟩ := reported flags
  refine ⟨same, ?_⟩
  rw [told, kept]
  exact buffer

/-- A `Send` that does not close leaves the flags as the buffer says, whatever its loop did. -/
theorem send_mirrors (sent : self.send answers = some (socket, exit))
    (flags : self.isWriteing = self.cfdIsWrite) (opened : exit ≠ .closed) :
    socket.Mirrors := by
  obtain ⟨⟨writeBuffer, ended⟩, looped, reported⟩ := Option.bind_eq_some_iff.mp sent
  have rest := Server.sendLoop_rest looped
  cases ended with
  | finished =>
    obtain ⟨rfl, rfl⟩ := Prod.mk.inj (Option.some.inj reported)
    obtain rfl := rest.mpr rfl
    exact report_mirrors flags rfl
  | pending =>
    obtain ⟨rfl, rfl⟩ := Prod.mk.inj (Option.some.inj reported)
    have something : writeBuffer ≠ [] := fun nothing => by cases rest.mp nothing
    exact report_mirrors flags (decide_eq_true (List.length_pos_iff.mpr something)).symm
  | closed =>
    obtain ⟨rfl, rfl⟩ := Prod.mk.inj (Option.some.inj reported)
    exact absurd rfl opened

/-- A call that does not return `SOCKET_CLOSE` keeps the flags what the buffer says. -/
theorem Mirrors.call {call : WriteCall} {result : Int} (mirrors : self.Mirrors)
    (called : self.call call = some (socket, result)) (notClose : result ≠ socketClose) :
    socket.Mirrors := by
  cases call with
  | write pData answers =>
    rw [ClientSocket.call] at called
    split at called
    · obtain ⟨-, same⟩ := Option.ite_none_right_eq_some.mp called
      obtain ⟨rfl, -⟩ := Prod.mk.inj (Option.some.inj same)
      exact mirrors
    · next filled written =>
      -- the append leaves the buffer and the flags apart until `Send`
      obtain ⟨-, appended⟩ := Option.ite_none_left_eq_some.mp written
      obtain rfl := Option.some.inj appended
      obtain ⟨⟨sentTo, exit⟩, sent, same⟩ := Option.map_eq_some_iff.mp called
      obtain ⟨rfl, rfl⟩ := Prod.mk.inj same
      exact send_mirrors sent mirrors.1 (ne_closed_of_returned notClose)
  | send answers =>
    obtain ⟨⟨sentTo, exit⟩, sent, same⟩ := Option.map_eq_some_iff.mp called
    obtain ⟨rfl, rfl⟩ := Prod.mk.inj same
    exact send_mirrors sent mirrors.1 (ne_closed_of_returned notClose)

/-- As long as no call returns `SOCKET_CLOSE`, the flags are after every call what the buffer
says. -/
theorem writeInterest_mirrors (reachable : writeCalls.Reachable socket) : socket.Mirrors := by
  obtain ⟨calls, run⟩ := reachable
  refine run.invariant ?_ ?_
  · rintro _ ⟨cfd, rfl⟩
    exact ⟨rfl, rfl⟩
  · rintro before call after mirrors ⟨result, called, notClose⟩ -
    exact mirrors.call called notClose

/-- Three bytes are written to a kernel that takes two and blocks; the next `Send` gets rid
of the third. -/
theorem blocked_mirrors :
    ∃ blocked drained : ClientSocket, writeCalls.Reachable blocked ∧
      writeCalls.Reachable drained ∧ blocked.writeBuffer = [3] ∧ drained.writeBuffer = [] ∧
      blocked.Mirrors ∧ drained.Mirrors := by
  have written : (connect 5).call (.write [1, 2, 3] [.accepted 2, .wouldBlock]) =
      some (⟨5, [3], true, true, true⟩, 0) := by decide
  have sent : call ⟨5, [3], true, true, true⟩ (.send [.accepted 1]) =
      some (⟨5, [], false, true, false⟩, 0) := by decide
  have start : writeCalls.Reachable (connect 5) := ⟨[], .initial ⟨5, rfl⟩⟩
  have blocked : writeCalls.Reachable ⟨5, [3], true, true, true⟩ :=
    start.step ⟨0, written, by decide⟩
  have drained : writeCalls.Reachable ⟨5, [], false, true, false⟩ :=
    blocked.step ⟨0, sent, by decide⟩
  exact ⟨_, _, blocked, drained, rfl, rfl, writeInterest_mirrors blocked,
    writeInterest_mirrors drained⟩

end ClientSocket

end SocketMessage.Client
