import SocketMessage.Frame.Recv

/-!
# A client's socket on the server

`ClientSocket` holds the fd, the read and the write buffer of one connection, and
whether its fd is registered for reading and for writing. Sockets of the server are
non-blocking, so that `Recv` and `Send` loop until the kernel has no more to give or
take; what the kernel answers is given to the model.
-/

namespace SocketMessage.Server

open SocketMessage.Lib SocketMessage.Frame

/-- `CONFIG_CLIENT_WRITEBUF_MAX_SIZE`. -/
abbrev writeBufMaxSize : Nat := 100 * 1024

/-- The fields of `ClientSocket` that change or are looked at. `writeBuffer` is
`m_WriteBuf` up to `m_CurWriteBufSize`. -/
structure ClientSocket where
  cfd : Int
  readBuffer : ReadBuffer
  writeBuffer : List Byte
  isWriteing : Bool
  cfdIsRead : Bool
  cfdIsWrite : Bool

namespace ClientSocket

/-- The constructor; the read buffer keeps what its memory held. -/
def create (cfd : Int) (memory : SizedBytes readBufMaxSize) : ClientSocket where
  cfd
  readBuffer := .fresh memory
  writeBuffer := []
  isWriteing := false
  cfdIsRead := false
  cfdIsWrite := false

/-- `GetSize4EmptyWrite`. -/
def getSize4EmptyWrite (self : ClientSocket) : Int := writeBufMaxSize - self.writeBuffer.length

end ClientSocket

/-- How a call of `Recv` ended. -/
inductive RecvExit where
  | finished
  | closed
  | broken
deriving DecidableEq, Repr

/-- `Recv`: as many `recv`s as there are answers. `none`: the kernel cannot answer so,
or the call would not end there. -/
def recvLoop {σ : Type} (callback : ReadCallback σ) :
    Session σ → List RecvAnswer → Option (Session σ × RecvExit)
  | _, [] => none
  | session, [.wouldBlock] =>
      (recvStep callback session .wouldBlock).map fun next => (next, .finished)
  | session, [.peerClosed] =>
      (recvStep callback session .peerClosed).map fun next => (next, .closed)
  | session, [.failed] =>
      (recvStep callback session .failed).map fun next => (next, .closed)
  | session, .received chunk :: rest => do
      let next ← recvStep callback session (.received chunk)
      if next.status = .broken then
        if rest = [] then return (next, .broken) else none
      else recvLoop callback next rest
  | _, _ => none

/-- `Recv` reports a closed connection after an end or an error only. -/
theorem recvLoop_closed {σ : Type} {callback : ReadCallback σ} {session last : Session σ}
    {answers : List RecvAnswer}
    (looped : recvLoop callback session answers = some (last, .closed)) :
    answers.getLast? = some .peerClosed ∨ answers.getLast? = some .failed := by
  fun_induction recvLoop callback session answers with
  | case3 => exact .inl rfl
  | case4 => exact .inr rfl
  | case5 session chunk rest inductionHypothesis =>
      obtain ⟨next, _, continued⟩ := Option.bind_eq_some_iff.mp looped
      split at continued
      · split at continued <;> simp at continued
      · rcases inductionHypothesis next continued with ended | ended <;>
          simp [List.getLast?_cons, ended]
  | _ => simp at looped

/-- What the kernel answers to one `send`; `wouldBlock` includes `EINTR`. -/
inductive SendAnswer where
  | accepted (count : Nat)
  | nothing
  | wouldBlock
  | failed
deriving DecidableEq, Repr

/-- How a call of `Send` ended: nothing left, something left, or `SOCKET_CLOSE`. -/
inductive SendExit where
  | finished
  | pending
  | closed
deriving DecidableEq, Repr

/-- The loop of `Send` over the bytes in the buffer: as many `send`s as there are
answers. -/
def sendLoop : List Byte → List SendAnswer → Option (List Byte × SendExit)
  | content, [] => if content = [] then some ([], .finished) else none
  | content, .accepted overCount :: rest =>
      if 0 < overCount ∧ overCount ≤ content.length then
        if content.length = overCount then if rest = [] then some ([], .finished) else none
        else sendLoop (content.drop overCount) rest
      else none
  | content, [.wouldBlock] => if content = [] then none else some (content, .pending)
  | content, [.nothing] | content, [.failed] =>
      if content = [] then none else some (content, .closed)
  | _, _ => none

/-- `Send` has something left exactly when it does not finish. -/
theorem sendLoop_rest {content rest : List Byte} {answers : List SendAnswer} {exit : SendExit}
    (looped : sendLoop content answers = some (rest, exit)) : rest = [] ↔ exit = .finished := by
  fun_induction sendLoop content answers with
  | case1 =>
      obtain ⟨rfl, rfl⟩ := Prod.mk.inj (Option.some.inj looped)
      simp
  | case3 =>
      obtain ⟨rfl, rfl⟩ := Prod.mk.inj (Option.some.inj looped)
      simp
  | case5 _ _ _ _ _ inductionHypothesis => exact inductionHypothesis looped
  | case8 _ more =>
      obtain ⟨rfl, rfl⟩ := Prod.mk.inj (Option.some.inj looped)
      simpa using more
  | case10 _ more =>
      obtain ⟨rfl, rfl⟩ := Prod.mk.inj (Option.some.inj looped)
      simpa using more
  | case12 _ more =>
      obtain ⟨rfl, rfl⟩ := Prod.mk.inj (Option.some.inj looped)
      simpa using more
  | _ => cases looped

/-- `Send` reports a closed connection after an error only. -/
theorem sendLoop_closed {content rest : List Byte} {answers : List SendAnswer}
    (looped : sendLoop content answers = some (rest, .closed)) :
    answers.getLast? = some .nothing ∨ answers.getLast? = some .failed := by
  fun_induction sendLoop content answers with
  | case5 _ _ _ _ _ inductionHypothesis =>
      rcases inductionHypothesis looped with ended | ended <;> simp [List.getLast?_cons, ended]
  | case10 => exact .inl rfl
  | case12 => exact .inr rfl
  | _ => simp at looped

/-- An error closes the connection. -/
theorem closed_of_sendLoop {content rest : List Byte} {answers : List SendAnswer} {exit : SendExit}
    (looped : sendLoop content answers = some (rest, exit))
    (error : answers.getLast? = some .nothing ∨ answers.getLast? = some .failed) :
    exit = .closed := by
  fun_induction sendLoop content answers with
  | case5 _ _ others _ _ inductionHypothesis =>
      refine inductionHypothesis looped ?_
      cases others with
      | nil => simp at error
      | cons answer more => rwa [List.getLast?_cons_cons] at error
  | case10 => exact (Prod.mk.inj (Option.some.inj looped)).2.symm
  | case12 => exact (Prod.mk.inj (Option.some.inj looped)).2.symm
  | _ => simp_all

end SocketMessage.Server
