import SocketMessage.Server.Consistency

/-!
# One object and its registration

What the functions of `SocketControl` and `ClientSocket` do to one object that has not
been deleted, with the epoll set: the two flags always say what the fd is registered
for, so that it is enough to follow the fields of the `ClientSocket`.
-/

namespace SocketMessage.Server

open SocketMessage.Lib SocketMessage.Frame

/-- What an object's flags ask the epoll set for. -/
def ClientSocket.registration (self : ClientSocket) (pointer : Nat) : Option Registration :=
  if self.cfdIsRead ∨ self.cfdIsWrite then some ⟨pointer, self.cfdIsRead, self.cfdIsWrite⟩ else none

/-- What `Send` leaves in an object, from what its loop leaves in the buffer. -/
def ClientSocket.afterSend (self : ClientSocket) (rest : List Byte) : SendExit → ClientSocket
  | .finished => { self with
      writeBuffer := rest, isWriteing := false,
      cfdIsWrite := if self.isWriteing then false else self.cfdIsWrite }
  | .pending => { self with
      writeBuffer := rest, isWriteing := true,
      cfdIsWrite := if self.isWriteing then self.cfdIsWrite else true }
  | .closed => { self with writeBuffer := rest }

namespace ServerState

/-- An object that has not been deleted, and its registration. -/
structure Shows (state : ServerState) (pointer : Nat) (socket : ClientSocket) : Prop where
  present : state.sockets pointer = some socket
  registered : state.epoll socket.cfd = socket.registration pointer

variable {state : ServerState} {pointer : Nat} {socket : ClientSocket}

/-- Fields that are not flags may change. -/
theorem Shows.setSocket (shows : state.Shows pointer socket) {after : ClientSocket}
    (sameFd : after.cfd = socket.cfd)
    (sameFlags : after.cfdIsRead = socket.cfdIsRead ∧ after.cfdIsWrite = socket.cfdIsWrite) :
    (state.setSocket pointer after).Shows pointer after where
  present := Function.update_self ..
  registered := by
    rw [sameFd, ClientSocket.registration, sameFlags.1, sameFlags.2]
    exact shows.registered

/-- What happens elsewhere does not matter. -/
theorem Shows.of_same {after : ServerState} (shows : state.Shows pointer socket)
    (sockets : after.sockets pointer = state.sockets pointer)
    (epoll : after.epoll socket.cfd = state.epoll socket.cfd) : after.Shows pointer socket :=
  ⟨sockets.trans shows.present, epoll.trans shows.registered⟩

/-- An event for the fd is the object's, and for what the flags ask for. -/
theorem Shows.epollEvent_asked (shows : state.Shows pointer socket) {isRead isWrite : Bool}
    {event : EpollEvent} (polled : state.epollEvent (.client socket.cfd isRead isWrite) = some event) :
    event.source = .client pointer ∧ (event.isRead = true → socket.cfdIsRead = true) ∧
      (isWrite = true → socket.cfdIsWrite = true) := by
  obtain ⟨registration, found, ready⟩ := Option.bind_eq_some_iff.mp polled
  obtain ⟨asked, built⟩ := Option.ite_none_right_eq_some.mp ready
  obtain rfl := Option.some.inj built
  rw [shows.registered] at found
  obtain ⟨_, same⟩ := Option.ite_none_right_eq_some.mp found
  obtain rfl := Option.some.inj same
  exact ⟨rfl, asked.1, asked.2⟩

theorem Shows.epollEvent (shows : state.Shows pointer socket) {isRead isWrite : Bool}
    {event : EpollEvent} (polled : state.epollEvent (.client socket.cfd isRead isWrite) = some event) :
    event.source = .client pointer ∧ (isWrite = true → socket.cfdIsWrite = true) :=
  ⟨(shows.epollEvent_asked polled).1, (shows.epollEvent_asked polled).2.2⟩

/-- An event to read is reported only while the flag for reading is set. -/
theorem Shows.epollEvent_read (shows : state.Shows pointer socket) {isRead isWrite : Bool}
    {event : EpollEvent} (polled : state.epollEvent (.client socket.cfd isRead isWrite) = some event)
    (reads : event.isRead = true) : socket.cfdIsRead = true :=
  (shows.epollEvent_asked polled).2.1 reads

/-- Where one direction is switched: when the epoll calls turn what the old flags ask
for into what the new ones ask for, the registration follows the flag. -/
theorem Shows.ePollSwitch {isDone isOther : ClientSocket → Bool}
    {switch : ClientSocket → ClientSocket} {both single : ServerState → Int → ServerState}
    (shows : state.Shows pointer socket) (sameFd : (switch socket).cfd = socket.cfd)
    (done : isDone socket = true → switch socket = socket)
    (follows : isDone socket = false → ∀ middle : ServerState,
      middle.epoll socket.cfd = socket.registration pointer →
      let after := if isOther socket then both middle socket.cfd else single middle socket.cfd
      after.sockets = middle.sockets ∧ after.epoll socket.cfd = (switch socket).registration pointer) :
    (state.ePollSwitch pointer isDone switch isOther both single).Shows pointer (switch socket) := by
  rw [ServerState.ePollSwitch, withSocket_of_present shows.present]
  cases already : isDone socket with
  | true =>
      rw [done already]
      exact shows
  | false =>
      obtain ⟨sockets, epoll⟩ := follows already (state.setSocket pointer (switch socket))
        shows.registered
      refine ⟨?_, ?_⟩
      · exact (congrFun sockets pointer).trans (Function.update_self ..)
      · rw [sameFd]
        exact epoll

theorem Shows.ePollAddClientRead (shows : state.Shows pointer socket) :
    (state.ePollAddClientRead pointer).Shows pointer { socket with cfdIsRead := true } := by
  obtain ⟨cfd, readBuffer, writeBuffer, isWriteing, cfdIsRead, cfdIsWrite⟩ := socket
  apply shows.ePollSwitch rfl
  · rintro rfl
    rfl
  · rintro rfl middle registered
    cases cfdIsWrite <;>
      simp [epollAdd, epollChange, registered, ClientSocket.registration]

theorem Shows.ePollAddClientWrite (shows : state.Shows pointer socket) :
    (state.ePollAddClientWrite pointer).Shows pointer { socket with cfdIsWrite := true } := by
  obtain ⟨cfd, readBuffer, writeBuffer, isWriteing, cfdIsRead, cfdIsWrite⟩ := socket
  apply shows.ePollSwitch rfl
  · rintro rfl
    rfl
  · rintro rfl middle registered
    cases cfdIsRead <;>
      simp [epollAdd, epollChange, registered, ClientSocket.registration]

theorem Shows.ePollDelClientRead (shows : state.Shows pointer socket) :
    (state.ePollDelClientRead pointer).Shows pointer { socket with cfdIsRead := false } := by
  obtain ⟨cfd, readBuffer, writeBuffer, isWriteing, cfdIsRead, cfdIsWrite⟩ := socket
  apply shows.ePollSwitch rfl
  · cases cfdIsRead <;> simp
  · cases cfdIsRead <;> cases cfdIsWrite <;>
      simp +contextual [epollRemove, epollChange, ClientSocket.registration]

theorem Shows.ePollDelClientWrite (shows : state.Shows pointer socket) :
    (state.ePollDelClientWrite pointer).Shows pointer { socket with cfdIsWrite := false } := by
  obtain ⟨cfd, readBuffer, writeBuffer, isWriteing, cfdIsRead, cfdIsWrite⟩ := socket
  apply shows.ePollSwitch rfl
  · cases cfdIsWrite <;> simp
  · cases cfdIsRead <;> cases cfdIsWrite <;>
      simp +contextual [epollRemove, epollChange, ClientSocket.registration]

/-- `Send`: the flag for writing follows `m_IsWriteing` when that changes. -/
theorem Shows.send (shows : state.Shows pointer socket) {answers : List SendAnswer}
    {next : ServerState} {closed : Bool}
    (sent : state.send pointer socket answers = some (next, closed)) :
    ∃ rest exit, sendLoop socket.writeBuffer answers = some (rest, exit) ∧
      closed = decide (exit = .closed) ∧ next.Shows pointer (socket.afterSend rest exit) := by
  obtain ⟨⟨rest, exit⟩, looped, ended⟩ := Option.bind_eq_some_iff.mp sent
  refine ⟨rest, exit, looped, ?_⟩
  have set : ∀ isWriteing, (state.setSocket pointer
      { socket with writeBuffer := rest, isWriteing }).Shows pointer
        { socket with writeBuffer := rest, isWriteing } :=
    fun isWriteing => shows.setSocket rfl ⟨rfl, rfl⟩
  cases exit with
  | closed =>
      obtain ⟨rfl, rfl⟩ := Prod.mk.inj (Option.some.inj ended)
      exact ⟨rfl, set socket.isWriteing⟩
  | finished =>
      cases wasWriteing : socket.isWriteing with
      | true =>
          simp only [wasWriteing] at ended
          obtain ⟨rfl, rfl⟩ := Prod.mk.inj (Option.some.inj ended)
          refine ⟨rfl, ?_⟩
          simpa [ClientSocket.afterSend, client4WriteCallback, wasWriteing] using
            (set false).ePollDelClientWrite
      | false =>
          simp only [wasWriteing] at ended
          obtain ⟨rfl, rfl⟩ := Prod.mk.inj (Option.some.inj ended)
          refine ⟨rfl, ?_⟩
          simpa [ClientSocket.afterSend, wasWriteing] using set false
  | pending =>
      cases wasWriteing : socket.isWriteing with
      | true =>
          simp only [wasWriteing] at ended
          obtain ⟨rfl, rfl⟩ := Prod.mk.inj (Option.some.inj ended)
          refine ⟨rfl, ?_⟩
          simpa [ClientSocket.afterSend, wasWriteing] using set true
      | false =>
          simp only [wasWriteing] at ended
          obtain ⟨rfl, rfl⟩ := Prod.mk.inj (Option.some.inj ended)
          refine ⟨rfl, ?_⟩
          simpa [ClientSocket.afterSend, client4WriteCallback, wasWriteing] using
            (set true).ePollAddClientWrite

/-- The object is gone once its connection is closed. -/
theorem Shows.sockets_close (shows : state.Shows pointer socket) {erased : Nat}
    (entry : state.clientFdMap socket.cfd = some erased) :
    (state.clientSocketCloseAndDelete pointer).sockets pointer = none := by
  simp [clientSocketCloseAndDelete, epollRemove, withSocket_of_present shows.present, entry]

end ServerState

end SocketMessage.Server
