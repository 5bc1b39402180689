import SocketMessage.Server.Refinement

/-!
# Packages reach the connection they are meant for

A package carries the number of its connection's fd through both task queues, and the
number is looked up again at the end. Between, the connection may close and its number
go to the next one accepted: the answer to one client is then sent to another. This is
the only way a package can go astray.
-/

namespace SocketMessage.Server

open SocketMessage.Lib SocketMessage.Frame SocketMessage.Wire

/-- The fd a send task will look up. -/
def SocketTask.sendCfd : SocketTask → Option Int
  | .send task => some task.cfd
  | _ => none

namespace ServerState

/-- The fds that queued packages will be answered on and queued data will be sent to. -/
def waitingCfds (state : ServerState) : List Int :=
  (state.dataTasks.filter DataPack.asksAnswer).map DataPack.cfd ++
    state.socketTasks.filterMap SocketTask.sendCfd

/-- What the ledger holds pending waits under one of these fds. -/
theorem mem_waitingCfds_of_pending {state : ServerState} {cfd : Int} {pointer : Nat}
    (pending : state.ledger.pending cfd pointer) : cfd ∈ state.waitingCfds := by
  rcases pending with ⟨pack, member, asks, rfl, -⟩ | ⟨task, member, rfl, -⟩
  · exact List.mem_append_left _
      (List.mem_map_of_mem (List.mem_filter.mpr ⟨member, asks⟩))
  · exact List.mem_append_right _ (List.mem_filterMap.mpr ⟨_, member, rfl⟩)

/-- Everything that was appended to a write buffer was queued for this connection, and
answers no other one's package. -/
def NoMisdelivery (state : ServerState) : Prop :=
  ∀ entry ∈ state.appended, entry.queuedFor = entry.connection ∧
    ∀ origin, entry.answers = some origin → origin = entry.connection

end ServerState

/-- No accept hands out an fd number that waiting work carries. -/
def ReusesNoWaitingCfd (state : ServerState) (event : ServerEvent) (_ : ServerState) : Prop :=
  ∀ cfd ∈ event.acceptedFds, cfd ∉ state.waitingCfds

instance (state : ServerState) (event : ServerEvent) (next : ServerState) :
    Decidable (ReusesNoWaitingCfd state event next) :=
  inferInstanceAs (Decidable (∀ cfd ∈ event.acceptedFds, cfd ∉ state.waitingCfds))

namespace ServerState

/-- As long as no accept hands out an fd number that waiting work carries, every package
is appended for the connection it is meant for, or dropped. -/
theorem runs_noMisdelivery {events : List ServerEvent} {state : ServerState}
    (run : serverSystem.Runs ReusesNoWaitingCfd events state) : state.NoMisdelivery := by
  have unaddressed : ∀ state event next, ReusesNoWaitingCfd state event next →
      Ledger.OpensUnaddressed state.ledger (event.onLedger state) next.ledger :=
    fun _ _ _ reusesNone cfd opened _ pending =>
      reusesNone cfd opened (mem_waitingCfds_of_pending pending)
  obtain ⟨onLedger, ledgerRun⟩ := runs_refine unaddressed run
  intro entry member
  have reaches : ∀ meant ∈ entry.recipients, meant = entry.connection := fun meant recipient =>
    (Ledger.runs_delivered ledgerRun ⟨entry, member, rfl, recipient⟩).symm
  refine ⟨reaches _ List.mem_cons_self, fun origin answers => reaches origin ?_⟩
  simp [Appended.recipients, answers]

/-- A request for the message list. -/
def listRequest : List Byte := [16, 0, 0, 0, 102, 0, 0, 0, 0, 0, 0, 0, 0, 0, 0, 0]

/-- A client connects. -/
def connectEvents : List ServerEvent :=
  [.wait [.server], .callback, .run 0 (.accepts [(20, zeroMemory)])]

/-- The client with fd 20 sends something. -/
def readEvents (answers : List RecvAnswer) : List ServerEvent :=
  [.wait [.client 20 true false], .callback, .run 0 (.recvs answers)]

/-- A client asks and is answered. -/
def askEvents : List ServerEvent :=
  readEvents [.received (frame listRequest), .wouldBlock] ++
    [.handle 0 .zeroed .empty, .run 0 (.sends [.accepted 16])]

/-- A client is answered and leaves, and the next one gets its fd number, asks and is answered. -/
def returnedEvents : List ServerEvent :=
  connectEvents ++ askEvents ++ readEvents [.peerClosed] ++ connectEvents ++ askEvents

/-- Each answer is appended for the client that has asked. -/
theorem returned_noMisdelivery :
    ∃ state, serverSystem.Runs ReusesNoWaitingCfd returnedEvents state ∧
      state.appended = [⟨0, 0, some 0⟩, ⟨1, 1, some 1⟩] ∧ state.NoMisdelivery := by
  have followed : ∃ state, LabelledSystem.follow step ReusesNoWaitingCfd start returnedEvents =
      some state ∧ state.appended = [⟨0, 0, some 0⟩, ⟨1, 1, some 1⟩] := ⟨_, rfl, rfl⟩
  obtain ⟨state, followed, appended⟩ := followed
  have run : serverSystem.Runs ReusesNoWaitingCfd returnedEvents state :=
    LabelledSystem.runs_of_follow followed
  exact ⟨state, run, appended, runs_noMisdelivery run⟩

/-- A client leaves after its request, and the next one gets its fd number before the
request is handled. -/
def leftEvents : List ServerEvent :=
  connectEvents ++ readEvents [.received (frame listRequest), .peerClosed] ++ connectEvents ++
    [.handle 0 .zeroed .empty, .run 0 (.sends [.accepted 16])]

/-- The answer to the first client is appended for the second. -/
theorem left_misdelivery :
    ∃ state, serverSystem.Runs (fun _ _ _ => True) leftEvents state ∧ ¬ state.NoMisdelivery := by
  have followed : ∃ state, LabelledSystem.follow step (fun _ _ _ => True) start leftEvents =
      some state ∧ state.appended = [⟨1, 1, some 0⟩] := ⟨_, rfl, rfl⟩
  obtain ⟨state, followed, appended⟩ := followed
  refine ⟨state, LabelledSystem.runs_of_follow followed, fun correct => ?_⟩
  have wrong := (correct ⟨1, 1, some 0⟩ (by simp [appended])).2 0 rfl
  cases wrong

end ServerState

end SocketMessage.Server
