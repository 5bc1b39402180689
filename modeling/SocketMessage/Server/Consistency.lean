import SocketMessage.Server.System

/-!
# What the server's tables say about its connections

`m_ClientFdMap`, the epoll set and the objects agree (`Consistent`). Most functions
change only flags, buffers and registrations (`Quiet`); accepting and deleting are
described by what they do to the tables (`Connected`, `Deleted`).
-/

namespace SocketMessage.Server

open SocketMessage.Lib SocketMessage.Frame

namespace ServerState

/-- Entries and registrations are those of the objects that have not been deleted. -/
structure Consistent (state : ServerState) : Prop where
  entries : ∀ cfd pointer, state.clientFdMap cfd = some pointer ↔ state.fdOf pointer = some cfd
  registered : ∀ cfd registration, state.epoll cfd = some registration →
    state.fdOf registration.pointer = some cfd
  accepted : ∀ pointer cfd, state.fdOf pointer = some cfd → pointer < state.accepted

/-- In the beginning there are none. -/
theorem consistent_start : start.Consistent where
  entries _ _ := by simp [start, fdOf]
  registered _ _ found := by cases found
  accepted _ _ present := by cases present

/-- No two objects have one fd. -/
theorem Consistent.distinct {state : ServerState} (consistent : state.Consistent)
    {pointer other : Nat} {cfd : Int} (present : state.fdOf pointer = some cfd)
    (otherPresent : state.fdOf other = some cfd) : pointer = other := by
  have found := (consistent.entries cfd pointer).mpr present
  have otherFound := (consistent.entries cfd other).mpr otherPresent
  exact Option.some.inj (found.symm.trans otherFound)

/-- The queues and the record say nothing about the tables. -/
theorem Consistent.of_queues {state : ServerState} (consistent : state.Consistent)
    {fetched : List EpollEvent} {socketTasks : List SocketTask} {dataTasks : List DataPack}
    {recvStatistics : RecvStatistics} {fault : Option Fault} {appended : List Appended} :
    { state with
      fetched, socketTasks, dataTasks, recvStatistics, fault, appended : ServerState }.Consistent :=
  ⟨consistent.entries, consistent.registered, consistent.accepted⟩

/-- An object with an fd is there. -/
theorem fdOf_eq_some_iff {state : ServerState} {pointer : Nat} {cfd : Int} :
    state.fdOf pointer = some cfd ↔
      ∃ socket, state.sockets pointer = some socket ∧ socket.cfd = cfd := by
  simp [fdOf]

/-- An object that is there has an fd. -/
theorem fdOf_of_socket {state : ServerState} {pointer : Nat} {socket : ClientSocket}
    (present : state.sockets pointer = some socket) : state.fdOf pointer = some socket.cfd := by
  simp [fdOf, present]

/-- An object without an fd has been deleted, or was never there. -/
theorem fdOf_of_absent {state : ServerState} {pointer : Nat}
    (absent : state.sockets pointer = none) : state.fdOf pointer = none := by
  simp [fdOf, absent]

/-- Using an object that is there. -/
theorem withSocket_of_present {state : ServerState} {pointer : Nat} {socket : ClientSocket}
    {use : ClientSocket → ServerState} (present : state.sockets pointer = some socket) :
    state.withSocket pointer use = use socket := by
  simp [withSocket, present]

/-- Switching a direction of an object that is not there. -/
theorem ePollSwitch_of_absent {state : ServerState} {pointer : Nat}
    {isDone isOther : ClientSocket → Bool} {switch : ClientSocket → ClientSocket}
    {both single : ServerState → Int → ServerState} (absent : state.sockets pointer = none) :
    state.ePollSwitch pointer isDone switch isOther both single = state.fail .usedDeleted := by
  simp [ePollSwitch, withSocket, absent]

/-- `SendPackage` does nothing, throws, or queues a task. -/
theorem sendPackage_cases (state : ServerState) (cfd : Int) (data : List Byte)
    (answers : Option Nat) :
    state.sendPackage cfd data answers = state ∨
      (∃ fault, state.sendPackage cfd data answers = state.fail fault) ∨
      ∃ task, state.sendPackage cfd data answers = state.addSocketTask (.send task) := by
  simp only [sendPackage, withSocket]
  cases state.clientFdMap cfd with
  | none => exact Or.inl rfl
  | some pointer =>
      dsimp only
      cases state.sockets pointer with
      | none => exact Or.inr (Or.inl ⟨_, rfl⟩)
      | some socket =>
          dsimp only
          split_ifs
          · exact Or.inl rfl
          · exact Or.inr (Or.inl ⟨_, rfl⟩)
          · exact Or.inr (Or.inr ⟨_, rfl⟩)

/-! ## Functions that leave objects, entries and queues alone -/

/-- Nothing but flags, buffers, registrations and counters has changed, and what is
newly registered is an object under its fd. -/
structure Quiet (before after : ServerState) : Prop where
  fdOf : after.fdOf = before.fdOf
  accepted : after.accepted = before.accepted
  clientFdMap : after.clientFdMap = before.clientFdMap
  registered : ∀ cfd registration, after.epoll cfd = some registration →
    before.epoll cfd = some registration ∨ before.fdOf registration.pointer = some cfd
  fetched : after.fetched = before.fetched
  socketTasks : after.socketTasks = before.socketTasks
  dataTasks : after.dataTasks = before.dataTasks
  fault : after.fault = before.fault
  teardowns : after.teardowns = before.teardowns
  appended : after.appended = before.appended

theorem Quiet.refl (state : ServerState) : Quiet state state where
  fdOf := rfl
  accepted := rfl
  clientFdMap := rfl
  registered _ _ found := .inl found
  fetched := rfl
  socketTasks := rfl
  dataTasks := rfl
  fault := rfl
  teardowns := rfl
  appended := rfl

theorem Quiet.trans {first middle last : ServerState} (before : Quiet first middle)
    (after : Quiet middle last) : Quiet first last where
  fdOf := after.fdOf.trans before.fdOf
  accepted := after.accepted.trans before.accepted
  clientFdMap := after.clientFdMap.trans before.clientFdMap
  registered cfd registration found := by
    rcases after.registered cfd registration found with old | new
    · exact before.registered cfd registration old
    · exact .inr (by rw [← before.fdOf]; exact new)
  fetched := after.fetched.trans before.fetched
  socketTasks := after.socketTasks.trans before.socketTasks
  dataTasks := after.dataTasks.trans before.dataTasks
  fault := after.fault.trans before.fault
  teardowns := after.teardowns.trans before.teardowns
  appended := after.appended.trans before.appended

/-- The tables still agree. -/
theorem Quiet.consistent {before after : ServerState} (quiet : Quiet before after)
    (consistent : before.Consistent) : after.Consistent where
  entries cfd pointer := by
    rw [quiet.clientFdMap, quiet.fdOf]
    exact consistent.entries cfd pointer
  registered cfd registration found := by
    rw [quiet.fdOf]
    rcases quiet.registered cfd registration found with old | new
    · exact consistent.registered cfd registration old
    · exact new
  accepted pointer cfd present := by
    rw [quiet.fdOf] at present
    rw [quiet.accepted]
    exact consistent.accepted pointer cfd present

section Quiet

variable {state : ServerState} {pointer : Nat} {cfd : Int}

/-- Counters, the online users and whether the server's socket is registered. -/
theorem quiet_counters {clientSocketCount : Int} {serverRegistered : Bool}
    {onlineUserMap : OrderedMap Int Int} {recvStatistics : RecvStatistics}
    {sendStatistics : SendStatistics} :
    Quiet state { state with
      clientSocketCount, serverRegistered, onlineUserMap, recvStatistics, sendStatistics } :=
  { Quiet.refl state with }

/-- An object's fields other than its fd. -/
theorem quiet_setSocket {socket : ClientSocket} (present : state.fdOf pointer = some socket.cfd) :
    Quiet state (state.setSocket pointer socket) :=
  { Quiet.refl state with
    fdOf := by
      funext other
      by_cases same : other = pointer
      · simp [fdOf, setSocket, same, ← present]
      · simp [fdOf, setSocket, same] }

/-- A changed epoll set. -/
theorem quiet_epoll {epoll : Int → Option Registration}
    (registered : ∀ cfd registration, epoll cfd = some registration →
      state.epoll cfd = some registration ∨ state.fdOf registration.pointer = some cfd) :
    Quiet state { state with epoll } :=
  { Quiet.refl state with registered := registered }

/-- Registering an object under its fd. -/
theorem quiet_register {registration : Registration}
    (present : state.fdOf registration.pointer = some cfd) :
    Quiet state { state with epoll := Function.update state.epoll cfd (some registration) } := by
  apply quiet_epoll
  intro other found foundOther
  by_cases same : other = cfd
  · subst same
    rw [Function.update_self, Option.some.injEq] at foundOther
    exact .inr (by rw [← foundOther]; exact present)
  · rw [Function.update_of_ne same] at foundOther
    exact .inl foundOther

theorem quiet_epollAdd {isWrite isRead : Bool} (present : state.fdOf pointer = some cfd) :
    Quiet state (state.epollAdd cfd pointer isWrite isRead) := by
  unfold epollAdd
  split
  · exact .refl state
  · exact quiet_register present

theorem quiet_epollChange {isWrite isRead : Bool} (present : state.fdOf pointer = some cfd) :
    Quiet state (state.epollChange cfd pointer isWrite isRead) := by
  unfold epollChange
  split
  · exact quiet_register present
  · exact .refl state

theorem quiet_epollRemove : Quiet state (state.epollRemove cfd) := by
  apply quiet_epoll
  intro other registration found
  by_cases same : other = cfd
  · simp [same] at found
  · rw [Function.update_of_ne same] at found
    exact .inl found

/-- Switching one direction, for functions that keep the fd and touch only the epoll set. -/
theorem quiet_ePollSwitch {isDone isOther : ClientSocket → Bool}
    {switch : ClientSocket → ClientSocket} {both single : ServerState → Int → ServerState}
    (kept : ∀ socket, (switch socket).cfd = socket.cfd)
    (quietBoth : ∀ state, state.fdOf pointer = some cfd → Quiet state (both state cfd))
    (quietSingle : ∀ state, state.fdOf pointer = some cfd → Quiet state (single state cfd))
    (present : state.fdOf pointer = some cfd) :
    Quiet state (state.ePollSwitch pointer isDone switch isOther both single) := by
  obtain ⟨socket, found, rfl⟩ := fdOf_eq_some_iff.mp present
  have set := @quiet_setSocket state pointer (switch socket) (by rw [kept]; exact present)
  have stillPresent : (state.setSocket pointer (switch socket)).fdOf pointer = some socket.cfd := by
    rw [set.fdOf]
    exact present
  simp only [ePollSwitch, withSocket_of_present found]
  split
  · exact .refl state
  split
  · exact set.trans (quietBoth _ stillPresent)
  · exact set.trans (quietSingle _ stillPresent)

theorem quiet_ePollAddClientRead (present : state.fdOf pointer = some cfd) :
    Quiet state (state.ePollAddClientRead pointer) :=
  quiet_ePollSwitch (fun _ => rfl) (fun _ => quiet_epollChange) (fun _ => quiet_epollAdd) present

theorem quiet_ePollAddClientWrite (present : state.fdOf pointer = some cfd) :
    Quiet state (state.ePollAddClientWrite pointer) :=
  quiet_ePollSwitch (fun _ => rfl) (fun _ => quiet_epollChange) (fun _ => quiet_epollAdd) present

theorem quiet_ePollDelClientRead (present : state.fdOf pointer = some cfd) :
    Quiet state (state.ePollDelClientRead pointer) :=
  quiet_ePollSwitch (fun _ => rfl) (fun _ => quiet_epollChange) (fun _ _ => quiet_epollRemove)
    present

theorem quiet_ePollDelClientWrite (present : state.fdOf pointer = some cfd) :
    Quiet state (state.ePollDelClientWrite pointer) :=
  quiet_ePollSwitch (fun _ => rfl) (fun _ => quiet_epollChange) (fun _ _ => quiet_epollRemove)
    present

theorem quiet_client4WriteCallback {hasData : Bool} (present : state.fdOf pointer = some cfd) :
    Quiet state (state.client4WriteCallback pointer hasData) := by
  unfold client4WriteCallback
  split
  · exact quiet_ePollAddClientWrite present
  · exact quiet_ePollDelClientWrite present

/-- `Send` is quiet, and reports a closed connection after an error only. -/
theorem quiet_send {socket : ClientSocket} (present : state.fdOf pointer = some socket.cfd)
    {answers : List SendAnswer} {next : ServerState} {closed : Bool}
    (sent : state.send pointer socket answers = some (next, closed)) :
    Quiet state next ∧
      (closed → answers.getLast? = some .nothing ∨ answers.getLast? = some .failed) := by
  simp only [send, Option.bind_eq_bind, Option.bind_eq_some_iff] at sent
  obtain ⟨⟨writeBuffer, exit⟩, looped, result⟩ := sent
  dsimp only at result
  split at result
  · next ended =>
      obtain ⟨rfl, rfl⟩ := Prod.mk.inj (Option.some.inj result)
      subst ended
      exact ⟨quiet_setSocket present, fun _ => sendLoop_closed looped⟩
  split at result
  · obtain ⟨rfl, rfl⟩ := Prod.mk.inj (Option.some.inj result)
    have set := @quiet_setSocket state pointer
      { socket with writeBuffer, isWriteing := decide (exit = .pending) } present
    exact ⟨set.trans (quiet_client4WriteCallback (by rw [set.fdOf]; exact present)), by simp⟩
  · obtain ⟨rfl, rfl⟩ := Prod.mk.inj (Option.some.inj result)
    exact ⟨quiet_setSocket present, by simp⟩

end Quiet

/-! ## What a part of the state does not see -/

section Observed

variable {α : Type} {observe : ServerState → α}

/-- What faults, queued tasks of `SendPackage` and the online users do not change, the calls of a
handler do not change. -/
theorem observe_runActions (fails : ∀ state fault, observe (state.fail fault) = observe state)
    (queues : ∀ state task, observe (state.addSocketTask (.send task)) = observe state)
    (opens : ∀ state onlineUserMap, observe { state with onlineUserMap } = observe state)
    (pack : DataPack) (actions : List HandlerAction) (state : ServerState) :
    observe (runActions pack state actions) = observe state := by
  have sent : ∀ (state : ServerState) (cfd : Int) (data : List Byte) (answers : Option Nat),
      observe (state.sendPackage cfd data answers) = observe state := by
    intro state cfd data answers
    rcases sendPackage_cases state cfd data answers with same | ⟨fault, same⟩ | ⟨task, same⟩
    · rw [same]
    · rw [same, fails]
    · rw [same, queues]
  have acted : ∀ (state : ServerState) (action : HandlerAction),
      observe (state.act pack action) = observe state := by
    intro state action
    cases action with
    | answer data => exact sent ..
    | clientOpen userId => exact opens ..
    | relay userId data =>
        simp only [act]
        split
        · exact sent ..
        · rfl
    | fail => exact fails ..
  induction actions generalizing state with
  | nil => rfl
  | cons action rest inductionHypothesis =>
      rw [runActions]
      split
      · rw [inductionHypothesis, acted]
      · exact acted state action

/-- Neither does the handler. -/
theorem observe_handleTask (fails : ∀ state fault, observe (state.fail fault) = observe state)
    (queues : ∀ state task, observe (state.addSocketTask (.send task)) = observe state)
    (opens : ∀ state onlineUserMap, observe { state with onlineUserMap } = observe state)
    (state : ServerState) (pack : DataPack) (memory : Wire.Memory) (queries : Queries) :
    observe (state.handleTask pack memory queries) = observe state := by
  unfold handleTask
  split
  · rfl
  · exact fails ..
  · exact observe_runActions fails queues opens ..

/-- What neither the write buffer nor the write callback changes, `Send` does not change. -/
theorem observe_send {state next : ServerState} {pointer : Nat} {socket : ClientSocket} {seen : α}
    (set : ∀ writeBuffer isWriteing,
      observe (state.setSocket pointer { socket with writeBuffer, isWriteing }) = seen)
    (callback : ∀ writeBuffer isWriteing hasData, observe
      ((state.setSocket pointer { socket with writeBuffer, isWriteing }).client4WriteCallback
        pointer hasData) = seen)
    {answers : List SendAnswer} {closed : Bool}
    (sent : state.send pointer socket answers = some (next, closed)) : observe next = seen := by
  obtain ⟨⟨writeBuffer, exit⟩, -, ended⟩ := Option.bind_eq_some_iff.mp sent
  dsimp only at ended
  split at ended
  · obtain ⟨rfl, rfl⟩ := Prod.mk.inj (Option.some.inj ended)
    exact set writeBuffer socket.isWriteing
  split at ended
  · obtain ⟨rfl, rfl⟩ := Prod.mk.inj (Option.some.inj ended)
    exact callback ..
  · obtain ⟨rfl, rfl⟩ := Prod.mk.inj (Option.some.inj ended)
    exact set writeBuffer socket.isWriteing

end Observed

/-! ## Accepting -/

/-- No object has a free fd. -/
theorem Consistent.fdOf_ne_of_fdFree {state : ServerState} (consistent : state.Consistent)
    {cfd : Int} (free : state.fdFree cfd) (pointer : Nat) : state.fdOf pointer ≠ some cfd := by
  intro present
  simp only [fdFree, Bool.and_eq_true, List.all_eq_true, List.mem_range, decide_eq_true_eq] at free
  exact free.2 pointer (consistent.accepted pointer cfd present) present

/-- A new object has an fd and its entry. -/
structure Connected (before : ServerState) (cfd : Int) (after : ServerState) : Prop where
  fdOf : after.fdOf = Function.update before.fdOf before.accepted (some cfd)
  accepted : after.accepted = before.accepted + 1
  clientFdMap : after.clientFdMap =
    Function.update before.clientFdMap cfd (some before.accepted)
  registered : ∀ other registration, after.epoll other = some registration →
    before.epoll other = some registration ∨ after.fdOf registration.pointer = some other
  fetched : after.fetched = before.fetched
  socketTasks : after.socketTasks = before.socketTasks
  dataTasks : after.dataTasks = before.dataTasks
  fault : after.fault = before.fault
  teardowns : after.teardowns = before.teardowns
  appended : after.appended = before.appended

/-- What accepting one connection does. -/
theorem connected_server4ClientConnectCallback {state : ServerState}
    (consistent : state.Consistent) {cfd : Int} (free : state.fdFree cfd)
    (memory : SizedBytes readBufMaxSize) :
    Connected state cfd (state.server4ClientConnectCallback cfd memory) := by
  have noEntry : state.clientFdMap cfd = none := by
    refine Option.eq_none_iff_forall_ne_some.mpr fun pointer found => ?_
    exact consistent.fdOf_ne_of_fdFree free pointer ((consistent.entries cfd pointer).mp found)
  simp only [server4ClientConnectCallback, noEntry, Option.getD_none]
  generalize opened_eq : ({ state with
    sockets := Function.update state.sockets state.accepted (some (.create cfd memory))
    accepted := state.accepted + 1
    clientFdMap := Function.update state.clientFdMap cfd (some state.accepted)
    clientSocketCount := state.clientSocketCount + 1
    onlineUserMap := clientSocketState state.onlineUserMap cfd true } : ServerState) = opened
  have fds : opened.fdOf = Function.update state.fdOf state.accepted (some cfd) := by
    subst opened_eq
    funext pointer
    by_cases same : pointer = state.accepted
    · simp [ServerState.fdOf, same, ClientSocket.create]
    · simp [ServerState.fdOf, same]
  have quiet := @quiet_ePollAddClientRead opened state.accepted cfd (by simp [fds])
  subst opened_eq
  exact {
    fdOf := quiet.fdOf.trans fds
    accepted := quiet.accepted
    clientFdMap := quiet.clientFdMap
    registered := fun other registration found => by
      rw [quiet.fdOf]
      exact quiet.registered other registration found
    fetched := quiet.fetched
    socketTasks := quiet.socketTasks
    dataTasks := quiet.dataTasks
    fault := quiet.fault
    teardowns := quiet.teardowns
    appended := quiet.appended }

/-- An object that was there keeps its fd, and the new one has the fd handed out. -/
theorem Connected.fdOf_eq_some_iff {before after : ServerState} {cfd : Int}
    (connected : Connected before cfd after) {pointer : Nat} {other : Int} :
    after.fdOf pointer = some other ↔
      if pointer = before.accepted then cfd = other else before.fdOf pointer = some other := by
  rw [connected.fdOf]
  split
  · next same => simp [same]
  · next different => simp [different]

/-- The tables agree on the new connection too. -/
theorem Connected.consistent {before after : ServerState} {cfd : Int}
    (connected : Connected before cfd after) (consistent : before.Consistent)
    (free : before.fdFree cfd) : after.Consistent where
  entries other pointer := by
    rw [connected.clientFdMap, connected.fdOf_eq_some_iff]
    have unused := consistent.fdOf_ne_of_fdFree free pointer
    have known := consistent.accepted pointer other
    have entries := consistent.entries other pointer
    by_cases same : other = cfd
    · subst same
      rw [Function.update_self, Option.some.injEq]
      split
      · next new => simp [new]
      · next old => exact ⟨fun new => absurd new.symm old, fun present => absurd present unused⟩
    · rw [Function.update_of_ne same, entries]
      split
      · next new =>
          subst new
          exact ⟨fun present => absurd (known present) (Nat.lt_irrefl _),
            fun new => absurd new.symm same⟩
      · exact Iff.rfl
  registered other registration found := by
    rcases connected.registered other registration found with old | new
    · have present := consistent.registered other registration old
      have known := consistent.accepted _ _ present
      rw [connected.fdOf_eq_some_iff, if_neg (by omega)]
      exact present
    · exact new
  accepted pointer other present := by
    rw [connected.fdOf_eq_some_iff] at present
    rw [connected.accepted]
    split at present
    · omega
    · have known := consistent.accepted pointer other present
      omega

/-! ## Deleting -/

/-- An object is gone with its entry and its registration, and the teardown is
recorded. -/
structure Deleted (before : ServerState) (pointer : Nat) (cfd : Int) (after : ServerState) :
    Prop where
  fdOf : after.fdOf = Function.update before.fdOf pointer none
  accepted : after.accepted = before.accepted
  clientFdMap : after.clientFdMap = Function.update before.clientFdMap cfd none
  registered : ∀ other registration, after.epoll other = some registration →
    other ≠ cfd ∧ before.epoll other = some registration
  fetched : after.fetched = before.fetched
  socketTasks : after.socketTasks = before.socketTasks
  dataTasks : after.dataTasks = before.dataTasks
  fault : after.fault = before.fault
  teardowns : after.teardowns = before.teardowns ++ [⟨pointer, pointer, before.holders cfd⟩]
  appended : after.appended = before.appended

/-- What `ClientSocketCloseAndDelete` does to an object that is there. -/
theorem deleted_clientSocketCloseAndDelete {state : ServerState} (consistent : state.Consistent)
    {pointer : Nat} {cfd : Int} (present : state.fdOf pointer = some cfd) :
    Deleted state pointer cfd (state.clientSocketCloseAndDelete pointer) := by
  have entry := (consistent.entries cfd pointer).mpr present
  obtain ⟨socket, found, rfl⟩ := fdOf_eq_some_iff.mp present
  simp only [clientSocketCloseAndDelete, withSocket, found, entry, ePollDelClient, setSocket,
    epollRemove, Function.update_idem]
  exact {
    fdOf := by
      funext other
      by_cases same : other = pointer
      · simp [ServerState.fdOf, same]
      · simp [ServerState.fdOf, same]
    accepted := rfl
    clientFdMap := rfl
    registered := fun other registration found => by
      by_cases same : other = socket.cfd
      · simp [same] at found
      · exact ⟨same, by simpa [same] using found⟩
    fetched := rfl
    socketTasks := rfl
    dataTasks := rfl
    fault := rfl
    teardowns := rfl
    appended := rfl }

/-- The others keep their fds. -/
theorem Deleted.fdOf_eq_some_iff {before after : ServerState} {pointer : Nat} {cfd : Int}
    (deleted : Deleted before pointer cfd after) {other : Nat} {otherCfd : Int} :
    after.fdOf other = some otherCfd ↔ other ≠ pointer ∧ before.fdOf other = some otherCfd := by
  rw [deleted.fdOf]
  by_cases same : other = pointer
  · simp [same]
  · simp [same]

/-- The tables agree without it. -/
theorem Deleted.consistent {before after : ServerState} {pointer : Nat} {cfd : Int}
    (deleted : Deleted before pointer cfd after) (consistent : before.Consistent)
    (present : before.fdOf pointer = some cfd) : after.Consistent where
  entries other found := by
    rw [deleted.clientFdMap, deleted.fdOf_eq_some_iff]
    by_cases same : other = cfd
    · subst same
      rw [Function.update_self]
      exact ⟨fun absent => (by cases absent), fun ⟨different, foundHere⟩ =>
        absurd (consistent.distinct foundHere present) different⟩
    · rw [Function.update_of_ne same, consistent.entries]
      refine ⟨fun foundHere => ⟨?_, foundHere⟩, fun foundHere => foundHere.2⟩
      rintro rfl
      exact same (Option.some.inj (foundHere.symm.trans present))
  registered other registration found := by
    obtain ⟨different, old⟩ := deleted.registered other registration found
    have presentOther := consistent.registered other registration old
    rw [deleted.fdOf_eq_some_iff]
    refine ⟨fun same => different ?_, presentOther⟩
    rw [same] at presentOther
    exact Option.some.inj (presentOther.symm.trans present)
  accepted other otherCfd found := by
    rw [deleted.accepted]
    exact consistent.accepted other otherCfd (deleted.fdOf_eq_some_iff.mp found).2

end ServerState

end SocketMessage.Server
