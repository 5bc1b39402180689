import Mathlib.Data.List.Perm.Basic
import SocketMessage.Server.Delivery
import SocketMessage.Server.WriteInterest

/-!
# Nobody is forgotten

Whoever has been reported by `epoll_wait` is not registered for it until a task has dealt with
the report: the task of the server's socket accepts and registers it again, the task of a
connection reads and registers it again. So each of them is registered or has exactly one task
that will register it, however the tasks are scheduled; and the counters count connections and
packages.
-/

namespace SocketMessage.Server

open SocketMessage.Lib SocketMessage.Frame SocketMessage.Wire

/-! ## Who is waited for -/

/-- For each object that is there, whether it is registered for reading; whether the server's
socket is; the events that have been fetched; how many tasks will register them again; and the
counter of clients. -/
structure Attention where
  reading : Nat → Option Bool
  accepted : Nat
  listening : Bool
  fetched : List EpollEvent
  reads : Nat → Nat
  accepts : Nat
  clientSocketCount : Int

namespace Attention

/-- The event is for something that is still registered for it, if it is there. -/
def Expects (attention : Attention) (event : EpollEvent) : Prop :=
  match event.source with
  | .server => attention.listening = true
  | .client pointer => pointer < attention.accepted ∧
      (event.isRead = true → attention.reading pointer ≠ some false)

/-- Registered or with one task. -/
structure Kept (attention : Attention) : Prop where
  reads : ∀ pointer registered, attention.reading pointer = some registered →
    attention.reads pointer + registered.toNat = 1
  accepts : attention.accepts + attention.listening.toNat = 1
  fresh : ∀ pointer, attention.accepted ≤ pointer →
    attention.reading pointer = none ∧ attention.reads pointer = 0
  expected : ∀ event ∈ attention.fetched, attention.Expects event
  once : (attention.fetched.map EpollEvent.source).Nodup
  count : attention.clientSocketCount =
    (List.range attention.accepted).countP fun pointer => (attention.reading pointer).isSome

/-- An object is registered, or not, or gone. -/
def setReading (attention : Attention) (pointer : Nat) (registered : Option Bool) : Attention :=
  { attention with reading := Function.update attention.reading pointer registered }

/-- A new client. -/
def connect (attention : Attention) : Attention :=
  { attention.setReading attention.accepted (some true) with
    accepted := attention.accepted + 1
    clientSocketCount := attention.clientSocketCount + 1 }

/-- A task is queued. -/
def add (attention : Attention) : SocketTask → Attention
  | .accept => { attention with accepts := attention.accepts + 1 }
  | .read pointer =>
      { attention with
        reads := Function.update attention.reads pointer (attention.reads pointer + 1) }
  | .write _ | .send _ => attention

/-- The first event is dealt with: what it was reported for is no longer registered, and a task
is queued. -/
def report (attention : Attention) (event : EpollEvent) (rest : List EpollEvent) : Attention :=
  match event.source with
  | .server => { attention with fetched := rest, listening := false }.add .accept
  | .client pointer =>
      if event.isRead then
        ({ attention with fetched := rest }.setReading pointer
          ((attention.reading pointer).map fun _ => false)).add (.read pointer)
      else { attention with fetched := rest }

/-- A client is gone. -/
def delete (attention : Attention) (pointer : Nat) : Attention :=
  { attention.setReading pointer none with
    clientSocketCount := attention.clientSocketCount - 1 }

variable {attention : Attention} {pointer : Nat}

/-- Objects that are there have been accepted. -/
theorem Kept.lt_accepted (kept : attention.Kept) {registered : Bool}
    (present : attention.reading pointer = some registered) : pointer < attention.accepted := by
  by_contra outside
  rw [(kept.fresh pointer (Nat.le_of_not_lt outside)).1] at present
  cases present

/-- Values that are there for the same of the first arguments are as often there. -/
theorem countP_range_congr {values others : Nat → Option Bool} {bound : Nat}
    (same : ∀ argument < bound, (others argument).isSome = (values argument).isSome) :
    (List.range bound).countP (fun argument => (others argument).isSome) =
      (List.range bound).countP fun argument => (values argument).isSome := by
  refine List.countP_congr fun argument inside => ?_
  rw [same argument (List.mem_range.mp inside)]

/-- One of them is no longer there. -/
theorem countP_range_clear {values : Nat → Option Bool} {argument bound : Nat}
    (inside : argument < bound) (present : (values argument).isSome) :
    (List.range bound).countP (fun other => (Function.update values argument none other).isSome) +
        1 = (List.range bound).countP fun other => (values other).isSome := by
  induction bound with
  | zero => exact absurd inside (Nat.not_lt_zero _)
  | succ bound inductionHypothesis =>
      rw [List.range_succ, List.countP_append, List.countP_append]
      rcases Nat.lt_or_eq_of_le (Nat.le_of_lt_succ inside) with before | rfl
      · have last : (Function.update values argument none bound) = values bound :=
          Function.update_of_ne (Nat.ne_of_gt before) ..
        rw [← inductionHypothesis before, List.countP_singleton, List.countP_singleton, last]
        omega
      · have others : ∀ other < argument,
            (Function.update values argument none other).isSome = (values other).isSome :=
          fun other before => by rw [Function.update_of_ne (Nat.ne_of_lt before)]
        rw [countP_range_congr others]
        simp [present]

theorem Kept.connect (kept : attention.Kept) : attention.connect.Kept where
  reads other registered present := by
    by_cases same : other = attention.accepted
    · subst same
      obtain rfl : true = registered := by simpa [Attention.connect, setReading] using present
      simpa [Attention.connect, setReading] using (kept.fresh _ (Nat.le_refl _)).2
    · exact kept.reads other registered (by simpa [Attention.connect, setReading, same] using present)
  accepts := kept.accepts
  fresh other outside := by
    have beyond : attention.accepted + 1 ≤ other := outside
    have same : other ≠ attention.accepted := by omega
    simpa [Attention.connect, setReading, same] using kept.fresh other (by omega)
  expected event member := by
    have expected := kept.expected event member
    unfold Expects at expected ⊢
    cases source : event.source with
    | server => simpa [source, Attention.connect, setReading] using expected
    | client other =>
        simp only [source] at expected
        refine ⟨Nat.lt_succ_of_lt expected.1, fun isRead => ?_⟩
        have same : other ≠ attention.accepted := Nat.ne_of_lt expected.1
        simpa [Attention.connect, setReading, same] using expected.2 isRead
  once := kept.once
  count := by
    have others : ∀ other < attention.accepted,
        (Function.update attention.reading attention.accepted (some true) other).isSome =
          (attention.reading other).isSome :=
      fun other inside => by rw [Function.update_of_ne (Nat.ne_of_lt inside)]
    simp only [Attention.connect, setReading, List.range_succ, List.countP_append,
      countP_range_congr others, kept.count]
    simp

theorem Kept.delete (kept : attention.Kept) {registered : Bool}
    (present : attention.reading pointer = some registered) : (attention.delete pointer).Kept where
  reads other found isThere := by
    by_cases same : other = pointer
    · simp [Attention.delete, setReading, same] at isThere
    · exact kept.reads other found (by simpa [Attention.delete, setReading, same] using isThere)
  accepts := kept.accepts
  fresh other outside := by
    have old := kept.fresh other outside
    refine ⟨?_, old.2⟩
    by_cases same : other = pointer
    · simp [Attention.delete, setReading, same]
    · simpa [Attention.delete, setReading, same] using old.1
  expected event member := by
    have expected := kept.expected event member
    unfold Expects at expected ⊢
    cases source : event.source with
    | server => simpa [source, Attention.delete, setReading] using expected
    | client other =>
        simp only [source] at expected
        refine ⟨expected.1, fun isRead => ?_⟩
        by_cases same : other = pointer
        · simp [Attention.delete, setReading, same]
        · simpa [Attention.delete, setReading, same] using expected.2 isRead
  once := kept.once
  count := by
    have isThere : (attention.reading pointer).isSome := by rw [present]; rfl
    have cleared := countP_range_clear (kept.lt_accepted present) isThere
    have counted := kept.count
    simp only [Attention.delete, setReading]
    omega

/-- The other events are expected once there is one event less. -/
theorem Kept.others (kept : attention.Kept) {event : EpollEvent} {rest : List EpollEvent}
    (fetched : attention.fetched = event :: rest) :
    (∀ other ∈ rest, attention.Expects other ∧ other.source ≠ event.source) ∧
      (rest.map EpollEvent.source).Nodup := by
  have once := kept.once
  rw [fetched, List.map_cons, List.nodup_cons] at once
  refine ⟨fun other member => ⟨kept.expected other ?_, fun same => once.1 ?_⟩, once.2⟩
  · rw [fetched]
    exact List.mem_cons_of_mem _ member
  · rw [← same]
    exact List.mem_map_of_mem member

/-- Another registration and other tasks of one object that has been accepted. -/
theorem Kept.change (kept : attention.Kept) (known : pointer < attention.accepted)
    {registered : Option Bool} {tasks : Nat} {events : List EpollEvent}
    (same : registered.isSome = (attention.reading pointer).isSome)
    (own : ∀ flag, registered = some flag → tasks + flag.toNat = 1)
    (expected : ∀ event ∈ events, attention.Expects event ∧
      (event.source = .client pointer → event.isRead = true → registered ≠ some false))
    (once : (events.map EpollEvent.source).Nodup) :
    ({ attention.setReading pointer registered with
      fetched := events, reads := Function.update attention.reads pointer tasks } : Attention).Kept where
  reads other flag present := by
    by_cases here : other = pointer
    · subst here
      simpa using own flag (by simpa [setReading] using present)
    · simpa [here] using kept.reads other flag (by simpa [setReading, here] using present)
  accepts := kept.accepts
  fresh other outside := by
    have here : other ≠ pointer := by
      rintro rfl
      exact absurd known (Nat.not_lt.mpr outside)
    simpa [setReading, here] using kept.fresh other outside
  expected event member := by
    obtain ⟨expects, ofPointer⟩ := expected event member
    unfold Expects at expects ⊢
    cases source : event.source with
    | server => simpa [source, setReading] using expects
    | client other =>
        simp only [source] at expects
        refine ⟨expects.1, fun isRead => ?_⟩
        by_cases here : other = pointer
        · subst here
          simpa [setReading] using ofPointer source isRead
        · simpa [setReading, here] using expects.2 isRead
  once := once
  count := by
    have unchanged : ∀ other < attention.accepted,
        (Function.update attention.reading pointer registered other).isSome =
          (attention.reading other).isSome := by
      intro other _
      by_cases here : other = pointer
      · subst here
        simpa using same
      · rw [Function.update_of_ne here]
    exact kept.count.trans (congrArg _ (countP_range_congr unchanged).symm)

/-- The task of an event registers again what is no longer registered. -/
theorem Kept.report (kept : attention.Kept) {event : EpollEvent} {rest : List EpollEvent}
    (fetched : attention.fetched = event :: rest) : (attention.report event rest).Kept := by
  have expects : attention.Expects event := kept.expected event (fetched ▸ List.mem_cons_self)
  obtain ⟨others, once⟩ := kept.others fetched
  unfold Expects at expects
  unfold Attention.report
  cases source : event.source with
  | server =>
      simp only [source] at expects
      have accepts := kept.accepts
      rw [expects] at accepts
      refine ⟨kept.reads, ?_, kept.fresh, fun other member => ?_, once, kept.count⟩
      · simp only [Attention.add, Bool.toNat_true, Bool.toNat_false] at accepts ⊢
        omega
      · obtain ⟨expected, different⟩ := others other member
        unfold Expects at expected ⊢
        cases otherSource : other.source with
        | server => exact absurd (otherSource.trans source.symm) different
        | client pointer => simpa [otherSource, Attention.add] using expected
  | client pointer =>
      simp only [source] at expects
      dsimp only
      split
      · next isRead =>
        have registered := expects.2 isRead
        refine kept.change expects.1 (by simp) ?_ (fun other member => ?_) once
        · intro flag present
          obtain ⟨before, was, rfl⟩ := Option.map_eq_some_iff.mp present
          have reads := kept.reads pointer before was
          cases before with
          | false => exact absurd was registered
          | true => exact reads
        · obtain ⟨expected, different⟩ := others other member
          exact ⟨expected, fun same => absurd (same.trans source.symm) different⟩
      · exact ⟨kept.reads, kept.accepts, kept.fresh, fun other member => (others other member).1,
          once, kept.count⟩

/-- The task that read registers the object again. -/
theorem Kept.finishRead (kept : (attention.add (.read pointer)).Kept) {registered : Bool}
    (present : attention.reading pointer = some registered) :
    (attention.setReading pointer (some true)).Kept := by
  have reads := kept.reads pointer registered present
  have tasks : (attention.add (.read pointer)).reads pointer = attention.reads pointer + 1 :=
    Function.update_self ..
  have changed := @Kept.change _ pointer kept (kept.lt_accepted present) (some true)
    (attention.reads pointer) attention.fetched (congrArg Option.isSome present).symm
    (fun flag same => by cases same; simp only [Bool.toNat_true]; omega)
    (fun event member => ⟨kept.expected event member, fun _ _ => by simp⟩) kept.once
  simpa [Attention.add, setReading] using changed

/-- The task that read has closed the connection. -/
theorem Kept.deleteRead (kept : (attention.add (.read pointer)).Kept) {registered : Bool}
    (present : attention.reading pointer = some registered) : (attention.delete pointer).Kept := by
  have finished := kept.finishRead present
  have deleted := @Kept.delete _ pointer finished true (Function.update_self ..)
  simpa [Attention.delete, setReading] using deleted

/-- The task that accepts registers the server's socket again. -/
theorem Kept.listen (kept : (attention.add .accept).Kept) :
    ({ attention with listening := true } : Attention).Kept := by
  have accepts : attention.accepts + 1 + attention.listening.toNat = 1 := kept.accepts
  refine ⟨kept.reads, ?_, kept.fresh, fun event member => ?_, kept.once, kept.count⟩
  · simp only [Bool.toNat_true]
    omega
  · have expected := kept.expected event member
    unfold Expects at expected ⊢
    cases source : event.source with
    | server => rfl
    | client other => simpa [source, Attention.add] using expected

end Attention

namespace ServerState

/-! ## What the server's functions do about it -/

/-- Who is waited for in a state of the server. -/
def attention (state : ServerState) : Attention where
  reading pointer := (state.sockets pointer).map ClientSocket.cfdIsRead
  accepted := state.accepted
  listening := state.serverRegistered
  fetched := state.fetched
  reads pointer := state.socketTasks.count (.read pointer)
  accepts := state.socketTasks.count .accept
  clientSocketCount := state.clientSocketCount

variable {state next : ServerState} {pointer : Nat} {socket : ClientSocket}

theorem reading_of_present (present : state.sockets pointer = some socket) :
    state.attention.reading pointer = some socket.cfdIsRead := by
  simp [attention, present]

/-- A task at the end of the queue. -/
theorem attention_addSocketTask (state : ServerState) (task : SocketTask) :
    (state.addSocketTask task).attention = state.attention.add task := by
  cases task with
  | read pointer =>
      simp only [attention, addSocketTask, Attention.add, Attention.mk.injEq, true_and, and_true]
      refine ⟨funext fun other => ?_, by simp⟩
      by_cases same : other = pointer
      · simp [same]
      · simp [same, Ne.symm same]
  | _ => simp [attention, addSocketTask, Attention.add]

/-- A task that has been taken is still to be done. -/
theorem attention_eraseIdx {index : Nat} {task : SocketTask}
    (queued : state.socketTasks[index]? = some task) :
    state.attention =
      ({ state with socketTasks := state.socketTasks.eraseIdx index } : ServerState).attention.add
        task := by
  rw [← attention_addSocketTask]
  have perm : state.socketTasks.Perm (state.socketTasks.eraseIdx index ++ [task]) := by
    obtain ⟨inside, rfl⟩ := List.getElem?_eq_some_iff.mp queued
    exact (List.getElem_cons_eraseIdx_perm inside).symm.trans (List.perm_append_singleton ..).symm
  simp only [attention, addSocketTask, Attention.mk.injEq, true_and, and_true]
  exact ⟨funext fun pointer => perm.count_eq _, perm.count_eq _⟩

/-- Only an object's other fields have changed. -/
theorem attention_setSocket {before : ClientSocket} (present : state.sockets pointer = some before)
    (same : socket.cfdIsRead = before.cfdIsRead) :
    (state.setSocket pointer socket).attention = state.attention := by
  simp only [attention, setSocket, Attention.mk.injEq, and_true]
  funext other
  by_cases here : other = pointer
  · simp [here, present, same]
  · simp [here]

/-- An object's flag for reading is set. -/
theorem attention_setReading (state : ServerState) (pointer : Nat) (socket : ClientSocket) :
    (state.setSocket pointer socket).attention =
      state.attention.setReading pointer (some socket.cfdIsRead) := by
  simp only [attention, setSocket, Attention.setReading, Attention.mk.injEq, and_true]
  funext other
  by_cases here : other = pointer
  · simp [here]
  · simp [here]

@[simp] theorem attention_epollAdd (state : ServerState) (fs : Int) (pointer : Nat)
    (isWrite isRead : Bool) : (state.epollAdd fs pointer isWrite isRead).attention = state.attention := by
  unfold epollAdd
  split <;> rfl

@[simp] theorem attention_epollChange (state : ServerState) (fs : Int) (pointer : Nat)
    (isWrite isRead : Bool) :
    (state.epollChange fs pointer isWrite isRead).attention = state.attention := by
  unfold epollChange
  split <;> rfl

@[simp] theorem attention_epollRemove (state : ServerState) (fs : Int) :
    (state.epollRemove fs).attention = state.attention := rfl

/-- Switching one direction: only the flag matters. -/
theorem attention_ePollSwitch {isDone isOther : ClientSocket → Bool}
    {switch : ClientSocket → ClientSocket} {both single : ServerState → Int → ServerState}
    (present : state.sockets pointer = some socket)
    (onBoth : ∀ state cfd, (both state cfd).attention = state.attention)
    (onSingle : ∀ state cfd, (single state cfd).attention = state.attention)
    (done : isDone socket = true → (switch socket).cfdIsRead = socket.cfdIsRead) :
    (state.ePollSwitch pointer isDone switch isOther both single).attention =
      (state.setSocket pointer (switch socket)).attention := by
  rw [ePollSwitch, withSocket_of_present present]
  split
  · next isDone => exact (attention_setSocket present (done isDone)).symm
  · dsimp only
    split
    · exact onBoth ..
    · exact onSingle ..

theorem attention_ePollAddClientRead (present : state.sockets pointer = some socket) :
    (state.ePollAddClientRead pointer).attention =
      state.attention.setReading pointer (some true) := by
  unfold ePollAddClientRead
  refine (attention_ePollSwitch present (fun _ _ => attention_epollChange ..)
    (fun _ _ => attention_epollAdd ..) ?_).trans (attention_setReading ..)
  exact fun done => Eq.symm done

theorem attention_ePollDelClientRead (present : state.sockets pointer = some socket) :
    (state.ePollDelClientRead pointer).attention =
      state.attention.setReading pointer (some false) := by
  unfold ePollDelClientRead
  refine (attention_ePollSwitch present (fun _ _ => attention_epollChange ..)
    (fun _ _ => attention_epollRemove ..) ?_).trans (attention_setReading ..)
  exact fun done => by simpa using Eq.symm done

theorem attention_ePollAddClientWrite (present : state.sockets pointer = some socket) :
    (state.ePollAddClientWrite pointer).attention = state.attention := by
  unfold ePollAddClientWrite
  refine (attention_ePollSwitch present (fun _ _ => attention_epollChange ..)
    (fun _ _ => attention_epollAdd ..) ?_).trans (attention_setSocket present rfl)
  exact fun _ => rfl

theorem attention_ePollDelClientWrite (present : state.sockets pointer = some socket) :
    (state.ePollDelClientWrite pointer).attention = state.attention := by
  unfold ePollDelClientWrite
  refine (attention_ePollSwitch present (fun _ _ => attention_epollChange ..)
    (fun _ _ => attention_epollRemove ..) ?_).trans (attention_setSocket present rfl)
  exact fun _ => rfl

/-- `Send` concerns writing only. -/
theorem attention_send {before : ClientSocket} (present : state.sockets pointer = some before)
    (same : socket.cfdIsRead = before.cfdIsRead) {answers : List SendAnswer} {closed : Bool}
    (sent : state.send pointer socket answers = some (next, closed)) :
    next.attention = state.attention := by
  have set : ∀ writeBuffer isWriteing, (state.setSocket pointer
      { socket with writeBuffer, isWriteing }).attention = state.attention :=
    fun _ _ => attention_setSocket present same
  refine observe_send set (fun writeBuffer isWriteing hasData => ?_) sent
  have isThere : (state.setSocket pointer { socket with writeBuffer, isWriteing }).sockets pointer =
      some { socket with writeBuffer, isWriteing } := Function.update_self ..
  unfold client4WriteCallback
  split
  · exact (attention_ePollAddClientWrite isThere).trans (set ..)
  · exact (attention_ePollDelClientWrite isThere).trans (set ..)

/-- The handlers read and close nothing. -/
theorem attention_handleTask (state : ServerState) (pack : DataPack) (memory : Memory)
    (queries : Queries) : (state.handleTask pack memory queries).attention = state.attention :=
  observe_handleTask (fun _ _ => rfl)
    (fun state task => attention_addSocketTask state (.send task)) (fun _ _ => rfl) ..

/-- `ClientSocketCloseAndDelete`. -/
theorem attention_clientSocketCloseAndDelete (consistent : state.Consistent)
    (present : state.sockets pointer = some socket) :
    (state.clientSocketCloseAndDelete pointer).attention = state.attention.delete pointer := by
  have entry := (consistent.entries socket.cfd pointer).mpr (fdOf_of_socket present)
  simp only [clientSocketCloseAndDelete, withSocket, present, entry, ePollDelClient, setSocket,
    epollRemove, Function.update_idem, attention, Attention.delete, Attention.setReading,
    Attention.mk.injEq, and_true]
  funext other
  by_cases here : other = pointer
  · simp [here]
  · simp [here]

/-- `Server4ClientConnectCallback`. -/
theorem attention_server4ClientConnectCallback (state : ServerState) (cfd : Int)
    (memory : SizedBytes readBufMaxSize) :
    (state.server4ClientConnectCallback cfd memory).attention = state.attention.connect := by
  unfold server4ClientConnectCallback
  rw [attention_ePollAddClientRead (Function.update_self ..)]
  simp only [attention, Attention.connect, Attention.setReading, Attention.mk.injEq, and_true]
  funext other
  by_cases here : other = state.accepted
  · simp [here]
  · simp [here]

/-! ## Flags and registrations -/

/-- Every object is registered for what its flags say. -/
def Mirrored (state : ServerState) : Prop :=
  ∀ pointer socket, state.sockets pointer = some socket → state.Shows pointer socket

/-- Nothing has happened to the other objects and the other fds. -/
structure Elsewhere (before after : ServerState) (pointer : Nat) (cfd : Int) : Prop where
  sockets : ∀ other, other ≠ pointer → after.sockets other = before.sockets other
  epoll : ∀ other, other ≠ cfd → after.epoll other = before.epoll other

variable {cfd : Int}

theorem Elsewhere.trans {first middle last : ServerState}
    (before : Elsewhere first middle pointer cfd) (after : Elsewhere middle last pointer cfd) :
    Elsewhere first last pointer cfd where
  sockets other different := (after.sockets other different).trans (before.sockets other different)
  epoll other different := (after.epoll other different).trans (before.epoll other different)

theorem elsewhere_setSocket (state : ServerState) (pointer : Nat) (cfd : Int)
    (socket : ClientSocket) : Elsewhere state (state.setSocket pointer socket) pointer cfd where
  sockets _ different := Function.update_of_ne different ..
  epoll _ _ := rfl

theorem elsewhere_update {epoll : Int → Option Registration}
    (same : ∀ other, other ≠ cfd → epoll other = state.epoll other) :
    Elsewhere state { state with epoll } pointer cfd where
  sockets _ _ := rfl
  epoll := same

theorem elsewhere_epollRemove : Elsewhere state (state.epollRemove cfd) pointer cfd :=
  elsewhere_update fun _ different => Function.update_of_ne different ..

theorem elsewhere_epollAdd {isWrite isRead : Bool} :
    Elsewhere state (state.epollAdd cfd pointer isWrite isRead) pointer cfd := by
  unfold epollAdd
  split
  · exact elsewhere_update fun _ _ => rfl
  · exact elsewhere_update fun _ different => Function.update_of_ne different ..

theorem elsewhere_epollChange {isWrite isRead : Bool} :
    Elsewhere state (state.epollChange cfd pointer isWrite isRead) pointer cfd := by
  unfold epollChange
  split
  · exact elsewhere_update fun _ different => Function.update_of_ne different ..
  · exact elsewhere_update fun _ _ => rfl

theorem elsewhere_ePollSwitch {isDone isOther : ClientSocket → Bool}
    {switch : ClientSocket → ClientSocket} {both single : ServerState → Int → ServerState}
    (present : state.sockets pointer = some socket)
    (onBoth : ∀ state, Elsewhere state (both state socket.cfd) pointer socket.cfd)
    (onSingle : ∀ state, Elsewhere state (single state socket.cfd) pointer socket.cfd) :
    Elsewhere state (state.ePollSwitch pointer isDone switch isOther both single) pointer
      socket.cfd := by
  rw [ePollSwitch, withSocket_of_present present]
  split
  · exact elsewhere_update fun _ _ => rfl
  · dsimp only
    split
    · exact (elsewhere_setSocket ..).trans (onBoth _)
    · exact (elsewhere_setSocket ..).trans (onSingle _)

theorem elsewhere_ePollAddClientRead (present : state.sockets pointer = some socket) :
    Elsewhere state (state.ePollAddClientRead pointer) pointer socket.cfd :=
  elsewhere_ePollSwitch present (fun _ => elsewhere_epollChange) fun _ => elsewhere_epollAdd

theorem elsewhere_ePollDelClientRead (present : state.sockets pointer = some socket) :
    Elsewhere state (state.ePollDelClientRead pointer) pointer socket.cfd :=
  elsewhere_ePollSwitch present (fun _ => elsewhere_epollChange) fun _ => elsewhere_epollRemove

theorem elsewhere_ePollAddClientWrite (present : state.sockets pointer = some socket) :
    Elsewhere state (state.ePollAddClientWrite pointer) pointer socket.cfd :=
  elsewhere_ePollSwitch present (fun _ => elsewhere_epollChange) fun _ => elsewhere_epollAdd

theorem elsewhere_ePollDelClientWrite (present : state.sockets pointer = some socket) :
    Elsewhere state (state.ePollDelClientWrite pointer) pointer socket.cfd :=
  elsewhere_ePollSwitch present (fun _ => elsewhere_epollChange) fun _ => elsewhere_epollRemove

theorem elsewhere_client4WriteCallback (present : state.sockets pointer = some socket)
    (hasData : Bool) :
    Elsewhere state (state.client4WriteCallback pointer hasData) pointer socket.cfd := by
  unfold client4WriteCallback
  split
  · exact elsewhere_ePollAddClientWrite present
  · exact elsewhere_ePollDelClientWrite present

theorem elsewhere_send {answers : List SendAnswer} {closed : Bool}
    (sent : state.send pointer socket answers = some (next, closed)) :
    Elsewhere state next pointer socket.cfd := by
  obtain ⟨⟨writeBuffer, exit⟩, -, ended⟩ := Option.bind_eq_some_iff.mp sent
  dsimp only at ended
  split at ended
  · obtain ⟨rfl, rfl⟩ := Prod.mk.inj (Option.some.inj ended)
    exact elsewhere_setSocket ..
  split at ended
  · obtain ⟨rfl, rfl⟩ := Prod.mk.inj (Option.some.inj ended)
    have isThere : (state.setSocket pointer { socket with
        writeBuffer, isWriteing := decide (exit = .pending) }).sockets pointer =
          some { socket with writeBuffer, isWriteing := decide (exit = .pending) } :=
      Function.update_self ..
    exact (elsewhere_setSocket ..).trans (elsewhere_client4WriteCallback isThere _)
  · obtain ⟨rfl, rfl⟩ := Prod.mk.inj (Option.some.inj ended)
    exact elsewhere_setSocket ..

theorem elsewhere_clientSocketCloseAndDelete (present : state.sockets pointer = some socket) :
    Elsewhere state (state.clientSocketCloseAndDelete pointer) pointer socket.cfd := by
  unfold clientSocketCloseAndDelete
  rw [withSocket_of_present present]
  split
  · exact elsewhere_update fun _ _ => rfl
  · next entry =>
    simp only [ePollDelClient, withSocket, present, setSocket, epollRemove, Function.update_idem]
    exact ⟨fun _ different => Function.update_of_ne different ..,
      fun _ different => Function.update_of_ne different ..⟩

/-- The others stay registered for what their flags say. -/
theorem Mirrored.step (mirrored : state.Mirrored) (consistent : state.Consistent)
    (present : state.sockets pointer = some socket)
    (elsewhere : Elsewhere state next pointer socket.cfd)
    (own : ∀ after, next.sockets pointer = some after → next.Shows pointer after) :
    next.Mirrored := by
  intro other found isThere
  by_cases here : other = pointer
  · subst here
    exact own found isThere
  · rw [elsewhere.sockets other here] at isThere
    refine (mirrored other found isThere).of_same (elsewhere.sockets other here)
      (elsewhere.epoll _ fun sameFd => here ?_)
    exact consistent.distinct (sameFd ▸ fdOf_of_socket isThere) (fdOf_of_socket present)

/-- One object is registered for what its flags say then. -/
theorem Mirrored.shows (mirrored : state.Mirrored) (consistent : state.Consistent)
    (present : state.sockets pointer = some socket)
    (elsewhere : Elsewhere state next pointer socket.cfd) {after : ClientSocket}
    (shows : next.Shows pointer after) : next.Mirrored := by
  refine mirrored.step consistent present elsewhere fun found isThere => ?_
  obtain rfl := Option.some.inj (shows.present.symm.trans isThere)
  exact shows

/-! ## The steps -/

/-- Nobody is forgotten, as long as the tasks in hand are finished. -/
structure Attended (state : ServerState) (inHand : List SocketTask) : Prop where
  consistent : state.Consistent
  mirrored : state.Mirrored
  kept : (inHand.foldl Attention.add state.attention).Kept

variable {inHand : List SocketTask}

/-- A change that does not concern reading. -/
theorem Attended.other (attended : state.Attended inHand) (present : state.sockets pointer = some socket)
    (quiet : Quiet state next) (elsewhere : Elsewhere state next pointer socket.cfd)
    {after : ClientSocket} (shows : next.Shows pointer after)
    (attention : next.attention = state.attention) : next.Attended inHand where
  consistent := quiet.consistent attended.consistent
  mirrored := attended.mirrored.shows attended.consistent present elsewhere shows
  kept := attention ▸ attended.kept

/-- A change that concerns neither objects nor registrations. -/
theorem Attended.of_same (attended : state.Attended inHand) (consistent : next.Consistent)
    (sockets : next.sockets = state.sockets) (epoll : next.epoll = state.epoll)
    (attention : next.attention = state.attention) : next.Attended inHand where
  consistent := consistent
  mirrored pointer socket isThere := by
    rw [sockets] at isThere
    exact (attended.mirrored pointer socket isThere).of_same (congrFun sockets _) (congrFun epoll _)
  kept := attention ▸ attended.kept

/-- `Send` leaves the object there. -/
theorem Attended.send (attended : state.Attended inHand) (present : state.sockets pointer = some socket)
    {answers : List SendAnswer} {closed : Bool}
    (sent : state.send pointer socket answers = some (next, closed)) :
    next.Attended inHand ∧ ∃ after, next.sockets pointer = some after := by
  obtain ⟨rest, exit, -, -, shows⟩ := (attended.mirrored pointer socket present).send sent
  exact ⟨attended.other present (quiet_send (fdOf_of_socket present) sent).1 (elsewhere_send sent)
    shows (attention_send present rfl sent), _, shows.present⟩

theorem Attended.ePollAddClientWrite (attended : state.Attended inHand)
    (present : state.sockets pointer = some socket) :
    (state.ePollAddClientWrite pointer).Attended inHand :=
  attended.other present (quiet_ePollAddClientWrite (fdOf_of_socket present))
    (elsewhere_ePollAddClientWrite present)
    (attended.mirrored pointer socket present).ePollAddClientWrite
    (attention_ePollAddClientWrite present)

/-- A connection is closed, and a task that read it is finished. -/
theorem Attended.close (attended : state.Attended inHand) (present : state.sockets pointer = some socket)
    (closes : inHand = [] ∨ inHand = [.read pointer]) :
    (state.clientSocketCloseAndDelete pointer).Attended [] where
  consistent :=
    (deleted_clientSocketCloseAndDelete attended.consistent (fdOf_of_socket present)).consistent
      attended.consistent (fdOf_of_socket present)
  mirrored := by
    refine attended.mirrored.step attended.consistent present
      (elsewhere_clientSocketCloseAndDelete present) fun after isThere => ?_
    have entry := (attended.consistent.entries socket.cfd pointer).mpr (fdOf_of_socket present)
    rw [(attended.mirrored pointer socket present).sockets_close entry] at isThere
    cases isThere
  kept := by
    rw [attention_clientSocketCloseAndDelete attended.consistent present]
    rcases closes with rfl | rfl
    · exact attended.kept.delete (reading_of_present present)
    · exact attended.kept.deleteRead (reading_of_present present)

/-- `Recv` leaves the object there. -/
theorem Attended.recv (attended : state.Attended inHand) (present : state.sockets pointer = some socket)
    {answers : List RecvAnswer} {exit : RecvExit}
    (received : state.recv pointer socket answers = some (next, exit)) :
    next.Attended inHand ∧ ∃ after, next.sockets pointer = some after := by
  obtain ⟨⟨session, _⟩, -, packed⟩ := Option.bind_eq_some_iff.mp received
  obtain ⟨rfl, rfl⟩ := Prod.mk.inj (Option.some.inj packed)
  have set : (state.setSocket pointer { socket with readBuffer := session.buffer }).Attended
      inHand :=
    attended.other present (quiet_setSocket (@fdOf_of_socket _ _ socket present))
      (elsewhere_setSocket ..)
      ((attended.mirrored pointer socket present).setSocket rfl ⟨rfl, rfl⟩)
      (attention_setSocket present rfl)
  exact ⟨set.of_same set.consistent.of_queues rfl rfl rfl, _, Function.update_self ..⟩

/-- The task of a readable client. -/
theorem Attended.readTask (attended : state.Attended [.read pointer]) {answers : List RecvAnswer}
    (done : state.readTask pointer answers = some next) (intact : next.fault = none) :
    next.Attended [] := by
  cases present : state.sockets pointer with
  | none =>
      rw [ServerState.readTask, present] at done
      obtain rfl := Option.some.inj done
      cases intact
  | some socket =>
      rw [readTask_eq present] at done
      obtain ⟨⟨after, exit⟩, received, ended⟩ := Option.map_eq_some_iff.mp done
      obtain ⟨attended, _, isThere⟩ := attended.recv present received
      cases exit with
      | closed =>
          obtain rfl := ended
          exact attended.close isThere (Or.inr rfl)
      | finished =>
          obtain rfl := ended
          refine ⟨(quiet_ePollAddClientRead (fdOf_of_socket isThere)).consistent attended.consistent,
            attended.mirrored.shows attended.consistent isThere
              (elsewhere_ePollAddClientRead isThere)
              (attended.mirrored pointer _ isThere).ePollAddClientRead, ?_⟩
          rw [attention_ePollAddClientRead isThere]
          exact attended.kept.finishRead (reading_of_present isThere)
      | broken =>
          obtain rfl := ended
          cases intact

/-- The task of a writable client. -/
theorem Attended.writeTask (attended : state.Attended []) {answers : List SendAnswer}
    (done : state.writeTask pointer answers = some next) (intact : next.fault = none) :
    next.Attended [] := by
  cases present : state.sockets pointer with
  | none =>
      rw [ServerState.writeTask, present] at done
      obtain rfl := Option.some.inj done
      cases intact
  | some socket =>
      rw [ServerState.writeTask, present] at done
      obtain ⟨⟨after, closed⟩, sent, ended⟩ := Option.bind_eq_some_iff.mp done
      obtain ⟨attended, _, isThere⟩ := attended.send present sent
      obtain rfl := Option.some.inj ended
      cases closed with
      | true => exact attended.close isThere (Or.inl rfl)
      | false => exact attended.ePollAddClientWrite isThere

/-- `Write` leaves the object there. -/
theorem Attended.write (attended : state.Attended inHand) (present : state.sockets pointer = some socket)
    {task : SendTask} {answers : List SendAnswer} {closed : Bool}
    (written : state.write pointer socket task answers = some (next, closed)) :
    next.Attended inHand ∧ ∃ after, next.sockets pointer = some after := by
  by_cases room : socket.getSize4EmptyWrite < task.sendData.length
  · rw [ServerState.write, if_pos room] at written
    obtain ⟨-, same⟩ := Option.ite_none_right_eq_some.mp written
    obtain ⟨rfl, rfl⟩ := Prod.mk.inj (Option.some.inj same)
    exact ⟨attended, socket, present⟩
  · rw [write_eq room] at written
    have appended : Attended { state with
        appended := state.appended ++ [⟨pointer, task.queuedFor, task.answers⟩] } inHand :=
      attended.of_same attended.consistent.of_queues rfl rfl rfl
    have set : (state.append pointer socket task).Attended inHand :=
      appended.other present (quiet_setSocket (@fdOf_of_socket state _ socket present))
        (elsewhere_setSocket ..)
        ((appended.mirrored pointer socket present).setSocket rfl ⟨rfl, rfl⟩)
        (attention_setSocket present rfl)
    exact set.send (Function.update_self ..) written

/-- The task of `SendPackage`. -/
theorem Attended.sendTask (attended : state.Attended []) {task : SendTask} {answers : List SendAnswer}
    (done : state.sendTask task answers = some next) (intact : next.fault = none) :
    next.Attended [] := by
  unfold ServerState.sendTask at done
  split at done
  · obtain ⟨-, same⟩ := Option.ite_none_right_eq_some.mp done
    obtain rfl := Option.some.inj same
    exact attended
  next pointer entry =>
  split at done
  · obtain rfl := Option.some.inj done
    cases intact
  · next present =>
    obtain ⟨⟨after, closed⟩, written, ended⟩ := Option.bind_eq_some_iff.mp done
    obtain ⟨attended, _, isThere⟩ := attended.write present written
    obtain rfl := Option.some.inj ended
    have finished :
        (if closed then after.clientSocketCloseAndDelete pointer else after).Attended [] := by
      split
      · exact attended.close isThere (Or.inl rfl)
      · exact attended
    exact finished.of_same (quiet_counters.consistent finished.consistent) rfl rfl rfl

/-- A new client is registered for reading. -/
theorem Attended.connect (attended : state.Attended [.accept]) {cfd : Int} (free : state.fdFree cfd)
    (memory : SizedBytes readBufMaxSize) :
    (state.server4ClientConnectCallback cfd memory).Attended [.accept] where
  consistent :=
    (connected_server4ClientConnectCallback attended.consistent free memory).consistent
      attended.consistent free
  mirrored := by
    have unused := attended.consistent.fdOf_ne_of_fdFree free
    have unregistered : state.epoll cfd = none := by
      refine Option.eq_none_iff_forall_ne_some.mpr fun registration found => ?_
      exact unused _ (attended.consistent.registered cfd registration found)
    unfold server4ClientConnectCallback
    dsimp only
    generalize opened_eq : ({ state with
      sockets := Function.update state.sockets state.accepted (some (.create cfd memory))
      accepted := state.accepted + 1
      clientFdMap := Function.update state.clientFdMap cfd
        (some ((state.clientFdMap cfd).getD state.accepted))
      clientSocketCount := state.clientSocketCount + 1
      onlineUserMap := clientSocketState state.onlineUserMap cfd true } : ServerState) = opened
    have shows : opened.Shows state.accepted (.create cfd memory) := by
      subst opened_eq
      exact ⟨Function.update_self .., unregistered⟩
    have elsewhere : Elsewhere state opened state.accepted cfd := by
      subst opened_eq
      exact ⟨fun _ different => Function.update_of_ne different .., fun _ _ => rfl⟩
    have switched := elsewhere.trans (elsewhere_ePollAddClientRead shows.present)
    intro other found isThere
    by_cases here : other = state.accepted
    · subst here
      obtain rfl := Option.some.inj (shows.ePollAddClientRead.present.symm.trans isThere)
      exact shows.ePollAddClientRead
    · rw [switched.sockets other here] at isThere
      refine (attended.mirrored other found isThere).of_same (switched.sockets other here)
        (switched.epoll _ fun sameFd => unused other ?_)
      exact sameFd ▸ fdOf_of_socket isThere
  kept := by
    rw [attention_server4ClientConnectCallback]
    exact attended.kept.connect

/-- The task of the server's socket. -/
theorem Attended.acceptTask (attended : state.Attended [.accept])
    {clients : List (Int × SizedBytes readBufMaxSize)}
    (done : state.acceptTask clients = some next) : next.Attended [] := by
  obtain ⟨after, accepted, rfl⟩ := Option.map_eq_some_iff.mp done
  have connected : after.Attended [.accept] := by
    clear done
    induction clients generalizing state with
    | nil =>
        obtain rfl := Option.some.inj accepted
        exact attended
    | cons client rest inductionHypothesis =>
        obtain ⟨free, accepted⟩ := Option.ite_none_right_eq_some.mp accepted
        exact inductionHypothesis (attended.connect free client.2) accepted
  exact ⟨quiet_counters.consistent connected.consistent,
    fun pointer socket isThere => (connected.mirrored pointer socket isThere).of_same rfl rfl,
    connected.kept.listen⟩

/-- An event is for something that is registered for it. -/
theorem Attended.expects (attended : state.Attended []) {readiness : Readiness} {event : EpollEvent}
    (polled : state.epollEvent readiness = some event) : state.attention.Expects event := by
  unfold Attention.Expects
  cases readiness with
  | server =>
      obtain ⟨registered, same⟩ := Option.ite_none_right_eq_some.mp polled
      obtain rfl := Option.some.inj same
      exact registered
  | client cfd isRead isWrite =>
      obtain ⟨registration, found, -⟩ := Option.bind_eq_some_iff.mp polled
      have present := attended.consistent.registered cfd registration found
      obtain ⟨socket, isThere, rfl⟩ := fdOf_eq_some_iff.mp present
      have shows := attended.mirrored registration.pointer socket isThere
      rw [(shows.epollEvent polled).1]
      refine ⟨attended.consistent.accepted _ _ present, fun reads => ?_⟩
      rw [reading_of_present isThere, shows.epollEvent_read polled reads]
      exact Bool.noConfusion ∘ Option.some.inj

/-- An event of a client is for the object that has its fd. -/
theorem source_of_client (consistent : state.Consistent) {isRead isWrite : Bool} {event : EpollEvent}
    (polled : state.epollEvent (.client cfd isRead isWrite) = some event) :
    ∃ pointer, event.source = .client pointer ∧ state.fdOf pointer = some cfd := by
  obtain ⟨registration, found, made⟩ := Option.bind_eq_some_iff.mp polled
  obtain ⟨-, same⟩ := Option.ite_none_right_eq_some.mp made
  obtain rfl := Option.some.inj same
  exact ⟨registration.pointer, rfl, consistent.registered cfd registration found⟩

/-- Two events are for two objects. -/
theorem source_ne (consistent : state.Consistent) {readiness other : Readiness}
    {event otherEvent : EpollEvent} (polled : state.epollEvent readiness = some event)
    (otherPolled : state.epollEvent other = some otherEvent)
    (different : readiness.cfd ≠ other.cfd) : event.source ≠ otherEvent.source := by
  have server : ∀ {event : EpollEvent}, state.epollEvent .server = some event →
      event.source = .server := by
    intro event polled
    obtain ⟨-, same⟩ := Option.ite_none_right_eq_some.mp polled
    rw [← Option.some.inj same]
  cases readiness with
  | server =>
      cases other with
      | server => exact absurd rfl different
      | client cfd isRead isWrite =>
          obtain ⟨pointer, source, -⟩ := source_of_client consistent otherPolled
          simp [server polled, source]
  | client cfd isRead isWrite =>
      obtain ⟨pointer, source, present⟩ := source_of_client consistent polled
      cases other with
      | server => simp [server otherPolled, source]
      | client otherCfd isRead isWrite =>
          obtain ⟨otherPointer, otherSource, otherPresent⟩ :=
            source_of_client consistent otherPolled
          rw [source, otherSource]
          rintro ⟨⟩
          exact different (present.symm.trans otherPresent)

/-- One `epoll_wait` returns at most one event for each object. -/
theorem nodup_sources (consistent : state.Consistent) {ready : List Readiness}
    (once : (ready.map Readiness.cfd).Nodup) :
    ((ready.filterMap state.epollEvent).map EpollEvent.source).Nodup := by
  rw [List.Nodup, List.pairwise_map, List.pairwise_filterMap]
  exact (List.pairwise_map.mp once).imp fun different _ polled _ otherPolled =>
    source_ne consistent polled otherPolled different

/-- `epoll_wait` returns. -/
theorem Attended.wait (attended : state.Attended []) {ready : List Readiness}
    (once : (ready.map Readiness.cfd).Nodup) :
    Attended { state with fetched := ready.filterMap state.epollEvent } [] where
  consistent := attended.consistent.of_queues
  mirrored pointer socket isThere := (attended.mirrored pointer socket isThere).of_same rfl rfl
  kept := by
    have kept := attended.kept
    refine ⟨kept.reads, kept.accepts, kept.fresh, fun event member => ?_, ?_, kept.count⟩
    · obtain ⟨readiness, -, polled⟩ := List.mem_filterMap.mp member
      exact attended.expects polled
    · exact nodup_sources attended.consistent once

/-- The callback of the epoll loop. -/
theorem Attended.callback (attended : state.Attended []) {event : EpollEvent}
    {rest : List EpollEvent} (fetched : state.fetched = event :: rest)
    (intact : ({ state with fetched := rest }.epoll4EventCallback event).fault = none) :
    ({ state with fetched := rest }.epoll4EventCallback event).Attended [] := by
  obtain ⟨consistent, mirrored, kept⟩ := attended
  have reported : (state.attention.report event rest).Kept := kept.report fetched
  have taken : ({ state with fetched := rest } : ServerState).Consistent := consistent.of_queues
  have takenMirrored : ({ state with fetched := rest } : ServerState).Mirrored :=
    fun pointer socket isThere => (mirrored pointer socket isThere).of_same rfl rfl
  unfold epoll4EventCallback at intact ⊢
  unfold Attention.report at reported
  cases source : event.source with
  | server =>
      simp only [source] at reported ⊢
      refine ⟨⟨consistent.entries, consistent.registered, consistent.accepted⟩,
        fun pointer socket isThere => (mirrored pointer socket isThere).of_same rfl rfl, ?_⟩
      rw [List.foldl_nil, attention_addSocketTask]
      exact reported
  | client pointer =>
      simp only [source] at intact reported ⊢
      split
      · next isRead =>
        rw [if_pos isRead] at intact reported
        cases present : ({ state with fetched := rest } : ServerState).sockets pointer with
        | none =>
            rw [ePollDelClientRead, ePollSwitch_of_absent present] at intact
            cases intact
        | some socket =>
            have switched := (quiet_ePollDelClientRead (fdOf_of_socket present)).consistent taken
            have shown := takenMirrored.shows taken present (elsewhere_ePollDelClientRead present)
              (takenMirrored pointer socket present).ePollDelClientRead
            refine ⟨switched.of_queues, fun other found isThere =>
              (shown other found isThere).of_same rfl rfl, ?_⟩
            rw [List.foldl_nil, attention_addSocketTask, attention_ePollDelClientRead present]
            have was : (state.attention.reading pointer).map (fun _ => false) = some false := by
              rw [@reading_of_present state pointer socket present, Option.map_some]
            rw [was] at reported
            exact reported
      · next notRead =>
        rw [if_neg notRead] at intact reported
        split
        · next isWrite =>
          rw [if_pos isWrite] at intact
          cases present : ({ state with fetched := rest } : ServerState).sockets pointer with
          | none =>
              rw [ePollDelClientWrite, ePollSwitch_of_absent present] at intact
              cases intact
          | some socket =>
              have others : ({ state with fetched := rest } : ServerState).Attended [] :=
                ⟨taken, takenMirrored, reported⟩
              have switched := others.other present
                (quiet_ePollDelClientWrite (fdOf_of_socket present))
                (elsewhere_ePollDelClientWrite present)
                (takenMirrored pointer socket present).ePollDelClientWrite
                (attention_ePollDelClientWrite present)
              refine switched.of_same switched.consistent.of_queues rfl rfl ?_
              rw [attention_addSocketTask]
              rfl
        · exact ⟨taken, takenMirrored, reported⟩

/-- The handlers leave the objects and their registrations as they are. -/
theorem handleTask_sockets_epoll (state : ServerState) (pack : DataPack) (memory : Memory)
    (queries : Queries) :
    (state.handleTask pack memory queries).sockets = state.sockets ∧
      (state.handleTask pack memory queries).epoll = state.epoll :=
  ⟨observe_handleTask (fun _ _ => rfl) (fun _ _ => rfl) (fun _ _ => rfl) ..,
    observe_handleTask (fun _ _ => rfl) (fun _ _ => rfl) (fun _ _ => rfl) ..⟩

/-- Every step. -/
theorem Attended.step (attended : state.Attended []) {event : ServerEvent}
    (stepped : state.step event = some next) (intact : next.fault = none) : next.Attended [] := by
  unfold ServerState.step at stepped
  split at stepped
  · cases stepped
  cases event with
  | wait ready =>
      obtain ⟨⟨-, -, once, -⟩, same⟩ := Option.ite_none_right_eq_some.mp stepped
      obtain rfl := Option.some.inj same
      exact attended.wait once
  | callback =>
      dsimp only at stepped
      split at stepped
      · cases stepped
      · next event rest fetched =>
        obtain rfl := Option.some.inj stepped
        exact attended.callback fetched intact
  | run index answers =>
      obtain ⟨task, queued, done⟩ := Option.bind_eq_some_iff.mp stepped
      have taken : Attended { state with socketTasks := state.socketTasks.eraseIdx index } [task] :=
        ⟨attended.consistent.of_queues,
          fun pointer socket isThere => (attended.mirrored pointer socket isThere).of_same rfl rfl,
          by
            have kept : state.attention.Kept := attended.kept
            rw [attention_eraseIdx queued] at kept
            exact kept⟩
      cases answers with
      | accepts clients =>
          cases task with
          | accept => exact taken.acceptTask done
          | read | write | send => cases done
      | recvs answers =>
          cases task with
          | read pointer => exact taken.readTask done intact
          | accept | write | send => cases done
      | sends answers =>
          cases task with
          | write pointer =>
              exact writeTask ⟨taken.consistent, taken.mirrored, taken.kept⟩ done intact
          | send task =>
              exact sendTask ⟨taken.consistent, taken.mirrored, taken.kept⟩ done intact
          | accept | read => cases done
  | handle index memory queries =>
      obtain ⟨pack, queued, done⟩ := Option.bind_eq_some_iff.mp stepped
      obtain rfl := Option.some.inj done
      have handled := handleTask_sockets_epoll
        { state with dataTasks := state.dataTasks.eraseIdx index } pack memory queries
      exact attended.of_same (effect_handle attended.consistent memory queries queued).consistent
        handled.1 handled.2 (attention_handleTask ..)
  | clientSocketClose cfd =>
      obtain rfl := Option.some.inj stepped
      unfold ServerState.clientSocketClose
      split
      · exact attended
      · next pointer entry =>
        obtain ⟨socket, isThere, -⟩ :=
          fdOf_eq_some_iff.mp ((attended.consistent.entries cfd pointer).mp entry)
        exact attended.close isThere (Or.inl rfl)

/-! ## The runs -/

/-- The server's socket is registered, and there is no client. -/
theorem attended_start : start.Attended [] where
  consistent := consistent_start
  mirrored _ _ isThere := by cases isThere
  kept :=
    ⟨fun _ _ isThere => (by cases isThere), rfl, fun _ _ => ⟨rfl, rfl⟩,
      fun _ member => absurd member List.not_mem_nil, List.nodup_nil, rfl⟩

/-- A fault ends the run, so that there was none before. -/
theorem intact_of_step {event : ServerEvent} (stepped : state.step event = some next) :
    state.fault = none := by
  by_contra fault
  unfold step at stepped
  rw [if_pos fault] at stepped
  cases stepped

theorem attended_of_reachable (reachable : serverSystem.Reachable state)
    (intact : state.fault = none) : state.Attended [] :=
  @LabelledSystem.Reachable.invariant ServerState ServerEvent start state step
    (fun state => state.fault = none → state.Attended []) reachable (fun _ => attended_start)
    (fun _ _ _ attended stepped intact => (attended (intact_of_step stepped)).step stepped intact)
    intact

/-- `epoll_wait` reports when there is something to read from the client. -/
def Listens (state : ServerState) (pointer : Nat) (cfd : Int) : Prop :=
  ∃ registration, state.epoll cfd = some registration ∧ registration.pointer = pointer ∧
    registration.isRead = true

/-- A client whose flag is set, and no other, is listened to. -/
theorem Shows.listens_iff (shows : state.Shows pointer socket) :
    state.Listens pointer socket.cfd ↔ socket.cfdIsRead = true := by
  unfold Listens
  rw [shows.registered]
  unfold ClientSocket.registration
  constructor
  · rintro ⟨registration, found, -, isRead⟩
    obtain ⟨-, same⟩ := Option.ite_none_right_eq_some.mp found
    obtain rfl := Option.some.inj same
    exact isRead
  · intro isRead
    exact ⟨_, if_pos (Or.inl isRead), rfl, isRead⟩

/-- One of two. -/
def Either (registered : Prop) (tasks : Nat) : Prop :=
  registered ∧ tasks = 0 ∨ ¬ registered ∧ tasks = 1

theorem either_of_sum {flag : Bool} {tasks : Nat} (sum : tasks + flag.toNat = 1) :
    Either (flag = true) tasks := by
  cases flag with
  | true => exact Or.inl ⟨rfl, by simpa using sum⟩
  | false => exact Or.inr ⟨Bool.noConfusion, by simpa using sum⟩

/-- Whatever the clients do and in whatever order the tasks run: the server's socket and every
client are waited for or have exactly one task that will see to it, nobody else is waited for,
and the server counts the clients that are there. -/
theorem nobody_forgotten (reachable : serverSystem.Reachable state) (intact : state.fault = none) :
    Either (state.serverRegistered = true) (state.socketTasks.count .accept) ∧
      (∀ pointer socket, state.sockets pointer = some socket →
        Either (state.Listens pointer socket.cfd) (state.socketTasks.count (.read pointer))) ∧
      (∀ cfd registration, state.epoll cfd = some registration →
        ∃ socket, state.sockets registration.pointer = some socket ∧ socket.cfd = cfd) ∧
      state.clientSocketCount =
        (List.range state.accepted).countP fun pointer => (state.sockets pointer).isSome := by
  obtain ⟨consistent, mirrored, kept⟩ := attended_of_reachable reachable intact
  refine ⟨either_of_sum kept.accepts, fun pointer socket isThere => ?_,
    fun cfd registration found => fdOf_eq_some_iff.mp (consistent.registered cfd registration found),
    ?_⟩
  · have sum := kept.reads pointer socket.cfdIsRead (reading_of_present isThere)
    have either := either_of_sum sum
    rw [← (mirrored pointer socket isThere).listens_iff] at either
    exact either
  · refine kept.count.trans (congrArg Nat.cast (List.countP_congr fun pointer _ => ?_))
    simp [attention]

/-- Two clients are connected, and one of them has sent something that has not been read yet. -/
def busyEvents : List ServerEvent :=
  connectEvents ++ [.wait [.server], .callback, .run 0 (.accepts [(21, zeroMemory)]),
    .wait [.client 20 true false], .callback]

/-- It has a task, and the other is waited for. -/
theorem busy_attended :
    ∃ state, serverSystem.Reachable state ∧ state.socketTasks = [.read 0] ∧
      state.Listens 1 21 ∧ ¬ state.Listens 0 20 ∧ state.clientSocketCount = 2 := by
  have followed : ∃ state, LabelledSystem.follow step (fun _ _ _ => True) start busyEvents =
      some state ∧ state.fault = none ∧ state.socketTasks = [.read 0] ∧ state.accepted = 2 ∧
        (state.sockets 0).map ClientSocket.cfd = some 20 ∧
        (state.sockets 1).map ClientSocket.cfd = some 21 :=
    ⟨_, rfl, rfl, rfl, rfl, rfl, rfl⟩
  obtain ⟨state, followed, intact, tasks, accepted, first, second⟩ := followed
  obtain ⟨socket, isThere, cfd⟩ := Option.map_eq_some_iff.mp first
  obtain ⟨other, otherIsThere, otherCfd⟩ := Option.map_eq_some_iff.mp second
  have reachable : serverSystem.Reachable state :=
    ⟨_, LabelledSystem.runs_of_follow followed⟩
  obtain ⟨-, clients, -, count⟩ := nobody_forgotten reachable intact
  have reading := clients 0 socket isThere
  have waiting := clients 1 other otherIsThere
  rw [tasks, cfd] at reading
  rw [tasks, otherCfd] at waiting
  refine ⟨state, reachable, tasks, ?_, ?_, ?_⟩
  · exact waiting.resolve_right (fun task => absurd task.2 (by decide)) |>.1
  · exact reading.resolve_left (fun none => absurd none.2 (by decide)) |>.1
  · rw [count, accepted, List.range_succ, List.range_succ, List.range_zero]
    simp [isThere, otherIsThere]

end ServerState

end SocketMessage.Server
