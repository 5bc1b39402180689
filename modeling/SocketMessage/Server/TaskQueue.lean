import SocketMessage.Server.Delivery
import SocketMessage.Server.WriteInterest

/-!
# What a step queues and what it appends

Tasks are put at the end of the queue of `SocketControl`, by the callback of the epoll loop
and by `SendPackage`, and a task leaves the queue when it runs. Only the task of
`SendPackage` appends to a write buffer, of the connection that its fd names then and if
there is room.
-/

namespace SocketMessage.Server

open SocketMessage.Lib SocketMessage.Frame SocketMessage.Wire

namespace ServerState

/-- The connection to whose write buffer a task of `SendPackage` appends now, if any. -/
def appendsTo (state : ServerState) (task : SendTask) : Option Nat := do
  let pointer ← state.clientFdMap task.cfd
  let socket ← state.sockets pointer
  if socket.getSize4EmptyWrite < task.sendData.length then none else some pointer

/-- What running a task appends. -/
def appendedBy (state : ServerState) : SocketTask → List Appended
  | .send task => (state.appendsTo task).toList.map fun pointer =>
      ⟨pointer, task.queuedFor, task.answers⟩
  | _ => []

/-- The fd leads to a connection with so much room in its write buffer. -/
def RoomFor (state : ServerState) (cfd : Int) (size : Nat) : Prop :=
  ∃ pointer socket, state.clientFdMap cfd = some pointer ∧ state.sockets pointer = some socket ∧
    socket.writeBuffer.length + size ≤ writeBufMaxSize

variable {state next : ServerState} {pointer : Nat} {socket : ClientSocket}

/-! ## Room -/

/-- A task appends its data exactly when its fd leads to a connection with room for it. -/
theorem appendsTo_isSome_iff {task : SendTask} :
    (state.appendsTo task).isSome ↔ state.RoomFor task.cfd task.sendData.length := by
  unfold appendsTo RoomFor
  cases state.clientFdMap task.cfd with
  | none => simp
  | some pointer =>
      cases present : state.sockets pointer with
      | none => simp [present]
      | some socket =>
          have room : (socket.getSize4EmptyWrite < task.sendData.length) ↔
              ¬ socket.writeBuffer.length + task.sendData.length ≤ writeBufMaxSize := by
            simp only [ClientSocket.getSize4EmptyWrite]
            omega
          simp [present, room]

/-- It appends it to the connection that its fd names. -/
theorem appendsTo_eq_some_iff {task : SendTask} :
    state.appendsTo task = some pointer ↔
      state.RoomFor task.cfd task.sendData.length ∧ state.clientFdMap task.cfd = some pointer := by
  have named : ∀ {other : Nat}, state.appendsTo task = some other →
      state.clientFdMap task.cfd = some other := by
    intro other appends
    obtain ⟨found, entry, appends⟩ := Option.bind_eq_some_iff.mp appends
    obtain ⟨socket, -, appends⟩ := Option.bind_eq_some_iff.mp appends
    obtain ⟨-, same⟩ := Option.ite_none_left_eq_some.mp appends
    obtain rfl := Option.some.inj same
    exact entry
  rw [← appendsTo_isSome_iff]
  constructor
  · exact fun appends => ⟨appends ▸ rfl, named appends⟩
  · rintro ⟨some, entry⟩
    obtain ⟨other, appends⟩ := Option.isSome_iff_exists.mp some
    obtain rfl := Option.some.inj ((named appends).symm.trans entry)
    exact appends

/-- `SendPackage` takes data for whose frame there is room. -/
theorem sendPackage_of_room {cfd : Int} {data : List Byte}
    (room : state.RoomFor cfd (4 + data.length)) (answers : Option Nat) :
    ∃ pointer, state.clientFdMap cfd = some pointer ∧ state.sendPackage cfd data answers =
      state.addSocketTask (.send ⟨cfd, frame data, pointer, answers⟩) := by
  obtain ⟨pointer, socket, entry, present, fits⟩ := room
  simp only [writeBufMaxSize] at fits
  have size : int32 (socketHeadSize + data.length) = 4 + data.length :=
    int32_eq_self (by simp only [socketHeadSize]; omega) (by simp only [socketHeadSize]; omega)
  refine ⟨pointer, entry, ?_⟩
  have notRefused : ¬ socket.getSize4EmptyWrite < int32 (socketHeadSize + data.length) := by
    simp only [size, ClientSocket.getSize4EmptyWrite, writeBufMaxSize]
    omega
  have notNegative : ¬ int32 (socketHeadSize + data.length) < 0 := by
    rw [size]
    omega
  simp only [sendPackage, entry, withSocket_of_present present]
  rw [if_neg notRefused, if_neg notNegative]

/-- `SendPackage` queues nothing when there is no room. -/
theorem socketTasks_of_no_room {cfd : Int} {data : List Byte} (small : data.length < 2 ^ 31)
    (noRoom : ¬ state.RoomFor cfd (4 + data.length)) (answers : Option Nat) :
    (state.sendPackage cfd data answers).socketTasks = state.socketTasks := by
  unfold sendPackage withSocket
  cases entry : state.clientFdMap cfd with
  | none => rfl
  | some pointer =>
      cases present : state.sockets pointer with
      | none => simp [present, fail]
      | some socket =>
          have full : ¬ socket.writeBuffer.length + (4 + data.length) ≤ writeBufMaxSize :=
            fun fits => noRoom ⟨pointer, socket, entry, present, fits⟩
          simp only [writeBufMaxSize] at full
          simp only [present]
          by_cases inRange : 4 + data.length < 2 ^ 31
          · have size : int32 (socketHeadSize + data.length) = 4 + data.length :=
              int32_eq_self (by simp only [socketHeadSize]; omega)
                (by simp only [socketHeadSize]; omega)
            have refused : socket.getSize4EmptyWrite < int32 (socketHeadSize + data.length) := by
              simp only [size, ClientSocket.getSize4EmptyWrite, writeBufMaxSize]
              omega
            rw [if_pos refused]
          · have size : int32 (socketHeadSize + data.length) = 4 + data.length - 2 ^ 32 :=
              int32_eq_sub (by simp only [socketHeadSize]; omega)
                (by simp only [socketHeadSize]; omega)
            have negative : int32 (socketHeadSize + data.length) < 0 := by
              rw [size]
              omega
            rw [if_pos negative]
            split <;> rfl

/-! ## Running a task -/

/-- Accepting queues and appends nothing. -/
theorem queue_acceptClients (consistent : state.Consistent)
    {clients : List (Int × SizedBytes readBufMaxSize)}
    (accepted : state.acceptClients clients = some next) :
    next.socketTasks = state.socketTasks ∧ next.appended = state.appended := by
  induction clients generalizing state with
  | nil =>
      obtain rfl := Option.some.inj accepted
      exact ⟨rfl, rfl⟩
  | cons client rest inductionHypothesis =>
      obtain ⟨free, accepted⟩ := Option.ite_none_right_eq_some.mp accepted
      have connected := connected_server4ClientConnectCallback consistent free client.2
      obtain ⟨socketTasks, appended⟩ :=
        inductionHypothesis (connected.consistent consistent free) accepted
      exact ⟨socketTasks.trans connected.socketTasks, appended.trans connected.appended⟩

/-- Closing a connection queues and appends nothing. -/
theorem queue_close (consistent : state.Consistent) {cfd : Int}
    (present : state.fdOf pointer = some cfd) :
    (state.clientSocketCloseAndDelete pointer).socketTasks = state.socketTasks ∧
      (state.clientSocketCloseAndDelete pointer).appended = state.appended :=
  ⟨(deleted_clientSocketCloseAndDelete consistent present).socketTasks,
    (deleted_clientSocketCloseAndDelete consistent present).appended⟩

/-- `Recv` queues packages for the handlers, and leaves the object there. -/
theorem queue_recv (consistent : state.Consistent) (present : state.sockets pointer = some socket)
    {answers : List RecvAnswer} {exit : RecvExit}
    (received : state.recv pointer socket answers = some (next, exit)) :
    next.Consistent ∧ next.fdOf pointer = some socket.cfd ∧
      next.socketTasks = state.socketTasks ∧ next.appended = state.appended := by
  obtain ⟨⟨session, _⟩, -, packed⟩ := Option.bind_eq_some_iff.mp received
  obtain ⟨rfl, rfl⟩ := Prod.mk.inj (Option.some.inj packed)
  have isThere := fdOf_of_socket present
  have set := @quiet_setSocket state pointer { socket with readBuffer := session.buffer } isThere
  rw [← set.fdOf] at isThere
  exact ⟨(set.consistent consistent).of_queues, isThere, rfl, rfl⟩

/-- The task of a readable client queues and appends nothing. -/
theorem queue_readTask (consistent : state.Consistent) {answers : List RecvAnswer}
    (done : state.readTask pointer answers = some next) :
    next.socketTasks = state.socketTasks ∧ next.appended = state.appended := by
  cases present : state.sockets pointer with
  | none =>
      rw [readTask, present] at done
      obtain rfl := Option.some.inj done
      exact ⟨rfl, rfl⟩
  | some socket =>
      rw [readTask_eq present] at done
      obtain ⟨⟨received, exit⟩, receiving, ended⟩ := Option.map_eq_some_iff.mp done
      obtain ⟨stillConsistent, isThere, socketTasks, appended⟩ :=
        queue_recv consistent present receiving
      cases exit with
      | closed =>
          obtain rfl := ended
          obtain ⟨sameTasks, sameAppended⟩ := queue_close stillConsistent isThere
          exact ⟨sameTasks.trans socketTasks, sameAppended.trans appended⟩
      | finished =>
          obtain rfl := ended
          have added := quiet_ePollAddClientRead isThere
          exact ⟨added.socketTasks.trans socketTasks, added.appended.trans appended⟩
      | broken =>
          obtain rfl := ended
          exact ⟨socketTasks, appended⟩

/-- After `Send`, the connection is closed or not. -/
theorem queue_close_of_quiet (consistent : state.Consistent)
    (present : state.fdOf pointer = some socket.cfd) {sent : ServerState}
    (quiet : Quiet state sent) :
    (sent.clientSocketCloseAndDelete pointer).socketTasks = state.socketTasks ∧
      (sent.clientSocketCloseAndDelete pointer).appended = state.appended := by
  have stillThere := present
  rw [← quiet.fdOf] at stillThere
  obtain ⟨socketTasks, appended⟩ := queue_close (quiet.consistent consistent) stillThere
  exact ⟨socketTasks.trans quiet.socketTasks, appended.trans quiet.appended⟩

/-- The task of a writable client queues and appends nothing. -/
theorem queue_writeTask (consistent : state.Consistent) {answers : List SendAnswer}
    (done : state.writeTask pointer answers = some next) :
    next.socketTasks = state.socketTasks ∧ next.appended = state.appended := by
  cases present : state.sockets pointer with
  | none =>
      rw [writeTask, present] at done
      obtain rfl := Option.some.inj done
      exact ⟨rfl, rfl⟩
  | some socket =>
      rw [writeTask, present] at done
      obtain ⟨⟨sent, closed⟩, sending, ended⟩ := Option.bind_eq_some_iff.mp done
      obtain ⟨quiet, -⟩ := quiet_send (fdOf_of_socket present) sending
      have stillThere := fdOf_of_socket present
      rw [← quiet.fdOf] at stillThere
      obtain rfl := Option.some.inj ended
      cases closed with
      | true => exact queue_close_of_quiet consistent (fdOf_of_socket present) quiet
      | false =>
          have added := quiet.trans (quiet_ePollAddClientWrite stillThere)
          exact ⟨added.socketTasks, added.appended⟩

/-- The task of `SendPackage` queues nothing, and appends where its fd leads if there is room. -/
theorem queue_sendTask (consistent : state.Consistent) {task : SendTask}
    {answers : List SendAnswer} (done : state.sendTask task answers = some next) :
    next.socketTasks = state.socketTasks ∧
      next.appended = state.appended ++ state.appendedBy (.send task) := by
  unfold sendTask at done
  cases entry : state.clientFdMap task.cfd with
  | none =>
      simp only [entry] at done
      obtain ⟨-, same⟩ := Option.ite_none_right_eq_some.mp done
      obtain rfl := Option.some.inj same
      simp [appendedBy, appendsTo, entry]
  | some pointer =>
      obtain ⟨socket, present, -⟩ := fdOf_eq_some_iff.mp ((consistent.entries _ _).mp entry)
      simp only [entry, present] at done
      obtain ⟨⟨written, closed⟩, writing, ended⟩ := Option.bind_eq_some_iff.mp done
      obtain rfl := Option.some.inj ended
      have isThere := fdOf_of_socket present
      by_cases room : socket.getSize4EmptyWrite < task.sendData.length
      · rw [write, if_pos room] at writing
        obtain ⟨-, same⟩ := Option.ite_none_right_eq_some.mp writing
        obtain ⟨rfl, rfl⟩ := Prod.mk.inj (Option.some.inj same)
        simp [appendedBy, appendsTo, entry, present, room]
      · have appends : state.appendedBy (.send task) =
            [⟨pointer, task.queuedFor, task.answers⟩] := by
          simp [appendedBy, appendsTo, entry, present, room]
        rw [write, if_neg room] at writing
        obtain ⟨quiet, -⟩ := quiet_send (by exact isThere) writing
        rw [appends]
        cases closed with
        | true =>
            have closes := queue_close_of_quiet consistent.of_queues (by exact isThere) quiet
            exact closes
        | false => exact ⟨quiet.socketTasks, quiet.appended⟩

/-- Whatever task runs, it queues nothing, and only the task of `SendPackage` appends. -/
theorem queue_runTask (consistent : state.Consistent) {task : SocketTask} {answers : KernelAnswers}
    (done : state.runTask task answers = some next) :
    next.socketTasks = state.socketTasks ∧
      next.appended = state.appended ++ state.appendedBy task := by
  have nothing : ∀ list : List Appended, list = list ++ [] := fun list => (List.append_nil list).symm
  cases answers with
  | accepts clients =>
      cases task with
      | accept =>
          obtain ⟨accepted, accepting, rfl⟩ := Option.map_eq_some_iff.mp done
          obtain ⟨socketTasks, appended⟩ := queue_acceptClients consistent accepting
          exact ⟨socketTasks, appended.trans (nothing _)⟩
      | read | write | send => cases done
  | recvs answers =>
      cases task with
      | read pointer =>
          obtain ⟨socketTasks, appended⟩ := queue_readTask consistent done
          exact ⟨socketTasks, appended.trans (nothing _)⟩
      | accept | write | send => cases done
  | sends answers =>
      cases task with
      | write pointer =>
          obtain ⟨socketTasks, appended⟩ := queue_writeTask consistent done
          exact ⟨socketTasks, appended.trans (nothing _)⟩
      | send task => exact queue_sendTask consistent done
      | accept | read => cases done

/-- A task leaves the queue when it runs. -/
theorem queue_run (consistent : state.Consistent) {index : Nat} {answers : KernelAnswers}
    (stepped : state.step (.run index answers) = some next) :
    ∃ task, state.socketTasks[index]? = some task ∧
      next.socketTasks = state.socketTasks.eraseIdx index ∧
      next.appended = state.appended ++ state.appendedBy task := by
  unfold step at stepped
  split at stepped
  · cases stepped
  · obtain ⟨task, queued, done⟩ := Option.bind_eq_some_iff.mp stepped
    obtain ⟨socketTasks, appended⟩ := queue_runTask consistent.of_queues done
    exact ⟨task, queued, socketTasks, appended⟩

/-! ## Queueing -/

/-- The tasks of some kind that a step has put at the end of the queue. -/
def Queues (allowed : SocketTask → Prop) (before after : ServerState) : Prop :=
  ∃ tasks, after.socketTasks = before.socketTasks ++ tasks ∧ ∀ task ∈ tasks, allowed task

variable {allowed : SocketTask → Prop}

theorem queues_of_eq {before after : ServerState} (same : after.socketTasks = before.socketTasks) :
    Queues allowed before after :=
  ⟨[], by rw [same, List.append_nil], nofun⟩

theorem queues_addSocketTask {before after : ServerState} {task : SocketTask}
    (same : after.socketTasks = before.socketTasks) (isAllowed : allowed task) :
    Queues allowed before (after.addSocketTask task) :=
  ⟨[task], by rw [addSocketTask, same], fun _ member => List.mem_singleton.mp member ▸ isAllowed⟩

theorem Queues.trans {first middle last : ServerState} (before : Queues allowed first middle)
    (after : Queues allowed middle last) : Queues allowed first last := by
  obtain ⟨tasks, queued, allowedFirst⟩ := before
  obtain ⟨more, queuedLater, allowedLater⟩ := after
  refine ⟨tasks ++ more, by rw [queuedLater, queued, List.append_assoc], fun task member => ?_⟩
  exact (List.mem_append.mp member).elim (allowedFirst task) (allowedLater task)

/-- `SendPackage` queues a task that says what its data answers. -/
theorem queues_sendPackage (state : ServerState) (cfd : Int) (data : List Byte)
    (answers : Option Nat)
    (isAllowed : ∀ queuedFor, allowed (.send ⟨cfd, frame data, queuedFor, answers⟩)) :
    Queues allowed state (state.sendPackage cfd data answers) := by
  simp only [sendPackage, withSocket]
  split
  · exact queues_of_eq rfl
  · split
    · exact queues_of_eq rfl
    · split
      · exact queues_of_eq rfl
      · split
        · exact queues_of_eq rfl
        · exact queues_addSocketTask rfl (isAllowed _)

/-- What the calls of a handler queue. -/
theorem queues_runActions {pack : DataPack} {actions : List HandlerAction} {state : ServerState}
    (acts : ∀ action ∈ actions, ∀ state : ServerState,
      Queues allowed state (state.act pack action)) :
    Queues allowed state (runActions pack state actions) := by
  induction actions generalizing state with
  | nil => exact queues_of_eq rfl
  | cons action rest inductionHypothesis =>
      have first := acts action List.mem_cons_self state
      rw [runActions]
      split
      · exact first.trans
          (inductionHypothesis fun later member => acts later (List.mem_cons_of_mem _ member))
      · exact first

/-- A call of a handler queues tasks of `SendPackage`; an answer's say whose package it is. -/
theorem queues_act {pack : DataPack} {action : HandlerAction} (state : ServerState)
    (answer : ∀ data task, action = .answer data → task.answers = some pack.origin →
      allowed (.send task))
    (relay : ∀ userId data task, action = .relay userId data → allowed (.send task)) :
    Queues allowed state (state.act pack action) := by
  cases action with
  | answer data => exact queues_sendPackage _ _ _ _ fun _ => answer data _ rfl rfl
  | clientOpen userId => exact queues_of_eq rfl
  | relay userId data =>
      simp only [act]
      split
      · exact queues_sendPackage _ _ _ _ fun _ => relay userId data _ rfl
      · exact queues_of_eq rfl
  | fail => exact queues_of_eq rfl

/-- The callback of the epoll loop queues at most one task, and not of `SendPackage`. -/
theorem queues_epoll4EventCallback (state : ServerState) (event : EpollEvent)
    (isAllowed : ∀ task, task.sendCfd = none → allowed task) :
    Queues allowed state (state.epoll4EventCallback event) := by
  have switched : ∀ (pointer : Nat) (after : ServerState → Nat → ServerState),
      (∀ state cfd, state.fdOf pointer = some cfd → Quiet state (after state pointer)) →
      (∀ state, state.sockets pointer = none → after state pointer = state.fail .usedDeleted) →
      (after state pointer).socketTasks = state.socketTasks := by
    intro pointer after quiet absent
    cases present : state.sockets pointer with
    | none => rw [absent state present, fail]
    | some socket => exact (quiet state _ (fdOf_of_socket present)).socketTasks
  unfold epoll4EventCallback
  split
  · exact queues_addSocketTask rfl (isAllowed _ rfl)
  · next pointer _ =>
    split
    · exact queues_addSocketTask (switched pointer ePollDelClientRead
        (fun _ _ => quiet_ePollDelClientRead) fun _ => ePollSwitch_of_absent) (isAllowed _ rfl)
    split
    · exact queues_addSocketTask (switched pointer ePollDelClientWrite
        (fun _ _ => quiet_ePollDelClientWrite) fun _ => ePollSwitch_of_absent) (isAllowed _ rfl)
    · exact queues_of_eq rfl

/-- A step that runs no task queues what its handler sends, and otherwise no package. -/
theorem queues_step (consistent : state.Consistent) {event : ServerEvent}
    (stepped : state.step event = some next) (noTask : ∀ index answers, event ≠ .run index answers)
    (reported : event = .callback → ∀ task, task.sendCfd = none → allowed task)
    (handled : ∀ index memory queries pack request, event = .handle index memory queries →
      state.dataTasks[index]? = some pack → threadWork memory pack.data = .decoded request →
      ∀ action ∈ handle queries request, ∀ state : ServerState,
        Queues allowed state (state.act pack action)) :
    Queues allowed state next := by
  unfold step at stepped
  split at stepped
  · cases stepped
  cases event with
  | wait ready =>
      obtain ⟨-, same⟩ := Option.ite_none_right_eq_some.mp stepped
      obtain rfl := Option.some.inj same
      exact queues_of_eq rfl
  | callback =>
      dsimp only at stepped
      split at stepped
      · cases stepped
      · next event rest _ =>
        obtain rfl := Option.some.inj stepped
        exact queues_epoll4EventCallback { state with fetched := rest } event (reported rfl)
  | run index answers => exact absurd rfl (noTask index answers)
  | handle index memory queries =>
      obtain ⟨pack, taken, done⟩ := Option.bind_eq_some_iff.mp stepped
      obtain rfl := Option.some.inj done
      unfold handleTask
      split
      · exact queues_of_eq rfl
      · exact queues_of_eq rfl
      · next request decoded =>
        have acted := @queues_runActions allowed pack (Server.handle queries request)
          { state with dataTasks := state.dataTasks.eraseIdx index }
          (handled index memory queries pack request rfl taken decoded)
        exact acted
  | clientSocketClose cfd =>
      obtain rfl := Option.some.inj stepped
      unfold clientSocketClose
      split
      · exact queues_of_eq rfl
      · next pointer entry =>
        exact queues_of_eq
          (queue_close consistent ((consistent.entries cfd pointer).mp entry)).1

end ServerState

end SocketMessage.Server
