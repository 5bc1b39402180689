import SocketMessage.Server.Registered

/-!
# Who wants to write

One open connection between the threads of `SocketControl`: those of the pool and the one
that runs the epoll loop. A task and an event callback are taken apart at their locks, so
that a step is one critical section under `m_MutexWrite` or `m_EPollMutex`; `Send` holds
the first while its callback takes the second.
-/

namespace SocketMessage.Server

open SocketMessage.Lib SocketMessage.Frame

namespace ServerState

/-- `Epoll4EventCallback` up to its `AddTask`: the registration is taken back; the task
to be queued. -/
def unregister (state : ServerState) (event : EpollEvent) : ServerState × Option SocketTask :=
  match event.source with
  | .server => ({ state with serverRegistered := false }, some .accept)
  | .client pointer =>
      if event.isRead then (state.ePollDelClientRead pointer, some (.read pointer))
      else if event.isWrite then (state.ePollDelClientWrite pointer, some (.write pointer))
      else (state, none)

/-- The callback is this and the `AddTask`. -/
theorem epoll4EventCallback_eq (state : ServerState) (event : EpollEvent) :
    state.epoll4EventCallback event =
      match state.unregister event with
      | (state, none) => state
      | (state, some task) => state.addSocketTask task := by
  unfold epoll4EventCallback unregister
  cases event.source with
  | server => rfl
  | client pointer =>
      cases event.isRead <;> cases event.isWrite <;> rfl

/-- `ClientSocket::Recv` of a readable client, and how it ended. -/
def recv (state : ServerState) (pointer : Nat) (socket : ClientSocket) (answers : List RecvAnswer) :
    Option (ServerState × RecvExit) := do
  let (session, exit) ← recvLoop client4ReadCallback
    ⟨state.recvStatistics, socket.readBuffer, [], .receiving⟩ answers
  let packs : List DataPack := session.delivered.map fun data => ⟨socket.cfd, data, pointer⟩
  return ({ state.setSocket pointer { socket with readBuffer := session.buffer } with
    recvStatistics := session.owner
    dataTasks := state.dataTasks ++ packs }, exit)

/-- The task of a readable client is this and the close or the new registration. -/
theorem readTask_eq {state : ServerState} {pointer : Nat} {socket : ClientSocket}
    (present : state.sockets pointer = some socket) (answers : List RecvAnswer) :
    state.readTask pointer answers =
      (state.recv pointer socket answers).map fun
        | (state, .closed) => state.clientSocketCloseAndDelete pointer
        | (state, .finished) => state.ePollAddClientRead pointer
        | (state, .broken) => state.fail .readCallback := by
  simp only [readTask, present, recv]
  cases recvLoop client4ReadCallback ⟨state.recvStatistics, socket.readBuffer, [], .receiving⟩
      answers with
  | none => rfl
  | some result =>
      obtain ⟨session, exit⟩ := result
      cases exit <;> rfl

/-- `Recv` changes nothing that concerns writing. -/
theorem Shows.recv {state next : ServerState} {pointer : Nat} {socket : ClientSocket}
    {answers : List RecvAnswer} {exit : RecvExit} (shows : state.Shows pointer socket)
    (received : state.recv pointer socket answers = some (next, exit)) :
    ∃ readBuffer, next.Shows pointer { socket with readBuffer } ∧
      next.clientFdMap = state.clientFdMap ∧ next.fetched = state.fetched ∧
        next.socketTasks = state.socketTasks := by
  obtain ⟨⟨session, _⟩, looped, packed⟩ := Option.bind_eq_some_iff.mp received
  obtain ⟨rfl, rfl⟩ := Prod.mk.inj (Option.some.inj packed)
  have read : (state.setSocket pointer { socket with readBuffer := session.buffer }).Shows pointer
      { socket with readBuffer := session.buffer } := shows.setSocket rfl ⟨rfl, rfl⟩
  exact ⟨session.buffer, read.of_same rfl rfl, rfl, rfl, rfl⟩

/-- The first critical section of `Write`, for a package there is room for. -/
def append (state : ServerState) (pointer : Nat) (socket : ClientSocket) (task : SendTask) :
    ServerState :=
  let entry : Appended := ⟨pointer, task.queuedFor, task.answers⟩
  { state with appended := state.appended ++ [entry] }.setSocket pointer
    { socket with writeBuffer := socket.writeBuffer ++ task.sendData }

/-- `Write` is this and `Send`. -/
theorem write_eq {state : ServerState} {pointer : Nat} {socket : ClientSocket} {task : SendTask}
    (room : ¬ socket.getSize4EmptyWrite < task.sendData.length) (answers : List SendAnswer) :
    state.write pointer socket task answers =
      (state.append pointer socket task).send pointer
        { socket with writeBuffer := socket.writeBuffer ++ task.sendData } answers := by
  rw [write, if_neg room]
  unfold send
  cases sendLoop (socket.writeBuffer ++ task.sendData) answers with
  | none => rfl
  | some result =>
      simp [append, setSocket]

end ServerState

/-- What a thread of the pool does for the connection: nothing, a task it has taken, a
package between the two critical sections of `Write`, the rest of a read or a write task
behind `Recv` or `Send`, or closing it. -/
inductive Activity where
  | idle
  | started (task : SocketTask)
  | appended (task : SendTask)
  | received
  | sent
  | closing
deriving DecidableEq, Repr

/-- The server with connection 0, what the event callback has yet to queue, and the
threads of the pool. -/
structure InterestState where
  server : ServerState
  epollThread : Option SocketTask
  threads : Nat → Activity

/-- One critical section, or a queue operation: `SendPackage` is called; `epoll_wait`
returns; the callback's two halves; a thread takes a task, appends, sends, receives,
registers again; somebody decides to close, and does. -/
inductive InterestEvent where
  | sendPackage (data : List Byte)
  | wait (isRead isWrite : Bool)
  | unregister
  | addTask
  | take (thread : Nat)
  | append (thread : Nat)
  | send (thread : Nat) (answers : List SendAnswer)
  | recv (thread : Nat) (answers : List RecvAnswer)
  | register (thread : Nat)
  | clientSocketClose (thread : Nat)
  | close (thread : Nat)

namespace InterestState

/-- The connection has been accepted under an fd. -/
def start (cfd : Int) (memory : SizedBytes readBufMaxSize) : InterestState where
  server := ServerState.start.server4ClientConnectCallback cfd memory
  epollThread := none
  threads _ := .idle

def goto (state : InterestState) (thread : Nat) (activity : Activity) : InterestState :=
  { state with threads := Function.update state.threads thread activity }

/-- A step while the connection is open, from its object. -/
def stepOpen (state : InterestState) (socket : ClientSocket) : InterestEvent → Option InterestState
  | .sendPackage data =>
      some { state with server := state.server.sendPackage socket.cfd data none }
  | .wait isRead isWrite => do
      let event ← state.server.epollEvent (.client socket.cfd isRead isWrite)
      if state.epollThread = none ∧ state.server.fetched = [] then
        return { state with server := { state.server with fetched := [event] } }
      else none
  | .unregister =>
      match state.epollThread, state.server.fetched with
      | none, event :: rest =>
          let (server, task) := { state.server with fetched := rest }.unregister event
          some { state with server, epollThread := task }
      | _, _ => none
  | .addTask => do
      let task ← state.epollThread
      return { state with server := state.server.addSocketTask task, epollThread := none }
  | .take thread =>
      match state.threads thread, state.server.socketTasks with
      | .idle, task :: rest =>
          some ({ state with server := { state.server with socketTasks := rest } }.goto thread
            (.started task))
      | _, _ => none
  | .append thread =>
      match state.threads thread with
      | .started (.send task) =>
          if state.server.clientFdMap task.cfd ≠ some 0 then some (state.goto thread .idle)
          else if socket.getSize4EmptyWrite < task.sendData.length then
            let sendStatistics := state.server.sendStatistics.count task.sendData.length
            some ({ state with server := { state.server with sendStatistics } }.goto thread .idle)
          else
            some ({ state with server := state.server.append 0 socket task }.goto thread
              (.appended task))
      | _ => none
  | .send thread answers =>
      match state.threads thread with
      | .appended task => do
          let (server, closed) ← state.server.send 0 socket answers
          let sendStatistics := server.sendStatistics.count task.sendData.length
          return { state with server := { server with sendStatistics } }.goto thread
            (if closed then .closing else .idle)
      | .started (.write 0) => do
          let (server, closed) ← state.server.send 0 socket answers
          return { state with server }.goto thread (if closed then .closing else .sent)
      | _ => none
  | .recv thread answers =>
      match state.threads thread with
      | .started (.read 0) => do
          let (server, exit) ← state.server.recv 0 socket answers
          return match exit with
            | .closed => { state with server }.goto thread .closing
            | .finished => { state with server }.goto thread .received
            | .broken => { state with server := server.fail .readCallback }.goto thread .idle
      | _ => none
  | .register thread =>
      match state.threads thread with
      | .received =>
          some ({ state with server := state.server.ePollAddClientRead 0 }.goto thread .idle)
      | .sent =>
          some ({ state with server := state.server.ePollAddClientWrite 0 }.goto thread .idle)
      | _ => none
  | .clientSocketClose thread =>
      if state.threads thread = .idle then some (state.goto thread .closing) else none
  | .close thread =>
      if state.threads thread = .closing then
        some ({ state with server := state.server.clientSocketCloseAndDelete 0 }.goto thread .idle)
      else none

/-- One step; a fault or the end of the connection ends the run. -/
def step (state : InterestState) (event : InterestEvent) : Option InterestState :=
  if state.server.fault = none then
    (state.server.sockets 0).bind fun socket => state.stepOpen socket event
  else none

end InterestState

/-- One connection from its accept on. -/
def interestSystem (cfd : Int) (memory : SizedBytes readBufMaxSize) :
    LabelledSystem InterestState InterestEvent :=
  .ofStep (.start cfd memory) InterestState.step

namespace InterestState

/-! ## Who is busy -/

/-- Some thread is at such a place. -/
def Any (state : InterestState) (place : Activity → Prop) : Prop := ∃ thread, place (state.threads thread)

/-- A thread between its append and the end of its `Send`. -/
def Appending (state : InterestState) : Prop := state.Any fun activity => ∃ task, activity = .appended task

/-- A thread on its way to close the connection. -/
def Closing (state : InterestState) : Prop := state.Any fun activity => activity = .closing

/-- A write event callback is past its `EPollDelClientWrite` and has yet to queue its
task. -/
def QueueingWrite (state : InterestState) : Prop := state.epollThread = some (.write 0)

/-- A write task is queued, or has not reached its `EPollAddClientWrite`. -/
def WriteTask (state : InterestState) : Prop :=
  .write 0 ∈ state.server.socketTasks ∨
    state.Any fun activity => activity = .started (.write 0) ∨ activity = .sent

/-- What holds of an open connection in every reachable state: there is output only
while `m_IsWriteing` is set, or a thread between append and `Send` is about to see it;
and `m_IsWriteing` is set only while the fd is registered for writing or a write task
is on its way to do that. -/
structure Sound (state : InterestState) (socket : ClientSocket) : Prop where
  shows : state.server.Shows 0 socket
  entry : state.server.clientFdMap socket.cfd = some 0
  sources : ∀ event ∈ state.server.fetched, event.source = .client 0
  waiting : socket.writeBuffer ≠ [] → socket.isWriteing = true ∨ state.Appending ∨ state.Closing
  watched : socket.isWriteing = true →
    socket.cfdIsWrite = true ∨ state.QueueingWrite ∨ state.WriteTask ∨ state.Closing

section Any

variable {state : InterestState} {place : Activity → Prop} {thread : Nat} {activity : Activity}

/-- A thread that goes elsewhere leaves the others where they are. -/
theorem Any.goto (any : state.Any place) (elsewhere : ¬ place (state.threads thread)) :
    (state.goto thread activity).Any place := by
  obtain ⟨other, there⟩ := any
  refine ⟨other, ?_⟩
  have different : other ≠ thread := by
    rintro rfl
    exact elsewhere there
  simpa [InterestState.goto, different] using there

/-- A thread that arrives. -/
theorem any_goto (arrives : place activity) : (state.goto thread activity).Any place :=
  ⟨thread, by simpa [InterestState.goto] using arrives⟩

end Any

/-! ## What a step does for the connection -/

/-- Everybody who is about to close still is, and connection 0 is still the one under
the fd and the one of every event. -/
structure Frame (state : InterestState) (socket : ClientSocket) (next : InterestState)
    (after : ClientSocket) : Prop where
  shows : next.server.Shows 0 after
  sameFd : after.cfd = socket.cfd
  entries : next.server.clientFdMap = state.server.clientFdMap
  sources : (∀ event ∈ state.server.fetched, event.source = .client 0) →
    ∀ event ∈ next.server.fetched, event.source = .client 0
  closing : state.Closing → next.Closing

/-- What a step does: it leaves buffer and `m_IsWriteing` alone and hands on what is
due, it appends, it is a `Send`, or it ends the connection. Only a write task that
registers again sets the flag for writing without a `Send`. -/
inductive Effect (state : InterestState) (socket : ClientSocket) (event : InterestEvent)
    (next : InterestState) : Prop where
  | kept (after : ClientSocket) (frame : state.Frame socket next after)
      (buffer : after.writeBuffer = socket.writeBuffer)
      (isWriteing : after.isWriteing = socket.isWriteing)
      (registers : after.cfdIsWrite = true → socket.cfdIsWrite = true ∨
        ∃ thread, event = .register thread ∧ state.threads thread = .sent)
      (appending : state.Appending → next.Appending)
      (due : socket.cfdIsWrite = true ∨ state.QueueingWrite ∨ state.WriteTask →
        after.cfdIsWrite = true ∨ next.QueueingWrite ∨ next.WriteTask)
  | appended (after : ClientSocket) (frame : state.Frame socket next after)
      (isWriteing : after.isWriteing = socket.isWriteing)
      (cfdIsWrite : after.cfdIsWrite = socket.cfdIsWrite)
      (longer : socket.writeBuffer <+: after.writeBuffer)
      (appending : next.Appending)
      (due : state.QueueingWrite ∨ state.WriteTask → next.QueueingWrite ∨ next.WriteTask)
  | sent (rest : List Byte) (exit : SendExit) (frame : state.Frame socket next (socket.afterSend rest exit))
      (left : rest = [] ↔ exit = .finished)
      (closed : exit = .closed → next.Closing)
      (due : exit ≠ .closed → state.QueueingWrite ∨ state.WriteTask →
        next.QueueingWrite ∨ next.WriteTask)
  | ended (absent : next.server.sockets 0 = none)

section Step

variable {state next : InterestState} {socket after : ClientSocket} {event : InterestEvent}

/-- The connection is still the one under its fd. -/
theorem Frame.entry (frame : state.Frame socket next after)
    (entry : state.server.clientFdMap socket.cfd = some 0) :
    next.server.clientFdMap after.cfd = some 0 := by
  rw [frame.entries, frame.sameFd]
  exact entry

/-- What is due is handed on, or the connection is about to be closed. -/
theorem Frame.handedOn (frame : state.Frame socket next after)
    (due : state.QueueingWrite ∨ state.WriteTask → next.QueueingWrite ∨ next.WriteTask)
    (before : state.QueueingWrite ∨ state.WriteTask ∨ state.Closing) :
    next.QueueingWrite ∨ next.WriteTask ∨ next.Closing := by
  rw [← or_assoc] at before ⊢
  exact before.imp due frame.closing

/-- Whatever a step does, the connection stays as described. -/
theorem Sound.effect (sound : state.Sound socket) (effect : state.Effect socket event next)
    (present : next.server.sockets 0 = some after) : next.Sound after := by
  cases effect with
  | kept changed frame buffer isWriteing _ appending due =>
      obtain rfl := Option.some.inj (frame.shows.present.symm.trans present)
      refine ⟨frame.shows, frame.entry sound.entry, frame.sources sound.sources, ?_, ?_⟩
      · intro more
        rw [buffer] at more
        rw [isWriteing]
        exact (sound.waiting more).imp_right (Or.imp appending frame.closing)
      · intro writeing
        rw [isWriteing] at writeing
        have before : (socket.cfdIsWrite = true ∨ state.QueueingWrite ∨ state.WriteTask) ∨
            state.Closing := by
          simpa only [or_assoc] using sound.watched writeing
        simpa only [or_assoc] using before.imp due frame.closing
  | appended changed frame isWriteing cfdIsWrite longer appending due =>
      obtain rfl := Option.some.inj (frame.shows.present.symm.trans present)
      refine ⟨frame.shows, frame.entry sound.entry, frame.sources sound.sources,
        fun _ => Or.inr (Or.inl appending), ?_⟩
      intro writeing
      rw [isWriteing] at writeing
      rw [cfdIsWrite]
      exact (sound.watched writeing).imp_right (frame.handedOn due)
  | sent rest exit frame left closed due =>
      obtain rfl := Option.some.inj (frame.shows.present.symm.trans present)
      refine ⟨frame.shows, frame.entry sound.entry, frame.sources sound.sources, ?_, ?_⟩
      · intro more
        cases exit with
        | finished => exact absurd (left.mpr rfl) more
        | pending => exact Or.inl rfl
        | closed => exact Or.inr (Or.inr (closed rfl))
      · intro writeing
        cases exit with
        | finished => cases writeing
        | closed => exact Or.inr (Or.inr (Or.inr (closed rfl)))
        | pending =>
            -- The callback asks for `EPOLLOUT` only if `m_IsWriteing` was not yet set.
            cases was : socket.isWriteing with
            | false => simp [ClientSocket.afterSend, was]
            | true =>
                rcases sound.watched was with flag | before
                · simp [ClientSocket.afterSend, was, flag]
                · exact Or.inr (frame.handedOn (due (by decide)) before)
  | ended absent =>
      rw [absent] at present
      cases present

/-- `SendPackage` only adds to the queue. -/
theorem Sound.effect_sendPackage (sound : state.Sound socket) (data : List Byte) :
    state.Effect socket event
      { state with server := state.server.sendPackage socket.cfd data none } := by
  have kept : ∀ server : ServerState, server.sockets = state.server.sockets →
      server.epoll = state.server.epoll → server.clientFdMap = state.server.clientFdMap →
      server.fetched = state.server.fetched →
      (∀ task ∈ state.server.socketTasks, task ∈ server.socketTasks) →
      state.Effect socket event { state with server } := by
    intro server sockets epoll entries fetched tasks
    refine .kept socket ⟨sound.shows.of_same (congrFun sockets 0) (congrFun epoll _), rfl, entries,
      ?_, id⟩ rfl rfl Or.inl id ?_
    · rw [fetched]
      exact id
    · exact Or.imp_right (Or.imp_right (Or.imp_left (tasks _)))
  rcases state.server.sendPackage_cases socket.cfd data none with same | ⟨fault, failed⟩ |
    ⟨task, queued⟩
  · rw [same]
    exact kept _ rfl rfl rfl rfl fun _ => id
  · rw [failed]
    exact kept _ rfl rfl rfl rfl fun _ => id
  · rw [queued]
    exact kept _ rfl rfl rfl rfl fun _ => List.mem_append_left _

/-- The first half of the event callback, once it has its event. -/
theorem effect_unregister {server : ServerState} {polled : EpollEvent}
    (shows : server.Shows 0 socket) (entries : server.clientFdMap = state.server.clientFdMap)
    (tasks : server.socketTasks = state.server.socketTasks)
    (sources : (∀ event ∈ state.server.fetched, event.source = .client 0) →
      ∀ event ∈ server.fetched, event.source = .client 0)
    (idle : state.epollThread = none) (source : polled.source = .client 0) :
    state.Effect socket event
      { state with server := (server.unregister polled).1, epollThread := (server.unregister polled).2 } := by
  have present := ServerState.fdOf_of_socket shows.present
  have notQueueing : ¬ state.QueueingWrite := by
    rw [QueueingWrite, idle]
    simp
  have kept : ∀ (after : ClientSocket) (changed : ServerState) (task : Option SocketTask),
      changed.Shows 0 after → ServerState.Quiet server changed → after.cfd = socket.cfd →
      after.writeBuffer = socket.writeBuffer → after.isWriteing = socket.isWriteing →
      (after.cfdIsWrite = true → socket.cfdIsWrite = true) →
      (socket.cfdIsWrite = true → after.cfdIsWrite = true ∨ task = some (.write 0)) →
      state.Effect socket event { state with server := changed, epollThread := task } := by
    intro after changed task changedShows quiet sameFd buffer isWriteing back forth
    refine .kept after ⟨changedShows, sameFd, quiet.clientFdMap.trans entries, ?_, id⟩ buffer
      isWriteing (fun flag => Or.inl (back flag)) id ?_
    · intro all
      rw [quiet.fetched]
      exact sources all
    · rintro (flag | queueing | task | started)
      · rcases forth flag with flag | queueing
        · exact Or.inl flag
        · exact Or.inr (Or.inl queueing)
      · exact absurd queueing notQueueing
      · exact Or.inr (Or.inr (Or.inl (by rw [quiet.socketTasks, tasks]; exact task)))
      · exact Or.inr (Or.inr (Or.inr started))
  simp only [ServerState.unregister, source]
  cases isRead : polled.isRead with
  | true =>
      exact kept _ _ _ shows.ePollDelClientRead (ServerState.quiet_ePollDelClientRead present) rfl rfl
        rfl id Or.inl
  | false =>
      cases isWrite : polled.isWrite with
      | true =>
          exact kept _ _ _ shows.ePollDelClientWrite (ServerState.quiet_ePollDelClientWrite present)
            rfl rfl rfl (fun flag => by cases flag) (fun _ => Or.inr rfl)
      | false => exact kept socket _ _ shows (.refl _) rfl rfl rfl id Or.inl

/-- A critical section of `Send`, from a thread that either has appended or runs a
write task. -/
theorem Sound.effect_send (sound : state.Sound socket) {thread : Nat} {answers : List SendAnswer}
    {server : ServerState} {closed : Bool} {activity : Activity}
    (sent : state.server.send 0 socket answers = some (server, closed))
    (busy : (∃ task, state.threads thread = .appended task ∧ activity = .idle) ∨
      (state.threads thread = .started (.write 0) ∧ activity = .sent))
    {sendStatistics : SendStatistics} :
    state.Effect socket event ({ state with server := { server with sendStatistics } }.goto thread
      (if closed then .closing else activity)) := by
  obtain ⟨rest, exit, looped, closed_eq, shows⟩ := sound.shows.send sent
  have quiet := (ServerState.quiet_send (ServerState.fdOf_of_socket sound.shows.present) sent).1
  have notClosing : state.threads thread ≠ .closing := by
    rcases busy with ⟨task, there, _⟩ | ⟨there, _⟩
    · simp [there]
    · simp [there]
  refine .sent rest exit ⟨shows.of_same rfl rfl, ?_, quiet.clientFdMap, ?_, ?_⟩
    (sendLoop_rest looped) ?_ ?_
  · cases exit <;> rfl
  · intro all
    rw [goto]
    dsimp only
    rw [quiet.fetched]
    exact all
  · intro closing
    exact Any.goto closing notClosing
  · rintro rfl
    simp only [closed_eq]
    exact any_goto (by simp)
  · intro stillOpen due
    have goesOn : (if closed = true then Activity.closing else activity) = activity := by
      simp [closed_eq, stillOpen]
    rcases due with queueing | waits | working
    · exact Or.inl queueing
    · refine Or.inr (Or.inl ?_)
      rw [goto]
      dsimp only
      rw [quiet.socketTasks]
      exact waits
    · refine Or.inr (Or.inr ?_)
      rcases busy with ⟨task, there, _⟩ | ⟨_, rfl⟩
      · exact Any.goto working (by simp [there])
      · rw [goesOn]
        exact any_goto (Or.inr rfl)

/-- A thread goes on without touching what concerns writing. -/
theorem effect_goto {server : ServerState} {after : ClientSocket} {thread : Nat} {activity : Activity}
    (shows : server.Shows 0 after) (entries : server.clientFdMap = state.server.clientFdMap)
    (fetched : server.fetched = state.server.fetched)
    (tasks : server.socketTasks = state.server.socketTasks) (sameFd : after.cfd = socket.cfd)
    (buffer : after.writeBuffer = socket.writeBuffer)
    (isWriteing : after.isWriteing = socket.isWriteing) (flag : after.cfdIsWrite = socket.cfdIsWrite)
    (free : (∀ task, state.threads thread ≠ .appended task) ∧ state.threads thread ≠ .closing ∧
      state.threads thread ≠ .started (.write 0) ∧ state.threads thread ≠ .sent) :
    state.Effect socket event ({ state with server }.goto thread activity) := by
  obtain ⟨notAppended, notClosing, notStarted, notSent⟩ := free
  refine .kept after ⟨shows, sameFd, entries, ?_, fun closing => Any.goto closing notClosing⟩ buffer
    isWriteing (fun set => Or.inl (flag ▸ set)) ?_ ?_
  · intro all
    exact fetched ▸ all
  · intro appending
    refine Any.goto appending ?_
    rintro ⟨task, there⟩
    exact notAppended task there
  · rintro (set | queueing | waits | working)
    · exact Or.inl (flag.trans set)
    · exact Or.inr (Or.inl queueing)
    · exact Or.inr (Or.inr (Or.inl (tasks ▸ waits)))
    · refine Or.inr (Or.inr (Or.inr (Any.goto working ?_)))
      rintro (there | there)
      · exact notStarted there
      · exact notSent there

/-- A thread takes the task at the front of the queue. -/
theorem Sound.effect_take (sound : state.Sound socket) {thread : Nat} {task : SocketTask}
    {rest : List SocketTask} (idle : state.threads thread = .idle)
    (front : state.server.socketTasks = task :: rest) :
    state.Effect socket event
      ({ state with server := { state.server with socketTasks := rest } }.goto thread
        (.started task)) := by
  refine .kept socket ⟨sound.shows.of_same rfl rfl, rfl, rfl, id,
    fun closing => Any.goto closing (by simp [idle])⟩ rfl rfl Or.inl
    (fun appending => Any.goto appending (by simp [idle])) ?_
  rintro (set | queueing | waits | working)
  · exact Or.inl set
  · exact Or.inr (Or.inl queueing)
  · rw [front] at waits
    rcases List.mem_cons.mp waits with rfl | later
    · exact Or.inr (Or.inr (Or.inr (any_goto (Or.inl rfl))))
    · exact Or.inr (Or.inr (Or.inl later))
  · exact Or.inr (Or.inr (Or.inr (Any.goto working (by simp [idle]))))

/-- The first critical section of `Write`. -/
theorem Sound.effect_append (sound : state.Sound socket) {thread : Nat} {task : SendTask}
    (started : state.threads thread = .started (.send task)) :
    state.Effect socket event
      ({ state with server := state.server.append 0 socket task }.goto thread (.appended task)) := by
  refine .appended { socket with writeBuffer := socket.writeBuffer ++ task.sendData }
    ⟨?_, rfl, rfl, id, fun closing => Any.goto closing (by simp [started])⟩ rfl rfl
    (List.prefix_append _ _) (any_goto ⟨task, rfl⟩) ?_
  · have set : (state.server.setSocket 0
        { socket with writeBuffer := socket.writeBuffer ++ task.sendData }).Shows 0
          { socket with writeBuffer := socket.writeBuffer ++ task.sendData } :=
      sound.shows.setSocket rfl ⟨rfl, rfl⟩
    exact set.of_same rfl rfl
  · rintro (queueing | waits | working)
    · exact Or.inl queueing
    · exact Or.inr (Or.inl waits)
    · exact Or.inr (Or.inr (Any.goto working (by simp [started])))

/-- A write task registers again. -/
theorem Sound.effect_register (sound : state.Sound socket) {thread : Nat}
    (sent : state.threads thread = .sent) :
    state.Effect socket (.register thread)
      ({ state with server := state.server.ePollAddClientWrite 0 }.goto thread .idle) := by
  have quiet := ServerState.quiet_ePollAddClientWrite
    (ServerState.fdOf_of_socket sound.shows.present)
  refine .kept _ ⟨sound.shows.ePollAddClientWrite, rfl, quiet.clientFdMap, ?_,
    fun closing => Any.goto closing (by simp [sent])⟩ rfl rfl (fun _ => Or.inr ⟨thread, rfl, sent⟩)
    (fun appending => Any.goto appending (by simp [sent])) (fun _ => Or.inl rfl)
  intro all
  exact quiet.fetched ▸ all

/-- The object is gone once the connection is closed. -/
theorem Sound.effect_close (sound : state.Sound socket) {thread : Nat} :
    state.Effect socket event
      ({ state with server := state.server.clientSocketCloseAndDelete 0 }.goto thread .idle) :=
  .ended (sound.shows.sockets_close sound.entry)

/-- What a step of an open connection can do. -/
inductive Moves (state : InterestState) (socket : ClientSocket) :
    InterestEvent → InterestState → Prop where
  | sendPackage {data : List Byte} : Moves state socket (.sendPackage data)
      { state with server := state.server.sendPackage socket.cfd data none }
  | wait {isRead isWrite : Bool} {polled : EpollEvent}
      (found : state.server.epollEvent (.client socket.cfd isRead isWrite) = some polled)
      (nothing : state.server.fetched = []) :
      Moves state socket (.wait isRead isWrite)
        { state with server := { state.server with fetched := [polled] } }
  | unregister {polled : EpollEvent} {rest : List EpollEvent} (idle : state.epollThread = none)
      (fetched : state.server.fetched = polled :: rest) :
      Moves state socket .unregister
        { state with
          server := ({ state.server with fetched := rest }.unregister polled).1
          epollThread := ({ state.server with fetched := rest }.unregister polled).2 }
  | addTask {task : SocketTask} (due : state.epollThread = some task) :
      Moves state socket .addTask
        { state with server := state.server.addSocketTask task, epollThread := none }
  | take {thread : Nat} {task : SocketTask} {rest : List SocketTask}
      (idle : state.threads thread = .idle) (front : state.server.socketTasks = task :: rest) :
      Moves state socket (.take thread)
        ({ state with server := { state.server with socketTasks := rest } }.goto thread
          (.started task))
  | unknown {thread : Nat} {task : SendTask} (started : state.threads thread = .started (.send task)) :
      Moves state socket (.append thread) (state.goto thread .idle)
  | noRoom {thread : Nat} {task : SendTask} (started : state.threads thread = .started (.send task)) :
      Moves state socket (.append thread)
        ({ state with server := { state.server with
          sendStatistics := state.server.sendStatistics.count task.sendData.length } }.goto thread
            .idle)
  | append {thread : Nat} {task : SendTask} (started : state.threads thread = .started (.send task)) :
      Moves state socket (.append thread)
        ({ state with server := state.server.append 0 socket task }.goto thread (.appended task))
  | sendTask {thread : Nat} {answers : List SendAnswer} {task : SendTask} {server : ServerState}
      {closed : Bool} (appended : state.threads thread = .appended task)
      (sent : state.server.send 0 socket answers = some (server, closed)) :
      Moves state socket (.send thread answers)
        ({ state with server := { server with
          sendStatistics := server.sendStatistics.count task.sendData.length } }.goto thread
            (if closed then .closing else .idle))
  | writeTask {thread : Nat} {answers : List SendAnswer} {server : ServerState} {closed : Bool}
      (started : state.threads thread = .started (.write 0))
      (sent : state.server.send 0 socket answers = some (server, closed)) :
      Moves state socket (.send thread answers)
        ({ state with server }.goto thread (if closed then .closing else .sent))
  | closed {thread : Nat} {answers : List RecvAnswer} {server : ServerState}
      (started : state.threads thread = .started (.read 0))
      (received : state.server.recv 0 socket answers = some (server, .closed)) :
      Moves state socket (.recv thread answers) ({ state with server }.goto thread .closing)
  | finished {thread : Nat} {answers : List RecvAnswer} {server : ServerState}
      (started : state.threads thread = .started (.read 0))
      (received : state.server.recv 0 socket answers = some (server, .finished)) :
      Moves state socket (.recv thread answers) ({ state with server }.goto thread .received)
  | broken {thread : Nat} {answers : List RecvAnswer} {server : ServerState}
      (started : state.threads thread = .started (.read 0))
      (received : state.server.recv 0 socket answers = some (server, .broken)) :
      Moves state socket (.recv thread answers)
        ({ state with server := server.fail .readCallback }.goto thread .idle)
  | registerRead {thread : Nat} (received : state.threads thread = .received) :
      Moves state socket (.register thread)
        ({ state with server := state.server.ePollAddClientRead 0 }.goto thread .idle)
  | registerWrite {thread : Nat} (sent : state.threads thread = .sent) :
      Moves state socket (.register thread)
        ({ state with server := state.server.ePollAddClientWrite 0 }.goto thread .idle)
  | clientSocketClose {thread : Nat} (idle : state.threads thread = .idle) :
      Moves state socket (.clientSocketClose thread) (state.goto thread .closing)
  | close {thread : Nat} (closing : state.threads thread = .closing) :
      Moves state socket (.close thread)
        ({ state with server := state.server.clientSocketCloseAndDelete 0 }.goto thread .idle)

theorem moves_of_stepOpen (stepped : state.stepOpen socket event = some next) :
    state.Moves socket event next := by
  cases event with
  | sendPackage data =>
      obtain rfl := Option.some.inj stepped
      exact .sendPackage
  | wait isRead isWrite =>
      obtain ⟨polled, found, ready⟩ := Option.bind_eq_some_iff.mp stepped
      obtain ⟨⟨_, nothing⟩, built⟩ := Option.ite_none_right_eq_some.mp ready
      obtain rfl := Option.some.inj built
      exact .wait found nothing
  | unregister =>
      simp only [stepOpen] at stepped
      split at stepped
      · next polled rest idle fetched =>
        obtain rfl := Option.some.inj stepped
        exact .unregister idle fetched
      · cases stepped
  | addTask =>
      obtain ⟨task, due, built⟩ := Option.bind_eq_some_iff.mp stepped
      obtain rfl := Option.some.inj built
      exact .addTask due
  | take thread =>
      simp only [stepOpen] at stepped
      split at stepped
      · next task rest idle front =>
        obtain rfl := Option.some.inj stepped
        exact .take idle front
      · cases stepped
  | append thread =>
      simp only [stepOpen] at stepped
      split at stepped
      · next task started =>
        split at stepped
        · obtain rfl := Option.some.inj stepped
          exact .unknown started
        split at stepped
        · obtain rfl := Option.some.inj stepped
          exact .noRoom started
        · obtain rfl := Option.some.inj stepped
          exact .append started
      · cases stepped
  | send thread answers =>
      simp only [stepOpen] at stepped
      split at stepped
      · next task appended =>
        obtain ⟨⟨server, closed⟩, sent, built⟩ := Option.bind_eq_some_iff.mp stepped
        obtain rfl := Option.some.inj built
        exact .sendTask appended sent
      · next started =>
        obtain ⟨⟨server, closed⟩, sent, built⟩ := Option.bind_eq_some_iff.mp stepped
        obtain rfl := Option.some.inj built
        exact .writeTask started sent
      · cases stepped
  | recv thread answers =>
      simp only [stepOpen] at stepped
      split at stepped
      · next started =>
        obtain ⟨⟨server, exit⟩, received, built⟩ := Option.bind_eq_some_iff.mp stepped
        obtain rfl := Option.some.inj built
        cases exit with
        | closed => exact .closed started received
        | finished => exact .finished started received
        | broken => exact .broken started received
      · cases stepped
  | register thread =>
      simp only [stepOpen] at stepped
      split at stepped
      · next received =>
        obtain rfl := Option.some.inj stepped
        exact .registerRead received
      · next sent =>
        obtain rfl := Option.some.inj stepped
        exact .registerWrite sent
      · cases stepped
  | clientSocketClose thread =>
      obtain ⟨idle, built⟩ := Option.ite_none_right_eq_some.mp stepped
      obtain rfl := Option.some.inj built
      exact .clientSocketClose idle
  | close thread =>
      obtain ⟨closing, built⟩ := Option.ite_none_right_eq_some.mp stepped
      obtain rfl := Option.some.inj built
      exact .close closing

/-- Every step of an open connection. -/
theorem Sound.effect_stepOpen (sound : state.Sound socket)
    (stepped : state.stepOpen socket event = some next) : state.Effect socket event next := by
  have present := ServerState.fdOf_of_socket sound.shows.present
  cases moves_of_stepOpen stepped with
  | sendPackage => exact sound.effect_sendPackage _
  | wait found nothing =>
      refine .kept socket ⟨sound.shows.of_same rfl rfl, rfl, rfl, fun _ => ?_, id⟩ rfl rfl Or.inl id id
      simpa using (sound.shows.epollEvent found).1
  | unregister idle fetched =>
      refine effect_unregister (sound.shows.of_same rfl rfl) rfl rfl ?_ idle
        (sound.sources _ (by rw [fetched]; exact List.mem_cons_self))
      intro all event member
      exact all event (by rw [fetched]; exact List.mem_cons_of_mem _ member)
  | addTask due =>
      refine .kept socket ⟨sound.shows.of_same rfl rfl, rfl, rfl, id, id⟩ rfl rfl Or.inl id ?_
      rintro (set | queueing | waits | working)
      · exact Or.inl set
      · obtain rfl := Option.some.inj (due.symm.trans queueing)
        exact Or.inr (Or.inr (Or.inl (by simp [ServerState.addSocketTask])))
      · exact Or.inr (Or.inr (Or.inl (List.mem_append_left _ waits)))
      · exact Or.inr (Or.inr (Or.inr working))
  | take idle front => exact sound.effect_take idle front
  | unknown started =>
      exact effect_goto sound.shows rfl rfl rfl rfl rfl rfl rfl (by simp [started])
  | noRoom started =>
      exact effect_goto (sound.shows.of_same rfl rfl) rfl rfl rfl rfl rfl rfl rfl
        (by simp [started])
  | append started => exact sound.effect_append started
  | sendTask appended sent => exact sound.effect_send sent (Or.inl ⟨_, appended, rfl⟩)
  | writeTask started sent => exact sound.effect_send sent (Or.inr ⟨started, rfl⟩)
  | closed started received =>
      obtain ⟨readBuffer, shows, entries, fetched, tasks⟩ := sound.shows.recv received
      exact effect_goto shows entries fetched tasks rfl rfl rfl rfl (by simp [started])
  | finished started received =>
      obtain ⟨readBuffer, shows, entries, fetched, tasks⟩ := sound.shows.recv received
      exact effect_goto shows entries fetched tasks rfl rfl rfl rfl (by simp [started])
  | broken started received =>
      obtain ⟨readBuffer, shows, entries, fetched, tasks⟩ := sound.shows.recv received
      exact effect_goto (shows.of_same rfl rfl) entries fetched tasks rfl rfl rfl rfl
        (by simp [started])
  | registerRead received =>
      have quiet := ServerState.quiet_ePollAddClientRead present
      exact effect_goto sound.shows.ePollAddClientRead quiet.clientFdMap quiet.fetched
        quiet.socketTasks rfl rfl rfl rfl (by simp [received])
  | registerWrite sent => exact sound.effect_register sent
  | clientSocketClose idle =>
      exact effect_goto sound.shows rfl rfl rfl rfl rfl rfl rfl (by simp [idle])
  | close closing => exact sound.effect_close

/-! ## A task as steps of its thread -/

/-- A step of a server without a fault whose object is there. -/
theorem step_of_shown (intact : state.server.fault = none)
    (shown : state.server.sockets 0 = some socket) :
    state.step event = state.stepOpen socket event := by
  simp [step, intact, shown]

/-- The task of a writable client in the model of the whole server is two steps of its
thread. -/
theorem follow_writeTask {thread : Nat} {answers : List SendAnswer} {server : ServerState}
    (started : state.threads thread = .started (.write 0)) (intact : state.server.fault = none)
    (shown : state.server.sockets 0 = some socket)
    (ran : state.server.writeTask 0 answers = some server) :
    ∃ events final, LabelledSystem.follow InterestState.step (fun _ _ _ => True) state events =
      some final ∧ final.server = server ∧ final.threads thread = .idle := by
  simp only [ServerState.writeTask, shown] at ran
  obtain ⟨⟨sentServer, closed⟩, sent, ended⟩ := Option.bind_eq_some_iff.mp ran
  have quiet := (ServerState.quiet_send (ServerState.fdOf_of_socket shown) sent).1
  obtain ⟨left, present, _⟩ := Option.map_eq_some_iff.mp
    ((congrFun quiet.fdOf 0).trans (ServerState.fdOf_of_socket shown))
  have sends : state.step (.send thread answers) = some ({ state with server := sentServer }.goto
      thread (if closed then .closing else .sent)) := by
    rw [step_of_shown intact shown]
    simp [stepOpen, started, sent]
  have goesOn : ∀ event, ({ state with server := sentServer }.goto thread
      (if closed then .closing else .sent)).step event =
        ({ state with server := sentServer }.goto thread
          (if closed then .closing else .sent)).stepOpen left event :=
    fun event => step_of_shown (quiet.fault.trans intact) present
  cases closed with
  | true =>
      obtain rfl := Option.some.inj ended
      have closes := (goesOn (.close thread)).trans (if_pos (Function.update_self ..))
      exact ⟨[.send thread answers, .close thread], _,
        (LabelledSystem.follow_cons sends trivial).trans (LabelledSystem.follow_single closes trivial),
        rfl, Function.update_self ..⟩
  | false =>
      obtain rfl := Option.some.inj ended
      have registers : ({ state with server := sentServer }.goto thread .sent).stepOpen left
          (.register thread) = some ({ { state with server := sentServer }.goto thread .sent with
            server := sentServer.ePollAddClientWrite 0 }.goto thread .idle) := by
        simp [stepOpen, goto]
      have goes := (goesOn (.register thread)).trans registers
      exact ⟨[.send thread answers, .register thread], _,
        (LabelledSystem.follow_cons sends trivial).trans (LabelledSystem.follow_single goes trivial),
        rfl, Function.update_self ..⟩

/-! ## Every run -/

/-- A step is one of an open connection. -/
theorem opened_of_step (stepped : state.step event = some next) :
    ∃ socket, state.server.sockets 0 = some socket ∧ state.stepOpen socket event = some next := by
  obtain ⟨_, found⟩ := Option.ite_none_right_eq_some.mp stepped
  exact Option.bind_eq_some_iff.mp found

end Step

/-- What `Server4ClientConnectCallback` leaves: the client registered for reading, and
nothing to do. -/
theorem start_facts (cfd : Int) (memory : SizedBytes readBufMaxSize) :
    (start cfd memory).server.Shows 0 { ClientSocket.create cfd memory with cfdIsRead := true } ∧
      (start cfd memory).server.clientFdMap cfd = some 0 ∧
      (start cfd memory).server.fetched = [] ∧ (start cfd memory).server.socketTasks = [] := by
  have fresh : { ServerState.start with
      sockets := Function.update ServerState.start.sockets 0 (some (.create cfd memory))
      accepted := 1
      clientFdMap := Function.update ServerState.start.clientFdMap cfd (some 0)
      clientSocketCount := 1
      onlineUserMap := clientSocketState ServerState.start.onlineUserMap cfd true }.Shows 0
        (.create cfd memory) := ⟨rfl, rfl⟩
  have quiet := ServerState.quiet_ePollAddClientRead (ServerState.fdOf_of_socket fresh.present)
  have entry := congrFun quiet.clientFdMap cfd
  exact ⟨fresh.ePollAddClientRead,
    entry.trans (Function.update_self cfd (some 0) ServerState.start.clientFdMap),
    quiet.fetched, quiet.socketTasks⟩

/-- A connection that has just been accepted. -/
theorem sound_start {cfd : Int} {memory : SizedBytes readBufMaxSize} {socket : ClientSocket}
    (present : (start cfd memory).server.sockets 0 = some socket) :
    (start cfd memory).Sound socket ∧ socket.cfdIsWrite = false ∧ socket.isWriteing = false := by
  obtain ⟨shows, entry, nothing, _⟩ := start_facts cfd memory
  obtain rfl := Option.some.inj (shows.present.symm.trans present)
  refine ⟨⟨shows, entry, ?_, fun more => absurd rfl more, fun writeing => by cases writeing⟩, rfl,
    rfl⟩
  intro event member
  rw [nothing] at member
  cases member

section Runs

variable {cfd : Int} {memory : SizedBytes readBufMaxSize} {state : InterestState}
  {socket : ClientSocket}

/-- What holds of an open connection in every reachable state. -/
theorem sound_of_reachable (reachable : (interestSystem cfd memory).Reachable state)
    (present : state.server.sockets 0 = some socket) : state.Sound socket := by
  obtain ⟨events, run⟩ := reachable
  induction run generalizing socket with
  | initial valid =>
      obtain rfl := valid
      exact (sound_start present).1
  | step _ stepped _ inductionHypothesis =>
      obtain ⟨opened, shown, built⟩ := opened_of_step stepped
      have sound := inductionHypothesis shown
      exact sound.effect (sound.effect_stepOpen built) present

/-- While an open connection has output, its fd is registered for writing, or a callback,
a task or a thread is about to see to it. -/
theorem output_not_stalled (reachable : (interestSystem cfd memory).Reachable state)
    (present : state.server.sockets 0 = some socket) (output : socket.writeBuffer ≠ []) :
    (socket.cfdIsWrite = true ∧ ∃ registration,
        state.server.epoll socket.cfd = some registration ∧ registration.isWrite = true) ∨
      state.QueueingWrite ∨ state.WriteTask ∨ state.Appending ∨ state.Closing := by
  have sound := sound_of_reachable reachable present
  rcases sound.waiting output with writeing | appending | closing
  · rcases sound.watched writeing with flag | queueing | task | closing
    · refine Or.inl ⟨flag, ⟨0, socket.cfdIsRead, true⟩, ?_, rfl⟩
      rw [sound.shows.registered, ClientSocket.registration, flag]
      exact if_pos (Or.inr rfl)
    · exact Or.inr (Or.inl queueing)
    · exact Or.inr (Or.inr (Or.inl task))
    · exact Or.inr (Or.inr (Or.inr (Or.inr closing)))
  · exact Or.inr (Or.inr (Or.inr (Or.inl appending)))
  · exact Or.inr (Or.inr (Or.inr (Or.inr closing)))

end Runs

/-! ## Write interest of a drained connection -/

/-- No task and no event callback is queued or running. -/
def Quiet (state : InterestState) : Prop :=
  (∀ thread, state.threads thread = .idle) ∧ state.epollThread = none ∧
    state.server.fetched = [] ∧ state.server.socketTasks = []

/-- A write task that reaches its `EPollAddClientWrite` finds `m_IsWriteing` set. -/
def RegistersWriteing (state : InterestState) : InterestEvent → Prop
  | .register thread => state.threads thread = .sent →
      (state.server.sockets 0).map ClientSocket.isWriteing = some true
  | _ => True

instance (state : InterestState) (event : InterestEvent) :
    Decidable (state.RegistersWriteing event) :=
  match event with
  | .register thread => inferInstanceAs (Decidable (state.threads thread = .sent →
      (state.server.sockets 0).map ClientSocket.isWriteing = some true))
  | .sendPackage _ | .wait .. | .unregister | .addTask | .take _ | .append _ | .send .. | .recv ..
  | .clientSocketClose _ | .close _ => .isTrue trivial

/-- The flag for writing follows `m_IsWriteing`, and that follows the buffer until
somebody is about to close. -/
structure Settled (state : InterestState) (socket : ClientSocket) : Prop where
  flagged : socket.cfdIsWrite = true → socket.isWriteing = true
  backed : socket.isWriteing = true → socket.writeBuffer ≠ [] ∨ state.Closing

section Runs

variable {cfd : Int} {memory : SizedBytes readBufMaxSize} {state next : InterestState}
  {socket after : ClientSocket} {event : InterestEvent}

/-- Every step that registers only while `m_IsWriteing` is set. -/
theorem Settled.effect (settled : state.Settled socket)
    (shown : state.server.sockets 0 = some socket) (effect : state.Effect socket event next)
    (registers : state.RegistersWriteing event) (present : next.server.sockets 0 = some after) :
    next.Settled after := by
  cases effect with
  | kept changed frame buffer isWriteing flags appending due =>
      obtain rfl := Option.some.inj (frame.shows.present.symm.trans present)
      refine ⟨?_, ?_⟩
      · intro flag
        rw [isWriteing]
        rcases flags flag with already | ⟨thread, rfl, sent⟩
        · exact settled.flagged already
        · have writeing := registers sent
          rw [shown] at writeing
          exact Option.some.inj writeing
      · intro writeing
        rw [buffer]
        exact (settled.backed (isWriteing ▸ writeing)).imp_right frame.closing
  | appended changed frame isWriteing cfdIsWrite longer appending due =>
      obtain rfl := Option.some.inj (frame.shows.present.symm.trans present)
      refine ⟨?_, ?_⟩
      · intro flag
        rw [isWriteing]
        exact settled.flagged (cfdIsWrite ▸ flag)
      · intro writeing
        refine (settled.backed (isWriteing ▸ writeing)).imp ?_ frame.closing
        intro more empty
        rw [empty] at longer
        exact more (List.prefix_nil.mp longer)
  | sent rest exit frame left closed due =>
      obtain rfl := Option.some.inj (frame.shows.present.symm.trans present)
      cases exit with
      | finished =>
          refine ⟨?_, fun writeing => by cases writeing⟩
          intro flag
          obtain ⟨notWriteing, flag⟩ : socket.isWriteing = false ∧ socket.cfdIsWrite = true := by
            simpa [ClientSocket.afterSend] using flag
          rw [settled.flagged flag] at notWriteing
          cases notWriteing
      | pending => exact ⟨fun _ => rfl, fun _ => Or.inl (mt left.mp (by decide))⟩
      | closed => exact ⟨settled.flagged, fun _ => Or.inr (closed rfl)⟩
  | ended absent =>
      rw [absent] at present
      cases present

/-- What holds of an open connection as long as no write task registers it while
`m_IsWriteing` is clear. -/
theorem settled_of_run {events : List InterestEvent}
    (run : (interestSystem cfd memory).Runs (fun state event _ => state.RegistersWriteing event)
      events state) (present : state.server.sockets 0 = some socket) : state.Settled socket := by
  induction run generalizing socket with
  | initial valid =>
      obtain rfl := valid
      obtain ⟨-, notFlagged, notWriteing⟩ := sound_start present
      exact ⟨by simp [notFlagged], by simp [notWriteing]⟩
  | step prior stepped registers inductionHypothesis =>
      obtain ⟨opened, shown, built⟩ := opened_of_step stepped
      have sound := sound_of_reachable prior.reachable shown
      exact (inductionHypothesis shown).effect shown (sound.effect_stepOpen built) registers present

/-- As long as write tasks register the fd only while `m_IsWriteing` is set, a connection
at rest is registered for writing only if it has output, and a drained one gets no event
for writing. -/
theorem writeInterest_dropped {events : List InterestEvent}
    (run : (interestSystem cfd memory).Runs (fun state event _ => state.RegistersWriteing event)
      events state) (quiet : state.Quiet) (present : state.server.sockets 0 = some socket) :
    (socket.cfdIsWrite = true → socket.writeBuffer ≠ []) ∧
      (socket.writeBuffer = [] → ∀ isRead,
        state.server.epollEvent (.client socket.cfd isRead true) = none) := by
  have settled := settled_of_run run present
  have wanted : socket.cfdIsWrite = true → socket.writeBuffer ≠ [] := by
    intro flag
    rcases settled.backed (settled.flagged flag) with output | ⟨thread, closing⟩
    · exact output
    · rw [quiet.1 thread] at closing
      cases closing
  refine ⟨wanted, ?_⟩
  intro drained isRead
  by_contra woken
  obtain ⟨polled, found⟩ := Option.ne_none_iff_exists'.mp woken
  have shows := (sound_of_reachable run.reachable present).shows
  exact wanted ((shows.epollEvent found).2 rfl) drained

end Runs

end InterestState

/-- A package is appended and cannot be sent yet; the fd becomes writable. -/
def untilWritable : List InterestEvent :=
  [.sendPackage [7], .take 0, .append 0, .send 0 [.wouldBlock], .wait false true, .unregister]

/-- The write task takes as much of the package as the kernel does, and registers again. -/
def writeTaskEvents (answers : List SendAnswer) : List InterestEvent :=
  [.addTask, .take 0, .send 0 answers, .register 0]

/-- Between the two halves of the event callback the fd is not registered, and the
callback is about to see to the output. -/
theorem untilWritable_not_stalled :
    ∃ state socket, (interestSystem 5 (.zeros readBufMaxSize)).Reachable state ∧
      state.server.sockets 0 = some socket ∧ socket.writeBuffer = [1, 0, 0, 0, 7] ∧
      ((socket.cfdIsWrite = true ∧ ∃ registration,
          state.server.epoll socket.cfd = some registration ∧ registration.isWrite = true) ∨
        state.QueueingWrite ∨ state.WriteTask ∨ state.Appending ∨ state.Closing) := by
  have followed : (LabelledSystem.follow InterestState.step (fun _ _ _ => True)
      (.start 5 (.zeros readBufMaxSize)) untilWritable).bind (fun state =>
        (state.server.sockets 0).map fun socket => socket.writeBuffer) =
          some [1, 0, 0, 0, 7] := rfl
  obtain ⟨state, ran, found⟩ := Option.bind_eq_some_iff.mp followed
  obtain ⟨socket, present, output⟩ := Option.map_eq_some_iff.mp found
  have reachable : (interestSystem 5 (.zeros readBufMaxSize)).Reachable state :=
    ⟨_, LabelledSystem.runs_of_follow ran⟩
  exact ⟨state, socket, reachable, present, output,
    InterestState.output_not_stalled reachable present (by simp [output])⟩

/-- The write task sends all there is and registers the fd again: at rest, with nothing
to send, the connection gets an event for writing. -/
theorem drained_still_registered :
    ∃ state socket, (interestSystem 5 (.zeros readBufMaxSize)).Reachable state ∧ state.Quiet ∧
      state.server.sockets 0 = some socket ∧ socket.cfdIsWrite = true ∧ socket.writeBuffer = [] ∧
      state.server.epollEvent (.client socket.cfd false true) ≠ none := by
  have followed : ∃ state, LabelledSystem.follow InterestState.step (fun _ _ _ => True)
      (.start 5 (.zeros readBufMaxSize)) (untilWritable ++ writeTaskEvents [.accepted 5]) =
        some state ∧ state.Quiet ∧ ∃ socket, state.server.sockets 0 = some socket ∧
          socket.cfdIsWrite = true ∧ socket.writeBuffer = [] ∧
          state.server.epollEvent (.client socket.cfd false true) ≠ none := by
    refine ⟨_, rfl, ⟨?_, rfl, rfl, rfl⟩, _, rfl, rfl, rfl, ?_⟩
    · intro thread
      cases thread <;> rfl
    · decide
  obtain ⟨state, ran, quiet, socket, facts⟩ := followed
  exact ⟨state, socket, ⟨_, LabelledSystem.runs_of_follow ran⟩, quiet, facts⟩

/-- The write task finds the peer slow: it registers the fd with output left. -/
theorem slowPeer_keeps_interest :
    ∃ state socket, (interestSystem 5 (.zeros readBufMaxSize)).Reachable state ∧ state.Quiet ∧
      state.server.sockets 0 = some socket ∧ socket.cfdIsWrite = true ∧ socket.writeBuffer ≠ [] := by
  have followed : ∃ state, LabelledSystem.follow InterestState.step
      (fun state event _ => state.RegistersWriteing event)
      (.start 5 (.zeros readBufMaxSize))
      (untilWritable ++ writeTaskEvents [.accepted 2, .wouldBlock]) =
        some state ∧ state.Quiet ∧ ∃ socket, state.server.sockets 0 = some socket ∧
          socket.cfdIsWrite = true := by
    refine ⟨_, rfl, ⟨?_, rfl, rfl, rfl⟩, _, rfl, rfl⟩
    intro thread
    cases thread <;> rfl
  obtain ⟨state, ran, quiet, socket, present, flag⟩ := followed
  have run : (interestSystem 5 (.zeros readBufMaxSize)).Runs
      (fun state event _ => state.RegistersWriteing event) _ state :=
    LabelledSystem.runs_of_follow ran
  exact ⟨state, socket, run.reachable, quiet, present, flag,
    (InterestState.writeInterest_dropped run quiet present).1 flag⟩

end SocketMessage.Server
