import SocketMessage.Server.WriteInterest

/-!
# Who wants to read

The read interest of one open connection under the threads of `SocketControl`. It is
switched off by the event callback and on again by the read task the callback queues, so
that the interest and the read activities exclude each other. A connection is open until
somebody's `ClientSocketCloseAndDelete`.

A thread that has decided to close the connection does not show whose task it runs;
`readers` records who has taken a read task and has not finished it.
-/

namespace SocketMessage.Server

open SocketMessage.Lib SocketMessage.Frame

/-- The connection with the threads that run a read task: from the take to the
`EPollAddClientRead` or the close. -/
structure ReadState where
  interest : InterestState
  readers : List Nat

namespace ReadState

/-- Who runs a read task after a step. -/
def readersAfter (state : ReadState) : InterestEvent → List Nat
  | .take thread =>
      if state.interest.server.socketTasks.head? = some (.read 0) then thread :: state.readers
      else state.readers
  | .register thread => state.readers.erase thread
  | .close thread => state.readers.erase thread
  | _ => state.readers

/-- One step. -/
def step (state : ReadState) (event : InterestEvent) : Option ReadState :=
  (state.interest.step event).map fun interest => ⟨interest, state.readersAfter event⟩

/-- The connection has been accepted under an fd. -/
def start (cfd : Int) (memory : SizedBytes readBufMaxSize) : ReadState := ⟨.start cfd memory, []⟩

end ReadState

/-- One connection from its accept on, with its readers. -/
def readSystem (cfd : Int) (memory : SizedBytes readBufMaxSize) :
    LabelledSystem ReadState InterestEvent :=
  .ofStep (.start cfd memory) ReadState.step

namespace ReadState

/-- Read activities: an event callback past `EPollDelClientRead`, the read tasks in the
queue, the threads that run one. -/
def readActivities (state : ReadState) : Nat :=
  state.interest.epollThread.toList.count (.read 0) +
    state.interest.server.socketTasks.count (.read 0) + state.readers.length

/-- A thread is at its `Recv`. -/
def Receiving (state : ReadState) (thread : Nat) : Prop :=
  state.interest.threads thread = .started (.read 0)

/-- Either the read interest is on and nobody reads, or it is off and there is one read
activity. The rest keeps track of the activity: an event to read is only fetched while
the interest is on, and the readers are the threads that do what a read task does. -/
structure Exclusive (state : ReadState) (socket : ClientSocket) : Prop where
  single : state.readActivities = if socket.cfdIsRead then 0 else 1
  oneEvent : state.interest.server.fetched.length ≤ 1
  asked : ∀ event ∈ state.interest.server.fetched, event.isRead = true → socket.cfdIsRead = true
  running : ∀ thread ∈ state.readers, state.interest.server.fault = none →
    state.interest.threads thread = .started (.read 0) ∨
      state.interest.threads thread = .received ∨ state.interest.threads thread = .closing
  known : ∀ thread, state.interest.threads thread = .started (.read 0) ∨
    state.interest.threads thread = .received → thread ∈ state.readers

section Step

variable {state next : ReadState} {socket after : ClientSocket} {event : InterestEvent}

/-- A thread at another place runs no read task. -/
theorem Exclusive.not_reader (exclusive : state.Exclusive socket)
    (intact : state.interest.server.fault = none) {thread : Nat}
    (elsewhere : state.interest.threads thread ≠ .started (.read 0) ∧
      state.interest.threads thread ≠ .received ∧ state.interest.threads thread ≠ .closing) :
    thread ∉ state.readers := by
  intro member
  rcases exclusive.running thread member intact with there | there | there
  · exact elsewhere.1 there
  · exact elsewhere.2.1 there
  · exact elsewhere.2.2 there

/-- A thread goes on, and neither the read interest nor the tasks are touched. -/
theorem Exclusive.goto (exclusive : state.Exclusive socket)
    (intact : state.interest.server.fault = none) {server : ServerState} {thread : Nat}
    {activity : Activity} (fetched : server.fetched = state.interest.server.fetched)
    (tasks : server.socketTasks = state.interest.server.socketTasks)
    (flag : after.cfdIsRead = socket.cfdIsRead)
    (stays : thread ∈ state.readers → server.fault = none →
      activity = .started (.read 0) ∨ activity = .received ∨ activity = .closing)
    (arrives : activity = .started (.read 0) ∨ activity = .received → thread ∈ state.readers) :
    Exclusive ⟨({ state.interest with server }.goto thread activity), state.readers⟩ after where
  single := by
    rw [flag, ← exclusive.single]
    exact congrArg (fun tasks : List SocketTask =>
      state.interest.epollThread.toList.count (.read 0) + tasks.count (.read 0) +
        state.readers.length) tasks
  oneEvent := by
    rw [InterestState.goto, fetched]
    exact exclusive.oneEvent
  asked polled member isRead := by
    rw [InterestState.goto, fetched] at member
    rw [flag]
    exact exclusive.asked polled member isRead
  running other member unharmed := by
    by_cases same : other = thread
    · subst same
      simpa [InterestState.goto] using stays member unharmed
    · simpa [InterestState.goto, same] using exclusive.running other member intact
  known other there := by
    by_cases same : other = thread
    · subst same
      exact arrives (by simpa [InterestState.goto] using there)
    · exact exclusive.known other (by simpa [InterestState.goto, same] using there)

/-- The first half of the event callback, once it has its event: an event to read turns
the interest into the activity of the callback. -/
theorem Exclusive.unregister (exclusive : state.Exclusive socket)
    (shows : state.interest.server.Shows 0 socket) {polled : EpollEvent}
    (source : polled.source = .client 0) (idle : state.interest.epollThread = none)
    (fetched : state.interest.server.fetched = [polled])
    (present : (({ state.interest.server with fetched := [] }.unregister polled).1).sockets 0 =
      some after) :
    Exclusive ⟨{ state.interest with
      server := ({ state.interest.server with fetched := [] }.unregister polled).1
      epollThread := ({ state.interest.server with fetched := [] }.unregister polled).2 },
      state.readers⟩ after := by
  have middle : { state.interest.server with fetched := [] }.Shows 0 socket :=
    shows.of_same rfl rfl
  have fd := ServerState.fdOf_of_socket middle.present
  have handled : ∀ (changed : ServerState) (task : Option SocketTask),
      ServerState.Quiet { state.interest.server with fetched := [] } changed →
      ReadState.readActivities ⟨{ state.interest with server := changed, epollThread := task },
        state.readers⟩ = (if after.cfdIsRead then 0 else 1) →
      Exclusive ⟨{ state.interest with server := changed, epollThread := task },
        state.readers⟩ after := by
    intro changed task quiet single
    have nothing : changed.fetched = [] := quiet.fetched
    refine ⟨single, ?_, ?_, ?_, exclusive.known⟩
    · rw [nothing]
      exact Nat.zero_le 1
    · intro event member
      rw [nothing] at member
      cases member
    · intro thread member unharmed
      exact exclusive.running thread member (quiet.fault ▸ unharmed)
  have before := exclusive.single
  unfold readActivities at before
  rw [idle] at before
  simp only [ServerState.unregister, source] at present ⊢
  cases isRead : polled.isRead with
  | true =>
      simp only [isRead, if_true] at present ⊢
      have quiet := @ServerState.quiet_ePollDelClientRead _ 0 _ fd
      obtain rfl := Option.some.inj (middle.ePollDelClientRead.present.symm.trans present)
      refine handled _ _ quiet ?_
      have flag := exclusive.asked polled (by rw [fetched]; exact List.mem_cons_self) isRead
      rw [flag] at before
      rw [readActivities, quiet.socketTasks]
      simp only [Option.toList_none, Option.toList_some, List.count_nil, List.count_singleton_self,
        Bool.false_eq_true, if_false, if_true] at before ⊢
      omega
  | false =>
      cases isWrite : polled.isWrite with
      | true =>
          simp only [isRead, isWrite, if_true, Bool.false_eq_true, if_false] at present ⊢
          have quiet := @ServerState.quiet_ePollDelClientWrite _ 0 _ fd
          obtain rfl := Option.some.inj (middle.ePollDelClientWrite.present.symm.trans present)
          refine handled _ _ quiet ?_
          rw [readActivities, quiet.socketTasks]
          simpa using before
      | false =>
          simp only [isRead, isWrite, Bool.false_eq_true, if_false] at present ⊢
          obtain rfl := Option.some.inj (middle.present.symm.trans present)
          refine handled _ _ (.refl _) ?_
          rw [readActivities]
          simpa using before

/-- A thread takes the task at the front of the queue; a read task makes it a reader. -/
theorem Exclusive.take (exclusive : state.Exclusive socket)
    (intact : state.interest.server.fault = none) {thread : Nat} {task : SocketTask}
    {rest : List SocketTask} (idle : state.interest.threads thread = .idle)
    (front : state.interest.server.socketTasks = task :: rest) :
    Exclusive ⟨({ state.interest with
      server := { state.interest.server with socketTasks := rest } }.goto thread (.started task)),
      state.readersAfter (.take thread)⟩ socket := by
  have before := exclusive.single
  have notReader : thread ∉ state.readers := exclusive.not_reader intact (by simp [idle])
  unfold readActivities at before
  rw [front, List.count_cons] at before
  have readers : state.readersAfter (.take thread) =
      if task = .read 0 then thread :: state.readers else state.readers := by
    simp [readersAfter, front]
  refine ⟨?_, exclusive.oneEvent, exclusive.asked, ?_, ?_⟩
  · rw [readActivities, readers, ← before]
    simp only [InterestState.goto]
    by_cases reads : task = .read 0
    · simp only [reads, if_true, List.length_cons, beq_self_eq_true]
      omega
    · simp [reads]
  · intro other member unharmed
    rw [readers] at member
    by_cases same : other = thread
    · subst same
      by_cases reads : task = .read 0
      · simp [InterestState.goto, reads]
      · rw [if_neg reads] at member
        exact absurd member notReader
    · have old : other ∈ state.readers := by
        split at member
        · exact (List.mem_cons.mp member).resolve_left same
        · exact member
      simpa [InterestState.goto, same] using exclusive.running other old intact
  · intro other there
    rw [readers]
    by_cases same : other = thread
    · subst same
      have reads : task = .read 0 := by simpa [InterestState.goto] using there
      rw [if_pos reads]
      exact List.mem_cons_self
    · have old := exclusive.known other (by simpa [InterestState.goto, same] using there)
      split
      · exact List.mem_cons_of_mem _ old
      · exact old

/-- There is at most one read activity. -/
theorem Exclusive.readActivities_le (exclusive : state.Exclusive socket) :
    state.readActivities ≤ 1 := by
  rw [exclusive.single]
  split <;> omega

/-- A reader is the only read activity. -/
theorem Exclusive.alone (exclusive : state.Exclusive socket) {thread : Nat}
    (member : thread ∈ state.readers) :
    state.readers = [thread] ∧ state.interest.epollThread.toList.count (.read 0) = 0 ∧
      state.interest.server.socketTasks.count (.read 0) = 0 := by
  have most := exclusive.readActivities_le
  have positive := List.length_pos_of_mem member
  unfold readActivities at most
  obtain ⟨reader, readers⟩ := List.length_eq_one_iff.mp (show state.readers.length = 1 by omega)
  rw [readers] at member
  obtain rfl := List.mem_singleton.mp member
  exact ⟨readers, by omega, by omega⟩

/-- A read task that has received registers again: the one activity gives the interest
back. -/
theorem Exclusive.register (exclusive : state.Exclusive socket)
    (shows : state.interest.server.Shows 0 socket) {thread : Nat}
    (received : state.interest.threads thread = .received) :
    Exclusive ⟨({ state.interest with
      server := state.interest.server.ePollAddClientRead 0 }.goto thread .idle),
      state.readers.erase thread⟩ { socket with cfdIsRead := true } := by
  have quiet := ServerState.quiet_ePollAddClientRead (ServerState.fdOf_of_socket shows.present)
  obtain ⟨readers, noCallback, noTask⟩ := exclusive.alone (exclusive.known thread (Or.inr received))
  have nobody : state.readers.erase thread = [] := by simp [readers]
  rw [nobody]
  refine ⟨?_, ?_, fun _ _ _ => rfl, ?_, ?_⟩
  · simp only [readActivities, InterestState.goto, quiet.socketTasks, noTask, noCallback]
    rfl
  · simp only [InterestState.goto, quiet.fetched]
    exact exclusive.oneEvent
  · intro other member
    cases member
  · intro other there
    by_cases same : other = thread
    · subst same
      simp [InterestState.goto] at there
    · have old := exclusive.known other (by simpa [InterestState.goto, same] using there)
      rw [readers] at old
      exact absurd (List.mem_singleton.mp old) same

/-- `SendPackage` queues no read task. -/
theorem Exclusive.sendPackage (exclusive : state.Exclusive socket)
    (present : state.interest.server.sockets 0 = some socket) (data : List Byte)
    (still : (state.interest.server.sendPackage socket.cfd data none).sockets 0 = some after) :
    Exclusive ⟨{ state.interest with
      server := state.interest.server.sendPackage socket.cfd data none }, state.readers⟩ after := by
  have kept : ∀ server : ServerState, server.sockets 0 = some after →
      server.sockets = state.interest.server.sockets →
      server.fetched = state.interest.server.fetched →
      server.socketTasks.count (.read 0) = state.interest.server.socketTasks.count (.read 0) →
      (server.fault = none → state.interest.server.fault = none) →
      Exclusive ⟨{ state.interest with server }, state.readers⟩ after := by
    intro server still sockets fetched tasks fault
    rw [sockets] at still
    obtain rfl := Option.some.inj (present.symm.trans still)
    refine ⟨?_, ?_, ?_, ?_, exclusive.known⟩
    · rw [← exclusive.single]
      simp only [readActivities, tasks]
    · rw [fetched]
      exact exclusive.oneEvent
    · rw [fetched]
      exact exclusive.asked
    · exact fun thread member unharmed => exclusive.running thread member (fault unharmed)
  rcases state.interest.server.sendPackage_cases socket.cfd data none with same | ⟨fault, failed⟩ |
    ⟨task, queued⟩
  · rw [same] at still ⊢
    exact kept _ still rfl rfl rfl id
  · rw [failed] at still ⊢
    exact kept _ still rfl rfl rfl fun unharmed => by cases unharmed
  · rw [queued] at still ⊢
    exact kept _ still rfl rfl (by simp [ServerState.addSocketTask]) id

/-- `epoll_wait` returns an event, to read only if the interest is on. -/
theorem Exclusive.wait (exclusive : state.Exclusive socket)
    (shows : state.interest.server.Shows 0 socket) {isRead isWrite : Bool} {polled : EpollEvent}
    (found : state.interest.server.epollEvent (.client socket.cfd isRead isWrite) = some polled) :
    Exclusive ⟨{ state.interest with
      server := { state.interest.server with fetched := [polled] } }, state.readers⟩ socket := by
  refine ⟨exclusive.single, Nat.le_refl 1, ?_, exclusive.running, exclusive.known⟩
  intro event member reads
  obtain rfl := List.mem_singleton.mp member
  exact shows.epollEvent_read found reads

/-- The callback queues its task. -/
theorem Exclusive.addTask (exclusive : state.Exclusive socket) {task : SocketTask}
    (due : state.interest.epollThread = some task) :
    Exclusive ⟨{ state.interest with
      server := state.interest.server.addSocketTask task, epollThread := none },
      state.readers⟩ socket := by
  refine ⟨?_, exclusive.oneEvent, exclusive.asked, exclusive.running, exclusive.known⟩
  rw [← exclusive.single]
  simp only [readActivities, due, ServerState.addSocketTask, List.count_append,
    Option.toList_none, Option.toList_some, List.count_nil]
  omega

/-- A critical section of `Send` by a thread that runs no read task. -/
theorem Exclusive.send (exclusive : state.Exclusive socket)
    (intact : state.interest.server.fault = none)
    (shows : state.interest.server.Shows 0 socket) {thread : Nat} {answers : List SendAnswer}
    {server : ServerState} {closed : Bool} {activity : Activity} {sendStatistics : SendStatistics}
    (sent : state.interest.server.send 0 socket answers = some (server, closed))
    (elsewhere : state.interest.threads thread ≠ .started (.read 0) ∧
      state.interest.threads thread ≠ .received ∧ state.interest.threads thread ≠ .closing)
    (goes : activity ≠ .started (.read 0) ∧ activity ≠ .received)
    (present : server.sockets 0 = some after) :
    Exclusive ⟨({ state.interest with server := { server with sendStatistics } }.goto thread
      activity), state.readers⟩ after := by
  obtain ⟨rest, exit, _, _, still⟩ := shows.send sent
  have quiet := (ServerState.quiet_send (ServerState.fdOf_of_socket shows.present) sent).1
  obtain rfl := Option.some.inj (still.present.symm.trans present)
  have notReader := exclusive.not_reader intact elsewhere
  refine exclusive.goto intact quiet.fetched quiet.socketTasks ?_
    (fun member => absurd member notReader) ?_
  · cases exit <;> rfl
  · rintro (reads | received)
    · exact absurd reads goes.1
    · exact absurd received goes.2

/-- Every step keeps interest and activities exclusive. -/
theorem Exclusive.step (exclusive : state.Exclusive socket)
    (sound : state.interest.Sound socket) (intact : state.interest.server.fault = none)
    (opened : state.interest.stepOpen socket event = some next.interest)
    (readers : next.readers = state.readersAfter event)
    (present : next.interest.server.sockets 0 = some after) : next.Exclusive after := by
  obtain ⟨interest, _⟩ := next
  obtain rfl : _ = _ := readers
  have shows := sound.shows
  have same : state.interest.server.sockets 0 = some after → socket = after := fun there =>
    Option.some.inj (shows.present.symm.trans there)
  cases InterestState.moves_of_stepOpen opened with
  | sendPackage => exact exclusive.sendPackage shows.present _ present
  | wait found nothing =>
      obtain rfl := same present
      exact exclusive.wait shows found
  | @unregister polled rest idle fetched =>
      have alone : rest = [] := by
        have one := exclusive.oneEvent
        rw [fetched, List.length_cons] at one
        exact List.eq_nil_of_length_eq_zero (by omega)
      subst alone
      have source := sound.sources polled (by rw [fetched]; exact List.mem_cons_self)
      exact exclusive.unregister shows source idle fetched present
  | addTask due =>
      obtain rfl := same present
      exact exclusive.addTask due
  | take idle front =>
      obtain rfl := same present
      exact exclusive.take intact idle front
  | @unknown thread _ started =>
      have notReader : thread ∉ state.readers := exclusive.not_reader intact (by simp [started])
      obtain rfl := same present
      exact exclusive.goto intact rfl rfl rfl (fun member => absurd member notReader) (by simp)
  | @noRoom thread _ started =>
      have notReader : thread ∉ state.readers := exclusive.not_reader intact (by simp [started])
      obtain rfl := same present
      exact exclusive.goto intact rfl rfl rfl (fun member => absurd member notReader) (by simp)
  | @append thread task started =>
      have notReader : thread ∉ state.readers := exclusive.not_reader intact (by simp [started])
      have appended : (state.interest.server.append 0 socket task).sockets 0 =
          some { socket with writeBuffer := socket.writeBuffer ++ task.sendData } := by
        simp [ServerState.append, ServerState.setSocket]
      obtain rfl := Option.some.inj (appended.symm.trans present)
      exact exclusive.goto intact rfl rfl rfl (fun member => absurd member notReader) (by simp)
  | @sendTask _ _ _ _ closed appended sent =>
      exact exclusive.send intact shows sent (by simp [appended]) (by cases closed <;> simp) present
  | @writeTask _ _ _ closed started sent =>
      exact exclusive.send intact shows sent (by simp [started]) (by cases closed <;> simp) present
  | closed started received =>
      obtain ⟨readBuffer, still, _, fetched, tasks⟩ := shows.recv received
      obtain rfl := Option.some.inj (still.present.symm.trans present)
      exact exclusive.goto intact fetched tasks rfl (fun _ _ => Or.inr (Or.inr rfl))
        fun _ => exclusive.known _ (Or.inl started)
  | finished started received =>
      obtain ⟨readBuffer, still, _, fetched, tasks⟩ := shows.recv received
      obtain rfl := Option.some.inj (still.present.symm.trans present)
      exact exclusive.goto intact fetched tasks rfl (fun _ _ => Or.inr (Or.inl rfl))
        fun _ => exclusive.known _ (Or.inl started)
  | broken started received =>
      -- The run ends here, with the task of the thread unfinished.
      obtain ⟨readBuffer, still, _, fetched, tasks⟩ := shows.recv received
      obtain rfl := Option.some.inj (still.present.symm.trans present)
      exact exclusive.goto intact fetched tasks rfl (fun _ unharmed => by cases unharmed)
        fun _ => exclusive.known _ (Or.inl started)
  | registerRead received =>
      obtain rfl := Option.some.inj (shows.ePollAddClientRead.present.symm.trans present)
      exact exclusive.register shows received
  | @registerWrite thread sent =>
      obtain rfl := Option.some.inj (shows.ePollAddClientWrite.present.symm.trans present)
      have notReader : thread ∉ state.readers := exclusive.not_reader intact (by simp [sent])
      have quiet := ServerState.quiet_ePollAddClientWrite
        (ServerState.fdOf_of_socket shows.present)
      rw [readersAfter, List.erase_of_not_mem notReader]
      exact exclusive.goto intact quiet.fetched quiet.socketTasks rfl
        (fun member => absurd member notReader) (by simp)
  | clientSocketClose idle =>
      obtain rfl := same present
      exact exclusive.goto intact rfl rfl rfl (fun _ _ => Or.inr (Or.inr rfl)) (by simp)
  | close closing =>
      have absent := shows.sockets_close sound.entry
      exact absurd (absent.symm.trans present) (by simp)

end Step

/-! ## Every run -/

variable {cfd : Int} {memory : SizedBytes readBufMaxSize} {state next : ReadState}
  {event : InterestEvent}

/-- A step, taken apart. -/
theorem opened_of_step (stepped : state.step event = some next) :
    state.interest.server.fault = none ∧ state.interest.step event = some next.interest ∧
      next.readers = state.readersAfter event ∧
      ∃ socket, state.interest.server.sockets 0 = some socket ∧
        state.interest.stepOpen socket event = some next.interest := by
  obtain ⟨interest, moved, rfl⟩ := Option.map_eq_some_iff.mp stepped
  exact ⟨(Option.ite_none_right_eq_some.mp moved).1, moved, rfl,
    InterestState.opened_of_step moved⟩

/-- The connections of the model without the record of readers. -/
theorem interest_reachable (reachable : (readSystem cfd memory).Reachable state) :
    (interestSystem cfd memory).Reachable state.interest := by
  obtain ⟨events, run⟩ := reachable
  induction run with
  | initial valid =>
      obtain rfl := valid
      exact ⟨[], .initial rfl⟩
  | step _ stepped _ inductionHypothesis =>
      exact inductionHypothesis.step (opened_of_step stepped).2.1

/-- Recording the readers hinders nobody. -/
theorem reachable_of_interest {interest : InterestState}
    (reachable : (interestSystem cfd memory).Reachable interest) :
    ∃ readers, (readSystem cfd memory).Reachable ⟨interest, readers⟩ := by
  obtain ⟨events, run⟩ := reachable
  induction run with
  | initial valid =>
      obtain rfl := valid
      exact ⟨[], [], .initial rfl⟩
  | @step _ before event next _ stepped _ inductionHypothesis =>
      obtain ⟨readers, prior⟩ := inductionHypothesis
      have recorded : ReadState.step ⟨before, readers⟩ event =
          some ⟨next, ReadState.readersAfter ⟨before, readers⟩ event⟩ :=
        Option.map_eq_some_iff.mpr ⟨next, stepped, rfl⟩
      exact ⟨_, prior.step recorded⟩

/-- A connection that has just been accepted is read by nobody. -/
theorem exclusive_start {socket : ClientSocket}
    (present : (start cfd memory).interest.server.sockets 0 = some socket) :
    (start cfd memory).Exclusive socket := by
  obtain ⟨shows, _, nothing, noTasks⟩ := InterestState.start_facts cfd memory
  obtain rfl := Option.some.inj (shows.present.symm.trans present)
  refine ⟨?_, ?_, fun _ _ _ => rfl, ?_, ?_⟩
  · rw [readActivities, start, noTasks]
    rfl
  · rw [start, nothing]
    exact Nat.zero_le 1
  · intro thread member
    cases member
  · intro thread there
    rcases there with started | received
    · cases started
    · cases received

/-- What holds of an open connection in every reachable state. -/
theorem exclusive_of_reachable (reachable : (readSystem cfd memory).Reachable state)
    {socket : ClientSocket} (present : state.interest.server.sockets 0 = some socket) :
    state.Exclusive socket := by
  obtain ⟨events, run⟩ := reachable
  induction run generalizing socket with
  | initial valid =>
      obtain rfl := valid
      exact exclusive_start present
  | step prior stepped _ inductionHypothesis =>
      obtain ⟨intact, _, readers, opened, shown, built⟩ := opened_of_step stepped
      have sound := InterestState.sound_of_reachable (interest_reachable prior.reachable) shown
      exact (inductionHypothesis shown).step sound intact built readers present

/-- In every reachable state of an open connection, either `m_CfdIsRead` is true, the fd
is registered for `EPOLLIN` and there is no read activity, or the flag is false, the fd is
not registered for `EPOLLIN` and there is one read activity; so that at most one thread
is at its `Recv`. -/
theorem reads_exclusive (reachable : (readSystem cfd memory).Reachable state)
    {socket : ClientSocket} (present : state.interest.server.sockets 0 = some socket) :
    ((socket.cfdIsRead = true ∧ state.readActivities = 0) ∨
        (socket.cfdIsRead = false ∧ state.readActivities = 1)) ∧
      (socket.cfdIsRead = true ↔ ∃ registration,
        state.interest.server.epoll socket.cfd = some registration ∧ registration.isRead = true) ∧
      ∀ left right, state.Receiving left → state.Receiving right → left = right := by
  have exclusive := exclusive_of_reachable reachable present
  have sound := InterestState.sound_of_reachable (interest_reachable reachable) present
  refine ⟨?_, ?_, ?_⟩
  · have single := exclusive.single
    cases flag : socket.cfdIsRead with
    | true => exact Or.inl ⟨rfl, by simpa [flag] using single⟩
    | false => exact Or.inr ⟨rfl, by simpa [flag] using single⟩
  · rw [sound.shows.registered, ClientSocket.registration]
    constructor
    · intro flag
      exact ⟨_, if_pos (Or.inl flag), flag⟩
    · rintro ⟨registration, found, isRead⟩
      obtain ⟨_, built⟩ := Option.ite_none_right_eq_some.mp found
      obtain rfl := Option.some.inj built
      exact isRead
  · intro left right leftReceives rightReceives
    have leftMember := exclusive.known left (Or.inl leftReceives)
    have rightMember := exclusive.known right (Or.inl rightReceives)
    rw [(exclusive.alone leftMember).1] at rightMember
    exact (List.mem_singleton.mp rightMember).symm

/-- Somebody sends the client a package while one of its packages is read. -/
def readWhileSending : List InterestEvent :=
  [.wait true false, .unregister, .addTask, .take 0, .sendPackage [7], .take 1, .append 1,
    .send 1 [.wouldBlock]]

/-- While a thread is at its `Recv` the fd is registered for writing only, and this is
the one read activity. -/
theorem readWhileSending_exclusive :
    ∃ state socket, (readSystem 5 (.zeros readBufMaxSize)).Reachable state ∧
      state.interest.server.sockets 0 = some socket ∧ state.Receiving 0 ∧
      socket.cfdIsWrite = true ∧
      ((socket.cfdIsRead = true ∧ state.readActivities = 0) ∨
        (socket.cfdIsRead = false ∧ state.readActivities = 1)) ∧
      (socket.cfdIsRead = true ↔ ∃ registration,
        state.interest.server.epoll socket.cfd = some registration ∧ registration.isRead = true) ∧
      ∀ left right, state.Receiving left → state.Receiving right → left = right := by
  have followed : ∃ state, LabelledSystem.follow ReadState.step (fun _ _ _ => True)
      (.start 5 (.zeros readBufMaxSize)) readWhileSending = some state ∧
        state.Receiving 0 ∧ ∃ socket, state.interest.server.sockets 0 = some socket ∧
          socket.cfdIsWrite = true :=
    ⟨_, rfl, rfl, _, rfl, rfl⟩
  obtain ⟨state, ran, receives, socket, present, writes⟩ := followed
  have reachable : (readSystem 5 (.zeros readBufMaxSize)).Reachable state :=
    ⟨_, LabelledSystem.runs_of_follow ran⟩
  exact ⟨state, socket, reachable, present, receives, writes, reads_exclusive reachable present⟩

end ReadState

end SocketMessage.Server
