import SocketMessage.Server.Ledger

/-!
# The server refines its ledger

Every function of the server does to the ledger what a step of it may do
(`effect_step`), so that its runs are runs of the ledger (`runs_refine`).
-/

namespace SocketMessage.Server

open SocketMessage.Lib SocketMessage.Frame SocketMessage.Wire

namespace ServerState

section Effect

variable {before : Ledger Nat Int} {event : LedgerEvent Nat Int} {state : ServerState}
  {pointer : Nat} {cfd : Int}

/-! ## The functions of the server -/

/-- Only an fd of the step's own is accepted. -/
theorem Effect.acceptClients (noneClosing : ∀ pointer, ¬ event.closing pointer)
    {clients : List (Int × SizedBytes readBufMaxSize)} {next : ServerState}
    (effect : Effect before event state) (opened : ∀ client ∈ clients, event.opened client.1)
    (accepted : state.acceptClients clients = some next) : Effect before event next := by
  induction clients generalizing state with
  | nil =>
      obtain rfl := Option.some.inj accepted
      exact effect
  | cons client rest inductionHypothesis =>
      simp only [ServerState.acceptClients] at accepted
      split at accepted
      · next free =>
          have connected :=
            connected_server4ClientConnectCallback effect.consistent free client.2
          exact inductionHypothesis
            (effect.connect noneClosing (opened client List.mem_cons_self) free connected)
            (fun other member => opened other (List.mem_cons_of_mem _ member)) accepted
      · cases accepted

/-- `SendPackage`, in answer to a package that was waiting. -/
theorem Effect.sendPackage (effect : Effect before event state)
    (noneOpened : ∀ cfd, ¬ event.opened cfd) {data : List Byte} {answers : Option Nat}
    (waiting : ∀ origin, answers = some origin → before.pending cfd origin) :
    Effect before event (state.sendPackage cfd data answers) := by
  unfold ServerState.sendPackage
  split
  · exact effect
  · next pointer entry =>
      have present := (effect.consistent.entries cfd pointer).mp entry
      obtain ⟨socket, found, -⟩ := fdOf_eq_some_iff.mp present
      rw [withSocket_of_present found]
      dsimp only
      split
      · exact effect
      split
      · exact effect.fail (by decide)
      · exact effect.addSendTask noneOpened present waiting

/-- The calls of a handler. -/
theorem Effect.runActions (noneOpened : ∀ cfd, ¬ event.opened cfd) {pack : DataPack}
    {actions : List HandlerAction}
    (waiting : ∀ data, .answer data ∈ actions → before.pending pack.cfd pack.origin)
    (effect : Effect before event state) :
    Effect before event (runActions pack state actions) := by
  induction actions generalizing state with
  | nil => exact effect
  | cons action rest inductionHypothesis =>
      have acted : Effect before event (state.act pack action) := by
        cases action with
        | answer data =>
            refine effect.sendPackage noneOpened ?_
            rintro origin ⟨⟩
            exact waiting data List.mem_cons_self
        | clientOpen userId => exact effect.quiet quiet_counters
        | relay userId data =>
            simp only [act]
            split
            · exact effect.sendPackage noneOpened (by simp)
            · exact effect
        | fail => exact effect.fail (by decide)
      simp only [ServerState.runActions]
      split
      · exact inductionHypothesis
          (fun data member => waiting data (List.mem_cons_of_mem _ member)) acted
      · exact acted

/-- `Write` appends the package of a task that was waiting, or drops it. -/
theorem Effect.write (effect : Effect before event state)
    (noneOpened : ∀ cfd, ¬ event.opened cfd) {socket : ClientSocket} {task : SendTask}
    (found : state.sockets pointer = some socket)
    (waiting : ∀ meant ∈ task.recipients, before.pending socket.cfd meant)
    {answers : List SendAnswer} {next : ServerState} {closed : Bool}
    (written : state.write pointer socket task answers = some (next, closed)) :
    Effect before event next ∧ next.fdOf pointer = some socket.cfd ∧
      (closed → answers.getLast? = some .nothing ∨ answers.getLast? = some .failed) := by
  have present := fdOf_of_socket found
  simp only [ServerState.write] at written
  split at written
  · split at written
    · obtain ⟨rfl, rfl⟩ := Prod.mk.inj (Option.some.inj written)
      exact ⟨effect, present, by simp⟩
    · cases written
  · have appended := effect.append noneOpened present waiting
    obtain ⟨quiet, last⟩ := quiet_send (by exact present) written
    refine ⟨appended.quiet quiet, ?_, last⟩
    rw [quiet.fdOf]
    exact present

/-- The task of a readable client. -/
theorem Effect.readTask (effect : Effect before event state)
    (noneOpened : ∀ cfd, ¬ event.opened cfd) (held : before.held pointer)
    (gone : state.fdOf pointer = none → before.nameOf pointer = none)
    {answers : List RecvAnswer}
    (closing : answers.getLast? = some .peerClosed ∨ answers.getLast? = some .failed →
      event.closing pointer)
    {next : ServerState} (done : state.readTask pointer answers = some next) :
    Effect before event next := by
  unfold ServerState.readTask at done
  split at done
  · next absent =>
      obtain rfl := Option.some.inj done
      exact effect.misuse held (gone (fdOf_of_absent absent))
  · next socket found =>
      simp only [Option.bind_eq_bind, Option.bind_eq_some_iff] at done
      obtain ⟨⟨session, exit⟩, looped, result⟩ := done
      have present := fdOf_of_socket found
      have set :=
        @quiet_setSocket state pointer { socket with readBuffer := session.buffer } present
      have setPresent := present
      rw [← set.fdOf] at setPresent
      have read := (effect.quiet set).addData noneOpened setPresent session.delivered session.owner
      cases exit with
      | finished =>
          obtain rfl := Option.some.inj result
          exact read.quiet (quiet_ePollAddClientRead setPresent)
      | closed =>
          obtain rfl := Option.some.inj result
          exact read.delete noneOpened setPresent (closing (recvLoop_closed looped))
      | broken =>
          obtain rfl := Option.some.inj result
          exact read.fail (by decide)

/-- The task of a writable client. -/
theorem Effect.writeTask (effect : Effect before event state)
    (noneOpened : ∀ cfd, ¬ event.opened cfd) (held : before.held pointer)
    (gone : state.fdOf pointer = none → before.nameOf pointer = none)
    {answers : List SendAnswer}
    (closing : answers.getLast? = some .nothing ∨ answers.getLast? = some .failed →
      event.closing pointer)
    {next : ServerState} (done : state.writeTask pointer answers = some next) :
    Effect before event next := by
  unfold ServerState.writeTask at done
  split at done
  · next absent =>
      obtain rfl := Option.some.inj done
      exact effect.misuse held (gone (fdOf_of_absent absent))
  · next socket found =>
      simp only [Option.bind_eq_bind, Option.bind_eq_some_iff] at done
      obtain ⟨⟨sent, closed⟩, sending, result⟩ := done
      have present := fdOf_of_socket found
      obtain ⟨quiet, last⟩ := quiet_send present sending
      have sentPresent := present
      rw [← quiet.fdOf] at sentPresent
      obtain rfl := Option.some.inj result
      split
      · next isClosed =>
          exact (effect.quiet quiet).delete noneOpened sentPresent (closing (last isClosed))
      · exact (effect.quiet quiet).quiet (quiet_ePollAddClientWrite sentPresent)

/-- The task of `SendPackage`. It holds no object, and finds one that is there. -/
theorem Effect.sendTask (effect : Effect before event state)
    (noneOpened : ∀ cfd, ¬ event.opened cfd) {task : SendTask}
    (waiting : ∀ meant ∈ task.recipients, before.pending task.cfd meant)
    {answers : List SendAnswer}
    (closing : answers.getLast? = some .nothing ∨ answers.getLast? = some .failed →
      ∀ pointer, state.clientFdMap task.cfd = some pointer → event.closing pointer)
    {next : ServerState} (done : state.sendTask task answers = some next) :
    Effect before event next := by
  unfold ServerState.sendTask at done
  split at done
  · split at done
    · obtain rfl := Option.some.inj done
      exact effect
    · cases done
  · next pointer entry =>
      have present := (effect.consistent.entries task.cfd pointer).mp entry
      obtain ⟨socket, found, same⟩ := fdOf_eq_some_iff.mp present
      simp only [found, Option.bind_eq_bind, Option.bind_eq_some_iff] at done
      obtain ⟨⟨written, closed⟩, writing, result⟩ := done
      rw [← same] at waiting
      obtain ⟨write, writtenPresent, last⟩ := effect.write noneOpened found waiting writing
      obtain rfl := Option.some.inj result
      refine Effect.quiet ?_ quiet_counters
      split
      · next isClosed =>
          exact write.delete noneOpened writtenPresent (closing (last isClosed) pointer entry)
      · exact write

/-! ## The events -/

end Effect

section Steps

variable {state next : ServerState}

/-- `epoll_wait` fetches events of registered objects, which are there. -/
theorem effect_wait (consistent : state.Consistent) (ready : List Readiness) :
    Effect state.ledger ((ServerEvent.wait ready).onLedger state)
      { state with fetched := ready.filterMap state.epollEvent } := by
  refine effect_of_taken consistent (fun _ member => member) (fun _ member => member)
    (fun _ held => held) ?_
  intro pointer held
  rcases mem_heldBy.mp held with task | ⟨event, member, pointerOf⟩
  · exact .inl (mem_heldBy.mpr (.inl task))
  · refine .inr ⟨?_, by simp [ServerEvent.onLedger, ServerEvent.closing]⟩
    obtain ⟨readiness, -, fetched⟩ := List.mem_filterMap.mp member
    cases readiness with
    | server =>
        simp only [epollEvent] at fetched
        split at fetched
        · obtain ⟨⟩ := fetched
          cases pointerOf
        · cases fetched
    | client cfd isRead isWrite =>
        simp only [epollEvent, Option.bind_eq_bind, Option.bind_eq_some_iff] at fetched
        obtain ⟨registration, registered, made⟩ := fetched
        split at made
        · obtain ⟨⟩ := made
          simp only [EpollEvent.pointer, Option.ite_none_right_eq_some, Option.some.injEq]
            at pointerOf
          obtain ⟨-, rfl⟩ := pointerOf
          simp [consistent.registered cfd registration registered]
        · cases made

/-- The callback turns an event into a task that holds the same object. -/
theorem effect_callback (consistent : state.Consistent) {event : EpollEvent}
    {rest : List EpollEvent} (fetched : state.fetched = event :: rest) :
    Effect state.ledger (ServerEvent.callback.onLedger state)
      ({ state with fetched := rest }.epoll4EventCallback event) := by
  have others : ∀ pointer, event.pointer = some pointer →
      pointer ∈ heldBy state.socketTasks state.fetched := by
    intro pointer pointerOf
    rw [fetched]
    exact mem_heldBy.mpr (.inr ⟨event, List.mem_cons_self, pointerOf⟩)
  have taken : Effect state.ledger (ServerEvent.callback.onLedger state)
      { state with fetched := rest } := by
    refine effect_of_taken consistent (fun _ member => member) (fun _ member => member)
      (fun _ held => held) ?_
    intro pointer held
    refine .inl (mem_heldBy.mpr ?_)
    rw [fetched]
    rcases mem_heldBy.mp held with task | ⟨later, member, pointerOf⟩
    · exact .inl task
    · exact .inr ⟨later, List.mem_cons_of_mem _ member, pointerOf⟩
  -- Either the object is there and only its registration changes, or it has been deleted.
  have switched : ∀ pointer, event.pointer = some pointer →
      ∀ after : ServerState → Nat → ServerState,
        (∀ state cfd, state.fdOf pointer = some cfd → Quiet state (after state pointer)) →
        (∀ state, state.sockets pointer = none → after state pointer = state.fail .usedDeleted) →
        Effect state.ledger (ServerEvent.callback.onLedger state)
          (after { state with fetched := rest } pointer) := by
    intro pointer pointerOf after quiet absent
    cases found : state.sockets pointer with
    | none =>
        rw [absent { state with fetched := rest } found]
        exact taken.misuse (others pointer pointerOf) (fdOf_of_absent found)
    | some socket => exact taken.quiet (quiet _ socket.cfd (fdOf_of_socket found))
  unfold epoll4EventCallback
  split
  · exact (taken.quiet quiet_counters).addSocketTask (by simp) (by simp [SocketTask.pointer])
  · next pointer source =>
      split
      · next isRead =>
        have pointerOf : event.pointer = some pointer := by
          simp [EpollEvent.pointer, source, isRead]
        refine (switched pointer pointerOf ePollDelClientRead
          (fun _ _ => quiet_ePollDelClientRead)
          (fun _ => ePollSwitch_of_absent)).addSocketTask (by simp) ?_
        rintro _ ⟨⟩
        exact others pointer pointerOf
      split
      · next isWrite =>
        have pointerOf : event.pointer = some pointer := by
          simp [EpollEvent.pointer, source, isWrite]
        refine (switched pointer pointerOf ePollDelClientWrite
          (fun _ _ => quiet_ePollDelClientWrite)
          (fun _ => ePollSwitch_of_absent)).addSocketTask (by simp) ?_
        rintro _ ⟨⟩
        exact others pointer pointerOf
      · exact taken

/-- Whatever task runs. -/
theorem effect_run (consistent : state.Consistent) {index : Nat} {answers : KernelAnswers}
    {task : SocketTask} (queued : state.socketTasks[index]? = some task)
    (done : { state with socketTasks := state.socketTasks.eraseIdx index }.runTask task answers =
      some next) : Effect state.ledger ((ServerEvent.run index answers).onLedger state) next := by
  have member := List.mem_of_getElem? queued
  have heldTask : ∀ pointer, task.pointer = some pointer →
      pointer ∈ heldBy state.socketTasks state.fetched :=
    fun pointer pointerOf => mem_heldBy.mpr (.inl ⟨task, member, pointerOf⟩)
  have taken : Effect state.ledger ((ServerEvent.run index answers).onLedger state)
      { state with socketTasks := state.socketTasks.eraseIdx index } := by
    refine effect_of_taken consistent (fun _ => List.mem_of_mem_eraseIdx) (fun _ member => member)
      ?_ (fun _ held => .inl held)
    intro pointer held
    rcases mem_heldBy.mp held with ⟨other, otherMember, pointerOf⟩ | event
    · exact mem_heldBy.mpr (.inl ⟨other, List.mem_of_mem_eraseIdx otherMember, pointerOf⟩)
    · exact mem_heldBy.mpr (.inr event)
  cases answers with
  | accepts clients =>
      cases task with
      | accept =>
          obtain ⟨accepted, accepting, rfl⟩ := Option.map_eq_some_iff.mp done
          refine Effect.quiet ?_ quiet_counters
          refine Effect.acceptClients (fun _ closing => ?_) taken (fun client member => ?_)
            accepting
          · cases closing
          · exact List.mem_map_of_mem member
      | read | write | send => cases done
  | recvs answers =>
      cases task with
      | read pointer =>
          refine taken.readTask (fun _ => List.not_mem_nil) (heldTask pointer rfl) id ?_ done
          intro last
          simp [ServerEvent.onLedger, ServerEvent.closing, queued, last]
      | accept | write | send => cases done
  | sends answers =>
      cases task with
      | write pointer =>
          refine taken.writeTask (fun _ => List.not_mem_nil) (heldTask pointer rfl) id ?_ done
          intro last
          simp [ServerEvent.onLedger, ServerEvent.closing, queued, last]
      | send task =>
          refine taken.sendTask (fun _ => List.not_mem_nil) (fun meant recipient => ?_) ?_ done
          · exact .inr ⟨task, member, rfl, recipient⟩
          · intro last pointer entry
            simp only [ServerEvent.onLedger, ServerEvent.closing, queued, if_pos last]
            exact entry
      | accept | read => cases done

/-- Handling a package. -/
theorem effect_handle (consistent : state.Consistent) {index : Nat} {pack : DataPack}
    (memory : Memory) (queries : Queries) (queued : state.dataTasks[index]? = some pack) :
    Effect state.ledger ((ServerEvent.handle index memory queries).onLedger state)
      ({ state with dataTasks := state.dataTasks.eraseIdx index }.handleTask pack memory
        queries) := by
  have taken : Effect state.ledger ((ServerEvent.handle index memory queries).onLedger state)
      { state with dataTasks := state.dataTasks.eraseIdx index } :=
    effect_of_taken consistent (fun _ member => member) (fun _ => List.mem_of_mem_eraseIdx)
      (fun _ held => held) (fun _ held => .inl held)
  unfold handleTask
  split
  · exact taken
  · exact taken.fail (by decide)
  · next request decoded =>
      exact taken.runActions (fun _ => List.not_mem_nil) fun data answered =>
        .inl ⟨pack, List.mem_of_getElem? queued, DataPack.asksAnswer_of_answer decoded answered,
          rfl, rfl⟩

/-- `ClientSocketClose`. -/
theorem effect_clientSocketClose (consistent : state.Consistent) (cfd : Int) :
    Effect state.ledger ((ServerEvent.clientSocketClose cfd).onLedger state)
      (state.clientSocketClose cfd) := by
  have begun : Effect state.ledger ((ServerEvent.clientSocketClose cfd).onLedger state) state :=
    effect_of_taken consistent (fun _ member => member) (fun _ member => member)
      (fun _ held => held) (fun _ held => .inl held)
  unfold clientSocketClose
  split
  · exact begun
  · next pointer entry =>
      exact begun.delete (fun _ => List.not_mem_nil)
        ((consistent.entries cfd pointer).mp entry) entry

/-- Every step of the server is a step of its ledger, after which the tables agree. -/
theorem effect_step (consistent : state.Consistent) {event : ServerEvent}
    (stepped : state.step event = some next) :
    Effect state.ledger (event.onLedger state) next := by
  unfold step at stepped
  split at stepped
  · cases stepped
  cases event with
  | wait ready =>
      dsimp only at stepped
      split at stepped
      · obtain rfl := Option.some.inj stepped
        exact effect_wait consistent ready
      · cases stepped
  | callback =>
      dsimp only at stepped
      split at stepped
      · cases stepped
      · next event rest fetched =>
          obtain rfl := Option.some.inj stepped
          exact effect_callback consistent fetched
  | run index answers =>
      obtain ⟨task, queued, done⟩ := Option.bind_eq_some_iff.mp stepped
      exact effect_run consistent queued done
  | handle index memory queries =>
      obtain ⟨pack, queued, done⟩ := Option.bind_eq_some_iff.mp stepped
      obtain rfl := Option.some.inj done
      exact effect_handle consistent memory queries queued
  | clientSocketClose cfd =>
      obtain rfl := Option.some.inj stepped
      exact effect_clientSocketClose consistent cfd

end Steps

/-- The tables agree in every state the server reaches. -/
theorem consistent_of_reachable (state : ServerState) (reachable : serverSystem.Reachable state) :
    state.Consistent :=
  reachable.invariant consistent_start fun _ _ _ consistent transition =>
    (effect_step consistent transition).consistent

/-- In the beginning the ledger is empty. -/
theorem empty_start : start.ledger.Empty where
  nameOf _ := rfl
  pending _ _ := by simp [ledger, start]
  delivered _ _ := by simp [ledger, start]
  held _ := by simp [ledger, start, heldBy]
  misused := by simp [ledger, start]
  removed := rfl
  affected _ _ := by simp [ledger, start]

/-- Runs of the server are runs of its ledger, under every condition that carries over. -/
theorem runs_refine {condition : ServerState → ServerEvent → ServerState → Prop}
    {condition' : Ledger Nat Int → LedgerEvent Nat Int → Ledger Nat Int → Prop}
    (conditions : ∀ state event next, condition state event next →
      condition' state.ledger (event.onLedger state) next.ledger)
    {events : List ServerEvent} {state : ServerState}
    (run : serverSystem.Runs condition events state) :
    ∃ onLedger, Ledger.system.Runs condition' onLedger state.ledger := by
  refine run.simulated ledger (fun state event => event.onLedger state) consistent_of_reachable
    ?_ (fun _ _ _ consistent transition => (effect_step consistent transition).step) conditions
  rintro state rfl
  exact empty_start

end ServerState

end SocketMessage.Server
