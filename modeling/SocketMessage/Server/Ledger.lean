import SocketMessage.Lib.NameReuse
import SocketMessage.Server.Consistency

/-!
# Connections as objects, fd numbers as names

The server is a component whose objects are the connections, in the order of their
accepts, and whose names are the fd numbers. Packages and send tasks wait addressed by
fd; read tasks, write tasks and fetched events hold the object. `Effect` says where a
step stands in the ledger; each lemma about it adds one thing a step can do.
-/

namespace SocketMessage.Server

open SocketMessage.Lib SocketMessage.Frame SocketMessage.Wire

/-- The object a task holds. -/
def SocketTask.pointer : SocketTask → Option Nat
  | .read pointer | .write pointer => some pointer
  | _ => none

/-- The object an event holds; one that is neither for reading nor for writing is
ignored. -/
def EpollEvent.pointer (event : EpollEvent) : Option Nat :=
  match event.source with
  | .server => none
  | .client pointer => if event.isRead ∨ event.isWrite then some pointer else none

/-- The objects tasks and events hold. -/
def heldBy (tasks : List SocketTask) (events : List EpollEvent) : List Nat :=
  tasks.filterMap SocketTask.pointer ++ events.filterMap EpollEvent.pointer

theorem mem_heldBy {tasks : List SocketTask} {events : List EpollEvent} {pointer : Nat} :
    pointer ∈ heldBy tasks events ↔
      (∃ task ∈ tasks, task.pointer = some pointer) ∨
        ∃ event ∈ events, event.pointer = some pointer := by
  simp [heldBy]

/-- One more task. -/
theorem mem_heldBy_append {tasks : List SocketTask} {task : SocketTask}
    {events : List EpollEvent} {pointer : Nat} :
    pointer ∈ heldBy (tasks ++ [task]) events ↔
      pointer ∈ heldBy tasks events ∨ task.pointer = some pointer := by
  simp only [mem_heldBy, List.mem_append, List.mem_singleton]
  constructor
  · rintro (⟨other, member | rfl, held⟩ | fetched)
    · exact .inl (.inl ⟨other, member, held⟩)
    · exact .inr held
    · exact .inl (.inr fetched)
  · rintro ((⟨other, member, held⟩ | fetched) | held)
    · exact .inl ⟨other, .inl member, held⟩
    · exact .inr fetched
    · exact .inl ⟨task, .inr rfl, held⟩

/-- The package has a handler that answers. -/
def DataPack.asksAnswer (pack : DataPack) : Bool :=
  dispatchedType serverDataTypes pack.data = some .c2SLogin ∨
    dispatchedType serverDataTypes pack.data = some .c2SGetDataMsgList

/-- An answer given after a `Serialize` is given with some bytes. -/
theorem answer_mem_withSerialized {serialized : Option (List Byte)}
    {use : List Byte → List HandlerAction} {data : List Byte}
    (answered : .answer data ∈ withSerialized serialized use) :
    ∃ bytes, .answer data ∈ use bytes := by
  cases serialized with
  | none => simp [withSerialized] at answered
  | some bytes => exact ⟨bytes, answered⟩

/-- Only the handlers of such packages answer. -/
theorem DataPack.asksAnswer_of_answer {pack : DataPack} {memory : Memory} {queries : Queries}
    {request : Request} {data : List Byte}
    (decoded : threadWork memory pack.data = .decoded request)
    (answered : .answer data ∈ handle queries request) : pack.asksAnswer := by
  unfold threadWork at decoded
  split at decoded
  · next login => simp [asksAnswer, login]
  · -- A message is relayed only.
    cases request with
    | dataMsg message =>
        obtain ⟨bytes, relayed⟩ := answer_mem_withSerialized answered
        simp at relayed
    | login | getDataMsgList =>
        simp only [Dispatched.ofDecoded] at decoded
        split at decoded <;> cases decoded
  · next list => simp [asksAnswer, list]
  · cases decoded

/-- The connections a queued package is meant for. -/
def SendTask.recipients (task : SendTask) : List Nat := task.queuedFor :: task.answers.toList

/-- The connections an appended package was meant for. -/
def Appended.recipients (entry : Appended) : List Nat := entry.queuedFor :: entry.answers.toList

namespace ServerState

/-- The state as a ledger. -/
def ledger (state : ServerState) : Ledger Nat Int where
  nameOf := state.fdOf
  known pointer := pointer < state.accepted
  pending cfd pointer :=
    (∃ pack ∈ state.dataTasks, pack.asksAnswer ∧ pack.cfd = cfd ∧ pack.origin = pointer) ∨
      ∃ task, .send task ∈ state.socketTasks ∧ task.cfd = cfd ∧ pointer ∈ task.recipients
  delivered pointer meant :=
    ∃ entry ∈ state.appended, entry.connection = pointer ∧ meant ∈ entry.recipients
  held pointer := pointer ∈ heldBy state.socketTasks state.fetched
  misused := state.fault = some .usedDeleted
  removed := state.teardowns.map Teardown.connection
  affected pointer other := ∃ teardown ∈ state.teardowns,
    teardown.connection = pointer ∧ (other = teardown.erased ∨ other ∈ teardown.reported)

end ServerState

/-- The fds the kernel hands over. -/
def ServerEvent.acceptedFds : ServerEvent → List Int
  | .run _ (.accepts clients) => clients.map Prod.fst
  | _ => []

/-- The tasks of `SocketControl` that an event does not carry out. -/
def ServerEvent.remaining (state : ServerState) : ServerEvent → List SocketTask
  | .run index _ => state.socketTasks.eraseIdx index
  | _ => state.socketTasks

/-- The connection an event tears down: the one of a task whose last `recv` or `send`
tells it to, or the one whose fd `ClientSocketClose` is given. -/
def ServerEvent.closing (state : ServerState) : ServerEvent → Option Nat
  | .run index (.recvs answers) =>
      match state.socketTasks[index]? with
      | some (.read pointer) =>
          if answers.getLast? = some .peerClosed ∨ answers.getLast? = some .failed then some pointer
          else none
      | _ => none
  | .run index (.sends answers) =>
      if answers.getLast? = some .nothing ∨ answers.getLast? = some .failed then
        match state.socketTasks[index]? with
        | some (.write pointer) => some pointer
        | some (.send task) => state.clientFdMap task.cfd
        | _ => none
      else none
  | .clientSocketClose cfd => state.clientFdMap cfd
  | _ => none

/-- An event as the ledger sees it. -/
def ServerEvent.onLedger (state : ServerState) (event : ServerEvent) : LedgerEvent Nat Int where
  opened cfd := cfd ∈ event.acceptedFds
  closing pointer := event.closing state = some pointer
  others pointer := pointer ∈ heldBy (event.remaining state) state.fetched

namespace ServerState

/-! ## What has been done of a step -/

/-- Where a step stands that began with a ledger: the tables agree, and what was done
is a step of the ledger. -/
structure Effect (before : Ledger Nat Int) (event : LedgerEvent Nat Int) (state : ServerState) :
    Prop where
  consistent : state.Consistent
  step : before.Step event state.ledger

section Effect

variable {before : Ledger Nat Int} {event : LedgerEvent Nat Int} {state : ServerState}
  {pointer : Nat} {cfd : Int}

/-- The ledger does not see what a quiet function changes. -/
theorem Quiet.ledger {after : ServerState} (quiet : Quiet state after) :
    after.ledger = state.ledger := by
  simp only [ServerState.ledger, quiet.fdOf, quiet.accepted, quiet.fetched, quiet.socketTasks,
    quiet.dataTasks, quiet.fault, quiet.teardowns, quiet.appended]

theorem Effect.quiet (effect : Effect before event state) {after : ServerState}
    (quiet : Quiet state after) : Effect before event after where
  consistent := quiet.consistent effect.consistent
  step := by
    rw [quiet.ledger]
    exact effect.step

/-- Without new fds, an object's fd is the one it had when the step began. -/
theorem Effect.nameOf_before (effect : Effect before event state)
    (noneOpened : ∀ cfd, ¬ event.opened cfd) (present : state.fdOf pointer = some cfd) :
    before.nameOf pointer = some cfd := by
  rcases effect.step.names pointer cfd present with old | ⟨_, _, opened, _⟩
  · exact old
  · exact absurd opened (noneOpened cfd)

/-- A step begins with taking work from the queues. -/
theorem effect_of_taken (consistent : state.Consistent) {socketTasks : List SocketTask}
    {dataTasks : List DataPack} {fetched : List EpollEvent}
    (tasks : ∀ task ∈ socketTasks, task ∈ state.socketTasks)
    (packs : ∀ pack ∈ dataTasks, pack ∈ state.dataTasks)
    (others : ∀ pointer, event.others pointer → pointer ∈ heldBy state.socketTasks state.fetched)
    (held : ∀ pointer ∈ heldBy socketTasks fetched,
      event.others pointer ∨ state.fdOf pointer ≠ none ∧ ¬ event.closing pointer) :
    Effect state.ledger event { state with socketTasks, dataTasks, fetched } where
  consistent := consistent.of_queues
  step := {
    known := fun _ known => known
    names := fun _ _ present => .inl present
    stays := fun _ _ present => .inl present
    pending := by
      rintro name object (⟨pack, member, meant⟩ | ⟨task, member, meant⟩)
      · exact .inl (.inl ⟨pack, packs pack member, meant⟩)
      · exact .inl (.inr ⟨task, tasks _ member, meant⟩)
    delivered := fun _ _ done => .inl done
    others := others
    held := held
    misused := .inl
    removed := ⟨[], by simp [ServerState.ledger], List.nodup_nil, by simp⟩
    affected := fun _ _ touched => .inl touched }

/-- A fault other than the use of a deleted object. -/
theorem Effect.fail (effect : Effect before event state) {fault : Fault}
    (other : fault ≠ .usedDeleted) : Effect before event (state.fail fault) where
  consistent := effect.consistent.of_queues
  step := { effect.step with
    misused := fun misused => absurd (Option.some.inj misused) other }

/-- The use of an object that has been deleted. -/
theorem Effect.misuse (effect : Effect before event state) (held : before.held pointer)
    (gone : before.nameOf pointer = none) : Effect before event (state.fail .usedDeleted) where
  consistent := effect.consistent.of_queues
  step := { effect.step with misused := fun _ => .inr ⟨pointer, held, gone⟩ }

/-- A task that holds no object, or the object of an event the step began with. -/
theorem Effect.addSocketTask (effect : Effect before event state) {task : SocketTask}
    (noSend : ∀ sent, task ≠ .send sent)
    (held : ∀ pointer, task.pointer = some pointer → event.others pointer) :
    Effect before event (state.addSocketTask task) where
  consistent := effect.consistent.of_queues
  step := { effect.step with
    pending := by
      rintro name object (waits | ⟨sent, member, meant⟩)
      · exact effect.step.pending name object (.inl waits)
      · rcases List.mem_append.mp member with old | new
        · exact effect.step.pending name object (.inr ⟨sent, old, meant⟩)
        · exact absurd (List.mem_singleton.mp new).symm (noSend sent)
    held := by
      intro object holds
      rcases mem_heldBy_append.mp holds with old | new
      · exact effect.step.held object old
      · exact .inl (held object new) }

/-- `SendPackage` queues data for the object it has found, in answer to a package that
was waiting. -/
theorem Effect.addSendTask (effect : Effect before event state)
    (noneOpened : ∀ cfd, ¬ event.opened cfd) (present : state.fdOf pointer = some cfd)
    {data : List Byte} {answers : Option Nat}
    (waiting : ∀ origin, answers = some origin → before.pending cfd origin) :
    Effect before event (state.addSocketTask (.send ⟨cfd, data, pointer, answers⟩)) where
  consistent := effect.consistent.of_queues
  step := { effect.step with
    pending := by
      rintro name object (waits | ⟨sent, member, addressed, meant⟩)
      · exact effect.step.pending name object (.inl waits)
      · rcases List.mem_append.mp member with old | new
        · exact effect.step.pending name object (.inr ⟨sent, old, addressed, meant⟩)
        · obtain ⟨⟩ := List.mem_singleton.mp new
          subst addressed
          simp only [SendTask.recipients, List.mem_cons, Option.mem_toList] at meant
          rcases meant with rfl | answered
          · exact .inr (effect.nameOf_before noneOpened present)
          · exact .inl (waiting object answered)
    held := by
      intro object holds
      rcases mem_heldBy_append.mp holds with old | new
      · exact effect.step.held object old
      · cases new }

/-- Packages read from an object's fd are queued. -/
theorem Effect.addData (effect : Effect before event state)
    (noneOpened : ∀ cfd, ¬ event.opened cfd) (present : state.fdOf pointer = some cfd)
    (packages : List (List Byte)) (recvStatistics : RecvStatistics) :
    Effect before event
      { state with
        recvStatistics
        dataTasks := state.dataTasks ++ packages.map fun data => ⟨cfd, data, pointer⟩ } where
  consistent := effect.consistent.of_queues
  step := { effect.step with
    pending := by
      rintro name object (⟨pack, member, asks, addressed, meant⟩ | waits)
      · rcases List.mem_append.mp member with old | new
        · exact effect.step.pending name object (.inl ⟨pack, old, asks, addressed, meant⟩)
        · obtain ⟨data, _, rfl⟩ := List.mem_map.mp new
          subst addressed meant
          exact .inr (effect.nameOf_before noneOpened present)
      · exact effect.step.pending name object (.inr waits) }

/-- A package that was waiting, or is answered by one, is appended for the object now
found under its fd. -/
theorem Effect.append (effect : Effect before event state)
    (noneOpened : ∀ cfd, ¬ event.opened cfd) (present : state.fdOf pointer = some cfd)
    {queuedFor : Nat} {answers : Option Nat}
    (waiting : ∀ meant ∈ (⟨pointer, queuedFor, answers⟩ : Appended).recipients,
      before.pending cfd meant) :
    Effect before event
      { state with appended := state.appended ++ [⟨pointer, queuedFor, answers⟩] } where
  consistent := effect.consistent.of_queues
  step := { effect.step with
    delivered := by
      rintro object meant ⟨entry, member, connection, recipient⟩
      rcases List.mem_append.mp member with old | new
      · exact effect.step.delivered object meant ⟨entry, old, connection, recipient⟩
      · obtain ⟨⟩ := List.mem_singleton.mp new
        subst connection
        exact .inr ⟨cfd, effect.nameOf_before noneOpened present,
          .inl (waiting meant recipient)⟩ }

/-- A connection is accepted. -/
theorem Effect.connect (effect : Effect before event state)
    (noneClosing : ∀ pointer, ¬ event.closing pointer)
    (opened : event.opened cfd) (free : state.fdFree cfd) {after : ServerState}
    (connected : Connected state cfd after) : Effect before event after where
  consistent := connected.consistent effect.consistent free
  step := {
    known := fun object known => by
      have smaller : object < state.accepted := effect.step.known object known
      simp only [ServerState.ledger, connected.accepted]
      omega
    names := by
      intro object name present
      have only : ∀ other, after.fdOf other = some name → other = object := fun other found =>
        (connected.consistent effect.consistent free).distinct found present
      rcases connected.fdOf_eq_some_iff.mp present |> ite_prop_iff_or.mp with
        ⟨rfl, rfl⟩ | ⟨different, old⟩
      · refine .inr ⟨fun known => absurd (effect.step.known _ known) (Nat.lt_irrefl _), ?_,
          opened, ?_, only⟩
        · simp [ServerState.ledger, connected.accepted]
        · intro other named
          -- Nothing is closed in this step: the name's owner would still have it.
          rcases effect.step.stays other cfd named with still | ⟨_, closing⟩
          · exact effect.consistent.fdOf_ne_of_fdFree free other still
          · exact noneClosing other closing
      · rcases effect.step.names object name old with earlier | ⟨unknown, _, openedName, unowned, _⟩
        · exact .inl earlier
        · refine .inr ⟨unknown, ?_, openedName, unowned, only⟩
          have known := effect.consistent.accepted object name old
          simp only [ServerState.ledger, connected.accepted]
          omega
    stays := by
      intro object name named
      rcases effect.step.stays object name named with still | ⟨_, closing⟩
      · have known := effect.consistent.accepted object name still
        refine .inl (connected.fdOf_eq_some_iff.mpr ?_)
        rw [if_neg (by omega)]
        exact still
      · exact absurd closing (noneClosing object)
    pending := by
      simp only [ServerState.ledger, connected.dataTasks, connected.socketTasks]
      exact effect.step.pending
    delivered := by
      simp only [ServerState.ledger, connected.appended]
      exact effect.step.delivered
    others := effect.step.others
    held := by
      simp only [ServerState.ledger, connected.socketTasks, connected.fetched]
      exact effect.step.held
    misused := by
      simp only [ServerState.ledger, connected.fault]
      exact effect.step.misused
    removed := by
      obtain ⟨gone, removed, once, goneNow⟩ := effect.step.removed
      refine ⟨gone, ?_, once, fun object member => ⟨(goneNow object member).1, ?_⟩⟩
      · simpa only [ServerState.ledger, connected.teardowns] using removed
      · obtain ⟨name, named⟩ := Option.ne_none_iff_exists'.mp (goneNow object member).1
        rcases effect.step.stays object name named with still | ⟨_, closing⟩
        · exact absurd still (by simp [(goneNow object member).2])
        · exact absurd closing (noneClosing object)
    affected := by
      simp only [ServerState.ledger, connected.teardowns]
      exact effect.step.affected }

/-- The object of the teardown the step is about is deleted. -/
theorem Effect.delete (effect : Effect before event state)
    (noneOpened : ∀ cfd, ¬ event.opened cfd) (present : state.fdOf pointer = some cfd)
    (closing : event.closing pointer) :
    Effect before event (state.clientSocketCloseAndDelete pointer) := by
  have deleted := deleted_clientSocketCloseAndDelete effect.consistent present
  refine ⟨deleted.consistent effect.consistent present, ?_⟩
  exact {
    known := fun object known => by
      simp only [ServerState.ledger, deleted.accepted]
      exact effect.step.known object known
    names := fun object name found =>
      .inl (effect.nameOf_before noneOpened (deleted.fdOf_eq_some_iff.mp found).2)
    stays := by
      intro object name named
      simp only [ServerState.ledger, deleted.fdOf]
      by_cases same : object = pointer
      · subst same
        exact .inr ⟨Function.update_self .., closing⟩
      · rw [Function.update_of_ne same]
        exact effect.step.stays object name named
    pending := by
      simp only [ServerState.ledger, deleted.dataTasks, deleted.socketTasks]
      exact effect.step.pending
    delivered := by
      simp only [ServerState.ledger, deleted.appended]
      exact effect.step.delivered
    others := effect.step.others
    held := by
      simp only [ServerState.ledger, deleted.socketTasks, deleted.fetched]
      exact effect.step.held
    misused := by
      simp only [ServerState.ledger, deleted.fault]
      exact effect.step.misused
    removed := by
      obtain ⟨gone, removed, once, goneNow⟩ := effect.step.removed
      have absent : pointer ∉ gone := fun member => by
        have goneAlready := (goneNow pointer member).2
        simp [ServerState.ledger, present] at goneAlready
      refine ⟨gone ++ [pointer], ?_, ?_, ?_⟩
      · simp only [ServerState.ledger] at removed
        simp [ServerState.ledger, deleted.teardowns, removed]
      · rw [List.nodup_append]
        refine ⟨once, by simp, ?_⟩
        rintro object member other last rfl
        exact absent (List.mem_singleton.mp last ▸ member)
      · intro object member
        simp only [ServerState.ledger, deleted.fdOf]
        by_cases same : object = pointer
        · subst same
          exact ⟨by simp [effect.nameOf_before noneOpened present], Function.update_self ..⟩
        · rw [Function.update_of_ne same]
          have earlier : object ∈ gone := by simpa [same] using member
          exact goneNow object earlier
    affected := by
      rintro object other ⟨teardown, member, connection, touched⟩
      rw [deleted.teardowns] at member
      rcases List.mem_append.mp member with old | new
      · exact effect.step.affected object other ⟨teardown, old, connection, touched⟩
      · obtain ⟨⟩ := List.mem_singleton.mp new
        subst connection
        refine .inr ⟨cfd, effect.nameOf_before noneOpened present, ?_⟩
        rcases touched with rfl | reported
        · exact effect.nameOf_before noneOpened present
        · have holds : state.fdOf other = some cfd := by simpa using (List.mem_filter.mp reported).2
          exact effect.nameOf_before noneOpened holds }

end Effect

end ServerState

end SocketMessage.Server
