import Mathlib.Data.List.Perm.Basic
import SocketMessage.Frame.Stream
import SocketMessage.Server.Delivery
import SocketMessage.Server.WriteInterest

/-!
# Every package is accounted for

What the kernel has given to the server's connections, and what the handlers have taken. In
every run that no fault ends the one is the packages of the other, but for those that are still
queued: none is lost, none is handled twice and none is made up, however the bytes are cut,
whichever connections come and go and in whatever order the tasks run.
-/

namespace SocketMessage.Server

open SocketMessage.Lib SocketMessage.Frame SocketMessage.Wire

/-! ## One call of `Recv` -/

section RecvLoop

variable {σ : Type} {callback : ReadCallback σ} {session last : Session σ}
  {answers : List RecvAnswer} {exit : RecvExit}

/-- What every `recv` keeps, `Recv` keeps. -/
theorem recvLoop_invariant {property : List Byte → Session σ → Prop}
    (preserved : ∀ {bytes session answer next}, property bytes session →
      recvStep callback session answer = some next → property (bytes ++ answer.bytes) next)
    {bytes : List Byte} (holds : property bytes session)
    (looped : recvLoop callback session answers = some (last, exit)) :
    property (bytes ++ arrived answers) last := by
  fun_induction recvLoop callback session answers generalizing bytes with
  | case2 session | case3 session | case4 session =>
      obtain ⟨next, stepped, same⟩ := Option.map_eq_some_iff.mp looped
      obtain ⟨rfl, -⟩ := Prod.mk.inj same
      simpa [arrived] using preserved holds stepped
  | case5 session chunk rest inductionHypothesis =>
      obtain ⟨next, stepped, continued⟩ := Option.bind_eq_some_iff.mp looped
      have kept := preserved holds stepped
      split at continued
      · obtain ⟨rfl, same⟩ := Option.ite_none_right_eq_some.mp continued
        obtain ⟨rfl, -⟩ := Prod.mk.inj (Option.some.inj same)
        simpa [arrived] using kept
      · have followed := inductionHypothesis next kept continued
        simpa [arrived, List.append_assoc] using followed
  | _ => simp at looped

/-- An answer that brings nothing breaks nothing. -/
theorem notBroken_of_nothing {next : Session σ} {answer : RecvAnswer}
    (nothing : answer = .wouldBlock ∨ answer = .peerClosed ∨ answer = .failed)
    (stepped : recvStep callback session answer = some next) : next.status ≠ .broken := by
  rcases nothing with rfl | rfl | rfl
  all_goals
    obtain ⟨receiving, built⟩ := Option.ite_none_right_eq_some.mp stepped
    obtain rfl := Option.some.inj built
    simp [receiving]

/-- Only a callback that does not return breaks the connection. -/
theorem recvLoop_notBroken (looped : recvLoop callback session answers = some (last, exit))
    (ended : exit ≠ .broken) : last.status ≠ .broken := by
  fun_induction recvLoop callback session answers with
  | case2 session =>
      obtain ⟨next, stepped, same⟩ := Option.map_eq_some_iff.mp looped
      obtain ⟨rfl, -⟩ := Prod.mk.inj same
      exact notBroken_of_nothing (.inl rfl) stepped
  | case3 session =>
      obtain ⟨next, stepped, same⟩ := Option.map_eq_some_iff.mp looped
      obtain ⟨rfl, -⟩ := Prod.mk.inj same
      exact notBroken_of_nothing (.inr (.inl rfl)) stepped
  | case4 session =>
      obtain ⟨next, stepped, same⟩ := Option.map_eq_some_iff.mp looped
      obtain ⟨rfl, -⟩ := Prod.mk.inj same
      exact notBroken_of_nothing (.inr (.inr rfl)) stepped
  | case5 session chunk rest inductionHypothesis =>
      obtain ⟨next, -, continued⟩ := Option.bind_eq_some_iff.mp looped
      split at continued
      · obtain ⟨-, same⟩ := Option.ite_none_right_eq_some.mp continued
        obtain ⟨-, rfl⟩ := Prod.mk.inj (Option.some.inj same)
        exact absurd rfl ended
      · exact inductionHypothesis next continued
  | _ => simp at looped

end RecvLoop

section Continued

variable {owner : RecvStatistics} {buffer : ReadBuffer} {answers : List RecvAnswer}
  {session : Session RecvStatistics} {exit : RecvExit}

/-- Where the calls before have left off, a call of `Recv` goes on. -/
theorem recvLoop_parsed {bytes : List Byte} (content : buffer.content = undecided bytes)
    (incomplete : Incomplete (undecided bytes))
    (looped : recvLoop client4ReadCallback ⟨owner, buffer, [], .receiving⟩ answers =
      some (session, exit)) :
    Parsed (bytes ++ arrived answers) (session.behind (packages bytes)) := by
  have begun : Parsed bytes
      ((⟨owner, buffer, [], .receiving⟩ : Session RecvStatistics).behind (packages bytes)) :=
    ⟨List.append_nil _, fun _ => ⟨content, incomplete⟩, nofun⟩
  exact @recvLoop_invariant _ _ _ _ _ _
    (fun read session => Parsed read (session.behind (packages bytes)))
    (fun parsed stepped => parsed.step (fun _ _ => rfl) (recvStep_behind stepped)) _ begun looped

/-- What a call delivers is counted. -/
theorem recvLoop_counted (looped : recvLoop client4ReadCallback ⟨owner, buffer, [], .receiving⟩
      answers = some (session, exit)) : Counted owner session.delivered session.owner :=
  @recvLoop_invariant _ _ _ _ _ _ (fun _ session => Counted owner session.delivered session.owner)
    (fun counted stepped => counted.step stepped) [] (.refl _) looped

end Continued

/-! ## The account -/

/-- What `recv` has answered for each connection, and the packages the handlers have taken, in
order. -/
structure Account where
  answers : Nat → List RecvAnswer
  handled : List DataPack

/-- The account after an event. -/
def Account.after (account : Account) (state : ServerState) : ServerEvent → Account
  | .run index (.recvs answers) =>
      match state.socketTasks[index]? with
      | some (.read pointer) =>
          { account with
            answers :=
              Function.update account.answers pointer (account.answers pointer ++ answers) }
      | _ => account
  | .handle index _ _ => { account with handled := account.handled ++ state.dataTasks[index]?.toList }
  | _ => account

/-- The server with its account. -/
structure AccountedState where
  server : ServerState
  account : Account

/-- A step of the server. -/
def AccountedState.step (state : AccountedState) (event : ServerEvent) : Option AccountedState :=
  (state.server.step event).map fun server => ⟨server, state.account.after state.server event⟩

/-- The server from `Start` on, with nothing received and nothing handled. -/
def accountedSystem : LabelledSystem AccountedState ServerEvent :=
  .ofStep ⟨.start, ⟨fun _ => [], []⟩⟩ AccountedState.step

/-- The account does not change what the server does. -/
theorem exists_accounted {events : List ServerEvent} {state : ServerState}
    (run : serverSystem.Runs (fun _ _ _ => True) events state) :
    ∃ account, accountedSystem.Runs (fun _ _ _ => True) events ⟨state, account⟩ := by
  induction run with
  | initial valid =>
      obtain rfl := valid
      exact ⟨_, .initial rfl⟩
  | step _ stepped _ inductionHypothesis =>
      obtain ⟨account, accounted⟩ := inductionHypothesis
      exact ⟨_, accounted.step (Option.map_eq_some_iff.mpr ⟨_, stepped, rfl⟩) trivial⟩

/-- The packages that were read from a connection. -/
def packagesFrom (packs : List DataPack) (pointer : Nat) : List (List Byte) :=
  (packs.filter fun pack => pack.origin = pointer).map DataPack.data

@[simp] theorem packagesFrom_append (packs more : List DataPack) (pointer : Nat) :
    packagesFrom (packs ++ more) pointer = packagesFrom packs pointer ++ packagesFrom more pointer := by
  simp [packagesFrom]

/-- What is read from one connection is from no other. -/
theorem packagesFrom_read (cfd : Int) (origin pointer : Nat) (delivered : List (List Byte)) :
    packagesFrom (delivered.map fun data => ⟨cfd, data, origin⟩) pointer =
      if pointer = origin then delivered else [] := by
  by_cases same : pointer = origin
  · subst same
    simp [packagesFrom, List.filter_map, Function.comp_def]
  · simp [packagesFrom, List.filter_map, Function.comp_def, Ne.symm same, same]

/-! ## What has been received -/

/-- The read buffers of the connections, the queue of `DataHandler` and the counters. -/
structure Reception where
  readBuffers : Nat → Option ReadBuffer
  accepted : Nat
  dataTasks : List DataPack
  recvStatistics : RecvStatistics

/-- The packages that arrived, in some order, have been handled or are queued in that order; of
each connection they are the packages of its bytes, its read buffer holds what is left of them,
and the counters say how many they are. -/
structure Account.Balances (account : Account) (reception : Reception) : Prop where
  packages : ∃ arrivals : List DataPack,
    arrivals.Perm (account.handled ++ reception.dataTasks) ∧
      reception.dataTasks.Sublist arrivals ∧
      ∀ pointer, packagesFrom arrivals pointer = packages (arrived (account.answers pointer))
  kept : ∀ pointer readBuffer, reception.readBuffers pointer = some readBuffer →
    readBuffer.content = undecided (arrived (account.answers pointer)) ∧
      Incomplete (undecided (arrived (account.answers pointer)))
  fresh : ∀ pointer, reception.accepted ≤ pointer → account.answers pointer = []
  counted : Counted ⟨0, 0⟩ ((account.handled ++ reception.dataTasks).map DataPack.data)
    reception.recvStatistics

namespace Account.Balances

variable {account : Account} {reception : Reception}

/-- Nothing has been left of nothing. -/
theorem undecided_nil : undecided [] = [] := by
  rw [undecided, Cutter.cut_of_none rfl]

/-- Nothing has been received. -/
theorem nothing : Balances ⟨fun _ => [], []⟩ ⟨fun _ => none, 0, [], ⟨0, 0⟩⟩ where
  packages := ⟨[], .refl _, .refl _, fun _ => by
    rw [arrived, List.flatMap_nil, Frame.packages, Cutter.cut_of_none rfl]
    rfl⟩
  kept := nofun
  fresh _ _ := rfl
  counted := .refl _

/-- A new client. -/
theorem connect (balances : account.Balances reception) (memory : SizedBytes readBufMaxSize) :
    account.Balances { reception with
      readBuffers := Function.update reception.readBuffers reception.accepted (some (.fresh memory))
      accepted := reception.accepted + 1 } where
  packages := balances.packages
  kept pointer readBuffer present := by
    by_cases here : pointer = reception.accepted
    · subst here
      obtain rfl : ReadBuffer.fresh memory = readBuffer := by simpa using present
      rw [balances.fresh _ (Nat.le_refl _), arrived, List.flatMap_nil, undecided_nil]
      exact ⟨ReadBuffer.content_fresh memory, Or.inl (Nat.zero_le 4)⟩
    · exact balances.kept pointer readBuffer (by simpa [here] using present)
  fresh pointer outside := balances.fresh pointer (Nat.le_of_succ_le outside)
  counted := balances.counted

/-- A client is gone. -/
theorem delete (balances : account.Balances reception) (pointer : Nat) :
    account.Balances { reception with
      readBuffers := Function.update reception.readBuffers pointer none } where
  packages := balances.packages
  kept other readBuffer present := by
    by_cases here : other = pointer
    · simp [here] at present
    · exact balances.kept other readBuffer (by simpa [here] using present)
  fresh := balances.fresh
  counted := balances.counted

/-- A handler takes a package. -/
theorem handle (balances : account.Balances reception) {index : Nat} {pack : DataPack}
    (queued : reception.dataTasks[index]? = some pack) :
    Balances { account with handled := account.handled ++ [pack] }
      { reception with dataTasks := reception.dataTasks.eraseIdx index } where
  packages := by
    obtain ⟨arrivals, perm, sublist, each⟩ := balances.packages
    exact ⟨arrivals, perm.trans (taken queued), (List.eraseIdx_sublist ..).trans sublist, each⟩
  kept := balances.kept
  fresh := balances.fresh
  counted := balances.counted.perm ((taken queued).map DataPack.data)
where
  taken {index : Nat} {pack : DataPack} (queued : reception.dataTasks[index]? = some pack) :
      (account.handled ++ reception.dataTasks).Perm
        (account.handled ++ [pack] ++ reception.dataTasks.eraseIdx index) := by
    obtain ⟨inside, rfl⟩ := List.getElem?_eq_some_iff.mp queued
    rw [List.append_assoc]
    exact (List.getElem_cons_eraseIdx_perm inside).symm.append_left _

/-- What a call of `Recv` delivers is counted and queued. -/
theorem receive (balances : account.Balances reception) {pointer : Nat} {readBuffer : ReadBuffer}
    (present : reception.readBuffers pointer = some readBuffer) (inside : pointer < reception.accepted)
    (cfd : Int) {answers : List RecvAnswer} {session : Session RecvStatistics} {exit : RecvExit}
    (looped : recvLoop client4ReadCallback ⟨reception.recvStatistics, readBuffer, [], .receiving⟩
      answers = some (session, exit)) (ended : exit ≠ .broken) :
    Balances
      { account with
        answers := Function.update account.answers pointer (account.answers pointer ++ answers) }
      { reception with
        readBuffers := Function.update reception.readBuffers pointer (some session.buffer)
        dataTasks := reception.dataTasks ++ session.delivered.map fun data => ⟨cfd, data, pointer⟩
        recvStatistics := session.owner } := by
  obtain ⟨arrivals, perm, sublist, each⟩ := balances.packages
  obtain ⟨content, incomplete⟩ := balances.kept pointer readBuffer present
  have split : arrived (account.answers pointer ++ answers) =
      arrived (account.answers pointer) ++ arrived answers := List.flatMap_append
  have parsed := recvLoop_parsed content incomplete looped
  have counted := recvLoop_counted looped
  refine ⟨⟨arrivals ++ session.delivered.map fun data => ⟨cfd, data, pointer⟩, ?_,
    sublist.append_right _, fun other => ?_⟩, fun other readBuffer present => ?_,
    fun other outside => ?_, ?_⟩
  · rw [← List.append_assoc]
    exact perm.append_right _
  · rw [packagesFrom_append, packagesFrom_read, each]
    by_cases here : other = pointer
    · subst here
      simp only [Function.update_self, split, if_true]
      exact parsed.delivered
    · simp only [Function.update_of_ne here, if_neg here, List.append_nil]
  · by_cases here : other = pointer
    · subst here
      obtain rfl : session.buffer = readBuffer := by simpa using present
      simp only [Function.update_self, split]
      have notBroken : session.status ≠ .broken := recvLoop_notBroken looped ended
      exact parsed.kept notBroken
    · simp only [Function.update_of_ne here]
      exact balances.kept other readBuffer (by simpa [here] using present)
  · have here : other ≠ pointer := by
      have beyond : reception.accepted ≤ other := outside
      omega
    exact (Function.update_of_ne here ..).trans (balances.fresh other outside)
  · rw [← List.append_assoc, List.map_append, List.map_map]
    have data : session.delivered.map (DataPack.data ∘ fun data => ⟨cfd, data, pointer⟩) =
        session.delivered := List.map_id _
    rw [data]
    exact balances.counted.trans counted

end Account.Balances

/-! ## What the steps do to it -/

namespace ServerState

/-- The part of the state that is received into. -/
def reception (state : ServerState) : Reception where
  readBuffers pointer := (state.sockets pointer).map ClientSocket.readBuffer
  accepted := state.accepted
  dataTasks := state.dataTasks
  recvStatistics := state.recvStatistics

variable {state next : ServerState} {pointer : Nat} {socket : ClientSocket}

/-- An object is new, changed or gone. -/
theorem readBuffers_update (sockets : Nat → Option ClientSocket) (pointer : Nat)
    (socket : Option ClientSocket) :
    (fun other => (Function.update sockets pointer socket other).map ClientSocket.readBuffer) =
      Function.update (fun other => (sockets other).map ClientSocket.readBuffer) pointer
        (socket.map ClientSocket.readBuffer) :=
  Function.comp_update (Option.map ClientSocket.readBuffer) ..

/-- Only an object's other fields have changed. -/
theorem reception_setSocket {before : ClientSocket} (present : state.sockets pointer = some before)
    (same : socket.readBuffer = before.readBuffer) :
    (state.setSocket pointer socket).reception = state.reception := by
  simp only [reception, setSocket, Reception.mk.injEq, and_true]
  rw [readBuffers_update, Function.update_eq_self_iff, present, Option.map_some, Option.map_some, same]

/-- Switching one direction. -/
theorem reception_ePollSwitch (state : ServerState) (pointer : Nat)
    {isDone isOther : ClientSocket → Bool} {switch : ClientSocket → ClientSocket}
    {both single : ServerState → Int → ServerState}
    (same : ∀ socket, (switch socket).readBuffer = socket.readBuffer)
    (onBoth : ∀ state cfd, (both state cfd).reception = state.reception)
    (onSingle : ∀ state cfd, (single state cfd).reception = state.reception) :
    (state.ePollSwitch pointer isDone switch isOther both single).reception = state.reception := by
  unfold ePollSwitch withSocket
  split
  · rfl
  · next socket present =>
    have set := reception_setSocket present (same socket)
    dsimp only
    split
    · rfl
    · split
      · exact (onBoth ..).trans set
      · exact (onSingle ..).trans set

theorem reception_epollAdd (state : ServerState) (fs : Int) (pointer : Nat)
    (isWrite isRead : Bool) : (state.epollAdd fs pointer isWrite isRead).reception = state.reception := by
  unfold epollAdd
  split <;> rfl

theorem reception_epollChange (state : ServerState) (fs : Int) (pointer : Nat)
    (isWrite isRead : Bool) :
    (state.epollChange fs pointer isWrite isRead).reception = state.reception := by
  unfold epollChange
  split <;> rfl

theorem reception_ePollAddClientRead (state : ServerState) (pointer : Nat) :
    (state.ePollAddClientRead pointer).reception = state.reception :=
  reception_ePollSwitch _ _ (fun _ => rfl) (fun _ _ => reception_epollChange ..)
    fun _ _ => reception_epollAdd ..

theorem reception_ePollAddClientWrite (state : ServerState) (pointer : Nat) :
    (state.ePollAddClientWrite pointer).reception = state.reception :=
  reception_ePollSwitch _ _ (fun _ => rfl) (fun _ _ => reception_epollChange ..)
    fun _ _ => reception_epollAdd ..

theorem reception_ePollDelClientRead (state : ServerState) (pointer : Nat) :
    (state.ePollDelClientRead pointer).reception = state.reception :=
  reception_ePollSwitch _ _ (fun _ => rfl) (fun _ _ => reception_epollChange ..) fun _ _ => rfl

theorem reception_ePollDelClientWrite (state : ServerState) (pointer : Nat) :
    (state.ePollDelClientWrite pointer).reception = state.reception :=
  reception_ePollSwitch _ _ (fun _ => rfl) (fun _ _ => reception_epollChange ..) fun _ _ => rfl

/-- `Send` sends. -/
theorem reception_send {before : ClientSocket} (present : state.sockets pointer = some before)
    (same : socket.readBuffer = before.readBuffer) {answers : List SendAnswer} {closed : Bool}
    (sent : state.send pointer socket answers = some (next, closed)) :
    next.reception = state.reception := by
  have set : ∀ writeBuffer isWriteing, (state.setSocket pointer
      { socket with writeBuffer, isWriteing }).reception = state.reception :=
    fun _ _ => reception_setSocket present same
  refine observe_send set (fun writeBuffer isWriteing hasData => ?_) sent
  unfold client4WriteCallback
  split
  · exact (reception_ePollAddClientWrite ..).trans (set ..)
  · exact (reception_ePollDelClientWrite ..).trans (set ..)

/-- `Write` too. -/
theorem reception_write (present : state.sockets pointer = some socket) {task : SendTask}
    {answers : List SendAnswer} {closed : Bool}
    (written : state.write pointer socket task answers = some (next, closed)) :
    next.reception = state.reception := by
  unfold write at written
  split at written
  · obtain ⟨-, same⟩ := Option.ite_none_right_eq_some.mp written
    obtain ⟨rfl, rfl⟩ := Prod.mk.inj (Option.some.inj same)
    rfl
  · have appended := @reception_send
      { state with appended := state.appended ++ [⟨pointer, task.queuedFor, task.answers⟩] } next
      pointer { socket with writeBuffer := socket.writeBuffer ++ task.sendData } socket present rfl
      answers closed written
    exact appended

/-- The handlers receive nothing. -/
theorem reception_handleTask (state : ServerState) (pack : DataPack) (memory : Memory)
    (queries : Queries) : (state.handleTask pack memory queries).reception = state.reception :=
  observe_handleTask (fun _ _ => rfl) (fun _ _ => rfl) (fun _ _ => rfl) ..

theorem reception_epoll4EventCallback (state : ServerState) (event : EpollEvent) :
    (state.epoll4EventCallback event).reception = state.reception := by
  unfold epoll4EventCallback
  split
  · rfl
  · split
    · exact reception_ePollDelClientRead ..
    · split
      · exact reception_ePollDelClientWrite ..
      · rfl

variable {account : Account}

/-- A client is closed, or has been. -/
theorem balances_close (balances : account.Balances state.reception) (pointer : Nat) :
    account.Balances (state.clientSocketCloseAndDelete pointer).reception := by
  unfold clientSocketCloseAndDelete withSocket
  split
  · exact balances
  · next socket present =>
    dsimp only
    split
    · exact balances
    · simp only [ePollDelClient, withSocket, present, setSocket, epollRemove, Function.update_idem,
        reception, readBuffers_update]
      exact balances.delete pointer

/-- Clients are accepted. -/
theorem balances_acceptClients {clients : List (Int × SizedBytes readBufMaxSize)}
    (balances : account.Balances state.reception)
    (accepted : state.acceptClients clients = some next) : account.Balances next.reception := by
  induction clients generalizing state with
  | nil =>
      obtain rfl := Option.some.inj accepted
      exact balances
  | cons client rest inductionHypothesis =>
      obtain ⟨-, accepted⟩ := Option.ite_none_right_eq_some.mp accepted
      refine inductionHypothesis ?_ accepted
      simp only [server4ClientConnectCallback]
      rw [reception_ePollAddClientRead]
      simp only [reception, readBuffers_update]
      exact balances.connect client.2

/-- `Recv`, unless it breaks. -/
theorem balances_recv (consistent : state.Consistent) (balances : account.Balances state.reception)
    (present : state.sockets pointer = some socket) {answers : List RecvAnswer} {exit : RecvExit}
    (received : state.recv pointer socket answers = some (next, exit)) (ended : exit ≠ .broken) :
    Account.Balances
      { account with
        answers := Function.update account.answers pointer (account.answers pointer ++ answers) }
      next.reception := by
  obtain ⟨⟨session, _⟩, looped, packed⟩ := Option.bind_eq_some_iff.mp received
  obtain ⟨rfl, rfl⟩ := Prod.mk.inj (Option.some.inj packed)
  have buffered : state.reception.readBuffers pointer = some socket.readBuffer := by
    simp only [reception, present, Option.map_some]
  have inside := consistent.accepted pointer socket.cfd (fdOf_of_socket present)
  have more := balances.receive buffered inside socket.cfd looped ended
  simp only [reception, setSocket, readBuffers_update]
  exact more

/-- The task of a readable client, unless it ends in a fault. -/
theorem balances_readTask (consistent : state.Consistent) (balances : account.Balances state.reception)
    {answers : List RecvAnswer} (done : state.readTask pointer answers = some next)
    (alive : next.fault = none) :
    Account.Balances
      { account with
        answers := Function.update account.answers pointer (account.answers pointer ++ answers) }
      next.reception := by
  cases present : state.sockets pointer with
  | none =>
      rw [readTask, present] at done
      obtain rfl := Option.some.inj done
      cases alive
  | some socket =>
      rw [readTask_eq present] at done
      obtain ⟨⟨received, exit⟩, receiving, ended⟩ := Option.map_eq_some_iff.mp done
      cases exit with
      | closed =>
          obtain rfl := ended
          have received := balances_recv consistent balances present receiving (by decide)
          exact balances_close received pointer
      | finished =>
          obtain rfl := ended
          rw [reception_ePollAddClientRead]
          exact balances_recv consistent balances present receiving (by decide)
      | broken =>
          obtain rfl := ended
          cases alive

/-- The task of a writable client. -/
theorem balances_writeTask (balances : account.Balances state.reception) {answers : List SendAnswer}
    (done : state.writeTask pointer answers = some next) : account.Balances next.reception := by
  cases present : state.sockets pointer with
  | none =>
      rw [writeTask, present] at done
      obtain rfl := Option.some.inj done
      exact balances
  | some socket =>
      rw [writeTask, present] at done
      obtain ⟨⟨sent, closed⟩, sending, ended⟩ := Option.bind_eq_some_iff.mp done
      rw [← reception_send present rfl sending] at balances
      obtain rfl := Option.some.inj ended
      cases closed with
      | true => exact balances_close balances pointer
      | false => exact (reception_ePollAddClientWrite sent pointer).symm ▸ balances

/-- The task of `SendPackage`. -/
theorem balances_sendTask (balances : account.Balances state.reception) {task : SendTask}
    {answers : List SendAnswer} (done : state.sendTask task answers = some next) :
    account.Balances next.reception := by
  unfold sendTask at done
  split at done
  · obtain ⟨-, same⟩ := Option.ite_none_right_eq_some.mp done
    obtain rfl := Option.some.inj same
    exact balances
  · next pointer _ =>
    split at done
    · obtain rfl := Option.some.inj done
      exact balances
    · next socket present =>
      obtain ⟨⟨written, closed⟩, writing, ended⟩ := Option.bind_eq_some_iff.mp done
      rw [← reception_write present writing] at balances
      obtain rfl := Option.some.inj ended
      cases closed with
      | true => exact balances_close balances pointer
      | false => exact balances

/-- A task of `SocketControl`, unless it ends in a fault. -/
theorem balances_runTask (consistent : state.Consistent) (balances : account.Balances state.reception)
    {task : SocketTask} {answers : KernelAnswers} (done : state.runTask task answers = some next)
    (alive : next.fault = none) {index : Nat} {before : ServerState}
    (taken : before.socketTasks[index]? = some task) :
    (account.after before (.run index answers)).Balances next.reception := by
  unfold runTask at done
  split at done
  · obtain ⟨accepted, accepting, rfl⟩ := Option.map_eq_some_iff.mp done
    have kept := balances_acceptClients balances accepting
    exact kept
  · simp only [Account.after, taken]
    exact balances_readTask consistent balances done alive
  · exact balances_writeTask balances done
  · exact balances_sendTask balances done
  · cases done

end ServerState

namespace AccountedState

variable {state next : AccountedState} {event : ServerEvent}

/-- Every event that does not end in a fault is accounted for. -/
theorem balances_step (consistent : state.server.Consistent)
    (balances : state.account.Balances state.server.reception)
    (stepped : state.step event = some next) (alive : next.server.fault = none) :
    next.account.Balances next.server.reception := by
  obtain ⟨server, ran, rfl⟩ := Option.map_eq_some_iff.mp stepped
  obtain ⟨-, acted⟩ := Option.ite_none_left_eq_some.mp ran
  cases event with
  | wait ready =>
      obtain ⟨-, same⟩ := Option.ite_none_right_eq_some.mp acted
      obtain rfl := Option.some.inj same
      exact balances
  | callback =>
      simp only at acted
      split at acted
      · cases acted
      · obtain rfl := Option.some.inj acted
        rw [ServerState.reception_epoll4EventCallback]
        exact balances
  | run index answers =>
      obtain ⟨task, queued, done⟩ := Option.bind_eq_some_iff.mp acted
      refine ServerState.balances_runTask ?_ ?_ done alive queued
      · exact consistent.of_queues
      · exact balances
  | handle index memory queries =>
      obtain ⟨pack, queued, done⟩ := Option.bind_eq_some_iff.mp acted
      obtain rfl := Option.some.inj done
      rw [ServerState.reception_handleTask]
      have handled := balances.handle queued
      simp only [Account.after, queued, Option.toList_some]
      exact handled
  | clientSocketClose cfd =>
      obtain rfl := Option.some.inj acted
      unfold ServerState.clientSocketClose
      split
      · exact balances
      · exact ServerState.balances_close balances _

end AccountedState

/-- The account of a run is that of a run of the server. -/
theorem runs_accounted_server {events : List ServerEvent} {state : AccountedState}
    (run : accountedSystem.Runs (fun _ _ _ => True) events state) :
    serverSystem.Runs (fun _ _ _ => True) events state.server := by
  induction run with
  | initial valid =>
      obtain rfl := valid
      exact .initial rfl
  | step _ stepped _ inductionHypothesis =>
      obtain ⟨server, ran, rfl⟩ := Option.map_eq_some_iff.mp stepped
      exact inductionHypothesis.step ran trivial

/-- Every run of the server has an account, which changes nothing. While no fault has ended the
run, the packages handled and those still queued are, in some order, those of the bytes received:
from each connection as often and in the order in which its bytes hold them; the read buffers hold
what is left, and the counters say how many packages there were. -/
theorem packages_accounted :
    (∀ events state, serverSystem.Runs (fun _ _ _ => True) events state →
      ∃ account, accountedSystem.Runs (fun _ _ _ => True) events ⟨state, account⟩) ∧
      ∀ events state, accountedSystem.Runs (fun _ _ _ => True) events state →
        state.server.fault = none → state.account.Balances state.server.reception := by
  refine ⟨fun _ _ => exists_accounted, fun events state run => ?_⟩
  induction run with
  | initial valid =>
      obtain rfl := valid
      exact fun _ => .nothing
  | step prior stepped _ inductionHypothesis =>
      intro alive
      have consistent := ServerState.consistent_of_reachable _ ⟨_, runs_accounted_server prior⟩
      obtain ⟨_, ran, -⟩ := Option.map_eq_some_iff.mp stepped
      obtain ⟨running, -⟩ := Option.ite_none_left_eq_some.mp ran
      exact AccountedState.balances_step consistent (inductionHypothesis (not_not.mp running)) stepped
        alive

/-- A client sends something. -/
def readsFrom (cfd : Int) (bytes : List Byte) : List ServerEvent :=
  [.wait [.client cfd true false], .callback, .run 0 (.recvs [.received bytes, .wouldBlock])]

/-- Two clients connect. The first sends a request and the beginning of another, the second sends
one, which is handled first. -/
def twoSenders : List ServerEvent :=
  [.wait [.server], .callback, .run 0 (.accepts [(20, zeroMemory), (21, zeroMemory)])] ++
    readsFrom 20 (frame ServerState.listRequest ++ [16, 0, 0, 0, 102]) ++
    readsFrom 21 (frame ServerState.listRequest) ++ [.handle 1 .zeroed .empty]

/-- One package has been handled, the other one is queued, and five bytes are left. -/
theorem twoSenders_accounted :
    ∃ state, accountedSystem.Runs (fun _ _ _ => True) twoSenders state ∧
      state.account.handled = [⟨21, ServerState.listRequest, 1⟩] ∧
      state.server.dataTasks = [⟨20, ServerState.listRequest, 0⟩] ∧
      (state.server.reception.readBuffers 0).map ReadBuffer.content = some [16, 0, 0, 0, 102] ∧
      state.account.Balances state.server.reception := by
  have followed : ∃ state, LabelledSystem.follow AccountedState.step (fun _ _ _ => True)
      ⟨.start, ⟨fun _ => [], []⟩⟩ twoSenders = some state ∧
        state.account.handled = [⟨21, ServerState.listRequest, 1⟩] ∧
        state.server.dataTasks = [⟨20, ServerState.listRequest, 0⟩] ∧
        (state.server.reception.readBuffers 0).map ReadBuffer.content = some [16, 0, 0, 0, 102] ∧
        state.server.fault = none := ⟨_, rfl, rfl, rfl, rfl, rfl⟩
  obtain ⟨state, followed, handled, dataTasks, content, alive⟩ := followed
  have run : accountedSystem.Runs (fun _ _ _ => True) twoSenders state :=
    LabelledSystem.runs_of_follow followed
  exact ⟨state, run, handled, dataTasks, content, packages_accounted.2 _ _ run alive⟩

end SocketMessage.Server
