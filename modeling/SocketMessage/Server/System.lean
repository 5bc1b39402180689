import SocketMessage.Server.SocketControl

/-!
# The running server

The tasks of the two thread pools, the callback of the epoll loop, and the server as a
transition system: every task and every event callback is one transition, and tasks
may run in any order, since a worker can be slow to run what it took from the queue.
What the kernel, the database layer and uninitialised memory contribute is part of an
event.
-/

namespace SocketMessage.Server

open SocketMessage.Lib SocketMessage.Frame SocketMessage.Wire

/-- The counters after one more package. -/
def SendStatistics.count (statistics : SendStatistics) (sendDataCount : Nat) : SendStatistics where
  sendPackageCount := (statistics.sendPackageCount + 1) % 2 ^ 64
  sendByteCount := (statistics.sendByteCount + sendDataCount) % 2 ^ 64

/-- What the kernel answers while a task runs: the fds it hands over (with what the new
read buffers hold), what arrives, what it takes. -/
inductive KernelAnswers where
  | accepts (clients : List (Int × SizedBytes readBufMaxSize))
  | recvs (answers : List RecvAnswer)
  | sends (answers : List SendAnswer)

/-- An fd `epoll_wait` reports, and for what. -/
inductive Readiness where
  | server
  | client (cfd : Int) (isRead isWrite : Bool)
deriving DecidableEq, Repr

/-- The client's fd. -/
def Readiness.cfd : Readiness → Option Int
  | .server => none
  | .client cfd _ _ => some cfd

/-- What happens next: `epoll_wait` returns, the loop's callback gets the next event, a
task of `SocketControl`'s pool runs, one of `DataHandler`'s pool, or `ClientSocketClose`
is called. -/
inductive ServerEvent where
  | wait (ready : List Readiness)
  | callback
  | run (index : Nat) (answers : KernelAnswers)
  | handle (index : Nat) (memory : Memory) (queries : Queries)
  | clientSocketClose (cfd : Int)

namespace ServerState

/-! ## Sending -/

/-- `Client4WriteCallback`. -/
def client4WriteCallback (state : ServerState) (pointer : Nat) (hasData : Bool) : ServerState :=
  if hasData then state.ePollAddClientWrite pointer else state.ePollDelClientWrite pointer

/-- `ClientSocket::Send`, and whether it returned `SOCKET_CLOSE`. -/
def send (state : ServerState) (pointer : Nat) (socket : ClientSocket)
    (answers : List SendAnswer) : Option (ServerState × Bool) := do
  let (writeBuffer, exit) ← sendLoop socket.writeBuffer answers
  let socket := { socket with writeBuffer }
  let hasData : Bool := exit = .pending
  if exit = .closed then return (state.setSocket pointer socket, true)
  else if socket.isWriteing ≠ hasData then
    let state := state.setSocket pointer { socket with isWriteing := hasData }
    return (state.client4WriteCallback pointer hasData, false)
  else return (state.setSocket pointer socket, false)

/-- `ClientSocket::Write` of a queued package, which is dropped when it does not fit. -/
def write (state : ServerState) (pointer : Nat) (socket : ClientSocket) (task : SendTask)
    (answers : List SendAnswer) : Option (ServerState × Bool) :=
  if socket.getSize4EmptyWrite < task.sendData.length then
    if answers = [] then some (state, false) else none
  else
    let entry : Appended := ⟨pointer, task.queuedFor, task.answers⟩
    { state with appended := state.appended ++ [entry] }.send pointer
      { socket with writeBuffer := socket.writeBuffer ++ task.sendData } answers

/-- `SocketControl::SendPackage`; `answers` is the connection whose package the data
answers. -/
def sendPackage (state : ServerState) (cfd : Int) (data : List Byte) (answers : Option Nat) :
    ServerState :=
  match state.clientFdMap cfd with
  | none => state
  | some pointer => state.withSocket pointer fun socket =>
      let sendDataCount := int32 (socketHeadSize + data.length)
      if socket.getSize4EmptyWrite < sendDataCount then state
      else if sendDataCount < 0 then state.fail .handler
      else state.addSocketTask (.send ⟨cfd, frame data, pointer, answers⟩)

/-! ## The tasks of `SocketControl` -/

/-- What the task of a new client does. -/
def acceptTask (state : ServerState) (clients : List (Int × SizedBytes readBufMaxSize)) :
    Option ServerState :=
  (state.acceptClients clients).map fun state => { state with serverRegistered := true }

/-- What the task of a readable client does. -/
def readTask (state : ServerState) (pointer : Nat) (answers : List RecvAnswer) :
    Option ServerState :=
  match state.sockets pointer with
  | none => some (state.fail .usedDeleted)
  | some socket => do
      let (session, exit) ← recvLoop client4ReadCallback
        ⟨state.recvStatistics, socket.readBuffer, [], .receiving⟩ answers
      let packs : List DataPack := session.delivered.map fun data => ⟨socket.cfd, data, pointer⟩
      let state :=
        { state.setSocket pointer { socket with readBuffer := session.buffer } with
          recvStatistics := session.owner
          dataTasks := state.dataTasks ++ packs }
      match exit with
      | .closed => return state.clientSocketCloseAndDelete pointer
      | .finished => return state.ePollAddClientRead pointer
      | .broken => return state.fail .readCallback

/-- What the task of a writable client does. -/
def writeTask (state : ServerState) (pointer : Nat) (answers : List SendAnswer) :
    Option ServerState :=
  match state.sockets pointer with
  | none => some (state.fail .usedDeleted)
  | some socket => do
      let (state, closed) ← state.send pointer socket answers
      return if closed then state.clientSocketCloseAndDelete pointer
        else state.ePollAddClientWrite pointer

/-- What the task of `SendPackage` does, which looks its fd up again. -/
def sendTask (state : ServerState) (task : SendTask) (answers : List SendAnswer) :
    Option ServerState :=
  match state.clientFdMap task.cfd with
  | none => if answers = [] then some state else none
  | some pointer =>
      match state.sockets pointer with
      | none => some (state.fail .usedDeleted)
      | some socket => do
          let (state, closed) ← state.write pointer socket task answers
          let state := if closed then state.clientSocketCloseAndDelete pointer else state
          return { state with sendStatistics := state.sendStatistics.count task.sendData.length }

/-- Run a task that has been taken from the queue. -/
def runTask (state : ServerState) : SocketTask → KernelAnswers → Option ServerState
  | .accept, .accepts clients => state.acceptTask clients
  | .read pointer, .recvs answers => state.readTask pointer answers
  | .write pointer, .sends answers => state.writeTask pointer answers
  | .send task, .sends answers => state.sendTask task answers
  | _, _ => none

/-! ## The tasks of `DataHandler` -/

/-- One call a handler makes. -/
def act (state : ServerState) (pack : DataPack) : HandlerAction → ServerState
  | .answer data => state.sendPackage pack.cfd data (some pack.origin)
  | .clientOpen userId =>
      { state with onlineUserMap := clientOpen state.onlineUserMap pack.cfd userId.toInt }
  | .relay userId data =>
      let cfd := userId2Cfd state.onlineUserMap userId.toInt
      if cfd > 0 then state.sendPackage cfd data none else state
  | .fail => state.fail .handler

/-- The calls of a handler in order, up to one that throws. -/
def runActions (pack : DataPack) : ServerState → List HandlerAction → ServerState
  | state, [] => state
  | state, action :: rest =>
      let next := state.act pack action
      if next.fault = none then runActions pack next rest else next

/-- `DataHandler::ThreadWork`. -/
def handleTask (state : ServerState) (pack : DataPack) (memory : Memory) (queries : Queries) :
    ServerState :=
  match threadWork memory pack.data with
  | .dropped => state
  | .outside => state.fail .handler
  | .decoded request => runActions pack state (handle queries request)

/-! ## The epoll loop -/

/-- The most events one `epoll_wait` returns. -/
abbrev eventSize : Nat := 1024

/-- The event for an fd that is registered for what it is ready for; hang-ups are
reported without being asked for. -/
def epollEvent (state : ServerState) : Readiness → Option EpollEvent
  | .server => if state.serverRegistered then some ⟨.server, true, false⟩ else none
  | .client cfd isRead isWrite => do
      let registration ← state.epoll cfd
      if (isRead → registration.isRead) ∧ (isWrite → registration.isWrite) then
        return ⟨.client registration.pointer, isRead, isWrite⟩
      else none

/-- `Epoll4EventCallback`. -/
def epoll4EventCallback (state : ServerState) (event : EpollEvent) : ServerState :=
  match event.source with
  | .server => { state with serverRegistered := false }.addSocketTask .accept
  | .client pointer =>
      if event.isRead then (state.ePollDelClientRead pointer).addSocketTask (.read pointer)
      else if event.isWrite then (state.ePollDelClientWrite pointer).addSocketTask (.write pointer)
      else state

/-- One event, if it can happen; a fault has ended the run. -/
def step (state : ServerState) (event : ServerEvent) : Option ServerState :=
  if state.fault ≠ none then none
  else
    match event with
    | .wait ready =>
        if state.fetched = [] ∧ ready.length ≤ eventSize ∧ (ready.map Readiness.cfd).Nodup ∧
            ∀ readiness ∈ ready, (state.epollEvent readiness).isSome then
          some { state with fetched := ready.filterMap state.epollEvent }
        else none
    | .callback =>
        match state.fetched with
        | [] => none
        | event :: rest => some ({ state with fetched := rest }.epoll4EventCallback event)
    | .run index answers => do
        let task ← state.socketTasks[index]?
        { state with socketTasks := state.socketTasks.eraseIdx index }.runTask task answers
    | .handle index memory queries => do
        let pack ← state.dataTasks[index]?
        return { state with dataTasks := state.dataTasks.eraseIdx index }.handleTask pack memory
          queries
    | .clientSocketClose cfd => some (state.clientSocketClose cfd)

end ServerState

/-- The server from `Start` on. -/
def serverSystem : LabelledSystem ServerState ServerEvent := .ofStep .start ServerState.step

end SocketMessage.Server
