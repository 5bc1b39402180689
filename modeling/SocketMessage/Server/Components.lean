import Mathlib.Logic.Function.Basic
import SocketMessage.Lib.OrderedMap
import SocketMessage.Lib.WorkerPool
import SocketMessage.Server.SocketControl
import SocketMessage.Server.ThreadPool

/-!
# The components of the server and who uses them

`MainControl` with the pools of `SocketControl` and `DataHandler` and its destructor. A task
is a list of operations, each with at most one use of an object that a destructor deletes;
between two of them the destructor or another worker can come in. A use of what a destructor
has deleted ends the run.

What is in the buffers, what the kernel answers and whom a handler sends to is left open: a
label says how a call turned out. A `ClientSocket` that a task deletes itself is not a matter
of the destructors. The thread of the monitor is joined before anything is deleted.
-/

namespace SocketMessage.Server

open SocketMessage.Lib

/-- What `~MainControl` and `~SocketControl` delete. -/
inductive Component where
  | dataHandler
  | ePoll
  | serverSocket
  | clientSocket (pointer : Nat)
deriving DecidableEq, Repr

/-- What is added to `SocketControl`'s pool besides `EpollWork`. -/
inductive ControlTask where
  | accept
  | read (pointer : Nat)
  | write (pointer : Nat)
  | send (cfd : Int)
deriving DecidableEq, Repr

/-- What a task does between two points at which others come in: use an object; return from
`epoll_wait`; the test of a flag in the four functions that switch one direction; `AddTask`;
`accept`; a change of `m_ClientFdMap` or a look at it; one `recv` or `send` with what follows
it; `AddData`, for a package whose handler will send to these fds; the tests for room. -/
inductive Operation where
  | use (component : Component)
  | epollWait
  | ePollSwitch (pointer : Nat)
  | addTask (task : ControlTask)
  | accept
  | insertClient (cfd : Int) (pointer : Nat)
  | eraseClient (pointer : Nat)
  | getClientSocket (cfd : Int)
  | recv (pointer : Nat)
  | addData (receivers : List Int)
  | write (pointer : Nat)
  | send (pointer : Nat) (isWriteTask : Bool)
  | sendPackage (cfd : Int)
  | getSize4EmptyWrite (pointer : Nat) (cfd : Int)
deriving DecidableEq, Repr

/-- How an operation turned out: nothing to say; the events of `epoll_wait`; a test; the fd
`accept` returned, if any; the receivers of each package that one `recv` completed; the
socket takes or gives nothing more; `SOCKET_CLOSE`. -/
inductive Answer where
  | silent
  | events (events : List EpollEvent)
  | decided (yes : Bool)
  | client (cfd : Option Int)
  | packages (receivers : List (List Int))
  | wouldBlock
  | closed
deriving DecidableEq, Repr

/-- Only for objects that have been created are there events. -/
def EventSource.known (count : Nat) : EventSource → Bool
  | .server => true
  | .client pointer => pointer < count

/-! ## The tasks -/

/-- `EPollAddClientRead`, `EPollAddClientWrite`, `EPollDelClientRead`, `EPollDelClientWrite`:
the flag, and a call of `m_pEPoll` with the fd if it changes. -/
def ePollAddClientRead (pointer : Nat) : List Operation := [.ePollSwitch pointer]

@[inherit_doc ePollAddClientRead]
def ePollAddClientWrite (pointer : Nat) : List Operation := [.ePollSwitch pointer]

@[inherit_doc ePollAddClientRead]
def ePollDelClientRead (pointer : Nat) : List Operation := [.ePollSwitch pointer]

@[inherit_doc ePollAddClientRead]
def ePollDelClientWrite (pointer : Nat) : List Operation := [.ePollSwitch pointer]

/-- `EPollDelClient`: both flags, then `Remove`. -/
def ePollDelClient (pointer : Nat) : List Operation :=
  [.use (.clientSocket pointer), .use (.clientSocket pointer), .use .ePoll]

/-- `ClientSocketCloseAndDelete`. -/
def clientSocketCloseAndDelete (pointer : Nat) : List Operation := [.eraseClient pointer]

/-- `ClientSocketCloseAndDelete` behind a successful `erase`: `ClientSocketState`, `delete`. -/
def clientSocketErased (pointer : Nat) : List Operation :=
  ePollDelClient pointer ++
    [.use (.clientSocket pointer), .use .dataHandler, .use (.clientSocket pointer)]

/-- `Server4ClientConnectCallback` with the new object: `SetNonBlock` and the callbacks, the
map, `ClientSocketState`. -/
def server4ClientConnectCallback (cfd : Int) (pointer : Nat) : List Operation :=
  [.use (.clientSocket pointer), .insertClient cfd pointer, .use (.clientSocket pointer),
    .use .dataHandler] ++ ePollAddClientRead pointer

/-- `Epoll4EventCallback`. -/
def epoll4EventCallback (event : EpollEvent) : List Operation :=
  match event.source with
  | .server => [.use .serverSocket, .use .ePoll, .addTask .accept]
  | .client pointer =>
      if event.isRead then ePollDelClientRead pointer ++ [.addTask (.read pointer)]
      else if event.isWrite then ePollDelClientWrite pointer ++ [.addTask (.write pointer)]
      else []

/-- `EPoll::Wait` up to the return of `epoll_wait`. -/
def wait : List Operation := [.use .ePoll, .epollWait]

/-- `EPoll::Wait` behind it: `m_EventCallback`, then each of `m_pEvents`. -/
def waited (events : List EpollEvent) : List Operation :=
  .use .ePoll :: events.flatMap fun event => .use .ePoll :: epoll4EventCallback event

/-- The tasks added by `Epoll4EventCallback` and `SendPackage`. -/
def ControlTask.operations : ControlTask → List Operation
  | .accept => [.use .serverSocket, .accept, .use .serverSocket, .use .ePoll]
  | .read pointer => [.use (.clientSocket pointer), .recv pointer]
  | .write pointer => [.use (.clientSocket pointer), .send pointer true]
  | .send cfd => [.getClientSocket cfd]

/-- `DataHandler::ThreadWork` of a package whose handler sends to these fds. -/
def dataHandlerThreadWork (receivers : List Int) : List Operation :=
  .use .dataHandler :: receivers.flatMap fun cfd => [.use .dataHandler, .sendPackage cfd]

/-- What follows the loop of `Send`: the callback if `m_IsWriteing` changes, with the mutex
unlocked behind it, and in the task of a writable client `EPollAddClientWrite`. -/
def sent (pointer : Nat) (isWriteTask changes : Bool) : List Operation :=
  (if changes then [.ePollSwitch pointer, .use (.clientSocket pointer)] else []) ++
    if isWriteTask then ePollAddClientWrite pointer else []

namespace Operation

/-- The object an operation uses. -/
def component : Operation → Option Component
  | use component => some component
  | epollWait => some .ePoll
  | accept => some .serverSocket
  | addData _ => some .dataHandler
  | ePollSwitch pointer | insertClient _ pointer | eraseClient pointer | recv pointer
  | write pointer | send pointer _ | getSize4EmptyWrite pointer _ => some (.clientSocket pointer)
  | addTask _ | getClientSocket _ | sendPackage _ => none

/-- The operations under `m_ClientFdMutex`. -/
def locksClients : Operation → Bool
  | insertClient .. | eraseClient _ | getClientSocket _ | sendPackage _ => true
  | _ => false

end Operation

/-! ## The server -/

/-- A function in a worker's hands and what it still has to do. `EpollWork` with nothing to
do is at the test of its loop. -/
inductive Job where
  | epollWork (operations : List Operation)
  | task (operations : List Operation)
deriving DecidableEq, Repr

/-- A `ThreadPool`: its tasks, how many workers have not come back from `Work`, and its
`m_IsDestory`. -/
structure Workers where
  pool : WorkerPool Job
  workers : Nat
  isDestory : Bool

/-- The pool of `SocketControl` and the one of `DataHandler`. -/
inductive PoolName where
  | socket
  | data
deriving DecidableEq, Repr

/-- `~MainControl`: not called; in `~DataHandler`, at the join; `DataHandler` deleted; in
`~SocketControl`, `m_IsDestory` set; in its loop under `m_ClientFdMutex`, with these clients
to go; behind it; `EPoll` deleted; `ServerSocket` deleted; at the join; back. -/
inductive DestructorAt where
  | notBegun
  | dataHandlerJoin
  | dataHandlerDeleted
  | isDestorySet
  | clients (rest : List (Int × Nat))
  | clientsDeleted
  | ePollDeleted
  | serverSocketDeleted
  | socketControlJoin
  | finished
deriving DecidableEq, Repr

/-- Both pools, `m_ClientFdMap`, how many `ClientSocket`s have been created and their fds,
`SocketControl`'s `m_IsDestory`, the destructor, what it has deleted, and the use of such an
object that ended the run. -/
structure LifeState where
  socketPool : Workers
  dataPool : Workers
  clientFdMap : OrderedMap Int Nat
  accepted : Nat
  cfds : Nat → Int
  isDestory : Bool
  destructor : DestructorAt
  destroyed : List Component
  lateUse : Option Component

/-- `Start` is called; in a pool, a worker takes a task, goes on with one, is done with one,
comes back from `Work`; the destructor does its next step. -/
inductive LifeLabel where
  | start
  | take (name : PoolName)
  | work (name : PoolName) (index : Nat) (answer : Answer)
  | finish (name : PoolName) (index : Nat)
  | leave (name : PoolName)
  | destroy
deriving DecidableEq, Repr

namespace LifeState

/-- Both constructors with their pools. -/
def construct (socketThreadCount dataThreadCount : Nat) : LifeState where
  socketPool := ⟨.empty, workerCount socketThreadCount, false⟩
  dataPool := ⟨.empty, workerCount dataThreadCount, false⟩
  clientFdMap := .empty
  accepted := 0
  cfds := fun _ => 0
  isDestory := false
  destructor := .notBegun
  destroyed := []
  lateUse := none

/-- The pool of this name. -/
def named (state : LifeState) : PoolName → Workers
  | .socket => state.socketPool
  | .data => state.dataPool

/-- Replace the pool of this name. -/
def setNamed (state : LifeState) (name : PoolName) (workers : Workers) : LifeState :=
  match name with
  | .socket => { state with socketPool := workers }
  | .data => { state with dataPool := workers }

/-- What becomes of the tasks of the pool of this name. -/
def setPool (state : LifeState) (name : PoolName) (pool : WorkerPool Job) : LifeState :=
  state.setNamed name { state.named name with pool }

/-- `AddTask` of the pool of this name. -/
def addJob (state : LifeState) (name : PoolName) (job : Job) : LifeState :=
  state.setPool name ((state.named name).pool.submit job)

/-- `~SocketControl` holds `m_ClientFdMutex`. -/
def clientsLocked (state : LifeState) : Bool :=
  match state.destructor with
  | .clients _ => true
  | _ => false

/-- An operation on objects that are there: the state behind it and what it leads to. -/
def perform (state : LifeState) : Operation → Answer → Option (LifeState × List Operation)
  | .use _, .silent => some (state, [])
  | .epollWait, .events events =>
      if events.all fun event => event.source.known state.accepted then
        some (state, waited events)
      else none
  | .ePollSwitch pointer, .decided changes =>
      some (state, if changes then [.use (.clientSocket pointer), .use .ePoll] else [])
  | .addTask task, .silent => some (state.addJob .socket (.task task.operations), [])
  | .accept, .client none => some (state, [])
  | .accept, .client (some cfd) =>
      some ({ state with
          accepted := state.accepted + 1, cfds := Function.update state.cfds state.accepted cfd },
        .use .serverSocket :: server4ClientConnectCallback cfd state.accepted ++ [.accept])
  | .insertClient cfd pointer, .silent =>
      match state.clientFdMap.lookup cfd with
      | some _ => some (state, [])
      | none => some ({ state with clientFdMap := state.clientFdMap.insert cfd pointer }, [])
  | .eraseClient pointer, .silent =>
      match state.clientFdMap.lookup (state.cfds pointer) with
      | none => some (state, [])
      | some _ =>
          some ({ state with clientFdMap := state.clientFdMap.erase (state.cfds pointer) },
            clientSocketErased pointer)
  | .getClientSocket cfd, .silent =>
      match state.clientFdMap.lookup cfd with
      | none => some (state, [])
      | some pointer => some (state, [.write pointer])
  | .recv pointer, .packages receivers =>
      some (state, receivers.flatMap (fun each => [.use (.clientSocket pointer), .addData each]) ++
        [.use (.clientSocket pointer), .recv pointer])
  | .recv pointer, .wouldBlock => some (state, ePollAddClientRead pointer)
  | .recv pointer, .closed => some (state, clientSocketCloseAndDelete pointer)
  | .addData receivers, .silent =>
      some (state.addJob .data (.task (dataHandlerThreadWork receivers)), [])
  | .write pointer, .decided room => some (state, if room then [.send pointer false] else [])
  | .send pointer isWriteTask, .silent => some (state, [.send pointer isWriteTask])
  | .send pointer isWriteTask, .decided changes => some (state, sent pointer isWriteTask changes)
  | .send pointer _, .closed => some (state, clientSocketCloseAndDelete pointer)
  | .sendPackage cfd, .silent =>
      match state.clientFdMap.lookup cfd with
      | none => some (state, [])
      | some pointer => some (state, [.getSize4EmptyWrite pointer cfd])
  | .getSize4EmptyWrite _ cfd, .decided room =>
      some (state, if room then [.addTask (.send cfd)] else [])
  | _, _ => none

/-- The next operation of a worker. -/
def operate (state : LifeState) (operation : Operation) (answer : Answer) :
    Option (LifeState × List Operation) :=
  match operation.component.filter (· ∈ state.destroyed) with
  | some component => some ({ state with lateUse := some component }, [])
  | none =>
      if operation.locksClients ∧ state.clientsLocked then none else state.perform operation answer

/-- A worker goes on with its function. -/
def goOn (state : LifeState) (answer : Answer) : Job → Option (LifeState × Job)
  | .epollWork [] =>
      match answer with
      | .silent => some (state, if state.isDestory then .task [] else .epollWork wait)
      | _ => none
  | .task [] => none
  | .epollWork (operation :: rest) =>
      (state.operate operation answer).map fun result => (result.1, .epollWork (result.2 ++ rest))
  | .task (operation :: rest) =>
      (state.operate operation answer).map fun result => (result.1, .task (result.2 ++ rest))

/-- The next step of `~MainControl`. -/
def destroy (state : LifeState) : Option LifeState :=
  match state.destructor with
  | .notBegun =>
      some { state with
        destructor := .dataHandlerJoin, dataPool := { state.dataPool with isDestory := true } }
  | .dataHandlerJoin =>
      if state.dataPool.workers = 0 then
        some { state with
          destructor := .dataHandlerDeleted, destroyed := .dataHandler :: state.destroyed }
      else none
  | .dataHandlerDeleted => some { state with destructor := .isDestorySet, isDestory := true }
  | .isDestorySet => some { state with destructor := .clients state.clientFdMap.entries }
  | .clients ((_, pointer) :: rest) =>
      some { state with
        destructor := .clients rest, destroyed := .clientSocket pointer :: state.destroyed }
  | .clients [] => some { state with destructor := .clientsDeleted, clientFdMap := .empty }
  | .clientsDeleted =>
      some { state with destructor := .ePollDeleted, destroyed := .ePoll :: state.destroyed }
  | .ePollDeleted =>
      some { state with
        destructor := .serverSocketDeleted, destroyed := .serverSocket :: state.destroyed }
  | .serverSocketDeleted =>
      some { state with
        destructor := .socketControlJoin, socketPool := { state.socketPool with isDestory := true } }
  | .socketControlJoin =>
      if state.socketPool.workers = 0 then some { state with destructor := .finished } else none
  | .finished => none

/-- One step; a use of an object that has been deleted has ended the run. -/
def step (state : LifeState) (label : LifeLabel) : Option LifeState :=
  if state.lateUse ≠ none then none
  else
    match label with
    | .start =>
        if state.destructor = .notBegun then some (state.addJob .socket (.epollWork [])) else none
    | .take name =>
        ((state.named name).pool.take (state.named name).workers).map (state.setPool name)
    | .work name index answer => do
        let job ← (state.named name).pool.running[index]?
        let (next, job) ← state.goOn answer job
        return next.setPool name ((next.named name).pool.progress index job)
    | .finish name index =>
        match (state.named name).pool.running[index]? with
        | some (.task []) => some (state.setPool name ((state.named name).pool.finish index))
        | _ => none
    | .leave name =>
        let self := state.named name
        if self.isDestory ∧ self.pool.queue = [] ∧ self.pool.running.length < self.workers then
          some (state.setNamed name { self with workers := self.workers - 1 })
        else none
    | .destroy => state.destroy

end LifeState

/-- The server from the construction of `MainControl` on. -/
def lifeSystem (socketThreadCount dataThreadCount : Nat) : LabelledSystem LifeState LifeLabel :=
  .ofStep (.construct socketThreadCount dataThreadCount) LifeState.step

end SocketMessage.Server
