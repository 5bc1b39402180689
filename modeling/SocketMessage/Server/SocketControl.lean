import Mathlib.Logic.Function.Basic
import SocketMessage.Server.OnlineTable
import SocketMessage.Server.ClientSocket
import SocketMessage.Server.DataHandler

/-!
# Connections, epoll and the two task queues

The state of `SocketControl` and `DataHandler` together with what the kernel keeps for
them, and the functions that change it. A `ClientSocket *` is the number of the accept
that created the object; a deleted object is gone from `sockets`, and using it is a
`Fault`. What no code reads is recorded at the end of the state: who was torn down
with what consequences, and which bytes went to which connection on whose behalf.
-/

namespace SocketMessage.Server

open SocketMessage.Lib SocketMessage.Frame SocketMessage.Wire

/-- What ends a run of the server: an object used after its deletion, a read callback
or a handler that reads out of range or throws. -/
inductive Fault where
  | usedDeleted
  | readCallback
  | handler
deriving DecidableEq, Repr

/-- An fd in the epoll set: its `data.ptr` and the events asked for. -/
structure Registration where
  pointer : Nat
  isRead : Bool
  isWrite : Bool
deriving DecidableEq, Repr

/-- The `data.ptr` of an event. -/
inductive EventSource where
  | server
  | client (pointer : Nat)
deriving DecidableEq, Repr

/-- An event `epoll_wait` has returned. -/
structure EpollEvent where
  source : EventSource
  isRead : Bool
  isWrite : Bool
deriving DecidableEq, Repr

/-- The task `SendPackage` queues. `queuedFor` is the connection it found under the
fd, `answers` the one whose package the data answers, if any. -/
structure SendTask where
  cfd : Int
  sendData : List Byte
  queuedFor : Nat
  answers : Option Nat
deriving DecidableEq, Repr

/-- A task in the queue of `SocketControl`'s thread pool. -/
inductive SocketTask where
  | accept
  | read (pointer : Nat)
  | write (pointer : Nat)
  | send (task : SendTask)
deriving DecidableEq, Repr

/-- A task in the queue of `DataHandler`'s thread pool: a package, the fd it was read
from, and the connection that had this fd. -/
structure DataPack where
  cfd : Int
  data : List Byte
  origin : Nat
deriving DecidableEq, Repr

/-- A teardown: which connection, whose entry was erased, which accepted connections
held the fd that was reported closed. -/
structure Teardown where
  connection : Nat
  erased : Nat
  reported : List Nat
deriving DecidableEq, Repr

/-- A package appended to a connection's write buffer. -/
structure Appended where
  connection : Nat
  queuedFor : Nat
  answers : Option Nat
deriving DecidableEq, Repr

/-- The counters of sent data, `unsigned long long`. -/
structure SendStatistics where
  sendPackageCount : Nat
  sendByteCount : Nat
deriving DecidableEq, Repr

/-- `sockets` are the objects that have not been deleted, `accepted` counts all there
were, and `fetched` are the events of the last `epoll_wait` not yet handled. Both task
queues are in the order of their `AddTask`s. `fault` ends the run. -/
structure ServerState where
  sockets : Nat → Option ClientSocket
  accepted : Nat
  clientFdMap : Int → Option Nat
  clientSocketCount : Int
  epoll : Int → Option Registration
  serverRegistered : Bool
  fetched : List EpollEvent
  socketTasks : List SocketTask
  dataTasks : List DataPack
  onlineUserMap : OrderedMap Int Int
  recvStatistics : RecvStatistics
  sendStatistics : SendStatistics
  fault : Option Fault
  teardowns : List Teardown
  appended : List Appended

namespace ServerState

/-- After `Start`: the server's socket is registered, nothing else has happened. -/
def start : ServerState where
  sockets _ := none
  accepted := 0
  clientFdMap _ := none
  clientSocketCount := 0
  epoll _ := none
  serverRegistered := true
  fetched := []
  socketTasks := []
  dataTasks := []
  onlineUserMap := .empty
  recvStatistics := ⟨0, 0⟩
  sendStatistics := ⟨0, 0⟩
  fault := none
  teardowns := []
  appended := []

/-- The fd of an object that has not been deleted. -/
def fdOf (state : ServerState) (pointer : Nat) : Option Int :=
  (state.sockets pointer).map ClientSocket.cfd

def fail (state : ServerState) (fault : Fault) : ServerState := { state with fault := some fault }

/-- Use an object, which must not have been deleted. -/
def withSocket (state : ServerState) (pointer : Nat) (use : ClientSocket → ServerState) :
    ServerState :=
  match state.sockets pointer with
  | none => state.fail .usedDeleted
  | some socket => use socket

/-- Change an object's fields. -/
def setSocket (state : ServerState) (pointer : Nat) (socket : ClientSocket) : ServerState :=
  { state with sockets := Function.update state.sockets pointer (some socket) }

def addSocketTask (state : ServerState) (task : SocketTask) : ServerState :=
  { state with socketTasks := state.socketTasks ++ [task] }

/-! ## The epoll set -/

/-- `EPoll::Add`: `EPOLL_CTL_ADD` refuses an fd that is registered. -/
def epollAdd (state : ServerState) (fs : Int) (pointer : Nat) (isWrite isRead : Bool) :
    ServerState :=
  match state.epoll fs with
  | some _ => state
  | none => { state with epoll := Function.update state.epoll fs (some ⟨pointer, isRead, isWrite⟩) }

/-- `EPoll::Change`: `EPOLL_CTL_MOD` refuses an fd that is not registered. -/
def epollChange (state : ServerState) (fs : Int) (pointer : Nat) (isWrite isRead : Bool) :
    ServerState :=
  match state.epoll fs with
  | some _ =>
      { state with epoll := Function.update state.epoll fs (some ⟨pointer, isRead, isWrite⟩) }
  | none => state

/-- `EPoll::Remove`, and what `close` does to a registered fd. -/
def epollRemove (state : ServerState) (fs : Int) : ServerState :=
  { state with epoll := Function.update state.epoll fs none }

/-- What the four functions that switch one direction on or off have in common: the
flag, then a change of the registration when the other direction is registered too,
and otherwise a new registration or none. -/
def ePollSwitch (state : ServerState) (pointer : Nat) (isDone : ClientSocket → Bool)
    (switch : ClientSocket → ClientSocket) (isOther : ClientSocket → Bool)
    (both single : ServerState → Int → ServerState) : ServerState :=
  state.withSocket pointer fun socket =>
    if isDone socket then state
    else
      let state := state.setSocket pointer (switch socket)
      if isOther socket then both state socket.cfd else single state socket.cfd

def ePollAddClientRead (state : ServerState) (pointer : Nat) : ServerState :=
  state.ePollSwitch pointer (fun socket => socket.cfdIsRead)
    (fun socket => { socket with cfdIsRead := true }) (fun socket => socket.cfdIsWrite)
    (fun state cfd => state.epollChange cfd pointer true true)
    (fun state cfd => state.epollAdd cfd pointer false true)

def ePollAddClientWrite (state : ServerState) (pointer : Nat) : ServerState :=
  state.ePollSwitch pointer (fun socket => socket.cfdIsWrite)
    (fun socket => { socket with cfdIsWrite := true }) (fun socket => socket.cfdIsRead)
    (fun state cfd => state.epollChange cfd pointer true true)
    (fun state cfd => state.epollAdd cfd pointer true false)

def ePollDelClientRead (state : ServerState) (pointer : Nat) : ServerState :=
  state.ePollSwitch pointer (fun socket => !socket.cfdIsRead)
    (fun socket => { socket with cfdIsRead := false }) (fun socket => socket.cfdIsWrite)
    (fun state cfd => state.epollChange cfd pointer true false)
    (fun state cfd => state.epollRemove cfd)

def ePollDelClientWrite (state : ServerState) (pointer : Nat) : ServerState :=
  state.ePollSwitch pointer (fun socket => !socket.cfdIsWrite)
    (fun socket => { socket with cfdIsWrite := false }) (fun socket => socket.cfdIsRead)
    (fun state cfd => state.epollChange cfd pointer false true)
    (fun state cfd => state.epollRemove cfd)

def ePollDelClient (state : ServerState) (pointer : Nat) : ServerState :=
  state.withSocket pointer fun socket =>
    let state := state.setSocket pointer { socket with cfdIsWrite := false, cfdIsRead := false }
    state.epollRemove socket.cfd

/-! ## Opening and closing -/

/-- Whether `accept` may return an fd number: positive, and of no object that has not
been deleted, whose destructor closes the fd. -/
def fdFree (state : ServerState) (cfd : Int) : Bool :=
  0 < cfd && (List.range state.accepted).all fun pointer => state.fdOf pointer ≠ some cfd

/-- `Server4ClientConnectCallback`: `std::map::insert` keeps an entry that is there. -/
def server4ClientConnectCallback (state : ServerState) (cfd : Int)
    (memory : SizedBytes readBufMaxSize) : ServerState :=
  let pointer := state.accepted
  let state :=
    { state with
      sockets := Function.update state.sockets pointer (some (.create cfd memory))
      accepted := state.accepted + 1
      clientFdMap := Function.update state.clientFdMap cfd
        (some ((state.clientFdMap cfd).getD pointer))
      clientSocketCount := state.clientSocketCount + 1
      onlineUserMap := clientSocketState state.onlineUserMap cfd true }
  state.ePollAddClientRead pointer

/-- `ServerSocket::Accept`: the kernel hands over connections until there are no more. -/
def acceptClients (state : ServerState) :
    List (Int × SizedBytes readBufMaxSize) → Option ServerState
  | [] => some state
  | (cfd, memory) :: rest =>
      if state.fdFree cfd then (state.server4ClientConnectCallback cfd memory).acceptClients rest
      else none

/-- The accepted connections that hold an fd. -/
def holders (state : ServerState) (cfd : Int) : List Nat :=
  (List.range state.accepted).filter fun pointer => state.fdOf pointer = some cfd

/-- `ClientSocketCloseAndDelete`. The destructor closes the fd. -/
def clientSocketCloseAndDelete (state : ServerState) (pointer : Nat) : ServerState :=
  state.withSocket pointer fun socket =>
    match state.clientFdMap socket.cfd with
    | none => state
    | some erased =>
        let teardown : Teardown := ⟨pointer, erased, state.holders socket.cfd⟩
        let state := { state with clientFdMap := Function.update state.clientFdMap socket.cfd none }
        let state := state.ePollDelClient pointer
        let state :=
          { state with
            clientSocketCount := state.clientSocketCount - 1
            onlineUserMap := clientSocketState state.onlineUserMap socket.cfd false
            teardowns := state.teardowns ++ [teardown] }
        { state with sockets := Function.update state.sockets pointer none }.epollRemove socket.cfd

/-- `ClientSocketClose`. -/
def clientSocketClose (state : ServerState) (cfd : Int) : ServerState :=
  match state.clientFdMap cfd with
  | none => state
  | some pointer => state.clientSocketCloseAndDelete pointer

end ServerState

end SocketMessage.Server
