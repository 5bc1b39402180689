import SocketMessage.Lib.LockOrder
import SocketMessage.Server.MySqlPool

/-!
# What the server's threads lock

Each function of the server that a thread runs, as far as mutexes and database connections
go: which it takes, what it calls meanwhile, and which of its branches it may go through. A
worker that waits for a task, `epoll_wait` and the monitor between two lines hold nothing.
-/

namespace SocketMessage.Server.Locks

open SocketMessage.Lib

/-- The mutexes of the server, and a connection of `m_pMySqlPool`. Each `ClientSocket`, each of
the two thread pools and each memory pool has its own. -/
inductive Resource where
  | mySql
  | mutexRead (clientSocket : Nat)
  | mutexWrite (clientSocket : Nat)
  | clientFdMutex
  | onlineUserMutex
  | ePollMutex
  | socketTasks
  | dataTasks
  | mySqlPoolMutex
  | loggerMutex
  | memoryPoolMutex (pool : Nat)
deriving DecidableEq

/-- Some calls of `new` and `delete`, of which those that a pool serves lock its mutex. -/
def memory : Code Resource := .many (.any fun pool => .hold (.memoryPoolMutex pool) .skip)

/-! ## `ThreadPool`, `MySqlPool` and `Logger` -/

/-- `AddTask`. -/
def addTask (pool : Resource) : Code Resource := .seq memory (.hold pool memory)

/-- `Work`: what a worker does from taking a task out of the queue until it is done with it. -/
def work (pool : Resource) (task : Code Resource) : Code Resource :=
  .seq (.hold pool memory) (.seq task memory)

/-- From `Pop` to `Push`; the wait in `Pop` gives the mutex back. -/
def withMySql (body : Code Resource) : Code Resource :=
  .seq (.hold .mySqlPoolMutex .skip)
    (.hold .mySql (.seq (.hold .mySqlPoolMutex .skip) (.seq body (.hold .mySqlPoolMutex memory))))

/-- `Log`. -/
def log : Code Resource := .seq (.hold .loggerMutex memory) (.seq memory (.hold .loggerMutex memory))

/-- `Logger::ThreadWork`, once round: the records are taken out and written one after another. -/
def loggerWork : Code Resource :=
  .seq (.hold .loggerMutex memory) (.many (.seq (.hold .loggerMutex memory) memory))

/-! ## `SocketControl` and `ClientSocket` -/

/-- `EPollAddClientRead`, `EPollAddClientWrite`, `EPollDelClientRead`, `EPollDelClientWrite` and
`EPollDelClient`. -/
def ePollChange : Code Resource := .hold .ePollMutex .skip

def getClientSocket : Code Resource := .hold .clientFdMutex .skip

/-- `DataHandler::ClientSocketState`. -/
def clientSocketState : Code Resource := .either .skip (.hold .onlineUserMutex memory)

def clientSocketCloseAndDelete : Code Resource :=
  .seq (.hold .clientFdMutex memory)
    (.either .skip (.seq ePollChange (.seq clientSocketState memory)))

/-- `Send`, with `Client4WriteCallback`. -/
def send (clientSocket : Nat) : Code Resource :=
  .hold (.mutexWrite clientSocket) (.either .skip ePollChange)

def write (clientSocket : Nat) : Code Resource :=
  .seq (.hold (.mutexWrite clientSocket) .skip) (.either .skip (send clientSocket))

/-- `SendPackage`, up to its `AddTask`. -/
def sendPackage : Code Resource :=
  .seq getClientSocket (.either .skip (.seq memory (addTask .socketTasks)))

/-- The task of `SendPackage`. -/
def sendTask (clientSocket : Nat) : Code Resource :=
  .seq getClientSocket
    (.seq (.either .skip (.seq (write clientSocket) (.either .skip clientSocketCloseAndDelete)))
      memory)

def clientSocketClose : Code Resource :=
  .seq getClientSocket (.either .skip clientSocketCloseAndDelete)

/-- `AddData`. -/
def addData : Code Resource := .seq memory (addTask .dataTasks)

def client4ReadCallback : Code Resource := .many (.seq memory addData)

def recv (clientSocket : Nat) : Code Resource :=
  .hold (.mutexRead clientSocket) (.many client4ReadCallback)

/-- The task of an event for reading. -/
def readTask (clientSocket : Nat) : Code Resource :=
  .seq (recv clientSocket) (.either clientSocketCloseAndDelete ePollChange)

/-- The task of an event for writing. -/
def writeTask (clientSocket : Nat) : Code Resource :=
  .seq (send clientSocket) (.either clientSocketCloseAndDelete ePollChange)

def server4ClientConnectCallback : Code Resource :=
  .seq memory (.seq (.hold .clientFdMutex memory) (.seq clientSocketState ePollChange))

/-- The task of an event of the listening socket. -/
def acceptTask : Code Resource := .seq (.many server4ClientConnectCallback) ePollChange

/-- `Epoll4EventCallback`: each of its branches changes the epoll set and queues a task. -/
def epoll4EventCallback : Code Resource :=
  .either .skip (.seq ePollChange (addTask .socketTasks))

def epollWork : Code Resource := .many epoll4EventCallback

/-! ## `DataHandler` -/

def clientOpen : Code Resource := .hold .onlineUserMutex memory

def userId2Cfd : Code Resource := .hold .onlineUserMutex .skip

def dataHandlerC2SLogin : Code Resource :=
  .seq memory (withMySql (.seq (.many memory) (.seq sendPackage (.either .skip
    (.seq clientOpen (.seq (.many memory) (.seq sendPackage (.seq (.many memory) sendPackage))))))))

def dataHandlerC2SGetDataMsgList : Code Resource :=
  .seq memory (withMySql (.seq (.many memory) sendPackage))

def dataHandlerC2SDataMsg : Code Resource :=
  .seq memory (.seq (withMySql (.many memory))
    (.seq (.many memory) (.many (.seq userId2Cfd (.either .skip sendPackage)))))

/-- `DataHandler::ThreadWork`. -/
def threadWork : Code Resource :=
  .either .skip (.either dataHandlerC2SLogin
    (.either dataHandlerC2SGetDataMsgList dataHandlerC2SDataMsg))

/-! ## The order -/

/-- What the threads of the server run: tasks of either pool, the logger's thread, records of
any thread, and `ClientSocketClose`. -/
inductive Runs : Code Resource → Prop where
  | epollWork : Runs (work .socketTasks epollWork)
  | acceptTask : Runs (work .socketTasks acceptTask)
  | readTask (clientSocket : Nat) : Runs (work .socketTasks (readTask clientSocket))
  | writeTask (clientSocket : Nat) : Runs (work .socketTasks (writeTask clientSocket))
  | sendTask (clientSocket : Nat) : Runs (work .socketTasks (sendTask clientSocket))
  | threadWork : Runs (work .dataTasks threadWork)
  | clientSocketClose : Runs clientSocketClose
  | start : Runs (addTask .socketTasks)
  | log : Runs log
  | loggerWork : Runs loggerWork

/-- Connections first, then reading before writing, then everything that is locked on its own,
then memory. -/
@[simp] def rank : Resource → Nat
  | .mySql => 0
  | .mutexRead _ => 1
  | .mutexWrite _ => 2
  | .clientFdMutex | .onlineUserMutex | .ePollMutex | .socketTasks | .dataTasks
  | .mySqlPoolMutex | .loggerMutex => 3
  | .memoryPoolMutex _ => 4

/-- A mutex has one holder; `mySqlPoolCount` connections, or one, are in the pool. -/
def capacity (mySqlPoolCount : Int) : Resource → Nat
  | .mySql => (MySqlPool.construct mySqlPoolCount).count
  | _ => 1

variable {floor : Nat}

@[simp] theorem memory_ordered : memory.Ordered rank floor ↔ floor ≤ 4 := by
  simp [memory]

/-- What is locked on its own, with only memory behind it. -/
theorem addTask_ordered (pool : Resource) (leaf : rank pool = 3) :
    (addTask pool).Ordered rank floor ↔ floor ≤ 3 := by
  simp only [addTask, Code.Ordered, memory_ordered, leaf]
  omega

@[simp] theorem ePollChange_ordered : ePollChange.Ordered rank floor ↔ floor ≤ 3 := by
  simp [ePollChange]

@[simp] theorem getClientSocket_ordered : getClientSocket.Ordered rank floor ↔ floor ≤ 3 := by
  simp [getClientSocket]

@[simp] theorem clientSocketState_ordered : clientSocketState.Ordered rank floor ↔ floor ≤ 3 := by
  simp [clientSocketState]

@[simp] theorem clientSocketCloseAndDelete_ordered :
    clientSocketCloseAndDelete.Ordered rank floor ↔ floor ≤ 3 := by
  simp only [clientSocketCloseAndDelete, Code.Ordered, rank, memory_ordered, ePollChange_ordered,
    clientSocketState_ordered, true_and]
  omega

@[simp] theorem send_ordered {clientSocket : Nat} :
    (send clientSocket).Ordered rank floor ↔ floor ≤ 2 := by
  simp [send]

@[simp] theorem sendPackage_ordered : sendPackage.Ordered rank floor ↔ floor ≤ 3 := by
  simp only [sendPackage, Code.Ordered, memory_ordered, getClientSocket_ordered,
    addTask_ordered .socketTasks rfl, true_and]
  omega

@[simp] theorem addData_ordered : addData.Ordered rank floor ↔ floor ≤ 3 := by
  simp only [addData, Code.Ordered, memory_ordered, addTask_ordered .dataTasks rfl]
  omega

@[simp] theorem recv_ordered {clientSocket : Nat} :
    (recv clientSocket).Ordered rank floor ↔ floor ≤ 1 := by
  simp [recv, client4ReadCallback]

theorem work_ordered {pool : Resource} {task : Code Resource} (leaf : rank pool = 3)
    (ordered : task.Ordered rank 0) : (work pool task).Ordered rank 0 := by
  refine ⟨⟨Nat.zero_le _, ?_⟩, ordered, memory_ordered.mpr (Nat.zero_le 4)⟩
  rw [leaf]
  exact memory_ordered.mpr (Nat.le_refl 4)

theorem withMySql_ordered {body : Code Resource} (ordered : body.Ordered rank 1) :
    (withMySql body).Ordered rank 0 := by
  simp [withMySql, ordered]

theorem threadWork_ordered : threadWork.Ordered rank 0 := by
  refine ⟨trivial, ⟨?_, ?_⟩, ⟨?_, ?_⟩, ?_, ?_⟩
  · simp
  · apply withMySql_ordered
    simp [clientOpen]
  · simp
  · apply withMySql_ordered
    simp
  · simp
  · refine ⟨withMySql_ordered (by simp), ?_⟩
    simp [userId2Cfd]

/-- Everything the threads run keeps to the order. -/
theorem ordered_of_runs {code : Code Resource} (runs : Runs code) : code.Ordered rank 0 := by
  cases runs with
  | epollWork =>
      refine work_ordered rfl ?_
      simp [epollWork, epoll4EventCallback, addTask_ordered .socketTasks rfl]
  | acceptTask =>
      refine work_ordered rfl ?_
      simp [acceptTask, server4ClientConnectCallback]
  | readTask clientSocket => exact work_ordered rfl (by simp [readTask])
  | writeTask clientSocket => exact work_ordered rfl (by simp [writeTask])
  | sendTask clientSocket =>
      refine work_ordered rfl ?_
      simp [sendTask, write]
  | threadWork => exact work_ordered rfl threadWork_ordered
  | clientSocketClose => simp [clientSocketClose]
  | start => exact (addTask_ordered .socketTasks rfl).mpr (Nat.zero_le 3)
  | log => simp [log]
  | loggerWork => simp [loggerWork]

/-- Threads that only ever wait for each other in the order of the resources: none waits for
itself, somebody can always go on, and all can finish. -/
structure Live {Thread : Type} [DecidableEq Thread] (mySqlPoolCount : Int)
    (state : Holding Thread Resource) : Prop where
  notOwn : ∀ thread resource rest, state.rest thread = .acquire resource :: rest →
    thread ∉ state.holders resource
  goesOn : ∀ thread, state.rest thread ≠ [] →
    ∃ other next, state.act (capacity mySqlPoolCount) other = some next
  finishes : ∃ next, Relation.ReflTransGen (fun before after => ∃ thread,
    before.act (capacity mySqlPoolCount) thread = some after) state next ∧
      ∀ thread, next.rest thread = []

theorem capacity_pos (mySqlPoolCount : Int) (resource : Resource) :
    0 < capacity mySqlPoolCount resource := by
  cases resource with
  | mySql =>
      simp only [capacity, MySqlPool.construct]
      split <;> omega
  | _ => exact Nat.zero_lt_one

theorem rank_lt (resource : Resource) : rank resource < 5 := by
  cases resource <;> simp

/-- Whatever the number of threads and of database connections, and whichever of the server's
tasks the threads are in the middle of: they do not wait for each other in a circle. -/
theorem server_live {Thread : Type} [Fintype Thread] [DecidableEq Thread] {mySqlPoolCount : Int}
    {state : Holding Thread Resource}
    (reachable : (Holding.system (capacity mySqlPoolCount) Runs).Reachable state) :
    Live mySqlPoolCount state := by
  have orderly : state.Orderly (capacity mySqlPoolCount) rank :=
    Holding.orderly_of_reachable (fun _ runs => ordered_of_runs runs) reachable
  exact ⟨fun _ _ _ place => orderly.notHeld place,
    fun _ busy => orderly.exists_act (capacity_pos mySqlPoolCount) rank_lt busy,
    orderly.finishes (capacity_pos mySqlPoolCount) rank_lt⟩

/-- A `Send` that has just been blocked for the first time. -/
def blockedSend (clientSocket : Nat) : List (Action Resource) :=
  [.acquire .socketTasks, .release .socketTasks, .acquire (.mutexWrite clientSocket),
    .acquire .ePollMutex, .release .ePollMutex, .release (.mutexWrite clientSocket),
    .acquire .ePollMutex, .release .ePollMutex]

theorem blockedSend_trace (clientSocket : Nat) :
    (work .socketTasks (writeTask clientSocket)).Trace (blockedSend clientSocket) :=
  .seq (.hold .stop)
    (.seq (.seq (.hold (.right (.hold .skip))) (.right (.hold .skip))) .stop)

/-- Two threads send to two clients; one waits for `m_EPollMutex`, which the other holds. -/
theorem blockedSend_live :
    ∃ state : Holding (Fin 2) Resource,
      (Holding.system (capacity 1) Runs).Reachable state ∧
        state.act (capacity 1) 0 = none ∧ state.rest 0 ≠ [] ∧ Live 1 state := by
  have start : (Holding.system (capacity 1) Runs).Reachable
      (Holding.idle : Holding (Fin 2) Resource) := ⟨[], .initial rfl⟩
  have first := @Holding.reachable_of_call _ _ _ _ 0 _ _ _ _ _ start (.writeTask 0)
    (blockedSend_trace 0) rfl
  have both := @Holding.reachable_of_call _ _ _ _ 1 _ _ _ _ _ first (.writeTask 1)
    (blockedSend_trace 1) rfl
  have reachable := @Holding.reachable_of_acts _ _ _ _ _ _ _ _ [0, 0, 0, 1, 1, 1, 1] both rfl
  exact ⟨_, reachable, rfl, by decide, server_live reachable⟩

end SocketMessage.Server.Locks
