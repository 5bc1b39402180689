import SocketMessage.Lib.Transition
import SocketMessage.Lib.WorkerPool
import SocketMessage.Server.System
import SocketMessage.Server.ThreadPool

/-!
# Packages on their way out

`SendPackage` tests whether there is room and leaves the rest to a task of the thread
pool, which calls `Write`. This is one connection with all the pool's workers, one of
which runs `EpollWork` for good; what else the workers do is tasks that come and go, and
what `Send` gets rid of leaves the write buffer at any time.
-/

namespace SocketMessage.Server

open SocketMessage.Lib SocketMessage.Frame

/-- A call of `SendPackage` that was not refused: its number, its caller and the frame
it is to send. -/
structure Package where
  number : Nat
  caller : Nat
  sendData : List Byte
deriving DecidableEq, Repr

/-- A connection from the side of its senders. `accepted` are the packages that were not
refused, `appended` those that reached the write buffer, each in the order in which that
happened. -/
structure Outbox where
  writeBuffer : List Byte
  isOpen : Bool
  accepted : List Package
  appended : List Package

namespace Outbox

/-- An open connection to which nothing has been sent. -/
def start : Outbox := ⟨[], true, [], []⟩

def getSize4EmptyWrite (self : Outbox) : Int := writeBufMaxSize - self.writeBuffer.length

/-- The two tests of `SendPackage`, of a payload of a size. -/
def refuses (self : Outbox) (size : Int) : Bool :=
  !self.isOpen || self.getSize4EmptyWrite < int32 (socketHeadSize + size)

/-- The call of a caller that is not refused becomes a package. -/
def package (self : Outbox) (caller : Nat) (data : List Byte) : Package :=
  ⟨self.accepted.length, caller, frame data⟩

def accept (self : Outbox) (package : Package) : Outbox :=
  { self with accepted := self.accepted ++ [package] }

/-- There is room for a package when its `Write` runs. -/
def HasRoom (self : Outbox) (package : Package) : Prop :=
  (package.sendData.length : Int) ≤ self.getSize4EmptyWrite

instance (self : Outbox) (package : Package) : Decidable (self.HasRoom package) :=
  inferInstanceAs (Decidable (_ ≤ _))

/-- The first critical section of `Write`. -/
def write (self : Outbox) (package : Package) : Outbox :=
  if self.HasRoom package then
    { self with
      writeBuffer := self.writeBuffer ++ package.sendData
      appended := self.appended ++ [package] }
  else self

/-- The task of a package, which looks the connection up again. -/
def writeTask (self : Outbox) (package : Package) : Outbox :=
  if self.isOpen then self.write package else self

/-- Somebody's `send` takes bytes. -/
def send (self : Outbox) (count : Nat) : Outbox :=
  { self with writeBuffer := self.writeBuffer.drop count }

def close (self : Outbox) : Outbox := { self with isOpen := false }

/-- The task of a package appends it when the connection is open and has room for it. -/
theorem writeTask_cases (self : Outbox) (package : Package) :
    (self.isOpen = true ∧ self.HasRoom package ∧ self.writeTask package =
        { self with
          writeBuffer := self.writeBuffer ++ package.sendData
          appended := self.appended ++ [package] }) ∨
      ((self.isOpen = true → ¬ self.HasRoom package) ∧ self.writeTask package = self) := by
  unfold writeTask write
  cases self.isOpen with
  | false => simp
  | true => by_cases room : self.HasRoom package <;> simp [room]

end Outbox

/-- What senders see of a `ClientSocket` that has not been deleted. -/
def ClientSocket.outbox (self : ClientSocket) : Outbox := ⟨self.writeBuffer, true, [], []⟩

/-- `SendPackage` in the model of the whole server makes the same tests. -/
theorem ServerState.sendPackage_eq {state : ServerState} {cfd : Int} {pointer : Nat}
    {socket : ClientSocket} (entry : state.clientFdMap cfd = some pointer)
    (present : state.sockets pointer = some socket) (data : List Byte) (answers : Option Nat) :
    state.sendPackage cfd data answers =
      if socket.outbox.refuses data.length then state
      else if int32 (socketHeadSize + data.length) < 0 then state.fail .handler
      else state.addSocketTask (.send ⟨cfd, frame data, pointer, answers⟩) := by
  have refuses : socket.outbox.refuses data.length =
      decide (socket.getSize4EmptyWrite < int32 (socketHeadSize + data.length)) :=
    Bool.false_or _
  simp only [sendPackage, entry, withSocket, present, refuses, decide_eq_true_eq]

/-- `Write` in the model of the whole server appends the same packages. -/
theorem ServerState.write_eq_outbox {state : ServerState} {pointer : Nat} {socket : ClientSocket}
    {task : SendTask} {package : Package} (same : package.sendData = task.sendData)
    (answers : List SendAnswer) :
    state.write pointer socket task answers =
      if socket.outbox.HasRoom package then
        let entry : Appended := ⟨pointer, task.queuedFor, task.answers⟩
        { state with appended := state.appended ++ [entry] }.send pointer
          { socket with writeBuffer := (socket.outbox.write package).writeBuffer } answers
      else if answers = [] then some (state, false) else none := by
  have room : socket.outbox.HasRoom package ↔
      ¬ socket.getSize4EmptyWrite < task.sendData.length := by
    rw [← same]
    exact Int.not_lt.symm
  by_cases fits : socket.outbox.HasRoom package
  · rw [ServerState.write, if_neg (room.mp fits), if_pos fits, Outbox.write, if_pos fits, same]
    rfl
  · rw [ServerState.write, if_pos (not_not.mp (mt room.mpr fits)), if_neg fits]

/-- What a worker of `SocketControl`'s pool works on: the epoll loop, the task of a
package before or after its `Write`, anything else. -/
inductive SocketWork where
  | epollWork
  | sendPackage (package : Package) (written : Bool)
  | other
deriving DecidableEq, Repr

/-- The package whose `Write` is still to come. -/
def SocketWork.unwritten : SocketWork → Option Package
  | .sendPackage package false => some package
  | _ => none

/-- A connection and the thread pool. -/
structure OutboundState where
  outbox : Outbox
  threadPool : WorkerPool SocketWork

/-- What happens next: somebody calls `SendPackage` or adds another task; a worker takes
a task, runs the `Write` of its package, is done; bytes leave; the connection is
closed. -/
inductive OutboundEvent where
  | sendPackage (caller : Nat) (data : List Byte)
  | addTask
  | take
  | write (index : Nat)
  | finish (index : Nat)
  | send (count : Nat)
  | close

namespace OutboundState

/-- `Start` has queued the epoll loop, and a connection has been accepted. -/
def start : OutboundState := ⟨.start, WorkerPool.empty.submit .epollWork⟩

/-- One step with a pool of so many threads. The data of a package has an `int` for its
size; a size that is negative with its head makes `new` throw. -/
def step (threadCount : Nat) (state : OutboundState) : OutboundEvent → Option OutboundState
  | .sendPackage caller data =>
      if data.length < 2 ^ 31 then
        if state.outbox.refuses data.length then some state
        else if int32 (socketHeadSize + data.length) < 0 then none
        else
          let package := state.outbox.package caller data
          some ⟨state.outbox.accept package, state.threadPool.submit (.sendPackage package false)⟩
      else none
  | .addTask => some { state with threadPool := state.threadPool.submit .other }
  | .take => (state.threadPool.take (workerCount threadCount)).map fun threadPool =>
      { state with threadPool }
  | .write index =>
      match state.threadPool.running[index]? with
      | some (.sendPackage package false) =>
          some ⟨state.outbox.writeTask package,
            state.threadPool.progress index (.sendPackage package true)⟩
      | _ => none
  | .finish index =>
      match state.threadPool.running[index]? with
      | some (.sendPackage _ true) | some .other =>
          some { state with threadPool := state.threadPool.finish index }
      | _ => none
  | .send sent =>
      if sent ≤ state.outbox.writeBuffer.length then
        some { state with outbox := state.outbox.send sent }
      else none
  | .close => some { state with outbox := state.outbox.close }

end OutboundState

/-- One connection of a server whose pool was created with a thread count. -/
def outboundSystem (threadCount : Nat) : LabelledSystem OutboundState OutboundEvent :=
  .ofStep .start (OutboundState.step threadCount)

namespace OutboundState

/-- What a step can be. -/
inductive Moves (threadCount : Nat) (state : OutboundState) : OutboundEvent → OutboundState → Prop where
  | refused {caller : Nat} {data : List Byte} (refuses : state.outbox.refuses data.length = true) :
      Moves threadCount state (.sendPackage caller data) state
  | accepted {caller : Nat} {data : List Byte} (sized : data.length < 2 ^ 31)
      (passes : state.outbox.refuses data.length = false)
      (whole : 0 ≤ int32 (socketHeadSize + data.length)) :
      Moves threadCount state (.sendPackage caller data)
        ⟨state.outbox.accept (state.outbox.package caller data),
          state.threadPool.submit (.sendPackage (state.outbox.package caller data) false)⟩
  | addTask :
      Moves threadCount state .addTask { state with threadPool := state.threadPool.submit .other }
  | take {threadPool : WorkerPool SocketWork}
      (taken : state.threadPool.take (workerCount threadCount) = some threadPool) :
      Moves threadCount state .take { state with threadPool }
  | write {index : Nat} {package : Package}
      (found : state.threadPool.running[index]? = some (.sendPackage package false)) :
      Moves threadCount state (.write index)
        ⟨state.outbox.writeTask package,
          state.threadPool.progress index (.sendPackage package true)⟩
  | finish {index : Nat} {work : SocketWork}
      (found : state.threadPool.running[index]? = some work) (done : work.unwritten = none)
      (ends : work ≠ .epollWork) :
      Moves threadCount state (.finish index)
        { state with threadPool := state.threadPool.finish index }
  | send {sent : Nat} (inside : sent ≤ state.outbox.writeBuffer.length) :
      Moves threadCount state (.send sent) { state with outbox := state.outbox.send sent }
  | close : Moves threadCount state .close { state with outbox := state.outbox.close }

variable {threadCount : Nat} {state next : OutboundState} {event : OutboundEvent}

theorem moves_of_step (stepped : state.step threadCount event = some next) :
    state.Moves threadCount event next := by
  cases event with
  | sendPackage caller data =>
      obtain ⟨sized, built⟩ := Option.ite_none_right_eq_some.mp stepped
      split at built
      · next refuses =>
        obtain rfl := Option.some.inj built
        exact .refused refuses
      · next passes =>
        obtain ⟨whole, built⟩ := Option.ite_none_left_eq_some.mp built
        obtain rfl := Option.some.inj built
        exact .accepted sized (by simpa using passes) (Int.not_lt.mp whole)
  | addTask =>
      obtain rfl := Option.some.inj stepped
      exact .addTask
  | take =>
      obtain ⟨threadPool, taken, rfl⟩ := Option.map_eq_some_iff.mp stepped
      exact .take taken
  | write index =>
      simp only [step] at stepped
      split at stepped
      · next package found =>
        obtain rfl := Option.some.inj stepped
        exact .write found
      · cases stepped
  | finish index =>
      simp only [step] at stepped
      split at stepped
      · next package found =>
        obtain rfl := Option.some.inj stepped
        exact .finish found rfl (by simp)
      · next found =>
        obtain rfl := Option.some.inj stepped
        exact .finish found rfl (by simp)
      · cases stepped
  | send sent =>
      obtain ⟨inside, built⟩ := Option.ite_none_right_eq_some.mp stepped
      obtain rfl := Option.some.inj built
      exact .send inside
  | close =>
      obtain rfl := Option.some.inj stepped
      exact .close

/-- The packages whose `Write` is still to come, in the order of their calls. -/
def waiting (state : OutboundState) : List Package :=
  state.threadPool.pending.filterMap SocketWork.unwritten

@[simp] theorem waiting_submit (outbox : Outbox) (work : SocketWork) :
    waiting ⟨outbox, state.threadPool.submit work⟩ = state.waiting ++ work.unwritten.toList := by
  cases unwritten : work.unwritten <;> simp [waiting, unwritten]

/-- A task that is taken waits on. -/
theorem waiting_take {workers : Nat} {threadPool : WorkerPool SocketWork} {outbox : Outbox}
    (taken : state.threadPool.take workers = some threadPool) :
    waiting ⟨outbox, threadPool⟩ = state.waiting := by
  simp [waiting, WorkerPool.pending_take taken]

/-- What a worker's step does to the packages that wait for their `Write`. -/
theorem waiting_split {index : Nat} {work : SocketWork}
    (found : state.threadPool.running[index]? = some work) :
    ∃ before after, state.waiting = before ++ work.unwritten.toList ++ after ∧
      (∀ outbox, waiting ⟨outbox, state.threadPool.finish index⟩ = before ++ after) ∧
        ∀ outbox package, waiting ⟨outbox, state.threadPool.progress index (.sendPackage package true)⟩ =
          before ++ after := by
  obtain ⟨before, after, pending, _, progressed, finished⟩ := WorkerPool.pending_split found
  refine ⟨before.filterMap SocketWork.unwritten, after.filterMap SocketWork.unwritten, ?_, ?_, ?_⟩
  · cases unwritten : work.unwritten <;> simp [waiting, pending, unwritten]
  · simp [waiting, finished]
  · simp [waiting, progressed, SocketWork.unwritten, List.filterMap_cons]

/-! ## One worker for packages -/

/-- What holds of a pool with at most two threads: one of them has the epoll loop, so
that packages are written one after the other. -/
structure Serial (state : OutboundState) : Prop where
  epollWork : ∃ rest, state.threadPool.pending = .epollWork :: rest
  bounded : state.threadPool.running.length ≤ 2
  ordered : ((state.outbox.appended ++ state.waiting).map Package.number).Pairwise (· < ·)
  numbered : ∀ package ∈ state.outbox.appended ++ state.waiting,
    package.number < state.outbox.accepted.length

/-- No package is new, and the epoll loop goes on. -/
theorem Serial.shrink (serial : state.Serial)
    (epollWork : ∃ rest, next.threadPool.pending = .epollWork :: rest)
    (bounded : next.threadPool.running.length ≤ 2)
    (fewer : (next.outbox.appended ++ next.waiting).Sublist
      (state.outbox.appended ++ state.waiting))
    (accepted : next.outbox.accepted = state.outbox.accepted) : next.Serial where
  epollWork := epollWork
  bounded := bounded
  ordered := serial.ordered.sublist (fewer.map Package.number)
  numbered package member := by
    rw [accepted]
    exact serial.numbered package (fewer.subset member)

/-- With the epoll loop in the first place, what is not the epoll loop is in the second. -/
theorem Serial.place (serial : state.Serial) {index : Nat} {work : SocketWork}
    (found : state.threadPool.running[index]? = some work) (ends : work ≠ .epollWork) :
    ∃ after, state.threadPool.pending = [.epollWork] ++ work :: after ∧
      (∀ task, (state.threadPool.progress index task).pending = [.epollWork] ++ task :: after) ∧
        (state.threadPool.finish index).pending = [.epollWork] ++ after := by
  obtain ⟨before, after, pending, place, progressed, finished⟩ := WorkerPool.pending_split found
  obtain ⟨rest, epollFirst⟩ := serial.epollWork
  have second : before = [.epollWork] := by
    rw [pending] at epollFirst
    have few := WorkerPool.lt_of_running serial.bounded found
    match before, place with
    | [], _ => exact absurd (List.cons.inj epollFirst).1 ends
    | [first], _ => rw [(List.cons.inj epollFirst).1]
    | _ :: _ :: _, place =>
        simp only [List.length_cons] at place
        omega
  subst second
  exact ⟨after, pending, progressed, finished⟩

/-- A package that is accepted comes after all before it. -/
theorem Serial.accept (serial : state.Serial) (caller : Nat) (data : List Byte) :
    Serial ⟨state.outbox.accept (state.outbox.package caller data),
      state.threadPool.submit (.sendPackage (state.outbox.package caller data) false)⟩ := by
  obtain ⟨rest, epollFirst⟩ := serial.epollWork
  have waiting : OutboundState.waiting ⟨state.outbox.accept (state.outbox.package caller data),
      state.threadPool.submit (.sendPackage (state.outbox.package caller data) false)⟩ =
        state.waiting ++ [state.outbox.package caller data] := by
    simp [SocketWork.unwritten]
  refine ⟨⟨rest ++ [_], by simp [epollFirst]; rfl⟩, serial.bounded, ?_, ?_⟩
  · rw [waiting, ← List.append_assoc, List.map_append, List.pairwise_append]
    refine ⟨serial.ordered, List.pairwise_singleton _ _, ?_⟩
    intro number member last isLast
    obtain ⟨package, earlier, rfl⟩ := List.mem_map.mp member
    obtain rfl := List.mem_singleton.mp isLast
    exact serial.numbered package earlier
  · intro package member
    rw [waiting, ← List.append_assoc] at member
    simp only [Outbox.accept, List.length_append, List.length_singleton]
    rcases List.mem_append.mp member with earlier | isLast
    · exact Nat.lt_succ_of_lt (serial.numbered package earlier)
    · obtain rfl := List.mem_singleton.mp isLast
      exact Nat.lt_succ_self _

/-- The package that is written is the first that waits. -/
theorem Serial.write (serial : state.Serial) {index : Nat} {package : Package}
    (found : state.threadPool.running[index]? = some (.sendPackage package false)) :
    Serial ⟨state.outbox.writeTask package,
      state.threadPool.progress index (.sendPackage package true)⟩ := by
  obtain ⟨after, pending, progressed, _⟩ := serial.place found (by simp)
  have mine : state.waiting = package :: after.filterMap SocketWork.unwritten := by
    simp [waiting, pending, SocketWork.unwritten, List.filterMap_cons]
  have rest : ∀ outbox, waiting ⟨outbox, state.threadPool.progress index
      (.sendPackage package true)⟩ = after.filterMap SocketWork.unwritten := by
    simp [waiting, progressed, SocketWork.unwritten, List.filterMap_cons]
  refine serial.shrink ⟨_, progressed _⟩ (by simpa using serial.bounded) ?_ ?_
  · rw [mine, rest]
    rcases state.outbox.writeTask_cases package with ⟨_, _, appends⟩ | ⟨_, leaves⟩
    · simp [appends]
    · rw [leaves]
      exact (List.sublist_cons_self _ _).append_left _
  · rcases state.outbox.writeTask_cases package with ⟨_, _, appends⟩ | ⟨_, leaves⟩
    · simp [appends]
    · simp [leaves]

/-- The order of the calls survives every step. -/
theorem Serial.move (serial : state.Serial) (few : threadCount ≤ 2)
    (moved : state.Moves threadCount event next) : next.Serial := by
  have epollWork := serial.epollWork
  have bounded := serial.bounded
  cases moved with
  | refused => exact serial
  | accepted => exact serial.accept _ _
  | addTask =>
      obtain ⟨rest, epollFirst⟩ := epollWork
      refine serial.shrink ⟨rest ++ [_], by simp [epollFirst]; rfl⟩ bounded ?_ rfl
      simp [SocketWork.unwritten]
  | take taken =>
      have workers : workerCount threadCount ≤ 2 := workerCount_mono few
      refine serial.shrink ?_ (Nat.le_trans (WorkerPool.length_running_take taken) workers) ?_ rfl
      · rw [WorkerPool.pending_take taken]
        exact epollWork
      · rw [waiting_take taken]
  | write found => exact serial.write found
  | @finish index work found done ends =>
      obtain ⟨after, pending, _, finished⟩ := serial.place found ends
      refine serial.shrink ⟨_, finished⟩
        (Nat.le_trans WorkerPool.length_running_finish bounded) ?_ rfl
      simp [waiting, pending, finished, done, List.filterMap_cons]
  | send inside => exact serial.shrink epollWork bounded (.refl _) rfl
  | close => exact serial.shrink epollWork bounded (.refl _) rfl

/-- A server that has just started. -/
theorem serial_start : start.Serial where
  epollWork := ⟨[], rfl⟩
  bounded := by decide
  ordered := List.Pairwise.nil
  numbered package member := by cases member

/-- The packages of every caller reach the write buffer in the order of the calls. -/
def InCallOrder (state : OutboundState) : Prop :=
  ∀ caller, ((state.outbox.appended.filter fun package => package.caller = caller).map
    Package.number).Pairwise (· < ·)

/-- With at most two threads no package overtakes another. -/
theorem inCallOrder_of_few (few : threadCount ≤ 2)
    (reachable : (outboundSystem threadCount).Reachable state) : state.InCallOrder := by
  have serial : state.Serial := reachable.invariant serial_start
    fun _ _ _ serial stepped => serial.move few (moves_of_step stepped)
  intro caller
  refine serial.ordered.sublist (List.Sublist.map _ ?_)
  exact List.filter_sublist.trans (List.sublist_append_left _ _)

/-! ## Two workers for packages -/

/-- A larger pool can do what a smaller one can. -/
theorem step_mono {more : Nat} (enough : threadCount ≤ more)
    (stepped : state.step threadCount event = some next) : state.step more event = some next := by
  cases event with
  | take =>
      obtain ⟨threadPool, taken, rfl⟩ := Option.map_eq_some_iff.mp stepped
      exact Option.map_eq_some_iff.mpr
        ⟨threadPool, WorkerPool.take_mono (workerCount_mono enough) taken, rfl⟩
  | sendPackage | addTask | write | finish | send | close => exact stepped

theorem reachable_mono {more : Nat} (enough : threadCount ≤ more)
    (reachable : (outboundSystem threadCount).Reachable state) :
    (outboundSystem more).Reachable state :=
  reachable.mono (fun _ => id) fun _ _ _ => step_mono enough

/-- One caller sends two packages; two workers take their tasks, and the second is the
first to write. -/
def overtaking : List OutboundEvent :=
  [.take, .sendPackage 0 [7], .sendPackage 0 [8], .take, .take, .write 2, .write 1]

/-- From three threads on a package can overtake an earlier one of its caller. -/
theorem exists_overtaken (many : 3 ≤ threadCount) :
    ∃ state, (outboundSystem threadCount).Reachable state ∧
      state.outbox.appended.map (fun package => (package.caller, package.number)) =
        [(0, 1), (0, 0)] := by
  have followed : (LabelledSystem.follow (step 3) (fun _ _ _ => True) start overtaking).map
      (fun state => state.outbox.appended.map fun package => (package.caller, package.number)) =
        some [(0, 1), (0, 0)] := rfl
  obtain ⟨state, ran, appended⟩ := Option.map_eq_some_iff.mp followed
  have reachable : (outboundSystem 3).Reachable state := ⟨_, LabelledSystem.runs_of_follow ran⟩
  exact ⟨state, reachable_mono many reachable, appended⟩

/-- The packages of a caller that have been overtaken are not in the order of the calls. -/
theorem not_inCallOrder
    (overtaken : state.outbox.appended.map (fun package => (package.caller, package.number)) =
      [(0, 1), (0, 0)]) : ¬ state.InCallOrder := by
  intro inOrder
  obtain ⟨first, rest, appended, firstIs, restIs⟩ := List.map_eq_cons_iff.mp overtaken
  obtain ⟨second, none, rfl, secondIs, noneIs⟩ := List.map_eq_cons_iff.mp restIs
  obtain rfl := List.map_eq_nil_iff.mp noneIs
  obtain ⟨firstCaller, firstNumber⟩ := Prod.mk.inj firstIs
  obtain ⟨secondCaller, secondNumber⟩ := Prod.mk.inj secondIs
  have ordered := inOrder 0
  simp [appended, firstCaller, secondCaller, firstNumber, secondNumber] at ordered

/-- For every thread count: in every run the packages of each caller reach the write
buffer in the order of the calls, exactly when one thread at most is left besides the
epoll loop's. -/
theorem outboundOrder_iff (threadCount : Nat) :
    (∀ state, (outboundSystem threadCount).Reachable state → state.InCallOrder) ↔
      threadCount ≤ 2 := by
  constructor
  · intro inOrder
    by_contra many
    obtain ⟨state, reachable, overtaken⟩ := exists_overtaken (Nat.lt_of_not_le many)
    exact not_inCallOrder overtaken (inOrder state reachable)
  · intro few state reachable
    exact inCallOrder_of_few few reachable

/-- With the eight threads of the server's configuration the second package of a caller
is in the write buffer before the first. -/
theorem eightThreads_packageOvertaken :
    ¬ ∀ state, (outboundSystem 8).Reachable state → state.InCallOrder := by
  intro inOrder
  obtain ⟨state, reachable, overtaken⟩ := exists_overtaken (by decide : 3 ≤ 8)
  exact not_inCallOrder overtaken (inOrder state reachable)

end OutboundState

end SocketMessage.Server
