import Mathlib.Logic.Function.Basic
import SocketMessage.Frame.Recv
import SocketMessage.Lib.OrderedMap
import SocketMessage.Lib.Transition
import SocketMessage.Server.ClientSocket

/-!
# The client's select loop

`Select::Work` puts the connections that want to write into its write set, one after the
other, and then blocks in `select`, while threads of the application run `SendPackage`. A
step is what a thread does between two points at which another one can see it; `Send` runs
under `m_MutexWrite` and is one step, as is the worker's look at one connection. A thread
keeps the `ClientSocket` it has got, also when the map has lost it.
-/

namespace SocketMessage.Client

open SocketMessage.Lib SocketMessage.Frame

/-- The fields of the client's `ClientSocket` that its writers and the loop use.
`writeBuffer` is `m_WriteBuf` up to `m_CurWriteBufSize`. -/
structure ClientSocket where
  cfd : Int
  writeBuffer : List Byte
  isWriteing : Bool
  cfdIsRead : Bool
  cfdIsWrite : Bool
deriving DecidableEq, Repr

namespace ClientSocket

/-- The constructor, and `Connect`. -/
def connect (cfd : Int) : ClientSocket where
  cfd
  writeBuffer := []
  isWriteing := false
  cfdIsRead := true
  cfdIsWrite := false

/-- `GetSize4EmptyWrite`. -/
def getSize4EmptyWrite (self : ClientSocket) : Int :=
  Server.writeBufMaxSize - self.writeBuffer.length

/-- The critical section of `Write`, when there is room. -/
def write (self : ClientSocket) (pData : List Byte) : Option ClientSocket :=
  if (pData.length : Int) > self.getSize4EmptyWrite then none
  else some { self with writeBuffer := self.writeBuffer ++ pData }

/-- The end of `Send`, with the callback of `ConnectServerSocket`. -/
def report (self : ClientSocket) (hasData : Bool) : ClientSocket :=
  if self.isWriteing ≠ hasData then { self with isWriteing := hasData, cfdIsWrite := hasData }
  else self

/-- `Send`, with what the kernel answers to it. -/
def send (self : ClientSocket) (answers : List Server.SendAnswer) :
    Option (ClientSocket × Server.SendExit) := do
  let (writeBuffer, exit) ← Server.sendLoop self.writeBuffer answers
  match exit with
  | .finished => some ({ self with writeBuffer }.report false, .finished)
  | .pending => some ({ self with writeBuffer }.report true, .pending)
  | .closed => some ({ self with writeBuffer }, .closed)

end ClientSocket

/-- What the loop has put into its sets. -/
structure FdSets where
  readSet : List Int
  writeSet : List Int
  maxSocket : Int
deriving DecidableEq, Repr

/-- `FD_ZERO`. -/
def FdSets.zero : FdSets := ⟨[], [], -1⟩

/-- One pass of the loop over the map that fills the sets. -/
def FdSets.look (sets : FdSets) (fd : Int) (socket : ClientSocket) : FdSets where
  readSet := if socket.cfdIsRead then sets.readSet ++ [fd] else sets.readSet
  writeSet := if socket.cfdIsWrite then sets.writeSet ++ [fd] else sets.writeSet
  maxSocket := if sets.maxSocket < fd then fd else sets.maxSocket

/-- The worker in `Work`: not started; at the head of its loop; filling the sets, behind the
connection it has looked at last; before `select`, with its `timeval`; blocked in `select`;
going through the connections, behind the last one; between a connection's `Recv` and its
`Send`; removing those that closed; back from `Work`. -/
inductive SelectAt where
  | unstarted
  | top
  | filling (position : Option Int) (sets : FdSets)
  | filled (tm : Int × Int) (sets : FdSets)
  | selecting (timeout : Option (Int × Int)) (sets : FdSets)
  | handling (position : Option Int) (sets : FdSets) (closeSocket : List Int)
  | received (fd : Int) (sets : FdSets) (closeSocket : List Int)
  | removing (closeSocket : List Int)
  | returned
deriving DecidableEq, Repr

/-- A thread in `SendPackage`, or not: before `Write`, between its append and the end of its
`Send`, behind a `Write` that returned `SOCKET_CLOSE`. The `ClientSocket` has the number of
its creation. -/
inductive SenderAt where
  | outside
  | before (fd : Int) (number : Nat) (sendData : List Byte)
  | writing (fd : Int) (number : Nat)
  | failed (fd : Int)
deriving DecidableEq, Repr

/-- `Select`, all `ClientSocket`s that have been created, and the threads. -/
structure SelectState where
  clientSocketMap : OrderedMap Int Nat
  timeout : Int
  isDestory : Bool
  sockets : Nat → ClientSocket
  created : Nat
  worker : SelectAt
  senders : Nat → SenderAt

/-- What `select` returns: an error, 0, or what is ready. -/
inductive SelectAnswer where
  | failed
  | timedOut
  | ready (readSet writeSet : List Int)
deriving DecidableEq, Repr

/-- `ConnectServerSocket` gets an fd; a thread calls `SendPackage`, runs the append of
`Write`, its `Send`, and `Remove` when that failed; the worker goes on, `select` returns, a
`Recv` of the worker ends, a `Send` of it; the destructor sets the flag. -/
inductive SelectEvent where
  | connect (fd : Int)
  | sendPackage (sender : Nat) (fd : Int) (data : List Byte)
  | write (sender : Nat)
  | send (sender : Nat) (answers : List Server.SendAnswer)
  | remove (sender : Nat)
  | work
  | select (answer : SelectAnswer)
  | recv (closes : Bool)
  | workSend (answers : List Server.SendAnswer)
  | destory
deriving DecidableEq, Repr

namespace SelectState

/-- `SocketControl` over a new `Select`, with `CONFIG_SOCKET_SELECT_TIMEOUT`. -/
def construct : SelectState where
  clientSocketMap := .empty
  timeout := 100
  isDestory := false
  sockets := fun _ => .connect (-1)
  created := 0
  worker := .unstarted
  senders := fun _ => .outside

/-- A thread of the application goes on. -/
def senderTo (state : SelectState) (sender : Nat) (place : SenderAt) : SelectState :=
  { state with senders := Function.update state.senders sender place }

/-- A `ClientSocket` changes. -/
def setSocket (state : SelectState) (number : Nat) (socket : ClientSocket) : SelectState :=
  { state with sockets := Function.update state.sockets number socket }

/-- `ConnectServerSocket`, once connected: `Add`, then `Start`. -/
def connect (state : SelectState) (fd : Int) : SelectState :=
  { state.setSocket state.created (.connect fd) with
    clientSocketMap := state.clientSocketMap.insert fd state.created
    created := state.created + 1
    worker := if state.worker = .unstarted then .top else state.worker }

/-- `SendPackage` up to `Write`. -/
def sendPackage (state : SelectState) (sender : Nat) (fd : Int) (data : List Byte) :
    Option SelectState :=
  match state.clientSocketMap.lookup fd with
  | none => some state
  | some number =>
      if (state.sockets number).getSize4EmptyWrite < int32 (socketHeadSize + data.length) then
        some state
      else if int32 (socketHeadSize + data.length) < 0 then none
      else some (state.senderTo sender (.before fd number (frame data)))

/-- The worker's next step where the kernel has no say. -/
def work (state : SelectState) : SelectAt → Option SelectState
  | .top =>
      some { state with worker := if state.isDestory then .returned else .filling none .zero }
  | .filling position sets =>
      match state.clientSocketMap.after position with
      | some (fd, number) =>
          some { state with worker := .filling (some fd) (sets.look fd (state.sockets number)) }
      | none =>
          let tm := (state.timeout.tdiv 1000, state.timeout.tmod 1000 * 1000)
          some { state with timeout := -1, worker := .filled tm sets }
  | .filled tm sets =>
      some { state with
        worker := .selecting (if state.timeout = -1 then none else some tm) sets }
  | .handling position sets closeSocket =>
      match state.clientSocketMap.after position with
      | some (fd, _) =>
          if fd ∈ sets.readSet then none
          else some { state with worker := .received fd sets closeSocket }
      | none => some { state with worker := .removing closeSocket }
  | .received fd sets closeSocket =>
      if fd ∈ sets.writeSet then none
      else some { state with worker := .handling (some fd) sets closeSocket }
  | .removing (fd :: rest) =>
      some { state with
        clientSocketMap := state.clientSocketMap.erase fd, worker := .removing rest }
  | .removing [] => some { state with worker := .top }
  | .unstarted | .selecting .. | .returned => none

/-- `select` returns: never 0 without a timeout, and of the sets only what was in them. -/
def select (state : SelectState) (timeout : Option (Int × Int)) (sets : FdSets) :
    SelectAnswer → Option SelectState
  | .failed => some { state with worker := .top }
  | .timedOut => if timeout = none then none else some { state with worker := .top }
  | .ready readSet writeSet =>
      if readSet ⊆ sets.readSet ∧ writeSet ⊆ sets.writeSet ∧ (readSet ≠ [] ∨ writeSet ≠ []) then
        some { state with worker := .handling none ⟨readSet, writeSet, sets.maxSocket⟩ [] }
      else none

/-- One step. -/
def step (state : SelectState) : SelectEvent → Option SelectState
  | .connect fd =>
      if state.clientSocketMap.lookup fd = none then some (state.connect fd) else none
  | .sendPackage sender fd data =>
      if state.senders sender = .outside ∧ data.length < 2 ^ 31 then
        state.sendPackage sender fd data
      else none
  | .write sender =>
      match state.senders sender with
      | .before fd number sendData =>
          match (state.sockets number).write sendData with
          | some socket => some ((state.setSocket number socket).senderTo sender (.writing fd number))
          | none => some (state.senderTo sender .outside)
      | _ => none
  | .send sender answers =>
      match state.senders sender with
      | .writing fd number => do
          let (socket, exit) ← (state.sockets number).send answers
          some ((state.setSocket number socket).senderTo sender
            (if exit = .closed then .failed fd else .outside))
      | _ => none
  | .remove sender =>
      match state.senders sender with
      | .failed fd =>
          some { state.senderTo sender .outside with
            clientSocketMap := state.clientSocketMap.erase fd }
      | _ => none
  | .work => state.work state.worker
  | .select answer =>
      match state.worker with
      | .selecting timeout sets => state.select timeout sets answer
      | _ => none
  | .recv closes =>
      match state.worker with
      | .handling position sets closeSocket => do
          let (fd, _) ← state.clientSocketMap.after position
          if fd ∈ sets.readSet then
            some { state with
              worker := .received fd sets (if closes then closeSocket ++ [fd] else closeSocket) }
          else none
      | _ => none
  | .workSend answers =>
      match state.worker with
      | .received fd sets closeSocket =>
          if fd ∈ sets.writeSet then do
            let number ← state.clientSocketMap.lookup fd
            let (socket, exit) ← (state.sockets number).send answers
            some { state.setSocket number socket with
              worker := .handling (some fd) sets
                (if exit = .closed then closeSocket ++ [fd] else closeSocket) }
          else none
      | _ => none
  | .destory => some { state with isDestory := true }

end SelectState

/-- A client's connections from the construction of its `SocketControl` on. -/
def selectSystem : LabelledSystem SelectState SelectEvent := .ofStep .construct SelectState.step

/-! ## What a step can do -/

/-- The end of `Send` changes the two flags only, to the same value. -/
theorem ClientSocket.report_cases (self : ClientSocket) (hasData : Bool) :
    (self.report hasData).cfd = self.cfd ∧ (self.report hasData).writeBuffer = self.writeBuffer ∧
      (self.isWriteing = self.cfdIsWrite →
        (self.report hasData).isWriteing = (self.report hasData).cfdIsWrite ∧
          (self.report hasData).cfdIsWrite = hasData) := by
  unfold report
  split
  · exact ⟨rfl, rfl, fun _ => ⟨rfl, rfl⟩⟩
  · next unchanged =>
    exact ⟨rfl, rfl, fun same => ⟨same, same.symm.trans (not_not.mp unchanged)⟩⟩

/-- `Send` leaves the fd alone, keeps the two flags the same, wants to write on when it
leaves bytes without closing, and leaves none exactly when it finishes. -/
theorem ClientSocket.send_cases {self socket : ClientSocket} {answers : List Server.SendAnswer}
    {exit : Server.SendExit} (sent : self.send answers = some (socket, exit)) :
    socket.cfd = self.cfd ∧
      (self.isWriteing = self.cfdIsWrite → socket.isWriteing = socket.cfdIsWrite) ∧
      (self.isWriteing = self.cfdIsWrite → exit ≠ .closed → socket.writeBuffer ≠ [] →
        socket.cfdIsWrite = true) ∧
      (exit = .finished ↔ socket.writeBuffer = []) := by
  obtain ⟨⟨writeBuffer, ended⟩, looped, reported⟩ := Option.bind_eq_some_iff.mp sent
  have rest := Server.sendLoop_rest looped
  cases ended with
  | finished =>
      obtain ⟨rfl, rfl⟩ := Prod.mk.inj (Option.some.inj reported)
      obtain ⟨cfd, kept, flags⟩ := report_cases { self with writeBuffer } false
      have nothing := kept.trans (rest.mpr rfl)
      exact ⟨cfd, fun same => (flags same).1, fun _ _ left => absurd nothing left,
        iff_of_true rfl nothing⟩
  | pending =>
      obtain ⟨rfl, rfl⟩ := Prod.mk.inj (Option.some.inj reported)
      obtain ⟨cfd, kept, flags⟩ := report_cases { self with writeBuffer } true
      refine ⟨cfd, fun same => (flags same).1, fun same _ _ => (flags same).2, ?_⟩
      rw [kept]
      exact rest.symm
  | closed =>
      obtain ⟨rfl, rfl⟩ := Prod.mk.inj (Option.some.inj reported)
      exact ⟨rfl, id, fun _ goesOn => absurd rfl goesOn, rest.symm⟩

namespace SelectState

variable {state next : SelectState} {event : SelectEvent}

/-- The worker takes no part in what happens to connections and threads. -/
def workerTo (state : SelectState) (worker : SelectAt) : SelectState := { state with worker }

/-- What a step can do. -/
inductive Moves (state : SelectState) : SelectEvent → SelectState → Prop where
  | connect {fd : Int} (unused : state.clientSocketMap.lookup fd = none) :
      Moves state (.connect fd) (state.connect fd)
  | refused {sender : Nat} {fd : Int} {data : List Byte} :
      Moves state (.sendPackage sender fd data) state
  | sendPackage {sender : Nat} {fd : Int} {number : Nat} {data : List Byte}
      (outside : state.senders sender = .outside)
      (entry : state.clientSocketMap.lookup fd = some number) :
      Moves state (.sendPackage sender fd data)
        (state.senderTo sender (.before fd number (frame data)))
  | write {sender : Nat} {fd : Int} {number : Nat} {sendData : List Byte} {socket : ClientSocket}
      (place : state.senders sender = .before fd number sendData)
      (room : (state.sockets number).write sendData = some socket) :
      Moves state (.write sender)
        ((state.setSocket number socket).senderTo sender (.writing fd number))
  | noRoom {sender : Nat} {fd : Int} {number : Nat} {sendData : List Byte}
      (place : state.senders sender = .before fd number sendData) :
      Moves state (.write sender) (state.senderTo sender .outside)
  | send {sender : Nat} {fd : Int} {number : Nat} {answers : List Server.SendAnswer}
      {socket : ClientSocket} {exit : Server.SendExit}
      (place : state.senders sender = .writing fd number)
      (sent : (state.sockets number).send answers = some (socket, exit)) :
      Moves state (.send sender answers)
        ((state.setSocket number socket).senderTo sender
          (if exit = .closed then .failed fd else .outside))
  | remove {sender : Nat} {fd : Int} (place : state.senders sender = .failed fd) :
      Moves state (.remove sender)
        { state.senderTo sender .outside with clientSocketMap := state.clientSocketMap.erase fd }
  | begin (place : state.worker = .top) :
      Moves state .work
        (state.workerTo (if state.isDestory then .returned else .filling none .zero))
  | look {position : Option Int} {sets : FdSets} {fd : Int} {number : Nat}
      (place : state.worker = .filling position sets)
      (entry : state.clientSocketMap.after position = some (fd, number)) :
      Moves state .work
        (state.workerTo (.filling (some fd) (sets.look fd (state.sockets number))))
  | filled {position : Option Int} {sets : FdSets} {tm : Int × Int}
      (place : state.worker = .filling position sets)
      (nothing : state.clientSocketMap.after position = none) :
      Moves state .work { state.workerTo (.filled tm sets) with timeout := -1 }
  | block {tm : Int × Int} {sets : FdSets} (place : state.worker = .filled tm sets) :
      Moves state .work
        (state.workerTo (.selecting (if state.timeout = -1 then none else some tm) sets))
  | again {timeout : Option (Int × Int)} {sets : FdSets} {answer : SelectAnswer}
      (place : state.worker = .selecting timeout sets) :
      Moves state (.select answer) (state.workerTo .top)
  | ready {timeout : Option (Int × Int)} {sets : FdSets} {answer : SelectAnswer}
      {readSet writeSet : List Int} (place : state.worker = .selecting timeout sets) :
      Moves state (.select answer)
        (state.workerTo (.handling none ⟨readSet, writeSet, sets.maxSocket⟩ []))
  | skipRecv {position : Option Int} {sets : FdSets} {closeSocket : List Int} {fd : Int}
      (place : state.worker = .handling position sets closeSocket) :
      Moves state .work (state.workerTo (.received fd sets closeSocket))
  | recv {position : Option Int} {sets : FdSets} {closeSocket : List Int} {fd : Int}
      {closes : Bool} (place : state.worker = .handling position sets closeSocket) :
      Moves state (.recv closes) (state.workerTo (.received fd sets
        (if closes then closeSocket ++ [fd] else closeSocket)))
  | skipSend {sets : FdSets} {closeSocket : List Int} {fd : Int}
      (place : state.worker = .received fd sets closeSocket) :
      Moves state .work (state.workerTo (.handling (some fd) sets closeSocket))
  | workSend {sets : FdSets} {closeSocket : List Int} {fd : Int} {number : Nat}
      {answers : List Server.SendAnswer} {socket : ClientSocket} {exit : Server.SendExit}
      (place : state.worker = .received fd sets closeSocket)
      (entry : state.clientSocketMap.lookup fd = some number)
      (sent : (state.sockets number).send answers = some (socket, exit)) :
      Moves state (.workSend answers) ((state.setSocket number socket).workerTo
        (.handling (some fd) sets (if exit = .closed then closeSocket ++ [fd] else closeSocket)))
  | handled {position : Option Int} {sets : FdSets} {closeSocket : List Int}
      (place : state.worker = .handling position sets closeSocket) :
      Moves state .work (state.workerTo (.removing closeSocket))
  | workRemove {fd : Int} {rest : List Int} (place : state.worker = .removing (fd :: rest)) :
      Moves state .work
        { state.workerTo (.removing rest) with clientSocketMap := state.clientSocketMap.erase fd }
  | removed (place : state.worker = .removing []) : Moves state .work (state.workerTo .top)
  | destory : Moves state .destory { state with isDestory := true }

/-- What the worker can do by itself. -/
theorem moves_of_work (worked : state.work state.worker = some next) : state.Moves .work next := by
  generalize place : state.worker = worker at worked
  cases worker with
  | unstarted | returned => cases worked
  | selecting timeout sets => cases worked
  | top =>
      obtain rfl := Option.some.inj worked
      exact .begin place
  | filling position sets =>
      simp only [work] at worked
      split at worked
      · next fd number entry =>
        obtain rfl := Option.some.inj worked
        exact .look place entry
      · next nothing =>
        obtain rfl := Option.some.inj worked
        exact .filled place nothing
  | filled tm sets =>
      obtain rfl := Option.some.inj worked
      exact .block place
  | handling position sets closeSocket =>
      simp only [work] at worked
      split at worked
      · split at worked
        · cases worked
        · obtain rfl := Option.some.inj worked
          exact .skipRecv place
      · obtain rfl := Option.some.inj worked
        exact .handled place
  | received fd sets closeSocket =>
      simp only [work] at worked
      split at worked
      · cases worked
      · obtain rfl := Option.some.inj worked
        exact .skipSend place
  | removing closeSocket =>
      cases closeSocket with
      | nil =>
          obtain rfl := Option.some.inj worked
          exact .removed place
      | cons fd rest =>
          obtain rfl := Option.some.inj worked
          exact .workRemove place

theorem moves_of_step (stepped : state.step event = some next) : state.Moves event next := by
  cases event with
  | connect fd =>
      obtain ⟨unused, same⟩ := Option.ite_none_right_eq_some.mp stepped
      cases same
      exact .connect unused
  | sendPackage sender fd data =>
      obtain ⟨⟨outside, _⟩, called⟩ := Option.ite_none_right_eq_some.mp stepped
      simp only [sendPackage] at called
      split at called
      · obtain rfl := Option.some.inj called
        exact .refused
      · next number entry =>
        split at called
        · obtain rfl := Option.some.inj called
          exact .refused
        · obtain ⟨_, same⟩ := Option.ite_none_left_eq_some.mp called
          cases same
          exact .sendPackage outside entry
  | write sender =>
      simp only [step] at stepped
      split at stepped
      · next fd number sendData place =>
        split at stepped
        · next socket room =>
          obtain rfl := Option.some.inj stepped
          exact .write place room
        · obtain rfl := Option.some.inj stepped
          exact .noRoom place
      · cases stepped
  | send sender answers =>
      simp only [step] at stepped
      split at stepped
      · next fd number place =>
        obtain ⟨⟨socket, exit⟩, sent, same⟩ := Option.bind_eq_some_iff.mp stepped
        cases same
        exact .send place sent
      · cases stepped
  | remove sender =>
      simp only [step] at stepped
      split at stepped
      · next fd place =>
        obtain rfl := Option.some.inj stepped
        exact .remove place
      · cases stepped
  | work => exact moves_of_work stepped
  | select answer =>
      simp only [step] at stepped
      split at stepped
      · next timeout sets place =>
        cases answer with
        | failed =>
            obtain rfl := Option.some.inj stepped
            exact .again place
        | timedOut =>
            obtain ⟨_, same⟩ := Option.ite_none_left_eq_some.mp stepped
            cases same
            exact .again place
        | ready readSet writeSet =>
            obtain ⟨_, same⟩ := Option.ite_none_right_eq_some.mp stepped
            cases same
            exact .ready place
      · cases stepped
  | recv closes =>
      simp only [step] at stepped
      split at stepped
      · next position sets closeSocket place =>
        obtain ⟨⟨fd, number⟩, _, received⟩ := Option.bind_eq_some_iff.mp stepped
        obtain ⟨_, same⟩ := Option.ite_none_right_eq_some.mp received
        cases same
        exact .recv place
      · cases stepped
  | workSend answers =>
      simp only [step] at stepped
      split at stepped
      · next fd sets closeSocket place =>
        obtain ⟨_, found⟩ := Option.ite_none_right_eq_some.mp stepped
        obtain ⟨number, entry, continued⟩ := Option.bind_eq_some_iff.mp found
        obtain ⟨⟨socket, exit⟩, sent, same⟩ := Option.bind_eq_some_iff.mp continued
        cases same
        exact .workSend place entry sent
      · cases stepped
  | destory =>
      obtain rfl := Option.some.inj stepped
      exact .destory

end SelectState

end SocketMessage.Client
