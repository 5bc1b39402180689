import SocketMessage.Server.Registered

/-!
# The interest flags and the kernel's epoll set

The five functions that change what a client's fd is registered for, with the calls of
`epoll_ctl` they make and what these return. `EPoll` ignores the results; the flags
show that no call but the one of `EPollDelClient` can be refused.

The kernel refuses to add an fd that is registered and to change or remove one that is
not. The functions are critical sections of `m_EPollMutex`.
-/

namespace SocketMessage.Server

open SocketMessage.Lib

/-! ## `epoll_ctl` -/

/-- An `epoll_event`: the pointer in `data.ptr`, `EPOLLIN`, `EPOLLOUT`, `EPOLLET`. -/
structure EpollInterest where
  pointer : Nat
  isIn : Bool
  isOut : Bool
  isEdge : Bool
deriving DecidableEq, Repr

/-- A call of `epoll_ctl`. -/
inductive CtlCall where
  | add (fs : Int) (interest : EpollInterest)
  | mod (fs : Int) (interest : EpollInterest)
  | del (fs : Int)
deriving DecidableEq, Repr

/-- What `epoll_ctl` returns: success, `EEXIST` or `ENOENT`. -/
inductive CtlResult where
  | success
  | exists
  | missing
deriving DecidableEq, Repr

/-- The kernel's epoll set: what each fd is registered for. -/
abbrev EpollRegistrations := Int → Option EpollInterest

/-- `epoll_ctl`: the set afterwards and the result. -/
def epollCtl (set : EpollRegistrations) : CtlCall → EpollRegistrations × CtlResult
  | .add fs interest =>
      match set fs with
      | some _ => (set, .exists)
      | none => (Function.update set fs (some interest), .success)
  | .mod fs interest =>
      match set fs with
      | some _ => (Function.update set fs (some interest), .success)
      | none => (set, .missing)
  | .del fs =>
      match set fs with
      | some _ => (Function.update set fs none, .success)
      | none => (set, .missing)

/-- The call suits the set: only an unregistered fd is added, and only a registered one
is changed or removed. -/
def CtlCall.Suits (set : EpollRegistrations) : CtlCall → Prop
  | .add fs _ => set fs = none
  | .mod fs _ => (set fs).isSome
  | .del fs => (set fs).isSome

/-- The fd of a call. -/
def CtlCall.fs : CtlCall → Int
  | .add fs _ => fs
  | .mod fs _ => fs
  | .del fs => fs

/-- What a call that suits leaves its fd registered for. -/
def CtlCall.leaves : CtlCall → Option EpollInterest
  | .add _ interest => some interest
  | .mod _ interest => some interest
  | .del _ => none

/-- A call that suits does what it asks for. -/
theorem epollCtl_of_suits {set : EpollRegistrations} {call : CtlCall} (suits : call.Suits set) :
    epollCtl set call = (Function.update set call.fs call.leaves, .success) := by
  cases call with
  | add fs interest =>
      simp only [CtlCall.Suits] at suits
      simp [epollCtl, suits, CtlCall.fs, CtlCall.leaves]
  | mod fs interest =>
      obtain ⟨found, present⟩ := Option.isSome_iff_exists.mp suits
      simp [epollCtl, present, CtlCall.fs, CtlCall.leaves]
  | del fs =>
      obtain ⟨found, present⟩ := Option.isSome_iff_exists.mp suits
      simp [epollCtl, present, CtlCall.fs, CtlCall.leaves]

/-- Removing leaves an fd unregistered, whether it was registered or not. -/
theorem epollCtl_del (set : EpollRegistrations) (fs : Int) :
    (epollCtl set (.del fs)).1 = Function.update set fs none := by
  cases found : set fs with
  | none =>
      simp only [epollCtl, found]
      rw [← found, Function.update_eq_self]
  | some interest => simp [epollCtl, found]

namespace EPoll

variable (nonBlock : Int → Bool)

/-- The event `EPoll::Add` and `EPoll::Change` build: edge-triggered for an fd in
non-blocking mode. -/
def event (fs : Int) (pointer : Nat) (isWrite isRead : Bool) : EpollInterest :=
  ⟨pointer, isRead, isWrite, nonBlock fs⟩

/-- `EPoll::Add`. -/
def add (fs : Int) (pointer : Nat) (isWrite isRead : Bool) : CtlCall :=
  .add fs (event nonBlock fs pointer isWrite isRead)

/-- `EPoll::Change`. -/
def change (fs : Int) (pointer : Nat) (isWrite isRead : Bool) : CtlCall :=
  .mod fs (event nonBlock fs pointer isWrite isRead)

/-- `EPoll::Remove`. -/
def remove (fs : Int) : CtlCall := .del fs

end EPoll

/-! ## The five functions -/

/-- The open client sockets and the epoll set. -/
structure EpollState where
  sockets : Nat → Option ClientSocket
  set : EpollRegistrations

/-- The functions of `SocketControl` that change a registration. -/
inductive EpollFunction where
  | addClientRead
  | addClientWrite
  | delClientRead
  | delClientWrite
  | delClient
deriving DecidableEq, Repr

namespace EpollState

/-- Store a socket's flags and call `epoll_ctl`. -/
def call (state : EpollState) (pointer : Nat) (socket : ClientSocket) (call : CtlCall) :
    EpollState × Option (CtlCall × CtlResult) :=
  let (set, result) := epollCtl state.set call
  (⟨Function.update state.sockets pointer (some socket), set⟩, some (call, result))

variable (nonBlock : Int → Bool)

/-- `EPollAddClientRead`: the state afterwards, and the call it makes with its result. -/
def ePollAddClientRead (state : EpollState) (pointer : Nat) (socket : ClientSocket) :
    EpollState × Option (CtlCall × CtlResult) :=
  if socket.cfdIsRead then (state, none)
  else
    state.call pointer { socket with cfdIsRead := true }
      (if socket.cfdIsWrite then EPoll.change nonBlock socket.cfd pointer true true
      else EPoll.add nonBlock socket.cfd pointer false true)

/-- `EPollAddClientWrite`. -/
def ePollAddClientWrite (state : EpollState) (pointer : Nat) (socket : ClientSocket) :
    EpollState × Option (CtlCall × CtlResult) :=
  if socket.cfdIsWrite then (state, none)
  else
    state.call pointer { socket with cfdIsWrite := true }
      (if socket.cfdIsRead then EPoll.change nonBlock socket.cfd pointer true true
      else EPoll.add nonBlock socket.cfd pointer true false)

/-- `EPollDelClientRead`. -/
def ePollDelClientRead (state : EpollState) (pointer : Nat) (socket : ClientSocket) :
    EpollState × Option (CtlCall × CtlResult) :=
  if !socket.cfdIsRead then (state, none)
  else
    state.call pointer { socket with cfdIsRead := false }
      (if socket.cfdIsWrite then EPoll.change nonBlock socket.cfd pointer true false
      else EPoll.remove socket.cfd)

/-- `EPollDelClientWrite`. -/
def ePollDelClientWrite (state : EpollState) (pointer : Nat) (socket : ClientSocket) :
    EpollState × Option (CtlCall × CtlResult) :=
  if !socket.cfdIsWrite then (state, none)
  else
    state.call pointer { socket with cfdIsWrite := false }
      (if socket.cfdIsRead then EPoll.change nonBlock socket.cfd pointer false true
      else EPoll.remove socket.cfd)

/-- `EPollDelClient`. -/
def ePollDelClient (state : EpollState) (pointer : Nat) (socket : ClientSocket) :
    EpollState × Option (CtlCall × CtlResult) :=
  state.call pointer { socket with cfdIsWrite := false, cfdIsRead := false }
    (EPoll.remove socket.cfd)

/-- Run one of the functions. -/
def run (state : EpollState) (pointer : Nat) (socket : ClientSocket) :
    EpollFunction → EpollState × Option (CtlCall × CtlResult)
  | .addClientRead => state.ePollAddClientRead nonBlock pointer socket
  | .addClientWrite => state.ePollAddClientWrite nonBlock pointer socket
  | .delClientRead => state.ePollDelClientRead nonBlock pointer socket
  | .delClientWrite => state.ePollDelClientWrite nonBlock pointer socket
  | .delClient => state.ePollDelClient pointer socket

end EpollState

/-- A call of `epoll_ctl` that has been made: by which function, on which set, with what
result. -/
structure CtlRecord where
  function : EpollFunction
  before : EpollRegistrations
  call : CtlCall
  result : CtlResult

/-- The sockets, the set and all calls of `epoll_ctl` so far. -/
structure EpollRun where
  state : EpollState
  records : List CtlRecord

/-- One of the functions is called on an open socket. -/
structure EpollLabel where
  function : EpollFunction
  pointer : Nat

namespace EpollRun

/-- One call. -/
def step (nonBlock : Int → Bool) (run : EpollRun) (label : EpollLabel) : Option EpollRun := do
  let socket ← run.state.sockets label.pointer
  let (state, called) := run.state.run nonBlock label.pointer socket label.function
  let made : List CtlRecord := called.toList.map fun (call, result) =>
    ⟨label.function, run.state.set, call, result⟩
  return ⟨state, run.records ++ made⟩

/-- Open sockets with different fds, none of them registered, all flags false. -/
structure Fresh (run : EpollRun) : Prop where
  distinct : ∀ left right leftSocket rightSocket, run.state.sockets left = some leftSocket →
    run.state.sockets right = some rightSocket → leftSocket.cfd = rightSocket.cfd → left = right
  flags : ∀ pointer socket, run.state.sockets pointer = some socket →
    socket.cfdIsRead = false ∧ socket.cfdIsWrite = false
  unregistered : ∀ pointer socket, run.state.sockets pointer = some socket →
    run.state.set socket.cfd = none
  noRecords : run.records = []

end EpollRun

/-- Every sequence of calls from a fresh start. -/
def epollSystem (nonBlock : Int → Bool) : LabelledSystem EpollRun EpollLabel where
  Initial := EpollRun.Fresh
  Step run label next := run.step nonBlock label = some next

/-! ## What a call does -/

/-- What a socket's flags ask the epoll set for. -/
def ClientSocket.interest (nonBlock : Int → Bool) (pointer : Nat) (self : ClientSocket) :
    Option EpollInterest :=
  if self.cfdIsRead ∨ self.cfdIsWrite then
    some ⟨pointer, self.cfdIsRead, self.cfdIsWrite, nonBlock self.cfd⟩
  else none

/-- The flags each function leaves. -/
def EpollFunction.switch : EpollFunction → ClientSocket → ClientSocket
  | .addClientRead, socket => { socket with cfdIsRead := true }
  | .addClientWrite, socket => { socket with cfdIsWrite := true }
  | .delClientRead, socket => { socket with cfdIsRead := false }
  | .delClientWrite, socket => { socket with cfdIsWrite := false }
  | .delClient, socket => { socket with cfdIsWrite := false, cfdIsRead := false }

@[simp] theorem EpollFunction.cfd_switch (function : EpollFunction) (socket : ClientSocket) :
    (function.switch socket).cfd = socket.cfd := by
  cases function <;> rfl

namespace EpollState

variable {nonBlock : Int → Bool} {state : EpollState} {pointer : Nat} {socket : ClientSocket}

/-- On an fd registered as its flags say, a function other than `EPollDelClient` finds its
flag as it wants it, or makes a call that suits and leaves the fd registered as the new
flags say. -/
theorem run_cases (registered : state.set socket.cfd = socket.interest nonBlock pointer)
    {function : EpollFunction} (notDelClient : function ≠ .delClient) :
    (function.switch socket = socket ∧
        state.run nonBlock pointer socket function = (state, none)) ∨
      ∃ call : CtlCall, call.Suits state.set ∧ call.fs = socket.cfd ∧
        call.leaves = (function.switch socket).interest nonBlock pointer ∧
        state.run nonBlock pointer socket function =
          state.call pointer (function.switch socket) call := by
  obtain ⟨cfd, readBuffer, writeBuffer, isWriteing, cfdIsRead, cfdIsWrite⟩ := socket
  cases function with
  | addClientRead =>
      cases cfdIsRead with
      | true => exact Or.inl ⟨rfl, rfl⟩
      | false =>
          refine Or.inr ⟨_, ?_, ?_, ?_, rfl⟩ <;>
            cases cfdIsWrite <;>
              simp_all [ClientSocket.interest, EPoll.add, EPoll.change, EPoll.event,
                CtlCall.Suits, CtlCall.fs, CtlCall.leaves, EpollFunction.switch]
  | addClientWrite =>
      cases cfdIsWrite with
      | true => exact Or.inl ⟨rfl, rfl⟩
      | false =>
          refine Or.inr ⟨_, ?_, ?_, ?_, rfl⟩ <;>
            cases cfdIsRead <;>
              simp_all [ClientSocket.interest, EPoll.add, EPoll.change, EPoll.event,
                CtlCall.Suits, CtlCall.fs, CtlCall.leaves, EpollFunction.switch]
  | delClientRead =>
      cases cfdIsRead with
      | false => exact Or.inl ⟨rfl, rfl⟩
      | true =>
          refine Or.inr ⟨_, ?_, ?_, ?_, rfl⟩ <;>
            cases cfdIsWrite <;>
              simp_all [ClientSocket.interest, EPoll.change, EPoll.remove, EPoll.event,
                CtlCall.Suits, CtlCall.fs, CtlCall.leaves, EpollFunction.switch]
  | delClientWrite =>
      cases cfdIsWrite with
      | false => exact Or.inl ⟨rfl, rfl⟩
      | true =>
          refine Or.inr ⟨_, ?_, ?_, ?_, rfl⟩ <;>
            cases cfdIsRead <;>
              simp_all [ClientSocket.interest, EPoll.change, EPoll.remove, EPoll.event,
                CtlCall.Suits, CtlCall.fs, CtlCall.leaves, EpollFunction.switch]
  | delClient => exact absurd rfl notDelClient

/-- On an fd registered as its flags say, a function switches its flag and leaves the fd
registered as the flags say then. -/
theorem run_eq (present : state.sockets pointer = some socket)
    (registered : state.set socket.cfd = socket.interest nonBlock pointer)
    (function : EpollFunction) :
    (state.run nonBlock pointer socket function).1 =
      ⟨Function.update state.sockets pointer (some (function.switch socket)),
        Function.update state.set socket.cfd
          ((function.switch socket).interest nonBlock pointer)⟩ := by
  by_cases delClient : function = .delClient
  · subst delClient
    have cleared := epollCtl_del state.set socket.cfd
    simp only [run, ePollDelClient, call, EPoll.remove, cleared]
    rfl
  · rcases run_cases registered delClient with ⟨same, ran⟩ | ⟨call, suits, fs, leaves, ran⟩
    · rw [ran, same, ← present, ← registered, Function.update_eq_self, Function.update_eq_self]
    · rw [ran, EpollState.call, epollCtl_of_suits suits, fs, leaves]

end EpollState

/-! ## The functions in the running server -/

namespace ServerState

/-- The sockets and the epoll set of the server. -/
def epollState (nonBlock : Int → Bool) (state : ServerState) : EpollState where
  sockets := state.sockets
  set fs := (state.epoll fs).map fun registration =>
    ⟨registration.pointer, registration.isRead, registration.isWrite, nonBlock fs⟩

/-- One of the functions, in the server. -/
def runEpoll (state : ServerState) (pointer : Nat) : EpollFunction → ServerState
  | .addClientRead => state.ePollAddClientRead pointer
  | .addClientWrite => state.ePollAddClientWrite pointer
  | .delClientRead => state.ePollDelClientRead pointer
  | .delClientWrite => state.ePollDelClientWrite pointer
  | .delClient => state.ePollDelClient pointer

variable {nonBlock : Int → Bool} {state : ServerState} {pointer : Nat} {socket : ClientSocket}

/-- `EPoll::Add` in the server is the call it makes. -/
theorem set_epollAdd (fs : Int) (isWrite isRead : Bool) :
    ((state.epollAdd fs pointer isWrite isRead).epollState nonBlock).set =
      (epollCtl (state.epollState nonBlock).set
        (EPoll.add nonBlock fs pointer isWrite isRead)).1 := by
  cases found : state.epoll fs with
  | some registration => simp [epollAdd, found, epollState, epollCtl, EPoll.add]
  | none =>
      simp only [epollAdd, found, epollState, epollCtl, EPoll.add, Option.map_none]
      funext other
      by_cases same : other = fs
      · subst same
        simp [EPoll.event]
      · simp [same]

/-- `EPoll::Change` in the server is the call it makes. -/
theorem set_epollChange (fs : Int) (isWrite isRead : Bool) :
    ((state.epollChange fs pointer isWrite isRead).epollState nonBlock).set =
      (epollCtl (state.epollState nonBlock).set
        (EPoll.change nonBlock fs pointer isWrite isRead)).1 := by
  cases found : state.epoll fs with
  | none => simp [epollChange, found, epollState, epollCtl, EPoll.change]
  | some registration =>
      simp only [epollChange, found, epollState, epollCtl, EPoll.change, Option.map_some]
      funext other
      by_cases same : other = fs
      · subst same
        simp [EPoll.event]
      · simp [same]

/-- `EPoll::Remove` in the server is the call it makes. -/
theorem set_epollRemove (fs : Int) :
    ((state.epollRemove fs).epollState nonBlock).set =
      (epollCtl (state.epollState nonBlock).set (EPoll.remove fs)).1 := by
  rw [EPoll.remove, epollCtl_del]
  funext other
  by_cases same : other = fs
  · subst same
    simp [epollRemove, epollState]
  · simp [epollRemove, epollState, same]

/-- Adding leaves the sockets alone. -/
theorem sockets_epollAdd (fs : Int) (isWrite isRead : Bool) :
    (state.epollAdd fs pointer isWrite isRead).sockets = state.sockets := by
  unfold epollAdd
  split <;> rfl

/-- Changing leaves the sockets alone. -/
theorem sockets_epollChange (fs : Int) (isWrite isRead : Bool) :
    (state.epollChange fs pointer isWrite isRead).sockets = state.sockets := by
  unfold epollChange
  split <;> rfl

/-- Removing leaves the sockets alone. -/
theorem sockets_epollRemove (fs : Int) : (state.epollRemove fs).sockets = state.sockets := rfl

/-- Storing the flags and then changing the registration is one call. -/
theorem epollState_call {after : ServerState} {flags : ClientSocket} {call : CtlCall}
    (sockets : after.sockets = (state.setSocket pointer flags).sockets)
    (set : (after.epollState nonBlock).set =
      (epollCtl ((state.setSocket pointer flags).epollState nonBlock).set call).1) :
    after.epollState nonBlock = ((state.epollState nonBlock).call pointer flags call).1 := by
  have parts : after.epollState nonBlock = ⟨after.sockets, (after.epollState nonBlock).set⟩ := rfl
  rw [parts, sockets, set]
  rfl

/-- What the functions do in the server is what they do on its sockets and its set. -/
theorem epollState_runEpoll (present : state.sockets pointer = some socket)
    (function : EpollFunction) :
    (state.runEpoll pointer function).epollState nonBlock =
      ((state.epollState nonBlock).run nonBlock pointer socket function).1 := by
  cases function with
  | addClientRead =>
      rw [runEpoll, ServerState.ePollAddClientRead, ePollSwitch, withSocket_of_present present,
        EpollState.run, EpollState.ePollAddClientRead]
      cases socket.cfdIsRead with
      | true => rfl
      | false =>
          cases socket.cfdIsWrite with
          | true => exact epollState_call (sockets_epollChange ..) (set_epollChange ..)
          | false => exact epollState_call (sockets_epollAdd ..) (set_epollAdd ..)
  | addClientWrite =>
      rw [runEpoll, ServerState.ePollAddClientWrite, ePollSwitch, withSocket_of_present present,
        EpollState.run, EpollState.ePollAddClientWrite]
      cases socket.cfdIsWrite with
      | true => rfl
      | false =>
          cases socket.cfdIsRead with
          | true => exact epollState_call (sockets_epollChange ..) (set_epollChange ..)
          | false => exact epollState_call (sockets_epollAdd ..) (set_epollAdd ..)
  | delClientRead =>
      rw [runEpoll, ServerState.ePollDelClientRead, ePollSwitch, withSocket_of_present present,
        EpollState.run, EpollState.ePollDelClientRead]
      cases socket.cfdIsRead with
      | false => rfl
      | true =>
          cases socket.cfdIsWrite with
          | true => exact epollState_call (sockets_epollChange ..) (set_epollChange ..)
          | false => exact epollState_call (sockets_epollRemove _) (set_epollRemove ..)
  | delClientWrite =>
      rw [runEpoll, ServerState.ePollDelClientWrite, ePollSwitch, withSocket_of_present present,
        EpollState.run, EpollState.ePollDelClientWrite]
      cases socket.cfdIsWrite with
      | false => rfl
      | true =>
          cases socket.cfdIsRead with
          | true => exact epollState_call (sockets_epollChange ..) (set_epollChange ..)
          | false => exact epollState_call (sockets_epollRemove _) (set_epollRemove ..)
  | delClient =>
      rw [runEpoll, ServerState.ePollDelClient, withSocket_of_present present]
      exact epollState_call (sockets_epollRemove _) (set_epollRemove ..)

end ServerState

/-! ## Runs -/

namespace EpollRun

/-- The flags simulate the epoll set: every open socket's fd is registered for what its
flags say, and no call but those of `EPollDelClient` has been refused. -/
structure Mirrors (nonBlock : Int → Bool) (run : EpollRun) : Prop where
  distinct : ∀ left right leftSocket rightSocket, run.state.sockets left = some leftSocket →
    run.state.sockets right = some rightSocket → leftSocket.cfd = rightSocket.cfd → left = right
  registered : ∀ pointer socket, run.state.sockets pointer = some socket →
    run.state.set socket.cfd = socket.interest nonBlock pointer
  accepted : ∀ record ∈ run.records, record.function ≠ .delClient →
    record.call.Suits record.before ∧ record.result = .success

variable {nonBlock : Int → Bool} {run next : EpollRun} {label : EpollLabel}

/-- A fresh start. -/
theorem Fresh.mirrors (fresh : run.Fresh) : run.Mirrors nonBlock where
  distinct := fresh.distinct
  registered pointer socket present := by
    obtain ⟨isRead, isWrite⟩ := fresh.flags pointer socket present
    rw [fresh.unregistered pointer socket present, ClientSocket.interest, isRead, isWrite]
    rfl
  accepted record member := by
    rw [fresh.noRecords] at member
    cases member

/-- A call, taken apart. -/
theorem step_eq_some_iff : run.step nonBlock label = some next ↔
    ∃ socket, run.state.sockets label.pointer = some socket ∧
      next = ⟨(run.state.run nonBlock label.pointer socket label.function).1,
        run.records ++ (run.state.run nonBlock label.pointer socket label.function).2.toList.map
          fun made => ⟨label.function, run.state.set, made.1, made.2⟩⟩ := by
  simp only [step, Option.bind_eq_bind, Option.bind_eq_some_iff, Option.pure_def,
    Option.some.injEq, @eq_comm _ next]

/-- Every call keeps the simulation. -/
theorem Mirrors.step (mirrors : run.Mirrors nonBlock) (stepped : run.step nonBlock label = some next) :
    next.Mirrors nonBlock := by
  obtain ⟨socket, present, rfl⟩ := step_eq_some_iff.mp stepped
  have registered := mirrors.registered _ _ present
  have after := EpollState.run_eq present registered label.function
  -- The other sockets and, their fds being different, their registrations are untouched.
  have lookups : ∀ pointer found,
      Function.update run.state.sockets label.pointer (some (label.function.switch socket)) pointer =
        some found →
      pointer = label.pointer ∧ found = label.function.switch socket ∨
        pointer ≠ label.pointer ∧ run.state.sockets pointer = some found := by
    intro pointer found present
    by_cases same : pointer = label.pointer
    · subst same
      rw [Function.update_self] at present
      exact Or.inl ⟨rfl, (Option.some.inj present).symm⟩
    · rw [Function.update_of_ne same] at present
      exact Or.inr ⟨same, present⟩
  refine ⟨?_, ?_, ?_⟩
  · intro left right leftSocket rightSocket leftPresent rightPresent sameFd
    rw [after] at leftPresent rightPresent
    rcases lookups left leftSocket leftPresent with ⟨rfl, rfl⟩ | ⟨_, leftOld⟩ <;>
      rcases lookups right rightSocket rightPresent with ⟨rfl, rfl⟩ | ⟨_, rightOld⟩
    · rfl
    · exact mirrors.distinct _ _ _ _ present rightOld (by simpa using sameFd)
    · exact mirrors.distinct _ _ _ _ leftOld present (by simpa using sameFd)
    · exact mirrors.distinct _ _ _ _ leftOld rightOld sameFd
  · intro pointer found foundPresent
    rw [after] at foundPresent ⊢
    rcases lookups pointer found foundPresent with ⟨rfl, rfl⟩ | ⟨other, old⟩
    · rw [EpollFunction.cfd_switch]
      exact Function.update_self ..
    · have otherFd : found.cfd ≠ socket.cfd := fun sameFd =>
        other (mirrors.distinct _ _ _ _ old present sameFd)
      simp only [Function.update_of_ne otherFd]
      exact mirrors.registered _ _ old
  · intro record member notDelClient
    rcases List.mem_append.mp member with old | new
    · exact mirrors.accepted record old notDelClient
    · obtain ⟨⟨call, result⟩, made, rfl⟩ := List.mem_map.mp new
      rcases EpollState.run_cases registered notDelClient with ⟨_, ran⟩ | ⟨_, suits, _, _, ran⟩
      · rw [ran] at made
        cases made
      · rw [ran, EpollState.call, epollCtl_of_suits suits] at made
        obtain ⟨rfl, rfl⟩ := Prod.mk.inj (List.mem_singleton.mp made)
        exact ⟨suits, rfl⟩

/-- What the flags of a socket say about the epoll set. -/
structure Simulates (run : EpollRun) (pointer : Nat) (socket : ClientSocket) : Prop where
  member : (run.state.set socket.cfd).isSome ↔ socket.cfdIsRead ∨ socket.cfdIsWrite
  events : ∀ interest, run.state.set socket.cfd = some interest →
    interest.isIn = socket.cfdIsRead ∧ interest.isOut = socket.cfdIsWrite ∧
      interest.pointer = pointer

end EpollRun

/-- After any sequence of calls on any open sockets with different fds, each fd is in
the epoll set for exactly what the flags say, with its socket as event data; and outside
of `EPollDelClient` no fd was added that was registered, and none changed or removed
that was not. -/
theorem flags_simulate_epollSet {nonBlock : Int → Bool} {run : EpollRun}
    (reachable : (epollSystem nonBlock).Reachable run) :
    (∀ pointer socket, run.state.sockets pointer = some socket → run.Simulates pointer socket) ∧
      ∀ record ∈ run.records, record.function ≠ .delClient →
        record.call.Suits record.before ∧ record.result = .success := by
  obtain ⟨labels, ran⟩ := reachable
  have mirrors : run.Mirrors nonBlock :=
    ran.invariant (fun _ fresh => EpollRun.Fresh.mirrors fresh) fun _ _ _ holds stepped _ =>
      holds.step stepped
  refine ⟨fun pointer socket present => ?_, mirrors.accepted⟩
  have registered := mirrors.registered pointer socket present
  unfold ClientSocket.interest at registered
  constructor
  · rw [registered]
    simp
  · intro interest found
    rw [registered] at found
    obtain ⟨_, built⟩ := Option.ite_none_right_eq_some.mp found
    obtain rfl := Option.some.inj built
    exact ⟨rfl, rfl, rfl⟩

/-- Two clients under the fds 5 and 6, before anything is registered. -/
def twoClients : EpollRun where
  state :=
    { sockets := fun pointer =>
        if pointer = 0 then some (.create 5 (.zeros _))
        else if pointer = 1 then some (.create 6 (.zeros _))
        else none
      set := fun _ => none }
  records := []

/-- The clients of `twoClients`. -/
theorem twoClients_cases {pointer : Nat} {socket : ClientSocket}
    (present : twoClients.state.sockets pointer = some socket) :
    pointer = 0 ∧ socket = .create 5 (.zeros _) ∨ pointer = 1 ∧ socket = .create 6 (.zeros _) := by
  simp only [twoClients] at present
  split at present
  · next first => exact Or.inl ⟨first, (Option.some.inj present).symm⟩
  · split at present
    · next second => exact Or.inr ⟨second, (Option.some.inj present).symm⟩
    · cases present

theorem twoClients_fresh : twoClients.Fresh where
  distinct left right leftSocket rightSocket leftPresent rightPresent sameFd := by
    rcases twoClients_cases leftPresent with ⟨rfl, rfl⟩ | ⟨rfl, rfl⟩ <;>
      rcases twoClients_cases rightPresent with ⟨rfl, rfl⟩ | ⟨rfl, rfl⟩
    · rfl
    · simp [ClientSocket.create] at sameFd
    · simp [ClientSocket.create] at sameFd
    · rfl
  flags pointer socket present := by
    rcases twoClients_cases present with ⟨rfl, rfl⟩ | ⟨rfl, rfl⟩ <;> exact ⟨rfl, rfl⟩
  unregistered _ _ _ := rfl
  noRecords := rfl

/-- The first client is registered for both directions, then for writing only; the
second one stays out. -/
theorem twoClients_registered :
    ∃ run, (epollSystem fun _ => true).Reachable run ∧
      run.state.set 5 = some ⟨0, false, true, true⟩ ∧ run.state.set 6 = none ∧
      run.records.map CtlRecord.result = [.success, .success, .success] ∧
      (∀ pointer socket, run.state.sockets pointer = some socket → run.Simulates pointer socket) ∧
      ∀ record ∈ run.records, record.function ≠ .delClient →
        record.call.Suits record.before ∧ record.result = .success := by
  have followed : ∃ run, (twoClients.step (fun _ => true) ⟨.addClientRead, 0⟩).bind (fun run =>
      (run.step (fun _ => true) ⟨.addClientWrite, 0⟩).bind fun run =>
        run.step (fun _ => true) ⟨.delClientRead, 0⟩) = some run ∧
      run.state.set 5 = some ⟨0, false, true, true⟩ ∧ run.state.set 6 = none ∧
      run.records.map CtlRecord.result = [.success, .success, .success] :=
    ⟨_, rfl, rfl, rfl, rfl⟩
  obtain ⟨run, ran, first, second, results⟩ := followed
  obtain ⟨_, stepOne, ran⟩ := Option.bind_eq_some_iff.mp ran
  obtain ⟨_, stepTwo, stepThree⟩ := Option.bind_eq_some_iff.mp ran
  have reachable : (epollSystem fun _ => true).Reachable run :=
    .step (.step (.step ⟨[], .initial twoClients_fresh⟩ stepOne) stepTwo) stepThree
  exact ⟨run, reachable, first, second, results, flags_simulate_epollSet reachable⟩

end SocketMessage.Server
