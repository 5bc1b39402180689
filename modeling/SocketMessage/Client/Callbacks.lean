import SocketMessage.Client.Select

/-!
# Callbacks inside the select loop

`Select::Work` walks through `m_ClientSocketMap` with an iterator. A `Recv` on the way calls
the application, which may call `SendPackage`, and a `SendPackage` that fails calls `Remove`
and the close callback at once, from which the application may call `SendPackage` again. The
loop itself removes the connections that closed only after its walk. All of this is one
thread; its calls are steps here, down to the ones on the stack.
-/

namespace SocketMessage.Client

open SocketMessage.Lib SocketMessage.Frame

/-- Where `Work` is: outside of its walk; at an entry, before the test of the read set; in
the entry's `Recv`; before the test of the write set; before `++begin`; behind the walk. -/
inductive LoopAt where
  | outside
  | entry (fd : Int) (number : Nat)
  | inRecv (fd : Int) (number : Nat)
  | received (fd : Int) (number : Nat)
  | passed (fd : Int) (number : Nat)
  | removing
deriving DecidableEq, Repr

/-- The entry the iterator is at. -/
def LoopAt.iterator : LoopAt → Option (Int × Nat)
  | .entry fd number | .inRecv fd number | .received fd number | .passed fd number =>
      some (fd, number)
  | .outside | .removing => none

/-- The loop and its `Select`. `calls` are the `ClientSocket`s whose close callbacks are on
the stack, the innermost first; `Remove` and `SendPackage` hold them. `closed` are those a
call of which has returned `SOCKET_CLOSE`, `reported` those the close callback was called
for, in order. -/
structure LoopState where
  clientSocketMap : OrderedMap Int Nat
  sockets : Nat → ClientSocket
  readSet : List Int
  writeSet : List Int
  closeSocket : List Int
  worker : LoopAt
  calls : List Nat
  closed : List Nat
  reported : List Nat

/-- `select` has returned; the loop goes on where nobody else has a say; the application
calls `SendPackage` in a callback; a close callback returns; `Recv` returns; `Send` of the
loop runs. -/
inductive LoopEvent where
  | select (readSet writeSet : List Int)
  | work
  | sendPackage (fd : Int) (data : List Byte) (answers : List Server.SendAnswer)
  | closeReturns
  | recvReturns (closes : Bool)
  | send (answers : List Server.SendAnswer)
deriving DecidableEq, Repr

namespace LoopState

/-- The code that runs is the application's: a close callback, or one of `Recv`. -/
def inCallback (state : LoopState) : Bool :=
  !state.calls.isEmpty || state.worker matches .inRecv ..

/-- `Remove` of an entry that is there, up to the close callback. -/
def remove (state : LoopState) (fd : Int) (number : Nat) : LoopState :=
  { state with
    clientSocketMap := state.clientSocketMap.erase fd
    calls := number :: state.calls
    reported := state.reported ++ [number] }

/-- A `ClientSocket` changes. -/
def setSocket (state : LoopState) (number : Nat) (socket : ClientSocket) : LoopState :=
  { state with sockets := Function.update state.sockets number socket }

/-- A call of a `ClientSocket` returns `SOCKET_CLOSE`. -/
def close (state : LoopState) (number : Nat) : LoopState :=
  { state with closed := state.closed ++ [number] }

/-- `SendPackage`, up to the close callback when `Write` fails. -/
def sendPackage (state : LoopState) (fd : Int) (data : List Byte)
    (answers : List Server.SendAnswer) : Option LoopState :=
  match state.clientSocketMap.lookup fd with
  | none => if answers = [] then some state else none
  | some number =>
      if (state.sockets number).getSize4EmptyWrite < int32 (socketHeadSize + data.length) then
        if answers = [] then some state else none
      else if int32 (socketHeadSize + data.length) < 0 then none
      else match (state.sockets number).write (frame data) with
        | none => if answers = [] then some state else none
        | some socket => do
            let (socket, exit) ← socket.send answers
            some (if exit = .closed then
              ((state.setSocket number socket).close number).remove fd number
            else state.setSocket number socket)

/-- `++begin`, or the first entry; behind the last one the walk ends. -/
def goto (state : LoopState) (position : Option Int) : LoopState :=
  { state with
    worker := match state.clientSocketMap.after position with
      | some (fd, number) => .entry fd number
      | none => .removing }

/-- The loop's next step. An iterator whose entry is gone has no next step. -/
def work (state : LoopState) : LoopAt → Option LoopState
  | .entry fd number =>
      if state.clientSocketMap.lookup fd = some number then
        some { state with
          worker := if fd ∈ state.readSet then .inRecv fd number else .received fd number }
      else none
  | .received fd number =>
      if state.clientSocketMap.lookup fd = some number ∧ fd ∉ state.writeSet then
        some { state with worker := .passed fd number }
      else none
  | .passed fd number =>
      if state.clientSocketMap.lookup fd = some number then some (state.goto (some fd)) else none
  | .removing =>
      match state.closeSocket with
      | [] => some { state with worker := .outside }
      | fd :: rest =>
          let state := { state with closeSocket := rest }
          match state.clientSocketMap.lookup fd with
          | none => some state
          | some number => some (state.remove fd number)
  | .outside | .inRecv .. => none

/-- One step. -/
def step (state : LoopState) : LoopEvent → Option LoopState
  | .select readSet writeSet =>
      if state.worker = .outside then
        some ({ state with readSet, writeSet, closeSocket := [] }.goto none)
      else none
  | .work => if state.calls = [] then state.work state.worker else none
  | .sendPackage fd data answers =>
      if state.inCallback then state.sendPackage fd data answers else none
  | .closeReturns =>
      match state.calls with
      | [] => none
      | _ :: rest => some { state with calls := rest }
  | .recvReturns closes =>
      match state.worker, state.calls with
      | .inRecv fd number, [] =>
          if !closes then some { state with worker := .received fd number }
          else if state.clientSocketMap.lookup fd = some number then
            some { state.close number with
              closeSocket := state.closeSocket ++ [fd], worker := .received fd number }
          else none
      | _, _ => none
  | .send answers =>
      match state.worker, state.calls with
      | .received fd number, [] =>
          if state.clientSocketMap.lookup fd = some number ∧ fd ∈ state.writeSet then do
            let (socket, exit) ← (state.sockets number).send answers
            let state := { state.setSocket number socket with worker := .passed fd number }
            some (if exit = .closed then
              { state.close number with closeSocket := state.closeSocket ++ [fd] } else state)
          else none
      | _, _ => none

end LoopState

/-- The loop over any connections, before a pass. -/
def loopSystem : LabelledSystem LoopState LoopEvent where
  Initial state := state.worker = .outside ∧ state.closeSocket = [] ∧ state.calls = [] ∧
    state.closed = [] ∧ state.reported = [] ∧
    ∀ fd other number, state.clientSocketMap.lookup fd = some number →
      state.clientSocketMap.lookup other = some number → fd = other
  Step state event next := state.step event = some next

/-! ## What a step can do -/

/-- The kernel answers a `send` with an error. -/
def EndsInError (answers : List Server.SendAnswer) : Prop :=
  answers.getLast? = some .nothing ∨ answers.getLast? = some .failed

instance (answers : List Server.SendAnswer) : Decidable (EndsInError answers) :=
  inferInstanceAs (Decidable (_ ∨ _))

/-- `Send` returns `SOCKET_CLOSE` exactly after an error. -/
theorem ClientSocket.closed_iff {self socket : ClientSocket} {answers : List Server.SendAnswer}
    {exit : Server.SendExit} (sent : self.send answers = some (socket, exit)) :
    exit = .closed ↔ EndsInError answers := by
  obtain ⟨⟨writeBuffer, ended⟩, looped, reported⟩ := Option.bind_eq_some_iff.mp sent
  have same : ended = exit := by
    cases ended <;> exact (Prod.mk.inj (Option.some.inj reported)).2
  rw [same] at looped
  constructor
  · rintro rfl
    exact Server.sendLoop_closed looped
  · exact Server.closed_of_sendLoop looped

namespace LoopState

variable {state next : LoopState} {event : LoopEvent}

/-- What a step can do. -/
inductive Moves (state : LoopState) : LoopEvent → LoopState → Prop where
  | select {readSet writeSet : List Int} (outside : state.worker = .outside) :
      Moves state (.select readSet writeSet)
        ({ state with readSet, writeSet, closeSocket := [] }.goto none)
  | look {fd : Int} {number : Nat} {worker : LoopAt} (place : state.worker = .entry fd number)
      (there : state.clientSocketMap.lookup fd = some number)
      (next : worker = .inRecv fd number ∨ worker = .received fd number) :
      Moves state .work { state with worker }
  | skip {fd : Int} {number : Nat} (place : state.worker = .received fd number)
      (there : state.clientSocketMap.lookup fd = some number) :
      Moves state .work { state with worker := .passed fd number }
  | advance {fd : Int} {number : Nat} (place : state.worker = .passed fd number)
      (there : state.clientSocketMap.lookup fd = some number) :
      Moves state .work (state.goto (some fd))
  | finish (place : state.worker = .removing) (empty : state.closeSocket = []) :
      Moves state .work { state with worker := .outside }
  | gone {fd : Int} {rest : List Int} (place : state.worker = .removing)
      (first : state.closeSocket = fd :: rest) (absent : state.clientSocketMap.lookup fd = none) :
      Moves state .work { state with closeSocket := rest }
  | remove {fd : Int} {number : Nat} {rest : List Int} (place : state.worker = .removing)
      (first : state.closeSocket = fd :: rest)
      (there : state.clientSocketMap.lookup fd = some number) :
      Moves state .work ({ state with closeSocket := rest }.remove fd number)
  | refused {fd : Int} {data : List Byte} : Moves state (.sendPackage fd data []) state
  | sent {fd : Int} {data : List Byte} {answers : List Server.SendAnswer} {number : Nat}
      {socket : ClientSocket} (fine : ¬ EndsInError answers) :
      Moves state (.sendPackage fd data answers) (state.setSocket number socket)
  | failed {fd : Int} {data : List Byte} {answers : List Server.SendAnswer} {number : Nat}
      {socket : ClientSocket} (there : state.clientSocketMap.lookup fd = some number)
      (error : EndsInError answers) :
      Moves state (.sendPackage fd data answers)
        (((state.setSocket number socket).close number).remove fd number)
  | closeReturns {number : Nat} {rest : List Nat} (innermost : state.calls = number :: rest) :
      Moves state .closeReturns { state with calls := rest }
  | recvReturns {fd : Int} {number : Nat} (place : state.worker = .inRecv fd number)
      (returned : state.calls = []) :
      Moves state (.recvReturns false) { state with worker := .received fd number }
  | recvCloses {fd : Int} {number : Nat} (place : state.worker = .inRecv fd number)
      (there : state.clientSocketMap.lookup fd = some number) :
      Moves state (.recvReturns true)
        { state.close number with
          closeSocket := state.closeSocket ++ [fd], worker := .received fd number }
  | send {fd : Int} {number : Nat} {answers : List Server.SendAnswer} {socket : ClientSocket}
      (place : state.worker = .received fd number)
      (there : state.clientSocketMap.lookup fd = some number) :
      Moves state (.send answers) { state.setSocket number socket with worker := .passed fd number }
  | sendCloses {fd : Int} {number : Nat} {answers : List Server.SendAnswer} {socket : ClientSocket}
      (place : state.worker = .received fd number)
      (there : state.clientSocketMap.lookup fd = some number) :
      Moves state (.send answers)
        { (state.setSocket number socket).close number with
          closeSocket := state.closeSocket ++ [fd], worker := .passed fd number }

/-- `SendPackage` refuses, sends, or fails and removes the connection. -/
theorem moves_of_sendPackage {fd : Int} {data : List Byte} {answers : List Server.SendAnswer}
    (sent : state.sendPackage fd data answers = some next) :
    state.Moves (.sendPackage fd data answers) next := by
  unfold sendPackage at sent
  split at sent
  · obtain ⟨rfl, same⟩ := Option.ite_none_right_eq_some.mp sent
    obtain rfl := Option.some.inj same
    exact .refused
  · next number there =>
    split at sent
    · obtain ⟨rfl, same⟩ := Option.ite_none_right_eq_some.mp sent
      obtain rfl := Option.some.inj same
      exact .refused
    · obtain ⟨-, sent⟩ := Option.ite_none_left_eq_some.mp sent
      split at sent
      · obtain ⟨rfl, same⟩ := Option.ite_none_right_eq_some.mp sent
        obtain rfl := Option.some.inj same
        exact .refused
      · obtain ⟨⟨socket, exit⟩, written, built⟩ := Option.bind_eq_some_iff.mp sent
        obtain rfl := Option.some.inj built
        split
        · next closed => exact .failed there ((ClientSocket.closed_iff written).mp closed)
        · next open' => exact .sent fun error => open' ((ClientSocket.closed_iff written).mpr error)

/-- The loop's own steps. -/
theorem moves_of_work (worked : state.work state.worker = some next) : state.Moves .work next := by
  unfold work at worked
  split at worked
  · next fd number place =>
    obtain ⟨there, built⟩ := Option.ite_none_right_eq_some.mp worked
    obtain rfl := Option.some.inj built
    refine .look place there ?_
    split
    · exact .inl rfl
    · exact .inr rfl
  · next fd number place =>
    obtain ⟨⟨there, -⟩, built⟩ := Option.ite_none_right_eq_some.mp worked
    obtain rfl := Option.some.inj built
    exact .skip place there
  · next fd number place =>
    obtain ⟨there, built⟩ := Option.ite_none_right_eq_some.mp worked
    obtain rfl := Option.some.inj built
    exact .advance place there
  · next place =>
    split at worked
    · next empty =>
      obtain rfl := Option.some.inj worked
      exact .finish place empty
    · next fd rest first =>
      cases found : state.clientSocketMap.lookup fd with
      | none =>
        simp only [found, Option.some.injEq] at worked
        obtain rfl := worked
        exact .gone place first found
      | some number =>
        simp only [found, Option.some.injEq] at worked
        obtain rfl := worked
        exact .remove place first found
  · cases worked
  · cases worked

/-- Every step is one of these. -/
theorem moves_of_step (stepped : state.step event = some next) : state.Moves event next := by
  unfold step at stepped
  split at stepped
  · obtain ⟨outside, built⟩ := Option.ite_none_right_eq_some.mp stepped
    obtain rfl := Option.some.inj built
    exact .select outside
  · exact moves_of_work (Option.ite_none_right_eq_some.mp stepped).2
  · exact moves_of_sendPackage (Option.ite_none_right_eq_some.mp stepped).2
  · split at stepped
    · cases stepped
    · next number rest innermost =>
      obtain rfl := Option.some.inj stepped
      exact .closeReturns innermost
  · next closes =>
    split at stepped
    · next fd number place returned =>
      cases closes with
      | false =>
        obtain rfl := Option.some.inj stepped
        exact .recvReturns place returned
      | true =>
        obtain ⟨there, built⟩ := Option.ite_none_right_eq_some.mp stepped
        obtain rfl := Option.some.inj built
        exact .recvCloses place there
    · cases stepped
  · split at stepped
    · next fd number place returned =>
      obtain ⟨⟨there, -⟩, sent⟩ := Option.ite_none_right_eq_some.mp stepped
      obtain ⟨⟨socket, exit⟩, -, built⟩ := Option.bind_eq_some_iff.mp sent
      obtain rfl := Option.some.inj built
      split
      · exact .sendCloses place there
      · exact .send place there
    · cases stepped

/-! ## Each closed connection is reported -/

/-- Connections are removed once, when a call of theirs has returned `SOCKET_CLOSE`, and the
loop remembers those it has yet to remove. -/
structure Tidy (state : LoopState) : Prop where
  distinct : ∀ fd other number, state.clientSocketMap.lookup fd = some number →
    state.clientSocketMap.lookup other = some number → fd = other
  gone : ∀ number ∈ state.reported, ∀ fd, state.clientSocketMap.lookup fd ≠ some number
  once : state.reported.Nodup
  known : ∀ number ∈ state.reported, number ∈ state.closed
  pending : ∀ number ∈ state.closed, number ∈ state.reported ∨
    ∃ fd ∈ state.closeSocket, state.clientSocketMap.lookup fd = some number
  failed : ∀ fd ∈ state.closeSocket, ∀ number, state.clientSocketMap.lookup fd = some number →
    number ∈ state.closed
  outside : state.worker = .outside → state.closeSocket = []

/-- Where only the worker, the stack and the sockets change, nothing is lost. -/
theorem Tidy.of_same (tidy : state.Tidy) (map : next.clientSocketMap = state.clientSocketMap)
    (closeSocket : next.closeSocket = state.closeSocket) (closed : next.closed = state.closed)
    (reported : next.reported = state.reported)
    (outside : next.worker = .outside → next.closeSocket = []) : next.Tidy where
  distinct := map ▸ tidy.distinct
  gone := map ▸ reported ▸ tidy.gone
  once := reported ▸ tidy.once
  known := closed ▸ reported ▸ tidy.known
  pending := map ▸ closed ▸ reported ▸ closeSocket ▸ tidy.pending
  failed := map ▸ closed ▸ closeSocket ▸ tidy.failed
  outside := outside

/-- A connection that is in the map goes and is reported. -/
theorem Tidy.removed (tidy : state.Tidy) {fd : Int} {number : Nat}
    (there : state.clientSocketMap.lookup fd = some number)
    (map : next.clientSocketMap = state.clientSocketMap.erase fd)
    (reported : next.reported = state.reported ++ [number])
    (closed : ∀ other, other ∈ next.closed ↔ other ∈ state.closed ∨ other = number)
    (fewer : next.closeSocket ⊆ state.closeSocket)
    (kept : ∀ other ∈ state.closeSocket, other = fd ∨ other ∈ next.closeSocket)
    (worker : next.worker = state.worker) : next.Tidy where
  distinct := by
    intro left right value leftFound rightFound
    rw [map, OrderedMap.lookup_erase_eq_some_iff] at leftFound rightFound
    exact tidy.distinct left right value leftFound.2 rightFound.2
  gone := by
    intro other member left found
    rw [map, OrderedMap.lookup_erase_eq_some_iff] at found
    rcases List.mem_append.mp (reported ▸ member) with before | now
    · exact tidy.gone other before left found.2
    · obtain rfl := List.mem_singleton.mp now
      exact found.1 (tidy.distinct left fd other found.2 there)
  once := by
    rw [reported, List.nodup_append]
    refine ⟨tidy.once, by simp, ?_⟩
    rintro left before right now rfl
    obtain rfl := List.mem_singleton.mp now
    exact tidy.gone left before fd there
  known := by
    intro other member
    rw [closed]
    rcases List.mem_append.mp (reported ▸ member) with before | now
    · exact .inl (tidy.known other before)
    · exact .inr (List.mem_singleton.mp now)
  pending := by
    intro other isClosed
    rw [reported, List.mem_append, List.mem_singleton]
    by_cases same : other = number
    · exact .inl (.inr same)
    · rcases tidy.pending other (((closed other).mp isClosed).resolve_right same) with before | waits
      · exact .inl (.inl before)
      · obtain ⟨left, member, found⟩ := waits
        have different : left ≠ fd := by
          rintro rfl
          exact same (Option.some.inj (found.symm.trans there))
        refine .inr ⟨left, (kept left member).resolve_left different, ?_⟩
        rw [map, OrderedMap.lookup_erase_eq_some_iff]
        exact ⟨different, found⟩
  failed := by
    intro left member other found
    rw [map, OrderedMap.lookup_erase_eq_some_iff] at found
    exact (closed other).mpr (.inl (tidy.failed left (fewer member) other found.2))
  outside := fun isOutside =>
    List.subset_nil.mp (tidy.outside (worker ▸ isOutside) ▸ fewer)

/-- A call of the loop returns `SOCKET_CLOSE`: the connection is to be removed. -/
theorem Tidy.marked (tidy : state.Tidy) {fd : Int} {number : Nat}
    (there : state.clientSocketMap.lookup fd = some number)
    (map : next.clientSocketMap = state.clientSocketMap)
    (reported : next.reported = state.reported) (closed : next.closed = state.closed ++ [number])
    (closeSocket : next.closeSocket = state.closeSocket ++ [fd])
    (inside : next.worker ≠ .outside) : next.Tidy where
  distinct := map ▸ tidy.distinct
  gone := map ▸ reported ▸ tidy.gone
  once := reported ▸ tidy.once
  known := by
    intro other member
    rw [closed]
    exact List.mem_append_left _ (tidy.known other (reported ▸ member))
  pending := by
    intro other isClosed
    rw [closed, List.mem_append, List.mem_singleton] at isClosed
    rw [map, reported, closeSocket]
    rcases isClosed with before | rfl
    · refine (tidy.pending other before).imp_right ?_
      rintro ⟨left, member, found⟩
      exact ⟨left, List.mem_append_left _ member, found⟩
    · exact .inr ⟨fd, by simp, there⟩
  failed := by
    intro left member other found
    rw [closeSocket, List.mem_append, List.mem_singleton] at member
    rw [map] at found
    rw [closed, List.mem_append, List.mem_singleton]
    rcases member with before | rfl
    · exact .inl (tidy.failed left before other found)
    · exact .inr (Option.some.inj (found.symm.trans there))
  outside := fun isOutside => absurd isOutside inside

/-- The iterator is never taken outside of the walk. -/
theorem goto_worker_ne_outside (position : Option Int) : (state.goto position).worker ≠ .outside := by
  unfold goto
  cases state.clientSocketMap.after position <;> nofun

/-- Every step keeps the books. -/
theorem Tidy.moves (tidy : state.Tidy) (moves : state.Moves event next) : next.Tidy := by
  cases moves with
  | select outside =>
    refine tidy.of_same rfl (tidy.outside outside).symm rfl rfl ?_
    exact fun isOutside => absurd isOutside (goto_worker_ne_outside _)
  | look place there next =>
    refine tidy.of_same rfl rfl rfl rfl fun isOutside => ?_
    rcases next with rfl | rfl <;> cases isOutside
  | skip | recvReturns => exact tidy.of_same rfl rfl rfl rfl nofun
  | advance =>
    refine tidy.of_same rfl rfl rfl rfl ?_
    exact fun isOutside => absurd isOutside (goto_worker_ne_outside _)
  | finish place empty => exact tidy.of_same rfl rfl rfl rfl fun _ => empty
  | @gone fd rest place first absent =>
    refine { tidy with
      pending := fun number isClosed => (tidy.pending number isClosed).imp_right ?_
      failed := fun left member => tidy.failed left (first ▸ List.mem_cons_of_mem fd member)
      outside := fun isOutside => ?_ }
    · rintro ⟨left, member, found⟩
      refine ⟨left, (List.mem_cons.mp (first ▸ member)).resolve_left ?_, found⟩
      rintro rfl
      rw [absent] at found
      cases found
    · rw [place] at isOutside
      cases isOutside
  | @remove fd number rest place first there =>
    refine tidy.removed there rfl rfl (fun other => ?_) ?_ ?_ rfl
    · have isClosed := tidy.failed fd (first ▸ List.mem_cons_self) number there
      exact ⟨.inl, fun member => member.elim id fun same => same ▸ isClosed⟩
    · exact first ▸ List.subset_cons_self fd rest
    · intro other member
      exact List.mem_cons.mp (first ▸ member)
  | refused => exact tidy
  | sent => exact tidy.of_same rfl rfl rfl rfl tidy.outside
  | failed there =>
    refine tidy.removed there rfl rfl (fun other => ?_) (List.Subset.refl _) (fun _ => .inr) rfl
    exact List.mem_append.trans (or_congr_right List.mem_singleton)
  | closeReturns => exact tidy.of_same rfl rfl rfl rfl tidy.outside
  | recvCloses place there => exact tidy.marked there rfl rfl rfl rfl nofun
  | send => exact tidy.of_same rfl rfl rfl rfl nofun
  | sendCloses place there => exact tidy.marked there rfl rfl rfl rfl nofun

/-! ## The iterator -/

/-- A `ClientSocket` that exists: the map has it, or a call on the stack does. -/
def Alive (state : LoopState) (number : Nat) : Prop :=
  (∃ fd, state.clientSocketMap.lookup fd = some number) ∨ number ∈ state.calls

/-- The entry the iterator is at, which the loop dereferences and advances from, is in the
map; the `ClientSocket` whose `Recv` is on the stack exists; a connection is reported at
most once, only when it has closed, and at the latest when the pass is over. -/
structure Safe (state : LoopState) : Prop where
  iterator : ∀ fd number, state.worker.iterator = some (fd, number) →
    state.clientSocketMap.lookup fd = some number
  recv : ∀ fd number, state.worker = .inRecv fd number → state.Alive number
  once : state.reported.Nodup
  closed : ∀ number ∈ state.reported, number ∈ state.closed
  settled : state.worker = .outside → ∀ number ∈ state.closed, number ∈ state.reported

/-- The books say what is reported; what is left is the iterator. -/
theorem Tidy.safe_iff (tidy : state.Tidy) :
    state.Safe ↔ ∀ fd number, state.worker.iterator = some (fd, number) →
      state.clientSocketMap.lookup fd = some number := by
  refine ⟨Safe.iterator, fun iterator => ⟨iterator, ?_, tidy.once, tidy.known, ?_⟩⟩
  · intro fd number place
    exact .inl ⟨fd, iterator fd number (by rw [place]; rfl)⟩
  · intro isOutside number isClosed
    rcases tidy.pending number isClosed with reported | ⟨fd, member, -⟩
    · exact reported
    · rw [tidy.outside isOutside] at member
      cases member

/-- In the callbacks of a `Recv`, no `SendPackage` to that connection ends in an error. -/
def Allowed (state : LoopState) : LoopEvent → Prop
  | .sendPackage fd _ answers => ∀ number, state.worker.iterator = some (fd, number) →
      ¬ EndsInError answers
  | _ => True

/-- Where the iterator goes to there is an entry. -/
theorem goto_iterator {position : Option Int} {fd : Int} {number : Nat}
    (place : (state.goto position).worker.iterator = some (fd, number)) :
    state.clientSocketMap.lookup fd = some number := by
  unfold goto at place
  cases found : state.clientSocketMap.after position with
  | none =>
    rw [found] at place
    cases place
  | some entry =>
    rw [found] at place
    obtain ⟨rfl, rfl⟩ := Prod.mk.inj (Option.some.inj place)
    exact (state.clientSocketMap.after_eq_some found).1

/-- Exactly such a `SendPackage` takes the entry away that the iterator is at. -/
theorem Safe.moves_iff (safe : state.Safe) (tidy : state.Tidy) (moves : state.Moves event next) :
    state.Allowed event ↔ next.Safe := by
  rw [(tidy.moves moves).safe_iff]
  -- An iterator that stays at its entry, or comes to one that is there.
  have stays : ∀ {fd : Int} {number : Nat}, state.clientSocketMap.lookup fd = some number →
      ∀ other value, some (fd, number) = some (other, value) →
        state.clientSocketMap.lookup other = some value := by
    rintro fd number there _ _ ⟨⟩
    exact there
  cases moves with
  | select | advance => exact iff_of_true trivial fun fd number => goto_iterator
  | look place there next =>
    refine iff_of_true trivial ?_
    rcases next with rfl | rfl <;> exact stays there
  | skip place there | recvCloses place there | send place there | sendCloses place there =>
    exact iff_of_true trivial (stays there)
  | recvReturns place =>
    exact iff_of_true trivial (stays (safe.iterator _ _ (by rw [place]; rfl)))
  | finish => exact iff_of_true trivial nofun
  | gone place | remove place =>
    refine iff_of_true trivial fun fd number at' => ?_
    rw [show LoopState.worker _ = .removing from place] at at'
    cases at'
  | refused => exact iff_of_true (fun _ _ error => by cases error <;> contradiction) safe.iterator
  | sent fine => exact iff_of_true (fun _ _ => fine) safe.iterator
  | @failed fd data answers number socket there error =>
    constructor
    · intro allowed other value place
      have found := safe.iterator other value place
      refine (OrderedMap.lookup_erase_eq_some_iff _).mpr ⟨?_, found⟩
      rintro rfl
      exact allowed value place error
    · intro iterator value place
      have found := iterator fd value place
      exact absurd rfl ((OrderedMap.lookup_erase_eq_some_iff _).mp found).1
  | closeReturns => exact iff_of_true trivial safe.iterator

end LoopState

/-! ## Whole runs -/

/-- Every run starts with nothing closed and nothing on the stack. -/
theorem tidy_initial {state : LoopState} (initial : loopSystem.Initial state) : state.Tidy := by
  obtain ⟨-, closeSocket, -, closed, reported, distinct⟩ := initial
  constructor
  · exact distinct
  · simp [reported]
  · simp [reported]
  · simp [reported]
  · simp [closed]
  · simp [closeSocket]
  · exact fun _ => closeSocket

/-- The books are kept in every run. -/
theorem tidy_of_reachable {state : LoopState} (reachable : loopSystem.Reachable state) :
    state.Tidy := by
  obtain ⟨events, run⟩ := reachable
  exact run.invariant (fun _ => tidy_initial) fun _ _ _ tidy stepped _ =>
    tidy.moves (LoopState.moves_of_step stepped)

/-- The loop is safe in every state exactly of the runs in which no callback of a `Recv` makes
a `SendPackage` to the same connection that fails. -/
theorem callbacks_safe_iff (events : List LoopEvent) (state : LoopState) :
    loopSystem.Runs (fun state event _ => state.Allowed event) events state ↔
      loopSystem.Runs (fun _ _ next => next.Safe) events state := by
  refine LabelledSystem.runs_iff_runs_within (fun _ => tidy_of_reachable) ?_ ?_
  · intro state initial
    refine (tidy_initial initial).safe_iff.mpr fun fd number place => ?_
    rw [initial.1] at place
    cases place
  · intro state event next tidy safe stepped
    exact safe.moves_iff tidy (LoopState.moves_of_step stepped)

/-- One connection, on fd 5. -/
def oneConnection : LoopState where
  clientSocketMap := OrderedMap.empty.insert 5 0
  sockets := fun _ => .connect 5
  readSet := []
  writeSet := []
  closeSocket := []
  worker := .outside
  calls := []
  closed := []
  reported := []

/-- Its `Recv` calls the application, which sends on it, and the send fails. -/
def sendsBack : List LoopEvent :=
  [.select [5] [], .work, .sendPackage 5 [1] [.failed], .closeReturns]

/-- The `ClientSocket` is gone while its `Recv` is still on the stack. -/
theorem sendsBack_unsafe :
    ∃ state, loopSystem.Runs (fun _ _ _ => True) sendsBack state ∧
      state.worker = .inRecv 5 0 ∧ ¬ state.Alive 0 ∧ ¬ state.Safe := by
  have initial : loopSystem.Initial oneConnection := by
    refine ⟨rfl, rfl, rfl, rfl, rfl, fun fd other number left right => ?_⟩
    rw [OrderedMap.lookup_eq_some_iff] at left right
    obtain ⟨rfl, -⟩ := Prod.mk.inj (List.mem_singleton.mp left)
    obtain ⟨rfl, -⟩ := Prod.mk.inj (List.mem_singleton.mp right)
    rfl
  have followed : ∃ state, LabelledSystem.follow LoopState.step (fun _ _ _ => True) oneConnection
      sendsBack = some state ∧ state.worker = .inRecv 5 0 ∧
        state.clientSocketMap.entries = [] ∧ state.calls = [] := ⟨_, rfl, rfl, rfl, rfl⟩
  obtain ⟨state, ran, place, entries, calls⟩ := followed
  have run := (LabelledSystem.runs_of_follow ran).started initial fun _ _ _ stepped => stepped
  have dead : ¬ state.Alive 0 := by
    rintro (⟨fd, found⟩ | held)
    · rw [OrderedMap.lookup_eq_some_iff, entries] at found
      cases found
    · rw [calls] at held
      cases held
  exact ⟨state, run, place, dead, fun safe => dead (safe.recv 5 0 place)⟩

end SocketMessage.Client
