import SocketMessage.Client.Select

/-!
# Stalled output

When the worker blocks in `select`, nobody sends what is in a write buffer unless the
connection is in its write set: the call has no timeout, since `Work` sets `m_Timeout` to
-1 before it looks at it. Here is who sees to the bytes in every state, and what the
threads must not do for it.
-/

namespace SocketMessage.Client

open SocketMessage.Lib SocketMessage.Frame

/-- The connections the worker has still to remove. -/
def SelectAt.closeSocket : SelectAt → List Int
  | .handling _ _ closeSocket | .received _ _ closeSocket | .removing closeSocket => closeSocket
  | _ => []

/-- The worker has passed an fd without putting it into its write set, and `select` has not
returned since. -/
def SelectAt.Omits : SelectAt → Int → Prop
  | .filling position sets, fd => ¬ position.all (· < fd) ∧ fd ∉ sets.writeSet
  | .filled _ sets, fd | .selecting _ sets, fd => fd ∉ sets.writeSet
  | _, _ => False

/-- The `ClientSocket` a thread works with, and the fd it asked for. -/
def SenderAt.holds : SenderAt → Option (Int × Nat)
  | .before fd number _ | .writing fd number => some (fd, number)
  | _ => none

namespace SelectState

variable {state next : SelectState} {event : SelectEvent}

/-! ## Whose connection it is -/

/-- Every entry of the map, and every thread, has the `ClientSocket` of its fd; and the two
flags of a `ClientSocket` are the same. -/
structure Known (state : SelectState) : Prop where
  entries : ∀ fd number, state.clientSocketMap.lookup fd = some number →
    (state.sockets number).cfd = fd ∧ number < state.created
  held : ∀ sender fd number, (state.senders sender).holds = some (fd, number) →
    (state.sockets number).cfd = fd ∧ number < state.created
  flags : ∀ number, (state.sockets number).isWriteing = (state.sockets number).cfdIsWrite

theorem Known.setSocket (known : state.Known) {number : Nat} {socket : ClientSocket}
    (cfd : socket.cfd = (state.sockets number).cfd)
    (flags : socket.isWriteing = socket.cfdIsWrite) : (state.setSocket number socket).Known := by
  have sameFd : ∀ other, ((state.setSocket number socket).sockets other).cfd =
      (state.sockets other).cfd := by
    intro other
    by_cases same : other = number
    · subst same
      simpa [SelectState.setSocket] using cfd
    · simp [SelectState.setSocket, same]
  refine ⟨fun fd other entry => ?_, fun sender fd other holds => ?_, fun other => ?_⟩
  · rw [sameFd]
    exact known.entries fd other entry
  · rw [sameFd]
    exact known.held sender fd other holds
  · by_cases same : other = number
    · subst same
      simpa [SelectState.setSocket] using flags
    · simpa [SelectState.setSocket, same] using known.flags other

theorem Known.senderTo (known : state.Known) (sender : Nat) {place : SenderAt}
    (holds : ∀ fd number, place.holds = some (fd, number) →
      (state.sockets number).cfd = fd ∧ number < state.created) :
    (state.senderTo sender place).Known := by
  refine ⟨known.entries, fun other fd number held => ?_, known.flags⟩
  by_cases same : other = sender
  · subst same
    exact holds fd number (by simpa [SelectState.senderTo] using held)
  · exact known.held other fd number (by simpa [SelectState.senderTo, same] using held)

theorem Known.erase (known : state.Known) (fd : Int) :
    Known { state with clientSocketMap := state.clientSocketMap.erase fd } where
  entries other number entry :=
    known.entries other number ((OrderedMap.lookup_erase_eq_some_iff _).mp entry).2
  held := known.held
  flags := known.flags

theorem Known.connect (known : state.Known) {fd : Int}
    (unused : state.clientSocketMap.lookup fd = none) : (state.connect fd).Known := by
  have old : ∀ number, number < state.created →
      (state.connect fd).sockets number = state.sockets number :=
    fun number created => Function.update_of_ne (Nat.ne_of_lt created) ..
  refine ⟨fun other number entry => ?_, fun sender other number holds => ?_, fun number => ?_⟩
  · simp only [SelectState.connect, OrderedMap.lookup_insert] at entry
    split at entry
    · next isNew =>
      obtain rfl := Option.some.inj entry
      obtain ⟨rfl, _⟩ := isNew
      refine ⟨?_, Nat.lt_succ_self _⟩
      simp [SelectState.connect, SelectState.setSocket, ClientSocket.connect]
    · obtain ⟨cfd, created⟩ := known.entries other number entry
      rw [old number created]
      exact ⟨cfd, Nat.lt_succ_of_lt created⟩
  · obtain ⟨cfd, created⟩ := known.held sender other number holds
    rw [old number created]
    exact ⟨cfd, Nat.lt_succ_of_lt created⟩
  · by_cases same : number = state.created
    · subst same
      simp [SelectState.connect, SelectState.setSocket, ClientSocket.connect]
    · simpa [SelectState.connect, SelectState.setSocket, same] using known.flags number

/-- A thread that holds no `ClientSocket`. -/
theorem Known.release (known : state.Known) (sender : Nat) {place : SenderAt}
    (nothing : place.holds = none) : (state.senderTo sender place).Known := by
  refine known.senderTo sender fun fd number holds => ?_
  rw [nothing] at holds
  cases holds

/-- `Write` changes the buffer only. -/
theorem write_cases {self socket : ClientSocket} {pData : List Byte}
    (written : self.write pData = some socket) :
    socket = { self with writeBuffer := self.writeBuffer ++ pData } := by
  obtain ⟨_, same⟩ := Option.ite_none_left_eq_some.mp written
  exact (Option.some.inj same).symm

theorem Known.moves (known : state.Known) (moves : state.Moves event next) : next.Known := by
  cases moves with
  | connect unused => exact known.connect unused
  | refused => exact known
  | sendPackage outside entry =>
      refine known.senderTo _ fun fd number holds => ?_
      cases holds
      exact known.entries _ _ entry
  | @write sender fd number sendData socket place room =>
      have cfd : socket.cfd = (state.sockets number).cfd := by rw [write_cases room]
      have flags : socket.isWriteing = socket.cfdIsWrite := by
        rw [write_cases room]
        exact known.flags number
      refine (known.setSocket cfd flags).senderTo sender ?_
      rintro _ _ ⟨⟩
      obtain ⟨held, created⟩ := known.held sender fd number (by rw [place]; rfl)
      exact ⟨by simpa [SelectState.setSocket] using cfd.trans held, created⟩
  | noRoom => exact known.release _ rfl
  | @send sender fd number answers socket exit place sent =>
      obtain ⟨cfd, flags, _⟩ := ClientSocket.send_cases sent
      refine (known.setSocket cfd (flags (known.flags number))).release sender ?_
      split <;> rfl
  | remove place => exact (known.release _ rfl).erase _
  | workSend place entry sent =>
      obtain ⟨cfd, flags, _⟩ := ClientSocket.send_cases sent
      have set := known.setSocket cfd (flags (known.flags _))
      exact ⟨set.entries, set.held, set.flags⟩
  | workRemove place =>
      have erased := known.erase
      exact ⟨(erased _).entries, known.held, known.flags⟩
  | _ => exact ⟨known.entries, known.held, known.flags⟩

/-! ## Who sees to the bytes -/

/-- A thread is in `Write` or in its `Send` for a `ClientSocket`. -/
def Writing (state : SelectState) (number : Nat) : Prop :=
  ∃ sender fd, state.senders sender = .writing fd number

/-- The bytes of a connection have somebody: the flag is set, or a thread is at it, or the
connection is about to be removed. -/
def SeenTo (state : SelectState) (fd : Int) (number : Nat) : Prop :=
  (state.sockets number).cfdIsWrite = true ∨ state.Writing number ∨
    (∃ sender, state.senders sender = .failed fd) ∨ fd ∈ state.worker.closeSocket

/-- All bytes have somebody. -/
def Wanted (state : SelectState) : Prop :=
  ∀ fd number, state.clientSocketMap.lookup fd = some number →
    (state.sockets number).writeBuffer ≠ [] → state.SeenTo fd number

theorem Writing.senderTo {number : Nat} {sender : Nat} {place : SenderAt}
    (writing : state.Writing number) (other : ∀ fd, state.senders sender ≠ .writing fd number) :
    (state.senderTo sender place).Writing number := by
  obtain ⟨writer, fd, at_⟩ := writing
  have different : writer ≠ sender := by
    rintro rfl
    exact other fd at_
  exact ⟨writer, fd, (Function.update_of_ne different ..).trans at_⟩

/-- A thread that did not see to a connection's bytes goes on. -/
theorem SeenTo.senderTo {fd : Int} {number : Nat} {sender : Nat} {place : SenderAt}
    (seenTo : state.SeenTo fd number) (other : ∀ fd, state.senders sender ≠ .writing fd number)
    (notFailed : state.senders sender ≠ .failed fd) :
    (state.senderTo sender place).SeenTo fd number := by
  rcases seenTo with flag | writing | ⟨failing, at_⟩ | closing
  · exact Or.inl flag
  · exact Or.inr (Or.inl (writing.senderTo other))
  · have different : failing ≠ sender := by
      rintro rfl
      exact notFailed at_
    exact Or.inr (Or.inr (Or.inl ⟨failing, (Function.update_of_ne different ..).trans at_⟩))
  · exact Or.inr (Or.inr (Or.inr closing))

/-- The worker goes on, without a connection that it has removed. -/
theorem SeenTo.workerTo {fd : Int} {number : Nat} {worker : SelectAt}
    (seenTo : state.SeenTo fd number)
    (closes : fd ∈ state.worker.closeSocket → fd ∈ worker.closeSocket) :
    (state.workerTo worker).SeenTo fd number :=
  seenTo.imp_right (Or.imp_right (Or.imp_right closes))

/-- Another `ClientSocket` changes. -/
theorem SeenTo.setSocket {fd : Int} {number other : Nat} {socket : ClientSocket}
    (seenTo : state.SeenTo fd number) (different : number ≠ other) :
    (state.setSocket other socket).SeenTo fd number := by
  refine seenTo.imp_left fun flag => ?_
  simpa [SelectState.setSocket, different] using flag

theorem Wanted.workerTo (wanted : state.Wanted) {worker : SelectAt}
    (closes : state.worker.closeSocket ⊆ worker.closeSocket) : (state.workerTo worker).Wanted :=
  fun fd number entry left => (wanted fd number entry left).workerTo fun member => closes member

/-- A thread that sees to no bytes goes on. -/
theorem Wanted.senderTo (wanted : state.Wanted) {sender : Nat} {place : SenderAt}
    (notWriting : ∀ fd number, state.senders sender ≠ .writing fd number)
    (notFailed : ∀ fd, state.senders sender ≠ .failed fd) :
    (state.senderTo sender place).Wanted :=
  fun fd number entry left => (wanted fd number entry left).senderTo
    (fun other => notWriting other number) (notFailed fd)

/-- What is left to send after a connect was left before it. -/
theorem Known.left_of_connect (known : state.Known) {fd other : Int} {number : Nat}
    (entry : (state.connect fd).clientSocketMap.lookup other = some number)
    (left : ((state.connect fd).sockets number).writeBuffer ≠ []) :
    number ≠ state.created ∧ state.clientSocketMap.lookup other = some number ∧
      (state.sockets number).writeBuffer ≠ [] := by
  simp only [SelectState.connect, OrderedMap.lookup_insert] at entry
  split at entry
  · obtain rfl := Option.some.inj entry
    exact absurd (by simp [SelectState.connect, SelectState.setSocket, ClientSocket.connect]) left
  · obtain ⟨_, created⟩ := known.entries other number entry
    have different : number ≠ state.created := Nat.ne_of_lt created
    refine ⟨different, entry, ?_⟩
    simpa [SelectState.connect, SelectState.setSocket, different] using left

theorem Wanted.connect (wanted : state.Wanted) (known : state.Known) {fd : Int} :
    (state.connect fd).Wanted := by
  intro other number entry left
  obtain ⟨different, oldEntry, oldLeft⟩ := known.left_of_connect entry left
  refine ((wanted other number oldEntry oldLeft).setSocket different).imp_right
    (Or.imp_right (Or.imp_right fun closing => ?_))
  simp only [SelectState.connect]
  split
  · next unstarted =>
    simp only [SelectState.setSocket, unstarted] at closing
    cases closing
  · exact closing

/-- A `Send` leaves no bytes without the flag, unless it has to close. -/
theorem flag_of_send (known : state.Known) {number : Nat} {answers : List Server.SendAnswer}
    {socket : ClientSocket} {exit : Server.SendExit}
    (sent : (state.sockets number).send answers = some (socket, exit)) (goesOn : exit ≠ .closed)
    (left : ((state.setSocket number socket).sockets number).writeBuffer ≠ []) :
    ((state.setSocket number socket).sockets number).cfdIsWrite = true := by
  simp only [SelectState.setSocket, Function.update_self] at left ⊢
  obtain ⟨_, _, flag, _⟩ := ClientSocket.send_cases sent
  exact flag (known.flags number) goesOn left

theorem Wanted.send (wanted : state.Wanted) (known : state.Known) {sender : Nat} {fd : Int}
    {number : Nat} {answers : List Server.SendAnswer} {socket : ClientSocket}
    {exit : Server.SendExit} (place : state.senders sender = .writing fd number)
    (sent : (state.sockets number).send answers = some (socket, exit)) :
    ((state.setSocket number socket).senderTo sender
      (if exit = .closed then .failed fd else .outside)).Wanted := by
  intro entryFd other entry left
  by_cases same : other = number
  · subst same
    by_cases closed : exit = .closed
    · have ofEntry := (known.entries entryFd other entry).1
      have ofSender := (known.held sender fd other (by rw [place]; rfl)).1
      obtain rfl := ofEntry.symm.trans ofSender
      refine Or.inr (Or.inr (Or.inl ⟨sender, ?_⟩))
      rw [if_pos closed]
      exact Function.update_self ..
    · exact Or.inl (flag_of_send known sent closed left)
  · have old : (state.sockets other).writeBuffer ≠ [] := by
      simpa [SelectState.setSocket, SelectState.senderTo, same] using left
    refine ((wanted entryFd other entry old).setSocket same).senderTo ?_ ?_
    · intro fd' at_
      obtain ⟨_, isNumber⟩ := SenderAt.writing.inj (place.symm.trans at_)
      exact same isNumber.symm
    · intro at_
      cases place.symm.trans at_

theorem Wanted.write (wanted : state.Wanted) {sender : Nat} {fd : Int} {number : Nat}
    {sendData : List Byte} {socket : ClientSocket}
    (place : state.senders sender = .before fd number sendData) :
    ((state.setSocket number socket).senderTo sender (.writing fd number)).Wanted := by
  intro entryFd other entry left
  by_cases same : other = number
  · subst same
    exact Or.inr (Or.inl ⟨sender, fd, Function.update_self ..⟩)
  · have old : (state.sockets other).writeBuffer ≠ [] := by
      simpa [SelectState.setSocket, SelectState.senderTo, same] using left
    refine ((wanted entryFd other entry old).setSocket same).senderTo ?_ ?_
    · intro fd' at_
      cases place.symm.trans at_
    · intro at_
      cases place.symm.trans at_

theorem Wanted.workSend (wanted : state.Wanted) (known : state.Known) {sets : FdSets}
    {closeSocket : List Int} {fd : Int} {number : Nat} {answers : List Server.SendAnswer}
    {socket : ClientSocket} {exit : Server.SendExit}
    (place : state.worker = .received fd sets closeSocket)
    (entry : state.clientSocketMap.lookup fd = some number)
    (sent : (state.sockets number).send answers = some (socket, exit)) :
    ((state.setSocket number socket).workerTo (.handling (some fd) sets
      (if exit = .closed then closeSocket ++ [fd] else closeSocket))).Wanted := by
  intro entryFd other otherEntry left
  by_cases same : other = number
  · subst same
    by_cases closed : exit = .closed
    · obtain rfl := (known.entries entryFd other otherEntry).1.symm.trans
        (known.entries fd other entry).1
      refine Or.inr (Or.inr (Or.inr ?_))
      rw [if_pos closed]
      exact List.mem_append_right _ (List.mem_singleton_self _)
    · exact Or.inl (flag_of_send known sent closed left)
  · have old : (state.sockets other).writeBuffer ≠ [] := by
      simpa [SelectState.setSocket, SelectState.workerTo, same] using left
    refine ((wanted entryFd other otherEntry old).setSocket same).workerTo fun closing => ?_
    simp only [SelectState.setSocket, place] at closing
    split
    · exact List.mem_append_left _ closing
    · exact closing

theorem Wanted.remove (wanted : state.Wanted) {sender : Nat} {fd : Int}
    (place : state.senders sender = .failed fd) :
    Wanted { state.senderTo sender .outside with
      clientSocketMap := state.clientSocketMap.erase fd } := by
  intro entryFd number entry left
  obtain ⟨different, old⟩ := (OrderedMap.lookup_erase_eq_some_iff _).mp entry
  refine (wanted entryFd number old left).senderTo ?_ ?_
  · intro fd' at_
    cases place.symm.trans at_
  · intro at_
    obtain rfl := SenderAt.failed.inj (place.symm.trans at_)
    exact different rfl

theorem Wanted.workRemove (wanted : state.Wanted) {fd : Int} {rest : List Int}
    (place : state.worker = .removing (fd :: rest)) :
    Wanted { state.workerTo (.removing rest) with
      clientSocketMap := state.clientSocketMap.erase fd } := by
  intro entryFd number entry left
  obtain ⟨different, old⟩ := (OrderedMap.lookup_erase_eq_some_iff _).mp entry
  refine (wanted entryFd number old left).workerTo fun closing => ?_
  rw [place] at closing
  exact (List.mem_cons.mp closing).resolve_left different

theorem Wanted.moves (wanted : state.Wanted) (known : state.Known)
    (moves : state.Moves event next) : next.Wanted := by
  cases moves with
  | connect => exact wanted.connect known
  | refused | destory => exact wanted
  | sendPackage outside _ =>
      exact wanted.senderTo (by simp [outside]) (by simp [outside])
  | write place _ => exact wanted.write place
  | noRoom place => exact wanted.senderTo (by simp [place]) (by simp [place])
  | send place sent => exact wanted.send known place sent
  | remove place => exact wanted.remove place
  | workSend place entry sent => exact wanted.workSend known place entry sent
  | workRemove place => exact wanted.workRemove place
  | @filled _ sets tm place _ =>
      have closes : state.worker.closeSocket ⊆ (SelectAt.filled tm sets).closeSocket := by
        rw [place]
        exact List.nil_subset _
      exact wanted.workerTo closes
  | recv place =>
      refine wanted.workerTo ?_
      rw [place]
      split
      · exact List.subset_append_left ..
      · exact List.Subset.refl _
  | skipRecv place | skipSend place | handled place =>
      refine wanted.workerTo ?_
      rw [place]
      exact List.Subset.refl _
  | begin place | look place _ | block place | again place | ready place | removed place =>
      refine wanted.workerTo ?_
      rw [place]
      exact List.nil_subset _

/-! ## What the worker knows when it blocks -/

/-- A thread of the application leaves bytes only where the worker will see that the
connection wants to write: it has not passed it by for its next `select`, or has it in its
write set. And when the worker looks at a connection that does not want to write, no thread
is about to remove it after a failed `Write`. -/
def Allowed (state : SelectState) : SelectEvent → Prop
  | .send sender answers => ∀ fd number socket exit, state.senders sender = .writing fd number →
      state.clientSocketMap.lookup fd = some number →
      (state.sockets number).send answers = some (socket, exit) → exit ≠ .finished →
        ¬ state.worker.Omits fd
  | .work => ∀ position sets fd number, state.worker = .filling position sets →
      state.clientSocketMap.after position = some (fd, number) →
      (state.sockets number).cfdIsWrite = false → ∀ sender, state.senders sender ≠ .failed fd
  | _ => True

/-- What the worker has passed by has no bytes, or a thread is at it. -/
def Current (state : SelectState) : Prop :=
  ∀ fd number, state.clientSocketMap.lookup fd = some number →
    (state.sockets number).writeBuffer ≠ [] → state.worker.Omits fd → state.Writing number

/-- No connection has bytes and nobody at it while the worker blocks in a `select` without
timeout that does not wait for it. -/
def NotStalled (state : SelectState) : Prop :=
  ∀ fd number sets, state.worker = .selecting none sets →
    state.clientSocketMap.lookup fd = some number → (state.sockets number).writeBuffer ≠ [] →
      ¬ state.Writing number → fd ∈ sets.writeSet

theorem Current.notStalled (current : state.Current) : state.NotStalled := by
  intro fd number sets blocked entry left nobody
  by_contra omitted
  refine nobody (current fd number entry left ?_)
  rw [blocked]
  exact omitted

theorem Current.workerTo (current : state.Current) {worker : SelectAt}
    (omits : ∀ fd, worker.Omits fd → state.worker.Omits fd) : (state.workerTo worker).Current :=
  fun fd number entry left omitted => current fd number entry left (omits fd omitted)

theorem Current.senderTo (current : state.Current) {sender : Nat} {place : SenderAt}
    (notWriting : ∀ fd number, state.senders sender ≠ .writing fd number) :
    (state.senderTo sender place).Current :=
  fun fd number entry left omitted => (current fd number entry left omitted).senderTo
    fun other => notWriting other number

theorem Current.connect (current : state.Current) (known : state.Known) {fd : Int} :
    (state.connect fd).Current := by
  intro other number entry left omitted
  obtain ⟨_, oldEntry, oldLeft⟩ := known.left_of_connect entry left
  refine current other number oldEntry oldLeft ?_
  simp only [SelectState.connect] at omitted
  split at omitted
  · cases omitted
  · exact omitted

/-- The worker looks at a connection. -/
theorem Current.look (current : state.Current) (wanted : state.Wanted)
    (allowed : state.Allowed .work) {position : Option Int} {sets : FdSets} {fd : Int}
    {number : Nat} (place : state.worker = .filling position sets)
    (entry : state.clientSocketMap.after position = some (fd, number)) :
    (state.workerTo (.filling (some fd) (sets.look fd (state.sockets number)))).Current := by
  intro other stored isEntry left omitted
  obtain ⟨passed, absent⟩ := omitted
  obtain ⟨isNext, _, first⟩ := OrderedMap.after_eq_some _ entry
  have absentBefore : other ∉ sets.writeSet := by
    intro member
    refine absent ?_
    simp only [FdSets.look]
    split
    · exact List.mem_append_left _ member
    · exact member
  by_cases before : position.all (· < other)
  · -- The entry looked at now is the only one between the two positions.
    have same : other = fd := by
      have notLess : ¬ fd < other := by simpa using passed
      exact le_antisymm (not_lt.mp notLess) (first other stored isEntry before)
    subst same
    obtain rfl := Option.some.inj (isEntry.symm.trans isNext)
    have unset : (state.sockets stored).cfdIsWrite = false := by
      cases flag : (state.sockets stored).cfdIsWrite with
      | false => rfl
      | true => exact absurd (by simp [FdSets.look, flag]) absent
    rcases wanted other stored isEntry left with flag | writing | ⟨sender, failing⟩ | closing
    · rw [unset] at flag
      cases flag
    · exact writing
    · exact absurd failing (allowed position sets other stored place entry unset sender)
    · rw [place] at closing
      cases closing
  · refine current other stored isEntry left ?_
    rw [place]
    exact ⟨before, absentBefore⟩

theorem Current.send (current : state.Current) (known : state.Known) {sender : Nat} {fd : Int}
    {number : Nat} {answers : List Server.SendAnswer} {socket : ClientSocket}
    {exit : Server.SendExit} (allowed : state.Allowed (.send sender answers))
    (place : state.senders sender = .writing fd number)
    (sent : (state.sockets number).send answers = some (socket, exit)) :
    ((state.setSocket number socket).senderTo sender
      (if exit = .closed then .failed fd else .outside)).Current := by
  intro entryFd other entry left omitted
  by_cases same : other = number
  · subst same
    obtain rfl := (known.entries entryFd other entry).1.symm.trans
      (known.held sender fd other (by rw [place]; rfl)).1
    have unfinished : exit ≠ .finished := by
      intro finished
      obtain ⟨_, _, _, nothing⟩ := ClientSocket.send_cases sent
      refine left ?_
      simpa [SelectState.setSocket, SelectState.senderTo] using nothing.mp finished
    exact absurd omitted (allowed _ other socket exit place entry sent unfinished)
  · have old : (state.sockets other).writeBuffer ≠ [] := by
      simpa [SelectState.setSocket, SelectState.senderTo, same] using left
    obtain ⟨writer, writerFd, at_⟩ := current entryFd other entry old omitted
    have different : writer ≠ sender := by
      rintro rfl
      obtain ⟨_, isNumber⟩ := SenderAt.writing.inj (at_.symm.trans place)
      exact same isNumber
    exact ⟨writer, writerFd, (Function.update_of_ne different ..).trans at_⟩

theorem Current.write (current : state.Current) {sender : Nat} {fd : Int} {number : Nat}
    {sendData : List Byte} {socket : ClientSocket}
    (place : state.senders sender = .before fd number sendData) :
    ((state.setSocket number socket).senderTo sender (.writing fd number)).Current := by
  intro entryFd other entry left omitted
  by_cases same : other = number
  · subst same
    exact ⟨sender, fd, Function.update_self ..⟩
  · have old : (state.sockets other).writeBuffer ≠ [] := by
      simpa [SelectState.setSocket, SelectState.senderTo, same] using left
    obtain ⟨writer, writerFd, at_⟩ := current entryFd other entry old omitted
    have different : writer ≠ sender := by
      rintro rfl
      cases place.symm.trans at_
    exact ⟨writer, writerFd, (Function.update_of_ne different ..).trans at_⟩

/-- A connection is removed. -/
theorem Current.erase (current : state.Current) (fd : Int) :
    Current { state with clientSocketMap := state.clientSocketMap.erase fd } :=
  fun other number entry left omitted =>
    current other number ((OrderedMap.lookup_erase_eq_some_iff _).mp entry).2 left omitted

/-- Where the worker does not fill its sets nor wait with them it omits nothing. -/
theorem Current.of_idle (idle : ∀ fd, ¬ state.worker.Omits fd) : state.Current :=
  fun fd _ _ _ omitted => absurd omitted (idle fd)

theorem Current.moves (current : state.Current) (known : state.Known) (wanted : state.Wanted)
    (allowed : state.Allowed event) (moves : state.Moves event next) : next.Current := by
  cases moves with
  | connect => exact current.connect known
  | refused | destory => exact current
  | sendPackage outside _ => exact current.senderTo (by simp [outside])
  | write place _ => exact current.write place
  | noRoom place => exact current.senderTo (by simp [place])
  | send place sent => exact current.send known allowed place sent
  | remove place => exact (current.senderTo (by simp [place])).erase _
  | begin place =>
      refine .of_idle fun fd omitted => ?_
      simp only [SelectState.workerTo] at omitted
      split at omitted
      · exact omitted
      · exact omitted.1 rfl
  | look place entry => exact current.look wanted allowed place entry
  | filled place nothing =>
      intro fd number entry left omitted
      refine current fd number entry left ?_
      rw [place]
      exact ⟨OrderedMap.after_eq_none _ nothing entry, omitted⟩
  | block place =>
      refine current.workerTo fun fd omitted => ?_
      rw [place]
      exact omitted
  | again | ready | skipRecv | recv | skipSend | workSend | handled | workRemove | removed =>
      exact .of_idle fun fd omitted => omitted

/-- `m_Timeout` is -1 before `select`, so that the call has no timeout. -/
def Untimed (state : SelectState) : Prop :=
  match state.worker with
  | .filled _ _ => state.timeout = -1
  | .selecting timeout _ => timeout = none
  | _ => True

theorem Untimed.moves (untimed : state.Untimed) (moves : state.Moves event next) :
    next.Untimed := by
  cases moves with
  | connect unused =>
      by_cases unstarted : state.worker = .unstarted
      · simp [Untimed, SelectState.connect, unstarted]
      · simpa [Untimed, SelectState.connect, SelectState.setSocket, unstarted] using untimed
  | refused | sendPackage | write | noRoom | send | remove | destory => exact untimed
  | begin =>
      cases destroyed : state.isDestory <;> simp [Untimed, SelectState.workerTo, destroyed]
  | filled => exact (rfl : (-1 : Int) = -1)
  | block place =>
      rw [Untimed, place] at untimed
      exact if_pos untimed
  | look | again | ready | skipRecv | recv | skipSend | workSend | handled | workRemove
  | removed => trivial

/-- `select` is never called with a timeout. -/
theorem timeout_eq_none (reachable : selectSystem.Reachable state)
    {timeout : Option (Int × Int)} {sets : FdSets}
    (blocked : state.worker = .selecting timeout sets) : timeout = none := by
  have untimed : state.Untimed := reachable.invariant (trivial : construct.Untimed)
    fun _ _ _ untimed stepped => untimed.moves (moves_of_step stepped)
  rwa [Untimed, blocked] at untimed

/-- Bytes left on a connection that the blocked worker does not wait for are stalled, when
no other thread is at them. -/
theorem stalled_of_send (reachable : selectSystem.Reachable state) {sender : Nat} {fd : Int}
    {number : Nat} {answers : List Server.SendAnswer} {timeout : Option (Int × Int)}
    {sets : FdSets} (blocked : state.worker = .selecting timeout sets)
    (alone : ∀ other otherFd, state.senders other = .writing otherFd number → other = sender)
    (notAllowed : ¬ state.Allowed (.send sender answers))
    (place : state.senders sender = .writing fd number)
    (stepped : state.step (.send sender answers) = some next) : ¬ next.NotStalled := by
  simp only [Allowed, not_forall, not_not] at notAllowed
  obtain ⟨otherFd, other, socket, exit, at_, entry, sent, unfinished, omitted⟩ := notAllowed
  obtain ⟨rfl, rfl⟩ := SenderAt.writing.inj (at_.symm.trans place)
  simp only [step, at_, sent, Option.bind_eq_bind, Option.bind_some] at stepped
  obtain rfl := Option.some.inj stepped
  obtain rfl := timeout_eq_none reachable blocked
  rw [blocked] at omitted
  intro notStalled
  refine omitted (notStalled otherFd other sets blocked entry ?_ ?_)
  · obtain ⟨_, _, _, nothing⟩ := ClientSocket.send_cases sent
    simpa [SelectState.setSocket, SelectState.senderTo] using mt nothing.mpr unfinished
  · rintro ⟨writer, writerFd, writes⟩
    by_cases isSender : writer = sender
    · subst isSender
      have replaced := (Function.update_self ..).symm.trans writes
      split at replaced <;> cases replaced
    · exact isSender (alone writer writerFd
        ((Function.update_of_ne isSender ..).symm.trans writes))

/-- What a run keeps whose steps are allowed. -/
structure Attended (state : SelectState) : Prop where
  known : state.Known
  wanted : state.Wanted
  current : state.Current

theorem attended_construct : construct.Attended where
  known := ⟨nofun, nofun, fun _ => rfl⟩
  wanted := nofun
  current := nofun

theorem Attended.step (attended : state.Attended) (stepped : state.step event = some next)
    (allowed : state.Allowed event) : next.Attended := by
  obtain ⟨known, wanted, current⟩ := attended
  have moves := moves_of_step stepped
  exact ⟨known.moves moves, wanted.moves known moves, current.moves known wanted allowed moves⟩

/-- In every run, of any number of threads and connections and with any answers of the
kernel, in which threads leave bytes only on connections the worker will wait for, no
output is stalled in any state. While the worker is blocked in `select`, the `Send` of the only
thread at a connection keeps it so exactly when it is allowed. -/
theorem runs_notStalled {events : List SelectEvent}
    (run : selectSystem.Runs (fun state event _ => state.Allowed event) events state) :
    state.NotStalled ∧
      ∀ {sender : Nat} {fd : Int} {number : Nat} {answers : List Server.SendAnswer}
        {timeout : Option (Int × Int)} {sets : FdSets} {next : SelectState},
        state.worker = .selecting timeout sets → state.senders sender = .writing fd number →
        (∀ other otherFd, state.senders other = .writing otherFd number → other = sender) →
        state.step (.send sender answers) = some next →
          (state.Allowed (.send sender answers) ↔ next.NotStalled) := by
  have attended : state.Attended := by
    refine run.invariant ?_ fun _ _ _ attended stepped allowed => attended.step stepped allowed
    rintro _ rfl
    exact attended_construct
  refine ⟨attended.current.notStalled, ?_⟩
  intro sender fd number answers timeout sets next blocked place alone stepped
  constructor
  · intro allowed
    exact (attended.step stepped allowed).current.notStalled
  · intro notStalled
    by_contra notAllowed
    exact stalled_of_send run.reachable blocked alone notAllowed place stepped notStalled

/-- A package is written to a connection; the kernel takes nothing of it. -/
def blockedSend : List SelectEvent :=
  [.sendPackage 0 5 [7], .write 0, .send 0 [.wouldBlock]]

/-- The worker goes from the head of its loop into `select`, with one connection in the map. -/
def intoSelect : List SelectEvent := [.work, .work, .work, .work]

/-- At the head of the worker's loop everything is allowed, and the worker may go on while
all connections want to write. -/
theorem allowed_of_top (quiet : (state.worker = .unstarted ∨ state.worker = .top) ∨
    event = .work ∧ ∀ entry ∈ state.clientSocketMap.entries,
      (state.sockets entry.2).cfdIsWrite = true) : state.Allowed event := by
  rcases quiet with idle | ⟨rfl, flagged⟩
  · cases event with
    | send sender answers =>
        intro fd number socket exit _ _ _ _ omitted
        rcases idle with at_ | at_ <;> rw [at_] at omitted <;> exact omitted
    | work =>
        intro position sets fd number filling
        rcases idle with at_ | at_ <;> cases at_.symm.trans filling
    | _ => trivial
  · intro position sets fd number _ entry unset
    have isEntry := (OrderedMap.lookup_eq_some_iff _).mp (OrderedMap.after_eq_some _ entry).1
    rw [flagged _ isEntry] at unset
    cases unset

/-- The package comes before the worker fills its sets. -/
theorem sendFirst_notStalled :
    ∃ state sets, selectSystem.Reachable state ∧ state.worker = .selecting none sets ∧
      state.clientSocketMap.lookup 5 = some 0 ∧ (state.sockets 0).writeBuffer = frame [7] ∧
        5 ∈ sets.writeSet := by
  have followed : ∃ state sets, LabelledSystem.follow step
      (fun state event _ => (state.worker = .unstarted ∨ state.worker = .top) ∨
        event = .work ∧ ∀ entry ∈ state.clientSocketMap.entries,
          (state.sockets entry.2).cfdIsWrite = true)
      construct (.connect 5 :: (blockedSend ++ intoSelect)) = some state ∧
        state.worker = .selecting none sets ∧ state.clientSocketMap.lookup 5 = some 0 ∧
        (state.sockets 0).writeBuffer = frame [7] ∧ ∀ sender, state.senders sender = .outside :=
    ⟨_, _, rfl, rfl, rfl, rfl, fun sender => by cases sender <;> rfl⟩
  obtain ⟨state, sets, ran, blocked, entry, left, outside⟩ := followed
  have run : selectSystem.Runs (fun state event _ => state.Allowed event) _ state :=
    (LabelledSystem.runs_of_follow ran).mono fun _ _ _ => allowed_of_top
  refine ⟨state, sets, run.reachable, blocked, entry, left, ?_⟩
  refine (runs_notStalled run).1 5 0 sets blocked entry ?_ ?_
  · rw [left]
    decide
  · rintro ⟨sender, fd, writing⟩
    cases (outside sender).symm.trans writing

/-- The worker is blocked in `select` when the package comes: it waits for nothing, and
nobody is at the bytes. -/
theorem selectFirst_stalled :
    ∃ state sets, selectSystem.Reachable state ∧ state.worker = .selecting none sets ∧
      sets.writeSet = [] ∧ (state.sockets 0).writeBuffer = frame [7] ∧
        (state.sockets 0).cfdIsWrite = true ∧ ¬ state.NotStalled := by
  have followed : ∃ state sets, LabelledSystem.follow step (fun _ _ _ => True) construct
      (.connect 5 :: (intoSelect ++ blockedSend)) = some state ∧
        state.worker = .selecting none sets ∧ sets.writeSet = [] ∧
        state.clientSocketMap.lookup 5 = some 0 ∧ (state.sockets 0).writeBuffer = frame [7] ∧
        (state.sockets 0).cfdIsWrite = true ∧ ∀ sender, state.senders sender = .outside :=
    ⟨_, _, rfl, rfl, rfl, rfl, rfl, rfl, fun sender => by cases sender <;> rfl⟩
  obtain ⟨state, sets, ran, blocked, nothing, entry, left, flag, outside⟩ := followed
  refine ⟨state, sets, ⟨_, LabelledSystem.runs_of_follow ran⟩, blocked, nothing, left, flag, ?_⟩
  intro notStalled
  have waited := notStalled 5 0 sets blocked entry (by rw [left]; decide) (by
    rintro ⟨sender, fd, writing⟩
    cases (outside sender).symm.trans writing)
  rw [nothing] at waited
  cases waited

end SelectState

end SocketMessage.Client
