import SocketMessage.Frame.Stream
import SocketMessage.Lib.Fifo
import SocketMessage.Server.WriteBuffer

/-!
# One direction of a connection

The `ClientSocket` of one program, which any number of its threads write to, the bytes on
their way, and the `ClientSocket` of the other program, which cuts them into packages. The
network is what a stream socket promises: bytes come out in the order they went in. When
`send` takes them, how many, and when they arrive is left open.
-/

namespace SocketMessage.Link

open SocketMessage.Lib SocketMessage.Frame SocketMessage.Server

/-- Both ends and the bytes between them. `accepted` are the payloads whose frames found room
in the write buffer, in the order of the calls of `Write`. -/
structure Channel (σ ρ : Type) where
  sender : WriteState σ
  network : List Byte
  receiver : Frame.Session ρ
  accepted : List (List Byte)

/-- A thread passes a payload's frame to `Write`; a thread goes on in `Send`; a `recv`. -/
inductive ChannelEvent where
  | write (thread : Nat) (data : List Byte)
  | send (event : WriteEvent)
  | recv (answer : RecvAnswer)

/-- Steps that only move what has been accepted, and neither end nor break the connection. -/
def ChannelEvent.moves : ChannelEvent → Bool
  | .write _ _ | .send (.write _ _) => false
  | .send (.send _ .nothing) | .send (.send _ .failed) => false
  | .recv .peerClosed | .recv .failed => false
  | _ => true

namespace Channel

variable {σ ρ : Type}

/-- `send` has taken bytes, which are now on their way. -/
def sent (channel : Channel σ ρ) (sender : WriteState σ) : Channel σ ρ :=
  { channel with
    sender
    network := channel.network ++ sender.taken.drop channel.sender.taken.length }

/-- The frame of a payload has been passed to `Write`. -/
def written (channel : Channel σ ρ) (data : List Byte) (sender : WriteState σ) : Channel σ ρ :=
  { channel with
    sender
    accepted :=
      if ((frame data).length : Int) > writeBufMaxSize - channel.sender.buffer.used then
        channel.accepted
      else channel.accepted ++ [data] }

/-- One step of either end. -/
def step (writeCallback : σ → Bool → σ) (readCallback : ReadCallback ρ) (channel : Channel σ ρ) :
    ChannelEvent → Option (Channel σ ρ)
  | .write thread data =>
      (channel.sender.step writeCallback (.write thread (frame data))).map (channel.written data)
  | .send (.write _ _) => none
  | .send event => (channel.sender.step writeCallback event).map channel.sent
  | .recv answer =>
      if answer.bytes <+: channel.network then
        (recvStep readCallback channel.receiver answer).map fun receiver =>
          { channel with receiver, network := channel.network.drop answer.bytes.length }
      else none

/-- A new connection, over whatever the memory of the two buffers holds. -/
def start (sending : σ) (receiving : ρ) (writeMemory : SizedBytes writeBufMaxSize)
    (readMemory : SizedBytes readBufMaxSize) : Channel σ ρ where
  sender := .start sending writeMemory
  network := []
  receiver := ⟨receiving, .fresh readMemory, [], .receiving⟩
  accepted := []

/-- What the connection is for. -/
def fifo (channel : Channel σ ρ) : Fifo (List Byte) :=
  ⟨channel.receiver.delivered, channel.accepted.drop channel.receiver.delivered.length⟩

end Channel

/-- One direction of a connection from its beginning on. -/
def channelSystem {σ ρ : Type} (writeCallback : σ → Bool → σ) (readCallback : ReadCallback ρ)
    (start : Channel σ ρ) : LabelledSystem (Channel σ ρ) ChannelEvent :=
  .ofStep start (Channel.step writeCallback readCallback)

namespace Channel

variable {σ ρ : Type} {writeCallback : σ → Bool → σ} {readCallback : ReadCallback ρ}
  {channel next : Channel σ ρ} {event : ChannelEvent}

/-- All a step can be. -/
theorem step_cases (stepped : channel.step writeCallback readCallback event = some next) :
    (∃ thread data sender, event = .write thread data ∧
        channel.sender.step writeCallback (.write thread (frame data)) = some sender ∧
        next = channel.written data sender) ∨
      (∃ writeEvent sender, event = .send writeEvent ∧
        (∀ thread pData, writeEvent ≠ .write thread pData) ∧
        channel.sender.step writeCallback writeEvent = some sender ∧ next = channel.sent sender) ∨
      (∃ answer receiver, event = .recv answer ∧ answer.bytes <+: channel.network ∧
        recvStep readCallback channel.receiver answer = some receiver ∧
        next = { channel with
          receiver, network := channel.network.drop answer.bytes.length }) := by
  cases event with
  | write thread data =>
      obtain ⟨sender, wrote, rfl⟩ := Option.map_eq_some_iff.mp stepped
      exact .inl ⟨thread, data, sender, rfl, wrote, rfl⟩
  | send writeEvent =>
      have notWrite : ∀ thread pData, writeEvent ≠ .write thread pData := by
        rintro thread pData rfl
        cases stepped
      have mapped : (channel.sender.step writeCallback writeEvent).map channel.sent = some next := by
        cases writeEvent with
        | write thread pData => exact absurd rfl (notWrite thread pData)
        | _ => exact stepped
      obtain ⟨sender, moved, rfl⟩ := Option.map_eq_some_iff.mp mapped
      exact .inr (.inl ⟨writeEvent, sender, rfl, notWrite, moved, rfl⟩)
  | recv answer =>
      obtain ⟨arrived, received⟩ := Option.ite_none_right_eq_some.mp stepped
      obtain ⟨receiver, stored, rfl⟩ := Option.map_eq_some_iff.mp received
      exact .inr (.inr ⟨answer, receiver, rfl, arrived, stored, rfl⟩)

/-! ## Nothing is lost -/

/-- The frames accepted are a stream: its first part has been taken by `send`, and of that the
receiver has read all but what is still on its way. -/
structure Carries (channel : Channel σ ρ) : Prop where
  exclusive : channel.sender.Exclusive
  streams : channel.sender.Streams
  framed : (channel.sender.writes.filter WriteRecord.accepted).map WriteRecord.pData =
    channel.accepted.map frame
  small : ∀ data ∈ channel.accepted, 4 + data.length ≤ readBufMaxSize
  arrived : ∃ bytes, Parsed bytes channel.receiver ∧ bytes ++ channel.network = channel.sender.taken

/-- What has been taken and what is in the write buffer are the frames accepted. -/
theorem Carries.stream (carries : channel.Carries) :
    channel.sender.taken ++ channel.sender.buffer.content = frames channel.accepted := by
  rw [carries.streams, acceptedBytes, List.flatMap_def, carries.framed, ← List.flatMap_def, frames]

theorem accepted_written_of_full {data : List Byte} (sender : WriteState σ)
    (full : ((frame data).length : Int) > writeBufMaxSize - channel.sender.buffer.used) :
    (channel.written data sender).accepted = channel.accepted := if_pos full

theorem accepted_written_of_room {data : List Byte} (sender : WriteState σ)
    (room : ¬ ((frame data).length : Int) > writeBufMaxSize - channel.sender.buffer.used) :
    (channel.written data sender).accepted = channel.accepted ++ [data] := if_neg room

theorem Carries.written (carries : channel.Carries) {thread : Nat} {data : List Byte}
    {sender : WriteState σ}
    (wrote : channel.sender.step writeCallback (.write thread (frame data)) = some sender) :
    (channel.written data sender).Carries := by
  have streams := carries.streams.step wrote
  have exclusive := carries.exclusive.step wrote
  obtain ⟨_, built⟩ := Option.ite_none_right_eq_some.mp wrote
  obtain rfl := Option.some.inj built
  obtain ⟨bytes, parsed, split⟩ := carries.arrived
  by_cases full : ((frame data).length : Int) > writeBufMaxSize - channel.sender.buffer.used
  · have accepted := accepted_written_of_full (channel.sender.write thread (frame data)) full
    rw [WriteState.write_of_full full] at streams exclusive accepted ⊢
    refine ⟨exclusive, streams, ?_, ?_, bytes, parsed, split⟩
    · rw [accepted]
      simpa [Channel.written] using carries.framed
    · rw [accepted]
      exact carries.small
  · have accepted := accepted_written_of_room (channel.sender.write thread (frame data)) full
    have wrote : channel.sender.write thread (frame data) = _ := dif_neg full
    rw [wrote] at streams exclusive accepted ⊢
    refine ⟨exclusive, streams, ?_, ?_, bytes, parsed, split⟩
    · rw [accepted]
      simp [Channel.written, carries.framed]
    · rw [accepted]
      intro other member
      rcases List.mem_append.mp member with before | same
      · exact carries.small other before
      · obtain rfl := List.mem_singleton.mp same
        have size := length_frame other
        have capacity : writeBufMaxSize = readBufMaxSize := rfl
        omega

theorem Carries.sent (carries : channel.Carries) {writeEvent : WriteEvent} {sender : WriteState σ}
    (notWrite : ∀ thread pData, writeEvent ≠ .write thread pData)
    (moved : channel.sender.step writeCallback writeEvent = some sender) :
    (channel.sent sender).Carries := by
  obtain ⟨⟨more, taken⟩, writes⟩ := WriteState.taken_of_step moved notWrite
  obtain ⟨bytes, parsed, split⟩ := carries.arrived
  refine ⟨carries.exclusive.step moved, carries.streams.step moved, ?_, carries.small, bytes, parsed, ?_⟩
  · exact (congrArg (fun writes => (writes.filter WriteRecord.accepted).map WriteRecord.pData)
      writes).trans carries.framed
  · simp only [Channel.sent]
    rw [← taken, List.drop_left' rfl, ← List.append_assoc, split]

theorem Carries.received (carries : channel.Carries) {answer : RecvAnswer}
    {receiver : Frame.Session ρ}
    (loops : ∀ owner data, (readCallback owner data).1 = packageLoop data (data.length + 1) 0)
    (there : answer.bytes <+: channel.network)
    (received : recvStep readCallback channel.receiver answer = some receiver) :
    Carries { channel with receiver, network := channel.network.drop answer.bytes.length } := by
  obtain ⟨bytes, parsed, split⟩ := carries.arrived
  obtain ⟨rest, network⟩ := there
  refine ⟨carries.exclusive, carries.streams, carries.framed, carries.small, bytes ++ answer.bytes,
    parsed.step loops received, ?_⟩
  rw [← network, List.append_assoc, List.drop_left' rfl, network, split]

/-- Every step keeps this. -/
theorem Carries.step (carries : channel.Carries)
    (loops : ∀ owner data, (readCallback owner data).1 = packageLoop data (data.length + 1) 0)
    (stepped : channel.step writeCallback readCallback event = some next) : next.Carries := by
  rcases step_cases stepped with ⟨thread, data, sender, -, wrote, rfl⟩ |
    ⟨writeEvent, sender, -, notWrite, moved, rfl⟩ | ⟨answer, receiver, -, there, received, rfl⟩
  · exact carries.written wrote
  · exact carries.sent notWrite moved
  · exact carries.received loops there received

/-- In every reachable state. -/
theorem carries_of_reachable {sending : σ} {receiving : ρ}
    {writeMemory : SizedBytes writeBufMaxSize} {readMemory : SizedBytes readBufMaxSize}
    (loops : ∀ owner data, (readCallback owner data).1 = packageLoop data (data.length + 1) 0)
    (reachable : (channelSystem writeCallback readCallback
      (.start sending receiving writeMemory readMemory)).Reachable channel) : channel.Carries := by
  refine reachable.invariant ?_ fun _ _ _ carries stepped => carries.step loops stepped
  have nothing : Parsed [] (⟨receiving, .fresh readMemory, [], .receiving⟩ : Frame.Session ρ) :=
    @parsed_of_runs ρ readCallback _ (fun _ _ _ => True) loops _ readMemory [] (.initial rfl)
  refine ⟨?_, rfl, rfl, fun _ member => (List.not_mem_nil member).elim, [], nothing, rfl⟩
  intro thread
  simp [Channel.start, WriteState.start, WriteCall.insideSend]

/-- The packages that came out are the first of those that went in, and the bytes of the others
are in the two buffers and in between. The receiver never meets an unreadable head, and once
nothing is under way everything has come out. -/
structure InOrder (channel : Channel σ ρ) : Prop where
  notBroken : channel.receiver.status ≠ .broken
  waiting : ∃ waiting, channel.accepted = channel.receiver.delivered ++ waiting ∧
    frames waiting = channel.receiver.buffer.content ++ channel.network ++
      channel.sender.buffer.content
  finished : channel.network = [] → channel.sender.buffer.content = [] →
    (∀ data ∈ channel.accepted, data ≠ []) → channel.receiver.delivered = channel.accepted

theorem Carries.inOrder (carries : channel.Carries) : channel.InOrder := by
  obtain ⟨bytes, parsed, split⟩ := carries.arrived
  have stream := carries.stream
  rw [← split, List.append_assoc] at stream
  obtain ⟨waiting, accepted, rest⟩ := exists_waiting carries.small stream
  have small : ∀ data ∈ waiting, 4 + data.length ≤ readBufMaxSize := fun data member =>
    carries.small data (accepted ▸ List.mem_append_right _ member)
  have notBroken : channel.receiver.status ≠ .broken := fun broken =>
    not_unreadable small rest (parsed.unreadable broken)
  obtain ⟨content, _⟩ := parsed.kept notBroken
  rw [← parsed.delivered] at accepted
  refine ⟨notBroken, ⟨waiting, accepted, ?_⟩, ?_⟩
  · rw [content, List.append_assoc, rest]
  · intro network buffer some_bytes
    rw [network, buffer, List.append_nil, List.append_nil] at rest
    have nothing := waiting_eq_nil small
      (fun data member => some_bytes data (accepted ▸ List.mem_append_right _ member)) rest
    rw [accepted, nothing, List.append_nil]

/-! ## As a queue -/

/-- What has been delivered stays delivered. -/
theorem delivered_of_recvStep {receiver receiverNext : Frame.Session ρ} {answer : RecvAnswer}
    (received : recvStep readCallback receiver answer = some receiverNext) :
    receiver.delivered <+: receiverNext.delivered := by
  have same : ∀ {built : Frame.Session ρ}, (if receiver.status = .receiving then
      some { receiver with status := RecvStatus.closed } else none) = some built →
      receiver.delivered <+: built.delivered := by
    intro built closed
    obtain ⟨_, closed⟩ := Option.ite_none_right_eq_some.mp closed
    obtain rfl := Option.some.inj closed
    exact List.prefix_rfl
  cases answer with
  | received chunk =>
      obtain ⟨_, _, fits, rfl⟩ := recvStep_received_iff.mp received
      rw [Session.delivered_receive]
      exact List.prefix_append _ _
  | wouldBlock =>
      obtain ⟨_, kept⟩ := Option.ite_none_right_eq_some.mp received
      obtain rfl := Option.some.inj kept
      exact List.prefix_rfl
  | peerClosed => exact same received
  | failed => exact same received

/-- What went in and what came out stays so. -/
theorem grows_of_step (stepped : channel.step writeCallback readCallback event = some next) :
    channel.receiver.delivered <+: next.receiver.delivered ∧ channel.accepted <+: next.accepted := by
  rcases step_cases stepped with ⟨thread, data, sender, -, -, rfl⟩ |
    ⟨writeEvent, sender, -, -, -, rfl⟩ | ⟨answer, receiver, -, -, received, rfl⟩
  · refine ⟨List.prefix_rfl, ?_⟩
    simp only [Channel.written]
    split
    · exact List.prefix_rfl
    · exact List.prefix_append _ _
  · exact ⟨List.prefix_rfl, List.prefix_rfl⟩
  · exact ⟨delivered_of_recvStep received, List.prefix_rfl⟩

theorem InOrder.accepted_fifo (inOrder : channel.InOrder) :
    channel.fifo.accepted = channel.accepted := by
  obtain ⟨waiting, accepted, _⟩ := inOrder.waiting
  rw [fifo, Fifo.accepted, accepted, List.drop_left' rfl]

/-- A step of the connection is some steps of the queue. -/
theorem fifo_steps (inOrder : channel.InOrder) (inOrderNext : next.InOrder)
    (stepped : channel.step writeCallback readCallback event = some next) :
    Fifo.Steps channel.fifo next.fifo := by
  obtain ⟨delivered, accepted⟩ := grows_of_step stepped
  refine Fifo.steps_iff.mpr ⟨delivered, ?_⟩
  rw [inOrder.accepted_fifo, inOrderNext.accepted_fifo]
  exact accepted

/-! ## Nothing is stuck -/

/-- A step that moves what has been accepted. -/
def Moved (writeCallback : σ → Bool → σ) (readCallback : ReadCallback ρ)
    (channel next : Channel σ ρ) : Prop :=
  ∃ event : ChannelEvent, event.moves = true ∧
    channel.step writeCallback readCallback event = some next

/-- A step of `Send` in which nothing fails. -/
theorem moved_of_send {writeEvent : WriteEvent} {sender : WriteState σ}
    (moves : (ChannelEvent.send writeEvent).moves = true)
    (moved : channel.sender.step writeCallback writeEvent = some sender) :
    Moved writeCallback readCallback channel (channel.sent sender) := by
  refine ⟨.send writeEvent, moves, ?_⟩
  cases writeEvent with
  | write thread pData => cases moves
  | _ => exact Option.map_eq_some_iff.mpr ⟨sender, moved, rfl⟩

variable (writeCallback readCallback) in
/-- The thread in the loop of `Send` can empty the write buffer, if the kernel lets it. -/
theorem empties_of_sending {thread : Nat} (held : channel.sender.mutexWrite = some thread)
    (sending : channel.sender.threads thread = .sending) :
    ∃ next, Relation.ReflTransGen (Moved writeCallback readCallback) channel next ∧
      next.sender.buffer.content = [] ∧ next.receiver = channel.receiver := by
  by_cases empty : channel.sender.buffer.content = []
  · exact ⟨channel, .refl, empty, rfl⟩
  · have more : 0 < channel.sender.buffer.used := by
      rw [← FixedBuffer.length_content]
      exact List.length_pos_of_ne_nil empty
    have passed := (WriteState.step_send writeCallback held sending empty
      (.accepted channel.sender.buffer.used)).trans (WriteState.sendPass_all more)
    refine ⟨channel.sent _, .single (moved_of_send rfl passed), ?_, rfl⟩
    exact FixedBuffer.content_clear _

variable (writeCallback readCallback) in
/-- A thread that finds the mutex free can empty the write buffer. -/
theorem empties_of_free (exclusive : channel.sender.Exclusive)
    (free : channel.sender.mutexWrite = none) :
    ∃ next, Relation.ReflTransGen (Moved writeCallback readCallback) channel next ∧
      next.sender.buffer.content = [] ∧ next.receiver = channel.receiver := by
  have ready : channel.sender.threads 0 = .outside ∨ channel.sender.threads 0 = .appended := by
    have notInside := mt (exclusive 0).mp (by rw [free]; simp)
    cases place : channel.sender.threads 0 with
    | outside => exact .inl rfl
    | appended => exact .inr rfl
    | sending => simp [place, WriteCall.insideSend] at notInside
    | finishing hasData => simp [place, WriteCall.insideSend] at notInside
  have locked : channel.sender.step writeCallback (.lock 0) =
      some { channel.sender.goto 0 .sending with mutexWrite := some 0 } := if_pos ⟨free, ready⟩
  have moved := @moved_of_send σ ρ writeCallback readCallback channel _ _ rfl locked
  obtain ⟨next, steps, empty, receiver⟩ := @empties_of_sending σ ρ writeCallback readCallback
    (channel.sent { channel.sender.goto 0 .sending with mutexWrite := some 0 }) 0 rfl
    (by simp [sent, WriteState.goto])
  exact ⟨next, .head moved steps, empty, receiver⟩

variable (writeCallback readCallback) in
/-- The write buffer can always be emptied. -/
theorem empties (exclusive : channel.sender.Exclusive) :
    ∃ next, Relation.ReflTransGen (Moved writeCallback readCallback) channel next ∧
      next.sender.buffer.content = [] ∧ next.receiver = channel.receiver := by
  cases held : channel.sender.mutexWrite with
  | none => exact empties_of_free writeCallback readCallback exclusive held
  | some thread =>
      have inside := (exclusive thread).mpr held
      cases place : channel.sender.threads thread with
      | outside => simp [place, WriteCall.insideSend] at inside
      | appended => simp [place, WriteCall.insideSend] at inside
      | sending => exact empties_of_sending writeCallback readCallback held place
      | finishing hasData =>
          have finished : channel.sender.step writeCallback (.finish thread) =
              some (channel.sender.finish writeCallback thread hasData) := by
            simp only [WriteState.step, place, if_pos held]
          have moved := @moved_of_send σ ρ writeCallback readCallback channel _ _ rfl finished
          have free : (channel.sender.finish writeCallback thread hasData).mutexWrite = none := by
            unfold WriteState.finish
            split <;> rfl
          obtain ⟨next, steps, empty, receiver⟩ := @empties_of_free σ ρ writeCallback readCallback
            (channel.sent (channel.sender.finish writeCallback thread hasData))
            (exclusive.step finished) free
          exact ⟨next, .head moved steps, empty, receiver⟩

/-- There is always room for another `recv`. -/
theorem Carries.room (carries : channel.Carries) : 0 < channel.receiver.buffer.room := by
  obtain ⟨bytes, parsed, split⟩ := carries.arrived
  have stream := carries.stream
  rw [← split, List.append_assoc] at stream
  obtain ⟨waiting, accepted, rest⟩ := exists_waiting carries.small stream
  obtain ⟨content, incomplete⟩ := parsed.kept carries.inOrder.notBroken
  have short := incomplete.length_lt
    (fun data member => carries.small data (accepted ▸ List.mem_append_right _ member)) rest
  rw [← content, ReadBuffer.length_content] at short
  unfold ReadBuffer.room
  omega

/-- What is on its way can arrive. -/
theorem arrives (loops : ∀ owner data, (readCallback owner data).1 =
      packageLoop data (data.length + 1) 0)
    (carries : channel.Carries) (receiving : channel.receiver.status = .receiving) :
    ∃ next, Relation.ReflTransGen (Moved writeCallback readCallback) channel next ∧
      next.network = [] ∧ next.sender = channel.sender ∧ next.Carries ∧
      next.receiver.status = .receiving := by
  induction length : channel.network.length using Nat.strongRecOn generalizing channel with
  | _ length inductionHypothesis =>
    by_cases nothing : channel.network = []
    · exact ⟨channel, .refl, nothing, rfl, carries, receiving⟩
    · -- `recv` takes as much as there is room for.
      obtain ⟨chunk, taken⟩ : ∃ chunk, chunk = channel.network.take channel.receiver.buffer.room :=
        ⟨_, rfl⟩
      have room := carries.room
      have more := List.length_pos_of_ne_nil nothing
      have size : chunk.length = min channel.receiver.buffer.room channel.network.length := by
        rw [taken, List.length_take]
      have fits : chunk.length ≤ channel.receiver.buffer.room := by omega
      have there : (RecvAnswer.received chunk).bytes <+: channel.network :=
        taken ▸ List.take_prefix _ _
      have received := (@recvStep_received_iff ρ readCallback channel.receiver _ chunk).mpr
        ⟨receiving, List.ne_nil_of_length_pos (by omega), fits, rfl⟩
      have moved : Moved writeCallback readCallback channel _ :=
        ⟨.recv (.received chunk), rfl,
          (if_pos there).trans (Option.map_eq_some_iff.mpr ⟨_, received, rfl⟩)⟩
      have carriesNext := carries.received loops there received
      have receivingNext := (Session.status_receive chunk fits).resolve_right
        carriesNext.inOrder.notBroken
      have shorter : (channel.network.drop chunk.length).length < channel.network.length := by
        rw [List.length_drop]
        omega
      obtain ⟨next, steps, result⟩ := inductionHypothesis _
        (length ▸ shorter) carriesNext receivingNext rfl
      exact ⟨next, .head moved steps, result⟩

theorem accepted_of_moved (steps : Relation.ReflTransGen (Moved writeCallback readCallback) channel next) :
    next.accepted = channel.accepted := by
  induction steps with
  | refl => rfl
  | tail _ moved inductionHypothesis =>
      obtain ⟨event, moves, stepped⟩ := moved
      rcases step_cases stepped with ⟨thread, data, sender, rfl, -, -⟩ |
        ⟨writeEvent, sender, -, -, -, rfl⟩ | ⟨answer, receiver, -, -, -, rfl⟩
      · cases moves
      · exact inductionHypothesis
      · exact inductionHypothesis

theorem Carries.moved (carries : channel.Carries)
    (loops : ∀ owner data, (readCallback owner data).1 = packageLoop data (data.length + 1) 0)
    (steps : Relation.ReflTransGen (Moved writeCallback readCallback) channel next) :
    next.Carries := by
  induction steps with
  | refl => exact carries
  | tail _ moved inductionHypothesis =>
      obtain ⟨event, _, stepped⟩ := moved
      exact inductionHypothesis.step loops stepped

/-- While the receiver reads, everything that has been accepted can still arrive. -/
theorem Carries.delivers (carries : channel.Carries)
    (loops : ∀ owner data, (readCallback owner data).1 = packageLoop data (data.length + 1) 0)
    (receiving : channel.receiver.status = .receiving)
    (some_bytes : ∀ data ∈ channel.accepted, data ≠ []) :
    ∃ next, Relation.ReflTransGen (Moved writeCallback readCallback) channel next ∧
      next.receiver.delivered = channel.accepted := by
  obtain ⟨emptied, emptying, empty, receiver⟩ := empties writeCallback readCallback carries.exclusive
  obtain ⟨next, arriving, network, sender, carriesNext, _⟩ :=
    @arrives σ ρ writeCallback readCallback _ loops (carries.moved loops emptying)
      (receiver ▸ receiving)
  have accepted := accepted_of_moved (emptying.trans arriving)
  refine ⟨next, emptying.trans arriving, ?_⟩
  rw [← accepted]
  exact carriesNext.inOrder.finished network (sender ▸ empty) (accepted ▸ some_bytes)

end Channel

/-! ## Both directions -/

/-- The connection does what a queue does: at every moment and with every step. -/
def QueueAt {σ ρ : Type} (writeCallback : σ → Bool → σ) (readCallback : ReadCallback ρ)
    (channel : Channel σ ρ) : Prop :=
  channel.InOrder ∧ ∀ event next, channel.step writeCallback readCallback event = some next →
    Fifo.Steps channel.fifo next.fifo

/-- Everything that has been accepted can still arrive, without a further `Write`. -/
def DeliversFrom {σ ρ : Type} (writeCallback : σ → Bool → σ) (readCallback : ReadCallback ρ)
    (channel : Channel σ ρ) : Prop :=
  channel.receiver.status = .receiving → (∀ data ∈ channel.accepted, data ≠ []) →
    ∃ next, Relation.ReflTransGen (Channel.Moved writeCallback readCallback) channel next ∧
      next.receiver.delivered = channel.accepted

section Both

variable {σ : Type} (writeCallback : σ → Bool → σ) (sending : σ)
  (writeMemory : SizedBytes writeBufMaxSize) (readMemory : SizedBytes readBufMaxSize)

theorem queueAt_of_reachable {ρ : Type} {readCallback : ReadCallback ρ} {receiving : ρ}
    {channel : Channel σ ρ}
    (loops : ∀ owner data, (readCallback owner data).1 = packageLoop data (data.length + 1) 0)
    (reachable : (channelSystem writeCallback readCallback
      (.start sending receiving writeMemory readMemory)).Reachable channel) :
    QueueAt writeCallback readCallback channel := by
  have inOrder := (Channel.carries_of_reachable loops reachable).inOrder
  exact ⟨inOrder, fun event next stepped => Channel.fifo_steps inOrder
    (Channel.carries_of_reachable loops (reachable.step stepped)).inOrder stepped⟩

/-- From the server to the client and from the client to the server, with any number of threads
that write, whatever `send` takes and whenever and however cut the bytes arrive: the connection is
a queue of packages, in every state and in every step. -/
theorem connection_queue :
    (∀ channel, (channelSystem writeCallback clientCallback
        (.start sending () writeMemory readMemory)).Reachable channel →
      QueueAt writeCallback clientCallback channel) ∧
    ∀ statistics channel, (channelSystem writeCallback client4ReadCallback
        (.start sending statistics writeMemory readMemory)).Reachable channel →
      QueueAt writeCallback client4ReadCallback channel :=
  ⟨fun _ reachable => queueAt_of_reachable _ _ _ _ (fun _ _ => rfl) reachable,
    fun _ _ reachable => queueAt_of_reachable _ _ _ _ (fun _ _ => rfl) reachable⟩

/-- A client writes a frame of five bytes; `send` takes three of them. -/
def threeOfFive : List ChannelEvent :=
  [.write 0 [7], .send (.lock 0), .send (.send 0 (.accepted 3))]

theorem threeOfFive_queue :
    ∃ channel : Channel Bool RecvStatistics,
      (channelSystem clientWriteCallback client4ReadCallback
        (.start false ⟨0, 0⟩ (.zeros writeBufMaxSize) zeroMemory)).Reachable channel ∧
      channel.network = [1, 0, 0] ∧ QueueAt clientWriteCallback client4ReadCallback channel := by
  have followed : (LabelledSystem.follow (Channel.step clientWriteCallback client4ReadCallback)
      (fun _ _ _ => True) (.start false ⟨0, 0⟩ (.zeros writeBufMaxSize) zeroMemory) threeOfFive).map
        Channel.network = some [1, 0, 0] := rfl
  obtain ⟨channel, ran, network⟩ := Option.map_eq_some_iff.mp followed
  have reachable : (channelSystem clientWriteCallback client4ReadCallback
      (.start false ⟨0, 0⟩ (.zeros writeBufMaxSize) zeroMemory)).Reachable channel :=
    ⟨_, LabelledSystem.runs_of_follow ran⟩
  exact ⟨channel, reachable, network, (connection_queue _ _ _ _).2 _ _ reachable⟩

theorem deliversFrom_of_reachable {ρ : Type} {readCallback : ReadCallback ρ} {receiving : ρ}
    {channel : Channel σ ρ}
    (loops : ∀ owner data, (readCallback owner data).1 = packageLoop data (data.length + 1) 0)
    (reachable : (channelSystem writeCallback readCallback
      (.start sending receiving writeMemory readMemory)).Reachable channel) :
    DeliversFrom writeCallback readCallback channel :=
  (Channel.carries_of_reachable loops reachable).delivers loops

/-- In both directions and from every state the connection can be in, whatever the threads are
doing: while the receiver reads, all packages that found room can still be delivered. -/
theorem connection_delivers :
    (∀ channel, (channelSystem writeCallback clientCallback
        (.start sending () writeMemory readMemory)).Reachable channel →
      DeliversFrom writeCallback clientCallback channel) ∧
    ∀ statistics channel, (channelSystem writeCallback client4ReadCallback
        (.start sending statistics writeMemory readMemory)).Reachable channel →
      DeliversFrom writeCallback client4ReadCallback channel :=
  ⟨fun _ reachable => deliversFrom_of_reachable _ _ _ _ (fun _ _ => rfl) reachable,
    fun _ _ reachable => deliversFrom_of_reachable _ _ _ _ (fun _ _ => rfl) reachable⟩

end Both

theorem threeOfFive_delivers :
    ∃ channel next : Channel Bool RecvStatistics, channel.network = [1, 0, 0] ∧
      Relation.ReflTransGen (Channel.Moved clientWriteCallback client4ReadCallback) channel next ∧
      next.receiver.delivered = [[7]] := by
  have followed : (LabelledSystem.follow (Channel.step clientWriteCallback client4ReadCallback)
      (fun _ _ _ => True) (.start false ⟨0, 0⟩ (.zeros writeBufMaxSize) zeroMemory) threeOfFive).map
        (fun channel => (channel.network, channel.accepted, channel.receiver.status)) =
          some ([1, 0, 0], [[7]], .receiving) := rfl
  obtain ⟨channel, ran, contents⟩ := Option.map_eq_some_iff.mp followed
  obtain ⟨network, rest⟩ := Prod.mk.inj contents
  obtain ⟨accepted, receiving⟩ := Prod.mk.inj rest
  obtain ⟨next, steps, delivered⟩ := (connection_delivers clientWriteCallback false
    (.zeros writeBufMaxSize) zeroMemory).2 ⟨0, 0⟩ channel ⟨_, LabelledSystem.runs_of_follow ran⟩
      receiving (by simp [accepted])
  exact ⟨channel, next, network, steps, delivered.trans accepted⟩

end SocketMessage.Link
