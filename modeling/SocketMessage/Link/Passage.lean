import SocketMessage.Client.Select
import SocketMessage.Link.Channel
import SocketMessage.Server.Replies
import SocketMessage.Server.TaskQueue

/-!
# Packages that there is room for

`SendPackage` of either program looks at what is free in the write buffer, and `Write` looks
again. From a state of a connection in which the frames of some packages fit together, both let
each of them through, whatever happens on the connection while its threads write them.
-/

namespace SocketMessage.Link

open SocketMessage.Lib SocketMessage.Frame SocketMessage.Server SocketMessage.Client

/-- What a step passes to `Write`. -/
def ChannelEvent.written : ChannelEvent → List (List Byte)
  | .write _ data => [data]
  | .send _ | .recv _ => []

namespace Channel

variable {σ ρ : Type} {writeCallback : σ → Bool → σ} {readCallback : ReadCallback ρ}
  {before channel next : Channel σ ρ} {event : ChannelEvent}

/-- The frames of the packages fit what is free in the write buffer. -/
def RoomFor (channel : Channel σ ρ) (packages : List (List Byte)) : Prop :=
  channel.sender.buffer.used + (frames packages).length ≤ writeBufMaxSize

/-- A state the connection can be in. All packages had a head. -/
structure Used (writeCallback : σ → Bool → σ) (readCallback : ReadCallback ρ)
    (channel : Channel σ ρ) : Prop where
  reachable : ∃ sending receiving writeMemory readMemory, (channelSystem writeCallback readCallback
    (.start sending receiving writeMemory readMemory)).Reachable channel
  packages : ∀ data ∈ channel.accepted, data ≠ []

/-- The connection is used further, and the threads pass these packages to `Write`, in this
order. -/
def Writes (writeCallback : σ → Bool → σ) (readCallback : ReadCallback ρ) (before : Channel σ ρ)
    (packages : List (List Byte)) (channel : Channel σ ρ) : Prop :=
  ∃ events, (channelSystem writeCallback readCallback before).Runs (fun _ _ _ => True) events
    channel ∧ events.flatMap ChannelEvent.written = packages

/-- What the receiver has got of these packages, behind those before: the first ones, and all
of them once nothing is under way. -/
structure Receives (before channel : Channel σ ρ) (packages : List (List Byte)) : Prop where
  received : channel.receiver.delivered.drop before.accepted.length <+: packages
  finished : channel.network = [] → channel.sender.buffer.content = [] →
    channel.receiver.delivered = before.accepted ++ packages

/-- A new connection. -/
theorem used_start (sending : σ) (receiving : ρ) (writeMemory : SizedBytes writeBufMaxSize)
    (readMemory : SizedBytes readBufMaxSize) :
    Used writeCallback readCallback (.start sending receiving writeMemory readMemory) :=
  ⟨⟨sending, receiving, _, _, [], .initial rfl⟩, fun _ member => (List.not_mem_nil member).elim⟩

/-! ## `SendPackage` -/

/-- The server's `SendPackage` queues the frame for a connection whose write buffer is as full,
whatever the server is doing. -/
def ServerSends (channel : Channel σ ρ) (data : List Byte) : Prop :=
  ∀ (state : ServerState) (cfd : Int) (pointer : Nat) (socket : Server.ClientSocket),
    state.clientFdMap cfd = some pointer → state.sockets pointer = some socket →
      socket.writeBuffer.length = channel.sender.buffer.used → Queued state cfd pointer data

/-- The client's `SendPackage` passes the frame on to `Write` for a connection whose write buffer
is as full, whatever the client is doing. -/
def ClientSends (channel : Channel σ ρ) (data : List Byte) : Prop :=
  ∀ (state : SelectState) (sender : Nat) (fd : Int) (number : Nat),
    state.clientSocketMap.lookup fd = some number →
      (state.sockets number).writeBuffer.length = channel.sender.buffer.used →
        state.sendPackage sender fd data =
          some (state.senderTo sender (.before fd number (frame data)))

theorem roomFor_singleton {data : List Byte} :
    channel.RoomFor [data] ↔ channel.sender.buffer.used + (4 + data.length) ≤ writeBufMaxSize := by
  simp [RoomFor, frames]

/-- The server after it has accepted a connection, with so many bytes to write. -/
def filled (used : Nat) : ServerState :=
  accepted5.setSocket 0 { (Server.ClientSocket.create 5 (.zeros readBufMaxSize)) with
    writeBuffer := List.replicate used 0 }

/-- The server's test is that there is room. -/
theorem serverSends_iff {data : List Byte} (small : data.length < 2 ^ 31) :
    channel.ServerSends data ↔ channel.RoomFor [data] := by
  rw [roomFor_singleton]
  constructor
  · intro sends
    by_contra full
    have queued := sends (filled channel.sender.buffer.used) 5 0 _ rfl rfl
      List.length_replicate none
    have noRoom : ¬ (filled channel.sender.buffer.used).RoomFor 5 (4 + data.length) := by
      rintro ⟨pointer, socket, entry, present, fits⟩
      obtain rfl := Option.some.inj entry
      obtain rfl := Option.some.inj present
      rw [List.length_replicate] at fits
      exact full fits
    have same := ServerState.socketTasks_of_no_room small noRoom none
    rw [queued] at same
    have count := congrArg List.length same
    simp [ServerState.addSocketTask] at count
  · intro room state cfd pointer socket entry present full answers
    obtain ⟨found, same, queued⟩ := ServerState.sendPackage_of_room
      (⟨pointer, socket, entry, present, by rw [full]; exact room⟩ :
        state.RoomFor cfd (4 + data.length)) answers
    obtain rfl := Option.some.inj (entry.symm.trans same)
    exact queued

/-- So is the client's. -/
theorem clientSends_iff {data : List Byte} (small : data.length < 2 ^ 31) :
    channel.ClientSends data ↔ channel.RoomFor [data] := by
  rw [roomFor_singleton]
  constructor
  · intro sends
    by_contra full
    let state : SelectState := (SelectState.construct.connect 5).setSocket 0
      { Client.ClientSocket.connect 5 with
        writeBuffer := List.replicate channel.sender.buffer.used 0 }
    have passed := sends state 0 5 0 rfl List.length_replicate
    have entry : state.clientSocketMap.lookup 5 = some 0 := rfl
    have free : (state.sockets 0).getSize4EmptyWrite =
        (writeBufMaxSize : Int) - (List.replicate channel.sender.buffer.used (0 : Byte)).length := rfl
    rw [SelectState.sendPackage, entry] at passed
    simp only [free, List.length_replicate] at passed
    split at passed
    · have place := congrArg (fun state : SelectState => state.senders 0) (Option.some.inj passed)
      simp [SelectState.senderTo, state, SelectState.connect, SelectState.setSocket,
        SelectState.construct] at place
    · next fits =>
      split at passed
      · cases passed
      · next nonnegative =>
        simp only [writeBufMaxSize] at fits full
        by_cases inRange : 4 + data.length < 2 ^ 31
        · rw [int32_eq_self (by simp only [socketHeadSize]; omega)
            (by simp only [socketHeadSize]; omega)] at fits
          simp only [socketHeadSize] at fits
          omega
        · rw [int32_eq_sub (by simp only [socketHeadSize]; omega)
            (by simp only [socketHeadSize]; omega)] at nonnegative
          simp only [socketHeadSize] at nonnegative
          omega
  · intro room state sender fd number entry full
    simp only [writeBufMaxSize] at room
    have size : int32 (socketHeadSize + data.length) = 4 + data.length :=
      int32_eq_self (by simp only [socketHeadSize]; omega) (by simp only [socketHeadSize]; omega)
    rw [SelectState.sendPackage, entry, size]
    simp only [Client.ClientSocket.getSize4EmptyWrite, full, writeBufMaxSize]
    rw [if_neg (by omega), if_neg (by omega)]

/-- `SendPackage` takes each of the packages that fit together. -/
theorem RoomFor.serverSends {packages : List (List Byte)} (room : channel.RoomFor packages)
    {data : List Byte} (member : data ∈ packages) : channel.ServerSends data := by
  obtain ⟨first, last, rfl⟩ := List.append_of_mem member
  simp only [RoomFor, frames, List.flatMap_append, List.flatMap_cons, List.length_append,
    length_frame] at room
  have small : data.length < 2 ^ 31 := by
    simp only [writeBufMaxSize] at room
    omega
  rw [serverSends_iff small, roomFor_singleton]
  omega

/-! ## The run -/

/-- A step accepts what there is room for, and takes no more room than that. -/
theorem Carries.room_of_step (carries : channel.Carries) (carriesNext : next.Carries)
    (stepped : channel.step writeCallback readCallback event = some next)
    (room : channel.RoomFor event.written) :
    next.accepted = channel.accepted ++ event.written ∧
      next.sender.buffer.used ≤ channel.sender.buffer.used + (frames event.written).length := by
  have accepted : next.accepted = channel.accepted ++ event.written ∧
      channel.sender.taken <+: next.sender.taken := by
    rcases step_cases stepped with ⟨thread, data, sender, rfl, wrote, rfl⟩ |
      ⟨writeEvent, sender, rfl, notWrite, moved, rfl⟩ | ⟨answer, receiver, rfl, -, -, rfl⟩
    · have fits : ¬ ((frame data).length : Int) > writeBufMaxSize - channel.sender.buffer.used := by
        have free := roomFor_singleton.mp room
        rw [length_frame]
        omega
      obtain ⟨_, built⟩ := Option.ite_none_right_eq_some.mp wrote
      obtain rfl := Option.some.inj built
      refine ⟨accepted_written_of_room _ fits, ?_⟩
      have written : channel.sender.write thread (frame data) = _ := dif_neg fits
      rw [written]
      exact List.prefix_rfl
    · obtain ⟨grown, -⟩ := WriteState.taken_of_step moved notWrite
      exact ⟨(List.append_nil _).symm, grown⟩
    · exact ⟨(List.append_nil _).symm, List.prefix_rfl⟩
  -- The room that is gone is what has been accepted and not been taken yet.
  have stream := congrArg List.length carries.stream
  have streamNext := congrArg List.length carriesNext.stream
  have taken := accepted.2.length_le
  rw [List.length_append, FixedBuffer.length_content] at stream streamNext
  rw [accepted.1, frames_append, List.length_append] at streamNext
  exact ⟨accepted.1, by omega⟩

/-- While packages that have room are written, each is accepted, and the others keep their room. -/
theorem Carries.room_of_runs (carries : before.Carries)
    (loops : ∀ owner data, (readCallback owner data).1 = packageLoop data (data.length + 1) 0)
    {events : List ChannelEvent} {rest : List (List Byte)}
    (ran : (channelSystem writeCallback readCallback before).Runs (fun _ _ _ => True) events channel)
    (room : before.RoomFor (events.flatMap ChannelEvent.written ++ rest)) :
    channel.Carries ∧ channel.accepted = before.accepted ++ events.flatMap ChannelEvent.written ∧
      channel.RoomFor rest := by
  induction ran generalizing rest with
  | initial start =>
      obtain rfl := start
      exact ⟨carries, (List.append_nil _).symm, room⟩
  | @step events channel event next prior transition _ inductionHypothesis =>
      have split : (events ++ [event]).flatMap ChannelEvent.written ++ rest =
          events.flatMap ChannelEvent.written ++ (event.written ++ rest) := by
        simp
      rw [split] at room
      obtain ⟨carriesHere, accepted, free⟩ := inductionHypothesis room
      have carriesNext := carriesHere.step loops transition
      simp only [RoomFor, frames_append, List.length_append] at free
      obtain ⟨more, used⟩ := carriesHere.room_of_step carriesNext transition (by
        simp only [RoomFor]
        omega)
      refine ⟨carriesNext, ?_, ?_⟩
      · rw [more, accepted]
        simp
      · simp only [RoomFor]
        omega

/-- Packages that have room together pass: at any moment `SendPackage` would find room for those
that are still to come, `Write` has taken the others, and the receiver gets them in order. -/
theorem Used.passage (used : before.Used writeCallback readCallback)
    (loops : ∀ owner data, (readCallback owner data).1 = packageLoop data (data.length + 1) 0)
    {packages written rest : List (List Byte)} (room : before.RoomFor packages)
    (heads : ∀ data ∈ packages, data ≠ []) (perm : (written ++ rest).Perm packages)
    (writes : before.Writes writeCallback readCallback written channel) :
    channel.accepted = before.accepted ++ written ∧ channel.RoomFor rest ∧
      before.Receives channel written := by
  obtain ⟨events, ran, rfl⟩ := writes
  obtain ⟨_, _, _, _, reachable⟩ := used.reachable
  have same : (frames (events.flatMap ChannelEvent.written ++ rest)).length =
      (frames packages).length := (perm.flatMap_right frame).length_eq
  obtain ⟨carries, accepted, free⟩ := (carries_of_reachable loops reachable).room_of_runs loops ran
    (by rw [RoomFor, same]; exact room)
  obtain ⟨waiting, split, -⟩ := carries.inOrder.waiting
  rw [accepted] at split
  refine ⟨accepted, free, ?_, fun network buffer => ?_⟩
  · have delivered : channel.receiver.delivered <+:
        before.accepted ++ events.flatMap ChannelEvent.written := ⟨waiting, split.symm⟩
    rw [List.prefix_iff_eq_take.mp delivered, List.drop_take, List.drop_left]
    exact List.take_prefix _ _
  · rw [← accepted]
    refine carries.inOrder.finished network buffer fun data member => ?_
    rcases List.mem_append.mp (accepted ▸ member) with earlier | later
    · exact used.packages data earlier
    · exact heads data (perm.mem_iff.mp (List.mem_append_left _ later))

/-- Nothing has been written yet. -/
theorem writes_nil : before.Writes writeCallback readCallback [] before :=
  ⟨[], .initial rfl, rfl⟩

end Channel

end SocketMessage.Link
