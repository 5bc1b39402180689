import SocketMessage.Frame.PackageLoop
import SocketMessage.Lib.Transition

/-!
# Reassembling packages from received chunks

`ClientSocket::Recv` appends what `recv` delivers to the read buffer, hands the
content to the read callback and moves what was not consumed to the front. Server
and client run the same loop. One transition is one `recv` and what the loop does
with its answer; whether the next `recv` belongs to the same call of `Recv` or, after
a would-block, to a later one makes no difference to the buffer.
-/

namespace SocketMessage.Frame

open SocketMessage.Lib

/-- `CONFIG_CLIENT_READBUF_MAX_SIZE`. -/
abbrev readBufMaxSize : Nat := 100 * 1024

/-- `m_ReadBuf` and `m_CurReadBufSize`. -/
structure ReadBuffer where
  memory : List Byte
  curReadBufSize : Nat
  sized : memory.length = readBufMaxSize
  inside : curReadBufSize ≤ readBufMaxSize

namespace ReadBuffer

/-- A new buffer over whatever its memory holds. -/
def fresh (memory : SizedBytes readBufMaxSize) : ReadBuffer := ⟨memory.1, 0, memory.2, Nat.zero_le _⟩

/-- The received bytes that wait for the rest of their package. -/
def content (buffer : ReadBuffer) : List Byte := buffer.memory.take buffer.curReadBufSize

/-- The count passed to `recv`. -/
def room (buffer : ReadBuffer) : Nat := readBufMaxSize - buffer.curReadBufSize

@[simp] theorem length_content (buffer : ReadBuffer) :
    buffer.content.length = buffer.curReadBufSize := by
  rw [content, List.length_take, buffer.sized]
  exact Nat.min_eq_left buffer.inside

@[simp] theorem content_fresh (memory : SizedBytes readBufMaxSize) :
    (fresh memory).content = [] := rfl

/-- `recv` writes behind the content. -/
def store (buffer : ReadBuffer) (chunk : List Byte) (fits : chunk.length ≤ buffer.room) :
    ReadBuffer where
  memory := buffer.memory.take buffer.curReadBufSize ++ chunk ++
    buffer.memory.drop (buffer.curReadBufSize + chunk.length)
  curReadBufSize := buffer.curReadBufSize + chunk.length
  sized := by
    have bound := buffer.inside
    have size := buffer.sized
    unfold room at fits
    simp only [List.length_append, List.length_take, List.length_drop]
    omega
  inside := by
    have bound := buffer.inside
    unfold room at fits
    omega

@[simp] theorem content_store (buffer : ReadBuffer) (chunk : List Byte)
    (fits : chunk.length ≤ buffer.room) :
    (buffer.store chunk fits).content = buffer.content ++ chunk := by
  have size : buffer.curReadBufSize + chunk.length =
      (buffer.memory.take buffer.curReadBufSize ++ chunk).length := by
    rw [List.length_append, ← content, length_content]
  simp only [content, store]
  rw [size]
  exact List.take_left' rfl

/-- `memmove` of what was not consumed to the front. -/
def discard (buffer : ReadBuffer) (eatCount : Nat) (held : eatCount ≤ buffer.curReadBufSize) :
    ReadBuffer where
  memory := (buffer.memory.drop eatCount).take (buffer.curReadBufSize - eatCount) ++
    buffer.memory.drop (buffer.curReadBufSize - eatCount)
  curReadBufSize := buffer.curReadBufSize - eatCount
  sized := by
    have bound := buffer.inside
    have size := buffer.sized
    simp only [List.length_append, List.length_take, List.length_drop]
    omega
  inside := by
    have bound := buffer.inside
    omega

@[simp] theorem content_discard (buffer : ReadBuffer) (eatCount : Nat)
    (held : eatCount ≤ buffer.curReadBufSize) :
    (buffer.discard eatCount held).content = buffer.content.drop eatCount := by
  have size : buffer.curReadBufSize - eatCount =
      ((buffer.memory.drop eatCount).take (buffer.curReadBufSize - eatCount)).length := by
    have bound := buffer.inside
    have whole := buffer.sized
    simp only [List.length_take, List.length_drop]
    omega
  simp only [content, discard]
  rw [List.take_left' size.symm, List.drop_take]

end ReadBuffer

/-- What the kernel answers to one `recv`; `wouldBlock` includes `EINTR`. -/
inductive RecvAnswer where
  | received (chunk : List Byte)
  | peerClosed
  | wouldBlock
  | failed
deriving DecidableEq, Repr

/-- Whether the connection still receives. `broken`: the callback did not return, or
returned more than it was given. -/
inductive RecvStatus where
  | receiving
  | closed
  | broken
deriving DecidableEq, Repr

/-- A connection's receiving side. `owner` is the state of the callback's object. -/
structure Session (σ : Type) where
  owner : σ
  buffer : ReadBuffer
  delivered : List (List Byte)
  status : RecvStatus

/-- A read callback: what it does with the buffer's content, and to its object. -/
abbrev ReadCallback (σ : Type) := σ → List Byte → LoopRun × σ

section System

variable {σ : Type}

/-- The loop body after a `recv` that delivered a chunk. -/
def Session.receive (callback : ReadCallback σ) (session : Session σ) (chunk : List Byte)
    (fits : chunk.length ≤ session.buffer.room) : Session σ :=
  let buffer := session.buffer.store chunk fits
  let (run, owner) := callback session.owner buffer.content
  let delivered := session.delivered ++ run.deliveries.map Delivery.bytes
  match run.exit with
  | .returned eatCount =>
      if 0 < eatCount then
        if held : eatCount.toNat ≤ buffer.curReadBufSize then
          ⟨owner, buffer.discard eatCount.toNat held, delivered, .receiving⟩
        else ⟨owner, buffer, delivered, .broken⟩
      else ⟨owner, buffer, delivered, .receiving⟩
  | _ => ⟨owner, buffer, delivered, .broken⟩

/-- A callback that returns an offset inside the content leaves what is behind it. -/
theorem Session.receive_of_returned {callback : ReadCallback σ} {session : Session σ}
    {chunk : List Byte} {fits : chunk.length ≤ session.buffer.room} {eatCount : Nat}
    (returned : (callback session.owner (session.buffer.store chunk fits).content).1.exit =
      .returned eatCount)
    (held : eatCount ≤ (session.buffer.store chunk fits).curReadBufSize) :
    (session.receive callback chunk fits).status = .receiving ∧
      (session.receive callback chunk fits).delivered = session.delivered ++
        (callback session.owner (session.buffer.store chunk fits).content).1.deliveries.map
          Delivery.bytes ∧
      (session.receive callback chunk fits).buffer.content =
        (session.buffer.store chunk fits).content.drop eatCount := by
  simp only [Session.receive, returned]
  by_cases nothing : eatCount = 0
  · simp [nothing]
  · rw [if_pos (by omega), dif_pos (by simpa using held)]
    simp

/-- One `recv` with its answer. The kernel delivers at least one byte and at most as
many as there is room for; with no room it answers 0. -/
def recvStep (callback : ReadCallback σ) (session : Session σ) : RecvAnswer → Option (Session σ)
  | .received chunk =>
      if session.status = .receiving ∧ chunk ≠ [] then
        if fits : chunk.length ≤ session.buffer.room then some (session.receive callback chunk fits)
        else none
      else none
  | .wouldBlock => if session.status = .receiving then some session else none
  | .peerClosed | .failed =>
      if session.status = .receiving then some { session with status := .closed } else none

/-- When a chunk can arrive, and what it does. -/
theorem recvStep_received_iff {callback : ReadCallback σ} {session next : Session σ}
    {chunk : List Byte} :
    recvStep callback session (.received chunk) = some next ↔
      session.status = .receiving ∧ chunk ≠ [] ∧
        ∃ fits : chunk.length ≤ session.buffer.room, next = session.receive callback chunk fits := by
  simp only [recvStep]
  by_cases possible : session.status = .receiving ∧ chunk ≠ []
  · rw [if_pos possible]
    by_cases fits : chunk.length ≤ session.buffer.room
    · simp [fits, possible, eq_comm]
    · simp [fits]
  · rw [if_neg possible]
    constructor
    · intro none
      cases none
    · rintro ⟨receiving, some_bytes, _⟩
      exact absurd ⟨receiving, some_bytes⟩ possible

/-- The receiving side of one connection from its start. -/
def recvSystem (callback : ReadCallback σ) (owner : σ) (memory : SizedBytes readBufMaxSize) :
    LabelledSystem (Session σ) RecvAnswer :=
  .ofStep ⟨owner, .fresh memory, [], .receiving⟩ (recvStep callback)

end System

/-- The bytes an answer brings. -/
def RecvAnswer.bytes : RecvAnswer → List Byte
  | .received chunk => chunk
  | _ => []

/-- The bytes a sequence of answers has brought. -/
def arrived (answers : List RecvAnswer) : List Byte := answers.flatMap RecvAnswer.bytes

/-- `SocketHead` and payload, as `SendPackage` puts them together. -/
def frame (payload : List Byte) : List Byte :=
  (encodeInt (BitVec.ofNat 32 payload.length)).1 ++ payload

@[simp] theorem length_frame (payload : List Byte) : (frame payload).length = 4 + payload.length := by
  simp [frame]

/-- The frames of payloads one after another. -/
def frames (payloads : List (List Byte)) : List Byte := payloads.flatMap frame

/-- The sizes `SendPackage` accepts for a payload that has a head. -/
def Sendable (payload : List Byte) : Prop := 1 ≤ payload.length ∧ 4 + payload.length ≤ readBufMaxSize

/-- The longest prefix of the payloads whose frames are a prefix of the bytes. -/
structure LongestArrived (payloads : List (List Byte)) (bytes : List Byte)
    (delivered : List (List Byte)) : Prop where
  sent : delivered <+: payloads
  complete : frames delivered <+: bytes
  longest : ∀ other, other <+: payloads → frames other <+: bytes → other <+: delivered

@[simp] theorem frames_append (left right : List (List Byte)) :
    frames (left ++ right) = frames left ++ frames right := List.flatMap_append

/-- Every frame has bytes. -/
theorem length_le_length_frames (payloads : List (List Byte)) :
    payloads.length ≤ (frames payloads).length := by
  induction payloads with
  | nil => simp
  | cons payload payloads inductionHypothesis =>
      simp only [frames, List.flatMap_cons, List.length_append, length_frame, List.length_cons]
        at inductionHypothesis ⊢
      omega

/-- What is left does not complete the next frame. -/
def Unfinished (tail : List Byte) : List (List Byte) → Prop
  | [] => tail = []
  | next :: _ => tail.length < 4 + next.length

/-- The beginning of a stream of frames is some whole frames and an unfinished one. -/
theorem exists_unfinished {payloads : List (List Byte)} {bytes rest : List Byte}
    (stream : bytes ++ rest = frames payloads) :
    ∃ done remaining tail, payloads = done ++ remaining ∧ bytes = frames done ++ tail ∧
      tail ++ rest = frames remaining ∧ Unfinished tail remaining := by
  induction payloads generalizing bytes with
  | nil =>
      obtain ⟨rfl, rfl⟩ := List.append_eq_nil_iff.mp stream
      exact ⟨[], [], [], rfl, rfl, rfl, rfl⟩
  | cons payload payloads inductionHypothesis =>
      by_cases short : bytes.length < 4 + payload.length
      · exact ⟨[], payload :: payloads, bytes, rfl, rfl, stream, short⟩
      · have whole : frame payload <+: frames (payload :: payloads) := ⟨frames payloads, rfl⟩
        have first : frame payload <+: bytes :=
          List.prefix_of_prefix_length_le whole ⟨rest, stream⟩ (by rw [length_frame]; omega)
        obtain ⟨more, rfl⟩ := first
        have streamRest : more ++ rest = frames payloads := by
          rw [List.append_assoc] at stream
          exact List.append_cancel_left stream
        obtain ⟨done, remaining, tail, rfl, rfl, restStream, unfinished⟩ :=
          inductionHypothesis streamRest
        exact ⟨payload :: done, remaining, tail, rfl, by simp [frames], restStream, unfinished⟩

/-- Only the whole frames of a stream's beginning are the longest prefix. -/
theorem longestArrived_of_unfinished {done remaining : List (List Byte)} {tail : List Byte}
    (unfinished : Unfinished tail remaining) :
    LongestArrived (done ++ remaining) (frames done ++ tail) done where
  sent := List.prefix_append _ _
  complete := List.prefix_append _ _
  longest := by
    intro other prefixOfAll arrivedOther
    rcases List.prefix_or_prefix_of_prefix prefixOfAll (List.prefix_append done remaining) with
      within | beyond
    · exact within
    · -- A longer prefix holds the next frame, which is longer than the tail.
      obtain ⟨more, rfl⟩ := beyond
      rw [List.prefix_append_right_inj] at prefixOfAll
      rw [frames_append, List.prefix_append_right_inj] at arrivedOther
      match more, remaining, prefixOfAll with
      | [], _, _ => simp
      | next :: more, [], prefixOfAll => simp at prefixOfAll
      | next :: more, head :: remaining, prefixOfAll =>
        obtain ⟨rfl, _⟩ := List.cons_prefix_cons.mp prefixOfAll
        have lengths := arrivedOther.length_le
        simp only [frames, List.flatMap_cons, List.length_append, length_frame] at lengths
        simp only [Unfinished] at unfinished
        omega

/-- The head of the next frame, wherever it stands. -/
theorem readInt_frame (before payload after : List Byte) :
    readInt (before ++ (frame payload ++ after)) before.length =
      some (BitVec.ofNat 32 payload.length) := by
  simpa [frame] using readInt_append before (BitVec.ofNat 32 payload.length) (payload ++ after)

/-- A frame's size stored in its head. -/
theorem toInt_payload_length {payload : List Byte} (sendable : Sendable payload) :
    (BitVec.ofNat 32 payload.length).toInt = payload.length := by
  have capacity : readBufMaxSize = 102400 := rfl
  have bounded := sendable.2
  exact toInt_ofNat_of_lt (by omega)

/-- The loop stops in front of an unfinished frame. -/
theorem packageLoop_unfinished {remaining : List (List Byte)} {before tail rest : List Byte}
    {passes : Nat} (sendable : ∀ payload ∈ remaining, Sendable payload)
    (stream : tail ++ rest = frames remaining) (unfinished : Unfinished tail remaining)
    (small : (before ++ tail).length ≤ readBufMaxSize) :
    packageLoop (before ++ tail) (passes + 1) before.length =
      .ending (.returned before.length) := by
  have capacity : readBufMaxSize = 102400 := rfl
  rw [List.length_append] at small
  by_cases short : tail.length ≤ 4
  · apply packageLoop_of_short <;> rw [List.length_append] <;> omega
  match remaining with
  | [] =>
      simp only [Unfinished] at unfinished
      simp [unfinished] at short
  | next :: more =>
      have size := toInt_payload_length (sendable next List.mem_cons_self)
      have bounded := (sendable next List.mem_cons_self).2
      simp only [Unfinished] at unfinished
      have headArrived : (encodeInt (BitVec.ofNat 32 next.length)).1 <+: tail := by
        have whole : (encodeInt (BitVec.ofNat 32 next.length)).1 <+: frames (next :: more) :=
          ⟨next ++ frames more, by simp [frames, frame]⟩
        exact List.prefix_of_prefix_length_le whole ⟨rest, stream⟩ (by simp; omega)
      obtain ⟨part, rfl⟩ := headArrived
      have read := readInt_append before (BitVec.ofNat 32 next.length) part
      have sum : int32 (before.length + 4 + next.length) = before.length + 4 + next.length := by
        apply int32_eq_self <;> omega
      rw [packageLoop_of_head (by rw [List.length_append]; omega)
        (by rw [List.length_append]; omega) read, size, sum, if_pos]
      rw [List.length_append]
      omega

/-- The loop delivers a whole frame and goes on behind it. -/
theorem packageLoop_frame {before payload after : List Byte} {passes : Nat}
    (sendable : Sendable payload)
    (small : (before ++ (frame payload ++ after)).length ≤ readBufMaxSize) :
    packageLoop (before ++ (frame payload ++ after)) (passes + 1) before.length =
      .delivering payload.length ⟨(before.length + 4 : Nat), payload⟩
        (packageLoop (before ++ frame payload ++ after) passes (before ++ frame payload).length) := by
  have capacity : readBufMaxSize = 102400 := rfl
  have size := toInt_payload_length sendable
  have bounded := sendable
  unfold Sendable at bounded
  have total : (before ++ (frame payload ++ after)).length =
      before.length + (4 + payload.length) + after.length := by
    simp only [List.length_append, length_frame]
    omega
  have sum : int32 (before.length + 4 + payload.length) = before.length + 4 + payload.length := by
    apply int32_eq_self <;> omega
  have bytes : ((before ++ (frame payload ++ after)).drop (before.length + 4)).take
      payload.length = payload := by
    have split : before ++ (frame payload ++ after) =
        (before ++ (encodeInt (BitVec.ofNat 32 payload.length)).1) ++ (payload ++ after) := by
      simp [frame]
    rw [split, List.drop_left' (by simp), List.take_left' rfl]
  have next : before.length + 4 + payload.length = (before ++ frame payload).length := by
    simp only [List.length_append, length_frame]
    omega
  rw [packageLoop_of_head (by omega) (by omega) (readInt_frame before payload after), size, sum,
    if_neg (by omega), if_neg (by omega), if_pos (by omega), Int.toNat_natCast, bytes, next,
    List.append_assoc]

/-- The loop delivers the whole frames of a stream's beginning and returns where the
unfinished one starts. -/
theorem packageLoop_frames {done remaining : List (List Byte)} {before tail rest : List Byte}
    {passes : Nat} (sendable : ∀ payload ∈ done ++ remaining, Sendable payload)
    (stream : tail ++ rest = frames remaining) (unfinished : Unfinished tail remaining)
    (small : (before ++ (frames done ++ tail)).length ≤ readBufMaxSize)
    (enough : done.length < passes) :
    let run := packageLoop (before ++ (frames done ++ tail)) passes before.length
    run.deliveries.map Delivery.bytes = done ∧
      run.exit = .returned (before ++ frames done).length := by
  induction done generalizing before passes with
  | nil =>
      obtain ⟨passes, rfl⟩ : ∃ fewer, passes = fewer + 1 := ⟨passes - 1, by omega⟩
      have stopped := @packageLoop_unfinished remaining before tail rest passes sendable stream
        unfinished small
      simp only [frames, List.flatMap_nil, List.nil_append, List.append_nil, stopped]
      exact ⟨rfl, rfl⟩
  | cons payload done inductionHypothesis =>
      obtain ⟨passes, rfl⟩ : ∃ fewer, passes = fewer + 1 := ⟨passes - 1, by omega⟩
      have split : frames (payload :: done) ++ tail = frame payload ++ (frames done ++ tail) := by
        simp [frames]
      rw [split] at small ⊢
      have first := @packageLoop_frame before payload (frames done ++ tail) passes
        (sendable payload (by simp)) small
      have continued := @inductionHypothesis (before ++ frame payload) passes
        (fun other member => sendable other (List.mem_cons_of_mem _ member))
        (by simpa using small) (by simpa using enough)
      simp only [first, LoopRun.delivering, List.map_cons]
      refine ⟨by rw [continued.1], ?_⟩
      rw [continued.2]
      simp [frames]

/-! ## Runs -/

/-- A connection is still receiving, has delivered the first payloads and holds in its
buffer what has arrived of the next. -/
structure Reassembled {σ : Type} (payloads : List (List Byte)) (bytes : List Byte)
    (session : Session σ) : Prop where
  receiving : session.status = .receiving
  next : ∃ remaining, payloads = session.delivered ++ remaining ∧
    Unfinished session.buffer.content remaining
  kept : bytes = frames session.delivered ++ session.buffer.content

section Runs

variable {σ : Type} {callback : ReadCallback σ} {payloads : List (List Byte)}

/-- One more chunk: the loop delivers what it completes. -/
theorem Reassembled.receive
    (loops : ∀ owner data, (callback owner data).1 = packageLoop data (data.length + 1) 0)
    (sendable : ∀ payload ∈ payloads, Sendable payload) {session : Session σ}
    {bytes chunk rest : List Byte} (fits : chunk.length ≤ session.buffer.room)
    (holds : Reassembled payloads bytes session)
    (stream : bytes ++ chunk ++ rest = frames payloads) :
    Reassembled payloads (bytes ++ chunk) (session.receive callback chunk fits) := by
  obtain ⟨_, ⟨remaining, rfl, _⟩, rfl⟩ := holds
  have streamHere : session.buffer.content ++ chunk ++ rest = frames remaining := by
    rw [frames_append, List.append_assoc, List.append_assoc] at stream
    rw [List.append_assoc]
    exact List.append_cancel_left stream
  obtain ⟨done, later, tail, rfl, content, streamLater, unfinished⟩ :=
    exists_unfinished streamHere
  have stored := session.buffer.content_store chunk fits
  rw [content] at stored
  have size := (session.buffer.store chunk fits).length_content
  rw [stored] at size
  have looped := @packageLoop_frames done later [] tail rest
    ((frames done ++ tail).length + 1)
    (fun payload member => sendable payload (List.mem_append_right _ member)) streamLater unfinished
    (by rw [List.nil_append, size]; exact (session.buffer.store chunk fits).inside)
    (by
      have positive := length_le_length_frames done
      rw [List.length_append]
      omega)
  simp only [List.nil_append, List.length_nil, Int.natCast_zero] at looped
  have run := loops session.owner (session.buffer.store chunk fits).content
  rw [stored] at run
  have received := @Session.receive_of_returned σ callback session chunk fits (frames done).length
    (by rw [stored, run]; exact looped.2) (by rw [← size, List.length_append]; omega)
  rw [stored, run, looped.1, List.drop_left' rfl] at received
  obtain ⟨status, delivered, kept⟩ := received
  refine ⟨status, ⟨later, ?_, ?_⟩, ?_⟩
  · rw [delivered, List.append_assoc]
  · rw [kept]
    exact unfinished
  · rw [delivered, kept, frames_append, List.append_assoc, List.append_assoc, content]

/-- As long as no close or error has been answered, a run of `recv`s on a stream of
frames reassembles it. -/
theorem reassembled_of_runs
    (loops : ∀ owner data, (callback owner data).1 = packageLoop data (data.length + 1) 0)
    (sendable : ∀ payload ∈ payloads, Sendable payload) {owner : σ}
    {memory : SizedBytes readBufMaxSize} {answers : List RecvAnswer} {session : Session σ}
    {rest : List Byte}
    (run : (recvSystem callback owner memory).Runs
      (fun _ answer _ => answer ≠ .peerClosed ∧ answer ≠ .failed) answers session)
    (stream : arrived answers ++ rest = frames payloads) :
    Reassembled payloads (arrived answers) session := by
  induction run generalizing rest with
  | initial valid =>
      cases valid
      refine ⟨rfl, ⟨payloads, rfl, ?_⟩, rfl⟩
      match payloads with
      | [] => rfl
      | next :: _ =>
        simp only [Unfinished, ReadBuffer.content_fresh, List.length_nil]
        omega
  | @step answers session answer next prior transition meets inductionHypothesis =>
      have split : arrived (answers ++ [answer]) = arrived answers ++ answer.bytes := by
        simp [arrived]
      rw [split] at stream ⊢
      have holds := @inductionHypothesis (answer.bytes ++ rest)
        (by rw [← List.append_assoc]; exact stream)
      cases answer with
      | received chunk =>
          obtain ⟨_, _, fits, rfl⟩ := recvStep_received_iff.mp transition
          exact holds.receive loops sendable fits stream
      | wouldBlock =>
          simp only [recvSystem, LabelledSystem.ofStep, recvStep] at transition
          split at transition
          · obtain rfl := Option.some.inj transition
            simpa [RecvAnswer.bytes] using holds
          · cases transition
      | peerClosed => exact absurd rfl meets.1
      | failed => exact absurd rfl meets.2

/-- What has to be true of a connection that received the beginning of a stream. -/
structure ReceivedExactly (payloads : List (List Byte)) (bytes rest : List Byte)
    (session : Session σ) : Prop where
  receiving : session.status = .receiving
  longest : LongestArrived payloads bytes session.delivered
  undelivered : bytes = frames session.delivered ++ session.buffer.content
  room : 0 < session.buffer.room
  finished : rest = [] → session.delivered = payloads ∧ session.buffer.curReadBufSize = 0

/-- A reassembled stream has been received exactly. -/
theorem Reassembled.receivedExactly (sendable : ∀ payload ∈ payloads, Sendable payload)
    {session : Session σ} {bytes rest : List Byte} (holds : Reassembled payloads bytes session)
    (stream : bytes ++ rest = frames payloads) :
    ReceivedExactly payloads bytes rest session := by
  obtain ⟨receiving, ⟨remaining, rfl, unfinished⟩, rfl⟩ := holds
  have streamRest : session.buffer.content ++ rest = frames remaining := by
    rw [frames_append, List.append_assoc] at stream
    exact List.append_cancel_left stream
  have held := session.buffer.length_content
  refine ⟨receiving, longestArrived_of_unfinished unfinished, rfl, ?_, ?_⟩
  · match remaining with
    | [] =>
        simp only [Unfinished] at unfinished
        rw [unfinished, List.length_nil] at held
        simp [ReadBuffer.room, ← held]
    | next :: _ =>
        have bounded := (sendable next (by simp)).2
        simp only [Unfinished] at unfinished
        unfold ReadBuffer.room
        omega
  · rintro rfl
    match remaining with
    | [] =>
        simp only [Unfinished] at unfinished
        rw [unfinished, List.length_nil] at held
        simp [← held]
    | next :: _ =>
        have lengths := congrArg List.length streamRest
        simp only [frames, List.flatMap_cons, List.length_append, length_frame,
          List.length_nil] at lengths
        simp only [Unfinished] at unfinished
        omega

end Runs

/-- Neither side has ended the connection. -/
def KeepsOpen {σ : Type} (_ : Session σ) (answer : RecvAnswer) (_ : Session σ) : Prop :=
  answer ≠ .peerClosed ∧ answer ≠ .failed

/-- The client's read callback keeps nothing between calls. -/
def clientCallback : ReadCallback Unit := fun _ data => (clientReadPackageCallback data, ())

/-- Server and client receive every stream of sendable frames exactly, at every point
of every run and however `recv` cuts it. -/
theorem recv_receivedExactly {payloads : List (List Byte)}
    (sendable : ∀ payload ∈ payloads, Sendable payload) {answers : List RecvAnswer}
    {rest : List Byte} (stream : arrived answers ++ rest = frames payloads)
    (memory : SizedBytes readBufMaxSize) :
    (∀ statistics session,
      (recvSystem client4ReadCallback statistics memory).Runs KeepsOpen answers session →
        ReceivedExactly payloads (arrived answers) rest session) ∧
    (∀ session, (recvSystem clientCallback () memory).Runs KeepsOpen answers session →
      ReceivedExactly payloads (arrived answers) rest session) := by
  constructor
  · intro statistics session run
    exact (reassembled_of_runs (fun _ _ => rfl) sendable run stream).receivedExactly sendable stream
  · intro session run
    exact (reassembled_of_runs (fun _ _ => rfl) sendable run stream).receivedExactly sendable stream

/-- Memory that holds zeros. -/
def zeroMemory : SizedBytes readBufMaxSize := .zeros readBufMaxSize

instance {σ : Type} (session : Session σ) (answer : RecvAnswer) (next : Session σ) :
    Decidable (KeepsOpen session answer next) :=
  inferInstanceAs (Decidable (answer ≠ .peerClosed ∧ answer ≠ .failed))

/-- Three payloads. -/
def threePayloads : List (List Byte) := [[7, 8], [9], [1, 2, 3]]

/-- Their stream, cut inside a head, inside a payload and inside a head again. -/
def cutAnswers : List RecvAnswer :=
  [.received [2, 0], .wouldBlock, .received [0, 0, 7], .received [8, 1, 0, 0, 0, 9, 3], .wouldBlock,
    .received [0, 0, 0, 1], .received [2, 3], .wouldBlock]

/-- Both sides deliver the three payloads. -/
theorem threePayloads_received :
    (∃ session, (recvSystem client4ReadCallback ⟨0, 0⟩ zeroMemory).Runs KeepsOpen cutAnswers session ∧
      session.delivered = threePayloads) ∧
      ∃ session, (recvSystem clientCallback () zeroMemory).Runs KeepsOpen cutAnswers session ∧
        session.delivered = threePayloads := by
  obtain ⟨server, client⟩ := @recv_receivedExactly threePayloads
    (by simp [threePayloads, Sendable, readBufMaxSize]) cutAnswers [] rfl zeroMemory
  have onServer : (LabelledSystem.follow (recvStep client4ReadCallback) KeepsOpen
      ⟨⟨0, 0⟩, .fresh zeroMemory, [], .receiving⟩ cutAnswers).isSome := by
    decide +kernel
  have onClient : (LabelledSystem.follow (recvStep clientCallback) KeepsOpen
      ⟨(), .fresh zeroMemory, [], .receiving⟩ cutAnswers).isSome := by
    decide +kernel
  obtain ⟨serverSession, serverRan⟩ := Option.isSome_iff_exists.mp onServer
  obtain ⟨clientSession, clientRan⟩ := Option.isSome_iff_exists.mp onClient
  have serverRun := LabelledSystem.runs_of_follow serverRan
  have clientRun := LabelledSystem.runs_of_follow clientRan
  exact ⟨⟨_, serverRun, ((server _ _ serverRun).finished rfl).1⟩,
    ⟨_, clientRun, ((client _ clientRun).finished rfl).1⟩⟩

end SocketMessage.Frame
