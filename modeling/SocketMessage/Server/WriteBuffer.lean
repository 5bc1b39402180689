import Mathlib.Logic.Function.Basic
import SocketMessage.Lib.FixedBuffer
import SocketMessage.Lib.Transition
import SocketMessage.Server.ClientSocket

/-!
# The write buffer between threads

`ClientSocket::Write` and `ClientSocket::Send`, which the client holds word for word, as
steps of any number of threads under `m_MutexWrite`: an append in one critical section,
then `send` after `send` and the write callback in another. A `send` and the update of
the buffer that follows it are one step, since nobody else sees the buffer in between.
What the callback does outside of the `ClientSocket` is a parameter.
-/

namespace SocketMessage.Server

open SocketMessage.Lib

/-- Where a thread is: in no call, between the two critical sections of `Write`, in the
loop of `Send`, or behind it. -/
inductive WriteCall where
  | outside
  | appended
  | sending
  | finishing (hasData : Bool)
deriving DecidableEq, Repr

/-- The second critical section. -/
def WriteCall.insideSend : WriteCall → Bool
  | .sending | .finishing _ => true
  | .outside | .appended => false

/-- One call of `Write`: its payload, and whether there was room. -/
structure WriteRecord where
  pData : List Byte
  accepted : Bool
deriving DecidableEq, Repr

/-- The `ClientSocket`, the threads that use it and who holds `m_MutexWrite`. `taken`
are the bytes `send` has accepted, `writes` the calls of `Write` in the order of their
critical sections. -/
structure WriteState (σ : Type) where
  owner : σ
  buffer : FixedBuffer Byte writeBufMaxSize
  isWriteing : Bool
  mutexWrite : Option Nat
  threads : Nat → WriteCall
  taken : List Byte
  writes : List WriteRecord

/-- A step of a thread: the critical section of `Write`, the start of `Send`, what one
pass of its loop meets, and its end. -/
inductive WriteEvent where
  | write (thread : Nat) (pData : List Byte)
  | lock (thread : Nat)
  | drained (thread : Nat)
  | send (thread : Nat) (answer : SendAnswer)
  | finish (thread : Nat)

namespace WriteState

variable {σ : Type}

/-- A new `ClientSocket` over whatever its memory holds. -/
def start (owner : σ) (memory : SizedBytes writeBufMaxSize) : WriteState σ where
  owner
  buffer := .fresh memory.1 memory.2
  isWriteing := false
  mutexWrite := none
  threads _ := .outside
  taken := []
  writes := []

/-- A thread goes on. -/
def goto (state : WriteState σ) (thread : Nat) (call : WriteCall) : WriteState σ :=
  { state with threads := Function.update state.threads thread call }

/-- A thread leaves its critical section. -/
def unlock (state : WriteState σ) : WriteState σ := { state with mutexWrite := none }

/-- The critical section of `Write`. -/
def write (state : WriteState σ) (thread : Nat) (pData : List Byte) : WriteState σ :=
  if full : (pData.length : Int) > writeBufMaxSize - state.buffer.used then
    { state with writes := state.writes ++ [⟨pData, false⟩] }
  else
    { state.goto thread .appended with
      buffer := state.buffer.append pData (by omega)
      writes := state.writes ++ [⟨pData, true⟩] }

/-- One pass of the loop of `Send` with something in the buffer. -/
def sendPass (state : WriteState σ) (thread : Nat) : SendAnswer → Option (WriteState σ)
  | .accepted overCount =>
      if taken : 0 < overCount ∧ overCount ≤ state.buffer.used then
        if state.buffer.used = overCount then
          some { state.goto thread (.finishing false) with
            buffer := state.buffer.clear
            taken := state.taken ++ state.buffer.content }
        else
          some { state with
            buffer := state.buffer.discard overCount taken.2
            taken := state.taken ++ state.buffer.content.take overCount }
      else none
  | .wouldBlock => some (state.goto thread (.finishing true))
  | .nothing | .failed => some (state.goto thread .outside).unlock

/-- The end of `Send`, which calls the write callback when `m_IsWriteing` changes. -/
def finish (callback : σ → Bool → σ) (state : WriteState σ) (thread : Nat) (hasData : Bool) :
    WriteState σ :=
  if state.isWriteing ≠ hasData then
    { (state.goto thread .outside).unlock with
      isWriteing := hasData
      owner := callback state.owner hasData }
  else (state.goto thread .outside).unlock

/-- One step, if the thread can take it now. -/
def step (callback : σ → Bool → σ) (state : WriteState σ) : WriteEvent → Option (WriteState σ)
  | .write thread pData =>
      if state.mutexWrite = none ∧ state.threads thread = .outside then
        some (state.write thread pData)
      else none
  | .lock thread =>
      if state.mutexWrite = none ∧
          (state.threads thread = .outside ∨ state.threads thread = .appended) then
        some { state.goto thread .sending with mutexWrite := some thread }
      else none
  | .drained thread =>
      if state.mutexWrite = some thread ∧ state.threads thread = .sending ∧
          state.buffer.used = 0 then
        some (state.goto thread (.finishing false))
      else none
  | .send thread answer =>
      if state.mutexWrite = some thread ∧ state.threads thread = .sending ∧
          state.buffer.used ≠ 0 then
        state.sendPass thread answer
      else none
  | .finish thread =>
      match state.threads thread with
      | .finishing hasData =>
          if state.mutexWrite = some thread then some (state.finish callback thread hasData)
          else none
      | _ => none

end WriteState

/-- One `ClientSocket` from its creation on. -/
def writeSystem {σ : Type} (callback : σ → Bool → σ) (owner : σ)
    (memory : SizedBytes writeBufMaxSize) : LabelledSystem (WriteState σ) WriteEvent :=
  .ofStep (.start owner memory) (WriteState.step callback)

/-- The client's write callback sets `m_CfdIsWrite`. -/
def clientWriteCallback (_cfdIsWrite hasData : Bool) : Bool := hasData

/-- The payloads of the calls of `Write` that found room, one after the other. -/
def acceptedBytes (writes : List WriteRecord) : List Byte :=
  (writes.filter WriteRecord.accepted).flatMap WriteRecord.pData

namespace WriteState

variable {σ : Type} {callback : σ → Bool → σ} {state next : WriteState σ} {event : WriteEvent}

/-- All a step can be. -/
theorem step_cases (stepped : state.step callback event = some next) :
    (∃ thread pData, event = .write thread pData ∧ state.mutexWrite = none ∧
        state.threads thread = .outside ∧ next = state.write thread pData) ∨
      (∃ thread, event = .lock thread ∧ state.mutexWrite = none ∧
        (state.threads thread = .outside ∨ state.threads thread = .appended) ∧
        next = { state.goto thread .sending with mutexWrite := some thread }) ∨
      (∃ thread, event = .drained thread ∧ state.mutexWrite = some thread ∧
        state.threads thread = .sending ∧ state.buffer.used = 0 ∧
        next = state.goto thread (.finishing false)) ∨
      (∃ thread answer, event = .send thread answer ∧ state.mutexWrite = some thread ∧
        state.threads thread = .sending ∧ state.buffer.used ≠ 0 ∧
        state.sendPass thread answer = some next) ∨
      (∃ thread hasData, event = .finish thread ∧ state.mutexWrite = some thread ∧
        state.threads thread = .finishing hasData ∧
        next = state.finish callback thread hasData) := by
  cases event with
  | write thread pData =>
      obtain ⟨⟨free, outside⟩, built⟩ := Option.ite_none_right_eq_some.mp stepped
      exact Or.inl ⟨thread, pData, rfl, free, outside, (Option.some.inj built).symm⟩
  | lock thread =>
      obtain ⟨⟨free, ready⟩, built⟩ := Option.ite_none_right_eq_some.mp stepped
      exact Or.inr (Or.inl ⟨thread, rfl, free, ready, (Option.some.inj built).symm⟩)
  | drained thread =>
      obtain ⟨⟨held, sending, empty⟩, built⟩ := Option.ite_none_right_eq_some.mp stepped
      exact Or.inr (Or.inr (Or.inl
        ⟨thread, rfl, held, sending, empty, (Option.some.inj built).symm⟩))
  | send thread answer =>
      obtain ⟨⟨held, sending, more⟩, passed⟩ := Option.ite_none_right_eq_some.mp stepped
      exact Or.inr (Or.inr (Or.inr (Or.inl ⟨thread, answer, rfl, held, sending, more, passed⟩)))
  | finish thread =>
      simp only [WriteState.step] at stepped
      split at stepped
      · next hasData finishing =>
        obtain ⟨held, built⟩ := Option.ite_none_right_eq_some.mp stepped
        exact Or.inr (Or.inr (Or.inr (Or.inr
          ⟨thread, hasData, rfl, held, finishing, (Option.some.inj built).symm⟩)))
      · cases stepped

/-- All a pass of `Send` can be: `send` takes everything or a part, it would block, or it
fails and the call ends. -/
theorem sendPass_cases {thread : Nat} {answer : SendAnswer}
    (passed : state.sendPass thread answer = some next) :
    (answer = .accepted state.buffer.used ∧ next = { state.goto thread (.finishing false) with
        buffer := state.buffer.clear
        taken := state.taken ++ state.buffer.content }) ∨
      (∃ overCount, ∃ taken : overCount ≤ state.buffer.used, answer = .accepted overCount ∧
        0 < overCount ∧ overCount ≠ state.buffer.used ∧ next = { state with
          buffer := state.buffer.discard overCount taken
          taken := state.taken ++ state.buffer.content.take overCount }) ∨
      (answer = .wouldBlock ∧ next = state.goto thread (.finishing true)) ∨
      ((answer = .nothing ∨ answer = .failed) ∧ next = (state.goto thread .outside).unlock) := by
  cases answer with
  | accepted overCount =>
      simp only [sendPass] at passed
      split at passed
      · next taken =>
        split at passed
        · next all =>
          exact Or.inl ⟨by rw [all], (Option.some.inj passed).symm⟩
        · next part =>
          exact Or.inr (Or.inl ⟨overCount, taken.2, rfl, taken.1, Ne.symm part,
            (Option.some.inj passed).symm⟩)
      · cases passed
  | wouldBlock => exact Or.inr (Or.inr (Or.inl ⟨rfl, (Option.some.inj passed).symm⟩))
  | nothing => exact Or.inr (Or.inr (Or.inr ⟨Or.inl rfl, (Option.some.inj passed).symm⟩))
  | failed => exact Or.inr (Or.inr (Or.inr ⟨Or.inr rfl, (Option.some.inj passed).symm⟩))

/-! ## The byte stream -/

/-- What `send` has taken and what is in the buffer, in this order, are the payloads
that found room. -/
def Streams (state : WriteState σ) : Prop :=
  state.taken ++ state.buffer.content = acceptedBytes state.writes

/-- A refused call of `Write` leaves the buffer as it is. -/
theorem write_of_full {thread : Nat} {pData : List Byte}
    (full : (pData.length : Int) > writeBufMaxSize - state.buffer.used) :
    state.write thread pData = { state with writes := state.writes ++ [⟨pData, false⟩] } :=
  dif_pos full

/-- A critical section of `Write` adds its payload to both sides, or to none. -/
theorem Streams.write (streams : state.Streams) (thread : Nat) (pData : List Byte) :
    (state.write thread pData).Streams := by
  unfold Streams at streams ⊢
  by_cases full : (pData.length : Int) > writeBufMaxSize - state.buffer.used
  · rw [write_of_full full]
    simpa [acceptedBytes] using streams
  · rw [WriteState.write, dif_neg full]
    simp only [FixedBuffer.content_append]
    rw [← List.append_assoc, goto, streams]
    simp [acceptedBytes]

/-- What a `send` takes moves from the front of the buffer to the end of what has been
taken. -/
theorem Streams.sendPass (streams : state.Streams) {thread : Nat} {answer : SendAnswer}
    (passed : state.sendPass thread answer = some next) : next.Streams := by
  unfold Streams at streams ⊢
  rcases sendPass_cases passed with ⟨-, rfl⟩ | ⟨overCount, taken, -, -, -, rfl⟩ | ⟨-, rfl⟩ | ⟨-, rfl⟩
  · simpa [goto] using streams
  · simpa [List.append_assoc] using streams
  · exact streams
  · exact streams

/-- The end of `Send` does not touch the buffer. -/
theorem Streams.finish (streams : state.Streams) (thread : Nat) (hasData : Bool) :
    (state.finish callback thread hasData).Streams := by
  unfold WriteState.finish
  split
  · exact streams
  · exact streams

/-- Every step keeps the stream. -/
theorem Streams.step (streams : state.Streams) (stepped : state.step callback event = some next) :
    next.Streams := by
  rcases step_cases stepped with ⟨thread, pData, -, -, -, rfl⟩ | ⟨thread, -, -, -, rfl⟩ |
    ⟨thread, -, -, -, -, rfl⟩ | ⟨thread, answer, -, -, -, -, passed⟩ |
    ⟨thread, hasData, -, -, -, rfl⟩
  · exact streams.write thread pData
  · exact streams
  · exact streams
  · exact streams.sendPass passed
  · exact streams.finish thread hasData

/-- The stream in every reachable state. -/
theorem streams_of_reachable {owner : σ} {memory : SizedBytes writeBufMaxSize}
    (reachable : (writeSystem callback owner memory).Reachable state) : state.Streams :=
  reachable.invariant rfl fun _ _ _ streams stepped => streams.step stepped

/-- A thread that is not in the critical section of `Write` only adds to what has been taken. -/
theorem taken_of_step (stepped : state.step callback event = some next)
    (notWrite : ∀ thread pData, event ≠ .write thread pData) :
    state.taken <+: next.taken ∧ next.writes = state.writes := by
  rcases step_cases stepped with ⟨thread, pData, rfl, -, -, -⟩ | ⟨thread, -, -, -, rfl⟩ |
    ⟨thread, -, -, -, -, rfl⟩ | ⟨thread, answer, -, -, -, -, passed⟩ |
    ⟨thread, hasData, -, -, -, rfl⟩
  · exact absurd rfl (notWrite thread pData)
  · exact ⟨List.prefix_rfl, rfl⟩
  · exact ⟨List.prefix_rfl, rfl⟩
  · rcases sendPass_cases passed with ⟨-, rfl⟩ | ⟨overCount, taken, -, -, -, rfl⟩ | ⟨-, rfl⟩ | ⟨-, rfl⟩
    · exact ⟨List.prefix_append _ _, rfl⟩
    · exact ⟨List.prefix_append _ _, rfl⟩
    · exact ⟨List.prefix_rfl, rfl⟩
    · exact ⟨List.prefix_rfl, rfl⟩
  · unfold WriteState.finish
    split
    · exact ⟨List.prefix_rfl, rfl⟩
    · exact ⟨List.prefix_rfl, rfl⟩

/-- For any number of threads and any answers of the kernel: in every reachable state
the bytes `send` has taken, followed by what is in the buffer, are the payloads of the
calls of `Write` that found room, in the order of their critical sections; the buffer
stays within its block; and a call that finds no room changes neither. -/
theorem writeBuffer_preserves_stream {owner : σ} {memory : SizedBytes writeBufMaxSize}
    (reachable : (writeSystem callback owner memory).Reachable state) :
    state.taken ++ state.buffer.content = acceptedBytes state.writes ∧
      0 ≤ (state.buffer.used : Int) ∧ (state.buffer.used : Int) ≤ writeBufMaxSize ∧
      ∀ thread pData next, state.step callback (.write thread pData) = some next →
        (pData.length : Int) > writeBufMaxSize - state.buffer.used →
        next.buffer = state.buffer ∧ next.taken = state.taken ∧
          acceptedBytes next.writes = acceptedBytes state.writes := by
  refine ⟨streams_of_reachable reachable, Int.natCast_nonneg _,
    Int.ofNat_le.mpr state.buffer.inside, ?_⟩
  intro thread pData next stepped full
  simp only [WriteState.step] at stepped
  split at stepped
  · obtain rfl := Option.some.inj stepped
    rw [write_of_full full]
    simp [acceptedBytes]
  · cases stepped

/-! ## The critical section of `Send` -/

/-- A thread is inside `Send` exactly when it holds `m_MutexWrite`. -/
def Exclusive (state : WriteState σ) : Prop :=
  ∀ thread, (state.threads thread).insideSend = true ↔ state.mutexWrite = some thread

/-- A thread that holds the mutex, or finds it free, may go on and keep or leave it. -/
theorem Exclusive.move (exclusive : state.Exclusive) {thread : Nat} {call : WriteCall}
    {mutexWrite : Option Nat} (held : state.mutexWrite = none ∨ state.mutexWrite = some thread)
    (mine : mutexWrite = none ∨ mutexWrite = some thread)
    (own : call.insideSend = true ↔ mutexWrite = some thread) :
    Exclusive { state.goto thread call with mutexWrite } := by
  intro other
  by_cases same : other = thread
  · subst same
    simpa [goto] using own
  · have wasOutside : ¬ (state.threads other).insideSend = true := by
      rw [exclusive other]
      rcases held with free | held
      · simp [free]
      · simp [held, Ne.symm same]
    have notOther : mutexWrite ≠ some other := by
      rcases mine with rfl | rfl
      · simp
      · simp [Ne.symm same]
    simpa [goto, Function.update_of_ne same, notOther] using wasOutside

/-- No two threads are inside `Send` at once, whatever step is taken. -/
theorem Exclusive.step (exclusive : state.Exclusive)
    (stepped : state.step callback event = some next) : next.Exclusive := by
  rcases step_cases stepped with ⟨thread, pData, -, free, outside, rfl⟩ | ⟨thread, -, free, -, rfl⟩ |
    ⟨thread, -, held, sending, -, rfl⟩ | ⟨thread, answer, -, held, sending, -, passed⟩ |
    ⟨thread, hasData, -, held, finishing, rfl⟩
  · unfold WriteState.write
    split
    · exact exclusive
    · exact exclusive.move (Or.inl free) (Or.inl free) (by simp [WriteCall.insideSend, goto, free])
  · exact exclusive.move (Or.inl free) (Or.inr rfl) (by simp [WriteCall.insideSend])
  · exact exclusive.move (Or.inr held) (Or.inr held) (by simp [WriteCall.insideSend, held])
  · rcases sendPass_cases passed with ⟨-, rfl⟩ | ⟨overCount, taken, -, -, -, rfl⟩ | ⟨-, rfl⟩ | ⟨-, rfl⟩
    · exact exclusive.move (Or.inr held) (Or.inr held) (by simp [WriteCall.insideSend, goto, held])
    · exact exclusive
    · exact exclusive.move (Or.inr held) (Or.inr held) (by simp [WriteCall.insideSend, held])
    · exact exclusive.move (Or.inr held) (Or.inl rfl) (by simp [WriteCall.insideSend])
  · unfold WriteState.finish
    split
    · exact exclusive.move (Or.inr held) (Or.inl rfl) (by simp [WriteCall.insideSend, unlock])
    · exact exclusive.move (Or.inr held) (Or.inl rfl) (by simp [WriteCall.insideSend])

/-- `m_MutexWrite` keeps `Send` to one thread at a time. -/
theorem exclusive_of_reachable {owner : σ} {memory : SizedBytes writeBufMaxSize}
    (reachable : (writeSystem callback owner memory).Reachable state) : state.Exclusive := by
  refine reachable.invariant ?_ fun _ _ _ exclusive stepped => exclusive.step stepped
  intro thread
  simp [start, WriteCall.insideSend]

/-! ## `Send` as one step -/

/-- Where a thread is once the loop of `Send` has ended so. -/
def callAfter : SendExit → WriteCall
  | .finished => .finishing false
  | .pending => .finishing true
  | .closed => .outside

variable (callback) in
/-- With something in the buffer, the thread that holds the mutex can make a pass. -/
theorem step_send {thread : Nat} (held : state.mutexWrite = some thread)
    (sending : state.threads thread = .sending) (more : state.buffer.content ≠ [])
    (answer : SendAnswer) :
    state.step callback (.send thread answer) = state.sendPass thread answer :=
  if_pos ⟨held, sending, mt (FixedBuffer.content_eq_nil_iff _).mpr more⟩

/-- `send` takes all that is left. -/
theorem sendPass_all {thread : Nat} (more : 0 < state.buffer.used) :
    state.sendPass thread (.accepted state.buffer.used) =
      some { state.goto thread (.finishing false) with
        buffer := state.buffer.clear
        taken := state.taken ++ state.buffer.content } :=
  (dif_pos ⟨more, Nat.le_refl _⟩).trans (if_pos rfl)

/-- `send` takes a part. -/
theorem sendPass_part {thread overCount : Nat}
    (taken : 0 < overCount ∧ overCount ≤ state.buffer.used) (part : state.buffer.used ≠ overCount) :
    state.sendPass thread (.accepted overCount) =
      some { state with
        buffer := state.buffer.discard overCount taken.2
        taken := state.taken ++ state.buffer.content.take overCount } :=
  (dif_pos taken).trans (if_neg part)

/-- The loop of `Send` in the model of the whole server is a sequence of steps of the
thread that holds the mutex. -/
theorem follow_sendLoop {thread : Nat} {answers : List SendAnswer} {rest : List Byte}
    {exit : SendExit} (held : state.mutexWrite = some thread)
    (sending : state.threads thread = .sending)
    (looped : sendLoop state.buffer.content answers = some (rest, exit)) :
    ∃ events next, LabelledSystem.follow (WriteState.step callback) (fun _ _ _ => True) state events =
        some next ∧
      next.buffer.content = rest ∧ next.threads thread = callAfter exit ∧
        next.isWriteing = state.isWriteing := by
  generalize contents : state.buffer.content = content at looped
  fun_induction sendLoop content answers generalizing state with
  | case1 =>
      obtain ⟨rfl, rfl⟩ := Prod.mk.inj (Option.some.inj looped)
      have unused := (FixedBuffer.content_eq_nil_iff _).mp contents
      have drained : state.step callback (.drained thread) =
          some (state.goto thread (.finishing false)) := if_pos ⟨held, sending, unused⟩
      exact ⟨[.drained thread], _, LabelledSystem.follow_single drained trivial, contents,
        Function.update_self .., rfl⟩
  | case3 content taken =>
      obtain ⟨rfl, rfl⟩ := Prod.mk.inj (Option.some.inj looped)
      subst contents
      have passes := step_send callback held sending
        (List.ne_nil_of_length_pos taken.1) (.accepted state.buffer.used)
      rw [FixedBuffer.length_content] at taken
      exact ⟨[.send thread (.accepted state.buffer.used)], _,
        LabelledSystem.follow_single (passes.trans (sendPass_all taken.1)) trivial,
        FixedBuffer.content_clear _, Function.update_self .., rfl⟩
  | case5 content overCount others taken part inductionHypothesis =>
      -- Only here the loop goes round: the rest of the answers meets the rest of the buffer.
      subst contents
      have more := List.ne_nil_of_length_pos (Nat.lt_of_lt_of_le taken.1 taken.2)
      rw [FixedBuffer.length_content] at taken part
      obtain ⟨events, next, followed, result⟩ := @inductionHypothesis
        { state with
          buffer := state.buffer.discard overCount taken.2
          taken := state.taken ++ state.buffer.content.take overCount } held sending
        (FixedBuffer.content_discard _ _ taken.2) looped
      have passes := (step_send callback held sending more _).trans (sendPass_part taken part)
      exact ⟨.send thread (.accepted overCount) :: events, next,
        (LabelledSystem.follow_cons passes trivial).trans followed, result⟩
  | case8 content more =>
      obtain ⟨rfl, rfl⟩ := Prod.mk.inj (Option.some.inj looped)
      have passes := step_send callback held sending (contents.symm ▸ more) .wouldBlock
      exact ⟨[.send thread .wouldBlock], _, LabelledSystem.follow_single passes trivial, contents,
        Function.update_self .., rfl⟩
  | case10 content more =>
      obtain ⟨rfl, rfl⟩ := Prod.mk.inj (Option.some.inj looped)
      have passes := step_send callback held sending (contents.symm ▸ more) .nothing
      exact ⟨[.send thread .nothing], _, LabelledSystem.follow_single passes trivial, contents,
        Function.update_self .., rfl⟩
  | case12 content more =>
      obtain ⟨rfl, rfl⟩ := Prod.mk.inj (Option.some.inj looped)
      have passes := step_send callback held sending (contents.symm ▸ more) .failed
      exact ⟨[.send thread .failed], _, LabelledSystem.follow_single passes trivial, contents,
        Function.update_self .., rfl⟩
  | _ => cases looped

end WriteState

/-- Two threads write, one is in the middle of sending. -/
def twoWriters : List WriteEvent :=
  [.write 0 [1, 2], .write 1 [3], .lock 1, .send 1 (.accepted 2)]

/-- A client's socket after this: `send` has taken the first two of three bytes. -/
theorem twoWriters_stream :
    ∃ state : WriteState Bool,
      (writeSystem clientWriteCallback false (.zeros writeBufMaxSize)).Reachable state ∧
        state.taken = [1, 2] ∧ state.taken ++ state.buffer.content = [1, 2, 3] := by
  have followed : (LabelledSystem.follow (WriteState.step clientWriteCallback)
      (fun _ _ _ => True) (.start false (.zeros writeBufMaxSize)) twoWriters).map
        (fun state => (state.taken, acceptedBytes state.writes)) = some ([1, 2], [1, 2, 3]) := rfl
  obtain ⟨state, ran, contents⟩ := Option.map_eq_some_iff.mp followed
  obtain ⟨taken, accepted⟩ := Prod.mk.inj contents
  have reachable : (writeSystem clientWriteCallback false (.zeros writeBufMaxSize)).Reachable state :=
    ⟨_, LabelledSystem.runs_of_follow ran⟩
  have stream := WriteState.writeBuffer_preserves_stream reachable
  exact ⟨state, reachable, taken, stream.1.trans accepted⟩

end SocketMessage.Server
