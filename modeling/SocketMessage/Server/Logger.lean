import SocketMessage.Lib.Mutex
import SocketMessage.Lib.Transition
import SocketMessage.Server.ThreadPool

/-!
# The logger

`Logger` with `s_Mutex`, its condition variable, the threads in `Log` and the place of its
own thread in `ThreadWork`. Records move from `m_LogVector` into `tempLogVector` under the
mutex and are executed without it. What no code reads is recorded at the end of the state:
the records in the order of their `push_back`, those executed, and what `m_LogVector` held
when `ThreadWork` returned.
-/

namespace SocketMessage.Server

open SocketMessage.Lib

/-- The thread in `ThreadWork`: before it locks; at the condition of `wait`, holding the
mutex; having found it false, before it unlocks and blocks; blocked; woken and about to lock
again; behind `wait`; behind the swap, without the mutex; in the branch of no records;
before the record of this index; back from `ThreadWork`. -/
inductive LoggerAt where
  | top
  | condition
  | waiting
  | blocked
  | woken
  | behindWait
  | swapped
  | sawNothing
  | executing (index : Nat)
  | returned
deriving DecidableEq, Repr

/-- Who holds the mutex. -/
inductive LoggerThread where
  | logger
  | caller (caller : Nat)
deriving DecidableEq, Repr

/-- The fields of `Logger`, the threads, and what has happened. `Log` goes through the same
places as `AddTask`. -/
structure LoggerState (Record : Type) where
  mutex : Option LoggerThread
  logVector : List Record
  tempLogVector : List Record
  isDestory : Bool
  worker : LoggerAt
  callers : Nat → CallerAt Record
  pushed : List Record
  executed : List Record
  left : Option (List Record)
  destoryNotified : Bool

/-- `Log` is called, locks, pushes, notifies, returns; the thread does its next step or wakes
up by itself; the destructor sets the flag, and notifies. -/
inductive LoggerLabel (Record : Type) where
  | call (caller : Nat) (record : Record)
  | lock (caller : Nat)
  | push (caller : Nat)
  | notify (caller : Nat)
  | leave (caller : Nat)
  | work
  | wake
  | destory
  | destoryNotify
deriving DecidableEq, Repr

/-- `notify_one`: only the thread in `ThreadWork` waits. -/
def LoggerAt.notified : LoggerAt → LoggerAt
  | .blocked => .woken
  | place => place

namespace LoggerState

variable {Record : Type}

/-- The constructor. -/
def construct : LoggerState Record where
  mutex := none
  logVector := []
  tempLogVector := []
  isDestory := false
  worker := .top
  callers := fun _ => .outside
  pushed := []
  executed := []
  left := none
  destoryNotified := false

/-- A thread in `Log` goes on. -/
def callerTo (state : LoggerState Record) (caller : Nat) (place : CallerAt Record) :
    LoggerState Record :=
  { state with callers := Function.update state.callers caller place }

/-- The next step in `ThreadWork`. A record is executed by `LogTask`, under the mutex. -/
def work (state : LoggerState Record) : LoggerAt → Option (LoggerState Record)
  | .top | .woken =>
      if state.mutex = none then some { state with worker := .condition, mutex := some .logger }
      else none
  | .condition =>
      if state.logVector ≠ [] ∨ state.isDestory then some { state with worker := .behindWait }
      else some { state with worker := .waiting }
  | .waiting => some { state with worker := .blocked, mutex := none }
  | .behindWait =>
      some { state with
        worker := .swapped, mutex := none
        tempLogVector := state.tempLogVector ++ state.logVector, logVector := [] }
  | .swapped =>
      if state.tempLogVector = [] then some { state with worker := .sawNothing }
      else some { state with worker := .executing 0 }
  | .sawNothing =>
      if state.isDestory then some { state with worker := .returned, left := some state.logVector }
      else some { state with worker := .top }
  | .executing index =>
      match state.tempLogVector[index]? with
      | some record =>
          if state.mutex = none then
            some { state with worker := .executing (index + 1), executed := state.executed ++ [record] }
          else none
      | none => some { state with worker := .top, tempLogVector := [] }
  | .blocked | .returned => none

/-- One step. -/
def step (state : LoggerState Record) : LoggerLabel Record → Option (LoggerState Record)
  | .call caller record =>
      match state.callers caller with
      | .outside => some (state.callerTo caller (.entering record))
      | _ => none
  | .lock caller =>
      match state.callers caller with
      | .entering record =>
          if state.mutex = none then
            some { state.callerTo caller (.locked record) with mutex := some (.caller caller) }
          else none
      | _ => none
  | .push caller =>
      match state.callers caller with
      | .locked record =>
          some { state.callerTo caller .pushed with
            logVector := state.logVector ++ [record], pushed := state.pushed ++ [record] }
      | _ => none
  | .notify caller =>
      match state.callers caller with
      | .pushed => some { state.callerTo caller .notified with worker := state.worker.notified }
      | _ => none
  | .leave caller =>
      match state.callers caller with
      | .notified => some { state.callerTo caller .outside with mutex := none }
      | _ => none
  | .work => state.work state.worker
  | .wake => if state.worker = .blocked then some { state with worker := .woken } else none
  | .destory => if state.isDestory then none else some { state with isDestory := true }
  | .destoryNotify =>
      if state.isDestory ∧ !state.destoryNotified then
        some { state with worker := state.worker.notified, destoryNotified := true }
      else none

end LoggerState

/-- A logger from its constructor on. -/
def loggerSystem (Record : Type) : LabelledSystem (LoggerState Record) (LoggerLabel Record) :=
  .ofStep .construct LoggerState.step

/-! ## What a step can do -/

/-- Between locking and unlocking. -/
def LoggerAt.Holds : LoggerAt → Prop
  | .condition | .waiting | .behindWait => True
  | _ => False

/-- Being woken is nothing the mutex knows of. -/
@[simp] theorem LoggerAt.holds_notified (place : LoggerAt) : place.notified.Holds ↔ place.Holds := by
  cases place <;> rfl

namespace LoggerState

variable {Record : Type} {state next : LoggerState Record} {label : LoggerLabel Record}

/-- What a step can do. -/
inductive Moves (state : LoggerState Record) :
    LoggerLabel Record → LoggerState Record → Prop where
  | call {caller : Nat} {record : Record} (outside : state.callers caller = .outside) :
      Moves state (.call caller record) (state.callerTo caller (.entering record))
  | lock {caller : Nat} {record : Record} (entering : state.callers caller = .entering record)
      (free : state.mutex = none) :
      Moves state (.lock caller)
        { state.callerTo caller (.locked record) with mutex := some (.caller caller) }
  | push {caller : Nat} {record : Record} (locked : state.callers caller = .locked record) :
      Moves state (.push caller)
        { state.callerTo caller .pushed with
          logVector := state.logVector ++ [record], pushed := state.pushed ++ [record] }
  | notify {caller : Nat} (pushed : state.callers caller = .pushed) :
      Moves state (.notify caller)
        { state.callerTo caller .notified with worker := state.worker.notified }
  | leave {caller : Nat} (notified : state.callers caller = .notified) :
      Moves state (.leave caller) { state.callerTo caller .outside with mutex := none }
  | begin (wants : state.worker = .top ∨ state.worker = .woken) (free : state.mutex = none) :
      Moves state .work { state with worker := .condition, mutex := some .logger }
  | pass (place : state.worker = .condition)
      (ready : state.logVector ≠ [] ∨ state.isDestory = true) :
      Moves state .work { state with worker := .behindWait }
  | refuse (place : state.worker = .condition) (quiet : state.isDestory = false) :
      Moves state .work { state with worker := .waiting }
  | block (place : state.worker = .waiting) :
      Moves state .work { state with worker := .blocked, mutex := none }
  | swap (place : state.worker = .behindWait) :
      Moves state .work
        { state with
          worker := .swapped, mutex := none
          tempLogVector := state.tempLogVector ++ state.logVector, logVector := [] }
  | nothing (place : state.worker = .swapped) (empty : state.tempLogVector = []) :
      Moves state .work { state with worker := .sawNothing }
  | start (place : state.worker = .swapped) (some : state.tempLogVector ≠ []) :
      Moves state .work { state with worker := .executing 0 }
  | finish (place : state.worker = .sawNothing) (destroyed : state.isDestory = true) :
      Moves state .work { state with worker := .returned, left := some state.logVector }
  | again (place : state.worker = .sawNothing) (alive : state.isDestory = false) :
      Moves state .work { state with worker := .top }
  | execute {index : Nat} {record : Record} (place : state.worker = .executing index)
      (there : state.tempLogVector[index]? = some record) :
      Moves state .work
        { state with worker := .executing (index + 1), executed := state.executed ++ [record] }
  | clear {index : Nat} (place : state.worker = .executing index)
      (behind : state.tempLogVector[index]? = none) :
      Moves state .work { state with worker := .top, tempLogVector := [] }
  | wake (blocked : state.worker = .blocked) : Moves state .wake { state with worker := .woken }
  | destory : Moves state .destory { state with isDestory := true }
  | destoryNotify (destroyed : state.isDestory = true) :
      Moves state .destoryNotify
        { state with worker := state.worker.notified, destoryNotified := true }

/-- The steps in `ThreadWork`. -/
theorem moves_of_work (worked : state.work state.worker = some next) : state.Moves .work next := by
  unfold work at worked
  split at worked
  · next place =>
    obtain ⟨free, built⟩ := Option.ite_none_right_eq_some.mp worked
    obtain rfl := Option.some.inj built
    exact .begin (Or.inl place) free
  · next place =>
    obtain ⟨free, built⟩ := Option.ite_none_right_eq_some.mp worked
    obtain rfl := Option.some.inj built
    exact .begin (Or.inr place) free
  · next place =>
    split at worked
    · next ready =>
      obtain rfl := Option.some.inj worked
      exact .pass place ready
    · next unready =>
      obtain rfl := Option.some.inj worked
      exact .refuse place (Bool.eq_false_iff.mpr fun destroyed => unready (Or.inr destroyed))
  · next place =>
    obtain rfl := Option.some.inj worked
    exact .block place
  · next place =>
    obtain rfl := Option.some.inj worked
    exact .swap place
  · next place =>
    split at worked
    · next empty =>
      obtain rfl := Option.some.inj worked
      exact .nothing place empty
    · next some =>
      obtain rfl := Option.some.inj worked
      exact .start place some
  · next place =>
    split at worked
    · next destroyed =>
      obtain rfl := Option.some.inj worked
      exact .finish place destroyed
    · next alive =>
      obtain rfl := Option.some.inj worked
      exact .again place (Bool.eq_false_iff.mpr alive)
  · next index place =>
    split at worked
    · next record there =>
      obtain ⟨-, built⟩ := Option.ite_none_right_eq_some.mp worked
      obtain rfl := Option.some.inj built
      exact .execute place there
    · next behind =>
      obtain rfl := Option.some.inj worked
      exact .clear place behind
  · cases worked
  · cases worked

/-- A step is one of these. -/
theorem moves_of_step (stepped : state.step label = some next) : state.Moves label next := by
  unfold step at stepped
  split at stepped
  · split at stepped
    · next outside =>
      obtain rfl := Option.some.inj stepped
      exact .call outside
    · cases stepped
  · split at stepped
    · next entering =>
      obtain ⟨free, built⟩ := Option.ite_none_right_eq_some.mp stepped
      obtain rfl := Option.some.inj built
      exact .lock entering free
    · cases stepped
  · split at stepped
    · next locked =>
      obtain rfl := Option.some.inj stepped
      exact .push locked
    · cases stepped
  · split at stepped
    · next pushed =>
      obtain rfl := Option.some.inj stepped
      exact .notify pushed
    · cases stepped
  · split at stepped
    · next notified =>
      obtain rfl := Option.some.inj stepped
      exact .leave notified
    · cases stepped
  · exact moves_of_work stepped
  · obtain ⟨blocked, built⟩ := Option.ite_none_right_eq_some.mp stepped
    obtain rfl := Option.some.inj built
    exact .wake blocked
  · obtain ⟨-, built⟩ := Option.ite_none_left_eq_some.mp stepped
    obtain rfl := Option.some.inj built
    exact .destory
  · obtain ⟨⟨destroyed, -⟩, built⟩ := Option.ite_none_right_eq_some.mp stepped
    obtain rfl := Option.some.inj built
    exact .destoryNotify destroyed

/-! ## Who holds the mutex -/

/-- A thread is between locking and unlocking. -/
def Holds (state : LoggerState Record) : LoggerThread → Prop
  | .logger => state.worker.Holds
  | .caller caller => (state.callers caller).Holds

/-- Only the thread that holds `s_Mutex` is between locking and unlocking. -/
def Excluded (state : LoggerState Record) : Prop := Alone state.mutex state.Holds

/-- A step of the thread in `ThreadWork` keeps those in `Log` out. -/
theorem Excluded.work_step (excluded : state.Excluded) (callers : next.callers = state.callers)
    (locking : Locking .logger state.mutex state.Holds next.mutex next.Holds) : next.Excluded := by
  refine excluded.step ?_ locking
  intro other different holds
  cases other with
  | logger => exact absurd rfl different
  | caller caller =>
    rw [Holds, callers] at holds
    exact holds

/-- A step of a thread in `Log` keeps the others out. -/
theorem Excluded.call_step (excluded : state.Excluded) {caller : Nat} {place : CallerAt Record}
    (worker : next.worker.Holds ↔ state.worker.Holds)
    (callers : next.callers = Function.update state.callers caller place)
    (locking : Locking (.caller caller) state.mutex state.Holds next.mutex next.Holds) :
    next.Excluded := by
  refine excluded.step ?_ locking
  intro other different holds
  cases other with
  | logger => exact worker.mp holds
  | caller another =>
    have distinct : another ≠ caller := fun same => different (congrArg _ same)
    rw [Holds, callers, Function.update_of_ne distinct] at holds
    exact holds

/-- A thread in `Log` goes on and leaves the mutex alone. -/
theorem Excluded.call_kept (excluded : state.Excluded) {caller : Nat} {place : CallerAt Record}
    (worker : next.worker.Holds ↔ state.worker.Holds)
    (callers : next.callers = Function.update state.callers caller place)
    (mutex : next.mutex = state.mutex) (held : place.Holds → (state.callers caller).Holds) :
    next.Excluded := by
  refine excluded.call_step worker callers (Or.inl ⟨mutex, fun holds => held ?_⟩)
  rw [Holds, callers, Function.update_self] at holds
  exact holds

/-- The thread in `ThreadWork` goes on and leaves the mutex alone. -/
theorem Excluded.work_kept (excluded : state.Excluded) (callers : next.callers = state.callers)
    (mutex : next.mutex = state.mutex) (held : next.worker.Holds → state.worker.Holds) :
    next.Excluded :=
  excluded.work_step callers (Or.inl ⟨mutex, held⟩)

/-- Every step keeps all but the holder of the mutex out. -/
theorem Excluded.moves (excluded : state.Excluded) (moves : state.Moves label next) :
    next.Excluded := by
  cases moves with
  | call => exact excluded.call_kept Iff.rfl rfl rfl nofun
  | lock _ free => exact excluded.call_step Iff.rfl rfl (Or.inr (Or.inl ⟨free, rfl⟩))
  | push locked =>
    refine excluded.call_kept Iff.rfl rfl rfl fun _ => ?_
    rw [locked]
    trivial
  | notify pushed =>
    refine excluded.call_kept (LoggerAt.holds_notified _) rfl rfl fun _ => ?_
    rw [pushed]
    trivial
  | leave notified =>
    refine excluded.call_step Iff.rfl rfl (Or.inr (Or.inr ⟨?_, fun holds => ?_⟩))
    · rw [Holds, notified]
      trivial
    · simp [Holds, callerTo, CallerAt.Holds] at holds
  | begin _ free => exact excluded.work_step rfl (Or.inr (Or.inl ⟨free, rfl⟩))
  | pass place | refuse place =>
    refine excluded.work_kept rfl rfl fun _ => ?_
    rw [place]
    trivial
  | block place | swap place =>
    refine excluded.work_step rfl (Or.inr (Or.inr ⟨?_, nofun⟩))
    rw [Holds, place]
    trivial
  | destory => exact excluded
  | destoryNotify => exact excluded.work_kept rfl rfl (LoggerAt.holds_notified _).mp
  | _ => exact excluded.work_kept rfl rfl nofun

/-- In every reachable state only the thread that holds `s_Mutex` is between locking and
unlocking. -/
theorem excluded_of_reachable (reachable : (loggerSystem Record).Reachable state) :
    state.Excluded := by
  refine reachable.invariant ?_ fun _ _ _ excluded stepped =>
    excluded.moves (moves_of_step stepped)
  intro thread holds
  cases thread <;> cases holds

end LoggerState

end SocketMessage.Server
