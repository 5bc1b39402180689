import SocketMessage.Lib.Bytes
import SocketMessage.Lib.Mutex
import SocketMessage.Lib.Transition

/-!
# The thread pool

`ThreadPool` with its mutex, its condition variable and the place of every thread in
`Work` and `AddTask`. A step is what a thread does between two points at which another
one can see it; a thread that holds `m_Mutex` shuts out those that want it. The destructor
does not want it, so a worker that finds the condition of `wait` false and one that blocks
are two steps. A blocked worker may wake up at any time.

What no code reads is recorded at the end of the state: the tasks in the order of their
`push`, those popped, those called with their numbers, how many had been added when the
destructor began, and whether it has notified.

Here is what the mutex gives: whoever is between locking and unlocking is alone there.
-/

namespace SocketMessage.Server

open SocketMessage.Lib

/-- The constructor of `ThreadPool` has at least one worker. -/
def workerCount (threadCount : Nat) : Nat := if threadCount < 1 then 1 else threadCount

theorem workerCount_mono {threadCount more : Nat} (enough : threadCount ≤ more) :
    workerCount threadCount ≤ workerCount more := by
  unfold workerCount
  split <;> split <;> omega

/-- A worker in `Work`: before it locks; at the condition of `wait`, holding the mutex;
having found it false, before it unlocks and blocks; blocked; woken and about to lock again;
behind `wait`; in the branch of an empty queue; in the one of a task; with a task it has
popped; having counted itself busy; running the task; behind it; back from `Work`. Tasks
have the number of their `push`. -/
inductive WorkerAt (Task : Type) where
  | top
  | condition
  | waiting
  | blocked
  | woken
  | behindWait
  | sawEmpty
  | sawTask
  | taken (number : Nat) (task : Task)
  | counted (number : Nat) (task : Task)
  | running (number : Nat) (task : Task)
  | behindTask
  | returned
deriving DecidableEq, Repr

/-- A thread in `AddTask`, or not: before it locks, holding the mutex, behind the push,
behind `notify_all`. -/
inductive CallerAt (Task : Type) where
  | outside
  | entering (task : Task)
  | locked (task : Task)
  | pushed
  | notified
deriving DecidableEq, Repr

/-- Who holds the mutex. -/
inductive PoolThread where
  | worker (index : Nat)
  | caller (caller : Nat)
deriving DecidableEq, Repr

/-- The fields of `ThreadPool`, the threads, and what has happened. -/
structure PoolState (Task : Type) where
  count : Nat
  mutex : Option PoolThread
  taskQueue : List Task
  isDestory : Bool
  availableThreadCount : Int
  workers : List (WorkerAt Task)
  callers : Nat → CallerAt Task
  added : List Task
  popped : List Task
  started : List (Nat × Task)
  addedBefore : Option Nat
  destoryNotified : Bool

/-- `AddTask` is called, locks, pushes, notifies, returns; a worker does its next step;
a worker wakes up by itself; the destructor sets the flag, and notifies. -/
inductive PoolLabel (Task : Type) where
  | call (caller : Nat) (task : Task)
  | lock (caller : Nat)
  | push (caller : Nat)
  | notify (caller : Nat)
  | leave (caller : Nat)
  | work (index : Nat)
  | wake (index : Nat)
  | destory
  | destoryNotify
deriving DecidableEq, Repr

/-- `notify_all`: every blocked worker is woken. -/
def WorkerAt.notified {Task : Type} : WorkerAt Task → WorkerAt Task
  | .blocked => .woken
  | at_ => at_

namespace PoolState

variable {Task : Type}

/-- The constructor. The `int` that counts the threads started cannot go beyond
`INT_MAX`. -/
def construct (threadCount : Nat) : Option (PoolState Task) :=
  let count := workerCount threadCount
  if count < 2 ^ 31 then
    some
      { count, mutex := none, taskQueue := [], isDestory := false
        availableThreadCount := int32 count
        workers := List.replicate count .top
        callers := fun _ => .outside
        added := [], popped := [], started := [], addedBefore := none
        destoryNotified := false }
  else none

/-- A worker goes on. -/
def workerTo (state : PoolState Task) (index : Nat) (place : WorkerAt Task) : PoolState Task :=
  { state with workers := state.workers.set index place }

/-- A thread in `AddTask` goes on. -/
def callerTo (state : PoolState Task) (caller : Nat) (place : CallerAt Task) : PoolState Task :=
  { state with callers := Function.update state.callers caller place }

/-- `notify_all`. -/
def notifyAll (state : PoolState Task) : PoolState Task :=
  { state with workers := state.workers.map WorkerAt.notified }

/-- The next step of a worker, from its place in `Work`. `front` of an empty queue is
undefined. -/
def work (state : PoolState Task) (index : Nat) : WorkerAt Task → Option (PoolState Task)
  | .top | .woken =>
      if state.mutex = none then
        some { state.workerTo index .condition with mutex := some (.worker index) }
      else none
  | .condition =>
      if state.taskQueue ≠ [] ∨ state.isDestory then some (state.workerTo index .behindWait)
      else some (state.workerTo index .waiting)
  | .waiting => some { state.workerTo index .blocked with mutex := none }
  | .blocked => none
  | .behindWait =>
      if state.taskQueue = [] then some (state.workerTo index .sawEmpty)
      else some (state.workerTo index .sawTask)
  | .sawEmpty =>
      if state.isDestory then some { state.workerTo index .returned with mutex := none }
      else some { state.workerTo index .top with mutex := none }
  | .sawTask =>
      match state.taskQueue with
      | [] => none
      | task :: rest =>
          some { state.workerTo index (.taken state.popped.length task) with
            mutex := none, taskQueue := rest, popped := state.popped ++ [task] }
  | .taken number task =>
      some { state.workerTo index (.counted number task) with
        availableThreadCount := int32 (state.availableThreadCount - 1) }
  | .counted number task =>
      some { state.workerTo index (.running number task) with
        started := state.started ++ [(number, task)] }
  | .running _ _ => some (state.workerTo index .behindTask)
  | .behindTask =>
      some { state.workerTo index .top with
        availableThreadCount := int32 (state.availableThreadCount + 1) }
  | .returned => none

/-- One step. -/
def step (state : PoolState Task) : PoolLabel Task → Option (PoolState Task)
  | .call caller task =>
      match state.callers caller with
      | .outside => some (state.callerTo caller (.entering task))
      | _ => none
  | .lock caller =>
      match state.callers caller with
      | .entering task =>
          if state.mutex = none then
            some { state.callerTo caller (.locked task) with mutex := some (.caller caller) }
          else none
      | _ => none
  | .push caller =>
      match state.callers caller with
      | .locked task =>
          some { state.callerTo caller .pushed with
            taskQueue := state.taskQueue ++ [task], added := state.added ++ [task] }
      | _ => none
  | .notify caller =>
      match state.callers caller with
      | .pushed => some (state.callerTo caller .notified).notifyAll
      | _ => none
  | .leave caller =>
      match state.callers caller with
      | .notified => some { state.callerTo caller .outside with mutex := none }
      | _ => none
  | .work index => do
      let place ← state.workers[index]?
      state.work index place
  | .wake index =>
      match state.workers[index]? with
      | some .blocked => some (state.workerTo index .woken)
      | _ => none
  | .destory =>
      if state.isDestory then none
      else some { state with isDestory := true, addedBefore := some state.added.length }
  | .destoryNotify =>
      if state.isDestory ∧ !state.destoryNotified then
        some { state.notifyAll with destoryNotified := true }
      else none

end PoolState

/-- A pool from its constructor on. -/
def threadPoolSystem (Task : Type) (threadCount : Nat) :
    LabelledSystem (PoolState Task) (PoolLabel Task) where
  Initial state := PoolState.construct threadCount = some state
  Step state label next := state.step label = some next

/-! ## Who holds the mutex -/

namespace WorkerAt

variable {Task : Type}

/-- Between locking and unlocking. -/
def Holds : WorkerAt Task → Prop
  | .condition | .waiting | .behindWait | .sawEmpty | .sawTask => True
  | _ => False

/-- The number of a task that has been popped and not yet called. -/
def carried : WorkerAt Task → Option Nat
  | .taken number _ | .counted number _ => some number
  | _ => none

/-- The task a worker has popped, until it is done with it. -/
def task : WorkerAt Task → Option (Nat × Task)
  | .taken number task | .counted number task | .running number task => some (number, task)
  | _ => none

/-- Between counting itself busy and counting itself free. -/
def busy : WorkerAt Task → Bool
  | .counted .. | .running .. | .behindTask => true
  | _ => false

@[simp] theorem holds_notified (place : WorkerAt Task) : place.notified.Holds ↔ place.Holds := by
  cases place <;> rfl

@[simp] theorem carried_notified (place : WorkerAt Task) :
    place.notified.carried = place.carried := by
  cases place <;> rfl

@[simp] theorem task_notified (place : WorkerAt Task) : place.notified.task = place.task := by
  cases place <;> rfl

@[simp] theorem busy_notified (place : WorkerAt Task) : place.notified.busy = place.busy := by
  cases place <;> rfl

end WorkerAt

/-- Between locking and unlocking. -/
def CallerAt.Holds {Task : Type} : CallerAt Task → Prop
  | .locked _ | .pushed | .notified => True
  | _ => False

namespace PoolState

variable {Task : Type} {state next : PoolState Task}

/-- A thread is between locking and unlocking. -/
def Holds (state : PoolState Task) : PoolThread → Prop
  | .worker index => ∃ place, state.workers[index]? = some place ∧ place.Holds
  | .caller caller => (state.callers caller).Holds

/-- Only the thread that holds the mutex is between locking and unlocking, and what a
worker has seen of the queue still holds. -/
structure Excluded (state : PoolState Task) : Prop where
  holder : ∀ thread, state.Holds thread → state.mutex = some thread
  empty : .sawEmpty ∈ state.workers → state.taskQueue = []
  nonempty : .sawTask ∈ state.workers → state.taskQueue ≠ []

/-- What a thread does to the mutex: nothing, lock it, or unlock it. -/
def Locks (state next : PoolState Task) (thread : PoolThread) : Prop :=
  (next.mutex = state.mutex ∧ (next.Holds thread → state.Holds thread)) ∨
    (state.mutex = none ∧ next.mutex = some thread) ∨
    (state.Holds thread ∧ ¬ next.Holds thread)

/-- What a step does to the mutex, said of the places of its thread. -/
theorem locks_of_places {thread : PoolThread} {before after : Prop}
    (own : state.Holds thread ↔ before) (ownNext : next.Holds thread ↔ after)
    (locks : (next.mutex = state.mutex ∧ (after → before)) ∨
      (state.mutex = none ∧ next.mutex = some thread) ∨ (before ∧ ¬ after)) :
    state.Locks next thread := by
  rcases locks with ⟨mutex, still⟩ | locked | ⟨held, left⟩
  · exact Or.inl ⟨mutex, fun holds => own.mpr (still (ownNext.mp holds))⟩
  · exact Or.inr (Or.inl locked)
  · exact Or.inr (Or.inr ⟨own.mpr held, fun holds => left (ownNext.mp holds)⟩)

/-- A step of one thread keeps the others out. -/
theorem Excluded.holder_step (excluded : state.Excluded) {thread : PoolThread}
    (others : ∀ other, other ≠ thread → next.Holds other → state.Holds other)
    (locks : state.Locks next thread) (other : PoolThread) (holds : next.Holds other) :
    next.mutex = some other := by
  have alone : Alone state.mutex state.Holds := excluded.holder
  exact alone.step others locks other holds

/-- What a worker's step can do, place by place. -/
inductive Works (state : PoolState Task) (index : Nat) : WorkerAt Task → PoolState Task → Prop where
  | lock {place : WorkerAt Task} (wants : place = .top ∨ place = .woken)
      (free : state.mutex = none) :
      Works state index place
        { state.workerTo index .condition with mutex := some (.worker index) }
  | pass (ready : state.taskQueue ≠ [] ∨ state.isDestory = true) :
      Works state index .condition (state.workerTo index .behindWait)
  | refuse (quiet : state.isDestory = false) :
      Works state index .condition (state.workerTo index .waiting)
  | block : Works state index .waiting { state.workerTo index .blocked with mutex := none }
  | empty (nothing : state.taskQueue = []) :
      Works state index .behindWait (state.workerTo index .sawEmpty)
  | nonempty (something : state.taskQueue ≠ []) :
      Works state index .behindWait (state.workerTo index .sawTask)
  | finish (destroyed : state.isDestory = true) :
      Works state index .sawEmpty { state.workerTo index .returned with mutex := none }
  | again : Works state index .sawEmpty { state.workerTo index .top with mutex := none }
  | pop {task : Task} {rest : List Task} (front : state.taskQueue = task :: rest) :
      Works state index .sawTask
        { state.workerTo index (.taken state.popped.length task) with
          mutex := none, taskQueue := rest, popped := state.popped ++ [task] }
  | count {number : Nat} {task : Task} :
      Works state index (.taken number task)
        { state.workerTo index (.counted number task) with
          availableThreadCount := int32 (state.availableThreadCount - 1) }
  | start {number : Nat} {task : Task} :
      Works state index (.counted number task)
        { state.workerTo index (.running number task) with
          started := state.started ++ [(number, task)] }
  | done {number : Nat} {task : Task} :
      Works state index (.running number task) (state.workerTo index .behindTask)
  | uncount :
      Works state index .behindTask
        { state.workerTo index .top with
          availableThreadCount := int32 (state.availableThreadCount + 1) }

/-- A worker's step is one of these. -/
theorem works_of_work {index : Nat} {place : WorkerAt Task}
    (worked : state.work index place = some next) : state.Works index place next := by
  cases place with
  | top =>
      obtain ⟨free, built⟩ := Option.ite_none_right_eq_some.mp worked
      obtain rfl := Option.some.inj built
      exact .lock (Or.inl rfl) free
  | woken =>
      obtain ⟨free, built⟩ := Option.ite_none_right_eq_some.mp worked
      obtain rfl := Option.some.inj built
      exact .lock (Or.inr rfl) free
  | condition =>
      simp only [work] at worked
      split at worked
      · next ready =>
        obtain rfl := Option.some.inj worked
        exact .pass ready
      · next unready =>
        obtain rfl := Option.some.inj worked
        exact .refuse (Bool.eq_false_iff.mpr fun destroyed => unready (Or.inr destroyed))
  | waiting =>
      obtain rfl := Option.some.inj worked
      exact .block
  | blocked => cases worked
  | behindWait =>
      simp only [work] at worked
      split at worked
      · next nothing =>
        obtain rfl := Option.some.inj worked
        exact .empty nothing
      · next something =>
        obtain rfl := Option.some.inj worked
        exact .nonempty something
  | sawEmpty =>
      simp only [work] at worked
      split at worked
      · next destroyed =>
        obtain rfl := Option.some.inj worked
        exact .finish destroyed
      · obtain rfl := Option.some.inj worked
        exact .again
  | sawTask =>
      simp only [work] at worked
      split at worked
      · cases worked
      · next task rest front =>
        obtain rfl := Option.some.inj worked
        exact .pop front
  | taken number task =>
      obtain rfl := Option.some.inj worked
      exact .count
  | counted number task =>
      obtain rfl := Option.some.inj worked
      exact .start
  | running number task =>
      obtain rfl := Option.some.inj worked
      exact .done
  | behindTask =>
      obtain rfl := Option.some.inj worked
      exact .uncount
  | returned => cases worked

section Workers

variable {index : Nat} {place after : WorkerAt Task}

/-- The place of a worker that goes on. -/
theorem getElem?_set_self_of_found (found : state.workers[index]? = some place) :
    (state.workers.set index after)[index]? = some after := by
  obtain ⟨inside, _⟩ := List.getElem?_eq_some_iff.mp found
  rw [List.getElem?_set_self inside]

/-- A worker that goes on leaves the other threads where they are. -/
theorem holds_of_set (workers : next.workers = state.workers.set index after)
    (callers : next.callers = state.callers) (other : PoolThread)
    (different : other ≠ .worker index) (holds : next.Holds other) : state.Holds other := by
  cases other with
  | worker otherIndex =>
      obtain ⟨otherPlace, found, locked⟩ := holds
      have otherwise : index ≠ otherIndex := fun same => different (same ▸ rfl)
      rw [workers, List.getElem?_set_ne otherwise] at found
      exact ⟨otherPlace, found, locked⟩
  | caller caller =>
      unfold Holds at holds ⊢
      rwa [callers] at holds

/-- Whether a worker that goes on is between locking and unlocking. -/
theorem holds_worker_iff (found : state.workers[index]? = some place)
    (workers : next.workers = state.workers.set index after) :
    next.Holds (.worker index) ↔ after.Holds := by
  simp only [Holds, workers, getElem?_set_self_of_found found, Option.some.injEq,
    exists_eq_left']

/-- Where workers are after one of them has gone on. -/
theorem mem_set {other : WorkerAt Task} (member : other ∈ state.workers.set index after) :
    other = after ∨ other ∈ state.workers := by
  rcases List.mem_or_eq_of_mem_set member with old | new
  · exact Or.inr old
  · exact Or.inl new

/-- Two threads are not between locking and unlocking at once. -/
theorem Excluded.unique (excluded : state.Excluded) {left right : PoolThread}
    (leftHolds : state.Holds left) (rightHolds : state.Holds right) : left = right :=
  Option.some.inj ((excluded.holder left leftHolds).symm.trans (excluded.holder right rightHolds))

/-- A worker that goes on keeps the exclusion, if it changes the queue only between
locking and unlocking, and goes where the queue sends it. -/
theorem Excluded.work_step (excluded : state.Excluded) (found : state.workers[index]? = some place)
    (workers : next.workers = state.workers.set index after)
    (callers : next.callers = state.callers)
    (locks : (next.mutex = state.mutex ∧ (after.Holds → place.Holds)) ∨
      (state.mutex = none ∧ next.mutex = some (.worker index)) ∨ (place.Holds ∧ ¬ after.Holds))
    (queue : next.taskQueue = state.taskQueue ∨ place.Holds)
    (empty : after = .sawEmpty → next.taskQueue = [])
    (nonempty : after = .sawTask → next.taskQueue ≠ []) : next.Excluded := by
  have own : state.Holds (.worker index) ↔ place.Holds := by simp [Holds, found]
  have ownNext := holds_worker_iff found workers
  have others := holds_of_set workers callers
  have kept : ∀ other : WorkerAt Task, other.Holds → other ∈ next.workers → other ≠ after →
      other ∈ state.workers ∧ next.taskQueue = state.taskQueue := by
    intro other holds member notAfter
    obtain ⟨otherIndex, there⟩ := List.mem_iff_getElem?.mp member
    have otherwise : otherIndex ≠ index := by
      rintro rfl
      rw [workers, getElem?_set_self_of_found found] at there
      exact notAfter (Option.some.inj there).symm
    have old : state.workers[otherIndex]? = some other := by
      rwa [workers, List.getElem?_set_ne (Ne.symm otherwise)] at there
    refine ⟨List.mem_of_getElem? old, queue.resolve_right fun placeHolds => ?_⟩
    have same := excluded.unique (own.mpr placeHolds)
      (show state.Holds (.worker otherIndex) from ⟨other, old, holds⟩)
    exact otherwise (PoolThread.worker.inj same).symm
  refine ⟨?_, ?_, ?_⟩
  · exact excluded.holder_step others (locks_of_places own ownNext locks)
  · intro member
    by_cases isAfter : WorkerAt.sawEmpty = after
    · exact empty isAfter.symm
    · obtain ⟨old, same⟩ := kept .sawEmpty trivial member isAfter
      rw [same]
      exact excluded.empty old
  · intro member
    by_cases isAfter : WorkerAt.sawTask = after
    · exact nonempty isAfter.symm
    · obtain ⟨old, same⟩ := kept .sawTask trivial member isAfter
      rw [same]
      exact excluded.nonempty old

/-- Every step of a worker keeps the exclusion. -/
theorem Excluded.works (excluded : state.Excluded) (found : state.workers[index]? = some place)
    (works : state.Works index place next) : next.Excluded := by
  cases works with
  | lock _ free =>
      exact excluded.work_step found rfl rfl (Or.inr (Or.inl ⟨free, rfl⟩)) (Or.inl rfl)
        (by simp) (by simp)
  | pass _ =>
      exact excluded.work_step found rfl rfl (Or.inl ⟨rfl, fun _ => trivial⟩) (Or.inl rfl)
        (by simp) (by simp)
  | refuse _ =>
      exact excluded.work_step found rfl rfl (Or.inl ⟨rfl, fun _ => trivial⟩) (Or.inl rfl)
        (by simp) (by simp)
  | block =>
      exact excluded.work_step found rfl rfl (Or.inr (Or.inr ⟨trivial, id⟩)) (Or.inl rfl)
        (by simp) (by simp)
  | empty nothing =>
      exact excluded.work_step found rfl rfl (Or.inl ⟨rfl, fun _ => trivial⟩) (Or.inl rfl)
        (fun _ => nothing) (by simp)
  | nonempty something =>
      exact excluded.work_step found rfl rfl (Or.inl ⟨rfl, fun _ => trivial⟩) (Or.inl rfl)
        (by simp) (fun _ => something)
  | finish _ =>
      exact excluded.work_step found rfl rfl (Or.inr (Or.inr ⟨trivial, id⟩)) (Or.inl rfl)
        (by simp) (by simp)
  | again =>
      exact excluded.work_step found rfl rfl (Or.inr (Or.inr ⟨trivial, id⟩)) (Or.inl rfl)
        (by simp) (by simp)
  | pop _ =>
      exact excluded.work_step found rfl rfl (Or.inr (Or.inr ⟨trivial, id⟩)) (Or.inr trivial)
        (by simp) (by simp)
  | count =>
      exact excluded.work_step found rfl rfl (Or.inl ⟨rfl, False.elim⟩) (Or.inl rfl)
        (by simp) (by simp)
  | start =>
      exact excluded.work_step found rfl rfl (Or.inl ⟨rfl, False.elim⟩) (Or.inl rfl)
        (by simp) (by simp)
  | done =>
      exact excluded.work_step found rfl rfl (Or.inl ⟨rfl, False.elim⟩) (Or.inl rfl)
        (by simp) (by simp)
  | uncount =>
      exact excluded.work_step found rfl rfl (Or.inl ⟨rfl, False.elim⟩) (Or.inl rfl)
        (by simp) (by simp)

end Workers

section Callers

variable {caller : Nat} {place after : CallerAt Task}

/-- Being woken is nothing the mutex knows of. -/
theorem holds_worker_notified (workers : next.workers = state.workers.map WorkerAt.notified)
    (index : Nat) : next.Holds (.worker index) ↔ state.Holds (.worker index) := by
  simp [Holds, workers]

/-- Workers in the branches of `Work` are not blocked. -/
theorem mem_of_notified {other : WorkerAt Task} (locked : other.Holds)
    (member : other ∈ state.workers.map WorkerAt.notified) : other ∈ state.workers := by
  obtain ⟨before, old, rfl⟩ := List.mem_map.mp member
  cases before with
  | blocked => cases locked
  | _ => exact old

/-- A thread in `AddTask` that goes on keeps the exclusion, if it changes the queue only
between locking and unlocking. -/
theorem Excluded.call_step (excluded : state.Excluded) (found : state.callers caller = place)
    (callers : next.callers = Function.update state.callers caller after)
    (workers : next.workers = state.workers ∨ next.workers = state.workers.map WorkerAt.notified)
    (locks : (next.mutex = state.mutex ∧ (after.Holds → place.Holds)) ∨
      (state.mutex = none ∧ next.mutex = some (.caller caller)) ∨ (place.Holds ∧ ¬ after.Holds))
    (queue : next.taskQueue = state.taskQueue ∨ place.Holds) : next.Excluded := by
  have own : state.Holds (.caller caller) ↔ place.Holds := by simp [Holds, found]
  have ownNext : next.Holds (.caller caller) ↔ after.Holds := by simp [Holds, callers]
  have workersHold : ∀ index, next.Holds (.worker index) → state.Holds (.worker index) := by
    intro index holds
    rcases workers with same | notified
    · unfold Holds at holds ⊢
      rwa [same] at holds
    · exact (holds_worker_notified notified index).mp holds
  have others : ∀ other, other ≠ .caller caller → next.Holds other → state.Holds other := by
    intro other different holds
    cases other with
    | worker index => exact workersHold index holds
    | caller otherCaller =>
        have otherwise : otherCaller ≠ caller := fun same => different (same ▸ rfl)
        simpa only [Holds, callers, Function.update_of_ne otherwise] using holds
  have kept : ∀ other : WorkerAt Task, other.Holds → other ∈ next.workers →
      other ∈ state.workers ∧ next.taskQueue = state.taskQueue := by
    intro other holds member
    have old : other ∈ state.workers := by
      rcases workers with same | notified
      · rwa [same] at member
      · rw [notified] at member
        exact mem_of_notified holds member
    refine ⟨old, queue.resolve_right fun placeHolds => ?_⟩
    obtain ⟨index, there⟩ := List.mem_iff_getElem?.mp old
    have same := excluded.unique (own.mpr placeHolds)
      (show state.Holds (.worker index) from ⟨other, there, holds⟩)
    cases same
  refine ⟨?_, ?_, ?_⟩
  · exact excluded.holder_step others (locks_of_places own ownNext locks)
  · intro member
    obtain ⟨old, same⟩ := kept .sawEmpty trivial member
    rw [same]
    exact excluded.empty old
  · intro member
    obtain ⟨old, same⟩ := kept .sawTask trivial member
    rw [same]
    exact excluded.nonempty old

end Callers

/-- What a step can do. -/
inductive Moves (state : PoolState Task) : PoolLabel Task → PoolState Task → Prop where
  | call {caller : Nat} {task : Task} (outside : state.callers caller = .outside) :
      Moves state (.call caller task) (state.callerTo caller (.entering task))
  | lock {caller : Nat} {task : Task} (entering : state.callers caller = .entering task)
      (free : state.mutex = none) :
      Moves state (.lock caller)
        { state.callerTo caller (.locked task) with mutex := some (.caller caller) }
  | push {caller : Nat} {task : Task} (locked : state.callers caller = .locked task) :
      Moves state (.push caller)
        { state.callerTo caller .pushed with
          taskQueue := state.taskQueue ++ [task], added := state.added ++ [task] }
  | notify {caller : Nat} (pushed : state.callers caller = .pushed) :
      Moves state (.notify caller) (state.callerTo caller .notified).notifyAll
  | leave {caller : Nat} (notified : state.callers caller = .notified) :
      Moves state (.leave caller) { state.callerTo caller .outside with mutex := none }
  | work {index : Nat} {place : WorkerAt Task} {next : PoolState Task}
      (found : state.workers[index]? = some place) (works : state.Works index place next) :
      Moves state (.work index) next
  | wake {index : Nat} (blocked : state.workers[index]? = some .blocked) :
      Moves state (.wake index) (state.workerTo index .woken)
  | destory (alive : state.isDestory = false) :
      Moves state .destory { state with isDestory := true, addedBefore := some state.added.length }
  | destoryNotify (destroyed : state.isDestory = true) :
      Moves state .destoryNotify { state.notifyAll with destoryNotified := true }

/-- A step is one of these. -/
theorem moves_of_step {label : PoolLabel Task} (stepped : state.step label = some next) :
    state.Moves label next := by
  cases label with
  | call caller task =>
      simp only [step] at stepped
      split at stepped
      · next outside =>
        obtain rfl := Option.some.inj stepped
        exact .call outside
      · cases stepped
  | lock caller =>
      simp only [step] at stepped
      split at stepped
      · next task entering =>
        obtain ⟨free, built⟩ := Option.ite_none_right_eq_some.mp stepped
        obtain rfl := Option.some.inj built
        exact .lock entering free
      · cases stepped
  | push caller =>
      simp only [step] at stepped
      split at stepped
      · next task locked =>
        obtain rfl := Option.some.inj stepped
        exact .push locked
      · cases stepped
  | notify caller =>
      simp only [step] at stepped
      split at stepped
      · next pushed =>
        obtain rfl := Option.some.inj stepped
        exact .notify pushed
      · cases stepped
  | leave caller =>
      simp only [step] at stepped
      split at stepped
      · next notified =>
        obtain rfl := Option.some.inj stepped
        exact .leave notified
      · cases stepped
  | work index =>
      obtain ⟨place, found, worked⟩ := Option.bind_eq_some_iff.mp stepped
      exact .work found (works_of_work worked)
  | wake index =>
      simp only [step] at stepped
      split at stepped
      · next blocked =>
        obtain rfl := Option.some.inj stepped
        exact .wake blocked
      · cases stepped
  | destory =>
      simp only [step] at stepped
      split at stepped
      · cases stepped
      · next alive =>
        obtain rfl := Option.some.inj stepped
        exact .destory (Bool.eq_false_iff.mpr alive)
  | destoryNotify =>
      obtain ⟨⟨destroyed, _⟩, built⟩ := Option.ite_none_right_eq_some.mp stepped
      obtain rfl := Option.some.inj built
      exact .destoryNotify destroyed

variable {label : PoolLabel Task}

/-- `m_Count` does not change. -/
theorem count_moves (moves : state.Moves label next) : next.count = state.count := by
  cases moves with
  | work found works => cases works <;> rfl
  | _ => rfl

/-- Every step keeps the exclusion. -/
theorem Excluded.moves (excluded : state.Excluded) (moves : state.Moves label next) :
    next.Excluded := by
  cases moves with
  | call outside =>
      exact excluded.call_step outside rfl (Or.inl rfl) (Or.inl ⟨rfl, False.elim⟩) (Or.inl rfl)
  | lock entering free =>
      exact excluded.call_step entering rfl (Or.inl rfl) (Or.inr (Or.inl ⟨free, rfl⟩)) (Or.inl rfl)
  | push locked =>
      exact excluded.call_step locked rfl (Or.inl rfl) (Or.inl ⟨rfl, fun _ => trivial⟩)
        (Or.inr trivial)
  | notify pushed =>
      exact excluded.call_step pushed rfl (Or.inr rfl) (Or.inl ⟨rfl, fun _ => trivial⟩)
        (Or.inl rfl)
  | leave notified =>
      exact excluded.call_step notified rfl (Or.inl rfl) (Or.inr (Or.inr ⟨trivial, id⟩))
        (Or.inl rfl)
  | work found works => exact excluded.works found works
  | wake blocked =>
      exact excluded.work_step blocked rfl rfl (Or.inl ⟨rfl, False.elim⟩) (Or.inl rfl)
        (by simp) (by simp)
  | destory _ => exact ⟨excluded.holder, excluded.empty, excluded.nonempty⟩
  | destoryNotify _ =>
      refine ⟨?_, ?_, ?_⟩
      · intro thread holds
        cases thread with
        | worker index =>
            exact excluded.holder _ ((holds_worker_notified rfl index).mp holds)
        | caller caller => exact excluded.holder (.caller caller) holds
      · exact fun member => excluded.empty (mem_of_notified trivial member)
      · exact fun member => excluded.nonempty (mem_of_notified trivial member)

end PoolState

end SocketMessage.Server
