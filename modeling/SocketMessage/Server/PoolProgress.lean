import SocketMessage.Lib.Progress
import SocketMessage.Server.PoolTasks

/-!
# Every task is started in the end

Between `AddTask`, the workers and the condition variable no wake-up gets lost. Before the
destructor has begun, however the threads are scheduled, the pool comes to rest, and at rest
every task that has been added has been started, unless all workers are inside of tasks that
do not return, as `EpollWork` does not.
-/

namespace SocketMessage.Server

open SocketMessage.Lib

/-- How many steps a thread has in front of it before `AddTask` returns. -/
def CallerAt.left {Task : Type} : CallerAt Task → Nat
  | .outside => 0
  | .entering _ => 4
  | .locked _ => 3
  | .pushed => 2
  | .notified => 1

/-- How many steps a worker has in front of it until it blocks or takes a task. -/
def WorkerAt.left {Task : Type} : WorkerAt Task → Nat
  | .blocked | .returned => 0
  | .waiting => 1
  | .sawEmpty | .sawTask => 2
  | .behindWait => 3
  | .condition => 4
  | .top | .woken => 5
  | .behindTask => 6
  | .running _ _ => 7
  | .counted _ _ => 8
  | .taken _ _ => 9

/-- The number of the task a worker has popped, until it is done with it. -/
def WorkerAt.number {Task : Type} (place : WorkerAt Task) : Option Nat := place.task.map Prod.fst

@[simp] theorem WorkerAt.number_notified {Task : Type} (place : WorkerAt Task) :
    place.notified.number = place.number := by
  rw [number, task_notified, number]

namespace PoolState

variable {Task : Type} {state next : PoolState Task} {label : PoolLabel Task}

/-! ## No wake-up is lost -/

/-- A worker blocks only with the queue empty, a push is followed by its notification, and
whoever locked the mutex is going to unlock it. -/
structure Alert (state : PoolState Task) : Prop where
  waiting : .waiting ∈ state.workers → state.taskQueue = []
  ready : .behindWait ∈ state.workers → state.taskQueue ≠ [] ∨ state.isDestory = true
  blocked : .blocked ∈ state.workers → state.taskQueue ≠ [] →
    ∃ caller, state.callers caller = .pushed
  held : ∀ thread, state.mutex = some thread → state.Holds thread
  ending : ∀ place ∈ state.workers, place = .sawEmpty ∨ place = .returned → state.isDestory = true

/-- The condition of `wait` is false only with the queue empty. -/
theorem empty_of_refuse {index : Nat} (found : state.workers[index]? = some .condition)
    (stepped : state.step (.work index) = some (state.workerTo index .waiting)) :
    state.taskQueue = [] := by
  by_contra something
  have passes : state.step (.work index) = some (state.workerTo index .behindWait) := by
    simp only [step, found, Option.bind_eq_bind, Option.bind_some, work]
    rw [if_pos (Or.inl something)]
  have same := congrArg PoolState.workers (Option.some.inj (passes.symm.trans stepped))
  have place := congrArg (fun workers => workers[index]?) same
  simp only [workerTo, getElem?_set_self_of_found found] at place
  cases place

section Workers

variable {index : Nat} {place after : WorkerAt Task}

/-- A worker goes on, and leaves the queue alone. -/
theorem Alert.work_step (alert : state.Alert) (found : state.workers[index]? = some place)
    (workers : next.workers = state.workers.set index after)
    (callers : next.callers = state.callers) (queue : next.taskQueue = state.taskQueue)
    (destroyed : next.isDestory = state.isDestory)
    (locks : next.mutex = none ∨ (next.mutex = some (.worker index) ∧ after.Holds) ∨
      (next.mutex = state.mutex ∧ (place.Holds → after.Holds)))
    (waits : after = .waiting ∨ after = .blocked → state.taskQueue = [])
    (goes : after = .behindWait → state.taskQueue ≠ [] ∨ state.isDestory = true)
    (ends : after = .sawEmpty ∨ after = .returned → state.isDestory = true) : next.Alert := by
  have ownNext := holds_worker_iff found workers
  refine ⟨?_, ?_, ?_, ?_, ?_⟩
  · intro member
    rw [queue]
    rcases mem_set (workers ▸ member) with rfl | old
    · exact waits (.inl rfl)
    · exact alert.waiting old
  · intro member
    rw [queue, destroyed]
    rcases mem_set (workers ▸ member) with rfl | old
    · exact goes rfl
    · exact alert.ready old
  · intro member something
    rw [queue] at something
    rw [callers]
    rcases mem_set (workers ▸ member) with rfl | old
    · exact absurd (waits (.inr rfl)) something
    · exact alert.blocked old something
  · intro thread locked
    rcases locks with free | ⟨mine, holds⟩ | ⟨same, still⟩
    · rw [free] at locked
      cases locked
    · obtain rfl := Option.some.inj (mine.symm.trans locked)
      exact ownNext.mpr holds
    · have before := alert.held thread (same ▸ locked)
      by_cases own : thread = .worker index
      · subst own
        obtain ⟨was, there, holds⟩ := before
        obtain rfl := Option.some.inj (found.symm.trans there)
        exact ownNext.mpr (still holds)
      · cases thread with
        | worker other =>
            obtain ⟨was, there, holds⟩ := before
            have otherwise : index ≠ other := fun same => own (same ▸ rfl)
            exact ⟨was, by rwa [workers, List.getElem?_set_ne otherwise], holds⟩
        | caller caller =>
            unfold Holds at before ⊢
            rwa [callers]
  · intro other member
    rw [destroyed]
    rcases mem_set (workers ▸ member) with rfl | old
    · exact ends
    · exact alert.ending other old

/-- The worker that holds the mutex is the only one to hold it, and nobody has pushed. -/
theorem Excluded.alone (excluded : state.Excluded) (found : state.workers[index]? = some place)
    (holds : place.Holds) :
    (∀ other : WorkerAt Task, other.Holds → other ∈ state.workers → other = place) ∧
      ∀ caller, ¬ (state.callers caller).Holds := by
  have own : state.Holds (.worker index) := ⟨place, found, holds⟩
  constructor
  · intro other otherHolds member
    obtain ⟨otherIndex, there⟩ := List.mem_iff_getElem?.mp member
    have same := excluded.unique own
      (show state.Holds (.worker otherIndex) from ⟨other, there, otherHolds⟩)
    obtain rfl := PoolThread.worker.inj same
    exact Option.some.inj (there.symm.trans found)
  · intro caller callerHolds
    cases excluded.unique own (show state.Holds (.caller caller) from callerHolds)

/-- A worker takes a task out of the queue. -/
theorem Alert.pop (alert : state.Alert) (excluded : state.Excluded) {task : Task} {rest : List Task}
    (found : state.workers[index]? = some .sawTask) (front : state.taskQueue = task :: rest) :
    Alert { state.workerTo index (.taken state.popped.length task) with
      mutex := none, taskQueue := rest, popped := state.popped ++ [task] } := by
  obtain ⟨onlyHere, nobodyPushed⟩ := excluded.alone found trivial
  refine ⟨?_, ?_, ?_, nofun, ?_⟩
  · intro member
    rcases mem_set member with same | old
    · cases same
    · cases onlyHere .waiting trivial old
  · intro member
    rcases mem_set member with same | old
    · cases same
    · cases onlyHere .behindWait trivial old
  · intro member _
    rcases mem_set member with same | old
    · cases same
    · obtain ⟨caller, pushed⟩ := alert.blocked old (by rw [front]; exact List.cons_ne_nil _ _)
      exact absurd (show (state.callers caller).Holds by rw [pushed]; trivial) (nobodyPushed caller)
  · intro other member
    rcases mem_set member with rfl | old
    · simp
    · exact alert.ending other old

/-- Every step of a worker keeps this. -/
theorem Alert.works (alert : state.Alert) (excluded : state.Excluded)
    (found : state.workers[index]? = some place) (works : state.Works index place next)
    (stepped : state.step (.work index) = some next) : next.Alert := by
  cases works with
  | lock _ _ =>
      exact alert.work_step found rfl rfl rfl rfl (.inr (.inl ⟨rfl, trivial⟩)) (by simp) (by simp)
        (by simp)
  | pass ready =>
      exact alert.work_step found rfl rfl rfl rfl (.inr (.inr ⟨rfl, fun _ => trivial⟩)) (by simp)
        (fun _ => ready) (by simp)
  | refuse _ =>
      exact alert.work_step found rfl rfl rfl rfl (.inr (.inr ⟨rfl, fun _ => trivial⟩))
        (fun _ => empty_of_refuse found stepped) (by simp) (by simp)
  | block =>
      exact alert.work_step found rfl rfl rfl rfl (.inl rfl)
        (fun _ => alert.waiting (List.mem_of_getElem? found)) (by simp) (by simp)
  | empty nothing =>
      exact alert.work_step found rfl rfl rfl rfl (.inr (.inr ⟨rfl, fun _ => trivial⟩)) (by simp)
        (by simp) (fun _ => (alert.ready (List.mem_of_getElem? found)).resolve_left
          (not_not.mpr nothing))
  | nonempty _ =>
      exact alert.work_step found rfl rfl rfl rfl (.inr (.inr ⟨rfl, fun _ => trivial⟩)) (by simp)
        (by simp) (by simp)
  | finish destroyed =>
      exact alert.work_step found rfl rfl rfl rfl (.inl rfl) (by simp) (by simp) (fun _ => destroyed)
  | again =>
      exact alert.work_step found rfl rfl rfl rfl (.inl rfl) (by simp) (by simp) (by simp)
  | pop front => exact alert.pop excluded found front
  | count =>
      exact alert.work_step found rfl rfl rfl rfl (.inr (.inr ⟨rfl, False.elim⟩)) (by simp)
        (by simp) (by simp)
  | start =>
      exact alert.work_step found rfl rfl rfl rfl (.inr (.inr ⟨rfl, False.elim⟩)) (by simp)
        (by simp) (by simp)
  | done =>
      exact alert.work_step found rfl rfl rfl rfl (.inr (.inr ⟨rfl, False.elim⟩)) (by simp)
        (by simp) (by simp)
  | uncount =>
      exact alert.work_step found rfl rfl rfl rfl (.inr (.inr ⟨rfl, False.elim⟩)) (by simp)
        (by simp) (by simp)

end Workers

section Callers

variable {caller : Nat} {place after : CallerAt Task}

/-- The thread in `AddTask` that holds the mutex is the only one to hold it. -/
theorem Excluded.alone_caller (excluded : state.Excluded) (holds : (state.callers caller).Holds) :
    (∀ other : WorkerAt Task, other.Holds → other ∉ state.workers) ∧
      ∀ other, (state.callers other).Holds → other = caller := by
  have own : state.Holds (.caller caller) := holds
  constructor
  · intro other otherHolds member
    obtain ⟨index, there⟩ := List.mem_iff_getElem?.mp member
    cases excluded.unique own (show state.Holds (.worker index) from ⟨other, there, otherHolds⟩)
  · intro other otherHolds
    exact PoolThread.caller.inj
      (excluded.unique (show state.Holds (.caller other) from otherHolds) own)

/-- Where the holder of the mutex is after a thread has gone on in `AddTask`. -/
theorem held_of_update (held : ∀ thread, state.mutex = some thread → state.Holds thread)
    (found : state.callers caller = place)
    (callers : next.callers = Function.update state.callers caller after)
    (workers : ∀ index, state.Holds (.worker index) → next.Holds (.worker index))
    (locks : next.mutex = none ∨ (next.mutex = some (.caller caller) ∧ after.Holds) ∨
      (next.mutex = state.mutex ∧ (place.Holds → after.Holds)))
    (thread : PoolThread) (locked : next.mutex = some thread) : next.Holds thread := by
  have ownNext : next.Holds (.caller caller) ↔ after.Holds := by simp [Holds, callers]
  rcases locks with free | ⟨mine, holds⟩ | ⟨same, still⟩
  · rw [free] at locked
    cases locked
  · obtain rfl := Option.some.inj (mine.symm.trans locked)
    exact ownNext.mpr holds
  · have before := held thread (same ▸ locked)
    cases thread with
    | worker index => exact workers index before
    | caller other =>
        by_cases own : other = caller
        · subst own
          exact ownNext.mpr (still (found ▸ before))
        · simpa only [Holds, callers, Function.update_of_ne own] using before

/-- A thread goes on in `AddTask`, outside of the part behind the push. -/
theorem Alert.call_step (alert : state.Alert) (found : state.callers caller = place)
    (callers : next.callers = Function.update state.callers caller after)
    (workers : next.workers = state.workers) (queue : next.taskQueue = state.taskQueue)
    (destroyed : next.isDestory = state.isDestory)
    (locks : next.mutex = none ∨ (next.mutex = some (.caller caller) ∧ after.Holds) ∨
      (next.mutex = state.mutex ∧ (place.Holds → after.Holds)))
    (notPushed : .blocked ∈ state.workers → state.taskQueue ≠ [] → place ≠ .pushed) :
    next.Alert := by
  refine ⟨?_, ?_, ?_, ?_, ?_⟩
  · rw [workers, queue]
    exact alert.waiting
  · rw [workers, queue, destroyed]
    exact alert.ready
  · rw [workers, queue]
    intro member something
    obtain ⟨other, pushed⟩ := alert.blocked member something
    have different : other ≠ caller := by
      rintro rfl
      exact notPushed member something (found ▸ pushed)
    exact ⟨other, by rw [callers, Function.update_of_ne different, pushed]⟩
  · refine held_of_update alert.held found callers (fun index holds => ?_) locks
    unfold Holds at holds ⊢
    rwa [workers]
  · rw [workers, destroyed]
    exact alert.ending

/-- A task is pushed. -/
theorem Alert.push (alert : state.Alert) (excluded : state.Excluded) {task : Task}
    (locked : state.callers caller = .locked task) :
    Alert { state.callerTo caller .pushed with
      taskQueue := state.taskQueue ++ [task], added := state.added ++ [task] } := by
  have holds : (state.callers caller).Holds := by rw [locked]; trivial
  obtain ⟨noWorker, _⟩ := excluded.alone_caller holds
  refine ⟨fun member => absurd member (noWorker .waiting trivial), fun _ => .inl (by simp),
    fun _ _ => ⟨caller, Function.update_self ..⟩, ?_, alert.ending⟩
  exact held_of_update alert.held locked rfl (fun _ holds => holds) (.inr (.inr ⟨rfl, fun _ => trivial⟩))

/-- `notify_all` leaves nobody blocked. -/
theorem not_mem_blocked_notified (workers : List (WorkerAt Task)) :
    .blocked ∉ workers.map WorkerAt.notified := by
  intro member
  obtain ⟨before, _, same⟩ := List.mem_map.mp member
  cases before with
  | _ => cases same

theorem mem_ending_of_notified {workers : List (WorkerAt Task)} {place : WorkerAt Task}
    (member : place ∈ workers.map WorkerAt.notified) (ending : place = .sawEmpty ∨ place = .returned) :
    place ∈ workers := by
  obtain ⟨before, old, rfl⟩ := List.mem_map.mp member
  cases before with
  | blocked => simp [WorkerAt.notified] at ending
  | _ => exact old

/-- The blocked workers are notified, by a thread in `AddTask` or by the destructor. -/
theorem Alert.notified (alert : state.Alert)
    (workers : next.workers = state.workers.map WorkerAt.notified)
    (queue : next.taskQueue = state.taskQueue) (destroyed : next.isDestory = state.isDestory)
    (held : ∀ thread, next.mutex = some thread → next.Holds thread) : next.Alert := by
  refine ⟨?_, ?_, ?_, held, ?_⟩
  · rw [workers, queue]
    exact fun member => alert.waiting (mem_of_notified trivial member)
  · rw [workers, queue, destroyed]
    exact fun member => alert.ready (mem_of_notified trivial member)
  · rw [workers]
    exact fun member => absurd member (not_mem_blocked_notified _)
  · rw [workers, destroyed]
    exact fun place member ending => alert.ending place (mem_ending_of_notified member ending) ending

end Callers

/-- Every step keeps this. -/
theorem Alert.step (alert : state.Alert) (excluded : state.Excluded)
    (stepped : state.step label = some next) : next.Alert := by
  cases moves_of_step stepped with
  | call outside =>
      exact alert.call_step outside rfl rfl rfl rfl (.inr (.inr ⟨rfl, False.elim⟩))
        (fun _ _ => by simp)
  | lock entering free =>
      exact alert.call_step entering rfl rfl rfl rfl (.inr (.inl ⟨rfl, trivial⟩)) (fun _ _ => by simp)
  | push locked => exact alert.push excluded locked
  | notify pushed =>
      refine alert.notified rfl rfl rfl ?_
      exact held_of_update alert.held pushed rfl (fun index => (holds_worker_notified rfl index).mpr)
        (.inr (.inr ⟨rfl, fun _ => trivial⟩))
  | leave notified =>
      exact alert.call_step notified rfl rfl rfl rfl (.inl rfl) (fun _ _ => by simp)
  | work found works => exact alert.works excluded found works stepped
  | wake blocked =>
      exact alert.work_step blocked rfl rfl rfl rfl (.inr (.inr ⟨rfl, False.elim⟩)) (by simp)
        (by simp) (by simp)
  | destory _ =>
      exact ⟨alert.waiting, fun _ => .inr rfl, alert.blocked, alert.held, fun _ _ _ => rfl⟩
  | destoryNotify _ =>
      refine alert.notified rfl rfl rfl fun thread locked => ?_
      have before := alert.held thread locked
      cases thread with
      | worker index => exact (holds_worker_notified rfl index).mpr before
      | caller caller => exact before

theorem alert_construct {threadCount : Nat} (constructed : construct threadCount = some state) :
    state.Alert := by
  obtain ⟨_, built⟩ := Option.ite_none_right_eq_some.mp constructed
  obtain rfl := Option.some.inj built
  have atTop : ∀ place : WorkerAt Task, place ∈ List.replicate (workerCount threadCount) .top →
      place = .top := fun place member => List.eq_of_mem_replicate member
  refine ⟨?_, ?_, ?_, ?_, ?_⟩
  · exact fun member => by cases atTop _ member
  · exact fun member => by cases atTop _ member
  · exact fun member => by cases atTop _ member
  · exact fun thread locked => by cases locked
  · intro place member ending
    rw [atTop place member] at ending
    simp at ending

/-! ## Different workers have different tasks -/

/-- A worker goes on with the same task or none. -/
theorem different_of_set {index : Nat} {place after : WorkerAt Task}
    (different : (state.workers.filterMap WorkerAt.number).Nodup)
    (found : state.workers[index]? = some place)
    (same : after.number = place.number ∨ after.number = none) :
    ((state.workers.set index after).filterMap WorkerAt.number).Nodup := by
  have changed := perm_filterMap_set found WorkerAt.number after
  rcases same with same | nothing
  · rw [same] at changed
    exact ((List.perm_append_right_iff _).mp changed).nodup_iff.mpr different
  · rw [nothing, Option.toList_none, List.append_nil] at changed
    exact (List.nodup_append.mp (changed.nodup_iff.mpr different)).1

/-- Every step keeps the numbers apart. -/
theorem different_of_moves (different : (state.workers.filterMap WorkerAt.number).Nodup)
    (history : state.History) (moves : state.Moves label next) :
    (next.workers.filterMap WorkerAt.number).Nodup := by
  have notified : ((state.workers.map WorkerAt.notified).filterMap WorkerAt.number).Nodup := by
    simpa only [List.filterMap_map, Function.comp_def, WorkerAt.number_notified] using different
  cases moves with
  | @work index place _ found works =>
      cases works with
      | lock wants _ =>
          rcases wants with rfl | rfl <;> exact different_of_set different found (.inl rfl)
      | @pop task rest _ =>
          -- The number is new: those of the other workers have been popped before.
          have changed := perm_filterMap_set found WorkerAt.number (.taken state.popped.length task)
          have withNone : (.sawTask : WorkerAt Task).number = none := rfl
          have withTask : (WorkerAt.taken state.popped.length task).number =
              some state.popped.length := rfl
          rw [withNone, withTask, Option.toList_none, Option.toList_some, List.append_nil] at changed
          refine changed.nodup_iff.mpr
            (List.nodup_append.mpr ⟨different, by simp, ?_⟩)
          rintro number member last isLast rfl
          obtain rfl := List.mem_singleton.mp isLast
          obtain ⟨other, there, has⟩ := List.mem_filterMap.mp member
          obtain ⟨⟨_, otherTask⟩, hasTask, rfl⟩ := Option.map_eq_some_iff.mp has
          have popped := history.withWorker other there _ otherTask hasTask
          exact absurd (List.getElem?_eq_some_iff.mp popped).1 (Nat.lt_irrefl _)
      | done => exact different_of_set different found (.inr rfl)
      | _ => exact different_of_set different found (.inl rfl)
  | wake blocked => exact different_of_set different blocked (.inl rfl)
  | notify _ => exact notified
  | destoryNotify _ => exact notified
  | _ => exact different

/-! ## Steps nobody outside has to take -/

/-- The steps of `AddTask` and `Work` themselves: no new call, no wake-up by chance, nothing of
the destructor; and a task comes back only if it is one that does. -/
def internal (returns : Task → Bool) (state : PoolState Task) : PoolLabel Task → Prop
  | .lock _ | .push _ | .notify _ | .leave _ => True
  | .work index => ∀ number task, state.workers[index]? = some (.running number task) → returns task = true
  | .call _ _ | .wake _ | .destory | .destoryNotify => False

/-- One of these steps. -/
def Internal (returns : Task → Bool) (state next : PoolState Task) : Prop :=
  ∃ label, state.internal returns label ∧ state.step label = some next

/-- A pool at rest: nobody is in `AddTask`, every worker is blocked with nothing in the queue or
inside of a task that does not come back, and unless there are at least as many of those as
workers, every task that was added has been started. -/
structure Settled (returns : Task → Bool) (state : PoolState Task) : Prop where
  callers : ∀ caller, state.callers caller = .outside
  workers : ∀ place ∈ state.workers, place = .blocked ∨
    ∃ number task, place = .running number task ∧ returns task = false
  waiting : .blocked ∈ state.workers → state.taskQueue = []
  started : state.added.countP (fun task => !returns task) < state.count →
    ∀ number task, state.added[number]? = some task → (number, task) ∈ state.started

/-- What holds of a pool in use from which no further thread calls `AddTask`. -/
structure InUse (bound : Nat) (state : PoolState Task) : Prop where
  correct : state.Correct
  different : (state.workers.filterMap WorkerAt.number).Nodup
  alert : state.Alert
  alive : state.isDestory = false
  outside : ∀ caller, bound ≤ caller → state.callers caller = .outside

variable {returns : Task → Bool} {bound : Nat}

theorem callers_of_works {index : Nat} {place : WorkerAt Task}
    (works : state.Works index place next) :
    next.callers = state.callers ∧ next.isDestory = state.isDestory := by
  cases works <;> exact ⟨rfl, rfl⟩

/-- An internal step keeps the pool in use, and brings nobody into `AddTask`. -/
theorem InUse.step (inUse : state.InUse bound) (internal : state.Internal returns next) :
    next.InUse bound := by
  obtain ⟨label, allowed, stepped⟩ := internal
  obtain ⟨excluded, history, counted, ended⟩ := inUse.correct
  have moves := moves_of_step stepped
  have correct : next.Correct := ⟨excluded.moves moves, history.moves moves, counted.moves moves,
    ended.moves excluded history moves⟩
  have different := different_of_moves inUse.different history moves
  have alert := inUse.alert.step excluded stepped
  have still : ∀ {caller : Nat} {after : CallerAt Task}, state.callers caller ≠ .outside →
      ∀ other, bound ≤ other → Function.update state.callers caller after other = .outside := by
    intro caller after inside other beyond
    have different : other ≠ caller := by
      rintro rfl
      exact inside (inUse.outside other beyond)
    rw [Function.update_of_ne different]
    exact inUse.outside other beyond
  cases moves with
  | call _ => cases allowed
  | lock entering _ => exact ⟨correct, different, alert, inUse.alive, still (by rw [entering]; simp)⟩
  | push locked => exact ⟨correct, different, alert, inUse.alive, still (by rw [locked]; simp)⟩
  | notify pushed => exact ⟨correct, different, alert, inUse.alive, still (by rw [pushed]; simp)⟩
  | leave notified => exact ⟨correct, different, alert, inUse.alive, still (by rw [notified]; simp)⟩
  | work found works =>
      obtain ⟨callers, destroyed⟩ := callers_of_works works
      exact ⟨correct, different, alert, destroyed.trans inUse.alive, callers ▸ inUse.outside⟩
  | wake _ => cases allowed
  | destory _ => cases allowed
  | destoryNotify _ => cases allowed

/-- What is left to do: in `AddTask`, and then by the workers with the tasks in the queue. -/
def leftToDo (bound : Nat) (state : PoolState Task) : Nat × Nat :=
  (weigh CallerAt.left ((List.range bound).map state.callers),
    10 * state.taskQueue.length + weigh WorkerAt.left state.workers)

/-- Less in `AddTask`, or as much and less for the workers. -/
abbrev LessToDo : Nat × Nat → Nat × Nat → Prop := Prod.Lex (· < ·) (· < ·)

/-- A thread that goes on in `AddTask` has less left there. -/
theorem InUse.less_of_update (inUse : state.InUse bound) {caller : Nat} {place after : CallerAt Task}
    (found : state.callers caller = place) (inside : place ≠ .outside)
    (callers : next.callers = Function.update state.callers caller after)
    (less : after.left < place.left) : LessToDo (next.leftToDo bound) (state.leftToDo bound) := by
  have below : caller < bound := by
    by_contra beyond
    exact inside (found ▸ inUse.outside caller (Nat.le_of_not_lt beyond))
  have changed := @weigh_update _ CallerAt.left state.callers caller bound below after
  refine Prod.Lex.left _ _ ?_
  rw [callers]
  rw [found] at changed
  omega

/-- A worker that goes on has less left, or takes a task out of the queue. -/
theorem less_of_set {index : Nat} {place after : WorkerAt Task}
    (found : state.workers[index]? = some place)
    (workers : next.workers = state.workers.set index after)
    (callers : next.callers = state.callers)
    (less : 10 * next.taskQueue.length + after.left < 10 * state.taskQueue.length + place.left) :
    LessToDo (next.leftToDo bound) (state.leftToDo bound) := by
  have changed := weigh_set WorkerAt.left found after
  unfold leftToDo
  rw [callers, workers]
  refine Prod.Lex.right _ ?_
  omega

/-- Every internal step leaves less to do. -/
theorem InUse.less (inUse : state.InUse bound) (internal : state.Internal returns next) :
    LessToDo (next.leftToDo bound) (state.leftToDo bound) := by
  obtain ⟨label, allowed, stepped⟩ := internal
  cases moves_of_step stepped with
  | call _ => cases allowed
  | lock entering _ => exact inUse.less_of_update entering (by simp) rfl (by simp [CallerAt.left])
  | push locked => exact inUse.less_of_update locked (by simp) rfl (by simp [CallerAt.left])
  | notify pushed => exact inUse.less_of_update pushed (by simp) rfl (by simp [CallerAt.left])
  | leave notified => exact inUse.less_of_update notified (by simp) rfl (by simp [CallerAt.left])
  | @work index place _ found works =>
      cases works with
      | lock wants _ =>
          refine less_of_set found rfl rfl (Nat.add_lt_add_left ?_ _)
          rcases wants with rfl | rfl <;> simp [WorkerAt.left]
      | again =>
          -- Only the destructor leads here.
          have destroyed := inUse.alert.ending _ (List.mem_of_getElem? found) (.inl rfl)
          rw [inUse.alive] at destroyed
          cases destroyed
      | pop front =>
          refine less_of_set found rfl rfl ?_
          simp only [front, WorkerAt.left, List.length_cons]
          omega
      | _ => exact less_of_set found rfl rfl (Nat.add_lt_add_left (by simp [WorkerAt.left]) _)
  | wake _ => cases allowed
  | destory _ => cases allowed
  | destoryNotify _ => cases allowed

/-! ## At rest -/

/-- Where no internal step is possible, the step function has none. -/
theorem step_of_stuck (stuck : ∀ next, ¬ state.Internal returns next)
    (allowed : state.internal returns label) : state.step label = none := by
  cases stepped : state.step label with
  | none => rfl
  | some next => exact absurd ⟨label, allowed, stepped⟩ (stuck next)

theorem work_of_place {index : Nat} {place : WorkerAt Task}
    (found : state.workers[index]? = some place)
    (stuck : ∀ next, ¬ state.Internal returns next)
    (allowed : ∀ number task, place = .running number task → returns task = true) :
    state.work index place = none := by
  have none := @step_of_stuck _ _ (.work index) _ stuck fun number task same =>
    allowed number task (Option.some.inj (found.symm.trans same))
  simpa only [step, found, Option.bind_eq_bind, Option.bind_some] using none

/-- Whoever holds the mutex can go on. -/
theorem InUse.mutex_free (inUse : state.InUse bound) (stuck : ∀ next, ¬ state.Internal returns next) :
    state.mutex = none := by
  cases locked : state.mutex with
  | none => rfl
  | some thread =>
    have holds := inUse.alert.held thread locked
    cases thread with
    | worker index =>
        obtain ⟨place, found, holds⟩ := holds
        have member := List.mem_of_getElem? found
        have quiet := work_of_place found stuck
        cases place with
        | condition =>
            have worked := quiet (by simp)
            simp only [work] at worked
            split at worked <;> cases worked
        | waiting => cases quiet (by simp)
        | behindWait =>
            have worked := quiet (by simp)
            simp only [work] at worked
            split at worked <;> cases worked
        | sawEmpty =>
            have worked := quiet (by simp)
            simp only [work] at worked
            split at worked <;> cases worked
        | sawTask =>
            have worked := quiet (by simp)
            have something := inUse.correct.excluded.nonempty member
            simp only [work] at worked
            split at worked
            · next nothing => exact absurd nothing something
            · cases worked
        | _ => cases holds
    | caller caller =>
        have holds : (state.callers caller).Holds := holds
        cases place : state.callers caller with
        | outside => simp [place, CallerAt.Holds] at holds
        | entering task => simp [place, CallerAt.Holds] at holds
        | locked task =>
            have none := @step_of_stuck _ _ (.push caller) _ stuck trivial
            simp only [PoolState.step, place] at none
            cases none
        | pushed =>
            have none := @step_of_stuck _ _ (.notify caller) _ stuck trivial
            simp only [PoolState.step, place] at none
            cases none
        | notified =>
            have none := @step_of_stuck _ _ (.leave caller) _ stuck trivial
            simp only [PoolState.step, place] at none
            cases none

/-- A pool with fewer tasks that do not come back than workers has a worker that is blocked. -/
theorem InUse.blocked_of_few (inUse : state.InUse bound)
    (workers : ∀ place ∈ state.workers, place = .blocked ∨
      ∃ number task, place = .running number task ∧ returns task = false)
    (few : state.added.countP (fun task => !returns task) < state.count) :
    .blocked ∈ state.workers := by
  by_contra nobody
  have busy : ∀ place ∈ state.workers, ∃ number task, place = .running number task ∧
      returns task = false := fun place member =>
    (workers place member).resolve_left fun blocked => nobody (blocked ▸ member)
  have numbered : (state.workers.filterMap WorkerAt.number).length = state.workers.length := by
    rw [List.length_filterMap_eq_countP, List.countP_eq_length]
    intro place member
    obtain ⟨number, task, rfl, _⟩ := busy place member
    rfl
  have many := @length_le_countP _ state.added (fun task => !returns task) _ inUse.different
    fun number member => by
      obtain ⟨place, there, has⟩ := List.mem_filterMap.mp member
      obtain ⟨_, task, rfl, never⟩ := busy place there
      obtain rfl := Option.some.inj has
      have popped := inUse.correct.history.withWorker _ there _ task rfl
      have inside := (List.getElem?_eq_some_iff.mp popped).1
      refine ⟨task, ?_, by simp [never]⟩
      rw [inUse.correct.history.order, List.getElem?_append_left inside, popped]
  rw [numbered, inUse.correct.counted.workers] at many
  omega

/-- Nobody holds the mutex of a pool without an internal step. -/
theorem InUse.nobody_holds (inUse : state.InUse bound)
    (stuck : ∀ next, ¬ state.Internal returns next) (thread : PoolThread) :
    ¬ state.Holds thread := by
  intro holds
  have locked := inUse.correct.excluded.holder thread holds
  rw [inUse.mutex_free stuck] at locked
  cases locked

/-- Nobody is inside `AddTask` there. -/
theorem InUse.callers_outside (inUse : state.InUse bound)
    (stuck : ∀ next, ¬ state.Internal returns next) (caller : Nat) :
    state.callers caller = .outside := by
  cases place : state.callers caller with
  | outside => rfl
  | entering task =>
      have none := @step_of_stuck _ _ (.lock caller) _ stuck trivial
      simp only [PoolState.step, place, if_pos (inUse.mutex_free stuck)] at none
      cases none
  | _ =>
      have holds : state.Holds (.caller caller) := by simp [Holds, place, CallerAt.Holds]
      exact absurd holds (inUse.nobody_holds stuck _)

/-- A worker is blocked there, or inside a task that does not come back. -/
theorem InUse.workers_resting (inUse : state.InUse bound)
    (stuck : ∀ next, ¬ state.Internal returns next) :
    ∀ place ∈ state.workers, place = .blocked ∨
      ∃ number task, place = .running number task ∧ returns task = false := by
  have free := inUse.mutex_free stuck
  intro place member
  obtain ⟨index, found⟩ := List.mem_iff_getElem?.mp member
  have quiet := work_of_place found stuck
  have notHolding : ¬ place.Holds := fun holds =>
    inUse.nobody_holds stuck (.worker index) ⟨place, found, holds⟩
  cases place with
  | blocked => exact .inl rfl
  | running number task =>
      refine .inr ⟨number, task, rfl, Bool.eq_false_iff.mpr fun comesBack => ?_⟩
      cases quiet (fun otherNumber otherTask same => by
        obtain ⟨rfl, rfl⟩ := WorkerAt.running.inj same
        exact comesBack)
  | top =>
      have worked := quiet (by simp)
      simp only [work, if_pos free] at worked
      cases worked
  | woken =>
      have worked := quiet (by simp)
      simp only [work, if_pos free] at worked
      cases worked
  | returned =>
      have destroyed := inUse.alert.ending _ member (.inr rfl)
      rw [inUse.alive] at destroyed
      cases destroyed
  | taken number task => cases quiet (by simp)
  | counted number task => cases quiet (by simp)
  | behindTask => cases quiet (by simp)
  | _ => exact absurd trivial notHolding

/-- Where every worker rests and nothing is queued, every task has been started. -/
theorem History.started_of_resting (history : state.History)
    (workers : ∀ place ∈ state.workers, place = .blocked ∨
      ∃ number task, place = .running number task ∧ returns task = false)
    (empty : state.taskQueue = []) {number : Nat} {task : Task}
    (added : state.added[number]? = some task) : (number, task) ∈ state.started := by
  have nobodyCarries : state.workers.filterMap WorkerAt.carried = [] := by
    rw [List.filterMap_eq_nil_iff]
    intro place member
    rcases workers place member with rfl | ⟨_, _, rfl, _⟩ <;> rfl
  have order := history.order
  rw [empty, List.append_nil] at order
  rw [order] at added
  have below : number < state.popped.length := (List.getElem?_eq_some_iff.mp added).1
  obtain ⟨other, was, called⟩ := history.called_of_idle nobodyCarries below
  obtain rfl := Option.some.inj (added.symm.trans was)
  exact called

/-- A pool without an internal step is at rest. -/
theorem InUse.settled (inUse : state.InUse bound) (stuck : ∀ next, ¬ state.Internal returns next) :
    state.Settled returns := by
  have callers := inUse.callers_outside stuck
  have workers := inUse.workers_resting stuck
  have waiting : .blocked ∈ state.workers → state.taskQueue = [] := by
    intro blocked
    by_contra something
    obtain ⟨caller, pushed⟩ := inUse.alert.blocked blocked something
    rw [callers caller] at pushed
    cases pushed
  refine ⟨callers, workers, waiting, fun few number task added => ?_⟩
  have empty := waiting (inUse.blocked_of_few workers few)
  exact inUse.correct.history.started_of_resting workers empty added

/-! ## Every schedule -/

theorem alert_of_reachable {threadCount : Nat}
    (reachable : (threadPoolSystem Task threadCount).Reachable state) :
    state.Alert ∧ (state.workers.filterMap WorkerAt.number).Nodup := by
  obtain ⟨labels, run⟩ := reachable
  induction run with
  | initial constructed =>
      refine ⟨alert_construct constructed, ?_⟩
      obtain ⟨_, built⟩ := Option.ite_none_right_eq_some.mp constructed
      obtain rfl := Option.some.inj built
      rw [List.filterMap_replicate_of_none rfl]
      exact List.nodup_nil
  | step prior stepped _ inductionHypothesis =>
      obtain ⟨alert, different⟩ := inductionHypothesis
      have correct := correct_of_reachable prior.reachable
      exact ⟨alert.step correct.excluded stepped,
        different_of_moves different correct.history (moves_of_step stepped)⟩

/-- In a run, only so many threads have called `AddTask`. -/
theorem outside_of_reachable {threadCount : Nat}
    (reachable : (threadPoolSystem Task threadCount).Reachable state) :
    ∃ bound, ∀ caller, bound ≤ caller → state.callers caller = .outside := by
  obtain ⟨labels, run⟩ := reachable
  induction run with
  | initial constructed =>
      obtain ⟨_, built⟩ := Option.ite_none_right_eq_some.mp constructed
      obtain rfl := Option.some.inj built
      exact ⟨0, fun _ _ => rfl⟩
  | @step _ before _ after _ stepped _ inductionHypothesis =>
      obtain ⟨bound, outside⟩ := inductionHypothesis
      have beyond : ∀ {caller : Nat} {place : CallerAt Task}, ∃ larger, ∀ other, larger ≤ other →
          Function.update before.callers caller place other = .outside := by
        intro caller place
        refine ⟨max bound (caller + 1), fun other above => ?_⟩
        rw [Function.update_of_ne (by omega)]
        exact outside other (by omega)
      cases moves_of_step stepped with
      | call _ => exact beyond
      | lock _ _ => exact beyond
      | push _ => exact beyond
      | notify _ => exact beyond
      | leave _ => exact beyond
      | work _ works => exact ⟨bound, (callers_of_works works).1 ▸ outside⟩
      | wake _ => exact ⟨bound, outside⟩
      | destory _ => exact ⟨bound, outside⟩
      | destoryNotify _ => exact ⟨bound, outside⟩

/-- What has been added stays so. -/
theorem added_of_moves (moves : state.Moves label next) : state.added <+: next.added := by
  cases moves with
  | push _ => exact List.prefix_append _ _
  | work _ works => cases works <;> exact List.prefix_rfl
  | _ => exact List.prefix_rfl

/-- From every state a pool can be in before its destructor begins, with any number of threads
in the middle of `AddTask` and `Work`: whichever of them goes on, one after the other and without
any wake-up by chance, the pool comes to rest, and at rest the tasks added have been started. -/
theorem tasks_inevitable {threadCount : Nat} (returns : Task → Bool)
    (reachable : (threadPoolSystem Task threadCount).Reachable state)
    (alive : state.isDestory = false) :
    Inevitable (Internal returns) (fun final => state.added <+: final.added ∧ final.Settled returns)
      state := by
  obtain ⟨bound, outside⟩ := outside_of_reachable reachable
  obtain ⟨alert, different⟩ := alert_of_reachable reachable
  have inUse : state.InUse bound :=
    ⟨correct_of_reachable reachable, different, alert, alive, outside⟩
  refine @inevitable_of_measure _ _ _ _ (fun later => later.InUse bound ∧ state.added <+: later.added)
    LessToDo (WellFounded.prod_lex Nat.lt_wfRel.wf Nat.lt_wfRel.wf) (leftToDo bound) ?_ ?_ ?_ state
    ⟨inUse, List.prefix_rfl⟩
  · rintro before after ⟨inUse, grown⟩ internal
    obtain ⟨label, _, stepped⟩ := id internal
    exact ⟨inUse.step internal, grown.trans (added_of_moves (moves_of_step stepped))⟩
  · exact fun before after holds internal => holds.1.less internal
  · exact fun before holds stuck => ⟨holds.2, holds.1.settled stuck⟩

/-- The only worker is blocked, and a task has been pushed but not yet notified. -/
def pushedToBlocked : List (PoolLabel Nat) :=
  [.work 0, .work 0, .work 0, .call 3 7, .lock 3, .push 3]

theorem pushedToBlocked_settles :
    ∃ state : PoolState Nat, state.workers = [.blocked] ∧ state.taskQueue = [7] ∧
      Inevitable (Internal fun _ => true)
        (fun final => state.added <+: final.added ∧ final.Settled fun _ => true) state := by
  have followed : ∃ start state : PoolState Nat, construct 0 = some start ∧
      LabelledSystem.follow PoolState.step (fun _ _ _ => True) start pushedToBlocked = some state ∧
        state.workers = [.blocked] ∧ state.taskQueue = [7] ∧ state.isDestory = false :=
    ⟨_, _, rfl, rfl, rfl, rfl, rfl⟩
  obtain ⟨start, state, constructed, ran, workers, queue, alive⟩ := followed
  have reachable : (threadPoolSystem Nat 0).Reachable state := by
    refine LabelledSystem.Reachable.mono ⟨_, LabelledSystem.runs_of_follow ran⟩ ?_ ?_
    · rintro _ rfl
      exact constructed
    · exact fun _ _ _ stepped => stepped
  exact ⟨state, workers, queue, tasks_inevitable _ reachable alive⟩

end PoolState

end SocketMessage.Server
