import Mathlib.Data.List.Range
import Mathlib.Data.List.Perm.Basic
import SocketMessage.Lib.WorkerPool
import SocketMessage.Server.ThreadPool

/-!
# What the thread pool does with its tasks

The invariants of `ThreadPool` over the queue, the places of the workers, the counter of
free workers and the flag of the destructor, and from them what holds in every run. Its
mutex, its condition variable and its callers put aside, the pool is a `WorkerPool`.
-/

namespace SocketMessage.Server

open SocketMessage.Lib

namespace PoolState

variable {Task : Type} {state next : PoolState Task}

/-! ## The tasks -/

/-- What has been popped and the queue are what has been added, and of the tasks popped
each is with one worker that has yet to call it, or has been called once. -/
structure History (state : PoolState Task) : Prop where
  order : state.added = state.popped ++ state.taskQueue
  withWorker : ∀ place ∈ state.workers, ∀ number task, place.task = some (number, task) →
    state.popped[number]? = some task
  called : ∀ call ∈ state.started, state.popped[call.1]? = some call.2
  once : (state.started.map Prod.fst ++ state.workers.filterMap WorkerAt.carried).Perm
    (List.range state.popped.length)

section History

variable {index : Nat} {place after : WorkerAt Task}

/-- When no worker has a task it has yet to call, every task that was popped has been called. -/
theorem History.called_of_idle (history : state.History)
    (idle : state.workers.filterMap WorkerAt.carried = []) {number : Nat}
    (popped : number < state.popped.length) :
    ∃ task, state.popped[number]? = some task ∧ (number, task) ∈ state.started := by
  have numbered := history.once.mem_iff.mpr (List.mem_range.mpr popped)
  rw [idle, List.append_nil] at numbered
  obtain ⟨⟨_, task⟩, called, rfl⟩ := List.mem_map.mp numbered
  exact ⟨task, history.called _ called, called⟩

/-- Nothing happens to the tasks. -/
theorem History.of_same (history : state.History) (added : next.added = state.added)
    (popped : next.popped = state.popped) (queue : next.taskQueue = state.taskQueue)
    (started : next.started = state.started)
    (carried : (next.workers.filterMap WorkerAt.carried).Perm
      (state.workers.filterMap WorkerAt.carried))
    (tasks : ∀ place ∈ next.workers, ∀ entry, place.task = some entry →
      ∃ before ∈ state.workers, before.task = some entry) : next.History where
  order := by rw [added, popped, queue, history.order]
  withWorker place member number task has := by
    obtain ⟨before, old, same⟩ := tasks place member _ has
    rw [popped]
    exact history.withWorker before old number task same
  called := by
    rw [started, popped]
    exact history.called
  once := by
    rw [started, popped]
    exact (List.Perm.append_left _ carried).trans history.once

/-- A worker goes on without a change to its task. -/
theorem History.work_step (history : state.History) (found : state.workers[index]? = some place)
    (workers : next.workers = state.workers.set index after)
    (carried : after.carried = place.carried)
    (task : after.task = none ∨ after.task = place.task) (added : next.added = state.added)
    (popped : next.popped = state.popped) (queue : next.taskQueue = state.taskQueue)
    (started : next.started = state.started) : next.History := by
  refine history.of_same added popped queue started ?_ ?_
  · have changed := perm_filterMap_set found WorkerAt.carried after
    rw [carried] at changed
    rw [workers]
    exact (List.perm_append_right_iff _).mp changed
  · intro other member entry has
    rw [workers] at member
    rcases mem_set member with rfl | old
    · rcases task with nothing | same
      · rw [nothing] at has
        cases has
      · exact ⟨place, List.mem_of_getElem? found, same ▸ has⟩
    · exact ⟨other, old, has⟩

/-- A task is popped: it gets the next number. -/
theorem History.pop (history : state.History) (found : state.workers[index]? = some .sawTask)
    {task : Task} {rest : List Task} (front : state.taskQueue = task :: rest) :
    History { state.workerTo index (.taken state.popped.length task) with
      mutex := none, taskQueue := rest, popped := state.popped ++ [task] } := by
  have inside : ∀ {number : Nat} {other : Task}, state.popped[number]? = some other →
      (state.popped ++ [task])[number]? = some other := by
    intro number other old
    rw [List.getElem?_append_left (List.getElem?_eq_some_iff.mp old).1, old]
  refine ⟨?_, ?_, fun call member => inside (history.called call member), ?_⟩
  · simp [workerTo, history.order, front]
  · intro other member number otherTask has
    rcases mem_set member with rfl | old
    · obtain ⟨rfl, rfl⟩ := Prod.mk.inj (Option.some.inj has)
      simp
    · exact inside (history.withWorker other old number otherTask has)
  · have changed := perm_filterMap_set found WorkerAt.carried (.taken state.popped.length task)
    simp only [WorkerAt.carried, Option.toList_none, Option.toList_some, List.append_nil] at changed
    simp only [workerTo, List.length_append, List.length_singleton, List.range_succ]
    refine (List.Perm.append_left _ changed).trans ?_
    rw [← List.append_assoc]
    exact history.once.append_right _

/-- A task is called. -/
theorem History.start (history : state.History) {number : Nat} {task : Task}
    (found : state.workers[index]? = some (.counted number task)) :
    History { state.workerTo index (.running number task) with
      started := state.started ++ [(number, task)] } := by
  have own := history.withWorker _ (List.mem_of_getElem? found) number task rfl
  refine ⟨history.order, ?_, ?_, ?_⟩
  · intro other member otherNumber otherTask has
    rcases mem_set member with rfl | old
    · obtain ⟨rfl, rfl⟩ := Prod.mk.inj (Option.some.inj has)
      exact own
    · exact history.withWorker other old otherNumber otherTask has
  · intro call member
    rcases List.mem_append.mp member with old | new
    · exact history.called call old
    · obtain rfl := List.mem_singleton.mp new
      exact own
  · have changed := perm_filterMap_set found WorkerAt.carried (.running number task)
    simp only [WorkerAt.carried, Option.toList_none, Option.toList_some, List.append_nil] at changed
    simp only [workerTo, List.map_append, List.map_cons, List.map_nil, List.append_assoc]
    refine List.Perm.trans (List.Perm.append_left _ ?_) history.once
    exact List.perm_append_comm.trans changed

/-- Every step of a worker keeps the history. -/
theorem History.works (history : state.History) (found : state.workers[index]? = some place)
    (works : state.Works index place next) : next.History := by
  cases works with
  | lock wants _ =>
      rcases wants with rfl | rfl <;>
        exact history.work_step found rfl rfl (Or.inl rfl) rfl rfl rfl rfl
  | pop front => exact history.pop found front
  | start => exact history.start found
  | count => exact history.work_step found rfl rfl (Or.inr rfl) rfl rfl rfl rfl
  | _ => exact history.work_step found rfl rfl (Or.inl rfl) rfl rfl rfl rfl

/-- Every step keeps the history. -/
theorem History.moves {label : PoolLabel Task} (history : state.History)
    (moves : state.Moves label next) : next.History := by
  have notified : History state.notifyAll := by
    refine history.of_same rfl rfl rfl rfl ?_ ?_
    · rw [notifyAll, List.filterMap_map]
      simp only [Function.comp_def, WorkerAt.carried_notified]
      exact .refl _
    · intro place member entry has
      obtain ⟨before, old, rfl⟩ := List.mem_map.mp member
      exact ⟨before, old, by rwa [WorkerAt.task_notified] at has⟩
  cases moves with
  | push _ =>
      refine ⟨?_, history.withWorker, history.called, history.once⟩
      simp [callerTo, history.order]
  | work found works => exact history.works found works
  | wake blocked => exact history.work_step blocked rfl rfl (Or.inl rfl) rfl rfl rfl rfl
  | notify _ | destoryNotify _ =>
      exact ⟨notified.order, notified.withWorker, notified.called, notified.once⟩
  | _ => exact ⟨history.order, history.withWorker, history.called, history.once⟩

end History

/-! ## The counter of free workers -/

/-- The counter says how many workers have not counted themselves busy. -/
structure Counted (state : PoolState Task) : Prop where
  positive : 0 < state.count
  small : state.count < 2 ^ 31
  workers : state.workers.length = state.count
  free : state.availableThreadCount = state.count - state.workers.countP WorkerAt.busy

section Counted

variable {index : Nat} {place after : WorkerAt Task}

/-- The counter is between none and all. -/
theorem Counted.bounds (counted : state.Counted) :
    0 ≤ state.availableThreadCount ∧ state.availableThreadCount ≤ state.count := by
  have most := @List.countP_le_length _ WorkerAt.busy state.workers
  rw [counted.workers] at most
  rw [counted.free]
  omega

/-- A worker goes on and counts itself accordingly. -/
theorem Counted.work_step (counted : state.Counted) (found : state.workers[index]? = some place)
    (workers : next.workers = state.workers.set index after) (count : next.count = state.count)
    (free : next.availableThreadCount = int32 (state.availableThreadCount +
      ((if place.busy then 1 else 0) - (if after.busy then 1 else 0) : Int))) : next.Counted := by
  have changed := countP_set_add found WorkerAt.busy after
  have length : (state.workers.set index after).length = state.count := by
    rw [List.length_set, counted.workers]
  have most := @List.countP_le_length _ WorkerAt.busy (state.workers.set index after)
  rw [length] at most
  have small := counted.small
  have exact_free : state.availableThreadCount +
      ((if place.busy then 1 else 0) - (if after.busy then 1 else 0) : Int) =
        state.count - (state.workers.set index after).countP WorkerAt.busy := by
    rw [counted.free]
    split <;> split <;> simp_all <;> omega
  refine ⟨count ▸ counted.positive, count ▸ counted.small, ?_, ?_⟩
  · rw [workers, count, length]
  · rw [free, exact_free, workers, count]
    apply int32_eq_self <;> omega

/-- A worker goes on without counting itself. -/
theorem Counted.keep (counted : state.Counted) (found : state.workers[index]? = some place)
    (workers : next.workers = state.workers.set index after) (count : next.count = state.count)
    (busy : after.busy = place.busy)
    (free : next.availableThreadCount = state.availableThreadCount) : next.Counted := by
  have bounds := counted.bounds
  have small := counted.small
  refine counted.work_step found workers count ?_
  rw [free, busy, Int.sub_self, Int.add_zero, int32_eq_self] <;> omega

/-- Every step of a worker keeps the counter right. -/
theorem Counted.works (counted : state.Counted) (found : state.workers[index]? = some place)
    (works : state.Works index place next) : next.Counted := by
  cases works with
  | lock wants _ => rcases wants with rfl | rfl <;> exact counted.keep found rfl rfl rfl rfl
  | count => exact counted.work_step found rfl rfl rfl
  | uncount => exact counted.work_step found rfl rfl rfl
  | _ => exact counted.keep found rfl rfl rfl rfl

/-- Every step keeps the counter right. -/
theorem Counted.moves {label : PoolLabel Task} (counted : state.Counted)
    (moves : state.Moves label next) : next.Counted := by
  have notified : Counted state.notifyAll := by
    refine ⟨counted.positive, counted.small, ?_, ?_⟩
    · simp [notifyAll, counted.workers]
    · simp only [notifyAll, List.countP_map, Function.comp_def, WorkerAt.busy_notified]
      exact counted.free
  cases moves with
  | work found works => exact counted.works found works
  | wake blocked => exact counted.keep blocked rfl rfl rfl rfl
  | notify _ | destoryNotify _ =>
      exact ⟨notified.positive, notified.small, notified.workers, notified.free⟩
  | _ => exact ⟨counted.positive, counted.small, counted.workers, counted.free⟩

end Counted

/-! ## The end -/

/-- A worker is back from `Work` only after the destructor has begun and all tasks added
before that have been popped. -/
structure Ended (state : PoolState Task) : Prop where
  begun : state.addedBefore.isSome = state.isDestory
  before : ∀ count, state.addedBefore = some count → count ≤ state.added.length
  returned : .returned ∈ state.workers →
    state.isDestory = true ∧ ∀ count, state.addedBefore = some count → count ≤ state.popped.length

section Ended

variable {index : Nat} {place after : WorkerAt Task}

/-- Nobody comes back from `Work`. -/
theorem Ended.of_same (ended : state.Ended) (added : state.added <+: next.added)
    (popped : state.popped <+: next.popped) (isDestory : next.isDestory = state.isDestory)
    (addedBefore : next.addedBefore = state.addedBefore)
    (workers : .returned ∈ next.workers → .returned ∈ state.workers) : next.Ended where
  begun := by rw [addedBefore, isDestory, ended.begun]
  before count was := by
    rw [addedBefore] at was
    exact Nat.le_trans (ended.before count was) added.length_le
  returned member := by
    obtain ⟨destroyed, all⟩ := ended.returned (workers member)
    refine ⟨isDestory.trans destroyed, fun count was => ?_⟩
    rw [addedBefore] at was
    exact Nat.le_trans (all count was) popped.length_le

/-- Where a worker that goes on cannot be back, nobody comes back. -/
theorem mem_returned_of_set (elsewhere : after ≠ .returned)
    (member : .returned ∈ state.workers.set index after) : .returned ∈ state.workers :=
  (mem_set member).resolve_left fun same => elsewhere same.symm

/-- Every step of a worker. -/
theorem Ended.works (ended : state.Ended) (excluded : state.Excluded) (history : state.History)
    (found : state.workers[index]? = some place) (works : state.Works index place next) :
    next.Ended := by
  have kept : ∀ next : PoolState Task, next.added = state.added →
      state.popped <+: next.popped → next.isDestory = state.isDestory →
      next.addedBefore = state.addedBefore → ∀ after : WorkerAt Task, after ≠ .returned →
      next.workers = state.workers.set index after → next.Ended := by
    intro next added popped isDestory addedBefore after elsewhere workers
    refine ended.of_same (added ▸ List.prefix_refl _) popped isDestory addedBefore ?_
    rw [workers]
    exact mem_returned_of_set elsewhere
  cases works with
  | finish destroyed =>
      have nothing := excluded.empty (List.mem_of_getElem? found)
      refine ⟨ended.begun, ended.before, fun _ => ⟨destroyed, fun count was => ?_⟩⟩
      have all := ended.before count was
      rwa [history.order, nothing, List.append_nil] at all
  | pop _ => exact kept _ rfl (List.prefix_append _ _) rfl rfl _ (by simp) rfl
  | _ => exact kept _ rfl (List.prefix_refl _) rfl rfl _ (by simp) rfl

/-- Every step. -/
theorem Ended.moves {label : PoolLabel Task} (ended : state.Ended) (excluded : state.Excluded)
    (history : state.History) (moves : state.Moves label next) : next.Ended := by
  have unnotified : .returned ∈ state.workers.map WorkerAt.notified → .returned ∈ state.workers := by
    intro member
    obtain ⟨before, old, same⟩ := List.mem_map.mp member
    cases before with
    | returned => exact old
    | _ => cases same
  cases moves with
  | push _ =>
      exact ended.of_same (List.prefix_append _ _) (List.prefix_refl _) rfl rfl id
  | work found works => exact ended.works excluded history found works
  | wake _ =>
      exact ended.of_same (List.prefix_refl _) (List.prefix_refl _) rfl rfl
        (mem_returned_of_set (by simp))
  | notify _ =>
      exact ended.of_same (List.prefix_refl _) (List.prefix_refl _) rfl rfl unnotified
  | destoryNotify _ =>
      exact ended.of_same (List.prefix_refl _) (List.prefix_refl _) rfl rfl unnotified
  | destory alive =>
      refine ⟨rfl, ?_, ?_⟩
      · intro count was
        obtain rfl := Option.some.inj was
        exact Nat.le_refl _
      · intro member
        have destroyed := (ended.returned member).1
        rw [alive] at destroyed
        cases destroyed
  | _ => exact ended.of_same (List.prefix_refl _) (List.prefix_refl _) rfl rfl id

end Ended

/-! ## The pool without its threads -/

/-- The task a worker works on. -/
def working (place : WorkerAt Task) : Option Task := place.task.map Prod.snd

/-- The queue, and the tasks worked on in the order of some such pool. -/
structure Refines (state : PoolState Task) (pool : WorkerPool Task) : Prop where
  queue : pool.queue = state.taskQueue
  running : pool.running.Perm (state.workers.filterMap working)

section Refines

variable {pool : WorkerPool Task} {index : Nat} {place after : WorkerAt Task}

/-- A worker goes on with the same task or none. -/
theorem Refines.work_step (refines : state.Refines pool)
    (found : state.workers[index]? = some place)
    (workers : next.workers = state.workers.set index after)
    (same : working after = working place) (queue : next.taskQueue = state.taskQueue) :
    next.Refines pool := by
  have changed := perm_filterMap_set found working after
  rw [same] at changed
  refine ⟨by rw [queue, refines.queue], ?_⟩
  rw [workers]
  exact refines.running.trans ((List.perm_append_right_iff _).mp changed).symm

/-- A worker takes the task at the front of the queue. -/
theorem Refines.pop (refines : state.Refines pool) (counted : state.Counted)
    (found : state.workers[index]? = some .sawTask) {number : Nat} {task : Task} {rest : List Task}
    (front : state.taskQueue = task :: rest) (queue : next.taskQueue = rest)
    (workers : next.workers = state.workers.set index (.taken number task)) :
    ∃ pool', next.Refines pool' ∧ (pool' = pool ∨ WorkerPool.Change state.count pool pool') := by
  have changed := perm_filterMap_set found working (.taken number task)
  have withNone : working (.sawTask : WorkerAt Task) = none := rfl
  have withTask : working (.taken number task) = some task := rfl
  rw [withNone, withTask, Option.toList_none, Option.toList_some, List.append_nil] at changed
  have free : pool.running.length < state.count := by
    have most := List.length_filterMap_le working (state.workers.set index (.taken number task))
    rw [changed.length_eq, List.length_set, counted.workers, List.length_append,
      ← refines.running.length_eq] at most
    exact most
  refine ⟨⟨pool.running ++ [task], rest⟩, ⟨queue.symm, ?_⟩, Or.inr (.take ?_)⟩
  · rw [workers]
    exact (refines.running.append_right _).trans changed.symm
  · simp [WorkerPool.take, refines.queue, front, free]

/-- A worker is done with its task. -/
theorem Refines.done (refines : state.Refines pool) {number : Nat} {task : Task}
    (found : state.workers[index]? = some (.running number task))
    (queue : next.taskQueue = state.taskQueue)
    (workers : next.workers = state.workers.set index .behindTask) :
    ∃ pool', next.Refines pool' ∧ (pool' = pool ∨ WorkerPool.Change state.count pool pool') := by
  have changed := perm_filterMap_set found working .behindTask
  have withNone : working (.behindTask : WorkerAt Task) = none := rfl
  have withTask : working (.running number task) = some task := rfl
  rw [withNone, withTask, Option.toList_none, Option.toList_some, List.append_nil] at changed
  have worked : task ∈ pool.running := by
    rw [refines.running.mem_iff, List.mem_filterMap]
    exact ⟨_, List.mem_of_getElem? found, rfl⟩
  obtain ⟨place, inside, there⟩ := List.mem_iff_getElem.mp worked
  have erased := List.getElem_cons_eraseIdx_perm inside
  rw [there] at erased
  refine ⟨pool.finish place, ⟨by rw [queue]; exact refines.queue, ?_⟩, Or.inr (.finish _ _)⟩
  rw [workers]
  refine (List.perm_cons task).mp ?_
  exact erased.trans (refines.running.trans (changed.symm.trans (List.perm_append_singleton ..)))

/-- A step of the pool is one of the pool without its threads, or none. -/
theorem Refines.moves {label : PoolLabel Task} (refines : state.Refines pool)
    (counted : state.Counted) (moves : state.Moves label next) :
    ∃ pool', next.Refines pool' ∧ (pool' = pool ∨ WorkerPool.Change state.count pool pool') := by
  have notified : state.notifyAll.Refines pool := by
    refine ⟨refines.queue, ?_⟩
    simp only [notifyAll, List.filterMap_map, Function.comp_def, working, WorkerAt.task_notified]
    exact refines.running
  cases moves with
  | @push caller task _ =>
      refine ⟨pool.submit task, ⟨?_, refines.running⟩, Or.inr (.submit _ _)⟩
      simp [WorkerPool.submit, refines.queue]
  | work found works =>
      cases works with
      | lock wants _ =>
          rcases wants with rfl | rfl <;>
            exact ⟨pool, refines.work_step found rfl rfl rfl, Or.inl rfl⟩
      | pop front => exact refines.pop counted found front rfl rfl
      | done => exact refines.done found rfl rfl
      | _ => exact ⟨pool, refines.work_step found rfl rfl rfl, Or.inl rfl⟩
  | wake blocked => exact ⟨pool, refines.work_step blocked rfl rfl rfl, Or.inl rfl⟩
  | notify _ | destoryNotify _ => exact ⟨pool, ⟨notified.queue, notified.running⟩, Or.inl rfl⟩
  | _ => exact ⟨pool, ⟨refines.queue, refines.running⟩, Or.inl rfl⟩

end Refines

/-! ## Every run -/

/-- What holds of a pool in every reachable state. -/
structure Correct (state : PoolState Task) : Prop where
  excluded : state.Excluded
  history : state.History
  counted : state.Counted
  ended : state.Ended

/-- A pool that has just been constructed. -/
theorem correct_construct {threadCount : Nat} (constructed : construct threadCount = some state) :
    state.Correct := by
  obtain ⟨small, built⟩ := Option.ite_none_right_eq_some.mp constructed
  obtain rfl := Option.some.inj built
  have positive : 0 < workerCount threadCount := by
    unfold workerCount
    split <;> omega
  have atTop : ∀ place : WorkerAt Task, place ∈ List.replicate (workerCount threadCount) .top →
      place = .top := fun place member => List.eq_of_mem_replicate member
  refine ⟨⟨?_, ?_, ?_⟩, ⟨rfl, ?_, ?_, ?_⟩, ⟨positive, small, List.length_replicate, ?_⟩, rfl, ?_, ?_⟩
  · intro thread holds
    cases thread with
    | worker index =>
        obtain ⟨place, found, locked⟩ := holds
        rw [atTop place (List.mem_of_getElem? found)] at locked
        cases locked
    | caller caller => cases holds
  · exact fun member => by cases atTop _ member
  · exact fun member => by cases atTop _ member
  · intro place member number task has
    rw [atTop place member] at has
    cases has
  · intro call member
    cases member
  · rw [List.filterMap_replicate_of_none rfl]
    exact .refl _
  · rw [List.countP_replicate]
    simp only [WorkerAt.busy, Bool.false_eq_true, if_false]
    rw [int32_eq_self] <;> omega
  · intro count was
    cases was
  · exact fun member => by cases atTop _ member

/-- A pool in every reachable state. -/
theorem correct_of_reachable {threadCount : Nat}
    (reachable : (threadPoolSystem Task threadCount).Reachable state) : state.Correct := by
  obtain ⟨labels, run⟩ := reachable
  refine run.invariant (fun _ constructed => correct_construct constructed) ?_
  intro before label after correct stepped _
  have moves := moves_of_step stepped
  exact ⟨correct.excluded.moves moves, correct.history.moves moves, correct.counted.moves moves,
    correct.ended.moves correct.excluded correct.history moves⟩

/-- The pool does with its tasks what some pool without threads does. -/
theorem refines_of_reachable {threadCount : Nat}
    (reachable : (threadPoolSystem Task threadCount).Reachable state) :
    state.count = workerCount threadCount ∧ ∃ pool, state.Refines pool ∧
      Relation.ReflTransGen (WorkerPool.Change (workerCount threadCount)) .empty pool := by
  obtain ⟨labels, run⟩ := reachable
  induction run with
  | initial constructed =>
      obtain ⟨_, built⟩ := Option.ite_none_right_eq_some.mp constructed
      obtain rfl := Option.some.inj built
      refine ⟨rfl, .empty, ⟨rfl, ?_⟩, .refl⟩
      rw [List.filterMap_replicate_of_none rfl]
      exact .refl _
  | step prior stepped _ inductionHypothesis =>
      obtain ⟨count, pool, refines, changes⟩ := inductionHypothesis
      have moves := moves_of_step stepped
      have counted := (correct_of_reachable prior.reachable).counted
      obtain ⟨pool', refined, same | change⟩ := refines.moves counted moves
      · exact ⟨(count_moves moves).trans count, pool', refined, same ▸ changes⟩
      · rw [count] at change
        exact ⟨(count_moves moves).trans count, pool', refined, changes.tail change⟩

/-- A thread adds two tasks. -/
def addTwo : List (PoolLabel Nat) :=
  [7, 8].flatMap fun task => [.call 3 task, .lock 3, .push 3, .notify 3, .leave 3]

/-- Where a worker goes: it comes back from `Work` only out of the branch of an empty queue,
after the destructor has begun. -/
theorem Works.workers_eq {index : Nat} {place : WorkerAt Task} (works : state.Works index place next) :
    ∃ after, next.workers = state.workers.set index after ∧
      (after = .returned → place = .sawEmpty ∧ state.isDestory = true) := by
  cases works with
  | finish destroyed => exact ⟨_, rfl, fun _ => ⟨rfl, destroyed⟩⟩
  | _ => exact ⟨_, rfl, fun same => by cases same⟩

/-- A worker comes back from `Work` only in a state where the queue is empty and the
destructor has begun. -/
theorem Excluded.returns {label : PoolLabel Task} (excluded : state.Excluded)
    (moves : state.Moves label next) {index : Nat}
    (returned : next.workers[index]? = some .returned)
    (before : state.workers[index]? ≠ some .returned) :
    state.taskQueue = [] ∧ state.isDestory = true := by
  have unnotified : (state.workers.map WorkerAt.notified)[index]? = some WorkerAt.returned →
      state.workers[index]? = some WorkerAt.returned := by
    intro notified
    rw [List.getElem?_map, Option.map_eq_some_iff] at notified
    obtain ⟨place, found, same⟩ := notified
    cases place with
    | returned => exact found
    | _ => cases same
  cases moves with
  | @work workIndex place _ found works =>
      obtain ⟨after, workers, back⟩ := works.workers_eq
      rw [workers] at returned
      by_cases same : workIndex = index
      · subst same
        rw [getElem?_set_self_of_found found] at returned
        obtain ⟨rfl, destroyed⟩ := back (Option.some.inj returned)
        exact ⟨excluded.empty (List.mem_of_getElem? found), destroyed⟩
      · rw [List.getElem?_set_ne same] at returned
        exact absurd returned before
  | @wake wakeIndex blocked =>
      by_cases same : wakeIndex = index
      · subst same
        have woken := returned
        rw [workerTo, getElem?_set_self_of_found blocked] at woken
        cases woken
      · rw [workerTo, List.getElem?_set_ne same] at returned
        exact absurd returned before
  | notify _ => exact absurd (unnotified returned) before
  | destoryNotify _ => exact absurd (unnotified returned) before
  | _ => exact absurd returned before

/-- In every reachable state of a pool with any number of threads: the tasks popped are
the first of those added and the queue holds the rest; no task has been called twice, and
those called were popped; the counter of free workers is between 0 and `m_Count`; a worker
comes back from `Work` only when the queue is empty and the destructor has begun; and
once all workers are back, every task added before the destructor began has been called. -/
theorem runs_every_task_once {threadCount : Nat}
    (reachable : (threadPoolSystem Task threadCount).Reachable state) :
    state.added = state.popped ++ state.taskQueue ∧
      (state.started.map Prod.fst).Nodup ∧
      (∀ call ∈ state.started, state.popped[call.1]? = some call.2) ∧
      (0 ≤ state.availableThreadCount ∧ state.availableThreadCount ≤ state.count) ∧
      (∀ (label : PoolLabel Task) (next : PoolState Task) (index : Nat),
        state.step label = some next → next.workers[index]? = some WorkerAt.returned →
        state.workers[index]? ≠ some WorkerAt.returned →
        state.taskQueue = [] ∧ state.isDestory = true) ∧
      ((∀ place ∈ state.workers, place = .returned) → ∃ count, state.addedBefore = some count ∧
        ∀ number < count, ∃ task, state.added[number]? = some task ∧
          (number, task) ∈ state.started) := by
  obtain ⟨excluded, history, counted, ended⟩ := correct_of_reachable reachable
  refine ⟨history.order, ?_, history.called, counted.bounds, ?_, ?_⟩
  · have numbers := (history.once.nodup_iff).mpr List.nodup_range
    exact (List.nodup_append.mp numbers).1
  · exact fun label next index stepped => excluded.returns (moves_of_step stepped)
  · intro allBack
    have someBack : .returned ∈ state.workers := by
      have positive := counted.positive
      rw [← counted.workers] at positive
      obtain ⟨place, member⟩ := List.exists_mem_of_length_pos positive
      exact allBack place member ▸ member
    obtain ⟨destroyed, allPopped⟩ := ended.returned someBack
    obtain ⟨count, was⟩ := Option.isSome_iff_exists.mp (ended.begun.trans destroyed)
    refine ⟨count, was, fun number below => ?_⟩
    have nobodyCarries : state.workers.filterMap WorkerAt.carried = [] := by
      rw [List.filterMap_eq_nil_iff]
      intro place member
      rw [allBack place member]
      rfl
    have popped : number < state.popped.length := Nat.lt_of_lt_of_le below (allPopped count was)
    obtain ⟨task, was, called⟩ := history.called_of_idle nobodyCarries popped
    refine ⟨task, ?_, called⟩
    rw [history.order, List.getElem?_append_left popped]
    exact was

/-- One thread adds a task while the worker is blocked; the destructor begins before it is
taken; the worker calls it and comes back. -/
def shutdownWithTask : List (PoolLabel Nat) :=
  [.work 0, .work 0, .work 0, .call 3 7, .lock 3, .push 3, .notify 3, .leave 3, .destory] ++
    List.replicate 12 (.work 0)

/-- The one worker of a pool asked for with 0 threads has called the task. -/
theorem shutdownWithTask_called :
    ∃ state : PoolState Nat, (threadPoolSystem Nat 0).Reachable state ∧
      state.workers = [.returned] ∧ state.addedBefore = some 1 ∧ state.started = [(0, 7)] ∧
      ((∀ place ∈ state.workers, place = .returned) → ∃ count, state.addedBefore = some count ∧
        ∀ number < count, ∃ task, state.added[number]? = some task ∧
          (number, task) ∈ state.started) := by
  have followed : ∃ start state : PoolState Nat, construct 0 = some start ∧
      LabelledSystem.follow PoolState.step (fun _ _ _ => True) start shutdownWithTask =
        some state ∧ state.workers = [.returned] ∧ state.addedBefore = some 1 ∧
        state.started = [(0, 7)] := ⟨_, _, rfl, rfl, rfl, rfl, rfl⟩
  obtain ⟨start, state, constructed, ran, workers, before, started⟩ := followed
  have reachable : (threadPoolSystem Nat 0).Reachable state := by
    refine LabelledSystem.Reachable.mono ⟨_, LabelledSystem.runs_of_follow ran⟩ ?_ ?_
    · rintro _ rfl
      exact constructed
    · exact fun _ _ _ stepped => stepped
  obtain ⟨_, _, _, _, _, all⟩ := runs_every_task_once reachable
  exact ⟨state, reachable, workers, before, started, all⟩

end PoolState

end SocketMessage.Server
