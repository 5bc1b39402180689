import SocketMessage.Lib.WaitProtocol
import SocketMessage.Server.Logger

/-!
# The destructors and the threads that wait

`~ThreadPool` and `~Logger` set `m_IsDestory` and notify without the mutex under which the
condition of `wait` is tested. Seen from the condition variable, both classes do the same:
the flag, the threads that wait for it, and the one notification that follows it.
-/

namespace SocketMessage.Server

open SocketMessage.Lib

/-! ## The thread pool -/

/-- A worker, seen from the condition variable. -/
def WorkerAt.waiter {Task : Type} : WorkerAt Task → WaiterAt
  | .waiting => .committed
  | .blocked => .blocked
  | _ => .away

/-- The notification of the destructor. -/
def PoolLabel.notifies {Task : Type} : PoolLabel Task → Bool
  | .destoryNotify => true
  | _ => false

namespace PoolState

variable {Task : Type} {state next : PoolState Task} {label : PoolLabel Task}

/-- The pool, seen from its condition variable. -/
def waits (state : PoolState Task) : WaitState where
  waiters := state.workers.map WorkerAt.waiter
  flag := state.isDestory
  notified := state.destoryNotified

/-- No worker is between a test of the condition that came out false and its block. -/
def Allowed (state : PoolState Task) : PoolLabel Task → Prop
  | .destoryNotify => .waiting ∉ state.workers
  | _ => True

/-- Once the destructor has notified, no worker is blocked or about to block. -/
def Woken (state : PoolState Task) : Prop :=
  state.destoryNotified = true → .waiting ∉ state.workers ∧ .blocked ∉ state.workers

/-- The destructor has notified, nobody else will, and a worker is blocked. -/
def Hung (state : PoolState Task) : Prop :=
  state.destoryNotified = true ∧ (∀ caller, state.callers caller = .outside) ∧
    .blocked ∈ state.workers

/-- A worker is about to block. -/
theorem committed_mem_waits : .committed ∈ state.waits.waiters ↔ .waiting ∈ state.workers := by
  refine List.mem_map.trans ⟨?_, fun member => ⟨_, member, rfl⟩⟩
  rintro ⟨place, member, same⟩
  cases place with
  | waiting => exact member
  | _ => cases same

/-- A worker is blocked. -/
theorem blocked_mem_waits : .blocked ∈ state.waits.waiters ↔ .blocked ∈ state.workers := by
  refine List.mem_map.trans ⟨?_, fun member => ⟨_, member, rfl⟩⟩
  rintro ⟨place, member, same⟩
  cases place with
  | blocked => exact member
  | _ => cases same

/-- `Allowed`, seen from the condition variable. -/
theorem allowed_iff :
    (label.notifies = true → .committed ∉ state.waits.waiters) ↔ state.Allowed label := by
  rw [committed_mem_waits]
  cases label with
  | destoryNotify => exact ⟨fun absent => absent rfl, fun absent _ => absent⟩
  | _ => exact iff_of_true nofun trivial

/-- `Woken`, seen from the condition variable. -/
theorem woken_iff : state.waits.Woken ↔ state.Woken := by
  refine forall_congr' fun _ => ?_
  rw [← committed_mem_waits, ← blocked_mem_waits]
  constructor
  · intro away
    refine ⟨fun member => ?_, fun member => ?_⟩ <;> cases away _ member
  · rintro ⟨notCommitted, notBlocked⟩ waiter member
    cases waiter with
    | away => rfl
    | committed => exact absurd member notCommitted
    | blocked => exact absurd member notBlocked

/-- A worker goes on, seen from the condition variable. -/
theorem waits_set {index : Nat} {after : WorkerAt Task}
    (workers : next.workers = state.workers.set index after)
    (isDestory : next.isDestory = state.isDestory)
    (notified : next.destoryNotified = state.destoryNotified)
    (moves : state.waits.Moves false
      { state.waits with waiters := state.waits.waiters.set index after.waiter }) :
    state.waits.Moves false next.waits := by
  have changed : next.waits =
      { state.waits with waiters := state.waits.waiters.set index after.waiter } := by
    simp only [waits, workers, isDestory, notified, List.map_set]
  rw [changed]
  exact moves

/-- What a worker does, seen from the condition variable. -/
theorem waits_works {index : Nat} {place : WorkerAt Task}
    (found : state.workers[index]? = some place) (works : state.Works index place next) :
    state.waits.Moves false next.waits := by
  cases works with
  | refuse quiet => exact waits_set rfl rfl rfl (.commit index quiet)
  | block =>
    exact waits_set rfl rfl rfl (.block index (committed_mem_waits.mpr (List.mem_of_getElem? found)))
  | _ => exact waits_set rfl rfl rfl (.goOn index)

/-- `notify_all`, seen from the condition variable. -/
theorem map_waiter_notified (workers : List (WorkerAt Task)) :
    (workers.map WorkerAt.notified).map WorkerAt.waiter =
      (workers.map WorkerAt.waiter).map WaiterAt.woken := by
  rw [List.map_map, List.map_map]
  refine List.map_congr_left fun place _ => ?_
  cases place <;> rfl

/-- A step of the pool, seen from its condition variable. -/
theorem waits_moves (moves : state.Moves label next) :
    state.waits.Moves label.notifies next.waits := by
  cases moves with
  | work found works => exact waits_works found works
  | wake => exact waits_set rfl rfl rfl (.goOn _)
  | notify =>
    have changed := map_waiter_notified state.workers
    simp only [waits, notifyAll, callerTo, changed]
    exact .wake
  | destory => exact .set
  | destoryNotify destroyed =>
    have changed := map_waiter_notified state.workers
    simp only [waits, notifyAll, changed]
    exact .notify destroyed
  | _ => exact .stay

/-- Who has been woken is not hung. -/
theorem Woken.not_hung (woken : state.Woken) : ¬ state.Hung := by
  rintro ⟨notified, -, blocked⟩
  exact (woken notified).2 blocked

/-- Every worker of a pool is woken in exactly the runs whose destructor notifies while no
worker is between a test and its block. -/
theorem runs_woken_iff {threadCount : Nat} (labels : List (PoolLabel Task))
    (state : PoolState Task) :
    (threadPoolSystem Task threadCount).Runs (fun state label _ => state.Allowed label) labels
        state ↔
      (threadPoolSystem Task threadCount).Runs (fun _ _ next => next.Woken) labels state := by
  have initial : ∀ state : PoolState Task, construct threadCount = some state →
      state.waits.notified = false := by
    intro state constructed
    obtain ⟨-, built⟩ := Option.ite_none_right_eq_some.mp constructed
    obtain rfl := Option.some.inj built
    rfl
  have exactly := @Lib.runs_woken_iff _ _ (threadPoolSystem Task threadCount) waits
    PoolLabel.notifies initial (fun _ _ _ stepped => waits_moves (moves_of_step stepped)) labels state
  simpa only [allowed_iff, woken_iff] using exactly

/-- A notification that finds a worker about to block, when nobody is in `AddTask`, leaves it
to block for good. -/
theorem hung_of_missed (notified : state.step .destoryNotify = some next)
    (missed : ¬ state.Allowed .destoryNotify) (alone : ∀ caller, state.callers caller = .outside) :
    ∃ index hung, next.step (.work index) = some hung ∧ hung.Hung := by
  obtain ⟨-, built⟩ := Option.ite_none_right_eq_some.mp notified
  obtain rfl := Option.some.inj built
  obtain ⟨index, found⟩ := List.mem_iff_getElem?.mp (not_not.mp missed)
  have there : ({ state.notifyAll with destoryNotified := true } : PoolState Task).workers[index]? =
      some .waiting := by
    simp only [notifyAll, List.getElem?_map, found]
    rfl
  have blocks : ({ state.notifyAll with destoryNotified := true } : PoolState Task).step (.work index)
      = some { ({ state.notifyAll with destoryNotified := true } : PoolState Task).workerTo index
          .blocked with mutex := none } := by
    rw [step, there]
    rfl
  exact ⟨index, _, blocks, rfl, alone, List.mem_of_getElem? (getElem?_set_self_of_found there)⟩

end PoolState

/-! ## The logger -/

/-- The thread of the logger, seen from the condition variable. -/
def LoggerAt.waiter : LoggerAt → WaiterAt
  | .waiting => .committed
  | .blocked => .blocked
  | _ => .away

/-- The notification of the destructor. -/
def LoggerLabel.notifies {Record : Type} : LoggerLabel Record → Bool
  | .destoryNotify => true
  | _ => false

namespace LoggerState

variable {Record : Type} {state next : LoggerState Record} {label : LoggerLabel Record}

/-- The logger, seen from its condition variable. -/
def waits (state : LoggerState Record) : WaitState where
  waiters := [state.worker.waiter]
  flag := state.isDestory
  notified := state.destoryNotified

/-- The thread is not between a test of the condition that came out false and its block. -/
def Allowed (state : LoggerState Record) : LoggerLabel Record → Prop
  | .destoryNotify => state.worker ≠ .waiting
  | _ => True

/-- Once the destructor has notified, the thread is not blocked or about to block. -/
def Woken (state : LoggerState Record) : Prop :=
  state.destoryNotified = true → state.worker ≠ .waiting ∧ state.worker ≠ .blocked

/-- The destructor has notified, nobody else will, and the thread is blocked. -/
def Hung (state : LoggerState Record) : Prop :=
  state.destoryNotified = true ∧ (∀ caller, state.callers caller = .outside) ∧
    state.worker = .blocked

/-- The thread is about to block. -/
theorem committed_mem_waits : .committed ∈ state.waits.waiters ↔ state.worker = .waiting := by
  refine List.mem_singleton.trans ⟨fun same => ?_, fun place => ?_⟩
  · cases place : state.worker with
    | waiting => rfl
    | _ =>
      rw [place] at same
      cases same
  · rw [place]
    rfl

/-- `Allowed`, seen from the condition variable. -/
theorem allowed_iff :
    (label.notifies = true → .committed ∉ state.waits.waiters) ↔ state.Allowed label := by
  rw [committed_mem_waits]
  cases label with
  | destoryNotify => exact ⟨fun absent => absent rfl, fun absent _ => absent⟩
  | _ => exact iff_of_true nofun trivial

/-- `Woken`, seen from the condition variable. -/
theorem woken_iff : state.waits.Woken ↔ state.Woken := by
  refine forall_congr' fun _ => List.forall_mem_singleton.trans ?_
  cases state.worker <;> simp [LoggerAt.waiter]

/-- A step of the logger, seen from its condition variable. -/
theorem waits_moves (moves : state.Moves label next) :
    state.waits.Moves label.notifies next.waits := by
  cases moves with
  | call | lock | push | leave => exact .stay
  | notify =>
    have changed : [state.worker.notified.waiter] = [state.worker.waiter].map WaiterAt.woken := by
      cases state.worker <;> rfl
    simp only [waits, callerTo, changed]
    exact .wake
  | refuse place quiet => exact .commit 0 quiet
  | block place => exact .block 0 (committed_mem_waits.mpr place)
  | destory => exact .set
  | destoryNotify destroyed =>
    have changed : [state.worker.notified.waiter] = [state.worker.waiter].map WaiterAt.woken := by
      cases state.worker <;> rfl
    simp only [waits, changed]
    exact .notify destroyed
  | _ => exact .goOn 0

/-- Who has been woken is not hung. -/
theorem Woken.not_hung (woken : state.Woken) : ¬ state.Hung := by
  rintro ⟨notified, -, blocked⟩
  exact (woken notified).2 blocked

/-- The thread is woken in exactly the runs whose destructor notifies while it is not between
a test and its block. -/
theorem runs_woken_iff (labels : List (LoggerLabel Record)) (state : LoggerState Record) :
    (loggerSystem Record).Runs (fun state label _ => state.Allowed label) labels state ↔
      (loggerSystem Record).Runs (fun _ _ next => next.Woken) labels state := by
  have initial : ∀ state : LoggerState Record, (loggerSystem Record).Initial state →
      state.waits.notified = false := by
    rintro state rfl
    rfl
  have exactly := @Lib.runs_woken_iff _ _ (loggerSystem Record) waits LoggerLabel.notifies initial
    (fun _ _ _ stepped => waits_moves (moves_of_step stepped)) labels state
  simpa only [allowed_iff, woken_iff] using exactly

/-- A notification that finds the thread about to block, when nobody is in `Log`, leaves it to
block for good. -/
theorem hung_of_missed (notified : state.step .destoryNotify = some next)
    (missed : ¬ state.Allowed .destoryNotify) (alone : ∀ caller, state.callers caller = .outside) :
    ∃ hung, next.step .work = some hung ∧ hung.Hung := by
  obtain ⟨-, built⟩ := Option.ite_none_right_eq_some.mp notified
  obtain rfl := Option.some.inj built
  have place : state.worker.notified = .waiting := by
    rw [not_not.mp missed]
    rfl
  have blocks : ({ state with worker := state.worker.notified, destoryNotified := true } :
      LoggerState Record).step .work =
        some { state with worker := .blocked, mutex := none, destoryNotified := true } := by
    rw [step, place]
    rfl
  exact ⟨_, blocks, rfl, alone, rfl⟩

end LoggerState

/-! ## Both -/

/-- In a `ThreadPool` with any number of threads and in a `Logger`: no run whose destructor
notifies while no worker is between a test of the condition and its block leads to a worker
that hangs; these are exactly the runs that keep every worker awake; and in any other one the
worker can hang. -/
theorem shutdown_wakes_iff (Task Record : Type) (threadCount : Nat) :
    (∀ (labels : List (PoolLabel Task)) (state : PoolState Task),
      ((threadPoolSystem Task threadCount).Runs (fun state label _ => state.Allowed label) labels
          state → ¬ state.Hung) ∧
        ((threadPoolSystem Task threadCount).Runs (fun state label _ => state.Allowed label) labels
            state ↔
          (threadPoolSystem Task threadCount).Runs (fun _ _ next => next.Woken) labels state)) ∧
      (∀ state next : PoolState Task, state.step .destoryNotify = some next →
        ¬ state.Allowed .destoryNotify → (∀ caller, state.callers caller = .outside) →
        ∃ index hung, next.step (.work index) = some hung ∧ hung.Hung) ∧
      (∀ (labels : List (LoggerLabel Record)) (state : LoggerState Record),
        ((loggerSystem Record).Runs (fun state label _ => state.Allowed label) labels state →
            ¬ state.Hung) ∧
          ((loggerSystem Record).Runs (fun state label _ => state.Allowed label) labels state ↔
            (loggerSystem Record).Runs (fun _ _ next => next.Woken) labels state)) ∧
      ∀ state next : LoggerState Record, state.step .destoryNotify = some next →
        ¬ state.Allowed .destoryNotify → (∀ caller, state.callers caller = .outside) →
        ∃ hung, next.step .work = some hung ∧ hung.Hung := by
  refine ⟨fun labels state => ⟨fun run => ?_, PoolState.runs_woken_iff labels state⟩,
    fun _ _ => PoolState.hung_of_missed,
    fun labels state => ⟨fun run => ?_, LoggerState.runs_woken_iff labels state⟩,
    fun _ _ => LoggerState.hung_of_missed⟩
  · refine PoolState.Woken.not_hung (((PoolState.runs_woken_iff labels state).mp run).within ?_)
    intro state constructed
    obtain ⟨-, built⟩ := Option.ite_none_right_eq_some.mp constructed
    obtain rfl := Option.some.inj built
    exact nofun
  · refine LoggerState.Woken.not_hung (((LoggerState.runs_woken_iff labels state).mp run).within ?_)
    rintro state rfl
    exact nofun

/-- A worker finds nothing to do and blocks; the destructor notifies it, and it returns. -/
def wokenWorker : List (PoolLabel Nat) :=
  [.work 0, .work 0, .work 0, .destory, .destoryNotify, .work 0, .work 0, .work 0, .work 0]

/-- The same with the thread of the logger. -/
def wokenLogger : List (LoggerLabel Nat) :=
  [.work, .work, .work, .destory, .destoryNotify, .work, .work, .work, .work, .work]

/-- A pool and a logger that shut down while their threads are blocked. -/
theorem woken_returned :
    (∃ state : PoolState Nat, (threadPoolSystem Nat 1).Runs (fun state label _ => state.Allowed label)
        wokenWorker state ∧ state.workers = [.returned] ∧ ¬ state.Hung) ∧
      ∃ state : LoggerState Nat, (loggerSystem Nat).Runs (fun state label _ => state.Allowed label)
        wokenLogger state ∧ state.worker = .returned ∧ ¬ state.Hung := by
  obtain ⟨pools, -, loggers, -⟩ := shutdown_wakes_iff Nat Nat 1
  have pool : ∃ start state : PoolState Nat, PoolState.construct 1 = some start ∧
      LabelledSystem.follow PoolState.step
        (fun state label _ => label = .destoryNotify → .waiting ∉ state.workers) start wokenWorker =
          some state ∧ state.workers = [.returned] := ⟨_, _, rfl, rfl, rfl⟩
  have logger : ∃ state : LoggerState Nat, LabelledSystem.follow LoggerState.step
      (fun state label _ => label = .destoryNotify → state.worker ≠ .waiting) .construct wokenLogger =
        some state ∧ state.worker = .returned := ⟨_, rfl, rfl⟩
  obtain ⟨start, state, constructed, ran, workers⟩ := pool
  obtain ⟨loggerState, loggerRan, worker⟩ := logger
  have poolRun : (threadPoolSystem Nat 1).Runs (fun state label _ => state.Allowed label) wokenWorker
      state := by
    refine (LabelledSystem.Runs.started constructed (fun _ _ _ stepped => stepped)
      (LabelledSystem.runs_of_follow ran)).mono fun _ label _ allowed => ?_
    cases label with
    | destoryNotify => exact allowed rfl
    | _ => trivial
  have loggerRun : (loggerSystem Nat).Runs (fun state label _ => state.Allowed label) wokenLogger
      loggerState := by
    refine (LabelledSystem.runs_of_follow loggerRan).mono fun _ label _ allowed => ?_
    cases label with
    | destoryNotify => exact allowed rfl
    | _ => trivial
  exact ⟨⟨state, poolRun, workers, (pools _ _).1 poolRun⟩,
    loggerState, loggerRun, worker, (loggers _ _).1 loggerRun⟩

/-- The destructor sets the flag and notifies while the worker is about to block. -/
def missedByWorker : List (PoolLabel Nat) :=
  [.work 0, .work 0, .destory, .destoryNotify, .work 0]

/-- The same with the thread of the logger. -/
def missedByLogger : List (LoggerLabel Nat) := [.work, .work, .destory, .destoryNotify, .work]

/-- The one worker of a pool and the thread of a logger, blocked for good. -/
theorem missed_hung :
    (∃ state : PoolState Nat, (threadPoolSystem Nat 1).Reachable state ∧ state.Hung) ∧
      ∃ state : LoggerState Nat, (loggerSystem Nat).Reachable state ∧ state.Hung := by
  have pool : ∃ start state : PoolState Nat, PoolState.construct 1 = some start ∧
      LabelledSystem.follow PoolState.step (fun _ _ _ => True) start missedByWorker = some state ∧
        state.destoryNotified = true ∧ (∀ caller, state.callers caller = .outside) ∧
        state.workers = [.blocked] := ⟨_, _, rfl, rfl, rfl, fun _ => rfl, rfl⟩
  have logger : ∃ state : LoggerState Nat,
      LabelledSystem.follow LoggerState.step (fun _ _ _ => True) .construct missedByLogger =
        some state ∧ state.Hung := ⟨_, rfl, rfl, fun _ => rfl, rfl⟩
  constructor
  · obtain ⟨start, state, constructed, ran, notified, alone, workers⟩ := pool
    refine ⟨state, ?_, notified, alone, ?_⟩
    · refine LabelledSystem.Reachable.mono ⟨_, LabelledSystem.runs_of_follow ran⟩ ?_ ?_
      · rintro _ rfl
        exact constructed
      · exact fun _ _ _ stepped => stepped
    · rw [workers]
      exact List.mem_singleton_self _
  · obtain ⟨state, ran, hung⟩ := logger
    exact ⟨state, ⟨_, LabelledSystem.runs_of_follow ran⟩, hung⟩

end SocketMessage.Server
