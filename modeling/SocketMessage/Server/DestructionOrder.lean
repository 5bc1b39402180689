import Mathlib.Logic.Relation
import SocketMessage.Lib.Transition
import SocketMessage.Server.Components

/-!
# The order of the deletions

`~MainControl` deletes `DataHandler` first. From then on the server is safe exactly when no
task is left in the pool of `SocketControl`; the task of `EpollWork`, the first one of that
pool, only ends when `~SocketControl` has begun.
-/

namespace SocketMessage.Server

open SocketMessage.Lib

namespace LifeState

variable {state next : LifeState} {label : LifeLabel}

/-! ## What a step can do -/

@[simp] theorem named_setNamed_self (name : PoolName) (workers : Workers) :
    (state.setNamed name workers).named name = workers := by
  cases name <;> rfl

/-- Changing one pool leaves the other as it is. -/
theorem named_setNamed_of_ne {name other : PoolName} (distinct : other ≠ name) (workers : Workers) :
    (state.setNamed name workers).named other = state.named other := by
  cases name <;> cases other <;> first | rfl | exact absurd rfl distinct

@[simp] theorem setNamed_lateUse (name : PoolName) (workers : Workers) :
    (state.setNamed name workers).lateUse = state.lateUse := by
  cases name <;> rfl

@[simp] theorem setNamed_destructor (name : PoolName) (workers : Workers) :
    (state.setNamed name workers).destructor = state.destructor := by
  cases name <;> rfl

@[simp] theorem setNamed_destroyed (name : PoolName) (workers : Workers) :
    (state.setNamed name workers).destroyed = state.destroyed := by
  cases name <;> rfl

@[simp] theorem setNamed_isDestory (name : PoolName) (workers : Workers) :
    (state.setNamed name workers).isDestory = state.isDestory := by
  cases name <;> rfl

/-- What an operation leaves alone: the destructor and its flag, the deletions, and all of
the pools but what is added to their queues. -/
structure Keeps (state next : LifeState) : Prop where
  lateUse : next.lateUse = state.lateUse
  destructor : next.destructor = state.destructor
  destroyed : next.destroyed = state.destroyed
  isDestory : next.isDestory = state.isDestory
  pools : ∀ name, ∃ added, next.named name =
    { state.named name with
      pool := ⟨(state.named name).pool.running, (state.named name).pool.queue ++ added⟩ }

/-- Nothing happens to what operations leave alone. -/
theorem Keeps.of_same (socketPool : next.socketPool = state.socketPool)
    (dataPool : next.dataPool = state.dataPool) (lateUse : next.lateUse = state.lateUse)
    (destructor : next.destructor = state.destructor)
    (destroyed : next.destroyed = state.destroyed)
    (isDestory : next.isDestory = state.isDestory) : state.Keeps next := by
  refine ⟨lateUse, destructor, destroyed, isDestory, fun name => ⟨[], ?_⟩⟩
  rw [List.append_nil]
  cases name with
  | socket => exact socketPool
  | data => exact dataPool

/-- Only the state itself. -/
theorem Keeps.refl : state.Keeps state := .of_same rfl rfl rfl rfl rfl rfl

/-- A task is added. -/
theorem Keeps.addJob (name : PoolName) (job : Job) : state.Keeps (state.addJob name job) := by
  refine ⟨?_, ?_, ?_, ?_, fun other => ?_⟩
  · exact setNamed_lateUse ..
  · exact setNamed_destructor ..
  · exact setNamed_destroyed ..
  · exact setNamed_isDestory ..
  · by_cases same : other = name
    · subst same
      exact ⟨[job], named_setNamed_self ..⟩
    · refine ⟨[], (named_setNamed_of_ne same _).trans ?_⟩
      rw [List.append_nil]

/-- Where the state behind an operation has been found. -/
theorem Keeps.of_result {found : LifeState} {operations more : List Operation}
    (keeps : state.Keeps found) (same : some (found, operations) = some (next, more)) :
    state.Keeps next := by
  obtain ⟨rfl, -⟩ := Prod.mk.inj (Option.some.inj same)
  exact keeps

/-- An operation changes nothing else. -/
theorem keeps_of_perform {operation : Operation} {answer : Answer} {more : List Operation}
    (performed : state.perform operation answer = some (next, more)) : state.Keeps next := by
  have unchanged : ∀ operations, some (state, operations) = some (next, more) →
      state.Keeps next := fun _ same => Keeps.refl.of_result same
  unfold perform at performed
  split at performed
  · exact unchanged _ performed
  · exact unchanged _ (Option.ite_none_right_eq_some.mp performed).2
  · exact unchanged _ performed
  · exact (Keeps.addJob ..).of_result performed
  · exact unchanged _ performed
  · obtain ⟨rfl, -⟩ := Prod.mk.inj (Option.some.inj performed)
    exact .of_same rfl rfl rfl rfl rfl rfl
  · split at performed
    · exact unchanged _ performed
    · obtain ⟨rfl, -⟩ := Prod.mk.inj (Option.some.inj performed)
      exact .of_same rfl rfl rfl rfl rfl rfl
  · split at performed
    · exact unchanged _ performed
    · obtain ⟨rfl, -⟩ := Prod.mk.inj (Option.some.inj performed)
      exact .of_same rfl rfl rfl rfl rfl rfl
  · split at performed <;> exact unchanged _ performed
  · exact unchanged _ performed
  · exact unchanged _ performed
  · exact unchanged _ performed
  · exact (Keeps.addJob ..).of_result performed
  · exact unchanged _ performed
  · exact unchanged _ performed
  · exact unchanged _ performed
  · exact unchanged _ performed
  · split at performed <;> exact unchanged _ performed
  · exact unchanged _ performed
  · cases performed

/-- A worker's operation uses something deleted, which ends the run, or is performed. -/
theorem operate_cases {operation : Operation} {answer : Answer} {more : List Operation}
    (operated : state.operate operation answer = some (next, more)) :
    (∃ component ∈ state.destroyed, next = { state with lateUse := some component }) ∨
      state.Keeps next := by
  unfold operate at operated
  split at operated
  · next component found =>
    left
    obtain ⟨-, there⟩ := Option.filter_eq_some_iff.mp found
    obtain ⟨rfl, -⟩ := Prod.mk.inj (Option.some.inj operated)
    exact ⟨component, of_decide_eq_true there, rfl⟩
  · exact Or.inr (keeps_of_perform (Option.ite_none_left_eq_some.mp operated).2)

/-- A worker that goes on does the same; one in `EpollWork` leaves it only when `~SocketControl`
has begun. -/
theorem goOn_cases {answer : Answer} {job after : Job}
    (went : state.goOn answer job = some (next, after)) :
    ((∃ component ∈ state.destroyed, next = { state with lateUse := some component }) ∨
        state.Keeps next) ∧
      (state.isDestory = false → (∃ operations, job = .epollWork operations) →
        ∃ operations, after = .epollWork operations) := by
  unfold goOn at went
  split at went
  · split at went
    · obtain ⟨rfl, rfl⟩ := Prod.mk.inj (Option.some.inj went)
      refine ⟨Or.inr .refl, fun alive _ => ⟨wait, ?_⟩⟩
      rw [alive]
      rfl
    · cases went
  · cases went
  · obtain ⟨⟨found, more⟩, operated, same⟩ := Option.map_eq_some_iff.mp went
    obtain ⟨rfl, rfl⟩ := Prod.mk.inj same
    exact ⟨operate_cases operated, fun _ _ => ⟨_, rfl⟩⟩
  · obtain ⟨⟨found, more⟩, operated, same⟩ := Option.map_eq_some_iff.mp went
    obtain ⟨rfl, rfl⟩ := Prod.mk.inj same
    refine ⟨operate_cases operated, fun _ isEpollWork => ?_⟩
    obtain ⟨operations, other⟩ := isEpollWork
    cases other

/-- What a step can do. -/
inductive Moves (state : LifeState) : LifeLabel → LifeState → Prop where
  | start (notBegun : state.destructor = .notBegun) :
      Moves state .start (state.addJob .socket (.epollWork []))
  | take {name : PoolName} {pool : WorkerPool Job}
      (taken : (state.named name).pool.take (state.named name).workers = some pool) :
      Moves state (.take name) (state.setPool name pool)
  | work {name : PoolName} {index : Nat} {answer : Answer} {job after : Job} {next : LifeState}
      (found : (state.named name).pool.running[index]? = some job)
      (went : state.goOn answer job = some (next, after)) :
      Moves state (.work name index answer)
        (next.setPool name ((next.named name).pool.progress index after))
  | finish {name : PoolName} {index : Nat}
      (found : (state.named name).pool.running[index]? = some (.task [])) :
      Moves state (.finish name index) (state.setPool name ((state.named name).pool.finish index))
  | leave {name : PoolName} (isDestory : (state.named name).isDestory = true)
      (empty : (state.named name).pool.queue = [])
      (free : (state.named name).pool.running.length < (state.named name).workers) :
      Moves state (.leave name)
        (state.setNamed name { state.named name with workers := (state.named name).workers - 1 })
  | destroy {next : LifeState} (destroyed : state.destroy = some next) : Moves state .destroy next

/-- A step is one of these, and nothing has been used too late before it. -/
theorem moves_of_step (stepped : state.step label = some next) :
    state.lateUse = none ∧ state.Moves label next := by
  obtain ⟨intact, stepped⟩ := Option.ite_none_left_eq_some.mp stepped
  refine ⟨not_not.mp intact, ?_⟩
  split at stepped
  · obtain ⟨notBegun, built⟩ := Option.ite_none_right_eq_some.mp stepped
    obtain rfl := Option.some.inj built
    exact .start notBegun
  · obtain ⟨pool, taken, rfl⟩ := Option.map_eq_some_iff.mp stepped
    exact .take taken
  · obtain ⟨job, found, rest⟩ := Option.bind_eq_some_iff.mp stepped
    obtain ⟨⟨reached, after⟩, went, built⟩ := Option.bind_eq_some_iff.mp rest
    obtain rfl := Option.some.inj built
    exact .work found went
  · split at stepped
    · next found =>
      obtain rfl := Option.some.inj stepped
      exact .finish found
    · cases stepped
  · obtain ⟨⟨isDestory, empty, free⟩, built⟩ := Option.ite_none_right_eq_some.mp stepped
    obtain rfl := Option.some.inj built
    exact .leave isDestory empty free
  · exact .destroy stepped

/-- What the destructor leaves alone. -/
theorem destroy_keeps (destroyed : state.destroy = some next) :
    next.lateUse = state.lateUse ∧ next.destructor ≠ .notBegun ∧
      ∀ name, (next.named name).pool = (state.named name).pool ∧
        (next.named name).workers = (state.named name).workers := by
  have unchanged : ∀ found : LifeState, some found = some next → found.lateUse = state.lateUse →
      found.destructor ≠ .notBegun → (∀ name, (found.named name).pool = (state.named name).pool ∧
        (found.named name).workers = (state.named name).workers) →
      next.lateUse = state.lateUse ∧ next.destructor ≠ .notBegun ∧
        ∀ name, (next.named name).pool = (state.named name).pool ∧
          (next.named name).workers = (state.named name).workers := by
    intro found same lateUse destructor pools
    obtain rfl := Option.some.inj same
    exact ⟨lateUse, destructor, pools⟩
  have pools : ∀ found : LifeState, found.socketPool.pool = state.socketPool.pool →
      found.socketPool.workers = state.socketPool.workers →
      found.dataPool.pool = state.dataPool.pool →
      found.dataPool.workers = state.dataPool.workers →
      ∀ name, (found.named name).pool = (state.named name).pool ∧
        (found.named name).workers = (state.named name).workers := by
    intro found socketPool socketWorkers dataPool dataWorkers name
    cases name with
    | socket => exact ⟨socketPool, socketWorkers⟩
    | data => exact ⟨dataPool, dataWorkers⟩
  unfold destroy at destroyed
  split at destroyed
  · exact unchanged _ destroyed rfl (by rintro ⟨⟩) (pools _ rfl rfl rfl rfl)
  · exact unchanged _ (Option.ite_none_right_eq_some.mp destroyed).2 rfl (by rintro ⟨⟩)
      (pools _ rfl rfl rfl rfl)
  · exact unchanged _ destroyed rfl (by rintro ⟨⟩) (pools _ rfl rfl rfl rfl)
  · exact unchanged _ destroyed rfl (by rintro ⟨⟩) (pools _ rfl rfl rfl rfl)
  · exact unchanged _ destroyed rfl (by rintro ⟨⟩) (pools _ rfl rfl rfl rfl)
  · exact unchanged _ destroyed rfl (by rintro ⟨⟩) (pools _ rfl rfl rfl rfl)
  · exact unchanged _ destroyed rfl (by rintro ⟨⟩) (pools _ rfl rfl rfl rfl)
  · exact unchanged _ destroyed rfl (by rintro ⟨⟩) (pools _ rfl rfl rfl rfl)
  · exact unchanged _ destroyed rfl (by rintro ⟨⟩) (pools _ rfl rfl rfl rfl)
  · exact unchanged _ (Option.ite_none_right_eq_some.mp destroyed).2 rfl (by rintro ⟨⟩)
      (pools _ rfl rfl rfl rfl)
  · cases destroyed

/-! ## Nobody works on more tasks than there are workers -/

/-- Every task that is worked on has a worker. -/
def Bounded (state : LifeState) : Prop :=
  ∀ name, (state.named name).pool.running.length ≤ (state.named name).workers

/-- One pool has changed. -/
theorem Bounded.set (bounded : state.Bounded) (name : PoolName) {workers : Workers}
    (enough : workers.pool.running.length ≤ workers.workers) :
    (state.setNamed name workers).Bounded := by
  intro other
  by_cases same : other = name
  · subst same
    rw [named_setNamed_self]
    exact enough
  · rw [named_setNamed_of_ne same]
    exact bounded other

/-- An operation gives nobody a task. -/
theorem Bounded.keeps (bounded : state.Bounded) (keeps : state.Keeps next) : next.Bounded := by
  intro name
  obtain ⟨added, same⟩ := keeps.pools name
  rw [same]
  exact bounded name

/-- Every step keeps the bound. -/
theorem Bounded.moves (bounded : state.Bounded) (moves : state.Moves label next) :
    next.Bounded := by
  cases moves with
  | start => exact bounded.keeps (.addJob ..)
  | take taken => exact bounded.set _ (WorkerPool.length_running_take taken)
  | @work name index answer job after reached found went =>
    have reachedBounded : reached.Bounded := by
      rcases (goOn_cases went).1 with ⟨component, -, rfl⟩ | keeps
      · exact bounded
      · exact bounded.keeps keeps
    refine reachedBounded.set _ ?_
    rw [WorkerPool.length_running_progress]
    exact reachedBounded name
  | finish =>
    exact bounded.set _ (Nat.le_trans WorkerPool.length_running_finish (bounded _))
  | leave _ _ free =>
    refine bounded.set _ ?_
    exact Nat.le_sub_one_of_lt free
  | destroy destroyed =>
    intro name
    obtain ⟨-, -, pools⟩ := destroy_keeps destroyed
    rw [(pools name).1, (pools name).2]
    exact bounded name

/-! ## With nobody left -/

/-- Nothing has been deleted yet. -/
structure Untouched (state : LifeState) : Prop where
  lateUse : state.lateUse = none
  destroyed : state.destroyed = []
  destructor : state.destructor = .notBegun ∨ state.destructor = .dataHandlerJoin

/-- The destructor is at work, nobody else is, and nobody will be. -/
structure Quiet (state : LifeState) : Prop where
  lateUse : state.lateUse = none
  destructor : state.destructor ≠ .notBegun
  socketPool : state.socketPool.pool.pending = []
  running : state.dataPool.pool.running = []
  workers : state.dataPool.workers = 0

/-- `DataHandler` is deleted when no task, `EpollWork` or another, is in the queue or the
hands of `SocketControl`'s pool. -/
def Allowed (state : LifeState) : LifeLabel → Prop
  | .destroy => state.destructor = .dataHandlerJoin → state.socketPool.pool.pending = []
  | _ => True

/-- No worker has a task. -/
theorem Quiet.running_eq (quiet : state.Quiet) (name : PoolName) :
    (state.named name).pool.running = [] := by
  cases name with
  | socket => exact (List.append_eq_nil_iff.mp quiet.socketPool).1
  | data => exact quiet.running

/-- Where nobody is at work, only the destructor goes on. -/
theorem Quiet.moves (quiet : state.Quiet) (moves : state.Moves label next) : next.Quiet := by
  cases moves with
  | start notBegun => exact absurd notBegun quiet.destructor
  | @take name pool taken =>
    obtain ⟨task, rest, waits, free, -⟩ := WorkerPool.take_cases taken
    cases name with
    | socket =>
      have empty := (List.append_eq_nil_iff.mp quiet.socketPool).2
      rw [named, empty] at waits
      cases waits
    | data =>
      rw [named, quiet.workers] at free
      exact absurd free (Nat.not_lt_zero _)
  | work found | finish found =>
    rw [quiet.running_eq] at found
    cases found
  | @leave name _ _ free =>
    cases name with
    | socket => exact ⟨quiet.lateUse, quiet.destructor, quiet.socketPool, quiet.running, quiet.workers⟩
    | data =>
      rw [named, quiet.workers] at free
      exact absurd free (Nat.not_lt_zero _)
  | destroy destroyed =>
    obtain ⟨lateUse, destructor, pools⟩ := destroy_keeps destroyed
    have socketPool : next.socketPool.pool = state.socketPool.pool := (pools .socket).1
    have dataPool : next.dataPool.pool = state.dataPool.pool := (pools .data).1
    have workers : next.dataPool.workers = state.dataPool.workers := (pools .data).2
    refine ⟨lateUse.trans quiet.lateUse, destructor, ?_, ?_, workers.trans quiet.workers⟩
    · rw [socketPool]
      exact quiet.socketPool
    · rw [dataPool]
      exact quiet.running

/-- `DataHandler` is deleted after its workers have come back; with nobody in the other pool
that leaves nobody. -/
theorem Bounded.quiet_of_deletion (bounded : state.Bounded) (lateUse : state.lateUse = none)
    (place : state.destructor = .dataHandlerJoin) (destroyed : state.destroy = some next)
    (empty : state.socketPool.pool.pending = []) : next.Quiet := by
  rw [destroy, place] at destroyed
  obtain ⟨gone, built⟩ := Option.ite_none_right_eq_some.mp destroyed
  obtain rfl := Option.some.inj built
  have running : state.dataPool.pool.running.length ≤ state.dataPool.workers := bounded .data
  rw [gone, Nat.le_zero, List.length_eq_zero_iff] at running
  exact ⟨lateUse, (by rintro ⟨⟩), empty, running, gone⟩

/-- Nothing is deleted by what becomes of a pool. -/
theorem Untouched.set (untouched : state.Untouched) (name : PoolName) (workers : Workers) :
    (state.setNamed name workers).Untouched := by
  refine ⟨?_, ?_, ?_⟩
  · rw [setNamed_lateUse]
    exact untouched.lateUse
  · rw [setNamed_destroyed]
    exact untouched.destroyed
  · rw [setNamed_destructor]
    exact untouched.destructor

/-- Until something is deleted, a worker can use everything. -/
theorem Untouched.goOn (untouched : state.Untouched) {answer : Answer} {job after : Job}
    (went : state.goOn answer job = some (next, after)) : next.Untouched := by
  rcases (goOn_cases went).1 with ⟨component, member, -⟩ | keeps
  · rw [untouched.destroyed] at member
    cases member
  · refine ⟨keeps.lateUse.trans untouched.lateUse, keeps.destroyed.trans untouched.destroyed, ?_⟩
    rw [keeps.destructor]
    exact untouched.destructor

/-- The first deletion, when nobody is left in the pool of `SocketControl`, leaves nobody at
all. -/
theorem Untouched.moves (untouched : state.Untouched) (bounded : state.Bounded)
    (moves : state.Moves label next) (allowed : state.Allowed label) :
    next.Untouched ∨ next.Quiet := by
  cases moves with
  | start => exact Or.inl ⟨untouched.lateUse, untouched.destroyed, untouched.destructor⟩
  | take | finish | leave => exact Or.inl (untouched.set _ _)
  | work _ went => exact Or.inl ((untouched.goOn went).set _ _)
  | destroy destroyed =>
    rcases untouched.destructor with place | place
    · rw [destroy, place] at destroyed
      obtain rfl := Option.some.inj destroyed
      exact Or.inl ⟨untouched.lateUse, untouched.destroyed, Or.inr rfl⟩
    · exact Or.inr (bounded.quiet_of_deletion untouched.lateUse place destroyed (allowed place))

/-- Every task that is worked on has a worker in every run. -/
theorem bounded_of_reachable {socketThreadCount dataThreadCount : Nat}
    (reachable : (lifeSystem socketThreadCount dataThreadCount).Reachable state) :
    state.Bounded := by
  refine reachable.invariant ?_ fun _ _ _ bounded stepped => bounded.moves (moves_of_step stepped).2
  intro name
  cases name <;> exact Nat.zero_le _

/-- What a run that meets the condition has reached. -/
theorem untouched_or_quiet {socketThreadCount dataThreadCount : Nat} {labels : List LifeLabel}
    (run : (lifeSystem socketThreadCount dataThreadCount).Runs
      (fun state label _ => state.Allowed label) labels state) : state.Untouched ∨ state.Quiet := by
  induction run with
  | initial valid =>
    obtain rfl := valid
    exact Or.inl ⟨rfl, rfl, Or.inl rfl⟩
  | step prior transition allowed inductionHypothesis =>
    have moves := (moves_of_step transition).2
    rcases inductionHypothesis with untouched | quiet
    · exact untouched.moves (bounded_of_reachable prior.reachable) moves allowed
    · exact Or.inr (quiet.moves moves)

/-! ## `EpollWork` stays at the head of its pool -/

/-- Nothing has been started, or the first task of `SocketControl`'s pool is `EpollWork`. -/
def EpollFirst (state : LifeState) : Prop :=
  (∀ name, (state.named name).pool.pending = []) ∨
    ∃ operations rest, state.socketPool.pool.pending = .epollWork operations :: rest

/-- The first of some tasks remains `EpollWork` when one of them is replaced or erased. -/
theorem epollWork_of_split {before after : List Job} {job : Job} {operations : List Operation}
    {rest replaced : List Job} (split : before ++ job :: after = .epollWork operations :: rest)
    (stays : (∃ operations, job = .epollWork operations) →
      ∃ operations more, replaced = .epollWork operations :: more) :
    ∃ operations rest, before ++ (replaced ++ after) = .epollWork operations :: rest := by
  cases before with
  | nil =>
    obtain ⟨rfl, rfl⟩ := List.cons.inj split
    obtain ⟨other, more, rfl⟩ := stays ⟨_, rfl⟩
    exact ⟨other, more ++ after, rfl⟩
  | cons head tail =>
    obtain ⟨rfl, rfl⟩ := List.cons.inj split
    exact ⟨_, _, rfl⟩

/-- A pool in which a task is worked on is not empty. -/
theorem pending_ne_nil_of_found {pool : WorkerPool Job} {index : Nat} {job : Job}
    (found : pool.running[index]? = some job) : pool.pending ≠ [] := by
  intro empty
  have running := (List.append_eq_nil_iff.mp empty).1
  rw [running] at found
  cases found

/-- Some task is worked on, so `EpollWork` has been started. -/
theorem EpollFirst.head_of_found (first : state.EpollFirst) {name : PoolName} {index : Nat}
    {job : Job} (found : (state.named name).pool.running[index]? = some job) :
    ∃ operations rest, state.socketPool.pool.pending = .epollWork operations :: rest :=
  first.resolve_left fun nothing => pending_ne_nil_of_found found (nothing name)

/-- What an operation adds goes to the end. -/
theorem Keeps.pending {name : PoolName} (keeps : state.Keeps next) :
    ∃ added, (next.named name).pool.pending = (state.named name).pool.pending ++ added := by
  obtain ⟨added, same⟩ := keeps.pools name
  refine ⟨added, ?_⟩
  rw [same, WorkerPool.pending, WorkerPool.pending, List.append_assoc]

/-- The tasks have not changed. -/
theorem EpollFirst.of_pools (first : state.EpollFirst)
    (pools : ∀ name, (next.named name).pool = (state.named name).pool) : next.EpollFirst := by
  rcases first with nothing | ⟨operations, rest, head⟩
  · refine Or.inl fun name => ?_
    rw [pools]
    exact nothing name
  · have socketPool : next.socketPool.pool = state.socketPool.pool := pools .socket
    exact Or.inr ⟨operations, rest, by rw [socketPool, head]⟩

/-- A worker going on leaves the tasks in their places. -/
theorem goOn_pools {answer : Answer} {job after : Job}
    (went : state.goOn answer job = some (next, after)) (name : PoolName) :
    (next.named name).pool.running = (state.named name).pool.running ∧
      ∃ added, (next.named name).pool.pending = (state.named name).pool.pending ++ added := by
  rcases (goOn_cases went).1 with ⟨component, -, rfl⟩ | keeps
  · exact ⟨rfl, [], (List.append_nil _).symm⟩
  · refine ⟨?_, keeps.pending⟩
    obtain ⟨added, same⟩ := keeps.pools name
    rw [same]

/-- Until `~SocketControl` has begun, `EpollWork` remains the first task of its pool. -/
theorem EpollFirst.moves (first : state.EpollFirst) (alive : state.isDestory = false)
    (moves : state.Moves label next) : next.EpollFirst := by
  cases moves with
  | start =>
    right
    have added : (state.addJob .socket (.epollWork [])).socketPool.pool.pending =
        state.socketPool.pool.pending ++ [.epollWork []] := WorkerPool.pending_submit
    rw [added]
    rcases first with nothing | ⟨operations, rest, head⟩
    · have empty : state.socketPool.pool.pending = [] := nothing .socket
      exact ⟨[], [], by rw [empty]; rfl⟩
    · exact ⟨operations, rest ++ [.epollWork []], by rw [head]; rfl⟩
  | @take name pool taken =>
    have same := WorkerPool.pending_take taken
    rcases first with nothing | head
    · obtain ⟨task, rest, waits, -, -⟩ := WorkerPool.take_cases taken
      have empty := (List.append_eq_nil_iff.mp (nothing name)).2
      rw [empty] at waits
      cases waits
    · right
      cases name with
      | socket =>
        have unchanged : (state.setPool .socket pool).socketPool.pool.pending =
            state.socketPool.pool.pending := same
        rwa [unchanged]
      | data => exact head
  | @work name index answer job after reached found went =>
    right
    obtain ⟨operations, rest, head⟩ := first.head_of_found found
    obtain ⟨-, added, grown⟩ := goOn_pools went .socket
    have reachedHead : reached.socketPool.pool.pending = .epollWork operations :: (rest ++ added) := by
      have same : reached.socketPool.pool.pending = state.socketPool.pool.pending ++ added := grown
      rw [same, head, List.cons_append]
    cases name with
    | socket =>
      have reachedFound : reached.socketPool.pool.running[index]? = some job := by
        have same : reached.socketPool.pool.running = state.socketPool.pool.running :=
          (goOn_pools went .socket).1
        rw [same]
        exact found
      obtain ⟨before, behind, split, -, progress, -⟩ := WorkerPool.pending_split reachedFound
      have changed : (reached.setPool .socket ((reached.named .socket).pool.progress index
          after)).socketPool.pool.pending = before ++ ([after] ++ behind) := progress after
      rw [changed]
      refine epollWork_of_split (split.symm.trans reachedHead) fun isEpollWork => ?_
      obtain ⟨more, rfl⟩ := (goOn_cases went).2 alive isEpollWork
      exact ⟨more, [], rfl⟩
    | data => exact ⟨_, _, reachedHead⟩
  | @finish name index found =>
    right
    obtain ⟨operations, rest, head⟩ := first.head_of_found found
    cases name with
    | socket =>
      obtain ⟨before, behind, split, -, -, finish⟩ := WorkerPool.pending_split found
      have changed : (state.setPool .socket
          ((state.named .socket).pool.finish index)).socketPool.pool.pending =
            before ++ ([] ++ behind) := finish
      rw [changed]
      refine epollWork_of_split (split.symm.trans head) fun isEpollWork => ?_
      obtain ⟨other, same⟩ := isEpollWork
      cases same
    | data => exact ⟨_, _, head⟩
  | @leave name =>
    refine first.of_pools fun other => ?_
    by_cases same : other = name
    · subst same
      rw [named_setNamed_self]
    · rw [named_setNamed_of_ne same]
  | destroy destroyed => exact first.of_pools fun name => ((destroy_keeps destroyed).2.2 name).1

/-- `~SocketControl` has not begun. -/
def IsEarly (state : LifeState) : Prop :=
  state.destructor = .notBegun ∨ state.destructor = .dataHandlerJoin ∨
    state.destructor = .dataHandlerDeleted

/-- Before `~SocketControl`: its flags are not set, its pool has a worker, `EpollWork` comes
first. -/
structure Early (state : LifeState) : Prop where
  isDestory : state.isDestory = false
  poolIsDestory : state.socketPool.isDestory = false
  workers : 0 < state.socketPool.workers
  epollFirst : state.EpollFirst

/-- The flags and the workers have not changed. -/
theorem Early.of_same (early : state.Early) (isDestory : next.isDestory = state.isDestory)
    (poolIsDestory : next.socketPool.isDestory = state.socketPool.isDestory)
    (workers : next.socketPool.workers = state.socketPool.workers)
    (epollFirst : next.EpollFirst) : next.Early :=
  ⟨isDestory.trans early.isDestory, poolIsDestory.trans early.poolIsDestory,
    workers.symm ▸ early.workers, epollFirst⟩

/-- What becomes of tasks changes no flag and no number of workers. -/
theorem setPool_socketPool (name : PoolName) (pool : WorkerPool Job) :
    (state.setPool name pool).socketPool.isDestory = state.socketPool.isDestory ∧
      (state.setPool name pool).socketPool.workers = state.socketPool.workers := by
  cases name <;> exact ⟨rfl, rfl⟩

/-- A worker going on changes no flag, no number of workers and not the destructor. -/
theorem goOn_flags {answer : Answer} {job after : Job}
    (went : state.goOn answer job = some (next, after)) :
    next.isDestory = state.isDestory ∧ next.destructor = state.destructor ∧
      next.socketPool.isDestory = state.socketPool.isDestory ∧
      next.socketPool.workers = state.socketPool.workers := by
  rcases (goOn_cases went).1 with ⟨component, -, rfl⟩ | keeps
  · exact ⟨rfl, rfl, rfl, rfl⟩
  · obtain ⟨added, same⟩ := keeps.pools .socket
    have socketPool : next.socketPool = { state.socketPool with
        pool := ⟨state.socketPool.pool.running, state.socketPool.pool.queue ++ added⟩ } := same
    rw [socketPool]
    exact ⟨keeps.isDestory, keeps.destructor, rfl, rfl⟩

/-- Where the destructor is does not depend on the pools. -/
theorem isEarly_setNamed (name : PoolName) (workers : Workers) :
    (state.setNamed name workers).IsEarly ↔ state.IsEarly := by
  rw [IsEarly, setNamed_destructor, IsEarly]

/-- Before `~SocketControl`, the destructor gets no further than the deletion of
`DataHandler`. -/
theorem destroy_early (destroyed : state.destroy = some next) (isEarly : next.IsEarly) :
    state.IsEarly ∧ next.isDestory = state.isDestory ∧ next.socketPool = state.socketPool := by
  unfold destroy at destroyed
  split at destroyed
  · next place =>
    obtain rfl := Option.some.inj destroyed
    exact ⟨Or.inl place, rfl, rfl⟩
  · next place =>
    obtain ⟨-, built⟩ := Option.ite_none_right_eq_some.mp destroyed
    obtain rfl := Option.some.inj built
    exact ⟨Or.inr (Or.inl place), rfl, rfl⟩
  · next place =>
    obtain rfl := Option.some.inj destroyed
    exact ⟨Or.inr (Or.inr place), by rcases isEarly with ⟨⟨⟩⟩ | ⟨⟨⟩⟩ | ⟨⟨⟩⟩⟩
  · obtain rfl := Option.some.inj destroyed
    rcases isEarly with ⟨⟨⟩⟩ | ⟨⟨⟩⟩ | ⟨⟨⟩⟩
  · obtain rfl := Option.some.inj destroyed
    rcases isEarly with ⟨⟨⟩⟩ | ⟨⟨⟩⟩ | ⟨⟨⟩⟩
  · obtain rfl := Option.some.inj destroyed
    rcases isEarly with ⟨⟨⟩⟩ | ⟨⟨⟩⟩ | ⟨⟨⟩⟩
  · obtain rfl := Option.some.inj destroyed
    rcases isEarly with ⟨⟨⟩⟩ | ⟨⟨⟩⟩ | ⟨⟨⟩⟩
  · obtain rfl := Option.some.inj destroyed
    rcases isEarly with ⟨⟨⟩⟩ | ⟨⟨⟩⟩ | ⟨⟨⟩⟩
  · obtain rfl := Option.some.inj destroyed
    rcases isEarly with ⟨⟨⟩⟩ | ⟨⟨⟩⟩ | ⟨⟨⟩⟩
  · obtain ⟨-, built⟩ := Option.ite_none_right_eq_some.mp destroyed
    obtain rfl := Option.some.inj built
    rcases isEarly with ⟨⟨⟩⟩ | ⟨⟨⟩⟩ | ⟨⟨⟩⟩
  · cases destroyed

/-- The destructor does not go back. -/
theorem isEarly_of_moves (moves : state.Moves label next) (isEarly : next.IsEarly) :
    state.IsEarly := by
  cases moves with
  | start => exact isEarly
  | take | finish | leave => exact (isEarly_setNamed ..).mp isEarly
  | work _ went =>
    have reached := (isEarly_setNamed ..).mp isEarly
    rw [IsEarly, (goOn_flags went).2.1] at reached
    exact reached
  | destroy destroyed => exact (destroy_early destroyed isEarly).1

/-- Every step up to `~SocketControl` keeps all that. -/
theorem Early.moves (early : state.Early) (moves : state.Moves label next)
    (isEarly : next.IsEarly) : next.Early := by
  have first := early.epollFirst.moves early.isDestory moves
  cases moves with
  | start => exact early.of_same rfl rfl rfl first
  | take | finish =>
    obtain ⟨poolIsDestory, workers⟩ := @setPool_socketPool state _ _
    exact early.of_same (setNamed_isDestory ..) poolIsDestory workers first
  | work _ went =>
    obtain ⟨isDestory, -, poolIsDestory, workers⟩ := goOn_flags went
    obtain ⟨samePoolIsDestory, sameWorkers⟩ := setPool_socketPool _ _
    exact early.of_same ((setNamed_isDestory ..).trans isDestory)
      (samePoolIsDestory.trans poolIsDestory) (sameWorkers.trans workers) first
  | @leave name isDestory =>
    cases name with
    | socket =>
      have destroyed : state.socketPool.isDestory = true := isDestory
      rw [early.poolIsDestory] at destroyed
      cases destroyed
    | data => exact early.of_same rfl rfl rfl first
  | destroy destroyed =>
    obtain ⟨-, isDestory, socketPool⟩ := destroy_early destroyed isEarly
    exact early.of_same isDestory (by rw [socketPool]) (by rw [socketPool]) first

/-- All that holds in every run until `~SocketControl` begins. -/
theorem early_of_reachable {socketThreadCount dataThreadCount : Nat}
    (reachable : (lifeSystem socketThreadCount dataThreadCount).Reachable state) :
    state.IsEarly → state.Early := by
  have initial : (construct socketThreadCount dataThreadCount).Early := by
    refine ⟨rfl, rfl, ?_, Or.inl fun name => ?_⟩
    · change 0 < workerCount socketThreadCount
      unfold workerCount
      split <;> omega
    · cases name <;> rfl
  have steps : ∀ (before : LifeState) (label : LifeLabel) (after : LifeState),
      (before.IsEarly → before.Early) → before.step label = some after →
        after.IsEarly → after.Early := by
    intro before label after early stepped isEarly
    have moves := (moves_of_step stepped).2
    exact (early (isEarly_of_moves moves isEarly)).moves moves isEarly
  exact @LabelledSystem.Reachable.invariant _ _ _ _ _ (fun state => state.IsEarly → state.Early)
    reachable (fun _ => initial) steps

end LifeState

end SocketMessage.Server
