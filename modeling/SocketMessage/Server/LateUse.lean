import SocketMessage.Server.DestructionOrder

/-!
# Where `EpollWork` outlives `DataHandler`

As long as `EpollWork` is in the pool when `DataHandler` is deleted, the run can end with a
use of something deleted: the loop goes on to its next `Wait`, and `~SocketControl` deletes
`EPoll` before it joins its pool. Every task can get on, so the loop gets there.
-/

namespace SocketMessage.Server

open SocketMessage.Lib

/-! ## Every operation can be done with -/

/-- How many steps an operation takes when as little as possible follows it. -/
def Operation.weight : Operation → Nat
  | .epollWait | .recv _ | .send .. | .getClientSocket _ | .sendPackage _ => 2
  | .eraseClient _ => 7
  | _ => 1

/-- The steps of several operations. -/
def totalWeight : List Operation → Nat
  | [] => 0
  | operation :: rest => operation.weight + totalWeight rest

/-- The steps of one list of operations and then another. -/
theorem totalWeight_append (first second : List Operation) :
    totalWeight (first ++ second) = totalWeight first + totalWeight second := by
  induction first with
  | nil => exact (Nat.zero_add _).symm
  | cons operation rest inductionHypothesis =>
    rw [List.cons_append, totalWeight, inductionHypothesis, totalWeight, Nat.add_assoc]

namespace LifeState

variable {state next : LifeState}

/-- Some steps lead from one state to another. -/
def Leads : LifeState → LifeState → Prop :=
  Relation.ReflTransGen fun state next => ∃ label, state.step label = some next

/-- On objects that are there, an operation can turn out so that less is left to do. -/
theorem exists_perform (state : LifeState) (operation : Operation) :
    ∃ answer next more, state.perform operation answer = some (next, more) ∧
      totalWeight more < operation.weight := by
  cases operation with
  | use component => exact ⟨.silent, _, _, rfl, Nat.zero_lt_one⟩
  | epollWait => exact ⟨.events [], _, _, rfl, Nat.one_lt_two⟩
  | ePollSwitch pointer => exact ⟨.decided false, _, _, rfl, Nat.zero_lt_one⟩
  | addTask task => exact ⟨.silent, _, _, rfl, Nat.zero_lt_one⟩
  | accept => exact ⟨.client none, _, _, rfl, Nat.zero_lt_one⟩
  | insertClient cfd pointer =>
    refine ⟨.silent, ?_⟩
    cases found : state.clientFdMap.lookup cfd with
    | none => exact ⟨_, [], by rw [perform, found], Nat.zero_lt_one⟩
    | some other => exact ⟨_, [], by rw [perform, found], Nat.zero_lt_one⟩
  | eraseClient pointer =>
    refine ⟨.silent, ?_⟩
    cases found : state.clientFdMap.lookup (state.cfds pointer) with
    | none => exact ⟨_, [], by rw [perform, found], Nat.zero_lt_succ 6⟩
    | some other => exact ⟨_, clientSocketErased pointer, by rw [perform, found], Nat.lt_add_one 6⟩
  | getClientSocket cfd =>
    refine ⟨.silent, ?_⟩
    cases found : state.clientFdMap.lookup cfd with
    | none => exact ⟨_, [], by rw [perform, found], Nat.zero_lt_two⟩
    | some pointer => exact ⟨_, [.write pointer], by rw [perform, found], Nat.one_lt_two⟩
  | recv pointer => exact ⟨.wouldBlock, _, _, rfl, Nat.one_lt_two⟩
  | addData receivers => exact ⟨.silent, _, _, rfl, Nat.zero_lt_one⟩
  | write pointer => exact ⟨.decided false, _, _, rfl, Nat.zero_lt_one⟩
  | send pointer isWriteTask =>
    refine ⟨.decided false, _, _, rfl, ?_⟩
    cases isWriteTask with
    | false => exact Nat.zero_lt_two
    | true => exact Nat.one_lt_two
  | sendPackage cfd =>
    refine ⟨.silent, ?_⟩
    cases found : state.clientFdMap.lookup cfd with
    | none => exact ⟨_, [], by rw [perform, found], Nat.zero_lt_two⟩
    | some pointer =>
      exact ⟨_, [.getSize4EmptyWrite pointer cfd], by rw [perform, found], Nat.one_lt_two⟩
  | getSize4EmptyWrite pointer cfd => exact ⟨.decided false, _, _, rfl, Nat.zero_lt_one⟩

/-- An operation can end the run or get on. -/
theorem exists_operate (unlocked : state.clientsLocked = false) (operation : Operation) :
    ∃ answer next more, state.operate operation answer = some (next, more) ∧
      (next.lateUse ≠ none ∨ state.Keeps next ∧ totalWeight more < operation.weight) := by
  cases used : operation.component.filter (· ∈ state.destroyed) with
  | some component =>
    refine ⟨.silent, { state with lateUse := some component }, [], ?_, Or.inl nofun⟩
    rw [operate, used]
  | none =>
    obtain ⟨answer, next, more, performed, less⟩ := exists_perform state operation
    refine ⟨answer, next, more, ?_, Or.inr ⟨keeps_of_perform performed, less⟩⟩
    rw [operate, used, unlocked]
    simpa using performed

/-! ## The loop gets to its next `Wait` -/

/-- `DataHandler` has been deleted, `~SocketControl` has not begun, and a worker is in
`EpollWork` with this to do up to the test of its loop. -/
structure Looping (state : LifeState) (operations : List Operation) : Prop where
  lateUse : state.lateUse = none
  destructor : state.destructor = .dataHandlerDeleted
  isDestory : state.isDestory = false
  running : state.socketPool.pool.running[0]? = some (.epollWork operations)

/-- The worker in `EpollWork` goes on. -/
theorem Looping.step_of_goOn {operations more : List Operation} {answer : Answer}
    (looping : state.Looping operations)
    (went : state.goOn answer (.epollWork operations) = some (next, .epollWork more)) :
    state.step (.work .socket 0 answer) =
      some (next.setPool .socket (next.socketPool.pool.progress 0 (.epollWork more))) := by
  have found : (state.named .socket).pool.running[0]? = some (.epollWork operations) :=
    looping.running
  simp only [step, looping.lateUse, ne_eq, not_true_eq_false, if_false, found, went,
    Option.bind_eq_bind, Option.bind_some]
  rfl

/-- When what it does leaves everything alone, it is still in its loop. -/
theorem Looping.progress {operations more : List Operation} (looping : state.Looping operations)
    (keeps : state.Keeps next) :
    (next.setPool .socket (next.socketPool.pool.progress 0 (.epollWork more))).Looping more := by
  refine ⟨keeps.lateUse.trans looping.lateUse, keeps.destructor.trans looping.destructor,
    keeps.isDestory.trans looping.isDestory, ?_⟩
  obtain ⟨added, same⟩ := keeps.pools .socket
  have socketPool : next.socketPool = { state.socketPool with
      pool := ⟨state.socketPool.pool.running, state.socketPool.pool.queue ++ added⟩ } := same
  have found : next.socketPool.pool.running[0]? = some (.epollWork operations) := by
    rw [socketPool]
    exact looping.running
  obtain ⟨inside, -⟩ := List.getElem?_eq_some_iff.mp found
  exact List.getElem?_set_self inside

/-- From anywhere in its loop, it gets to the test, or the run ends on the way. -/
theorem Looping.leads_to_test {operations : List Operation} (looping : state.Looping operations) :
    ∃ final, state.Leads final ∧ (final.lateUse ≠ none ∨ final.Looping []) := by
  induction weight : totalWeight operations using Nat.strong_induction_on generalizing state
    operations with
  | _ bound inductionHypothesis =>
    cases operations with
    | nil => exact ⟨state, .refl, Or.inr looping⟩
    | cons operation rest =>
      have unlocked : state.clientsLocked = false := by
        rw [clientsLocked, looping.destructor]
      obtain ⟨answer, next, more, operated, result⟩ := exists_operate unlocked operation
      have went : state.goOn answer (.epollWork (operation :: rest)) =
          some (next, .epollWork (more ++ rest)) := by
        rw [goOn, operated]
        rfl
      have stepped := looping.step_of_goOn went
      rcases result with late | ⟨keeps, less⟩
      · exact ⟨_, .single ⟨_, stepped⟩, Or.inl late⟩
      · have smaller : totalWeight (more ++ rest) < bound := by
          rw [← weight, totalWeight_append]
          exact Nat.add_lt_add_right less _
        obtain ⟨final, leads, reached⟩ :=
          inductionHypothesis _ smaller (looping.progress keeps) rfl
        exact ⟨final, .head ⟨_, stepped⟩ leads, reached⟩

/-- At the test it goes on to the next `Wait`. -/
theorem Looping.leads_to_wait (looping : state.Looping []) :
    ∃ next, state.Leads next ∧ next.Looping wait := by
  have went : state.goOn .silent (.epollWork []) = some (state, .epollWork wait) := by
    rw [goOn, looping.isDestory]
    rfl
  exact ⟨_, .single ⟨_, looping.step_of_goOn went⟩, looping.progress .refl⟩

/-! ## `~SocketControl` gets to `EPoll` -/

/-- One step of the destructor. -/
theorem leads_of_destroy (destroyed : state.destroy = some next) (lateUse : state.lateUse = none) :
    state.Leads next := by
  refine .single ⟨.destroy, ?_⟩
  rw [step, lateUse]
  exact destroyed

/-- The loop of the destructor comes to its end. -/
theorem leads_through_clients (rest : List (Int × Nat)) (lateUse : state.lateUse = none)
    (place : state.destructor = .clients rest) :
    ∃ final, state.Leads final ∧ final.lateUse = none ∧ final.destructor = .clients [] ∧
      final.socketPool = state.socketPool := by
  induction rest generalizing state with
  | nil => exact ⟨state, .refl, lateUse, place, rfl⟩
  | cons entry rest inductionHypothesis =>
    have destroyed : state.destroy = some { state with
        destructor := .clients rest, destroyed := .clientSocket entry.2 :: state.destroyed } := by
      rw [destroy, place]
    obtain ⟨final, leads, intact, done, socketPool⟩ := @inductionHypothesis
      { state with
        destructor := .clients rest, destroyed := .clientSocket entry.2 :: state.destroyed }
      lateUse rfl
    exact ⟨final, (leads_of_destroy destroyed lateUse).trans leads, intact, done, socketPool⟩

/-- `EPoll` gets deleted, whatever the pool is doing. -/
theorem leads_to_deletion (lateUse : state.lateUse = none)
    (place : state.destructor = .dataHandlerDeleted) :
    ∃ final, state.Leads final ∧ final.lateUse = none ∧ .ePoll ∈ final.destroyed ∧
      final.socketPool = state.socketPool := by
  have flag : state.destroy = some { state with destructor := .isDestorySet, isDestory := true } := by
    rw [destroy, place]
  have locks : ({ state with destructor := .isDestorySet, isDestory := true } : LifeState).destroy =
      some { state with destructor := .clients state.clientFdMap.entries, isDestory := true } := rfl
  obtain ⟨cleared, through, intact, done, socketPool⟩ := @leads_through_clients
    { state with destructor := .clients state.clientFdMap.entries, isDestory := true }
    state.clientFdMap.entries lateUse rfl
  have unlocks : cleared.destroy = some { cleared with
      destructor := .clientsDeleted, clientFdMap := .empty } := by
    rw [destroy, done]
  have deletes : ({ cleared with destructor := .clientsDeleted, clientFdMap := .empty } :
      LifeState).destroy = some { cleared with
        destructor := .ePollDeleted, clientFdMap := .empty, destroyed := .ePoll :: cleared.destroyed } :=
    rfl
  have leads := (leads_of_destroy flag lateUse).trans ((leads_of_destroy locks lateUse).trans
    (through.trans ((leads_of_destroy unlocks intact).trans (leads_of_destroy deletes intact))))
  exact ⟨_, leads, intact, List.mem_cons_self, socketPool⟩

/-- A loop that is past its test when `~SocketControl` begins can use `EPoll` too late. -/
theorem Looping.leads_to_lateUse (looping : state.Looping wait) :
    ∃ final, state.Leads final ∧ final.lateUse ≠ none := by
  obtain ⟨deleted, leads, intact, member, socketPool⟩ :=
    leads_to_deletion looping.lateUse looping.destructor
  have found : (deleted.named .socket).pool.running[0]? = some (.epollWork wait) := by
    have same : deleted.socketPool = state.socketPool := socketPool
    change deleted.socketPool.pool.running[0]? = _
    rw [same]
    exact looping.running
  have used : (Operation.use .ePoll).component.filter (· ∈ deleted.destroyed) = some .ePoll := by
    simp [Operation.component, member]
  have went : deleted.goOn .silent (.epollWork wait) =
      some ({ deleted with lateUse := some .ePoll }, .epollWork [.epollWait]) := by
    rw [wait, goOn, operate, used]
    rfl
  have stepped : deleted.step (.work .socket 0 .silent) =
      some (({ deleted with lateUse := some .ePoll } : LifeState).setPool .socket
        (deleted.socketPool.pool.progress 0 (.epollWork [.epollWait]))) := by
    simp only [step, intact, ne_eq, not_true_eq_false, if_false, found, went, Option.bind_eq_bind,
      Option.bind_some]
    rfl
  exact ⟨_, leads.tail ⟨_, stepped⟩, nofun⟩

/-! ## When `DataHandler` may be deleted -/

/-- With `EpollWork` first in its pool, `DataHandler` can be deleted and a worker be in the
loop. -/
theorem leads_to_loop {operations : List Operation} {rest : List Job}
    (place : state.destructor = .dataHandlerJoin) (stepped : state.step .destroy = some next)
    (isDestory : state.isDestory = false) (workers : 0 < state.socketPool.workers)
    (head : state.socketPool.pool.pending = .epollWork operations :: rest) :
    ∃ reached, next.Leads reached ∧ reached.Looping operations := by
  have lateUse := (moves_of_step stepped).1
  obtain ⟨-, destroyed⟩ := Option.ite_none_left_eq_some.mp stepped
  simp only [destroy, place] at destroyed
  obtain ⟨-, built⟩ := Option.ite_none_right_eq_some.mp destroyed
  obtain rfl := Option.some.inj built
  cases running : state.socketPool.pool.running with
  | nil =>
    rw [WorkerPool.pending, running, List.nil_append] at head
    have taken : state.socketPool.pool.take state.socketPool.workers =
        some ⟨[.epollWork operations], rest⟩ := by
      rw [WorkerPool.take, head, running]
      exact if_pos workers
    have took : ({ state with
        destructor := .dataHandlerDeleted, destroyed := .dataHandler :: state.destroyed } :
          LifeState).step (.take .socket) = some { state with
            destructor := .dataHandlerDeleted, destroyed := .dataHandler :: state.destroyed
            socketPool := { state.socketPool with pool := ⟨[.epollWork operations], rest⟩ } } := by
      rw [step, lateUse]
      simp only [ne_eq, not_true_eq_false, if_false, named, taken, Option.map_some]
      rfl
    exact ⟨_, .single ⟨_, took⟩, lateUse, rfl, isDestory, rfl⟩
  | cons job others =>
    rw [WorkerPool.pending, running, List.cons_append] at head
    obtain ⟨rfl, -⟩ := List.cons.inj head
    refine ⟨_, .refl, lateUse, rfl, isDestory, ?_⟩
    change state.socketPool.pool.running[0]? = _
    rw [running]
    rfl

/-- With `EpollWork` in its pool, the deletion of `DataHandler` can be followed by a use of
something deleted. -/
theorem Early.leads_to_lateUse (early : state.Early) (place : state.destructor = .dataHandlerJoin)
    (stepped : state.step .destroy = some next) (busy : state.socketPool.pool.pending ≠ []) :
    ∃ final, next.Leads final ∧ final.lateUse ≠ none := by
  obtain ⟨operations, rest, head⟩ :=
    early.epollFirst.resolve_left fun nothing => busy (nothing .socket)
  obtain ⟨reached, toLoop, looping⟩ :=
    leads_to_loop place stepped early.isDestory early.workers head
  obtain ⟨tested, toTest, late | atTest⟩ := looping.leads_to_test
  · exact ⟨tested, toLoop.trans toTest, late⟩
  · obtain ⟨waiting, toWait, inWait⟩ := atTest.leads_to_wait
    obtain ⟨final, toUse, late⟩ := inWait.leads_to_lateUse
    exact ⟨final, toLoop.trans (toTest.trans (toWait.trans toUse)), late⟩

/-- Where nobody is left, nothing is used too late. -/
theorem Quiet.leads (quiet : state.Quiet) (leads : state.Leads next) : next.Quiet := by
  induction leads with
  | refl => exact quiet
  | tail _ transition inductionHypothesis =>
    obtain ⟨label, stepped⟩ := transition
    exact inductionHypothesis.moves (moves_of_step stepped).2

/-- No run in which `DataHandler` is only deleted when no task is left in the pool of
`SocketControl` uses anything deleted. And a deletion of `DataHandler` is followed by no such
use, whatever happens, exactly when no task is left there. -/
theorem components_outlive_iff (socketThreadCount dataThreadCount : Nat) :
    (∀ labels state, (lifeSystem socketThreadCount dataThreadCount).Runs
        (fun state label _ => state.Allowed label) labels state → state.lateUse = none) ∧
      ∀ state next, (lifeSystem socketThreadCount dataThreadCount).Reachable state →
        state.destructor = .dataHandlerJoin → state.step .destroy = some next →
        (state.Allowed .destroy ↔ ∀ final, next.Leads final → final.lateUse = none) := by
  constructor
  · intro labels state run
    rcases untouched_or_quiet run with untouched | quiet
    · exact untouched.lateUse
    · exact quiet.lateUse
  · intro state next reachable place stepped
    obtain ⟨lateUse, moves⟩ := moves_of_step stepped
    constructor
    · intro allowed final leads
      cases moves with
      | destroy destroyed =>
        have bounded := bounded_of_reachable reachable
        have quiet := bounded.quiet_of_deletion lateUse place destroyed (allowed place)
        exact (quiet.leads leads).lateUse
    · intro safe _
      by_contra busy
      have early := early_of_reachable reachable (Or.inr (Or.inl place))
      obtain ⟨final, leads, late⟩ := early.leads_to_lateUse place stepped busy
      exact late (safe final leads)

/-- A client connects; before the task of the new client gets to `ClientSocketState`,
`DataHandler` is deleted. -/
def acceptedTooLate : List LifeLabel :=
  [.start, .take .socket, .work .socket 0 .silent, .work .socket 0 .silent,
    .work .socket 0 (.events [⟨.server, true, false⟩])] ++
    List.replicate 5 (.work .socket 0 .silent) ++
    [.take .socket, .work .socket 1 .silent, .work .socket 1 (.client (some 5))] ++
    List.replicate 4 (.work .socket 1 .silent) ++
    [.destroy, .leave .data, .destroy, .work .socket 1 .silent]

/-- The loop passes its test; before it gets to `EPoll::Wait`, `EPoll` is deleted. -/
def waitedTooLate : List LifeLabel :=
  [.start, .take .socket, .work .socket 0 .silent, .destroy, .leave .data] ++
    List.replicate 5 .destroy ++ [.work .socket 0 .silent]

/-- `DataHandler` and `EPoll` used after their deletion. -/
theorem usedTooLate :
    (∃ state, (lifeSystem 2 1).Reachable state ∧ state.lateUse = some .dataHandler) ∧
      ∃ state, (lifeSystem 2 1).Reachable state ∧ state.lateUse = some .ePoll := by
  have accepted : ∃ state, LabelledSystem.follow LifeState.step (fun _ _ _ => True)
      (.construct 2 1) acceptedTooLate = some state ∧ state.lateUse = some .dataHandler :=
    ⟨_, rfl, rfl⟩
  have waited : ∃ state, LabelledSystem.follow LifeState.step (fun _ _ _ => True)
      (.construct 2 1) waitedTooLate = some state ∧ state.lateUse = some .ePoll := ⟨_, rfl, rfl⟩
  obtain ⟨state, ran, late⟩ := accepted
  obtain ⟨other, otherRan, otherLate⟩ := waited
  exact ⟨⟨state, ⟨_, LabelledSystem.runs_of_follow ran⟩, late⟩,
    other, ⟨_, LabelledSystem.runs_of_follow otherRan⟩, otherLate⟩

end LifeState

end SocketMessage.Server
