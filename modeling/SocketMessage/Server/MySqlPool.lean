import Mathlib.Data.List.Perm.Basic
import SocketMessage.Lib.Transition
import SocketMessage.Lib.WorkerPool
import SocketMessage.Server.DataHandler
import SocketMessage.Server.SocketControl
import SocketMessage.Server.ThreadPool

/-!
# The connections to the database

`MySqlPool` keeps the connections nobody uses; a handler takes one with `Pop` before its
first statement and gives it back with `Push`. The handlers are taken apart here into
`Pop`, the statements, the calls of `DataHandler`, and `Push`, in the order of the source
and with each way a handler can end; the workers' steps are in any order. What a statement
answers is arbitrary.
-/

namespace SocketMessage.Server

open SocketMessage.Lib SocketMessage.Wire

/-! ## The handlers, with their connection -/

/-- What a handler does with its connection. -/
inductive Statement where
  | login
  | allUserList
  | getUserAllGroup
  | getDataMsgList
  | saveMsgData
  | getUserIdByGroupId
deriving DecidableEq, Repr

/-- A step of a handler: `Pop`, a statement on the connection, a call of `DataHandler`,
`Push`. -/
inductive HandlerStep where
  | pop
  | ask (statement : Statement)
  | call (action : HandlerAction)
  | push
deriving DecidableEq, Repr

namespace HandlerStep

/-- The call, when the step is one. -/
def action : HandlerStep → Option HandlerAction
  | .call action => some action
  | _ => none

/-- `Serialize` the reply, then use the bytes. -/
def withSerialized (serialized : Option (List Byte)) (use : List Byte → List HandlerStep) :
    List HandlerStep :=
  match serialized with
  | none => [.call .fail]
  | some data => use data

/-- `DataHandlerC2SLogin`: a login that failed gives the connection back at once. -/
def dataHandlerC2SLogin (queries : Queries) (login : C2SLogin) : List HandlerStep :=
  let (isLogin, loginRet) := queries.login login
  .pop :: .ask .login :: withSerialized loginRet.serialize fun spLogin =>
    .call (.answer spLogin) ::
      if !isLogin then [.push]
      else .call (.clientOpen loginRet.userId) :: .ask .allUserList ::
        withSerialized (queries.allUserList.serialize.map Prod.fst) fun spAllUser =>
          .call (.answer spAllUser) :: .ask .getUserAllGroup ::
            withSerialized ((queries.getUserAllGroup loginRet.userId).serialize.map Prod.fst)
              fun spGroupList => [.call (.answer spGroupList), .push]

/-- `DataHandlerC2SGetDataMsgList`. -/
def dataHandlerC2SGetDataMsgList (queries : Queries) (getDataMsgList : C2SGetDataMsgList) :
    List HandlerStep :=
  .pop :: .ask .getDataMsgList ::
    withSerialized ((queries.getDataMsgList getDataMsgList).serialize.map Prod.fst)
      fun msgList => [.call (.answer msgList), .push]

/-- `DataHandlerC2SDataMsg`: the connection goes back before the message is serialized
and relayed. -/
def dataHandlerC2SDataMsg (queries : Queries) (clientMsg : DataMsg) : List HandlerStep :=
  let clientMsg := { clientMsg with createdTime := queries.timeStampSeconds }
  let clientMsg := { clientMsg with msgId := queries.saveMsgData clientMsg }
  let members : List HandlerStep := if clientMsg.isGroup then [.ask .getUserIdByGroupId] else []
  let sendUserVector :=
    if clientMsg.isGroup then queries.getUserIdByGroupId clientMsg.receiver
    else [clientMsg.receiver]
  let serverMsg := { clientMsg with dataType := EDataType.s2CDataMsg.value }
  .pop :: .ask .saveMsgData :: (members ++ .push ::
    withSerialized (serverMsg.serialize.map Prod.fst) fun data =>
      (sendUserVector.filter (· ≠ clientMsg.sender)).map fun userId => .call (.relay userId data))

/-- The handler registered for a decoded request. -/
def handle (queries : Queries) : Request → List HandlerStep
  | .login request => dataHandlerC2SLogin queries request
  | .dataMsg request => dataHandlerC2SDataMsg queries request
  | .getDataMsgList request => dataHandlerC2SGetDataMsgList queries request

/-- The calls after a `Serialize`. -/
theorem calls_withSerialized {serialized : Option (List Byte)}
    {use : List Byte → List HandlerStep} {calls : List Byte → List HandlerAction}
    (same : ∀ data, (use data).filterMap action = calls data) :
    (withSerialized serialized use).filterMap action = Server.withSerialized serialized calls := by
  cases serialized with
  | none => rfl
  | some data => exact same data

/-- Without the connection these are the calls of the handlers. -/
theorem calls_handle (queries : Queries) (request : Request) :
    (handle queries request).filterMap action = Server.handle queries request := by
  cases request with
  | login request =>
      refine calls_withSerialized fun spLogin => ?_
      cases (queries.login request).1 with
      | false => rfl
      | true =>
          refine congrArg (fun calls => .answer spLogin ::
            .clientOpen (queries.login request).2.userId :: calls) (calls_withSerialized ?_)
          intro spAllUser
          exact congrArg (fun calls => .answer spAllUser :: calls)
            (calls_withSerialized fun _ => rfl)
  | getDataMsgList request => exact calls_withSerialized fun _ => rfl
  | dataMsg request =>
      simp only [handle, dataHandlerC2SDataMsg, Server.handle, Server.dataHandlerC2SDataMsg]
      have members : ∀ isGroup : Bool, List.filterMap action
          (if isGroup then [.ask .getUserIdByGroupId] else []) = [] := by decide
      rw [List.filterMap_cons_none rfl, List.filterMap_cons_none rfl, List.filterMap_append,
        members, List.nil_append, List.filterMap_cons_none rfl]
      refine calls_withSerialized fun data => ?_
      have relays : action ∘ (fun userId => .call (.relay userId data)) =
        some ∘ fun userId => .relay userId data := rfl
      rw [List.filterMap_map, relays, List.filterMap_eq_map]

/-- What is left of a handler, with a connection or without: `Pop` only without one, the
statements and `Push` only with one, and at the end it has none. A `Serialize` that throws
ends the server. -/
inductive Paired : Bool → List HandlerStep → Prop where
  | done : Paired false []
  | pop {rest} (holding : Paired true rest) : Paired false (.pop :: rest)
  | ask {statement rest} (holding : Paired true rest) : Paired true (.ask statement :: rest)
  | call {holds action rest} (later : Paired holds rest) : Paired holds (.call action :: rest)
  | push {rest} (without : Paired false rest) : Paired true (.push :: rest)
  | fail {holds} : Paired holds [.call .fail]

theorem paired_withSerialized {holds : Bool} {serialized : Option (List Byte)}
    {use : List Byte → List HandlerStep} (paired : ∀ data, Paired holds (use data)) :
    Paired holds (withSerialized serialized use) := by
  cases serialized with
  | none => exact .fail
  | some data => exact paired data

theorem paired_relays (users : List CInt) (data : List Byte) :
    Paired false (users.map fun userId => .call (.relay userId data)) := by
  induction users with
  | nil => exact .done
  | cons userId rest inductionHypothesis => exact .call inductionHypothesis

/-- Each handler gives back the connection it takes, on all its ways. -/
theorem paired_handle (queries : Queries) (request : Request) :
    Paired false (handle queries request) := by
  cases request with
  | login request =>
      refine .pop (.ask (paired_withSerialized fun spLogin => .call ?_))
      cases (queries.login request).1 with
      | false => exact .push .done
      | true =>
          refine .call (.ask (paired_withSerialized fun spAllUser => .call (.ask ?_)))
          exact paired_withSerialized fun spGroupList => .call (.push .done)
  | getDataMsgList request =>
      exact .pop (.ask (paired_withSerialized fun msgList => .call (.push .done)))
  | dataMsg request =>
      have given : ∀ isGroup : Bool, ∀ rest, Paired true rest → Paired true
          ((if isGroup then [.ask .getUserIdByGroupId] else []) ++ rest) := by
        intro isGroup rest later
        cases isGroup with
        | false => exact later
        | true => exact .ask later
      exact .pop (.ask (given _ _ (.push (paired_withSerialized fun data =>
        paired_relays _ data))))

end HandlerStep

/-! ## The pool -/

/-- The connections by the number of their creation: how many were created, and those in
the vector. -/
structure MySqlPool where
  count : Nat
  mySqlVector : List Nat

namespace MySqlPool

/-- The constructor creates one connection at least. -/
def construct (count : Int) : MySqlPool :=
  let count := if count ≤ 0 then 1 else count.toNat
  { count, mySqlVector := List.range count }

/-- `Pop`, from when it has stopped waiting: the last connection in the vector. -/
def pop (pool : MySqlPool) : Option (Nat × MySqlPool) :=
  pool.mySqlVector.getLast?.map fun mySql =>
    (mySql, { pool with mySqlVector := pool.mySqlVector.dropLast })

/-- `Push`. -/
def push (pool : MySqlPool) (mySql : Nat) : MySqlPool :=
  { pool with mySqlVector := pool.mySqlVector ++ [mySql] }

variable {pool next : MySqlPool} {mySql : Nat}

/-- `Pop` moves one connection out of the vector. -/
theorem pop_cases (popped : pool.pop = some (mySql, next)) :
    next.count = pool.count ∧ pool.mySqlVector = next.mySqlVector ++ [mySql] := by
  obtain ⟨last, isLast, same⟩ := Option.map_eq_some_iff.mp popped
  obtain ⟨rfl, rfl⟩ := Prod.mk.inj same
  exact ⟨rfl, (List.dropLast_append_getLast? _ isLast).symm⟩

end MySqlPool

/-! ## The workers -/

/-- The task of a package: the steps its handler has still to make, once it is decoded,
the handler's variable `mySql`, and the connection between `Pop` and `Push`. -/
structure MySqlTask where
  pack : DataPack
  steps : Option (List HandlerStep)
  mySql : Option Nat
  held : Option Nat

/-- A package nobody has looked at. -/
def MySqlTask.fresh (pack : DataPack) : MySqlTask := ⟨pack, none, none, none⟩

/-- `DataHandler` with its two pools. -/
structure MySqlState where
  threadPool : WorkerPool MySqlTask
  mySqlPool : MySqlPool

/-- What happens next: a package arrives; a worker takes a task, begins with it, makes the
next step of its handler, returns. -/
inductive MySqlEvent where
  | addData (pack : DataPack)
  | take
  | begin (index : Nat) (memory : Memory) (queries : Queries)
  | work (index : Nat)
  | finish (index : Nat)

namespace MySqlState

/-- `DataHandler::DataHandler`. -/
def construct (mySqlPoolCount : Int) : MySqlState where
  threadPool := .empty
  mySqlPool := .construct mySqlPoolCount

/-- A worker gets on with its task. -/
def progress (state : MySqlState) (index : Nat) (task : MySqlTask) : MySqlState :=
  { state with threadPool := state.threadPool.progress index task }

/-- One step of a handler, with the rest of it behind. `Push` gives back what the variable
holds. -/
def work (state : MySqlState) (index : Nat) (task : MySqlTask) (rest : List HandlerStep) :
    HandlerStep → Option MySqlState
  | .pop => state.mySqlPool.pop.map fun (mySql, mySqlPool) =>
      { state.progress index
          { task with steps := some rest, mySql := some mySql, held := some mySql } with
        mySqlPool }
  | .push => task.mySql.map fun mySql =>
      { state.progress index { task with steps := some rest, held := none } with
        mySqlPool := state.mySqlPool.push mySql }
  | .call .fail => none
  | .call _ | .ask _ => some (state.progress index { task with steps := some rest })

/-- `ThreadWork` up to the handler: a package that is dropped has no steps. -/
def steps (memory : Memory) (queries : Queries) (pack : DataPack) : Option (List HandlerStep) :=
  match threadWork memory pack.data with
  | .dropped => some []
  | .outside => none
  | .decoded request => some (HandlerStep.handle queries request)

/-- One step with a thread pool of so many threads. A handler that reads out of range or
throws ends the run. -/
def step (threadCount : Nat) (state : MySqlState) : MySqlEvent → Option MySqlState
  | .addData pack =>
      some { state with threadPool := state.threadPool.submit (.fresh pack) }
  | .take => (state.threadPool.take (workerCount threadCount)).map fun threadPool =>
      { state with threadPool }
  | .begin index memory queries => do
      let task ← state.threadPool.running[index]?
      if task.steps.isSome then none
      else
        let steps ← steps memory queries task.pack
        some (state.progress index { task with steps := some steps })
  | .work index => do
      let task ← state.threadPool.running[index]?
      match task.steps with
      | some (step :: rest) => state.work index task rest step
      | _ => none
  | .finish index => do
      let task ← state.threadPool.running[index]?
      match task.steps with
      | some [] => some { state with threadPool := state.threadPool.finish index }
      | _ => none

/-- The connections between `Pop` and `Push`. -/
def held (state : MySqlState) : List Nat := state.threadPool.running.filterMap MySqlTask.held

end MySqlState

/-- `DataHandler` with so many threads and database connections. -/
def mySqlSystem (threadCount : Nat) (mySqlPoolCount : Int) :
    LabelledSystem MySqlState MySqlEvent :=
  .ofStep (.construct mySqlPoolCount) (MySqlState.step threadCount)

/-! ## Conservation -/

namespace MySqlState

variable {threadCount : Nat} {state next : MySqlState} {event : MySqlEvent}

/-- What the next step of a handler can do to its task and to the pool. -/
inductive Works (pool : MySqlPool) (task : MySqlTask) (rest : List HandlerStep) :
    HandlerStep → MySqlPool → MySqlTask → Prop where
  | pop {mySql : Nat} {after : MySqlPool} (popped : pool.pop = some (mySql, after)) :
      Works pool task rest .pop after
        { task with steps := some rest, mySql := some mySql, held := some mySql }
  | push {mySql : Nat} (variable_ : task.mySql = some mySql) :
      Works pool task rest .push (pool.push mySql) { task with steps := some rest, held := none }
  | call {action : HandlerAction} (returns : action ≠ .fail) :
      Works pool task rest (.call action) pool { task with steps := some rest }
  | ask {statement : Statement} :
      Works pool task rest (.ask statement) pool { task with steps := some rest }

theorem works_of_work {index : Nat} {task : MySqlTask} {rest : List HandlerStep} {step : HandlerStep}
    (worked : state.work index task rest step = some next) :
    ∃ pool after, Works state.mySqlPool task rest step pool after ∧
      next = { state.progress index after with mySqlPool := pool } := by
  cases step with
  | pop =>
      obtain ⟨⟨mySql, pool⟩, popped, rfl⟩ := Option.map_eq_some_iff.mp worked
      exact ⟨pool, _, .pop popped, rfl⟩
  | push =>
      obtain ⟨mySql, found, rfl⟩ := Option.map_eq_some_iff.mp worked
      exact ⟨_, _, .push found, rfl⟩
  | ask statement =>
      obtain rfl := Option.some.inj worked
      exact ⟨_, _, .ask, rfl⟩
  | call action =>
      cases action with
      | fail => cases worked
      | _ =>
          obtain rfl := Option.some.inj worked
          exact ⟨_, _, .call nofun, rfl⟩

/-- What a step can do. -/
inductive Moves (threadCount : Nat) (state : MySqlState) : MySqlEvent → MySqlState → Prop where
  | addData {pack : DataPack} : Moves threadCount state (.addData pack)
      { state with threadPool := state.threadPool.submit (.fresh pack) }
  | take {threadPool : WorkerPool MySqlTask}
      (taken : state.threadPool.take (workerCount threadCount) = some threadPool) :
      Moves threadCount state .take { state with threadPool }
  | begin {index : Nat} {memory : Memory} {queries : Queries} {task : MySqlTask}
      {later : List HandlerStep} (found : state.threadPool.running[index]? = some task)
      (unbegun : task.steps = none) (decoded : steps memory queries task.pack = some later) :
      Moves threadCount state (.begin index memory queries)
        (state.progress index { task with steps := some later })
  | work {index : Nat} {task after : MySqlTask} {pool : MySqlPool} {step : HandlerStep}
      {rest : List HandlerStep} (found : state.threadPool.running[index]? = some task)
      (left : task.steps = some (step :: rest))
      (works : Works state.mySqlPool task rest step pool after) :
      Moves threadCount state (.work index)
        { state.progress index after with mySqlPool := pool }
  | finish {index : Nat} {task : MySqlTask} (found : state.threadPool.running[index]? = some task)
      (done : task.steps = some []) :
      Moves threadCount state (.finish index)
        { state with threadPool := state.threadPool.finish index }

theorem moves_of_step (stepped : state.step threadCount event = some next) :
    state.Moves threadCount event next := by
  cases event with
  | addData pack =>
      obtain rfl := Option.some.inj stepped
      exact .addData
  | take =>
      obtain ⟨threadPool, taken, rfl⟩ := Option.map_eq_some_iff.mp stepped
      exact .take taken
  | begin index memory queries =>
      obtain ⟨task, found, begun⟩ := Option.bind_eq_some_iff.mp stepped
      split at begun
      · cases begun
      · next unbegun =>
        obtain ⟨later, decoded, same⟩ := Option.bind_eq_some_iff.mp begun
        obtain rfl := Option.some.inj same
        exact .begin found (by simpa using unbegun) decoded
  | work index =>
      obtain ⟨task, found, worked⟩ := Option.bind_eq_some_iff.mp stepped
      split at worked
      · next step rest left =>
        obtain ⟨pool, after, works, rfl⟩ := works_of_work worked
        exact .work found left works
      · cases worked
  | finish index =>
      obtain ⟨task, found, finished⟩ := Option.bind_eq_some_iff.mp stepped
      split at finished
      · next done =>
        obtain rfl := Option.some.inj finished
        exact .finish found done
      · cases finished

/-- A task in order: before its handler begins it holds nothing; what is left of the
handler fits what it holds; and `mySql` is what it holds. -/
structure Sound (task : MySqlTask) : Prop where
  unbegun : task.steps = none → task.held = none
  paired : ∀ steps, task.steps = some steps → HandlerStep.Paired task.held.isSome steps
  same : ∀ mySql, task.held = some mySql → task.mySql = some mySql

/-- A handler at its end holds nothing. -/
theorem Sound.returned {task : MySqlTask} (sound : Sound task) (done : task.steps = some []) :
    task.held = none := by
  have paired := sound.paired _ done
  generalize task.held = holds at paired
  cases holds with
  | none => rfl
  | some _ => nomatch paired

theorem Works.sound {pool changed : MySqlPool} {task after : MySqlTask} {step : HandlerStep}
    {rest : List HandlerStep} (works : Works pool task rest step changed after)
    (sound : Sound task) (left : task.steps = some (step :: rest)) : Sound after := by
  have paired := sound.paired _ left
  cases works with
  | pop popped =>
      refine ⟨nofun, ?_, fun _ => id⟩
      rintro _ ⟨⟩
      generalize task.held.isSome = holds at paired
      cases paired with
      | pop holding => exact holding
  | push variable_ =>
      refine ⟨nofun, ?_, nofun⟩
      rintro _ ⟨⟩
      generalize task.held.isSome = holds at paired
      cases paired with
      | push without => exact without
  | call returns =>
      refine ⟨nofun, ?_, sound.same⟩
      rintro _ ⟨⟩
      generalize held : task.held.isSome = holds at paired
      cases paired with
      | call later => exact held ▸ later
      | fail => exact absurd rfl returns
  | ask =>
      refine ⟨nofun, ?_, sound.same⟩
      rintro _ ⟨⟩
      generalize held : task.held.isSome = holds at paired
      cases paired with
      | ask holding => exact held ▸ holding

/-- A step of a handler in order leaves the connections of the pool and its own together
what they were. -/
theorem Works.perm {pool changed : MySqlPool} {task after : MySqlTask} {step : HandlerStep}
    {rest : List HandlerStep} (works : Works pool task rest step changed after)
    (sound : Sound task) (left : task.steps = some (step :: rest)) :
    changed.count = pool.count ∧ (changed.mySqlVector ++ after.held.toList).Perm
      (pool.mySqlVector ++ task.held.toList) := by
  have paired := sound.paired _ left
  cases works with
  | pop popped =>
      obtain ⟨count, vector⟩ := MySqlPool.pop_cases popped
      generalize held : task.held = holds at paired
      cases holds with
      | none => exact ⟨count, by simp [vector]⟩
      | some _ => nomatch paired
  | @push mySql variable_ =>
      generalize held : task.held = holds at paired
      cases holds with
      | none => nomatch paired
      | some connection =>
          obtain rfl : mySql = connection :=
            Option.some.inj (variable_.symm.trans (sound.same _ held))
          exact ⟨rfl, by simp [MySqlPool.push]⟩
  | call _ => exact ⟨rfl, .refl _⟩
  | ask => exact ⟨rfl, .refl _⟩

/-- The connections in the vector and those held are the ones created, and every task is in
order. -/
structure Conserved (state : MySqlState) : Prop where
  connections : (state.mySqlPool.mySqlVector ++ state.held).Perm (List.range state.mySqlPool.count)
  fresh : ∀ task ∈ state.threadPool.queue, task = .fresh task.pack
  sound : ∀ task ∈ state.threadPool.running, Sound task

theorem conserved_construct (mySqlPoolCount : Int) : (construct mySqlPoolCount).Conserved where
  connections := by
    rw [held, construct, WorkerPool.empty, List.filterMap_nil, List.append_nil]
    exact .refl _
  fresh := nofun
  sound := nofun

theorem sound_fresh (pack : DataPack) : Sound (.fresh pack) := ⟨fun _ => rfl, nofun, nofun⟩

/-- A worker goes on to a task in order, which moves connections between the vector and
itself only. -/
theorem Conserved.progress {index : Nat} {task after : MySqlTask} {pool : MySqlPool}
    (conserved : state.Conserved) (found : state.threadPool.running[index]? = some task)
    (sound : Sound after) (count : pool.count = state.mySqlPool.count)
    (moved : (pool.mySqlVector ++ after.held.toList).Perm
      (state.mySqlPool.mySqlVector ++ task.held.toList)) :
    Conserved { state.progress index after with mySqlPool := pool } where
  connections := by
    have replaced := perm_filterMap_set found MySqlTask.held after
    refine List.Perm.trans (List.perm_iff_count.mpr fun mySql => ?_) (count ▸ conserved.connections)
    have inPool := moved.count_eq mySql
    have inTasks := replaced.count_eq mySql
    simp only [held, MySqlState.progress, WorkerPool.progress, List.count_append] at *
    omega
  fresh := conserved.fresh
  sound task member := by
    rcases List.mem_or_eq_of_mem_set member with old | rfl
    · exact conserved.sound task old
    · exact sound

theorem Conserved.moves (conserved : state.Conserved) (moves : state.Moves threadCount event next) :
    next.Conserved := by
  cases moves with
  | @addData pack =>
      refine ⟨conserved.connections, ?_, conserved.sound⟩
      intro task member
      rcases List.mem_append.mp member with old | new
      · exact conserved.fresh task old
      · exact (List.mem_singleton.mp new) ▸ rfl
  | take taken =>
      obtain ⟨task, rest, waits, _, rfl⟩ := WorkerPool.take_cases taken
      have isFresh := conserved.fresh task (by simp [waits])
      refine ⟨?_, fun other member => conserved.fresh other (by simp [waits, member]), ?_⟩
      · have heldByNone : (state.threadPool.running ++ [task]).filterMap MySqlTask.held =
            state.held := by
          rw [List.filterMap_append, isFresh]
          exact List.append_nil _
        simpa only [held, heldByNone] using conserved.connections
      · intro other member
        rcases List.mem_append.mp member with old | new
        · exact conserved.sound other old
        · rw [List.mem_singleton.mp new, isFresh]
          exact sound_fresh _
  | begin found unbegun decoded =>
      have sound := conserved.sound _ (List.mem_of_getElem? found)
      have nothing := sound.unbegun unbegun
      refine conserved.progress found ⟨nofun, ?_, sound.same⟩ rfl (.refl _)
      rintro _ ⟨⟩
      rw [nothing]
      unfold steps at decoded
      split at decoded
      · cases decoded
        exact .done
      · cases decoded
      · cases decoded
        exact HandlerStep.paired_handle _ _
  | work found left works =>
      have sound := conserved.sound _ (List.mem_of_getElem? found)
      obtain ⟨count, moved⟩ := works.perm sound left
      exact conserved.progress found (works.sound sound left) count moved
  | @finish index task found done =>
      obtain ⟨before, after, running, _, _, erased⟩ := split_of_getElem? found
      have nothing := (conserved.sound _ (List.mem_of_getElem? found)).returned done
      refine ⟨?_, conserved.fresh, ?_⟩
      · have connections := conserved.connections
        simp only [held, WorkerPool.finish, erased]
        rw [held, running] at connections
        simpa [nothing] using connections
      · exact fun other member => conserved.sound other (List.mem_of_mem_eraseIdx member)

theorem conserved_of_reachable {mySqlPoolCount : Int}
    (reachable : (mySqlSystem threadCount mySqlPoolCount).Reachable state) : state.Conserved :=
  reachable.invariant (conserved_construct mySqlPoolCount) fun _ _ _ conserved stepped =>
    conserved.moves (moves_of_step stepped)

/-- No more handlers run than there are workers, and no connection is created later. -/
structure Bounded (threadCount : Nat) (mySqlPoolCount : Int) (state : MySqlState) : Prop where
  running : state.threadPool.running.length ≤ workerCount threadCount
  count : state.mySqlPool.count = if mySqlPoolCount ≤ 0 then 1 else mySqlPoolCount.toNat

theorem bounded_of_reachable {mySqlPoolCount : Int}
    (reachable : (mySqlSystem threadCount mySqlPoolCount).Reachable state) :
    state.Bounded threadCount mySqlPoolCount := by
  refine reachable.invariant (⟨Nat.zero_le _, rfl⟩ : Bounded _ _ (construct mySqlPoolCount)) ?_
  rintro state event next ⟨few, count⟩ stepped
  cases moves_of_step stepped with
  | addData => exact ⟨few, count⟩
  | take taken => exact ⟨WorkerPool.length_running_take taken, count⟩
  | begin => exact ⟨WorkerPool.length_running_progress.trans_le few, count⟩
  | work _ _ works =>
      refine ⟨WorkerPool.length_running_progress.trans_le few, ?_⟩
      cases works with
      | pop popped => exact (MySqlPool.pop_cases popped).1.trans count
      | _ => exact count
  | finish => exact ⟨WorkerPool.length_running_finish.trans few, count⟩

/-- When the connections held are all different, so are the tasks that hold one. -/
theorem eq_of_held (different : state.held.Nodup) {left right : Nat} {leftTask rightTask : MySqlTask}
    {mySql : Nat} (isLeft : state.threadPool.running[left]? = some leftTask)
    (isRight : state.threadPool.running[right]? = some rightTask)
    (leftHolds : leftTask.held = some mySql) (rightHolds : rightTask.held = some mySql) :
    left = right := by
  obtain ⟨leftInside, rfl⟩ := List.getElem?_eq_some_iff.mp isLeft
  obtain ⟨rightInside, rfl⟩ := List.getElem?_eq_some_iff.mp isRight
  have apart := List.pairwise_iff_getElem.mp (List.pairwise_filterMap.mp different)
  rcases Nat.lt_trichotomy left right with less | same | more
  · exact absurd rfl (apart _ _ leftInside rightInside less _ leftHolds _ rightHolds)
  · exact same
  · exact absurd rfl (apart _ _ rightInside leftInside more _ rightHolds _ leftHolds)

/-- A handler that waits for `Pop` holds nothing, so the connections out of the vector are
fewer than the handlers that run. -/
theorem Conserved.held_lt (conserved : state.Conserved) {task : MySqlTask} {rest : List HandlerStep}
    (runs : task ∈ state.threadPool.running) (waits : task.steps = some (.pop :: rest)) :
    state.held.length < state.threadPool.running.length := by
  have paired := (conserved.sound task runs).paired _ waits
  refine List.length_filterMap_lt_length_iff_exists.mpr ⟨task, runs, ?_⟩
  generalize task.held = holds at paired
  cases holds with
  | none => rfl
  | some _ => nomatch paired

/-- With any number of threads and connections, in every reachable state: the connections in
the vector and those between `Pop` and `Push` are the ones created, none twice; no two
handlers hold the same; a handler that is at its end holds none; all are in the vector while
no handler is on its way; and with one connection more than threads the vector is not empty
when a handler comes to its `Pop`. -/
theorem connections_conserved {mySqlPoolCount : Int}
    (reachable : (mySqlSystem threadCount mySqlPoolCount).Reachable state) :
    state.mySqlPool.count = (if mySqlPoolCount ≤ 0 then 1 else mySqlPoolCount.toNat) ∧
      (state.mySqlPool.mySqlVector ++ state.held).Perm (List.range state.mySqlPool.count) ∧
      (state.mySqlPool.mySqlVector ++ state.held).Nodup ∧
      (∀ (left right : Nat) (leftTask rightTask : MySqlTask) (mySql : Nat),
        state.threadPool.running[left]? = some leftTask →
        state.threadPool.running[right]? = some rightTask →
        leftTask.held = some mySql → rightTask.held = some mySql → left = right) ∧
      (∀ task ∈ state.threadPool.running, task.steps = some [] → task.held = none) ∧
      ((∀ task ∈ state.threadPool.running, task.steps = none ∨ task.steps = some []) →
        state.mySqlPool.mySqlVector.Perm (List.range state.mySqlPool.count)) ∧
      (mySqlPoolCount = threadCount + 1 → ∀ task ∈ state.threadPool.running, ∀ rest,
        task.steps = some (.pop :: rest) → state.mySqlPool.mySqlVector ≠ []) := by
  have conserved := conserved_of_reachable reachable
  obtain ⟨few, count⟩ := bounded_of_reachable reachable
  have nodup : (state.mySqlPool.mySqlVector ++ state.held).Nodup :=
    conserved.connections.nodup_iff.mpr List.nodup_range
  refine ⟨count, conserved.connections, nodup, ?_, ?_, ?_, ?_⟩
  · exact fun left right leftTask rightTask mySql =>
      eq_of_held (List.nodup_append.mp nodup).2.1
  · exact fun task runs done => (conserved.sound task runs).returned done
  · intro nobody
    have nothingHeld : state.held = [] := by
      refine List.filterMap_eq_nil_iff.mpr fun task runs => ?_
      rcases nobody task runs with unbegun | done
      · exact (conserved.sound task runs).unbegun unbegun
      · exact (conserved.sound task runs).returned done
    simpa [nothingHeld] using conserved.connections
  · intro oneMore task runs rest waits empty
    have fewer := conserved.held_lt runs waits
    have all := conserved.connections.length_eq
    rw [empty, List.nil_append, List.length_range, count] at all
    unfold workerCount at few
    split at few <;> split at all <;> omega

/-- User 5 asks for his messages. -/
def asksForMessages : DataPack :=
  ⟨9, [16, 0, 0, 0, 102, 0, 0, 0, 0, 0, 0, 0, 5, 0, 0, 0], 0⟩

/-- Two requests, each with a worker: one handler has its connection, the other comes to its
`Pop`. -/
def oneHolds : List MySqlEvent :=
  [.addData asksForMessages, .addData asksForMessages, .take, .take, .begin 0 .zeroed .empty,
    .begin 1 .zeroed .empty, .work 0]

/-- With the eight threads and nine connections of the server's configuration. -/
theorem oneHolds_conserved :
    ∃ state : MySqlState, (mySqlSystem 8 9).Reachable state ∧ state.held = [8] ∧
      state.mySqlPool.mySqlVector = List.range 8 ∧
      (state.mySqlPool.mySqlVector ++ state.held).Nodup ∧
      ∀ task ∈ state.threadPool.running, ∀ rest, task.steps = some (.pop :: rest) →
        state.mySqlPool.mySqlVector ≠ [] := by
  have followed : (LabelledSystem.follow (step 8) (fun _ _ _ => True) (construct 9) oneHolds).map
      (fun state => (state.held, state.mySqlPool.mySqlVector)) = some ([8], List.range 8) := rfl
  obtain ⟨state, ran, contents⟩ := Option.map_eq_some_iff.mp followed
  obtain ⟨held, vector⟩ := Prod.mk.inj contents
  have reachable : (mySqlSystem 8 9).Reachable state := ⟨_, LabelledSystem.runs_of_follow ran⟩
  obtain ⟨_, _, nodup, _, _, _, never⟩ := connections_conserved reachable
  exact ⟨state, reachable, held, vector, nodup, never rfl⟩

end MySqlState

end SocketMessage.Server
