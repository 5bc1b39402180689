import SocketMessage.Lib.WorkerPool
import SocketMessage.Server.Outbound
import SocketMessage.Server.Relay

/-!
# Packages on their way in

`AddData` queues a task for every package, in the order in which the framer hands them
over, and the workers of `DataHandler`'s pool run the handlers. A handler is taken apart:
first its statement, of which an `INSERT` gets the id that is next at that moment, then
one call after the other, with those of other handlers in between.
-/

namespace SocketMessage.Server

open SocketMessage.Lib SocketMessage.Wire

/-- The task of a package: the how-manieth it is, and the calls its handler has still to
make, once it has asked the database. -/
structure HandlerTask where
  number : Nat
  pack : DataPack
  calls : Option (List HandlerAction)
deriving DecidableEq, Repr

/-- The packages whose handler has asked the database. -/
def HandlerTask.started (task : HandlerTask) : Option Nat := task.calls.map fun _ => task.number

/-- `DataHandler` with its database. `arrived` are the packages handed to `AddData`,
`stored` the messages that became rows with their `MsgId`s, `handled` the packages whose
handler has asked the database, `finished` those whose handler has returned, each in the
order in which that happened, `sent` what was handed to `SendPackage`. -/
structure InboundState where
  threadPool : WorkerPool HandlerTask
  database : Database
  onlineUserMap : OrderedMap Int Int
  arrived : List DataPack
  stored : List (Nat × CInt)
  handled : List Nat
  finished : List Nat
  sent : List (Int × List Byte)

/-- What happens next: a package arrives; a worker takes a task, asks the database, which
may refuse the `INSERT`, makes the next call, returns. -/
inductive InboundEvent where
  | addData (pack : DataPack)
  | take
  | query (index : Nat) (memory : Memory) (accepted : Bool) (queries : Queries)
  | act (index : Nat)
  | finish (index : Nat)

namespace InboundState

/-- Nothing has arrived and nobody is online. -/
def start (database : Database) : InboundState where
  threadPool := .empty
  database
  onlineUserMap := .empty
  arrived := []
  stored := []
  handled := []
  finished := []
  sent := []

/-- The statement of a chat message's handler. -/
def insert (state : InboundState) (number : Nat) (accepted : Bool) (now : CInt)
    (clientMsg : DataMsg) : InboundState :=
  let saved := saveMsgData state.database accepted { clientMsg with createdTime := now }
  { state with
    database := saved.1
    stored := if saved.2.2 then state.stored ++ [(number, saved.2.1.msgId)] else state.stored }

/-- The first half of a handler. A package that is dropped has no calls. -/
def query (state : InboundState) (index number : Nat) (pack : DataPack) (memory : Memory)
    (accepted : Bool) (queries : Queries) : Option InboundState :=
  let proceed (state : InboundState) (calls : List HandlerAction) : InboundState :=
    { state with
      threadPool := state.threadPool.progress index ⟨number, pack, some calls⟩
      handled := state.handled ++ [number] }
  match threadWork memory pack.data with
  | .dropped => some (proceed state [])
  | .outside => none
  | .decoded (.dataMsg clientMsg) =>
      let queries := { queries with saveMsgData := fun clientMsg =>
        (saveMsgData state.database accepted clientMsg).2.1.msgId }
      some (proceed (state.insert number accepted queries.timeStampSeconds clientMsg)
        (handle queries (.dataMsg clientMsg)))
  | .decoded request => some (proceed state (handle queries request))

/-- One call of a handler. -/
def act (state : InboundState) (pack : DataPack) : HandlerAction → Option InboundState
  | .answer data => some { state with sent := state.sent ++ [(pack.cfd, data)] }
  | .clientOpen userId =>
      some { state with onlineUserMap := clientOpen state.onlineUserMap pack.cfd userId.toInt }
  | .relay userId data =>
      let cfd := userId2Cfd state.onlineUserMap userId.toInt
      some (if cfd > 0 then { state with sent := state.sent ++ [(cfd, data)] } else state)
  | .fail => none

/-- One step with a pool of so many threads. A handler that reads out of range or throws
ends the run. -/
def step (threadCount : Nat) (state : InboundState) : InboundEvent → Option InboundState
  | .addData pack =>
      some { state with
        threadPool := state.threadPool.submit ⟨state.arrived.length, pack, none⟩
        arrived := state.arrived ++ [pack] }
  | .take => (state.threadPool.take (workerCount threadCount)).map fun threadPool =>
      { state with threadPool }
  | .query index memory accepted queries =>
      match state.threadPool.running[index]? with
      | some ⟨number, pack, none⟩ => state.query index number pack memory accepted queries
      | _ => none
  | .act index =>
      match state.threadPool.running[index]? with
      | some ⟨number, pack, some (call :: rest)⟩ =>
          (state.act pack call).map fun state =>
            { state with threadPool := state.threadPool.progress index ⟨number, pack, some rest⟩ }
      | _ => none
  | .finish index =>
      match state.threadPool.running[index]? with
      | some ⟨number, _, some []⟩ =>
          some { state with
            threadPool := state.threadPool.finish index
            finished := state.finished ++ [number] }
      | _ => none

end InboundState

/-- `DataHandler` over a database, with a pool that was created with a thread count. -/
def inboundSystem (threadCount : Nat) (database : Database) :
    LabelledSystem InboundState InboundEvent :=
  .ofStep (.start database) (InboundState.step threadCount)

namespace InboundState

variable {threadCount : Nat} {state next : InboundState} {event : InboundEvent}

/-- What a step can be. -/
inductive Moves (threadCount : Nat) (state : InboundState) : InboundEvent → InboundState → Prop where
  | addData {pack : DataPack} : Moves threadCount state (.addData pack)
      { state with
        threadPool := state.threadPool.submit ⟨state.arrived.length, pack, none⟩
        arrived := state.arrived ++ [pack] }
  | take {threadPool : WorkerPool HandlerTask}
      (taken : state.threadPool.take (workerCount threadCount) = some threadPool) :
      Moves threadCount state .take { state with threadPool }
  | query {index number : Nat} {pack : DataPack} {memory : Memory} {accepted : Bool}
      {queries : Queries} {next : InboundState}
      (found : state.threadPool.running[index]? = some ⟨number, pack, none⟩)
      (asked : state.query index number pack memory accepted queries = some next) :
      Moves threadCount state (.query index memory accepted queries) next
  | act {index number : Nat} {pack : DataPack} {call : HandlerAction} {rest : List HandlerAction}
      {after : InboundState}
      (found : state.threadPool.running[index]? = some ⟨number, pack, some (call :: rest)⟩)
      (acted : state.act pack call = some after) :
      Moves threadCount state (.act index)
        { after with threadPool := after.threadPool.progress index ⟨number, pack, some rest⟩ }
  | finish {index number : Nat} {pack : DataPack}
      (found : state.threadPool.running[index]? = some ⟨number, pack, some []⟩) :
      Moves threadCount state (.finish index)
        { state with
          threadPool := state.threadPool.finish index
          finished := state.finished ++ [number] }

theorem moves_of_step (stepped : state.step threadCount event = some next) :
    state.Moves threadCount event next := by
  cases event with
  | addData pack =>
      obtain rfl := Option.some.inj stepped
      exact .addData
  | take =>
      obtain ⟨threadPool, taken, rfl⟩ := Option.map_eq_some_iff.mp stepped
      exact .take taken
  | query index memory accepted queries =>
      simp only [step] at stepped
      split at stepped
      · next found => exact .query found stepped
      · cases stepped
  | act index =>
      simp only [step] at stepped
      split at stepped
      · next number pack call rest found =>
        obtain ⟨after, acted, rfl⟩ := Option.map_eq_some_iff.mp stepped
        exact .act found acted
      · cases stepped
  | finish index =>
      simp only [step] at stepped
      split at stepped
      · next number pack found =>
        obtain rfl := Option.some.inj stepped
        exact .finish found
      · cases stepped

/-! ## The ids of the stored messages -/

/-- The table stays as it is, or gets a row for a package under its next id. -/
def Inserts (before after : InboundState) (number : Nat) : Prop :=
  after.stored = before.stored ∧ after.database.autoIncrement = before.database.autoIncrement ∨
    ∃ msgId : CInt, after.stored = before.stored ++ [(number, msgId)] ∧
      msgId.toInt = before.database.autoIncrement ∧
      after.database.autoIncrement = before.database.autoIncrement + 1

theorem inserts_insert (number : Nat) (accepted : Bool) (now : CInt) (clientMsg : DataMsg) :
    state.Inserts (state.insert number accepted now clientMsg) number := by
  simp only [insert, saveMsgData]
  split
  · next possible =>
    have msgId := toInt_ofNat_of_lt possible.2
    have notZero : BitVec.ofNat 32 state.database.autoIncrement ≠ 0#32 := by
      intro zero
      have positive := state.database.positive
      rw [zero, BitVec.toInt_zero] at msgId
      omega
    refine Or.inr ⟨_, if_pos ?_, msgId, rfl⟩
    simpa using notZero
  · exact Or.inl ⟨rfl, rfl⟩

/-- The first half of a handler: it has asked the database, and has its calls to make. -/
theorem query_cases {index number : Nat} {pack : DataPack} {memory : Memory} {accepted : Bool}
    {queries : Queries}
    (asked : state.query index number pack memory accepted queries = some next) :
    ∃ calls, next.threadPool = state.threadPool.progress index ⟨number, pack, some calls⟩ ∧
      next.handled = state.handled ++ [number] ∧ next.finished = state.finished ∧
      next.arrived = state.arrived ∧ state.Inserts next number := by
  unfold query at asked
  split at asked
  · obtain rfl := Option.some.inj asked
    exact ⟨_, rfl, rfl, rfl, rfl, Or.inl ⟨rfl, rfl⟩⟩
  · cases asked
  · obtain rfl := Option.some.inj asked
    exact ⟨_, rfl, rfl, rfl, rfl, inserts_insert _ _ _ _⟩
  · obtain rfl := Option.some.inj asked
    exact ⟨_, rfl, rfl, rfl, rfl, Or.inl ⟨rfl, rfl⟩⟩

/-- A call changes neither the tasks nor the table. -/
theorem act_cases {pack : DataPack} {call : HandlerAction}
    (acted : state.act pack call = some next) :
    next.threadPool = state.threadPool ∧ next.handled = state.handled ∧
      next.finished = state.finished ∧ next.arrived = state.arrived ∧
        next.stored = state.stored ∧ next.database = state.database := by
  cases call with
  | answer data =>
      obtain rfl := Option.some.inj acted
      exact ⟨rfl, rfl, rfl, rfl, rfl, rfl⟩
  | clientOpen userId =>
      obtain rfl := Option.some.inj acted
      exact ⟨rfl, rfl, rfl, rfl, rfl, rfl⟩
  | relay userId data =>
      obtain rfl := Option.some.inj acted
      split <;> exact ⟨rfl, rfl, rfl, rfl, rfl, rfl⟩
  | fail => cases acted

/-- Every new row gets a larger id than all before it. -/
structure Increasing (state : InboundState) : Prop where
  used : ∀ entry ∈ state.stored, entry.2.toInt < state.database.autoIncrement
  ordered : state.stored.Pairwise fun earlier later => earlier.2.toInt < later.2.toInt

theorem Increasing.inserts (increasing : state.Increasing) (number : Nat)
    (inserts : state.Inserts next number) : next.Increasing := by
  obtain ⟨used, ordered⟩ := increasing
  rcases inserts with ⟨stored, autoIncrement⟩ | ⟨msgId, stored, isNext, autoIncrement⟩
  · refine ⟨?_, ?_⟩
    · rw [stored, autoIncrement]
      exact used
    · rw [stored]
      exact ordered
  · refine ⟨?_, ?_⟩
    · intro entry member
      rw [stored] at member
      rw [autoIncrement]
      rcases List.mem_append.mp member with earlier | last
      · have below := used entry earlier
        omega
      · obtain rfl := List.mem_singleton.mp last
        simp only
        omega
    · rw [stored, List.pairwise_append]
      refine ⟨ordered, List.pairwise_singleton _ _, ?_⟩
      intro entry earlier last isLast
      obtain rfl := List.mem_singleton.mp isLast
      simp only [isNext]
      exact used entry earlier

theorem Increasing.move (increasing : state.Increasing)
    (moved : state.Moves threadCount event next) : next.Increasing := by
  cases moved with
  | query _ asked =>
      obtain ⟨_, _, _, _, _, inserts⟩ := query_cases asked
      exact increasing.inserts _ inserts
  | @act _ number _ _ _ _ _ acted =>
      obtain ⟨_, _, _, _, stored, database⟩ := act_cases acted
      exact increasing.inserts number (Or.inl ⟨stored, congrArg Database.autoIncrement database⟩)
  | addData | take | finish => exact ⟨increasing.used, increasing.ordered⟩

/-! ## One worker -/

/-- What holds with a single worker: the packages are handled one after the other, in the
order of their arrival. -/
structure Serial (state : InboundState) : Prop where
  single : state.threadPool.running.length ≤ 1
  fresh : ∀ task ∈ state.threadPool.queue, task.calls = none
  numbers : state.finished ++ state.threadPool.pending.map HandlerTask.number =
    List.range state.arrived.length
  handled : state.handled =
    state.finished ++ state.threadPool.running.filterMap HandlerTask.started
  stored : (state.stored.map Prod.fst).Sublist state.handled

/-- A new package is the last in turn. -/
theorem Serial.addData (serial : state.Serial) (pack : DataPack) :
    Serial { state with
      threadPool := state.threadPool.submit ⟨state.arrived.length, pack, none⟩
      arrived := state.arrived ++ [pack] } where
  single := serial.single
  fresh := by
    intro task member
    rcases List.mem_append.mp member with earlier | last
    · exact serial.fresh task earlier
    · obtain rfl := List.mem_singleton.mp last
      rfl
  numbers := by
    rw [WorkerPool.pending_submit, List.map_append, ← List.append_assoc, serial.numbers]
    simp [List.range_succ]
  handled := serial.handled
  stored := serial.stored

/-- The worker takes the next package, whose handler has not begun. -/
theorem Serial.take (serial : state.Serial) {threadPool : WorkerPool HandlerTask}
    (taken : state.threadPool.take 1 = some threadPool) :
    Serial { state with threadPool } := by
  have bounded := WorkerPool.length_running_take taken
  have pending := WorkerPool.pending_take taken
  obtain ⟨task, rest, waits, free, rfl⟩ := WorkerPool.take_cases taken
  have isFresh : task.started = none := by
    rw [HandlerTask.started, serial.fresh task (by rw [waits]; exact List.mem_cons_self)]
    rfl
  refine ⟨bounded, ?_, ?_, ?_, serial.stored⟩
  · intro other member
    exact serial.fresh other (by rw [waits]; exact List.mem_cons_of_mem _ member)
  · rw [pending]
    exact serial.numbers
  · rw [serial.handled]
    simp [isFresh]

/-- The handler begins; it may store a row. -/
theorem Serial.query (serial : state.Serial) {index number : Nat} {pack : DataPack}
    {calls : List HandlerAction}
    (found : state.threadPool.running[index]? = some ⟨number, pack, none⟩)
    (threadPool : next.threadPool = state.threadPool.progress index ⟨number, pack, some calls⟩)
    (handled : next.handled = state.handled ++ [number])
    (finished : next.finished = state.finished) (arrived : next.arrived = state.arrived)
    (inserts : state.Inserts next number) : next.Serial := by
  obtain ⟨running, progressed, _⟩ := WorkerPool.running_of_single serial.single found
  rw [progressed] at threadPool
  refine ⟨?_, ?_, ?_, ?_, ?_⟩
  · simp [threadPool]
  · rw [threadPool]
    exact serial.fresh
  · rw [finished, arrived, threadPool, ← serial.numbers]
    simp [WorkerPool.pending, running]
  · rw [handled, serial.handled, finished, threadPool]
    simp [running, HandlerTask.started]
  · rw [handled]
    rcases inserts with ⟨same, _⟩ | ⟨msgId, appended, _, _⟩
    · rw [same]
      exact serial.stored.trans (List.sublist_append_left _ _)
    · rw [appended, List.map_append]
      exact serial.stored.append (List.Sublist.refl _)

/-- The handler makes one of its calls. -/
theorem Serial.act (serial : state.Serial) {index number : Nat} {pack : DataPack}
    {call : HandlerAction} {rest : List HandlerAction}
    (found : state.threadPool.running[index]? = some ⟨number, pack, some (call :: rest)⟩)
    (acted : state.act pack call = some next) :
    Serial { next with
      threadPool := next.threadPool.progress index ⟨number, pack, some rest⟩ } := by
  obtain ⟨threadPool, handled, finished, arrived, stored, _⟩ := act_cases acted
  obtain ⟨running, progressed, _⟩ := WorkerPool.running_of_single serial.single found
  rw [threadPool, progressed]
  refine ⟨Nat.le_refl _, serial.fresh, ?_, ?_, ?_⟩
  · simp only [finished, arrived, ← serial.numbers]
    simp [WorkerPool.pending, running]
  · simp only [handled, serial.handled, finished]
    simp [running, HandlerTask.started]
  · simpa only [stored, handled] using serial.stored

/-- The handler returns. -/
theorem Serial.finish (serial : state.Serial) {index number : Nat} {pack : DataPack}
    (found : state.threadPool.running[index]? = some ⟨number, pack, some []⟩) :
    Serial { state with
      threadPool := state.threadPool.finish index
      finished := state.finished ++ [number] } := by
  obtain ⟨running, _, ended⟩ := WorkerPool.running_of_single serial.single found
  rw [ended]
  refine ⟨Nat.zero_le _, serial.fresh, ?_, ?_, serial.stored⟩
  · rw [← serial.numbers]
    simp [WorkerPool.pending, running]
  · rw [serial.handled]
    simp [running, HandlerTask.started]

/-- The single worker stays in turn. -/
theorem Serial.move (serial : state.Serial) (few : threadCount ≤ 1)
    (moved : state.Moves threadCount event next) : next.Serial := by
  cases moved with
  | addData => exact serial.addData _
  | take taken =>
      have workers : workerCount threadCount = 1 := by
        unfold workerCount
        split <;> omega
      exact serial.take (workers ▸ taken)
  | query found asked =>
      obtain ⟨_, threadPool, handled, finished, arrived, inserts⟩ := query_cases asked
      exact serial.query found threadPool handled finished arrived inserts
  | act found acted => exact serial.act found acted
  | finish found => exact serial.finish found

/-- A `DataHandler` that has just started. -/
theorem serial_start (database : Database) : (start database).Serial where
  single := Nat.zero_le _
  fresh _ member := by cases member
  numbers := rfl
  handled := rfl
  stored := .slnil

theorem increasing_start (database : Database) : (start database).Increasing where
  used _ member := by cases member
  ordered := .nil

/-- What a connection can count on: its stored messages have increasing ids in the order
of their arrival, and when a chat message or a history request is handled, the handler of
every earlier login has returned. -/
structure InArrivalOrder (state : InboundState) : Prop where
  msgIds : ∀ earlier later first second, earlier ∈ state.stored → later ∈ state.stored →
    earlier.1 < later.1 → state.arrived[earlier.1]? = some first →
    state.arrived[later.1]? = some second → first.origin = second.origin →
    earlier.2.toInt < later.2.toInt
  afterLogin : ∀ earlier later first second, earlier < later →
    state.arrived[earlier]? = some first → state.arrived[later]? = some second →
    first.origin = second.origin → dispatchedType serverDataTypes first.data = some .c2SLogin →
    dispatchedType serverDataTypes second.data = some .c2SDataMsg ∨
      dispatchedType serverDataTypes second.data = some .c2SGetDataMsgList →
    later ∈ state.handled → earlier ∈ state.finished

/-- In turn, the packages handled are the first that arrived, and at most one of them has
a handler that has not returned. -/
theorem Serial.handled_first (serial : state.Serial) :
    state.handled <+: List.range state.arrived.length ∧
      state.handled.length ≤ state.finished.length + 1 := by
  obtain ⟨single, _, numbers, handled, _⟩ := serial
  rw [handled, ← numbers]
  match running : state.threadPool.running, single with
  | [], _ => simp
  | [task], _ =>
      rw [WorkerPool.pending, running]
      cases started : task.started with
      | none => simp [started]
      | some number =>
          obtain ⟨_, _, rfl⟩ := Option.map_eq_some_iff.mp started
          simp [started]

/-- In turn, whoever is handled comes after all that arrived before. -/
theorem Serial.finished_of_handled (serial : state.Serial) {earlier later : Nat}
    (before : earlier < later) (handled : later ∈ state.handled) : earlier ∈ state.finished := by
  obtain ⟨first, almostAll⟩ := serial.handled_first
  have finishedFirst : state.finished <+: List.range state.arrived.length :=
    ⟨_, serial.numbers⟩
  rw [eq_range_of_initial first, List.mem_range] at handled
  rw [eq_range_of_initial finishedFirst, List.mem_range]
  omega

/-- In turn, rows are stored in the order of arrival. -/
theorem Serial.stored_ordered (serial : state.Serial) :
    state.stored.Pairwise fun earlier later => earlier.1 < later.1 := by
  have inOrder : state.handled.Pairwise (· < ·) := by
    rw [eq_range_of_initial serial.handled_first.1]
    exact List.pairwise_lt_range
  exact List.pairwise_map.mp (inOrder.sublist serial.stored)

/-- With one worker everything is in the order of arrival. -/
theorem inArrivalOrder_of_few {database : Database} (few : threadCount ≤ 1)
    (reachable : (inboundSystem threadCount database).Reachable state) : state.InArrivalOrder := by
  have serial : state.Serial := reachable.invariant (serial_start database)
    fun _ _ _ serial stepped => serial.move few (moves_of_step stepped)
  have increasing : state.Increasing := reachable.invariant (increasing_start database)
    fun _ _ _ increasing stepped => increasing.move (moves_of_step stepped)
  refine ⟨?_, ?_⟩
  · intro earlier later _ _ earlierStored laterStored before _ _ _
    exact lt_of_pairwise serial.stored_ordered increasing.ordered earlierStored laterStored before
  · intro earlier later _ _ before _ _ _ _ _ handled
    exact serial.finished_of_handled before handled

/-! ## Two workers -/

/-- A larger pool can do what a smaller one can. -/
theorem step_mono {more : Nat} (enough : threadCount ≤ more)
    (stepped : state.step threadCount event = some next) : state.step more event = some next := by
  cases event with
  | take =>
      obtain ⟨threadPool, taken, rfl⟩ := Option.map_eq_some_iff.mp stepped
      exact Option.map_eq_some_iff.mpr
        ⟨threadPool, WorkerPool.take_mono (workerCount_mono enough) taken, rfl⟩
  | addData | query | act | finish => exact stepped

theorem reachable_mono {more : Nat} {database : Database} (enough : threadCount ≤ more)
    (reachable : (inboundSystem threadCount database).Reachable state) :
    (inboundSystem more database).Reachable state :=
  reachable.mono (fun _ => id) fun _ _ _ => step_mono enough

/-- The packages of connection 0, under fd 9. -/
def fromFd9 (data : List Byte) : DataPack := ⟨9, data, 0⟩

/-- A login without a name. -/
def someLogin : List Byte := [44, 0, 0, 0, 100, 0, 0, 0] ++ List.replicate 36 0

/-- User 5 asks for his history. -/
def someHistory : List Byte := [16, 0, 0, 0, 102, 0, 0, 0, 0, 0, 0, 0, 5, 0, 0, 0]

/-- Two packages arrive, and two workers take one each. -/
def bothTaken (first second : List Byte) : List InboundEvent :=
  [.addData (fromFd9 first), .addData (fromFd9 second), .take, .take]

/-- From two threads on a history request can be handled while the login before it is
not. -/
theorem exists_overtaken (many : 2 ≤ threadCount) (database : Database) :
    ∃ state, (inboundSystem threadCount database).Reachable state ∧
      state.arrived = [fromFd9 someLogin, fromFd9 someHistory] ∧ state.handled = [1] ∧
        state.finished = [] := by
  have followed : (LabelledSystem.follow (step 2) (fun _ _ _ => True) (start database)
      (bothTaken someLogin someHistory ++ [.query 1 .zeroed true .empty])).map
        (fun state => (state.arrived, state.handled, state.finished)) =
          some ([fromFd9 someLogin, fromFd9 someHistory], [1], []) := rfl
  obtain ⟨state, ran, contents⟩ := Option.map_eq_some_iff.mp followed
  obtain ⟨arrived, contents⟩ := Prod.mk.inj contents
  obtain ⟨handled, finished⟩ := Prod.mk.inj contents
  have reachable : (inboundSystem 2 database).Reachable state :=
    ⟨_, LabelledSystem.runs_of_follow ran⟩
  exact ⟨state, reachable_mono many reachable, arrived, handled, finished⟩

/-- A request that has overtaken the login is not in the order of arrival. -/
theorem not_inArrivalOrder (arrived : state.arrived = [fromFd9 someLogin, fromFd9 someHistory])
    (handled : state.handled = [1]) (finished : state.finished = []) : ¬ state.InArrivalOrder := by
  intro inOrder
  have login : dispatchedType serverDataTypes (fromFd9 someLogin).data = some .c2SLogin := by
    decide
  have history : dispatchedType serverDataTypes (fromFd9 someHistory).data =
      some .c2SGetDataMsgList := by decide
  have loginFinished := inOrder.afterLogin 0 1 (fromFd9 someLogin) (fromFd9 someHistory)
    (by decide) (by simp [arrived]) (by simp [arrived]) rfl login (Or.inr history)
    (by simp [handled])
  rw [finished] at loginFinished
  cases loginFinished

/-- For every thread count and every database: the packages of each connection are handled
in the order of their arrival in every run exactly when the pool has one thread. -/
theorem inboundOrder_iff (threadCount : Nat) (database : Database) :
    (∀ state, (inboundSystem threadCount database).Reachable state → state.InArrivalOrder) ↔
      threadCount ≤ 1 := by
  constructor
  · intro inOrder
    by_contra many
    obtain ⟨state, reachable, arrived, handled, finished⟩ :=
      exists_overtaken (Nat.lt_of_not_le many) database
    exact not_inArrivalOrder arrived handled finished (inOrder state reachable)
  · intro few state reachable
    exact inArrivalOrder_of_few few reachable

/-- With the eight threads of the server's configuration: of two messages of one connection
the second becomes row 1000000 and the first row 1000001, and a history request is handled
while the login before it is not. -/
theorem eightThreads_requestOvertaken :
    (∃ state, (inboundSystem 8 noRows).Reachable state ∧
        state.arrived = [fromFd9 from7To5, fromFd9 from7To5] ∧
        state.stored = [(1, 1000000), (0, 1000001)] ∧ ¬ state.InArrivalOrder) ∧
      ∃ state, (inboundSystem 8 noRows).Reachable state ∧
        state.arrived = [fromFd9 someLogin, fromFd9 someHistory] ∧ state.handled = [1] ∧
          state.finished = [] := by
  refine ⟨?_, exists_overtaken (by decide) noRows⟩
  have followed : (LabelledSystem.follow (step 8) (fun _ _ _ => True) (start noRows)
      (bothTaken from7To5 from7To5 ++
        [.query 1 .zeroed true .empty, .query 0 .zeroed true .empty])).map
          (fun state => (state.arrived, state.stored)) =
            some ([fromFd9 from7To5, fromFd9 from7To5], [(1, 1000000), (0, 1000001)]) := rfl
  obtain ⟨state, ran, contents⟩ := Option.map_eq_some_iff.mp followed
  obtain ⟨arrived, stored⟩ := Prod.mk.inj contents
  refine ⟨state, ⟨_, LabelledSystem.runs_of_follow ran⟩, arrived, stored, ?_⟩
  intro inOrder
  have increasing := inOrder.msgIds (0, 1000001) (1, 1000000) _ _ (by simp [stored])
    (by simp [stored]) (by decide) (by rw [arrived]; rfl) (by rw [arrived]; rfl) rfl
  exact absurd increasing (by decide)

end InboundState

end SocketMessage.Server
