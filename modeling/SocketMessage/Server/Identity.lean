import SocketMessage.Server.Relay
import SocketMessage.Server.TaskQueue

/-!
# In whose name

A chat message names its sender and a request for the history names a user, and the
handlers take both from the package: nothing compares them with who has logged in on the
connection. The server is run here with an account of what it does in whose name. A message
is relayed, and a history sent, when it is appended to the write buffer of a connection:
`SendPackage` may refuse it, and its task may find another connection under the fd, or none.
-/

namespace SocketMessage.Server

open SocketMessage.Lib SocketMessage.Frame SocketMessage.Wire

/-- A chat message as its handler stores it: the server's time, and the `MsgId`. -/
def Queries.saved (queries : Queries) (clientMsg : DataMsg) : DataMsg :=
  let clientMsg := { clientMsg with createdTime := queries.timeStampSeconds }
  { clientMsg with msgId := queries.saveMsgData clientMsg }

/-- The message as its handler relays it. -/
def Queries.relayedMsg (queries : Queries) (clientMsg : DataMsg) : DataMsg :=
  { queries.saved clientMsg with dataType := EDataType.s2CDataMsg.value }

/-- A history that was sent: to which connection, for whose request, of which user. -/
structure SentList where
  connection : Nat
  origin : Nat
  userId : CInt
deriving DecidableEq, Repr

/-- What a queued task of `SocketControl` carries to a connection because of a package from
`origin`: a message that is relayed, a history, or neither. -/
inductive Carried where
  | message (origin : Nat) (serverMsg : DataMsg)
  | history (origin : Nat) (userId : CInt)
  | other
deriving DecidableEq, Repr

/-- What was done in whose name: who has logged in successfully on which connection; the
rows inserted and the messages relayed because of which connection's packages; the
histories that were sent. -/
structure Audit where
  logins : List (Nat × CInt)
  rows : List (Nat × MsgRow)
  relays : List (Nat × DataMsg)
  lists : List SentList

namespace Audit

/-- What the handler of a package does at once. -/
def record (audit : Audit) (pack : DataPack) (queries : Queries) : Request → Audit
  | .login login =>
      let (isLogin, loginRet) := queries.login login
      if isLogin then { audit with logins := audit.logins ++ [(pack.origin, loginRet.userId)] }
      else audit
  | .dataMsg clientMsg =>
      let saved := queries.saved clientMsg
      if saved.msgId ≠ 0 then { audit with rows := audit.rows ++ [(pack.origin, .ofDataMsg saved)] }
      else audit
  | .getDataMsgList _ => audit

/-- What a task has carried is appended to a connection's write buffer. -/
def sent (audit : Audit) (connection : Nat) : Carried → Audit
  | .message origin serverMsg => { audit with relays := audit.relays ++ [(origin, serverMsg)] }
  | .history origin userId => { audit with lists := audit.lists ++ [⟨connection, origin, userId⟩] }
  | .other => audit

/-- Everything was done in the name of somebody who has logged in on the connection: rows and
messages on the one whose package it was, a history on the one it was sent to, and somebody has
logged in on the one that has asked for it. -/
structure OnlyLoggedIn (audit : Audit) : Prop where
  rows : ∀ entry ∈ audit.rows, ∃ sender, entry.2.sender = some sender ∧
    (entry.1, sender) ∈ audit.logins
  relays : ∀ entry ∈ audit.relays, (entry.1, entry.2.sender) ∈ audit.logins
  lists : ∀ entry ∈ audit.lists, (entry.connection, entry.userId) ∈ audit.logins ∧
    ∃ userId, (entry.origin, userId) ∈ audit.logins

/-- A connection has caused no row, no message and no history, and was sent none. -/
structure Silent (audit : Audit) (connection : Nat) : Prop where
  rows : ∀ row, (connection, row) ∉ audit.rows
  relays : ∀ serverMsg, (connection, serverMsg) ∉ audit.relays
  lists : ∀ entry ∈ audit.lists, entry.connection ≠ connection ∧ entry.origin ≠ connection

/-- Whether what a task carries is allowed to reach a connection. -/
def Entitled (audit : Audit) (connection : Nat) : Carried → Prop
  | .message origin serverMsg => (origin, serverMsg.sender) ∈ audit.logins
  | .history origin userId => (connection, userId) ∈ audit.logins ∧
      ∃ userId, (origin, userId) ∈ audit.logins
  | .other => True

/-- The user a package names has logged in on the connection it came from. -/
def Names (audit : Audit) (pack : DataPack) : Request → Prop
  | .login _ => True
  | .dataMsg clientMsg => (pack.origin, clientMsg.sender) ∈ audit.logins
  | .getDataMsgList request => (pack.origin, request.userId) ∈ audit.logins

instance (audit : Audit) (pack : DataPack) (request : Request) :
    Decidable (audit.Names pack request) :=
  match request with
  | .login _ => inferInstanceAs (Decidable True)
  | .dataMsg clientMsg =>
      inferInstanceAs (Decidable ((pack.origin, clientMsg.sender) ∈ audit.logins))
  | .getDataMsgList request =>
      inferInstanceAs (Decidable ((pack.origin, request.userId) ∈ audit.logins))

end Audit

/-- What the tasks carry that the handler of a request queues. -/
def carries (pack : DataPack) (queries : Queries) : Request → Carried
  | .login _ => .other
  | .dataMsg clientMsg => .message pack.origin (queries.relayedMsg clientMsg)
  | .getDataMsgList request => .history pack.origin request.userId

/-- The server with its account, and what the tasks in its queue carry. -/
structure AuditedState where
  server : ServerState
  carried : List Carried
  audit : Audit

namespace AuditedState

/-- After `Start`. -/
def start : AuditedState := ⟨.start, [], ⟨[], [], [], []⟩⟩

/-- The request that an event handles, with its package and the answers of the database. -/
def handled (state : AuditedState) : ServerEvent → Option (DataPack × Queries × Request)
  | .handle index memory queries => do
      let pack ← state.server.dataTasks[index]?
      match threadWork memory pack.data with
      | .decoded request => some (pack, queries, request)
      | _ => none
  | _ => none

/-- What the tasks carry that an event queues. -/
def queuing (state : AuditedState) (event : ServerEvent) : Carried :=
  (state.handled event).elim .other fun (pack, queries, request) => carries pack queries request

/-- What the queued tasks carry after an event: one is taken from its place, new ones are at the
end. -/
def carriedAfter (state : AuditedState) (next : ServerState) : ServerEvent → List Carried
  | .run index _ => state.carried.eraseIdx index
  | event => state.carried ++
      List.replicate (next.socketTasks.length - state.server.socketTasks.length)
        (state.queuing event)

/-- The account after an event: of what its handler has done, and of what its task has
appended. -/
def auditAfter (state : AuditedState) (next : ServerState) : ServerEvent → Audit
  | .run index _ =>
      (next.appended.drop state.server.appended.length).foldl
        (fun audit entry => audit.sent entry.connection (state.carried.getD index .other))
        state.audit
  | event => (state.handled event).elim state.audit fun (pack, queries, request) =>
      state.audit.record pack queries request

/-- One event of the server. -/
def step (state : AuditedState) (event : ServerEvent) : Option AuditedState :=
  (state.server.step event).map fun next =>
    ⟨next, state.carriedAfter next event, state.auditAfter next event⟩

/-- A chat message is stored for a sender who has logged in on the connection it came from, or
not at all. -/
def HonestRequest (state : AuditedState) (pack : DataPack) (queries : Queries) : Request → Prop
  | .dataMsg clientMsg =>
      queries.saveMsgData { clientMsg with createdTime := queries.timeStampSeconds } ≠ 0 →
        (pack.origin, clientMsg.sender) ∈ state.audit.logins
  | .login _ | .getDataMsgList _ => True

/-- A message that is handled is honest; and a task that is going to append, to the connection
that its fd names now and that has room, carries what is allowed there now. -/
def Honest (state : AuditedState) : ServerEvent → Prop
  | .run index _ => ∀ task, state.server.socketTasks[index]? = some (.send task) →
      ∀ connection ∈ state.server.appendsTo task,
        state.audit.Entitled connection (state.carried.getD index .other)
  | event => ∀ entry ∈ state.handled event, state.HonestRequest entry.1 entry.2.1 entry.2.2

/-- Every package that is handled names somebody who has logged in on the connection it came
from. -/
def NamesLoggedIn (state : AuditedState) (event : ServerEvent) : Prop :=
  ∀ entry ∈ state.handled event, state.audit.Names entry.1 entry.2.2

instance (state : AuditedState) (event : ServerEvent) : Decidable (state.NamesLoggedIn event) :=
  inferInstanceAs (Decidable (∀ entry ∈ state.handled event, state.audit.Names entry.1 entry.2.2))

end AuditedState

/-- The server from `Start` on, with its account. -/
def auditedSystem : LabelledSystem AuditedState ServerEvent := .ofStep .start AuditedState.step

namespace Audit

variable {audit : Audit}

/-- A connection on which nobody has logged in is silent. -/
theorem OnlyLoggedIn.silent (only : audit.OnlyLoggedIn) {connection : Nat}
    (nobody : ∀ userId, (connection, userId) ∉ audit.logins) : audit.Silent connection where
  rows row member := by
    obtain ⟨sender, _, loggedIn⟩ := only.rows _ member
    exact nobody sender loggedIn
  relays serverMsg member := nobody serverMsg.sender (only.relays _ member)
  lists entry member := by
    obtain ⟨reader, userId, asker⟩ := only.lists entry member
    exact ⟨fun same => nobody _ (same ▸ reader), fun same => nobody userId (same ▸ asker)⟩

/-- More logins do no harm. -/
theorem OnlyLoggedIn.login (only : audit.OnlyLoggedIn) (login : Nat × CInt) :
    { audit with logins := audit.logins ++ [login] }.OnlyLoggedIn where
  rows entry member := by
    obtain ⟨sender, names, loggedIn⟩ := only.rows entry member
    exact ⟨sender, names, List.mem_append_left _ loggedIn⟩
  relays entry member := List.mem_append_left _ (only.relays entry member)
  lists entry member := by
    obtain ⟨reader, userId, asker⟩ := only.lists entry member
    exact ⟨List.mem_append_left _ reader, userId, List.mem_append_left _ asker⟩

/-- What a task has carried is in order exactly when it is allowed where it is appended. -/
theorem sent_iff (only : audit.OnlyLoggedIn) {connection : Nat} {carried : Carried} :
    audit.Entitled connection carried ↔ (audit.sent connection carried).OnlyLoggedIn := by
  cases carried with
  | message origin serverMsg =>
      constructor
      · intro loggedIn
        refine ⟨only.rows, fun entry member => ?_, only.lists⟩
        rcases List.mem_append.mp member with earlier | new
        · exact only.relays entry earlier
        · obtain rfl := List.mem_singleton.mp new
          exact loggedIn
      · intro after
        exact after.relays (origin, serverMsg) (List.mem_append_right _ List.mem_cons_self)
  | history origin userId =>
      constructor
      · intro entitled
        refine ⟨only.rows, only.relays, fun entry member => ?_⟩
        rcases List.mem_append.mp member with earlier | new
        · exact only.lists entry earlier
        · obtain rfl := List.mem_singleton.mp new
          exact entitled
      · intro after
        exact after.lists ⟨connection, origin, userId⟩
          (List.mem_append_right _ List.mem_cons_self)
  | other => exact iff_of_true trivial only

end Audit

namespace AuditedState

variable {state next : AuditedState} {event : ServerEvent}

/-! ## One step -/

/-- A request is handled in order exactly when it is honest. -/
theorem record_iff (only : state.audit.OnlyLoggedIn) {pack : DataPack} {queries : Queries}
    {request : Request} :
    state.HonestRequest pack queries request ↔
      (state.audit.record pack queries request).OnlyLoggedIn := by
  cases request with
  | login login =>
      refine iff_of_true trivial ?_
      simp only [Audit.record]
      split
      · exact only.login _
      · exact only
  | dataMsg clientMsg =>
      simp only [Audit.record]
      split
      · next stored =>
        constructor
        · intro honest
          refine ⟨fun entry member => ?_, only.relays, only.lists⟩
          rcases List.mem_append.mp member with earlier | new
          · exact only.rows entry earlier
          · obtain rfl := List.mem_singleton.mp new
            exact ⟨clientMsg.sender, rfl, honest stored⟩
        · intro after _
          obtain ⟨sender, names, loggedIn⟩ := after.rows
            (pack.origin, .ofDataMsg (queries.saved clientMsg))
            (List.mem_append_right _ List.mem_cons_self)
          obtain rfl := Option.some.inj names
          exact loggedIn
      · next refused => exact iff_of_true (fun stored => absurd stored refused) only
  | getDataMsgList request => exact iff_of_true trivial only

/-- The account after a task has run. -/
theorem auditAfter_run (consistent : state.server.Consistent) {after : ServerState} {index : Nat}
    {answers : KernelAnswers} (stepped : state.server.step (.run index answers) = some after) :
    ∃ task, state.server.socketTasks[index]? = some task ∧
      state.auditAfter after (.run index answers) =
        (state.server.appendedBy task).foldl
          (fun audit entry => audit.sent entry.connection (state.carried.getD index .other))
          state.audit := by
  obtain ⟨task, queued, _, appended⟩ := ServerState.queue_run consistent stepped
  refine ⟨task, queued, ?_⟩
  simp only [auditAfter, appended, List.drop_left]

/-- Whatever happens, the account stays in order exactly when the event is honest. -/
theorem auditAfter_iff (consistent : state.server.Consistent) (only : state.audit.OnlyLoggedIn)
    {after : ServerState} (stepped : state.server.step event = some after) :
    state.Honest event ↔ (state.auditAfter after event).OnlyLoggedIn := by
  have handles : (∀ entry ∈ state.handled event,
      state.HonestRequest entry.1 entry.2.1 entry.2.2) ↔
        ((state.handled event).elim state.audit fun (pack, queries, request) =>
          state.audit.record pack queries request).OnlyLoggedIn := by
    cases state.handled event with
    | none => exact iff_of_true (fun _ member => by cases member) only
    | some entry =>
        obtain ⟨pack, queries, request⟩ := entry
        simpa using @record_iff state only pack queries request
  cases event with
  | run index answers =>
      obtain ⟨task, queued, audited⟩ := auditAfter_run consistent stepped
      rw [audited]
      cases task with
      | send task =>
          simp only [Honest, queued, Option.some.injEq, SocketTask.send.injEq, forall_eq',
            ServerState.appendedBy]
          cases state.server.appendsTo task with
          | none => exact iff_of_true (fun _ member => by cases member) only
          | some connection => simpa using Audit.sent_iff only
      | accept | read | write =>
          refine iff_of_true (fun other isSend => ?_) only
          rw [queued] at isSend
          cases isSend
  | wait | callback | handle | clientSocketClose => exact handles

/-! ## Runs -/

/-- A run with the account is one of the server. -/
theorem runs_server {condition : AuditedState → ServerEvent → AuditedState → Prop}
    {plain : ServerState → ServerEvent → ServerState → Prop}
    (implied : ∀ state event next, condition state event next → plain state.server event next.server)
    {events : List ServerEvent} (audited : auditedSystem.Runs condition events state) :
    serverSystem.Runs plain events state.server := by
  induction audited with
  | initial valid =>
      obtain rfl := valid
      exact .initial rfl
  | step _ stepped meets inductionHypothesis =>
      have plainly := implied _ _ _ meets
      obtain ⟨server, serverStepped, rfl⟩ := Option.map_eq_some_iff.mp stepped
      exact inductionHypothesis.step serverStepped plainly

theorem consistent_of_reachable (reachable : auditedSystem.Reachable state) :
    state.server.Consistent := by
  obtain ⟨events, run⟩ := reachable
  exact ServerState.consistent_of_reachable _ ⟨events, runs_server (fun _ _ _ _ => trivial) run⟩

/-- In the beginning nothing has been done. -/
theorem onlyLoggedIn_start : start.audit.OnlyLoggedIn := ⟨nofun, nofun, nofun⟩

/-- The account is in order all the time exactly when all events are honest. -/
theorem runs_honest_iff {events : List ServerEvent} :
    auditedSystem.Runs (fun state event _ => state.Honest event) events state ↔
      auditedSystem.Runs (fun _ _ next => next.audit.OnlyLoggedIn) events state := by
  refine LabelledSystem.runs_iff_runs_within (fun _ => consistent_of_reachable) ?_ ?_
  · rintro _ rfl
    exact onlyLoggedIn_start
  · intro state event next consistent only stepped
    obtain ⟨server, serverStepped, rfl⟩ := Option.map_eq_some_iff.mp stepped
    exact auditAfter_iff consistent only serverStepped

/-! ## Packages that name who has logged in -/

/-- What a queued task carries names somebody who has logged in on the connection it is because
of, and a history answers that connection. -/
def Vouched (audit : Audit) (task : SocketTask) : Carried → Prop
  | .message origin serverMsg => (origin, serverMsg.sender) ∈ audit.logins
  | .history origin userId => (origin, userId) ∈ audit.logins ∧
      ∀ send, task = .send send → send.answers = some origin
  | .other => True

theorem Vouched.mono {audit more : Audit} {task : SocketTask} {carried : Carried}
    (vouched : Vouched audit task carried) (grown : audit.logins ⊆ more.logins) :
    Vouched more task carried := by
  cases carried with
  | message origin serverMsg => exact grown vouched
  | history origin userId => exact ⟨grown vouched.1, vouched.2⟩
  | other => trivial

/-- Logins are never taken back. -/
theorem logins_auditAfter (state : AuditedState) (after : ServerState) (event : ServerEvent) :
    state.audit.logins ⊆ (state.auditAfter after event).logins := by
  have sent : ∀ (entries : List Appended) (audit : Audit) (carried : Carried),
      (entries.foldl (fun audit entry => audit.sent entry.connection carried) audit).logins =
        audit.logins := by
    intro entries audit carried
    induction entries generalizing audit with
    | nil => rfl
    | cons entry rest inductionHypothesis =>
        rw [List.foldl_cons, inductionHypothesis]
        cases carried <;> rfl
  have handles : state.audit.logins ⊆ ((state.handled event).elim state.audit
      fun (pack, queries, request) => state.audit.record pack queries request).logins := by
    cases state.handled event with
    | none => exact List.Subset.refl _
    | some entry =>
        obtain ⟨pack, queries, request⟩ := entry
        cases request with
        | login login =>
            simp only [Option.elim_some, Audit.record]
            split
            · exact List.subset_append_left _ _
            · exact List.Subset.refl _
        | dataMsg clientMsg =>
            simp only [Option.elim_some, Audit.record]
            split <;> exact List.Subset.refl _
        | getDataMsgList request => exact List.Subset.refl _
  cases event with
  | run index answers =>
      simp only [auditAfter, sent]
      exact List.Subset.refl _
  | wait | callback | handle | clientSocketClose => exact handles

/-- One of two lists that go together is taken out of both. -/
theorem forall₂_eraseIdx {α β : Type} {related : α → β → Prop} {first : List α} {second : List β}
    (together : List.Forall₂ related first second) (index : Nat) :
    List.Forall₂ related (first.eraseIdx index) (second.eraseIdx index) := by
  induction together generalizing index with
  | nil => exact .nil
  | cons head rest inductionHypothesis =>
      cases index with
      | zero => exact rest
      | succ index => exact .cons head (inductionHypothesis index)

theorem forall₂_replicate {α β : Type} {related : α → β → Prop} {elements : List α} {other : β}
    (each : ∀ element ∈ elements, related element other) :
    List.Forall₂ related elements (List.replicate elements.length other) := by
  induction elements with
  | nil => exact .nil
  | cons element rest inductionHypothesis =>
      obtain ⟨head, others⟩ := List.forall_mem_cons.mp each
      exact .cons head (inductionHypothesis others)

/-- Everything that is queued is vouched for. -/
def AllVouched (state : AuditedState) : Prop :=
  List.Forall₂ (Vouched state.audit) state.server.socketTasks state.carried

/-- What the handler of a package that names who has logged in queues. -/
theorem vouched_handled (names : state.NamesLoggedIn event) {after : ServerState} {index : Nat}
    {memory : Memory} {queries : Queries} {pack : DataPack} {request : Request}
    (isHandle : event = .handle index memory queries)
    (taken : state.server.dataTasks[index]? = some pack)
    (decoded : threadWork memory pack.data = .decoded request) :
    ∀ action ∈ handle queries request, ∀ server : ServerState,
      ServerState.Queues (fun task => Vouched (state.auditAfter after event) task
        (state.queuing event)) server (server.act pack action) := by
  intro action member server
  have handled : state.handled event = some (pack, queries, request) := by
    simp [isHandle, AuditedState.handled, taken, decoded]
  have named := names _ handled
  have grown := state.logins_auditAfter after event
  rw [queuing, handled, Option.elim_some]
  cases request with
  | login login =>
      exact server.queues_act (fun _ _ _ _ => trivial) fun _ _ _ _ => trivial
  | dataMsg clientMsg =>
      exact server.queues_act (fun _ _ _ _ => grown named) fun _ _ _ _ => grown named
  | getDataMsgList request =>
      refine server.queues_act (fun data task _ answers => ⟨grown named, ?_⟩) ?_
      · rintro _ ⟨⟩
        exact answers
      · rintro userId data task rfl
        simp only [Server.handle, dataHandlerC2SGetDataMsgList] at member
        cases serialized : (queries.getDataMsgList request).serialize with
        | none => simp [serialized, withSerialized] at member
        | some list => simp [serialized, withSerialized] at member

/-- A step in which packages name who has logged in leaves everything queued vouched for. -/
theorem AllVouched.step (vouched : state.AllVouched) (consistent : state.server.Consistent)
    (names : state.NamesLoggedIn event) (stepped : state.step event = some next) :
    next.AllVouched := by
  obtain ⟨after, serverStepped, rfl⟩ := Option.map_eq_some_iff.mp stepped
  have grown := state.logins_auditAfter after event
  have old : List.Forall₂ (Vouched (state.auditAfter after event)) state.server.socketTasks
      state.carried := vouched.imp fun _ _ before => before.mono grown
  have queued : (∀ index answers, event ≠ .run index answers) →
      List.Forall₂ (Vouched (state.auditAfter after event)) after.socketTasks
        (state.carried ++ List.replicate
          (after.socketTasks.length - state.server.socketTasks.length) (state.queuing event)) := by
    intro noTask
    have reported : event = .callback → ∀ task : SocketTask, task.sendCfd = none →
        Vouched (state.auditAfter after event) task (state.queuing event) := by
      rintro rfl _ _
      trivial
    obtain ⟨tasks, socketTasks, allowed⟩ := ServerState.queues_step consistent serverStepped noTask
      reported fun _ _ _ _ _ => vouched_handled names
    have count : after.socketTasks.length - state.server.socketTasks.length = tasks.length := by
      rw [socketTasks, List.length_append, Nat.add_sub_cancel_left]
    rw [count, socketTasks]
    exact List.rel_append old (forall₂_replicate allowed)
  cases event with
  | run index answers =>
      obtain ⟨_, _, socketTasks, _⟩ := ServerState.queue_run consistent serverStepped
      simp only [AllVouched, carriedAfter, socketTasks]
      exact forall₂_eraseIdx old index
  | wait | callback | handle | clientSocketClose => exact queued nofun

/-- What goes together is at the same places. -/
theorem exists_of_forall₂ {α β : Type} {related : α → β → Prop} {first : List α} {second : List β}
    (together : List.Forall₂ related first second) {index : Nat} {element : α}
    (found : first[index]? = some element) :
    ∃ other, second[index]? = some other ∧ related element other := by
  induction together generalizing index with
  | nil => cases found
  | @cons head other rest others headRelated _ inductionHypothesis =>
      cases index with
      | zero =>
          obtain rfl := Option.some.inj found
          exact ⟨other, rfl, headRelated⟩
      | succ index => exact inductionHypothesis found

/-- Where everything queued is vouched for and nothing is appended for another connection, what
is appended is allowed there. -/
theorem AllVouched.honest (vouched : state.AllVouched) (consistent : state.server.Consistent)
    (names : state.NamesLoggedIn event) {after : ServerState}
    (stepped : state.server.step event = some after) (correct : after.NoMisdelivery) :
    state.Honest event := by
  have handles : ∀ entry ∈ state.handled event,
      state.HonestRequest entry.1 entry.2.1 entry.2.2 := by
    rintro ⟨pack, queries, request⟩ handled
    have named := names _ handled
    cases request with
    | login | getDataMsgList => trivial
    | dataMsg clientMsg => exact fun _ => named
  cases event with
  | run index answers =>
      intro task queued connection appends
      obtain ⟨_, same, _, appended⟩ := ServerState.queue_run consistent stepped
      obtain rfl := Option.some.inj (queued.symm.trans same)
      obtain ⟨carried, found, related⟩ := exists_of_forall₂ vouched queued
      rw [List.getD_eq_getElem?_getD, found, Option.getD_some]
      cases carried with
      | message origin serverMsg => exact related
      | history origin userId =>
          obtain ⟨loggedIn, answered⟩ := related
          have entry : ⟨connection, task.queuedFor, task.answers⟩ ∈ after.appended := by
            rw [appended, ServerState.appendedBy, Option.mem_def.mp appends]
            exact List.mem_append_right _ List.mem_cons_self
          obtain rfl := (correct _ entry).2 origin (answered task rfl)
          exact ⟨loggedIn, userId, loggedIn⟩
      | other => trivial
  | wait | callback | handle | clientSocketClose => exact handles

/-- If all packages name who has logged in on their connections, and no accept hands out an fd
number that waiting work carries, all events are honest. -/
theorem honest_of_names {events : List ServerEvent}
    (run : auditedSystem.Runs (fun state event next => state.NamesLoggedIn event ∧
      ReusesNoWaitingCfd state.server event next.server) events state) :
    auditedSystem.Runs (fun state event _ => state.Honest event) events state ∧
      state.AllVouched := by
  induction run with
  | initial valid =>
      obtain rfl := valid
      exact ⟨.initial rfl, .nil⟩
  | step prior stepped meets inductionHypothesis =>
      obtain ⟨honestRun, vouched⟩ := inductionHypothesis
      have consistent := consistent_of_reachable prior.reachable
      have correct := ServerState.runs_noMisdelivery
        (runs_server (fun _ _ _ meets => meets.2) (prior.step stepped meets))
      have vouchedNext := vouched.step consistent meets.1 stepped
      refine ⟨honestRun.step stepped ?_, vouchedNext⟩
      obtain ⟨after, serverStepped, rfl⟩ := Option.map_eq_some_iff.mp stepped
      exact vouched.honest consistent meets.1 serverStepped correct

/-- For every sequence of packages of any content on any connections: the runs in which the
server only acts for who has logged in are those whose events are honest, and as long as they
are, a connection without a login is silent. They are honest if every package names somebody
who has logged in on its connection and no accept hands out an fd number that waiting work
carries. -/
theorem actsForLoggedIn_iff (events : List ServerEvent) (state : AuditedState) :
    (auditedSystem.Runs (fun state event _ => state.Honest event) events state ↔
        auditedSystem.Runs (fun _ _ next => next.audit.OnlyLoggedIn) events state) ∧
      (auditedSystem.Runs (fun state event _ => state.Honest event) events state →
        ∀ connection, (∀ userId, (connection, userId) ∉ state.audit.logins) →
          state.audit.Silent connection) ∧
      (auditedSystem.Runs (fun state event next => state.NamesLoggedIn event ∧
          ReusesNoWaitingCfd state.server event next.server) events state →
        auditedSystem.Runs (fun state event _ => state.Honest event) events state) := by
  refine ⟨runs_honest_iff, fun honest connection nobody => ?_, fun names => (honest_of_names names).1⟩
  have only : state.audit.OnlyLoggedIn := by
    refine (runs_honest_iff.mp honest).within ?_
    rintro _ rfl
    exact onlyLoggedIn_start
  exact only.silent nobody

/-- User 5 logs in and asks for the history. -/
def memberEvents : List ServerEvent :=
  ServerState.connectEvents ++
    ServerState.readEvents
      [.received (frame ([44, 0, 0, 0, 100, 0, 0, 0, 5, 0, 0, 0] ++ List.replicate 32 0) ++
        frame [16, 0, 0, 0, 102, 0, 0, 0, 0, 0, 0, 0, 5, 0, 0, 0]), .wouldBlock] ++
    [.handle 0 .zeroed { Queries.empty with login := fun login => (true, .fresh login.userId (.zeros 32)) },
      .handle 0 .zeroed .empty, .run 3 (.sends [.accepted 16])]

/-- The history is sent to the connection on which the user has logged in. -/
theorem member_served :
    ∃ state, auditedSystem.Runs (fun state event _ => state.Honest event) memberEvents state ∧
      state.audit.logins = [(0, 5)] ∧ state.audit.lists = [⟨0, 0, 5⟩] ∧
      state.audit.OnlyLoggedIn ∧ state.audit.Silent 1 := by
  have followed : ∃ state, LabelledSystem.follow step
      (fun state event next => state.NamesLoggedIn event ∧
        ReusesNoWaitingCfd state.server event next.server) start memberEvents = some state ∧
      state.audit.logins = [(0, 5)] ∧ state.audit.lists = [⟨0, 0, 5⟩] := ⟨_, rfl, rfl, rfl⟩
  obtain ⟨state, ran, logins, lists⟩ := followed
  obtain ⟨exactly, silent, names⟩ := actsForLoggedIn_iff memberEvents state
  have honest := names (LabelledSystem.runs_of_follow ran)
  refine ⟨state, honest, logins, lists, (exactly.mp honest).within ?_, silent honest 1 ?_⟩
  · rintro _ rfl
    exact onlyLoggedIn_start
  · intro userId
    simp [logins]

/-- A client connects and, without a login, sends a message from user 7 and asks for the
history of user 0. -/
def strangerEvents : List ServerEvent :=
  ServerState.connectEvents ++
    ServerState.readEvents
      [.received (frame from7To5 ++ frame ServerState.listRequest), .wouldBlock] ++
    [.handle 0 .zeroed (messageQueries noRows true 0), .handle 0 .zeroed .empty,
      .run 0 (.sends [.accepted 16])]

/-- The message becomes a row from user 7, and the client is sent the history. -/
theorem stranger_served :
    ∃ state, auditedSystem.Reachable state ∧ state.audit.logins = [] ∧
      state.audit.rows.map (fun entry => (entry.1, entry.2.sender)) = [(0, some 7)] ∧
      state.audit.lists = [⟨0, 0, 0⟩] ∧ ¬ state.audit.OnlyLoggedIn := by
  have followed : ∃ state, LabelledSystem.follow step (fun _ _ _ => True) start strangerEvents =
      some state ∧ state.audit.logins = [] ∧
        state.audit.rows.map (fun entry => (entry.1, entry.2.sender)) = [(0, some 7)] ∧
          state.audit.lists = [⟨0, 0, 0⟩] := ⟨_, rfl, rfl, rfl, rfl⟩
  obtain ⟨state, ran, nobody, rows, lists⟩ := followed
  refine ⟨state, ⟨_, LabelledSystem.runs_of_follow ran⟩, nobody, rows, lists, ?_⟩
  intro only
  have listed := (only.lists ⟨0, 0, 0⟩ (by rw [lists]; exact List.mem_cons_self)).1
  rw [nobody] at listed
  cases listed

end AuditedState

end SocketMessage.Server
