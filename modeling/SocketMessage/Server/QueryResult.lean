import SocketMessage.Lib.Stoi
import SocketMessage.Server.MySqlPool
import SocketMessage.Server.Replies

/-!
# Reading the result of a query

`ExecSqlGetResult` hands out every column as a text, `NULL` as the empty one. `DBUser`,
`DBGroup` and `DBMsg` read their numbers from these texts with `std::stoi`, which throws on
an empty text. Nobody between them and `ThreadPool::Work` catches an exception, and `Work`
does not either: the server ends. Names are copied into a `char[32]` with as many bytes as
they have, and a long one is written over what stands behind the array.
-/

namespace SocketMessage.Server

open SocketMessage.Lib SocketMessage.Wire

/-! ## The columns -/

/-- A column of a `MYSQL_ROW`, `NULL` or a text. -/
abbrev Column := Option (List Byte)

/-- The columns a statement selects from `User`. -/
def UserRow.columns (row : UserRow) : List Column := [some (decimal row.userId), row.userName]

/-- The columns a statement selects from `Group`. -/
def GroupRow.columns (row : GroupRow) : List Column :=
  [some (decimal row.groupId), row.groupName, row.adminId.map decimal]

/-- The columns a statement selects from `Msg`. -/
def MsgRow.columns (row : MsgRow) : List Column :=
  [some (decimal row.msgId), row.msgType.map decimal, row.msg, row.sender.map decimal,
    row.receiver.map decimal, row.isGroup.map decimal, row.createdTime.map decimal, row.extend]

/-- What `lineData.push_back` makes of a column. -/
def lineDataOf : Column → List Byte
  | some text => text.takeWhile fun byte => byte ≠ 0
  | none => []

/-- `ExecSqlGetResult` into an empty vector, which a query that fails leaves empty. -/
def execSqlGetResult (answer : Option (List (List Column))) : List (List (List Byte)) :=
  (answer.getD []).map fun line => line.map lineDataOf

/-! ## The readers -/

/-- What ends a call before it returns: an exception, or a copy that leaves its array. -/
inductive Crash where
  | thrown (exception : StdException)
  | outside
deriving DecidableEq, Repr

instance : MonadLift (Except StdException) (Except Crash) where
  monadLift result := result.mapError .thrown

/-- `memcpy` of a text with its NUL, `size() + 1` bytes, into a `char[32]`. -/
def memcpyName (text : List Byte) : Except Crash (List Byte) :=
  if text.length + 1 ≤ 32 then .ok text else .error .outside

/-- `DBUser::Login`: the result, the id and the name of the reply. -/
def DBUser.login (sqlData : List (List (List Byte))) : Except Crash (Bool × CInt × List Byte) := do
  if sqlData.isEmpty then
    return (false, -1, ← memcpyName loginError)
  else
    let line ← elementAt sqlData 0
    let userId ← stoi (← elementAt line 0)
    let username ← elementAt line 1
    return (true, userId, ← memcpyName username)

/-- One pass of `Vector2UserList`. -/
def DBUser.readUser (itemSqlData : List (List Byte)) : Except Crash UserRow := do
  let userId ← stoi (← elementAt itemSqlData 0)
  let username ← elementAt itemSqlData 1
  return ⟨userId, some (← memcpyName username)⟩

/-- `DBUser::Vector2UserList`. -/
def DBUser.vector2UserList (sqlData : List (List (List Byte))) : Except Crash (List UserRow) :=
  sqlData.mapM readUser

/-- One pass of `GetUserAllGroup`, with the answer to its second query. -/
def DBGroup.readGroup (sqlDataUser : CInt → List (List (List Byte)))
    (itemSqlData : List (List Byte)) : Except Crash (GroupRow × List UserRow) := do
  let groupId ← stoi (← elementAt itemSqlData 0)
  let groupName ← memcpyName (← elementAt itemSqlData 1)
  let adminId ← stoi (← elementAt itemSqlData 2)
  let userList ← DBUser.vector2UserList (sqlDataUser groupId)
  return (⟨groupId, some groupName, some adminId⟩, userList)

/-- `DBGroup::GetUserAllGroup`. -/
def DBGroup.getUserAllGroup (sqlDataUser : CInt → List (List (List Byte)))
    (sqlData : List (List (List Byte))) : Except Crash (List (GroupRow × List UserRow)) :=
  sqlData.mapM (readGroup sqlDataUser)

/-- `DBGroup::GetUserIdByGroupId`. -/
def DBGroup.getUserIdByGroupId (sqlData : List (List (List Byte))) :
    Except StdException (List CInt) :=
  sqlData.mapM fun itemSqlData => do stoi (← elementAt itemSqlData 0)

/-- One pass of `GetDataMsgList`. -/
def DBMsg.readMsg (memory : DataMsg) (lineSqlData : List (List Byte)) :
    Except StdException DataMsg := do
  let msgId ← stoi (← elementAt lineSqlData 0)
  let msgType ← stoi (← elementAt lineSqlData 1)
  let msg ← elementAt lineSqlData 2
  let sender ← stoi (← elementAt lineSqlData 3)
  let receiver ← stoi (← elementAt lineSqlData 4)
  let isGroup ← stoi (← elementAt lineSqlData 5)
  let createdTime ← stoi (← elementAt lineSqlData 6)
  let extend ← elementAt lineSqlData 7
  return { memory.construct .s2CDataMsg with
    msgId, msgType, msg, sender, receiver, createdTime, extend
    isGroup := decide (isGroup ≠ 0) }

/-- `DBMsg::GetDataMsgList`. -/
def DBMsg.getDataMsgList (memory : DataMsg) (sqlData : List (List (List Byte))) :
    Except StdException (List DataMsg) :=
  sqlData.mapM (readMsg memory)

/-! ## What they read -/

/-- The text of a number is handed out whole. -/
theorem lineDataOf_decimal (value : CInt) : lineDataOf (some (decimal value)) = decimal value :=
  takeWhile_ne_zero (zero_notMem_decimal value)

/-- A number is read back, and `NULL` is not a number. -/
theorem stoi_lineDataOf (value : Option CInt) :
    stoi (lineDataOf (value.map decimal)) = value.elim (.error .invalidArgument) .ok := by
  cases value with
  | none => exact stoi_nil
  | some value =>
    rw [Option.map_some, lineDataOf_decimal]
    exact stoi_decimal value

/-- What the readers see of a row: texts up to a NUL, the empty text for `NULL`. -/
def UserRow.seen (row : UserRow) : UserRow := { row with userName := some (lineDataOf row.userName) }

/-- What the readers see of a row. -/
def GroupRow.seen (row : GroupRow) : GroupRow :=
  { row with groupName := some (lineDataOf row.groupName) }

/-- What the readers see of a row. -/
def MsgRow.seen (row : MsgRow) : MsgRow :=
  { row with msg := some (lineDataOf row.msg), extend := some (lineDataOf row.extend) }

/-- A name is copied exactly when it fits. -/
theorem memcpyName_eq_ok_iff {text copied : List Byte} :
    memcpyName text = .ok copied ↔ NameFits (some text) ∧ copied = text := by
  unfold memcpyName NameFits
  split
  · next fits =>
    rw [Except.ok.injEq, eq_comm]
    exact ⟨fun same => ⟨Nat.le_of_succ_le_succ fits, same⟩, fun ⟨_, same⟩ => same⟩
  · next long =>
    exact iff_of_false nofun fun ⟨fits, _⟩ => long (Nat.succ_le_succ fits)

/-- A text or a number that is read, in a call that may also leave an array. -/
theorem lift_eq_ok_iff {Item : Type} {result : Except StdException Item} {item : Item} :
    (liftM result : Except Crash Item) = .ok item ↔ result = .ok item := by
  cases result with
  | error exception => exact iff_of_false nofun nofun
  | ok value =>
    constructor
    · intro same
      obtain rfl : value = item := Except.ok.inj same
      rfl
    · intro same
      obtain rfl : value = item := Except.ok.inj same
      rfl

/-- A user is read from a row exactly when the name fits. -/
theorem readUser_eq_ok_iff {row user : UserRow} :
    DBUser.readUser (row.columns.map lineDataOf) = .ok user ↔
      NameFits row.seen.userName ∧ user = row.seen := by
  have userId := stoi_lineDataOf (some row.userId)
  simp only [Option.map_some, Option.elim_some] at userId
  simp [DBUser.readUser, UserRow.columns, elementAt, bind_eq_ok_iff, lift_eq_ok_iff, userId,
    memcpyName_eq_ok_iff, UserRow.seen, pure, Except.pure]
  exact fun _ => eq_comm

/-- The result of a statement whose answer has these rows. -/
def resultOf {Row : Type} (columns : Row → List Column) (answer : Option (List Row)) :
    List (List (List Byte)) :=
  execSqlGetResult (answer.map fun rows => rows.map columns)

/-- A loop over a result goes over the rows. -/
theorem map_resultOf {Row Item : Type} (columns : Row → List Column) (answer : Option (List Row))
    (read : List (List Byte) → Item) :
    (resultOf columns answer).map read =
      (answer.getD []).map fun row => read ((columns row).map lineDataOf) := by
  cases answer with
  | none => rfl
  | some rows =>
    simp only [resultOf, execSqlGetResult, Option.map_some, Option.getD_some, List.map_map]
    rfl

/-- A loop over a result finishes exactly when every row is read. -/
theorem mapM_resultOf_finishes_iff {Row Item : Type} {columns : Row → List Column}
    {answer : Option (List Row)} {read : List (List Byte) → Except StdException Item} :
    (∃ items, (resultOf columns answer).mapM read = .ok items) ↔
      ∀ row ∈ answer.getD [], ∃ item, read ((columns row).map lineDataOf) = .ok item := by
  rw [← mapM_finishes_iff]
  simp only [mapM_eq_ok_iff, map_resultOf]

/-- A loop over a result reads the rows, if it reads each of them. -/
theorem mapM_resultOf_eq_ok_iff {Row Item ε : Type} {columns : Row → List Column}
    {answer : Option (List Row)} {read : List (List Byte) → Except ε Item} {Fits : Row → Prop}
    {seen : Row → Item} (each : ∀ row item, read ((columns row).map lineDataOf) = .ok item ↔
      Fits row ∧ item = seen row) {items : List Item} :
    (resultOf columns answer).mapM read = .ok items ↔
      (∀ row ∈ answer.getD [], Fits row) ∧ items = (answer.getD []).map seen := by
  rw [mapM_eq_ok_iff, map_resultOf]
  generalize answer.getD [] = rows
  induction rows generalizing items with
  | nil => cases items <;> simp
  | cons row rest inductionHypothesis =>
    cases items with
    | nil => simp
    | cons item others =>
      rw [List.map_cons, List.map_cons, List.cons.injEq, inductionHypothesis, each,
        List.forall_mem_cons, List.map_cons, List.cons.injEq]
      tauto

/-- `Vector2UserList` reads an answer exactly when all names fit. -/
theorem vector2UserList_eq_ok_iff {answer : Option (List UserRow)} {users : List UserRow} :
    DBUser.vector2UserList (resultOf UserRow.columns answer) = .ok users ↔
      (∀ row ∈ answer.getD [], NameFits row.seen.userName) ∧
        users = (answer.getD []).map UserRow.seen :=
  mapM_resultOf_eq_ok_iff fun _ _ => readUser_eq_ok_iff

/-- A message is read from a row as far as its numbers are there. -/
theorem readMsg_columns (memory : DataMsg) (row : MsgRow) :
    DBMsg.readMsg memory (row.columns.map lineDataOf) =
      (row.seen.toDataMsg memory).elim (.error .invalidArgument) .ok := by
  have msgId := stoi_lineDataOf (some row.msgId)
  simp only [Option.map_some, Option.elim_some] at msgId
  simp [DBMsg.readMsg, MsgRow.columns, elementAt, msgId, stoi_lineDataOf, MsgRow.seen,
    MsgRow.toDataMsg, bind, Except.bind, pure, Except.pure]
  obtain ⟨msgId, _ | msgType, msg, _ | sender, _ | receiver, _ | isGroup, _ | createdTime, extend⟩ :=
    row <;> simp

/-- A group is read from a row exactly when it has an administrator, and its name and those of
its members fit. -/
theorem readGroup_eq_ok_iff {members : CInt → Option (List UserRow)} {row : GroupRow}
    {group : GroupRow × List UserRow} :
    DBGroup.readGroup (fun groupId => resultOf UserRow.columns (members groupId))
        (row.columns.map lineDataOf) = .ok group ↔
      (NameFits row.seen.groupName ∧ row.adminId.isSome ∧
          ∀ member ∈ (members row.groupId).getD [], NameFits member.seen.userName) ∧
        group = (row.seen, ((members row.groupId).getD []).map UserRow.seen) := by
  have groupId := stoi_lineDataOf (some row.groupId)
  simp only [Option.map_some, Option.elim_some] at groupId
  simp [DBGroup.readGroup, GroupRow.columns, elementAt, bind_eq_ok_iff, lift_eq_ok_iff, groupId,
    stoi_lineDataOf, memcpyName_eq_ok_iff, vector2UserList_eq_ok_iff, GroupRow.seen, pure,
    Except.pure, and_assoc]
  obtain ⟨number, groupName, _ | adminId⟩ := row
  · simp
  · simp [eq_comm]

/-- Without a NUL in its texts, a row is seen as it is. -/
theorem toDataMsg_seen (memory : DataMsg) {row : MsgRow} (plainMsg : 0 ∉ row.msg.getD [])
    (plainExtend : 0 ∉ row.extend.getD []) : row.seen.toDataMsg memory = row.toDataMsg memory := by
  have whole : ∀ column : Column, 0 ∉ column.getD [] → lineDataOf column = column.getD [] := by
    rintro (_ | text) plain
    · rfl
    · exact takeWhile_ne_zero plain
  simp only [MsgRow.toDataMsg, MsgRow.seen, Option.getD_some, whole _ plainMsg, whole _ plainExtend]

/-- On such rows, `GetDataMsgList` is the one of the table model. -/
theorem getDataMsgList_rows (memory : DataMsg) {rows : List MsgRow}
    (plain : ∀ row ∈ rows, 0 ∉ row.msg.getD [] ∧ 0 ∉ row.extend.getD []) :
    (DBMsg.getDataMsgList memory (resultOf MsgRow.columns (some rows))).toOption =
      rows.mapM (MsgRow.toDataMsg memory) := by
  have asRows : (resultOf MsgRow.columns (some rows)).map
      (fun line => (DBMsg.readMsg memory line).toOption) = rows.map (MsgRow.toDataMsg memory) := by
    rw [map_resultOf]
    refine List.map_congr_left fun row member => ?_
    rw [readMsg_columns, toDataMsg_seen memory (plain row member).1 (plain row member).2]
    cases row.toDataMsg memory <;> rfl
  rw [DBMsg.getDataMsgList, toOption_mapM, asRows, List.mapM_map]
  rfl

/-! ## Who finishes -/

/-- `Login` finishes exactly when the name of the user it finds fits. -/
theorem login_finishes_iff (answer : Option (List UserRow)) :
    (∃ reply, DBUser.login (resultOf UserRow.columns answer) = .ok reply) ↔
      ∀ row ∈ (answer.getD []).head?, NameFits row.seen.userName := by
  have refused : memcpyName loginError = .ok loginError := by decide
  have empty : resultOf UserRow.columns none = [] ∧ resultOf UserRow.columns (some []) = [] :=
    ⟨rfl, rfl⟩
  obtain _ | _ | ⟨row, rest⟩ := answer
  · exact iff_of_true ⟨_, by rw [empty.1, DBUser.login]; simp [refused, pure]; rfl⟩ (by simp)
  · exact iff_of_true ⟨_, by simp [empty, DBUser.login, refused]; rfl⟩ (by simp)
  · have userId := stoi_lineDataOf (some row.userId)
    simp only [Option.map_some, Option.elim_some] at userId
    simp [DBUser.login, resultOf, execSqlGetResult, UserRow.columns, elementAt, bind_eq_ok_iff,
      lift_eq_ok_iff, userId, memcpyName_eq_ok_iff, UserRow.seen, pure, Except.pure]

/-- `GetUserIdByGroupId` finishes on every answer. -/
theorem getUserIdByGroupId_finishes (answer : Option (List CInt)) :
    ∃ ids, DBGroup.getUserIdByGroupId
      (resultOf (fun userId => [some (decimal userId)]) answer) = .ok ids := by
  rw [DBGroup.getUserIdByGroupId, mapM_resultOf_finishes_iff]
  intro userId _
  exact ⟨userId, stoi_lineDataOf (some userId)⟩

/-- `GetUserAllGroup` finishes exactly when every group can be read. -/
theorem getUserAllGroup_finishes_iff (members : CInt → Option (List UserRow))
    (answer : Option (List GroupRow)) :
    (∃ groups, DBGroup.getUserAllGroup
        (fun groupId => resultOf UserRow.columns (members groupId))
        (resultOf GroupRow.columns answer) = .ok groups) ↔
      ∀ row ∈ answer.getD [], NameFits row.seen.groupName ∧ row.adminId.isSome ∧
        ∀ member ∈ (members row.groupId).getD [], NameFits member.seen.userName := by
  simp only [DBGroup.getUserAllGroup,
    mapM_resultOf_eq_ok_iff fun _ _ => readGroup_eq_ok_iff, exists_and_left, exists_eq, and_true]

/-- `GetDataMsgList` finishes exactly when every message has its numbers. -/
theorem getDataMsgList_finishes_iff (memory : DataMsg) (answer : Option (List MsgRow)) :
    (∃ messages, DBMsg.getDataMsgList memory (resultOf MsgRow.columns answer) = .ok messages) ↔
      ∀ row ∈ answer.getD [], row.Readable := by
  rw [DBMsg.getDataMsgList, mapM_resultOf_finishes_iff]
  refine forall₂_congr fun row _ => ?_
  have seen : row.seen.Readable ↔ row.Readable := Iff.rfl
  rw [readMsg_columns, ← seen, ← @toDataMsg_isSome_iff memory row.seen]
  cases row.seen.toDataMsg memory <;> simp

/-! ## The handlers -/

/-- The answers to the statements of the handlers; `none` for a query that fails. -/
structure QueryAnswers where
  user : Option (List UserRow)
  users : Option (List UserRow)
  groups : Option (List GroupRow)
  members : CInt → Option (List UserRow)
  messages : Option (List MsgRow)
  recipients : Option (List CInt)

namespace QueryAnswers

variable (answers : QueryAnswers) (memory : DataMsg)

/-- `DBUser::Login` on its answer. -/
def login : Except Crash (Bool × CInt × List Byte) :=
  DBUser.login (resultOf UserRow.columns answers.user)

/-- `DBUser::AllUserList` on its answer. -/
def allUserList : Except Crash (List UserRow) :=
  DBUser.vector2UserList (resultOf UserRow.columns answers.users)

/-- `DBGroup::GetUserAllGroup` on its answers. -/
def getUserAllGroup : Except Crash (List (GroupRow × List UserRow)) :=
  DBGroup.getUserAllGroup (fun groupId => resultOf UserRow.columns (answers.members groupId))
    (resultOf GroupRow.columns answers.groups)

/-- `DBMsg::GetDataMsgList` on its answer. -/
def getDataMsgList : Except StdException (List DataMsg) :=
  DBMsg.getDataMsgList memory (resultOf MsgRow.columns answers.messages)

/-- `DBGroup::GetUserIdByGroupId` on its answer. -/
def getUserIdByGroupId : Except StdException (List CInt) :=
  DBGroup.getUserIdByGroupId (resultOf (fun userId => [some (decimal userId)]) answers.recipients)

/-- What ends a call. -/
def endedBy {ε Item : Type} : Except ε Item → Option ε
  | .ok _ => none
  | .error reason => some reason

/-- What ends a statement of a handler. `SaveMsgData` reads no result. -/
def crashes : Statement → Option Crash
  | .login => endedBy answers.login
  | .allUserList => endedBy answers.allUserList
  | .getUserAllGroup => endedBy answers.getUserAllGroup
  | .getDataMsgList => (endedBy (answers.getDataMsgList memory)).map .thrown
  | .saveMsgData => none
  | .getUserIdByGroupId => (endedBy answers.getUserIdByGroupId).map .thrown

end QueryAnswers

/-- The steps a handler makes, and what ends it before the last one: an exception that leaves
it for `ThreadPool::Work`, or a write outside of an array. -/
def HandlerStep.run (crashes : Statement → Option Crash) :
    List HandlerStep → List HandlerStep × Option Crash
  | [] => ([], none)
  | .ask statement :: rest =>
      match crashes statement with
      | some crash => ([], some crash)
      | none => (.ask statement :: (run crashes rest).1, (run crashes rest).2)
  | step :: rest => (step :: (run crashes rest).1, (run crashes rest).2)

/-- Where no statement ends it, a handler makes all its steps, its `Push` with them. -/
theorem HandlerStep.run_of_silent {crashes : Statement → Option Crash}
    (silent : ∀ statement, crashes statement = none) (steps : List HandlerStep) :
    run crashes steps = (steps, none) := by
  induction steps with
  | nil => rfl
  | cons step rest ih =>
    cases step with
    | ask statement => rw [run, silent, ih]
    | pop => rw [run, ih]; nofun
    | call action => rw [run, ih]; nofun
    | push => rw [run, ih]; nofun

/-- The readers finish, and every handler makes all its steps. -/
structure QueryAnswers.Survived (answers : QueryAnswers) (memory : DataMsg) : Prop where
  login : ∃ reply, answers.login = .ok reply
  allUserList : ∃ users, answers.allUserList = .ok users
  getUserAllGroup : ∃ groups, answers.getUserAllGroup = .ok groups
  getDataMsgList : ∃ messages, answers.getDataMsgList memory = .ok messages
  getUserIdByGroupId : ∃ ids, answers.getUserIdByGroupId = .ok ids
  handlers : ∀ queries request,
    HandlerStep.run (answers.crashes memory) (HandlerStep.handle queries request) =
      (HandlerStep.handle queries request, none)

/-- The names that are copied have at most 31 bytes, no group is without an administrator, no
message without one of its numbers. -/
structure QueryAnswers.Harmless (answers : QueryAnswers) : Prop where
  user : ∀ row ∈ (answers.user.getD []).head?, NameFits row.seen.userName
  users : ∀ row ∈ answers.users.getD [], NameFits row.seen.userName
  groups : ∀ row ∈ answers.groups.getD [], NameFits row.seen.groupName ∧ row.adminId.isSome ∧
    ∀ member ∈ (answers.members row.groupId).getD [], NameFits member.seen.userName
  messages : ∀ row ∈ answers.messages.getD [], row.Readable

/-- The user 100000 is in a group without an administrator. -/
def nobodyAdministers : QueryAnswers where
  user := some [⟨100000, some [84]⟩]
  users := some [⟨100000, some [84]⟩]
  groups := some [⟨1000, some [71], none⟩]
  members := fun _ => some [⟨100000, some [84]⟩]
  messages := some []
  recipients := some []

/-- The database finds the user 100000. -/
def finds100000 : Queries :=
  { Queries.empty with login := fun _ => (true, .fresh 100000 (.zeros 32)) }

end SocketMessage.Server
