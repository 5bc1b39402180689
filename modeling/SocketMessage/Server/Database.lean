import SocketMessage.Wire.DataType

/-!
# The message tables and who may see a message

`DBMsg` and `DBGroup` over the tables `Msg` and `GroupUser`. An `INT` column holds a
32-bit value; a column not declared `NOT NULL` may be empty, and a comparison with an
empty one selects nothing. The two ways to a recipient, the live path of
`DataHandlerC2SDataMsg` and the `WHERE` clause of `GetDataMsgList`, are compared at
the end.
-/

namespace SocketMessage.Server

open SocketMessage.Lib SocketMessage.Wire

/-- A row of `GroupUser`. -/
structure GroupUserRow where
  groupId : CInt
  userId : CInt
deriving DecidableEq, Repr

/-- A row of `Msg`. -/
structure MsgRow where
  msgId : CInt
  msgType : Option CInt
  msg : Option (List Byte)
  sender : Option CInt
  receiver : Option CInt
  isGroup : Option CInt
  createdTime : Option CInt
  extend : Option (List Byte)
deriving DecidableEq, Repr

/-- The two tables, and the id `Msg` assigns next. -/
structure Database where
  groupUser : List GroupUserRow
  msg : List MsgRow
  autoIncrement : Nat
  positive : 0 < autoIncrement

/-- The row `DBMsg::SaveMsgData` inserts, under its new id. -/
def MsgRow.ofDataMsg (clientMsg : DataMsg) : MsgRow where
  msgId := clientMsg.msgId
  msgType := some clientMsg.msgType
  msg := some clientMsg.msg
  sender := some clientMsg.sender
  receiver := some clientMsg.receiver
  isGroup := some (if clientMsg.isGroup then 1 else 0)
  createdTime := some clientMsg.createdTime
  extend := some clientMsg.extend

/-- `DBMsg::SaveMsgData`: the tables afterwards, the message with its `MsgId`, the
result. The database may refuse the statement, and does once the ids are used up;
`ExeSqlGetId` is 0 then. -/
def saveMsgData (database : Database) (accepted : Bool) (clientMsg : DataMsg) :
    Database × DataMsg × Bool :=
  if accepted ∧ database.autoIncrement < 2 ^ 31 then
    let saved := { clientMsg with msgId := BitVec.ofNat 32 database.autoIncrement }
    ({ database with
        msg := database.msg ++ [.ofDataMsg saved]
        autoIncrement := database.autoIncrement + 1
        positive := Nat.succ_pos _ },
      saved, decide (saved.msgId ≠ 0))
  else
    (database, { clientMsg with msgId := 0 }, false)

/-- `DBGroup::GetUserIdByGroupId`. -/
def getUserIdByGroupId (groupUser : List GroupUserRow) (groupId : CInt) : List CInt :=
  (groupUser.filter fun row => row.groupId = groupId).map GroupUserRow.userId

/-- `sendUserVector` of `DataHandlerC2SDataMsg`, before the sender is skipped. -/
def sendUserVector (groupUser : List GroupUserRow) (clientMsg : DataMsg) : List CInt :=
  if clientMsg.isGroup then getUserIdByGroupId groupUser clientMsg.receiver
  else [clientMsg.receiver]

/-- The part of the `WHERE` clause of `GetDataMsgList` that names the receiver: equal
to the user, or among the groups the user is in. -/
def selectsReceiver (groupUser : List GroupUserRow) (userId : CInt) (row : MsgRow) : Bool :=
  match row.receiver with
  | none => false
  | some receiver =>
      receiver = userId ||
        ((groupUser.filter fun membership => membership.userId = userId).map
          GroupUserRow.groupId).contains receiver

/-- The `WHERE` clause of `GetDataMsgList`. -/
def selects (groupUser : List GroupUserRow) (getDataMsgList : C2SGetDataMsgList) (row : MsgRow) :
    Bool :=
  selectsReceiver groupUser getDataMsgList.userId row &&
    (if 0 < getDataMsgList.lastMsgId.toInt then getDataMsgList.lastMsgId.toInt < row.msgId.toInt
     else true)

/-- The `LIMIT` of `GetDataMsgList`, only set when the client has no message yet. -/
def selectionLimit (getDataMsgList : C2SGetDataMsgList) : Option Nat :=
  if 0 < getDataMsgList.lastMsgId.toInt then none else some 100

/-- A selected row turned into a message; an empty number makes `std::stoi` throw. -/
def MsgRow.toDataMsg (memory : DataMsg) (row : MsgRow) : Option DataMsg := do
  let msgType ← row.msgType
  let sender ← row.sender
  let receiver ← row.receiver
  let isGroup ← row.isGroup
  let createdTime ← row.createdTime
  return { memory.construct .s2CDataMsg with
    msgId := row.msgId
    msgType, sender, receiver, createdTime
    isGroup := decide (isGroup ≠ 0)
    msg := row.msg.getD []
    extend := row.extend.getD [] }

/-- `DBMsg::GetDataMsgList`. The database returns the selected rows in an order of its
own. -/
def getDataMsgList (database : Database) (order : List MsgRow → List MsgRow) (memory : DataMsg)
    (request : C2SGetDataMsgList) : Option (List DataMsg) :=
  let rows := order (database.msg.filter (selects database.groupUser request))
  let rows := match selectionLimit request with
    | none => rows
    | some limit => rows.take limit
  rows.mapM (MsgRow.toDataMsg memory)

/-! ## Reading rows -/

/-- No number of a row is empty. -/
def MsgRow.Readable (row : MsgRow) : Prop :=
  row.msgType.isSome ∧ row.sender.isSome ∧ row.receiver.isSome ∧ row.isGroup.isSome ∧
    row.createdTime.isSome

/-- A row is read exactly when it has its numbers. -/
theorem toDataMsg_isSome_iff {memory : DataMsg} {row : MsgRow} :
    (row.toDataMsg memory).isSome ↔ row.Readable := by
  obtain ⟨msgId, _ | msgType, msg, _ | sender, _ | receiver, _ | isGroup, _ | createdTime, extend⟩ :=
    row <;> simp [MsgRow.toDataMsg, MsgRow.Readable]

/-- A message has its row's id. -/
theorem msgId_toDataMsg {memory message : DataMsg} {row : MsgRow}
    (read : row.toDataMsg memory = some message) : message.msgId = row.msgId := by
  simp only [MsgRow.toDataMsg, Option.bind_eq_bind, Option.bind_eq_some_iff] at read
  obtain ⟨_, _, _, _, _, _, _, _, _, _, built⟩ := read
  obtain rfl := Option.some.inj built
  rfl

/-! ## What a stored message looks like -/

/-- A message is stored as a new row under a positive id. -/
theorem saveMsgData_stored {database after : Database} {accepted : Bool} {clientMsg saved : DataMsg}
    (stored : saveMsgData database accepted clientMsg = (after, saved, true)) :
    after.msg = database.msg ++ [.ofDataMsg saved] ∧ after.groupUser = database.groupUser ∧
      0 < saved.msgId.toInt ∧ saved = { clientMsg with msgId := saved.msgId } := by
  unfold saveMsgData at stored
  split at stored
  · next possible =>
    simp only [Prod.mk.injEq] at stored
    obtain ⟨rfl, rfl, _⟩ := stored
    refine ⟨rfl, rfl, ?_, rfl⟩
    rw [toInt_ofNat_of_lt possible.2]
    exact_mod_cast database.positive
  · simp at stored

/-- Who is in the list of the live path. -/
theorem mem_sendUserVector_iff {groupUser : List GroupUserRow} {clientMsg : DataMsg} {user : CInt} :
    user ∈ sendUserVector groupUser clientMsg ↔
      if clientMsg.isGroup then ⟨clientMsg.receiver, user⟩ ∈ groupUser
      else user = clientMsg.receiver := by
  unfold sendUserVector
  split
  · simp only [getUserIdByGroupId, List.mem_map, List.mem_filter, decide_eq_true_eq]
    constructor
    · rintro ⟨⟨groupId, userId⟩, ⟨member, rfl⟩, rfl⟩
      exact member
    · intro member
      exact ⟨_, ⟨member, rfl⟩, rfl⟩
  · simp

/-- Whom the `WHERE` clause lets see a stored message. -/
theorem selectsReceiver_ofDataMsg {groupUser : List GroupUserRow} {clientMsg : DataMsg}
    {user : CInt} :
    selectsReceiver groupUser user (.ofDataMsg clientMsg) ↔
      clientMsg.receiver = user ∨ ⟨clientMsg.receiver, user⟩ ∈ groupUser := by
  simp only [selectsReceiver, MsgRow.ofDataMsg, Bool.or_eq_true, decide_eq_true_eq,
    List.contains_iff_mem, List.mem_map, List.mem_filter]
  refine or_congr_right ⟨?_, fun member => ⟨_, ⟨member, rfl⟩, rfl⟩⟩
  rintro ⟨⟨groupId, userId⟩, ⟨member, rfl⟩, rfl⟩
  exact member

/-- The two paths agree on a user: a group's own number is no user outside of the
group, and a user's number is no group with other users in it. -/
def PathsAgree (groupUser : List GroupUserRow) (receiver : CInt) (isGroup : Bool) (user : CInt) :
    Prop :=
  if isGroup then user = receiver → ⟨receiver, user⟩ ∈ groupUser
  else ⟨receiver, user⟩ ∈ groupUser → user = receiver

instance (groupUser : List GroupUserRow) (receiver : CInt) (isGroup : Bool) (user : CInt) :
    Decidable (PathsAgree groupUser receiver isGroup user) :=
  inferInstanceAs (Decidable (if isGroup then _ else _))

/-- For a stored message and a user who has everything before it, the live recipients
and the selected rows agree exactly under that condition. -/
theorem live_iff_selected_iff {database after : Database} {accepted : Bool}
    {clientMsg saved : DataMsg} {request : C2SGetDataMsgList}
    (stored : saveMsgData database accepted clientMsg = (after, saved, true))
    (justBelow : request.lastMsgId.toInt = saved.msgId.toInt - 1) :
    (request.userId ∈ sendUserVector after.groupUser saved ↔
        selects after.groupUser request (.ofDataMsg saved)) ↔
      PathsAgree database.groupUser saved.receiver saved.isGroup request.userId := by
  obtain ⟨_, sameGroups, positive, _⟩ := saveMsgData_stored stored
  have newer : (if 0 < request.lastMsgId.toInt then
      decide (request.lastMsgId.toInt < (MsgRow.ofDataMsg saved).msgId.toInt) else true) = true := by
    have sameId : (MsgRow.ofDataMsg saved).msgId = saved.msgId := rfl
    rw [sameId]
    split
    · simp only [decide_eq_true_eq]
      omega
    · rfl
  rw [selects, newer, Bool.and_true, sameGroups, selectsReceiver_ofDataMsg, mem_sendUserVector_iff,
    PathsAgree]
  split
  · constructor
    · intro agree same
      exact agree.mpr (Or.inl same.symm)
    · intro condition
      constructor
      · exact Or.inr
      · rintro (same | member)
        · exact condition same.symm
        · exact member
  · constructor
    · intro agree member
      exact agree.mpr (Or.inr member)
    · intro condition
      constructor
      · exact fun same => Or.inl same.symm
      · rintro (same | member)
        · exact same.symm
        · exact condition member

/-- The keys of a new table `Msg` start at 1000000. -/
theorem firstMsgId_positive : 0 < 1000000 := by decide

/-- User 5 is the only member of group 1000. -/
def oneGroup : Database := ⟨[⟨1000, 5⟩], [], 1000000, firstMsgId_positive⟩

/-- A private message from user 7 to user 1000. -/
def toUser1000 : DataMsg := { DataMsg.zeroed with sender := 7, receiver := 1000 }

/-- The same message to group 1000. -/
def toGroup1000 : DataMsg := { toUser1000 with isGroup := true }

/-- User 5 asks for what follows the message before 1000000. -/
def afterLast (userId : CInt) : C2SGetDataMsgList := C2SGetDataMsgList.fresh 999999 userId

/-- A member of the group gets a group message on both paths. -/
theorem toGroup1000_agrees :
    5 ∈ sendUserVector oneGroup.groupUser toGroup1000 ↔
      selects oneGroup.groupUser (afterLast 5)
        (.ofDataMsg { toGroup1000 with msgId := 1000000 }) :=
  (@live_iff_selected_iff oneGroup _ true toGroup1000 _ (afterLast 5) rfl (by decide)).mpr
    (by decide)

/-- A private message to a user whose number is also a group's: stored under id
1000000 and not relayed to user 5, who is in that group, but selected for him. -/
theorem toUser1000_disagrees :
    ∃ after saved, saveMsgData oneGroup true toUser1000 = (after, saved, true) ∧
      (afterLast 5).lastMsgId.toInt = saved.msgId.toInt - 1 ∧ (afterLast 5).userId ≠ saved.sender ∧
      ¬ ((afterLast 5).userId ∈ sendUserVector after.groupUser saved ↔
        selects after.groupUser (afterLast 5) (.ofDataMsg saved)) :=
  ⟨_, _, rfl, by decide, by decide, by decide⟩

end SocketMessage.Server
