import SocketMessage.Wire.SerializedSize
import SocketMessage.Server.Database
import SocketMessage.Server.System

/-!
# Replies and the room for them

The handlers of a login and of a history request build their replies from the tables:
a name is copied into a `char[32]`, a `NULL` number makes `std::stoi` throw. A reply is
as large as the tables make it, and `SendPackage` refuses what does not fit the write
buffer without telling the handler.
-/

namespace SocketMessage.Server

open SocketMessage.Lib SocketMessage.Frame SocketMessage.Wire

/-- A row of `User`. A text is what the client library shows of it, up to the first
NUL. -/
structure UserRow where
  userId : CInt
  userName : Option (List Byte)
deriving DecidableEq, Repr

/-- A row of `Group`. -/
structure GroupRow where
  groupId : CInt
  groupName : Option (List Byte)
  adminId : Option CInt
deriving DecidableEq, Repr

/-- The most bytes a `TEXT` column holds. -/
abbrev textMaxSize : Nat := 65535

/-- All tables, in the order in which the database returns their rows. -/
structure Tables extends Database where
  user : List UserRow
  group : List GroupRow
  texts : ∀ row ∈ msg, (row.msg.getD []).length ≤ textMaxSize ∧
    (row.extend.getD []).length ≤ textMaxSize

/-! ## The queries -/

/-- `memcpy` of a name and its NUL into a `char[32]`, the rest of which keeps what its
memory held; `none` when it does not fit. -/
def copyName (memory : SizedBytes 32) (name : List Byte) : Option (SizedBytes 32) :=
  if fits : name.length + 1 ≤ 32 then
    some (memory.overwrite ⟨name ++ [0], List.length_append⟩ fits)
  else none

/-- The message for a refused login, `用户名密码错误`. -/
def loginError : List Byte :=
  [231, 148, 168, 230, 136, 183, 229, 144, 141, 229, 175, 134, 231, 160, 129, 233, 148, 153, 232,
    175, 175]

namespace Tables

/-- `DBUser::Login`: the result and the reply. The rows with the user's id and password
are the ones that meet `condition`. -/
def login (tables : Tables) (memory : SizedBytes 32) (condition : UserRow → Bool) :
    Option (Bool × S2CLogin) :=
  match tables.user.find? condition with
  | none => (copyName memory loginError).map fun userName => (false, .fresh (-1) userName)
  | some row => (copyName memory (row.userName.getD [])).map fun userName =>
      (true, .fresh row.userId userName)

/-- `DBUser::Vector2UserList`. -/
def vector2UserList (memory : SizedBytes 32) (rows : List UserRow) : Option S2CUserList :=
  (rows.mapM fun row => (copyName memory (row.userName.getD [])).map (S2CUser.fresh row.userId)).map
    fun userVector => { S2CUserList.fresh with userVector }

/-- `DBUser::AllUserList`. -/
def allUserList (tables : Tables) (memory : SizedBytes 32) : Option S2CUserList :=
  vector2UserList memory tables.user

/-- The groups a user is in. -/
def groupsOf (tables : Tables) (userId : CInt) : List GroupRow :=
  tables.group.filter fun group => tables.groupUser.contains ⟨group.groupId, userId⟩

/-- The users who are in a group. -/
def membersOf (tables : Tables) (groupId : CInt) : List UserRow :=
  tables.user.filter fun user => tables.groupUser.contains ⟨groupId, user.userId⟩

/-- One pass of the loop in `GetUserAllGroup`. -/
def groupItem (tables : Tables) (memory : SizedBytes 32) (row : GroupRow) : Option S2CGroup := do
  let groupName ← copyName memory (row.groupName.getD [])
  let adminId ← row.adminId
  let userList ← vector2UserList memory (tables.membersOf row.groupId)
  return { S2CGroup.fresh row.groupId groupName adminId with userList }

/-- `DBGroup::GetUserAllGroup`. -/
def getUserAllGroup (tables : Tables) (memory : SizedBytes 32) (userId : CInt) :
    Option S2CGroupList :=
  ((tables.groupsOf userId).mapM (tables.groupItem memory)).map fun groupVector =>
    { S2CGroupList.fresh with groupVector }

end Tables

/-! ## The handlers -/

/-- `DataHandlerC2SLogin` over the tables. -/
def Tables.dataHandlerC2SLogin (tables : Tables) (memory : SizedBytes 32) (condition : UserRow → Bool) :
    List HandlerAction :=
  match tables.login memory condition with
  | none => [.fail]
  | some (isLogin, loginRet) =>
      withSerialized loginRet.serialize fun spLogin =>
        if !isLogin then [.answer spLogin]
        else .answer spLogin :: .clientOpen loginRet.userId ::
          withSerialized ((tables.allUserList memory).bind fun allUser =>
            allUser.serialize.map Prod.fst) fun spAllUser =>
              .answer spAllUser ::
                withSerialized ((tables.getUserAllGroup memory loginRet.userId).bind fun groupList =>
                  groupList.serialize.map Prod.fst) fun spGroupList => [.answer spGroupList]

/-- `DataHandlerC2SGetDataMsgList` over the tables. -/
def Tables.dataHandlerC2SGetDataMsgList (tables : Tables) (order : List MsgRow → List MsgRow) (memory : DataMsg)
    (request : C2SGetDataMsgList) : List HandlerAction :=
  withSerialized ((getDataMsgList tables.toDatabase order memory request).bind fun msgVector =>
    ({ DataMsgList.fresh with msgVector } : DataMsgList).serialize.map Prod.fst)
      fun msgList => [.answer msgList]

/-- Where the queries get through, these are the handlers of the server model. -/
theorem Tables.dataHandlerC2SLogin_eq {tables : Tables} {memory : SizedBytes 32} {condition : UserRow → Bool}
    {login : Bool × S2CLogin} {users : S2CUserList} {groups : S2CGroupList}
    (loggedIn : tables.login memory condition = some login)
    (listed : tables.allUserList memory = some users)
    (grouped : tables.getUserAllGroup memory login.2.userId = some groups) (request : C2SLogin) :
    tables.dataHandlerC2SLogin memory condition =
      Server.dataHandlerC2SLogin { Queries.empty with
        login := fun _ => login, allUserList := users, getUserAllGroup := fun _ => groups } request := by
  obtain ⟨isLogin, loginRet⟩ := login
  simp only [dataHandlerC2SLogin, loggedIn, listed, grouped, Server.dataHandlerC2SLogin,
    Option.bind_some]

/-! ## The room test -/

/-- The connection that `SendPackage` finds under an fd, with nothing in its buffer. -/
def EmptyConnection (state : ServerState) (cfd : Int) (pointer : Nat) : Prop :=
  state.clientFdMap cfd = some pointer ∧
    ∃ socket, state.sockets pointer = some socket ∧ socket.writeBuffer = []

/-- `SendPackage` takes the data, and queues its frame. -/
def Queued (state : ServerState) (cfd : Int) (pointer : Nat) (data : List Byte) : Prop :=
  ∀ answers, state.sendPackage cfd data answers =
    state.addSocketTask (.send ⟨cfd, frame data, pointer, answers⟩)

/-- A handler gets through, and each of its replies is queued. -/
def Answered (state : ServerState) (cfd : Int) (pointer : Nat) (actions : List HandlerAction) :
    Prop :=
  ∀ action ∈ actions, action ≠ .fail ∧
    ∀ data, action = .answer data → Queued state cfd pointer data

/-- `SendPackage` for a connection with an empty buffer. -/
theorem EmptyConnection.sendPackage_eq {state : ServerState} {cfd : Int} {pointer : Nat}
    (connection : EmptyConnection state cfd pointer) (data : List Byte)
    (answers : Option Nat) :
    state.sendPackage cfd data answers =
      if (writeBufMaxSize : Int) < int32 (socketHeadSize + data.length) then state
      else if int32 (socketHeadSize + data.length) < 0 then state.fail .handler
      else state.addSocketTask (.send ⟨cfd, frame data, pointer, answers⟩) := by
  obtain ⟨entry, socket, present, empty⟩ := connection
  have room : socket.getSize4EmptyWrite = writeBufMaxSize := by
    simp [ClientSocket.getSize4EmptyWrite, empty]
  simp only [ServerState.sendPackage, entry, ServerState.withSocket, present, room]

/-- A frame is queued for an empty buffer exactly when it fits it. -/
theorem queued_iff {state : ServerState} {cfd : Int} {pointer : Nat} {data : List Byte}
    (connection : EmptyConnection state cfd pointer) (small : data.length < 2 ^ 31) :
    Queued state cfd pointer data ↔ 4 + data.length ≤ writeBufMaxSize := by
  have oneMore : ∀ task, (state.addSocketTask task).socketTasks.length =
      state.socketTasks.length + 1 := fun _ => List.length_append
  constructor
  · intro queued
    have taken := queued none
    rw [connection.sendPackage_eq] at taken
    split at taken
    · have count := congrArg (fun state => state.socketTasks.length) taken
      simp only [oneMore] at count
      omega
    split at taken
    · have count := congrArg (fun state => state.socketTasks.length) taken
      simp only [oneMore, ServerState.fail] at count
      omega
    · next passed nonnegative =>
      by_cases inRange : 4 + data.length < 2 ^ 31
      · rw [int32_eq_self (by simp only [socketHeadSize]; omega)
          (by simp only [socketHeadSize]; omega)] at passed
        simp only [socketHeadSize] at passed
        omega
      · rw [int32_eq_sub (by simp only [socketHeadSize]; omega)
          (by simp only [socketHeadSize]; omega)] at nonnegative
        simp only [socketHeadSize] at nonnegative
        omega
  · intro fits answers
    simp only [writeBufMaxSize] at fits
    rw [connection.sendPackage_eq, int32_eq_self (by simp only [socketHeadSize]; omega)
      (by simp only [socketHeadSize]; omega), if_neg, if_neg]
    · simp only [socketHeadSize]
      omega
    · simp only [socketHeadSize, writeBufMaxSize]
      omega

/-- The calls of a handler one by one. -/
theorem answered_answer_iff {state : ServerState} {cfd : Int} {pointer : Nat} {data : List Byte}
    {rest : List HandlerAction} :
    Answered state cfd pointer (.answer data :: rest) ↔
      Queued state cfd pointer data ∧ Answered state cfd pointer rest := by
  simp [Answered]

theorem answered_clientOpen_iff {state : ServerState} {cfd : Int} {pointer : Nat} {userId : CInt}
    {rest : List HandlerAction} :
    Answered state cfd pointer (.clientOpen userId :: rest) ↔ Answered state cfd pointer rest := by
  simp [Answered]

/-- A handler that throws has not answered. -/
theorem not_answered_fail {state : ServerState} {cfd : Int} {pointer : Nat} :
    ¬ Answered state cfd pointer [.fail] := by
  simp [Answered]

/-- A reply and what follows it: the query yields a list that fits, and the rest is
answered. -/
theorem answered_reply_iff {α : Type} {state : ServerState} {cfd : Int} {pointer : Nat}
    {serialize : α → Option (List Byte × α)} {encodedSize : α → Nat} {queried : Option α}
    (connection : EmptyConnection state cfd pointer)
    (encodes : ∀ value, queried = some value → Encodes serialize encodedSize value)
    (rest : List HandlerAction) :
    Answered state cfd pointer
        (withSerialized (queried.bind fun value => (serialize value).map Prod.fst)
          fun data => .answer data :: rest) ↔
      (∃ value, queried = some value ∧ 4 + encodedSize value ≤ writeBufMaxSize) ∧
        Answered state cfd pointer rest := by
  cases queried with
  | none => simp [withSerialized, not_answered_fail]
  | some value =>
      have encoding := encodes value rfl
      cases serialized : serialize value with
      | none =>
          have large : ¬ 4 + encodedSize value ≤ writeBufMaxSize := by
            intro fits
            simp only [writeBufMaxSize] at fits
            obtain ⟨result, total, _⟩ := encoding.total (by omega)
            rw [serialized] at total
            cases total
          simp [withSerialized, serialized, not_answered_fail, large]
      | some result =>
          obtain ⟨whole, small⟩ := encoding.whole result serialized
          have sameFit : 4 + result.1.length ≤ writeBufMaxSize ↔
              4 + encodedSize value ≤ writeBufMaxSize := by
            constructor
            · omega
            · intro fits
              simp only [writeBufMaxSize] at fits ⊢
              obtain ⟨other, total, length⟩ := encoding.total (by omega)
              rw [serialized] at total
              obtain rfl := Option.some.inj total
              omega
          simp [withSerialized, serialized, answered_answer_iff, queued_iff connection small, sameFit]

/-! ## When the replies fit -/

/-- A name with its NUL fits a `char[32]`. -/
def NameFits (name : Option (List Byte)) : Prop := (name.getD []).length ≤ 31

/-- What the replies to a login need: names and numbers that can be copied, and lists
that fit the write buffer behind their frame heads. -/
structure Tables.LoginFits (tables : Tables) (userId : CInt) : Prop where
  userNames : ∀ user ∈ tables.user, NameFits user.userName
  userList : 4 + (12 + 44 * tables.user.length) ≤ writeBufMaxSize
  groupRows : ∀ group ∈ tables.groupsOf userId, NameFits group.groupName ∧ group.adminId.isSome
  groupList : 4 + (12 + ((tables.groupsOf userId).map fun group =>
    48 + (12 + 44 * (tables.membersOf group.groupId).length)).sum) ≤ writeBufMaxSize

/-- The rows of the answer to a history request. -/
def answerRows (database : Database) (order : List MsgRow → List MsgRow)
    (request : C2SGetDataMsgList) : List MsgRow :=
  match selectionLimit request with
  | none => order (database.msg.filter (selects database.groupUser request))
  | some limit => (order (database.msg.filter (selects database.groupUser request))).take limit

/-- What the answer to a history request needs. -/
structure HistoryFits (rows : List MsgRow) : Prop where
  readable : ∀ row ∈ rows, row.Readable
  list : 4 + (12 + (rows.map fun row =>
    39 + (row.msg.getD []).length + (row.extend.getD []).length).sum) ≤ writeBufMaxSize

theorem copyName_isSome_iff {memory : SizedBytes 32} {name : Option (List Byte)} :
    (copyName memory (name.getD [])).isSome ↔ NameFits name := by
  unfold copyName NameFits
  split
  · simp
    omega
  · simp
    omega

namespace Tables

/-- A user list is built when the names fit, and has an entry for each row. -/
theorem vector2UserList_spec {memory : SizedBytes 32} {rows : List UserRow} :
    ((vector2UserList memory rows).isSome ↔ ∀ row ∈ rows, NameFits row.userName) ∧
      ∀ users, vector2UserList memory rows = some users →
        users.encodedSize = 12 + 44 * rows.length := by
  constructor
  · simp only [vector2UserList, Option.isSome_map, mapM_isSome_iff, copyName_isSome_iff]
  · intro users built
    obtain ⟨userVector, read, rfl⟩ := Option.map_eq_some_iff.mp built
    have count := congrArg List.length (mapM_eq_some_iff.mp read)
    rw [List.length_map, List.length_map] at count
    simp only [S2CUserList.encodedSize, ← count]

/-- A group is built when its row and its members' names can be copied. -/
theorem groupItem_spec {tables : Tables} {memory : SizedBytes 32} {row : GroupRow} :
    ((tables.groupItem memory row).isSome ↔ NameFits row.groupName ∧ row.adminId.isSome ∧
        ∀ user ∈ tables.membersOf row.groupId, NameFits user.userName) ∧
      ∀ group, tables.groupItem memory row = some group →
        group.encodedSize = 48 + (12 + 44 * (tables.membersOf row.groupId).length) := by
  obtain ⟨usersBuilt, usersSize⟩ := @vector2UserList_spec memory (tables.membersOf row.groupId)
  constructor
  · rw [← usersBuilt, ← @copyName_isSome_iff memory, groupItem]
    cases copyName memory (row.groupName.getD []) <;> cases row.adminId <;>
      cases vector2UserList memory (tables.membersOf row.groupId) <;> simp
  · intro group built
    simp only [groupItem, Option.bind_eq_bind, Option.bind_eq_some_iff] at built
    obtain ⟨_, _, _, _, userList, users, filled⟩ := built
    obtain rfl := Option.some.inj filled
    simp only [S2CGroup.encodedSize, usersSize userList users]

/-- A group list is built when each group is, and is as large as the groups together. -/
theorem getUserAllGroup_spec {tables : Tables} {memory : SizedBytes 32} {userId : CInt}
    (userNames : ∀ user ∈ tables.user, NameFits user.userName) :
    ((tables.getUserAllGroup memory userId).isSome ↔
        ∀ group ∈ tables.groupsOf userId, NameFits group.groupName ∧ group.adminId.isSome) ∧
      ∀ groups, tables.getUserAllGroup memory userId = some groups →
        groups.encodedSize = 12 + ((tables.groupsOf userId).map fun group =>
          48 + (12 + 44 * (tables.membersOf group.groupId).length)).sum := by
  have memberNames : ∀ groupId, ∀ user ∈ tables.membersOf groupId, NameFits user.userName :=
    fun groupId user member => userNames user (List.mem_of_mem_filter member)
  constructor
  · simp only [getUserAllGroup, Option.isSome_map, mapM_isSome_iff]
    refine forall₂_congr fun group _ => ?_
    rw [groupItem_spec.1]
    exact and_congr_right fun _ => and_iff_left (memberNames _)
  · intro groups built
    obtain ⟨groupVector, read, rfl⟩ := Option.map_eq_some_iff.mp built
    have sizes : groupVector.map S2CGroup.encodedSize = (tables.groupsOf userId).map fun group =>
        48 + (12 + 44 * (tables.membersOf group.groupId).length) :=
      map_eq_of_mapM (fun _ _ => groupItem_spec.2) read
    simp only [S2CGroupList.encodedSize, sizes]

end Tables

/-- A message list is built when the rows have their numbers, and is as large as the
messages together. -/
theorem getDataMsgList_spec {database : Database} {order : List MsgRow → List MsgRow}
    {memory : DataMsg} {request : C2SGetDataMsgList} :
    ((getDataMsgList database order memory request).isSome ↔
        ∀ row ∈ answerRows database order request, row.Readable) ∧
      ∀ messages, getDataMsgList database order memory request = some messages →
        messages.map DataMsg.encodedSize = (answerRows database order request).map fun row =>
          39 + (row.msg.getD []).length + (row.extend.getD []).length := by
  have rows : getDataMsgList database order memory request =
      (answerRows database order request).mapM (MsgRow.toDataMsg memory) := rfl
  rw [rows]
  constructor
  · simp only [mapM_isSome_iff, toDataMsg_isSome_iff]
  · intro messages built
    refine map_eq_of_mapM ?_ built
    intro row _ message read
    simp only [MsgRow.toDataMsg, Option.bind_eq_bind, Option.bind_eq_some_iff] at read
    obtain ⟨_, _, _, _, _, _, _, _, _, _, filled⟩ := read
    obtain rfl := Option.some.inj filled
    simp only [DataMsg.encodedSize, DataMsg.size1, DataHead.size]
    omega

/-- A message list from the tables is serialized as long as it is below 2^31 bytes. -/
theorem Tables.encodes_dataMsgList {tables : Tables} {order : List MsgRow → List MsgRow}
    (valid : ∀ rows, (order rows).Perm rows) {memory : DataMsg} {request : C2SGetDataMsgList}
    {msgVector : List DataMsg}
    (queried : Server.getDataMsgList tables.toDatabase order memory request = some msgVector) :
    Encodes DataMsgList.serialize DataMsgList.encodedSize { DataMsgList.fresh with msgVector } := by
  have stored : ∀ row ∈ answerRows tables.toDatabase order request, row ∈ tables.msg := by
    intro row member
    unfold answerRows at member
    split at member
    · exact List.mem_of_mem_filter ((valid _).mem_iff.mp member)
    · exact List.mem_of_mem_filter ((valid _).mem_iff.mp (List.mem_of_mem_take member))
  apply DataMsgList.encodes
  intro message member
  have inSizes := List.mem_map_of_mem (f := DataMsg.encodedSize) member
  rw [getDataMsgList_spec.2 msgVector queried] at inSizes
  obtain ⟨row, inRows, size⟩ := List.mem_map.mp inSizes
  have texts := tables.texts row (stored row inRows)
  simp only [textMaxSize] at texts
  omega

/-- The calls of a login that finds its user. -/
theorem Tables.dataHandlerC2SLogin_of_found {tables : Tables} {memory userName : SizedBytes 32}
    {condition : UserRow → Bool} {row : UserRow} (found : tables.user.find? condition = some row)
    (named : copyName memory (row.userName.getD []) = some userName) :
    tables.dataHandlerC2SLogin memory condition =
      .answer (S2CLogin.fresh row.userId userName).image.1 :: .clientOpen row.userId ::
        withSerialized ((tables.allUserList memory).bind fun allUser =>
          allUser.serialize.map Prod.fst) fun spAllUser =>
            .answer spAllUser ::
              withSerialized ((tables.getUserAllGroup memory row.userId).bind fun groupList =>
                groupList.serialize.map Prod.fst) fun spGroupList => [.answer spGroupList] := by
  simp only [Tables.dataHandlerC2SLogin, Tables.login, found, named, Option.map_some,
    S2CLogin.serialize_fresh, withSerialized]
  rfl

/-- A login is answered exactly when its replies fit. -/
theorem loginAnswered_iff {state : ServerState} {cfd : Int} {pointer : Nat}
    (connection : EmptyConnection state cfd pointer) {tables : Tables} {memory : SizedBytes 32}
    {condition : UserRow → Bool} {row : UserRow} (found : tables.user.find? condition = some row) :
    Answered state cfd pointer (tables.dataHandlerC2SLogin memory condition) ↔
      tables.LoginFits row.userId := by
  obtain ⟨usersBuilt, usersSize⟩ := @Tables.vector2UserList_spec memory tables.user
  cases named : copyName memory (row.userName.getD []) with
  | none =>
      have tooLong : ¬ NameFits row.userName := by
        rw [← @copyName_isSome_iff memory, named]
        simp
      constructor
      · simp [Tables.dataHandlerC2SLogin, Tables.login, found, named, not_answered_fail]
      · intro fits
        exact absurd (fits.userNames row (List.mem_of_find?_eq_some found)) tooLong
  | some userName =>
      have loginRet : Queued state cfd pointer (S2CLogin.fresh row.userId userName).image.1 := by
        rw [queued_iff connection (by rw [SizedBytes.length]; decide), SizedBytes.length]
        decide
      rw [Tables.dataHandlerC2SLogin_of_found found named, answered_answer_iff,
        answered_clientOpen_iff, answered_reply_iff connection (fun users _ => users.encodes),
        answered_reply_iff connection (fun groups _ => groups.encodes)]
      constructor
      · rintro ⟨_, ⟨users, listed, usersFit⟩, ⟨groups, grouped, groupsFit⟩, _⟩
        have userNames := usersBuilt.mp (Option.isSome_iff_exists.mpr ⟨users, listed⟩)
        obtain ⟨groupsBuilt, groupsSize⟩ := @Tables.getUserAllGroup_spec tables memory row.userId
          userNames
        rw [usersSize users listed] at usersFit
        rw [groupsSize groups grouped] at groupsFit
        exact ⟨userNames, usersFit, groupsBuilt.mp (Option.isSome_iff_exists.mpr ⟨groups, grouped⟩),
          groupsFit⟩
      · intro fits
        obtain ⟨groupsBuilt, groupsSize⟩ := @Tables.getUserAllGroup_spec tables memory row.userId
          fits.userNames
        obtain ⟨users, listed⟩ := Option.isSome_iff_exists.mp (usersBuilt.mpr fits.userNames)
        obtain ⟨groups, grouped⟩ := Option.isSome_iff_exists.mp (groupsBuilt.mpr fits.groupRows)
        refine ⟨loginRet, ⟨users, listed, ?_⟩, ⟨groups, grouped, ?_⟩, ?_⟩
        · rw [usersSize users listed]
          exact fits.userList
        · rw [groupsSize groups grouped]
          exact fits.groupList
        · simp [Answered]

/-- A history request is answered exactly when its reply fits. -/
theorem historyAnswered_iff {state : ServerState} {cfd : Int} {pointer : Nat}
    (connection : EmptyConnection state cfd pointer) {tables : Tables}
    {order : List MsgRow → List MsgRow} (valid : ∀ rows, (order rows).Perm rows)
    {memory : DataMsg} {request : C2SGetDataMsgList} :
    Answered state cfd pointer (tables.dataHandlerC2SGetDataMsgList order memory request) ↔
      HistoryFits (answerRows tables.toDatabase order request) := by
  obtain ⟨built, sizes⟩ := @getDataMsgList_spec tables.toDatabase order memory request
  have handled : tables.dataHandlerC2SGetDataMsgList order memory request =
      withSerialized (((getDataMsgList tables.toDatabase order memory request).map fun msgVector =>
        ({ DataMsgList.fresh with msgVector } : DataMsgList)).bind fun messages =>
          messages.serialize.map Prod.fst) fun msgList => [.answer msgList] := by
    rw [Tables.dataHandlerC2SGetDataMsgList, Option.bind_map]
    rfl
  have encodes : ∀ messages : DataMsgList,
      ((getDataMsgList tables.toDatabase order memory request).map fun msgVector =>
        ({ DataMsgList.fresh with msgVector } : DataMsgList)) = some messages →
      Encodes DataMsgList.serialize DataMsgList.encodedSize messages := by
    intro messages queried
    obtain ⟨msgVector, read, rfl⟩ := Option.map_eq_some_iff.mp queried
    exact tables.encodes_dataMsgList valid read
  rw [handled, answered_reply_iff connection encodes]
  constructor
  · rintro ⟨⟨messages, queried, fits⟩, _⟩
    obtain ⟨msgVector, read, rfl⟩ := Option.map_eq_some_iff.mp queried
    rw [DataMsgList.encodedSize, sizes msgVector read] at fits
    exact ⟨built.mp (Option.isSome_iff_exists.mpr ⟨msgVector, read⟩), fits⟩
  · intro fits
    obtain ⟨msgVector, read⟩ := Option.isSome_iff_exists.mp (built.mpr fits.readable)
    refine ⟨⟨{ DataMsgList.fresh with msgVector }, by rw [read]; rfl, ?_⟩, by simp [Answered]⟩
    rw [DataMsgList.encodedSize, sizes msgVector read]
    exact fits.list

/-- For an open connection with nothing to write: a login that succeeds and a history
request are answered exactly when their replies fit. -/
theorem requests_answered_iff {state : ServerState} {cfd : Int} {pointer : Nat}
    (connection : EmptyConnection state cfd pointer) {tables : Tables}
    {condition : UserRow → Bool} {row : UserRow} (found : tables.user.find? condition = some row)
    {order : List MsgRow → List MsgRow} (valid : ∀ rows, (order rows).Perm rows)
    (text : SizedBytes 32) (memory : DataMsg) (request : C2SGetDataMsgList) :
    (Answered state cfd pointer (tables.dataHandlerC2SLogin text condition) ↔
        tables.LoginFits row.userId) ∧
      (Answered state cfd pointer (tables.dataHandlerC2SGetDataMsgList order memory request) ↔
        HistoryFits (answerRows tables.toDatabase order request)) :=
  ⟨loginAnswered_iff connection found, historyAnswered_iff connection valid⟩

/-- So many users without a name, in no group and without messages. -/
def users (count : Nat) : Tables where
  groupUser := []
  msg := []
  autoIncrement := 1000000
  positive := firstMsgId_positive
  user := (List.range count).map fun index => ⟨BitVec.ofNat 32 (100000 + index), none⟩
  group := []
  texts := by simp

/-- A login finds the first of them. -/
theorem find_users (others : Nat) :
    (users (others + 1)).user.find? (fun _ => true) = some ⟨100000, none⟩ := by
  simp [users, List.range_succ_eq_map]

/-- The server after it has accepted a connection under fd 5. -/
def accepted5 : ServerState :=
  ServerState.start.server4ClientConnectCallback 5 (.zeros readBufMaxSize)

theorem emptyConnection_accepted5 : EmptyConnection accepted5 5 0 :=
  ⟨rfl, _, rfl, rfl⟩

/-- Three users, two groups, and a message to the first user and one to each group. -/
def staff : Tables where
  groupUser := [⟨1, 100000⟩, ⟨1, 100001⟩, ⟨2, 100000⟩, ⟨2, 100002⟩, ⟨2, 100001⟩]
  msg :=
    [⟨1000000, some 1, some [104, 105], some 100001, some 100000, some 0, some 7, some [1, 2]⟩,
      ⟨1000001, some 1, some [111, 107], some 100001, some 1, some 1, some 8, none⟩,
      ⟨1000002, some 1, none, some 100002, some 2, some 1, some 9, some [3]⟩]
  autoIncrement := 1000003
  positive := Nat.succ_pos _
  user := [⟨100000, some [97, 110, 110]⟩, ⟨100001, some [98, 111, 98]⟩, ⟨100002, none⟩]
  group := [⟨1, some [97, 108, 108], some 100001⟩, ⟨2, none, some 100000⟩, ⟨3, none, none⟩]
  texts := by decide

/-- The first of them logs in. -/
theorem find_staff :
    staff.user.find? (fun user => user.userId = 100000) = some ⟨100000, some [97, 110, 110]⟩ := rfl

/-- The lists of users, groups and messages are sent. -/
theorem staff_answered :
    Answered accepted5 5 0
        (staff.dataHandlerC2SLogin (.zeros 32) fun user => user.userId = 100000) ∧
      Answered accepted5 5 0 (staff.dataHandlerC2SGetDataMsgList List.reverse .zeroed
        (.fresh 0 100000)) ∧
      (answerRows staff.toDatabase List.reverse (.fresh 0 100000)).map MsgRow.msgId =
        [1000002, 1000001, 1000000] := by
  obtain ⟨login, history⟩ := @requests_answered_iff accepted5 5 0 emptyConnection_accepted5 staff _ _
    find_staff List.reverse (fun rows => List.reverse_perm rows) (.zeros 32) .zeroed
    (.fresh 0 100000)
  refine ⟨login.mpr ⟨?_, ?_, ?_, ?_⟩, history.mpr ⟨?_, ?_⟩, by decide⟩
  · simp [staff, NameFits]
  · decide
  · simp [staff, Tables.groupsOf, NameFits]
  · decide
  · have rows : answerRows staff.toDatabase List.reverse (.fresh 0 100000) = staff.msg.reverse := by
      decide
    rw [rows]
    simp [staff, MsgRow.Readable]
  · decide

/-- With 2327 users, the list of all users needs 102404 bytes, and a login loses it. -/
theorem manyUsers_not_answered :
    EmptyConnection accepted5 5 0 ∧
      (users 2327).user.find? (fun _ => true) = some ⟨100000, none⟩ ∧
      ¬ Answered accepted5 5 0 ((users 2327).dataHandlerC2SLogin (.zeros 32) fun _ => true) := by
  have found : (users 2327).user.find? (fun _ => true) = some ⟨100000, none⟩ :=
    find_users 2326
  refine ⟨emptyConnection_accepted5, found, ?_⟩
  rw [loginAnswered_iff emptyConnection_accepted5 found]
  intro fits
  have size := fits.userList
  simp only [users, List.length_map, List.length_range, writeBufMaxSize] at size
  omega

end SocketMessage.Server
