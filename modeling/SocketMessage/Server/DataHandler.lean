import SocketMessage.Wire.Dispatch

/-!
# What the handlers do with a package

`DataHandler::ThreadWork` decodes a package and runs the handler of its type. A
handler asks the database and then calls `SendPackage` and `ClientOpen`; these calls,
in order, are its `HandlerAction`s. The database layer's answers are a parameter,
since no step of a connection's life depends on what they say.
-/

namespace SocketMessage.Server

open SocketMessage.Lib SocketMessage.Wire

/-- What the database layer and the clock answer while a handler runs. -/
structure Queries where
  /-- `DBUser::Login`: the result, and the reply it has filled in. -/
  login : C2SLogin → Bool × S2CLogin
  /-- `DBUser::AllUserList`. -/
  allUserList : S2CUserList
  /-- `DBGroup::GetUserAllGroup`. -/
  getUserAllGroup : CInt → S2CGroupList
  /-- `DBMsg::GetDataMsgList`. -/
  getDataMsgList : C2SGetDataMsgList → DataMsgList
  /-- `DBMsg::SaveMsgData`: the `MsgId` of the stored message, or 0. -/
  saveMsgData : DataMsg → CInt
  /-- `DBGroup::GetUserIdByGroupId`. -/
  getUserIdByGroupId : CInt → List CInt
  /-- `Utils::GetTimeStampSeconds`. -/
  timeStampSeconds : CInt

/-- A database without users, groups and messages, at time 0. -/
def Queries.empty : Queries where
  login request := (false, .fresh request.userId Memory.zeroed.text)
  allUserList := .fresh
  getUserAllGroup _ := .fresh
  getDataMsgList _ := .fresh
  saveMsgData _ := 0
  getUserIdByGroupId _ := []
  timeStampSeconds := 0

/-- A call a handler makes: answer on the connection the package names, enter a user
under it, relay to a user. `fail`: a `Serialize` throws. -/
inductive HandlerAction where
  | answer (data : List Byte)
  | clientOpen (userId : CInt)
  | relay (userId : CInt) (data : List Byte)
  | fail
deriving DecidableEq, Repr

/-- `Serialize` the reply, then use the bytes. -/
def withSerialized (serialized : Option (List Byte)) (use : List Byte → List HandlerAction) :
    List HandlerAction :=
  match serialized with
  | none => [.fail]
  | some data => use data

/-- `DataHandlerC2SLogin`, once the package is decoded: the result; after a successful
login the users and the groups too. -/
def dataHandlerC2SLogin (queries : Queries) (login : C2SLogin) : List HandlerAction :=
  let (isLogin, loginRet) := queries.login login
  withSerialized loginRet.serialize fun spLogin =>
    if !isLogin then [.answer spLogin]
    else .answer spLogin :: .clientOpen loginRet.userId ::
      withSerialized (queries.allUserList.serialize.map Prod.fst) fun spAllUser =>
        .answer spAllUser ::
          withSerialized ((queries.getUserAllGroup loginRet.userId).serialize.map Prod.fst)
            fun spGroupList => [.answer spGroupList]

/-- `DataHandlerC2SGetDataMsgList`, once the package is decoded. -/
def dataHandlerC2SGetDataMsgList (queries : Queries) (getDataMsgList : C2SGetDataMsgList) :
    List HandlerAction :=
  withSerialized ((queries.getDataMsgList getDataMsgList).serialize.map Prod.fst) fun msgList =>
    [.answer msgList]

/-- `DataHandlerC2SDataMsg`, once the package is decoded: the stored message goes to
the receiver or to the group's members, but not back to the sender. -/
def dataHandlerC2SDataMsg (queries : Queries) (clientMsg : DataMsg) : List HandlerAction :=
  let clientMsg := { clientMsg with createdTime := queries.timeStampSeconds }
  let clientMsg := { clientMsg with msgId := queries.saveMsgData clientMsg }
  let sendUserVector :=
    if clientMsg.isGroup then queries.getUserIdByGroupId clientMsg.receiver
    else [clientMsg.receiver]
  let serverMsg := { clientMsg with dataType := EDataType.s2CDataMsg.value }
  withSerialized (serverMsg.serialize.map Prod.fst) fun data =>
    (sendUserVector.filter (· ≠ clientMsg.sender)).map fun userId => .relay userId data

/-- The handler registered for a decoded request. -/
def handle (queries : Queries) : Request → List HandlerAction
  | .login request => dataHandlerC2SLogin queries request
  | .dataMsg request => dataHandlerC2SDataMsg queries request
  | .getDataMsgList request => dataHandlerC2SGetDataMsgList queries request

end SocketMessage.Server
