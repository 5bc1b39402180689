import SocketMessage.Client.Session
import SocketMessage.Server.TextFields

/-!
# What the application is shown

The five handlers of `SocketMessageSdkInterface` decode a package into the structs of
`SocketMessageSdkDataType.h` and call the application's callback with them. A name is copied
up to its NUL. The packages of a connection are handled one after the other, on one thread,
and each handler builds its objects in whatever the memory holds then.
-/

namespace SocketMessage.Client

open SocketMessage.Lib SocketMessage.Wire SocketMessage.Server

structure UserInfo where
  userId : CInt
  userName : List Byte
deriving DecidableEq, Repr

structure GroupInfo where
  groupId : CInt
  groupName : List Byte
  adminId : CInt
  userList : List UserInfo
deriving DecidableEq, Repr

structure ChatMsg where
  msgId : CInt
  msgType : CInt
  sender : CInt
  receiver : CInt
  isGroup : Bool
  createdTime : CInt
  msg : List Byte
  extend : List Byte
deriving DecidableEq, Repr

/-- A call of an application's callback, with what it gets beside the connection's id. -/
inductive Shown where
  | login (userId : CInt) (userName : List Byte)
  | userList (users : List UserInfo)
  | groupList (groups : List GroupInfo)
  | dataMsg (msg : ChatMsg)
  | dataMsgList (msgs : List ChatMsg)
deriving DecidableEq, Repr

/-! ## The handlers behind `UnSerialize` -/

/-- The loop body over a user vector, in `DataHandlerS2CUserList` and `DataHandlerS2CGroupList`.
A name without a NUL is read beyond its field. -/
def userInfo (user : S2CUser) : Option UserInfo :=
  (readText user.userName).map fun userName => ⟨user.userId, userName⟩

/-- The loop body of `DataHandlerS2CGroupList`. -/
def groupInfo (group : S2CGroup) : Option GroupInfo := do
  let groupName ← readText group.groupName
  let userList ← group.userList.userVector.mapM userInfo
  return ⟨group.groupId, groupName, group.adminId, userList⟩

/-- The fields `DataHandlerS2CDataMsg` and `DataHandlerS2CDataMsgList` copy. -/
def chatMsg (msg : DataMsg) : ChatMsg where
  msgId := msg.msgId
  msgType := msg.msgType
  sender := msg.sender
  receiver := msg.receiver
  isGroup := msg.isGroup
  createdTime := msg.createdTime
  msg := msg.msg
  extend := msg.extend

/-- What each handler calls its callback with. -/
def shown : Wire.Answer → Option Shown
  | .login login => (readText login.userName).map (.login login.userId)
  | .userList userList => (userList.userVector.mapM userInfo).map .userList
  | .groupList groupList => (groupList.groupVector.mapM groupInfo).map .groupList
  | .dataMsg msg => some (.dataMsg (chatMsg msg))
  | .dataMsgList msgList => some (.dataMsgList (msgList.msgVector.map chatMsg))

/-- What a package makes the client call, if anything; `none` when it reads outside the package
or outside a name. -/
def shownBy (callbackSet : EDataType → Bool) (memory : Memory) (data : List Byte) :
    Option (Option Shown) :=
  match socketReadReadPackageCallback callbackSet memory data with
  | .dropped => some none
  | .outside => none
  | .decoded answer => (shown answer).map some

namespace SdkState

/-- `SocketReadReadPackageCallback` with its handler. -/
def handlePackage (state : SdkState) (id : CInt) (memory : Memory) (data : List Byte) :
    Option (SdkState × List Shown) := do
  let next ← state.readPackage id memory data
  let calls ← shownBy state.callbacks memory data
  return (next, calls.toList)

/-- The packages of a connection one after the other, each handled in its own memory. -/
@[simp] def handlePackages (id : CInt) : SdkState → List (Memory × List Byte) →
    Option (SdkState × List Shown)
  | state, [] => some (state, [])
  | state, (memory, data) :: rest => do
      let (next, calls) ← state.handlePackage id memory data
      let (last, more) ← handlePackages id next rest
      return (last, calls ++ more)

variable {state next : SdkState} {id : CInt} {memory : Memory} {data : List Byte}

/-- A package leaves the application's callbacks as they are. -/
theorem callbacks_readPackage (read : state.readPackage id memory data = some next) :
    next.callbacks = state.callbacks := by
  rw [readPackage_eq read]
  cases loginOf memory data <;> rfl

/-- A package that the client shows. -/
def Shows (callbacks : EDataType → Bool) (data : List Byte) (call : Shown) : Prop :=
  ∀ memory, shownBy callbacks memory data = some (some call)

/-- The user a callback says has logged in. -/
def loggedIn : Shown → Option CInt
  | .login userId _ => if userId ≠ -1 then some userId else none
  | _ => none

/-- Only an `S2CLogin` is shown as one. -/
theorem decoded_of_shown {callbacks : EDataType → Bool} {call : Shown}
    (shows : shownBy callbacks memory data = some (some call)) :
    ∃ answer, socketReadReadPackageCallback callbacks memory data = .decoded answer ∧
      shown answer = some call := by
  unfold shownBy at shows
  split at shows
  · cases shows
  · cases shows
  · next answer decoded =>
    obtain ⟨_, same, again⟩ := Option.map_eq_some_iff.mp shows
    obtain rfl := Option.some.inj again
    exact ⟨answer, decoded, same⟩

/-- Nothing is shown of an empty package. -/
theorem not_shows_nil {callbacks : EDataType → Bool} {call : Shown} : ¬ Shows callbacks [] call := by
  intro shows
  cases shows .zeroed

@[simp] theorem selfUserId_record (user : Option CInt) :
    (state.record id user).selfUserId = state.selfUserId := by
  cases user <;> rfl

/-- A package that is decoded is read. -/
theorem readPackage_of_decoded {answer : Wire.Answer}
    (decoded : socketReadReadPackageCallback state.callbacks memory data = .decoded answer) :
    ∃ next, state.readPackage id memory data = some next ∧
      ∀ call, shown answer = some call →
        next.selfUserId = (loggedIn call).getD state.selfUserId := by
  cases answer with
  | login login =>
      refine ⟨(state.dataHandlerS2CLogin login).record id (loginOf memory data), ?_, ?_⟩
      · rw [readPackage, decoded]
      · intro call called
        obtain ⟨userName, _, rfl⟩ := Option.map_eq_some_iff.mp called
        rw [selfUserId_record, dataHandlerS2CLogin, loggedIn]
        split <;> rfl
  | userList userList =>
      refine ⟨_, by rw [readPackage, decoded], fun call called => ?_⟩
      obtain ⟨_, _, rfl⟩ := Option.map_eq_some_iff.mp called
      exact selfUserId_record _
  | groupList groupList =>
      refine ⟨_, by rw [readPackage, decoded], fun call called => ?_⟩
      obtain ⟨_, _, rfl⟩ := Option.map_eq_some_iff.mp called
      exact selfUserId_record _
  | dataMsg msg =>
      refine ⟨_, by rw [readPackage, decoded], fun call called => ?_⟩
      obtain rfl := Option.some.inj called
      exact selfUserId_record _
  | dataMsgList msgList =>
      refine ⟨_, by rw [readPackage, decoded], fun call called => ?_⟩
      obtain rfl := Option.some.inj called
      exact selfUserId_record _

/-- A package that is shown makes one call, and a login tells the object who it is. -/
theorem handlePackage_of_shows {call : Shown} (shows : Shows state.callbacks data call) :
    ∃ next, state.handlePackage id memory data = some (next, [call]) ∧
      next.callbacks = state.callbacks ∧
      next.selfUserId = (loggedIn call).getD state.selfUserId := by
  obtain ⟨answer, decoded, called⟩ := decoded_of_shown (shows memory)
  obtain ⟨next, read, user⟩ := @readPackage_of_decoded state id memory data answer decoded
  refine ⟨next, ?_, callbacks_readPackage read, user call called⟩
  simp [handlePackage, read, shows memory]

/-- Packages that are shown are shown in their order. -/
theorem handlePackages_of_shows (id : CInt) {packages : List (Memory × List Byte)} {calls : List Shown}
    (shows : List.Forall₂ (fun package call => Shows state.callbacks package.2 call) packages calls) :
    ∃ next, handlePackages id state packages = some (next, calls) ∧
      next.selfUserId = calls.foldl (fun user call => (loggedIn call).getD user) state.selfUserId := by
  induction packages generalizing state calls with
  | nil =>
      cases shows
      exact ⟨state, rfl, rfl⟩
  | cons package packages inductionHypothesis =>
      obtain ⟨call, calls, first, rest, rfl⟩ := List.forall₂_cons_left_iff.mp shows
      obtain ⟨next, handled, callbacks, user⟩ :=
        @handlePackage_of_shows state id package.1 package.2 call first
      obtain ⟨last, handledRest, lastUser⟩ := @inductionHypothesis next calls (callbacks ▸ rest)
      refine ⟨last, ?_, ?_⟩
      · simp [handlePackages, handled, handledRest]
      · rw [lastUser, user, List.foldl_cons]

end SdkState

end SocketMessage.Client
