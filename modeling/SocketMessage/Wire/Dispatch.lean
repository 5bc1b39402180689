import SocketMessage.Wire.Footprint

/-!
# The two dispatchers

`DataHandler::ThreadWork` on the server and
`SocketMessageSdkInterface::SocketReadReadPackageCallback` on the client check a
package's length against its head and hand it to the handler registered for its
type. The handler's first step is `UnSerialize`; nothing in between looks at the
rest of the package. What the handlers do with the value is not modelled here.
-/

namespace SocketMessage.Wire

open SocketMessage.Lib

/-- What became of a package: a check refused it or no callback wanted it,
`UnSerialize` read outside of it, or it was decoded. -/
inductive Dispatched (α : Type) where
  | dropped
  | outside
  | decoded (value : α)
deriving DecidableEq, Repr

/-- The result of a handler's `UnSerialize`. -/
def Dispatched.ofDecoded {α β : Type} (wrap : α → β) : Option α → Dispatched β
  | none => .outside
  | some value => .decoded (wrap value)

/-- The registered type a package names, once the checks have passed: at least a
head, `DataSize` equal to the package's size, the type present in `m_DataTypeMap`. -/
def dispatchedType (registered : List EDataType) (data : List Byte) : Option EDataType := do
  let image ← readBytes data 0 DataHead.size
  let head := DataHead.ofImage image
  if head.dataSize.toInt ≠ data.length then none
  else registered.find? fun dataType => dataType.value = head.dataType

/-- What the server's handlers decode. -/
inductive Request where
  | login (request : C2SLogin)
  | dataMsg (request : DataMsg)
  | getDataMsgList (request : C2SGetDataMsgList)
deriving DecidableEq, Repr

/-- `DataHandler::RegeditDataHandler`. -/
def serverDataTypes : List EDataType := [.c2SLogin, .c2SDataMsg, .c2SGetDataMsgList]

/-- What the memory of the objects built by the handlers held before. -/
structure Memory where
  id : CInt
  lastMsgId : CInt
  text : SizedBytes 32
  dataMsg : DataMsg

/-- Memory that holds zeros. -/
def Memory.zeroed : Memory := ⟨0, 0, .zeros 32, .zeroed⟩

/-- `DataHandler::ThreadWork` up to and including the handler's `UnSerialize`. -/
def threadWork (memory : Memory) (data : List Byte) : Dispatched Request :=
  match dispatchedType serverDataTypes data with
  | some .c2SLogin =>
      .ofDecoded .login ((C2SLogin.fresh memory.id memory.text).unSerialize data)
  | some .c2SDataMsg =>
      .ofDecoded .dataMsg ((memory.dataMsg.construct .c2SDataMsg).unSerialize data 0)
  | some .c2SGetDataMsgList =>
      .ofDecoded .getDataMsgList
        ((C2SGetDataMsgList.fresh memory.lastMsgId memory.id).unSerialize data)
  | _ => .dropped

/-- What the client's handlers decode. -/
inductive Answer where
  | login (answer : S2CLogin)
  | userList (answer : S2CUserList)
  | groupList (answer : S2CGroupList)
  | dataMsg (answer : DataMsg)
  | dataMsgList (answer : DataMsgList)
deriving DecidableEq, Repr

/-- The client's `RegeditDataHandler`. -/
def clientDataTypes : List EDataType :=
  [.s2CLogin, .s2CUserList, .s2CGroupList, .s2CDataMsg, .s2CDataMsgList]

/-- `SocketReadReadPackageCallback` up to and including the handler's `UnSerialize`.
A handler whose application callback is not set does nothing. -/
def socketReadReadPackageCallback (callbackSet : EDataType → Bool) (memory : Memory)
    (data : List Byte) : Dispatched Answer :=
  match (dispatchedType clientDataTypes data).filter callbackSet with
  | some .s2CLogin =>
      .ofDecoded .login ((S2CLogin.fresh memory.id memory.text).unSerialize data)
  | some .s2CUserList => .ofDecoded .userList (S2CUserList.fresh.unSerialize data 0)
  | some .s2CGroupList => .ofDecoded .groupList (S2CGroupList.fresh.unSerialize data 0)
  | some .s2CDataMsg =>
      .ofDecoded .dataMsg ((memory.dataMsg.construct .s2CDataMsg).unSerialize data 0)
  | some .s2CDataMsgList => .ofDecoded .dataMsgList (DataMsgList.fresh.unSerialize data 0)
  | _ => .dropped

/-- What a package of a registered type must hold for its decoder to stay inside. -/
def EDataType.Fits (data : List Byte) : EDataType → Prop
  | .c2SLogin | .s2CLogin => 44 ≤ data.length
  | .c2SGetDataMsgList => 16 ≤ data.length
  | .c2SDataMsg | .s2CDataMsg => DataMsg.Fits data 0
  | .s2CUserList => S2CUserList.Fits data 0
  | .s2CGroupList => nestedFits S2CGroup.Fits data 0
  | .s2CDataMsgList => nestedFits DataMsg.Fits data 0
  | .s2CUser | .s2CGroup => True

/-- A struct copied whole needs as many bytes as it has. -/
theorem readBytes_map_isSome_iff {α : Type} {data : List Byte} {count : Nat}
    {wrap : SizedBytes count → α} :
    ((readBytes data 0 count).map wrap).isSome ↔ count ≤ data.length := by
  rw [Option.isSome_map, readBytes_isSome_iff]
  omega

/-- Only a failed `UnSerialize` is an access outside the package. -/
theorem Dispatched.ofDecoded_ne_outside_iff {α β : Type} {wrap : α → β} {result : Option α} :
    Dispatched.ofDecoded wrap result ≠ .outside ↔ result.isSome := by
  cases result <;> simp [Dispatched.ofDecoded]

/-- The checks let registered types through only. -/
theorem mem_of_dispatchedType {registered : List EDataType} {data : List Byte}
    {dataType : EDataType} (passed : dispatchedType registered data = some dataType) :
    dataType ∈ registered := by
  simp only [dispatchedType, Option.bind_eq_bind, Option.bind_eq_some_iff] at passed
  obtain ⟨image, _, found⟩ := passed
  split at found
  · cases found
  · exact List.mem_of_find?_eq_some found

/-- The server stays inside a package exactly when it fits its type. -/
theorem threadWork_ne_outside_iff (memory : Memory) (data : List Byte) :
    threadWork memory data ≠ .outside ↔
      ∀ dataType, dispatchedType serverDataTypes data = some dataType → dataType.Fits data := by
  cases passed : dispatchedType serverDataTypes data with
  | none => simp [threadWork, passed]
  | some dataType =>
      have registered := mem_of_dispatchedType passed
      simp only [serverDataTypes, List.mem_cons, List.not_mem_nil, or_false] at registered
      simp only [Option.some.injEq, forall_eq']
      rcases registered with rfl | rfl | rfl
      · rw [threadWork, passed, Dispatched.ofDecoded_ne_outside_iff, C2SLogin.unSerialize_fresh]
        exact readBytes_map_isSome_iff
      · rw [threadWork, passed, Dispatched.ofDecoded_ne_outside_iff]
        exact DataMsg.unSerialize_isSome_iff _ data 0
      · rw [threadWork, passed, Dispatched.ofDecoded_ne_outside_iff,
          C2SGetDataMsgList.unSerialize_fresh]
        exact readBytes_map_isSome_iff

/-- The client stays inside a package exactly when it fits its type, or nobody
wants it. -/
theorem socketReadReadPackageCallback_ne_outside_iff (callbackSet : EDataType → Bool)
    (memory : Memory) (data : List Byte) :
    socketReadReadPackageCallback callbackSet memory data ≠ .outside ↔
      ∀ dataType, dispatchedType clientDataTypes data = some dataType → callbackSet dataType →
        dataType.Fits data := by
  cases passed : dispatchedType clientDataTypes data with
  | none => simp [socketReadReadPackageCallback, passed]
  | some dataType =>
      have registered := mem_of_dispatchedType passed
      simp only [clientDataTypes, List.mem_cons, List.not_mem_nil, or_false] at registered
      simp only [Option.some.injEq, forall_eq']
      cases wanted : callbackSet dataType with
      | false =>
          have refused : (some dataType).filter callbackSet = none := by simp [wanted]
          rw [socketReadReadPackageCallback, passed, refused]
          simp
      | true =>
          have kept : (some dataType).filter callbackSet = some dataType := by simp [wanted]
          simp only [forall_const]
          rcases registered with rfl | rfl | rfl | rfl | rfl
          · rw [socketReadReadPackageCallback, passed, kept, Dispatched.ofDecoded_ne_outside_iff,
              S2CLogin.unSerialize_fresh]
            exact readBytes_map_isSome_iff
          · rw [socketReadReadPackageCallback, passed, kept, Dispatched.ofDecoded_ne_outside_iff]
            exact S2CUserList.unSerialize_isSome_iff _ data 0
          · rw [socketReadReadPackageCallback, passed, kept, Dispatched.ofDecoded_ne_outside_iff]
            exact S2CGroupList.unSerialize_isSome_iff _ data 0
          · rw [socketReadReadPackageCallback, passed, kept, Dispatched.ofDecoded_ne_outside_iff]
            exact DataMsg.unSerialize_isSome_iff _ data 0
          · rw [socketReadReadPackageCallback, passed, kept, Dispatched.ofDecoded_ne_outside_iff]
            exact DataMsgList.unSerialize_isSome_iff _ data 0

/-- Both dispatchers read only inside a package exactly when every field the decoder
of its type follows stays inside it. -/
theorem dispatchers_inside_iff_fits (memory : Memory) (data : List Byte) :
    (threadWork memory data ≠ .outside ↔
      ∀ dataType, dispatchedType serverDataTypes data = some dataType → dataType.Fits data) ∧
    ∀ callbackSet : EDataType → Bool,
      socketReadReadPackageCallback callbackSet memory data ≠ .outside ↔
        ∀ dataType, dispatchedType clientDataTypes data = some dataType → callbackSet dataType →
          dataType.Fits data :=
  ⟨threadWork_ne_outside_iff memory data, fun callbackSet =>
    socketReadReadPackageCallback_ne_outside_iff callbackSet memory data⟩

/-- A login that is nothing but its head. -/
def bareLogin : List Byte := [8, 0, 0, 0, 100, 0, 0, 0]

/-- It passes the checks and the server reads 36 bytes behind it. -/
theorem bareLogin_outside :
    dispatchedType serverDataTypes bareLogin = some .c2SLogin ∧
      ∀ memory, threadWork memory bareLogin = .outside := by
  have passed : dispatchedType serverDataTypes bareLogin = some .c2SLogin := by decide
  refine ⟨passed, fun memory => ?_⟩
  rw [threadWork, passed]
  simp only [C2SLogin.unSerialize_fresh]
  rfl

end SocketMessage.Wire
