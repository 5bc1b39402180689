import SocketMessage.Wire.Encoding
import SocketMessage.Server.Database
import SocketMessage.Server.Consistency

/-!
# Stored messages and relayed messages

`DataHandlerC2SDataMsg` stores a message and then relays it to whoever is online. The
branch for a message that could not be stored is empty, so that it is relayed all the
same, under the `MsgId` 0.
-/

namespace SocketMessage.Server

open SocketMessage.Lib SocketMessage.Frame SocketMessage.Wire

/-- The packages a handler's relays hand to `SendPackage`, with their fds. -/
def relays (onlineUserMap : OrderedMap Int Int) (actions : List HandlerAction) :
    List (Int × List Byte) :=
  actions.filterMap fun
    | .relay userId data =>
        let cfd := userId2Cfd onlineUserMap userId.toInt
        if cfd > 0 then some (cfd, data) else none
    | _ => none

/-- What the database and the clock answer to the handler of a chat message. -/
def messageQueries (database : Database) (accepted : Bool) (now : CInt) : Queries :=
  { Queries.empty with
    saveMsgData := fun clientMsg => (saveMsgData database accepted clientMsg).2.1.msgId
    getUserIdByGroupId := getUserIdByGroupId database.groupUser
    timeStampSeconds := now }

/-- The tables after the handler's `INSERT`. -/
def afterInsert (database : Database) (accepted : Bool) (now : CInt) (clientMsg : DataMsg) :
    Database :=
  (saveMsgData database accepted { clientMsg with createdTime := now }).1

/-- What the handler of a chat message hands to `SendPackage`. -/
def relayed (database : Database) (accepted : Bool) (now : CInt)
    (onlineUserMap : OrderedMap Int Int) (clientMsg : DataMsg) : List (Int × List Byte) :=
  relays onlineUserMap (dataHandlerC2SDataMsg (messageQueries database accepted now) clientMsg)

/-- The `INSERT` yields a new row: the database takes it and has an id left for it. -/
def InsertSucceeds (database : Database) (accepted : Bool) : Prop :=
  accepted = true ∧ database.autoIncrement < 2 ^ 31

/-- No recipient but the sender has a connection. -/
def NobodyElseOnline (groupUser : List GroupUserRow) (onlineUserMap : OrderedMap Int Int)
    (clientMsg : DataMsg) : Prop :=
  ∀ userId ∈ sendUserVector groupUser clientMsg, userId ≠ clientMsg.sender →
    userId2Cfd onlineUserMap userId.toInt ≤ 0

/-- A package of type `S2CDataMsg` whose `MsgId` names a row with the same content. -/
def CarriesStored (database : Database) (data : List Byte) : Prop :=
  ∃ serverMsg : DataMsg, serverMsg.serialize.map Prod.fst = some data ∧
    serverMsg.dataType = EDataType.s2CDataMsg.value ∧ .ofDataMsg serverMsg ∈ database.msg

/-- Every relayed package carries a stored message, and nothing is relayed when the
`INSERT` fails. -/
def RelaysOnlyStored (database : Database) (accepted : Bool) (now : CInt)
    (onlineUserMap : OrderedMap Int Int) (clientMsg : DataMsg) : Prop :=
  (∀ relay ∈ relayed database accepted now onlineUserMap clientMsg,
      CarriesStored (afterInsert database accepted now clientMsg) relay.2) ∧
    (¬ InsertSucceeds database accepted →
      relayed database accepted now onlineUserMap clientMsg = [])

/-- The message as it is sent on: the server's time, the id of the `INSERT`, the type
for the client. -/
def serverMsg (database : Database) (accepted : Bool) (now : CInt) (clientMsg : DataMsg) : DataMsg :=
  let saved := (saveMsgData database accepted { clientMsg with createdTime := now }).2.1
  { saved with dataType := EDataType.s2CDataMsg.value }

/-! ## The message that is sent on -/

/-- A message decoded from a package of the framer can be encoded again. -/
theorem encodedSize_lt_of_threadWork {memory : Memory} {data : List Byte} {clientMsg : DataMsg}
    (framed : data.length ≤ readBufMaxSize)
    (decoded : threadWork memory data = .decoded (.dataMsg clientMsg)) :
    clientMsg.encodedSize < 2 ^ 31 := by
  have unSerialized :
      (memory.dataMsg.construct .c2SDataMsg).unSerialize data 0 = some clientMsg := by
    unfold threadWork at decoded
    split at decoded
    · cases loaded : (C2SLogin.fresh memory.id memory.text).unSerialize data <;>
        simp [Dispatched.ofDecoded, loaded] at decoded
    · cases loaded : (memory.dataMsg.construct .c2SDataMsg).unSerialize data 0 with
      | none => simp [Dispatched.ofDecoded, loaded] at decoded
      | some message => simpa [Dispatched.ofDecoded, loaded] using decoded
    · cases loaded : (C2SGetDataMsgList.fresh memory.lastMsgId memory.id).unSerialize data <;>
        simp [Dispatched.ofDecoded, loaded] at decoded
    · cases decoded
  simp only [DataMsg.unSerialize, Option.bind_eq_bind, Option.bind_eq_some_iff] at unSerialized
  obtain ⟨image, _, msgSize, _, msg, msgRead, extendSize, _, extend, extendRead, built⟩ :=
    unSerialized
  obtain rfl := Option.some.inj built
  have msgInside := length_readCString_le msgRead
  have extendInside := length_readCString_le extendRead
  simp only [DataMsg.encodedSize, DataMsg.ofImage, DataMsg.construct, DataMsg.fresh,
    List.nil_append, DataMsg.size1, DataHead.size]
  simp only [readBufMaxSize] at framed
  omega

/-- The handler relays one encoding to everybody in the list but the sender. -/
theorem dataHandlerC2SDataMsg_eq {database : Database} {accepted : Bool} {now : CInt}
    {clientMsg : DataMsg} (bounded : clientMsg.encodedSize < 2 ^ 31) :
    dataHandlerC2SDataMsg (messageQueries database accepted now) clientMsg =
      ((sendUserVector database.groupUser clientMsg).filter (· ≠ clientMsg.sender)).map
        fun userId => .relay userId (serverMsg database accepted now clientMsg).sized.wire := by
  have message : serverMsg database accepted now clientMsg =
      { clientMsg with
        createdTime := now
        msgId := (saveMsgData database accepted { clientMsg with createdTime := now }).2.1.msgId
        dataType := EDataType.s2CDataMsg.value } := by
    unfold serverMsg saveMsgData
    split <;> rfl
  have serialized := DataMsg.serialize_eq
    { clientMsg with
      createdTime := now
      msgId := (saveMsgData database accepted { clientMsg with createdTime := now }).2.1.msgId
      dataType := EDataType.s2CDataMsg.value } bounded
  simp only [dataHandlerC2SDataMsg, messageQueries, serialized, Option.map_some, withSerialized,
    message]
  rfl

/-- The handler sends one encoding to every recipient but the sender. -/
theorem relayed_eq {database : Database} {accepted : Bool} {now : CInt}
    {onlineUserMap : OrderedMap Int Int} {clientMsg : DataMsg}
    (bounded : clientMsg.encodedSize < 2 ^ 31) :
    relayed database accepted now onlineUserMap clientMsg =
      ((sendUserVector database.groupUser clientMsg).filter (· ≠ clientMsg.sender)).filterMap
        fun userId =>
          if userId2Cfd onlineUserMap userId.toInt > 0 then
            some (userId2Cfd onlineUserMap userId.toInt,
              (serverMsg database accepted now clientMsg).sized.wire)
          else none := by
  rw [relayed, dataHandlerC2SDataMsg_eq bounded, relays, List.filterMap_map]
  rfl

/-- Nothing is relayed exactly when nobody else is online. -/
theorem relayed_eq_nil_iff {database : Database} {accepted : Bool} {now : CInt}
    {onlineUserMap : OrderedMap Int Int} {clientMsg : DataMsg}
    (bounded : clientMsg.encodedSize < 2 ^ 31) :
    relayed database accepted now onlineUserMap clientMsg = [] ↔
      NobodyElseOnline database.groupUser onlineUserMap clientMsg := by
  rw [relayed_eq bounded, NobodyElseOnline]
  simp

/-- A successful `INSERT` leaves the message that is sent on in the table. -/
theorem serverMsg_stored {database : Database} {accepted : Bool} {now : CInt} {clientMsg : DataMsg}
    (inserted : InsertSucceeds database accepted) :
    .ofDataMsg (serverMsg database accepted now clientMsg) ∈
      (afterInsert database accepted now clientMsg).msg := by
  have stored : saveMsgData database accepted { clientMsg with createdTime := now } =
      (_, _, _) := if_pos inserted
  simp only [serverMsg, afterInsert, stored, List.mem_append, List.mem_singleton]
  exact Or.inr rfl

/-- A relayed package is the encoding of the message that is sent on. -/
theorem relayed_data {database : Database} {accepted : Bool} {now : CInt}
    {onlineUserMap : OrderedMap Int Int} {clientMsg : DataMsg}
    (bounded : clientMsg.encodedSize < 2 ^ 31) {relay : Int × List Byte}
    (member : relay ∈ relayed database accepted now onlineUserMap clientMsg) :
    (serverMsg database accepted now clientMsg).serialize.map Prod.fst = some relay.2 := by
  rw [relayed_eq bounded, List.mem_filterMap] at member
  obtain ⟨userId, _, kept⟩ := member
  split at kept
  · obtain rfl := Option.some.inj kept
    have sameSize : (serverMsg database accepted now clientMsg).encodedSize = clientMsg.encodedSize := by
      unfold serverMsg saveMsgData
      split <;> rfl
    rw [DataMsg.serialize_eq _ (by omega)]
    rfl
  · cases kept

/-- For every package of a chat message: every relayed package carries a stored
message, and none is relayed without one, exactly when the `INSERT` succeeds or there
is nobody to relay to. -/
theorem relaysOnlyStored_iff {memory : Memory} {data : List Byte} {clientMsg : DataMsg}
    (framed : data.length ≤ readBufMaxSize)
    (decoded : threadWork memory data = .decoded (.dataMsg clientMsg)) (database : Database)
    (accepted : Bool) (now : CInt) (onlineUserMap : OrderedMap Int Int) :
    RelaysOnlyStored database accepted now onlineUserMap clientMsg ↔
      InsertSucceeds database accepted ∨
        NobodyElseOnline database.groupUser onlineUserMap clientMsg := by
  have bounded := encodedSize_lt_of_threadWork framed decoded
  constructor
  · rintro ⟨_, silent⟩
    by_cases inserted : InsertSucceeds database accepted
    · exact Or.inl inserted
    · exact Or.inr ((relayed_eq_nil_iff bounded).mp (silent inserted))
  · rintro (inserted | nobody)
    · refine ⟨?_, fun failed => absurd inserted failed⟩
      intro relay member
      exact ⟨_, relayed_data bounded member, rfl, serverMsg_stored inserted⟩
    · have nothing := (@relayed_eq_nil_iff database accepted now _ _ bounded).mpr nobody
      refine ⟨?_, fun _ => nothing⟩
      rw [nothing]
      intro relay member
      cases member

/-- A chat message from user 7 to user 5, as it arrives. -/
def from7To5 : List Byte :=
  [40, 0, 0, 0, 101, 0, 0, 0, 0, 0, 0, 0, 0, 0, 0, 0, 7, 0, 0, 0, 5, 0, 0, 0, 0, 0, 0, 0, 0,
    1, 0, 0, 0, 0, 2, 0, 0, 0, 98, 0]

/-- The message in it. -/
def decoded7To5 : DataMsg :=
  { DataMsg.zeroed with
    dataSize := 40, dataType := EDataType.c2SDataMsg.value, sender := 7, receiver := 5 }

/-- No rows yet. -/
def noRows : Database := ⟨[], [], 1000000, firstMsgId_positive⟩

/-- User 5 is online under fd 9. -/
def user5Online : OrderedMap Int Int := clientOpen .empty 9 5

theorem threadWork_from7To5 :
    threadWork .zeroed from7To5 = .decoded (.dataMsg decoded7To5) := by
  decide

/-- When the `INSERT` succeeds, user 5 gets a message that is stored. -/
theorem from7To5_stored : RelaysOnlyStored noRows true 0 user5Online decoded7To5 :=
  (relaysOnlyStored_iff (by decide) threadWork_from7To5 noRows true 0 user5Online).mpr
    (Or.inl ⟨rfl, by decide⟩)

/-- When the database refuses it, user 5 gets the message all the same, and no row has
its content. -/
theorem from7To5_relayed_unstored :
    threadWork .zeroed from7To5 = .decoded (.dataMsg decoded7To5) ∧
      ∃ data, relayed noRows false 0 user5Online decoded7To5 = [(9, data)] ∧
        ¬ CarriesStored (afterInsert noRows false 0 decoded7To5) data ∧
        ¬ RelaysOnlyStored noRows false 0 user5Online decoded7To5 := by
  have oneRelay := @relayed_eq noRows false 0 user5Online decoded7To5 (by decide)
  have unstored : ∀ data, ¬ CarriesStored (afterInsert noRows false 0 decoded7To5) data := by
    rintro data ⟨message, _, _, row⟩
    cases row
  refine ⟨threadWork_from7To5, _, oneRelay, unstored _, ?_⟩
  rintro ⟨onlyStored, _⟩
  rw [oneRelay] at onlyStored
  exact unstored _ (onlyStored _ List.mem_cons_self)

end SocketMessage.Server
