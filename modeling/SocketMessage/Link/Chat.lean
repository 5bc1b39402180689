import SocketMessage.Link.Login
import SocketMessage.Server.History
import SocketMessage.Server.Relay

/-!
# A chat message, from one application to the other

A message is serialized and decoded twice on its way: by the sender and the server, and by the
server and the recipient, live or from the history. Each time a text of less than 127 bytes
arrives as it was sent and the first byte of its `Extend` is lost, so that a message gets to
its recipients from two bytes of `Extend` on, and without these two, if the write buffers on its
way have room for it.
-/

namespace SocketMessage.Link

open SocketMessage.Lib SocketMessage.Frame SocketMessage.Wire SocketMessage.Server
open SocketMessage.Client

/-- What the application passes to `SendDataMsg`. -/
structure Draft where
  msgType : CInt
  recvUserId : CInt
  isGroup : Bool
  msg : List Byte
  ext : List Byte

namespace Draft

variable (draft : Draft)

/-- The package of a draft. -/
def package (state : SdkState) (memory : DataMsg) (now id : CInt) : Option (List Byte) :=
  state.dataMsgPackage memory now id draft.msgType draft.recvUserId draft.isGroup draft.msg draft.ext

/-- Less than 127 bytes of text, no NUL in it or in `Extend`, and a size that is an `int`. -/
structure Short : Prop where
  msg : draft.msg.length < 127
  msgPlain : 0 ∉ draft.msg
  extPlain : 0 ∉ draft.ext
  bounded : 39 + draft.msg.length + draft.ext.length < 2 ^ 31

/-- What a recipient is shown: the draft under the server's id and time, without the first two
bytes of `Extend`. -/
def chat (sender msgId createdTime : CInt) : ChatMsg where
  msgId := msgId
  msgType := draft.msgType
  sender := sender
  receiver := draft.recvUserId
  isGroup := draft.isGroup
  createdTime := createdTime
  msg := draft.msg
  extend := draft.ext.drop 2

/-- The message that is serialized for a draft. -/
def message (state : SdkState) (memory : DataMsg) (now : CInt) : DataMsg :=
  { memory.construct .c2SDataMsg with
    msgType := draft.msgType, sender := state.selfUserId, receiver := draft.recvUserId
    isGroup := draft.isGroup, createdTime := now, msg := draft.msg, extend := draft.ext }

end Draft

/-! ## To the server -/

section Sent

variable {draft : Draft} {state : SdkState} {id : CInt} (memory : DataMsg) (now : CInt)

theorem encodedSize_message :
    (draft.message state memory now).encodedSize = 39 + draft.msg.length + draft.ext.length := by
  simp only [DataMsg.encodedSize, Draft.message, DataMsg.size1, DataHead.size]
  omega

theorem short_message (short : draft.Short) : (draft.message state memory now).Short :=
  ⟨short.msg, short.msgPlain, short.extPlain⟩

/-- A client that knows who it is serializes the message. -/
theorem package_eq (short : draft.Short) (valid : id ≠ idInvalid) (known : state.selfUserId ≠ 0) :
    draft.package state memory now id = some (draft.message state memory now).sized.wire := by
  have bounded : (draft.message state memory now).encodedSize < 2 ^ 31 := by
    rw [encodedSize_message]
    exact short.bounded
  have serialized := (draft.message state memory now).serialize_eq bounded
  rw [Draft.package, SdkState.dataMsgPackage, SdkState.sendDataMsg,
    if_neg (not_or.mpr ⟨valid, known⟩), Option.bind_some]
  exact congrArg (Option.map Prod.fst) serialized

/-- What the server decodes. -/
theorem threadWork_package (short : draft.Short) (memory' : Memory) :
    threadWork memory' (draft.message state memory now).sized.wire =
      if draft.ext = [] then .outside
      else .decoded (.dataMsg (draft.message state memory now).sized.curtailed) :=
  threadWork_dataMsg memory' rfl (by rw [encodedSize_message]; exact short.bounded)
    (short_message memory now short)

end Sent

/-! ## To the recipients -/

/-- What is shown of a row of `Msg`. -/
def rowShown (row : MsgRow) : ChatMsg where
  msgId := row.msgId
  msgType := row.msgType.getD 0
  sender := row.sender.getD 0
  receiver := row.receiver.getD 0
  isGroup := decide (row.isGroup.getD 0 ≠ 0)
  createdTime := row.createdTime.getD 0
  msg := row.msg.getD []
  extend := (row.extend.getD []).drop 1

/-- A stored message is shown like a message that is decoded. -/
theorem rowShown_ofDataMsg (message : DataMsg) :
    rowShown (.ofDataMsg message) = chatMsg message.curtailed := by
  cases group : message.isGroup <;>
    simp [rowShown, MsgRow.ofDataMsg, chatMsg, DataMsg.curtailed, group]

section Received

variable {callbacks : EDataType → Bool} {message : DataMsg}

/-- A message from the server is shown exactly when it has an `Extend`. -/
theorem shows_dataMsg_iff (wanted : callbacks .s2CDataMsg = true)
    (typed : message.dataType = EDataType.s2CDataMsg.value) (bounded : message.encodedSize < 2 ^ 31)
    (short : message.Short) :
    SdkState.Shows callbacks message.sized.wire (.dataMsg (chatMsg message.curtailed)) ↔
      message.extend ≠ [] := by
  constructor
  · intro shows nothing
    have outside : shownBy callbacks .zeroed message.sized.wire = none := by
      rw [shownBy, outside_dataMsg .zeroed wanted typed bounded short nothing]
    cases outside.symm.trans (shows .zeroed)
  · intro extension memory
    rw [shownBy, decoded_dataMsg memory wanted typed bounded short extension]
    rfl

end Received

/-! ## The whole way -/

/-- The id a message is stored under; 0 when it is not stored. -/
def newId (database : Database) (accepted : Bool) : CInt :=
  if accepted ∧ database.autoIncrement < 2 ^ 31 then BitVec.ofNat 32 database.autoIncrement else 0

/-- The fds of the recipients who are online, other than the sender. -/
def recipients (groupUser : List GroupUserRow) (online : OrderedMap Int Int) (draft : Draft)
    (sender : CInt) : List Int :=
  (((if draft.isGroup then getUserIdByGroupId groupUser draft.recvUserId
    else [draft.recvUserId]).filter (· ≠ sender)).map
      fun userId => userId2Cfd online userId.toInt).filter (· > 0)

/-- A package gets from the client to the server: `SendPackage` and `Write` let it through, and
the server receives it behind those before it. -/
def Reaches {σ : Type} (writeCallback : σ → Bool → σ) (before : Channel σ RecvStatistics)
    (data : List Byte) : Prop :=
  before.ClientSends data ∧
    ∀ channel, before.Writes writeCallback client4ReadCallback [data] channel →
      channel.accepted = before.accepted ++ [data] ∧ before.Receives channel [data]

/-- It does exactly when its frame has room. -/
theorem reaches_iff {σ : Type} {writeCallback : σ → Bool → σ} {before : Channel σ RecvStatistics}
    (used : before.Used writeCallback client4ReadCallback) {data : List Byte}
    (small : data.length < 2 ^ 31) (head : data ≠ []) :
    Reaches writeCallback before data ↔
      before.sender.buffer.used + (4 + data.length) ≤ writeBufMaxSize := by
  rw [← Channel.roomFor_singleton, Reaches, Channel.clientSends_iff small]
  refine and_iff_left_of_imp fun room channel writes => ?_
  obtain ⟨accepted, -, receives⟩ := used.passage (fun _ _ => rfl) room
    (fun other member => List.mem_singleton.mp member ▸ head)
    (by rw [List.append_nil]) writes
  exact ⟨accepted, receives⟩

/-- A message's package passes to a client that listens for messages and has room for it, and so
do several copies. -/
def PassesTo (call : Shown) (data : List Byte) : Prop :=
  ∀ {σ : Type} (writeCallback : σ → Bool → σ) (before : Channel σ Unit) (copies : Nat),
    before.Used writeCallback clientCallback →
    before.sender.buffer.used + copies * (4 + data.length) ≤ writeBufMaxSize →
      ∀ state : SdkState, state.callbacks .s2CDataMsg = true →
        Passes writeCallback before state (List.replicate copies (data, call))

theorem passesTo_of_shows {call : Shown} {data : List Byte}
    (shows : ∀ callbacks : EDataType → Bool, callbacks .s2CDataMsg = true →
      SdkState.Shows callbacks data call) : PassesTo call data := by
  intro σ writeCallback before copies used room state wanted
  have size : (frames ((List.replicate copies (data, call)).map Prod.fst)).length =
      copies * (4 + data.length) := by
    simp [frames, List.length_flatMap, List.map_replicate, List.sum_replicate]
  refine passes_of_room used (by rw [Channel.RoomFor, size]; exact room) fun package member => ?_
  rw [List.eq_of_mem_replicate member]
  exact shows _ wanted

/-- What the server relays of a message it has decoded. -/
def relayPackage (database : Database) (accepted : Bool) (serverNow : CInt) (clientMsg : DataMsg) :
    List Byte :=
  (serverMsg database accepted serverNow clientMsg).sized.wire

/-- The package of a draft reaches the server, which decodes it. Whatever the database answers,
the handler relays one package, a byte shorter, as often as rows name a recipient who is online;
to clients with room for them they pass, and are shown as the draft; and if there is a new row,
it says the same. -/
def Arrives {σ : Type} (writeCallback : σ → Bool → σ) (before : Channel σ RecvStatistics)
    (draft : Draft) (sender : CInt) (data : List Byte) : Prop :=
  Reaches writeCallback before data ∧
  ∃ clientMsg, (∀ memory, threadWork memory data = .decoded (.dataMsg clientMsg)) ∧
    ∀ (database : Database) (accepted : Bool) (serverNow : CInt),
      (∀ online, relayed database accepted serverNow online clientMsg =
        (recipients database.groupUser online draft sender).map
          (·, relayPackage database accepted serverNow clientMsg)) ∧
      (relayPackage database accepted serverNow clientMsg).length + 1 = data.length ∧
      (∀ callbacks : EDataType → Bool, callbacks .s2CDataMsg = true →
        SdkState.Shows callbacks (relayPackage database accepted serverNow clientMsg)
          (.dataMsg (draft.chat sender (newId database accepted) serverNow))) ∧
      PassesTo (.dataMsg (draft.chat sender (newId database accepted) serverNow))
        (relayPackage database accepted serverNow clientMsg) ∧
      (InsertSucceeds database accepted →
        ∃ row ∈ (afterInsert database accepted serverNow clientMsg).msg,
          rowShown row = draft.chat sender (newId database accepted) serverNow)

section Whole

variable {draft : Draft} {state : SdkState} (memory : DataMsg) (now : CInt)

/-- The message the server stores and relays is shown as the draft. -/
theorem chatMsg_serverMsg (database : Database) (accepted : Bool) (serverNow : CInt) :
    chatMsg (serverMsg database accepted serverNow
        (draft.message state memory now).sized.curtailed).curtailed =
      draft.chat state.selfUserId (newId database accepted) serverNow := by
  unfold serverMsg saveMsgData newId
  split <;> simp [chatMsg, DataMsg.curtailed, Draft.chat, Draft.message, DataMsg.sized]

/-- Its texts are short, too. -/
theorem serverMsg_spec (short : draft.Short) (database : Database) (accepted : Bool)
    (serverNow : CInt) {clientMsg : DataMsg}
    (received : clientMsg = (draft.message state memory now).sized.curtailed) :
    (serverMsg database accepted serverNow clientMsg).dataType = EDataType.s2CDataMsg.value ∧
      (serverMsg database accepted serverNow clientMsg).encodedSize < 2 ^ 31 ∧
      (serverMsg database accepted serverNow clientMsg).Short ∧
      (serverMsg database accepted serverNow clientMsg).msg = draft.msg ∧
      (serverMsg database accepted serverNow clientMsg).extend = draft.ext.drop 1 := by
  subst received
  have size := short.bounded
  have texts : ∀ message : DataMsg, message.msg = draft.msg → message.extend = draft.ext.drop 1 →
      message.encodedSize < 2 ^ 31 ∧ message.Short := by
    intro message msg extend
    refine ⟨?_, ?_, ?_, ?_⟩
    · rw [DataMsg.encodedSize, msg, extend, List.length_drop, DataMsg.size1_eq]
      omega
    · rw [msg]
      exact short.msg
    · rw [msg]
      exact short.msgPlain
    · rw [extend]
      exact fun member => short.extPlain (List.mem_of_mem_drop member)
  obtain ⟨bounded, shortTexts⟩ := texts (serverMsg database accepted serverNow
      (draft.message state memory now).sized.curtailed)
    (by unfold serverMsg saveMsgData; split <;> rfl) (by unfold serverMsg saveMsgData; split <;> rfl)
  exact ⟨rfl, bounded, shortTexts, by unfold serverMsg saveMsgData; split <;> rfl,
    by unfold serverMsg saveMsgData; split <;> rfl⟩

/-- Whom the handler relays to. -/
theorem relayed_recipients {database : Database} {accepted : Bool} {serverNow : CInt}
    {online : OrderedMap Int Int} {clientMsg : DataMsg} (bounded : clientMsg.encodedSize < 2 ^ 31)
    (receiver : clientMsg.receiver = draft.recvUserId) (isGroup : clientMsg.isGroup = draft.isGroup) :
    relayed database accepted serverNow online clientMsg =
      (recipients database.groupUser online draft clientMsg.sender).map
        (·, (serverMsg database accepted serverNow clientMsg).sized.wire) := by
  rw [relayed_eq bounded, recipients, sendUserVector, receiver, isGroup]
  generalize ((if draft.isGroup = true then getUserIdByGroupId database.groupUser draft.recvUserId
    else [draft.recvUserId]).filter fun userId => userId ≠ clientMsg.sender) = users
  induction users with
  | nil => rfl
  | cons userId users inductionHypothesis =>
      rw [List.filterMap_cons, List.map_cons, List.filter_cons, inductionHypothesis]
      by_cases online : userId2Cfd online userId.toInt > 0
      · simp [online]
      · simp [online]

/-- What is relayed is shown as the draft exactly when two bytes of `Extend` were sent. -/
theorem shows_relayPackage_iff (short : draft.Short) (database : Database) (accepted : Bool)
    (serverNow : CInt) {callbacks : EDataType → Bool} (wanted : callbacks .s2CDataMsg = true) :
    SdkState.Shows callbacks
        (relayPackage database accepted serverNow (draft.message state memory now).sized.curtailed)
        (.dataMsg (draft.chat state.selfUserId (newId database accepted) serverNow)) ↔
      2 ≤ draft.ext.length := by
  obtain ⟨typed, bounded, texts, -, extend⟩ :=
    serverMsg_spec memory now short database accepted serverNow rfl
  have same := @chatMsg_serverMsg draft state memory now database accepted serverNow
  rw [← same, relayPackage, shows_dataMsg_iff wanted typed bounded texts, extend, Ne,
    List.drop_eq_nil_iff]
  omega

/-- It is a byte shorter than the package of the draft. -/
theorem length_relayPackage (short : draft.Short) (present : draft.ext ≠ []) (database : Database)
    (accepted : Bool) (serverNow : CInt) :
    (relayPackage database accepted serverNow
      (draft.message state memory now).sized.curtailed).length + 1 =
        39 + draft.msg.length + draft.ext.length := by
  obtain ⟨-, -, -, msg, extend⟩ :=
    @serverMsg_spec draft state memory now short database accepted serverNow _ rfl
  have some_bytes := List.length_pos_of_ne_nil present
  rw [relayPackage, DataMsg.length_wire, DataMsg.encodedSize_sized, DataMsg.encodedSize, extend,
    List.length_drop, DataMsg.size1_eq, msg]
  omega

/-- A draft of a client that has logged in, with a text of less than 127 bytes, becomes a package.
Over a connection in use it arrives exactly when it has at least two bytes of `Extend` and the
client's write buffer has room for the frame. -/
theorem chat_arrives_iff (short : draft.Short) {id : CInt} (valid : id ≠ idInvalid)
    (known : state.selfUserId ≠ 0) {σ : Type} {writeCallback : σ → Bool → σ}
    {before : Channel σ RecvStatistics} (used : before.Used writeCallback client4ReadCallback) :
    ∃ data, draft.package state memory now id = some data ∧
      (Arrives writeCallback before draft state.selfUserId data ↔
        2 ≤ draft.ext.length ∧
          before.sender.buffer.used + (43 + draft.msg.length + draft.ext.length) ≤
            writeBufMaxSize) := by
  refine ⟨_, package_eq memory now short valid known, ?_⟩
  have decoded := @threadWork_package draft state memory now short
  have length : (draft.message state memory now).sized.wire.length =
      39 + draft.msg.length + draft.ext.length := by
    rw [DataMsg.length_wire, DataMsg.encodedSize_sized, encodedSize_message]
  have bounded := short.bounded
  have reaches : Reaches writeCallback before (draft.message state memory now).sized.wire ↔
      before.sender.buffer.used + (43 + draft.msg.length + draft.ext.length) ≤ writeBufMaxSize := by
    rw [reaches_iff used (by omega) (List.ne_nil_of_length_pos (by omega)), length]
    omega
  constructor
  · rintro ⟨reached, clientMsg, read, all⟩
    refine ⟨?_, reaches.mp reached⟩
    have first := read .zeroed
    rw [decoded] at first
    by_cases nothing : draft.ext = []
    · rw [if_pos nothing] at first
      cases first
    rw [if_neg nothing] at first
    obtain rfl := Request.dataMsg.inj (Dispatched.decoded.inj first)
    obtain ⟨-, -, shows, -⟩ := all noRows false 0
    exact (shows_relayPackage_iff memory now short noRows false 0 rfl).mp
      (shows (fun _ => true) rfl)
  · rintro ⟨two, room⟩
    have present : draft.ext ≠ [] := fun nothing => by simp [nothing] at two
    refine ⟨reaches.mpr room, _, fun memory' => (decoded memory').trans (if_neg present), ?_⟩
    intro database accepted serverNow
    have shows := fun (callbacks : EDataType → Bool) (wanted : callbacks .s2CDataMsg = true) =>
      (@shows_relayPackage_iff draft state memory now short database accepted serverNow _ wanted).mpr
        two
    refine ⟨fun online => ?_, ?_, shows, passesTo_of_shows shows, fun inserted => ?_⟩
    · refine relayed_recipients ?_ rfl rfl
      simp only [DataMsg.encodedSize, DataMsg.curtailed, DataMsg.sized, Draft.message,
        List.length_drop, DataMsg.size1_eq]
      omega
    · rw [length_relayPackage memory now short present, length]
    · have same := @chatMsg_serverMsg draft state memory now database accepted serverNow
      exact ⟨_, serverMsg_stored inserted, (rowShown_ofDataMsg _).trans same⟩

/-- A client in which user 7 has logged in. -/
def user7 : SdkState := { listening with selfUserId := 7 }

/-- `hi` to group 9, with three bytes of `Extend`. -/
def hi : Draft := ⟨1, 9, true, [104, 105], [1, 2, 3]⟩

/-- Users 7, 5 and 6 are in the group, user 5 by two rows. -/
def hiGroup : List GroupUserRow := [⟨9, 7⟩, ⟨9, 5⟩, ⟨9, 6⟩, ⟨9, 5⟩]

/-- It arrives, without the first two; user 5 gets it twice. -/
theorem hi_arrives :
    ∃ data, hi.package user7 .zeroed 0 3 = some data ∧
      Arrives clientWriteCallback (.start false ⟨0, 0⟩ (.zeros writeBufMaxSize) zeroMemory) hi 7
        data ∧
      (hi.chat 7 1000000 0).extend = [3] ∧
      recipients hiGroup ((OrderedMap.empty.insert 5 20).insert 6 21) hi 7 = [20, 21, 20] := by
  obtain ⟨data, built, arrives⟩ := @chat_arrives_iff hi user7 .zeroed 0
    ⟨by decide, by decide, by decide, by decide⟩ 3 (by decide) (by decide) _ _ _
    (Channel.used_start _ _ _ _)
  exact ⟨data, built, arrives.mpr ⟨by decide, by decide⟩, rfl, by decide⟩

end Whole

/-! ## From the history -/

/-- A row whose numbers are there and whose texts arrive. -/
structure RowArrives (row : MsgRow) : Prop where
  readable : row.Readable
  msg : (row.msg.getD []).length < 127
  msgPlain : 0 ∉ row.msg.getD []
  extendPlain : 0 ∉ row.extend.getD []
  extend : row.extend.getD [] ≠ []

/-- The message made of a row that has its numbers. -/
def rowMessage (memory : DataMsg) (row : MsgRow) : DataMsg :=
  { memory.construct .s2CDataMsg with
    msgId := row.msgId, msgType := row.msgType.getD 0, sender := row.sender.getD 0
    receiver := row.receiver.getD 0, isGroup := decide (row.isGroup.getD 0 ≠ 0)
    createdTime := row.createdTime.getD 0, msg := row.msg.getD [], extend := row.extend.getD [] }

theorem toDataMsg_of_readable {row : MsgRow} (readable : row.Readable) (memory : DataMsg) :
    row.toDataMsg memory = some (rowMessage memory row) := by
  obtain ⟨msgId, _ | msgType, msg, _ | sender, _ | receiver, _ | isGroup, _ | createdTime, extend⟩ :=
    row <;> simp_all [MsgRow.toDataMsg, MsgRow.Readable, rowMessage]

/-- The rows of an answer are in the table. -/
theorem mem_of_answerRows {database : Database} {order : List MsgRow → List MsgRow}
    (valid : ∀ rows, (order rows).Perm rows) {request : C2SGetDataMsgList} {row : MsgRow}
    (member : row ∈ answerRows database order request) : row ∈ database.msg := by
  unfold answerRows at member
  split at member
  · exact List.mem_of_mem_filter ((valid _).mem_iff.mp member)
  · exact List.mem_of_mem_filter ((valid _).mem_iff.mp (List.mem_of_mem_take member))

/-- Where all its numbers are there, the query's answer is its rows. -/
theorem getDataMsgList_of_readable {database : Database} {order : List MsgRow → List MsgRow}
    {request : C2SGetDataMsgList}
    (readable : ∀ row ∈ answerRows database order request, row.Readable) (memory : DataMsg) :
    getDataMsgList database order memory request =
      some ((answerRows database order request).map (rowMessage .zeroed)) := by
  refine mapM_eq_some_iff.mpr ?_
  rw [List.map_map]
  exact List.map_congr_left fun row member => toDataMsg_of_readable (readable row member) memory

/-- A history of few rows of the tables can be serialized. -/
theorem encodedSize_history_lt {tables : Tables} {rows : List MsgRow} (few : rows.length ≤ 127)
    (stored : ∀ row ∈ rows, row ∈ tables.msg) :
    ({ DataMsgList.fresh with msgVector := rows.map (rowMessage .zeroed) } :
      DataMsgList).encodedSize < 2 ^ 31 := by
  have each : ∀ size ∈ (rows.map (rowMessage .zeroed)).map DataMsg.encodedSize, size ≤ 131200 := by
    intro size member
    obtain ⟨message, inside, rfl⟩ := List.mem_map.mp member
    obtain ⟨row, among, rfl⟩ := List.mem_map.mp inside
    have texts := tables.texts row (stored row among)
    simp only [textMaxSize] at texts
    simp only [DataMsg.encodedSize, rowMessage, DataMsg.size1_eq]
    omega
  have total := List.sum_le_card_nsmul _ _ each
  rw [List.length_map, List.length_map, Nat.nsmul_eq_mul] at total
  simp only [DataMsgList.encodedSize, DataHead.size]
  omega

/-- A history request whose answer has up to 127 rows: the handler answers with one package,
whatever memory it builds the messages in. Over a connection in use it passes exactly when its
frame has room, and the application is shown the rows, in the order of the database and as the
recipients of a live message are. -/
theorem history_shown {tables : Tables} {order : List MsgRow → List MsgRow}
    (valid : ∀ rows, (order rows).Perm rows) {request : C2SGetDataMsgList}
    (arrive : ∀ row ∈ answerRows tables.toDatabase order request, RowArrives row)
    (few : (answerRows tables.toDatabase order request).length ≤ 127) :
    ∃ data,
      (∀ memory, tables.dataHandlerC2SGetDataMsgList order memory request = [.answer data]) ∧
      ∀ {σ : Type} (writeCallback : σ → Bool → σ) (before : Channel σ Unit),
        before.Used writeCallback clientCallback →
        ∀ state : SdkState, state.callbacks .s2CDataMsgList = true →
          (Passes writeCallback before state [(data,
              .dataMsgList ((answerRows tables.toDatabase order request).map rowShown))] ↔
            before.sender.buffer.used + answerSize (answerRows tables.toDatabase order request) ≤
              writeBufMaxSize) := by
  let rows := answerRows tables.toDatabase order request
  let messages : DataMsgList := { DataMsgList.fresh with msgVector := rows.map (rowMessage .zeroed) }
  have read := getDataMsgList_of_readable fun row member => (arrive row member).readable
  have size : 4 + messages.encodedSize = answerSize rows := by
    rw [answerSize, ← getDataMsgList_spec.2 _ (read .zeroed)]
    rfl
  have bounded : messages.encodedSize < 2 ^ 31 :=
    encodedSize_history_lt few fun row member => mem_of_answerRows valid member
  have short : ∀ message ∈ messages.msgVector, message.Short ∧ message.extend ≠ [] := by
    intro message member
    obtain ⟨row, among, rfl⟩ := List.mem_map.mp member
    have arrives := arrive row among
    exact ⟨⟨arrives.msg, arrives.msgPlain, arrives.extendPlain⟩, arrives.extend⟩
  have serialized := messages.serialize_eq bounded
  have length : messages.sized.wire.length = messages.encodedSize := by
    obtain ⟨result, total, length⟩ :=
      (tables.encodes_dataMsgList valid (read .zeroed)).total bounded
    obtain rfl := Option.some.inj (serialized.symm.trans total)
    exact length
  refine ⟨messages.sized.wire, fun memory => ?_, fun writeCallback before used state wanted => ?_⟩
  · rw [Tables.dataHandlerC2SGetDataMsgList, read, Option.bind_some]
    exact congrArg (withSerialized · fun msgList => [.answer msgList])
      (congrArg (Option.map Prod.fst) serialized)
  · rw [← size, ← length]
    refine passes_singleton_iff used (by omega) fun memory => ?_
    rw [shownBy, decoded_dataMsgList memory wanted rfl bounded
      (by rw [List.length_map]; exact few) (fun message member => (short message member).1)
      fun message member => (short message member).2]
    have entries : messages.msgVector.map (chatMsg ∘ fun message => message.sized.curtailed) =
        rows.map rowShown := List.map_map.trans rfl
    simp only [shown, Option.map_some, List.map_map, entries]
    rfl

/-- The tables after user 7 has sent `hi`: one row, for group 9. -/
def hiStored : Tables where
  groupUser := hiGroup
  msg := [⟨1000000, some 1, some [104, 105], some 7, some 9, some 1, some 0, some [2, 3]⟩]
  autoIncrement := 1000001
  positive := Nat.succ_pos _
  user := []
  group := []
  texts := by decide

/-- The answer to a request of user 5. -/
def hiHistory : List Byte :=
  (answersOf (hiStored.dataHandlerC2SGetDataMsgList id .zeroed (.fresh 0 5))).flatten

/-- It is written and sent, and the client reads it. -/
def hiRun : List ChannelEvent :=
  [.write 0 hiHistory, .send (.lock 0), .send (.send 0 (.accepted (frame hiHistory).length)),
    .recv (.received (frame hiHistory))]

/-- User 5 reads in the history what it has been shown live. -/
theorem hi_in_history :
    ∃ channel : Channel Bool Unit,
      channel.receiver.delivered = [hiHistory] ∧ channel.network = [] ∧
      ShownInOrder (.start false () (.zeros writeBufMaxSize) zeroMemory) channel 3 listening
        [.dataMsgList [hi.chat 7 1000000 0]] := by
  have answer : answerRows hiStored.toDatabase id (.fresh 0 5) = hiStored.msg := by decide
  obtain ⟨data, handled, passes⟩ := @history_shown hiStored id (fun rows => .refl rows) (.fresh 0 5)
    (by
      rw [answer]
      intro row member
      obtain rfl := List.mem_singleton.mp member
      exact ⟨⟨rfl, rfl, rfl, rfl, rfl⟩, by decide, by decide, by decide, by decide⟩)
    (by rw [answer]; decide)
  have same : data = hiHistory := by
    rw [hiHistory, handled]
    simp [answersOf]
  subst same
  have followed : (LabelledSystem.follow (Channel.step clientWriteCallback clientCallback)
      (fun _ _ _ => True) (.start false () (.zeros writeBufMaxSize) zeroMemory) hiRun).map
        (fun channel => (channel.receiver.delivered, channel.network)) =
          some ([hiHistory], []) := by
    decide +kernel
  obtain ⟨channel, ran, contents⟩ := Option.map_eq_some_iff.mp followed
  obtain ⟨delivered, network⟩ := Prod.mk.inj contents
  obtain ⟨-, -, shown⟩ := (passes clientWriteCallback _ (Channel.used_start _ _ _ _) listening
    rfl).mpr (by rw [answer]; decide) [(hiHistory, _)] [] channel (.refl _)
    ⟨hiRun, LabelledSystem.runs_of_follow ran, rfl⟩
  exact ⟨channel, delivered, network, shown 3⟩

end SocketMessage.Link
