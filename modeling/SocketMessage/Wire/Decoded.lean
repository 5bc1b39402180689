import SocketMessage.Wire.Dispatch
import SocketMessage.Wire.RoundTrip
import SocketMessage.Wire.WireFormat

/-!
# What the dispatchers make of a serialized package

Each package that `Serialize` has filled passes the dispatcher's checks and is decoded by the
handler for its type. Structs of one text come out as they are, lists of up to 127 entries
too, and a chat message of less than 127 bytes has lost the first byte of its `Extend`.
-/

namespace SocketMessage.Wire

open SocketMessage.Lib

/-! ## The checks -/

theorem EDataType.value_injective {dataType other : EDataType}
    (same : dataType.value = other.value) : dataType = other := by
  revert same
  cases dataType <;> cases other <;> decide

/-- A package that starts with its own size and a registered type passes. -/
theorem dispatchedType_of_head {registered : List EDataType} {head : DataHead} {rest : List Byte}
    {dataType : EDataType} (known : dataType ∈ registered) (typed : head.dataType = dataType.value)
    (sized : head.dataSize.toInt = (head.image.1 ++ rest).length) :
    dispatchedType registered (head.image.1 ++ rest) = some dataType := by
  have read : readBytes (head.image.1 ++ rest) 0 DataHead.size = some head.image := by
    simpa using readBytes_append [] head.image rest
  have found : registered.find? (fun dataType => dataType.value = head.dataType) = some dataType := by
    cases searched : registered.find? fun dataType => dataType.value = head.dataType with
    | none =>
        have absent := List.find?_eq_none.mp searched dataType known
        exact absurd (decide_eq_true typed.symm) absent
    | some other =>
        have matches_ := List.find?_some searched
        rw [EDataType.value_injective ((of_decide_eq_true matches_).trans typed)]
  simp only [dispatchedType, read, Option.bind_eq_bind, Option.bind_some, DataHead.ofImage_image]
  rw [if_neg (by simpa using sized), found]

/-- So does a list. -/
theorem dispatchedType_listImage {registered : List EDataType} {head : DataHead} {count : Nat}
    {body : List Byte} {dataType : EDataType} (known : dataType ∈ registered)
    (typed : head.dataType = dataType.value)
    (sized : head.dataSize.toInt = (listImage head count body).length) :
    dispatchedType registered (listImage head count body) = some dataType :=
  dispatchedType_of_head known typed sized

/-! ## Chat messages -/

namespace DataMsg

/-- What `Serialize` and `UnSerialize` leave of a short message: the first byte of `Extend` is
gone. -/
def curtailed (self : DataMsg) : DataMsg := { self with extend := self.extend.drop 1 }

/-- Less than 127 bytes of `Msg`, and no NUL in either text. -/
structure Short (message : DataMsg) : Prop where
  msg : message.msg.length < 127
  msgPlain : 0 ∉ message.msg
  extendPlain : 0 ∉ message.extend

theorem Short.sized {message : DataMsg} (short : message.Short) : message.sized.Short :=
  ⟨short.msg, short.msgPlain, short.extendPlain⟩

/-- A short message with an `Extend` is decoded without its first byte, wherever it stands. -/
theorem unSerialize_wire_of_short {self : DataMsg} (short : self.Short) (memory : DataMsg)
    (extension : self.extend ≠ []) (before after : List Byte) :
    memory.fresh.unSerialize (before ++ (self.wire ++ after)) before.length =
      some self.curtailed := by
  obtain ⟨first, rest, extend⟩ := List.exists_cons_of_ne_nil extension
  have seen : signedCount (self.msg.length + 1) = ((self.msg.length + 1 : Nat) : Int) :=
    signedCount_of_le (Nat.succ_le_of_lt short.msg)
  have length := self.length_wire
  rw [encodedSize, size1_eq, extend, List.length_cons] at length
  have sizeByte : (readByte (before ++ (self.wire ++ after))
      (before.length + (34 + signedCount (self.msg.length + 1)))).isSome := by
    rw [readByte_isSome_iff, seen, List.length_append, List.length_append]
    omega
  obtain ⟨extendSize, sizeRead⟩ := Option.isSome_iff_exists.mp sizeByte
  have split : self.wire = (self.lead ++
      0 :: (encodeInt (BitVec.ofNat 32 (self.extend.length + 1))).1 ++ [first]) ++
        (rest ++ 0 :: []) := by
    simp [wire, trail, extend]
  have start : (before.length : Int) + (38 + signedCount (self.msg.length + 1)) = (before ++
      (self.lead ++ 0 :: (encodeInt (BitVec.ofNat 32 (self.extend.length + 1))).1 ++
        [first])).length := by
    rw [seen]
    simp [size1_eq]
    omega
  have plain : 0 ∉ rest := fun member =>
    short.extendPlain (extend ▸ List.mem_cons_of_mem _ member)
  have found := readCString_append (before ++
    (self.lead ++ 0 :: (encodeInt (BitVec.ofNat 32 (self.extend.length + 1))).1 ++ [first])) rest
    after
  rw [takeWhile_ne_zero plain] at found
  rw [self.unSerialize_wire memory before after short.msgPlain, sizeRead, Option.bind_some, start,
    split]
  simp only [List.append_assoc, List.cons_append, List.nil_append] at found ⊢
  rw [found, Option.map_some, curtailed, extend, List.drop_one, List.tail_cons]

/-- Alone in its package, a short message without `Extend` is read beyond the package. -/
theorem unSerialize_wire_of_no_extend {self : DataMsg} (short : self.Short) (memory : DataMsg)
    (nothing : self.extend = []) : memory.fresh.unSerialize self.wire 0 = none := by
  have decoded := self.unSerialize_wire memory [] [] short.msgPlain
  have beyond : readCString self.wire (38 + signedCount (self.msg.length + 1)) = none := by
    have length := self.length_wire
    rw [encodedSize, size1_eq, nothing, List.length_nil] at length
    rw [← Option.not_isSome_iff_eq_none, readCString_isSome_iff, Terminated,
      signedCount_of_le (Nat.succ_le_of_lt short.msg), List.drop_eq_nil_of_le (by omega)]
    simp
  simp only [List.nil_append, List.append_nil, List.length_nil, Int.natCast_zero, Int.zero_add,
    beyond, Option.map_none] at decoded
  rw [decoded, Option.bind_eq_none_iff]
  exact fun _ _ => rfl

/-- The head in front of the encoding. -/
theorem dispatchedType_wire {self : DataMsg} {registered : List EDataType} {dataType : EDataType}
    (known : dataType ∈ registered) (typed : self.dataType = dataType.value)
    (bounded : self.encodedSize < 2 ^ 31) :
    dispatchedType registered self.sized.wire = some dataType := by
  have size := self.dataSize_sized bounded
  rw [← encodedSize_sized, ← length_wire] at size
  have split : self.sized.wire = self.sized.toDataHead.image.1 ++ (self.sized.image.right.1 ++
      ((encodeInt (BitVec.ofNat 32 (self.sized.msg.length + 1))).1 ++ self.sized.msg ++
        0 :: self.sized.trail)) := by
    simp [wire, lead, image]
  rw [split] at size ⊢
  exact dispatchedType_of_head known typed size

end DataMsg

/-! ## On the client -/

section Client

variable {callbackSet : EDataType → Bool} (memory : Memory)

/-- The result of a login is decoded as it was sent. -/
theorem decoded_login (wanted : callbackSet .s2CLogin = true) (userId : CInt)
    (userName : SizedBytes 32) :
    socketReadReadPackageCallback callbackSet memory (S2CLogin.fresh userId userName).image.1 =
      .decoded (.login (S2CLogin.fresh userId userName)) := by
  have passed : dispatchedType clientDataTypes (S2CLogin.fresh userId userName).image.1 =
      some .s2CLogin := by
    refine dispatchedType_of_head (by decide) rfl ?_
    rw [List.length_append, SizedBytes.length, SizedBytes.length]
    rfl
  have read : readBytes (S2CLogin.fresh userId userName).image.1 0 fixedSize =
      some (S2CLogin.fresh userId userName).image := by
    simpa using readBytes_append [] (S2CLogin.fresh userId userName).image []
  have decoded : S2CLogin.ofImage (S2CLogin.fresh userId userName).image =
      S2CLogin.fresh userId userName := by
    simp [S2CLogin.ofImage, S2CLogin.image, fixedImage]
  rw [socketReadReadPackageCallback, passed, Option.filter_some, if_pos wanted]
  simp only [S2CLogin.unSerialize_fresh, read, Option.map_some, decoded, Dispatched.ofDecoded]

/-- A user list of up to 127 entries is decoded as it was sent. -/
theorem decoded_userList (wanted : callbackSet .s2CUserList = true) {self : S2CUserList}
    (typed : self.dataType = EDataType.s2CUserList.value) (bounded : self.encodedSize < 2 ^ 31)
    (few : self.userVector.length ≤ 127) :
    socketReadReadPackageCallback callbackSet memory self.sized.wire =
      .decoded (.userList self.sized) := by
  have size : self.sized.dataSize.toInt = self.sized.wire.length := by
    rw [S2CUserList.length_wire]
    exact self.dataSize_sized bounded
  have passed : dispatchedType clientDataTypes self.sized.wire = some .s2CUserList :=
    dispatchedType_listImage (by decide) typed size
  have decoded := self.sized.unSerialize_wire bounded [] []
  have whole : self.sized.seen = self.sized := by
    have same : self.sized.seen.userVector = self.sized.userVector :=
      self.sized.seen_userVector_eq_iff.mpr few
    exact congrArg (S2CUserList.mk self.sized.toDataHead) same
  simp only [List.nil_append, List.append_nil, List.length_nil, Int.natCast_zero, whole] at decoded
  rw [socketReadReadPackageCallback, passed, Option.filter_some, if_pos wanted]
  simp only [decoded, Dispatched.ofDecoded]

/-- A list of up to 127 groups of up to 127 members is decoded as it was sent. -/
theorem decoded_groupList (wanted : callbackSet .s2CGroupList = true) {self : S2CGroupList}
    (typed : self.dataType = EDataType.s2CGroupList.value) (bounded : self.encodedSize < 2 ^ 31)
    (few : self.groupVector.length ≤ 127)
    (fewMembers : ∀ group ∈ self.groupVector, group.userList.userVector.length ≤ 127) :
    socketReadReadPackageCallback callbackSet memory self.sized.wire =
      .decoded (.groupList self.sized) := by
  have size : self.sized.dataSize.toInt = self.sized.wire.length := by
    rw [self.wire_sized, length_listImage]
    exact (toInt_ofNat_of_lt bounded).trans (congrArg Nat.cast self.encodedSize_eq)
  have passed : dispatchedType clientDataTypes self.sized.wire = some .s2CGroupList :=
    dispatchedType_listImage (by decide) typed size
  have seenGroup : ∀ group ∈ self.sized.groupVector, group.seen = group := by
    intro group member
    obtain ⟨plain, plainMember, rfl⟩ := List.mem_map.mp member
    have same : plain.sized.userList.seen.userVector = plain.sized.userList.userVector :=
      plain.sized.userList.seen_userVector_eq_iff.mpr (fewMembers plain plainMember)
    have members : plain.sized.userList.seen = plain.sized.userList :=
      congrArg (S2CUserList.mk plain.sized.userList.toDataHead) same
    rw [S2CGroup.seen, members]
  have count : self.sized.groupVector.length ≤ 127 := by
    rwa [S2CGroupList.sized, List.length_map]
  have whole : self.sized.seen = self.sized := by
    have same : self.sized.seen.groupVector = self.sized.groupVector := by
      simp only [S2CGroupList.seen, signedCount_of_le count, Int.toNat_natCast, List.take_length]
      exact (List.map_congr_left seenGroup).trans (List.map_id _)
    exact congrArg (S2CGroupList.mk self.sized.toDataHead) same
  rw [socketReadReadPackageCallback, passed, Option.filter_some, if_pos wanted]
  simp only [self.unSerialize_wire bounded, whole, Dispatched.ofDecoded]

/-- A short chat message is decoded without the first byte of its `Extend`. -/
theorem decoded_dataMsg (wanted : callbackSet .s2CDataMsg = true) {self : DataMsg}
    (typed : self.dataType = EDataType.s2CDataMsg.value) (bounded : self.encodedSize < 2 ^ 31)
    (short : self.Short) (extension : self.extend ≠ []) :
    socketReadReadPackageCallback callbackSet memory self.sized.wire =
      .decoded (.dataMsg self.sized.curtailed) := by
  have decoded := DataMsg.unSerialize_wire_of_short short.sized
    (memory.dataMsg.construct .s2CDataMsg) extension [] []
  simp only [List.nil_append, List.append_nil, List.length_nil, Int.natCast_zero] at decoded
  rw [socketReadReadPackageCallback, DataMsg.dispatchedType_wire (by decide) typed bounded,
    Option.filter_some, if_pos wanted]
  exact congrArg (Dispatched.ofDecoded Answer.dataMsg) decoded

/-- One that has no `Extend` is read beyond its package. -/
theorem outside_dataMsg (wanted : callbackSet .s2CDataMsg = true) {self : DataMsg}
    (typed : self.dataType = EDataType.s2CDataMsg.value) (bounded : self.encodedSize < 2 ^ 31)
    (short : self.Short) (nothing : self.extend = []) :
    socketReadReadPackageCallback callbackSet memory self.sized.wire = .outside := by
  rw [socketReadReadPackageCallback, DataMsg.dispatchedType_wire (by decide) typed bounded,
    Option.filter_some, if_pos wanted]
  exact congrArg (Dispatched.ofDecoded Answer.dataMsg)
    (DataMsg.unSerialize_wire_of_no_extend short.sized (memory.dataMsg.construct .s2CDataMsg)
      nothing)

/-- In a list of up to 127 messages, each one that has an `Extend` is decoded without its first
byte. -/
theorem decoded_dataMsgList (wanted : callbackSet .s2CDataMsgList = true) {self : DataMsgList}
    (typed : self.dataType = EDataType.s2CDataMsgList.value) (bounded : self.encodedSize < 2 ^ 31)
    (few : self.msgVector.length ≤ 127) (short : ∀ message ∈ self.msgVector, message.Short)
    (extension : ∀ message ∈ self.msgVector, message.extend ≠ []) :
    socketReadReadPackageCallback callbackSet memory self.sized.wire =
      .decoded (.dataMsgList { self.sized with
        msgVector := self.msgVector.map fun message => message.sized.curtailed }) := by
  have size : self.sized.dataSize.toInt = self.sized.wire.length := by
    rw [self.wire_sized, length_listImage]
    exact (toInt_ofNat_of_lt bounded).trans (congrArg Nat.cast self.encodedSize_eq)
  have passed : dispatchedType clientDataTypes self.sized.wire = some .s2CDataMsgList :=
    dispatchedType_listImage (by decide) typed size
  have read := @readList_listImage _ _ DataMsg.decodeAt (fun message => message.sized.wire)
    (fun message => message.sized.curtailed) (fun message => message.dataSize.toInt)
    self.sized.toDataHead self.msgVector
    (by
      intro message member before after
      exact DataMsg.unSerialize_wire_of_short (short message member).sized DataMsg.zeroed
        (extension message member) before after)
    (by
      intro message member
      rw [DataMsg.length_wire]
      exact message.dataSize_sized (Nat.lt_of_le_of_lt (self.encodedSize_le member) bounded))
    (by rw [← self.encodedSize_eq]; exact bounded) [] []
  rw [← self.wire_sized, signedCount_of_le few] at read
  simp only [List.nil_append, List.append_nil, List.length_nil, Int.natCast_zero,
    Int.toNat_natCast, List.take_length] at read
  rw [socketReadReadPackageCallback, passed, Option.filter_some, if_pos wanted]
  simp only [DataMsgList.unSerialize, read, Option.bind_eq_bind, Option.bind_some,
    Option.pure_def, Dispatched.ofDecoded, DataMsgList.fresh, List.nil_append]

end Client

/-! ## On the server -/

/-- A short chat message is decoded without the first byte of its `Extend`; one that has no
`Extend` is read beyond its package. -/
theorem threadWork_dataMsg (memory : Memory) {self : DataMsg}
    (typed : self.dataType = EDataType.c2SDataMsg.value) (bounded : self.encodedSize < 2 ^ 31)
    (short : self.Short) :
    threadWork memory self.sized.wire =
      if self.extend = [] then .outside else .decoded (.dataMsg self.sized.curtailed) := by
  have passed : dispatchedType serverDataTypes self.sized.wire = some .c2SDataMsg :=
    DataMsg.dispatchedType_wire (by decide) typed bounded
  by_cases nothing : self.extend = []
  · rw [threadWork, passed, if_pos nothing]
    exact congrArg (Dispatched.ofDecoded Request.dataMsg)
      (DataMsg.unSerialize_wire_of_no_extend short.sized (memory.dataMsg.construct .c2SDataMsg)
        nothing)
  · have decoded := DataMsg.unSerialize_wire_of_short short.sized
      (memory.dataMsg.construct .c2SDataMsg) nothing [] []
    simp only [List.nil_append, List.append_nil, List.length_nil, Int.natCast_zero] at decoded
    rw [threadWork, passed, if_neg nothing]
    exact congrArg (Dispatched.ofDecoded Request.dataMsg) decoded

end SocketMessage.Wire
