import SocketMessage.Lib.Sequence

/-!
# The packed messages and their `Serialize` / `UnSerialize`

The structs of `DataType.h` under `#pragma pack(1)`: `int` and the enumerations
take four little-endian bytes, `bool` one, `char[32]` thirty-two. The server and
the client hold the same definitions. A raw `memcpy` of a struct is its `image`.

`UnSerialize` receives a pointer into a package and trusts it; the model takes the
whole package and the pointer's offset `base`, and is `none` when it reads
outside the package. `char` is signed.
-/

namespace SocketMessage.Wire

open SocketMessage.Lib

/-- Message types, by direction. -/
inductive EDataType where
  | c2SLogin | c2SDataMsg | c2SGetDataMsgList
  | s2CLogin | s2CUser | s2CUserList | s2CGroup | s2CGroupList | s2CDataMsg | s2CDataMsgList
deriving DecidableEq, Repr

/-- The enumeration's values. -/
def EDataType.value : EDataType → CInt
  | .c2SLogin => 100
  | .c2SDataMsg => 101
  | .c2SGetDataMsgList => 102
  | .s2CLogin => 200
  | .s2CUser => 201
  | .s2CUserList => 202
  | .s2CGroup => 203
  | .s2CGroupList => 204
  | .s2CDataMsg => 205
  | .s2CDataMsgList => 206

/-- What every message starts with. Received bytes may hold any `DataType`. -/
structure DataHead where
  dataSize : CInt
  dataType : CInt
deriving DecidableEq, Repr

/-- `sizeof(DataHead)`. -/
abbrev DataHead.size : Nat := 4 + 4

def DataHead.image (head : DataHead) : SizedBytes DataHead.size :=
  (encodeInt head.dataSize).append (encodeInt head.dataType)

def DataHead.ofImage (image : SizedBytes DataHead.size) : DataHead :=
  ⟨decodeInt image.left, decodeInt image.right⟩

@[simp] theorem DataHead.ofImage_image (head : DataHead) : DataHead.ofImage head.image = head := by
  simp [DataHead.ofImage, DataHead.image]

/-! ## Structs of one id and one text field -/

/-- `sizeof` of a head, an `int` and a `char[32]`. -/
abbrev fixedSize : Nat := DataHead.size + (4 + 32)

/-- The packed layout shared by `C2SLogin`, `S2CLogin` and `S2CUser`. -/
def fixedImage (head : DataHead) (id : CInt) (text : SizedBytes 32) : SizedBytes fixedSize :=
  head.image.append ((encodeInt id).append text)

/-- `DefaultDataSerializeAndUnSerialize`: `new char[DataSize]`, then `DataSize`
bytes of the object. -/
def defaultSerialize {size : Nat} (dataSize : CInt) (image : SizedBytes size) :
    Option (List Byte) :=
  if 0 ≤ dataSize.toInt then
    (readBytes image.1 0 dataSize.toInt.toNat).map Subtype.val
  else none

/-- `DefaultDataSerializeAndUnSerialize`: `DataSize` bytes of the package, counted
by the object that is overwritten, become the object. -/
def defaultUnSerialize {size : Nat} (dataSize : CInt) (image : SizedBytes size)
    (data : List Byte) : Option (SizedBytes size) := do
  let bytes ← readBytes data 0 dataSize.toNat
  if inside : dataSize.toNat ≤ size then
    return image.overwrite bytes inside
  else none

structure C2SLogin extends DataHead where
  userId : CInt
  password : SizedBytes 32
deriving DecidableEq, Repr

namespace C2SLogin

def image (self : C2SLogin) : SizedBytes fixedSize :=
  fixedImage self.toDataHead self.userId self.password

def ofImage (image : SizedBytes fixedSize) : C2SLogin :=
  { DataHead.ofImage image.left with
    userId := decodeInt image.right.left
    password := image.right.right }

/-- The constructor sets the head; the other fields keep what their memory held. -/
def fresh (userId : CInt) (password : SizedBytes 32) : C2SLogin :=
  { dataSize := BitVec.ofNat 32 fixedSize, dataType := EDataType.c2SLogin.value, userId, password }

def serialize (self : C2SLogin) : Option (List Byte) := defaultSerialize self.dataSize self.image

def unSerialize (self : C2SLogin) (data : List Byte) : Option C2SLogin :=
  (defaultUnSerialize self.dataSize self.image data).map ofImage

end C2SLogin

structure S2CLogin extends DataHead where
  userId : CInt
  userName : SizedBytes 32
deriving DecidableEq, Repr

namespace S2CLogin

def image (self : S2CLogin) : SizedBytes fixedSize :=
  fixedImage self.toDataHead self.userId self.userName

def ofImage (image : SizedBytes fixedSize) : S2CLogin :=
  { DataHead.ofImage image.left with
    userId := decodeInt image.right.left
    userName := image.right.right }

/-- The constructor sets the head; the other fields keep what their memory held. -/
def fresh (userId : CInt) (userName : SizedBytes 32) : S2CLogin :=
  { dataSize := BitVec.ofNat 32 fixedSize, dataType := EDataType.s2CLogin.value, userId, userName }

def serialize (self : S2CLogin) : Option (List Byte) := defaultSerialize self.dataSize self.image

def unSerialize (self : S2CLogin) (data : List Byte) : Option S2CLogin :=
  (defaultUnSerialize self.dataSize self.image data).map ofImage

end S2CLogin

structure S2CUser extends DataHead where
  userId : CInt
  userName : SizedBytes 32
deriving DecidableEq, Repr

namespace S2CUser

def image (self : S2CUser) : SizedBytes fixedSize :=
  fixedImage self.toDataHead self.userId self.userName

def ofImage (image : SizedBytes fixedSize) : S2CUser :=
  { DataHead.ofImage image.left with
    userId := decodeInt image.right.left
    userName := image.right.right }

@[simp] theorem ofImage_image (self : S2CUser) : ofImage self.image = self := by
  simp [ofImage, image, fixedImage]

/-- The constructor sets the head; the other fields keep what their memory held. -/
def fresh (userId : CInt) (userName : SizedBytes 32) : S2CUser :=
  { dataSize := BitVec.ofNat 32 fixedSize, dataType := EDataType.s2CUser.value, userId, userName }

/-- `std::memcpy(&user, data + offset, sizeof(S2CUser))`. -/
def copyFrom (data : List Byte) (offset : Int) : Option S2CUser :=
  (readBytes data offset fixedSize).map ofImage

end S2CUser

structure C2SGetDataMsgList extends DataHead where
  lastMsgId : CInt
  userId : CInt
deriving DecidableEq, Repr

namespace C2SGetDataMsgList

/-- `sizeof(C2SGetDataMsgList)`. -/
abbrev size : Nat := DataHead.size + (4 + 4)

def image (self : C2SGetDataMsgList) : SizedBytes size :=
  self.toDataHead.image.append ((encodeInt self.lastMsgId).append (encodeInt self.userId))

def ofImage (image : SizedBytes size) : C2SGetDataMsgList :=
  { DataHead.ofImage image.left with
    lastMsgId := decodeInt image.right.left
    userId := decodeInt image.right.right }

/-- The constructor sets the head; the other fields keep what their memory held. -/
def fresh (lastMsgId userId : CInt) : C2SGetDataMsgList :=
  { dataSize := BitVec.ofNat 32 size, dataType := EDataType.c2SGetDataMsgList.value,
    lastMsgId, userId }

def serialize (self : C2SGetDataMsgList) : Option (List Byte) :=
  defaultSerialize self.dataSize self.image

def unSerialize (self : C2SGetDataMsgList) (data : List Byte) : Option C2SGetDataMsgList :=
  (defaultUnSerialize self.dataSize self.image data).map ofImage

end C2SGetDataMsgList

/-! ## Lists -/

/-- Offset of the first element: head and element count. -/
def listStart : Int := DataHead.size + 4

/-- The writes of a list: head, four-byte element count, elements. -/
def listCopies {α : Type} (head : DataHead) (image : α → List Byte) (advance : α → Int)
    (elements : List α) : List Copy :=
  ⟨0, head.image.1⟩ :: ⟨DataHead.size, (encodeInt (BitVec.ofNat 32 elements.length)).1⟩ ::
    elementCopies image advance listStart elements

/-- The part the lists' `UnSerialize` share: copy the head, take the element count
from the single `char` after it, decode the elements one after another. -/
def readList {α : Type} (decode : List Byte → Int → Option α) (advance : α → Int)
    (data : List Byte) (base : Int) : Option (DataHead × List α) := do
  let head ← readBytes data base DataHead.size
  let count ← readByte data (base + DataHead.size)
  let elements ← elementsLoop (fun offset => decode data (base + offset)) advance
    count.toInt.toNat listStart
  return (DataHead.ofImage head, elements)

structure S2CUserList extends DataHead where
  userVector : List S2CUser
deriving DecidableEq, Repr

namespace S2CUserList

/-- The constructor. -/
def fresh : S2CUserList :=
  { dataSize := 0, dataType := EDataType.s2CUserList.value, userVector := [] }

/-- The object after `Serialize` has set its `DataSize`. -/
def sized (self : S2CUserList) : S2CUserList :=
  { self with dataSize := BitVec.ofNat 32 (DataHead.size + 4 + fixedSize * self.userVector.length) }

def copies (self : S2CUserList) : List Copy :=
  listCopies self.toDataHead (fun user => user.image.1) (fun _ : S2CUser => fixedSize)
    self.userVector

/-- The bytes produced, and the object with its `DataSize` set. -/
def serialize (self : S2CUserList) : Option (List Byte × S2CUserList) :=
  (fillBlock self.sized.dataSize.toInt self.sized.copies).map fun bytes => (bytes, self.sized)

def unSerialize (self : S2CUserList) (data : List Byte) (base : Int) : Option S2CUserList := do
  let (head, users) ← readList S2CUser.copyFrom (fun _ => fixedSize) data base
  return { head with userVector := self.userVector ++ users }

end S2CUserList

structure S2CGroup extends DataHead where
  groupId : CInt
  groupName : SizedBytes 32
  adminId : CInt
  userList : S2CUserList
deriving DecidableEq, Repr

namespace S2CGroup

/-- `size1`: the part before `UserList`. -/
abbrev size1 : Nat := DataHead.size + (4 + (32 + 4))

def image (self : S2CGroup) : SizedBytes size1 :=
  self.toDataHead.image.append
    ((encodeInt self.groupId).append (self.groupName.append (encodeInt self.adminId)))

def ofImage (image : SizedBytes size1) (userList : S2CUserList) : S2CGroup :=
  { DataHead.ofImage image.left with
    groupId := decodeInt image.right.left
    groupName := image.right.right.left
    adminId := decodeInt image.right.right.right
    userList }

@[simp] theorem ofImage_image (self : S2CGroup) (userList : S2CUserList) :
    ofImage self.image userList = { self with userList } := by
  simp [ofImage, image]

/-- The constructor sets the head; the fixed fields keep what their memory held. -/
def fresh (groupId : CInt) (groupName : SizedBytes 32) (adminId : CInt) : S2CGroup :=
  { dataSize := 0, dataType := EDataType.s2CGroup.value, groupId, groupName, adminId,
    userList := S2CUserList.fresh }

def serialize (self : S2CGroup) : Option (List Byte × S2CGroup) := do
  let (pUser, userList) ← self.userList.serialize
  let dataSize := BitVec.ofInt 32 (size1 + userList.dataSize.toInt)
  let self := { self with dataSize, userList }
  let bytes ← fillBlock dataSize.toInt [⟨0, self.image.1⟩, ⟨size1, pUser⟩]
  return (bytes, self)

def unSerialize (self : S2CGroup) (data : List Byte) (base : Int) : Option S2CGroup := do
  let image ← readBytes data base size1
  let userList ← self.userList.unSerialize data (base + size1)
  return ofImage image userList

/-- One pass of the loop in `S2CGroupList::UnSerialize`: a new group is decoded. -/
def decodeAt (data : List Byte) (offset : Int) : Option S2CGroup :=
  (fresh 0 (.zeros 32) 0).unSerialize data offset

end S2CGroup

/-- The part the two nested lists' `Serialize` share, from the serialized elements
and their `DataSize`s on: the new `DataSize` and the bytes. -/
def nestedBlock (dataType : CInt) (elements : List (List Byte × CInt)) :
    Option (List Byte × CInt) := do
  let vectorSize := elements.foldl (fun size element => int32 (size + element.2.toInt)) 0
  let dataSize := BitVec.ofInt 32 (listStart + vectorSize)
  let bytes ← fillBlock dataSize.toInt
    (listCopies ⟨dataSize, dataType⟩ Prod.fst (fun element => element.2.toInt) elements)
  return (bytes, dataSize)

structure S2CGroupList extends DataHead where
  groupVector : List S2CGroup
deriving DecidableEq, Repr

namespace S2CGroupList

/-- The constructor. -/
def fresh : S2CGroupList :=
  { dataSize := 0, dataType := EDataType.s2CGroupList.value, groupVector := [] }

def serialize (self : S2CGroupList) : Option (List Byte × S2CGroupList) := do
  let groups ← self.groupVector.mapM S2CGroup.serialize
  let (bytes, dataSize) ← nestedBlock self.dataType
    (groups.map fun group => (group.1, group.2.dataSize))
  return (bytes, { self with dataSize, groupVector := groups.map Prod.snd })

def unSerialize (self : S2CGroupList) (data : List Byte) (base : Int) : Option S2CGroupList := do
  let (head, groups) ← readList S2CGroup.decodeAt (fun group => group.dataSize.toInt) data base
  return { head with groupVector := self.groupVector ++ groups }

end S2CGroupList

/-! ## Chat messages -/

/-- `C2SDataMsg` and `S2CDataMsg` differ from it in the constructor's `DataType` only. -/
structure DataMsg extends DataHead where
  msgId : CInt
  msgType : CInt
  sender : CInt
  receiver : CInt
  isGroup : Bool
  createdTime : CInt
  msg : List Byte
  extend : List Byte
deriving DecidableEq, Repr

namespace DataMsg

/-- `size1`: the part before the strings. -/
abbrev size1 : Nat := DataHead.size + (4 + (4 + (4 + (4 + (1 + 4)))))

def image (self : DataMsg) : SizedBytes size1 :=
  self.toDataHead.image.append
    ((encodeInt self.msgId).append ((encodeInt self.msgType).append
      ((encodeInt self.sender).append ((encodeInt self.receiver).append
        (SizedBytes.append ⟨[if self.isGroup then 1 else 0], rfl⟩
          (encodeInt self.createdTime))))))

def ofImage (image : SizedBytes size1) (msg extend : List Byte) : DataMsg :=
  { DataHead.ofImage image.left with
    msgId := decodeInt image.right.left
    msgType := decodeInt image.right.right.left
    sender := decodeInt image.right.right.right.left
    receiver := decodeInt image.right.right.right.right.left
    isGroup := decide (image.right.right.right.right.right.left.1.getD 0 0 ≠ 0)
    createdTime := decodeInt image.right.right.right.right.right.right
    msg, extend }

@[simp] theorem ofImage_image (self : DataMsg) (msg extend : List Byte) :
    ofImage self.image msg extend = { self with msg, extend } := by
  cases group : self.isGroup <;> simp [ofImage, image, group]

/-- A new object: the strings are empty, the other fields keep what their memory
held. -/
def fresh (memory : DataMsg) : DataMsg := { memory with msg := [], extend := [] }

/-- Memory that holds zeros. -/
def zeroed : DataMsg :=
  { dataSize := 0, dataType := 0, msgId := 0, msgType := 0, sender := 0, receiver := 0,
    isGroup := false, createdTime := 0, msg := [], extend := [] }

/-- The constructors of `C2SDataMsg` and `S2CDataMsg`. -/
def construct (memory : DataMsg) (dataType : EDataType) : DataMsg :=
  { memory.fresh with dataSize := 0, dataType := dataType.value }

/-- The object after `Serialize` has set its `DataSize`. -/
def sized (self : DataMsg) : DataMsg :=
  let dataSize := BitVec.ofNat 32 (size1 + 4 + self.msg.length + 4 + self.extend.length + 2)
  { self with dataSize }

/-- The writes of `Serialize`: each string after its length, which counts the NUL. -/
def copies (self : DataMsg) : List Copy :=
  let msgSize := int32 (self.msg.length + 1)
  let msgOffset := int32 (size1 + 4)
  let extendSizeOffset := int32 (msgOffset + msgSize)
  let extendSize := int32 (self.extend.length + 1)
  [ ⟨0, self.image.1⟩,
    ⟨size1, (encodeInt (BitVec.ofInt 32 msgSize)).1⟩,
    ⟨msgOffset, (self.msg ++ [0]).take msgSize.toNat⟩,
    ⟨extendSizeOffset, (encodeInt (BitVec.ofInt 32 extendSize)).1⟩,
    ⟨int32 (extendSizeOffset + 4), (self.extend ++ [0]).take extendSize.toNat⟩ ]

/-- The lengths handed to `memcpy` are not negative; it takes a negative one for a size
beyond every block. -/
def Copyable (self : DataMsg) : Prop :=
  0 ≤ int32 (self.msg.length + 1) ∧ 0 ≤ int32 (self.extend.length + 1)

instance (self : DataMsg) : Decidable self.Copyable := inferInstanceAs (Decidable (_ ∧ _))

def serialize (self : DataMsg) : Option (List Byte × DataMsg) := do
  let bytes ← fillBlock self.sized.dataSize.toInt self.sized.copies
  if self.Copyable then return (bytes, self.sized) else none

/-- Each length is read as the one `char` at its first byte, and the offset behind
`Msg` is stepped once more although the length counts the NUL. -/
def unSerialize (self : DataMsg) (data : List Byte) (base : Int) : Option DataMsg := do
  let image ← readBytes data base size1
  let offset : Int := size1
  let msgSize ← readByte data (base + offset)
  let offset := int32 (offset + 4)
  let msg ← readCString data (base + offset)
  let offset := int32 (offset + msgSize.toInt)
  let offset := int32 (offset + 1)
  let _extendSize ← readByte data (base + offset)
  let offset := int32 (offset + 4)
  let extend ← readCString data (base + offset)
  return ofImage image (self.msg ++ msg) (self.extend ++ extend)

/-- One pass of the loop in `DataMsgList::UnSerialize`: a new message is decoded. -/
def decodeAt (data : List Byte) (offset : Int) : Option DataMsg :=
  zeroed.fresh.unSerialize data offset

end DataMsg

/-- `S2CDataMsgList` is this list with the constructor's `DataType`. -/
structure DataMsgList extends DataHead where
  msgVector : List DataMsg
deriving DecidableEq, Repr

namespace DataMsgList

/-- The constructor of `S2CDataMsgList`. -/
def fresh : DataMsgList :=
  { dataSize := 0, dataType := EDataType.s2CDataMsgList.value, msgVector := [] }

def serialize (self : DataMsgList) : Option (List Byte × DataMsgList) := do
  let messages ← self.msgVector.mapM DataMsg.serialize
  let (bytes, dataSize) ← nestedBlock self.dataType
    (messages.map fun message => (message.1, message.2.dataSize))
  return (bytes, { self with dataSize, msgVector := messages.map Prod.snd })

def unSerialize (self : DataMsgList) (data : List Byte) (base : Int) : Option DataMsgList := do
  let (head, messages) ← readList DataMsg.decodeAt (fun message => message.dataSize.toInt) data base
  return { head with msgVector := self.msgVector ++ messages }

end DataMsgList

end SocketMessage.Wire
