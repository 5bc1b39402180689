import SocketMessage.Lib.Layout
import SocketMessage.Wire.Encoding

/-!
# The wire format `Serialize` announces

Every `Serialize` computes sizes in one pass and copies in a second one. Below 2^31
bytes the two agree on every level: the block is written byte for byte, `DataSize` is
its length wherever it occurs, the elements of a list are found by hopping over it, and
the bytes determine the value.
-/

namespace SocketMessage.Wire

open SocketMessage.Lib

/-! ## The blocks and what is copied into them -/

/-- The block of a message and its writes. -/
def DataMsg.writes (self : DataMsg) : Option (Int × List Copy) :=
  if self.Copyable then some (self.sized.dataSize.toInt, self.sized.copies) else none

/-- The block of a user list and its writes. -/
def S2CUserList.writes (self : S2CUserList) : Option (Int × List Copy) :=
  some (self.sized.dataSize.toInt, self.sized.copies)

/-- The block of a group and its writes, once the members are serialized. -/
def S2CGroup.writes (self : S2CGroup) : Option (Int × List Copy) := do
  let (pUser, userList) ← self.userList.serialize
  let dataSize := BitVec.ofInt 32 (size1 + userList.dataSize.toInt)
  let self := { self with dataSize, userList }
  return (dataSize.toInt, [⟨0, self.image.1⟩, ⟨size1, pUser⟩])

/-- The block of the two nested lists and its writes, from the serialized elements on. -/
def nestedWrites (dataType : CInt) (elements : List (List Byte × CInt)) : Int × List Copy :=
  let vectorSize := elements.foldl (fun size element => int32 (size + element.2.toInt)) 0
  let dataSize := BitVec.ofInt 32 (listStart + vectorSize)
  (dataSize.toInt,
    listCopies ⟨dataSize, dataType⟩ Prod.fst (fun element => element.2.toInt) elements)

/-- The block of a group list and its writes. -/
def S2CGroupList.writes (self : S2CGroupList) : Option (Int × List Copy) := do
  let groups ← self.groupVector.mapM S2CGroup.serialize
  return nestedWrites self.dataType (groups.map fun group => (group.1, group.2.dataSize))

/-- The block of a message list and its writes. -/
def DataMsgList.writes (self : DataMsgList) : Option (Int × List Copy) := do
  let messages ← self.msgVector.mapM DataMsg.serialize
  return nestedWrites self.dataType (messages.map fun message => (message.1, message.2.dataSize))

/-- The bytes of a `Serialize` are those of its block after its writes. -/
def FillsItsBlock {α : Type} (serialize : α → Option (List Byte × α))
    (writes : α → Option (Int × List Copy)) : Prop :=
  ∀ value, (serialize value).map Prod.fst =
    (writes value).bind fun block => fillBlock block.1 block.2

theorem DataMsg.fillsItsBlock : FillsItsBlock DataMsg.serialize DataMsg.writes := by
  intro self
  unfold serialize writes
  split
  · simp [Option.map_bind]
  · simp

theorem S2CUserList.fillsItsBlock : FillsItsBlock S2CUserList.serialize S2CUserList.writes := by
  intro self
  simp [serialize, writes, Function.comp_def]

theorem S2CGroup.fillsItsBlock : FillsItsBlock S2CGroup.serialize S2CGroup.writes := by
  intro self
  simp [serialize, writes, Option.map_bind, Option.bind_assoc]

/-- The two nested lists fill the block of `nestedWrites`. -/
theorem nestedBlock_fst (dataType : CInt) (elements : List (List Byte × CInt)) :
    (nestedBlock dataType elements).map Prod.fst =
      fillBlock (nestedWrites dataType elements).1 (nestedWrites dataType elements).2 := by
  simp [nestedBlock, nestedWrites, Option.map_bind]

theorem S2CGroupList.fillsItsBlock : FillsItsBlock S2CGroupList.serialize S2CGroupList.writes := by
  intro self
  unfold serialize writes
  cases self.groupVector.mapM S2CGroup.serialize with
  | none => rfl
  | some groups =>
      have filled := nestedBlock_fst self.dataType
        (groups.map fun group => (group.1, group.2.dataSize))
      simpa [Option.map_eq_bind, Option.bind_assoc] using filled

theorem DataMsgList.fillsItsBlock : FillsItsBlock DataMsgList.serialize DataMsgList.writes := by
  intro self
  unfold serialize writes
  cases self.msgVector.mapM DataMsg.serialize with
  | none => rfl
  | some messages =>
      have filled := nestedBlock_fst self.dataType
        (messages.map fun message => (message.1, message.2.dataSize))
      simpa [Option.map_eq_bind, Option.bind_assoc] using filled

/-! ## What is announced -/

/-- `Serialize` produces bytes of the announced size: it allocates exactly that block,
writes every byte of it once and nothing else, and the `DataSize` it has set, which is
the first field of the bytes, is their number. -/
structure Announced {α : Type} (serialize : α → Option (List Byte × α))
    (writes : α → Option (Int × List Copy)) (dataSize : α → CInt) (value : α) (bytes : List Byte)
    (sent : α) : Prop where
  serialized : serialize value = some (bytes, sent)
  writesOnce : ∃ copies, writes value = some ((bytes.length : Int), copies) ∧
    fillBlock bytes.length copies = some bytes ∧ WritesOnce bytes.length copies
  announced : (dataSize sent).toInt = bytes.length
  inside : readInt bytes 0 = some (dataSize sent)

/-- The `DataSize` field at a place, as a number of bytes. -/
def strideAt (data : List Byte) (offset : Int) : Option Nat :=
  (readInt data offset).map fun dataSize => dataSize.toInt.toNat

/-- A list's bytes: head, element count, the elements' encodings one after another. -/
structure CountedList (head : DataHead) (encodings : List (List Byte)) (bytes : List Byte) :
    Prop where
  concatenated : bytes =
    head.image.1 ++ ((encodeInt (BitVec.ofNat 32 encodings.length)).1 ++ encodings.flatten)
  counted : (readInt bytes DataHead.size).map BitVec.toInt = some (encodings.length : Int)

/-- Hopping from the first element on finds the elements and ends where the bytes end. -/
def HopsBy (stride : List Byte → Int → Option Nat) (encodings : List (List Byte))
    (bytes : List Byte) : Prop :=
  hop stride bytes encodings.length listStart = some (encodings, (bytes.length : Int))

/-- The `DataSize` the constructor of `S2CUser` sets and nothing changes. -/
def S2CUser.Constructed (self : S2CUser) : Prop := self.dataSize.toInt = fixedSize

/-- The format of a message. -/
structure DataMsg.Format (self : DataMsg) : Prop where
  announced : Announced serialize writes (fun message => message.dataSize) self self.sized.wire
    self.sized

/-- The format of a user list. A user's encoding is its 44 bytes. -/
structure S2CUserList.Format (self : S2CUserList) : Prop where
  announced : Announced serialize writes (fun users => users.dataSize) self self.sized.wire
    self.sized
  listed : CountedList self.sized.toDataHead (self.userVector.map fun user => user.image.1)
    self.sized.wire
  hops : HopsBy (fun _ _ => some fixedSize) (self.userVector.map fun user => user.image.1)
    self.sized.wire
  hopsByDataSize : (∀ user ∈ self.userVector, user.Constructed) →
    HopsBy strideAt (self.userVector.map fun user => user.image.1) self.sized.wire

/-- The format of a group: the fixed fields, then the member list's own encoding. -/
structure S2CGroup.Format (self : S2CGroup) : Prop where
  announced : Announced serialize writes (fun group => group.dataSize) self self.sized.wire
    self.sized
  members : self.sized.wire = self.sized.image.1 ++ self.userList.sized.wire
  memberList : self.userList.Format

/-- The format of a group list. -/
structure S2CGroupList.Format (self : S2CGroupList) : Prop where
  announced : Announced serialize writes (fun groups => groups.dataSize) self self.sized.wire
    self.sized
  listed : CountedList self.sized.toDataHead (self.groupVector.map fun group => group.sized.wire)
    self.sized.wire
  hops : HopsBy strideAt (self.groupVector.map fun group => group.sized.wire) self.sized.wire
  elements : ∀ group ∈ self.groupVector, group.Format

/-- The format of a message list. -/
structure DataMsgList.Format (self : DataMsgList) : Prop where
  announced : Announced serialize writes (fun messages => messages.dataSize) self self.sized.wire
    self.sized
  listed : CountedList self.sized.toDataHead
    (self.msgVector.map fun message => message.sized.wire) self.sized.wire
  hops : HopsBy strideAt (self.msgVector.map fun message => message.sized.wire) self.sized.wire
  elements : ∀ message ∈ self.msgVector, message.Format

/-- Values below the size limit whose encodings are the same bytes have the same
contents: all that is left to differ is the `DataSize` that `Serialize` replaces. -/
def DeterminedByBytes {α : Type} (serialize : α → Option (List Byte × α)) (encodedSize : α → Nat)
    (sized : α → α) : Prop :=
  ∀ left right, encodedSize left < 2 ^ 31 → encodedSize right < 2 ^ 31 →
    (serialize left).map Prod.fst = (serialize right).map Prod.fst → sized left = sized right

/-! ## The sizes agree -/

/-- A `Serialize` whose contiguous writes add up to the announced size. -/
theorem announced_of_contiguous {α : Type} {serialize : α → Option (List Byte × α)}
    {writes : α → Option (Int × List Copy)} {dataSize : α → CInt} {value sent : α}
    {bytes : List Byte} {copies : List Copy}
    (serialized : serialize value = some (bytes, sent))
    (written : writes value = some ((dataSize sent).toInt, copies))
    (contiguous : Contiguous 0 copies) (content : copies.flatMap Copy.bytes = bytes)
    (announced : (dataSize sent).toInt = bytes.length)
    (inside : readInt bytes 0 = some (dataSize sent)) :
    Announced serialize writes dataSize value bytes sent := by
  have exact_size : (bytes.length : Int) = (copies.flatMap Copy.bytes).length := by rw [content]
  refine ⟨serialized, ⟨copies, ?_, ?_, writesOnce_of_contiguous contiguous exact_size⟩, announced,
    inside⟩
  · rw [written, announced]
  · rw [fillBlock_contiguous contiguous exact_size, content]

/-- The first four bytes behind a known part are the head's `DataSize`. -/
theorem readInt_head (before : List Byte) (head : DataHead) (after : List Byte) :
    readInt (before ++ (head.image.1 ++ after)) before.length = some head.dataSize := by
  simpa [DataHead.image] using
    readInt_append before head.dataSize ((encodeInt head.dataType).1 ++ after)

/-- The length found by a `DataSize` that says it. -/
theorem strideAt_eq {data : List Byte} {offset : Int} {dataSize : CInt} {length : Nat}
    (stored : readInt data offset = some dataSize) (announced : dataSize.toInt = length) :
    strideAt data offset = some length := by
  rw [strideAt, stored, Option.map_some, announced, Int.toNat_natCast]

/-- What the writes of a list with a head of its own amount to, read as a list. -/
theorem countedList_listImage {α : Type} (head : DataHead) (image : α → List Byte)
    (elements : List α) (bounded : elements.length < 2 ^ 31) :
    CountedList head (elements.map image)
      (listImage head elements.length (elements.flatMap image)) := by
  refine ⟨by simp [listImage, List.flatMap_def], ?_⟩
  have count := readInt_append head.image.1 (BitVec.ofNat 32 elements.length)
    (elements.flatMap image)
  rw [SizedBytes.length] at count
  rw [listImage, count, Option.map_some, toInt_ofNat_of_lt bounded, List.length_map]

/-- Hopping over a list whose elements say how long they are. -/
theorem hopsBy_listImage {α : Type} {stride : List Byte → Int → Option Nat} (head : DataHead)
    {image : α → List Byte} {elements : List α}
    (strides : ∀ element ∈ elements, ∀ before after : List Byte,
      stride (before ++ (image element ++ after)) before.length = some (image element).length) :
    HopsBy stride (elements.map image)
      (listImage head elements.length (elements.flatMap image)) := by
  have hopped := @hop_flatMap _ stride image elements
    (head.image.1 ++ (encodeInt (BitVec.ofNat 32 elements.length)).1) [] strides
  have start : (head.image.1 ++ (encodeInt (BitVec.ofNat 32 elements.length)).1).length =
      DataHead.size + 4 := by simp
  rw [start, List.append_nil, List.append_assoc] at hopped
  rw [HopsBy, List.length_map, length_listImage]
  simpa [listImage, listStart] using hopped

namespace DataMsg

/-- The `DataSize` in front of an encoding, wherever it stands. -/
theorem readInt_wire (self : DataMsg) (before after : List Byte) :
    readInt (before ++ (self.wire ++ after)) before.length = some self.dataSize := by
  simpa [wire, lead, image] using readInt_head before self.toDataHead _

/-- No encoding is empty. -/
theorem one_le_length_wire (self : DataMsg) : 1 ≤ self.wire.length := by
  rw [length_wire]
  exact Nat.le_trans (by decide) (Nat.le_add_left 2 _)

/-- The format of a message below the size limit. -/
theorem format (self : DataMsg) (bounded : self.encodedSize < 2 ^ 31) : self.Format where
  announced := by
    have announced := dataSize_sized self bounded
    rw [← encodedSize_sized, ← length_wire] at announced
    exact announced_of_contiguous (self.serialize_eq bounded) (if_pos (self.copyable bounded))
      (self.sized.contiguous_copies bounded) (self.sized.flatMap_copies bounded) announced
      (by simpa using self.sized.readInt_wire [] [])

end DataMsg

namespace S2CUserList

/-- The `DataSize` in front of an encoding, wherever it stands. -/
theorem readInt_wire (self : S2CUserList) (before after : List Byte) :
    readInt (before ++ (self.wire ++ after)) before.length = some self.dataSize := by
  simpa [wire, listImage] using readInt_head before self.toDataHead _

/-- A user list below the size limit has fewer than 2^31 users. -/
theorem length_userVector_lt {self : S2CUserList}
    (bounded : self.encodedSize < 2 ^ 31) : self.userVector.length < 2 ^ 31 := by
  have small : self.userVector.length ≤ fixedSize * self.userVector.length :=
    Nat.le_mul_of_pos_left _ (by decide)
  exact Nat.lt_of_le_of_lt (Nat.le_trans small (Nat.le_add_left _ _)) bounded

/-- The format of a user list below the size limit. -/
theorem format (self : S2CUserList) (bounded : self.encodedSize < 2 ^ 31) : self.Format where
  announced := by
    have announced := dataSize_sized self bounded
    have length : self.sized.wire.length = self.encodedSize := self.sized.length_wire
    rw [← length] at announced
    refine announced_of_contiguous (self.serialize_eq bounded) rfl
      (contiguous_listCopies (by simp) ?_) (flatMap_listCopies ..) announced
      (by simpa using self.sized.readInt_wire [] [])
    rw [length_body]
    exact bounded
  listed := countedList_listImage _ _ _ (length_userVector_lt bounded)
  hops := hopsBy_listImage _ fun user _ before after => by rw [SizedBytes.length]
  hopsByDataSize constructed := by
    refine hopsBy_listImage _ fun user member before after => ?_
    rw [SizedBytes.length]
    refine strideAt_eq ?_ (constructed user member)
    simpa [S2CUser.image, fixedImage] using readInt_head before user.toDataHead _

end S2CUserList

namespace S2CGroup

/-- The `DataSize` in front of an encoding, wherever it stands. -/
theorem readInt_wire (self : S2CGroup) (before after : List Byte) :
    readInt (before ++ (self.wire ++ after)) before.length = some self.dataSize := by
  simpa [wire, image] using readInt_head before self.toDataHead _

/-- No encoding is empty. -/
theorem one_le_length_wire (self : S2CGroup) : 1 ≤ self.wire.length := by
  rw [length_wire]
  exact Nat.le_trans (by decide) (Nat.le_add_right size1 _)

/-- The members' list is no larger than the group. -/
theorem encodedSize_userList_lt {self : S2CGroup} (bounded : self.encodedSize < 2 ^ 31) :
    self.userList.encodedSize < 2 ^ 31 := by
  unfold encodedSize at bounded
  omega

/-- The writes of `Serialize` below the size limit. -/
theorem writes_eq (self : S2CGroup) (bounded : self.encodedSize < 2 ^ 31) :
    self.writes = some (self.sized.dataSize.toInt,
      [⟨0, self.sized.image.1⟩, ⟨size1, self.userList.sized.wire⟩]) := by
  have membersBounded := encodedSize_userList_lt bounded
  have dataSize : BitVec.ofInt 32 (size1 + self.userList.sized.dataSize.toInt) =
      self.sized.dataSize := by
    rw [S2CUserList.dataSize_sized _ membersBounded, ← Int.natCast_add, BitVec.ofInt_natCast]
    rfl
  simp only [writes, self.userList.serialize_eq membersBounded, Option.bind_eq_bind,
    Option.bind_some, dataSize]
  rfl

/-- The format of a group below the size limit. -/
theorem format (self : S2CGroup) (bounded : self.encodedSize < 2 ^ 31) : self.Format where
  announced := by
    have announced := dataSize_sized self bounded
    rw [← encodedSize_sized, ← length_wire] at announced
    exact announced_of_contiguous (self.serialize_eq bounded) (self.writes_eq bounded)
      (by simp [Contiguous]) (by simp [wire, sized]) announced
      (by simpa using self.sized.readInt_wire [] [])
  members := rfl
  memberList := self.userList.format (encodedSize_userList_lt bounded)

end S2CGroup

/-- The writes of a nested list below the size limit, from the elements on. -/
theorem nestedWrites_eq {α : Type} {dataType : CInt} {elements : List α} {wire : α → List Byte}
    {dataSize : α → CInt} {total : Nat}
    (sized : ∀ element ∈ elements, (dataSize element).toInt = (wire element).length)
    (exact_total : total = DataHead.size + 4 + (elements.flatMap wire).length)
    (bounded : total < 2 ^ 31) :
    ∃ copies, nestedWrites dataType (elements.map fun element => (wire element, dataSize element)) =
        ((BitVec.ofNat 32 total).toInt, copies) ∧
      Contiguous 0 copies ∧
      copies.flatMap Copy.bytes =
        listImage ⟨BitVec.ofNat 32 total, dataType⟩ elements.length (elements.flatMap wire) := by
  have sizedPairs : ∀ pair ∈ elements.map fun element => (wire element, dataSize element),
      pair.2.toInt = pair.1.length := by
    intro pair member
    obtain ⟨element, inElements, rfl⟩ := List.mem_map.mp member
    exact sized element inElements
  have bytes : (elements.map fun element => (wire element, dataSize element)).flatMap Prod.fst =
      elements.flatMap wire := by
    simp [List.flatMap_map]
  rw [← bytes] at exact_total ⊢
  simp only [nestedWrites, nested_dataSize sizedPairs exact_total bounded]
  refine ⟨_, rfl, contiguous_listCopies sizedPairs (exact_total ▸ bounded), ?_⟩
  rw [flatMap_listCopies, List.length_map]

/-- A list of non-empty encodings has fewer elements than bytes. -/
theorem length_lt_of_flatMap {α : Type} {elements : List α} {wire : α → List Byte} {limit : Nat}
    (nonempty : ∀ element, 1 ≤ (wire element).length)
    (bounded : DataHead.size + 4 + (elements.flatMap wire).length < limit) :
    elements.length < limit := by
  have atLeast := List.length_le_sum_of_one_le (elements.map fun element => (wire element).length)
    (by
      intro length member
      obtain ⟨element, _, rfl⟩ := List.mem_map.mp member
      exact nonempty element)
  rw [List.length_map] at atLeast
  rw [List.length_flatMap] at bounded
  omega

/-- The format of a nested list below the size limit, from what holds of its elements. -/
theorem nested_format {α β : Type} {serialize : β → Option (List Byte × β)}
    {writes : β → Option (Int × List Copy)} (dataSize : β → CInt) {value sent : β}
    {elements : List α} {wire : α → List Byte} {size : α → CInt} {dataType : CInt} {total : Nat}
    {bytes : List Byte}
    (sized : ∀ element ∈ elements, (size element).toInt = (wire element).length)
    (stored : ∀ element ∈ elements, ∀ before after : List Byte,
      readInt (before ++ (wire element ++ after)) before.length = some (size element))
    (nonempty : ∀ element, 1 ≤ (wire element).length)
    (exact_total : total = DataHead.size + 4 + (elements.flatMap wire).length)
    (bounded : total < 2 ^ 31)
    (content : bytes = listImage ⟨BitVec.ofNat 32 total, dataType⟩ elements.length
      (elements.flatMap wire))
    (serialized : serialize value = some (bytes, sent))
    (written : writes value =
      some (nestedWrites dataType (elements.map fun element => (wire element, size element))))
    (announced : dataSize sent = BitVec.ofNat 32 total) :
    Announced serialize writes dataSize value bytes sent ∧
      CountedList ⟨BitVec.ofNat 32 total, dataType⟩ (elements.map wire) bytes ∧
      HopsBy strideAt (elements.map wire) bytes := by
  obtain ⟨copies, nested, contiguous, copied⟩ :=
    @nestedWrites_eq _ dataType elements _ _ _ sized exact_total bounded
  have length : bytes.length = total := by
    rw [content, length_listImage, exact_total]
  refine ⟨?_, ?_, ?_⟩
  · apply announced_of_contiguous serialized (by rw [written, nested, announced]) contiguous
      (copied.trans content.symm)
    · rw [announced, toInt_ofNat_of_lt bounded, length]
    · rw [announced, content]
      simpa [listImage] using readInt_head [] ⟨BitVec.ofNat 32 total, dataType⟩ _
  · rw [content]
    exact countedList_listImage _ _ _ (length_lt_of_flatMap nonempty (exact_total ▸ bounded))
  · rw [content]
    exact hopsBy_listImage _ fun element member before after =>
      strideAt_eq (stored element member before after) (sized element member)

namespace S2CGroupList

/-- The elements of the finished list, seen from the list before. -/
theorem wire_sized (self : S2CGroupList) :
    self.sized.wire = listImage self.sized.toDataHead self.groupVector.length
      (self.groupVector.flatMap fun group => group.sized.wire) := by
  simp [wire, sized, List.flatMap_map]

/-- The size of the list, from the elements' encodings. -/
theorem encodedSize_eq (self : S2CGroupList) : self.encodedSize =
    DataHead.size + 4 + (self.groupVector.flatMap fun group => group.sized.wire).length := by
  simp [encodedSize, List.length_flatMap]

/-- The format of a group list below the size limit. -/
theorem format (self : S2CGroupList) (bounded : self.encodedSize < 2 ^ 31) : self.Format := by
  have groupBounded : ∀ group ∈ self.groupVector, group.encodedSize < 2 ^ 31 :=
    fun group member => Nat.lt_of_le_of_lt (self.encodedSize_le member) bounded
  have groups := @mapM_serialize _ _ _ _ self.groupVector fun group member =>
    group.serialize_eq (groupBounded group member)
  have written : self.writes = some (nestedWrites self.dataType
      (self.groupVector.map fun group => (group.sized.wire, group.sized.dataSize))) := by
    rw [writes, groups, Option.bind_eq_bind, Option.bind_some, List.map_map]
    rfl
  obtain ⟨announced, listed, hops⟩ := nested_format
    (fun groups : S2CGroupList => groups.dataSize)
    (fun group member => by
      simp [S2CGroup.dataSize_sized group (groupBounded group member)])
    (fun group _ => group.sized.readInt_wire)
    (fun group => group.sized.one_le_length_wire)
    self.encodedSize_eq bounded self.wire_sized (self.serialize_eq bounded) written rfl
  exact ⟨announced, listed, hops, fun group member => group.format (groupBounded group member)⟩

end S2CGroupList

namespace DataMsgList

/-- The elements of the finished list, seen from the list before. -/
theorem wire_sized (self : DataMsgList) :
    self.sized.wire = listImage self.sized.toDataHead self.msgVector.length
      (self.msgVector.flatMap fun message => message.sized.wire) := by
  simp [wire, sized, List.flatMap_map]

/-- The size of the list, from the elements' encodings. -/
theorem encodedSize_eq (self : DataMsgList) : self.encodedSize =
    DataHead.size + 4 + (self.msgVector.flatMap fun message => message.sized.wire).length := by
  simp [encodedSize, List.length_flatMap]

/-- The format of a message list below the size limit. -/
theorem format (self : DataMsgList) (bounded : self.encodedSize < 2 ^ 31) : self.Format := by
  have messageBounded : ∀ message ∈ self.msgVector, message.encodedSize < 2 ^ 31 :=
    fun message member => Nat.lt_of_le_of_lt (self.encodedSize_le member) bounded
  have messages := @mapM_serialize _ _ _ _ self.msgVector fun message member =>
    message.serialize_eq (messageBounded message member)
  have written : self.writes = some (nestedWrites self.dataType
      (self.msgVector.map fun message => (message.sized.wire, message.sized.dataSize))) := by
    rw [writes, messages, Option.bind_eq_bind, Option.bind_some, List.map_map]
    rfl
  obtain ⟨announced, listed, hops⟩ := nested_format
    (fun messages : DataMsgList => messages.dataSize)
    (fun message member => by
      simp [DataMsg.dataSize_sized message (messageBounded message member)])
    (fun message _ => message.sized.readInt_wire)
    (fun message => message.sized.one_le_length_wire)
    self.encodedSize_eq bounded self.wire_sized (self.serialize_eq bounded) written rfl
  exact ⟨announced, listed, hops, fun message member =>
    message.format (messageBounded message member)⟩

end DataMsgList

/-! ## The bytes determine the value -/

/-- The fixed part and the strings are all of a message. -/
theorem DataMsg.eq_of_image {left right : DataMsg} (sameImage : left.image = right.image)
    (sameMsg : left.msg = right.msg) (sameExtend : left.extend = right.extend) : left = right := by
  calc
    left = ofImage left.image left.msg left.extend := (left.ofImage_image _ _).symm
    _ = ofImage right.image right.msg right.extend := by rw [sameImage, sameMsg, sameExtend]
    _ = right := right.ofImage_image _ _

/-- The fixed part and the member list are all of a group. -/
theorem S2CGroup.eq_of_image {left right : S2CGroup} (sameImage : left.image = right.image)
    (sameList : left.userList = right.userList) : left = right := by
  calc
    left = ofImage left.image left.userList := (left.ofImage_image _).symm
    _ = ofImage right.image right.userList := by rw [sameImage, sameList]
    _ = right := right.ofImage_image _

/-- Each string stands behind its length, so that a message tells where it ends. -/
theorem DataMsg.selfDelimiting :
    SelfDelimiting (fun message : DataMsg => message.encodedSize < 2 ^ 31) wire := by
  intro left right leftBounded rightBounded leftRest rightRest same
  unfold encodedSize at leftBounded rightBounded
  simp only [wire, lead, trail, List.append_assoc, List.cons_append] at same
  obtain ⟨sameImage, same⟩ := List.append_inj same (by simp)
  obtain ⟨sameMsgSize, same⟩ := List.append_inj same (by simp)
  have msgLength := encodeInt_ofNat_inj (by omega) (by omega) sameMsgSize
  obtain ⟨sameMsg, same⟩ := List.append_inj same (by omega)
  obtain ⟨sameExtendSize, same⟩ := List.append_inj (List.cons.inj same).2 (by simp)
  have extendLength := encodeInt_ofNat_inj (by omega) (by omega) sameExtendSize
  obtain ⟨sameExtend, _⟩ := List.append_inj same (by omega)
  exact eq_of_image (Subtype.ext sameImage) sameMsg sameExtend

/-- A list tells where it ends, when its elements do. -/
theorem listImage_inj {α : Type} {valid : α → Prop} {wire : α → List Byte}
    (delimiting : SelfDelimiting valid wire) {leftHead rightHead : DataHead} {left right : List α}
    (leftValid : ∀ element ∈ left, valid element) (rightValid : ∀ element ∈ right, valid element)
    (leftBounded : left.length < 2 ^ 32) (rightBounded : right.length < 2 ^ 32)
    {leftRest rightRest : List Byte}
    (same : listImage leftHead left.length (left.flatMap wire) ++ leftRest =
      listImage rightHead right.length (right.flatMap wire) ++ rightRest) :
    leftHead = rightHead ∧ left = right := by
  simp only [listImage, List.append_assoc] at same
  obtain ⟨sameHead, same⟩ := List.append_inj same (by simp)
  obtain ⟨sameCount, same⟩ := List.append_inj same (by simp)
  have sameLength := encodeInt_ofNat_inj leftBounded rightBounded sameCount
  refine ⟨?_, delimiting.flatMap leftValid rightValid sameLength same⟩
  rw [← leftHead.ofImage_image, ← rightHead.ofImage_image, Subtype.ext sameHead]

/-- Users are read back from their bytes. -/
theorem S2CUser.image_injective : Function.Injective S2CUser.image := by
  intro left right same
  rw [← left.ofImage_image, ← right.ofImage_image, same]

/-- A user list tells where it ends. -/
theorem S2CUserList.selfDelimiting :
    SelfDelimiting (fun users : S2CUserList => users.encodedSize < 2 ^ 31) wire := by
  intro left right leftBounded rightBounded leftRest rightRest same
  have leftCount := length_userVector_lt leftBounded
  have rightCount := length_userVector_lt rightBounded
  obtain ⟨sameHead, sameUsers⟩ := listImage_inj
    (selfDelimiting_of_sized S2CUser.image_injective) (fun _ _ => trivial) (fun _ _ => trivial)
    (by omega) (by omega) same
  cases left
  cases right
  simp only at sameHead sameUsers
  rw [sameHead, sameUsers]

/-- A group tells where it ends. -/
theorem S2CGroup.selfDelimiting :
    SelfDelimiting (fun group : S2CGroup => group.encodedSize < 2 ^ 31) wire := by
  intro left right leftBounded rightBounded leftRest rightRest same
  simp only [wire, List.append_assoc] at same
  obtain ⟨sameImage, same⟩ := List.append_inj same (by simp)
  exact eq_of_image (Subtype.ext sameImage)
    (S2CUserList.selfDelimiting _ _ (encodedSize_userList_lt leftBounded)
      (encodedSize_userList_lt rightBounded) _ _ same)

/-- Encodings that tell where they end determine what they encode. -/
theorem determinedByBytes_of_injective {α : Type} {serialize : α → Option (List Byte × α)}
    {encodedSize : α → Nat} {sized : α → α} {wire : α → List Byte}
    (serialized : ∀ value, encodedSize value < 2 ^ 31 →
      serialize value = some (wire (sized value), sized value))
    (injective : ∀ left right, encodedSize left < 2 ^ 31 → encodedSize right < 2 ^ 31 →
      wire (sized left) = wire (sized right) → sized left = sized right) :
    DeterminedByBytes serialize encodedSize sized := by
  intro left right leftBounded rightBounded same
  rw [serialized left leftBounded, serialized right rightBounded] at same
  exact injective left right leftBounded rightBounded (Option.some.inj same)

theorem DataMsg.determinedByBytes : DeterminedByBytes serialize encodedSize sized :=
  determinedByBytes_of_injective serialize_eq fun _ _ leftBounded rightBounded same =>
    selfDelimiting.injective leftBounded rightBounded same

theorem S2CUserList.determinedByBytes : DeterminedByBytes serialize encodedSize sized :=
  determinedByBytes_of_injective serialize_eq fun _ _ leftBounded rightBounded same =>
    selfDelimiting.injective leftBounded rightBounded same

theorem S2CGroup.determinedByBytes : DeterminedByBytes serialize encodedSize sized :=
  determinedByBytes_of_injective serialize_eq fun _ _ leftBounded rightBounded same =>
    selfDelimiting.injective leftBounded rightBounded same

/-- The elements of a finished list are below the size limit, in size and number. -/
theorem S2CGroupList.bounded_sized {self : S2CGroupList} (bounded : self.encodedSize < 2 ^ 31) :
    (∀ group ∈ self.sized.groupVector, group.encodedSize < 2 ^ 31) ∧
      self.sized.groupVector.length < 2 ^ 31 := by
  constructor
  · intro group member
    obtain ⟨original, inList, rfl⟩ := List.mem_map.mp member
    have element := Nat.lt_of_le_of_lt (self.encodedSize_le inList) bounded
    exact element
  · rw [sized, List.length_map]
    exact length_lt_of_flatMap (fun group => group.sized.one_le_length_wire)
      (self.encodedSize_eq ▸ bounded)

theorem S2CGroupList.determinedByBytes : DeterminedByBytes serialize encodedSize sized := by
  refine determinedByBytes_of_injective serialize_eq ?_
  intro left right leftBounded rightBounded same
  obtain ⟨leftElements, leftCount⟩ := bounded_sized leftBounded
  obtain ⟨rightElements, rightCount⟩ := bounded_sized rightBounded
  obtain ⟨sameHead, sameGroups⟩ := listImage_inj S2CGroup.selfDelimiting leftElements rightElements
    (by omega) (by omega) (congrArg (· ++ []) same)
  generalize left.sized = left at *
  generalize right.sized = right at *
  cases left
  cases right
  simp only at sameHead sameGroups
  rw [sameHead, sameGroups]

/-- The elements of a finished list are below the size limit, in size and number. -/
theorem DataMsgList.bounded_sized {self : DataMsgList} (bounded : self.encodedSize < 2 ^ 31) :
    (∀ message ∈ self.sized.msgVector, message.encodedSize < 2 ^ 31) ∧
      self.sized.msgVector.length < 2 ^ 31 := by
  constructor
  · intro message member
    obtain ⟨original, inList, rfl⟩ := List.mem_map.mp member
    have element := Nat.lt_of_le_of_lt (self.encodedSize_le inList) bounded
    exact element
  · rw [sized, List.length_map]
    exact length_lt_of_flatMap (fun message => message.sized.one_le_length_wire)
      (self.encodedSize_eq ▸ bounded)

theorem DataMsgList.determinedByBytes : DeterminedByBytes serialize encodedSize sized := by
  refine determinedByBytes_of_injective serialize_eq ?_
  intro left right leftBounded rightBounded same
  obtain ⟨leftElements, leftCount⟩ := bounded_sized leftBounded
  obtain ⟨rightElements, rightCount⟩ := bounded_sized rightBounded
  obtain ⟨sameHead, sameMessages⟩ := listImage_inj DataMsg.selfDelimiting leftElements rightElements
    (by omega) (by omega) (congrArg (· ++ []) same)
  generalize left.sized = left at *
  generalize right.sized = right at *
  cases left
  cases right
  simp only at sameHead sameMessages
  rw [sameHead, sameMessages]

/-- Below 2^31 bytes, every `Serialize` of these values produces the format it announces,
and its bytes determine the contents. They are always those of its block after its writes. -/
theorem wireFormat :
    (∀ message : DataMsg, message.encodedSize < 2 ^ 31 → message.Format) ∧
      (∀ users : S2CUserList, users.encodedSize < 2 ^ 31 → users.Format) ∧
      (∀ group : S2CGroup, group.encodedSize < 2 ^ 31 → group.Format) ∧
      (∀ groups : S2CGroupList, groups.encodedSize < 2 ^ 31 → groups.Format) ∧
      (∀ messages : DataMsgList, messages.encodedSize < 2 ^ 31 → messages.Format) ∧
      DeterminedByBytes DataMsg.serialize DataMsg.encodedSize DataMsg.sized ∧
      DeterminedByBytes S2CUserList.serialize S2CUserList.encodedSize S2CUserList.sized ∧
      DeterminedByBytes S2CGroup.serialize S2CGroup.encodedSize S2CGroup.sized ∧
      DeterminedByBytes S2CGroupList.serialize S2CGroupList.encodedSize S2CGroupList.sized ∧
      DeterminedByBytes DataMsgList.serialize DataMsgList.encodedSize DataMsgList.sized ∧
      FillsItsBlock DataMsg.serialize DataMsg.writes ∧
      FillsItsBlock S2CUserList.serialize S2CUserList.writes ∧
      FillsItsBlock S2CGroup.serialize S2CGroup.writes ∧
      FillsItsBlock S2CGroupList.serialize S2CGroupList.writes ∧
      FillsItsBlock DataMsgList.serialize DataMsgList.writes :=
  ⟨DataMsg.format, S2CUserList.format, S2CGroup.format, S2CGroupList.format, DataMsgList.format,
    DataMsg.determinedByBytes, S2CUserList.determinedByBytes, S2CGroup.determinedByBytes,
    S2CGroupList.determinedByBytes, DataMsgList.determinedByBytes, DataMsg.fillsItsBlock,
    S2CUserList.fillsItsBlock, S2CGroup.fillsItsBlock, S2CGroupList.fillsItsBlock,
    DataMsgList.fillsItsBlock⟩

end SocketMessage.Wire
