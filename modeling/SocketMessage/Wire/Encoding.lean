import Mathlib.Algebra.Order.BigOperators.Group.List
import Mathlib.Algebra.Order.Ring.Nat
import SocketMessage.Wire.DataType

/-!
# What `Serialize` produces

Below 2^31 bytes every `Serialize` fills its block completely. The result is the
value's `wire` form: the packed head, then the strings or the elements, with
`DataSize` equal to the number of bytes.
-/

namespace SocketMessage.Wire

open SocketMessage.Lib

/-! ## Chat messages -/

namespace DataMsg

/-- The number of bytes `Serialize` allocates. -/
def encodedSize (self : DataMsg) : Nat := size1 + 4 + self.msg.length + 4 + self.extend.length + 2

/-- The part of the encoding before the NUL of `Msg`. -/
def lead (self : DataMsg) : List Byte :=
  self.image.1 ++ ((encodeInt (BitVec.ofNat 32 (self.msg.length + 1))).1 ++ self.msg)

/-- The part of the encoding behind the NUL of `Msg`. -/
def trail (self : DataMsg) : List Byte :=
  (encodeInt (BitVec.ofNat 32 (self.extend.length + 1))).1 ++ (self.extend ++ [0])

/-- The encoding, each string behind its length and closed by a NUL. -/
def wire (self : DataMsg) : List Byte := self.lead ++ 0 :: self.trail

@[simp] theorem length_lead (self : DataMsg) : self.lead.length = size1 + 4 + self.msg.length := by
  simp [lead]
  omega

@[simp] theorem length_wire (self : DataMsg) : self.wire.length = self.encodedSize := by
  simp [wire, trail, encodedSize]
  omega

@[simp] theorem encodedSize_sized (self : DataMsg) : self.sized.encodedSize = self.encodedSize := rfl

/-- `DataSize` is the number of bytes. -/
theorem dataSize_sized (self : DataMsg) (bounded : self.encodedSize < 2 ^ 31) :
    self.sized.dataSize.toInt = self.encodedSize :=
  toInt_ofNat_of_lt bounded

/-- The writes of `Serialize` below the size limit, offset by offset. -/
theorem copies_eq (self : DataMsg) (bounded : self.encodedSize < 2 ^ 31) :
    self.copies =
      [ ⟨0, self.image.1⟩,
        ⟨size1, (encodeInt (BitVec.ofNat 32 (self.msg.length + 1))).1⟩,
        ⟨size1 + 4, self.msg ++ [0]⟩,
        ⟨size1 + 4 + (self.msg.length + 1), (encodeInt (BitVec.ofNat 32 (self.extend.length + 1))).1⟩,
        ⟨size1 + 4 + (self.msg.length + 1) + 4, self.extend ++ [0]⟩ ] := by
  unfold encodedSize at bounded
  have msgSize : int32 (self.msg.length + 1) = self.msg.length + 1 :=
    int32_eq_self (by omega) (by omega)
  have msgOffset : int32 (size1 + 4) = size1 + 4 := int32_eq_self (by omega) (by omega)
  have extendSizeOffset : int32 (size1 + 4 + (self.msg.length + 1)) =
      size1 + 4 + (self.msg.length + 1) := int32_eq_self (by omega) (by omega)
  have extendSize : int32 (self.extend.length + 1) = self.extend.length + 1 :=
    int32_eq_self (by omega) (by omega)
  have extendOffset : int32 (size1 + 4 + (self.msg.length + 1) + 4) =
      size1 + 4 + (self.msg.length + 1) + 4 := int32_eq_self (by omega) (by omega)
  have whole : ∀ text : List Byte,
      (text ++ [0]).take ((text.length : Int) + 1).toNat = text ++ [0] := by
    intro text
    apply List.take_of_length_le
    simp
  have stored : ∀ count : Nat, BitVec.ofInt 32 ((count : Int) + 1) = BitVec.ofNat 32 (count + 1) :=
    fun count => BitVec.ofInt_natCast 32 (count + 1)
  simp only [copies, msgSize, msgOffset, extendSizeOffset, extendSize, extendOffset, whole, stored]

/-- What the writes of `Serialize` amount to. -/
theorem flatMap_copies (self : DataMsg) (bounded : self.encodedSize < 2 ^ 31) :
    self.copies.flatMap Copy.bytes = self.wire := by
  rw [self.copies_eq bounded]
  simp [wire, lead, trail]

/-- Each write of `Serialize` follows the one before it. -/
theorem contiguous_copies (self : DataMsg) (bounded : self.encodedSize < 2 ^ 31) :
    Contiguous 0 self.copies := by
  rw [self.copies_eq bounded]
  simp [Contiguous]

/-- Below the size limit no length is negative. -/
theorem copyable (self : DataMsg) (bounded : self.encodedSize < 2 ^ 31) : self.Copyable := by
  unfold encodedSize at bounded
  constructor
  · rw [int32_eq_self] <;> omega
  · rw [int32_eq_self] <;> omega

/-- `Serialize` yields the wire form and sets `DataSize`. -/
theorem serialize_eq (self : DataMsg) (bounded : self.encodedSize < 2 ^ 31) :
    self.serialize = some (self.sized.wire, self.sized) := by
  have copied := self.sized.flatMap_copies bounded
  have exact_size : self.sized.dataSize.toInt = (self.sized.copies.flatMap Copy.bytes).length := by
    rw [copied, length_wire, encodedSize_sized, dataSize_sized self bounded]
  rw [serialize, fillBlock_contiguous (self.sized.contiguous_copies bounded) exact_size, copied,
    Option.bind_eq_bind, Option.bind_some, if_pos (self.copyable bounded), Option.pure_def]

end DataMsg

/-! ## Lists -/

/-- A list's encoding: head, four-byte element count, the elements' encodings. -/
def listImage (head : DataHead) (count : Nat) (body : List Byte) : List Byte :=
  head.image.1 ++ ((encodeInt (BitVec.ofNat 32 count)).1 ++ body)

@[simp] theorem length_listImage (head : DataHead) (count : Nat) (body : List Byte) :
    (listImage head count body).length = DataHead.size + 4 + body.length := by
  simp [listImage]
  omega

/-- What the writes of a list amount to. -/
theorem flatMap_listCopies {α : Type} (head : DataHead) (image : α → List Byte)
    (advance : α → Int) (elements : List α) :
    (listCopies head image advance elements).flatMap Copy.bytes =
      listImage head elements.length (elements.flatMap image) := by
  simp [listCopies, listImage]

/-- Below the size limit each write of a list follows the one before it. -/
theorem contiguous_listCopies {α : Type} {head : DataHead} {image : α → List Byte}
    {advance : α → Int} {elements : List α}
    (sized : ∀ element ∈ elements, advance element = (image element).length)
    (bounded : DataHead.size + 4 + (elements.flatMap image).length < 2 ^ 31) :
    Contiguous 0 (listCopies head image advance elements) := by
  have body : Contiguous listStart (elementCopies image advance listStart elements) :=
    elementCopies_contiguous (by decide) sized (by simp only [listStart]; omega)
  simpa [listCopies, Contiguous, listStart] using body

/-- The writes of a list fill a block of the right size with the list's encoding. -/
theorem fillBlock_listCopies {α : Type} {head : DataHead} {image : α → List Byte}
    {advance : α → Int} {elements : List α} {size : Int}
    (sized : ∀ element ∈ elements, advance element = (image element).length)
    (exact_size : size = DataHead.size + 4 + (elements.flatMap image).length)
    (bounded : size < 2 ^ 31) :
    fillBlock size (listCopies head image advance elements) =
      some (listImage head elements.length (elements.flatMap image)) := by
  rw [← flatMap_listCopies head image advance elements]
  apply fillBlock_contiguous (contiguous_listCopies sized (by omega))
  rw [flatMap_listCopies, length_listImage, exact_size]
  omega

namespace S2CUserList

def encodedSize (self : S2CUserList) : Nat :=
  DataHead.size + 4 + fixedSize * self.userVector.length

def wire (self : S2CUserList) : List Byte :=
  listImage self.toDataHead self.userVector.length (self.userVector.flatMap fun user => user.image.1)

theorem length_body (users : List S2CUser) :
    (users.flatMap fun user => user.image.1).length = fixedSize * users.length := by
  simp [List.length_flatMap, Nat.mul_comm]

@[simp] theorem length_wire (self : S2CUserList) : self.wire.length = self.encodedSize := by
  rw [wire, length_listImage, length_body]
  rfl

/-- `DataSize` is the number of bytes. -/
theorem dataSize_sized (self : S2CUserList) (bounded : self.encodedSize < 2 ^ 31) :
    self.sized.dataSize.toInt = self.encodedSize :=
  toInt_ofNat_of_lt bounded

/-- `Serialize` yields the wire form and sets `DataSize`. -/
theorem serialize_eq (self : S2CUserList) (bounded : self.encodedSize < 2 ^ 31) :
    self.serialize = some (self.sized.wire, self.sized) := by
  have filled : fillBlock self.sized.dataSize.toInt self.sized.copies = some self.sized.wire := by
    apply fillBlock_listCopies
    · simp
    · rw [length_body, dataSize_sized self bounded]
      rfl
    · rw [dataSize_sized self bounded]
      omega
  rw [serialize, filled]
  rfl

end S2CUserList

namespace S2CGroup

def encodedSize (self : S2CGroup) : Nat := size1 + self.userList.encodedSize

/-- The object after `Serialize` has set its `DataSize` and that of its members. -/
def sized (self : S2CGroup) : S2CGroup :=
  { self with dataSize := BitVec.ofNat 32 self.encodedSize, userList := self.userList.sized }

def wire (self : S2CGroup) : List Byte := self.image.1 ++ self.userList.wire

@[simp] theorem length_wire (self : S2CGroup) : self.wire.length = self.encodedSize := by
  simp [wire, encodedSize]

@[simp] theorem encodedSize_sized (self : S2CGroup) : self.sized.encodedSize = self.encodedSize :=
  rfl

/-- `DataSize` is the number of bytes. -/
theorem dataSize_sized (self : S2CGroup) (bounded : self.encodedSize < 2 ^ 31) :
    self.sized.dataSize.toInt = self.encodedSize :=
  toInt_ofNat_of_lt bounded

/-- `Serialize` yields the wire form and sets both `DataSize`s. -/
theorem serialize_eq (self : S2CGroup) (bounded : self.encodedSize < 2 ^ 31) :
    self.serialize = some (self.sized.wire, self.sized) := by
  have membersBounded : self.userList.encodedSize < 2 ^ 31 := by
    unfold encodedSize at bounded
    omega
  have members := self.userList.serialize_eq membersBounded
  have dataSize : BitVec.ofInt 32 (size1 + self.userList.sized.dataSize.toInt) =
      self.sized.dataSize := by
    rw [S2CUserList.dataSize_sized _ membersBounded, ← Int.natCast_add, BitVec.ofInt_natCast]
    rfl
  have contiguous :
      Contiguous 0 [⟨0, self.sized.image.1⟩, ⟨size1, self.userList.sized.wire⟩] := by
    simp [Contiguous]
  have filled := @fillBlock_contiguous self.sized.dataSize.toInt _ contiguous (by
    rw [dataSize_sized self bounded]
    simp [encodedSize]
    rfl)
  simp only [serialize, members, Option.bind_eq_bind, Option.bind_some, dataSize]
  change (fillBlock self.sized.dataSize.toInt [⟨0, self.sized.image.1⟩, _]).bind _ = _
  rw [filled]
  simp [wire, sized]

end S2CGroup

/-- Adding up sizes that stay in range loses nothing. -/
theorem foldl_dataSize {elements : List (List Byte × CInt)} {start : Nat}
    (sized : ∀ element ∈ elements, element.2.toInt = element.1.length)
    (bounded : start + (elements.flatMap Prod.fst).length < 2 ^ 31) :
    elements.foldl (fun size element => int32 (size + element.2.toInt)) (start : Int) =
      (start + (elements.flatMap Prod.fst).length : Nat) := by
  induction elements generalizing start with
  | nil => simp
  | cons element rest inductionHypothesis =>
      have size := sized element List.mem_cons_self
      simp only [List.flatMap_cons, List.length_append] at bounded
      have next : int32 (start + element.2.toInt) = (start + element.1.length : Nat) := by
        rw [size, Int.natCast_add]
        apply int32_eq_self <;> omega
      rw [List.foldl_cons, next, inductionHypothesis
        (fun other member => sized other (List.mem_cons_of_mem _ member)) (by omega)]
      simp [Nat.add_assoc]

/-- The first pass over the elements finds the size of the whole encoding. -/
theorem nested_dataSize {elements : List (List Byte × CInt)} {total : Nat}
    (sized : ∀ element ∈ elements, element.2.toInt = element.1.length)
    (exact_total : total = DataHead.size + 4 + (elements.flatMap Prod.fst).length)
    (bounded : total < 2 ^ 31) :
    BitVec.ofInt 32 (listStart +
        elements.foldl (fun size element => int32 (size + element.2.toInt)) 0) =
      BitVec.ofNat 32 total := by
  have vectorSize := @foldl_dataSize elements 0 sized (by omega)
  simp only [Int.natCast_zero, Nat.zero_add] at vectorSize
  rw [vectorSize, exact_total, ← BitVec.ofInt_natCast]
  rfl

/-- The lists of variable-size elements, from the elements' encodings on. -/
theorem nestedBlock_eq {dataType : CInt} {elements : List (List Byte × CInt)} {total : Nat}
    (sized : ∀ element ∈ elements, element.2.toInt = element.1.length)
    (exact_total : total = DataHead.size + 4 + (elements.flatMap Prod.fst).length)
    (bounded : total < 2 ^ 31) :
    nestedBlock dataType elements =
      some (listImage ⟨BitVec.ofNat 32 total, dataType⟩ elements.length
        (elements.flatMap Prod.fst), BitVec.ofNat 32 total) := by
  have filled := @fillBlock_listCopies _ ⟨BitVec.ofNat 32 total, dataType⟩ Prod.fst
    (fun element => element.2.toInt) elements (BitVec.ofNat 32 total).toInt sized
    (by rw [toInt_ofNat_of_lt bounded, exact_total]; simp)
    (by rw [toInt_ofNat_of_lt bounded]; omega)
  simp only [nestedBlock, nested_dataSize sized exact_total bounded, filled, Option.bind_eq_bind,
    Option.bind_some, Option.pure_def]

/-- Serializing the elements of a vector in place. -/
theorem mapM_serialize {α : Type} {serialize : α → Option (List Byte × α)} {sized : α → α}
    {wire : α → List Byte} {elements : List α}
    (serializes : ∀ element ∈ elements, serialize element = some (wire (sized element), sized element)) :
    elements.mapM serialize = some (elements.map fun element => (wire (sized element), sized element)) := by
  induction elements with
  | nil => rfl
  | cons element rest inductionHypothesis =>
      simp [serializes element List.mem_cons_self,
        inductionHypothesis fun other member => serializes other (List.mem_cons_of_mem _ member)]

namespace S2CGroupList

def encodedSize (self : S2CGroupList) : Nat :=
  DataHead.size + 4 + (self.groupVector.map S2CGroup.encodedSize).sum

/-- The object after `Serialize` has set every `DataSize`. -/
def sized (self : S2CGroupList) : S2CGroupList :=
  { self with
    dataSize := BitVec.ofNat 32 self.encodedSize
    groupVector := self.groupVector.map S2CGroup.sized }

def wire (self : S2CGroupList) : List Byte :=
  listImage self.toDataHead self.groupVector.length (self.groupVector.flatMap S2CGroup.wire)

/-- Each element is no larger than the list. -/
theorem encodedSize_le (self : S2CGroupList) {group : S2CGroup} (member : group ∈ self.groupVector) :
    group.encodedSize ≤ self.encodedSize := by
  have summand := List.single_le_sum (fun _ _ => Nat.zero_le _) _
    (List.mem_map_of_mem (f := S2CGroup.encodedSize) member)
  unfold encodedSize
  omega

/-- `Serialize` yields the wire form and sets every `DataSize`. -/
theorem serialize_eq (self : S2CGroupList) (bounded : self.encodedSize < 2 ^ 31) :
    self.serialize = some (self.sized.wire, self.sized) := by
  have groupBounded : ∀ group ∈ self.groupVector, group.encodedSize < 2 ^ 31 := fun group member =>
    Nat.lt_of_le_of_lt (self.encodedSize_le member) bounded
  have groups := @mapM_serialize _ _ _ _ self.groupVector fun group member =>
    group.serialize_eq (groupBounded group member)
  have block := @nestedBlock_eq self.dataType
    (self.groupVector.map fun group => (group.sized.wire, group.sized.dataSize)) self.encodedSize
    (by
      intro element member
      obtain ⟨group, groupMember, rfl⟩ := List.mem_map.mp member
      simp [S2CGroup.dataSize_sized group (groupBounded group groupMember)])
    (by simp [encodedSize, List.flatMap_map, List.length_flatMap])
    bounded
  simp only [serialize, groups, Option.bind_eq_bind, Option.bind_some, List.map_map]
  change (nestedBlock self.dataType
    (self.groupVector.map fun group => (group.sized.wire, group.sized.dataSize))).bind _ = _
  rw [block]
  simp [wire, sized, List.flatMap_map, Function.comp_def]

end S2CGroupList

namespace DataMsgList

def encodedSize (self : DataMsgList) : Nat :=
  DataHead.size + 4 + (self.msgVector.map DataMsg.encodedSize).sum

/-- The object after `Serialize` has set every `DataSize`. -/
def sized (self : DataMsgList) : DataMsgList :=
  { self with
    dataSize := BitVec.ofNat 32 self.encodedSize
    msgVector := self.msgVector.map DataMsg.sized }

def wire (self : DataMsgList) : List Byte :=
  listImage self.toDataHead self.msgVector.length (self.msgVector.flatMap DataMsg.wire)

/-- Each element is no larger than the list. -/
theorem encodedSize_le (self : DataMsgList) {message : DataMsg}
    (member : message ∈ self.msgVector) : message.encodedSize ≤ self.encodedSize := by
  have summand := List.single_le_sum (fun _ _ => Nat.zero_le _) _
    (List.mem_map_of_mem (f := DataMsg.encodedSize) member)
  unfold encodedSize
  omega

/-- `Serialize` yields the wire form and sets every `DataSize`. -/
theorem serialize_eq (self : DataMsgList) (bounded : self.encodedSize < 2 ^ 31) :
    self.serialize = some (self.sized.wire, self.sized) := by
  have messageBounded : ∀ message ∈ self.msgVector, message.encodedSize < 2 ^ 31 :=
    fun message member => Nat.lt_of_le_of_lt (self.encodedSize_le member) bounded
  have messages := @mapM_serialize _ _ _ _ self.msgVector fun message member =>
    message.serialize_eq (messageBounded message member)
  have block := @nestedBlock_eq self.dataType
    (self.msgVector.map fun message => (message.sized.wire, message.sized.dataSize))
    self.encodedSize
    (by
      intro element member
      obtain ⟨message, messageMember, rfl⟩ := List.mem_map.mp member
      simp [DataMsg.dataSize_sized message (messageBounded message messageMember)])
    (by simp [encodedSize, List.flatMap_map, List.length_flatMap])
    bounded
  simp only [serialize, messages, Option.bind_eq_bind, Option.bind_some, List.map_map]
  change (nestedBlock self.dataType
    (self.msgVector.map fun message => (message.sized.wire, message.sized.dataSize))).bind _ = _
  rw [block]
  simp [wire, sized, List.flatMap_map, Function.comp_def]

end DataMsgList

end SocketMessage.Wire
