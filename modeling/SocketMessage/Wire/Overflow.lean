import SocketMessage.Wire.SerializedSize

/-!
# Chat messages of any length

`Serialize` keeps the lengths of its strings in `int`s. A string of 2^32 bytes and more
is cut to what its `int` says, without its NUL; the block then holds exactly the cut
strings, or `Serialize` does not get through.
-/

namespace SocketMessage.Wire

open SocketMessage.Lib

/-- What is not negative loses nothing but multiples of 2^32. -/
theorem int32_le_self {value : Int} (nonnegative : 0 ≤ value) : int32 value ≤ value := by
  unfold int32
  rw [Int.bmod_def]
  split <;> omega

/-- A sum that is not seen as negative is exact. -/
theorem int32_eq_of_nonneg {value : Int} (lower : 0 ≤ value) (upper : value < 2 ^ 32)
    (seen : 0 ≤ int32 value) : int32 value = value := by
  by_cases small : value < 2 ^ 31
  · exact int32_eq_self (by omega) small
  · rw [int32_eq_sub (by omega) (by omega)] at seen
    omega

namespace DataMsg

/-- The length of `Msg` with its NUL, as `Serialize` counts it. -/
def msgSize (self : DataMsg) : Int := int32 (self.msg.length + 1)

/-- The length of `Extend` with its NUL, as `Serialize` counts it. -/
def extendSize (self : DataMsg) : Int := int32 (self.extend.length + 1)

/-- The encoding, each string cut to its counted length. -/
def block (self : DataMsg) : List Byte :=
  self.image.1 ++ ((encodeInt (BitVec.ofInt 32 self.msgSize)).1 ++
    ((self.msg ++ [0]).take self.msgSize.toNat ++
      ((encodeInt (BitVec.ofInt 32 self.extendSize)).1 ++
        (self.extend ++ [0]).take self.extendSize.toNat)))

/-- No length is negative, and the counted sizes add up within an `int`. -/
def Serializable (self : DataMsg) : Prop :=
  self.Copyable ∧ 37 + self.msgSize + self.extendSize < 2 ^ 31

instance (self : DataMsg) : Decidable self.Serializable := inferInstanceAs (Decidable (_ ∧ _))

/-- The cut string has its counted length. -/
theorem length_take_counted {text : List Byte} (counted : 0 ≤ int32 (text.length + 1)) :
    (((text ++ [0]).take (int32 (text.length + 1)).toNat).length : Int) =
      int32 (text.length + 1) := by
  have upper := @int32_le_self (text.length + 1) (by omega)
  rw [List.length_take, List.length_append, List.length_singleton]
  omega

/-- The size of the encoding. -/
theorem length_block {self : DataMsg} (copyable : self.Copyable) :
    (self.block.length : Int) = 37 + self.msgSize + self.extendSize := by
  have msgLength := length_take_counted copyable.1
  have extendLength := length_take_counted copyable.2
  have size1Length : size1 = 29 := rfl
  simp only [block, List.length_append, SizedBytes.length, msgSize, extendSize]
  omega

/-- The `DataSize` that `Serialize` computes in `size_t` and stores in an `int`. -/
theorem dataSize_sized_eq {self : DataMsg} (serializable : self.Serializable) :
    self.sized.dataSize.toInt = self.sized.block.length := by
  obtain ⟨copyable, small⟩ := serializable
  have total := @length_block self.sized copyable
  have size1Length : size1 = 29 := rfl
  obtain ⟨msgNonneg, extendNonneg⟩ := copyable
  have sameMsg : self.sized.msgSize = self.msgSize := rfl
  have sameExtend : self.sized.extendSize = self.extendSize := rfl
  rw [total, sameMsg, sameExtend]
  change (BitVec.ofNat 32 _).toInt = _
  unfold msgSize extendSize at small ⊢
  rw [BitVec.toInt_ofNat']
  unfold int32 at *
  simp only [Int.bmod_def] at msgNonneg extendNonneg small ⊢
  split at small <;> split at small <;> split <;> omega

/-- The writes of `Serialize` follow each other. -/
theorem contiguous_of_serializable {self : DataMsg} (serializable : self.Serializable) :
    Contiguous 0 self.copies ∧ self.copies.flatMap Copy.bytes = self.block := by
  obtain ⟨⟨msgNonneg, extendNonneg⟩, small⟩ := serializable
  have msgLength := length_take_counted msgNonneg
  unfold msgSize extendSize at small
  have msgOffset : int32 (size1 + 4) = 33 := by decide
  have extendSizeOffset : int32 (33 + int32 (self.msg.length + 1)) =
      33 + int32 (self.msg.length + 1) := int32_eq_self (by omega) (by omega)
  have extendOffset : int32 (33 + int32 (self.msg.length + 1) + 4) =
      33 + int32 (self.msg.length + 1) + 4 := int32_eq_self (by omega) (by omega)
  constructor
  · simp only [copies, msgOffset, extendSizeOffset, extendOffset, Contiguous, SizedBytes.length,
      msgLength]
    exact ⟨trivial, rfl, rfl, rfl, rfl, trivial⟩
  · simp [copies, block, msgSize, extendSize]

/-- A `Serialize` that gets through had room for both strings. -/
theorem serializable_of_fillBlock {self : DataMsg} {size : CInt} {bytes : List Byte}
    (copyable : self.Copyable) (filled : fillBlock size.toInt self.copies = some bytes) :
    self.Serializable := by
  refine ⟨copyable, ?_⟩
  have small := length_fillBlock_lt filled
  have inside := (fillBlock_inside filled).2
  have extendLength := length_take_counted copyable.2
  obtain ⟨msgNonneg, extendNonneg⟩ := copyable
  have msgUpper : int32 (self.msg.length + 1) < 2 ^ 31 := by
    unfold int32
    have upper := @Int.bmod_lt (self.msg.length + 1) (2 ^ 32) (by decide)
    omega
  have msgOffset : int32 (size1 + 4) = 33 := by decide
  simp only [copies, msgOffset, List.mem_cons, forall_eq_or_imp, List.not_mem_nil,
    IsEmpty.forall_iff, implies_true, and_true, extendLength] at inside
  obtain ⟨-, -, -, ⟨fourth, -⟩, fifth, last⟩ := inside
  -- Were an offset too large for an `int`, it would be negative.
  have extendSizeOffset := int32_eq_of_nonneg (by omega) (by omega) fourth
  rw [extendSizeOffset] at fifth last
  have extendOffset := int32_eq_of_nonneg (by omega) (by omega) fifth
  unfold msgSize extendSize
  omega

/-- When `Serialize` gets through, and what it then produces. -/
theorem serialize_eq_some_iff {self sent : DataMsg} {bytes : List Byte} :
    self.serialize = some (bytes, sent) ↔
      self.Serializable ∧ bytes = self.sized.block ∧ sent = self.sized := by
  constructor
  · intro serialized
    obtain ⟨filledBytes, filled, built⟩ := Option.bind_eq_some_iff.mp serialized
    obtain ⟨copyable, built⟩ := Option.ite_none_right_eq_some.mp built
    obtain ⟨rfl, rfl⟩ := Prod.mk.inj (Option.some.inj built)
    have serializable : self.Serializable := @serializable_of_fillBlock self.sized _ _ copyable filled
    obtain ⟨contiguous, content⟩ := @contiguous_of_serializable self.sized serializable
    exact ⟨serializable, (eq_flatMap_of_fillBlock contiguous filled).trans content, rfl⟩
  · rintro ⟨serializable, rfl, rfl⟩
    obtain ⟨contiguous, content⟩ := @contiguous_of_serializable self.sized serializable
    have filled := fillBlock_contiguous contiguous
      ((dataSize_sized_eq serializable).trans (by rw [content]))
    rw [serialize, filled, Option.bind_eq_bind, Option.bind_some, if_pos serializable.1, content,
      Option.pure_def]

/-- Below the size limit nothing is cut. -/
theorem block_eq_wire {self : DataMsg} (bounded : self.encodedSize < 2 ^ 31) :
    self.Serializable ∧ self.block = self.wire := by
  have serialized := self.serialize_eq bounded
  obtain ⟨serializable, same, -⟩ := serialize_eq_some_iff.mp serialized
  refine ⟨serializable, ?_⟩
  rw [← (contiguous_of_serializable serializable).2, self.flatMap_copies bounded]

end DataMsg

namespace DataMsgList

/-- The elements' encodings, one after another. -/
def body (messages : List DataMsg) : List Byte := messages.flatMap fun message => message.sized.block

/-- The list's encoding. -/
def packed (self : DataMsgList) : List Byte :=
  listImage ⟨BitVec.ofNat 32 (DataHead.size + 4 + (body self.msgVector).length), self.dataType⟩
    self.msgVector.length (body self.msgVector)

/-- Every message can be serialized, and all of them fit a block whose size is an `int`. -/
def Serializable (self : DataMsgList) : Prop :=
  (∀ message ∈ self.msgVector, message.Serializable) ∧
    DataHead.size + 4 + (body self.msgVector).length < 2 ^ 31

/-- The blocks of the messages and the sizes they announce. -/
theorem serialized_elements {messages : List DataMsg}
    (each : ∀ message ∈ messages, message.Serializable) :
    messages.mapM DataMsg.serialize =
      some (messages.map fun message => (message.sized.block, message.sized)) :=
  mapM_serialize fun message member =>
    DataMsg.serialize_eq_some_iff.mpr ⟨each message member, rfl, rfl⟩

/-- The list is packed as soon as its elements are serialized. -/
theorem serialize_of_serializable {self : DataMsgList} (serializable : self.Serializable) :
    ∃ sent, self.serialize = some (self.packed, sent) := by
  obtain ⟨each, small⟩ := serializable
  have block := @nestedBlock_eq self.dataType
    (self.msgVector.map fun message => (message.sized.block, message.sized.dataSize)) _
    (by
      intro element member
      obtain ⟨message, messageMember, rfl⟩ := List.mem_map.mp member
      exact DataMsg.dataSize_sized_eq (each message messageMember))
    rfl (by simpa [body, List.flatMap_map] using small)
  have flat : (self.msgVector.map fun message =>
      (message.sized.block, message.sized.dataSize)).flatMap Prod.fst = body self.msgVector := by
    simp [body, List.flatMap_map]
  rw [flat, List.length_map] at block
  have elements : (self.msgVector.map fun message => (message.sized.block, message.sized)).map
      (fun message => (message.1, message.2.dataSize)) =
      self.msgVector.map fun message => (message.sized.block, message.sized.dataSize) :=
    List.map_map
  rw [serialize, serialized_elements each, Option.bind_eq_bind, Option.bind_some, elements, block]
  exact ⟨_, rfl⟩

/-- A list whose `Serialize` gets through, and the bytes it produces. -/
theorem packed_of_serialize {self sent : DataMsgList} {bytes : List Byte}
    (serialized : self.serialize = some (bytes, sent)) :
    self.Serializable ∧ bytes = self.packed := by
  obtain ⟨messages, elements, rest⟩ := Option.bind_eq_some_iff.mp serialized
  have each : ∀ message ∈ self.msgVector, message.Serializable := by
    intro message member
    obtain ⟨⟨block, message'⟩, one⟩ := Option.isSome_iff_exists.mp
      (mapM_isSome_iff.mp (by rw [elements]; rfl) message member)
    exact (DataMsg.serialize_eq_some_iff.mp one).1
  obtain rfl := Option.some.inj ((serialized_elements each).symm.trans elements)
  obtain ⟨⟨block, dataSize⟩, filled, -⟩ := Option.bind_eq_some_iff.mp rest
  obtain ⟨blockBytes, allocated, -⟩ := Option.bind_eq_some_iff.mp filled
  have holds := length_of_listCopies
    (by
      intro element member
      obtain ⟨serializedMessage, inResults, rfl⟩ := List.mem_map.mp member
      obtain ⟨message, messageMember, rfl⟩ := List.mem_map.mp inResults
      exact DataMsg.dataSize_sized_eq (each message messageMember)) allocated
  have upper := length_fillBlock_lt allocated
  have flat : (((self.msgVector.map fun message => (message.sized.block, message.sized)).map
      fun message => (message.1, message.2.dataSize)).flatMap Prod.fst) = body self.msgVector := by
    simp [body, List.flatMap_map]
  rw [flat] at holds
  have serializable : self.Serializable := ⟨each, by omega⟩
  refine ⟨serializable, ?_⟩
  obtain ⟨sent', packed⟩ := serialize_of_serializable serializable
  exact (Prod.mk.inj (Option.some.inj (serialized.symm.trans packed))).1

end DataMsgList

end SocketMessage.Wire
