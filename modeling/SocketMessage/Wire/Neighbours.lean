import SocketMessage.Lib.Locality
import SocketMessage.Wire.Footprint
import SocketMessage.Wire.Overflow
import SocketMessage.Wire.RoundTrip
import SocketMessage.Wire.WireFormat

/-!
# What a decoded history entry depends on

`DataMsgList::UnSerialize` decodes each message from a pointer into the shared package.
A message whose two strings are found inside its own block comes out the same whatever
stands around it; any other takes over bytes of a neighbour, or leaves the package.
-/

namespace SocketMessage.Wire

open SocketMessage.Lib

namespace DataMsgList

/-! ## The passes of the loop -/

/-- How many passes `UnSerialize` makes: the count, read as one `char`. -/
def passes (data : List Byte) : Nat := (charAt data 8).toNat

/-- Where a pass starts: each one steps over the `DataSize` it has copied. -/
def passOffset (data : List Byte) : Nat → Int
  | 0 => listStart
  | pass + 1 => int32 (passOffset data pass + dataSizeAt data (passOffset data pass))

/-- The message a pass decodes, if it stays inside the package. -/
def passEntry (data : List Byte) (pass : Nat) : Option DataMsg :=
  DataMsg.decodeAt data (passOffset data pass)

/-- The loop from one of its passes on decodes the passes' messages. -/
theorem elementsLoop_getElem? {data : List Byte} {count first : Nat} {messages : List DataMsg}
    (looped : elementsLoop (fun offset => DataMsg.decodeAt data (0 + offset))
      (fun message => message.dataSize.toInt) count (passOffset data first) = some messages) :
    messages.length = count ∧
      ∀ pass < count, messages[pass]? = passEntry data (first + pass) := by
  induction count generalizing first messages with
  | zero =>
      obtain rfl := Option.some.inj looped
      exact ⟨rfl, fun pass before => absurd before (Nat.not_lt_zero pass)⟩
  | succ count inductionHypothesis =>
      obtain ⟨message, rest, decoded, loopedRest, rfl⟩ := elementsLoop_succ_eq_some.mp looped
      rw [Int.zero_add] at decoded
      have next : int32 (passOffset data first + message.dataSize.toInt) =
          passOffset data (first + 1) := by
        rw [passOffset, DataMsg.dataSize_decodeAt decoded]
      rw [next] at loopedRest
      obtain ⟨length, entries⟩ := inductionHypothesis loopedRest
      refine ⟨by rw [List.length_cons, length], fun pass before => ?_⟩
      cases pass with
      | zero => exact decoded.symm
      | succ pass =>
          have entry := entries pass (by omega)
          rwa [Nat.add_assoc, Nat.add_comm 1 pass] at entry

/-- `UnSerialize` returns what its passes decode. -/
theorem entries_unSerialize {data : List Byte} {received : DataMsgList}
    (decoded : fresh.unSerialize data 0 = some received) :
    received.msgVector.length = passes data ∧
      ∀ pass < passes data, received.msgVector[pass]? = passEntry data pass := by
  unfold unSerialize readList at decoded
  simp only [Option.bind_eq_bind, Option.bind_eq_some_iff, Option.pure_def, Option.some.injEq]
    at decoded
  obtain ⟨⟨head, messages⟩, ⟨image, -, count, counted, elements, looped, built⟩, rfl⟩ := decoded
  obtain ⟨rfl, rfl⟩ := Prod.mk.inj built
  have seen : count.toInt.toNat = passes data := congrArg Int.toNat (readByte_eq_some counted).2.2
  rw [seen] at looped
  obtain ⟨length, entries⟩ := @elementsLoop_getElem? data _ 0 _ looped
  simp only [fresh, List.nil_append]
  exact ⟨length, by simpa using entries⟩

/-- At every index. -/
theorem getElem?_unSerialize {data : List Byte} {received : DataMsgList}
    (decoded : fresh.unSerialize data 0 = some received) (index : Nat) :
    received.msgVector[index]? = if index < passes data then passEntry data index else none := by
  obtain ⟨length, entries⟩ := entries_unSerialize decoded
  split
  · next inside => exact entries index inside
  · next outside => exact List.getElem?_eq_none (by omega)

/-! ## Where the messages stand in a package -/

/-- What stands before a message in the package of its list. -/
def leading (self : DataMsgList) (index : Nat) : List Byte :=
  (DataHead.mk (BitVec.ofNat 32 (DataHead.size + 4 + (body self.msgVector).length))
      self.dataType).image.1 ++
    ((encodeInt (BitVec.ofNat 32 self.msgVector.length)).1 ++ body (self.msgVector.take index))

/-- What stands behind it. -/
def trailing (self : DataMsgList) (index : Nat) : List Byte :=
  body (self.msgVector.drop (index + 1))

@[simp] theorem length_leading (self : DataMsgList) (index : Nat) :
    (self.leading index).length = 12 + (body (self.msgVector.take index)).length := by
  have size : DataHead.size = 8 := rfl
  simp only [leading, List.length_append, SizedBytes.length]
  omega

/-- The package around one of its messages. -/
theorem packed_split {self : DataMsgList} {index : Nat} {message : DataMsg}
    (found : self.msgVector[index]? = some message) :
    self.packed = self.leading index ++ (message.sized.block ++ self.trailing index) := by
  obtain ⟨inside, here⟩ := List.getElem?_eq_some_iff.mp found
  have around : self.msgVector =
      self.msgVector.take index ++ message :: self.msgVector.drop (index + 1) := by
    rw [← here, List.getElem_cons_drop, List.take_append_drop]
  have content : body self.msgVector = body (self.msgVector.take index) ++
      (message.sized.block ++ body (self.msgVector.drop (index + 1))) := by
    conv_lhs => rw [around]
    simp [body]
  rw [packed, listImage, leading, trailing]
  conv_lhs => enter [2, 2]; rw [content]
  simp only [List.append_assoc]

/-- The count's `char`. -/
theorem passes_packed (self : DataMsgList) :
    passes self.packed = (signedCount self.msgVector.length).toNat := by
  have counted := @readByte_encodeInt (DataHead.mk (BitVec.ofNat 32
    (DataHead.size + 4 + (body self.msgVector).length)) self.dataType).image.1
    self.msgVector.length (body self.msgVector)
  rw [SizedBytes.length] at counted
  exact congrArg Int.toNat (readByte_eq_some counted).2.2.symm

/-- The `DataSize` at the start of a message's block. -/
theorem dataSizeAt_packed {self : DataMsgList} {index : Nat} {message : DataMsg}
    (found : self.msgVector[index]? = some message) (serializable : message.Serializable) :
    dataSizeAt self.packed (self.leading index).length = message.sized.block.length := by
  have size := readInt_head (self.leading index) message.sized.toDataHead
  rw [packed_split found, dataSizeAt, ← DataMsg.dataSize_sized_eq serializable]
  simp only [DataMsg.block, DataMsg.image, SizedBytes.append_val, List.append_assoc, size,
    Option.getD_some]

/-- Each pass starts where its message's block starts. -/
theorem passOffset_packed {self : DataMsgList} (serializable : self.Serializable) {index : Nat}
    (inside : index ≤ self.msgVector.length) :
    passOffset self.packed index = (self.leading index).length := by
  induction index with
  | zero => simp [passOffset, listStart, body]
  | succ index inductionHypothesis =>
      have found := List.getElem?_eq_getElem (Nat.lt_of_succ_le inside)
      generalize self.msgVector[index] = message at found
      have each := serializable.1 message (List.mem_of_getElem? found)
      have grows : (self.leading (index + 1)).length =
          (self.leading index).length + message.sized.block.length := by
        simp [body, List.take_add_one, found, Nat.add_assoc]
      have total : (self.leading (index + 1)).length + (self.trailing index).length =
          DataHead.size + 4 + (body self.msgVector).length := by
        have whole := congrArg List.length (packed_split found)
        rw [packed, length_listImage, List.length_append, List.length_append] at whole
        omega
      have small := serializable.2
      rw [passOffset, inductionHypothesis (Nat.le_of_succ_le inside),
        dataSizeAt_packed found each, grows, Int.natCast_add]
      apply int32_eq_self <;> omega

end DataMsgList

/-! ## One message between others -/

/-- An `int` stores what 32-bit arithmetic keeps. -/
theorem ofInt_int32 (value : Int) : BitVec.ofInt 32 (int32 value) = BitVec.ofInt 32 value := by
  apply BitVec.eq_of_toInt_eq
  rw [BitVec.toInt_ofInt, BitVec.toInt_ofInt, int32, Int.bmod_bmod]

namespace DataMsg

/-- Where `UnSerialize` looks for `Extend`, counted from the start of the message. -/
def extendPlace (self : DataMsg) : Int := 38 + signedCount (self.msg.length + 1)

/-- The reads that decode a message wherever its block stands. -/
theorem decodeAt_block (self : DataMsg) (before after : List Byte) :
    decodeAt (before ++ (self.block ++ after)) before.length =
      (readCString (before ++ (self.block ++ after)) (before.length + 33)).bind fun msg =>
        (readByte (before ++ (self.block ++ after)) (before.length + (self.extendPlace - 4))).bind
          fun _ => (readCString (before ++ (self.block ++ after))
            (before.length + self.extendPlace)).map fun extend => { self with msg, extend } := by
  have image : readBytes (before ++ (self.block ++ after)) before.length size1 =
      some self.image := by
    simp only [block, List.append_assoc]
    exact readBytes_append before self.image _
  have stored : BitVec.ofInt 32 self.msgSize = BitVec.ofNat 32 (self.msg.length + 1) := by
    rw [msgSize, ofInt_int32]
    exact BitVec.ofInt_natCast 32 (self.msg.length + 1)
  have msgSize : readByte (before ++ (self.block ++ after)) (before.length + (size1 : Nat)) =
      some (BitVec.ofNat 8 (self.msg.length + 1)) := by
    have read := @readByte_encodeInt (before ++ self.image.1) (self.msg.length + 1)
      ((self.msg ++ [0]).take self.msgSize.toNat ++
        ((encodeInt (BitVec.ofInt 32 self.extendSize)).1 ++
          ((self.extend ++ [0]).take self.extendSize.toNat ++ after)))
    rw [List.length_append, SizedBytes.length, Int.natCast_add] at read
    simpa only [block, stored, List.append_assoc] using read
  have bounds := signedCount_bounds (self.msg.length + 1)
  have extendSizeOffset : int32 (int32 (33 + signedCount (self.msg.length + 1)) + 1) =
      self.extendPlace - 4 := by
    have inner : int32 (33 + signedCount (self.msg.length + 1)) =
        33 + signedCount (self.msg.length + 1) := by
      apply int32_eq_self <;> omega
    rw [inner, int32_eq_self (by omega) (by omega), extendPlace]
    omega
  have extendOffset : int32 (self.extendPlace - 4 + 4) = self.extendPlace := by
    rw [Int.sub_add_cancel]
    unfold extendPlace
    apply int32_eq_self <;> omega
  have msgOffset : int32 (((size1 : Nat) : Int) + 4) = 33 := by decide
  have seen : (BitVec.ofNat 8 (self.msg.length + 1)).toInt =
      signedCount (self.msg.length + 1) := rfl
  simp only [decodeAt, unSerialize, image, msgSize, msgOffset, seen, extendSizeOffset,
    extendOffset, Option.bind_eq_bind, Option.bind_some, Option.pure_def, ofImage_image,
    Option.map_eq_bind, Function.comp_def]
  rfl

/-- A block starts with the announced size. -/
theorem block_dataSize (self : DataMsg) :
    ∃ rest, self.block = (encodeInt self.dataSize).1 ++ rest := by
  simp only [block, image, DataHead.image, SizedBytes.append_val, List.append_assoc]
  exact ⟨_, rfl⟩

/-- Both strings, sought where `UnSerialize` seeks them, end inside the message's own
block; the first message's `Extend` may also start in the list's `DataType` or count. -/
def Confined (self : DataMsg) (index : Nat) : Prop :=
  Terminated self.sized.block 33 ∧
    (Terminated self.sized.block self.extendPlace ∨
      index = 0 ∧ -8 ≤ self.extendPlace ∧ self.extendPlace < 0)

instance (self : DataMsg) (index : Nat) : Decidable (self.Confined index) :=
  inferInstanceAs (Decidable (_ ∧ _))

/-- The text taken for `Extend` of a confined message in a history of so many. -/
def confinedExtend (self : DataMsg) (count : Nat) : Option (List Byte) :=
  if 0 ≤ self.extendPlace then readCString self.sized.block self.extendPlace
  else readCString ((encodeInt EDataType.s2CDataMsgList.value).1 ++
    ((encodeInt (BitVec.ofNat 32 count)).1 ++ self.sized.block)) (8 + self.extendPlace)

/-- What a confined message is decoded as. -/
def confinedEntry (self : DataMsg) (count : Nat) : Option DataMsg :=
  (readCString self.sized.block 33).bind fun msg =>
    (self.confinedExtend count).map fun extend => { self.sized with msg, extend }

/-- Where two histories agree on type, count and a confined message, what stands before
`Extend` is the same. -/
theorem readCString_of_confined {self : DataMsg} {list : DataMsgList} {index : Nat}
    (isHistory : list.dataType = EDataType.s2CDataMsgList.value)
    (found : list.msgVector[index]? = some self) (confined : self.Confined index) :
    readCString list.packed ((list.leading index).length + self.extendPlace) =
      self.confinedExtend list.msgVector.length := by
  obtain ⟨msgEnds, extendEnds⟩ := confined
  rw [DataMsgList.packed_split found, confinedExtend]
  split
  · next start =>
    apply readCString_within
    rcases extendEnds with ends | ⟨-, -, negative⟩
    · exact ends
    · omega
  · next negative =>
    rcases extendEnds with ⟨start, -⟩ | ⟨rfl, lower, -⟩
    · omega
    -- Only the list's `DataSize` stands before the bytes that matter.
    · have window : list.leading 0 ++ (self.sized.block ++ list.trailing 0) =
          (encodeInt (BitVec.ofNat 32 (DataHead.size + 4 +
            (DataMsgList.body list.msgVector).length))).1 ++
          (((encodeInt EDataType.s2CDataMsgList.value).1 ++
            ((encodeInt (BitVec.ofNat 32 list.msgVector.length)).1 ++ self.sized.block)) ++
              list.trailing 0) := by
        simp [DataMsgList.leading, DataHead.image, DataMsgList.body, isHistory]
      have place : ((list.leading 0).length : Int) + self.extendPlace =
          ((encodeInt (BitVec.ofNat 32 (DataHead.size + 4 +
            (DataMsgList.body list.msgVector).length))).1.length : Int) +
              (8 + self.extendPlace) := by
        rw [DataMsgList.length_leading, SizedBytes.length, List.take_zero]
        simp only [DataMsgList.body, List.flatMap_nil, List.length_nil]
        omega
      rw [window, place]
      apply readCString_within
      refine ⟨by omega, ?_⟩
      obtain ⟨-, nul⟩ := msgEnds
      have inBlock : 0 ∈ self.sized.block := List.mem_of_mem_drop nul
      rw [← List.append_assoc, List.drop_append_of_le_length (by simp; omega)]
      exact List.mem_append_right _ inBlock

/-- A confined message is decoded the same in every history of one length. -/
theorem passEntry_of_confined {self : DataMsg} {list : DataMsgList} {index : Nat}
    (isHistory : list.dataType = EDataType.s2CDataMsgList.value)
    (found : list.msgVector[index]? = some self) (serializable : list.Serializable)
    (confined : self.Confined index) :
    DataMsgList.passEntry list.packed index = self.confinedEntry list.msgVector.length := by
  have inside := (List.getElem?_eq_some_iff.mp found).1
  have extend := readCString_of_confined isHistory found confined
  have copyable := (serializable.1 self (List.mem_of_getElem? found)).1
  have length := @length_block self.sized copyable
  have start := list.length_leading index
  obtain ⟨msgNonneg, extendNonneg⟩ := copyable
  have counted : 0 ≤ self.sized.msgSize ∧ 0 ≤ self.sized.extendSize := ⟨msgNonneg, extendNonneg⟩
  have extendSize : (readByte list.packed
      ((list.leading index).length + (self.extendPlace - 4))).isSome := by
    rw [readByte_isSome_iff, DataMsgList.packed_split found, List.length_append,
      List.length_append]
    obtain ⟨-, ⟨lower, nul⟩ | ⟨-, lower, upper⟩⟩ := confined
    · have before : self.extendPlace.toNat < self.sized.block.length := by
        by_contra beyond
        rw [List.drop_eq_nil_of_le (Nat.le_of_not_lt beyond)] at nul
        cases nul
      omega
    · omega
  obtain ⟨byte, extendSizeRead⟩ := Option.isSome_iff_exists.mp extendSize
  have msg := @readCString_within (list.leading index) self.sized.block (list.trailing index) 33
    confined.1
  have decoded := self.sized.decodeAt_block (list.leading index) (list.trailing index)
  rw [← DataMsgList.packed_split found] at msg decoded
  change _ = (readCString list.packed _).bind fun msg =>
    (readByte list.packed (_ + (self.extendPlace - 4))).bind fun _ =>
      (readCString list.packed (_ + self.extendPlace)).map _ at decoded
  rw [DataMsgList.passEntry, DataMsgList.passOffset_packed serializable (Nat.le_of_lt inside),
    decoded, msg, extendSizeRead, extend]
  rfl

/-- Both strings of a confined message are found. -/
theorem confinedEntry_isSome {self : DataMsg} {index : Nat} (count : Nat)
    (confined : self.Confined index) : (self.confinedEntry count).isSome := by
  obtain ⟨msgEnds, extendEnds⟩ := confined
  obtain ⟨msg, msgRead⟩ := Option.isSome_iff_exists.mp (readCString_isSome_iff.mpr msgEnds)
  have extend : (self.confinedExtend count).isSome := by
    unfold confinedExtend
    split
    · next start =>
      rcases extendEnds with ends | ⟨-, -, negative⟩
      · exact readCString_isSome_iff.mpr ends
      · omega
    · next negative =>
      rcases extendEnds with ⟨start, -⟩ | ⟨-, lower, -⟩
      · omega
      · refine readCString_isSome_iff.mpr ⟨by omega, ?_⟩
        rw [← List.append_assoc, List.drop_append_of_le_length (by simp; omega)]
        exact List.mem_append_right _ (List.mem_of_mem_drop msgEnds.2)
  obtain ⟨text, extendRead⟩ := Option.isSome_iff_exists.mp extend
  simp [confinedEntry, msgRead, extendRead]

end DataMsg

/-- Wherever the texts are sought, the ids that are decoded are those that were sent. -/
theorem DataMsgList.msgId_unSerialize {self sent received : DataMsgList} {data : List Byte}
    (few : self.msgVector.length ≤ 127) (serialized : self.serialize = some (data, sent))
    (decoded : fresh.unSerialize data 0 = some received) :
    received.msgVector.map DataMsg.msgId = self.msgVector.map DataMsg.msgId := by
  obtain ⟨serializable, rfl⟩ := packed_of_serialize serialized
  obtain ⟨length, entries⟩ := entries_unSerialize decoded
  rw [passes_packed, signedCount_of_le few, Int.toNat_natCast] at length entries
  apply List.ext_getElem (by simp [length])
  intro index inReceived inSent
  rw [List.length_map] at inReceived inSent
  have found := List.getElem?_eq_getElem inSent
  have entry := entries index inSent
  rw [passEntry, passOffset_packed serializable (Nat.le_of_lt inSent), packed_split found,
    DataMsg.decodeAt_block, List.getElem?_eq_getElem inReceived] at entry
  obtain ⟨msg, -, entry⟩ := Option.bind_eq_some_iff.mp entry.symm
  obtain ⟨_, -, entry⟩ := Option.bind_eq_some_iff.mp entry
  obtain ⟨extend, -, built⟩ := Option.map_eq_some_iff.mp entry
  rw [List.getElem_map, List.getElem_map, ← built]
  rfl

/-! ## Two histories that agree on one message -/

/-- Both strings are free of NULs. -/
def DataMsg.Plain (self : DataMsg) : Prop := 0 ∉ self.msg ∧ 0 ∉ self.extend

instance (self : DataMsg) : Decidable self.Plain := inferInstanceAs (Decidable (_ ∧ _))

/-- An `S2CDataMsgList` of so many plain messages with this one at the index. -/
structure History (count index : Nat) (message : DataMsg) (list : DataMsgList) : Prop where
  dataType : list.dataType = EDataType.s2CDataMsgList.value
  length : list.msgVector.length = count
  found : list.msgVector[index]? = some message
  plain : ∀ other ∈ list.msgVector, other.Plain

/-- Neither decoding has an element at the index, or both have one and the two are equal. -/
def SameEntry (left right : List Byte) (index : Nat) : Prop :=
  (DataMsgList.passes left ≤ index ∧ DataMsgList.passes right ≤ index) ∨
    (index < DataMsgList.passes left ∧ index < DataMsgList.passes right ∧
      ∃ entry, DataMsgList.passEntry left index = some entry ∧
        DataMsgList.passEntry right index = some entry)

/-- Then `UnSerialize`, where it returns, has returned the same element. -/
theorem getElem?_eq_of_sameEntry {left right : List Byte} {index : Nat}
    (same : SameEntry left right index) {leftReceived rightReceived : DataMsgList}
    (leftDecoded : DataMsgList.fresh.unSerialize left 0 = some leftReceived)
    (rightDecoded : DataMsgList.fresh.unSerialize right 0 = some rightReceived) :
    leftReceived.msgVector[index]? = rightReceived.msgVector[index]? := by
  rw [DataMsgList.getElem?_unSerialize leftDecoded, DataMsgList.getElem?_unSerialize rightDecoded]
  rcases same with ⟨leftBeyond, rightBeyond⟩ | ⟨leftInside, rightInside, entry, leftEntry, rightEntry⟩
  · rw [if_neg (Nat.not_lt_of_le leftBeyond), if_neg (Nat.not_lt_of_le rightBeyond)]
  · rw [if_pos leftInside, if_pos rightInside, leftEntry, rightEntry]

/-- The message is decoded the same from every two histories that hold it at the index: by
its own pass, and so by every `UnSerialize` that returns. -/
def Undisturbed (count index : Nat) (message : DataMsg) : Prop :=
  ∀ left right, History count index message left → History count index message right →
    ∀ leftBytes leftSent rightBytes rightSent, left.serialize = some (leftBytes, leftSent) →
      right.serialize = some (rightBytes, rightSent) →
      SameEntry leftBytes rightBytes index ∧ ∀ leftReceived rightReceived,
        DataMsgList.fresh.unSerialize leftBytes 0 = some leftReceived →
        DataMsgList.fresh.unSerialize rightBytes 0 = some rightReceived →
        leftReceived.msgVector[index]? = rightReceived.msgVector[index]?

/-- The decoder's count does not reach the message, or the message keeps to itself. -/
def Isolated (count index : Nat) (message : DataMsg) : Prop :=
  (signedCount count).toNat ≤ index ∨ (message.Serializable → message.Confined index)

/-- The block size leaves room for other messages of 514 bytes. -/
def Roomy (count : Nat) (message : DataMsg) : Prop :=
  DataHead.size + 4 + message.sized.block.length + 514 * count < 2 ^ 31

/-- An isolated message is undisturbed. -/
theorem undisturbed_of_isolated {count index : Nat} {message : DataMsg}
    (isolated : Isolated count index message) : Undisturbed count index message := by
  rintro left right leftHistory rightHistory leftBytes leftSent rightBytes rightSent
    leftSerialized rightSerialized
  obtain ⟨leftSerializable, rfl⟩ := DataMsgList.packed_of_serialize leftSerialized
  obtain ⟨rightSerializable, rfl⟩ := DataMsgList.packed_of_serialize rightSerialized
  suffices same : SameEntry left.packed right.packed index from
    ⟨same, fun _ _ => getElem?_eq_of_sameEntry same⟩
  rw [SameEntry, DataMsgList.passes_packed, DataMsgList.passes_packed, leftHistory.length,
    rightHistory.length]
  by_cases beyond : (signedCount count).toNat ≤ index
  · exact .inl ⟨beyond, beyond⟩
  · have confined := isolated.resolve_left beyond
      (leftSerializable.1 message (List.mem_of_getElem? leftHistory.found))
    have leftEntry := DataMsg.passEntry_of_confined leftHistory.dataType leftHistory.found
      leftSerializable confined
    have rightEntry := DataMsg.passEntry_of_confined rightHistory.dataType rightHistory.found
      rightSerializable confined
    rw [leftHistory.length] at leftEntry
    rw [rightHistory.length] at rightEntry
    obtain ⟨entry, found⟩ := Option.isSome_iff_exists.mp (message.confinedEntry_isSome count confined)
    exact .inr ⟨by omega, by omega, entry, leftEntry.trans found, rightEntry.trans found⟩

/-! ## Neighbours that show -/

/-- A message with nothing but an `Extend` of one repeated byte. -/
def noise (size : Nat) (byte : Byte) : DataMsg :=
  { DataMsg.zeroed with extend := List.replicate size byte }

/-- The block of such a message: its own size in front, its `Extend`, as far as it is
counted, at the end. -/
theorem noise_block {size kept : Nat} (byte : Byte) (counted : int32 (size + 1) = kept)
    (small : kept < 1000) :
    (noise size byte).Serializable ∧ (noise size byte).sized.block.length = 38 + kept ∧
      (∃ rest, (noise size byte).sized.block =
        (encodeInt (BitVec.ofNat 32 (38 + kept))).1 ++ rest) ∧
      ∃ front : List Byte, front.length = 38 ∧ (noise size byte).sized.block =
        front ++ (List.replicate size byte ++ [0]).take kept := by
  have noMsg : (noise size byte).msg = [] := rfl
  have msgSize : (noise size byte).msgSize = 1 := by
    rw [DataMsg.msgSize, noMsg]
    decide
  have extendSize : (noise size byte).extendSize = kept := by
    rw [DataMsg.extendSize, noise, List.length_replicate, counted]
  have serializable : (noise size byte).Serializable := by
    refine ⟨⟨?_, ?_⟩, ?_⟩
    · rw [← DataMsg.msgSize, msgSize]
      decide
    · rw [← DataMsg.extendSize, extendSize]
      omega
    · rw [msgSize, extendSize]
      omega
  have length : (noise size byte).sized.block.length = 38 + kept := by
    have total := @DataMsg.length_block (noise size byte).sized serializable.1
    change _ = 37 + (noise size byte).msgSize + (noise size byte).extendSize at total
    omega
  refine ⟨serializable, length, ?_, ?_⟩
  · have announced := DataMsg.dataSize_sized_eq serializable
    rw [length, ← toInt_ofNat_of_lt (by omega)] at announced
    rw [← BitVec.eq_of_toInt_eq announced]
    exact (noise size byte).sized.block_dataSize
  · refine ⟨(noise size byte).sized.image.1 ++ ((encodeInt (BitVec.ofInt 32 1)).1 ++ ([0] ++
      (encodeInt (BitVec.ofInt 32 kept)).1)), rfl, ?_⟩
    have sameMsgSize : (noise size byte).sized.msgSize = 1 := msgSize
    have sameSize : (noise size byte).sized.extendSize = kept := extendSize
    have sameMsg : (noise size byte).sized.msg = [] := rfl
    have sameExtend : (noise size byte).sized.extend = List.replicate size byte := rfl
    rw [DataMsg.block, sameMsgSize, sameSize, sameMsg, sameExtend, Int.toNat_natCast]
    simp only [List.append_assoc]
    rfl

/-- A message among copies of another one. -/
def among (count index : Nat) (message other : DataMsg) : DataMsgList :=
  { DataMsgList.fresh with
    msgVector := List.replicate index other ++ message :: List.replicate (count - index - 1) other }

/-- Such a list is a history. -/
theorem among_history {count index : Nat} {message other : DataMsg} (inside : index < count)
    (messagePlain : message.Plain) (otherPlain : other.Plain) :
    History count index message (among count index message other) where
  dataType := rfl
  length := by
    simp only [among, List.length_append, List.length_replicate, List.length_cons]
    omega
  found := by simp [among]
  plain := by
    intro message' member
    simp only [among, List.mem_append, List.mem_cons, List.mem_replicate] at member
    rcases member with ⟨-, rfl⟩ | rfl | ⟨-, rfl⟩ <;> assumption

theorem length_body_replicate (count : Nat) (message : DataMsg) :
    (DataMsgList.body (List.replicate count message)).length =
      count * message.sized.block.length := by
  simp [DataMsgList.body, List.length_flatMap]

/-- Where there is room, a list of messages and noise can be serialized. -/
theorem among_serializable {count index : Nat} {message other : DataMsg} (inside : index < count)
    (messageSerializable : message.Serializable) (otherSerializable : other.Serializable)
    (small : other.sized.block.length ≤ 514) (room : Roomy count message) :
    (among count index message other).Serializable := by
  constructor
  · intro message' member
    simp only [among, List.mem_append, List.mem_cons, List.mem_replicate] at member
    rcases member with ⟨-, rfl⟩ | rfl | ⟨-, rfl⟩ <;> assumption
  · have total : (DataMsgList.body (among count index message other).msgVector).length =
        index * other.sized.block.length + (message.sized.block.length +
          (count - index - 1) * other.sized.block.length) := by
      rw [← length_body_replicate, ← length_body_replicate, ← List.length_append,
        ← List.length_append]
      simp [DataMsgList.body, among]
    have others : index * other.sized.block.length +
        (count - index - 1) * other.sized.block.length ≤ 514 * count := by
      rw [← Nat.add_mul, Nat.mul_comm]
      exact Nat.mul_le_mul small (by omega)
    unfold Roomy at room
    omega

/-- A text that starts with the first or second byte of the messages behind shows the
`DataSize` they start with. -/
theorem head?_readCString_body {count : Nat} {other : DataMsg} {value : CInt} {byte : Byte}
    {rest text : List Byte} {offset : Nat} (start : other.sized.block = (encodeInt value).1 ++ rest)
    (repeated : (encodeInt value).1.take 2 = [byte, byte]) (visible : byte ≠ 0) (early : offset < 2)
    (read : readCString (DataMsgList.body (List.replicate count other)) offset = some text) :
    text.head? = some byte := by
  cases count with
  | zero => simp [DataMsgList.body, readCString] at read
  | succ count =>
      have front : DataMsgList.body (List.replicate (count + 1) other) =
          [byte, byte] ++ ((encodeInt value).1.drop 2 ++ (rest ++
            DataMsgList.body (List.replicate count other))) := by
        rw [← repeated, ← List.append_assoc, List.take_append_drop]
        simp [DataMsgList.body, List.replicate_succ, start]
      have found : readByte (DataMsgList.body (List.replicate (count + 1) other)) offset =
          some byte := by
        rw [front]
        obtain rfl | rfl : offset = 0 ∨ offset = 1 := by omega
        · rfl
        · rfl
      rw [head?_readCString read found, if_neg visible]

/-- The byte that stands a little before a message behind noise. -/
theorem readByte_before {count index size kept : Nat} {message : DataMsg} {byte : Byte}
    {place : Int} (counted : int32 (size + 1) = kept) (small : kept < 1000)
    (enough : 90 ≤ kept) (lower : -90 ≤ place) (negative : place < 0) :
    readByte (among count (index + 1) message (noise size byte)).packed
        (((among count (index + 1) message (noise size byte)).leading (index + 1)).length + place) =
      some (if kept + place < size then byte else 0) := by
  obtain ⟨-, length, -, front, frontLength, split⟩ := noise_block byte counted small
  have upper := @int32_le_self (size + 1) (by omega)
  generalize built : among count (index + 1) message (noise size byte) = list
  have vector : list.msgVector = List.replicate (index + 1) (noise size byte) ++
      message :: List.replicate (count - (index + 1) - 1) (noise size byte) := by
    rw [← built]
    rfl
  have found : list.msgVector[index]? = some (noise size byte) := by
    simp [vector, List.getElem?_append_left]
  have grows : (list.leading (index + 1)).length =
      (list.leading index).length + (noise size byte).sized.block.length := by
    simp [DataMsgList.body, List.take_add_one, found, Nat.add_assoc]
  have textLength : ((List.replicate size byte ++ [0]).take kept).length = kept := by
    rw [List.length_take, List.length_append, List.length_replicate, List.length_singleton]
    omega
  have within := @readByte_within front ((List.replicate size byte ++ [0]).take kept) []
    (kept + place) (by omega) (by omega)
  rw [List.append_nil, ← split, frontLength] at within
  rw [DataMsgList.packed_split found, grows, Int.natCast_add, Int.add_assoc,
    readByte_within (by omega) (by omega), length, Int.natCast_add, Int.add_assoc]
  change readByte _ (((38 : Nat) : Int) + (kept + place)) = _
  rw [within, readByte, if_pos (by omega), List.getElem?_take_of_lt (by omega)]
  split
  · rw [List.getElem?_append_left (by rw [List.length_replicate]; omega),
      List.getElem?_replicate_of_lt (by omega)]
  · have last : (kept + place).toNat = (List.replicate size byte).length := by
      rw [List.length_replicate]
      omega
    rw [last, List.getElem?_concat_length]

/-- The texts of a decoded message and the byte that must be readable between them. -/
theorem reads_of_passEntry {list : DataMsgList} {index : Nat} {message entry : DataMsg}
    (found : list.msgVector[index]? = some message) (serializable : list.Serializable)
    (decoded : DataMsgList.passEntry list.packed index = some entry) :
    readCString list.packed ((list.leading index).length + 33) = some entry.msg ∧
      (readByte list.packed ((list.leading index).length + (message.extendPlace - 4))).isSome ∧
      readCString list.packed ((list.leading index).length + message.extendPlace) =
        some entry.extend := by
  have inside := (List.getElem?_eq_some_iff.mp found).1
  have around := message.sized.decodeAt_block (list.leading index) (list.trailing index)
  rw [← DataMsgList.packed_split found] at around
  rw [DataMsgList.passEntry, DataMsgList.passOffset_packed serializable (Nat.le_of_lt inside),
    around] at decoded
  obtain ⟨msg, msgRead, rest⟩ := Option.bind_eq_some_iff.mp decoded
  obtain ⟨byte, byteRead, rest⟩ := Option.bind_eq_some_iff.mp rest
  obtain ⟨extend, extendRead, rfl⟩ := Option.map_eq_some_iff.mp rest
  exact ⟨msgRead, Option.isSome_iff_exists.mpr ⟨byte, byteRead⟩, extendRead⟩

/-- Noise is plain. -/
theorem noise_plain {byte : Byte} (visible : byte ≠ 0) (size : Nat) : (noise size byte).Plain := by
  constructor
  · simp [noise, DataMsg.zeroed]
  · intro member
    exact visible (List.eq_of_mem_replicate member).symm

/-- What a message undisturbed by noise is decoded as. -/
theorem entry_of_undisturbed {count index : Nat} {message leftNoise rightNoise : DataMsg}
    (inside : index < count) (plain : message.Plain) (seen : index < (signedCount count).toNat)
    (leftPlain : leftNoise.Plain) (rightPlain : rightNoise.Plain)
    (leftSerializable : (among count index message leftNoise).Serializable)
    (rightSerializable : (among count index message rightNoise).Serializable)
    (undisturbed : Undisturbed count index message) :
    ∃ entry, DataMsgList.passEntry (among count index message leftNoise).packed index = some entry ∧
      DataMsgList.passEntry (among count index message rightNoise).packed index = some entry := by
  have leftHistory := among_history inside plain leftPlain
  have rightHistory := among_history inside plain rightPlain
  obtain ⟨leftSent, leftSerialized⟩ := DataMsgList.serialize_of_serializable leftSerializable
  obtain ⟨rightSent, rightSerialized⟩ := DataMsgList.serialize_of_serializable rightSerializable
  obtain ⟨same, -⟩ :=
    undisturbed _ _ leftHistory rightHistory _ _ _ _ leftSerialized rightSerialized
  rcases same with ⟨beyond, -⟩ | ⟨-, -, entry⟩
  · rw [DataMsgList.passes_packed, leftHistory.length] at beyond
    omega
  · exact entry

/-- A text that leaves the message's block shows which noise stands behind. -/
theorem text_shows_noise {count index : Nat} {message other : DataMsg} {value : CInt} {byte : Byte}
    {rest text : List Byte} {offset : Int}
    (start : other.sized.block = (encodeInt value).1 ++ rest)
    (repeated : (encodeInt value).1.take 2 = [byte, byte]) (visible : byte ≠ 0)
    (lower : 0 ≤ offset) (upper : offset ≤ message.sized.block.length + 1)
    (unterminated : 0 ∉ message.sized.block.drop offset.toNat)
    (read : readCString (among count index message other).packed
      (((among count index message other).leading index).length + offset) = some text) :
    (text.drop (message.sized.block.drop offset.toNat).length).head? = some byte := by
  have found : (among count index message other).msgVector[index]? = some message := by
    simp [among]
  have behind : (among count index message other).trailing index =
      DataMsgList.body (List.replicate (count - index - 1) other) := by
    have tail : (among count index message other).msgVector.drop (index + 1) =
        List.replicate (count - index - 1) other := by
      simp [among, List.drop_append]
    rw [DataMsgList.trailing, tail]
  rw [DataMsgList.packed_split found, behind] at read
  by_cases within : offset ≤ message.sized.block.length
  · rw [readCString_beyond lower within unterminated] at read
    obtain ⟨shown, shownRead, rfl⟩ := Option.map_eq_some_iff.mp read
    rw [List.drop_left]
    exact @head?_readCString_body _ _ _ _ _ _ 0 start repeated visible (by decide) shownRead
  · have past : ((among count index message other).leading index).length + offset =
        (((among count index message other).leading index ++ message.sized.block).length : Int) +
          (1 : Nat) := by
      rw [List.length_append]
      omega
    rw [← List.append_assoc, past, readCString_behind (by omega)] at read
    have gone : message.sized.block.drop offset.toNat = [] := List.drop_eq_nil_of_le (by omega)
    rw [gone, List.length_nil, List.drop_zero]
    exact head?_readCString_body start repeated visible (by decide) read

/-- `Extend` is sought at most one byte behind the block. -/
theorem extendPlace_le {message : DataMsg} (serializable : message.Serializable) :
    33 ≤ message.sized.block.length ∧
      message.extendPlace ≤ message.sized.block.length + 1 := by
  have length := @DataMsg.length_block message.sized serializable.1
  obtain ⟨msgNonneg, extendNonneg⟩ := serializable.1
  change _ = 37 + int32 (message.msg.length + 1) + int32 (message.extend.length + 1) at length
  have counted : ((message.msg.length + 1) % 256 : Int) ≤ int32 (message.msg.length + 1) := by
    unfold int32 at *
    rw [Int.bmod_def] at *
    split <;> omega
  have seen := signedCount_eq (message.msg.length + 1)
  unfold DataMsg.extendPlace
  refine ⟨by omega, ?_⟩
  split at seen <;> omega

/-- In a roomy history, a message that no neighbour disturbs keeps to itself. -/
theorem confined_of_undisturbed {count index : Nat} {message : DataMsg} (inside : index < count)
    (plain : message.Plain) (room : Roomy count message) (serializable : message.Serializable)
    (seen : index < (signedCount count).toNat) (undisturbed : Undisturbed count index message) :
    message.Confined index := by
  have bounds := signedCount_bounds (message.msg.length + 1)
  have placeBounds : -90 ≤ message.extendPlace := by
    unfold DataMsg.extendPlace
    omega
  obtain ⟨size, leftCounted, reach⟩ : ∃ size : Nat, int32 (size + 1) = (219 : Nat) ∧
      (message.extendPlace < 0 → ((219 : Nat) : Int) + message.extendPlace < size) := by
    by_cases last : message.extendPlace = -1
    · -- The byte in front is a NUL unless the neighbour's `Extend` is cut.
      refine ⟨2 ^ 32 + 218, ?_, fun _ => by omega⟩
      rw [int32_eq_sub] <;> omega
    · exact ⟨218, int32_eq_self (by omega) (by omega), fun _ => by omega⟩
  have rightCounted : int32 ((475 : Nat) + 1) = (476 : Nat) := int32_eq_self (by omega) (by omega)
  obtain ⟨leftNoise, leftLength, ⟨leftRest, leftStart⟩, -⟩ :=
    noise_block 97 leftCounted (by omega)
  obtain ⟨rightNoise, rightLength, ⟨rightRest, rightStart⟩, -⟩ :=
    noise_block 98 rightCounted (by omega)
  have leftSerializable := among_serializable inside serializable leftNoise (by omega) room
  have rightSerializable := among_serializable inside serializable rightNoise (by omega) room
  obtain ⟨entry, leftEntry, rightEntry⟩ := entry_of_undisturbed inside plain seen
    (noise_plain (by decide) size) (noise_plain (by decide) 475) leftSerializable
    rightSerializable undisturbed
  obtain ⟨leftMsg, leftByte, leftExtend⟩ := reads_of_passEntry
    (among_history inside plain (noise_plain (by decide) size)).found leftSerializable leftEntry
  obtain ⟨rightMsg, -, rightExtend⟩ := reads_of_passEntry
    (among_history inside plain (noise_plain (by decide) 475)).found rightSerializable rightEntry
  -- A text read alike in both histories ends inside the message.
  have ends : ∀ (offset : Int) (text : List Byte), 0 ≤ offset →
      offset ≤ message.sized.block.length + 1 →
      readCString (among count index message (noise size 97)).packed
        (((among count index message (noise size 97)).leading index).length + offset) = some text →
      readCString (among count index message (noise 475 98)).packed
        (((among count index message (noise 475 98)).leading index).length + offset) = some text →
      0 ∈ message.sized.block.drop offset.toNat := by
    intro offset text lower upper leftRead rightRead
    by_contra unterminated
    have leftRepeated : (encodeInt (BitVec.ofNat 32 (38 + 219))).1.take 2 = [1, 1] := by decide
    have rightRepeated : (encodeInt (BitVec.ofNat 32 (38 + 476))).1.take 2 = [2, 2] := by decide
    have leftShown := text_shows_noise leftStart leftRepeated (by decide) lower upper unterminated
      leftRead
    have rightShown := text_shows_noise rightStart rightRepeated (by decide) lower upper
      unterminated rightRead
    rw [leftShown] at rightShown
    exact absurd rightShown (by decide)
  obtain ⟨holdsMsg, upper⟩ := extendPlace_le serializable
  refine ⟨⟨by decide, ends 33 _ (by decide) (by omega) leftMsg rightMsg⟩, ?_⟩
  by_cases start : 0 ≤ message.extendPlace
  · exact .inl ⟨start, ends _ _ start upper leftExtend rightExtend⟩
  · cases index with
    | zero =>
        have first := readByte_isSome_iff.mp leftByte
        rw [DataMsgList.length_leading, List.take_zero] at first
        simp only [DataMsgList.body, List.flatMap_nil, List.length_nil] at first
        exact .inr ⟨rfl, by omega, by omega⟩
    | succ index =>
        have leftShown := head?_readCString leftExtend (readByte_before leftCounted (by omega)
          (by omega) placeBounds (by omega))
        have rightShown := head?_readCString rightExtend (readByte_before rightCounted (by omega)
          (by omega) placeBounds (by omega))
        rw [if_pos (reach (by omega)), if_neg (by decide)] at leftShown
        rw [leftShown] at rightShown
        split at rightShown
        · split at rightShown <;> exact absurd rightShown (by decide)
        · exact absurd rightShown (by decide)

/-- For messages whose size an `int` can hold, a NUL ends the block: only where the search for
`Extend` starts matters. -/
theorem confined_iff_of_bounded {message : DataMsg} (bounded : message.encodedSize < 2 ^ 31)
    (index : Nat) : message.Confined index ↔ message.extendPlace < message.encodedSize ∧
      (0 ≤ message.extendPlace ∨ index = 0 ∧ -8 ≤ message.extendPlace) := by
  have same := (@DataMsg.block_eq_wire message.sized bounded).2
  have length : message.sized.block.length = message.encodedSize := by
    rw [same, DataMsg.length_wire, DataMsg.encodedSize_sized]
  have closed : message.sized.block = message.sized.lead ++ 0 ::
      ((encodeInt (BitVec.ofNat 32 (message.extend.length + 1))).1 ++ message.extend) ++ [0] := by
    rw [same]
    simp [DataMsg.wire, DataMsg.trail, DataMsg.sized]
  have ends : ∀ place : Int,
      Terminated message.sized.block place ↔ 0 ≤ place ∧ place < message.encodedSize := by
    intro place
    refine and_congr_right fun start => ?_
    rw [← length]
    constructor
    · intro nul
      by_contra beyond
      rw [List.drop_eq_nil_of_le (by omega)] at nul
      cases nul
    · intro inside
      have shorter : place.toNat ≤ (message.sized.lead ++ 0 ::
          ((encodeInt (BitVec.ofNat 32 (message.extend.length + 1))).1 ++
            message.extend)).length := by
        rw [closed, List.length_append, List.length_singleton] at inside
        omega
      rw [closed, List.drop_append_of_le_length shorter]
      exact List.mem_append_right _ (List.mem_singleton_self 0)
  have holdsMsg : (33 : Int) < message.encodedSize := by
    unfold DataMsg.encodedSize
    have size : DataMsg.size1 = 29 := rfl
    omega
  rw [DataMsg.Confined, ends, ends]
  omega

/-- A message is decoded the same whatever the other messages are as soon as it is isolated,
and, where there is room for other messages, only then. -/
theorem historyEntry_undisturbed_iff {count index : Nat} {message : DataMsg}
    (inside : index < count) (plain : message.Plain) :
    (Isolated count index message → Undisturbed count index message) ∧
      (Roomy count message → (Undisturbed count index message ↔ Isolated count index message)) := by
  refine ⟨undisturbed_of_isolated, fun room => ⟨fun undisturbed => ?_, undisturbed_of_isolated⟩⟩
  by_cases beyond : (signedCount count).toNat ≤ index
  · exact .inl beyond
  · exact .inr fun serializable =>
      confined_of_undisturbed inside plain room serializable (by omega) undisturbed

/-- A short text with an `Extend` keeps to itself. -/
theorem oneByteEach_undisturbed : Undisturbed 2 0 DataMsg.oneByteEach :=
  (historyEntry_undisturbed_iff (by decide) (by decide)).1
    (.inr fun _ => (confined_iff_of_bounded (by decide) 0).mpr (by decide))

/-- A text of one byte without an `Extend`. -/
def withoutExtend : DataMsg := { DataMsg.zeroed with msg := [97] }

/-- The history of this text and another message. -/
def followedBy (other : DataMsg) : DataMsgList :=
  { DataMsgList.fresh with msgVector := [withoutExtend, other] }

/-- What `UnSerialize` makes of a list's own bytes. -/
def DataMsgList.received (self : DataMsgList) : Option DataMsgList :=
  self.serialize.bind fun result => fresh.unSerialize result.1 0

/-- The empty `Extend` of the first text is decoded as the `DataSize` of the message behind it,
40 or 41. -/
theorem withoutExtend_disturbed :
    ¬ ∀ (count index : Nat) (message : DataMsg) (left right : DataMsgList),
      History count index message left → History count index message right →
      ∀ leftReceived rightReceived, left.received = some leftReceived →
        right.received = some rightReceived →
        leftReceived.msgVector[index]? = rightReceived.msgVector[index]? := by
  intro same
  have history : ∀ size, History 2 0 withoutExtend (followedBy (noise size 98)) := by
    intro size
    refine ⟨rfl, rfl, rfl, ?_⟩
    intro other member
    rcases List.mem_pair.mp member with rfl | rfl
    · decide
    · exact noise_plain (by decide) size
  have differ : ∀ leftReceived ∈ (followedBy (noise 1 98)).received,
      ∀ rightReceived ∈ (followedBy (noise 2 98)).received,
        leftReceived.msgVector[0]? ≠ rightReceived.msgVector[0]? := by decide +kernel
  have decoded : (followedBy (noise 1 98)).received.isSome ∧
      (followedBy (noise 2 98)).received.isSome := by decide +kernel
  obtain ⟨leftReceived, left⟩ := Option.isSome_iff_exists.mp decoded.1
  obtain ⟨rightReceived, right⟩ := Option.isSome_iff_exists.mp decoded.2
  exact differ leftReceived left rightReceived right
    (same 2 0 withoutExtend _ _ (history 1) (history 2) leftReceived rightReceived left right)

end SocketMessage.Wire
