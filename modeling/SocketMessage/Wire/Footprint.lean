import SocketMessage.Wire.DataType

/-!
# Which bytes `UnSerialize` needs

For each decoder the exact condition on a block and a start in it under which no
read leaves the block. Lengths and counts are the signed `char`s the decoders
take them from.
-/

namespace SocketMessage.Wire

open SocketMessage.Lib

/-! ## Structs copied whole -/

/-- With the `DataSize` its constructor sets, a struct needs all its bytes. -/
theorem defaultUnSerialize_fresh {size : Nat} (small : size < 2 ^ 32) (image : SizedBytes size)
    (data : List Byte) :
    defaultUnSerialize (BitVec.ofNat 32 size) image data = readBytes data 0 size := by
  have whole : (BitVec.ofNat 32 size).toNat = size := by
    rw [BitVec.toNat_ofNat, Nat.mod_eq_of_lt small]
  unfold defaultUnSerialize
  rw [whole]
  cases read : readBytes data 0 size with
  | none => rfl
  | some bytes => simp

/-- The memory a new request object starts from does not matter. -/
theorem C2SLogin.unSerialize_fresh (userId : CInt) (password : SizedBytes 32) (data : List Byte) :
    (C2SLogin.fresh userId password).unSerialize data =
      (readBytes data 0 fixedSize).map C2SLogin.ofImage := by
  rw [C2SLogin.unSerialize]
  exact congrArg _ (defaultUnSerialize_fresh (by decide) _ data)

theorem S2CLogin.unSerialize_fresh (userId : CInt) (userName : SizedBytes 32) (data : List Byte) :
    (S2CLogin.fresh userId userName).unSerialize data =
      (readBytes data 0 fixedSize).map S2CLogin.ofImage := by
  rw [S2CLogin.unSerialize]
  exact congrArg _ (defaultUnSerialize_fresh (by decide) _ data)

theorem C2SGetDataMsgList.unSerialize_fresh (lastMsgId userId : CInt) (data : List Byte) :
    (C2SGetDataMsgList.fresh lastMsgId userId).unSerialize data =
      (readBytes data 0 C2SGetDataMsgList.size).map C2SGetDataMsgList.ofImage := by
  rw [C2SGetDataMsgList.unSerialize]
  exact congrArg _ (defaultUnSerialize_fresh (by decide) _ data)

/-! ## Fields seen through the block -/

/-- The `char` at an offset, as the decoders see a length or a count. -/
def charAt (data : List Byte) (offset : Int) : Int :=
  (data.getD offset.toNat 0).toInt

/-- The `DataSize` of an element that starts at an offset. -/
def dataSizeAt (data : List Byte) (offset : Int) : Int :=
  ((readInt data offset).getD 0).toInt

theorem charAt_bounds (data : List Byte) (offset : Int) :
    -128 ≤ charAt data offset ∧ charAt data offset ≤ 127 := by
  have lower := BitVec.le_toInt (data.getD offset.toNat 0)
  have upper := @BitVec.toInt_lt _ (data.getD offset.toNat 0)
  unfold charAt
  omega

/-- A byte inside the block is the one `charAt` names. -/
theorem readByte_eq_some {data : List Byte} {offset : Int} {byte : Byte}
    (read : readByte data offset = some byte) :
    0 ≤ offset ∧ offset < data.length ∧ byte.toInt = charAt data offset := by
  have inside := readByte_isSome_iff.mp (by rw [read]; rfl)
  unfold readByte at read
  rw [if_pos inside.1] at read
  refine ⟨inside.1, inside.2, ?_⟩
  rw [charAt, List.getD_eq_getElem?_getD, read]
  rfl

/-- The leading part of a longer copy. -/
theorem readBytes_left {data : List Byte} {offset : Int} {first second : Nat}
    {bytes : SizedBytes (first + second)} (read : readBytes data offset (first + second) = some bytes) :
    readBytes data offset first = some bytes.left := by
  obtain ⟨start, inside, content⟩ := readBytes_eq_some read
  have within : 0 ≤ offset ∧ offset.toNat + first ≤ data.length := by omega
  rw [readBytes, dif_pos within]
  apply congrArg some
  apply Subtype.ext
  simp [SizedBytes.left, content, List.take_take]

/-- A decoded head carries the `DataSize` that stands at its start. -/
theorem ofImage_dataSize {data : List Byte} {offset : Int} {rest : Nat}
    {image : SizedBytes (DataHead.size + rest)}
    (read : readBytes data offset (DataHead.size + rest) = some image) :
    (DataHead.ofImage image.left).dataSize.toInt = dataSizeAt data offset := by
  have size : readBytes data offset 4 = some image.left.left :=
    readBytes_left (readBytes_left read)
  rw [dataSizeAt, readInt, size]
  rfl

/-! ## The decoders with variable size -/

/-- Both strings of a message are terminated, and both bytes taken for a length
stand, inside the block. The second ones are sought behind the first length. -/
def DataMsg.Fits (data : List Byte) (base : Int) : Prop :=
  let shift := charAt data (base + 29)
  0 ≤ base ∧ base + 29 < data.length ∧ Terminated data (base + 33) ∧
    (0 ≤ base + 34 + shift ∧ base + 34 + shift < data.length) ∧
    Terminated data (base + 38 + shift)

/-- The count byte and as many users as it says stand inside the block. -/
def S2CUserList.Fits (data : List Byte) (base : Int) : Prop :=
  let count := charAt data (base + 8)
  0 ≤ base ∧ base + 8 < data.length ∧ (count ≤ 0 ∨ base + 12 + 44 * count ≤ data.length)

/-- The fixed part and the member list stand inside the block. -/
def S2CGroup.Fits (data : List Byte) (base : Int) : Prop :=
  0 ≤ base ∧ base + 48 ≤ data.length ∧ S2CUserList.Fits data (base + 48)

/-- As many elements as the count byte says fit, each sought behind the `DataSize`
of the one before it. -/
def nestedFits (fits : List Byte → Int → Prop) (data : List Byte) (base : Int) : Prop :=
  0 ≤ base ∧ base + 8 < data.length ∧
    ElementsFit (fun offset => fits data (base + offset)) (fun offset => dataSizeAt data (base + offset))
      (charAt data (base + 8)).toNat listStart

/-- A message can be decoded exactly where it fits. -/
theorem DataMsg.unSerialize_isSome_iff (self : DataMsg) (data : List Byte) (base : Int) :
    (self.unSerialize data base).isSome ↔ DataMsg.Fits data base := by
  have bounds := charAt_bounds data (base + 29)
  have msgOffset : int32 (((size1 : Nat) : Int) + 4) = 33 := by decide
  have size : ((size1 : Nat) : Int) = 29 := rfl
  have extendSizeOffset : int32 (int32 (33 + charAt data (base + 29)) + 1) =
      34 + charAt data (base + 29) := by
    have inner : int32 (33 + charAt data (base + 29)) = 33 + charAt data (base + 29) := by
      apply int32_eq_self <;> omega
    rw [inner, int32_eq_self (by omega) (by omega)]
    omega
  have extendOffset : int32 (34 + charAt data (base + 29) + 4) =
      38 + charAt data (base + 29) := by
    rw [int32_eq_self (by omega) (by omega)]
    omega
  constructor
  · intro decodes
    obtain ⟨received, decoded⟩ := Option.isSome_iff_exists.mp decodes
    simp only [unSerialize, Option.bind_eq_bind, Option.bind_eq_some_iff] at decoded
    obtain ⟨image, imageRead, msgSize, sizeRead, msg, msgRead, extendSize, extendSizeRead,
      extend, extendRead, _⟩ := decoded
    obtain ⟨start, _, _⟩ := readBytes_eq_some imageRead
    obtain ⟨_, sizeInside, seen⟩ := readByte_eq_some sizeRead
    rw [size] at sizeInside seen
    rw [msgOffset] at msgRead
    rw [msgOffset, seen, extendSizeOffset] at extendSizeRead extendRead
    rw [extendOffset] at extendRead
    obtain ⟨extendStart, extendInside, _⟩ := readByte_eq_some extendSizeRead
    have msgTerminated := readCString_isSome_iff.mp (by rw [msgRead]; rfl)
    have extendTerminated := readCString_isSome_iff.mp (by rw [extendRead]; rfl)
    refine ⟨start, sizeInside, msgTerminated, ⟨?_, ?_⟩, ?_⟩
    · omega
    · omega
    · rwa [Int.add_assoc]
  · rintro ⟨start, sizeInside, msgTerminated, extendSizeInside, extendTerminated⟩
    rw [Int.add_assoc] at extendSizeInside extendTerminated
    obtain ⟨image, imageRead⟩ := Option.isSome_iff_exists.mp
      (@readBytes_isSome_iff data base size1 |>.mpr ⟨start, by omega⟩)
    obtain ⟨msgSize, sizeRead⟩ := Option.isSome_iff_exists.mp
      (@readByte_isSome_iff data (base + (size1 : Nat)) |>.mpr (by omega))
    have seen := (readByte_eq_some sizeRead).2.2
    rw [size] at seen
    obtain ⟨msg, msgRead⟩ := Option.isSome_iff_exists.mp (readCString_isSome_iff.mpr msgTerminated)
    obtain ⟨extendSize, extendSizeRead⟩ := Option.isSome_iff_exists.mp
      (readByte_isSome_iff.mpr extendSizeInside)
    obtain ⟨extend, extendRead⟩ := Option.isSome_iff_exists.mp
      (readCString_isSome_iff.mpr extendTerminated)
    simp only [unSerialize, imageRead, sizeRead, msgOffset, msgRead, seen, extendSizeOffset,
      extendSizeRead, extendOffset, extendRead, Option.bind_eq_bind, Option.bind_some,
      Option.pure_def, Option.isSome_some]

/-- Where a list's head, count and elements can be read. -/
theorem readList_isSome_iff {α : Type} {decode : List Byte → Int → Option α} {advance : α → Int}
    {data : List Byte} {base : Int} :
    (readList decode advance data base).isSome ↔ 0 ≤ base ∧ base + 8 < data.length ∧
      (elementsLoop (fun offset => decode data (base + offset)) advance
        (charAt data (base + 8)).toNat listStart).isSome := by
  have size : ((DataHead.size : Nat) : Int) = 8 := rfl
  constructor
  · intro decodes
    obtain ⟨received, decoded⟩ := Option.isSome_iff_exists.mp decodes
    simp only [readList, Option.bind_eq_bind, Option.bind_eq_some_iff] at decoded
    obtain ⟨head, headRead, count, countRead, elements, looped, _⟩ := decoded
    obtain ⟨start, _, _⟩ := readBytes_eq_some headRead
    obtain ⟨_, countInside, seen⟩ := readByte_eq_some countRead
    rw [size] at countInside seen
    rw [seen] at looped
    exact ⟨start, countInside, by rw [looped]; rfl⟩
  · rintro ⟨start, countInside, walks⟩
    obtain ⟨elements, looped⟩ := Option.isSome_iff_exists.mp walks
    obtain ⟨head, headRead⟩ := Option.isSome_iff_exists.mp
      (@readBytes_isSome_iff data base DataHead.size |>.mpr ⟨start, by omega⟩)
    obtain ⟨count, countRead⟩ := Option.isSome_iff_exists.mp
      (@readByte_isSome_iff data (base + (DataHead.size : Nat)) |>.mpr (by omega))
    have seen := (readByte_eq_some countRead).2.2
    rw [size] at seen
    rw [readList, headRead, countRead]
    simp [seen, looped]

/-- A user list can be decoded exactly where it fits. -/
theorem S2CUserList.unSerialize_isSome_iff (self : S2CUserList) (data : List Byte) (base : Int) :
    (self.unSerialize data base).isSome ↔ S2CUserList.Fits data base := by
  have bounds := charAt_bounds data (base + 8)
  have user : ∀ offset, (S2CUser.copyFrom data (base + offset)).isSome ↔
      0 ≤ base + offset ∧ base + offset + 44 ≤ data.length := by
    intro offset
    rw [S2CUser.copyFrom, Option.isSome_map, readBytes_isSome_iff]
    rfl
  have reads : (self.unSerialize data base).isSome ↔
      (readList S2CUser.copyFrom (fun _ => fixedSize) data base).isSome := by
    rw [unSerialize]
    cases readList S2CUser.copyFrom (fun _ => fixedSize) data base <;> simp
  rw [reads, readList_isSome_iff, Fits]
  refine and_congr_right fun start => and_congr_right fun _ => ?_
  have first : listStart = 12 := rfl
  have walk := @elementsLoop_isSome_iff _ _ (fun _ => ((fixedSize : Nat) : Int)) _
    (fun _ => 44) (charAt data (base + 8)).toNat listStart user fun _ _ _ => rfl
  rw [walk, @elementsFit_constant_iff _ 44 (data.length - base) _ _ (by decide) (by decide)
    (by omega) (by intro place after; omega)]
  omega

/-- A group can be decoded exactly where it fits. -/
theorem S2CGroup.unSerialize_isSome_iff (self : S2CGroup) (data : List Byte) (base : Int) :
    (self.unSerialize data base).isSome ↔ S2CGroup.Fits data base := by
  have size : ((size1 : Nat) : Int) = 48 := rfl
  have members := self.userList.unSerialize_isSome_iff data (base + 48)
  constructor
  · intro decodes
    obtain ⟨received, decoded⟩ := Option.isSome_iff_exists.mp decodes
    simp only [unSerialize, Option.bind_eq_bind, Option.bind_eq_some_iff] at decoded
    obtain ⟨image, imageRead, userList, membersRead, _⟩ := decoded
    obtain ⟨start, inside, _⟩ := readBytes_eq_some imageRead
    rw [size] at inside membersRead
    exact ⟨start, inside, members.mp (by rw [membersRead]; rfl)⟩
  · rintro ⟨start, inside, membersFit⟩
    obtain ⟨image, imageRead⟩ := Option.isSome_iff_exists.mp
      (@readBytes_isSome_iff data base size1 |>.mpr ⟨start, by omega⟩)
    obtain ⟨userList, membersRead⟩ := Option.isSome_iff_exists.mp (members.mpr membersFit)
    simp only [unSerialize, imageRead, size, membersRead, Option.bind_eq_bind, Option.bind_some,
      Option.pure_def, Option.isSome_some]

/-- The next group is sought behind the `DataSize` of this one. -/
theorem S2CGroup.dataSize_decodeAt {data : List Byte} {offset : Int} {group : S2CGroup}
    (decoded : S2CGroup.decodeAt data offset = some group) :
    group.dataSize.toInt = dataSizeAt data offset := by
  simp only [decodeAt, unSerialize, Option.bind_eq_bind, Option.bind_eq_some_iff,
    Option.pure_def, Option.some.injEq] at decoded
  obtain ⟨image, imageRead, userList, _, rfl⟩ := decoded
  exact ofImage_dataSize imageRead

/-- The next message is sought behind the `DataSize` of this one. -/
theorem DataMsg.dataSize_decodeAt {data : List Byte} {offset : Int} {message : DataMsg}
    (decoded : DataMsg.decodeAt data offset = some message) :
    message.dataSize.toInt = dataSizeAt data offset := by
  simp only [decodeAt, unSerialize, Option.bind_eq_bind, Option.bind_eq_some_iff,
    Option.pure_def, Option.some.injEq] at decoded
  obtain ⟨image, imageRead, _, _, _, _, _, _, _, _, rfl⟩ := decoded
  exact ofImage_dataSize imageRead

/-- A list of elements of their own sizes can be decoded exactly where it fits. -/
theorem readList_nested_isSome_iff {α : Type} {decode : List Byte → Int → Option α}
    {dataSize : α → Int} {fits : List Byte → Int → Prop} {data : List Byte} {base : Int}
    (decodable : ∀ offset, (decode data offset).isSome ↔ fits data offset)
    (hops : ∀ offset element, decode data offset = some element →
      dataSize element = dataSizeAt data offset) :
    (readList decode dataSize data base).isSome ↔ nestedFits fits data base := by
  rw [readList_isSome_iff, nestedFits]
  refine and_congr_right fun _ => and_congr_right fun _ => ?_
  exact elementsLoop_isSome_iff (fun offset => decodable (base + offset))
    (fun offset element => hops (base + offset) element)

/-- A group list can be decoded exactly where it fits. -/
theorem S2CGroupList.unSerialize_isSome_iff (self : S2CGroupList) (data : List Byte) (base : Int) :
    (self.unSerialize data base).isSome ↔ nestedFits S2CGroup.Fits data base := by
  have walk := @readList_nested_isSome_iff _ S2CGroup.decodeAt
    (fun group => group.dataSize.toInt) S2CGroup.Fits data base
    (fun offset => S2CGroup.unSerialize_isSome_iff _ data offset)
    (fun _ _ => S2CGroup.dataSize_decodeAt)
  rw [← walk, unSerialize]
  cases readList S2CGroup.decodeAt (fun group => group.dataSize.toInt) data base <;> simp

/-- A message list can be decoded exactly where it fits. -/
theorem DataMsgList.unSerialize_isSome_iff (self : DataMsgList) (data : List Byte) (base : Int) :
    (self.unSerialize data base).isSome ↔ nestedFits DataMsg.Fits data base := by
  have walk := @readList_nested_isSome_iff _ DataMsg.decodeAt
    (fun message => message.dataSize.toInt) DataMsg.Fits data base
    (fun offset => DataMsg.unSerialize_isSome_iff _ data offset)
    (fun _ _ => DataMsg.dataSize_decodeAt)
  rw [← walk, unSerialize]
  cases readList DataMsg.decodeAt (fun message => message.dataSize.toInt) data base <;> simp

end SocketMessage.Wire
