import SocketMessage.Wire.Encoding

/-!
# Which values survive `Serialize` and `UnSerialize`

The decoders read a four-byte count or length as the one `char` at its first byte;
`signedCount` is what they see of it. Lists survive up to 127 elements. A chat
message survives only when the text found at the misplaced offset happens to be
its `Extend`.
-/

namespace SocketMessage.Wire

open SocketMessage.Lib

/-- The low byte of a count, read as a `char`. -/
def signedCount (count : Nat) : Int := (BitVec.ofNat 8 count).toInt

theorem signedCount_eq (count : Nat) :
    signedCount count = if count % 256 < 128 then (count % 256 : Int) else count % 256 - 256 := by
  rw [signedCount, BitVec.toInt_ofNat', Int.bmod_def]
  split <;> split <;> omega

/-- Counts up to 127 are seen as they are. -/
theorem signedCount_of_le {count : Nat} (small : count ≤ 127) : signedCount count = count := by
  rw [signedCount_eq]
  split <;> omega

/-- A larger count is seen at least 256 short. -/
theorem signedCount_of_gt {count : Nat} (large : 127 < count) :
    signedCount count + 256 ≤ count := by
  rw [signedCount_eq]
  split <;> omega

theorem signedCount_bounds (count : Nat) : -128 ≤ signedCount count ∧ signedCount count ≤ 127 := by
  rw [signedCount_eq]
  split <;> omega

/-- A count is never overestimated. -/
theorem signedCount_toNat_le (count : Nat) : (signedCount count).toNat ≤ count := by
  by_cases small : count ≤ 127
  · rw [signedCount_of_le small]
    omega
  · have short := signedCount_of_gt (Nat.lt_of_not_le small)
    omega

/-- A count is seen as it is exactly up to 127. -/
theorem signedCount_toNat_eq_iff (count : Nat) :
    (signedCount count).toNat = count ↔ count ≤ 127 := by
  constructor
  · intro same
    have bounds := signedCount_bounds count
    omega
  · intro small
    rw [signedCount_of_le small]
    simp

/-- The `char` at the first byte of a stored count. -/
theorem readByte_encodeInt (before : List Byte) (count : Nat) (after : List Byte) :
    readByte (before ++ ((encodeInt (BitVec.ofNat 32 count)).1 ++ after)) before.length =
      some (BitVec.ofNat 8 count) := by
  rw [← encodeInt_low_byte count]
  exact readByte_append before _ _

/-! ## Chat messages -/

namespace DataMsg

theorem size1_eq : size1 = 29 := rfl

/-- What `UnSerialize` does with an encoding wherever it stands: everything but
`Extend` is found again, and `Extend` is looked for `signedCount` of `Msg`'s length
away from where `Msg` starts. -/
theorem unSerialize_wire (self memory : DataMsg) (before after : List Byte)
    (noNul : 0 ∉ self.msg) :
    memory.fresh.unSerialize (before ++ (self.wire ++ after)) before.length =
      (readByte (before ++ (self.wire ++ after))
          (before.length + (34 + signedCount (self.msg.length + 1)))).bind fun _ =>
        (readCString (before ++ (self.wire ++ after))
          (before.length + (38 + signedCount (self.msg.length + 1)))).map fun extend =>
            { self with extend } := by
  have image : readBytes (before ++ (self.wire ++ after)) before.length size1 = some self.image := by
    simpa [wire, lead] using readBytes_append before self.image
      ((encodeInt (BitVec.ofNat 32 (self.msg.length + 1))).1 ++ self.msg ++ 0 :: self.trail ++ after)
  have msgSize : readByte (before ++ (self.wire ++ after)) (before.length + (size1 : Nat)) =
      some (BitVec.ofNat 8 (self.msg.length + 1)) := by
    have read := readByte_encodeInt (before ++ self.image.1) (self.msg.length + 1)
      (self.msg ++ 0 :: (self.trail ++ after))
    simpa [wire, lead] using read
  have msg : readCString (before ++ (self.wire ++ after)) (before.length + 33) =
      some self.msg := by
    have read := readCString_append
      (before ++ (self.image.1 ++ (encodeInt (BitVec.ofNat 32 (self.msg.length + 1))).1))
      self.msg (self.trail ++ after)
    rw [takeWhile_ne_zero noNul] at read
    simpa [wire, lead] using read
  have bounds := signedCount_bounds (self.msg.length + 1)
  have extendSizeOffset : int32 (int32 (33 + signedCount (self.msg.length + 1)) + 1) =
      34 + signedCount (self.msg.length + 1) := by
    have inner : int32 (33 + signedCount (self.msg.length + 1)) =
        33 + signedCount (self.msg.length + 1) := by
      apply int32_eq_self <;> omega
    rw [inner, int32_eq_self (by omega) (by omega)]
    omega
  have extendOffset : int32 (34 + signedCount (self.msg.length + 1) + 4) =
      38 + signedCount (self.msg.length + 1) := by
    rw [int32_eq_self (by omega) (by omega)]
    omega
  have msgOffset : int32 (((size1 : Nat) : Int) + 4) = 33 := by decide
  have seen : (BitVec.ofNat 8 (self.msg.length + 1)).toInt =
      signedCount (self.msg.length + 1) := rfl
  simp only [unSerialize, image, msgSize, msgOffset, msg, seen, extendSizeOffset, extendOffset,
    Option.bind_eq_bind, Option.bind_some, Option.pure_def, ofImage_image]
  cases readByte (before ++ (self.wire ++ after))
      (before.length + (34 + signedCount (self.msg.length + 1))) with
  | none => rfl
  | some extendSize => simp [fresh, Option.map_eq_bind]

@[simp] theorem sized_msg (self : DataMsg) : self.sized.msg = self.msg := rfl

/-- The bytes of a serialized message, decoded by a new object, stay inside the
package and give back every field. -/
def RoundTrips (self memory : DataMsg) : Prop :=
  ∃ bytes sent received, self.serialize = some (bytes, sent) ∧
    (bytes.length : Int) = sent.dataSize.toInt ∧
    memory.fresh.unSerialize bytes 0 = some received ∧
    received = { self with dataSize := sent.dataSize }

/-- `Msg` is so long that its length looks at least 256 too small, not so long that
the search starts before the package, and the text found there is `Extend`. -/
def ExtendFound (self : DataMsg) : Prop :=
  let shift := signedCount (self.msg.length + 1)
  127 ≤ self.msg.length ∧ -34 ≤ shift ∧
    (self.sized.lead.drop (38 + shift).toNat).takeWhile (· ≠ 0) = self.extend

instance (self : DataMsg) : Decidable self.ExtendFound :=
  inferInstanceAs (Decidable (_ ∧ _ ∧ _))

/-- Up to 126 bytes of `Msg` the decoder starts one byte into `Extend`. -/
theorem readCString_wire_of_short (self : DataMsg) (short : self.msg.length < 127)
    (noNul : 0 ∉ self.extend) :
    readCString self.wire (38 + signedCount (self.msg.length + 1)) ≠ some self.extend := by
  rw [signedCount_of_le (by omega)]
  intro found
  cases extension : self.extend with
  | nil =>
      -- The offset is the end of the package.
      have terminated := readCString_isSome_iff.mp (by rw [found]; rfl)
      have beyond : self.wire.length ≤ (38 + ((self.msg.length + 1 : Nat) : Int)).toNat := by
        rw [length_wire, encodedSize, extension, List.length_nil, size1_eq]
        omega
      rw [Terminated, List.drop_eq_nil_of_le beyond] at terminated
      simp at terminated
  | cons first rest =>
      rw [extension] at noNul found
      have split : self.wire = (self.lead ++
          0 :: (encodeInt (BitVec.ofNat 32 (self.extend.length + 1))).1 ++ [first]) ++
            (rest ++ 0 :: []) := by
        simp [wire, trail, extension]
      have start : 38 + ((self.msg.length + 1 : Nat) : Int) = (self.lead ++
          0 :: (encodeInt (BitVec.ofNat 32 (self.extend.length + 1))).1 ++ [first]).length := by
        simp
        omega
      have read := readCString_append (self.lead ++
        0 :: (encodeInt (BitVec.ofNat 32 (self.extend.length + 1))).1 ++ [first]) rest []
      rw [split, start, read, takeWhile_ne_zero fun member => noNul (List.mem_cons_of_mem _ member)]
        at found
      have sameLength := congrArg List.length (Option.some.inj found)
      simp at sameLength

/-- From 127 bytes of `Msg` on the decoder starts before the end of `Msg`. -/
theorem readCString_wire_of_long (self : DataMsg) (long : 127 ≤ self.msg.length)
    (inside : -34 ≤ signedCount (self.msg.length + 1)) :
    readCString self.wire (38 + signedCount (self.msg.length + 1)) =
      some ((self.lead.drop (38 + signedCount (self.msg.length + 1)).toNat).takeWhile
        (· ≠ 0)) := by
  have short := @signedCount_of_gt (self.msg.length + 1) (by omega)
  have within : (38 + signedCount (self.msg.length + 1)).toNat ≤ self.lead.length := by
    rw [length_lead]
    omega
  have split : self.wire = self.lead.take (38 + signedCount (self.msg.length + 1)).toNat ++
      (self.lead.drop (38 + signedCount (self.msg.length + 1)).toNat ++ 0 :: self.trail) := by
    rw [← List.append_assoc, List.take_append_drop, wire]
  have start : 38 + signedCount (self.msg.length + 1) =
      (self.lead.take (38 + signedCount (self.msg.length + 1)).toNat).length := by
    rw [List.length_take_of_le within]
    omega
  have read := readCString_append
    (self.lead.take (38 + signedCount (self.msg.length + 1)).toNat)
    (self.lead.drop (38 + signedCount (self.msg.length + 1)).toNat) self.trail
  rw [← split, ← start] at read
  exact read

/-- A round trip comes down to the two reads that look for `Extend`. -/
theorem roundTrips_iff_reads (self memory : DataMsg) (noNul : 0 ∉ self.msg)
    (bounded : self.encodedSize < 2 ^ 31) :
    self.RoundTrips memory ↔ -34 ≤ signedCount (self.msg.length + 1) ∧
      readCString self.sized.wire (38 + signedCount (self.msg.length + 1)) =
        some self.extend := by
  have decoded := self.sized.unSerialize_wire memory [] [] noNul
  simp only [List.nil_append, List.append_nil, List.length_nil, Int.natCast_zero, Int.zero_add]
    at decoded
  have counted := signedCount_toNat_le (self.msg.length + 1)
  have sizeByte : (readByte self.sized.wire
      (34 + signedCount (self.msg.length + 1))).isSome ↔
        -34 ≤ signedCount (self.msg.length + 1) := by
    rw [readByte_isSome_iff, length_wire, encodedSize_sized, encodedSize, size1_eq]
    omega
  rw [← sizeByte, RoundTrips, self.serialize_eq bounded]
  constructor
  · rintro ⟨bytes, sent, received, serialized, _, returned, rfl⟩
    obtain ⟨rfl, rfl⟩ := Prod.mk.inj (Option.some.inj serialized)
    rw [decoded] at returned
    obtain ⟨extendSize, sizeRead, returned⟩ := Option.bind_eq_some_iff.mp returned
    obtain ⟨extend, found, same⟩ := Option.map_eq_some_iff.mp returned
    have sameExtend : extend = self.extend := congrArg DataMsg.extend same
    exact ⟨by rw [← sized_msg, sizeRead]; rfl, by rw [← sized_msg, found, sameExtend]⟩
  · rintro ⟨sizeRead, found⟩
    obtain ⟨extendSize, sizeRead⟩ := Option.isSome_iff_exists.mp sizeRead
    refine ⟨_, _, _, rfl, ?_, ?_, rfl⟩
    · rw [length_wire, encodedSize_sized, dataSize_sized self bounded]
    · rw [decoded, sized_msg, sizeRead, Option.bind_some, found]
      rfl

/-- A message survives exactly when the misplaced offset happens upon `Extend`. -/
theorem roundTrips_iff_extendFound (self memory : DataMsg) (msgNoNul : 0 ∉ self.msg)
    (extendNoNul : 0 ∉ self.extend) (bounded : self.encodedSize < 2 ^ 31) :
    self.RoundTrips memory ↔ self.ExtendFound := by
  rw [self.roundTrips_iff_reads memory msgNoNul bounded, ExtendFound]
  by_cases short : self.msg.length < 127
  · have missed := self.sized.readCString_wire_of_short short extendNoNul
    constructor
    · rintro ⟨_, found⟩
      exact absurd found missed
    · rintro ⟨long, _⟩
      omega
  · have long : 127 ≤ self.msg.length := by omega
    constructor
    · rintro ⟨inside, found⟩
      have read := self.sized.readCString_wire_of_long long inside
      rw [sized_msg, found] at read
      exact ⟨long, inside, (Option.some.inj read).symm⟩
    · rintro ⟨_, inside, found⟩
      have read := self.sized.readCString_wire_of_long long inside
      rw [sized_msg, found] at read
      exact ⟨inside, read⟩

/-- 255 bytes of text whose last 250 are repeated in `Extend`. -/
def repeated : DataMsg :=
  { zeroed with msg := List.replicate 255 97, extend := List.replicate 250 97 }

theorem repeated_roundTrips : repeated.RoundTrips zeroed :=
  (repeated.roundTrips_iff_extendFound zeroed (by decide +kernel) (by decide +kernel)
    (by decide +kernel)).mpr (by decide +kernel)

/-- A text of one byte with an `Extend` of one byte. -/
def oneByteEach : DataMsg := { zeroed with msg := [97], extend := [98] }

/-- The short message loses its `Extend`. -/
theorem oneByteEach_not_roundTrips :
    (0 ∉ oneByteEach.msg ∧ 0 ∉ oneByteEach.extend ∧ oneByteEach.encodedSize < 2 ^ 31) ∧
      ¬ oneByteEach.RoundTrips zeroed := by
  have plain : 0 ∉ oneByteEach.msg ∧ 0 ∉ oneByteEach.extend ∧
      oneByteEach.encodedSize < 2 ^ 31 := by decide
  refine ⟨plain, fun survives => ?_⟩
  obtain ⟨_, found⟩ := (oneByteEach.roundTrips_iff_reads zeroed plain.1 plain.2.2).mp survives
  exact oneByteEach.sized.readCString_wire_of_short (by decide) plain.2.1 found

end DataMsg

/-! ## Lists -/

section ReadList

variable {α β : Type}

/-- What `readList` makes of an encoded list wherever it stands: the head, and as
many elements as the low byte of their count says. -/
theorem readList_listImage {decode : List Byte → Int → Option β} {image : α → List Byte}
    {view : α → β} {advance : β → Int} {head : DataHead} {elements : List α}
    (decodes : ∀ element ∈ elements, ∀ before after : List Byte,
      decode (before ++ (image element ++ after)) before.length = some (view element))
    (advances : ∀ element ∈ elements, advance (view element) = (image element).length)
    (bounded : DataHead.size + 4 + (elements.flatMap image).length < 2 ^ 31)
    (before after : List Byte) :
    readList decode advance
        (before ++ (listImage head elements.length (elements.flatMap image) ++ after))
        before.length =
      some (head, (elements.take (signedCount elements.length).toNat).map view) := by
  have headRead : readBytes
      (before ++ (listImage head elements.length (elements.flatMap image) ++ after))
      before.length DataHead.size = some head.image := by
    simpa [listImage] using readBytes_append before head.image
      ((encodeInt (BitVec.ofNat 32 elements.length)).1 ++ (elements.flatMap image ++ after))
  have countRead : readByte
      (before ++ (listImage head elements.length (elements.flatMap image) ++ after))
      (before.length + (DataHead.size : Nat)) = some (BitVec.ofNat 8 elements.length) := by
    simpa [listImage] using readByte_encodeInt (before ++ head.image.1) elements.length
      (elements.flatMap image ++ after)
  have looped := @elementsLoop_append α β decode image view advance before
    (head.image.1 ++ (encodeInt (BitVec.ofNat 32 elements.length)).1) after elements
    (signedCount elements.length).toNat decodes advances (signedCount_toNat_le _)
    (by simpa using bounded)
  have start : (((head.image.1 ++
      (encodeInt (BitVec.ofNat 32 elements.length)).1).length : Nat) : Int) = listStart := by
    simp [listStart]
  rw [start, List.append_assoc] at looped
  unfold readList
  rw [headRead, countRead]
  simp only [Option.bind_eq_bind, Option.bind_some, Option.pure_def, DataHead.ofImage_image]
  change (elementsLoop _ advance (signedCount elements.length).toNat listStart).bind _ = _
  rw [listImage, List.append_assoc, List.append_assoc, looped]
  rfl

end ReadList

namespace S2CUserList

/-- What the decoder sees of a list. -/
def seen (self : S2CUserList) : S2CUserList :=
  { self with userVector := self.userVector.take (signedCount self.userVector.length).toNat }

/-- `UnSerialize` of an encoding wherever it stands. -/
theorem unSerialize_wire (self : S2CUserList) (bounded : self.encodedSize < 2 ^ 31)
    (before after : List Byte) :
    fresh.unSerialize (before ++ (self.wire ++ after)) before.length = some self.seen := by
  have read := @readList_listImage _ _ S2CUser.copyFrom (fun user => user.image.1) id
    (fun _ => fixedSize) self.toDataHead self.userVector
    (fun user _ before after => by simp [S2CUser.copyFrom, readBytes_append])
    (fun user _ => by simp)
    (by rw [length_body]; exact bounded) before after
  rw [unSerialize, wire, read]
  simp [fresh, seen]

/-- The bytes of a serialized list, decoded by a new object, stay inside the package
and give back the same vector. -/
def RoundTrips (self : S2CUserList) : Prop :=
  ∃ bytes sent received, self.serialize = some (bytes, sent) ∧
    fresh.unSerialize bytes 0 = some received ∧ received.userVector = self.userVector

/-- Nothing is lost up to 127 elements. -/
theorem seen_userVector_eq_iff (self : S2CUserList) :
    self.seen.userVector = self.userVector ↔ self.userVector.length ≤ 127 := by
  rw [← signedCount_toNat_eq_iff, seen, List.take_eq_self_iff]
  have counted := signedCount_toNat_le self.userVector.length
  omega

theorem roundTrips_iff (self : S2CUserList) (bounded : self.encodedSize < 2 ^ 31) :
    self.RoundTrips ↔ self.userVector.length ≤ 127 := by
  have decoded := self.sized.unSerialize_wire bounded [] []
  simp only [List.nil_append, List.append_nil, List.length_nil, Int.natCast_zero] at decoded
  rw [← self.seen_userVector_eq_iff, RoundTrips, self.serialize_eq bounded]
  constructor
  · rintro ⟨bytes, sent, received, serialized, returned, same⟩
    obtain ⟨rfl, rfl⟩ := Prod.mk.inj (Option.some.inj serialized)
    rw [decoded] at returned
    obtain rfl := Option.some.inj returned
    exact same
  · intro same
    exact ⟨_, _, _, rfl, decoded, same⟩

end S2CUserList

namespace S2CGroup

/-- What the decoder sees of a group. -/
def seen (self : S2CGroup) : S2CGroup := { self with userList := self.userList.seen }

/-- `UnSerialize` of an encoding wherever it stands. -/
theorem decodeAt_wire (self : S2CGroup) (bounded : self.encodedSize < 2 ^ 31)
    (before after : List Byte) :
    decodeAt (before ++ (self.wire ++ after)) before.length = some self.seen := by
  have image : readBytes (before ++ (self.wire ++ after)) before.length size1 =
      some self.image := by
    simpa [wire] using readBytes_append before self.image (self.userList.wire ++ after)
  have members := self.userList.unSerialize_wire (by unfold encodedSize at bounded; omega)
    (before ++ self.image.1) after
  have place : (((before ++ self.image.1).length : Nat) : Int) =
      before.length + (size1 : Nat) := by
    simp
  rw [place, List.append_assoc, ← List.append_assoc self.image.1] at members
  simp only [decodeAt, unSerialize, image, Option.bind_eq_bind, Option.bind_some, Option.pure_def]
  change (S2CUserList.fresh.unSerialize (before ++ (self.image.1 ++ self.userList.wire ++ after))
    (before.length + (size1 : Nat))).bind _ = _
  rw [members]
  simp [seen]

/-- What a round trip has to preserve of a group. -/
def content (self : S2CGroup) : CInt × SizedBytes 32 × CInt × List S2CUser :=
  (self.groupId, self.groupName, self.adminId, self.userList.userVector)

end S2CGroup

namespace S2CGroupList

/-- What the decoder sees of a list. -/
def seen (self : S2CGroupList) : S2CGroupList :=
  { self with
    groupVector := (self.groupVector.take (signedCount self.groupVector.length).toNat).map
      S2CGroup.seen }

/-- `UnSerialize` of the encoding `Serialize` has made. -/
theorem unSerialize_wire (self : S2CGroupList) (bounded : self.encodedSize < 2 ^ 31) :
    fresh.unSerialize self.sized.wire 0 = some self.sized.seen := by
  have groupBounded : ∀ group ∈ self.groupVector, group.encodedSize < 2 ^ 31 := fun group member =>
    Nat.lt_of_le_of_lt (self.encodedSize_le member) bounded
  have read := @readList_listImage _ _ S2CGroup.decodeAt S2CGroup.wire S2CGroup.seen
    (fun group => group.dataSize.toInt) self.sized.toDataHead self.sized.groupVector
    (by
      intro group member before after
      obtain ⟨plain, plainMember, rfl⟩ := List.mem_map.mp member
      exact plain.sized.decodeAt_wire (groupBounded plain plainMember) before after)
    (by
      intro group member
      obtain ⟨plain, plainMember, rfl⟩ := List.mem_map.mp member
      rw [S2CGroup.length_wire, S2CGroup.encodedSize_sized]
      exact plain.dataSize_sized (groupBounded plain plainMember))
    (by simpa [sized, List.flatMap_map, List.length_flatMap, encodedSize] using bounded) [] []
  simp only [List.nil_append, List.append_nil, List.length_nil, Int.natCast_zero] at read
  rw [unSerialize, wire, read]
  simp [fresh, seen]

/-- The bytes of a serialized list, decoded by a new object, stay inside the package
and give back the same groups with the same members. -/
def RoundTrips (self : S2CGroupList) : Prop :=
  ∃ bytes sent received, self.serialize = some (bytes, sent) ∧
    fresh.unSerialize bytes 0 = some received ∧
    received.groupVector.map S2CGroup.content = self.groupVector.map S2CGroup.content

/-- Nothing is lost up to 127 groups of up to 127 members. -/
theorem seen_content_eq_iff (self : S2CGroupList) :
    self.sized.seen.groupVector.map S2CGroup.content =
        self.groupVector.map S2CGroup.content ↔
      self.groupVector.length ≤ 127 ∧
        ∀ group ∈ self.groupVector, group.userList.userVector.length ≤ 127 := by
  have counted := signedCount_toNat_le self.groupVector.length
  have sameContent : ∀ group : S2CGroup, group.sized.seen.content = group.content ↔
      group.userList.userVector.length ≤ 127 := by
    intro group
    rw [← S2CUserList.seen_userVector_eq_iff]
    simp [S2CGroup.content, S2CGroup.seen, S2CGroup.sized, S2CUserList.seen, S2CUserList.sized]
  constructor
  · intro same
    have sameLength := congrArg List.length same
    simp only [seen, sized, List.length_map, List.length_take] at sameLength
    have small : self.groupVector.length ≤ 127 :=
      (signedCount_toNat_eq_iff _).mp (by omega)
    refine ⟨small, fun group member => (sameContent group).mp ?_⟩
    simp only [seen, sized, List.length_map, signedCount_of_le small, Int.toNat_natCast,
      List.map_map, List.take_length, ← List.map_take] at same
    exact List.map_inj_left.mp same group member
  · rintro ⟨small, membersSmall⟩
    simp only [seen, sized, List.length_map, signedCount_of_le small, Int.toNat_natCast,
      List.map_map, List.take_length, ← List.map_take]
    exact List.map_congr_left fun group member => (sameContent group).mpr (membersSmall group member)

theorem roundTrips_iff (self : S2CGroupList) (bounded : self.encodedSize < 2 ^ 31) :
    self.RoundTrips ↔ self.groupVector.length ≤ 127 ∧
      ∀ group ∈ self.groupVector, group.userList.userVector.length ≤ 127 := by
  have decoded := self.unSerialize_wire bounded
  rw [← self.seen_content_eq_iff, RoundTrips, self.serialize_eq bounded]
  constructor
  · rintro ⟨bytes, sent, received, serialized, returned, same⟩
    obtain ⟨rfl, rfl⟩ := Prod.mk.inj (Option.some.inj serialized)
    rw [decoded] at returned
    obtain rfl := Option.some.inj returned
    exact same
  · intro same
    exact ⟨_, _, _, rfl, decoded, same⟩

end S2CGroupList

/-- Directories survive exactly when no vector in them is longer than 127. -/
theorem directories_roundTrip_iff (users : S2CUserList) (groups : S2CGroupList)
    (usersBounded : users.encodedSize < 2 ^ 31) (groupsBounded : groups.encodedSize < 2 ^ 31) :
    (users.RoundTrips ↔ users.userVector.length ≤ 127) ∧
      (groups.RoundTrips ↔ groups.groupVector.length ≤ 127 ∧
        ∀ group ∈ groups.groupVector, group.userList.userVector.length ≤ 127) :=
  ⟨users.roundTrips_iff usersBounded, groups.roundTrips_iff groupsBounded⟩

/-- `count` users of the same name. -/
def crowd (count : Nat) : S2CUserList :=
  { S2CUserList.fresh with
    userVector := List.replicate count (S2CUser.fresh 1 (.zeros 32)) }

/-- One group of 127 users. -/
def fullGroup : S2CGroupList :=
  { S2CGroupList.fresh with
    groupVector := [{ S2CGroup.fresh 1 (.zeros 32) 1 with userList := crowd 127 }] }

theorem fullGroup_roundTrips : (crowd 127).RoundTrips ∧ fullGroup.RoundTrips := by
  have directories := directories_roundTrip_iff (crowd 127) fullGroup
    (by simp [crowd, S2CUserList.encodedSize, DataHead.size, fixedSize])
    (by simp [fullGroup, crowd, S2CGroupList.encodedSize, S2CGroup.encodedSize,
      S2CUserList.encodedSize, S2CGroup.size1, DataHead.size, fixedSize])
  exact ⟨directories.1.mpr (by simp [crowd]), directories.2.mpr (by simp [fullGroup, crowd])⟩

/-- The 128th user makes the count negative and the decoded list empty. -/
theorem crowd_not_roundTrips :
    (crowd 128).encodedSize < 2 ^ 31 ∧ ¬ (crowd 128).RoundTrips := by
  have bounded : (crowd 128).encodedSize < 2 ^ 31 := by
    simp [crowd, S2CUserList.encodedSize, DataHead.size, fixedSize]
  refine ⟨bounded, fun survives => ?_⟩
  have few := ((crowd 128).roundTrips_iff bounded).mp survives
  simp [crowd] at few

end SocketMessage.Wire
