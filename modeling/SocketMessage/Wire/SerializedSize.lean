import SocketMessage.Wire.Encoding

/-!
# How much a finished `Serialize` has written

Whatever the size of the object, a `Serialize` that gets through has made room for
all of it: with sizes that overflow `int` it throws or writes outside its block.
-/

namespace SocketMessage.Wire

open SocketMessage.Lib

/-- A block whose `DataSize` is an `int` is smaller than 2^31 bytes. -/
theorem length_fillBlock_lt {dataSize : CInt} {copies : List Copy} {bytes : List Byte}
    (filled : fillBlock dataSize.toInt copies = some bytes) : bytes.length < 2 ^ 31 := by
  have size := (fillBlock_inside filled).1
  have upper := @BitVec.toInt_lt _ dataSize
  omega

/-- A list's block holds its head and all its elements. -/
theorem length_of_listCopies {α : Type} {head : DataHead} {image : α → List Byte}
    {advance : α → Int} {elements : List α} {dataSize : CInt} {bytes : List Byte}
    (sized : ∀ element ∈ elements, advance element = (image element).length)
    (filled : fillBlock dataSize.toInt (listCopies head image advance elements) = some bytes) :
    DataHead.size + 4 + (elements.flatMap image).length ≤ bytes.length := by
  have inside := (fillBlock_inside filled).2
  have count := (inside ⟨DataHead.size, (encodeInt (BitVec.ofNat 32 elements.length)).1⟩
    (by simp [listCopies])).2
  rw [SizedBytes.length] at count
  have body := @elementCopies_inside _ image advance elements listStart bytes.length
    (length_fillBlock_lt filled) (by decide) (by simp only [listStart]; omega) sized
    (fun copy member => inside copy (by simp [listCopies, member]))
  simp only [listStart] at body
  omega

/-- What `Serialize` may rely on for an element: `DataSize` is the number of bytes
produced, which hold the whole element. -/
structure SerializesWhole {α : Type} (encodedSize : α → Nat) (dataSize : α → CInt)
    (element : α) (result : List Byte × α) : Prop where
  sized : (dataSize result.2).toInt = result.1.length
  whole : encodedSize element ≤ result.1.length
  small : result.1.length < 2 ^ 31

theorem S2CUserList.serialize_whole {self : S2CUserList} {result : List Byte × S2CUserList}
    (serialized : self.serialize = some result) :
    SerializesWhole S2CUserList.encodedSize (fun users => users.dataSize) self result := by
  obtain ⟨bytes, filled, rfl⟩ := Option.map_eq_some_iff.mp serialized
  have holds := @length_of_listCopies _ _ _ _ self.userVector _ _ (by simp) filled
  refine ⟨(fillBlock_inside filled).1, ?_, length_fillBlock_lt filled⟩
  rwa [length_body] at holds

theorem S2CGroup.serialize_whole {self : S2CGroup} {result : List Byte × S2CGroup}
    (serialized : self.serialize = some result) :
    SerializesWhole S2CGroup.encodedSize (fun group => group.dataSize) self result := by
  unfold S2CGroup.serialize at serialized
  obtain ⟨⟨pUser, userList⟩, users, rest⟩ := Option.bind_eq_some_iff.mp serialized
  obtain ⟨bytes, filled, built⟩ := Option.bind_eq_some_iff.mp rest
  obtain rfl := Option.some.inj built
  have usersWhole := (S2CUserList.serialize_whole users).whole
  have second := ((fillBlock_inside filled).2 ⟨size1, pUser⟩ (by simp)).2
  refine ⟨(fillBlock_inside filled).1, ?_, length_fillBlock_lt filled⟩
  simp only [S2CGroup.encodedSize] at *
  omega

/-- A message of a size `int` can hold. -/
theorem DataMsg.serialize_whole {self : DataMsg} {result : List Byte × DataMsg}
    (bounded : self.encodedSize < 2 ^ 31) (serialized : self.serialize = some result) :
    SerializesWhole DataMsg.encodedSize (fun message => message.dataSize) self result := by
  rw [self.serialize_eq bounded] at serialized
  obtain rfl := Option.some.inj serialized
  refine ⟨?_, ?_, ?_⟩
  · simp [DataMsg.dataSize_sized self bounded]
  · simp
  · simpa using bounded

/-- Elements that are serialized whole add up. -/
theorem sum_encodedSize_le {α : Type} {encodedSize : α → Nat} {dataSize : α → CInt}
    {serialize : α → Option (List Byte × α)} {elements : List α} {results : List (List Byte × α)}
    (whole : ∀ element ∈ elements, ∀ result, serialize element = some result →
      SerializesWhole encodedSize dataSize element result)
    (serialized : elements.map serialize = results.map some) :
    (elements.map encodedSize).sum ≤ (results.flatMap Prod.fst).length ∧
      ∀ result ∈ results, (dataSize result.2).toInt = result.1.length := by
  induction elements generalizing results with
  | nil =>
      obtain rfl := List.map_eq_nil_iff.mp serialized.symm
      simp
  | cons element rest inductionHypothesis =>
      cases results with
      | nil => cases serialized
      | cons result others =>
          simp only [List.map_cons, List.cons.injEq] at serialized
          have first := whole element List.mem_cons_self result serialized.1
          obtain ⟨restSum, restSized⟩ := inductionHypothesis
            (fun other member => whole other (List.mem_cons_of_mem _ member)) serialized.2
          constructor
          · have firstWhole := first.whole
            simp only [List.map_cons, List.sum_cons, List.flatMap_cons, List.length_append]
            omega
          · rintro other (_ | ⟨_, later⟩)
            · exact first.sized
            · exact restSized other later

/-- A list of elements that are serialized whole is serialized whole. -/
theorem length_of_nestedBlock {α : Type} {encodedSize : α → Nat} {dataSize : α → CInt}
    {serialize : α → Option (List Byte × α)} {elements : List α} {results : List (List Byte × α)}
    {dataType : CInt} {block : List Byte × CInt}
    (whole : ∀ element ∈ elements, ∀ result, serialize element = some result →
      SerializesWhole encodedSize dataSize element result)
    (serialized : elements.mapM serialize = some results)
    (filled : nestedBlock dataType (results.map fun result => (result.1, dataSize result.2)) =
      some block) :
    block.2.toInt = block.1.length ∧
      DataHead.size + 4 + (elements.map encodedSize).sum ≤ block.1.length ∧
      block.1.length < 2 ^ 31 := by
  obtain ⟨bytes, allocated, built⟩ := Option.bind_eq_some_iff.mp filled
  obtain rfl := Option.some.inj built
  obtain ⟨sum, sized⟩ := sum_encodedSize_le whole (mapM_eq_some_iff.mp serialized)
  have holds := length_of_listCopies
    (by
      intro element member
      obtain ⟨result, inResults, rfl⟩ := List.mem_map.mp member
      exact sized result inResults) allocated
  refine ⟨(fillBlock_inside allocated).1, ?_, length_fillBlock_lt allocated⟩
  rw [List.flatMap_map] at holds
  exact Nat.le_trans (Nat.add_le_add_left sum _) holds

theorem S2CGroupList.serialize_whole {self : S2CGroupList} {result : List Byte × S2CGroupList}
    (serialized : self.serialize = some result) :
    SerializesWhole S2CGroupList.encodedSize (fun groups => groups.dataSize) self result := by
  obtain ⟨groups, serializedGroups, rest⟩ := Option.bind_eq_some_iff.mp serialized
  obtain ⟨block, filled, built⟩ := Option.bind_eq_some_iff.mp rest
  obtain rfl := Option.some.inj built
  obtain ⟨sized, whole, small⟩ := length_of_nestedBlock
    (fun _ _ _ serializedGroup => S2CGroup.serialize_whole serializedGroup) serializedGroups filled
  exact ⟨sized, whole, small⟩

theorem DataMsgList.serialize_whole {self : DataMsgList} {result : List Byte × DataMsgList}
    (bounded : ∀ message ∈ self.msgVector, message.encodedSize < 2 ^ 31)
    (serialized : self.serialize = some result) :
    SerializesWhole DataMsgList.encodedSize (fun messages => messages.dataSize) self result := by
  obtain ⟨messages, serializedMessages, rest⟩ := Option.bind_eq_some_iff.mp serialized
  obtain ⟨block, filled, built⟩ := Option.bind_eq_some_iff.mp rest
  obtain rfl := Option.some.inj built
  obtain ⟨sized, whole, small⟩ := length_of_nestedBlock
    (fun message member _ serializedMessage =>
      DataMsg.serialize_whole (bounded message member) serializedMessage) serializedMessages filled
  exact ⟨sized, whole, small⟩

/-- `Serialize` gets through for a value below 2^31 bytes, and produces no fewer bytes
than the value has for any other. -/
structure Encodes {α : Type} (serialize : α → Option (List Byte × α)) (encodedSize : α → Nat)
    (value : α) : Prop where
  total : encodedSize value < 2 ^ 31 →
    ∃ result, serialize value = some result ∧ result.1.length = encodedSize value
  whole : ∀ result, serialize value = some result →
    encodedSize value ≤ result.1.length ∧ result.1.length < 2 ^ 31

/-- What is not below 2^31 bytes cannot be produced. -/
theorem Encodes.none_of_large {α : Type} {serialize : α → Option (List Byte × α)}
    {encodedSize : α → Nat} {value : α} (encodes : Encodes serialize encodedSize value)
    (large : 2 ^ 31 ≤ encodedSize value) : serialize value = none := by
  rw [Option.eq_none_iff_forall_ne_some]
  intro result serialized
  obtain ⟨whole, small⟩ := encodes.whole result serialized
  omega

theorem S2CUserList.encodes (self : S2CUserList) :
    Encodes S2CUserList.serialize S2CUserList.encodedSize self where
  total bounded := ⟨_, self.serialize_eq bounded, self.sized.length_wire⟩
  whole _ serialized := ⟨(serialize_whole serialized).whole, (serialize_whole serialized).small⟩

theorem S2CGroupList.encodes (self : S2CGroupList) :
    Encodes S2CGroupList.serialize S2CGroupList.encodedSize self where
  total bounded := by
    refine ⟨_, self.serialize_eq bounded, ?_⟩
    simp [wire, sized, encodedSize, List.length_flatMap, Function.comp_def]
  whole _ serialized := ⟨(serialize_whole serialized).whole, (serialize_whole serialized).small⟩

theorem DataMsgList.encodes (self : DataMsgList)
    (bounded : ∀ message ∈ self.msgVector, message.encodedSize < 2 ^ 31) :
    Encodes DataMsgList.serialize DataMsgList.encodedSize self where
  total small := by
    refine ⟨_, self.serialize_eq small, ?_⟩
    simp [wire, sized, encodedSize, List.length_flatMap, Function.comp_def]
  whole _ serialized :=
    ⟨(serialize_whole bounded serialized).whole, (serialize_whole bounded serialized).small⟩

/-- A struct of one id and one text is packed whole when `DataSize` is what its
constructor has set. -/
theorem defaultSerialize_fresh (image : SizedBytes fixedSize) :
    defaultSerialize (BitVec.ofNat 32 fixedSize) image = some image.1 := by
  have size : (BitVec.ofNat 32 fixedSize).toInt = fixedSize := toInt_ofNat_of_lt (by decide)
  have whole := readBytes_append [] image []
  rw [List.append_nil, List.nil_append] at whole
  rw [defaultSerialize, size, if_pos (by decide)]
  exact congrArg (Option.map Subtype.val) whole

/-- A login's reply always has its 44 bytes. -/
theorem S2CLogin.serialize_fresh (userId : CInt) (userName : SizedBytes 32) :
    (S2CLogin.fresh userId userName).serialize = some (S2CLogin.fresh userId userName).image.1 :=
  defaultSerialize_fresh _

end SocketMessage.Wire
