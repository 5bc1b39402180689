import SocketMessage.Client.Requests
import SocketMessage.Server.Replies
import SocketMessage.Wire.WireFormat

/-!
# What the packages show of the memory they were built in

Each reply to a login is built in objects whose constructors set the head only. A name
is copied with its NUL, and behind that its `char[32]` keeps what the memory held; the
whole field is sent. The memory of each object is a parameter here.
-/

namespace SocketMessage.Server

open SocketMessage.Lib SocketMessage.Wire SocketMessage.Client

/-! ## The replies, object by object -/

/-- The memory of an `S2CGroup`, of its name and of its members. -/
structure GroupMemory where
  groupName : SizedBytes 32
  members : Nat → SizedBytes 32

/-- `DBUser::Login` with the row its query has found. -/
def loginReply (memory : SizedBytes 32) : Option UserRow → Option (Bool × S2CLogin)
  | none => (copyName memory loginError).map fun userName => (false, .fresh (-1) userName)
  | some row => (copyName memory (row.userName.getD [])).map fun userName =>
      (true, .fresh row.userId userName)

/-- One pass of `Vector2UserList`. -/
def userItem (memory : SizedBytes 32) (row : UserRow) : Option S2CUser :=
  (copyName memory (row.userName.getD [])).map (S2CUser.fresh row.userId)

/-- `DBUser::Vector2UserList`. -/
def userListReply (memory : Nat → SizedBytes 32) (rows : List UserRow) : Option S2CUserList :=
  ((rows.mapIdx fun index row => userItem (memory index) row).mapM id).map fun userVector =>
    { S2CUserList.fresh with userVector }

/-- One pass of `GetUserAllGroup`, with the members its second query has found. -/
def groupItemReply (memory : GroupMemory) (answer : GroupRow × List UserRow) : Option S2CGroup := do
  let groupName ← copyName memory.groupName (answer.1.groupName.getD [])
  let adminId ← answer.1.adminId
  let userList ← userListReply memory.members answer.2
  return { S2CGroup.fresh answer.1.groupId groupName adminId with userList }

/-- `DBGroup::GetUserAllGroup`. -/
def groupListReply (memory : Nat → GroupMemory) (answers : List (GroupRow × List UserRow)) :
    Option S2CGroupList :=
  ((answers.mapIdx fun index answer => groupItemReply (memory index) answer).mapM id).map
    fun groupVector => { S2CGroupList.fresh with groupVector }

/-- Over the tables, with all objects in equal memory, these are the replies of the handlers. -/
theorem Tables.replies_eq (tables : Tables) (memory : SizedBytes 32) (condition : UserRow → Bool)
    (userId : CInt) :
    tables.login memory condition = loginReply memory (tables.user.find? condition) ∧
      tables.allUserList memory = userListReply (fun _ => memory) tables.user ∧
      tables.getUserAllGroup memory userId = groupListReply (fun _ => ⟨memory, fun _ => memory⟩)
        ((tables.groupsOf userId).map fun group => (group, tables.membersOf group.groupId)) := by
  have users : ∀ rows, userListReply (fun _ => memory) rows = vector2UserList memory rows := by
    intro rows
    rw [userListReply, mapIdx_mapM_id]
    rfl
  refine ⟨?_, (users _).symm, ?_⟩
  · unfold login loginReply
    cases tables.user.find? condition <;> rfl
  · have groups : (groupItemReply ⟨memory, fun _ => memory⟩ ∘ fun group : GroupRow =>
        (group, tables.membersOf group.groupId)) = tables.groupItem memory := by
      funext group
      rw [Function.comp_apply, groupItemReply, users]
      rfl
    rw [groupListReply, mapIdx_mapM_id, List.mapM_map, groups]
    rfl

/-! ## Names in their fields -/

/-- A `char[32]` after the copy of a name that fits. -/
def nameField (memory : SizedBytes 32) (name : Option (List Byte)) : SizedBytes 32 :=
  (copyName memory (name.getD [])).getD memory

theorem copyName_of_fits (memory : SizedBytes 32) {name : Option (List Byte)}
    (fits : NameFits name) : copyName memory (name.getD []) = some (nameField memory name) := by
  obtain ⟨field, copied⟩ := Option.isSome_iff_exists.mp (copyName_isSome_iff.mpr fits)
  rw [nameField, copied, Option.getD_some]

/-- The name fills its field, NUL and all. -/
def NameFills (name : Option (List Byte)) : Prop := (name.getD []).length = 31

/-- Only a name that fills its field leaves nothing of what it held. -/
theorem nameField_independent_iff {name : Option (List Byte)} (fits : NameFits name) :
    Independent (fun memory => nameField memory name) ↔ NameFills name := by
  have inside : (name.getD []).length + 1 ≤ 32 := Nat.succ_le_succ fits
  have written : ∀ memory, nameField memory name =
      memory.overwrite ⟨name.getD [] ++ [0], List.length_append⟩ inside := by
    intro memory
    rw [nameField, copyName, dif_pos inside, Option.getD_some]
  have field := independent_overwrite_iff (⟨name.getD [] ++ [0], List.length_append⟩ :
    SizedBytes ((name.getD []).length + 1)) inside
  simp only [written, field, NameFills]
  omega

/-! ## The reply to the login itself -/

/-- The bytes of the first reply. -/
def loginReplyPackage (memory : SizedBytes 32) (found : Option UserRow) : Option (List Byte) :=
  (loginReply memory found).bind fun reply => reply.2.serialize

/-- A login's reply is read back from its bytes. -/
theorem image_s2CLogin_injective : Function.Injective S2CLogin.image := by
  have readBack : Function.LeftInverse S2CLogin.ofImage S2CLogin.image := by
    intro login
    simp [S2CLogin.ofImage, S2CLogin.image, fixedImage]
  exact readBack.injective

/-- A reply built around one name is as independent as the name. -/
theorem loginReply_independent_iff {produce : SizedBytes 32 → Option (List Byte)} {userId : CInt}
    {name : Option (List Byte)} (fits : NameFits name)
    (package : ∀ memory, produce memory =
      some (S2CLogin.fresh userId (nameField memory name)).image.1) :
    Independent produce ↔ NameFills name := by
  have field := @independent_comp_iff _ _ _ (fun memory => nameField memory name)
    (fun field => some (S2CLogin.fresh userId field).image.1)
    fun _ _ same => congrArg S2CLogin.userName
      (image_s2CLogin_injective (Subtype.ext (Option.some.inj same)))
  have same : produce = fun memory => some (S2CLogin.fresh userId (nameField memory name)).image.1 :=
    funext package
  rw [same, field, nameField_independent_iff fits]

/-- The first reply shows its memory unless the login succeeds and the name fills its field;
the error text never does. -/
theorem loginReplyPackage_independent_iff {found : Option UserRow}
    (fits : ∀ row ∈ found, NameFits row.userName) :
    Independent (fun memory => loginReplyPackage memory found) ↔
      ∃ row, found = some row ∧ NameFills row.userName := by
  cases found with
  | none =>
      have error : NameFits (some loginError) := by
        unfold NameFits
        decide
      rw [loginReply_independent_iff error fun memory => by
        rw [loginReplyPackage, loginReply]
        exact (congrArg (fun field => (field.map fun userName =>
          (false, S2CLogin.fresh (-1) userName)).bind fun reply => reply.2.serialize)
          (copyName_of_fits memory error)).trans (S2CLogin.serialize_fresh _ _)]
      refine iff_of_false ?_ (by simp)
      unfold NameFills
      decide
  | some row =>
      have named := fits row rfl
      rw [loginReply_independent_iff named fun memory => by
        rw [loginReplyPackage, loginReply, copyName_of_fits memory named, Option.map_some,
          Option.bind_some, S2CLogin.serialize_fresh]]
      simp

/-! ## The list of all users -/

/-- The users of a list whose names fit. -/
def userVector (memory : Nat → SizedBytes 32) (rows : List UserRow) : List S2CUser :=
  rows.mapIdx fun index row => S2CUser.fresh row.userId (nameField (memory index) row.userName)

theorem userListReply_of_fits {memory : Nat → SizedBytes 32} {rows : List UserRow}
    (fits : ∀ row ∈ rows, NameFits row.userName) :
    userListReply memory rows =
      some { S2CUserList.fresh with userVector := userVector memory rows } := by
  have built := @mapIdx_mapM_of_some _ _ (fun index row => userItem (memory index) row)
    (fun index row => S2CUser.fresh row.userId (nameField (memory index) row.userName)) rows
    (by
      intro row member index
      rw [userItem, copyName_of_fits _ (fits row member)]
      rfl)
  rw [userListReply, built]
  rfl

/-- The users show their memory unless every name fills its field. -/
theorem userVector_independent_iff {rows : List UserRow} (fits : ∀ row ∈ rows, NameFits row.userName) :
    Independent (fun memory => userVector memory rows) ↔ ∀ row ∈ rows, NameFills row.userName := by
  unfold userVector
  rw [@independent_mapIdx_iff _ _ _
    (fun memory row => S2CUser.fresh row.userId (nameField memory row.userName)) rows]
  refine forall₂_congr fun row member => ?_
  rw [← nameField_independent_iff (fits row member)]
  exact @independent_comp_iff _ _ _ (fun memory => nameField memory row.userName)
    (S2CUser.fresh row.userId) fun _ _ same => congrArg S2CUser.userName same

/-- The bytes of the list of all users. -/
def userListPackage (memory : Nat → SizedBytes 32) (rows : List UserRow) : Option (List Byte) :=
  (userListReply memory rows).bind fun users => users.serialize.map Prod.fst

/-- The list of users shows its memory unless every name fills its field, or it is too large
to be sent. -/
theorem userListPackage_independent_iff {rows : List UserRow}
    (fits : ∀ row ∈ rows, NameFits row.userName) :
    Independent (fun memory => userListPackage memory rows) ↔
      2 ^ 31 ≤ 12 + 44 * rows.length ∨ ∀ row ∈ rows, NameFills row.userName := by
  have package : ∀ memory, userListPackage memory rows =
      ({ S2CUserList.fresh with userVector := userVector memory rows } : S2CUserList).serialize.map
        Prod.fst := by
    intro memory
    rw [userListPackage, userListReply_of_fits fits, Option.bind_some]
  have size : ∀ memory, ({ S2CUserList.fresh with userVector := userVector memory rows } :
      S2CUserList).encodedSize = 12 + 44 * rows.length := by
    intro memory
    simp [S2CUserList.encodedSize, userVector]
  simp only [package]
  by_cases bounded : 12 + 44 * rows.length < 2 ^ 31
  · have vector := @independent_comp_iff _ _ _ (fun memory => userVector memory rows)
      (fun userVector =>
        ({ S2CUserList.fresh with userVector } : S2CUserList).serialize.map Prod.fst)
      fun memory memory' same => congrArg S2CUserList.userVector
        (S2CUserList.determinedByBytes _ _ (by rw [size]; exact bounded)
          (by rw [size]; exact bounded) same)
    rw [vector, userVector_independent_iff fits, or_iff_right (Nat.not_le_of_lt bounded)]
  · refine iff_of_true (@independent_of_const _ _ _ none fun memory => ?_)
      (.inl (Nat.le_of_not_lt bounded))
    have large : 2 ^ 31 ≤ ({ S2CUserList.fresh with userVector := userVector memory rows } :
        S2CUserList).encodedSize := by
      rw [size]
      exact Nat.le_of_not_lt bounded
    rw [Option.map_eq_none_iff]
    exact (S2CUserList.encodes _).none_of_large large

/-! ## The list of the user's groups -/

/-- All names of a group's row and of its members' rows fit. -/
def GroupNamesFit (answer : GroupRow × List UserRow) : Prop :=
  NameFits answer.1.groupName ∧ ∀ row ∈ answer.2, NameFits row.userName

/-- All these names fill their fields. -/
def GroupNamesFill (answer : GroupRow × List UserRow) : Prop :=
  NameFills answer.1.groupName ∧ ∀ row ∈ answer.2, NameFills row.userName

/-- A group whose names fit and whose row has an administrator. -/
def groupOf (memory : GroupMemory) (answer : GroupRow × List UserRow) : S2CGroup :=
  { S2CGroup.fresh answer.1.groupId (nameField memory.groupName answer.1.groupName)
      (answer.1.adminId.getD 0) with
    userList := { S2CUserList.fresh with userVector := userVector memory.members answer.2 } }

theorem groupItemReply_of_fits {memory : GroupMemory} {answer : GroupRow × List UserRow}
    (fits : GroupNamesFit answer) :
    groupItemReply memory answer = answer.1.adminId.map fun _ => groupOf memory answer := by
  rw [groupItemReply, copyName_of_fits _ fits.1, userListReply_of_fits fits.2]
  cases admin : answer.1.adminId with
  | none => rfl
  | some adminId => simp [groupOf, admin]

/-- The two parts of a group that come from memory. -/
def groupTexts (group : S2CGroup) : SizedBytes 32 × List S2CUser :=
  (group.groupName, group.userList.userVector)

/-- The texts of a group show their memory unless every name in it fills its field. -/
theorem groupTexts_independent_iff {answer : GroupRow × List UserRow} (fits : GroupNamesFit answer) :
    Independent (fun memory => groupTexts (groupOf memory answer)) ↔ GroupNamesFill answer := by
  have name := @independent_part_iff _ _ _ GroupMemory.groupName
    (fun memory => nameField memory answer.1.groupName)
    fun content => ⟨⟨content, fun _ => content⟩, rfl⟩
  have members := @independent_part_iff _ _ _ GroupMemory.members
    (fun memory => userVector memory answer.2) fun content => ⟨⟨content 0, content⟩, rfl⟩
  rw [nameField_independent_iff fits.1] at name
  rw [userVector_independent_iff fits.2] at members
  rw [GroupNamesFill, ← name, ← members]
  exact independent_prod_iff

/-- A group is what its row and its texts make it. -/
theorem groupOf_independent {answer : GroupRow × List UserRow} (fits : GroupNamesFit answer)
    (fills : GroupNamesFill answer) : Independent fun memory => groupOf memory answer := by
  intro memory memory'
  have same := (groupTexts_independent_iff fits).mpr fills memory memory'
  obtain ⟨sameName, sameUsers⟩ := Prod.mk.inj same
  have sameField : nameField memory.groupName answer.1.groupName =
      nameField memory'.groupName answer.1.groupName := sameName
  have sameVector : userVector memory.members answer.2 = userVector memory'.members answer.2 :=
    sameUsers
  simp only [groupOf, sameField, sameVector]

/-- The group list of answers that all have an administrator. -/
def groupList (memory : Nat → GroupMemory) (answers : List (GroupRow × List UserRow)) :
    S2CGroupList :=
  { S2CGroupList.fresh with
    groupVector := answers.mapIdx fun index answer => groupOf (memory index) answer }

/-- The number of bytes of the group list. -/
def groupListSize (answers : List (GroupRow × List UserRow)) : Nat :=
  12 + (answers.map fun answer => 48 + (12 + 44 * answer.2.length)).sum

theorem encodedSize_groupList (memory : Nat → GroupMemory)
    (answers : List (GroupRow × List UserRow)) :
    (groupList memory answers).encodedSize = groupListSize answers := by
  have sizes : (groupList memory answers).groupVector.map S2CGroup.encodedSize =
      answers.map fun answer => 48 + (12 + 44 * answer.2.length) := by
    apply List.ext_getElem?
    intro index
    rw [groupList, List.getElem?_map, List.getElem?_mapIdx, List.getElem?_map]
    cases answers[index]? with
    | none => rfl
    | some answer => simp [S2CGroup.encodedSize, S2CUserList.encodedSize, groupOf, userVector]
  rw [S2CGroupList.encodedSize, sizes]
  rfl

theorem groupListReply_of_fits {memory : Nat → GroupMemory}
    {answers : List (GroupRow × List UserRow)} (fits : ∀ answer ∈ answers, GroupNamesFit answer) :
    groupListReply memory answers =
      if ∀ answer ∈ answers, answer.1.adminId.isSome then some (groupList memory answers)
      else none := by
  split
  · next admins =>
    have built := @mapIdx_mapM_of_some _ _ (fun index answer => groupItemReply (memory index) answer)
      (fun index answer => groupOf (memory index) answer) answers
      (by
        intro answer member index
        obtain ⟨adminId, admin⟩ := Option.isSome_iff_exists.mp (admins answer member)
        rw [groupItemReply_of_fits (fits answer member), admin]
        rfl)
    rw [groupListReply, built]
    rfl
  · next missing =>
    rw [groupListReply, Option.map_eq_none_iff, ← Option.not_isSome_iff_eq_none, mapM_isSome_iff]
    intro each
    refine missing fun answer member => ?_
    obtain ⟨index, inside, rfl⟩ := List.getElem_of_mem member
    have item := each (groupItemReply (memory index) answers[index]) (by
      rw [List.mem_mapIdx]
      exact ⟨index, inside, rfl⟩)
    rw [id_eq, groupItemReply_of_fits (fits _ member), Option.isSome_map] at item
    exact item

/-- The bytes of the group list. -/
def groupListPackage (memory : Nat → GroupMemory) (answers : List (GroupRow × List UserRow)) :
    Option (List Byte) :=
  (groupListReply memory answers).bind fun groups => groups.serialize.map Prod.fst

/-- The list of groups shows its memory unless every name in it fills its field, or it cannot
be built or is too large to be sent. -/
theorem groupListPackage_independent_iff {answers : List (GroupRow × List UserRow)}
    (fits : ∀ answer ∈ answers, GroupNamesFit answer) :
    Independent (fun memory => groupListPackage memory answers) ↔
      (∃ answer ∈ answers, answer.1.adminId = none) ∨ 2 ^ 31 ≤ groupListSize answers ∨
        ∀ answer ∈ answers, GroupNamesFill answer := by
  by_cases admins : ∀ answer ∈ answers, answer.1.adminId.isSome
  · have package : ∀ memory, groupListPackage memory answers =
        (groupList memory answers).serialize.map Prod.fst := by
      intro memory
      rw [groupListPackage, groupListReply_of_fits fits, if_pos admins, Option.bind_some]
    have present : ¬ ∃ answer ∈ answers, answer.1.adminId = none := by
      rintro ⟨answer, member, missing⟩
      have admin := admins answer member
      rw [missing] at admin
      cases admin
    rw [or_iff_right present]
    simp only [package]
    by_cases bounded : groupListSize answers < 2 ^ 31
    · rw [or_iff_right (Nat.not_le_of_lt bounded)]
      constructor
      · intro independent answer member
        rw [← groupTexts_independent_iff (fits answer member)]
        revert answer
        rw [← @independent_mapIdx_iff _ _ _ (fun memory answer => groupTexts (groupOf memory answer))]
        intro memory memory'
        -- Equal bytes come from equal groups, up to the sizes `Serialize` sets.
        have same := S2CGroupList.determinedByBytes _ _
          (by rw [encodedSize_groupList]; exact bounded)
          (by rw [encodedSize_groupList]; exact bounded) (independent memory memory')
        have sameTexts := congrArg (fun groups : S2CGroupList => groups.groupVector.map groupTexts)
          same
        have unsized : ∀ group : S2CGroup, groupTexts group.sized = groupTexts group := fun _ => rfl
        simpa only [S2CGroupList.sized, groupList, map_mapIdx, unsized] using sameTexts
      · intro fills
        have groups := (@independent_mapIdx_iff _ _ _ groupOf answers).mpr
          fun answer member => groupOf_independent (fits answer member) (fills answer member)
        exact groups.comp fun groupVector =>
          ({ S2CGroupList.fresh with groupVector } : S2CGroupList).serialize.map Prod.fst
    · refine iff_of_true (@independent_of_const _ _ _ none fun memory => ?_)
        (.inl (Nat.le_of_not_lt bounded))
      have large : 2 ^ 31 ≤ (groupList memory answers).encodedSize := by
        rw [encodedSize_groupList]
        exact Nat.le_of_not_lt bounded
      rw [Option.map_eq_none_iff]
      exact (S2CGroupList.encodes _).none_of_large large
  · refine iff_of_true (@independent_of_const _ _ _ none fun memory => ?_) (.inl ?_)
    · rw [groupListPackage, groupListReply_of_fits fits, if_neg admins]
      rfl
    · obtain ⟨answer, missing⟩ := not_forall.mp admins
      obtain ⟨member, missing⟩ := Classical.not_imp.mp missing
      exact ⟨answer, member, Option.not_isSome_iff_eq_none.mp missing⟩

/-! ## All packages -/

/-- What the packages are built from: the arguments of the client's two requests, and what
the queries of a login find. -/
structure PackageInputs where
  id : CInt
  userId : CInt
  password : List Byte
  state : SdkState
  now : CInt
  msgType : CInt
  recvUserId : CInt
  isGroup : Bool
  msg : List Byte
  ext : List Byte
  found : Option UserRow
  users : List UserRow
  groups : List (GroupRow × List UserRow)

namespace PackageInputs

variable (inputs : PackageInputs)

/-- Passwords and names are shorter than 32 bytes. -/
structure Short : Prop where
  password : inputs.password.length < 32
  found : ∀ row ∈ inputs.found, NameFits row.userName
  users : ∀ row ∈ inputs.users, NameFits row.userName
  groups : ∀ answer ∈ inputs.groups, GroupNamesFit answer

/-- No package shows what its memory held. -/
structure NoStaleMemory : Prop where
  sendLogin : Independent fun memory =>
    loginPackage memory inputs.id inputs.userId inputs.password
  sendDataMsg : Independent fun memory =>
    inputs.state.dataMsgPackage memory inputs.now inputs.id inputs.msgType inputs.recvUserId
      inputs.isGroup inputs.msg inputs.ext
  loginRet : Independent fun memory => loginReplyPackage memory inputs.found
  allUser : Independent fun memory => userListPackage memory inputs.users
  groupList : Independent fun memory => groupListPackage memory inputs.groups

/-- A package of fixed fields shows nothing of its memory exactly when it is not built or every
text in it fills its field; the package of a message always does. -/
theorem noStaleMemory_iff {inputs : PackageInputs} (short : inputs.Short) :
    (Independent (fun memory => loginPackage memory inputs.id inputs.userId inputs.password) ↔
        inputs.id = idInvalid ∨ inputs.password.length = 31) ∧
      (Independent (fun memory => inputs.state.dataMsgPackage memory inputs.now inputs.id
          inputs.msgType inputs.recvUserId inputs.isGroup inputs.msg inputs.ext) ↔
        inputs.id = idInvalid ∨ inputs.state.selfUserId = 0 ∨
          ¬ (texts inputs.msg inputs.ext).Serializable) ∧
      (Independent (fun memory => loginReplyPackage memory inputs.found) ↔
        ∃ row, inputs.found = some row ∧ NameFills row.userName) ∧
      (Independent (fun memory => userListPackage memory inputs.users) ↔
        2 ^ 31 ≤ 12 + 44 * inputs.users.length ∨ ∀ row ∈ inputs.users, NameFills row.userName) ∧
      (Independent (fun memory => groupListPackage memory inputs.groups) ↔
        (∃ answer ∈ inputs.groups, answer.1.adminId = none) ∨
          2 ^ 31 ≤ groupListSize inputs.groups ∨ ∀ answer ∈ inputs.groups, GroupNamesFill answer) :=
  ⟨loginPackage_independent_iff inputs.id inputs.userId short.password,
    inputs.state.dataMsgPackage_independent_iff inputs.now inputs.id inputs.msgType
      inputs.recvUserId inputs.isGroup inputs.msg inputs.ext,
    loginReplyPackage_independent_iff short.found, userListPackage_independent_iff short.users,
    groupListPackage_independent_iff short.groups⟩

/-- A user whose name is so many times the letter `a`. -/
def userNamed (length : Nat) : UserRow := ⟨100000, some (List.replicate length 97)⟩

/-- One connected user, alone in a group, whose password and names have so many bytes, says
nothing. -/
def alone (length : Nat) : PackageInputs where
  id := 5
  userId := 100000
  password := List.replicate length 48
  state := { SdkState.construct with selfUserId := 100000 }
  now := 0
  msgType := 1
  recvUserId := 100001
  isGroup := false
  msg := []
  ext := []
  found := some (userNamed length)
  users := [userNamed length]
  groups := [(⟨1000, some (List.replicate length 97), some 100000⟩, [userNamed length])]

theorem alone_short {length : Nat} (fits : length ≤ 31) : (alone length).Short := by
  have named : NameFits (userNamed length).userName := by
    simpa [NameFits, userNamed] using fits
  have text : NameFits (some (List.replicate length 97)) := by
    simpa [NameFits] using fits
  refine ⟨?_, ?_, ?_, ?_⟩
  · simp only [alone, List.length_replicate]
    omega
  · rintro row ⟨⟩
    exact named
  · intro row member
    rw [List.mem_singleton.mp member]
    exact named
  · intro answer member
    rw [List.mem_singleton.mp member]
    refine ⟨text, fun row inMembers => ?_⟩
    rw [List.mem_singleton.mp inMembers]
    exact named

/-- With names of 31 bytes all packages but the message's are clean. -/
theorem alone_filled :
    Independent (fun memory => loginPackage memory 5 100000 (List.replicate 31 48)) ∧
      ¬ Independent (fun memory => (alone 31).state.dataMsgPackage memory 0 5 1 100001 false [] []) ∧
      Independent (fun memory => loginReplyPackage memory (some (userNamed 31))) ∧
      Independent (fun memory => userListPackage memory [userNamed 31]) ∧
      Independent (fun memory => groupListPackage memory (alone 31).groups) := by
  obtain ⟨sendLogin, sendDataMsg, loginRet, allUser, groupList⟩ :=
    noStaleMemory_iff (alone_short (Nat.le_refl 31))
  refine ⟨sendLogin.mpr (.inr rfl), fun independent => ?_, loginRet.mpr ⟨_, rfl, rfl⟩,
    allUser.mpr (.inr ?_), groupList.mpr (.inr (.inr ?_))⟩
  · rcases sendDataMsg.mp independent with invalid | nobody | unserializable
    · exact absurd invalid (by decide)
    · exact absurd nobody (by decide)
    · exact unserializable (by decide)
  · intro row member
    rw [List.mem_singleton.mp member]
    rfl
  · intro answer member
    rw [List.mem_singleton.mp member]
    refine ⟨rfl, fun row inMembers => ?_⟩
    rw [List.mem_singleton.mp inMembers]
    rfl

/-- With names of six bytes every package shows what its memory held. -/
theorem alone_shown :
    (alone 6).Short ∧ ¬ (alone 6).NoStaleMemory ∧
      loginPackage (.zeros 32) 5 100000 (List.replicate 6 48) ≠
        loginPackage ⟨List.replicate 32 1, rfl⟩ 5 100000 (List.replicate 6 48) := by
  have differ : loginPackage (.zeros 32) 5 100000 (List.replicate 6 48) ≠
      loginPackage ⟨List.replicate 32 1, rfl⟩ 5 100000 (List.replicate 6 48) := by
    decide +kernel
  exact ⟨alone_short (by decide), fun clean => differ (clean.sendLogin _ _), differ⟩

end PackageInputs

end SocketMessage.Server
