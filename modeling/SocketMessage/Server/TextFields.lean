import SocketMessage.Server.StaleMemory
import SocketMessage.Wire.Footprint
import SocketMessage.Wire.RoundTrip

/-!
# Texts in fixed fields

A password travels from `SendLogin` to `DBUser::Login`, a name from the database to the
client, each in a `char[32]`. `VARCHAR(32)` admits 32 characters of up to three bytes. The
writers and the readers stay in the field, and the reader finds the text again, up to 31
bytes only.
-/

namespace SocketMessage.Server

open SocketMessage.Lib SocketMessage.Wire SocketMessage.Client

/-- What `VARCHAR(32)` in `utf8` admits: up to 32 characters of one to three bytes, no NUL. -/
def Admissible (text : List Byte) : Prop :=
  0 ∉ text ∧ ∃ characters : List (List Byte), characters.flatten = text ∧ characters.length ≤ 32 ∧
    ∀ character ∈ characters, 1 ≤ character.length ∧ character.length ≤ 3

/-- `std::string(field)`: the text up to the first NUL, which must stand in the field. -/
def readText (field : SizedBytes 32) : Option (List Byte) := readCString field.1 0

/-! ## The four ways -/

/-- From `SendLogin` to the password that `DBUser::Login` reads, received in any memory. -/
def passwordReceived (memory : SizedBytes 32) (received : C2SLogin) (id userId : CInt)
    (password : List Byte) : Option (List Byte) := do
  let login ← sendLogin memory id userId password
  let bytes ← login.serialize
  let request ← (C2SLogin.fresh received.userId received.password).unSerialize bytes
  readText request.password

/-- From the row that `DBUser::Login` has found to the name the client shows. -/
def loginNameReceived (memory : SizedBytes 32) (received : S2CLogin) (row : UserRow) :
    Option (List Byte) := do
  let (_, reply) ← loginReply memory (some row)
  let bytes ← reply.serialize
  let login ← (S2CLogin.fresh received.userId received.userName).unSerialize bytes
  readText login.userName

/-- From a row of `Vector2UserList` to the user decoded wherever it stands in a list. -/
def userNameReceived (memory : SizedBytes 32) (before after : List Byte) (row : UserRow) :
    Option (List Byte) := do
  let user ← userItem memory row
  let received ← S2CUser.copyFrom (before ++ (user.image.1 ++ after)) before.length
  readText received.userName

/-- From a row of `GetUserAllGroup` to the group decoded wherever it stands in a list. -/
def groupNameReceived (memory : GroupMemory) (before after : List Byte)
    (answer : GroupRow × List UserRow) : Option (List Byte) := do
  let group ← groupItemReply memory answer
  let (bytes, _) ← group.serialize
  let received ← S2CGroup.decodeAt (before ++ (bytes ++ after)) before.length
  readText received.groupName

/-! ## What is found in a field -/

/-- A field that starts with a text and its NUL holds that text. -/
theorem readText_of_terminated {field : SizedBytes 32} {text rest : List Byte} (plain : 0 ∉ text)
    (content : field.1 = text ++ 0 :: rest) : readText field = some text := by
  have found := readCString_append [] text rest
  rw [List.nil_append, takeWhile_ne_zero plain] at found
  rw [readText, content]
  exact found

/-- A field without a NUL holds no text. -/
theorem readText_of_full {field : SizedBytes 32} (full : 0 ∉ field.1) : readText field = none := by
  rw [← Option.not_isSome_iff_eq_none, readText, readCString_isSome_iff]
  rintro ⟨-, nul⟩
  exact full nul

/-- The password is found again exactly up to 31 bytes. -/
theorem readText_copyPassword_iff (memory : SizedBytes 32) {password : List Byte}
    (plain : 0 ∉ password) :
    readText (copyPassword memory password) = some password ↔ password.length ≤ 31 := by
  constructor
  · intro found
    by_contra long
    have full : passwordLength password = 32 := by
      unfold passwordLength
      split <;> omega
    have field : (copyPassword memory password).1 = password.take 32 := by
      have bytes : (passwordBytes password).1 = (password ++ [0]).take 32 := by
        simp only [passwordBytes, full]
      have rest : memory.1.drop (passwordLength password) = [] := by
        rw [full, List.drop_eq_nil_of_le (Nat.le_of_eq memory.2)]
      rw [copyPassword, SizedBytes.overwrite_val, bytes, rest, List.append_nil,
        List.take_append_of_le_length (by omega)]
    rw [readText_of_full fun nul => plain (List.mem_of_mem_take (field ▸ nul))] at found
    cases found
  · intro short
    have whole : (passwordBytes password).1 = password ++ [0] := by
      refine List.take_of_length_le ?_
      rw [List.length_append, List.length_singleton, passwordLength]
      split <;> omega
    apply readText_of_terminated plain
    rw [copyPassword, SizedBytes.overwrite_val, whole, List.append_assoc]
    rfl

/-- A name that fits is found again. -/
theorem readText_nameField (memory : SizedBytes 32) {name : Option (List Byte)}
    (plain : 0 ∉ name.getD []) (fits : NameFits name) :
    readText (nameField memory name) = some (name.getD []) := by
  have inside : (name.getD []).length + 1 ≤ 32 := Nat.succ_le_succ fits
  apply readText_of_terminated plain
  rw [nameField, copyName, dif_pos inside, Option.getD_some, SizedBytes.overwrite_val,
    List.append_assoc]
  rfl

/-! ## How far each way carries -/

/-- A struct that is sent whole is received whole. -/
theorem readBytes_image {size : Nat} (image : SizedBytes size) :
    readBytes image.1 0 size = some image := by
  simpa using readBytes_append [] image []

/-- The password gets to `DBUser::Login` exactly up to 31 bytes. -/
theorem passwordReceived_iff (memory : SizedBytes 32) (received : C2SLogin) {id : CInt}
    (userId : CInt) {password : List Byte} (valid : id ≠ idInvalid) (plain : 0 ∉ password) :
    passwordReceived memory received id userId password = some password ↔
      password.length ≤ 31 := by
  have arrives : passwordReceived memory received id userId password =
      readText (copyPassword memory password) := by
    simp only [passwordReceived, sendLogin, if_neg valid, Option.bind_eq_bind, Option.bind_some,
      serialize_c2SLogin, C2SLogin.unSerialize_fresh, readBytes_image, Option.map_some]
    simp [C2SLogin.ofImage, C2SLogin.image, fixedImage, C2SLogin.fresh]
  rw [arrives, readText_copyPassword_iff memory plain]

/-- A name too long for its field is not even copied. -/
theorem copyName_eq_none {memory : SizedBytes 32} {name : Option (List Byte)}
    (long : ¬ NameFits name) : copyName memory (name.getD []) = none := by
  rw [← Option.not_isSome_iff_eq_none, copyName_isSome_iff]
  exact long

/-- The name in the reply to a login is shown exactly up to 31 bytes. -/
theorem loginNameReceived_iff (memory : SizedBytes 32) (received : S2CLogin) {row : UserRow}
    (plain : 0 ∉ row.userName.getD []) :
    loginNameReceived memory received row = some (row.userName.getD []) ↔
      NameFits row.userName := by
  by_cases fits : NameFits row.userName
  · refine iff_of_true ?_ fits
    simp only [loginNameReceived, loginReply, copyName_of_fits memory fits, Option.map_some,
      Option.bind_eq_bind, Option.bind_some, S2CLogin.serialize_fresh, S2CLogin.unSerialize_fresh,
      readBytes_image]
    simpa [S2CLogin.ofImage, S2CLogin.image, fixedImage, S2CLogin.fresh] using
      readText_nameField memory plain fits
  · refine iff_of_false ?_ fits
    simp [loginNameReceived, loginReply, copyName_eq_none fits]

/-- The name of a listed user is shown exactly up to 31 bytes. -/
theorem userNameReceived_iff (memory : SizedBytes 32) (before after : List Byte) {row : UserRow}
    (plain : 0 ∉ row.userName.getD []) :
    userNameReceived memory before after row = some (row.userName.getD []) ↔
      NameFits row.userName := by
  by_cases fits : NameFits row.userName
  · refine iff_of_true ?_ fits
    simp only [userNameReceived, userItem, copyName_of_fits memory fits, Option.map_some,
      Option.bind_eq_bind, Option.bind_some, S2CUser.copyFrom, readBytes_append,
      S2CUser.ofImage_image]
    exact readText_nameField memory plain fits
  · refine iff_of_false ?_ fits
    simp [userNameReceived, userItem, copyName_eq_none fits]

/-- The name of a group is shown exactly up to 31 bytes, where the group itself can be sent. -/
theorem groupNameReceived_iff (memory : GroupMemory) (before after : List Byte)
    {answer : GroupRow × List UserRow} (plain : 0 ∉ answer.1.groupName.getD [])
    (admin : answer.1.adminId.isSome) (members : ∀ row ∈ answer.2, NameFits row.userName)
    (bounded : 48 + (12 + 44 * answer.2.length) < 2 ^ 31) :
    groupNameReceived memory before after answer = some (answer.1.groupName.getD []) ↔
      NameFits answer.1.groupName := by
  by_cases fits : NameFits answer.1.groupName
  · refine iff_of_true ?_ fits
    obtain ⟨adminId, adminRead⟩ := Option.isSome_iff_exists.mp admin
    have size : (groupOf memory answer).encodedSize = 48 + (12 + 44 * answer.2.length) := by
      simp [S2CGroup.encodedSize, S2CUserList.encodedSize, groupOf, userVector]
    have small : (groupOf memory answer).encodedSize < 2 ^ 31 := by rwa [size]
    have decoded := (groupOf memory answer).sized.decodeAt_wire small before after
    simp only [groupNameReceived, groupItemReply_of_fits ⟨fits, members⟩, adminRead,
      Option.map_some, Option.bind_eq_bind, Option.bind_some,
      (groupOf memory answer).serialize_eq small, decoded]
    exact readText_nameField memory.groupName plain fits
  · refine iff_of_false ?_ fits
    simp [groupNameReceived, groupItemReply, copyName_eq_none fits]

/-- The group in the member list of a reply that can be sent. -/
structure Sendable (answer : GroupRow × List UserRow) : Prop where
  admin : answer.1.adminId.isSome
  members : ∀ row ∈ answer.2, NameFits row.userName
  bounded : 48 + (12 + 44 * answer.2.length) < 2 ^ 31

/-- A password, a user's name and a group's name are found again on the other side exactly up
to 31 bytes; a longer one is written or read outside its field, whatever the memory holds. -/
theorem textFields_carry_iff {password userName groupName : List Byte} (plainPassword : 0 ∉ password)
    (plainUser : 0 ∉ userName) (plainGroup : 0 ∉ groupName) :
    (∀ memory received id userId, id ≠ idInvalid →
        (passwordReceived memory received id userId password = some password ↔
          password.length ≤ 31)) ∧
      (∀ memory received userId,
        (loginNameReceived memory received ⟨userId, some userName⟩ = some userName ↔
          userName.length ≤ 31)) ∧
      (∀ memory before after userId,
        (userNameReceived memory before after ⟨userId, some userName⟩ = some userName ↔
          userName.length ≤ 31)) ∧
      ∀ memory before after groupId adminId members,
        Sendable (⟨groupId, some groupName, adminId⟩, members) →
        (groupNameReceived memory before after (⟨groupId, some groupName, adminId⟩, members) =
          some groupName ↔ groupName.length ≤ 31) := by
  refine ⟨fun memory received id userId valid => ?_, fun memory received userId => ?_,
    fun memory before after userId => ?_,
    fun memory before after groupId adminId members sendable => ?_⟩
  · exact passwordReceived_iff memory received userId valid plainPassword
  · exact @loginNameReceived_iff memory received ⟨userId, some userName⟩ plainUser
  · exact @userNameReceived_iff memory before after ⟨userId, some userName⟩ plainUser
  · exact @groupNameReceived_iff memory before after (⟨groupId, some groupName, adminId⟩, members)
      plainGroup sendable.admin sendable.members sendable.bounded

/-- Texts of 31 letters get through. -/
theorem thirtyOne_carried :
    passwordReceived (.zeros 32) (.fresh 0 (.zeros 32)) 5 100000 (List.replicate 31 97) =
        some (List.replicate 31 97) ∧
      loginNameReceived (.zeros 32) (.fresh 0 (.zeros 32)) ⟨100000, some (List.replicate 31 97)⟩ =
        some (List.replicate 31 97) ∧
      userNameReceived (.zeros 32) [] [] ⟨100000, some (List.replicate 31 97)⟩ =
        some (List.replicate 31 97) ∧
      groupNameReceived ⟨.zeros 32, fun _ => .zeros 32⟩ [] []
          (⟨1000, some (List.replicate 31 97), some 100000⟩, []) =
        some (List.replicate 31 97) := by
  have plain : 0 ∉ List.replicate 31 (97 : Byte) := by decide
  obtain ⟨password, loginName, listedName, groupName⟩ := textFields_carry_iff plain plain plain
  exact ⟨(password _ _ 5 _ (by decide)).mpr (by decide), (loginName _ _ _).mpr (by decide),
    (listedName _ _ _ _).mpr (by decide),
    (groupName _ _ _ _ _ _ ⟨rfl, by simp, by decide⟩).mpr (by decide)⟩

/-- `用`, eleven times: a name of eleven characters. -/
def elevenCharacters : List Byte := (List.replicate 11 [231, 148, 168]).flatten

/-- The schema admits a password of 32 letters and a name of eleven characters of three bytes;
the password is read beyond its field, and the name is copied beyond its fields. -/
theorem admissible_not_carried :
    Admissible (List.replicate 32 97) ∧ Admissible elevenCharacters ∧
      passwordReceived (.zeros 32) (.fresh 0 (.zeros 32)) 5 100000 (List.replicate 32 97) ≠
        some (List.replicate 32 97) ∧
      loginNameReceived (.zeros 32) (.fresh 0 (.zeros 32)) ⟨100000, some elevenCharacters⟩ ≠
        some elevenCharacters ∧
      userNameReceived (.zeros 32) [] [] ⟨100000, some elevenCharacters⟩ ≠ some elevenCharacters ∧
      groupNameReceived ⟨.zeros 32, fun _ => .zeros 32⟩ [] []
          (⟨1000, some elevenCharacters, some 100000⟩, []) ≠ some elevenCharacters := by
  refine ⟨⟨by decide, List.replicate 32 [97], by decide, by decide, by decide⟩,
    ⟨by decide, List.replicate 11 [231, 148, 168], rfl, by decide, by decide⟩, ?_⟩
  decide +kernel

end SocketMessage.Server
