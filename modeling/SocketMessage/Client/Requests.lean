import SocketMessage.Client.Session
import SocketMessage.Lib.Independence
import SocketMessage.Wire.Overflow

/-!
# The packages of the client's requests

`SendLogin` copies a password into a `char[32]`, with its NUL only if that still fits.
`SendDataMsg` sets every field of a message but `MsgId`.
-/

namespace SocketMessage.Client

open SocketMessage.Lib SocketMessage.Wire

/-- The first part of `Password` that `SendLogin` writes. -/
def passwordLength (password : List Byte) : Nat :=
  if 32 > password.length + 1 then password.length + 1 else 32

theorem passwordLength_le (password : List Byte) : passwordLength password ≤ 32 := by
  unfold passwordLength
  split <;> omega

/-- The bytes written there: the password and its NUL, cut to the field. -/
def passwordBytes (password : List Byte) : SizedBytes (passwordLength password) :=
  ⟨(password ++ [0]).take (passwordLength password), by
    rw [List.length_take, List.length_append, List.length_singleton, passwordLength]
    split <;> omega⟩

/-- The `memcpy` of `passwordLength` bytes into `Password`. -/
def copyPassword (memory : SizedBytes 32) (password : List Byte) : SizedBytes 32 :=
  memory.overwrite (passwordBytes password) (passwordLength_le password)

/-- Only a password that reaches the field's last byte leaves nothing of what it held. -/
theorem copyPassword_independent_iff (password : List Byte) :
    Independent (fun memory => copyPassword memory password) ↔ 31 ≤ password.length := by
  refine (independent_overwrite_iff (passwordBytes password) (passwordLength_le password)).trans ?_
  unfold passwordLength
  split <;> omega

/-- `SendLogin` up to the package. -/
def sendLogin (memory : SizedBytes 32) (id userId : CInt) (password : List Byte) : Option C2SLogin :=
  if id = idInvalid then none else some (.fresh userId (copyPassword memory password))

/-- The bytes of the package, if there is one. -/
def loginPackage (memory : SizedBytes 32) (id userId : CInt) (password : List Byte) :
    Option (List Byte) :=
  (sendLogin memory id userId password).bind C2SLogin.serialize

/-- A login is packed whole. -/
theorem serialize_c2SLogin (userId : CInt) (password : SizedBytes 32) :
    (C2SLogin.fresh userId password).serialize = some (C2SLogin.fresh userId password).image.1 :=
  defaultSerialize_fresh _

/-- A login is read back from its bytes. -/
theorem image_c2SLogin_injective : Function.Injective C2SLogin.image := by
  have readBack : Function.LeftInverse C2SLogin.ofImage C2SLogin.image := by
    intro login
    simp [C2SLogin.ofImage, C2SLogin.image, fixedImage]
  exact readBack.injective

/-- The package of a login shows its memory unless the password fills the field. -/
theorem loginPackage_independent_iff (id userId : CInt) {password : List Byte}
    (short : password.length < 32) :
    Independent (fun memory => loginPackage memory id userId password) ↔
      id = idInvalid ∨ password.length = 31 := by
  by_cases invalid : id = idInvalid
  · have nothing : ∀ memory, loginPackage memory id userId password = none := by
      intro memory
      rw [loginPackage, sendLogin, if_pos invalid]
      rfl
    exact iff_of_true (independent_of_const nothing) (.inl invalid)
  · have package : ∀ memory, loginPackage memory id userId password =
        some (C2SLogin.fresh userId (copyPassword memory password)).image.1 := by
      intro memory
      rw [loginPackage, sendLogin, if_neg invalid, Option.bind_some, serialize_c2SLogin]
    have field := @independent_comp_iff _ _ _ (fun memory => copyPassword memory password)
      (fun field => some (C2SLogin.fresh userId field).image.1)
      fun _ _ same => congrArg C2SLogin.password
        (image_c2SLogin_injective (Subtype.ext (Option.some.inj same)))
    simp only [package, field, copyPassword_independent_iff, invalid, false_or]
    omega

/-- The texts of a message that is sent, in memory that holds zeros. -/
def texts (msg ext : List Byte) : DataMsg := { DataMsg.zeroed with msg, extend := ext }

namespace SdkState

/-- The bytes of a message's package, if there is one. -/
def dataMsgPackage (state : SdkState) (memory : DataMsg) (now id msgType recvUserId : CInt)
    (isGroup : Bool) (msg ext : List Byte) : Option (List Byte) :=
  (state.sendDataMsg memory now id msgType recvUserId isGroup msg ext).bind fun dataMsg =>
    dataMsg.serialize.map Prod.fst

/-- The package of a message always shows its memory: nothing sets `MsgId`. -/
theorem dataMsgPackage_independent_iff (state : SdkState) (now id msgType recvUserId : CInt)
    (isGroup : Bool) (msg ext : List Byte) :
    Independent (fun memory => state.dataMsgPackage memory now id msgType recvUserId isGroup msg ext) ↔
      id = idInvalid ∨ state.selfUserId = 0 ∨ ¬ (texts msg ext).Serializable := by
  by_cases refused : id = idInvalid ∨ state.selfUserId = 0
  · have nothing : ∀ memory,
        state.dataMsgPackage memory now id msgType recvUserId isGroup msg ext = none := by
      intro memory
      rw [dataMsgPackage, sendDataMsg, if_pos refused]
      rfl
    exact iff_of_true (independent_of_const nothing) (or_assoc.mp (.inl refused))
  · rw [← or_assoc, or_iff_right refused]
    have built : ∀ memory, ∃ dataMsg : DataMsg, dataMsg.msgId = memory.msgId ∧
        (dataMsg.Serializable ↔ (texts msg ext).Serializable) ∧
        state.dataMsgPackage memory now id msgType recvUserId isGroup msg ext =
          dataMsg.serialize.map Prod.fst := by
      intro memory
      refine ⟨_, ?_, ?_, by rw [dataMsgPackage, sendDataMsg, if_neg refused]; rfl⟩
      · rfl
      · exact Iff.rfl
    constructor
    · -- The message's own bytes tell one `MsgId` from another.
      intro independent serializable
      obtain ⟨zero, zeroId, zeroSerializable, zeroPackage⟩ := built DataMsg.zeroed
      obtain ⟨one, oneId, oneSerializable, onePackage⟩ := built { DataMsg.zeroed with msgId := 1 }
      have zeroBytes := DataMsg.serialize_eq_some_iff.mpr
        ⟨zeroSerializable.mpr serializable, rfl, rfl⟩
      have oneBytes := DataMsg.serialize_eq_some_iff.mpr
        ⟨oneSerializable.mpr serializable, rfl, rfl⟩
      have same := zeroPackage.symm.trans ((independent _ _).trans onePackage)
      rw [zeroBytes, oneBytes] at same
      have sameImage := (List.append_inj (Option.some.inj same) (by simp)).1
      have sameId := congrArg (fun image => (DataMsg.ofImage image [] []).msgId)
        (Subtype.ext sameImage)
      simp only [DataMsg.ofImage_image] at sameId
      have zeroSized : zero.sized.msgId = zero.msgId := rfl
      have oneSized : one.sized.msgId = one.msgId := rfl
      rw [zeroSized, oneSized, zeroId, oneId] at sameId
      exact absurd sameId (by decide)
    · intro unserializable
      refine @independent_of_const _ _ _ none fun memory => ?_
      obtain ⟨dataMsg, -, serializable, package⟩ := built memory
      rw [package, Option.map_eq_none_iff]
      by_contra packed
      obtain ⟨⟨bytes, sent⟩, serialized⟩ := Option.ne_none_iff_exists'.mp packed
      exact unserializable (serializable.mp (DataMsg.serialize_eq_some_iff.mp serialized).1)

end SdkState

end SocketMessage.Client
