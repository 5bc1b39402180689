import SocketMessage.Lib.Printf
import SocketMessage.Wire.DataType

/-!
# The statements of `DBUser`, `DBMsg` and `DBGroup`

Each statement is printed into a `char` array whose size was chosen by hand. The numbers are
bounded by eleven characters and `SaveMsgData` makes room for its texts. Only `Login` prints
a text from the client into a fixed array.
-/

namespace SocketMessage.Server

open SocketMessage.Lib SocketMessage.Wire

/-! ## The formats -/

/-- The format of `DBUser::Login`. -/
def loginFormat : List Char :=
  "SELECT `UserId`,`UserName` FROM `User` WHERE `UserId` = '%d' AND `Password` = '%s'".toList

/-- The format of the condition of `DBMsg::GetDataMsgList`, for a client that has messages. -/
def newerFormat : List Char :=
  "AND `MsgId` > '%d'".toList

/-- The format of the condition for a client that has none. -/
def firstFormat : List Char :=
  "AND 1=1 LIMIT 0, %d".toList

/-- The format of `DBMsg::GetDataMsgList`. -/
def historyFormat : List Char :=
  "SELECT `MsgId`, `MsgType`, `Msg`, `Sender`, `Receiver`, `IsGroup`, `CreatedTime`, `Extend` FROM `Msg` WHERE ( `Receiver` = '%d' OR `Receiver` IN ( SELECT `GroupId` FROM `GroupUser` WHERE `UserId` = '%d' )) %s".toList

/-- The format of `DBMsg::SaveMsgData`. -/
def saveFormat : List Char :=
  "INSERT INTO `Msg` ( `MsgType`, `Sender`, `Receiver`, `IsGroup`, `CreatedTime`, `Msg`, `Extend`) VALUES ( '%d', '%d', '%d', '%d', '%d', '%s', '%s');".toList

/-- The format of `DBGroup::GetUserAllGroup` for the groups. -/
def groupsFormat : List Char :=
  "SELECT `GroupId`,`GroupName`,`AdminId` FROM `Group` WHERE `GroupId` IN (SELECT `GroupId` FROM `GroupUser` WHERE `UserId` = '%d')".toList

/-- The format of `DBGroup::GetUserAllGroup` for the members. -/
def membersFormat : List Char :=
  "SELECT `UserId`,`UserName` FROM `User` WHERE `UserId` IN (SELECT `UserId` FROM `GroupUser` WHERE `GroupId` = '%d')".toList

/-- The format of `DBGroup::GetUserIdByGroupId`. -/
def recipientsFormat : List Char :=
  "SELECT `UserId` FROM `GroupUser` WHERE `GroupId` = '%d'".toList

/-! ## The statements -/

/-- `MySql::EscapeString`: `mysql_real_escape_string` fills an array, from which the text up
to the NUL is taken. -/
def escapeString (escape : List Byte → List Byte) (text : List Byte) : List Byte :=
  (escape text).takeWhile fun byte => byte ≠ 0

/-- `std::string(login.Password)`. A password without a NUL is read on in the memory behind
the struct. -/
def passwordFrom (login : C2SLogin) (beyond : List Byte) : Option (List Byte) :=
  readCString (login.password.1 ++ beyond) 0

/-- The statement of `DBUser::Login`. -/
def loginSql (escape : List Byte → List Byte) (login : C2SLogin) (beyond : List Byte) :
    Option Printed := do
  let password ← passwordFrom login beyond
  return {
    size := 128
    text := sprintf loginFormat [.d login.userId, .s (escapeString escape password)] }

/-- `where` of `DBMsg::GetDataMsgList`. -/
def whereSql (request : C2SGetDataMsgList) : Printed where
  size := 32
  text :=
    if 0 < request.lastMsgId.toInt then
      sprintf newerFormat [.d request.lastMsgId]
    else
      sprintf firstFormat [.d 100]

/-- The statement of `DBMsg::GetDataMsgList`. -/
def getDataMsgListSql (request : C2SGetDataMsgList) : Printed where
  size := 256
  text := sprintf historyFormat
    [.d request.userId, .d request.userId, .s (whereSql request).text]

/-- The statement of `DBMsg::SaveMsgData`, in an array made to measure. -/
def saveMsgDataSql (escape : List Byte → List Byte) (clientMsg : DataMsg) : Printed where
  size := 256 + (escapeString escape clientMsg.msg).length +
    (escapeString escape clientMsg.extend).length
  text := sprintf saveFormat
    [.d clientMsg.msgType, .d clientMsg.sender, .d clientMsg.receiver,
      .d (if clientMsg.isGroup then 1 else 0), .d clientMsg.createdTime,
      .s (escapeString escape clientMsg.msg), .s (escapeString escape clientMsg.extend)]

/-- The statement of `DBGroup::GetUserAllGroup` for the groups of a user. -/
def getUserAllGroupSql (userId : CInt) : Printed where
  size := 256
  text := sprintf groupsFormat [.d userId]

/-- The statement of `DBGroup::GetUserAllGroup` for the members of each group, printed over
the first. -/
def groupMembersSql (groupId : CInt) : Printed where
  size := 256
  text := sprintf membersFormat [.d groupId]

/-- The statement of `DBGroup::GetUserIdByGroupId`. -/
def getUserIdByGroupIdSql (groupId : CInt) : Printed where
  size := 128
  text := sprintf recipientsFormat [.d groupId]

/-! ## Numbers only -/

/-- The condition of `GetDataMsgList` fits its array: only a positive number is printed. -/
theorem whereSql_fits (request : C2SGetDataMsgList) : (whereSql request).Fits := by
  unfold whereSql Printed.Fits
  split
  · next positive =>
    have digits := length_decimal_le_ten (Int.le_of_lt positive)
    have shape : Shape newerFormat ['d'] 16 := Shape.ofLiteral (by decide +kernel)
    rw [length_sprintf shape]
    simp only [widths]
    omega
  · have shape : Shape firstFormat ['d'] 17 := Shape.ofLiteral (by decide +kernel)
    rw [length_sprintf shape]
    decide

set_option maxRecDepth 2000 in
/-- The statement of `GetDataMsgList` fits its array. -/
theorem getDataMsgListSql_fits (request : C2SGetDataMsgList) :
    (getDataMsgListSql request).Fits := by
  have condition : (whereSql request).text.length + 1 ≤ 32 := whereSql_fits request
  have digits := length_decimal_le request.userId
  have shape : Shape historyFormat ['d', 'd', 's'] 202 := Shape.ofLiteral (by decide +kernel)
  rw [getDataMsgListSql, Printed.Fits, length_sprintf shape]
  simp only [widths]
  omega

set_option maxRecDepth 2000 in
/-- The statement for the groups of a user fits its array. -/
theorem getUserAllGroupSql_fits (userId : CInt) : (getUserAllGroupSql userId).Fits := by
  have digits := length_decimal_le userId
  have shape : Shape groupsFormat ['d'] 126 := Shape.ofLiteral (by decide +kernel)
  rw [getUserAllGroupSql, Printed.Fits, length_sprintf shape]
  simp only [widths]
  omega

set_option maxRecDepth 2000 in
/-- The statement for the members of a group fits the same array. -/
theorem groupMembersSql_fits (groupId : CInt) : (groupMembersSql groupId).Fits := by
  have digits := length_decimal_le groupId
  have shape : Shape membersFormat ['d'] 112 := Shape.ofLiteral (by decide +kernel)
  rw [groupMembersSql, Printed.Fits, length_sprintf shape]
  simp only [widths]
  omega

/-- The statement of `GetUserIdByGroupId` fits its array. -/
theorem getUserIdByGroupIdSql_fits (groupId : CInt) : (getUserIdByGroupIdSql groupId).Fits := by
  have digits := length_decimal_le groupId
  have shape : Shape recipientsFormat ['d'] 53 := Shape.ofLiteral (by decide +kernel)
  rw [getUserIdByGroupIdSql, Printed.Fits, length_sprintf shape]
  simp only [widths]
  omega

/-! ## Texts -/

set_option maxRecDepth 2000 in
/-- The statement of `SaveMsgData` fits the array made for it, whatever the texts are. -/
theorem saveMsgDataSql_fits (escape : List Byte → List Byte) (clientMsg : DataMsg) :
    (saveMsgDataSql escape clientMsg).Fits := by
  have msgType := length_decimal_le clientMsg.msgType
  have sender := length_decimal_le clientMsg.sender
  have receiver := length_decimal_le clientMsg.receiver
  have isGroup := length_decimal_le (if clientMsg.isGroup then 1 else 0)
  have createdTime := length_decimal_le clientMsg.createdTime
  have shape : Shape saveFormat ['d', 'd', 'd', 'd', 'd', 's', 's'] 133 :=
    Shape.ofLiteral (by decide +kernel)
  rw [saveMsgDataSql, Printed.Fits, length_sprintf shape]
  simp only [widths]
  omega

/-- What `Login` reads as its password is in memory, and with the digits of the user it takes
at most 49 characters once it is escaped. -/
def LoginFits (escape : List Byte → List Byte) (login : C2SLogin) (beyond : List Byte) : Prop :=
  ∃ password, passwordFrom login beyond = some password ∧
    (decimal login.userId).length + (escapeString escape password).length ≤ 49

/-- The statement of `Login` fits its array exactly then: 78 of 127 characters are its own. -/
theorem loginSql_fits_iff (escape : List Byte → List Byte) (login : C2SLogin)
    (beyond : List Byte) :
    (∃ sql, loginSql escape login beyond = some sql ∧ sql.Fits) ↔
      LoginFits escape login beyond := by
  unfold LoginFits loginSql
  cases passwordFrom login beyond with
  | none => simp
  | some password =>
    simp only [Option.bind_eq_bind, Option.bind_some, Option.pure_def, Option.some.injEq,
      exists_eq_left', Printed.Fits]
    have shape : Shape loginFormat ['d', 's'] 78 := Shape.ofLiteral (by decide +kernel)
    rw [length_sprintf shape]
    simp only [widths]
    omega

/-- Every statement printed for a client's package fits its array. -/
structure StatementsFit (escape : List Byte → List Byte) (login : C2SLogin) (beyond : List Byte)
    (request : C2SGetDataMsgList) (clientMsg : DataMsg) (userId groupId : CInt) : Prop where
  login : ∃ sql, loginSql escape login beyond = some sql ∧ sql.Fits
  condition : (whereSql request).Fits
  history : (getDataMsgListSql request).Fits
  save : (saveMsgDataSql escape clientMsg).Fits
  groups : (getUserAllGroupSql userId).Fits
  members : (groupMembersSql groupId).Fits
  recipients : (getUserIdByGroupIdSql groupId).Fits

/-- Whatever the packages hold and however texts are escaped, the statements fit exactly when
the statement of `Login` does. -/
theorem statementsFit_iff (escape : List Byte → List Byte) (login : C2SLogin)
    (beyond : List Byte) (request : C2SGetDataMsgList) (clientMsg : DataMsg)
    (userId groupId : CInt) :
    StatementsFit escape login beyond request clientMsg userId groupId ↔
      LoginFits escape login beyond := by
  constructor
  · intro fit
    exact (loginSql_fits_iff escape login beyond).mp fit.login
  · intro short
    exact {
      login := (loginSql_fits_iff escape login beyond).mpr short
      condition := whereSql_fits request
      history := getDataMsgListSql_fits request
      save := saveMsgDataSql_fits escape clientMsg
      groups := getUserAllGroupSql_fits userId
      members := groupMembersSql_fits groupId
      recipients := getUserIdByGroupIdSql_fits groupId }

/-- Escaping at most doubles a text. -/
def Doubling (escape : List Byte → List Byte) : Prop :=
  ∀ text, (escape text).length ≤ 2 * text.length

/-- A password of at most 19 bytes fits for every user, however it is escaped. -/
theorem loginFits_of_short {escape : List Byte → List Byte} (doubling : Doubling escape)
    {login : C2SLogin} {beyond password : List Byte}
    (read : passwordFrom login beyond = some password) (short : password.length ≤ 19) :
    LoginFits escape login beyond := by
  have digits := length_decimal_le login.userId
  have taken : (escapeString escape password).length ≤ (escape password).length :=
    (List.takeWhile_sublist _).length_le
  have doubled := doubling password
  exact ⟨password, read, by omega⟩

/-- `mysql_real_escape_string`: a backslash before the bytes that need one, `Z` for the byte
26, letters for the controls. -/
def mysqlEscape (text : List Byte) : List Byte :=
  text.flatMap fun byte =>
    if byte = 0 then [92, 48]
    else if byte = 10 then [92, 110]
    else if byte = 13 then [92, 114]
    else if byte = 26 then [92, 90]
    else if byte = 92 ∨ byte = 39 ∨ byte = 34 then [92, byte]
    else [byte]

/-- It at most doubles a text. -/
theorem mysqlEscape_doubling : Doubling mysqlEscape := by
  intro text
  induction text with
  | nil => exact Nat.le_refl 0
  | cons byte rest ih =>
    rw [mysqlEscape] at ih ⊢
    rw [List.flatMap_cons, List.length_append, List.length_cons]
    split_ifs <;> simp only [List.length_cons, List.length_nil] <;> omega

/-- The package of user 100000 with a password of 31 quotes and its NUL. -/
def quotesLogin : C2SLogin := .fresh 100000 ⟨List.replicate 31 39 ++ [0], rfl⟩

/-- Escaped, the 31 quotes are 62 characters, and the statement is 147 bytes long with its
NUL. -/
theorem quotesLogin_overflows :
    Doubling mysqlEscape ∧
      ¬ StatementsFit mysqlEscape quotesLogin [] (.fresh 0 100000) .zeroed 100000 1000 := by
  refine ⟨mysqlEscape_doubling, fun fit => ?_⟩
  obtain ⟨sql, printed, fits⟩ := fit.login
  have length : (loginSql mysqlEscape quotesLogin []).map (fun sql => sql.text.length + 1) =
      some 147 := by decide +kernel
  have size : (loginSql mysqlEscape quotesLogin []).map Printed.size = some 128 := by
    decide +kernel
  rw [printed] at length size
  have lengthOf : sql.text.length + 1 = 147 := Option.some.inj length
  have sizeOf : sql.size = 128 := Option.some.inj size
  unfold Printed.Fits at fits
  omega

end SocketMessage.Server
