import SocketMessage.Lib.Statement
import SocketMessage.Server.SqlText

/-!
# What the statements say

The texts of the clients go into the statements of `Login` and `SaveMsgData` through
`mysql_real_escape_string` and between single quotes, the numbers as digits between quotes.
Whatever a client sends, the server of the database reads the same statement, with what was
sent as the values of its strings. Its connections use the character set `utf8`, where the
bytes that matter here stand for themselves.
-/

namespace SocketMessage.Server

open SocketMessage.Lib SocketMessage.Wire

/-- What stands outside of quotes. -/
def code (text : String) : Piece := .code (text.toList.map ascii)

/-- A name of a table or a column. -/
def name (text : String) : Piece := .quoted .backtick (text.toList.map ascii)

/-- A text between single quotes. -/
def value (bytes : List Byte) : Piece := .quoted .single bytes

/-- A number between single quotes. -/
def number (number : CInt) : Piece := value (decimal number)

/-- `DBUser::Login`. -/
def loginPieces (userId : CInt) (password : List Byte) : List Piece :=
  [code "SELECT ", name "UserId", code ",", name "UserName", code " FROM ", name "User",
    code " WHERE ", name "UserId", code " = ", number userId, code " AND ", name "Password",
    code " = ", value password, code ""]

/-- `DBMsg::GetDataMsgList` up to its condition. -/
def historyPieces (userId : CInt) : List Piece :=
  [code "SELECT ", name "MsgId", code ", ", name "MsgType", code ", ", name "Msg", code ", ",
    name "Sender", code ", ", name "Receiver", code ", ", name "IsGroup", code ", ",
    name "CreatedTime", code ", ", name "Extend", code " FROM ", name "Msg", code " WHERE ( ",
    name "Receiver", code " = ", number userId, code " OR ", name "Receiver", code " IN ( SELECT ",
    name "GroupId", code " FROM ", name "GroupUser", code " WHERE ", name "UserId", code " = ",
    number userId]

/-- Its condition, behind the end of the subquery. -/
def conditionPieces (lastMsgId : CInt) : List Piece :=
  if 0 < lastMsgId.toInt then
    [code " )) AND ", name "MsgId", code " > ", number lastMsgId, code ""]
  else [code " )) AND 1=1 LIMIT 0, 100"]

/-- `DBMsg::SaveMsgData`. -/
def savePieces (clientMsg : DataMsg) : List Piece :=
  [code "INSERT INTO ", name "Msg", code " ( ", name "MsgType", code ", ", name "Sender", code ", ",
    name "Receiver", code ", ", name "IsGroup", code ", ", name "CreatedTime", code ", ",
    name "Msg", code ", ", name "Extend", code ") VALUES ( ", number clientMsg.msgType, code ", ",
    number clientMsg.sender, code ", ", number clientMsg.receiver, code ", ",
    number (if clientMsg.isGroup then 1 else 0), code ", ", number clientMsg.createdTime,
    code ", ", value clientMsg.msg, code ", ", value clientMsg.extend, code ");"]

/-- `DBGroup::GetUserAllGroup` for the groups. -/
def groupsPieces (userId : CInt) : List Piece :=
  [code "SELECT ", name "GroupId", code ",", name "GroupName", code ",", name "AdminId",
    code " FROM ", name "Group", code " WHERE ", name "GroupId", code " IN (SELECT ",
    name "GroupId", code " FROM ", name "GroupUser", code " WHERE ", name "UserId", code " = ",
    number userId, code ")"]

/-- `DBGroup::GetUserAllGroup` for the members. -/
def membersPieces (groupId : CInt) : List Piece :=
  [code "SELECT ", name "UserId", code ",", name "UserName", code " FROM ", name "User",
    code " WHERE ", name "UserId", code " IN (SELECT ", name "UserId", code " FROM ",
    name "GroupUser", code " WHERE ", name "GroupId", code " = ", number groupId, code ")"]

/-- `DBGroup::GetUserIdByGroupId`. -/
def recipientsPieces (groupId : CInt) : List Piece :=
  [code "SELECT ", name "UserId", code " FROM ", name "GroupUser", code " WHERE ", name "GroupId",
    code " = ", number groupId, code ""]

/-- The statement fits its array, `mysql_query` takes all of it, and it is read as these parts. -/
structure Says (sql : Printed) (pieces : List Piece) : Prop where
  fits : sql.Fits
  noNul : 0 ∉ sql.text
  means : lex sql.text = some pieces

/-- What a format says, with `none` for a value, when its conversions are of these kinds. -/
structure Template (format kinds : List Char) (pieces : List (Option Piece)) : Prop where
  own : ∀ char ∈ format, ascii char ≠ 0
  means : Lexer.start.template format kinds = some pieces

theorem Template.ofChars {format kinds : List Char} {pieces : List (Option Piece)}
    (own : format.all fun char => ascii char ≠ 0)
    (means : Lexer.start.template format kinds = some pieces) : Template format kinds pieces where
  own char member := of_decide_eq_true (List.all_eq_true.mp own char member)
  means := means

/-- What is known of a format's characters is known of the format as it is written. -/
theorem Template.ofLiteral {chars kinds : List Char} {pieces : List (Option Piece)}
    (own : chars.all fun char => ascii char ≠ 0)
    (means : Lexer.start.template chars kinds = some pieces) :
    Template (String.ofList chars).toList kinds pieces :=
  @literal_holds (fun format => Template format kinds pieces) _ (.ofChars own means)

/-- A printed statement says what its format says, with the values that were printed. -/
theorem Template.says_sprintf {size : Nat} {format kinds : List Char} {args : List PrintfArg}
    {pieces : List (Option Piece)} (template : Template format kinds pieces)
    (fits : Printed.Fits ⟨size, sprintf format args⟩) {values : List (List Byte)}
    (fills : List.Forall₂ Fills args values)
    (kindsOf : args.map PrintfArg.conversion = kinds) :
    Says ⟨size, sprintf format args⟩ (fillIn pieces values) where
  fits := fits
  noNul := noNul_sprintf fills template.own
  means := Lexer.parts_sprintf template.means fills kindsOf

/-- The parts of a statement, without its values. -/
def leftOut (pieces : List Piece) : List (Option Piece) :=
  pieces.map fun piece =>
    match piece with
    | .quoted .single _ => none
    | _ => some piece

/-! ## Numbers -/

set_option maxRecDepth 2000 in
theorem says_getUserAllGroupSql (userId : CInt) :
    Says (getUserAllGroupSql userId) (groupsPieces userId) := by
  have template : Template groupsFormat ['d'] (leftOut (groupsPieces 0)) :=
    .ofLiteral (by decide +kernel) (by decide +kernel)
  exact template.says_sprintf (getUserAllGroupSql_fits userId) (.cons (.number userId) .nil) rfl

set_option maxRecDepth 2000 in
theorem says_groupMembersSql (groupId : CInt) :
    Says (groupMembersSql groupId) (membersPieces groupId) := by
  have template : Template membersFormat ['d'] (leftOut (membersPieces 0)) :=
    .ofLiteral (by decide +kernel) (by decide +kernel)
  exact template.says_sprintf (groupMembersSql_fits groupId) (.cons (.number groupId) .nil) rfl

set_option maxRecDepth 2000 in
theorem says_getUserIdByGroupIdSql (groupId : CInt) :
    Says (getUserIdByGroupIdSql groupId) (recipientsPieces groupId) := by
  have template : Template recipientsFormat ['d'] (leftOut (recipientsPieces 0)) :=
    .ofLiteral (by decide +kernel) (by decide +kernel)
  exact template.says_sprintf (getUserIdByGroupIdSql_fits groupId)
    (.cons (.number groupId) .nil) rfl

/-! ## The condition of a history request -/

/-- The format of `DBMsg::GetDataMsgList` without the condition at its end. -/
def historyFront : List Char := historyFormat.dropLast.dropLast

/-- The condition for a client that has no messages, as it is printed. -/
def firstHundred : List Char := "AND 1=1 LIMIT 0, 100".toList

set_option maxRecDepth 2000 in
theorem historyFront_append : historyFront ++ ['%', 's'] = historyFormat :=
  @literal_holds (fun format => format.dropLast.dropLast ++ ['%', 's'] = format) _
    (by decide +kernel)

set_option maxRecDepth 2000 in
theorem conversions_historyFront : conversions historyFront = ['d', 'd'] :=
  @literal_holds (fun format => conversions format.dropLast.dropLast = ['d', 'd']) _
    (by decide +kernel)

set_option maxRecDepth 2000 in
theorem getLast?_historyFront : historyFront.getLast? ≠ some '%' :=
  @literal_holds (fun format => format.dropLast.dropLast.getLast? ≠ some '%') _
    (by decide +kernel)

/-- A condition is printed behind the rest of the statement. -/
theorem sprintf_historyFormat (userId : CInt) (format : List Char) (args : List PrintfArg) :
    sprintf historyFormat [.d userId, .d userId, .s (sprintf format args)] =
      sprintf (historyFront ++ format) ([.d userId, .d userId] ++ args) := by
  have front := @sprintf_append historyFront [.d userId, .d userId]
    conversions_historyFront.symm getLast?_historyFront
  have condition : sprintf ['%', 's'] [.s (sprintf format args)] = sprintf format args := by
    rw [sprintf, sprintf, List.append_nil]
  have joined := front ['%', 's'] [.s (sprintf format args)]
  rw [historyFront_append, condition, ← front] at joined
  exact joined

set_option maxRecDepth 2000 in
/-- A client that has messages asks for those behind the last of them. -/
theorem newer_template : Template (historyFront ++ newerFormat) ['d', 'd', 'd']
    (leftOut (historyPieces 0 ++ conditionPieces 1)) :=
  @literals_hold (fun front back => Template (front.dropLast.dropLast ++ back) ['d', 'd', 'd']
    (leftOut (historyPieces 0 ++ conditionPieces 1))) _ _
    (.ofChars (by decide +kernel) (by decide +kernel))

set_option maxRecDepth 2000 in
/-- A client that has none asks for the first hundred. -/
theorem first_template : Template (historyFront ++ firstHundred) ['d', 'd']
    (leftOut (historyPieces 0 ++ conditionPieces 0)) :=
  @literals_hold (fun front back => Template (front.dropLast.dropLast ++ back) ['d', 'd']
    (leftOut (historyPieces 0 ++ conditionPieces 0))) _ _
    (.ofChars (by decide +kernel) (by decide +kernel))

theorem says_getDataMsgListSql (request : C2SGetDataMsgList) :
    Says (getDataMsgListSql request)
      (historyPieces request.userId ++ conditionPieces request.lastMsgId) := by
  have fits := getDataMsgListSql_fits request
  by_cases newer : 0 < request.lastMsgId.toInt
  · have condition : (whereSql request).text = sprintf newerFormat [.d request.lastMsgId] :=
      if_pos newer
    rw [getDataMsgListSql, condition, sprintf_historyFormat] at fits ⊢
    rw [conditionPieces, if_pos newer]
    exact newer_template.says_sprintf fits
      (.cons (.number _) (.cons (.number _) (.cons (.number _) .nil))) rfl
  · have condition : (whereSql request).text = sprintf firstHundred [] :=
      (if_neg newer).trans (by decide +kernel)
    rw [getDataMsgListSql, condition, sprintf_historyFormat] at fits ⊢
    rw [conditionPieces, if_neg newer]
    exact first_template.says_sprintf fits (.cons (.number _) (.cons (.number _) .nil)) rfl

/-! ## Texts -/

/-- How `mysql_real_escape_string` writes texts. -/
def Escaping (escape : List Byte → List Byte) : Prop := ∀ text, Escapes text (escape text)

/-- No NUL ends an escaped text early. -/
theorem escapeString_eq {escape : List Byte → List Byte} (escapes : Escaping escape)
    (text : List Byte) : escapeString escape text = escape text := by
  rw [escapeString, List.takeWhile_eq_self_iff]
  intro byte member
  have noNul := (escapes text).noNul
  simp only [ne_eq, decide_not, Bool.not_eq_eq_eq_not, Bool.not_true, decide_eq_false_iff_not]
  rintro rfl
  exact noNul member

set_option maxRecDepth 2000 in
theorem says_loginSql {escape : List Byte → List Byte} (escapes : Escaping escape)
    {login : C2SLogin} {beyond : List Byte} (short : LoginFits escape login beyond) :
    ∃ password sql, passwordFrom login beyond = some password ∧
      loginSql escape login beyond = some sql ∧ Says sql (loginPieces login.userId password) := by
  have template : Template loginFormat ['d', 's'] (leftOut (loginPieces 0 [])) :=
    .ofLiteral (by decide +kernel) (by decide +kernel)
  obtain ⟨sql, printed, fits⟩ := (loginSql_fits_iff escape login beyond).mpr short
  obtain ⟨password, read, -⟩ := short
  refine ⟨password, sql, read, printed, ?_⟩
  rw [loginSql, read] at printed
  obtain rfl := Option.some.inj printed
  rw [escapeString_eq escapes] at fits ⊢
  exact template.says_sprintf fits (.cons (.number _) (.cons (.text (escapes password)) .nil)) rfl

set_option maxRecDepth 2000 in
theorem says_saveMsgDataSql {escape : List Byte → List Byte} (escapes : Escaping escape)
    (clientMsg : DataMsg) : Says (saveMsgDataSql escape clientMsg) (savePieces clientMsg) := by
  have template : Template saveFormat ['d', 'd', 'd', 'd', 'd', 's', 's']
      (leftOut (savePieces .zeroed)) := .ofLiteral (by decide +kernel) (by decide +kernel)
  have fits := saveMsgDataSql_fits escape clientMsg
  rw [saveMsgDataSql, escapeString_eq escapes, escapeString_eq escapes] at fits ⊢
  exact template.says_sprintf fits (.cons (.number _) (.cons (.number _) (.cons (.number _)
    (.cons (.number _) (.cons (.number _) (.cons (.text (escapes clientMsg.msg))
      (.cons (.text (escapes clientMsg.extend)) .nil))))))) rfl

/-! ## All of them -/

/-- Each statement says what its format says, with what the client sent as values. -/
structure StatementsSay (escape : List Byte → List Byte) (login : C2SLogin) (beyond : List Byte)
    (request : C2SGetDataMsgList) (clientMsg : DataMsg) (userId groupId : CInt) : Prop where
  login : ∃ password sql, passwordFrom login beyond = some password ∧
    loginSql escape login beyond = some sql ∧ Says sql (loginPieces login.userId password)
  history : Says (getDataMsgListSql request)
    (historyPieces request.userId ++ conditionPieces request.lastMsgId)
  save : Says (saveMsgDataSql escape clientMsg) (savePieces clientMsg)
  groups : Says (getUserAllGroupSql userId) (groupsPieces userId)
  members : Says (groupMembersSql groupId) (membersPieces groupId)
  recipients : Says (getUserIdByGroupIdSql groupId) (recipientsPieces groupId)

/-- No client can change what a statement asks for: its packages only fill in values. The
password has to fit the array of `Login`. -/
theorem statements_say {escape : List Byte → List Byte} (escapes : Escaping escape)
    {login : C2SLogin} {beyond : List Byte} (short : LoginFits escape login beyond)
    (request : C2SGetDataMsgList) (clientMsg : DataMsg) (userId groupId : CInt) :
    StatementsSay escape login beyond request clientMsg userId groupId where
  login := says_loginSql escapes short
  history := says_getDataMsgListSql request
  save := says_saveMsgDataSql escapes clientMsg
  groups := says_getUserAllGroupSql userId
  members := says_groupMembersSql groupId
  recipients := says_getUserIdByGroupIdSql groupId

/-- `mysql_real_escape_string` escapes every text. -/
theorem mysqlEscape_escaping : Escaping mysqlEscape := by
  intro text
  induction text with
  | nil => exact .nil
  | cons byte rest inductionHypothesis =>
    rw [mysqlEscape] at inductionHypothesis ⊢
    rw [List.flatMap_cons]
    split_ifs with nul newline carriage substitute special
    · subst nul
      exact .escaped (by decide) (by decide) inductionHypothesis
    · subst newline
      exact .escaped (by decide) (by decide) inductionHypothesis
    · subst carriage
      exact .escaped (by decide) (by decide) inductionHypothesis
    · subst substitute
      exact .escaped (by decide) (by decide) inductionHypothesis
    · rcases special with rfl | rfl | rfl
      all_goals exact .escaped (by decide) (by decide) inductionHypothesis
    · simp only [not_or] at special
      exact .plain nul special.2.1 special.1 inductionHypothesis

/-- A user whose password closes the string and adds a condition that always holds. -/
def breakingLogin : C2SLogin :=
  .fresh 100000 ⟨"' OR '1'='1".toList.map ascii ++ List.replicate 21 0, by decide⟩

/-- A message whose text closes the string and starts another statement, and whose `Extend` is
a backslash before a quote. -/
def breakingMessage : DataMsg :=
  { DataMsg.zeroed with
    msgType := 1, sender := 100000, receiver := 100001
    msg := "hi', ''); DELETE FROM `Msg`; -- ".toList.map ascii, extend := "\\'".toList.map ascii }

/-- The whole password is compared, and the whole texts are stored. -/
theorem breaking_filledIn :
    (∃ sql, loginSql mysqlEscape breakingLogin [] = some sql ∧
      lex sql.text = some (loginPieces 100000 ("' OR '1'='1".toList.map ascii))) ∧
      lex (saveMsgDataSql mysqlEscape breakingMessage).text = some (savePieces breakingMessage) := by
  have read : passwordFrom breakingLogin [] = some ("' OR '1'='1".toList.map ascii) := by
    decide +kernel
  have short : LoginFits mysqlEscape breakingLogin [] := ⟨_, read, by decide +kernel⟩
  have say := statements_say mysqlEscape_escaping short (.fresh 0 100000) breakingMessage 100000 1000
  obtain ⟨password, sql, same, printed, meant⟩ := say.login
  obtain rfl := Option.some.inj (same.symm.trans read)
  exact ⟨⟨sql, printed, meant.means⟩, say.save.means⟩

end SocketMessage.Server
