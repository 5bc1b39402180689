import SocketMessage.Client.Shown
import SocketMessage.Link.Passage
import SocketMessage.Wire.Decoded

/-!
# A login, from the tables to the application

`DataHandlerC2SLogin` answers a login with three packages, each filled from the tables. If they
fit the write buffer together, they get through, in whatever order the socket threads write them
and however the bytes are cut; the client decodes them and calls the application. What the
callbacks get are the rows.
-/

namespace SocketMessage.Link

open SocketMessage.Lib SocketMessage.Frame SocketMessage.Wire SocketMessage.Server
open SocketMessage.Client

/-! ## What the rows say -/

/-- What is shown of a user. -/
def userShown (row : UserRow) : UserInfo := ⟨row.userId, row.userName.getD []⟩

/-- What is shown of a group and its members. -/
def groupShown (answer : GroupRow × List UserRow) : GroupInfo :=
  ⟨answer.1.groupId, answer.1.groupName.getD [], answer.1.adminId.getD 0, answer.2.map userShown⟩

/-- A name without NUL that fits its field. -/
def NameShown (name : Option (List Byte)) : Prop := 0 ∉ name.getD [] ∧ NameFits name

/-- The rows of `GetUserAllGroup`, each with the members its second query finds. -/
def groupAnswers (tables : Tables) (userId : CInt) : List (GroupRow × List UserRow) :=
  (tables.groupsOf userId).map fun group => (group, tables.membersOf group.groupId)

/-- The directory of a user can be shown: names fit their fields, groups have an administrator,
and the counts fit a `char`. -/
structure Showable (tables : Tables) (userId : CInt) : Prop where
  users : ∀ user ∈ tables.user, NameShown user.userName
  groups : ∀ group ∈ tables.groupsOf userId, NameShown group.groupName ∧ group.adminId.isSome
  fewUsers : tables.user.length ≤ 127
  fewGroups : (tables.groupsOf userId).length ≤ 127

/-- What a login shows. -/
def directory (tables : Tables) (row : UserRow) : List Shown :=
  [.login row.userId (row.userName.getD []), .userList (tables.user.map userShown),
    .groupList ((groupAnswers tables row.userId).map groupShown)]

/-! ## The three packages -/

section Packages

variable {callbacks : EDataType → Bool}

/-- The text of a field that a name has been copied into. -/
theorem readText_of_shown {name : Option (List Byte)} (shown : NameShown name)
    (memory : SizedBytes 32) : readText (nameField memory name) = some (name.getD []) :=
  readText_nameField memory shown.1 shown.2

/-- The result of the login. -/
theorem shows_loginReply (wanted : callbacks .s2CLogin = true) (memory : SizedBytes 32)
    {row : UserRow} (named : NameShown row.userName) :
    ∃ data, loginReplyPackage memory (some row) = some data ∧ data.length = 44 ∧
      SdkState.Shows callbacks data (.login row.userId (row.userName.getD [])) := by
  refine ⟨(S2CLogin.fresh row.userId (nameField memory row.userName)).image.1, ?_,
    SizedBytes.length _, fun memory' => ?_⟩
  · rw [loginReplyPackage, loginReply, copyName_of_fits memory named.2, Option.map_some,
      Option.bind_some, S2CLogin.serialize_fresh]
  · rw [shownBy, decoded_login memory' wanted]
    simp only [shown, S2CLogin.fresh, readText_of_shown named, Option.map_some]

/-- The users of a list. -/
theorem mapM_userInfo (memory : Nat → SizedBytes 32) {rows : List UserRow}
    (named : ∀ row ∈ rows, NameShown row.userName) :
    (userVector memory rows).mapM userInfo = some (rows.map userShown) :=
  mapM_mapIdx_of_some fun row member index => by
    simp only [userInfo, S2CUser.fresh, readText_of_shown (named row member), Option.map_some,
      userShown]

/-- The list of all users. -/
theorem shows_userList (wanted : callbacks .s2CUserList = true) (memory : Nat → SizedBytes 32)
    {rows : List UserRow} (named : ∀ row ∈ rows, NameShown row.userName)
    (few : rows.length ≤ 127) :
    ∃ data, userListPackage memory rows = some data ∧ data.length = 12 + 44 * rows.length ∧
      SdkState.Shows callbacks data (.userList (rows.map userShown)) := by
  let users : S2CUserList := { S2CUserList.fresh with userVector := userVector memory rows }
  have count : users.userVector.length = rows.length := List.length_mapIdx
  have size : users.encodedSize = 12 + 44 * rows.length := by
    rw [← count]
    rfl
  have bounded : users.encodedSize < 2 ^ 31 := by omega
  refine ⟨users.sized.wire, ?_, (S2CUserList.length_wire _).trans size, fun memory' => ?_⟩
  · rw [userListPackage, userListReply_of_fits fun row member => (named row member).2,
      Option.bind_some]
    exact congrArg (Option.map Prod.fst) (users.serialize_eq bounded)
  · rw [shownBy, decoded_userList memory' wanted rfl bounded (count ▸ few)]
    have read := mapM_userInfo memory named
    simp only [shown]
    rw [show users.sized.userVector = userVector memory rows from rfl, read]
    rfl

/-- The groups of a list. -/
theorem mapM_groupInfo (memory : Nat → GroupMemory) {answers : List (GroupRow × List UserRow)}
    (named : ∀ answer ∈ answers, NameShown answer.1.groupName)
    (members : ∀ answer ∈ answers, ∀ row ∈ answer.2, NameShown row.userName) :
    (groupList memory answers).sized.groupVector.mapM groupInfo =
      some (answers.map groupShown) := by
  have sized : (groupList memory answers).sized.groupVector =
      answers.mapIdx fun index answer => (groupOf (memory index) answer).sized :=
    map_mapIdx S2CGroup.sized _ answers
  rw [sized]
  refine mapM_mapIdx_of_some fun answer member index => ?_
  have users := mapM_userInfo (memory index).members (members answer member)
  have name := readText_of_shown (named answer member) (memory index).groupName
  have content : (groupOf (memory index) answer).sized.userList.userVector =
      userVector (memory index).members answer.2 := rfl
  have field : (groupOf (memory index) answer).sized.groupName =
      nameField (memory index).groupName answer.1.groupName := rfl
  simp only [groupInfo, content, field, users, name, Option.bind_eq_bind, Option.bind_some,
    Option.pure_def]
  rfl

/-- The list of the user's groups. -/
theorem shows_groupList (wanted : callbacks .s2CGroupList = true) (memory : Nat → GroupMemory)
    {answers : List (GroupRow × List UserRow)}
    (named : ∀ answer ∈ answers, NameShown answer.1.groupName)
    (members : ∀ answer ∈ answers, ∀ row ∈ answer.2, NameShown row.userName)
    (admins : ∀ answer ∈ answers, answer.1.adminId.isSome) (few : answers.length ≤ 127)
    (fewMembers : ∀ answer ∈ answers, answer.2.length ≤ 127) :
    ∃ data, groupListPackage memory answers = some data ∧ data.length = groupListSize answers ∧
      SdkState.Shows callbacks data (.groupList (answers.map groupShown)) := by
  have bounded : (groupList memory answers).encodedSize < 2 ^ 31 := by
    have each : ∀ size ∈ answers.map fun answer => 48 + (12 + 44 * answer.2.length), size ≤ 5648 := by
      intro size member
      obtain ⟨answer, inside, rfl⟩ := List.mem_map.mp member
      have few := fewMembers answer inside
      omega
    have total := List.sum_le_card_nsmul _ _ each
    rw [List.length_map, Nat.nsmul_eq_mul] at total
    rw [encodedSize_groupList, groupListSize]
    omega
  have count : (groupList memory answers).groupVector.length ≤ 127 := by
    rwa [groupList, List.length_mapIdx]
  have counts : ∀ group ∈ (groupList memory answers).groupVector,
      group.userList.userVector.length ≤ 127 := by
    intro group member
    obtain ⟨index, inside, rfl⟩ := List.mem_mapIdx.mp member
    have entries : (groupOf (memory index) answers[index]).userList.userVector.length =
        answers[index].2.length := List.length_mapIdx
    rw [entries]
    exact fewMembers _ (List.getElem_mem inside)
  have serialized := (groupList memory answers).serialize_eq bounded
  obtain ⟨result, total, size⟩ := (groupList memory answers).encodes.total bounded
  rw [encodedSize_groupList] at size
  obtain rfl := Option.some.inj (serialized.symm.trans total)
  refine ⟨(groupList memory answers).sized.wire, ?_, size, fun memory' => ?_⟩
  · rw [groupListPackage, groupListReply_of_fits fun answer member =>
      ⟨(named answer member).2, fun row inside => (members answer member row inside).2⟩,
      if_pos admins, Option.bind_some]
    exact congrArg (Option.map Prod.fst) serialized
  · rw [shownBy, decoded_groupList memory' wanted rfl bounded count counts]
    simp only [shown, mapM_groupInfo memory named members, Option.map_some]

end Packages

/-! ## The login and its replies -/

/-- The client's callbacks for the replies to a login are set. -/
structure Listens (callbacks : EDataType → Bool) : Prop where
  login : callbacks .s2CLogin = true
  userList : callbacks .s2CUserList = true
  groupList : callbacks .s2CGroupList = true

/-- What the memory of the objects holds that a login's replies are built in. -/
structure LoginMemory where
  login : SizedBytes 32
  users : Nat → SizedBytes 32
  groups : Nat → GroupMemory

/-- All objects in equal memory. -/
def LoginMemory.same (memory : SizedBytes 32) : LoginMemory :=
  ⟨memory, fun _ => memory, fun _ => ⟨memory, fun _ => memory⟩⟩

/-- `DataHandlerC2SLogin` over the tables, each object in memory of its own. -/
def loginActions (tables : Tables) (memory : LoginMemory) (condition : UserRow → Bool) :
    List HandlerAction :=
  match loginReply memory.login (tables.user.find? condition) with
  | none => [.fail]
  | some (isLogin, loginRet) =>
      withSerialized loginRet.serialize fun spLogin =>
        if !isLogin then [.answer spLogin]
        else .answer spLogin :: .clientOpen loginRet.userId ::
          withSerialized (userListPackage memory.users tables.user) fun spAllUser =>
            .answer spAllUser ::
              withSerialized (groupListPackage memory.groups (groupAnswers tables loginRet.userId))
                fun spGroupList => [.answer spGroupList]

/-- In equal memory, this is the handler. -/
theorem loginActions_same (tables : Tables) (memory : SizedBytes 32) (condition : UserRow → Bool) :
    loginActions tables (.same memory) condition = tables.dataHandlerC2SLogin memory condition := by
  have login := fun userId => (tables.replies_eq memory condition userId).1
  have users := fun userId => (tables.replies_eq memory condition userId).2.1
  have groups := fun userId => (tables.replies_eq memory condition userId).2.2
  rw [loginActions, Tables.dataHandlerC2SLogin, login 0, LoginMemory.same]
  rcases loginReply memory (tables.user.find? condition) with _ | ⟨isLogin, loginRet⟩
  · rfl
  · simp only [users 0, groups, userListPackage, groupListPackage, groupAnswers]

/-- The size of the three frames together. -/
def loginSize (tables : Tables) (userId : CInt) : Nat :=
  48 + (4 + (12 + 44 * tables.user.length)) + (4 + groupListSize (groupAnswers tables userId))

/-- The handler's three replies are shown, and are as large as the tables make them. -/
theorem exists_replies {tables : Tables} {condition : UserRow → Bool} {row : UserRow}
    (found : tables.user.find? condition = some row) (showable : Showable tables row.userId)
    (memory : LoginMemory) {callbacks : EDataType → Bool} (listens : Listens callbacks) :
    ∃ login users groups,
      loginActions tables memory condition =
        [.answer login, .clientOpen row.userId, .answer users, .answer groups] ∧
      (frames [login, users, groups]).length = loginSize tables row.userId ∧
      List.Forall₂ (SdkState.Shows callbacks) [login, users, groups] (directory tables row) := by
  have named := showable.users row (List.mem_of_find?_eq_some found)
  have memberOf : ∀ answer ∈ groupAnswers tables row.userId,
      answer.1 ∈ tables.groupsOf row.userId ∧ answer.2 = tables.membersOf answer.1.groupId := by
    intro answer member
    obtain ⟨group, inside, rfl⟩ := List.mem_map.mp member
    exact ⟨inside, rfl⟩
  obtain ⟨login, loginBuilt, loginLength, loginShown⟩ :=
    shows_loginReply listens.login memory.login named
  obtain ⟨users, usersBuilt, usersLength, usersShown⟩ :=
    shows_userList listens.userList memory.users showable.users showable.fewUsers
  obtain ⟨groups, groupsBuilt, groupsLength, groupsShown⟩ :=
    @shows_groupList callbacks listens.groupList memory.groups (groupAnswers tables row.userId)
      (fun answer member => (showable.groups _ (memberOf answer member).1).1)
      (fun answer member user inside => showable.users user
        (List.mem_of_mem_filter ((memberOf answer member).2 ▸ inside)))
      (fun answer member => (showable.groups _ (memberOf answer member).1).2)
      (by rw [groupAnswers, List.length_map]; exact showable.fewGroups)
      (fun answer member => (memberOf answer member).2 ▸
        Nat.le_trans (List.length_filter_le _ _) showable.fewUsers)
  refine ⟨login, users, groups, ?_, ?_,
    .cons loginShown (.cons usersShown (.cons groupsShown .nil))⟩
  · obtain ⟨reply, replied, serialized⟩ := Option.bind_eq_some_iff.mp loginBuilt
    obtain ⟨userName, copied, rfl⟩ := Option.map_eq_some_iff.mp replied
    have packed : (S2CLogin.fresh row.userId userName).serialize = some login := serialized
    have answered : loginReply memory.login (some row) =
        some (true, S2CLogin.fresh row.userId userName) := replied
    have self : (S2CLogin.fresh row.userId userName).userId = row.userId := rfl
    simp only [loginActions, found, answered, packed, self, usersBuilt, groupsBuilt, withSerialized,
      Bool.not_true, Bool.false_eq_true, if_false]
  · simp only [frames, List.flatMap_cons, List.flatMap_nil, List.append_nil, List.length_append,
      length_frame, loginLength, usersLength, groupsLength, loginSize]
    omega

/-! ## Over the connection -/

/-- The client has handled what it has received of the packages behind those before, each in
memory of its own: the calls are the first of those that all of them make, and all of them once
nothing is under way. -/
def ShownInOrder {σ : Type} (before channel : Channel σ Unit) (id : CInt) (state : SdkState)
    (order : List Shown) : Prop :=
  ∀ packages : List (Memory × List Byte),
    packages.map Prod.snd = channel.receiver.delivered.drop before.accepted.length →
      ∃ next calls, SdkState.handlePackages id state packages = some (next, calls) ∧
        calls <+: order ∧
        (channel.network = [] → channel.sender.buffer.content = [] → calls = order ∧
          next.selfUserId =
            order.foldl (fun user call => (SdkState.loggedIn call).getD user) state.selfUserId)

/-- Whatever happens on the connection while threads of the server write the packages, in any
order: `SendPackage` takes each that is still to come, `Write` has taken the others, and the
client shows them in the order in which they were written. -/
def Passes {σ : Type} (writeCallback : σ → Bool → σ) (before : Channel σ Unit) (state : SdkState)
    (packages : List (List Byte × Shown)) : Prop :=
  ∀ (written rest : List (List Byte × Shown)) (channel : Channel σ Unit),
    (written ++ rest).Perm packages →
    before.Writes writeCallback clientCallback (written.map Prod.fst) channel →
      (∀ package ∈ rest, channel.ServerSends package.1) ∧
      channel.accepted = before.accepted ++ written.map Prod.fst ∧
      ∀ id, ShownInOrder before channel id state (written.map Prod.snd)

/-- The packages received, next to what each of them shows. -/
theorem shows_of_received {callbacks : EDataType → Bool} {packages : List (Memory × List Byte)}
    {shown : List (List Byte × Shown)} (received : packages.map Prod.snd = shown.map Prod.fst)
    (shows : ∀ package ∈ shown, SdkState.Shows callbacks package.1 package.2) :
    List.Forall₂ (fun package call => SdkState.Shows callbacks package.2 call) packages
      (shown.map Prod.snd) := by
  induction packages generalizing shown with
  | nil =>
      rw [List.map_eq_nil_iff.mp received.symm]
      exact .nil
  | cons package packages inductionHypothesis =>
      obtain ⟨first, rest, rfl, same, others⟩ := List.map_eq_cons_iff.mp received.symm
      refine .cons ?_ (inductionHypothesis others.symm fun other member =>
        shows other (List.mem_cons_of_mem _ member))
      rw [← same]
      exact shows first List.mem_cons_self

/-- Packages that are shown are shown in the order in which they are received. -/
theorem shownInOrder {σ : Type} {before channel : Channel σ Unit}
    {order : List (List Byte × Shown)} {state : SdkState}
    (receives : before.Receives channel (order.map Prod.fst))
    (shows : ∀ package ∈ order, SdkState.Shows state.callbacks package.1 package.2) (id : CInt) :
    ShownInOrder before channel id state (order.map Prod.snd) := by
  intro packages received
  obtain ⟨count, delivered⟩ : ∃ count, channel.receiver.delivered.drop before.accepted.length =
      (order.take count).map Prod.fst :=
    ⟨_, (List.prefix_iff_eq_take.mp receives.received).trans (List.map_take).symm⟩
  have each := shows_of_received (received.trans delivered) fun package member =>
    shows package (List.mem_of_mem_take member)
  obtain ⟨next, handled, user⟩ := SdkState.handlePackages_of_shows id each
  refine ⟨next, _, handled, ?_, fun network buffer => ?_⟩
  · rw [List.map_take]
    exact List.take_prefix _ _
  · have all := receives.finished network buffer
    rw [all, List.drop_left] at delivered
    have whole : order.take count = order := by
      refine List.take_of_length_le ?_
      have length := congrArg List.length delivered
      rw [List.length_map, List.length_map, List.length_take] at length
      omega
    rw [whole] at user ⊢
    exact ⟨rfl, user⟩

/-- Packages that have room together and are shown pass. -/
theorem passes_of_room {σ : Type} {writeCallback : σ → Bool → σ} {before : Channel σ Unit}
    (used : before.Used writeCallback clientCallback) {packages : List (List Byte × Shown)}
    (room : before.RoomFor (packages.map Prod.fst)) {state : SdkState}
    (shows : ∀ package ∈ packages, SdkState.Shows state.callbacks package.1 package.2) :
    Passes writeCallback before state packages := by
  intro written rest channel perm writes
  have heads : ∀ data ∈ packages.map Prod.fst, data ≠ [] := by
    rintro data member rfl
    obtain ⟨package, inside, empty⟩ := List.mem_map.mp member
    exact SdkState.not_shows_nil (empty ▸ shows package inside)
  obtain ⟨accepted, free, receives⟩ := used.passage (fun _ _ => rfl) room heads
    (by rw [← List.map_append]; exact perm.map Prod.fst) writes
  refine ⟨fun package member => ?_, accepted, shownInOrder receives fun package member =>
    shows package (perm.mem_iff.mp (List.mem_append_left _ member))⟩
  exact free.serverSends (List.mem_map_of_mem member)

/-- A package that is shown passes exactly when its frame has room. -/
theorem passes_singleton_iff {σ : Type} {writeCallback : σ → Bool → σ} {before : Channel σ Unit}
    (used : before.Used writeCallback clientCallback) {data : List Byte} {call : Shown}
    (small : data.length < 2 ^ 31) {state : SdkState}
    (shows : SdkState.Shows state.callbacks data call) :
    Passes writeCallback before state [(data, call)] ↔
      before.sender.buffer.used + (4 + data.length) ≤ writeBufMaxSize := by
  rw [← Channel.roomFor_singleton]
  constructor
  · intro passes
    obtain ⟨sends, -⟩ := passes [] [(data, call)] before (.refl _) Channel.writes_nil
    have taken : before.ServerSends data := sends (data, call) List.mem_cons_self
    exact (Channel.serverSends_iff small).mp taken
  · intro room
    refine @passes_of_room _ _ _ used [(data, call)] room _ fun package member => ?_
    rw [List.mem_singleton.mp member]
    exact shows

/-- Where the calls name one user and no other, this is who the object is afterwards. -/
theorem foldl_loggedIn {calls : List Shown} {user : CInt} (self : CInt)
    (named : ∃ call ∈ calls, SdkState.loggedIn call = some user)
    (others : ∀ call ∈ calls, ∀ other, SdkState.loggedIn call = some other → other = user) :
    calls.foldl (fun user call => (SdkState.loggedIn call).getD user) self = user := by
  have last : ∀ (calls : List Shown) (self : CInt), (∀ call ∈ calls, ∀ other,
      SdkState.loggedIn call = some other → other = user) → self = user ∨
        (∃ call ∈ calls, SdkState.loggedIn call = some user) →
      calls.foldl (fun user call => (SdkState.loggedIn call).getD user) self = user := by
    intro calls
    induction calls with
    | nil =>
        rintro self - (same | ⟨call, member, -⟩)
        · exact same
        · cases member
    | cons call calls inductionHypothesis =>
        intro self others named
        refine inductionHypothesis _ (fun other member =>
          others other (List.mem_cons_of_mem _ member)) ?_
        simp only
        cases logged : SdkState.loggedIn call with
        | some other => exact .inl (others call List.mem_cons_self other logged)
        | none =>
            rcases named with same | ⟨namer, member, names⟩
            · exact .inl same
            · rcases List.mem_cons.mp member with rfl | later
              · cases logged.symm.trans names
              · exact .inr ⟨namer, later, names⟩
  exact last calls self others (.inr named)

/-- A login that finds its user: the handler answers with three packages, whatever memory each of
its objects is built in; if it is equal, this is the handler over the tables. On a connection in
use with room for the three frames, in whatever order the threads write them and however the bytes
are taken and cut, all of them pass: the application is shown the result and the rows of the
tables, each once, and the object is the user from then on. -/
theorem login_shown {tables : Tables} {condition : UserRow → Bool} {row : UserRow}
    (found : tables.user.find? condition = some row) (valid : row.userId ≠ -1)
    (showable : Showable tables row.userId) (memory : LoginMemory) {state : SdkState}
    (listens : Listens state.callbacks) :
    (∀ text, tables.dataHandlerC2SLogin text condition =
        loginActions tables (.same text) condition) ∧
    ∃ login users groups,
      loginActions tables memory condition =
        [.answer login, .clientOpen row.userId, .answer users, .answer groups] ∧
      (∀ {σ : Type} (writeCallback : σ → Bool → σ) (before : Channel σ Unit),
        before.Used writeCallback clientCallback →
        before.sender.buffer.used + loginSize tables row.userId ≤ writeBufMaxSize →
          Passes writeCallback before state
            ([login, users, groups].zip (directory tables row))) ∧
      ∀ calls : List Shown, calls.Perm (directory tables row) →
        calls.foldl (fun user call => (SdkState.loggedIn call).getD user) state.selfUserId =
          row.userId := by
  obtain ⟨login, users, groups, handled, size, shows⟩ :=
    exists_replies found showable memory listens
  refine ⟨fun text => (loginActions_same tables text condition).symm, login, users, groups, handled,
    fun writeCallback before used room => ?_, fun calls perm => foldl_loggedIn _ ?_ ?_⟩
  · refine passes_of_room used ?_ fun package member =>
      (List.forall₂_iff_zip.mp shows).2 member
    rw [← size] at room
    exact room
  · exact ⟨.login row.userId (row.userName.getD []), perm.mem_iff.mpr List.mem_cons_self,
      if_pos valid⟩
  · intro call member other named
    have inside := perm.mem_iff.mp member
    simp only [directory, List.mem_cons, List.not_mem_nil, or_false] at inside
    rcases inside with rfl | rfl | rfl
    · rw [SdkState.loggedIn, if_pos valid] at named
      exact (Option.some.inj named).symm
    · cases named
    · cases named

/-- A client that has set all its callbacks. -/
def listening : SdkState := { SdkState.construct with callbacks := fun _ => true }

/-- Each object in memory with other contents. -/
def staffMemory : LoginMemory where
  login := ⟨List.replicate 32 1, rfl⟩
  users index := ⟨List.replicate 32 (BitVec.ofNat 8 index), rfl⟩
  groups _ := ⟨.zeros 32, fun index => ⟨List.replicate 32 (BitVec.ofNat 8 (7 * index)), rfl⟩⟩

/-- The packages of a handler's answers. -/
def answersOf (actions : List HandlerAction) : List (List Byte) :=
  actions.filterMap fun action => match action with
    | .answer data => some data
    | _ => none

/-- The answers to the login of the first of the staff. -/
def staffPackages : List (List Byte) :=
  answersOf (loginActions staff staffMemory fun user => user.userId = 100000)

/-- Three threads write them, the last one first; one of them sends them, and the client reads
all of it at once. -/
def staffRun : List ChannelEvent :=
  staffPackages.reverse.mapIdx .write ++ [.send (.lock 0),
    .send (.send 0 (.accepted (frames staffPackages.reverse).length)),
    .recv (.received (frames staffPackages.reverse))]

/-- The application is shown the groups, the users and the result. -/
theorem staff_shown :
    ∃ channel : Channel Bool Unit,
      channel.accepted = staffPackages.reverse ∧ channel.network = [] ∧
      channel.sender.buffer.content = [] ∧
      ShownInOrder (.start false () (.zeros writeBufMaxSize) zeroMemory) channel 5 listening
        [.groupList
            [⟨1, [97, 108, 108], 100001, [⟨100000, [97, 110, 110]⟩, ⟨100001, [98, 111, 98]⟩]⟩,
              ⟨2, [], 100000,
                [⟨100000, [97, 110, 110]⟩, ⟨100001, [98, 111, 98]⟩, ⟨100002, []⟩]⟩],
          .userList [⟨100000, [97, 110, 110]⟩, ⟨100001, [98, 111, 98]⟩, ⟨100002, []⟩],
          .login 100000 [97, 110, 110]] := by
  obtain ⟨-, login, users, groups, handled, passes, -⟩ :=
    @login_shown staff (fun user => user.userId = 100000) ⟨100000, some [97, 110, 110]⟩ find_staff
      (by decide)
      ⟨by simp [staff, NameShown, NameFits], by simp [staff, Tables.groupsOf, NameShown, NameFits],
        by decide, by decide⟩ staffMemory listening ⟨rfl, rfl, rfl⟩
  have answers : [login, users, groups] = staffPackages := by
    rw [staffPackages, handled]
    rfl
  rw [answers] at passes
  have followed : (LabelledSystem.follow (Channel.step clientWriteCallback clientCallback)
      (fun _ _ _ => True) (.start false () (.zeros writeBufMaxSize) zeroMemory) staffRun).map
        (fun channel => (channel.network, channel.sender.buffer.content)) = some ([], []) := by
    decide +kernel
  obtain ⟨channel, ran, contents⟩ := Option.map_eq_some_iff.mp followed
  obtain ⟨network, content⟩ := Prod.mk.inj contents
  obtain ⟨-, accepted, shown⟩ := passes clientWriteCallback _ (Channel.used_start _ _ _ _)
    (by decide)
    (staffPackages.zip (directory staff ⟨100000, some [97, 110, 110]⟩)).reverse [] channel
    (by rw [List.append_nil]; exact List.reverse_perm _)
    ⟨staffRun, LabelledSystem.runs_of_follow ran, by decide +kernel⟩
  have calls : (staffPackages.zip (directory staff ⟨100000, some [97, 110, 110]⟩)).reverse.map
      Prod.snd = (directory staff ⟨100000, some [97, 110, 110]⟩).reverse := by
    decide +kernel
  refine ⟨channel, accepted.trans (by decide +kernel), network, content, ?_⟩
  have inOrder := shown 5
  rw [calls] at inOrder
  exact inOrder

end SocketMessage.Link
