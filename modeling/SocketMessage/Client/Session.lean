import Mathlib.Logic.Function.Basic
import SocketMessage.Lib.Transition
import SocketMessage.Wire.Dispatch

/-!
# Who the client says it is

`SocketMessageSdkInterface` connects to any number of servers, and an `S2CLogin` tells it
who it is for one of them. It keeps one `m_SelfUserId` for all. Beside the object stands
what has become of each id that `ConnectServer` returned, and which user its server has
confirmed last.
-/

namespace SocketMessage.Client

open SocketMessage.Lib SocketMessage.Wire

/-- An id: `ConnectServer` has not returned it; its connection has gone; it is connected,
and its last successful `S2CLogin` had this user. -/
inductive Session where
  | unknown
  | disconnected
  | connected (login : Option CInt)
deriving DecidableEq, Repr

/-- The user of the last successful `S2CLogin`, on a connection that is still open. -/
def Session.login : Session → Option CInt
  | .connected login => login
  | _ => none

/-- The object: `m_SelfUserId` and for which types an application callback is set. -/
structure SdkState where
  selfUserId : CInt
  callbacks : EDataType → Bool
  sessions : CInt → Session

/-- What happens to the object: the application sets callbacks, `ConnectServer` returns an
id, a package of a connection is handed over, a connection is closed. -/
inductive SdkEvent where
  | setCallbacks (callbacks : EDataType → Bool)
  | connectServer (id : CInt)
  | readPackage (id : CInt) (memory : Memory) (data : List Byte)
  | disconnect (id : CInt)

/-- `ID_INVALID`. -/
def idInvalid : CInt := -1

/-- The user of a package that is a successful `S2CLogin`. -/
def loginOf (memory : Memory) (data : List Byte) : Option CInt :=
  match socketReadReadPackageCallback (fun _ => true) memory data with
  | .decoded (.login answer) => if answer.userId ≠ -1 then some answer.userId else none
  | _ => none

namespace SdkState

/-- The constructor. -/
def construct : SdkState where
  selfUserId := 0
  callbacks := fun _ => false
  sessions := fun _ => .unknown

/-- `SendDataMsg` up to the package, which `SEND_DATA` serializes and sends. -/
def sendDataMsg (state : SdkState) (memory : DataMsg) (now id msgType recvUserId : CInt)
    (isGroup : Bool) (msg ext : List Byte) : Option DataMsg :=
  if id = idInvalid ∨ state.selfUserId = 0 then none
  else
    some { memory.construct .c2SDataMsg with
      msgType, sender := state.selfUserId, receiver := recvUserId, isGroup, createdTime := now
      msg, extend := ext }

/-- `SendGetDataMsgList` up to the package. -/
def sendGetDataMsgList (state : SdkState) (id lastMsgId : CInt) : Option C2SGetDataMsgList :=
  if id = idInvalid ∨ state.selfUserId = 0 then none
  else some { C2SGetDataMsgList.fresh lastMsgId state.selfUserId with lastMsgId }

/-- `DataHandlerS2CLogin`, once its callback is known to be set and the package is
decoded. -/
def dataHandlerS2CLogin (state : SdkState) (login : S2CLogin) : SdkState :=
  if login.userId ≠ -1 then { state with selfUserId := login.userId } else state

/-- What has become of an id. -/
def become (state : SdkState) (id : CInt) (session : Session) : SdkState :=
  { state with sessions := Function.update state.sessions id session }

/-- The record of a package. -/
def record (state : SdkState) (id : CInt) : Option CInt → SdkState
  | some user => state.become id (.connected (some user))
  | none => state

/-- `SocketReadReadPackageCallback` for a package of an open connection. A decoder that
leaves the package ends the run. -/
def readPackage (state : SdkState) (id : CInt) (memory : Memory) (data : List Byte) :
    Option SdkState :=
  match socketReadReadPackageCallback state.callbacks memory data with
  | .outside => none
  | .decoded (.login login) => some ((state.dataHandlerS2CLogin login).record id (loginOf memory data))
  | _ => some (state.record id (loginOf memory data))

/-- One step. An id that is open is not returned again. -/
def step (state : SdkState) : SdkEvent → Option SdkState
  | .setCallbacks callbacks => some { state with callbacks }
  | .connectServer id =>
      match state.sessions id with
      | .connected _ => none
      | _ => if id = idInvalid then none else some (state.become id (.connected none))
  | .readPackage id memory data =>
      match state.sessions id with
      | .connected _ => state.readPackage id memory data
      | _ => none
  | .disconnect id =>
      match state.sessions id with
      | .connected _ => some (state.become id .disconnected)
      | _ => none

end SdkState

/-- One object of the SDK from its constructor on. -/
def sdkSystem : LabelledSystem SdkState SdkEvent := .ofStep .construct SdkState.step

namespace SdkState

variable {state next : SdkState} {event : SdkEvent}

@[simp] theorem sessions_become_self (id : CInt) (session : Session) :
    (state.become id session).sessions id = session :=
  Function.update_self ..

theorem sessions_become_of_ne {id other : CInt} {session : Session} (different : other ≠ id) :
    (state.become id session).sessions other = state.sessions other :=
  Function.update_of_ne different ..

/-! ## What the object should say -/

/-- On each id that `ConnectServer` has returned, the two requests get past their check
exactly when a user is logged in there, and name this user. -/
structure Identified (state : SdkState) : Prop where
  sendDataMsg : ∀ id, state.sessions id ≠ .unknown → ∀ memory now msgType recvUserId isGroup msg ext,
    (state.sendDataMsg memory now id msgType recvUserId isGroup msg ext).map DataMsg.sender =
      (state.sessions id).login
  sendGetDataMsgList : ∀ id, state.sessions id ≠ .unknown → ∀ lastMsgId,
    (state.sendGetDataMsgList id lastMsgId).map C2SGetDataMsgList.userId = (state.sessions id).login

/-- Whom the requests name, if they get past their check. -/
def self (state : SdkState) : Option CInt :=
  if state.selfUserId = 0 then none else some state.selfUserId

theorem sender_sendDataMsg {id : CInt} (valid : id ≠ idInvalid) (memory : DataMsg)
    (now msgType recvUserId : CInt) (isGroup : Bool) (msg ext : List Byte) :
    (state.sendDataMsg memory now id msgType recvUserId isGroup msg ext).map DataMsg.sender =
      state.self := by
  unfold sendDataMsg self
  by_cases nobody : state.selfUserId = 0
  · rw [if_pos (Or.inr nobody), if_pos nobody]
    rfl
  · rw [if_neg (not_or.mpr ⟨valid, nobody⟩), if_neg nobody]
    rfl

theorem userId_sendGetDataMsgList {id : CInt} (valid : id ≠ idInvalid) (lastMsgId : CInt) :
    (state.sendGetDataMsgList id lastMsgId).map C2SGetDataMsgList.userId = state.self := by
  unfold sendGetDataMsgList self
  by_cases nobody : state.selfUserId = 0
  · rw [if_pos (Or.inr nobody), if_pos nobody]
    rfl
  · rw [if_neg (not_or.mpr ⟨valid, nobody⟩), if_neg nobody]
    rfl

/-- `ConnectServer` does not return `ID_INVALID` for a connection. -/
def Valid (state : SdkState) : Prop := state.sessions idInvalid = .unknown

/-- The two requests name the same user on every connection, whoever is logged in there. -/
theorem identified_iff (valid : state.Valid) :
    state.Identified ↔
      ∀ id, state.sessions id ≠ .unknown → (state.sessions id).login = state.self := by
  have isValid : ∀ id, state.sessions id ≠ .unknown → id ≠ idInvalid := by
    rintro id known rfl
    exact known valid
  constructor
  · intro identified id known
    rw [← identified.sendGetDataMsgList id known 0, userId_sendGetDataMsgList (isValid id known)]
  · intro same
    refine ⟨fun id known memory now msgType recvUserId isGroup msg ext => ?_,
      fun id known lastMsgId => ?_⟩
    · rw [sender_sendDataMsg (isValid id known), same id known]
    · rw [userId_sendGetDataMsgList (isValid id known), same id known]

/-! ## What a package changes -/

/-- An `S2CLogin` reaches its handler when the login callback is set. -/
theorem dispatched_login_iff {callbacks : EDataType → Bool} {memory : Memory} {data : List Byte}
    {answer : S2CLogin} :
    socketReadReadPackageCallback callbacks memory data = .decoded (.login answer) ↔
      callbacks .s2CLogin = true ∧
        socketReadReadPackageCallback (fun _ => true) memory data = .decoded (.login answer) := by
  have decoded : ∀ {α : Type} {wrap : α → Answer} {result : Option α} {value : Answer},
      Dispatched.ofDecoded wrap result = .decoded value ↔
        ∃ content, result = some content ∧ wrap content = value := by
    intro α wrap result value
    cases result <;> simp [Dispatched.ofDecoded]
  unfold socketReadReadPackageCallback
  cases dispatchedType clientDataTypes data with
  | none => simp
  | some dataType => cases set : callbacks dataType <;> cases dataType <;> simp [Option.filter, set, decoded]

/-- The object's user after a package. -/
def selfAfter (state : SdkState) (login : Option CInt) : CInt :=
  match login with
  | some user => if state.callbacks .s2CLogin then user else state.selfUserId
  | none => state.selfUserId

theorem loginOf_of_decoded {memory : Memory} {data : List Byte} {answer : S2CLogin}
    (decoded : socketReadReadPackageCallback (fun _ => true) memory data = .decoded (.login answer)) :
    loginOf memory data = if answer.userId ≠ -1 then some answer.userId else none := by
  rw [loginOf, decoded]

/-- Only an `S2CLogin` logs a user in. -/
theorem decoded_of_loginOf {memory : Memory} {data : List Byte} {user : CInt}
    (loggedIn : loginOf memory data = some user) :
    ∃ answer, socketReadReadPackageCallback (fun _ => true) memory data =
      .decoded (.login answer) := by
  unfold loginOf at loggedIn
  split at loggedIn
  · next answer decoded => exact ⟨answer, decoded⟩
  · cases loggedIn

/-- What a package does: the record takes a successful login, and so does the object when
the login callback is set. -/
theorem readPackage_eq {id : CInt} {memory : Memory} {data : List Byte}
    (read : state.readPackage id memory data = some next) :
    next = { state.record id (loginOf memory data) with
      selfUserId := state.selfAfter (loginOf memory data) } := by
  unfold readPackage at read
  split at read
  · cases read
  · next login dispatched =>
    obtain ⟨set, decoded⟩ := dispatched_login_iff.mp dispatched
    obtain rfl := Option.some.inj read
    rw [loginOf_of_decoded decoded]
    by_cases refused : login.userId = -1
    · simp [dataHandlerS2CLogin, selfAfter, record, refused]
    · rw [dataHandlerS2CLogin, if_pos refused, if_pos refused]
      simp [selfAfter, record, become, set]
  · next dispatched =>
    obtain rfl := Option.some.inj read
    cases loggedIn : loginOf memory data with
    | none => rfl
    | some user =>
        obtain ⟨answer, decoded⟩ := decoded_of_loginOf loggedIn
        have unset : state.callbacks .s2CLogin ≠ true := by
          intro set
          exact dispatched answer (dispatched_login_iff.mpr ⟨set, decoded⟩)
        simp [selfAfter, record, become, unset]

/-- What a step does to the ids and to the object's user. -/
inductive Moves (state : SdkState) : SdkEvent → SdkState → Prop where
  | setCallbacks {callbacks : EDataType → Bool} :
      Moves state (.setCallbacks callbacks) { state with callbacks }
  | connectServer {id : CInt} (isValid : id ≠ idInvalid) :
      Moves state (.connectServer id) (state.become id (.connected none))
  | readPackage {id : CInt} {memory : Memory} {data : List Byte} {login : Option CInt}
      (isOpen : state.sessions id = .connected login) :
      Moves state (.readPackage id memory data)
        { state.record id (loginOf memory data) with
          selfUserId := state.selfAfter (loginOf memory data) }
  | disconnect {id : CInt} {login : Option CInt} (isOpen : state.sessions id = .connected login) :
      Moves state (.disconnect id) (state.become id .disconnected)

theorem moves_of_step (stepped : state.step event = some next) : state.Moves event next := by
  cases event with
  | setCallbacks callbacks =>
      obtain rfl := Option.some.inj stepped
      exact .setCallbacks
  | connectServer id =>
      simp only [SdkState.step] at stepped
      split at stepped
      · cases stepped
      · obtain ⟨isValid, same⟩ := Option.ite_none_left_eq_some.mp stepped
        cases same
        exact .connectServer isValid
  | readPackage id memory data =>
      simp only [SdkState.step] at stepped
      split at stepped
      · next isOpen =>
        obtain rfl := readPackage_eq stepped
        exact .readPackage isOpen
      · cases stepped
  | disconnect id =>
      simp only [SdkState.step] at stepped
      split at stepped
      · next isOpen =>
        obtain rfl := Option.some.inj stepped
        exact .disconnect isOpen
      · cases stepped

/-! ## When it says so -/

/-- The steps after which the object still speaks for each of its connections: none comes
or goes once it has a user; and a login it hears of is the one of all other ids, while one
it does not hear of, for want of a callback, is the one it has. -/
def Allowed (state : SdkState) : SdkEvent → Prop
  | .setCallbacks _ => True
  | .connectServer _ | .disconnect _ => state.selfUserId = 0
  | .readPackage id memory data => ∀ user, loginOf memory data = some user →
      user ≠ 0 ∧ if state.callbacks .s2CLogin then
        ∀ other, other ≠ id → state.sessions other ≠ .unknown →
          (state.sessions other).login = some user
      else user = state.selfUserId

/-- An id other than `ID_INVALID` changes. -/
theorem Valid.become {id : CInt} (valid : state.Valid) (isValid : id ≠ idInvalid)
    (session : Session) : (state.become id session).Valid :=
  (sessions_become_of_ne isValid.symm).trans valid

/-- An id that is open is not `ID_INVALID`. -/
theorem Valid.ne (valid : state.Valid) {id : CInt} {login : Option CInt}
    (isOpen : state.sessions id = .connected login) : id ≠ idInvalid := by
  rintro rfl
  rw [valid] at isOpen
  cases isOpen

theorem Valid.record {id : CInt} (valid : state.Valid) (isValid : id ≠ idInvalid) :
    ∀ login, (state.record id login).Valid
  | some _ => valid.become isValid _
  | none => valid

theorem Valid.step (valid : state.Valid) (stepped : state.step event = some next) : next.Valid := by
  cases moves_of_step stepped with
  | setCallbacks => exact valid
  | connectServer isValid => exact valid.become isValid _
  | readPackage isOpen => exact valid.record (valid.ne isOpen) _
  | disconnect isOpen => exact valid.become (valid.ne isOpen) _

theorem valid_of_reachable (reachable : sdkSystem.Reachable state) : state.Valid :=
  reachable.invariant (rfl : construct.Valid) fun _ _ _ valid stepped => valid.step stepped

/-- A connection nobody is logged in on comes or goes. -/
theorem identified_become_iff {id : CInt} {session : Session} (valid : state.Valid)
    (identified : state.Identified) (validAfter : (state.become id session).Valid)
    (known : session ≠ .unknown) (nobody : session.login = none) :
    state.selfUserId = 0 ↔ (state.become id session).Identified := by
  rw [identified_iff validAfter]
  constructor
  · intro noUser other otherKnown
    by_cases isId : other = id
    · subst isId
      rw [sessions_become_self, nobody]
      exact (if_pos noUser).symm
    · rw [sessions_become_of_ne isId] at otherKnown ⊢
      exact (identified_iff valid).mp identified other otherKnown
  · intro same
    have none_eq := same id (by rwa [sessions_become_self])
    rw [sessions_become_self, nobody] at none_eq
    by_contra hasUser
    have named : (state.become id session).self = some state.selfUserId := if_neg hasUser
    rw [named] at none_eq
    cases none_eq

/-- A user logs in, and the object has some user then. -/
theorem identified_login_iff {id user selfUserId : CInt}
    (validAfter : Valid { state.become id (.connected (some user)) with selfUserId }) :
    Identified { state.become id (.connected (some user)) with selfUserId } ↔
      user ≠ 0 ∧ user = selfUserId ∧ ∀ other, other ≠ id → state.sessions other ≠ .unknown →
        (state.sessions other).login = some user := by
  rw [identified_iff validAfter]
  constructor
  · intro same
    have atId := same id (by simp)
    simp only [sessions_become_self] at atId
    have isUser : some user = if selfUserId = 0 then none else some selfUserId := atId
    obtain ⟨hasUser, isSame⟩ := Option.ite_none_left_eq_some.mp isUser.symm
    obtain rfl := Option.some.inj isSame
    refine ⟨hasUser, rfl, fun other different known => ?_⟩
    have unchanged := @sessions_become_of_ne state _ _ (.connected (some selfUserId)) different
    have others := same other (by simpa only [unchanged] using known)
    simp only [unchanged] at others
    exact others.trans (if_neg hasUser)
  · rintro ⟨hasUser, rfl, others⟩ other known
    refine Eq.trans ?_ (if_neg hasUser).symm
    by_cases isId : other = id
    · subst isId
      simp [Session.login]
    · have unchanged := @sessions_become_of_ne state _ _ (.connected (some user)) isId
      simp only [unchanged] at known ⊢
      exact others other isId known

/-- In a state where the object speaks for each connection, a step leaves it so exactly when
it is allowed. -/
theorem allowed_iff (valid : state.Valid) (identified : state.Identified)
    (stepped : state.step event = some next) : state.Allowed event ↔ next.Identified := by
  have validAfter := valid.step stepped
  cases moves_of_step stepped with
  | setCallbacks =>
      exact iff_of_true trivial ((identified_iff validAfter).mpr ((identified_iff valid).mp identified))
  | connectServer _ => exact identified_become_iff valid identified validAfter nofun rfl
  | @readPackage id memory data _ isOpen =>
      cases loggedIn : loginOf memory data with
      | none =>
          rw [loggedIn] at validAfter
          refine iff_of_true (fun user isUser => ?_) ?_
          · rw [loggedIn] at isUser
            cases isUser
          · exact (identified_iff validAfter).mpr ((identified_iff valid).mp identified)
      | some user =>
          rw [loggedIn] at validAfter
          rw [record, identified_login_iff validAfter]
          simp only [Allowed, selfAfter, loggedIn, Option.some.injEq, forall_eq']
          refine and_congr_right fun hasUser => ?_
          cases state.callbacks .s2CLogin with
          | true => simp
          | false =>
              simp only [Bool.false_eq_true, if_false]
              refine ⟨fun same => ⟨same, fun other _ known => ?_⟩, And.left⟩
              rw [(identified_iff valid).mp identified other known, same]
              exact if_neg (same ▸ hasUser)
  | disconnect _ => exact identified_become_iff valid identified validAfter nofun rfl

/-- For every sequence of events: the runs whose steps are all allowed are those in which
the object speaks for each of its connections in every state, and such runs end so. -/
theorem identity_iff (events : List SdkEvent) (state : SdkState) :
    (sdkSystem.Runs (fun state event _ => state.Allowed event) events state ↔
        sdkSystem.Runs (fun _ _ next => next.Identified) events state) ∧
      (sdkSystem.Runs (fun state event _ => state.Allowed event) events state →
        state.Identified) := by
  have initial : ∀ state, sdkSystem.Initial state → state.Identified := by
    rintro _ rfl
    exact ⟨fun _ known => absurd rfl known, fun _ known => absurd rfl known⟩
  have runs : sdkSystem.Runs (fun state event _ => state.Allowed event) events state ↔
      sdkSystem.Runs (fun _ _ next => next.Identified) events state := by
    refine LabelledSystem.runs_iff_runs_within (fun _ => valid_of_reachable) initial ?_
    exact fun _ _ _ valid identified stepped => allowed_iff valid identified stepped
  exact ⟨runs, fun run => (runs.mp run).within initial⟩

/-- A successful `S2CLogin` of user 7, without a name. -/
def user7LoggedIn : List Byte :=
  [44, 0, 0, 0, 200, 0, 0, 0, 7, 0, 0, 0] ++ List.replicate 32 0

/-- Two servers; user 7 is logged in on the first. -/
def twoServers : List SdkEvent :=
  [.setCallbacks fun _ => true, .connectServer 5, .connectServer 6,
    .readPackage 5 .zeroed user7LoggedIn]

/-- The second server is sent messages from user 7, who is not logged in there. -/
theorem twoServers_not_identified :
    ∃ state, sdkSystem.Reachable state ∧ state.sessions 6 = .connected none ∧
      (state.sendDataMsg .zeroed 0 6 0 8 false [] []).map DataMsg.sender = some 7 ∧
      (state.sendGetDataMsgList 6 0).map C2SGetDataMsgList.userId = some 7 ∧
        ¬ state.Identified := by
  have followed : ∃ state, LabelledSystem.follow step (fun _ _ _ => True) construct twoServers =
      some state ∧ state.sessions 6 = .connected none ∧
        (state.sendDataMsg .zeroed 0 6 0 8 false [] []).map DataMsg.sender = some 7 ∧
        (state.sendGetDataMsgList 6 0).map C2SGetDataMsgList.userId = some 7 :=
    ⟨_, rfl, by decide, by decide, by decide⟩
  obtain ⟨state, ran, nobody, sender, userId⟩ := followed
  refine ⟨state, ⟨_, LabelledSystem.runs_of_follow ran⟩, nobody, sender, userId, ?_⟩
  intro identified
  have known : state.sessions 6 ≠ .unknown := by
    rw [nobody]
    exact nofun
  have refused := identified.sendGetDataMsgList 6 known 0
  rw [userId, nobody] at refused
  cases refused

end SdkState

end SocketMessage.Client
