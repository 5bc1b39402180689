import Mathlib.Data.Int.Order.Basic
import SocketMessage.Lib.OrderedMap
import SocketMessage.Lib.Transition

/-!
# The table of online users

`m_OnlineUserMap` maps a user to the fd of the connection that answers for it. A
login handler enters the user (`ClientOpen`), a closing connection removes an entry
(`ClientSocketState`), and relaying looks users up (`UserId2Cfd`).

Each of the three is one critical section of `m_OnlineUserMutex`, so that handling a
login is one transition: the handler's other steps leave this state alone. It may
come at any time after the connection was accepted, also after it has gone. A
connection is known by the order of its accept; its fd number is free again once it
has been closed.
-/

namespace SocketMessage.Server

open SocketMessage.Lib

/-- `DataHandler::ClientOpen`: `std::map::insert` keeps an entry that is there. -/
def clientOpen (onlineUserMap : OrderedMap Int Int) (cfd userId : Int) : OrderedMap Int Int :=
  onlineUserMap.insert userId cfd

/-- `DataHandler::ClientSocketState`: a closed connection loses the first entry found
for its fd. -/
def clientSocketState (onlineUserMap : OrderedMap Int Int) (cfd : Int) (state : Bool) :
    OrderedMap Int Int :=
  if state then onlineUserMap else onlineUserMap.eraseFirst fun second => second = cfd

/-- `DataHandler::UserId2Cfd`: 0 for a user without an entry. -/
def userId2Cfd (onlineUserMap : OrderedMap Int Int) (userId : Int) : Int :=
  (onlineUserMap.lookup userId).getD 0

/-! ## Connections and the table -/

/-- A connection is open, has been reported closed, or has given its fd back. -/
inductive Phase where
  | opened
  | reported
  | released
deriving DecidableEq, Repr

/-- An accepted connection: its fd, and who has logged in on it. -/
structure Connection where
  cfd : Int
  phase : Phase
  users : List Int
deriving DecidableEq, Repr

/-- The table and all connections accepted so far, in order. -/
structure OnlineState where
  onlineUserMap : OrderedMap Int Int
  connections : List Connection

/-- Accept a connection under an fd; handle a login read from a connection; report a
connection closed; close its fd. -/
inductive OnlineEvent where
  | connect (cfd : Int)
  | login (connection : Nat) (userId : Int)
  | disconnect (connection : Nat)
  | release (connection : Nat)
deriving DecidableEq, Repr

namespace OnlineState

/-- No connection yet, nobody online. -/
def start : OnlineState := ⟨.empty, []⟩

/-- Whether the kernel may hand out an fd number: positive, and none of an fd not yet
closed. -/
def fdFree (state : OnlineState) (cfd : Int) : Bool :=
  0 < cfd && state.connections.all fun connection =>
    connection.phase = .released || connection.cfd ≠ cfd

/-- Replace what is known of a connection. -/
def put (state : OnlineState) (index : Nat) (connection : Connection) : OnlineState :=
  { state with connections := state.connections.set index connection }

/-- One event, if it can happen. -/
def step (state : OnlineState) : OnlineEvent → Option OnlineState
  | .connect cfd =>
      if state.fdFree cfd then
        some ⟨clientSocketState state.onlineUserMap cfd true,
          state.connections ++ [⟨cfd, .opened, []⟩]⟩
      else none
  | .login index userId => do
      let connection ← state.connections[index]?
      return { state.put index { connection with users := userId :: connection.users } with
        onlineUserMap := clientOpen state.onlineUserMap connection.cfd userId }
  | .disconnect index => do
      let connection ← state.connections[index]?
      if connection.phase = .opened then
        return { state.put index { connection with phase := .reported } with
          onlineUserMap := clientSocketState state.onlineUserMap connection.cfd false }
      else none
  | .release index => do
      let connection ← state.connections[index]?
      if connection.phase = .reported then
        return state.put index { connection with phase := .released }
      else none

end OnlineState

/-- The table under every sequence of events. -/
def onlineSystem : LabelledSystem OnlineState OnlineEvent := .ofStep .start OnlineState.step

namespace OnlineState

/-- An fd is that of an open connection on which a user has logged in. -/
def Names (state : OnlineState) (cfd userId : Int) : Prop :=
  ∃ connection ∈ state.connections, connection.phase = .opened ∧ connection.cfd = cfd ∧
    userId ∈ connection.users

/-- A user has logged in on a connection that is still open. -/
def LoggedIn (state : OnlineState) (userId : Int) : Prop := ∃ cfd, state.Names cfd userId

/-- Open or not yet closed fds are positive and no two are the same. -/
structure FdsDistinct (state : OnlineState) : Prop where
  positive : ∀ connection ∈ state.connections, 0 < connection.cfd
  distinct : ∀ (left right : Nat) (leftConnection rightConnection : Connection),
    state.connections[left]? = some leftConnection →
    state.connections[right]? = some rightConnection →
    leftConnection.phase ≠ .released → rightConnection.phase ≠ .released →
    leftConnection.cfd = rightConnection.cfd → left = right

/-! ## What each event does -/

section Steps

variable {state next : OnlineState} {index : Nat} {cfd userId : Int}

theorem step_connect_iff : state.step (.connect cfd) = some next ↔
    state.fdFree cfd ∧
      next = ⟨state.onlineUserMap, state.connections ++ [⟨cfd, .opened, []⟩]⟩ := by
  simp only [step, clientSocketState, Option.ite_none_right_eq_some, Option.some.injEq, if_true,
    @eq_comm _ next]

theorem step_login_iff : state.step (.login index userId) = some next ↔
    ∃ connection, state.connections[index]? = some connection ∧
      next = ⟨state.onlineUserMap.insert userId connection.cfd,
        state.connections.set index { connection with users := userId :: connection.users }⟩ := by
  simp only [step, put, clientOpen, Option.bind_eq_bind, Option.bind_eq_some_iff, Option.pure_def,
    Option.some.injEq, @eq_comm _ next]

theorem step_disconnect_iff : state.step (.disconnect index) = some next ↔
    ∃ connection, state.connections[index]? = some connection ∧ connection.phase = .opened ∧
      next = ⟨state.onlineUserMap.eraseFirst fun second => second = connection.cfd,
        state.connections.set index { connection with phase := .reported }⟩ := by
  simp only [step, put, clientSocketState, Option.bind_eq_bind, Option.bind_eq_some_iff,
    Option.pure_def, Option.ite_none_right_eq_some, Option.some.injEq, Bool.false_eq_true, if_false,
    @eq_comm _ next]

theorem step_release_iff : state.step (.release index) = some next ↔
    ∃ connection, state.connections[index]? = some connection ∧ connection.phase = .reported ∧
      next = ⟨state.onlineUserMap,
        state.connections.set index { connection with phase := .released }⟩ := by
  simp only [step, put, Option.bind_eq_bind, Option.bind_eq_some_iff, Option.pure_def,
    Option.ite_none_right_eq_some, Option.some.injEq, @eq_comm _ next]

end Steps

/-! ## Fds stay distinct -/

/-- A place in a list that has grown by one is an old place or the new one. -/
theorem getElem?_append_one {α : Type} {list : List α} {added found : α} {place : Nat}
    (present : (list ++ [added])[place]? = some found) :
    list[place]? = some found ∨ place = list.length ∧ found = added := by
  rw [List.getElem?_append] at present
  split at present
  · exact Or.inl present
  · rw [List.getElem?_singleton, Option.ite_none_right_eq_some, Option.some.injEq] at present
    exact Or.inr ⟨by omega, present.2.symm⟩

/-- Replacing a connection by one with the same fd that is no less closed. -/
theorem FdsDistinct.set {state : OnlineState} (holds : state.FdsDistinct) {index : Nat}
    {connection replacement : Connection} {map : OrderedMap Int Int}
    (present : state.connections[index]? = some connection)
    (sameFd : replacement.cfd = connection.cfd)
    (noLessClosed : replacement.phase ≠ .released → connection.phase ≠ .released) :
    FdsDistinct ⟨map, state.connections.set index replacement⟩ where
  positive := by
    intro other member
    rcases List.mem_or_eq_of_mem_set member with old | rfl
    · exact holds.positive other old
    · rw [sameFd]
      exact holds.positive connection (List.mem_of_getElem? present)
  distinct := by
    have before : ∀ (place : Nat) (other : Connection),
        (state.connections.set index replacement)[place]? = some other → other.phase ≠ .released →
        ∃ old, state.connections[place]? = some old ∧ old.phase ≠ .released ∧
          old.cfd = other.cfd := by
      intro place other found unreleased
      rw [List.getElem?_set] at found
      split at found
      · next same =>
        subst same
        split at found
        · obtain rfl := Option.some.inj found
          exact ⟨connection, present, noLessClosed unreleased, sameFd.symm⟩
        · cases found
      · exact ⟨other, found, unreleased, rfl⟩
    intro left right leftConnection rightConnection leftFound rightFound leftHeld rightHeld sameCfd
    obtain ⟨oldLeft, oldLeftFound, oldLeftHeld, leftCfd⟩ := before left _ leftFound leftHeld
    obtain ⟨oldRight, oldRightFound, oldRightHeld, rightCfd⟩ := before right _ rightFound rightHeld
    exact holds.distinct left right oldLeft oldRight oldLeftFound oldRightFound oldLeftHeld
      oldRightHeld (by rw [leftCfd, rightCfd, sameCfd])

/-- The kernel hands out no fd number twice. -/
theorem FdsDistinct.step {state next : OnlineState} {event : OnlineEvent}
    (holds : state.FdsDistinct) (transition : state.step event = some next) :
    next.FdsDistinct := by
  cases event with
  | connect cfd =>
      obtain ⟨free, rfl⟩ := step_connect_iff.mp transition
      simp only [fdFree, Bool.and_eq_true, decide_eq_true_eq, List.all_eq_true, Bool.or_eq_true]
        at free
      have unused : ∀ (place : Nat) (other : Connection),
          state.connections[place]? = some other → other.phase ≠ .released → other.cfd ≠ cfd :=
        fun place other found held =>
          (free.2 other (List.mem_of_getElem? found)).resolve_left held
      refine ⟨?_, ?_⟩
      · intro other member
        rcases List.mem_append.mp member with old | new
        · exact holds.positive other old
        · obtain rfl := List.mem_singleton.mp new
          exact free.1
      · intro left right leftConnection rightConnection leftFound rightFound leftHeld rightHeld same
        rcases getElem?_append_one leftFound with leftOld | ⟨leftNew, rfl⟩
        · rcases getElem?_append_one rightFound with rightOld | ⟨rightNew, rfl⟩
          · exact holds.distinct left right _ _ leftOld rightOld leftHeld rightHeld same
          · exact absurd same (unused left _ leftOld leftHeld)
        · rcases getElem?_append_one rightFound with rightOld | ⟨rightNew, rfl⟩
          · exact absurd same.symm (unused right _ rightOld rightHeld)
          · rw [leftNew, rightNew]
  | login index userId =>
      obtain ⟨connection, present, rfl⟩ := step_login_iff.mp transition
      exact holds.set present rfl id
  | disconnect index =>
      obtain ⟨connection, present, opened, rfl⟩ := step_disconnect_iff.mp transition
      exact holds.set present rfl fun _ => by simp [opened]
  | release index =>
      obtain ⟨connection, present, reported, rfl⟩ := step_release_iff.mp transition
      exact holds.set present rfl fun _ => by simp [reported]

/-- Fds are distinct in every reachable state. -/
theorem fdsDistinct_of_reachable {state : OnlineState} (reachable : onlineSystem.Reachable state) :
    state.FdsDistinct := by
  refine reachable.invariant ?_ fun _ _ _ holds transition => holds.step transition
  exact ⟨by simp [start], by simp [start]⟩

/-! ## What a replaced connection changes -/

section Names

variable {state : OnlineState} {map : OrderedMap Int Int} {index : Nat}
  {connection replacement : Connection} {cfd userId : Int}

/-- A user an fd named stays named, unless by the replaced connection. -/
theorem Names.set (named : state.Names cfd userId)
    (present : state.connections[index]? = some connection)
    (kept : connection.phase = .opened → connection.cfd = cfd → userId ∈ connection.users →
      replacement.phase = .opened ∧ replacement.cfd = cfd ∧ userId ∈ replacement.users) :
    Names ⟨map, state.connections.set index replacement⟩ cfd userId := by
  obtain ⟨other, member, opened, sameCfd, loggedIn⟩ := named
  obtain ⟨place, found⟩ := List.mem_iff_getElem?.mp member
  by_cases same : index = place
  · subst same
    obtain rfl := Option.some.inj (found.symm.trans present)
    obtain ⟨nowOpened, nowCfd, nowLoggedIn⟩ := kept opened sameCfd loggedIn
    have inside := (List.getElem?_eq_some_iff.mp present).1
    exact ⟨replacement, List.mem_set inside _, nowOpened, nowCfd, nowLoggedIn⟩
  · refine ⟨other, List.mem_iff_getElem?.mpr ⟨place, ?_⟩, opened, sameCfd, loggedIn⟩
    rw [List.getElem?_set_ne same]
    exact found

/-- A login takes no name away. -/
theorem Names.login {entry user : Int} (named : state.Names entry user)
    (present : state.connections[index]? = some connection) :
    Names ⟨state.onlineUserMap.insert userId connection.cfd, state.connections.set index
      { connection with users := userId :: connection.users }⟩ entry user :=
  named.set present fun opened sameCfd member => ⟨opened, sameCfd, List.mem_cons_of_mem _ member⟩

/-- Whoever is named after a replacement was named before, or is by the replacement. -/
theorem Names.of_set
    (named : Names ⟨map, state.connections.set index replacement⟩ cfd userId) :
    (replacement.phase = .opened ∧ replacement.cfd = cfd ∧ userId ∈ replacement.users) ∨
      ∃ (place : Nat) (other : Connection), place ≠ index ∧
        state.connections[place]? = some other ∧ other.phase = .opened ∧ other.cfd = cfd ∧
        userId ∈ other.users := by
  obtain ⟨other, member, opened, sameCfd, loggedIn⟩ := named
  obtain ⟨place, found⟩ := List.mem_iff_getElem?.mp member
  rw [List.getElem?_set] at found
  split at found
  · split at found
    · obtain rfl := Option.some.inj found
      exact Or.inl ⟨opened, sameCfd, loggedIn⟩
    · cases found
  · next apart => exact Or.inr ⟨place, other, Ne.symm apart, found, opened, sameCfd, loggedIn⟩

end Names

/-! ## Soundness of the table -/

/-- Every entry is the fd of an open connection on which its user has logged in, and
none is that of a connection reported closed. -/
structure Sound (state : OnlineState) : Prop where
  named : ∀ userId cfd, state.onlineUserMap.lookup userId = some cfd → state.Names cfd userId
  reported : ∀ connection ∈ state.connections, connection.phase = .reported →
    ∀ userId, state.onlineUserMap.lookup userId ≠ some connection.cfd

/-- The second part follows: two connections do not hold one fd. -/
theorem FdsDistinct.sound {state : OnlineState} (fds : state.FdsDistinct)
    (named : ∀ userId cfd, state.onlineUserMap.lookup userId = some cfd →
      state.Names cfd userId) : state.Sound where
  named := named
  reported := by
    intro connection member isReported userId found
    obtain ⟨other, otherMember, opened, sameCfd, _⟩ := named userId _ found
    obtain ⟨index, present⟩ := List.mem_iff_getElem?.mp member
    obtain ⟨place, otherPresent⟩ := List.mem_iff_getElem?.mp otherMember
    have same := fds.distinct index place _ _ present otherPresent (by simp [isReported])
      (by simp [opened]) sameCfd.symm
    subst same
    obtain rfl := Option.some.inj (present.symm.trans otherPresent)
    rw [isReported] at opened
    cases opened

/-- What keeps the table sound: a login enters a user only while its connection is
open (or its fd has come to a connection on which the same user has logged in), and a
connection that is reported closed has one entry at most. -/
def KeepsSound (state : OnlineState) : OnlineEvent → Prop
  | .login index userId => (state.onlineUserMap.lookup userId).isSome ∨
      ∀ connection, state.connections[index]? = some connection →
        connection.phase = .opened ∨ state.Names connection.cfd userId
  | .disconnect index => ∀ connection, state.connections[index]? = some connection →
      ∀ left right, state.onlineUserMap.lookup left = some connection.cfd →
        state.onlineUserMap.lookup right = some connection.cfd → left = right
  | .connect _ | .release _ => True

section SoundSteps

variable {state next : OnlineState} {index : Nat} {userId cfd : Int}

/-- A new connection takes no entry away from another. -/
theorem Sound.connect (sound : state.Sound) (fds : next.FdsDistinct)
    (transition : state.step (.connect cfd) = some next) : next.Sound := by
  obtain ⟨_, rfl⟩ := step_connect_iff.mp transition
  apply fds.sound
  intro user entry found
  obtain ⟨connection, member, rest⟩ := sound.named user entry found
  exact ⟨connection, List.mem_append_left _ member, rest⟩

/-- Giving the fd of a reported connection back changes nothing. -/
theorem Sound.release (sound : state.Sound) (fds : next.FdsDistinct)
    (transition : state.step (.release index) = some next) : next.Sound := by
  obtain ⟨connection, present, reported, rfl⟩ := step_release_iff.mp transition
  apply fds.sound
  intro user entry found
  exact (sound.named user entry found).set present fun opened => by simp [reported] at opened

/-- A login keeps the table sound exactly when it enters nobody or a user whom the fd
then names. -/
theorem Sound.login_iff (sound : state.Sound) (fds : next.FdsDistinct)
    (transition : state.step (.login index userId) = some next) :
    state.KeepsSound (.login index userId) ↔ next.Sound := by
  obtain ⟨connection, present, rfl⟩ := step_login_iff.mp transition
  constructor
  · intro condition
    apply fds.sound
    intro user entry found
    rw [OrderedMap.lookup_insert] at found
    split at found
    · next fresh =>
      obtain ⟨rfl, absent⟩ := fresh
      obtain rfl := Option.some.inj found
      rcases condition with entered | allowed
      · rw [absent] at entered
        cases entered
      rcases allowed connection present with opened | named
      · have inside := (List.getElem?_eq_some_iff.mp present).1
        exact ⟨_, List.mem_set inside _, opened, rfl, List.mem_cons_self⟩
      · exact named.login present
    · exact (sound.named user entry found).login present
  · intro nextSound
    cases entered : state.onlineUserMap.lookup userId with
    | some entry => exact Or.inl (by rw [entered]; rfl)
    | none =>
        refine Or.inr fun other otherPresent => ?_
        obtain rfl := Option.some.inj (present.symm.trans otherPresent)
        have found : (state.onlineUserMap.insert userId connection.cfd).lookup userId =
            some connection.cfd := by
          rw [OrderedMap.lookup_insert, if_pos ⟨rfl, entered⟩]
        rcases (nextSound.named userId connection.cfd found).of_set with
          ⟨opened, _⟩ | ⟨place, other, _, otherFound, rest⟩
        · exact Or.inl opened
        · exact Or.inr ⟨other, List.mem_of_getElem? otherFound, rest⟩

/-- Reporting a connection closed keeps the table sound exactly when it has no more
than one entry. -/
theorem Sound.disconnect_iff (sound : state.Sound) (fds : next.FdsDistinct)
    (transition : state.step (.disconnect index) = some next) :
    state.KeepsSound (.disconnect index) ↔ next.Sound := by
  obtain ⟨connection, present, opened, rfl⟩ := step_disconnect_iff.mp transition
  have inside := (List.getElem?_eq_some_iff.mp present).1
  constructor
  · intro condition
    apply fds.sound
    intro user entry found
    have other : decide (entry = connection.cfd) = false := by
      apply state.onlineUserMap.not_matching_of_lookup_eraseFirst _ found
      intro left leftCfd right rightCfd leftFound rightFound leftMatch rightMatch
      obtain rfl := of_decide_eq_true leftMatch
      obtain rfl := of_decide_eq_true rightMatch
      exact condition connection present left right leftFound rightFound
    have named := sound.named user entry (state.onlineUserMap.lookup_of_lookup_eraseFirst found)
    exact named.set present fun _ same _ => absurd same.symm (of_decide_eq_false other)
  · intro nextSound other otherPresent left right leftFound rightFound
    obtain rfl := Option.some.inj (present.symm.trans otherPresent)
    by_contra different
    have gone := nextSound.reported { connection with phase := .reported } (List.mem_set inside _) rfl
    have kept := @OrderedMap.lookup_eraseFirst_of_two_matching _ _ _ state.onlineUserMap
      (fun second => second = connection.cfd) left right _ _ different leftFound rightFound
      (decide_eq_true rfl)
    rcases kept with leftKept | rightKept
    · exact gone left leftKept
    · exact gone right rightKept

/-- One step keeps the table sound exactly under the condition. -/
theorem Sound.step_iff {event : OnlineEvent} (sound : state.Sound) (before : state.FdsDistinct)
    (transition : state.step event = some next) : state.KeepsSound event ↔ next.Sound := by
  have after := before.step transition
  cases event with
  | connect cfd => exact ⟨fun _ => sound.connect after transition, fun _ => trivial⟩
  | login index userId => exact sound.login_iff after transition
  | disconnect index => exact sound.disconnect_iff after transition
  | release index => exact ⟨fun _ => sound.release after transition, fun _ => trivial⟩

end SoundSteps

/-- Nobody is online at the start. -/
theorem sound_start : start.Sound where
  named := by
    intro userId cfd found
    cases found
  reported := by simp [start]

/-- A run meets the condition at every step exactly when the table is sound in every
state it reaches; it is sound where such a run ends. -/
theorem runs_keepsSound_iff (events : List OnlineEvent) (state : OnlineState) :
    (onlineSystem.Runs (fun before event _ => before.KeepsSound event) events state ↔
      onlineSystem.Runs (fun _ _ after => after.Sound) events state) ∧
    (onlineSystem.Runs (fun before event _ => before.KeepsSound event) events state →
      state.Sound) := by
  have initial : ∀ state, onlineSystem.Initial state → state.Sound := by
    rintro _ rfl
    exact sound_start
  have runs := @LabelledSystem.runs_iff_runs_within _ _ onlineSystem
    (fun before event _ => before.KeepsSound event) _ _ events state
    (fun _ => fdsDistinct_of_reachable) initial
    fun _ _ _ fds sound transition => sound.step_iff fds transition
  exact ⟨runs, fun run => (runs.mp run).within initial⟩

/-- One connection on which two users log in, and its end. -/
def twoUsers : List OnlineEvent := [.connect 5, .login 0 1, .login 0 2, .disconnect 0]

/-- The second user's entry outlives the connection. -/
theorem twoUsers_not_sound :
    ∃ state, onlineSystem.Runs (fun _ _ _ => True) twoUsers state ∧ ¬ state.Sound ∧
      state.onlineUserMap.lookup 2 = some 5 := by
  have followed : ∃ state,
      LabelledSystem.follow step (fun _ _ _ => True) start twoUsers = some state ∧
      state.onlineUserMap.lookup 2 = some 5 ∧
      state.connections = [⟨5, .reported, [2, 1]⟩] := ⟨_, rfl, rfl, rfl⟩
  obtain ⟨state, followed, found, connections⟩ := followed
  refine ⟨state, LabelledSystem.runs_of_follow followed, fun sound => ?_, found⟩
  exact sound.reported _ (by rw [connections]; exact List.mem_cons_self) rfl 2 found

/-! ## Completeness of the table -/

/-- A user with an open session is found on one, and only a user without is not found. -/
structure Complete (state : OnlineState) : Prop where
  found : ∀ userId, state.LoggedIn userId →
    state.Names (userId2Cfd state.onlineUserMap userId) userId
  missing : ∀ userId, userId2Cfd state.onlineUserMap userId = 0 → ¬ state.LoggedIn userId

/-- The second part follows: fds are positive. -/
theorem FdsDistinct.complete {state : OnlineState} (fds : state.FdsDistinct)
    (found : ∀ userId, state.LoggedIn userId →
      state.Names (userId2Cfd state.onlineUserMap userId) userId) : state.Complete where
  found := found
  missing := by
    intro userId absent loggedIn
    obtain ⟨connection, member, _, zero, _⟩ := found userId loggedIn
    have positive := fds.positive connection member
    omega

/-- A user with an open session has an entry, and it names one. -/
theorem Complete.entry {state : OnlineState} (complete : state.Complete) {userId : Int}
    (loggedIn : state.LoggedIn userId) :
    ∃ cfd, state.onlineUserMap.lookup userId = some cfd ∧ state.Names cfd userId := by
  have named := complete.found userId loggedIn
  cases entered : state.onlineUserMap.lookup userId with
  | some cfd =>
      rw [userId2Cfd, entered] at named
      exact ⟨cfd, rfl, named⟩
  | none => exact absurd loggedIn (complete.missing userId (by rw [userId2Cfd, entered]; rfl))

/-- What keeps the table complete: a login on an open connection is by a user whose
entry, if there is one, names an open session of his, or this connection; and no
connection is reported closed while the entry of a user with another open session is
its fd. -/
def KeepsComplete (state : OnlineState) : OnlineEvent → Prop
  | .login index userId => ∀ connection, state.connections[index]? = some connection →
      connection.phase = .opened → ∀ cfd, state.onlineUserMap.lookup userId = some cfd →
        cfd = connection.cfd ∨ state.Names cfd userId
  | .disconnect index => ∀ connection, state.connections[index]? = some connection →
      ∀ userId, state.onlineUserMap.lookup userId = some connection.cfd →
        ∀ (place : Nat) (other : Connection), place ≠ index →
          state.connections[place]? = some other → other.phase = .opened → userId ∉ other.users
  | .connect _ | .release _ => True

section CompleteSteps

variable {state next : OnlineState} {index : Nat} {userId cfd : Int}

/-- Nobody has logged in on a new connection. -/
theorem Complete.connect (complete : state.Complete) (fds : next.FdsDistinct)
    (transition : state.step (.connect cfd) = some next) : next.Complete := by
  obtain ⟨_, rfl⟩ := step_connect_iff.mp transition
  apply fds.complete
  rintro user ⟨_, connection, member, opened, _, loggedIn⟩
  have old : connection ∈ state.connections := by
    rcases List.mem_append.mp member with old | new
    · exact old
    · obtain rfl := List.mem_singleton.mp new
      cases loggedIn
  obtain ⟨other, otherMember, rest⟩ := complete.found user ⟨_, connection, old, opened, rfl, loggedIn⟩
  exact ⟨other, List.mem_append_left _ otherMember, rest⟩

/-- Giving the fd of a reported connection back changes nothing. -/
theorem Complete.release (complete : state.Complete) (fds : next.FdsDistinct)
    (transition : state.step (.release index) = some next) : next.Complete := by
  obtain ⟨connection, present, reported, rfl⟩ := step_release_iff.mp transition
  apply fds.complete
  rintro user ⟨entry, named⟩
  have before : state.LoggedIn user := by
    rcases named.of_set with ⟨impossible, _⟩ | ⟨_, other, _, found, rest⟩
    · cases impossible
    · exact ⟨entry, other, List.mem_of_getElem? found, rest⟩
  exact (complete.found user before).set present fun opened => by simp [reported] at opened

/-- A login keeps the table complete exactly when the entry it leaves in place names an
open session. -/
theorem Complete.login_iff (complete : state.Complete) (fds : next.FdsDistinct)
    (transition : state.step (.login index userId) = some next) :
    state.KeepsComplete (.login index userId) ↔ next.Complete := by
  obtain ⟨connection, present, rfl⟩ := step_login_iff.mp transition
  have inside := (List.getElem?_eq_some_iff.mp present).1
  constructor
  · intro condition
    apply fds.complete
    rintro user ⟨entry, named⟩
    -- Who has an open session now had one, or has just logged in.
    have before : state.LoggedIn user ∨ user = userId ∧ connection.phase = .opened := by
      rcases named.of_set with ⟨opened, _, member⟩ | ⟨_, other, _, found, rest⟩
      · rcases List.mem_cons.mp member with same | old
        · exact Or.inr ⟨same, opened⟩
        · exact Or.inl ⟨_, connection, List.mem_of_getElem? present, opened, rfl, old⟩
      · exact Or.inl ⟨entry, other, List.mem_of_getElem? found, rest⟩
    rcases before with loggedIn | ⟨rfl, opened⟩
    · obtain ⟨old, entered, oldNamed⟩ := complete.entry loggedIn
      have same : (state.onlineUserMap.insert userId connection.cfd).lookup user = some old := by
        rw [OrderedMap.lookup_insert, if_neg (by rintro ⟨rfl, absent⟩; simp [absent] at entered),
          entered]
      rw [userId2Cfd, same]
      exact oldNamed.login present
    · have here : Names ⟨state.onlineUserMap.insert user connection.cfd, state.connections.set index
          { connection with users := user :: connection.users }⟩ connection.cfd user :=
        ⟨_, List.mem_set inside _, opened, rfl, List.mem_cons_self⟩
      rw [userId2Cfd, OrderedMap.lookup_insert]
      cases entered : state.onlineUserMap.lookup user with
      | none => simpa using here
      | some old =>
          rcases condition connection present opened old entered with rfl | oldNamed
          · simpa using here
          · have stays := @Names.login _ _ _ user _ _ oldNamed present
            simpa using stays
  · intro nextComplete other otherPresent opened old entered
    obtain rfl := Option.some.inj (present.symm.trans otherPresent)
    have loggedIn : LoggedIn ⟨state.onlineUserMap.insert userId connection.cfd,
        state.connections.set index { connection with users := userId :: connection.users }⟩ userId :=
      ⟨_, _, List.mem_set inside _, opened, rfl, List.mem_cons_self⟩
    have named := nextComplete.found userId loggedIn
    rw [userId2Cfd, OrderedMap.lookup_insert, if_neg (by simp [entered]), entered] at named
    rcases named.of_set with ⟨_, sameCfd, _⟩ | ⟨_, other, _, found, rest⟩
    · exact Or.inl sameCfd.symm
    · exact Or.inr ⟨other, List.mem_of_getElem? found, rest⟩

/-- Reporting a connection closed keeps the table complete exactly when the entries
with its fd are of users without another open session. -/
theorem Complete.disconnect_iff (complete : state.Complete) (before : state.FdsDistinct)
    (fds : next.FdsDistinct) (transition : state.step (.disconnect index) = some next) :
    state.KeepsComplete (.disconnect index) ↔ next.Complete := by
  obtain ⟨connection, present, opened, rfl⟩ := step_disconnect_iff.mp transition
  constructor
  · intro condition
    apply fds.complete
    rintro user ⟨entry, named⟩
    rcases named.of_set with ⟨impossible, _⟩ | ⟨place, other, apart, found, otherOpened, _, loggedIn⟩
    · cases impossible
    obtain ⟨old, entered, oldNamed⟩ := complete.entry
      ⟨_, other, List.mem_of_getElem? found, otherOpened, rfl, loggedIn⟩
    have different : old ≠ connection.cfd := by
      rintro rfl
      exact condition connection present user entered place other apart found otherOpened loggedIn
    rw [userId2Cfd, state.onlineUserMap.lookup_eraseFirst_of_not_matching entered
      (decide_eq_false different)]
    exact oldNamed.set present fun _ same _ => absurd same.symm different
  · intro nextComplete connection' present' user entered place other apart found otherOpened member
    obtain rfl := Option.some.inj (present.symm.trans present')
    have otherKept : (state.connections.set index { connection with phase := .reported })[place]? =
        some other := by
      rw [List.getElem?_set_ne (Ne.symm apart)]
      exact found
    obtain ⟨kept, keptEntered, keptNamed⟩ := nextComplete.entry
      ⟨_, other, List.mem_of_getElem? otherKept, otherOpened, rfl, member⟩
    -- The entry that is left is the closed connection's fd, which no open one has.
    have same := state.onlineUserMap.lookup_of_lookup_eraseFirst keptEntered
    rw [entered] at same
    obtain rfl := Option.some.inj same
    rcases keptNamed.of_set with ⟨impossible, _⟩ | ⟨_, third, thirdApart, thirdFound, thirdOpened,
      sameCfd, _⟩
    · cases impossible
    · exact thirdApart (before.distinct _ index third connection thirdFound present
        (by simp [thirdOpened]) (by simp [opened]) sameCfd)

/-- One step keeps the table complete exactly under the condition. -/
theorem Complete.step_iff {event : OnlineEvent} (complete : state.Complete)
    (before : state.FdsDistinct) (transition : state.step event = some next) :
    state.KeepsComplete event ↔ next.Complete := by
  have after := before.step transition
  cases event with
  | connect cfd => exact ⟨fun _ => complete.connect after transition, fun _ => trivial⟩
  | login index userId => exact complete.login_iff after transition
  | disconnect index => exact complete.disconnect_iff before after transition
  | release index => exact ⟨fun _ => complete.release after transition, fun _ => trivial⟩

end CompleteSteps

/-- Nobody has logged in at the start. -/
theorem complete_start : start.Complete :=
  ⟨by simp [start, LoggedIn, Names], by simp [start, LoggedIn, Names]⟩

/-- A run meets the condition at every step exactly when the table is complete in
every state it reaches; it is complete where such a run ends. -/
theorem runs_keepsComplete_iff (events : List OnlineEvent) (state : OnlineState) :
    (onlineSystem.Runs (fun before event _ => before.KeepsComplete event) events state ↔
      onlineSystem.Runs (fun _ _ after => after.Complete) events state) ∧
    (onlineSystem.Runs (fun before event _ => before.KeepsComplete event) events state →
      state.Complete) := by
  have initial : ∀ state, onlineSystem.Initial state → state.Complete := by
    rintro _ rfl
    exact complete_start
  have runs := @LabelledSystem.runs_iff_runs_within _ _ onlineSystem
    (fun before event _ => before.KeepsComplete event) _ _ events state
    (fun _ => fdsDistinct_of_reachable) initial
    fun _ _ _ fds complete transition => complete.step_iff fds transition
  exact ⟨runs, fun run => (runs.mp run).within initial⟩

/-- A user logs in on two connections, and the first one ends. -/
def twoDevices : List OnlineEvent :=
  [.connect 5, .connect 6, .login 0 1, .login 1 1, .disconnect 0]

/-- The second connection is open, but its user is not found. -/
theorem twoDevices_not_complete :
    ∃ state, onlineSystem.Runs (fun _ _ _ => True) twoDevices state ∧ state.Names 6 1 ∧
      userId2Cfd state.onlineUserMap 1 = 0 ∧ ¬ state.Complete := by
  have followed : ∃ state,
      LabelledSystem.follow step (fun _ _ _ => True) start twoDevices = some state ∧
      userId2Cfd state.onlineUserMap 1 = 0 ∧
      state.connections = [⟨5, .reported, [1]⟩, ⟨6, .opened, [1]⟩] := ⟨_, rfl, rfl, rfl⟩
  obtain ⟨state, followed, absent, connections⟩ := followed
  have named : state.Names 6 1 :=
    ⟨⟨6, .opened, [1]⟩, by rw [connections]; simp, rfl, rfl, by simp⟩
  exact ⟨state, LabelledSystem.runs_of_follow followed, named, absent,
    fun complete => complete.missing 1 absent ⟨6, named⟩⟩

end OnlineState

end SocketMessage.Server
