import SocketMessage.Server.Relay

/-!
# Fan-out of a chat message

`DataHandlerC2SDataMsg` takes the recipients of a group message from the rows of
`GroupUser`, one send per row. The table has no key, so that a user with two rows is
sent the message twice; the other queries over `GroupUser` ask with `IN (SELECT ..)`
and see each user once.
-/

namespace SocketMessage.Server

open SocketMessage.Lib SocketMessage.Frame SocketMessage.Wire

/-! ## What is sent to whom -/

/-- The calls of `SendPackage` a handler makes for other users: the user, the fd found
for the user, the package. -/
def deliveries (onlineUserMap : OrderedMap Int Int) (actions : List HandlerAction) :
    List (CInt × Int × List Byte) :=
  actions.filterMap fun
    | .relay userId data =>
        let cfd := userId2Cfd onlineUserMap userId.toInt
        if cfd > 0 then some (userId, cfd, data) else none
    | _ => none

/-- What the handler of a chat message sends. -/
def delivered (database : Database) (accepted : Bool) (now : CInt)
    (onlineUserMap : OrderedMap Int Int) (clientMsg : DataMsg) : List (CInt × Int × List Byte) :=
  deliveries onlineUserMap (dataHandlerC2SDataMsg (messageQueries database accepted now) clientMsg)

/-- A member of the group for a group message, the `Receiver` for another one. -/
def AddressedTo (groupUser : List GroupUserRow) (clientMsg : DataMsg) (userId : CInt) : Prop :=
  if clientMsg.isGroup then ⟨clientMsg.receiver, userId⟩ ∈ groupUser
  else userId = clientMsg.receiver

/-- A user has an entry in the table of online users. -/
def Online (onlineUserMap : OrderedMap Int Int) (userId : CInt) : Prop :=
  (onlineUserMap.lookup userId.toInt).isSome

instance (groupUser : List GroupUserRow) (clientMsg : DataMsg) (userId : CInt) :
    Decidable (AddressedTo groupUser clientMsg userId) :=
  inferInstanceAs (Decidable (if clientMsg.isGroup then _ else _))

instance (onlineUserMap : OrderedMap Int Int) (userId : CInt) :
    Decidable (Online onlineUserMap userId) :=
  inferInstanceAs (Decidable ((onlineUserMap.lookup userId.toInt).isSome = true))

/-- Who is to get a message: whom it is addressed to, who is online and not the sender. -/
structure Recipient (groupUser : List GroupUserRow) (onlineUserMap : OrderedMap Int Int)
    (clientMsg : DataMsg) (userId : CInt) : Prop where
  addressed : AddressedTo groupUser clientMsg userId
  notSender : userId ≠ clientMsg.sender
  online : Online onlineUserMap userId

/-- Every recipient is sent one package on the connection entered for it, nobody else
is sent one, and all packages are the same. -/
structure ExactlyOnce (groupUser : List GroupUserRow) (onlineUserMap : OrderedMap Int Int)
    (clientMsg : DataMsg) (sent : List (CInt × Int × List Byte)) : Prop where
  once : ∀ userId, Recipient groupUser onlineUserMap clientMsg userId →
    (sent.map Prod.fst).count userId = 1
  nobodyElse : ∀ delivery ∈ sent, Recipient groupUser onlineUserMap clientMsg delivery.1
  ownConnection : ∀ delivery ∈ sent,
    onlineUserMap.lookup delivery.1.toInt = some delivery.2.1
  identical : ∀ left ∈ sent, ∀ right ∈ sent, left.2.2 = right.2.2

/-- A recipient has an fd that counts as one, and for a group message a single row in
the group. -/
structure EntersOnce (groupUser : List GroupUserRow) (onlineUserMap : OrderedMap Int Int)
    (clientMsg : DataMsg) (userId : CInt) : Prop where
  positive : 0 < userId2Cfd onlineUserMap userId.toInt
  single : clientMsg.isGroup → groupUser.count ⟨clientMsg.receiver, userId⟩ = 1

/-! ## The chain from the rows to the calls -/

/-- The relays are the deliveries without the users. -/
theorem relays_eq_map_deliveries (onlineUserMap : OrderedMap Int Int)
    (actions : List HandlerAction) :
    relays onlineUserMap actions = (deliveries onlineUserMap actions).map Prod.snd := by
  rw [relays, deliveries, List.map_filterMap]
  congr 1
  funext action
  cases action with
  | relay userId data =>
      dsimp only
      split <;> rfl
  | answer data => rfl
  | clientOpen userId => rfl
  | fail => rfl

/-- The query answers a user as often as the user has rows. -/
theorem count_getUserIdByGroupId (groupUser : List GroupUserRow) (groupId userId : CInt) :
    (getUserIdByGroupId groupUser groupId).count userId = groupUser.count ⟨groupId, userId⟩ := by
  induction groupUser with
  | nil => rfl
  | cons row rest inductionHypothesis =>
      unfold getUserIdByGroupId at inductionHypothesis ⊢
      obtain ⟨rowGroup, rowUser⟩ := row
      by_cases sameGroup : rowGroup = groupId
      · subst sameGroup
        rw [List.filter_cons_of_pos (by simp), List.map_cons, List.count_cons, List.count_cons,
          inductionHypothesis]
        simp
      · rw [List.filter_cons_of_neg (by simpa using sameGroup), List.count_cons,
          inductionHypothesis]
        simp [sameGroup]

/-- The users in the list of recipients are those the message is addressed to. -/
theorem mem_sendUserVector_iff_addressedTo {groupUser : List GroupUserRow} {clientMsg : DataMsg}
    {userId : CInt} :
    userId ∈ sendUserVector groupUser clientMsg ↔ AddressedTo groupUser clientMsg userId :=
  mem_sendUserVector_iff

section Delivered

variable {database : Database} {accepted : Bool} {now : CInt}
  {onlineUserMap : OrderedMap Int Int} {clientMsg : DataMsg} {userId : CInt}

/-- The loop sends one encoding to everybody in the list who is online, except the
sender. -/
theorem delivered_eq (bounded : clientMsg.encodedSize < 2 ^ 31) :
    delivered database accepted now onlineUserMap clientMsg =
      ((sendUserVector database.groupUser clientMsg).filter fun userId =>
          userId ≠ clientMsg.sender ∧ 0 < userId2Cfd onlineUserMap userId.toInt).map
        fun userId => (userId, userId2Cfd onlineUserMap userId.toInt,
          (serverMsg database accepted now clientMsg).sized.wire) := by
  rw [delivered, dataHandlerC2SDataMsg_eq bounded, deliveries, List.filterMap_map,
    ← List.filterMap_eq_map, ← List.filterMap_eq_filter, ← List.filterMap_eq_filter,
    List.filterMap_filterMap, List.filterMap_filterMap]
  congr 1
  funext userId
  by_cases sender : userId = clientMsg.sender <;>
    by_cases online : 0 < userId2Cfd onlineUserMap userId.toInt <;>
      simp [Option.guard, sender, online]

/-- A user is sent a package for every time it is in the list, if it is online and not
the sender. -/
theorem count_delivered (bounded : clientMsg.encodedSize < 2 ^ 31) :
    ((delivered database accepted now onlineUserMap clientMsg).map Prod.fst).count userId =
      if userId ≠ clientMsg.sender ∧ 0 < userId2Cfd onlineUserMap userId.toInt then
        (sendUserVector database.groupUser clientMsg).count userId
      else 0 := by
  rw [delivered_eq bounded, List.map_map]
  have users : (Prod.fst ∘ fun userId : CInt => (userId, userId2Cfd onlineUserMap userId.toInt,
      (serverMsg database accepted now clientMsg).sized.wire)) = id := rfl
  rw [users, List.map_id]
  split
  · next sent => exact List.count_filter (by simpa using sent)
  · next unsent =>
    rw [List.count_eq_zero]
    intro member
    exact unsent (by simpa using (List.mem_filter.mp member).2)

/-- A delivery goes to a user of the list who is not the sender, on that user's fd. -/
theorem mem_delivered (bounded : clientMsg.encodedSize < 2 ^ 31)
    {delivery : CInt × Int × List Byte}
    (sent : delivery ∈ delivered database accepted now onlineUserMap clientMsg) :
    AddressedTo database.groupUser clientMsg delivery.1 ∧ delivery.1 ≠ clientMsg.sender ∧
      0 < delivery.2.1 ∧ delivery.2.1 = userId2Cfd onlineUserMap delivery.1.toInt ∧
      delivery.2.2 = (serverMsg database accepted now clientMsg).sized.wire := by
  rw [delivered_eq bounded, List.mem_map] at sent
  obtain ⟨userId, member, rfl⟩ := sent
  obtain ⟨listed, passes⟩ := List.mem_filter.mp member
  obtain ⟨notSender, positive⟩ := of_decide_eq_true passes
  exact ⟨mem_sendUserVector_iff_addressedTo.mp listed, notSender, positive, rfl, rfl⟩

/-- A user with an fd that counts as one has that entry in the table. -/
theorem lookup_of_userId2Cfd (positive : 0 < userId2Cfd onlineUserMap userId.toInt) :
    onlineUserMap.lookup userId.toInt = some (userId2Cfd onlineUserMap userId.toInt) := by
  unfold userId2Cfd at positive ⊢
  cases found : onlineUserMap.lookup userId.toInt with
  | none =>
      rw [found] at positive
      exact absurd positive (by decide)
  | some cfd => rfl

/-- A recipient is once in the list exactly when it is there once by the rows. -/
theorem count_sendUserVector_eq_one_iff (addressed : AddressedTo database.groupUser clientMsg userId) :
    (sendUserVector database.groupUser clientMsg).count userId = 1 ↔
      (clientMsg.isGroup → database.groupUser.count ⟨clientMsg.receiver, userId⟩ = 1) := by
  unfold AddressedTo at addressed
  unfold sendUserVector
  by_cases group : clientMsg.isGroup = true
  · rw [if_pos group, count_getUserIdByGroupId]
    simp [group]
  · rw [if_neg group] at addressed ⊢
    simp [group, addressed]

end Delivered

/-- For every package of a chat message, every content of `GroupUser` and every table of
online users: the message goes to its recipients exactly once exactly when every
recipient enters the list once and under a positive fd. -/
theorem exactlyOnce_iff {memory : Memory} {data : List Byte} {clientMsg : DataMsg}
    (framed : data.length ≤ readBufMaxSize)
    (decoded : threadWork memory data = .decoded (.dataMsg clientMsg)) (database : Database)
    (accepted : Bool) (now : CInt) (onlineUserMap : OrderedMap Int Int) :
    ExactlyOnce database.groupUser onlineUserMap clientMsg
        (delivered database accepted now onlineUserMap clientMsg) ↔
      ∀ userId, Recipient database.groupUser onlineUserMap clientMsg userId →
        EntersOnce database.groupUser onlineUserMap clientMsg userId := by
  have bounded := encodedSize_lt_of_threadWork framed decoded
  constructor
  · intro exactlyOnce userId recipient
    have count := exactlyOnce.once userId recipient
    rw [count_delivered bounded] at count
    split at count
    · next sent =>
      exact ⟨sent.2, (count_sendUserVector_eq_one_iff recipient.addressed).mp count⟩
    · cases count
  · intro entersOnce
    have ofDelivery : ∀ delivery ∈ delivered database accepted now onlineUserMap clientMsg,
        onlineUserMap.lookup delivery.1.toInt = some delivery.2.1 := by
      intro delivery sent
      obtain ⟨_, _, positive, found, _⟩ := mem_delivered bounded sent
      rw [found] at positive ⊢
      exact lookup_of_userId2Cfd positive
    refine ⟨?_, ?_, ofDelivery, ?_⟩
    · intro userId recipient
      obtain ⟨positive, single⟩ := entersOnce userId recipient
      rw [count_delivered bounded, if_pos ⟨recipient.notSender, positive⟩]
      exact (count_sendUserVector_eq_one_iff recipient.addressed).mpr single
    · intro delivery sent
      obtain ⟨addressed, notSender, _⟩ := mem_delivered bounded sent
      exact ⟨addressed, notSender, Option.isSome_iff_exists.mpr ⟨_, ofDelivery delivery sent⟩⟩
    · intro left leftSent right rightSent
      obtain ⟨_, _, _, _, leftData⟩ := mem_delivered bounded leftSent
      obtain ⟨_, _, _, _, rightData⟩ := mem_delivered bounded rightSent
      rw [leftData, rightData]

/-- A chat message from user 7 to group 1000, as it arrives. -/
def from7ToGroup : List Byte :=
  [40, 0, 0, 0, 101, 0, 0, 0, 0, 0, 0, 0, 0, 0, 0, 0, 7, 0, 0, 0, 232, 3, 0, 0, 1, 0, 0, 0, 0,
    1, 0, 0, 0, 0, 2, 0, 0, 0, 98, 0]

/-- The message in it. -/
def decoded7ToGroup : DataMsg :=
  { decoded7To5 with receiver := 1000, isGroup := true }

theorem threadWork_from7ToGroup :
    threadWork .zeroed from7ToGroup = .decoded (.dataMsg decoded7ToGroup) := by
  decide

/-- User 5 has been entered into group 1000 twice. -/
def doubledRow : Database := { noRows with groupUser := [⟨1000, 5⟩, ⟨1000, 5⟩] }

/-- With one row, user 5 is sent the message once. -/
theorem from7ToGroup_once :
    ExactlyOnce oneGroup.groupUser user5Online decoded7ToGroup
      (delivered oneGroup true 0 user5Online decoded7ToGroup) := by
  refine (exactlyOnce_iff (by decide) threadWork_from7ToGroup oneGroup true 0 user5Online).mpr ?_
  rintro userId ⟨addressed, _, _⟩
  have user5 : userId = 5 := by simpa [AddressedTo, decoded7ToGroup, oneGroup] using addressed
  subst user5
  exact ⟨by decide, fun _ => by decide⟩

/-- With two rows, user 5 is sent the message twice. -/
theorem from7ToGroup_twice :
    threadWork .zeroed from7ToGroup = .decoded (.dataMsg decoded7ToGroup) ∧
      ((delivered doubledRow true 0 user5Online decoded7ToGroup).map Prod.fst).count 5 = 2 ∧
      ¬ ExactlyOnce doubledRow.groupUser user5Online decoded7ToGroup
        (delivered doubledRow true 0 user5Online decoded7ToGroup) := by
  have twice : ((delivered doubledRow true 0 user5Online decoded7ToGroup).map Prod.fst).count 5 =
      2 := by
    rw [count_delivered (by decide)]
    decide
  refine ⟨threadWork_from7ToGroup, twice, ?_⟩
  intro exactlyOnce
  have once := exactlyOnce.once 5 ⟨by decide, by decide, by decide⟩
  rw [twice] at once
  cases once

end SocketMessage.Server
