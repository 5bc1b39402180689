import Mathlib.Data.List.Perm.Basic
import SocketMessage.Lib.Paging
import SocketMessage.Server.Replies
import SocketMessage.Server.TaskQueue
import SocketMessage.Wire.Neighbours

/-!
# Reading one's history

A client asks for its messages with `LastMsgId` 0 and then with the largest id it has
received. The first query has a `LIMIT` but no `ORDER BY`, so that what it leaves out
need not lie above what it returns; the later ones only look above. An answer reaches the
client when it can be serialized, `SendPackage` takes it, and its task finds room for it.
-/

namespace SocketMessage.Server

open SocketMessage.Lib SocketMessage.Frame SocketMessage.Wire

/-- The largest id received so far, 0 before the first message. -/
def lastMsgId : List DataMsg → CInt
  | [] => 0
  | message :: rest => rest.foldl
      (fun last message => if last.toInt < message.msgId.toInt then message.msgId else last)
      message.msgId

/-- The database returns the rows of the given query in the given order. -/
abbrev QueryOrders := Nat → List MsgRow → List MsgRow

/-- A query's order leaves out no row and repeats none. -/
def QueryOrders.Valid (orders : QueryOrders) : Prop := ∀ asked rows, (orders asked rows).Perm rows

/-- The server when the handler of a request calls `SendPackage`, and when its task runs. -/
structure Visit where
  called : ServerState
  written : ServerState

/-- The connection that asks, and the fd that its packages carry. -/
structure Asker where
  connection : Nat
  cfd : Int

/-- `SendPackage` queues a task for the data, which appends it to the write buffer of the
connection that has asked. -/
def Visit.sends (visit : Visit) (asker : Asker) (data : List Byte) : Bool :=
  match (visit.called.sendPackage asker.cfd data none).socketTasks.drop
    visit.called.socketTasks.length with
  | [.send task] => visit.written.appendsTo task = some asker.connection
  | _ => false

/-- What the query for the client's next request returns. -/
def queriedPage (tables : Tables) (orders : QueryOrders) (memory : DataMsg) (userId : CInt)
    (asked : Nat) (received : List DataMsg) : Option (List DataMsg) :=
  getDataMsgList tables.toDatabase (orders asked) memory (.fresh (lastMsgId received) userId)

/-- The answer to the client's next request, if one is sent. -/
def nextPage (tables : Tables) (orders : QueryOrders) (memory : DataMsg) (userId : CInt)
    (asker : Asker) (visits : Nat → Visit) (asked : Nat) (received : List DataMsg) :
    Option (List DataMsg) := do
  let msgVector ← queriedPage tables orders memory userId asked received
  let (msgList, _) ← ({ DataMsgList.fresh with msgVector } : DataMsgList).serialize
  if (visits asked).sends asker msgList then some msgVector else none

/-- What the client has when an empty answer comes back. It asks again when it has an answer. -/
def readHistory (tables : Tables) (orders : QueryOrders) (memory : DataMsg) (userId : CInt)
    (asker : Asker) (visits : Nat → Visit) (passes : Nat) : Option (List DataMsg) :=
  collectPages (nextPage tables orders memory userId asker visits) passes 0 []

/-- The rows that are selected for a user. -/
def selectedRows (tables : Tables) (userId : CInt) : List MsgRow :=
  tables.msg.filter (selectsReceiver tables.groupUser userId)

/-- In whatever order the database returns rows, an empty answer comes back, and the
client has then received every selected row exactly once. -/
def HistoryComplete (tables : Tables) (memory : DataMsg) (userId : CInt) (asker : Asker)
    (visits : Nat → Visit) : Prop :=
  ∀ orders : QueryOrders, orders.Valid →
    ∃ passes received, readHistory tables orders memory userId asker visits passes = some received ∧
      (received.map some).Perm ((selectedRows tables userId).map (MsgRow.toDataMsg memory))

/-- There is as much room at both times, and the fd still names the connection. -/
def Visit.HasRoom (visit : Visit) (asker : Asker) (size : Nat) : Prop :=
  visit.called.RoomFor asker.cfd size ∧
    visit.written.RoomFor asker.cfd size ∧ visit.written.clientFdMap asker.cfd = some asker.connection

/-- The size of the frame of an answer with these rows. -/
def answerSize (rows : List MsgRow) : Nat :=
  4 + (12 + (rows.map fun row => 39 + (row.msg.getD []).length + (row.extend.getD []).length).sum)

/-- The rows fit the first answer, can be read, and move the client's `LastMsgId`; there is room
for that answer, and for the empty one after it. -/
structure FitsFirstAnswer (tables : Tables) (userId : CInt) (asker : Asker) (visits : Nat → Visit) :
    Prop where
  few : (selectedRows tables userId).length ≤ 100
  readable : ∀ row ∈ selectedRows tables userId, row.Readable
  positive : selectedRows tables userId = [] ∨
    ∃ row ∈ selectedRows tables userId, 0 < row.msgId.toInt
  room : (visits 0).HasRoom asker (answerSize (selectedRows tables userId))
  roomToEnd : selectedRows tables userId = [] ∨ (visits 1).HasRoom asker (answerSize [])

/-! ## What is sent -/

/-- Data is sent exactly when its frame fits the write buffer both times and the fd has not gone
to another connection. -/
theorem Visit.sends_iff {visit : Visit} {asker : Asker} {data : List Byte}
    (small : data.length < 2 ^ 31) :
    visit.sends asker data = true ↔ visit.HasRoom asker (4 + data.length) := by
  unfold Visit.sends Visit.HasRoom
  by_cases room : visit.called.RoomFor asker.cfd (4 + data.length)
  · obtain ⟨pointer, _, queued⟩ := ServerState.sendPackage_of_room room none
    rw [queued, ServerState.addSocketTask, List.drop_left]
    simp only [decide_eq_true_eq, ServerState.appendsTo_eq_some_iff, length_frame, room, true_and]
  · rw [ServerState.socketTasks_of_no_room small room, List.drop_length]
    simp [room]

/-! ## The cursor -/

/-- The loop over the messages after the first keeps the greatest id. -/
theorem foldl_lastMsgId (messages : List DataMsg) (start : CInt) :
    let last := messages.foldl
      (fun last message => if last.toInt < message.msgId.toInt then message.msgId else last) start
    (last = start ∨ ∃ message ∈ messages, last = message.msgId) ∧ start.toInt ≤ last.toInt ∧
      ∀ message ∈ messages, message.msgId.toInt ≤ last.toInt := by
  induction messages generalizing start with
  | nil => simp
  | cons message rest inductionHypothesis =>
      obtain ⟨origin, above, greatest⟩ := inductionHypothesis
        (if start.toInt < message.msgId.toInt then message.msgId else start)
      simp only [List.foldl_cons, List.mem_cons, forall_eq_or_imp, exists_eq_or_imp]
      split at above
      · next greater =>
        rw [if_pos greater] at origin greatest ⊢
        exact ⟨Or.inr origin, by omega, above, greatest⟩
      · next smaller =>
        rw [if_neg smaller] at origin greatest ⊢
        exact ⟨origin.imp_right Or.inr, above, by omega, greatest⟩

/-- The id the client asks with next. -/
theorem lastMsgId_spec {received : List DataMsg} (some_received : received ≠ []) :
    (∃ message ∈ received, lastMsgId received = message.msgId) ∧
      ∀ message ∈ received, message.msgId.toInt ≤ (lastMsgId received).toInt := by
  cases received with
  | nil => exact absurd rfl some_received
  | cons first rest =>
      obtain ⟨origin, above, greatest⟩ := foldl_lastMsgId rest first.msgId
      refine ⟨?_, ?_⟩
      · rcases origin with same | ⟨message, member, same⟩
        · exact ⟨first, List.mem_cons_self, same⟩
        · exact ⟨message, List.mem_cons_of_mem _ member, same⟩
      · intro message member
        rcases List.mem_cons.mp member with rfl | later
        · exact above
        · exact greatest message later

/-! ## The answers -/

section Answers

variable {tables : Tables} {orders : QueryOrders} {memory : DataMsg} {userId : CInt}
  {asked : Nat} {received page : List DataMsg} {asker : Asker} {visits : Nat → Visit}

/-- As long as no received id is positive, the first rows of what is selected for the client
are asked for. -/
theorem answerRows_of_first (first : (lastMsgId received).toInt ≤ 0) :
    answerRows tables.toDatabase (orders asked) (.fresh (lastMsgId received) userId) =
      (orders asked (selectedRows tables userId)).take 100 := by
  have noCursor : ¬ 0 < (C2SGetDataMsgList.fresh (lastMsgId received) userId).lastMsgId.toInt := by
    simpa [C2SGetDataMsgList.fresh] using first
  have everyRow : selects tables.groupUser (.fresh (lastMsgId received) userId) =
      selectsReceiver tables.groupUser userId := by
    funext row
    rw [selects, if_neg noCursor, Bool.and_true]
    rfl
  rw [answerRows, selectionLimit, if_neg noCursor, everyRow]
  rfl

/-- Afterwards, the selected rows above its greatest id. -/
theorem answerRows_of_later (later : 0 < (lastMsgId received).toInt) :
    answerRows tables.toDatabase (orders asked) (.fresh (lastMsgId received) userId) =
      orders asked ((selectedRows tables userId).filter fun row =>
        (lastMsgId received).toInt < row.msgId.toInt) := by
  have cursor : 0 < (C2SGetDataMsgList.fresh (lastMsgId received) userId).lastMsgId.toInt := later
  have above : tables.msg.filter
      (selects tables.groupUser (.fresh (lastMsgId received) userId)) =
      (selectedRows tables userId).filter fun row =>
        (lastMsgId received).toInt < row.msgId.toInt := by
    rw [selectedRows, List.filter_filter]
    apply List.filter_congr
    intro row _
    rw [selects, if_pos cursor, Bool.and_comm]
    rfl
  rw [answerRows, selectionLimit, if_pos cursor, above]

/-- The query reads these rows. -/
theorem queriedPage_eq :
    queriedPage tables orders memory userId asked received =
      (answerRows tables.toDatabase (orders asked) (.fresh (lastMsgId received) userId)).mapM
        (MsgRow.toDataMsg memory) := rfl

/-- The first answer comes from selected rows. -/
theorem mem_first_page (valid : orders.Valid) (first : (lastMsgId received).toInt ≤ 0)
    (answered : queriedPage tables orders memory userId asked received = some page)
    {message : DataMsg} (member : message ∈ page) :
    ∃ row ∈ selectedRows tables userId, message.msgId = row.msgId := by
  rw [queriedPage_eq, answerRows_of_first first, mapM_eq_some_iff] at answered
  obtain ⟨row, fromPage, read⟩ := List.mem_map.mp
    (answered ▸ List.mem_map_of_mem member : some message ∈ _)
  exact ⟨row, (valid _ _).mem_iff.mp (List.mem_of_mem_take fromPage), msgId_toDataMsg read⟩

/-- An answer that is sent is one for which there is room. -/
theorem nextPage_eq_some_iff (valid : orders.Valid) :
    nextPage tables orders memory userId asker visits asked received = some page ↔
      queriedPage tables orders memory userId asked received = some page ∧
        (visits asked).HasRoom asker (4 + (12 + (page.map DataMsg.encodedSize).sum)) := by
  unfold nextPage
  cases queried : queriedPage tables orders memory userId asked received with
  | none => simp
  | some msgVector =>
      have encodes := tables.encodes_dataMsgList (valid asked) queried
      have size : ({ DataMsgList.fresh with msgVector } : DataMsgList).encodedSize =
          12 + (msgVector.map DataMsg.encodedSize).sum := rfl
      simp only [Option.bind_eq_bind, Option.bind_some, Option.some.injEq]
      cases serialized : ({ DataMsgList.fresh with msgVector } : DataMsgList).serialize with
      | none =>
          refine iff_of_false (by simp) ?_
          rintro ⟨rfl, ⟨_, _, _, _, fits⟩, _⟩
          simp only [writeBufMaxSize] at fits
          obtain ⟨result, total, _⟩ := encodes.total (by omega)
          rw [serialized] at total
          cases total
      | some result =>
          obtain ⟨whole, small⟩ := encodes.whole result serialized
          obtain ⟨other, total, length⟩ := encodes.total (Nat.lt_of_le_of_lt whole small)
          obtain rfl := Option.some.inj (serialized.symm.trans total)
          rw [Option.bind_some, Option.ite_none_right_eq_some, Option.some.injEq,
            Visit.sends_iff small, length, size]
          constructor
          · rintro ⟨room, rfl⟩
            exact ⟨rfl, room⟩
          · rintro ⟨rfl, room⟩
            exact ⟨room, rfl⟩

/-- The rows of the whole history make an answer of this size. -/
theorem size_first_page (valid : orders.Valid) (few : (selectedRows tables userId).length ≤ 100)
    (first : (lastMsgId received).toInt ≤ 0)
    (answered : queriedPage tables orders memory userId asked received = some page) :
    (page.map some).Perm ((selectedRows tables userId).map (MsgRow.toDataMsg memory)) ∧
      4 + (12 + (page.map DataMsg.encodedSize).sum) = answerSize (selectedRows tables userId) := by
  have rows : answerRows tables.toDatabase (orders asked) (.fresh (lastMsgId received) userId) =
      orders asked (selectedRows tables userId) := by
    rw [answerRows_of_first first]
    apply List.take_of_length_le
    rw [(valid asked _).length_eq]
    exact few
  have sizes := getDataMsgList_spec.2 page answered
  rw [queriedPage_eq, rows, mapM_eq_some_iff] at answered
  refine ⟨?_, ?_⟩
  · rw [← answered]
    exact (valid asked _).map _
  · rw [sizes, rows, answerSize, ((valid asked (selectedRows tables userId)).map _).sum_eq]

/-- Rows without a positive id never let the client past its first request. -/
theorem readHistory_eq_none (valid : orders.Valid) (present : selectedRows tables userId ≠ [])
    (nonpositive : ∀ row ∈ selectedRows tables userId, row.msgId.toInt ≤ 0) (passes : Nat) :
    readHistory tables orders memory userId asker visits passes = none := by
  apply @collectPages_eq_none _ _ fun received => ∀ message ∈ received, message.msgId.toInt ≤ 0
  · intro asked received page low fetched
    have answered := ((nextPage_eq_some_iff valid).mp fetched).1
    have first : (lastMsgId received).toInt ≤ 0 := by
      by_cases nothing : received = []
      · simp [nothing, lastMsgId]
      · obtain ⟨message, member, same⟩ := (lastMsgId_spec nothing).1
        exact same ▸ low message member
    constructor
    · rintro rfl
      rw [queriedPage_eq, answerRows_of_first first, mapM_eq_some_iff, List.map_nil,
        List.map_eq_nil_iff, List.take_eq_nil_iff] at answered
      rcases answered with noLimit | noRows
      · cases noLimit
      · exact present (noRows ▸ valid asked _).symm.eq_nil
    · intro message member
      rcases List.mem_append.mp member with before | inPage
      · exact low message before
      · obtain ⟨row, selected, same⟩ := mem_first_page valid first answered inPage
        exact same ▸ nonpositive row selected
  · simp

/-- Once nothing lies above the greatest received id, the answer is empty. -/
theorem queriedPage_of_greatest (valid : orders.Valid) (later : 0 < (lastMsgId received).toInt)
    (greatest : ∀ row ∈ selectedRows tables userId,
      row.msgId.toInt ≤ (lastMsgId received).toInt) :
    queriedPage tables orders memory userId asked received = some [] := by
  have nothing : (selectedRows tables userId).filter
      (fun row => (lastMsgId received).toInt < row.msgId.toInt) = [] := by
    rw [List.filter_eq_nil_iff]
    intro row selected
    have below := greatest row selected
    simpa using below
  rw [queriedPage_eq, answerRows_of_later later, nothing, (valid asked []).eq_nil]
  rfl

end Answers

/-! ## When the history is complete -/

section Complete

variable {tables : Tables} {memory : DataMsg} {userId : CInt} {asker : Asker} {visits : Nat → Visit}
  {orders : QueryOrders} {page : List DataMsg}

/-- A page with every selected row is the last one, if one of its ids is positive. -/
theorem queriedPage_of_everything (valid : orders.Valid)
    (contents : (page.map some).Perm ((selectedRows tables userId).map (MsgRow.toDataMsg memory)))
    (positive : ∃ row ∈ selectedRows tables userId, 0 < row.msgId.toInt) (asked : Nat) :
    queriedPage tables orders memory userId asked page = some [] := by
  have inPage : ∀ row ∈ selectedRows tables userId, ∃ message ∈ page, message.msgId = row.msgId := by
    intro row selected
    obtain ⟨message, member, read⟩ := List.mem_map.mp
      (contents.mem_iff.mpr (List.mem_map_of_mem selected))
    exact ⟨message, member, msgId_toDataMsg read.symm⟩
  obtain ⟨row, selected, above⟩ := positive
  obtain ⟨message, member, same⟩ := inPage row selected
  obtain ⟨_, greatest⟩ := lastMsgId_spec (List.ne_nil_of_mem member)
  have below := greatest message member
  rw [same] at below
  apply queriedPage_of_greatest valid (by omega)
  intro other otherSelected
  obtain ⟨message, member, same⟩ := inPage other otherSelected
  exact same ▸ greatest message member

/-- Whatever order the rows come in, a history that fits the first answer is read. -/
theorem historyComplete_of_fits (fits : FitsFirstAnswer tables userId asker visits) :
    HistoryComplete tables memory userId asker visits := by
  intro orders valid
  have first : (lastMsgId []).toInt ≤ 0 := by decide
  have readable : ∀ row ∈ answerRows tables.toDatabase (orders 0) (.fresh (lastMsgId []) userId),
      (row.toDataMsg memory).isSome := by
    intro row member
    rw [answerRows_of_first first] at member
    exact toDataMsg_isSome_iff.mpr
      (fits.readable row ((valid 0 _).mem_iff.mp (List.mem_of_mem_take member)))
  obtain ⟨page, queried⟩ := Option.isSome_iff_exists.mp (mapM_isSome_iff.mpr readable)
  obtain ⟨contents, size⟩ := size_first_page valid fits.few first queried
  have fetched : nextPage tables orders memory userId asker visits 0 [] = some page :=
    (nextPage_eq_some_iff valid).mpr ⟨queried, size ▸ fits.room⟩
  by_cases nothing : page = []
  · subst nothing
    exact ⟨1, [], collectPages_of_empty fetched, contents⟩
  · have present : selectedRows tables userId ≠ [] := by
      intro empty
      rw [empty] at contents
      exact nothing (List.map_eq_nil_iff.mp contents.eq_nil)
    have ended := queriedPage_of_everything valid contents (fits.positive.resolve_left present) 1
    refine ⟨2, page, ?_, contents⟩
    rw [readHistory, collectPages_of_page fetched nothing]
    exact collectPages_of_empty
      ((nextPage_eq_some_iff valid).mpr ⟨ended, fits.roomToEnd.resolve_left present⟩)

/-- The database returns the newest message first. -/
def newestFirst : QueryOrders := fun _ rows =>
  rows.mergeSort fun left right => right.msgId.toInt ≤ left.msgId.toInt

theorem newestFirst_valid : newestFirst.Valid := fun _ rows => List.mergeSort_perm rows _

/-- No row is newer than the first. -/
theorem le_of_newestFirst {asked : Nat} {rows rest : List MsgRow} {newest : MsgRow}
    (sorted : newestFirst asked rows = newest :: rest) :
    ∀ row ∈ rows, row.msgId.toInt ≤ newest.msgId.toInt := by
  intro row member
  have descending : (newestFirst asked rows).Pairwise
      fun left right => decide (right.msgId.toInt ≤ left.msgId.toInt) = true := by
    apply List.pairwise_mergeSort
    · intro first second third
      simp only [decide_eq_true_eq]
      omega
    · intro left right
      simp only [Bool.or_eq_true, decide_eq_true_eq]
      omega
  rw [sorted, List.pairwise_cons] at descending
  have inSorted := (newestFirst_valid asked rows).mem_iff.mpr member
  rw [sorted] at inSorted
  rcases List.mem_cons.mp inSorted with rfl | later
  · exact le_refl _
  · simpa using descending.1 row later

/-- With the newest message first, the client asks for nothing after the first answer. -/
theorem length_received_of_newestFirst {newest : MsgRow} {rest : List MsgRow} {passes : Nat}
    {received : List DataMsg}
    (sorted : newestFirst 0 (selectedRows tables userId) = newest :: rest)
    (positive : 0 < newest.msgId.toInt)
    (collected : readHistory tables newestFirst memory userId asker visits passes = some received) :
    received.length ≤ 100 := by
  have first : (lastMsgId []).toInt ≤ 0 := by decide
  obtain ⟨page, fetched, whenEmpty, whenMore⟩ := exists_page_of_collectPages collected
  obtain ⟨queried, _⟩ := (nextPage_eq_some_iff newestFirst_valid).mp fetched
  rw [queriedPage_eq, answerRows_of_first first, mapM_eq_some_iff, sorted] at queried
  have short : page.length ≤ 100 := by
    have same := congrArg List.length queried
    rw [List.length_map, List.length_map, List.length_take] at same
    omega
  obtain ⟨message, inPage, read⟩ := List.mem_map.mp
    (queried ▸ List.mem_map_of_mem (by simp) : MsgRow.toDataMsg memory newest ∈ _)
  obtain ⟨_, below⟩ := lastMsgId_spec (List.ne_nil_of_mem inPage)
  have newestBelow := below message inPage
  rw [msgId_toDataMsg read.symm] at newestBelow
  obtain ⟨passes, more⟩ := whenMore (List.ne_nil_of_mem inPage)
  obtain ⟨second, fetchedSecond, whenEmpty, _⟩ := exists_page_of_collectPages more
  obtain ⟨queriedSecond, _⟩ := (nextPage_eq_some_iff newestFirst_valid).mp fetchedSecond
  rw [List.nil_append, queriedPage_of_greatest newestFirst_valid (by omega)] at queriedSecond
  · rw [whenEmpty (Option.some.inj queriedSecond).symm]
    exact short
  · intro row selected
    have belowNewest := le_of_newestFirst sorted row selected
    omega

/-- With more rows than the first answer holds, a database that returns the newest
messages first leaves the client without the others. -/
theorem few_of_historyComplete (complete : HistoryComplete tables memory userId asker visits) :
    (selectedRows tables userId).length ≤ 100 := by
  by_contra many
  obtain ⟨passes, received, collected, contents⟩ := complete newestFirst newestFirst_valid
  have count := contents.length_eq
  rw [List.length_map, List.length_map] at count
  have present : selectedRows tables userId ≠ [] := by
    intro empty
    rw [empty, List.length_nil] at many
    omega
  have sortedPresent : newestFirst 0 (selectedRows tables userId) ≠ [] := by
    intro empty
    rw [← List.length_eq_zero_iff, (newestFirst_valid 0 _).length_eq] at empty
    exact present (List.length_eq_zero_iff.mp empty)
  obtain ⟨newest, rest, sorted⟩ := List.exists_cons_of_ne_nil sortedPresent
  by_cases positive : 0 < newest.msgId.toInt
  · have short := length_received_of_newestFirst sorted positive collected
    omega
  · rw [readHistory_eq_none newestFirst_valid present _ passes] at collected
    · cases collected
    · intro row selected
      have below := le_of_newestFirst sorted row selected
      omega

/-- A client that ends was sent the first answer, and after it an empty one. -/
theorem rooms_of_complete (valid : orders.Valid) (few : (selectedRows tables userId).length ≤ 100)
    (positive : selectedRows tables userId = [] ∨
      ∃ row ∈ selectedRows tables userId, 0 < row.msgId.toInt)
    {passes : Nat} {received : List DataMsg}
    (collected : readHistory tables orders memory userId asker visits passes = some received) :
    (visits 0).HasRoom asker (answerSize (selectedRows tables userId)) ∧
      (selectedRows tables userId = [] ∨ (visits 1).HasRoom asker (answerSize [])) := by
  have first : (lastMsgId []).toInt ≤ 0 := by decide
  obtain ⟨page, fetched, _, whenMore⟩ := exists_page_of_collectPages collected
  obtain ⟨queried, room⟩ := (nextPage_eq_some_iff valid).mp fetched
  obtain ⟨contents, size⟩ := size_first_page valid few first queried
  refine ⟨size ▸ room, or_iff_not_imp_left.mpr fun present => ?_⟩
  have nonempty : page ≠ [] := by
    rintro rfl
    exact present (List.map_eq_nil_iff.mp contents.symm.eq_nil)
  obtain ⟨_, more⟩ := whenMore nonempty
  obtain ⟨second, fetchedSecond, _, _⟩ := exists_page_of_collectPages more
  obtain ⟨queriedSecond, roomSecond⟩ := (nextPage_eq_some_iff valid).mp fetchedSecond
  rw [List.nil_append, queriedPage_of_everything valid contents (positive.resolve_left present)]
    at queriedSecond
  obtain rfl := Option.some.inj queriedSecond
  exact roomSecond

end Complete

/-- For any tables, whatever else the server does between the client's requests: the client has
every selected row exactly once when an empty answer comes back, whatever order the database
returns rows in, exactly when they fit the first answer, can be read, one of them has a positive
id, and there is room for that answer and for the empty one. The ids that the client decodes from
an answer are those of its rows, whatever the texts are. -/
theorem historyComplete_iff_fits (tables : Tables) (memory : DataMsg) (userId : CInt)
    (asker : Asker) (visits : Nat → Visit) :
    (HistoryComplete tables memory userId asker visits ↔
        FitsFirstAnswer tables userId asker visits) ∧
      ∀ (answer sent received : DataMsgList) (data : List Byte), answer.msgVector.length ≤ 127 →
        answer.serialize = some (data, sent) →
        DataMsgList.fresh.unSerialize data 0 = some received →
          received.msgVector.map DataMsg.msgId = answer.msgVector.map DataMsg.msgId := by
  refine ⟨⟨fun complete => ?_, historyComplete_of_fits⟩,
    fun _ _ _ _ => DataMsgList.msgId_unSerialize⟩
  have few := few_of_historyComplete complete
  have asStored : QueryOrders.Valid fun _ rows => rows := fun _ rows => List.Perm.refl rows
  obtain ⟨passes, received, collected, contents⟩ := complete _ asStored
  have positive : selectedRows tables userId = [] ∨
      ∃ row ∈ selectedRows tables userId, 0 < row.msgId.toInt := by
    by_contra low
    obtain ⟨present, noneAbove⟩ := not_or.mp low
    rw [readHistory_eq_none asStored present _ passes] at collected
    · cases collected
    · intro row selected
      by_contra above
      exact noneAbove ⟨row, selected, by omega⟩
  obtain ⟨room, roomToEnd⟩ := rooms_of_complete asStored few positive collected
  refine ⟨few, fun row selected => ?_, positive, room, roomToEnd⟩
  obtain ⟨message, _, read⟩ := List.mem_map.mp
    (contents.mem_iff.mpr (List.mem_map_of_mem selected))
  exact toDataMsg_isSome_iff.mp (by rw [← read]; rfl)

/-- The messages user 5 has been sent, under the first ids the table assigns. -/
def conversation (count : Nat) : Tables where
  groupUser := []
  msg := (List.range count).map fun index =>
    .ofDataMsg { DataMsg.zeroed with
      msgId := BitVec.ofNat 32 (1000000 + index), sender := 7, receiver := 5 }
  autoIncrement := 1000000 + count
  positive := Nat.le_add_right_of_le (by decide)
  user := []
  group := []
  texts row member := by
    obtain ⟨index, _, rfl⟩ := List.mem_map.mp member
    exact ⟨Nat.zero_le _, Nat.zero_le _⟩

/-- Every message of the conversation is for user 5. -/
theorem selectedRows_conversation (count : Nat) :
    selectedRows (conversation count) 5 = (conversation count).msg := by
  rw [selectedRows, List.filter_eq_self]
  intro row member
  obtain ⟨index, _, rfl⟩ := List.mem_map.mp member
  rfl

/-- The client that `accepted5` has just accepted has room for whatever fits a buffer. -/
theorem hasRoom_accepted5 {size : Nat} (fits : size ≤ writeBufMaxSize) :
    (Visit.mk accepted5 accepted5).HasRoom ⟨0, 5⟩ size := by
  have empty : accepted5.RoomFor 5 size :=
    ⟨0, _, rfl, rfl, by simpa [ClientSocket.create] using fits⟩
  exact ⟨empty, empty, rfl⟩

/-- Two messages reach the client in whatever order they are returned. -/
theorem twoMessages_complete :
    HistoryComplete (conversation 2) .zeroed 5 ⟨0, 5⟩ fun _ => ⟨accepted5, accepted5⟩ := by
  refine (historyComplete_iff_fits _ _ _ _ _).1.mpr ⟨by decide, fun row selected => ?_, Or.inr ?_,
    hasRoom_accepted5 (by decide), Or.inr (hasRoom_accepted5 (by decide))⟩
  · rw [selectedRows_conversation] at selected
    obtain ⟨index, -, rfl⟩ := List.mem_map.mp selected
    exact ⟨rfl, rfl, rfl, rfl, rfl⟩
  · refine ⟨.ofDataMsg { DataMsg.zeroed with msgId := 1000001, sender := 7, receiver := 5 }, ?_, ?_⟩
    · decide
    · decide

/-- Of 101 messages the client can end up with 100, though its write buffer is always empty. -/
theorem conversation_not_complete :
    (∀ size, size ≤ writeBufMaxSize → (Visit.mk accepted5 accepted5).HasRoom ⟨0, 5⟩ size) ∧
      ¬ HistoryComplete (conversation 101) .zeroed 5 ⟨0, 5⟩ fun _ => ⟨accepted5, accepted5⟩ := by
  refine ⟨fun _ => hasRoom_accepted5, fun complete => ?_⟩
  have few := few_of_historyComplete complete
  rw [selectedRows_conversation, conversation, List.length_map, List.length_range] at few
  omega

end SocketMessage.Server
