import Mathlib.Algebra.BigOperators.Group.List.Basic
import Mathlib.Algebra.Order.Ring.Nat
import Mathlib.Data.List.Perm.Basic
import SocketMessage.Server.Outbound

/-!
# Room that was there when it was asked for

Between the test of `SendPackage` and the `Write` of its package others can fill the
buffer, and `Write` drops what does not fit without telling anybody. The server leaves
the `Write` to its thread pool; the client calls it on the caller's thread, of which
there can be several.
-/

namespace SocketMessage.Server

open SocketMessage.Lib SocketMessage.Frame

namespace Outbox

/-- While the connection is open, every package that was not refused waits for its
`Write` or has been appended. -/
def NotLost (self : Outbox) (waiting : List Package) : Prop :=
  self.isOpen = true → self.accepted.Perm (waiting ++ self.appended)

/-- The buffer has room for all the packages on their way to it. -/
def Covers (self : Outbox) (waiting : List Package) : Prop :=
  self.writeBuffer.length + (waiting.map fun package => package.sendData.length).sum ≤
    writeBufMaxSize

/-- The package of a call finds room besides those on their way. -/
def Fits (self : Outbox) (waiting : List Package) (data : List Byte) : Prop :=
  self.refuses data.length = false → self.Covers (waiting ++ [self.package 0 data])

variable {self : Outbox} {waiting before after : List Package} {package : Package}

theorem NotLost.accept (notLost : self.NotLost waiting) :
    (self.accept package).NotLost (waiting ++ [package]) := by
  intro isOpen
  have more : (self.accepted ++ [package]).Perm (waiting ++ self.appended ++ [package]) :=
    (notLost isOpen).append_right [package]
  refine more.trans ?_
  rw [List.append_assoc, List.append_assoc]
  exact (List.perm_append_comm).append_left waiting

/-- A `Write` loses its package exactly when it finds no room. -/
theorem NotLost.write_iff (notLost : self.NotLost (before ++ package :: after)) :
    (self.write package).NotLost (before ++ after) ↔ (self.isOpen = true → self.HasRoom package) := by
  have moved : (before ++ package :: after ++ self.appended).Perm
      (before ++ after ++ (self.appended ++ [package])) := by
    rw [List.append_assoc, List.append_assoc, List.cons_append]
    refine List.Perm.append_left before ?_
    rw [← List.append_assoc]
    exact (List.perm_append_singleton package (after ++ self.appended)).symm
  unfold Outbox.write
  by_cases room : self.HasRoom package
  · rw [if_pos room]
    refine iff_of_true ?_ fun _ => room
    intro isOpen
    exact (notLost isOpen).trans moved
  · rw [if_neg room]
    constructor
    · intro kept isOpen
      have all := ((notLost isOpen).trans moved).length_eq
      have fewer := (kept isOpen).length_eq
      simp only [List.length_append, List.length_singleton] at all fewer
      omega
    · intro found isOpen
      exact absurd (found isOpen) room

/-- The task of a package does nothing once the connection is closed. -/
theorem NotLost.writeTask_iff (notLost : self.NotLost (before ++ package :: after)) :
    (self.writeTask package).NotLost (before ++ after) ↔
      (self.isOpen = true → self.HasRoom package) := by
  unfold writeTask
  split
  · exact notLost.write_iff
  · next closed =>
    refine iff_of_true ?_ ?_ <;>
    · intro isOpen
      exact absurd isOpen closed

/-- A package that is covered has room, and leaves room for the others. -/
theorem Covers.write (covers : self.Covers (before ++ package :: after)) :
    self.HasRoom package ∧ (self.write package).Covers (before ++ after) := by
  simp only [Covers, List.map_append, List.map_cons, List.sum_append, List.sum_cons] at covers
  have room : self.HasRoom package := by
    unfold HasRoom getSize4EmptyWrite
    omega
  refine ⟨room, ?_⟩
  simp only [Outbox.write, if_pos room, Covers, List.map_append, List.sum_append,
    List.length_append]
  omega

/-- The task of a package uses no more room than the package. -/
theorem Covers.writeTask (covers : self.Covers (before ++ package :: after)) :
    (self.writeTask package).Covers (before ++ after) := by
  unfold Outbox.writeTask
  split
  · exact covers.write.2
  · simp only [Covers, List.map_append, List.map_cons, List.sum_append, List.sum_cons] at covers ⊢
    omega

/-- A package that fits is covered once it has been accepted. -/
theorem Fits.accept {data : List Byte} (fits : self.Fits waiting data)
    (passes : self.refuses data.length = false) (caller : Nat) :
    (self.accept (self.package caller data)).Covers (waiting ++ [self.package caller data]) := by
  simpa [Covers, Outbox.accept, Outbox.package] using fits passes

theorem Covers.send (covers : self.Covers waiting) (count : Nat) :
    (self.send count).Covers waiting := by
  simp only [Covers, Outbox.send, List.length_drop] at covers ⊢
  omega

end Outbox

/-! ## The server -/

namespace OutboundState

/-- No package is lost while the connection is open. -/
def NotLost (state : OutboundState) : Prop := state.outbox.NotLost state.waiting

/-- A package whose `Write` runs on the open connection has room. -/
def FindsRoom (state : OutboundState) : OutboundEvent → Prop
  | .write index => ∀ package, state.threadPool.running[index]? = some (.sendPackage package false) →
      state.outbox.isOpen = true → state.outbox.HasRoom package
  | _ => True

/-- A package that is not refused fits besides the buffer and all that is on its way
to it. -/
def CallFits (state : OutboundState) : OutboundEvent → Prop
  | .sendPackage _ data => state.outbox.Fits state.waiting data
  | _ => True

variable {threadCount : Nat} {state next : OutboundState} {event : OutboundEvent}

/-- A step loses nothing exactly when a `Write` on the open connection finds room. -/
theorem notLost_move_iff (notLost : state.NotLost) (moved : state.Moves threadCount event next) :
    state.FindsRoom event ↔ next.NotLost := by
  unfold NotLost at notLost ⊢
  cases moved with
  | refused => exact iff_of_true trivial notLost
  | accepted =>
      refine iff_of_true trivial ?_
      simpa [SocketWork.unwritten] using notLost.accept
  | addTask =>
      refine iff_of_true trivial ?_
      simpa [SocketWork.unwritten] using notLost
  | take taken =>
      refine iff_of_true trivial ?_
      simpa [waiting_take taken] using notLost
  | @write index package found =>
      obtain ⟨before, after, mine, _, rest⟩ := waiting_split found
      rw [mine] at notLost
      rw [rest, Outbox.NotLost.writeTask_iff (by simpa [SocketWork.unwritten] using notLost)]
      constructor
      · intro finds
        exact finds package found
      · intro room other foundOther
        obtain rfl : package = other := by simpa [found] using foundOther
        exact room
  | finish found done =>
      refine iff_of_true trivial ?_
      obtain ⟨before, after, mine, finished, _⟩ := waiting_split found
      rw [finished]
      simpa [mine, done] using notLost
  | send => exact iff_of_true trivial notLost
  | close => exact iff_of_true trivial fun isOpen => by cases isOpen

/-- A step whose call fits leaves room for all that is on its way. -/
theorem covers_move (covers : state.outbox.Covers state.waiting) (fits : state.CallFits event)
    (moved : state.Moves threadCount event next) :
    state.FindsRoom event ∧ next.outbox.Covers next.waiting := by
  cases moved with
  | refused => exact ⟨trivial, covers⟩
  | accepted sized passes =>
      refine ⟨trivial, ?_⟩
      simpa [SocketWork.unwritten] using Outbox.Fits.accept fits passes _
  | addTask =>
      refine ⟨trivial, ?_⟩
      simpa [SocketWork.unwritten] using covers
  | take taken =>
      refine ⟨trivial, ?_⟩
      simpa [waiting_take taken] using covers
  | @write index package found =>
      obtain ⟨before, after, mine, _, rest⟩ := waiting_split found
      rw [mine] at covers
      have covers : state.outbox.Covers (before ++ package :: after) := by
        simpa [SocketWork.unwritten] using covers
      refine ⟨?_, ?_⟩
      · intro other foundOther _
        obtain rfl : package = other := by simpa [found] using foundOther
        exact covers.write.1
      · rw [rest]
        exact covers.writeTask
  | finish found done =>
      obtain ⟨before, after, mine, finished, _⟩ := waiting_split found
      refine ⟨trivial, ?_⟩
      rw [finished]
      simpa [mine, done] using covers
  | send => exact ⟨trivial, covers.send _⟩
  | close => exact ⟨trivial, covers⟩

/-- A server that has just started has nothing to lose. -/
theorem notLost_start : start.NotLost := fun _ => .nil

end OutboundState

/-! ## The client -/

/-- A client's connection, and the calls of `SendPackage` between the test and the
`Write`, of different threads. -/
structure CallerState where
  outbox : Outbox
  calls : List Package

/-- A thread of the client calls `SendPackage` and passes its tests or not; one that has
passed them runs its `Write`; bytes leave; the connection is closed. -/
inductive CallerEvent where
  | sendPackage (thread : Nat) (data : List Byte)
  | write (index : Nat)
  | send (count : Nat)
  | close

namespace CallerState

def start : CallerState := ⟨.start, []⟩

/-- One step. A thread that holds the `ClientSocket` writes to it also after the
connection has been removed. -/
def step (state : CallerState) : CallerEvent → Option CallerState
  | .sendPackage thread data =>
      if data.length < 2 ^ 31 ∧ thread ∉ state.calls.map Package.caller then
        if state.outbox.refuses data.length then some state
        else if int32 (socketHeadSize + data.length) < 0 then none
        else
          let package := state.outbox.package thread data
          some ⟨state.outbox.accept package, state.calls ++ [package]⟩
      else none
  | .write index =>
      state.calls[index]?.map fun package =>
        ⟨state.outbox.write package, state.calls.eraseIdx index⟩
  | .send sent =>
      if sent ≤ state.outbox.writeBuffer.length then
        some { state with outbox := state.outbox.send sent }
      else none
  | .close => some { state with outbox := state.outbox.close }

/-- No package is lost while the connection is open. -/
def NotLost (state : CallerState) : Prop := state.outbox.NotLost state.calls

/-- A package whose `Write` runs on the open connection has room. -/
def FindsRoom (state : CallerState) : CallerEvent → Prop
  | .write index => ∀ package, state.calls[index]? = some package →
      state.outbox.isOpen = true → state.outbox.HasRoom package
  | _ => True

/-- A package that is not refused fits besides the buffer and all that is on its way
to it. -/
def CallFits (state : CallerState) : CallerEvent → Prop
  | .sendPackage _ data => state.outbox.Fits state.calls data
  | _ => True

end CallerState

/-- One connection of a client. -/
def callerSystem : LabelledSystem CallerState CallerEvent := .ofStep .start CallerState.step

namespace CallerState

variable {state next : CallerState} {event : CallerEvent}

/-- What a step can be. -/
inductive Moves (state : CallerState) : CallerEvent → CallerState → Prop where
  | refused {thread : Nat} {data : List Byte} : Moves state (.sendPackage thread data) state
  | accepted {thread : Nat} {data : List Byte}
      (passes : state.outbox.refuses data.length = false) :
      Moves state (.sendPackage thread data)
        ⟨state.outbox.accept (state.outbox.package thread data),
          state.calls ++ [state.outbox.package thread data]⟩
  | write {before after : List Package} {package : Package}
      (split : state.calls = before ++ package :: after) :
      Moves state (.write before.length) ⟨state.outbox.write package, before ++ after⟩
  | send {sent : Nat} : Moves state (.send sent) { state with outbox := state.outbox.send sent }
  | close : Moves state .close { state with outbox := state.outbox.close }

theorem moves_of_step (stepped : state.step event = some next) : state.Moves event next := by
  cases event with
  | sendPackage thread data =>
      obtain ⟨_, built⟩ := Option.ite_none_right_eq_some.mp stepped
      split at built
      · obtain rfl := Option.some.inj built
        exact .refused
      · next passes =>
        obtain ⟨_, built⟩ := Option.ite_none_left_eq_some.mp built
        obtain rfl := Option.some.inj built
        exact .accepted (by simpa using passes)
  | write index =>
      obtain ⟨package, found, rfl⟩ := Option.map_eq_some_iff.mp stepped
      obtain ⟨before, after, split, rfl, _, erased⟩ := split_of_getElem? found
      rw [erased]
      exact .write split
  | send sent =>
      obtain ⟨_, built⟩ := Option.ite_none_right_eq_some.mp stepped
      obtain rfl := Option.some.inj built
      exact .send
  | close =>
      obtain rfl := Option.some.inj stepped
      exact .close

/-- A client that has just connected has nothing to lose. -/
theorem notLost_start : start.NotLost := fun _ => .nil

/-- A step loses nothing exactly when a `Write` on the open connection finds room. -/
theorem notLost_move_iff (notLost : state.NotLost) (moved : state.Moves event next) :
    state.FindsRoom event ↔ next.NotLost := by
  unfold NotLost at notLost ⊢
  cases moved with
  | refused => exact iff_of_true trivial notLost
  | accepted => exact iff_of_true trivial notLost.accept
  | @write before after package split =>
      have found : state.calls[before.length]? = some package := by simp [split]
      rw [split] at notLost
      rw [notLost.write_iff]
      constructor
      · intro finds
        exact finds package found
      · intro room other foundOther
        obtain rfl := Option.some.inj (found.symm.trans foundOther)
        exact room
  | send => exact iff_of_true trivial notLost
  | close => exact iff_of_true trivial fun isOpen => by cases isOpen

/-- A step whose call fits leaves room for all that is on its way. -/
theorem covers_move (covers : state.outbox.Covers state.calls) (fits : state.CallFits event)
    (moved : state.Moves event next) : state.FindsRoom event ∧ next.outbox.Covers next.calls := by
  cases moved with
  | refused => exact ⟨trivial, covers⟩
  | accepted passes => exact ⟨trivial, Outbox.Fits.accept fits passes _⟩
  | @write before after package split =>
      have found : state.calls[before.length]? = some package := by simp [split]
      rw [split] at covers
      refine ⟨?_, covers.write.2⟩
      intro other foundOther _
      obtain rfl := Option.some.inj (found.symm.trans foundOther)
      exact covers.write.1
  | send => exact ⟨trivial, covers.send _⟩
  | close => exact ⟨trivial, covers⟩

end CallerState

/-! ## Whole runs -/

/-- Calls that fit besides all that is on its way find room when their `Write` runs. -/
theorem findsRoom_of_callFits {threadCount : Nat} {events : List OutboundEvent} {state : OutboundState}
    (run : (outboundSystem threadCount).Runs (fun state event _ => state.CallFits event) events
      state) :
    (outboundSystem threadCount).Runs (fun state event _ => state.FindsRoom event) events state ∧
      state.outbox.Covers state.waiting := by
  apply run.implied
  · rintro _ rfl
    exact Nat.zero_le _
  · intro state event next covers stepped fits
    exact OutboundState.covers_move covers fits (OutboundState.moves_of_step stepped)

/-- The same on the client. -/
theorem findsRoom_of_callerFits {events : List CallerEvent} {state : CallerState}
    (run : callerSystem.Runs (fun state event _ => state.CallFits event) events state) :
    callerSystem.Runs (fun state event _ => state.FindsRoom event) events state ∧
      state.outbox.Covers state.calls := by
  apply run.implied
  · rintro _ rfl
    exact Nat.zero_le _
  · intro state event next covers stepped fits
    exact CallerState.covers_move covers fits (CallerState.moves_of_step stepped)

/-- A server's step keeps every package exactly when it finds room. -/
theorem runs_findsRoom_iff {threadCount : Nat} {events : List OutboundEvent} {state : OutboundState} :
    (outboundSystem threadCount).Runs (fun state event _ => state.FindsRoom event) events state ↔
      (outboundSystem threadCount).Runs (fun _ _ next => next.NotLost) events state := by
  refine LabelledSystem.runs_iff_runs_within (fun _ _ => trivial) ?_ ?_
  · rintro _ rfl
    exact OutboundState.notLost_start
  · intro state event next _ notLost stepped
    exact OutboundState.notLost_move_iff notLost (OutboundState.moves_of_step stepped)

/-- A client's step keeps every package exactly when it finds room. -/
theorem callerRuns_findsRoom_iff {events : List CallerEvent} {state : CallerState} :
    callerSystem.Runs (fun state event _ => state.FindsRoom event) events state ↔
      callerSystem.Runs (fun _ _ next => next.NotLost) events state := by
  refine LabelledSystem.runs_iff_runs_within (fun _ _ => trivial) ?_ ?_
  · rintro _ rfl
    exact CallerState.notLost_start
  · intro state event next _ notLost stepped
    exact CallerState.notLost_move_iff notLost (CallerState.moves_of_step stepped)

/-- On the server with any number of threads, and on the client with any number of
callers: the runs in which no package is lost before the connection is closed are those
in which every `Write` on the open connection finds room for its package; and that is so
when every call that is not refused fits besides the buffer and all packages on their way
to it. -/
theorem acceptedNotLost_iff (threadCount : Nat) :
    (∀ events state,
        ((outboundSystem threadCount).Runs (fun state event _ => state.FindsRoom event) events state ↔
          (outboundSystem threadCount).Runs (fun _ _ next => next.NotLost) events state) ∧
        ((outboundSystem threadCount).Runs (fun state event _ => state.CallFits event) events state →
          (outboundSystem threadCount).Runs (fun _ _ next => next.NotLost) events state)) ∧
      ∀ events state,
        (callerSystem.Runs (fun state event _ => state.FindsRoom event) events state ↔
          callerSystem.Runs (fun _ _ next => next.NotLost) events state) ∧
        (callerSystem.Runs (fun state event _ => state.CallFits event) events state →
          callerSystem.Runs (fun _ _ next => next.NotLost) events state) := by
  refine ⟨fun events state => ⟨runs_findsRoom_iff, ?_⟩,
    fun events state => ⟨callerRuns_findsRoom_iff, ?_⟩⟩
  · intro run
    exact runs_findsRoom_iff.mp (findsRoom_of_callFits run).1
  · intro run
    exact callerRuns_findsRoom_iff.mp (findsRoom_of_callerFits run).1

/-! ## Two packages that fit one by one -/

/-- The packages of two callers who send the same. -/
def twoPackages (data : List Byte) : List Package := [⟨0, 0, frame data⟩, ⟨1, 1, frame data⟩]

/-- What is left of a connection: both packages accepted, one appended. -/
def twoAccepted (data : List Byte) : Outbox where
  writeBuffer := frame data
  isOpen := true
  accepted := twoPackages data
  appended := [⟨0, 0, frame data⟩]

/-- The second package is lost. -/
theorem twoAccepted_lost (data : List Byte) : ¬ (twoAccepted data).NotLost [] := by
  intro notLost
  have lengths := (notLost rfl).length_eq
  simp [twoAccepted, twoPackages] at lengths

section TwoPackages

variable {data : List Byte} (fits : 4 + data.length ≤ writeBufMaxSize)
  (overflow : writeBufMaxSize < 2 * (4 + data.length))

include fits

/-- The size of the frame is exact. -/
theorem sendDataCount_eq : int32 (socketHeadSize + data.length) = 4 + data.length := by
  rw [writeBufMaxSize] at fits
  refine int32_eq_self ?_ ?_ <;> simp only [socketHeadSize] <;> omega

theorem sized_of_fits : data.length < 2 ^ 31 := by
  rw [writeBufMaxSize] at fits
  omega

theorem whole_of_fits : ¬ int32 (socketHeadSize + data.length) < 0 := by
  rw [sendDataCount_eq fits]
  omega

/-- As long as nothing is in the buffer, the call passes. -/
theorem passes_of_empty (accepted appended : List Package) :
    Outbox.refuses ⟨[], true, accepted, appended⟩ data.length = false := by
  have room : ¬ (writeBufMaxSize : Int) < 4 + data.length := by omega
  simpa [Outbox.refuses, Outbox.getSize4EmptyWrite, sendDataCount_eq fits] using room

include overflow

/-- The first package finds room, and then the second does not. -/
theorem room_for_one :
    Outbox.write ⟨[], true, twoPackages data, []⟩ ⟨0, 0, frame data⟩ = twoAccepted data ∧
      (twoAccepted data).write ⟨1, 1, frame data⟩ = twoAccepted data := by
  have roomForOne : ((4 + data.length : Nat) : Int) ≤ writeBufMaxSize := Int.ofNat_le.mpr fits
  have noMore : ¬ ((4 + data.length : Nat) : Int) ≤ writeBufMaxSize - (4 + data.length : Nat) := by
    omega
  constructor
  · refine (if_pos ?_).trans rfl
    simpa [Outbox.HasRoom, Outbox.getSize4EmptyWrite] using roomForOne
  · refine if_neg ?_
    simpa [Outbox.HasRoom, Outbox.getSize4EmptyWrite, twoAccepted] using noMore

/-- Two handlers of the server send a package each before a worker gets to the first: the
second is lost. -/
theorem server_loses : ∃ state, (outboundSystem 8).Reachable state ∧ ¬ state.NotLost := by
  have appends : Outbox.writeTask ⟨[], true, twoPackages data, []⟩ ⟨0, 0, frame data⟩ =
      twoAccepted data := (if_pos rfl).trans (room_for_one fits overflow).1
  have drops : (twoAccepted data).writeTask ⟨1, 1, frame data⟩ = twoAccepted data :=
    (if_pos rfl).trans (room_for_one fits overflow).2
  have sends : ∀ caller accepted threadPool,
      OutboundState.step 8 ⟨⟨[], true, accepted, []⟩, threadPool⟩ (.sendPackage caller data) =
        some ⟨⟨[], true, accepted ++ [⟨accepted.length, caller, frame data⟩], []⟩,
          threadPool.submit (.sendPackage ⟨accepted.length, caller, frame data⟩ false)⟩ :=
    fun caller accepted threadPool => (if_pos (sized_of_fits fits)).trans
      ((if_neg (by simp [passes_of_empty fits])).trans (if_neg (whole_of_fits fits)))
  have writesFirst : ∀ outbox first second, OutboundState.step 8
      ⟨outbox, ⟨[.epollWork, .sendPackage first false, second], []⟩⟩ (.write 1) =
        some ⟨outbox.writeTask first, ⟨[.epollWork, .sendPackage first true, second], []⟩⟩ :=
    fun _ _ _ => rfl
  have writesSecond : ∀ outbox first second, OutboundState.step 8
      ⟨outbox, ⟨[.epollWork, first, .sendPackage second false], []⟩⟩ (.write 2) =
        some ⟨outbox.writeTask second, ⟨[.epollWork, first, .sendPackage second true], []⟩⟩ :=
    fun _ _ _ => rfl
  have started : (outboundSystem 8).Reachable ⟨.start, ⟨[.epollWork], []⟩⟩ :=
    LabelledSystem.Reachable.step ⟨[], .initial rfl⟩
      (show OutboundState.step 8 .start .take = some _ from rfl)
  have accepted : (outboundSystem 8).Reachable ⟨⟨[], true, twoPackages data, []⟩, ⟨[.epollWork],
      [.sendPackage ⟨0, 0, frame data⟩ false, .sendPackage ⟨1, 1, frame data⟩ false]⟩⟩ :=
    (started.step (sends 0 [] _)).step (sends 1 _ _)
  have taken : (outboundSystem 8).Reachable ⟨⟨[], true, twoPackages data, []⟩,
      ⟨[.epollWork, .sendPackage ⟨0, 0, frame data⟩ false, .sendPackage ⟨1, 1, frame data⟩ false],
        []⟩⟩ :=
    (accepted.step (show OutboundState.step 8 _ .take = some _ from rfl)).step
      (show OutboundState.step 8 _ .take = some _ from rfl)
  have written : (outboundSystem 8).Reachable ⟨twoAccepted data,
      ⟨[.epollWork, .sendPackage ⟨0, 0, frame data⟩ true, .sendPackage ⟨1, 1, frame data⟩ false],
        []⟩⟩ := by
    rw [← appends]
    exact taken.step (writesFirst _ _ _)
  refine ⟨_, written.step (writesSecond _ _ _), ?_⟩
  rw [drops]
  exact twoAccepted_lost data

/-- Two threads of a client send a package each, and both have passed the test before the
first gets to its `Write`: the second is lost. -/
theorem client_loses : ∃ state, callerSystem.Reachable state ∧ ¬ state.NotLost := by
  obtain ⟨appends, drops⟩ := room_for_one fits overflow
  have sends : ∀ caller accepted calls, caller ∉ calls.map Package.caller →
      CallerState.step ⟨⟨[], true, accepted, []⟩, calls⟩ (.sendPackage caller data) =
        some ⟨⟨[], true, accepted ++ [⟨accepted.length, caller, frame data⟩], []⟩,
          calls ++ [⟨accepted.length, caller, frame data⟩]⟩ :=
    fun caller accepted calls free => (if_pos ⟨sized_of_fits fits, free⟩).trans
      ((if_neg (by simp [passes_of_empty fits])).trans (if_neg (whole_of_fits fits)))
  have writes : ∀ outbox first rest,
      CallerState.step ⟨outbox, first :: rest⟩ (.write 0) = some ⟨outbox.write first, rest⟩ :=
    fun _ _ _ => rfl
  have started : callerSystem.Reachable ⟨.start, []⟩ := ⟨[], .initial rfl⟩
  have accepted : callerSystem.Reachable ⟨⟨[], true, twoPackages data, []⟩, twoPackages data⟩ :=
    (started.step (sends 0 [] [] (by simp))).step
      (sends 1 [⟨0, 0, frame data⟩] [⟨0, 0, frame data⟩] (by simp))
  have written : callerSystem.Reachable ⟨twoAccepted data, [⟨1, 1, frame data⟩]⟩ := by
    rw [← appends]
    exact accepted.step (writes _ _ _)
  refine ⟨_, written.step (writes _ _ _), ?_⟩
  rw [drops]
  exact twoAccepted_lost data

end TwoPackages

/-- A payload more than half as large as the write buffer. -/
def largePayload : List Byte := List.replicate 60000 7

/-- Both packages are accepted and the second is dropped, on the server and on the client,
although nothing has been closed. -/
theorem largePackage_lost :
    (∃ state, (outboundSystem 8).Reachable state ∧ ¬ state.NotLost) ∧
      ∃ state, callerSystem.Reachable state ∧ ¬ state.NotLost := by
  have length : largePayload.length = 60000 := List.length_replicate
  have fits : 4 + largePayload.length ≤ writeBufMaxSize := by
    rw [length]
    decide
  have overflow : writeBufMaxSize < 2 * (4 + largePayload.length) := by
    rw [length]
    decide
  exact ⟨server_loses fits overflow, client_loses fits overflow⟩

end SocketMessage.Server
