import SocketMessage.Server.Logger

/-!
# The records of the logger

What `ThreadWork` makes of the records pushed by `Log`: their order, those that are still to
be executed, and what is left when it returns. It tests the batch and the flag without the
mutex, so a `Log` can come between the swap that found nothing and the return.
-/

namespace SocketMessage.Server

open SocketMessage.Lib

namespace LoggerAt

variable {Record : Type}

/-- What of the batch has not been executed. -/
def unexecuted (tempLogVector : List Record) : LoggerAt → List Record
  | .executing index => tempLogVector.drop index
  | _ => tempLogVector

/-- Between the swap and the end of the batch. -/
def InBatch : LoggerAt → Prop
  | .swapped | .executing _ => True
  | _ => False

/-- Having swapped in an empty batch, on the way to the return. -/
def Leaving (tempLogVector : List Record) : LoggerAt → Prop
  | .swapped => tempLogVector = []
  | .sawNothing => True
  | _ => False

@[simp] theorem unexecuted_notified (tempLogVector : List Record) (place : LoggerAt) :
    place.notified.unexecuted tempLogVector = place.unexecuted tempLogVector := by
  cases place <;> rfl

@[simp] theorem inBatch_notified (place : LoggerAt) : place.notified.InBatch ↔ place.InBatch := by
  cases place <;> rfl

@[simp] theorem leaving_notified (tempLogVector : List Record) (place : LoggerAt) :
    place.notified.Leaving tempLogVector ↔ place.Leaving tempLogVector := by
  cases place <;> rfl

@[simp] theorem notified_eq_behindWait (place : LoggerAt) :
    place.notified = .behindWait ↔ place = .behindWait := by
  cases place <;> simp [notified]

@[simp] theorem notified_eq_returned (place : LoggerAt) :
    place.notified = .returned ↔ place = .returned := by
  cases place <;> simp [notified]

end LoggerAt

namespace LoggerState

variable {Record : Type} {state next : LoggerState Record} {label : LoggerLabel Record}

/-- The records still to be executed: the rest of the batch, then `m_LogVector`. -/
def pending (state : LoggerState Record) : List Record :=
  state.worker.unexecuted state.tempLogVector ++ state.logVector

/-- What holds in every state: the records executed and the pending ones are those pushed, in
their order; there is a batch only while it is worked on; the wait ends for a reason; and
only a destroyed logger has nothing to do. -/
structure InOrder (state : LoggerState Record) : Prop where
  order : state.pushed = state.executed ++ state.pending
  batch : ¬ state.worker.InBatch → state.tempLogVector = []
  passed : state.worker = .behindWait → state.logVector ≠ [] ∨ state.isDestory = true
  leaving : state.worker.Leaving state.tempLogVector → state.isDestory = true

/-- What is asked of a state: the order; and once a swap has found nothing, up to the return
and at it, nothing is left and the logger is being destroyed. -/
structure Kept (state : LoggerState Record) : Prop where
  order : state.pushed = state.executed ++ state.pending
  leaving : state.worker.Leaving state.tempLogVector →
    state.tempLogVector = [] ∧ state.logVector = [] ∧ state.isDestory = true
  returned : state.worker = .returned →
    state.tempLogVector = [] ∧ state.left = some [] ∧ state.isDestory = true

/-- No record is pushed between a swap that found nothing and the return. -/
def InTime (state : LoggerState Record) : LoggerLabel Record → Prop
  | .push _ => ¬ state.worker.Leaving state.tempLogVector
  | _ => True

/-- A step that leaves the records alone, and the thread among the places of its kind. -/
theorem InOrder.of_same (inOrder : state.InOrder) (pushed : next.pushed = state.pushed)
    (executed : next.executed = state.executed)
    (logVector : next.logVector = state.logVector)
    (tempLogVector : next.tempLogVector = state.tempLogVector)
    (isDestory : state.isDestory = true → next.isDestory = true)
    (unexecuted : next.worker.unexecuted state.tempLogVector =
      state.worker.unexecuted state.tempLogVector)
    (inBatch : state.worker.InBatch → next.worker.InBatch ∨ state.tempLogVector = [])
    (passed : next.worker = .behindWait → state.worker = .behindWait ∨
      state.logVector ≠ [] ∨ state.isDestory = true)
    (leaving : next.worker.Leaving state.tempLogVector →
      state.worker.Leaving state.tempLogVector) : next.InOrder := by
  refine ⟨?_, fun outside => ?_, fun place => ?_, fun left => ?_⟩
  · rw [pushed, executed, pending, logVector, tempLogVector, unexecuted]
    exact inOrder.order
  · rw [tempLogVector]
    by_cases inside : state.worker.InBatch
    · exact (inBatch inside).resolve_left outside
    · exact inOrder.batch inside
  · rw [logVector]
    refine ((passed place).elim inOrder.passed id).imp_right isDestory
  · rw [tempLogVector] at left
    exact isDestory (inOrder.leaving (leaving left))

/-- A step of a thread in `Log` that leaves the records alone, or one of the destructor. -/
theorem InOrder.of_notified (inOrder : state.InOrder) (pushed : next.pushed = state.pushed)
    (executed : next.executed = state.executed) (logVector : next.logVector = state.logVector)
    (tempLogVector : next.tempLogVector = state.tempLogVector)
    (isDestory : state.isDestory = true → next.isDestory = true)
    (worker : next.worker = state.worker ∨ next.worker = state.worker.notified) : next.InOrder := by
  rcases worker with same | notified
  · refine inOrder.of_same pushed executed logVector tempLogVector isDestory ?_ ?_ ?_ ?_
    all_goals rw [same]
    · exact Or.inl
    · exact Or.inl
    · exact id
  · refine inOrder.of_same pushed executed logVector tempLogVector isDestory ?_ ?_ ?_ ?_
    all_goals rw [notified]
    · exact LoggerAt.unexecuted_notified _ _
    · exact fun inBatch => Or.inl ((LoggerAt.inBatch_notified _).mpr inBatch)
    · exact fun place => Or.inl ((LoggerAt.notified_eq_behindWait _).mp place)
    · exact (LoggerAt.leaving_notified _ _).mp

/-- The thread goes on outside a batch. -/
theorem InOrder.outside (inOrder : state.InOrder) {before : LoggerAt} (after : LoggerAt)
    (place : state.worker = before) (wasOutside : ¬ before.InBatch) (outside : ¬ after.InBatch)
    (ready : after ≠ .behindWait ∨ state.logVector ≠ [] ∨ state.isDestory = true)
    (stays : ¬ after.Leaving state.tempLogVector) (mutex : Option LoggerThread)
    (left : Option (List Record)) :
    InOrder { state with worker := after, mutex := mutex, left := left } := by
  have rest : ∀ other : LoggerAt, ¬ other.InBatch →
      other.unexecuted state.tempLogVector = state.tempLogVector := by
    intro other notInBatch
    cases other with
    | executing => exact absurd trivial notInBatch
    | _ => rfl
  refine ⟨?_, fun _ => inOrder.batch (place ▸ wasOutside),
    fun same => ready.resolve_left (not_not.mpr same), fun leaving => absurd leaving stays⟩
  have order := inOrder.order
  rw [pending, place, rest _ wasOutside] at order
  rw [pending, rest _ outside]
  exact order

/-- Every step keeps the order. -/
theorem InOrder.moves (inOrder : state.InOrder) (moves : state.Moves label next) :
    next.InOrder := by
  cases moves with
  | call | lock | leave => exact inOrder.of_notified rfl rfl rfl rfl id (Or.inl rfl)
  | notify => exact inOrder.of_notified rfl rfl rfl rfl id (Or.inr rfl)
  | destory => exact inOrder.of_notified rfl rfl rfl rfl (fun _ => rfl) (Or.inl rfl)
  | destoryNotify => exact inOrder.of_notified rfl rfl rfl rfl id (Or.inr rfl)
  | push locked =>
    refine ⟨?_, inOrder.batch, fun _ => Or.inl ?_, inOrder.leaving⟩
    · have order := inOrder.order
      simp only [pending, callerTo] at order ⊢
      rw [order, List.append_assoc, List.append_assoc]
    · exact List.append_ne_nil_of_right_ne_nil _ (List.cons_ne_nil _ _)
  | begin wants =>
    rcases wants with place | place
    · exact inOrder.outside .condition place id id (Or.inl (by decide)) id _ _
    · exact inOrder.outside .condition place id id (Or.inl (by decide)) id _ _
  | pass place ready => exact inOrder.outside .behindWait place id id (Or.inr ready) id _ _
  | refuse place => exact inOrder.outside .waiting place id id (Or.inl (by decide)) id _ _
  | block place => exact inOrder.outside .blocked place id id (Or.inl (by decide)) id _ _
  | wake place => exact inOrder.outside .woken place id id (Or.inl (by decide)) id _ _
  | finish place => exact inOrder.outside .returned place id id (Or.inl (by decide)) id _ _
  | again place => exact inOrder.outside .top place id id (Or.inl (by decide)) id _ _
  | swap place =>
    have empty : state.tempLogVector = [] := inOrder.batch (by rw [place]; exact id)
    refine ⟨?_, fun outside => absurd trivial outside, fun same => (by cases same), fun nothing => ?_⟩
    · have order := inOrder.order
      rw [pending, place] at order
      rw [pending, List.append_nil]
      exact order
    · obtain ⟨-, noRecord⟩ := List.append_eq_nil_iff.mp nothing
      exact (inOrder.passed place).resolve_left (not_not.mpr noRecord)
  | nothing place empty =>
    refine inOrder.of_same rfl rfl rfl rfl id ?_ (fun _ => Or.inr empty) (fun same => by cases same)
      fun _ => ?_
    · rw [place]
      rfl
    · rw [place]
      exact empty
  | start place some =>
    refine inOrder.of_same rfl rfl rfl rfl id ?_ (fun _ => Or.inl trivial) (fun same => by cases same)
      False.elim
    rw [place]
    rfl
  | @execute index record place there =>
    refine ⟨?_, fun outside => absurd trivial outside, fun same => (by cases same), False.elim⟩
    have order := inOrder.order
    obtain ⟨inside, found⟩ := List.getElem?_eq_some_iff.mp there
    rw [pending, place, LoggerAt.unexecuted, List.drop_eq_getElem_cons inside, found] at order
    rw [pending, LoggerAt.unexecuted, List.append_assoc]
    exact order
  | @clear index place behind =>
    refine ⟨?_, fun _ => rfl, fun same => (by cases same), False.elim⟩
    have order := inOrder.order
    have done := List.drop_eq_nil_of_le (List.getElem?_eq_none_iff.mp behind)
    rw [pending, place, LoggerAt.unexecuted, done] at order
    exact order

/-- What is asked of a state beyond what holds in every one. -/
theorem InOrder.kept_iff (inOrder : state.InOrder) :
    state.Kept ↔ (state.worker.Leaving state.tempLogVector → state.logVector = []) ∧
      (state.worker = .returned → state.left = some [] ∧ state.isDestory = true) := by
  constructor
  · intro kept
    exact ⟨fun leaving => (kept.leaving leaving).2.1, fun place => (kept.returned place).2⟩
  · rintro ⟨leaving, returned⟩
    refine ⟨inOrder.order, fun leaves => ⟨?_, leaving leaves, inOrder.leaving leaves⟩,
      fun place => ⟨inOrder.batch ?_, returned place⟩⟩
    · cases place : state.worker with
      | swapped =>
        rw [place] at leaves
        exact leaves
      | sawNothing => exact inOrder.batch (by rw [place]; exact id)
      | _ =>
        rw [place] at leaves
        cases leaves
    · rw [place]
      exact id

/-- A step that leaves the thread in its place and the records alone keeps everything. -/
theorem Kept.of_notified (kept : state.Kept) (inOrder : next.InOrder)
    (logVector : next.logVector = state.logVector)
    (tempLogVector : next.tempLogVector = state.tempLogVector) (left : next.left = state.left)
    (isDestory : state.isDestory = true → next.isDestory = true)
    (worker : next.worker = state.worker ∨ next.worker = state.worker.notified) : next.Kept := by
  have leaves : next.worker.Leaving state.tempLogVector ↔
      state.worker.Leaving state.tempLogVector := by
    rcases worker with same | notified
    · rw [same]
    · rw [notified, LoggerAt.leaving_notified]
  have returns : next.worker = .returned ↔ state.worker = .returned := by
    rcases worker with same | notified
    · rw [same]
    · rw [notified, LoggerAt.notified_eq_returned]
  rw [inOrder.kept_iff, tempLogVector, logVector, left, leaves, returns]
  refine ⟨fun leaving => (kept.leaving leaving).2.1, fun place => ?_⟩
  exact (kept.returned place).2.imp_right isDestory

/-- Exactly a record pushed between a swap that found nothing and the return is left. -/
theorem Kept.moves_iff (kept : state.Kept) (inOrder : state.InOrder)
    (moves : state.Moves label next) : state.InTime label ↔ next.Kept := by
  have nextInOrder := inOrder.moves moves
  cases moves with
  | call | lock | leave =>
    exact iff_of_true trivial (kept.of_notified nextInOrder rfl rfl rfl id (Or.inl rfl))
  | notify =>
    exact iff_of_true trivial (kept.of_notified nextInOrder rfl rfl rfl id (Or.inr rfl))
  | destory =>
    exact iff_of_true trivial (kept.of_notified nextInOrder rfl rfl rfl (fun _ => rfl) (Or.inl rfl))
  | destoryNotify =>
    exact iff_of_true trivial (kept.of_notified nextInOrder rfl rfl rfl id (Or.inr rfl))
  | @push caller record locked =>
    have nonempty : state.logVector ++ [record] ≠ [] :=
      List.append_ne_nil_of_right_ne_nil _ (List.cons_ne_nil _ _)
    rw [nextInOrder.kept_iff]
    constructor
    · intro inTime
      exact ⟨fun leaving => absurd leaving inTime, fun place => (kept.returned place).2⟩
    · rintro ⟨leaving, -⟩ leaves
      exact nonempty (leaving leaves)
  | nothing place empty =>
    have leaves : state.worker.Leaving state.tempLogVector := by
      rw [place]
      exact empty
    exact iff_of_true trivial (nextInOrder.kept_iff.mpr
      ⟨fun _ => (kept.leaving leaves).2.1, nofun⟩)
  | finish place destroyed =>
    have leaves : state.worker.Leaving state.tempLogVector := by
      rw [place]
      trivial
    refine iff_of_true trivial (nextInOrder.kept_iff.mpr ⟨nofun, fun _ => ⟨?_, destroyed⟩⟩)
    rw [(kept.leaving leaves).2.1]
  | swap => exact iff_of_true trivial (nextInOrder.kept_iff.mpr ⟨fun _ => rfl, nofun⟩)
  | start place some =>
    exact iff_of_true trivial (nextInOrder.kept_iff.mpr ⟨nofun, nofun⟩)
  | _ => exact iff_of_true trivial (nextInOrder.kept_iff.mpr ⟨nofun, nofun⟩)

/-- The order is kept in every run. -/
theorem inOrder_of_reachable (reachable : (loggerSystem Record).Reachable state) :
    state.InOrder :=
  reachable.invariant ⟨rfl, fun _ => rfl, nofun, nofun⟩ fun _ _ _ inOrder stepped =>
    inOrder.moves (moves_of_step stepped)

/-- Out of the branch of no records the thread of a destroyed logger returns. -/
theorem step_sawNothing (place : state.worker = .sawNothing) (destroyed : state.isDestory = true) :
    state.step .work = some { state with worker := .returned, left := some state.logVector } := by
  rw [step, place, work, if_pos destroyed]

/-- A swap that found nothing leads there. -/
theorem step_swapped (place : state.worker = .swapped) (empty : state.tempLogVector = []) :
    state.step .work = some { state with worker := .sawNothing } := by
  rw [step, place, work, if_pos empty]

/-- On its way to the return, the thread gets there. -/
theorem returns_of_leaving (leaves : state.worker.Leaving state.tempLogVector)
    (destroyed : state.isDestory = true) :
    ∃ count, LabelledSystem.follow LoggerState.step (fun _ _ _ => True) state
      (List.replicate count .work) =
        some { state with worker := .returned, left := some state.logVector } := by
  cases place : state.worker with
  | swapped =>
    rw [place] at leaves
    refine ⟨2, ?_⟩
    rw [List.replicate_succ, LabelledSystem.follow_cons (step_swapped place leaves) trivial]
    exact LabelledSystem.follow_single (step_sawNothing rfl destroyed) trivial
  | sawNothing =>
    exact ⟨1, LabelledSystem.follow_single (step_sawNothing place destroyed) trivial⟩
  | _ =>
    rw [place] at leaves
    cases leaves

/-- A record pushed between a swap that found nothing and the return: the thread can return,
and it is left. -/
theorem left_of_late {caller : Nat} (reachable : (loggerSystem Record).Reachable state)
    (pushed : state.step (.push caller) = some next) (late : ¬ state.InTime (.push caller)) :
    ∃ count final, LabelledSystem.follow LoggerState.step (fun _ _ _ => True) next
      (List.replicate count .work) = some final ∧ final.worker = .returned ∧
      final.left ≠ some [] := by
  have leaves := not_not.mp late
  have destroyed := (inOrder_of_reachable reachable).leaving leaves
  cases moves_of_step pushed with
  | @push _ record locked =>
    obtain ⟨count, followed⟩ := @returns_of_leaving _
      { state.callerTo caller .pushed with
        logVector := state.logVector ++ [record], pushed := state.pushed ++ [record] }
      leaves destroyed
    refine ⟨count, _, followed, rfl, fun same => ?_⟩
    exact List.append_ne_nil_of_right_ne_nil _ (List.cons_ne_nil _ _) (Option.some.inj same)

/-- In every state of a logger only the thread that holds `s_Mutex` is between locking and
unlocking, and the records executed and the pending ones are those pushed, in their order.
The thread returns with nothing left exactly in the runs in which no `Log` pushes between a
swap that found nothing and the return; in any other it can return with a record left. -/
theorem records_kept_iff (Record : Type) :
    (∀ state, (loggerSystem Record).Reachable state →
      state.Excluded ∧ state.pushed = state.executed ++ state.pending) ∧
      (∀ labels state,
        (loggerSystem Record).Runs (fun state label _ => state.InTime label) labels state ↔
          (loggerSystem Record).Runs (fun _ _ next => next.Kept) labels state) ∧
      ∀ state next caller, (loggerSystem Record).Reachable state →
        state.step (.push caller) = some next → ¬ state.InTime (.push caller) →
        ∃ count final, LabelledSystem.follow LoggerState.step (fun _ _ _ => True) next
          (List.replicate count .work) = some final ∧ final.worker = .returned ∧
          final.left ≠ some [] := by
  refine ⟨fun state reachable => ⟨excluded_of_reachable reachable,
    (inOrder_of_reachable reachable).order⟩, fun labels state => ?_,
    fun _ _ _ reachable => left_of_late reachable⟩
  refine LabelledSystem.runs_iff_runs_within (fun _ => inOrder_of_reachable) ?_
    fun _ _ _ inOrder kept stepped => kept.moves_iff inOrder (moves_of_step stepped)
  rintro _ rfl
  exact ⟨rfl, nofun, nofun⟩

/-- A record is logged and executed; then the logger is destroyed, and its thread returns. -/
def cleanShutdown : List (LoggerLabel Nat) :=
  [.call 0 7, .lock 0, .push 0, .notify 0, .leave 0, .work, .work, .work, .work, .work, .work,
    .work, .work, .work, .destory, .destoryNotify, .work, .work, .work, .work, .work]

/-- Nothing is left. -/
theorem cleanShutdown_kept :
    ∃ state : LoggerState Nat,
      (loggerSystem Nat).Runs (fun state label _ => state.InTime label) cleanShutdown state ∧
      (loggerSystem Nat).Runs (fun _ _ next => next.Kept) cleanShutdown state ∧
      state.worker = .returned ∧ state.left = some [] ∧ state.executed = [7] := by
  have followed : ∃ state : LoggerState Nat, LabelledSystem.follow LoggerState.step
      (fun state label _ => state.worker = .top ∨ label = .work ∨ label = .destory ∨
        label = .destoryNotify) .construct cleanShutdown = some state ∧ state.worker = .returned ∧ state.left = some [] ∧ state.executed = [7] :=
    ⟨_, rfl, rfl, rfl, rfl⟩
  obtain ⟨state, ran, place, left, executed⟩ := followed
  have run : (loggerSystem Nat).Runs (fun state label _ => state.InTime label) cleanShutdown state := by
    refine (LabelledSystem.runs_of_follow ran).mono fun state label _ quiet => ?_
    rcases quiet with top | rfl | rfl | rfl
    · cases label with
      | push caller =>
        simp [InTime, top, LoggerAt.Leaving]
      | _ => trivial
    · trivial
    · trivial
    · trivial
  exact ⟨state, run, ((records_kept_iff Nat).2.1 _ _).mp run, place, left, executed⟩

/-- The destructor sets the flag, the thread swaps nothing, a `Log` pushes, the thread
returns. -/
def lateLog : List (LoggerLabel Nat) :=
  [.call 0 7, .destory, .work, .work, .work, .lock 0, .push 0, .notify 0, .leave 0, .work, .work]

/-- The record is left. -/
theorem lateLog_left :
    ∃ state : LoggerState Nat, (loggerSystem Nat).Reachable state ∧ state.worker = .returned ∧
      state.left = some [7] ∧ state.executed = [] ∧ ¬ state.Kept := by
  have followed : ∃ state : LoggerState Nat,
      LabelledSystem.follow LoggerState.step (fun _ _ _ => True) .construct lateLog = some state ∧
        state.worker = .returned ∧ state.left = some [7] ∧ state.executed = [] :=
    ⟨_, rfl, rfl, rfl, rfl⟩
  obtain ⟨state, ran, place, left, executed⟩ := followed
  refine ⟨state, ⟨_, LabelledSystem.runs_of_follow ran⟩, place, left, executed, fun kept => ?_⟩
  have nothing := (kept.returned place).2.1
  rw [left] at nothing
  cases nothing

end LoggerState

end SocketMessage.Server
