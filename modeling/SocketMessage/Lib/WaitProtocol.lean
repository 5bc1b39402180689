import SocketMessage.Lib.Transition

/-!
# A flag behind a condition variable

Threads wait on a condition variable until a flag is set. A thread that finds it unset and
the same thread when it blocks are two steps, and whoever sets the flag and notifies does
not hold the mutex of the threads: the notification can come between the two.
`runs_woken_iff` says that this is all that can go wrong.
-/

namespace SocketMessage.Lib

universe u v

/-- A thread at a condition variable: not waiting; having found the flag unset, about to
block; blocked. -/
inductive WaiterAt where
  | away
  | committed
  | blocked
deriving DecidableEq, Repr

/-- A notification reaches those that have blocked. -/
def WaiterAt.woken : WaiterAt → WaiterAt
  | .blocked => .away
  | place => place

/-- The threads, the flag, and whether whoever set it has notified. -/
structure WaitState where
  waiters : List WaiterAt
  flag : Bool
  notified : Bool

namespace WaitState

variable {state next : WaitState} {notifies : Bool}

/-- What can happen: nothing here; a thread stops waiting or does something else; it finds
the flag unset; it blocks; others notify; the flag is set; its setter notifies. -/
inductive Moves (state : WaitState) : Bool → WaitState → Prop where
  | stay : Moves state false state
  | goOn (index : Nat) : Moves state false { state with waiters := state.waiters.set index .away }
  | commit (index : Nat) (unset : state.flag = false) :
      Moves state false { state with waiters := state.waiters.set index .committed }
  | block (index : Nat) (ready : .committed ∈ state.waiters) :
      Moves state false { state with waiters := state.waiters.set index .blocked }
  | wake : Moves state false { state with waiters := state.waiters.map WaiterAt.woken }
  | set : Moves state false { state with flag := true }
  | notify (isSet : state.flag = true) :
      Moves state true
        { state with waiters := state.waiters.map WaiterAt.woken, notified := true }

/-- Once the setter of the flag has notified, nobody is blocked or about to block. -/
def Woken (state : WaitState) : Prop :=
  state.notified = true → ∀ waiter ∈ state.waiters, waiter = .away

/-- The notification comes after the flag. -/
def Ordered (state : WaitState) : Prop := state.notified = true → state.flag = true

/-- Every step keeps the order. -/
theorem Ordered.moves (ordered : state.Ordered) (moves : state.Moves notifies next) :
    next.Ordered := by
  cases moves with
  | set => exact fun _ => rfl
  | notify isSet => exact fun _ => isSet
  | _ => exact ordered

/-- After a notification, nobody waits exactly when nobody was about to block. -/
theorem woken_notify_iff :
    Woken { state with waiters := state.waiters.map WaiterAt.woken, notified := true } ↔
      .committed ∉ state.waiters := by
  constructor
  · intro woken member
    cases woken rfl _ (List.mem_map_of_mem member)
  · intro absent _ waiter member
    obtain ⟨before, old, rfl⟩ := List.mem_map.mp member
    cases before with
    | committed => exact absurd old absent
    | away | blocked => rfl

/-- Exactly a notification that finds a thread about to block leaves it to block. -/
theorem Woken.moves_iff (woken : state.Woken) (ordered : state.Ordered)
    (moves : state.Moves notifies next) :
    (notifies = true → .committed ∉ state.waiters) ↔ next.Woken := by
  cases moves with
  | notify => exact ⟨fun absent => woken_notify_iff.mpr (absent rfl), fun after _ =>
      woken_notify_iff.mp after⟩
  | stay | set => exact iff_of_true nofun woken
  | goOn index =>
    refine iff_of_true nofun fun notified waiter member => ?_
    rcases List.mem_or_eq_of_mem_set member with old | rfl
    · exact woken notified waiter old
    · rfl
  | commit index unset =>
    refine iff_of_true nofun fun notified => ?_
    have isSet := ordered notified
    rw [unset] at isSet
    cases isSet
  | block index ready =>
    refine iff_of_true nofun fun notified => ?_
    cases woken notified _ ready
  | wake =>
    refine iff_of_true nofun fun notified waiter member => ?_
    obtain ⟨before, old, rfl⟩ := List.mem_map.mp member
    rw [woken notified before old]
    rfl

end WaitState

/-- Where every step of a system is seen as one of these, nobody is left to wait in exactly
the runs in which the setter's notification never finds a thread about to block. -/
theorem runs_woken_iff {State : Type u} {Label : Type v} {system : LabelledSystem State Label}
    (view : State → WaitState) (notifies : Label → Bool)
    (initial : ∀ state, system.Initial state → (view state).notified = false)
    (steps : ∀ state label next, system.Step state label next →
      (view state).Moves (notifies label) (view next)) (labels : List Label) (state : State) :
    system.Runs (fun state label _ => notifies label = true → .committed ∉ (view state).waiters)
        labels state ↔
      system.Runs (fun _ _ next => (view next).Woken) labels state := by
  have always : ∀ state, system.Reachable state → (view state).Ordered := by
    rintro state ⟨labels, run⟩
    induction run with
    | initial valid =>
      intro notified
      rw [initial _ valid] at notified
      cases notified
    | step _ transition _ ih => exact ih.moves (steps _ _ _ transition)
  have start : ∀ state, system.Initial state → (view state).Woken := by
    intro state valid notified
    rw [initial state valid] at notified
    cases notified
  exact LabelledSystem.runs_iff_runs_within always start
    fun state label next ordered woken transition =>
      woken.moves_iff ordered (steps state label next transition)

end SocketMessage.Lib
