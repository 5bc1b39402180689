import Mathlib.Algebra.Order.BigOperators.Group.Finset
import Mathlib.Data.Fintype.Basic
import Mathlib.Data.List.Nodup
import Mathlib.Logic.Function.Basic
import Mathlib.Logic.Relation
import SocketMessage.Lib.Transition

/-!
# Resources that are acquired in order

Threads run code that holds resources for the length of a block: a mutex, which one thread
can hold, or one of a number of equal things. When every piece of code acquires a resource
only while it holds resources of smaller rank, threads never wait for each other in a circle:
somebody can always go on (`Orderly.exists_act`), and everybody can finish
(`Orderly.finishes`).
-/

namespace SocketMessage.Lib

universe u v

/-- What code does with resources; which way it takes is left open. -/
inductive Code (Resource : Type u) where
  | skip
  | hold (resource : Resource) (body : Code Resource)
  | seq (first second : Code Resource)
  | either (first second : Code Resource)
  | any (branch : Nat → Code Resource)
  | many (body : Code Resource)

/-- A thread acquires or releases a resource. -/
inductive Action (Resource : Type u) where
  | acquire (resource : Resource)
  | release (resource : Resource)
deriving DecidableEq

namespace Code

variable {Resource : Type u}

/-- What one execution of the code does. -/
inductive Trace : Code Resource → List (Action Resource) → Prop where
  | skip : Trace skip []
  | hold {resource body actions} (inside : Trace body actions) :
      Trace (hold resource body) (.acquire resource :: (actions ++ [.release resource]))
  | seq {first second before after} (start : Trace first before) (rest : Trace second after) :
      Trace (seq first second) (before ++ after)
  | left {first second actions} (taken : Trace first actions) : Trace (either first second) actions
  | right {first second actions} (taken : Trace second actions) : Trace (either first second) actions
  | one {branch actions} (chosen : Nat) (taken : Trace (branch chosen) actions) :
      Trace (any branch) actions
  | stop {body} : Trace (many body) []
  | again {body before after} (once : Trace body before) (more : Trace (many body) after) :
      Trace (many body) (before ++ after)

/-- Started with nothing of this rank or above, the code acquires each resource above all it
holds. -/
@[simp] def Ordered (rank : Resource → Nat) : Nat → Code Resource → Prop
  | _, skip => True
  | floor, hold resource body => floor ≤ rank resource ∧ body.Ordered rank (rank resource + 1)
  | floor, seq first second => first.Ordered rank floor ∧ second.Ordered rank floor
  | floor, either first second => first.Ordered rank floor ∧ second.Ordered rank floor
  | floor, any branch => ∀ chosen, (branch chosen).Ordered rank floor
  | floor, many body => body.Ordered rank floor

end Code

/-- The rest of what a thread does, given what it holds, the latest first: each resource is
above those held, is released before those acquired earlier, and is released at all. -/
def Disciplined {Resource : Type u} (rank : Resource → Nat) :
    List Resource → List (Action Resource) → Prop
  | held, [] => held = []
  | held, .acquire resource :: rest =>
      (∀ other ∈ held, rank other < rank resource) ∧ Disciplined rank (resource :: held) rest
  | held, .release resource :: rest =>
      ∃ earlier, held = resource :: earlier ∧ Disciplined rank earlier rest

/-- Ordered code is disciplined, whichever way it takes. -/
theorem Code.Trace.disciplined {Resource : Type u} {rank : Resource → Nat} {code : Code Resource}
    {actions : List (Action Resource)} (trace : code.Trace actions) {floor : Nat}
    {held : List Resource} {rest : List (Action Resource)} (ordered : code.Ordered rank floor)
    (below : ∀ other ∈ held, rank other < floor) (continues : Disciplined rank held rest) :
    Disciplined rank held (actions ++ rest) := by
  induction trace generalizing floor held rest with
  | skip => exact continues
  | @hold resource body actions inside inductionHypothesis =>
      obtain ⟨above, orderedBody⟩ := ordered
      have released : Disciplined rank (resource :: held) (.release resource :: rest) :=
        ⟨held, rfl, continues⟩
      have inner := inductionHypothesis orderedBody
        (by
          intro other member
          rcases List.mem_cons.mp member with rfl | earlier
          · exact Nat.lt_succ_self _
          · exact Nat.lt_succ_of_lt (Nat.lt_of_lt_of_le (below other earlier) above)) released
      rw [List.cons_append, List.append_assoc]
      exact ⟨fun other member => Nat.lt_of_lt_of_le (below other member) above, inner⟩
  | seq start after startHypothesis afterHypothesis =>
      rw [List.append_assoc]
      exact startHypothesis ordered.1 below (afterHypothesis ordered.2 below continues)
  | left taken inductionHypothesis => exact inductionHypothesis ordered.1 below continues
  | right taken inductionHypothesis => exact inductionHypothesis ordered.2 below continues
  | one chosen taken inductionHypothesis => exact inductionHypothesis (ordered chosen) below continues
  | stop => exact continues
  | again once more onceHypothesis moreHypothesis =>
      rw [List.append_assoc]
      exact onceHypothesis ordered below (moreHypothesis ordered below continues)

/-- What each thread has yet to do, and who holds each resource. -/
structure Holding (Thread : Type v) (Resource : Type u) where
  rest : Thread → List (Action Resource)
  holders : Resource → List Thread

/-- A thread that is through with everything starts an execution of some code; a thread does
the next thing. -/
inductive Turn (Thread : Type v) (Resource : Type u) where
  | call (thread : Thread) (code : Code Resource) (actions : List (Action Resource))
  | act (thread : Thread)

namespace Holding

variable {Thread : Type v} {Resource : Type u}

/-- Nobody does anything. -/
def idle : Holding Thread Resource := ⟨fun _ => [], fun _ => []⟩

/-- A thread does the next thing; to acquire a resource, one has to be left. -/
def act [DecidableEq Thread] [DecidableEq Resource] (capacity : Resource → Nat) (state : Holding Thread Resource) (thread : Thread) :
    Option (Holding Thread Resource) :=
  match state.rest thread with
  | [] => none
  | .acquire resource :: rest =>
      if (state.holders resource).length < capacity resource then
        some ⟨Function.update state.rest thread rest,
          Function.update state.holders resource (thread :: state.holders resource)⟩
      else none
  | .release resource :: rest =>
      some ⟨Function.update state.rest thread rest,
        Function.update state.holders resource ((state.holders resource).erase thread)⟩

/-- Threads do the next thing, one after the other. -/
def acts [DecidableEq Thread] [DecidableEq Resource] (capacity : Resource → Nat)
    (state : Holding Thread Resource) (threads : List Thread) : Option (Holding Thread Resource) :=
  threads.foldlM (Holding.act capacity) state

/-- A thread starts an execution. -/
def call [DecidableEq Thread] (state : Holding Thread Resource) (thread : Thread) (actions : List (Action Resource)) :
    Holding Thread Resource :=
  { state with rest := Function.update state.rest thread actions }

/-- Threads that run some of the code. -/
def system [DecidableEq Thread] [DecidableEq Resource] (capacity : Resource → Nat) (codes : Code Resource → Prop) :
    LabelledSystem (Holding Thread Resource) (Turn Thread Resource) where
  Initial state := state = idle
  Step state turn next := match turn with
    | .call thread code actions => codes code ∧ code.Trace actions ∧ state.rest thread = [] ∧
        next = state.call thread actions
    | .act thread => state.act capacity thread = some next

/-- Each thread goes on disciplined from what it holds. -/
structure Orderly (capacity rank : Resource → Nat) (state : Holding Thread Resource) : Prop where
  disciplined : ∀ thread, ∃ held, held.Nodup ∧ (∀ resource, resource ∈ held ↔
    thread ∈ state.holders resource) ∧ Disciplined rank held (state.rest thread)
  nodup : ∀ resource, (state.holders resource).Nodup

variable {capacity rank : Resource → Nat} {state next : Holding Thread Resource}
  {thread : Thread}

theorem orderly_idle : Orderly capacity rank (idle : Holding Thread Resource) :=
  ⟨fun _ => ⟨[], List.nodup_nil, fun _ => by simp [idle], rfl⟩, fun _ => List.nodup_nil⟩

theorem Orderly.call [DecidableEq Thread] (orderly : state.Orderly capacity rank) {code : Code Resource}
    {actions : List (Action Resource)} (ordered : code.Ordered rank 0) (trace : code.Trace actions)
    (idle : state.rest thread = []) : (state.call thread actions).Orderly capacity rank := by
  refine ⟨fun other => ?_, orderly.nodup⟩
  obtain ⟨held, nodup, holds, disciplined⟩ := orderly.disciplined other
  by_cases same : other = thread
  · subst same
    rw [idle] at disciplined
    obtain rfl : held = [] := disciplined
    refine ⟨[], nodup, holds, ?_⟩
    have start : Disciplined rank [] (actions ++ []) := trace.disciplined ordered (by simp) rfl
    rw [List.append_nil] at start
    simpa [Holding.call] using start
  · exact ⟨held, nodup, holds, by simpa [Holding.call, Function.update_of_ne same] using disciplined⟩

/-- A thread that acquires a resource did not hold it. -/
theorem Orderly.notHeld (orderly : state.Orderly capacity rank) {resource : Resource}
    {rest : List (Action Resource)} (place : state.rest thread = .acquire resource :: rest) :
    thread ∉ state.holders resource := by
  obtain ⟨held, _, holds, disciplined⟩ := orderly.disciplined thread
  rw [place] at disciplined
  intro member
  exact Nat.lt_irrefl _ (disciplined.1 resource ((holds resource).mpr member))

section Act

variable [DecidableEq Thread] [DecidableEq Resource]

theorem act_of_acquire {resource : Resource} {rest : List (Action Resource)}
    (place : state.rest thread = .acquire resource :: rest)
    (left : (state.holders resource).length < capacity resource) :
    state.act capacity thread = some ⟨Function.update state.rest thread rest,
      Function.update state.holders resource (thread :: state.holders resource)⟩ := by
  simp only [Holding.act, place, if_pos left]

theorem act_of_release {resource : Resource} {rest : List (Action Resource)}
    (place : state.rest thread = .release resource :: rest) :
    state.act capacity thread = some ⟨Function.update state.rest thread rest,
      Function.update state.holders resource ((state.holders resource).erase thread)⟩ := by
  simp only [Holding.act, place]

/-- All the next thing can be. -/
theorem act_cases (acted : state.act capacity thread = some next) :
    (∃ resource rest, state.rest thread = .acquire resource :: rest ∧
        next = ⟨Function.update state.rest thread rest,
          Function.update state.holders resource (thread :: state.holders resource)⟩) ∨
      ∃ resource rest, state.rest thread = .release resource :: rest ∧
        next = ⟨Function.update state.rest thread rest,
          Function.update state.holders resource ((state.holders resource).erase thread)⟩ := by
  match place : state.rest thread with
  | [] => simp only [Holding.act, place, reduceCtorEq] at acted
  | .acquire resource :: rest =>
      simp only [Holding.act, place] at acted
      obtain ⟨_, built⟩ := Option.ite_none_right_eq_some.mp acted
      exact .inl ⟨resource, rest, rfl, (Option.some.inj built).symm⟩
  | .release resource :: rest =>
      exact .inr ⟨resource, rest, rfl,
        (Option.some.inj ((act_of_release place).symm.trans acted)).symm⟩

theorem Orderly.acquire (orderly : state.Orderly capacity rank) {resource : Resource}
    {rest : List (Action Resource)} (place : state.rest thread = .acquire resource :: rest) :
    Orderly capacity rank ⟨Function.update state.rest thread rest,
      Function.update state.holders resource (thread :: state.holders resource)⟩ := by
  have fresh := orderly.notHeld place
  refine ⟨fun other => ?_, fun other => ?_⟩
  · obtain ⟨held, nodup, holds, disciplined⟩ := orderly.disciplined other
    by_cases same : other = thread
    · subst same
      rw [place] at disciplined
      refine ⟨resource :: held, ?_, fun found => ?_, by simpa using disciplined.2⟩
      · exact List.nodup_cons.mpr ⟨mt (holds resource).mp fresh, nodup⟩
      · by_cases this : found = resource
        · subst this
          simp
        · simp [this, holds]
    · refine ⟨held, nodup, fun found => ?_, by simpa [Function.update_of_ne same] using disciplined⟩
      by_cases this : found = resource
      · subst this
        simp [same, holds]
      · simp [Function.update_of_ne this, holds]
  · by_cases this : other = resource
    · subst this
      simpa using List.nodup_cons.mpr ⟨fresh, orderly.nodup other⟩
    · simpa [Function.update_of_ne this] using orderly.nodup other

theorem Orderly.release (orderly : state.Orderly capacity rank) {resource : Resource}
    {rest : List (Action Resource)} (place : state.rest thread = .release resource :: rest) :
    Orderly capacity rank ⟨Function.update state.rest thread rest,
      Function.update state.holders resource ((state.holders resource).erase thread)⟩ := by
  refine ⟨fun other => ?_, fun other => ?_⟩
  · obtain ⟨held, nodup, holds, disciplined⟩ := orderly.disciplined other
    by_cases same : other = thread
    · subst same
      rw [place] at disciplined
      obtain ⟨earlier, rfl, continues⟩ := disciplined
      obtain ⟨gone, nodupEarlier⟩ := List.nodup_cons.mp nodup
      refine ⟨earlier, nodupEarlier, fun found => ?_, by simpa using continues⟩
      by_cases this : found = resource
      · subst this
        simp [gone, (orderly.nodup found).mem_erase_iff]
      · simp [← holds, this]
    · refine ⟨held, nodup, fun found => ?_, by simpa [Function.update_of_ne same] using disciplined⟩
      by_cases this : found = resource
      · subst this
        simp [holds, List.mem_erase_of_ne same]
      · simp [Function.update_of_ne this, holds]
  · by_cases this : other = resource
    · subst this
      simpa using (orderly.nodup other).erase thread
    · simpa [Function.update_of_ne this] using orderly.nodup other

theorem Orderly.act (orderly : state.Orderly capacity rank)
    (acted : state.act capacity thread = some next) : next.Orderly capacity rank := by
  rcases act_cases acted with ⟨resource, rest, place, rfl⟩ | ⟨resource, rest, place, rfl⟩
  · exact orderly.acquire place
  · exact orderly.release place

theorem reachable_of_call {codes : Code Resource → Prop} {code : Code Resource}
    {actions : List (Action Resource)} (reachable : (system capacity codes).Reachable state)
    (known : codes code) (trace : code.Trace actions) (idle : state.rest thread = []) :
    (system capacity codes).Reachable (state.call thread actions) :=
  @LabelledSystem.Reachable.step _ _ _ _ _ (.call thread code actions) reachable
    ⟨known, trace, idle, rfl⟩

theorem reachable_of_acts {codes : Code Resource → Prop} {threads : List Thread}
    (reachable : (system capacity codes).Reachable state)
    (acted : state.acts capacity threads = some next) : (system capacity codes).Reachable next := by
  induction threads generalizing state with
  | nil =>
      obtain rfl := Option.some.inj acted
      exact reachable
  | cons thread threads inductionHypothesis =>
      obtain ⟨after, first, rest⟩ := Option.bind_eq_some_iff.mp acted
      exact inductionHypothesis (@LabelledSystem.Reachable.step _ _ _ _ _ (.act thread) reachable first)
        rest

/-- In every reachable state of threads that run ordered code. -/
theorem orderly_of_reachable {codes : Code Resource → Prop}
    (ordered : ∀ code, codes code → code.Ordered rank 0)
    (reachable : (system capacity codes).Reachable state) : state.Orderly capacity rank := by
  obtain ⟨turns, run⟩ := reachable
  refine run.invariant ?_ ?_
  · rintro _ rfl
    exact orderly_idle
  · intro state turn next orderly transition _
    cases turn with
    | call thread code actions =>
        obtain ⟨known, trace, idle, rfl⟩ := transition
        exact orderly.call (ordered code known) trace idle
    | act thread => exact orderly.act transition

/-- While a thread has something to do, some thread can do the next thing. -/
theorem Orderly.exists_act (orderly : state.Orderly capacity rank)
    (positive : ∀ resource, 0 < capacity resource) {limit : Nat}
    (bounded : ∀ resource, rank resource < limit) (busy : state.rest thread ≠ []) :
    ∃ other next, state.act capacity other = some next := by
  match place : state.rest thread with
  | [] => exact absurd place busy
  | .release resource :: rest => exact ⟨thread, _, act_of_release place⟩
  | .acquire resource :: rest =>
    -- A thread that waits waits for one that holds the resource and waits for a higher one.
    induction distance : limit - rank resource using Nat.strongRecOn
      generalizing thread resource rest with
    | _ distance inductionHypothesis =>
      by_cases left : (state.holders resource).length < capacity resource
      · exact ⟨thread, _, act_of_acquire place left⟩
      have someone : 0 < (state.holders resource).length := by
        have more := positive resource
        omega
      obtain ⟨holder, holds⟩ := List.exists_mem_of_length_pos someone
      obtain ⟨held, _, member, disciplined⟩ := orderly.disciplined holder
      have inHeld := (member resource).mpr holds
      match placeHolder : state.rest holder with
      | [] =>
        rw [placeHolder] at disciplined
        obtain rfl : held = [] := disciplined
        cases inHeld
      | .release other :: restHolder =>
        exact ⟨holder, _, act_of_release placeHolder⟩
      | .acquire other :: restHolder =>
        rw [placeHolder] at disciplined
        have higher := disciplined.1 resource inHeld
        have below := bounded other
        exact inductionHypothesis (limit - rank other) (by omega)
          (by rw [placeHolder]; simp) other restHolder placeHolder rfl

/-- A thread does one thing at a time. -/
theorem rest_of_act (acted : state.act capacity thread = some next) :
    (∃ action, state.rest thread = action :: next.rest thread) ∧
      ∀ other, other ≠ thread → next.rest other = state.rest other := by
  rcases act_cases acted with ⟨resource, rest, place, rfl⟩ | ⟨resource, rest, place, rfl⟩ <;>
    exact ⟨⟨_, by simpa using place⟩, fun other different => by
      simp [Function.update_of_ne different]⟩

/-- Without further calls, all threads can finish. -/
theorem Orderly.finishes [Fintype Thread] (orderly : state.Orderly capacity rank)
    (positive : ∀ resource, 0 < capacity resource) {limit : Nat}
    (bounded : ∀ resource, rank resource < limit) :
    ∃ next, Relation.ReflTransGen (fun before after => ∃ thread,
      before.act capacity thread = some after) state next ∧ ∀ thread, next.rest thread = [] := by
  induction remaining : ∑ thread, (state.rest thread).length using Nat.strongRecOn
    generalizing state with
  | _ remaining inductionHypothesis =>
    by_cases through : ∀ thread, state.rest thread = []
    · exact ⟨state, .refl, through⟩
    · obtain ⟨thread, busy⟩ := not_forall.mp through
      obtain ⟨actor, after, acted⟩ := orderly.exists_act positive bounded busy
      obtain ⟨⟨action, own⟩, others⟩ := rest_of_act acted
      have less : ∑ thread, (after.rest thread).length < ∑ thread, (state.rest thread).length := by
        refine Finset.sum_lt_sum (fun other _ => ?_) ⟨actor, Finset.mem_univ _, ?_⟩
        · by_cases same : other = actor
          · subst same
            rw [own]
            exact Nat.le_succ _
          · rw [others other same]
        · rw [own]
          exact Nat.lt_succ_self _
      obtain ⟨next, steps, done⟩ := inductionHypothesis _ (remaining ▸ less) (orderly.act acted) rfl
      exact ⟨next, .head ⟨actor, acted⟩ steps, done⟩

end Act

end Holding

end SocketMessage.Lib
