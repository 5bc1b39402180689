import Mathlib.Data.List.Basic
import Mathlib.Data.List.Induction
import Mathlib.Logic.Relation
import Mathlib.Order.Defs.PartialOrder

/-!
# Workers behind a queue

Tasks are queued in the order they are submitted and taken from the front by a bounded
number of workers. What is pending, the tasks taken followed by those in the queue, stays
in the order of submission: only a worker that finishes out of turn breaks it up.
-/

namespace SocketMessage.Lib

universe u v

/-- A list at the place of one of its elements: what is before it and after it stays when
the element is replaced or erased. -/
theorem split_of_getElem? {α : Type u} {list : List α} {index : Nat} {element : α}
    (found : list[index]? = some element) :
    ∃ before after, list = before ++ element :: after ∧ before.length = index ∧
      (∀ other, list.set index other = before ++ other :: after) ∧
        list.eraseIdx index = before ++ after := by
  obtain ⟨inside, same⟩ := List.getElem?_eq_some_iff.mp found
  refine ⟨list.take index, list.drop (index + 1), ?_, List.length_take_of_le (Nat.le_of_lt inside),
    ?_, List.eraseIdx_eq_take_drop_succ ..⟩
  · rw [← same, List.getElem_cons_drop, List.take_append_drop]
  · intro other
    simp [List.set_eq_take_append_cons_drop, inside]

/-- What is selected from a list after one element has been replaced. -/
theorem perm_filterMap_set {α : Type u} {β : Type v} {list : List α} {index : Nat} {old : α}
    (found : list[index]? = some old) (select : α → Option β) (new : α) :
    ((list.set index new).filterMap select ++ (select old).toList).Perm
      (list.filterMap select ++ (select new).toList) := by
  obtain ⟨before, after, split, _, replaced, _⟩ := split_of_getElem? found
  have selected : ∀ element, (before ++ element :: after).filterMap select =
      before.filterMap select ++ ((select element).toList ++ after.filterMap select) := by
    intro element
    cases chosen : select element <;> simp [chosen]
  have swapped : ∀ left middle right : List β,
      (left ++ (middle ++ right)).Perm (middle ++ (right ++ left)) := by
    intro left middle right
    rw [← List.append_assoc middle]
    exact List.perm_append_comm
  rw [replaced, split, selected, selected]
  simp only [List.append_assoc]
  refine List.Perm.append_left _ ?_
  exact (swapped _ _ _).trans ((List.Perm.append_left _ List.perm_append_comm).trans
    (swapped _ _ _).symm)

/-- How many elements satisfy a test after one of them has been replaced. -/
theorem countP_set_add {α : Type u} {list : List α} {index : Nat} {old : α}
    (found : list[index]? = some old) (test : α → Bool) (new : α) :
    (list.set index new).countP test + (if test old then 1 else 0) =
      list.countP test + if test new then 1 else 0 := by
  obtain ⟨before, after, split, _, replaced, _⟩ := split_of_getElem? found
  rw [replaced, split]
  simp only [List.countP_append, List.countP_cons]
  omega

/-- Different places of a list that satisfy a test are as many elements that do. -/
theorem length_le_countP {α : Type u} {list : List α} {test : α → Bool} {places : List Nat}
    (different : places.Nodup)
    (satisfy : ∀ place ∈ places, ∃ element, list[place]? = some element ∧ test element = true) :
    places.length ≤ list.countP test := by
  induction list using List.reverseRecOn generalizing places with
  | nil =>
      match places with
      | [] => exact Nat.le_refl 0
      | place :: _ =>
        obtain ⟨_, found, _⟩ := satisfy place List.mem_cons_self
        cases found
  | append_singleton list last inductionHypothesis =>
      have earlier : ∀ place, (∃ element, (list ++ [last])[place]? = some element ∧
          test element = true) → place ≠ list.length →
            ∃ element, list[place]? = some element ∧ test element = true := by
        rintro place ⟨element, found, passes⟩ notLast
        have inside := (List.getElem?_eq_some_iff.mp found).1
        rw [List.length_append, List.length_singleton] at inside
        rw [List.getElem?_append_left (by omega)] at found
        exact ⟨element, found, passes⟩
      rw [List.countP_append, List.countP_singleton]
      by_cases member : list.length ∈ places
      · obtain ⟨element, found, passes⟩ := satisfy _ member
        rw [List.getElem?_append_right (Nat.le_refl _), Nat.sub_self] at found
        obtain rfl := Option.some.inj found
        have fewer := inductionHypothesis (different.erase list.length) fun place inPlaces =>
          earlier place (satisfy place (List.mem_of_mem_erase inPlaces))
            (different.mem_erase_iff.mp inPlaces).1
        rw [List.length_erase_of_mem member] at fewer
        rw [if_pos passes]
        omega
      · have fewer := inductionHypothesis different fun place inPlaces =>
          earlier place (satisfy place inPlaces) fun same => member (same ▸ inPlaces)
        omega

/-- The tasks that are being worked on, in the order they were taken, and those that
wait. -/
structure WorkerPool (Task : Type u) where
  running : List Task
  queue : List Task

namespace WorkerPool

variable {Task : Type u}

/-- Nothing to do. -/
def empty : WorkerPool Task := ⟨[], []⟩

/-- Queue a task. -/
def submit (pool : WorkerPool Task) (task : Task) : WorkerPool Task :=
  { pool with queue := pool.queue ++ [task] }

/-- A worker without a task, if there is one, takes the first in the queue. -/
def take (workers : Nat) (pool : WorkerPool Task) : Option (WorkerPool Task) :=
  match pool.queue with
  | [] => none
  | task :: rest => if pool.running.length < workers then some ⟨pool.running ++ [task], rest⟩ else none

/-- A worker gets on with its task. -/
def progress (pool : WorkerPool Task) (index : Nat) (task : Task) : WorkerPool Task :=
  { pool with running := pool.running.set index task }

/-- A worker is done with its task. -/
def finish (pool : WorkerPool Task) (index : Nat) : WorkerPool Task :=
  { pool with running := pool.running.eraseIdx index }

/-- All tasks that are not finished. -/
def pending (pool : WorkerPool Task) : List Task := pool.running ++ pool.queue

variable {pool next : WorkerPool Task} {task old : Task} {workers index : Nat}

@[simp] theorem pending_submit : (pool.submit task).pending = pool.pending ++ [task] := by
  simp [pending, submit]

/-- What taking a task does. -/
theorem take_cases (taken : pool.take workers = some next) :
    ∃ task rest, pool.queue = task :: rest ∧ pool.running.length < workers ∧
      next = ⟨pool.running ++ [task], rest⟩ := by
  unfold take at taken
  split at taken
  · cases taken
  · next task rest waits =>
    obtain ⟨free, built⟩ := Option.ite_none_right_eq_some.mp taken
    exact ⟨task, rest, waits, free, (Option.some.inj built).symm⟩

/-- Taking a task leaves the order as it is. -/
theorem pending_take (taken : pool.take workers = some next) : next.pending = pool.pending := by
  obtain ⟨task, rest, waits, _, rfl⟩ := take_cases taken
  simp [pending, waits]

/-- No more tasks are taken than there are workers. -/
theorem length_running_take (taken : pool.take workers = some next) :
    next.running.length ≤ workers := by
  obtain ⟨task, rest, _, free, rfl⟩ := take_cases taken
  rw [List.length_append]
  exact free

/-- More workers can do what fewer can. -/
theorem take_mono {more : Nat} (enough : workers ≤ more) (taken : pool.take workers = some next) :
    pool.take more = some next := by
  obtain ⟨task, rest, waits, free, rfl⟩ := take_cases taken
  simp [take, waits, Nat.lt_of_lt_of_le free enough]

@[simp] theorem length_running_progress :
    (pool.progress index task).running.length = pool.running.length :=
  List.length_set

theorem length_running_finish : (pool.finish index).running.length ≤ pool.running.length :=
  List.length_eraseIdx_le ..

/-- A task that is worked on has its place among the pending ones. It keeps this place
until it is finished, which leaves the others as they are. -/
theorem pending_split (found : pool.running[index]? = some old) :
    ∃ before after, pool.pending = before ++ old :: after ∧ before.length = index ∧
      (∀ task, (pool.progress index task).pending = before ++ task :: after) ∧
        (pool.finish index).pending = before ++ after := by
  obtain ⟨before, after, running, place, replaced, erased⟩ := split_of_getElem? found
  refine ⟨before, after ++ pool.queue, ?_, place, ?_, ?_⟩
  · simp [pending, running]
  · intro task
    simp [pending, progress, replaced]
  · simp [pending, finish, erased]

/-- A worker's place is below the number of workers. -/
theorem lt_of_running {bound : Nat} (bounded : pool.running.length ≤ bound)
    (found : pool.running[index]? = some old) : index < bound := by
  obtain ⟨inside, _⟩ := List.getElem?_eq_some_iff.mp found
  exact Nat.lt_of_lt_of_le inside bounded

/-- A single worker has only its own task, to get on with or to finish. -/
theorem running_of_single (single : pool.running.length ≤ 1)
    (found : pool.running[index]? = some old) :
    pool.running = [old] ∧ (∀ task, pool.progress index task = ⟨[task], pool.queue⟩) ∧
      pool.finish index = ⟨[], pool.queue⟩ := by
  obtain ⟨inside, same⟩ := List.getElem?_eq_some_iff.mp found
  obtain ⟨only, running⟩ := List.length_eq_one_iff.mp (by omega : pool.running.length = 1)
  obtain rfl : index = 0 := by omega
  have isOld : only = old := by simpa [running] using same
  simp [progress, finish, running, isOld]

/-- What can happen to a pool with so many workers. -/
inductive Change (workers : Nat) : WorkerPool Task → WorkerPool Task → Prop where
  | submit (pool : WorkerPool Task) (task : Task) : Change workers pool (pool.submit task)
  | take {pool next : WorkerPool Task} (taken : pool.take workers = some next) :
      Change workers pool next
  | finish (pool : WorkerPool Task) (index : Nat) : Change workers pool (pool.finish index)

/-- Whatever happens, no more tasks are worked on than there are workers. -/
theorem length_running_le (changes : Relation.ReflTransGen (Change workers) empty pool) :
    pool.running.length ≤ workers := by
  induction changes with
  | refl => exact Nat.zero_le _
  | tail _ change inductionHypothesis =>
      cases change with
      | submit => exact inductionHypothesis
      | take taken => exact length_running_take taken
      | finish => exact Nat.le_trans length_running_finish inductionHypothesis

end WorkerPool

/-! ## Order of handling -/

/-- A list that starts like the first numbers is the first numbers. -/
theorem eq_range_of_initial {numbers : List Nat} {count : Nat} (first : numbers <+: List.range count) :
    numbers = List.range numbers.length := by
  have short : numbers.length ≤ count := by simpa using first.length_le
  have taken := List.prefix_iff_eq_take.mp first
  rwa [List.take_range, Nat.min_eq_left short] at taken

/-- A list that is in order by two keys has its elements in the same order by both. -/
theorem lt_of_pairwise {α : Type u} {β γ : Type v} [Preorder β] [Preorder γ] {key : α → β}
    {value : α → γ} {list : List α} (byKey : list.Pairwise fun left right => key left < key right)
    (byValue : list.Pairwise fun left right => value left < value right) {left right : α}
    (isLeft : left ∈ list) (isRight : right ∈ list) (less : key left < key right) :
    value left < value right := by
  induction list with
  | nil => cases isLeft
  | cons head rest inductionHypothesis =>
      obtain ⟨headKey, restKey⟩ := List.pairwise_cons.mp byKey
      obtain ⟨headValue, restValue⟩ := List.pairwise_cons.mp byValue
      rcases List.mem_cons.mp isLeft with rfl | leftRest
      · rcases List.mem_cons.mp isRight with rfl | rightRest
        · exact absurd less (lt_irrefl _)
        · exact headValue right rightRest
      · rcases List.mem_cons.mp isRight with rfl | rightRest
        · exact absurd (lt_trans less (headKey left leftRest)) (lt_irrefl _)
        · exact inductionHypothesis restKey restValue leftRest rightRest

end SocketMessage.Lib
