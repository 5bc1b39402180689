import Mathlib.Data.List.Basic
import Mathlib.Order.WellFounded

/-!
# What happens in the end

A goal is inevitable when every sequence of steps, taken as long as one is possible, comes to
it: whoever schedules the steps cannot avoid it. `inevitable_of_measure` needs a measure that
every step lowers and a look at the states without a step. `weigh` adds up such a measure over
a list of threads.
-/

namespace SocketMessage.Lib

universe u v

/-- Every sequence of steps from here comes to a goal. -/
inductive Inevitable {State : Type u} (step : State → State → Prop) (goal : State → Prop) :
    State → Prop where
  | here {state} (there : goal state) : Inevitable step goal state
  | later {state} (possible : ∃ next, step state next)
      (all : ∀ next, step state next → Inevitable step goal next) : Inevitable step goal state

/-- Where steps lower a measure and only goals have none, a goal is inevitable. -/
theorem inevitable_of_measure {State : Type u} {Measure : Type v} {step : State → State → Prop}
    {goal invariant : State → Prop} {less : Measure → Measure → Prop} (wellFounded : WellFounded less)
    (measure : State → Measure)
    (keeps : ∀ state next, invariant state → step state next → invariant next)
    (lowers : ∀ state next, invariant state → step state next → less (measure next) (measure state))
    (stuck : ∀ state, invariant state → (∀ next, ¬ step state next) → goal state)
    {state : State} (holds : invariant state) : Inevitable step goal state := by
  induction found : measure state using wellFounded.induction generalizing state with
  | _ _ inductionHypothesis =>
    by_cases possible : ∃ next, step state next
    · exact .later possible fun next stepped =>
        inductionHypothesis _ (found ▸ lowers state next holds stepped) (keeps state next holds stepped)
          rfl
    · exact .here (stuck state holds (not_exists.mp possible))

/-- The weights of all elements. -/
def weigh {α : Type u} (weight : α → Nat) : List α → Nat
  | [] => 0
  | element :: rest => weight element + weigh weight rest

/-- Replacing an element. -/
theorem weigh_set {α : Type u} (weight : α → Nat) {elements : List α} {index : Nat} {before : α}
    (found : elements[index]? = some before) (after : α) :
    weigh weight (elements.set index after) + weight before =
      weigh weight elements + weight after := by
  induction elements generalizing index with
  | nil => cases found
  | cons element rest inductionHypothesis =>
      cases index with
      | zero =>
          obtain rfl := Option.some.inj found
          simp only [List.set_cons_zero, weigh]
          omega
      | succ index =>
          have shorter := inductionHypothesis found
          simp only [List.set_cons_succ, weigh]
          omega

/-- Replacing the value of a function at one of the first arguments. -/
theorem weigh_update {α : Type u} (weight : α → Nat) {values : Nat → α} {argument count : Nat}
    (inside : argument < count) (after : α) :
    weigh weight ((List.range count).map (Function.update values argument after)) +
        weight (values argument) =
      weigh weight ((List.range count).map values) + weight after := by
  have found : ((List.range count).map values)[argument]? = some (values argument) := by
    simp [inside]
  rw [← weigh_set weight found after]
  congr 2
  apply List.ext_getElem
  · simp
  · intro position left right
    by_cases same : position = argument
    · subst same
      simp
    · simp [Function.update_of_ne same, List.getElem_set_ne (Ne.symm same)]

end SocketMessage.Lib
