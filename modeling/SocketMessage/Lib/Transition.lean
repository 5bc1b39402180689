/-!
# Labelled transition systems and conditioned runs

A run is conditioned by a predicate on its steps. `Runs.invariant` is the
induction over runs; `runs_iff_runs_within` says that a condition which decides,
step by step, whether a property survives also decides it for whole runs.
-/

namespace SocketMessage.Lib

universe u v u' v'

/-- States, the labels of their transitions, and where runs start. -/
structure LabelledSystem (State : Type u) (Label : Type v) where
  Initial : State → Prop
  Step : State → Label → State → Prop

namespace LabelledSystem

variable {State : Type u} {Label : Type v}

/-- The system of a partial step function with one initial state. -/
def ofStep (start : State) (step : State → Label → Option State) : LabelledSystem State Label where
  Initial state := state = start
  Step state label next := step state label = some next

/-- Finite runs whose steps all meet a condition. -/
inductive Runs (system : LabelledSystem State Label)
    (condition : State → Label → State → Prop) : List Label → State → Prop where
  | initial {state} (valid : system.Initial state) : Runs system condition [] state
  | step {labels state label next} (prior : Runs system condition labels state)
      (transition : system.Step state label next) (meets : condition state label next) :
      Runs system condition (labels ++ [label]) next

/-- A state some run reaches. -/
def Reachable (system : LabelledSystem State Label) (state : State) : Prop :=
  ∃ labels, system.Runs (fun _ _ _ => True) labels state

variable {system : LabelledSystem State Label} {condition weaker : State → Label → State → Prop}

/-- A property of the initial states which every step of the run preserves holds
where the run ends. -/
theorem Runs.invariant {property : State → Prop} {labels : List Label} {state : State}
    (initial : ∀ state, system.Initial state → property state)
    (preserved : ∀ state label next, property state → system.Step state label next →
      condition state label next → property next)
    (run : system.Runs condition labels state) : property state := by
  induction run with
  | initial valid => exact initial _ valid
  | step _ transition meets inductionHypothesis =>
      exact preserved _ _ _ inductionHypothesis transition meets

/-- Runs remain runs under a condition their steps also meet. -/
theorem Runs.mono {labels : List Label} {state : State}
    (implied : ∀ state label next, condition state label next → weaker state label next)
    (run : system.Runs condition labels state) : system.Runs weaker labels state := by
  induction run with
  | initial valid => exact .initial valid
  | step _ transition meets inductionHypothesis =>
      exact .step inductionHypothesis transition (implied _ _ _ meets)

/-- When a condition keeps a property under which it implies another condition, the runs
that meet the first one meet the other. -/
theorem Runs.implied {property : State → Prop} {labels : List Label} {state : State}
    (initial : ∀ state, system.Initial state → property state)
    (steps : ∀ state label next, property state → system.Step state label next →
      condition state label next → weaker state label next ∧ property next)
    (run : system.Runs condition labels state) :
    system.Runs weaker labels state ∧ property state := by
  induction run with
  | initial valid => exact ⟨.initial valid, initial _ valid⟩
  | step _ transition meets inductionHypothesis =>
      obtain ⟨prior, holds⟩ := inductionHypothesis
      obtain ⟨meetsWeaker, holdsNext⟩ := steps _ _ _ holds transition meets
      exact ⟨.step prior transition meetsWeaker, holdsNext⟩

/-- Forgetting the condition leaves a run of the system. -/
theorem Runs.reachable {labels : List Label} {state : State}
    (run : system.Runs condition labels state) : system.Reachable state :=
  ⟨labels, run.mono fun _ _ _ _ => trivial⟩

/-- A run that stays within a property of the initial states ends within it. -/
theorem Runs.within {property : State → Prop} {labels : List Label} {state : State}
    (initial : ∀ state, system.Initial state → property state)
    (run : system.Runs (fun _ _ next => property next) labels state) : property state :=
  run.invariant initial fun _ _ _ _ _ holds => holds

/-- When a condition on a step is exactly what keeps a property, given what is
invariant anyway, the runs that meet the condition at every step are the runs that
stay within the property. -/
theorem runs_iff_runs_within {invariant property : State → Prop} {labels : List Label}
    {state : State} (always : ∀ state, system.Reachable state → invariant state)
    (initial : ∀ state, system.Initial state → property state)
    (exact_condition : ∀ state label next, invariant state → property state →
      system.Step state label next → (condition state label next ↔ property next)) :
    system.Runs condition labels state ↔
      system.Runs (fun _ _ next => property next) labels state := by
  constructor
  · intro run
    induction run with
    | initial valid => exact .initial valid
    | step prior transition meets inductionHypothesis =>
        exact .step inductionHypothesis transition ((exact_condition _ _ _
          (always _ prior.reachable) (inductionHypothesis.within initial) transition).mp meets)
  · intro run
    induction run with
    | initial valid => exact .initial valid
    | step prior transition holds inductionHypothesis =>
        exact .step inductionHypothesis transition ((exact_condition _ _ _
          (always _ prior.reachable) (prior.within initial) transition).mpr holds)

/-- Runs of a system whose steps are steps of a more abstract one are runs of that. -/
theorem Runs.simulated {State' : Type u'} {Label' : Type v'}
    {abstract : LabelledSystem State' Label'} {condition' : State' → Label' → State' → Prop}
    {invariant : State → Prop} (project : State → State') (translate : State → Label → Label')
    (always : ∀ state, system.Reachable state → invariant state)
    (initial : ∀ state, system.Initial state → abstract.Initial (project state))
    (steps : ∀ state label next, invariant state → system.Step state label next →
      abstract.Step (project state) (translate state label) (project next))
    (conditions : ∀ state label next, condition state label next →
      condition' (project state) (translate state label) (project next))
    {labels : List Label} {state : State} (run : system.Runs condition labels state) :
    ∃ translated, abstract.Runs condition' translated (project state) := by
  induction run with
  | initial valid => exact ⟨[], .initial (initial _ valid)⟩
  | step prior transition meets inductionHypothesis =>
      obtain ⟨translated, simulated⟩ := inductionHypothesis
      exact ⟨_, .step simulated (steps _ _ _ (always _ prior.reachable) transition)
        (conditions _ _ _ meets)⟩

/-- What holds in the beginning and survives every step holds in every reachable state. -/
theorem Reachable.invariant {start state : State} {step : State → Label → Option State}
    {property : State → Prop} (reachable : (ofStep start step).Reachable state)
    (initial : property start)
    (preserved : ∀ state label next, property state → step state label = some next →
      property next) : property state := by
  obtain ⟨labels, run⟩ := reachable
  refine run.invariant ?_ fun state label next holds stepped _ =>
    preserved state label next holds stepped
  rintro _ rfl
  exact initial

/-- One step further. -/
theorem Reachable.step {state next : State} {label : Label} (reachable : system.Reachable state)
    (transition : system.Step state label next) : system.Reachable next := by
  obtain ⟨labels, run⟩ := reachable
  exact ⟨_, run.step transition trivial⟩

/-- What a system reaches, one that can do the same and more reaches too. -/
theorem Reachable.mono {more : LabelledSystem State Label} {state : State}
    (reachable : system.Reachable state)
    (initial : ∀ state, system.Initial state → more.Initial state)
    (steps : ∀ state label next, system.Step state label next → more.Step state label next) :
    more.Reachable state := by
  obtain ⟨labels, run⟩ := reachable
  refine ⟨labels, ?_⟩
  induction run with
  | initial valid => exact .initial (initial _ valid)
  | step _ transition _ inductionHypothesis =>
      exact .step inductionHypothesis (steps _ _ _ transition) trivial

/-- A run from one of the states where a system starts is a run of the system. -/
theorem Runs.started {start state : State} {step : State → Label → Option State}
    {labels : List Label} (valid : system.Initial start)
    (steps : ∀ state label next, step state label = some next → system.Step state label next)
    (run : (ofStep start step).Runs condition labels state) :
    system.Runs condition labels state := by
  induction run with
  | initial same =>
      obtain rfl := same
      exact .initial valid
  | step _ transition meets inductionHypothesis =>
      exact .step inductionHypothesis (steps _ _ _ transition) meets

/-- Follow labels through a partial step function, as long as a condition is met. -/
def follow (step : State → Label → Option State) (condition : State → Label → State → Prop)
    [∀ state label next, Decidable (condition state label next)] :
    State → List Label → Option State
  | state, [] => some state
  | state, label :: rest => (step state label).bind fun next =>
      if condition state label next then follow step condition next rest else none

section Follow

variable [∀ state label next, Decidable (condition state label next)]

/-- Follow a label and then the rest. -/
theorem follow_cons {step : State → Label → Option State} {state next : State} {label : Label}
    {rest : List Label} (stepped : step state label = some next)
    (meets : condition state label next) :
    follow step condition state (label :: rest) = follow step condition next rest := by
  rw [follow, stepped, Option.bind_some, if_pos meets]

theorem follow_single {step : State → Label → Option State} {state next : State} {label : Label}
    (stepped : step state label = some next) (meets : condition state label next) :
    follow step condition state [label] = some next :=
  follow_cons stepped meets

/-- Following labels from where a run ended extends the run. -/
theorem Runs.follow {start : State} {step : State → Label → Option State}
    {before labels : List Label} {state final : State}
    (run : (ofStep start step).Runs condition before state)
    (followed : LabelledSystem.follow step condition state labels = some final) :
    (ofStep start step).Runs condition (before ++ labels) final := by
  induction labels generalizing before state with
  | nil =>
      obtain rfl := Option.some.inj followed
      simpa using run
  | cons label rest inductionHypothesis =>
      obtain ⟨next, stepped, followedRest⟩ := Option.bind_eq_some_iff.mp followed
      split at followedRest
      · next meets =>
          have extended := inductionHypothesis (Runs.step run stepped meets) followedRest
          simpa using extended
      · cases followedRest

/-- A computed run is a run. -/
theorem runs_of_follow {start final : State} {step : State → Label → Option State}
    {labels : List Label}
    (followed : LabelledSystem.follow step condition start labels = some final) :
    (ofStep start step).Runs condition labels final := by
  simpa using Runs.follow (Runs.initial rfl) followed

end Follow

end LabelledSystem

end SocketMessage.Lib
