import Mathlib.Logic.Basic

/-!
# Runs of a deterministic step function

A system is given by a total step function that takes the next state from the
current one and an action of its surroundings.  A run is a list of actions.
The rules below carry a property of one step to every state of a run, either
unconditionally or for the runs all of whose steps meet a condition on the
state they are taken in.
-/

namespace Foundation

variable {State Action : Type*}

/-- The state reached by taking the actions of a run one after the other. -/
def run (step : State -> Action -> State) : State -> List Action -> State
  | state, [] => state
  | state, action :: rest => run step (step state action) rest

@[simp] theorem run_nil (step : State -> Action -> State) (state : State) :
    run step state [] = state := rfl

@[simp] theorem run_cons (step : State -> Action -> State) (state : State) (action : Action)
    (rest : List Action) :
    run step state (action :: rest) = run step (step state action) rest := rfl

/-- A run in two parts goes on from where its first part ends. -/
theorem run_append (step : State -> Action -> State) (state : State) (first second : List Action) :
    run step state (first ++ second) = run step (run step state first) second := by
  induction first generalizing state with
  | nil => rfl
  | cons action rest ih => exact ih (step state action)

/-- Every step of the run meets the condition in the state it is taken in. -/
def StepsMeet (step : State -> Action -> State)
    (condition : State -> Action -> Prop) : State -> List Action -> Prop
  | _, [] => True
  | state, action :: rest =>
      condition state action ∧ StepsMeet step condition (step state action) rest

@[simp] theorem stepsMeet_nil (step : State -> Action -> State)
    (condition : State -> Action -> Prop)
    (state : State) : StepsMeet step condition state [] := trivial

@[simp] theorem stepsMeet_cons (step : State -> Action -> State)
    (condition : State -> Action -> Prop)
    (state : State) (action : Action) (rest : List Action) :
    StepsMeet step condition state (action :: rest) ↔
      condition state action ∧ StepsMeet step condition (step state action) rest := Iff.rfl

instance decidableStepsMeet
    {step : State -> Action -> State}
    {condition : State -> Action -> Prop}
    [∀ state action, Decidable (condition state action)] :
    (state : State) -> (actions : List Action) -> Decidable (StepsMeet step condition state actions)
  | _, [] => isTrue trivial
  | state, action :: rest =>
      have := @decidableStepsMeet step condition _ (step state action) rest
      inferInstanceAs (Decidable (_ ∧ _))

theorem stepsMeet_append (step : State -> Action -> State) (condition : State -> Action -> Prop)
    (state : State) (first second : List Action) :
    StepsMeet step condition state (first ++ second) ↔
      StepsMeet step condition state first ∧
        StepsMeet step condition (run step state first) second := by
  induction first generalizing state with
  | nil => simp
  | cons action rest ih => simp [ih, and_assoc]

variable {step : State -> Action -> State} {state : State} {actions : List Action}

/-- A weaker condition is met by the same steps. -/
theorem StepsMeet.mono {strong weak : State -> Action -> Prop}
    (weaker : ∀ state action, strong state action -> weak state action)
    (meets : StepsMeet step strong state actions) : StepsMeet step weak state actions := by
  induction actions generalizing state with
  | nil => trivial
  | cons action rest ih => exact ⟨weaker state action meets.1, ih meets.2⟩

variable {first second : State -> Action -> Prop}

/-- Conditions that agree everywhere are met by the same runs. -/
theorem stepsMeet_congr (agree : ∀ state action, first state action ↔ second state action)
    (state : State) (actions : List Action) :
    StepsMeet step first state actions ↔ StepsMeet step second state actions :=
  ⟨StepsMeet.mono fun state action => (agree state action).mp,
    StepsMeet.mono fun state action => (agree state action).mpr⟩

/-- A property kept by the steps that meet the condition holds after a run of such steps. -/
theorem StepsMeet.invariant {step : State -> Action -> State} {condition : State -> Action -> Prop}
    (property : State -> Prop)
    (preserved : ∀ state action,
      property state -> condition state action -> property (step state action))
    {state : State}
    (initially : property state)
    {actions : List Action}
    (meets : StepsMeet step condition state actions) :
    property (run step state actions) := by
  induction actions generalizing state with
  | nil => exact initially
  | cons action rest ih =>
    exact ih
      (preserved state action initially meets.1) meets.2

/-- A property that every step keeps holds after every run. -/
theorem run_invariant {step : State -> Action -> State} (property : State -> Prop)
    (preserved : ∀ state action, property state -> property (step state action)) {state : State}
    (initially : property state) (actions : List Action) : property (run step state actions) := by
  induction actions generalizing state with
  | nil => exact initially
  | cons action rest ih => exact ih (preserved state action initially)

/-- A property that the actions of the run keep holds after it. -/
theorem run_invariant_of_mem {step : State -> Action -> State} (property : State -> Prop)
    (actions : List Action)
    (preserved : ∀ state, ∀ action ∈ actions, property state -> property (step state action))
    {state : State} (initially : property state) : property (run step state actions) := by
  induction actions generalizing state with
  | nil => exact initially
  | cons action rest ih =>
    refine ih
      (fun state other mem => preserved state other (List.mem_cons_of_mem action mem)) ?_
    exact preserved state action List.mem_cons_self initially

/-- Under an assumption on the steps, the property holds in every state reached exactly
if every step meets the condition, which an invariant shows step by step. -/
theorem throughout_iff_of_assumed {step : State -> Action -> State}
    {assumed condition : State -> Action -> Prop} (invariant property : State -> Prop)
    (gives : ∀ state, invariant state -> property state)
    (preserved : ∀ state action, invariant state -> assumed state action ->
      condition state action -> invariant (step state action))
    (needed : ∀ state action, invariant state -> assumed state action ->
      property (step state action) -> condition state action)
    {state : State}
    (initially : invariant state)
    {actions : List Action}
    (meetsAssumed : StepsMeet step assumed state actions) :
    (∀ done, done <+: actions -> property (run step state done)) ↔
      StepsMeet step condition state actions := by
  induction actions generalizing state with
  | nil => simp [gives state initially]
  | cons action rest ih =>
    obtain ⟨isAssumed, restAssumed⟩ := meetsAssumed
    constructor
    · intro throughout
      have meets := needed state action initially isAssumed (throughout [action] (by simp))
      refine ⟨meets, ?_⟩
      refine (ih
        (preserved state action initially isAssumed meets) restAssumed).mp ?_
      intro done doneBefore
      exact throughout (action :: done) (by simpa using doneBefore)
    · rintro ⟨meets, restMeets⟩ done doneBefore
      cases done with
      | nil => exact gives state initially
      | cons first done =>
        obtain ⟨same, restBefore⟩ := List.cons_prefix_cons.mp doneBefore
        subst same
        have next := preserved state first initially isAssumed meets
        exact (ih next restAssumed).mpr restMeets done restBefore

theorem stepsMeet_true (step : State -> Action -> State) (state : State) (actions : List Action) :
    StepsMeet step (fun _ _ => True) state actions := by
  induction actions generalizing state with
  | nil => trivial
  | cons action rest ih => exact ⟨trivial, ih _⟩

/-- The property holds in every state reached exactly if every step meets the condition. -/
theorem throughout_iff_of_invariant {step : State -> Action -> State}
    {condition : State -> Action -> Prop} (invariant property : State -> Prop)
    (gives : ∀ state, invariant state -> property state)
    (preserved : ∀ state action,
      invariant state -> condition state action -> invariant (step state action))
    (needed : ∀ state action,
      invariant state -> property (step state action) -> condition state action)
    {state : State}
    (initially : invariant state)
    (actions : List Action) :
    (∀ done, done <+: actions -> property (run step state done)) ↔
      StepsMeet step condition state actions :=
  throughout_iff_of_assumed invariant property gives
    (fun state action holds _ meets => preserved state action holds meets)
    (fun state action holds _ next => needed state action holds next) initially
    (stepsMeet_true step state actions)

/-- The rule for a property that is its own invariant. -/
theorem throughout_iff_stepsMeet {step : State -> Action -> State}
    {condition : State -> Action -> Prop}
    (property : State -> Prop)
    (preservedIff : ∀ state action,
      property state -> (property (step state action) ↔ condition state action))
    {state : State}
    (initially : property state)
    (actions : List Action) :
    (∀ done, done <+: actions -> property (run step state done)) ↔
      StepsMeet step condition state actions :=
  throughout_iff_of_invariant property property (fun _ holds => holds)
    (fun state action holds => (preservedIff state action holds).mpr)
    (fun state action holds => (preservedIff state action holds).mp) initially actions

/-- The steps of a shorter run meet what the steps of the whole meet. -/
theorem StepsMeet.of_isPrefix {condition : State -> Action -> Prop} {done : List Action}
    (meets : StepsMeet step condition state actions) (before : done <+: actions) :
    StepsMeet step condition state done := by
  obtain ⟨rest, whole⟩ := before
  rw [← whole, stepsMeet_append] at meets
  exact meets.1

/-- A condition that is weaker in the states of the invariant is met by the same steps. -/
theorem StepsMeet.mono_of_invariant {step : State -> Action -> State}
    {strong weak : State -> Action -> Prop} (property : State -> Prop)
    (preserved : ∀ state action,
      property state -> strong state action -> property (step state action))
    (weaker : ∀ state action, property state -> strong state action -> weak state action)
    {state : State}
    (initially : property state)
    {actions : List Action}
    (meets : StepsMeet step strong state actions) :
    StepsMeet step weak state actions := by
  induction actions generalizing state with
  | nil => trivial
  | cons action rest ih =>
    refine ⟨weaker state action initially meets.1, ?_⟩
    exact ih (preserved state action initially meets.1) meets.2

/-- Conditions that agree under an invariant are met by the same runs. -/
theorem stepsMeet_iff_of_invariant (property : State -> Prop)
    (preserved : ∀ state action, property state -> property (step state action))
    (agree : ∀ state action, property state -> (first state action ↔ second state action))
    (initially : property state) (actions : List Action) :
    StepsMeet step first state actions ↔ StepsMeet step second state actions := by
  constructor
  · exact StepsMeet.mono_of_invariant property
      (fun state action holds _ => preserved state action holds)
      (fun state action holds => (agree state action holds).mp) initially
  · exact StepsMeet.mono_of_invariant property
      (fun state action holds _ => preserved state action holds)
      (fun state action holds => (agree state action holds).mpr) initially

end Foundation
