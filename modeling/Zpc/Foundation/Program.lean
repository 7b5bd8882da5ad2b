import Mathlib.Logic.Basic

/-!
# Programs that call their surroundings

A program calls its surroundings, goes on with the answer, and may loop without a bound.  A
discipline is a small state next to the program: it says which calls are allowed and how an
answer changes it.  `Meets` is the weakest condition under which a program keeps to a
discipline and leaves the state as wanted.  It is kept by every step of the program, so it
holds however the steps of several programs are interleaved.
-/

namespace Foundation

/-- A program with calls, their answers and unbounded loops. -/
inductive Program (Call : Type) (Answer : Call -> Type) : Type -> Type 1
  | finish {α : Type} (result : α) : Program Call Answer α
  | call {α : Type} (request : Call) (next : Answer request -> Program Call Answer α) :
      Program Call Answer α
  | loop {α σ β : Type} (body : σ -> Program Call Answer (σ ⊕ β)) (start : σ)
      (next : β -> Program Call Answer α) : Program Call Answer α

namespace Program

variable {Call : Type} {Answer : Call -> Type} {α β : Type}

/-- One program after the other. -/
def bind : {α : Type} -> Program Call Answer α -> (α -> Program Call Answer β) ->
    Program Call Answer β
  | _, .finish result, continuation => continuation result
  | _, .call request next, continuation =>
      .call request fun answer => (next answer).bind continuation
  | _, .loop body start next, continuation =>
      .loop body start fun result => (next result).bind continuation

instance : Monad (Program Call Answer) where
  pure := .finish
  bind := .bind

/-- A call that gives its answer back. -/
def ask (request : Call) : Program Call Answer (Answer request) := .call request .finish

variable {σ : Type}

/-- A loop that gives its result back. -/
def repeating (body : σ -> Program Call Answer (σ ⊕ β)) (start : σ) : Program Call Answer β :=
  .loop body start .finish

/-- The call that a program waits for. -/
def request? : Program Call Answer α -> Option Call
  | .call request _ => some request
  | _ => none

/-- A loop begins its next round, or ends. -/
def unroll (body : σ -> Program Call Answer (σ ⊕ β)) (start : σ)
    (next : β -> Program Call Answer α) :
    Program Call Answer α :=
  (body start).bind (Sum.elim (fun again => .loop body again next) next)

/-- What a discipline allows and how its state goes on. -/
structure Discipline (Call : Type) (Answer : Call -> Type) (State : Type) where
  Allows : State -> Call -> Prop
  after : State -> (request : Call) -> Answer request -> State

variable {State : Type} (discipline : Discipline Call Answer State)

/-- From a state the program makes allowed calls only, and ends as wanted.  A loop does by an
invariant of its rounds. -/
def Meets : {α : Type} -> Program Call Answer α -> (α -> State -> Prop) -> State -> Prop
  | _, .finish result, wanted, state => wanted result state
  | _, .call request next, wanted, state =>
      discipline.Allows state request ∧
        ∀ answer, Meets (next answer) wanted (discipline.after state request answer)
  | _, @Program.loop _ _ _ σ _ body start next, wanted, state =>
      ∃ invariant : σ -> State -> Prop, invariant start state ∧
        ∀ again state, invariant again state ->
          Meets (body again)
            (fun outcome state =>
              match outcome with
              | .inl again => invariant again state
              | .inr result => Meets (next result) wanted state)
            state

theorem meets_bind (program : Program Call Answer α) (continuation : α -> Program Call Answer β)
    (wanted : β -> State -> Prop) :
    (program.bind continuation).Meets discipline wanted =
      program.Meets discipline fun result => (continuation result).Meets discipline wanted := by
  induction program with
  | finish result => rfl
  | call _ _ ih | loop _ _ _ _ ih => simp only [bind, Meets, ih]

variable {discipline}

variable {program : Program Call Answer α} {wanted : α -> State -> Prop} {state : State}

theorem Meets.mono {weaker : α -> State -> Prop}
    (weaken : ∀ result state, wanted result state -> weaker result state)
    (meets : program.Meets discipline wanted state) : program.Meets discipline weaker state := by
  induction program generalizing state with
  | finish result => exact weaken result state meets
  | call request next ih =>
    obtain ⟨allowed, afterwards⟩ := meets
    exact ⟨allowed, fun answer => ih answer weaken (afterwards answer)⟩
  | loop body start next bodyHypothesis nextHypothesis =>
    obtain ⟨invariant, initially, preserved⟩ := meets
    refine ⟨invariant, initially, fun again state holds => ?_⟩
    refine bodyHypothesis again (fun outcome state reached => ?_) (preserved again state holds)
    cases outcome with
    | inl again => exact reached
    | inr result => exact nextHypothesis result weaken reached

theorem meets_do {continuation : α -> Program Call Answer β} {wanted : β -> State -> Prop} :
    (program >>= continuation).Meets discipline wanted state ↔
      program.Meets discipline
        (fun result => (continuation result).Meets discipline wanted) state := by
  change (program.bind continuation).Meets discipline wanted state ↔ _
  rw [meets_bind]

theorem meets_ask_do {request : Call} {continuation : Answer request -> Program Call Answer α} :
    (ask request >>= continuation).Meets discipline wanted state ↔
      discipline.Allows state request ∧
        ∀ answer,
          (continuation answer).Meets discipline wanted (discipline.after state request answer) :=
  Iff.rfl

theorem meets_repeating {σ : Type} {body : σ -> Program Call Answer (σ ⊕ β)} {start : σ}
    {wanted : β -> State -> Prop} {state : State} (invariant : σ -> State -> Prop)
    (initially : invariant start state)
    (preserved : ∀ again state, invariant again state ->
      (body again).Meets discipline (fun outcome => Sum.elim invariant wanted outcome) state) :
    (repeating body start).Meets discipline wanted state := by
  refine ⟨invariant, initially, fun again state holds => ?_⟩
  refine (preserved again state holds).mono fun outcome state reached => ?_
  cases outcome with
  | inl | inr => exact reached

theorem meets_repeating_of_steady {σ : Type} {body : σ -> Program Call Answer (σ ⊕ β)} {start : σ}
    {wanted : β -> State -> Prop} {state : State}
    (round : ∀ again,
      (body again).Meets discipline
        (fun outcome => Sum.elim (fun _ after => after = state) wanted outcome) state) :
    (repeating body start).Meets discipline wanted state := by
  refine meets_repeating (fun _ after => after = state) rfl ?_
  rintro again _ rfl
  exact round again

theorem Meets.unrolled {body : σ -> Program Call Answer (σ ⊕ β)} {start : σ}
    {next : β -> Program Call Answer α}
    (meets : (Program.loop body start next).Meets discipline wanted state) :
    (unroll body start next).Meets discipline wanted state := by
  obtain ⟨invariant, initially, preserved⟩ := meets
  unfold unroll
  rw [meets_bind]
  refine (preserved start state initially).mono fun outcome state reached => ?_
  cases outcome with
  | inl again => exact ⟨invariant, reached, preserved⟩
  | inr result => exact reached

end Program

end Foundation
