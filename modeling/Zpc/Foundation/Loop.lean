import Mathlib.Logic.Function.Iterate

/-!
# Loops that may go on for ever

The body of a loop gives the next state, or nothing where the loop is left.  Whether a loop
is left is asked without a bound on the rounds; a measure that goes down with every round
gives such a bound, and an invariant under which there is always another round excludes it.
-/

namespace Foundation

variable {State : Type*} {step : State -> Option State}

/-- The state in which the loop is left, when the rounds do for it. -/
def leaveWithin (step : State -> Option State) : Nat -> State -> Option State
  | 0, _ => none
  | rounds + 1, state =>
      match step state with
      | none => some state
      | some next => leaveWithin step rounds next

/-- The loop is left, and in this state. -/
def Leaves (step : State -> Option State) (start final : State) : Prop :=
  ∃ rounds, leaveWithin step rounds start = some final

variable {state : State}

theorem leaveWithin_of_stops (stops : step state = none) (rounds : Nat) :
    leaveWithin step (rounds + 1) state = some state := by
  simp only [leaveWithin, stops]

variable {next : State}

theorem leaveWithin_of_goesOn (goesOn : step state = some next) (rounds : Nat) :
    leaveWithin step (rounds + 1) state = leaveWithin step rounds next := by
  simp only [leaveWithin, goesOn]

variable {rounds : Nat} {final : State}

theorem leaveWithin_mono {more : Nat} (atMost : rounds ≤ more)
    (left : leaveWithin step rounds state = some final) :
    leaveWithin step more state = some final := by
  induction rounds generalizing more state with
  | zero => cases left
  | succ rounds ih =>
    obtain ⟨more, rfl⟩ : ∃ fewer, more = fewer + 1 := ⟨more - 1, by omega⟩
    cases body : step state with
    | none =>
      rw [leaveWithin_of_stops body] at left ⊢
      exact left
    | some next =>
      rw [leaveWithin_of_goesOn body] at left ⊢
      exact ih (by omega) left

variable {start : State}

theorem Leaves.unique {first second : State} (leavesFirst : Leaves step start first)
    (leavesSecond : Leaves step start second) : first = second := by
  obtain ⟨rounds, left⟩ := leavesFirst
  obtain ⟨others, leftToo⟩ := leavesSecond
  have same := leaveWithin_mono (Nat.le_max_left rounds others) left
  rw [leaveWithin_mono (Nat.le_max_right rounds others) leftToo] at same
  exact (Option.some.inj same).symm

theorem leaves_iff_of_stops (stops : step state = none) (final : State) :
    Leaves step state final ↔ final = state := by
  have leaves : Leaves step state state := ⟨1, leaveWithin_of_stops stops 0⟩
  constructor
  · intro leavesFinal
    exact leavesFinal.unique leaves
  · rintro rfl
    exact leaves

theorem leaves_iff_of_goesOn (goesOn : step state = some next) (final : State) :
    Leaves step state final ↔ Leaves step next final := by
  constructor
  · rintro ⟨rounds, left⟩
    cases rounds with
    | zero => cases left
    | succ rounds => exact ⟨rounds, (leaveWithin_of_goesOn goesOn rounds).symm.trans left⟩
  · rintro ⟨rounds, left⟩
    exact ⟨rounds + 1, (leaveWithin_of_goesOn goesOn rounds).trans left⟩

/-- The states in which a round begins, when the loop is left after these rounds. -/
def roundsWithin (step : State -> Option State) : Nat -> State -> Option (List State)
  | 0, _ => none
  | rounds + 1, state =>
      match step state with
      | none => some []
      | some next => (roundsWithin step rounds next).map (state :: ·)

theorem exists_leaves_of_roundsWithin {states : List State}
    (left : roundsWithin step rounds start = some states) : ∃ final, Leaves step start final := by
  induction rounds generalizing start states with
  | zero => cases left
  | succ rounds ih =>
    cases body : step start with
    | none => exact ⟨start, (leaves_iff_of_stops body start).mpr rfl⟩
    | some next =>
      simp only [roundsWithin, body, Option.map_eq_some_iff] at left
      obtain ⟨later, left, -⟩ := left
      obtain ⟨final, leaves⟩ := ih left
      exact ⟨final, (leaves_iff_of_goesOn body final).mpr leaves⟩

theorem not_leaves_of_goesOn (invariant : State -> Prop)
    (goesOn : ∀ state, invariant state -> ∃ next, step state = some next ∧ invariant next)
    (initially : invariant start) (final : State) : ¬ Leaves step start final := by
  rintro ⟨rounds, left⟩
  induction rounds generalizing start with
  | zero => cases left
  | succ rounds ih =>
    obtain ⟨next, body, holds⟩ := goesOn start initially
    rw [leaveWithin_of_goesOn body] at left
    exact ih holds left

theorem exists_leaveWithin_of_measure (measure : State -> Nat)
    (decreases : ∀ state next, step state = some next -> measure next < measure state)
    (bounded : measure start < rounds) : ∃ final, leaveWithin step rounds start = some final := by
  induction rounds generalizing start with
  | zero => cases bounded
  | succ rounds ih =>
    cases body : step start with
    | none => exact ⟨start, leaveWithin_of_stops body rounds⟩
    | some next =>
      rw [leaveWithin_of_goesOn body]
      have smaller := decreases start next body
      exact ih (by omega)

/-- A loop whose step gives nothing after some rounds is left. -/
theorem exists_leaves_of_iterate {advance : State -> State}
    (advances : ∀ state next, step state = some next -> next = advance state) (distance : Nat)
    (stops : step (advance^[distance] start) = none) : ∃ final, Leaves step start final := by
  induction distance generalizing start with
  | zero => exact ⟨start, (leaves_iff_of_stops stops start).mpr rfl⟩
  | succ distance ih =>
    cases body : step start with
    | none => exact ⟨start, (leaves_iff_of_stops body start).mpr rfl⟩
    | some next =>
      rw [Function.iterate_succ_apply, ← advances start next body] at stops
      obtain ⟨final, leaves⟩ := ih stops
      exact ⟨final, (leaves_iff_of_goesOn body final).mpr leaves⟩

theorem leaveWithin_eq_some_iff_leaves (measure : State -> Nat)
    (decreases : ∀ state next, step state = some next -> measure next < measure state)
    (bounded : measure start < rounds) (final : State) :
    leaveWithin step rounds start = some final ↔ Leaves step start final := by
  constructor
  · intro left
    exact ⟨rounds, left⟩
  · intro leaves
    obtain ⟨other, left⟩ := exists_leaveWithin_of_measure measure decreases bounded
    rw [left, leaves.unique ⟨rounds, left⟩]

theorem Leaves.invariant (invariant : State -> Prop)
    (preserved : ∀ state next, invariant state -> step state = some next -> invariant next)
    (initially : invariant start) (leaves : Leaves step start final) :
    invariant final ∧ step final = none := by
  obtain ⟨rounds, left⟩ := leaves
  induction rounds generalizing start with
  | zero => cases left
  | succ rounds ih =>
    cases body : step start with
    | none =>
      rw [leaveWithin_of_stops body] at left
      cases left
      exact ⟨initially, body⟩
    | some next =>
      rw [leaveWithin_of_goesOn body] at left
      exact ih (preserved start next initially body) left

end Foundation
