import Mathlib.Logic.Basic

/-!
# Computations that read

A computation gives a result or an error and leaves a state, after an error too.  Two
computations over different states agree if they give the same from related states.
-/

namespace Foundation

variable {ε σ τ α β : Type}

/-- A result or an error, and the state that is left. -/
def Reading (ε σ α : Type) := σ -> Except ε α × σ

namespace Reading

def bind (first : Reading ε σ α) (later : α -> Reading ε σ β) : Reading ε σ β := fun state =>
  match first state with
  | (.ok value, left) => later value left
  | (.error error, left) => (.error error, left)

instance : Monad (Reading ε σ) where
  pure value := fun state => (.ok value, state)
  bind := bind

def fail (error : ε) : Reading ε σ α := fun state => (.error error, state)

end Reading

/-- From related states two computations give the same and leave related states. -/
def Agree (related : σ -> τ -> Prop) (first : Reading ε σ α) (second : Reading ε τ α) : Prop :=
  ∀ left right, related left right ->
    (first left).1 = (second right).1 ∧ related (first left).2 (second right).2

variable {related : σ -> τ -> Prop}

theorem agree_pure (value : α) :
    Agree related (pure value : Reading ε σ α) (pure value : Reading ε τ α) :=
  fun _ _ isRelated => ⟨rfl, isRelated⟩

theorem agree_fail (error : ε) :
    Agree related (Reading.fail error : Reading ε σ α) (Reading.fail error : Reading ε τ α) :=
  fun _ _ isRelated => ⟨rfl, isRelated⟩

theorem Agree.bind {first : Reading ε σ α} {second : Reading ε τ α} {later : α -> Reading ε σ β}
    {later' : α -> Reading ε τ β} (agree : Agree related first second)
    (agreeLater : ∀ value, Agree related (later value) (later' value)) :
    Agree related (first >>= later) (second >>= later') := by
  intro left right isRelated
  have both := agree left right isRelated
  show (Reading.bind first later left).1 = (Reading.bind second later' right).1 ∧
    related (Reading.bind first later left).2 (Reading.bind second later' right).2
  unfold Reading.bind
  revert both
  rcases first left with ⟨result, left⟩
  rcases second right with ⟨result', right⟩
  rintro ⟨rfl, stillRelated⟩
  cases result with
  | error error => exact ⟨rfl, stillRelated⟩
  | ok value => exact agreeLater value left right stillRelated

end Foundation
