import Mathlib.Logic.Relation

/-!
# Runs of a relation that come to an end

A system whose surroundings choose among several moves is a relation.  Every run comes to
an end in good states when there is no infinite run and a state without a move is good.
A stage that goes down with every move is enough for that.
-/

namespace Foundation

open Relation

variable {State : Type*} {move : State -> State -> Prop}

/-- Every run is finite, and ends in a good state. -/
structure EndsIn
    (move : State -> State -> Prop)
    (good : State -> Prop)
    (start : State) : Prop where
  finite : Acc (fun next state => move state next) start
  final : ∀ state, ReflTransGen move start state -> (∀ next, ¬ move state next) -> good state

variable {start : State}

theorem exists_final_of_acc (finite : Acc (fun next state => move state next) start) :
    ∃ state, ReflTransGen move start state ∧ ∀ next, ¬ move state next := by
  induction finite with
  | intro state _ ih =>
    by_cases isFinal : ∀ next, ¬ move state next
    · exact ⟨state, .refl, isFinal⟩
    · obtain ⟨next, isMove⟩ := Classical.not_forall_not.mp isFinal
      obtain ⟨final, reaches, noMove⟩ := ih next isMove
      exact ⟨final, .head isMove reaches, noMove⟩

theorem EndsIn.exists_good {good : State -> Prop} (ends : EndsIn move good start) :
    ∃ state, ReflTransGen move start state ∧ good state := by
  obtain ⟨state, reaches, noMove⟩ := exists_final_of_acc ends.finite
  exact ⟨state, reaches, ends.final state reaches noMove⟩

theorem invariant_of_reaches (property : State -> Prop)
    (preserved : ∀ state next, property state -> move state next -> property next)
    (initially : property start) {state : State} (reaches : ReflTransGen move start state) :
    property state := by
  induction reaches with
  | refl => exact initially
  | tail _ isMove ih => exact preserved _ _ ih isMove

section Stages

variable
  (stage : Nat -> State -> Prop)
  (advances : ∀ remaining state next, stage remaining state -> move state next ->
    ∃ later, later < remaining ∧ stage later next)

include advances

variable {remaining : Nat}

theorem acc_of_stage {state : State} (isStage : stage remaining state) :
    Acc (fun next state => move state next) state := by
  induction remaining using Nat.strongRecOn generalizing state with
  | ind remaining ih =>
    constructor
    intro next isMove
    obtain ⟨later, isLater, laterStage⟩ := advances remaining state next isStage isMove
    exact ih later isLater laterStage

theorem endsIn_of_stage {good : State -> Prop}
    (final : ∀ remaining state, stage remaining state -> (∀ next, ¬ move state next) -> good state)
    {start : State} (isStage : stage remaining start) : EndsIn move good start where
  finite := acc_of_stage stage advances isStage
  final state reaches noMove := by
    have staged : ∃ remaining, stage remaining state := by
      apply invariant_of_reaches (fun state => ∃ remaining, stage remaining state) _
        ⟨remaining, isStage⟩ reaches
      rintro state next ⟨remaining, isStage⟩ isMove
      obtain ⟨later, -, laterStage⟩ := advances remaining state next isStage isMove
      exact ⟨later, laterStage⟩
    obtain ⟨left, isLeft⟩ := staged
    exact final left state isLeft noMove

end Stages

end Foundation
