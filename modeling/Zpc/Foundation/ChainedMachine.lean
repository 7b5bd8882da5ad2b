import Mathlib.Data.Option.Basic

/-!
# Machines whose states lead on by themselves

Entering a state of such a machine changes a context and either comes to rest or enters a
further state at once.  A rank that goes down along these moves bounds their number, so
entering a state always comes to rest.
-/

namespace Foundation

/-- What entering a state does to a context, and the state that is entered next, if any. -/
structure ChainedMachine (State Context : Type*) where
  advance : State -> Context -> Context × Option State
  rank : State -> Nat
  descends : ∀ state ctx next, (advance state ctx).2 = some next -> rank next < rank state

namespace ChainedMachine

variable {State Context : Type*} (machine : ChainedMachine State Context)

/-- Enter a state and the states it leads to, within a number of moves. -/
def enterWithin (machine : ChainedMachine State Context) : Nat -> State -> Context -> Option Context
  | 0, _, _ => none
  | moves + 1, state, ctx =>
      match machine.advance state ctx with
      | (rested, none) => some rested
      | (passed, some next) => machine.enterWithin moves next passed

variable {moves : Nat} {state : State}

theorem enterWithin_isSome (enough : machine.rank state < moves) (ctx : Context) :
    (machine.enterWithin moves state ctx).isSome := by
  induction moves generalizing state ctx with
  | zero => exact absurd enough (Nat.not_lt_zero _)
  | succ moves ih =>
    rw [enterWithin]
    split
    · rfl
    · rename_i passed next advances
      have lower := machine.descends state ctx next (by rw [advances])
      exact ih (Nat.lt_of_lt_of_le lower (Nat.le_of_lt_succ enough)) passed

/-- Enter a state and the states it leads to, until one comes to rest. -/
def enter (state : State) (ctx : Context) : Context :=
  (machine.enterWithin (machine.rank state + 1) state ctx).get
    (machine.enterWithin_isSome (Nat.lt_succ_self _) ctx)

theorem enterWithin_eq_enter (enough : machine.rank state < moves) (ctx : Context) :
    machine.enterWithin moves state ctx = some (machine.enter state ctx) := by
  have agree : ∀ (first second : Nat) (state : State) (ctx : Context),
      machine.rank state < first -> machine.rank state < second ->
      machine.enterWithin first state ctx = machine.enterWithin second state ctx := by
    intro first
    induction first with
    | zero => intro second state ctx low; exact absurd low (Nat.not_lt_zero _)
    | succ first ih =>
      intro second state ctx lowFirst lowSecond
      cases second with
      | zero => exact absurd lowSecond (Nat.not_lt_zero _)
      | succ second =>
        rw [enterWithin, enterWithin]
        split
        · rfl
        · rename_i passed next advances
          have lower := machine.descends state ctx next (by rw [advances])
          exact ih second next passed (by omega) (by omega)
  rw [enter, Option.some_get]
  exact agree moves _ state ctx enough (Nat.lt_succ_self _)

theorem enter_of_rests {state : State} {ctx : Context}
    (rests : (machine.advance state ctx).2 = none) :
    machine.enter state ctx = (machine.advance state ctx).1 := by
  apply Option.some_injective
  rw [← machine.enterWithin_eq_enter (Nat.lt_succ_self _), enterWithin]
  split <;> simp_all

theorem enter_of_leads {state next : State} {ctx : Context}
    (leads : (machine.advance state ctx).2 = some next) :
    machine.enter state ctx = machine.enter next (machine.advance state ctx).1 := by
  have lower := machine.descends state ctx next leads
  apply Option.some_injective
  rw [← machine.enterWithin_eq_enter (Nat.lt_succ_self _), enterWithin]
  split
  · rename_i advances
    rw [advances] at leads
    cases leads
  · rename_i advances
    rw [advances] at leads ⊢
    cases leads
    exact machine.enterWithin_eq_enter lower _

end ChainedMachine

end Foundation
