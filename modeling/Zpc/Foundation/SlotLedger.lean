import Mathlib.Data.List.Basic

/-!
# One slot, used by one entry after the other

A slot takes an entry while it is free and is freed by the completion of the entry.  The
ledger keeps the entries and the completions, each in their order, so that the number of an
entry is also that of its completion.
-/

namespace Foundation

/-- The entries a slot took and the completions that freed it, in their order. -/
structure SlotLedger (Entry Completion : Type*) where
  accepted : List Entry
  completions : List Completion

namespace SlotLedger

variable {Entry Completion : Type*}

/-- The ledger of a slot that was not used yet. -/
def empty : SlotLedger Entry Completion := ⟨[], []⟩

/-- The slot takes an entry. -/
def accept (ledger : SlotLedger Entry Completion) (entry : Entry) : SlotLedger Entry Completion :=
  { ledger with accepted := ledger.accepted ++ [entry] }

/-- The slot is freed. -/
def complete (ledger : SlotLedger Entry Completion) (completion : Completion) :
    SlotLedger Entry Completion :=
  { ledger with completions := ledger.completions ++ [completion] }

/-- The number of the entry in the slot, when there is one. -/
def ongoingNumber (ledger : SlotLedger Entry Completion) : Nat := ledger.completions.length

/-- Every entry apart from the one in the slot was completed once, by a completion of its
own. -/
structure Settled
    (own : Nat -> Entry -> Completion -> Prop)
    (ongoing : Bool)
    (ledger : SlotLedger Entry Completion) : Prop where
  count : ledger.completions.length + ongoing.toNat = ledger.accepted.length
  own : ∀ number entry completion, ledger.accepted[number]? = some entry ->
    ledger.completions[number]? = some completion -> own number entry completion

variable
  {own : Nat -> Entry -> Completion -> Prop}
  {ledger : SlotLedger Entry Completion}

theorem settled_empty : Settled own false (empty : SlotLedger Entry Completion) :=
  ⟨rfl, fun number entry completion isAccepted => by simp [empty] at isAccepted⟩

theorem Settled.accept (settled : Settled own false ledger) (entry : Entry) :
    Settled own true (ledger.accept entry) := by
  have count := settled.count
  rw [Bool.toNat_false, Nat.add_zero] at count
  refine ⟨by simp [SlotLedger.accept, count], ?_⟩
  intro number other completion isAccepted isCompleted
  have inRange : number < ledger.completions.length := (List.getElem?_eq_some_iff.mp isCompleted).1
  refine settled.own number other completion ?_ isCompleted
  rw [← isAccepted]
  exact (List.getElem?_append_left (by omega)).symm

theorem Settled.accepted_ongoing (settled : Settled own false ledger) (entry : Entry) :
    (ledger.accept entry).accepted[(ledger.accept entry).ongoingNumber]? = some entry := by
  have count := settled.count
  rw [Bool.toNat_false, Nat.add_zero] at count
  simp [SlotLedger.accept, ongoingNumber, count]

theorem Settled.complete_iff (settled : Settled own true ledger) {entry : Entry}
    (inSlot : ledger.accepted[ledger.ongoingNumber]? = some entry) (completion : Completion) :
    Settled own false (ledger.complete completion) ↔ own ledger.ongoingNumber entry completion := by
  have count := settled.count
  rw [Bool.toNat_true] at count
  constructor
  · intro after
    exact after.own ledger.ongoingNumber entry completion inSlot
      (by simp [complete, ongoingNumber])
  · intro isOwn
    refine ⟨by simp [complete, count], ?_⟩
    intro number other done isAccepted isCompleted
    change (ledger.completions ++ [completion])[number]? = some done at isCompleted
    rcases Nat.lt_trichotomy number ledger.completions.length with earlier | same | later
    · rw [List.getElem?_append_left earlier] at isCompleted
      exact settled.own number other done isAccepted isCompleted
    · subst same
      rw [List.getElem?_concat_length] at isCompleted
      cases isCompleted
      have sameEntry : some entry = some other := inSlot.symm.trans isAccepted
      cases sameEntry
      exact isOwn
    · rw [List.getElem?_eq_none (by simp; omega)] at isCompleted
      cases isCompleted

end SlotLedger

end Foundation
