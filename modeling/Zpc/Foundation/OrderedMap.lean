import Mathlib.Order.Lattice
import Zpc.Foundation.FiniteMap

/-!
# Finite maps in the order of their keys

A map that is walked in the order of its keys is a list of entries.  An insertion puts a
new key in front of the first larger one and leaves a map alone that has the key
already; a value is changed in place.
-/

namespace Foundation

variable {κ α : Type*} [LinearOrder κ]

/-- Put an entry in front of the first one with a larger key. -/
def insertInOrder (entry : κ × α) : List (κ × α) -> List (κ × α)
  | [] => [entry]
  | head :: tail =>
      if entry.1 < head.1 then entry :: head :: tail
      else head :: insertInOrder entry tail

/-- Insert a value under a key that has none. -/
def insertNew (map : List (κ × α)) (key : κ) (value : α) : List (κ × α) :=
  if hasKey map key then map else insertInOrder (key, value) map

/-- Change the value of a key in place. -/
def updateKey (map : List (κ × α)) (key : κ) (change : α -> α) : List (κ × α) :=
  map.map fun entry => if entry.1 = key then (entry.1, change entry.2) else entry

theorem insertInOrder_perm (entry : κ × α) (map : List (κ × α)) :
    (insertInOrder entry map).Perm (entry :: map) := by
  induction map with
  | nil => exact .refl _
  | cons head tail ih =>
    unfold insertInOrder
    split
    · exact .refl _
    · exact (ih.cons head).trans (List.Perm.swap entry head tail)

variable {map : List (κ × α)} {key : κ}

theorem hasKey_eq_false_iff : hasKey map key = false ↔ key ∉ map.map (·.1) := by
  unfold hasKey
  rw [Option.isSome_eq_false_iff, Option.isNone_iff_eq_none]
  constructor
  · intro absent mem
    obtain ⟨entry, isEntry, same⟩ := List.mem_map.mp mem
    have differs := List.lookup_eq_none_iff.mp absent entry isEntry
    simp [same] at differs
  · exact lookup_eq_none_of_notMem

variable {entry : κ × α}

theorem mem_insertNew {value : α} :
    entry ∈ insertNew map key value ↔
      entry ∈ map ∨ (hasKey map key = false ∧ entry = (key, value)) := by
  unfold insertNew
  split
  next isKey => simp [isKey]
  next notKey =>
    rw [(insertInOrder_perm _ _).mem_iff]
    simp [notKey, or_comm]

theorem subset_insertNew (map : List (κ × α)) (key : κ) (value : α) :
    map ⊆ insertNew map key value :=
  fun _ mem => mem_insertNew.mpr (.inl mem)

theorem nodup_insertNew (nodup : (map.map (·.1)).Nodup) (key : κ) (value : α) :
    ((insertNew map key value).map (·.1)).Nodup := by
  unfold insertNew
  split
  next => exact nodup
  next notKey =>
    rw [Bool.not_eq_true, hasKey_eq_false_iff] at notKey
    refine (((insertInOrder_perm (key, value) map).map (·.1)).nodup_iff).mpr ?_
    exact List.nodup_cons.mpr ⟨notKey, nodup⟩

@[simp] theorem mem_eraseKey : entry ∈ eraseKey map key ↔ entry ∈ map ∧ entry.1 ≠ key := by
  simp [eraseKey]

@[simp] theorem keys_updateKey (map : List (κ × α)) (key : κ) (change : α -> α) :
    (updateKey map key change).map (·.1) = map.map (·.1) := by
  unfold updateKey
  rw [List.map_map]
  apply List.map_congr_left
  intro entry _
  dsimp only [Function.comp]
  split <;> rfl

theorem mem_updateKey {change : α -> α} :
    entry ∈ updateKey map key change ↔
      (entry ∈ map ∧ entry.1 ≠ key) ∨
        ∃ value, (key, value) ∈ map ∧ entry = (key, change value) := by
  unfold updateKey
  rw [List.mem_map]
  constructor
  · rintro ⟨⟨other, value⟩, mem, changed⟩
    split at changed
    next same =>
      subst same
      exact .inr ⟨value, mem, changed.symm⟩
    next differs =>
      subst changed
      exact .inl ⟨mem, differs⟩
  · rintro (⟨mem, differs⟩ | ⟨value, mem, same⟩)
    · exact ⟨entry, mem, if_neg differs⟩
    · exact ⟨(key, value), mem, by rw [if_pos rfl, same]⟩

end Foundation
