import Mathlib.Algebra.GroupWithZero.Nat
import Mathlib.Data.List.Nodup

/-!
# Finite maps as lists of entries

A finite map is a list of keys with their values.  A key is looked up from the
front, and an assignment takes the older entries of its key out.
-/

namespace Foundation

variable {κ α : Type*} [DecidableEq κ]

/-- The map without the entries of a key. -/
def eraseKey (map : List (κ × α)) (key : κ) : List (κ × α) := map.filter fun entry => entry.1 ≠ key

/-- The map with a new value for a key. -/
def assign (map : List (κ × α)) (key : κ) (value : α) : List (κ × α) :=
  (key, value) :: eraseKey map key

/-- Whether a key has a value. -/
def hasKey (map : List (κ × α)) (key : κ) : Bool := (map.lookup key).isSome

@[simp] theorem lookup_nil_map (key : κ) : ([] : List (κ × α)).lookup key = none := rfl

theorem lookup_cons_map (entry : κ × α) (map : List (κ × α)) (key : κ) :
    (entry :: map).lookup key = if key = entry.1 then some entry.2 else map.lookup key := by
  rw [List.lookup_cons]
  by_cases same : key = entry.1
  · simp [same]
  · rw [beq_eq_false_iff_ne.mpr same, if_neg same]

@[simp] theorem lookup_eraseKey (map : List (κ × α)) (key other : κ) :
    (eraseKey map key).lookup other = if other = key then none else map.lookup other := by
  induction map with
  | nil => simp [eraseKey]
  | cons entry rest ih =>
    rw [eraseKey, List.filter_cons]
    by_cases isKey : entry.1 = key
    · rw [if_neg (by simp [isKey])]
      refine ih.trans ?_
      by_cases same : other = key
      · simp [same]
      · simp [same, lookup_cons_map, isKey]
    · rw [if_pos (by simp [isKey]), lookup_cons_map, lookup_cons_map]
      by_cases isOther : other = entry.1
      · simp [isOther, isKey]
      · simp only [isOther, if_false]
        exact ih

@[simp] theorem lookup_assign (map : List (κ × α)) (key other : κ) (value : α) :
    (assign map key value).lookup other = if other = key then some value else map.lookup other := by
  rw [assign, lookup_cons_map]
  by_cases same : other = key <;> simp [same]

@[simp] theorem hasKey_eraseKey (map : List (κ × α)) (key other : κ) :
    hasKey (eraseKey map key) other = (decide (other ≠ key) && hasKey map other) := by
  unfold hasKey
  by_cases same : other = key <;> simp [same]

@[simp] theorem hasKey_assign (map : List (κ × α)) (key other : κ) (value : α) :
    hasKey (assign map key value) other = (decide (other = key) || hasKey map other) := by
  unfold hasKey
  by_cases same : other = key <;> simp [same]

variable {map : List (κ × α)}

theorem nodup_keys_eraseKey (nodup : (map.map (·.1)).Nodup) (key : κ) :
    ((eraseKey map key).map (·.1)).Nodup :=
  nodup.sublist (List.filter_sublist.map _)

theorem nodup_keys_assign (nodup : (map.map (·.1)).Nodup) (key : κ) (value : α) :
    ((assign map key value).map (·.1)).Nodup := by
  rw [assign, List.map_cons, List.nodup_cons]
  refine ⟨?_, nodup_keys_eraseKey nodup key⟩
  simp [eraseKey]

variable {key : κ} {value : α}

theorem mem_of_lookup_eq_some (found : map.lookup key = some value) : (key, value) ∈ map := by
  induction map with
  | nil => cases found
  | cons entry rest ih =>
    rw [lookup_cons_map] at found
    split at found
    · rename_i same
      cases found
      simp [same]
    · exact List.mem_cons_of_mem _ (ih found)

theorem lookup_eq_none_of_notMem (absent : key ∉ map.map (·.1)) : map.lookup key = none := by
  refine List.lookup_eq_none_iff.mpr fun entry mem => ?_
  have differs : key ≠ entry.1 := fun same => absent (same ▸ List.mem_map_of_mem mem)
  simpa using differs

theorem lookup_eq_some_of_mem (nodup : (map.map (·.1)).Nodup) (mem : (key, value) ∈ map) :
    map.lookup key = some value := by
  induction map with
  | nil => cases mem
  | cons entry rest ih =>
    rw [List.map_cons, List.nodup_cons] at nodup
    rw [lookup_cons_map]
    rcases List.mem_cons.mp mem with isFirst | later
    · rw [← isFirst]
      exact if_pos rfl
    · have differs : key ≠ entry.1 := by
        intro same
        exact nodup.1 (same ▸ List.mem_map_of_mem later)
      rw [if_neg differs]
      exact ih nodup.2 later

theorem sum_eraseKey_add_le (weight : κ × α -> Nat) (mem : (key, value) ∈ map) :
    ((eraseKey map key).map weight).sum + weight (key, value) ≤ (map.map weight).sum := by
  have erased : ∀ map : List (κ × α),
      ((eraseKey map key).map weight).sum ≤ (map.map weight).sum := by
    intro map
    induction map with
    | nil => exact Nat.le_refl 0
    | cons entry rest ih =>
      rw [eraseKey] at ih ⊢
      rw [List.filter_cons, List.map_cons, List.sum_cons]
      split
      · rw [List.map_cons, List.sum_cons]
        omega
      · omega
  induction map with
  | nil => cases mem
  | cons entry rest ih =>
    rw [eraseKey, List.filter_cons, List.map_cons, List.sum_cons]
    rcases List.mem_cons.mp mem with isFirst | later
    · subst isFirst
      rw [if_neg (by simp)]
      have bound := erased rest
      rw [eraseKey] at bound
      omega
    · have bound := ih later
      rw [eraseKey] at bound
      split
      · rw [List.map_cons, List.sum_cons]
        omega
      · omega

end Foundation
