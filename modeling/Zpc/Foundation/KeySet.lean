import Mathlib.Data.List.Perm.Subperm
import Mathlib.Order.Lattice

/-!
# Sets in the order of a key

A set whose elements are compared by a key is the list of its elements in the order of the
keys, no two of which are the same.  An insertion leaves a set alone that has an element of
the same key.  Two such sets are equal when they have the same elements.
-/

namespace Foundation

variable {α κ : Type*} [LinearOrder κ] {key : α -> κ}

/-- The elements in the order of their keys. -/
structure KeySet (key : α -> κ) where
  elements : List α
  ordered : elements.Pairwise fun first second => key first < key second

namespace KeySet

instance : Membership α (KeySet key) := ⟨fun set element => element ∈ set.elements⟩

instance [DecidableEq α] (element : α) (set : KeySet key) : Decidable (element ∈ set) :=
  inferInstanceAs (Decidable (element ∈ set.elements))

variable {element : α} {set : KeySet key}

theorem mem_iff : element ∈ set ↔ element ∈ set.elements := Iff.rfl

variable {first second : KeySet key}

theorem eq_of_elements_eq (same : first.elements = second.elements) : first = second := by
  cases first
  cases second
  cases same
  rfl

theorem nodup (set : KeySet key) : set.elements.Nodup := by
  refine set.ordered.imp ?_
  intro first second less same
  rw [same] at less
  exact lt_irrefl _ less

theorem eq_of_mem_iff (same : ∀ element, element ∈ first ↔ element ∈ second) : first = second := by
  apply eq_of_elements_eq
  have permuted := (List.perm_ext_iff_of_nodup first.nodup second.nodup).mpr same
  refine permuted.eq_of_pairwise ?_ first.ordered second.ordered
  intro element other _ _ less greater
  exact absurd less (lt_asymm greater)

/-- The set without elements. -/
def empty : KeySet key := ⟨[], List.Pairwise.nil⟩

theorem not_mem_empty (element : α) : element ∉ (empty : KeySet key) := List.not_mem_nil

/-- The number of elements. -/
def size (set : KeySet key) : Nat := set.elements.length

/-- An element of the set has this one's key. -/
def contains (set : KeySet key) (element : α) : Bool :=
  set.elements.any fun other => decide (key other = key element)

/-- Put an element where its key belongs, unless an element has the key. -/
def insertByKey (key : α -> κ) (element : α) : List α -> List α
  | [] => [element]
  | head :: tail =>
      if key element < key head then element :: head :: tail
      else if key head < key element then head :: insertByKey key element tail
      else head :: tail

variable {list : List α}

theorem mem_of_mem_insertByKey {other : α} (mem : other ∈ insertByKey key element list) :
    other = element ∨ other ∈ list := by
  induction list with
  | nil => exact .inl (List.mem_singleton.mp mem)
  | cons head tail ih =>
    unfold insertByKey at mem
    split at mem
    next => exact List.mem_cons.mp mem
    next =>
      split at mem
      next =>
        rcases List.mem_cons.mp mem with isHead | later
        · exact .inr (isHead ▸ List.mem_cons_self)
        · exact (ih later).imp_right (List.mem_cons_of_mem head)
      next => exact .inr mem

theorem ordered_insertByKey (ordered : list.Pairwise fun first second => key first < key second) :
    (insertByKey key element list).Pairwise fun first second => key first < key second := by
  induction list with
  | nil => exact List.pairwise_singleton _ _
  | cons head tail ih =>
    obtain ⟨headLess, tailOrdered⟩ := List.pairwise_cons.mp ordered
    unfold insertByKey
    split
    next less =>
      refine List.pairwise_cons.mpr ⟨?_, ordered⟩
      intro other mem
      rcases List.mem_cons.mp mem with isHead | later
      · rw [isHead]
        exact less
      · exact lt_trans less (headLess other later)
    next =>
      split
      next greater =>
        refine List.pairwise_cons.mpr ⟨?_, ih tailOrdered⟩
        intro other mem
        rcases mem_of_mem_insertByKey mem with isElement | later
        · rw [isElement]
          exact greater
        · exact headLess other later
      next => exact ordered

/-- Insert an element. -/
def insert (set : KeySet key) (element : α) : KeySet key :=
  ⟨insertByKey key element set.elements, ordered_insertByKey set.ordered⟩

/-- Remove the element of this one's key. -/
def erase (set : KeySet key) (element : α) : KeySet key :=
  ⟨set.elements.filter fun other => decide (key other ≠ key element), set.ordered.filter _⟩

/-- The elements that fit. -/
def filter (set : KeySet key) (fits : α -> Bool) : KeySet key :=
  ⟨set.elements.filter fits, set.ordered.filter fits⟩

theorem mem_filter {fits : α -> Bool} :
    element ∈ set.filter fits ↔ element ∈ set ∧ fits element = true :=
  List.mem_filter

section InjectiveKey

variable (injective : Function.Injective key)

include injective

variable {element other : α}

theorem mem_insertByKey {list : List α} :
    other ∈ insertByKey key element list ↔ other = element ∨ other ∈ list := by
  refine ⟨mem_of_mem_insertByKey, fun mem => ?_⟩
  induction list with
  | nil => exact List.mem_singleton.mpr (mem.resolve_right List.not_mem_nil)
  | cons head tail ih =>
    unfold insertByKey
    split
    next => exact List.mem_cons.mpr mem
    next notLess =>
      split
      next =>
        rw [List.mem_cons] at mem ⊢
        rcases mem with isElement | isHead | later
        · exact .inr (ih (.inl isElement))
        · exact .inl isHead
        · exact .inr (ih (.inr later))
      next notGreater =>
        rcases mem with isElement | isOld
        · rw [isElement, injective (le_antisymm (not_lt.mp notGreater) (not_lt.mp notLess))]
          exact List.mem_cons_self
        · exact isOld

variable {set : KeySet key}

theorem mem_insert : other ∈ set.insert element ↔ other = element ∨ other ∈ set :=
  mem_insertByKey injective

theorem mem_erase : other ∈ set.erase element ↔ other ∈ set ∧ other ≠ element := by
  unfold erase
  rw [mem_iff, List.mem_filter, decide_eq_true_iff]
  exact and_congr_right fun _ => not_congr injective.eq_iff

theorem contains_iff : set.contains element = true ↔ element ∈ set := by
  unfold contains
  rw [List.any_eq_true]
  constructor
  · rintro ⟨other, mem, same⟩
    rw [injective (of_decide_eq_true same)] at mem
    exact mem
  · intro mem
    exact ⟨element, mem, decide_eq_true rfl⟩

theorem insert_of_mem (mem : element ∈ set) : set.insert element = set := by
  apply eq_of_mem_iff
  intro other
  rw [mem_insert injective]
  constructor
  · rintro (isElement | isOld)
    · rwa [isElement]
    · exact isOld
  · exact .inr

theorem insert_perm_of_not_mem (notMember : element ∉ set) :
    (set.insert element).elements.Perm (element :: set.elements) := by
  refine (List.perm_ext_iff_of_nodup (set.insert element).nodup
    (List.nodup_cons.mpr ⟨notMember, set.nodup⟩)).mpr ?_
  intro other
  rw [List.mem_cons]
  exact mem_insert injective

theorem perm_erase_of_mem (mem : element ∈ set) :
    set.elements.Perm (element :: (set.erase element).elements) := by
  have notMember : element ∉ set.erase element := fun erased =>
    ((mem_erase injective).mp erased).2 rfl
  refine (List.perm_ext_iff_of_nodup set.nodup
    (List.nodup_cons.mpr ⟨notMember, (set.erase element).nodup⟩)).mpr ?_
  intro other
  rw [List.mem_cons]
  by_cases isElement : other = element
  · rw [isElement]
    exact iff_of_true mem (.inl rfl)
  · exact ⟨fun old => .inr ((mem_erase injective).mpr ⟨old, isElement⟩),
      fun erased => ((mem_erase injective).mp (erased.resolve_left isElement)).1⟩

theorem size_erase_of_mem (mem : element ∈ set) : (set.erase element).size + 1 = set.size :=
  (perm_erase_of_mem injective mem).length_eq.symm

end InjectiveKey

theorem size_le_length (subset : ∀ element ∈ set, element ∈ list) : set.size ≤ list.length :=
  (set.nodup.subperm subset).length_le

theorem mem_of_size_le {part whole : KeySet key} (subset : ∀ element ∈ part, element ∈ whole)
    (asMany : whole.size ≤ part.size) : ∀ element ∈ whole, element ∈ part := by
  intro element mem
  have permuted := (part.nodup.subperm subset).perm_of_length_le asMany
  exact permuted.mem_iff.mpr mem

end KeySet

end Foundation
