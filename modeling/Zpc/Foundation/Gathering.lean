import Zpc.Foundation.ParentForest

/-!
# Gathering the records below a root

A list of keys that starts with a root and is extended, one record at a time, by records whose
parent is in the list already.  Parents come before their children, every beginning of such a
list is one itself, and a list that cannot be extended holds everything below the root.
-/

namespace Foundation

namespace ParentForest

variable {Item Key : Type*} {key : Item -> Key} {parent : Item -> Option Key}

variable (key parent) in
/-- A list of keys that was gathered from a root on. -/
inductive Gathers (items : List Item) (root : Key) : List Key -> Prop
  | root : Gathers items root [root]
  | add
      {keys : List Key}
      {item : Item}
      {above : Key}
      (gathers : Gathers items root keys)
      (mem : item ∈ items)
      (isChild : parent item = some above)
      (isGathered : above ∈ keys)
      (isNew : key item ∉ keys) :
      Gathers items root (keys ++ [key item])

variable (key parent) in
/-- A list of keys that cannot be extended. -/
def ClosedUnderChildren (items : List Item) (keys : List Key) : Prop :=
  ∀ item ∈ items, ∀ above, parent item = some above -> above ∈ keys -> key item ∈ keys

variable {items : List Item} {root : Key} {keys : List Key}

theorem Gathers.nodup (gathers : Gathers key parent items root keys) : keys.Nodup := by
  induction gathers with
  | root => exact List.nodup_singleton root
  | add _ _ _ _ isNew ih =>
    exact List.nodup_append.mpr ⟨ih, List.nodup_singleton _, by
      rintro gathered isGathered _ (_ | _)
      · exact fun same => isNew (same ▸ isGathered)
      · contradiction⟩

theorem Gathers.root_mem (gathers : Gathers key parent items root keys) : root ∈ keys := by
  induction gathers with
  | root => exact List.mem_singleton_self root
  | add _ _ _ _ _ ih => exact List.mem_append_left _ ih

variable {gathered : Key}

section

variable (gathers : Gathers key parent items root keys)

include gathers

theorem Gathers.isBelow (isGathered : gathered ∈ keys) : Below key parent items root gathered := by
  induction gathers generalizing gathered with
  | root => exact List.mem_singleton.mp isGathered ▸ Below.root
  | add _ mem isChild aboveGathered _ ih =>
    rcases List.mem_append.mp isGathered with earlier | last
    · exact ih earlier
    · exact List.mem_singleton.mp last ▸ (ih aboveGathered).child mem isChild

theorem Gathers.eq_root_or_key
    (isGathered : gathered ∈ keys) : gathered = root ∨ gathered ∈ items.map key := by
  induction gathers with
  | root => exact .inl (List.mem_singleton.mp isGathered)
  | add _ mem _ _ _ ih =>
    rcases List.mem_append.mp isGathered with earlier | last
    · exact ih earlier
    · exact .inr (List.mem_singleton.mp last ▸ List.mem_map_of_mem mem)

theorem Gathers.length_le (rootKey : root ∈ items.map key) : keys.length ≤ items.length := by
  have subset : keys ⊆ items.map key := fun gathered isGathered =>
    (gathers.eq_root_or_key isGathered).elim (fun isRoot => isRoot ▸ rootKey) id
  simpa using (List.subperm_of_subset gathers.nodup subset).length_le

theorem Gathers.complete (isClosed : ClosedUnderChildren key parent items keys) {below : Key}
    (isBelow : Below key parent items root below) : below ∈ keys := by
  induction isBelow with
  | refl => exact gathers.root_mem
  | tail _ isLinked ih =>
    obtain ⟨item, mem, isChild, rfl⟩ := isLinked
    exact isClosed item mem _ isChild ih

end

theorem Gathers.of_append {first second : List Key}
    (gathers : Gathers key parent items root (first ++ second)) (nonempty : first ≠ []) :
    Gathers key parent items root first := by
  generalize whole : first ++ second = keys at gathers
  induction gathers generalizing second with
  | root =>
    rcases List.append_eq_singleton_iff.mp whole with ⟨isEmpty, -⟩ | ⟨isRoot, -⟩
    · exact absurd isEmpty nonempty
    · exact isRoot ▸ Gathers.root
  | add gathers mem isChild isGathered isNew ih =>
    rcases List.eq_nil_or_concat second with rfl | ⟨rest, last, rfl⟩
    · rw [List.append_nil] at whole
      exact whole ▸ gathers.add mem isChild isGathered isNew
    · rw [List.concat_eq_append, ← List.append_assoc] at whole
      exact ih (List.append_inj_left' whole rfl)

theorem Gathers.above_mem (distinct : KeysDistinct key items)
    (acyclic : Acyclic key parent items root) (gathers : Gathers key parent items root keys)
    {upper lower : Key} (rootAbove : Below key parent items root upper)
    (isBelow : Below key parent items upper lower) (isGathered : lower ∈ keys) : upper ∈ keys := by
  induction gathers generalizing lower with
  | root =>
    -- Only the root is gathered: what is above it and below it is the root.
    have isRoot := List.mem_singleton.mp isGathered
    subst isRoot
    rcases isBelow.cases_tail with same | ⟨above, isAbove, item, mem, isChild, isKey⟩
    · exact List.mem_singleton.mpr same.symm
    · have aboveBelow := rootAbove.trans isAbove
      exact absurd (isKey ▸ aboveBelow) (acyclic item mem above isChild aboveBelow)
  | @add keys item above gathers mem isChild aboveGathered isNew ih =>
    rcases List.mem_append.mp isGathered with earlier | last
    · exact List.mem_append_left _ (ih isBelow earlier)
    · have isLast := List.mem_singleton.mp last
      rcases isBelow.cases_tail with
        same | ⟨other, otherBelow, otherItem, otherMember, otherChild, isKey⟩
      · rw [← same]
        exact isGathered
      · have sameItem := distinct.eq_of_key_eq key otherMember mem (isKey.trans isLast)
        rw [sameItem, isChild] at otherChild
        rw [Option.some.inj otherChild] at aboveGathered
        exact List.mem_append_left _ (ih otherBelow aboveGathered)

end ParentForest

end Foundation
