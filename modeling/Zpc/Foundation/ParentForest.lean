import Mathlib.Data.List.Perm.Subperm
import Mathlib.Logic.Relation
import Zpc.Foundation.KeyedList

/-!
# Records linked to parents

A list of records in which a record may name the key of another one as its parent.  A link
may be broken, and nothing keeps links from running in a circle.  Below a record without a
parent there is no circle, as long as no key is used twice.
-/

namespace Foundation

namespace ParentForest

variable {Item Key : Type*} (key : Item -> Key) (parent : Item -> Option Key)

/-- A record of the list has the lower key and names the upper one as its parent. -/
def IsLinked (items : List Item) (above below : Key) : Prop :=
  ∃ item ∈ items, parent item = some above ∧ key item = below

/-- A key is the root or that of a record whose chain of parents leads to it. -/
def Below (items : List Item) : Key -> Key -> Prop :=
  Relation.ReflTransGen (IsLinked key parent items)

variable {key parent}

variable {items : List Item}

theorem Below.root {root : Key} : Below key parent items root root := .refl

theorem Below.child {items : List Item} {root above : Key} {item : Item}
    (isBelow : Below key parent items root above) (mem : item ∈ items)
    (isChild : parent item = some above) : Below key parent items root (key item) :=
  isBelow.tail ⟨item, mem, isChild, rfl⟩

variable {other : List Item} {below : Key}

theorem Below.mono (subset : items ⊆ other) {root : Key}
    (isBelow : Below key parent items root below) : Below key parent other root below :=
  isBelow.lift id fun _ _ ⟨item, mem, isLinked⟩ => ⟨item, subset mem, isLinked⟩

variable {item : Item}

theorem Below.of_child (mem : item ∈ items) {root : Key} (isChild : parent item = some root)
    (isBelow : Below key parent items (key item) below) : Below key parent items root below :=
  (Below.child .root mem isChild).trans isBelow

theorem Below.eq_or_parent (distinct : KeysDistinct key items) (mem : item ∈ items) {root : Key}
    (isBelow : Below key parent items root below) (isKey : key item = below) :
    key item = root ∨ ∃ above, parent item = some above ∧ Below key parent items root above := by
  rcases isBelow.cases_tail with isRoot | ⟨above, isAbove, other, otherMember, isChild, sameKey⟩
  · exact .inl (isKey.trans isRoot)
  · have same := distinct.eq_of_key_eq key mem otherMember (isKey.trans sameKey.symm)
    exact .inr ⟨above, same ▸ isChild, isAbove⟩

theorem Below.split {child : Key}
    (kept : ∀ item ∈ items, ¬Below key parent items child (key item) -> item ∈ other) {root : Key}
    (isBelow : Below key parent items root below) :
    Below key parent items child below ∨ Below key parent other root below := by
  induction isBelow with
  | refl => exact .inr .root
  | tail _ isLinked ih =>
    obtain ⟨item, mem, isChild, rfl⟩ := isLinked
    by_cases belowChild : Below key parent items child (key item)
    · exact .inl belowChild
    · rcases ih with aboveBelow | aboveStays
      · exact absurd (.child aboveBelow mem isChild) belowChild
      · exact .inr (.child aboveStays (kept item mem belowChild) isChild)

theorem Below.eq_root {root : Key} (childless : ∀ item ∈ items, parent item ≠ some root)
    (isBelow : Below key parent items root below) : below = root := by
  induction isBelow with
  | refl => rfl
  | tail _ isLinked ih =>
    obtain ⟨item, mem, isChild, rfl⟩ := isLinked
    exact absurd (ih ▸ isChild) (childless item mem)

variable (key parent) in
/-- No record below the root is above its own parent. -/
def Acyclic (items : List Item) (root : Key) : Prop :=
  ∀ item ∈ items, ∀ above, parent item = some above ->
    Below key parent items root above -> ¬Below key parent items (key item) above

theorem Acyclic.mono {root : Key} (acyclic : Acyclic key parent items root) (subset : other ⊆ items)
    :
    Acyclic key parent other root :=
  fun item mem above isChild isBelow circle =>
    acyclic item (subset mem) above isChild (isBelow.mono subset) (circle.mono subset)

theorem Acyclic.of_below {root : Key} (acyclic : Acyclic key parent items root)
    (isBelow : Below key parent items root below) : Acyclic key parent items below :=
  fun item mem above isChild isAbove => acyclic item mem above isChild (isBelow.trans isAbove)

theorem acyclic_of_parentless (distinct : KeysDistinct key items) {root : Item} (mem : root ∈ items)
    (parentless : parent root = none) : Acyclic key parent items (key root) := by
  have onlyRoot {below : Key} (circle : Below key parent items below (key root)) :
      key root = below := by
    rcases circle.eq_or_parent distinct mem rfl with isRoot | ⟨above, isChild, _⟩
    · exact isRoot
    · rw [parentless] at isChild
      cases isChild
  -- The induction is on the chain from the root: a circle through a record goes through its
  -- parent as well.
  suffices noCircle : ∀ below, Below key parent items (key root) below ->
      ∀ item ∈ items, parent item = some below -> ¬Below key parent items (key item) below from
    fun item itemMember above isChild isBelow => noCircle above isBelow item itemMember isChild
  intro below isBelow
  induction isBelow with
  | refl =>
    intro item itemMember isChild circle
    have same := distinct.eq_of_key_eq key mem itemMember (onlyRoot circle)
    rw [← same, parentless] at isChild
    cases isChild
  | @tail above _ _ isLinked ih =>
    obtain ⟨item, itemMember, isChild, rfl⟩ := isLinked
    intro lower lowerMember isLower circle
    rcases circle.eq_or_parent distinct itemMember rfl with sameKey | ⟨other, isOther, around⟩
    · have same := distinct.eq_of_key_eq key itemMember lowerMember sameKey
      subst same
      have isAbove : above = key item := Option.some.inj (isChild.symm.trans isLower)
      exact ih item itemMember isChild (isAbove ▸ Below.root)
    · have isAbove : other = above := Option.some.inj (isOther.symm.trans isChild)
      subst isAbove
      exact ih item itemMember isChild (around.of_child lowerMember isLower)

theorem acyclic_of_rank (rank : Key -> Nat)
    (ranked : ∀ item ∈ items, ∀ above, parent item = some above -> rank above < rank (key item))
    (root : Key) : Acyclic key parent items root := by
  have climbs {upper lower : Key} (isBelow : Below key parent items upper lower) :
      rank upper ≤ rank lower := by
    induction isBelow with
    | refl => exact Nat.le_refl _
    | tail _ isLinked ih =>
      obtain ⟨item, mem, isChild, rfl⟩ := isLinked
      exact Nat.le_of_lt (Nat.lt_of_le_of_lt ih (ranked item mem _ isChild))
  intro item mem above isChild _ circle
  exact Nat.not_le_of_lt (ranked item mem above isChild) (climbs circle)

open Classical in
variable (key parent) in
/-- The records below a root, without the root. -/
noncomputable def strictlyBelow (items : List Item) (root : Key) : List Item :=
  items.filter fun item => decide (Below key parent items root (key item) ∧ key item ≠ root)

theorem mem_strictlyBelow {root : Key} :
    item ∈ strictlyBelow key parent items root ↔
      item ∈ items ∧ Below key parent items root (key item) ∧ key item ≠ root := by
  simp [strictlyBelow]

theorem length_strictlyBelow_le (items : List Item) (root : Key) :
    (strictlyBelow key parent items root).length ≤ items.length :=
  List.length_filter_le _ items

theorem length_lt_of_missing (distinct : KeysDistinct key items) (subset : items ⊆ other)
    {missing : Item} (mem : missing ∈ other) (isMissing : missing ∉ items) :
    items.length < other.length := by
  have nodup : (missing :: items).Nodup := List.nodup_cons.mpr ⟨isMissing, distinct.of_map⟩
  have subperm : (missing :: items).Subperm other :=
    List.subperm_of_subset nodup (List.cons_subset.mpr ⟨mem, subset⟩)
  exact subperm.length_le

theorem KeysDistinct.strictlyBelow (distinct : KeysDistinct key items) (root : Key) :
    KeysDistinct key (strictlyBelow key parent items root) :=
  List.Nodup.sublist (List.filter_sublist.map key) distinct

theorem length_strictlyBelow_child (distinct : KeysDistinct key items) {root : Key}
    (acyclic : Acyclic key parent items root) (mem : item ∈ items)
    (isChild : parent item = some root) :
    (strictlyBelow key parent items (key item)).length <
      (strictlyBelow key parent items root).length := by
  have noCircle := acyclic item mem root isChild .root
  refine length_lt_of_missing (KeysDistinct.strictlyBelow distinct _) ?_
    (mem_strictlyBelow.mpr ⟨mem, .child .root mem isChild, ?_⟩) ?_
  · intro lower isLower
    obtain ⟨lowerMember, isBelow, _⟩ := mem_strictlyBelow.mp isLower
    refine mem_strictlyBelow.mpr ⟨lowerMember, isBelow.of_child mem isChild, ?_⟩
    intro isRoot
    exact noCircle (isRoot ▸ isBelow)
  · intro isRoot
    exact noCircle (isRoot ▸ Below.root)
  · intro isLower
    exact (mem_strictlyBelow.mp isLower).2.2 rfl

theorem length_strictlyBelow_removed (otherDistinct : KeysDistinct key other)
    (subset : other ⊆ items) {root : Key} (isBelow : item ∈ strictlyBelow key parent items root)
    (isRemoved : item ∉ other) :
    (strictlyBelow key parent other root).length <
      (strictlyBelow key parent items root).length := by
  refine length_lt_of_missing (KeysDistinct.strictlyBelow otherDistinct _) ?_ isBelow ?_
  · intro lower isLower
    obtain ⟨mem, lowerBelow, notRoot⟩ := mem_strictlyBelow.mp isLower
    exact mem_strictlyBelow.mpr ⟨subset mem, lowerBelow.mono subset, notRoot⟩
  · intro stays
    exact isRemoved (mem_strictlyBelow.mp stays).1

open Classical in
variable (key parent) in
/-- The records a key is below. -/
noncomputable def atOrAbove (items : List Item) (lower : Key) : List Item :=
  items.filter fun item => decide (Below key parent items (key item) lower)

theorem mem_atOrAbove {lower : Key} :
    item ∈ atOrAbove key parent items lower ↔
      item ∈ items ∧ Below key parent items (key item) lower := by
  simp [atOrAbove]

theorem length_atOrAbove_le (items : List Item) (lower : Key) :
    (atOrAbove key parent items lower).length ≤ items.length :=
  List.length_filter_le _ items

theorem length_atOrAbove_parent (distinct : KeysDistinct key items) {root : Key}
    (acyclic : Acyclic key parent items root) (mem : item ∈ items) {above : Key}
    (isChild : parent item = some above) (isBelow : Below key parent items root above) :
    (atOrAbove key parent items above).length < (atOrAbove key parent items (key item)).length := by
  have aboveDistinct : KeysDistinct key (atOrAbove key parent items above) :=
    List.Nodup.sublist (List.filter_sublist.map key) distinct
  refine length_lt_of_missing aboveDistinct ?_ (mem_atOrAbove.mpr ⟨mem, Below.root⟩) ?_
  · intro upper isUpper
    obtain ⟨upperMember, upperAbove⟩ := mem_atOrAbove.mp isUpper
    exact mem_atOrAbove.mpr ⟨upperMember, upperAbove.child mem isChild⟩
  · intro circle
    exact acyclic item mem above isChild isBelow (mem_atOrAbove.mp circle).2

end ParentForest

end Foundation
