import Mathlib.Algebra.GroupWithZero.Nat
import Mathlib.Data.List.Nodup
import Mathlib.Data.List.Perm.Basic

/-!
# Lists of records found by a key

A list of records is searched from the front for the first record with a given
key.  While the keys of the list are pairwise distinct the answer depends on
the set of records only, so a search commutes with the permutations a
container makes of its records, and an update or a removal touches one key.
-/

namespace Foundation

variable {α κ : Type*} (key : α -> κ)

/-- The keys of a list are pairwise distinct. -/
def KeysDistinct (records : List α) : Prop := (records.map key).Nodup

variable {records : List α}

theorem KeysDistinct.eq_of_key_eq (distinct : KeysDistinct key records) {first second : α}
    (firstMember : first ∈ records) (secondMember : second ∈ records)
    (sameKey : key first = key second) : first = second :=
  List.inj_on_of_nodup_map distinct firstMember secondMember sameKey

variable {other : List α}

theorem KeysDistinct.perm (distinct : KeysDistinct key records) (permuted : other.Perm records) :
    KeysDistinct key other :=
  (permuted.map key).nodup_iff.mpr distinct

variable {remaining : List α}

theorem KeysDistinct.removed (distinct : KeysDistinct key records) {removed : α}
    (split : (removed :: remaining).Perm records) : KeysDistinct key remaining := by
  have nodup : ((removed :: remaining).map key).Nodup := distinct.perm key split
  rw [List.map_cons, List.nodup_cons] at nodup
  exact nodup.2

variable [DecidableEq κ]

/-- The first record with the given key. -/
def lookup (wanted : κ) (records : List α) : Option α :=
  records.find? fun record => key record = wanted

/-- Change the first record with the given key, if there is one. -/
def updateFirst (wanted : κ) (change : α -> α) : List α -> List α
  | [] => []
  | record :: rest =>
      if key record = wanted then change record :: rest
      else record :: updateFirst wanted change rest

variable {wanted : κ} {record : α}

theorem lookup_key (found : lookup key wanted records = some record) : key record = wanted := by
  simpa using List.find?_some found

theorem lookup_mem (found : lookup key wanted records = some record) : record ∈ records :=
  List.mem_of_find?_eq_some found

theorem lookup_eq_none_iff :
    lookup key wanted records = none ↔ ∀ record ∈ records, key record ≠ wanted := by
  simp [lookup]

theorem lookup_isSome_iff :
    (lookup key wanted records).isSome ↔ ∃ record ∈ records, key record = wanted := by
  simp [lookup]

theorem KeysDistinct.lookup_eq_some_iff (distinct : KeysDistinct key records) :
    lookup key wanted records = some record ↔ record ∈ records ∧ key record = wanted := by
  constructor
  · intro found
    exact ⟨lookup_mem key found, lookup_key key found⟩
  · rintro ⟨mem, keyEq⟩
    cases found : lookup key wanted records with
    | none => exact absurd keyEq ((lookup_eq_none_iff key).mp found record mem)
    | some other =>
      have same := distinct.eq_of_key_eq key (lookup_mem key found) mem
        ((lookup_key key found).trans keyEq.symm)
      rw [same]

theorem KeysDistinct.lookup_perm (distinct : KeysDistinct key records)
    (permuted : other.Perm records) (wanted : κ) :
    lookup key wanted other = lookup key wanted records := by
  apply Option.ext
  intro record
  rw [(distinct.perm key permuted).lookup_eq_some_iff key,
    distinct.lookup_eq_some_iff key, permuted.mem_iff]

theorem lookup_cons (record : α) (records : List α) (wanted : κ) :
    lookup key wanted (record :: records) =
      if key record = wanted then some record else lookup key wanted records := by
  unfold lookup
  by_cases front : key record = wanted <;> simp [front]

variable {change : α -> α}

theorem map_updateFirst {β : Type*} {feature : α -> β}
    (keeps : ∀ record, feature (change record) = feature record) (wanted : κ) (records : List α) :
    (updateFirst key wanted change records).map feature = records.map feature := by
  induction records with
  | nil => rfl
  | cons record rest ih =>
    unfold updateFirst
    split
    · simp [keeps]
    · simp [ih]

theorem length_updateFirst (change : α -> α) (wanted : κ) (records : List α) :
    (updateFirst key wanted change records).length = records.length := by
  induction records with
  | nil => rfl
  | cons record rest ih =>
    unfold updateFirst
    split
    · rfl
    · simp [ih]

theorem sum_updateFirst (amount : α -> Nat) (change : α -> α)
    (found : lookup key wanted records = some record) :
    ((updateFirst key wanted change records).map amount).sum + amount record =
      (records.map amount).sum + amount (change record) := by
  induction records with
  | nil => cases found
  | cons front rest ih =>
    rw [lookup_cons] at found
    unfold updateFirst
    split at found
    next isFront =>
      cases found
      rw [if_pos isFront]
      simp only [List.map_cons, List.sum_cons]
      omega
    next notFront =>
      have later := ih found
      rw [if_neg notFront]
      simp only [List.map_cons, List.sum_cons]
      omega

theorem lookup_updateFirst (keepsKey : ∀ record, key (change record) = key record)
    (wanted other : κ) (records : List α) :
    lookup key other (updateFirst key wanted change records) =
      if other = wanted then (lookup key wanted records).map change
      else lookup key other records := by
  induction records with
  | nil => simp [updateFirst, lookup]
  | cons record rest ih =>
    unfold updateFirst
    by_cases front : key record = wanted
    · subst front
      rw [if_pos rfl, lookup_cons, lookup_cons, lookup_cons, keepsKey]
      by_cases same : other = key record
      · simp [same]
      · simp [same, Ne.symm same]
    · rw [if_neg front, lookup_cons, ih]
      by_cases same : other = wanted
      · subst same
        simp [front, lookup_cons]
      · simp [same, lookup_cons]

theorem KeysDistinct.lookup_removed (distinct : KeysDistinct key records) {removed : α}
    (split : (removed :: remaining).Perm records) (wanted : κ) :
    lookup key wanted remaining =
      if wanted = key removed then none else lookup key wanted records := by
  have whole := distinct.lookup_perm key split wanted
  rw [lookup_cons] at whole
  by_cases own : wanted = key removed
  · subst own
    rw [if_pos rfl, lookup_eq_none_iff]
    intro record mem sameKey
    have nodup : ((removed :: remaining).map key).Nodup := distinct.perm key split
    rw [List.map_cons, List.nodup_cons] at nodup
    exact nodup.1 (sameKey ▸ List.mem_map_of_mem mem)
  · rw [if_neg own, ← whole, if_neg (Ne.symm own)]

end Foundation
