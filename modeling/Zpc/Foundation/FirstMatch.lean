import Mathlib.Logic.Basic

/-!
# Changing the first match in a table

A table of fixed size is often searched from its first slot for one that fits, which is
then overwritten in place.  The rules below say what the table holds afterwards without
a mention of positions, and when it holds one match at most.
-/

namespace Foundation

variable {α : Type*}

/-- Change the first entry that fits. -/
def overwriteFirst (fits : α -> Bool) (change : α -> α) : List α -> Option (List α)
  | [] => none
  | head :: tail =>
      if fits head then some (change head :: tail)
      else (overwriteFirst fits change tail).map (head :: ·)

theorem overwriteFirst_eq_some {fits : α -> Bool} {change : α -> α} {before after : List α}
    (updated : overwriteFirst fits change before = some after) :
    ∃ first entry rest, before = first ++ entry :: rest ∧ fits entry = true ∧
      (∀ other ∈ first, fits other = false) ∧ after = first ++ change entry :: rest := by
  induction before generalizing after with
  | nil => cases updated
  | cons head tail ih =>
    unfold overwriteFirst at updated
    split at updated
    next isFit =>
      cases updated
      exact ⟨[], head, tail, rfl, isFit, nofun, rfl⟩
    next notFit =>
      obtain ⟨changed, isChanged, same⟩ := Option.map_eq_some_iff.mp updated
      obtain ⟨first, entry, rest, isTail, isFit, noneEarlier, isAfter⟩ := ih isChanged
      refine ⟨head :: first, entry, rest, by rw [isTail, List.cons_append], isFit, ?_, ?_⟩
      · intro other mem
        rcases List.mem_cons.mp mem with isHead | isLater
        · rw [isHead]
          exact eq_false_of_ne_true notFit
        · exact noneEarlier other isLater
      · rw [← same, isAfter, List.cons_append]

theorem overwriteFirst_eq_none_iff {fits : α -> Bool} {change : α -> α} {table : List α} :
    overwriteFirst fits change table = none ↔ ∀ entry ∈ table, fits entry = false := by
  induction table with
  | nil => simp [overwriteFirst]
  | cons head tail ih =>
    unfold overwriteFirst
    split
    next isFit => simp [isFit]
    next notFit => simp [ih, notFit]

variable {fits : α -> Bool} {change : α -> α} {before after : List α} {sought : α -> Bool}

theorem find?_overwriteFirst_of_unseen (updated : overwriteFirst fits change before = some after)
    (unseen : ∀ entry, fits entry = true -> sought entry = false ∧ sought (change entry) = false) :
    after.find? sought = before.find? sought := by
  obtain ⟨first, entry, rest, rfl, isFit, -, rfl⟩ := overwriteFirst_eq_some updated
  obtain ⟨notBefore, notAfter⟩ := unseen entry isFit
  simp only [List.find?_append, List.find?_cons, notBefore, notAfter]

theorem find?_overwriteFirst_of_seen {value : α}
    (updated : overwriteFirst fits (fun _ => value) before = some after)
    (implied : ∀ entry ∈ before, sought entry = true -> fits entry = true)
    (seen : sought value = true) : after.find? sought = some value := by
  obtain ⟨first, entry, rest, rfl, -, notEarlier, rfl⟩ := overwriteFirst_eq_some updated
  have noneFirst : first.find? sought = none := by
    refine List.find?_eq_none.mpr fun other mem isSought => ?_
    have isFit := implied other (List.mem_append_left _ mem) isSought
    rw [notEarlier other mem] at isFit
    cases isFit
  simp only [List.find?_append, List.find?_cons, noneFirst, seen, Option.none_or]

theorem find?_overwriteFirst_eq_none_iff (updated : overwriteFirst fits change before = some after)
    (implied : ∀ entry, sought entry = true -> fits entry = true)
    (cleared : ∀ entry, sought (change entry) = false) :
    after.find? sought = none ↔ ∀ entry ∈ (before.filter fits).tail, sought entry = false := by
  obtain ⟨first, entry, rest, rfl, isFit, notEarlier, rfl⟩ := overwriteFirst_eq_some updated
  have noneFirst : first.filter fits = [] :=
    List.filter_eq_nil_iff.mpr fun other mem => by simp [notEarlier other mem]
  simp only [List.filter_append, noneFirst, List.nil_append, List.filter_cons, isFit, if_true,
    List.tail_cons, List.mem_filter, List.find?_eq_none, List.mem_append, List.mem_cons]
  constructor
  · rintro unsought other ⟨mem, -⟩
    exact eq_false_of_ne_true (unsought other (.inr (.inr mem)))
  · rintro unsought other (isFirst | rfl | isRest) isSought
    · have isFit' := implied other isSought
      rw [notEarlier other isFirst] at isFit'
      cases isFit'
    · rw [cleared] at isSought
      cases isSought
    · rw [unsought other ⟨isRest, implied other isSought⟩] at isSought
      cases isSought

theorem length_le_one_of_pairwise {relation : α -> α -> Prop} {list : List α}
    (pairwise : list.Pairwise relation)
    (never : ∀ first ∈ list, ∀ second ∈ list, ¬ relation first second) : list.length ≤ 1 := by
  match list, pairwise with
  | [], _ => exact Nat.zero_le 1
  | [_], _ => exact Nat.le_refl 1
  | first :: second :: _, pairwise =>
    have related := List.rel_of_pairwise_cons pairwise List.mem_cons_self
    exact absurd related
      (never first List.mem_cons_self second (List.mem_cons_of_mem first List.mem_cons_self))

end Foundation
