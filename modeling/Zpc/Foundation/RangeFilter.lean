import Mathlib.Data.List.Range

/-!
# Walking through the numbers that pass a test

A loop with a cursor looks for the next number that passes a test.  What is left for it to
find is a filter of a range, and finding a number takes the head of that filter away.
-/

namespace Foundation

variable {test : Nat -> Bool}

theorem find?_eq_none_of_filter_eq_nil {numbers : List Nat} (isEmpty : numbers.filter test = []) :
    numbers.find? test = none := by
  rw [← List.head?_filter, isEmpty]
  rfl

theorem filter_range'_eq_cons {start length number : Nat} {rest : List Nat}
    (isCons : (List.range' start length).filter test = number :: rest) :
    (List.range' start length).find? test = some number ∧
      start ≤ number ∧ number < start + length ∧
      (List.range' (number + 1) (start + length - (number + 1))).filter test = rest := by
  obtain ⟨skipped, behind, isSplit, -, -, isRest⟩ := List.filter_eq_cons_iff.mp isCons
  obtain ⟨count, le, -, isBehind⟩ := List.range'_eq_append_iff.mp isSplit
  obtain ⟨isNumber, positive, isTail⟩ := List.range'_eq_cons_iff.mp isBehind.symm
  refine ⟨?_, by omega, by omega, ?_⟩
  · rw [← List.head?_filter, isCons]
    rfl
  · rw [← isRest, isTail]
    congr 2
    omega

theorem filter_range'_of_le {last later : Nat} (le : last ≤ later)
    (outside : ∀ number, last < number -> test number = false) :
    (List.range' 1 later).filter test = (List.range' 1 last).filter test := by
  have split : List.range' 1 later =
      List.range' 1 last ++ List.range' (1 + last) (later - last) := by
    rw [List.range'_append_1, Nat.add_sub_cancel' le]
  have none : (List.range' (1 + last) (later - last)).filter test = [] := by
    rw [List.filter_eq_nil_iff]
    intro number mem
    rw [List.mem_range'_1] at mem
    rw [outside number (by omega)]
    exact Bool.false_ne_true
  rw [split, List.filter_append, none, List.append_nil]

end Foundation
