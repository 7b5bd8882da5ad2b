import Zpc.Foundation.HeapOrder
import Zpc.Foundation.Run

/-!
# The priority queue container

`priority_queue<T, Size, KeyGreater>` keeps its elements in a fixed array, as a
binary heap with the greatest element in front.  The model keeps the part of
the array between `first` and `last`; the comparison `KeyGreater` is the
parameter `greater`.

Insertion keeps the heap order.  Erasure swaps the last element into the hole
and only moves it down, so it keeps the order exactly when the last element is
not greater than the parent of the hole.
-/

namespace ZwaveTx

open Foundation

variable {α : Type*} {maxSize : Nat}

/-- The elements stored between the iterators `first` and `last`. -/
structure PriorityQueue (α : Type*) (maxSize : Nat) where
  elements : List α

namespace PriorityQueue

/-- A queue whose iterators are null. -/
def clear : PriorityQueue α maxSize := ⟨[]⟩

/-- Number of stored elements. -/
def size (queue : PriorityQueue α maxSize) : Nat := queue.elements.length

/-- Whether nothing is stored. -/
def empty (queue : PriorityQueue α maxSize) : Bool := queue.elements.isEmpty

/-- The element `begin()` points to. -/
def front (queue : PriorityQueue α maxSize) : Option α := queue.elements.head?

/-- Insert an item, unless the capacity is reached. -/
def insert (greater : α -> α -> Bool) (queue : PriorityQueue α maxSize)
    (item : α) : Bool × PriorityQueue α maxSize :=
  if maxSize ≤ queue.size then (false, queue)
  else if queue.size = 0 then (true, ⟨[item]⟩)
  else
    (true, ⟨siftUp greater queue.size (queue.elements ++ [item]) queue.size⟩)

/-- The array after the element at `position` was swapped with the last one
and the last one was cut off. -/
def swapOut (queue : PriorityQueue α maxSize) (position : Nat) : List α :=
  (queue.elements.swap position (queue.size - 1)).dropLast

/-- Erase the element at the position of an iterator. -/
def erase (greater : α -> α -> Bool) (queue : PriorityQueue α maxSize)
    (position : Nat) : PriorityQueue α maxSize :=
  if 1 < queue.size then
    ⟨siftDown greater (queue.swapOut position).length
      (queue.swapOut position) position⟩
  else clear

theorem insert_perm (greater : α -> α -> Bool) (queue : PriorityQueue α maxSize) (item : α)
    (room : queue.size < maxSize) :
    (queue.insert greater item).1 = true ∧
      (queue.insert greater item).2.elements.Perm (item :: queue.elements) := by
  unfold insert
  rw [if_neg (by omega)]
  split
  next nothing =>
    have none : queue.elements = [] := List.length_eq_zero_iff.mp nothing
    simp [none]
  next =>
    refine ⟨rfl, ?_⟩
    exact (siftUp_perm greater _ _ _).trans (List.perm_append_singleton _ _)

theorem insert_full (greater : α -> α -> Bool) (queue : PriorityQueue α maxSize) (item : α)
    (full : maxSize ≤ queue.size) : queue.insert greater item = (false, queue) := by
  unfold insert
  rw [if_pos full]

variable {position : Nat} {item : α} {greater : α -> α -> Bool}

theorem getElem?_swapOut (queue : PriorityQueue α maxSize) (inside : position < queue.size)
    (i : Nat) :
    (queue.swapOut position)[i]? =
      if i < queue.size - 1 then
        if i = position then queue.elements[queue.size - 1]?
        else queue.elements[i]?
      else none := by
  unfold swapOut size at *
  rw [List.dropLast_eq_take, List.getElem?_take, List.length_swap]
  split
  next within =>
    rw [getElem?_swap_of_lt inside (by omega)]
    split
    · rfl
    · rw [if_neg (by omega)]
  next => rfl

theorem swapOut_perm (queue : PriorityQueue α maxSize)
    (itemAt : queue.elements[position]? = some item) :
    (item :: queue.swapOut position).Perm queue.elements := by
  obtain ⟨inside, itemEq⟩ := List.getElem?_eq_some_iff.mp itemAt
  have nonempty : queue.elements.swap position (queue.elements.length - 1) ≠ [] := by
    intro nothing
    have := congrArg List.length nothing
    simp only [List.length_swap, List.length_nil] at this
    omega
  have lastEq :
      (queue.elements.swap position (queue.elements.length - 1)).getLast nonempty = item := by
    rw [List.getLast_eq_getElem]
    simp only [List.length_swap]
    rw [List.getElem_swap_right_of_lt inside]
    exact itemEq
  have whole := List.dropLast_append_getLast nonempty
  rw [lastEq] at whole
  calc item :: (queue.elements.swap position (queue.elements.length - 1)).dropLast
    _ |>.Perm ((queue.elements.swap position (queue.elements.length - 1)).dropLast ++ [item]) :=
        (List.perm_append_singleton item _).symm
    _ |>.Perm (queue.elements.swap position (queue.elements.length - 1)) := by rw [whole]
    _ |>.Perm queue.elements := List.swap_perm _ _ _

theorem erase_perm (greater : α -> α -> Bool) (queue : PriorityQueue α maxSize)
    (itemAt : queue.elements[position]? = some item) :
    (item :: (queue.erase greater position).elements).Perm queue.elements := by
  unfold erase
  split
  next => exact ((siftDown_perm greater _ _ _).cons item).trans (queue.swapOut_perm itemAt)
  next single =>
    obtain ⟨inside, itemEq⟩ := List.getElem?_eq_some_iff.mp itemAt
    unfold size at single
    have one : queue.elements.length = 1 := by omega
    obtain ⟨only, onlyEq⟩ := List.length_eq_one_iff.mp one
    have first : position = 0 := by omega
    subst first
    subst itemEq
    simp [clear, onlyEq]

section StrictWeakOrder

variable {greater : α -> α -> Bool}
variable [IsStrictWeakOrder α (fun left right => greater left right = true)]

theorem insert_heapOrdered (queue : PriorityQueue α maxSize) (item : α)
    (ordered : HeapOrdered greater queue.elements) :
    HeapOrdered greater (queue.insert greater item).2.elements := by
  unfold insert
  split
  next => exact ordered
  next =>
    split
    next =>
      intro i positive entry parent entryAt
      simp [Nat.ne_of_gt positive] at entryAt
    next =>
      refine siftUp_heapOrdered _ _ _ (Nat.le_refl _) ⟨?_, ?_⟩
      · intro i positive notLast entry parent entryAt parentAt
        have before := parentIndex_lt positive
        have bound := (List.getElem?_eq_some_iff.mp entryAt).1
        simp only [List.length_append, List.length_singleton] at bound
        unfold size at notLast
        rw [List.getElem?_append_left (by omega)] at entryAt parentAt
        exact ordered i positive _ _ entryAt parentAt
      · intro i positive isChild _ entry grandparent entryAt
        have before := parentIndex_lt positive
        have bound := (List.getElem?_eq_some_iff.mp entryAt).1
        simp only [List.length_append, List.length_singleton] at bound
        unfold size at isChild
        omega

/-- The last element may take the place at `position`: it is not greater than
the parent of that place. -/
def LastFits (greater : α -> α -> Bool) (queue : PriorityQueue α maxSize) (position : Nat) : Prop :=
  0 < position -> position < queue.size - 1 ->
    ∀ last parent, queue.elements[queue.size - 1]? = some last ->
      queue.elements[parentIndex position]? = some parent -> greater last parent = false

variable {position : Nat}

section

variable (queue : PriorityQueue α maxSize)
include queue

theorem belowGrandparent_swapOut (inside : position < queue.size)
    (ordered : HeapOrdered greater queue.elements) :
    BelowGrandparent greater (queue.swapOut position) position := by
  intro i positive isChild positionPositive entry grandparent entryAt grandAt
  have before := parentIndex_lt positive
  have grandBefore := parentIndex_lt positionPositive
  rw [queue.getElem?_swapOut inside] at entryAt grandAt
  split at entryAt
  next within =>
    rw [if_neg (by omega)] at entryAt
    rw [if_pos (by omega), if_neg (by omega)] at grandAt
    have holeAt : queue.elements[position]? = some queue.elements[position] :=
      List.getElem?_eq_getElem inside
    exact not_greater_trans
      (ordered i positive _ _ entryAt (by rw [isChild]; exact holeAt))
      (ordered position positionPositive _ _ holeAt grandAt)
  next => cases entryAt

theorem downReady_swapOut (inside : position < queue.size)
    (ordered : HeapOrdered greater queue.elements) (fits : queue.LastFits greater position) :
    DownReady greater (queue.swapOut position) position := by
  refine ⟨?_, queue.belowGrandparent_swapOut inside ordered⟩
  intro i positive notBelow entry parent entryAt parentAt
  have before := parentIndex_lt positive
  rw [queue.getElem?_swapOut inside] at entryAt parentAt
  split at entryAt
  next within =>
    rw [if_pos (by omega), if_neg notBelow] at parentAt
    split at entryAt
    next atHole =>
      subst atHole
      exact fits positive within _ _ entryAt parentAt
    next => exact ordered i positive _ _ entryAt parentAt
  next => cases entryAt

theorem erase_heapOrdered_iff (inside : position < queue.size)
    (ordered : HeapOrdered greater queue.elements) :
    HeapOrdered greater (queue.erase greater position).elements ↔
      queue.LastFits greater position := by
  constructor
  · intro erased positionPositive notLast last parent lastAt parentAt
    by_contra exceeds
    have above : greater last parent = true := by simpa using exceeds
    unfold erase at erased
    rw [if_pos (by omega)] at erased
    have holeAt : (queue.swapOut position)[position]? = some last := by
      rw [queue.getElem?_swapOut inside, if_pos notLast, if_pos rfl, lastAt]
    have parentKept : (queue.swapOut position)[parentIndex position]? = some parent := by
      have before := parentIndex_lt positionPositive
      rw [queue.getElem?_swapOut inside, if_pos (by omega), if_neg (by omega), parentAt]
    -- No child of the hole exceeds the last element, so the sift stops at once.
    have stays : siftDown greater (queue.swapOut position).length
        (queue.swapOut position) position = queue.swapOut position := by
      cases fuel : (queue.swapOut position).length with
      | zero => rfl
      | succ fuel =>
        unfold siftDown
        split
        next child item childAt itemAt =>
          rw [holeAt] at itemAt
          cases itemAt
          have childBefore := lt_biggestChild greater (queue.swapOut position) position
          have under := queue.belowGrandparent_swapOut inside ordered
            _ (by omega) (parentIndex_biggestChild greater _ _) positionPositive
            _ _ childAt parentKept
          rw [if_neg (by simp [not_greater_of_greater under above])]
        next => rfl
    rw [stays] at erased
    have fits := erased position positionPositive _ _ holeAt parentKept
    simp [fits] at above
  · intro fits
    unfold erase
    split
    next =>
      exact siftDown_heapOrdered _ _ _ (by omega)
        (queue.downReady_swapOut inside ordered fits)
    next =>
      intro i positive entry parent entryAt
      simp [clear] at entryAt

theorem front_not_exceeded (ordered : HeapOrdered greater queue.elements) {first : α}
    (isFront : queue.front = some first) (stored : item ∈ queue.elements) :
    greater item first = false := by
  obtain ⟨i, itemAt⟩ := List.mem_iff_getElem?.mp stored
  refine ordered.not_greater_root ?_ i itemAt
  rw [← List.head?_eq_getElem?]
  exact isFront

end

end StrictWeakOrder

/-- The operations that change a priority queue.  The position of an erasure is
that of an iterator; a position outside the queue is no iterator and leaves
everything as it is. -/
inductive Operation (α : Type*)
  | insert (item : α)
  | erase (position : Nat)
  | clear

/-- A queue together with everything that was accepted and everything that was
taken out so far. -/
structure History (α : Type*) (maxSize : Nat) where
  queue : PriorityQueue α maxSize
  inserted : List α
  removed : List α

/-- A fresh container. -/
def History.start : History α maxSize := ⟨clear, [], []⟩

/-- Carry out one operation and record it. -/
def History.step (greater : α -> α -> Bool)
    (history : History α maxSize) : Operation α -> History α maxSize
  | .insert item =>
      if (history.queue.insert greater item).1 then
        { history with
          queue := (history.queue.insert greater item).2
          inserted := item :: history.inserted }
      else { history with queue := (history.queue.insert greater item).2 }
  | .erase position =>
      match history.queue.elements[position]? with
      | some item =>
          { history with
            queue := history.queue.erase greater position
            removed := item :: history.removed }
      | none => history
  | .clear =>
      { history with
        queue := clear
        removed := history.queue.elements ++ history.removed }

/-- Every erasure puts the last element where it fits. -/
def ErasureFits (greater : α -> α -> Bool) (history : History α maxSize) : Operation α -> Prop
  | .erase position => position < history.queue.size -> history.queue.LastFits greater position
  | _ => True

theorem History.start_heapOrdered :
    HeapOrdered greater (History.start : History α maxSize).queue.elements := by
  intro i positive item parent itemAt
  cases itemAt

/-- The stored elements are the inserted ones without the removed ones. -/
def History.Accounted (history : History α maxSize) : Prop :=
  (history.queue.elements ++ history.removed).Perm history.inserted

theorem History.start_accounted : (History.start : History α maxSize).Accounted := List.Perm.refl []

/-- Every operation accounts for what was inserted and removed. -/
theorem History.Accounted.step (greater : α -> α -> Bool) {history : History α maxSize}
    (accounted : history.Accounted) (operation : Operation α) :
    (history.step greater operation).Accounted := by
  unfold Accounted at *
  cases operation with
  | insert item =>
    simp only [History.step]
    by_cases room : history.queue.size < maxSize
    · obtain ⟨accepted, stored⟩ := history.queue.insert_perm greater item room
      rw [if_pos accepted]
      exact (stored.append_right _).trans (accounted.cons item)
    · rw [history.queue.insert_full greater item (by omega)]
      exact accounted
  | erase position =>
    simp only [History.step]
    split
    next item itemAt =>
      refine List.perm_middle.trans (List.Perm.trans ?_ accounted)
      exact (history.queue.erase_perm greater itemAt).append_right _
    next => exact accounted
  | clear => simpa [History.step, clear] using accounted

/-- An operation keeps the heap order exactly if its erasure fits. -/
theorem History.step_heapOrdered_iff
    [IsStrictWeakOrder α (fun left right => greater left right = true)]
    (history : History α maxSize) (ordered : HeapOrdered greater history.queue.elements)
    (operation : Operation α) :
    HeapOrdered greater (history.step greater operation).queue.elements ↔
      ErasureFits greater history operation := by
  cases operation with
  | insert item =>
    have kept := history.queue.insert_heapOrdered item ordered
    simp only [History.step, ErasureFits, iff_true]
    split <;> exact kept
  | erase position =>
    simp only [History.step, ErasureFits]
    by_cases inside : position < history.queue.size
    · have itemAt : history.queue.elements[position]? =
          some history.queue.elements[position] := List.getElem?_eq_getElem inside
      simp only [itemAt, inside, forall_true_left]
      exact history.queue.erase_heapOrdered_iff inside ordered
    · have outside : history.queue.elements[position]? = none :=
        List.getElem?_eq_none_iff.mpr (by unfold size at inside; omega)
      simp [outside, inside, ordered]
  | clear =>
    simp only [History.step, ErasureFits, iff_true]
    intro i positive entry parent entryAt
    simp [clear] at entryAt

theorem heapOrdered_throughout_iff
    [IsStrictWeakOrder α (fun left right => greater left right = true)]
    (history : History α maxSize) (ordered : HeapOrdered greater history.queue.elements)
    (operations : List (Operation α)) :
    (∀ done, done <+: operations ->
        HeapOrdered greater
          (run (History.step greater) history done).queue.elements) ↔
      StepsMeet (History.step greater) (ErasureFits greater) history operations :=
  throughout_iff_stepsMeet
    (fun history : History α maxSize => HeapOrdered greater history.queue.elements)
    (fun history operation ordered => history.step_heapOrdered_iff ordered operation)
    ordered operations

end PriorityQueue

end ZwaveTx
