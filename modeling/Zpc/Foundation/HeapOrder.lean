import Mathlib.Data.List.Perm.Basic
import Mathlib.Order.RelClasses

/-!
# Binary heaps stored level by level in a list

The node at position `i` has its parent at `(i - 1) / 2` and its children at
`2 * i + 1` and `2 * i + 2`.  The order is a Boolean test `greater` that is a
strict weak order; the heap keeps a greatest element at position zero.

The two sifts move one element along a path by swaps.  Each of them starts
from a list in which the only pairs out of order are the ones at the current
position, and ends in an ordered heap with the same elements.
-/

namespace Foundation

variable {α : Type*}

/-- Position of the parent in the level order. -/
def parentIndex (i : Nat) : Nat := (i - 1) / 2

/-- Position of the left child in the level order. -/
def leftIndex (i : Nat) : Nat := 2 * i + 1

/-- Position of the right child in the level order. -/
def rightIndex (i : Nat) : Nat := 2 * i + 2

variable {i : Nat}

theorem parentIndex_lt (positive : 0 < i) : parentIndex i < i := by
  unfold parentIndex
  omega

theorem parentIndex_eq_iff (positive : 0 < i) (current : Nat) :
    parentIndex i = current ↔ i = leftIndex current ∨ i = rightIndex current := by
  unfold parentIndex leftIndex rightIndex
  omega

theorem getElem?_swap_of_lt {heap : List α} {j : Nat} (left : i < heap.length)
    (right : j < heap.length) (k : Nat) :
    (heap.swap i j)[k]? = if k = i then heap[j]? else if k = j then heap[i]? else heap[k]? := by
  rw [List.swap_eq_of_lt left right]
  by_cases atRight : k = j
  · subst atRight
    by_cases same : k = i
    · subst same
      simp [left]
    · simp [same, left, right]
  · rw [List.getElem?_set_ne (Ne.symm atRight)]
    by_cases atLeft : k = i
    · subst atLeft
      simp [left, right]
    · simp [List.getElem?_set_ne (Ne.symm atLeft), atLeft, atRight]

section Order

variable (greater : α -> α -> Bool)

/-- The element at position `i` is not greater than its parent. -/
def PairOrdered (heap : List α) (i : Nat) : Prop :=
  ∀ item parent, heap[i]? = some item ->
    heap[parentIndex i]? = some parent -> greater item parent = false

/-- No element is greater than its heap parent. -/
def HeapOrdered (heap : List α) : Prop := ∀ i, 0 < i -> PairOrdered greater heap i

/-- The positions below `current` are not greater than the parent of
`current`. -/
def BelowGrandparent (heap : List α) (current : Nat) : Prop :=
  ∀ i, 0 < i -> parentIndex i = current -> 0 < current ->
    ∀ item grandparent, heap[i]? = some item ->
      heap[parentIndex current]? = some grandparent -> greater item grandparent = false

/-- Move the element at `current` up while it is greater than its parent.  The
first argument bounds the number of moves. -/
def siftUp : Nat -> List α -> Nat -> List α
  | 0, heap, _ => heap
  | fuel + 1, heap, current =>
      match heap[current]?, heap[parentIndex current]? with
      | some item, some parent =>
          if current ≠ 0 ∧ greater item parent then
            siftUp fuel (heap.swap (parentIndex current) current)
              (parentIndex current)
          else heap
      | _, _ => heap

/-- The position of the greater child, the left one on ties or when there is
no right child. -/
def biggestChild (heap : List α) (current : Nat) : Nat :=
  match heap[rightIndex current]?, heap[leftIndex current]? with
  | some right, some left => if greater right left then rightIndex current else leftIndex current
  | _, _ => leftIndex current

/-- Move the element at `current` down while its greater child is greater than
it.  The first argument bounds the number of moves. -/
def siftDown : Nat -> List α -> Nat -> List α
  | 0, heap, _ => heap
  | fuel + 1, heap, current =>
      match heap[biggestChild greater heap current]?, heap[current]? with
      | some child, some item =>
          if greater child item then
            siftDown fuel (heap.swap current (biggestChild greater heap current))
              (biggestChild greater heap current)
          else heap
      | _, _ => heap

theorem siftUp_perm (fuel : Nat) (heap : List α) (current : Nat) :
    (siftUp greater fuel heap current).Perm heap := by
  induction fuel generalizing heap current with
  | zero => exact List.Perm.refl _
  | succ fuel ih =>
    unfold siftUp
    split
    · split
      · exact (ih _ _).trans (List.swap_perm _ _ _)
      · exact List.Perm.refl _
    · exact List.Perm.refl _

theorem siftDown_perm (fuel : Nat) (heap : List α) (current : Nat) :
    (siftDown greater fuel heap current).Perm heap := by
  induction fuel generalizing heap current with
  | zero => exact List.Perm.refl _
  | succ fuel ih =>
    unfold siftDown
    split
    · split
      · exact (ih _ _).trans (List.swap_perm _ _ _)
      · exact List.Perm.refl _
    · exact List.Perm.refl _

theorem parentIndex_biggestChild (heap : List α) (current : Nat) :
    parentIndex (biggestChild greater heap current) = current := by
  unfold biggestChild parentIndex leftIndex rightIndex
  split
  · split <;> omega
  · omega

theorem lt_biggestChild (heap : List α) (current : Nat) :
    current < biggestChild greater heap current := by
  unfold biggestChild leftIndex rightIndex
  split
  · split <;> omega
  · omega

variable {heap : List α} {current : Nat}

theorem biggestChild_lt {i : Nat} (positive : 0 < i) (isChild : parentIndex i = current)
    (inside : i < heap.length) : biggestChild greater heap current < heap.length := by
  have leftLt : leftIndex current < heap.length := by
    rcases (parentIndex_eq_iff positive current).mp isChild with rfl | rfl
    · exact inside
    · unfold rightIndex at inside
      unfold leftIndex
      omega
  unfold biggestChild
  split
  next right left rightAt leftAt =>
    have rightLt := (List.getElem?_eq_some_iff.mp rightAt).1
    split <;> assumption
  next => exact leftLt

/-- Before a move up only the pair at `current` may be out of order, and the
elements below it may be put under its parent. -/
structure UpReady (heap : List α) (current : Nat) : Prop where
  ordered : ∀ i, 0 < i -> i ≠ current -> PairOrdered greater heap i
  below : BelowGrandparent greater heap current

theorem UpReady.heapOrdered {greater : α -> α -> Bool} (ready : UpReady greater heap current)
    (inOrder : 0 < current -> PairOrdered greater heap current) : HeapOrdered greater heap := by
  intro i positive
  by_cases iCurrent : i = current
  · subst iCurrent
    exact inOrder positive
  · exact ready.ordered i positive iCurrent

/-- Before a move down only the pairs below `current` may be out of order, and
the elements below it may be put under its parent. -/
structure DownReady (heap : List α) (current : Nat) : Prop where
  ordered : ∀ i, 0 < i -> parentIndex i ≠ current -> PairOrdered greater heap i
  below : BelowGrandparent greater heap current

theorem DownReady.heapOrdered {greater : α -> α -> Bool} (ready : DownReady greater heap current)
    (children : ∀ i, 0 < i -> parentIndex i = current -> PairOrdered greater heap i) :
    HeapOrdered greater heap := by
  intro i positive
  by_cases isChild : parentIndex i = current
  · exact children i positive isChild
  · exact ready.ordered i positive isChild

end Order

section StrictWeakOrder

variable {greater : α -> α -> Bool}
variable [IsStrictWeakOrder α (fun left right => greater left right = true)]

theorem greater_asymm {left right : α} (above : greater left right = true) :
    greater right left = false := by
  by_contra both
  have back : greater right left = true := by simpa using both
  have loop : greater left left = true :=
    IsTrans.trans (r := fun left right => greater left right = true)
      left right left above back
  exact Std.Irrefl.irrefl (r := fun left right => greater left right = true)
    left loop

theorem greater_irrefl (item : α) : greater item item = false := by
  by_contra loop
  have above : greater item item = true := by simpa using loop
  simp [greater_asymm above] at above

variable {first second third : α}

theorem greater_trans (above : greater first second = true) (below : greater second third = true) :
    greater first third = true :=
  IsTrans.trans (r := fun left right => greater left right = true)
    first second third above below

theorem not_greater_trans (left : greater first second = false)
    (right : greater second third = false) : greater first third = false := by
  by_contra above
  have firstThird : greater first third = true := by simpa using above
  have secondFirst : greater second first = false := by
    by_contra back
    have chain : greater second third = true := greater_trans (by simpa using back) firstThird
    simp [right] at chain
  have thirdSecond : greater third second = false := by
    by_contra back
    have chain : greater first second = true := greater_trans firstThird (by simpa using back)
    simp [left] at chain
  have weak : IsStrictWeakOrder α (fun left right => greater left right = true) := inferInstance
  have level := weak.incomp_trans first second third
    ⟨by simp [left], by simp [secondFirst]⟩
    ⟨by simp [right], by simp [thirdSecond]⟩
  exact level.1 firstThird

variable {item : α}

theorem not_greater_of_greater {upper lower : α} (below : greater item lower = false)
    (above : greater upper lower = true) : greater item upper = false := by
  by_contra exceeds
  have chain : greater item lower = true := greater_trans (by simpa using exceeds) above
  simp [below] at chain

variable {heap : List α} {current : Nat}

theorem UpReady.swap {parent : α} (ready : UpReady greater heap current) (positive : 0 < current)
    (itemAt : heap[current]? = some item) (parentAt : heap[parentIndex current]? = some parent)
    (above : greater item parent = true) :
    UpReady greater (heap.swap (parentIndex current) current) (parentIndex current) := by
  have parentBefore : parentIndex current < current := parentIndex_lt positive
  have currentLt : current < heap.length := (List.getElem?_eq_some_iff.mp itemAt).1
  have parentLt : parentIndex current < heap.length := by omega
  have read := getElem?_swap_of_lt parentLt currentLt
  constructor
  · intro i iPositive iNe entry entryParent entryAt entryParentAt
    rw [read] at entryAt entryParentAt
    rw [if_neg iNe] at entryAt
    by_cases iCurrent : i = current
    · subst iCurrent
      simp only [↓reduceIte, parentAt, Option.some.injEq] at entryAt
      simp only [↓reduceIte, itemAt, Option.some.injEq] at entryParentAt
      subst entryAt entryParentAt
      exact greater_asymm above
    · rw [if_neg iCurrent] at entryAt
      by_cases parentCurrent : parentIndex i = current
      · rw [parentCurrent, if_neg (by omega), if_pos rfl, parentAt] at entryParentAt
        cases entryParentAt
        exact ready.below i iPositive parentCurrent positive _ _ entryAt parentAt
      · by_cases siblings : parentIndex i = parentIndex current
        · rw [siblings, if_pos rfl, itemAt] at entryParentAt
          cases entryParentAt
          have underParent := ready.ordered i iPositive iCurrent entry parent entryAt
            (by rw [siblings]; exact parentAt)
          exact not_greater_of_greater underParent above
        · rw [if_neg siblings, if_neg parentCurrent] at entryParentAt
          exact ready.ordered i iPositive iCurrent _ _ entryAt entryParentAt
  · intro i iPositive iParent parentPositive entry grandparent entryAt grandAt
    have grandBefore := parentIndex_lt parentPositive
    rw [read] at entryAt grandAt
    rw [if_neg (by omega), if_neg (by omega)] at grandAt
    have parentUnder : greater parent grandparent = false :=
      ready.ordered _ parentPositive (by omega) _ _ parentAt grandAt
    by_cases iCurrent : i = current
    · subst iCurrent
      rw [if_neg (by omega), if_pos rfl, parentAt] at entryAt
      cases entryAt
      exact parentUnder
    · have iNe : i ≠ parentIndex current := by
        have := parentIndex_lt iPositive
        omega
      rw [if_neg iNe, if_neg iCurrent] at entryAt
      have underParent := ready.ordered i iPositive iCurrent _ _ entryAt
        (by rw [iParent]; exact parentAt)
      exact not_greater_trans underParent parentUnder

theorem siftUp_heapOrdered (fuel : Nat) (heap : List α) (current : Nat) (enough : current ≤ fuel)
    (ready : UpReady greater heap current) :
    HeapOrdered greater (siftUp greater fuel heap current) := by
  induction fuel generalizing heap current with
  | zero => exact ready.heapOrdered (fun positive => absurd positive (by omega))
  | succ fuel ih =>
    unfold siftUp
    split
    next item parent itemAt parentAt =>
      split
      next move =>
        have positive : 0 < current := Nat.pos_of_ne_zero move.1
        have parentBefore := parentIndex_lt positive
        exact ih _ _ (by omega)
          (ready.swap positive itemAt parentAt move.2)
      next stop =>
        refine ready.heapOrdered fun positive entry above entryAt aboveAt => ?_
        rw [itemAt] at entryAt
        rw [parentAt] at aboveAt
        cases entryAt
        cases aboveAt
        simpa [Nat.pos_iff_ne_zero.mp positive] using stop
    next outside =>
      refine ready.heapOrdered fun positive entry above entryAt aboveAt => ?_
      exact absurd aboveAt (outside entry above entryAt)

theorem not_greater_biggestChild {heap : List α} {current : Nat} {child : α}
    (childAt : heap[biggestChild greater heap current]? = some child) {i : Nat} (positive : 0 < i)
    (isChild : parentIndex i = current) {item : α} (itemAt : heap[i]? = some item) :
    greater item child = false := by
  have irreflexive : greater item item = false := greater_irrefl item
  unfold biggestChild at childAt
  rcases (parentIndex_eq_iff positive current).mp isChild with rfl | rfl
  · split at childAt
    next right left rightAt leftAt =>
      rw [leftAt] at itemAt
      cases itemAt
      split at childAt
      next exceeds =>
        rw [rightAt] at childAt
        cases childAt
        exact greater_asymm exceeds
      next =>
        rw [leftAt] at childAt
        cases childAt
        exact irreflexive
    next =>
      rw [itemAt] at childAt
      cases childAt
      exact irreflexive
  · have rightLt : rightIndex current < heap.length := (List.getElem?_eq_some_iff.mp itemAt).1
    have leftLt : leftIndex current < heap.length := by
      unfold rightIndex at rightLt
      unfold leftIndex
      omega
    obtain ⟨left, leftAt⟩ : ∃ left, heap[leftIndex current]? = some left :=
      ⟨_, List.getElem?_eq_getElem leftLt⟩
    rw [itemAt, leftAt] at childAt
    dsimp only at childAt
    split at childAt
    next =>
      rw [itemAt] at childAt
      cases childAt
      exact irreflexive
    next notExceeds =>
      rw [leftAt] at childAt
      cases childAt
      simpa using notExceeds

theorem DownReady.swap {child : α} (ready : DownReady greater heap current)
    (childAt : heap[biggestChild greater heap current]? = some child)
    (itemAt : heap[current]? = some item) (above : greater child item = true) :
    DownReady greater (heap.swap current (biggestChild greater heap current))
      (biggestChild greater heap current) := by
  have childParent := parentIndex_biggestChild greater heap current
  have currentBefore := lt_biggestChild greater heap current
  have biggest := @not_greater_biggestChild _ greater _ heap current child childAt
  generalize biggestChild greater heap current = position at *
  have positionLt : position < heap.length := (List.getElem?_eq_some_iff.mp childAt).1
  have currentLt : current < heap.length := by omega
  have read := getElem?_swap_of_lt currentLt positionLt
  constructor
  · intro i iPositive iNotBelow entry entryParent entryAt entryParentAt
    rw [read] at entryAt entryParentAt
    by_cases iCurrent : i = current
    · subst iCurrent
      have parentBefore := parentIndex_lt iPositive
      rw [if_pos rfl, childAt] at entryAt
      cases entryAt
      rw [if_neg (by omega), if_neg iNotBelow] at entryParentAt
      exact ready.below position (by omega) childParent iPositive _ _ childAt
        entryParentAt
    · rw [if_neg iCurrent] at entryAt
      by_cases below : parentIndex i = current
      · rw [if_pos below, childAt] at entryParentAt
        cases entryParentAt
        by_cases iPosition : i = position
        · rw [if_pos iPosition, itemAt] at entryAt
          cases entryAt
          exact greater_asymm above
        · rw [if_neg iPosition] at entryAt
          exact biggest iPositive below entryAt
      · rw [if_neg below, if_neg iNotBelow] at entryParentAt
        have iPosition : i ≠ position := by
          rintro rfl
          exact below childParent
        rw [if_neg iPosition] at entryAt
        exact ready.ordered i iPositive below _ _ entryAt entryParentAt
  · intro i iPositive iParent positionPositive entry grandparent entryAt grandAt
    have positionBefore : position < i := by
      have := parentIndex_lt iPositive
      omega
    rw [read] at entryAt grandAt
    rw [if_neg (by omega), if_neg (by omega)] at entryAt
    rw [childParent, if_pos rfl, childAt] at grandAt
    cases grandAt
    exact ready.ordered i iPositive (by omega) _ _ entryAt
      (by rw [iParent]; exact childAt)

theorem siftDown_heapOrdered (fuel : Nat) (heap : List α) (current : Nat)
    (enough : heap.length ≤ current + fuel) (ready : DownReady greater heap current) :
    HeapOrdered greater (siftDown greater fuel heap current) := by
  induction fuel generalizing heap current with
  | zero =>
    refine ready.heapOrdered fun i positive below entry parent entryAt parentAt => ?_
    have := (List.getElem?_eq_some_iff.mp parentAt).1
    omega
  | succ fuel ih =>
    unfold siftDown
    split
    next child item childAt itemAt =>
      split
      next move =>
        have := lt_biggestChild greater heap current
        exact ih _ _ (by simp; omega)
          (ready.swap childAt itemAt move)
      next stop =>
        refine ready.heapOrdered
          fun i positive below entry parent entryAt parentAt => ?_
        rw [below, itemAt] at parentAt
        cases parentAt
        exact not_greater_trans
          (not_greater_biggestChild childAt positive below entryAt)
          (by simpa using stop)
    next outside =>
      refine ready.heapOrdered
        fun i positive below entry parent entryAt parentAt => ?_
      rw [below] at parentAt
      have childInside := biggestChild_lt greater positive below
        (List.getElem?_eq_some_iff.mp entryAt).1
      exact absurd parentAt
        (outside _ parent (List.getElem?_eq_getElem childInside))

theorem HeapOrdered.not_greater_root (ordered : HeapOrdered greater heap) {root : α}
    (rootAt : heap[0]? = some root) (i : Nat) (itemAt : heap[i]? = some item) :
    greater item root = false := by
  induction i using Nat.strongRecOn generalizing item with
  | ind i ih =>
    by_cases positive : 0 < i
    · have before := parentIndex_lt positive
      have itemLt := (List.getElem?_eq_some_iff.mp itemAt).1
      have parentAt : heap[parentIndex i]? = some (heap[parentIndex i]) :=
        List.getElem?_eq_getElem (by omega)
      exact not_greater_trans (ordered i positive _ _ itemAt parentAt)
        (ih _ before parentAt)
    · have atRoot : i = 0 := by omega
      subst atRoot
      rw [rootAt] at itemAt
      cases itemAt
      exact greater_irrefl root

end StrictWeakOrder

theorem heapOrdered_map_iff {α β : Type*} (greater : β -> β -> Bool) (feature : α -> β)
    (heap : List α) :
    HeapOrdered greater (heap.map feature) ↔
      HeapOrdered (fun left right => greater (feature left) (feature right)) heap := by
  constructor
  · intro ordered i positive item parent itemAt parentAt
    exact ordered i positive (feature item) (feature parent)
      (by rw [List.getElem?_map, itemAt]; rfl) (by rw [List.getElem?_map, parentAt]; rfl)
  · intro ordered i positive item parent itemAt parentAt
    rw [List.getElem?_map] at itemAt parentAt
    obtain ⟨below, belowAt, isItem⟩ := Option.map_eq_some_iff.mp itemAt
    obtain ⟨above, aboveAt, isParent⟩ := Option.map_eq_some_iff.mp parentAt
    subst isItem isParent
    exact ordered i positive below above belowAt aboveAt

end Foundation
