import Zpc.Foundation.Gathering
import Zpc.ZwaveTx.FailedRequests

/-!
# Families of queued frames

`find_root` climbs to the topmost queued ancestor of a frame, and `collect_descendants` gathers
what is queued below a root, parents first.  Both end for any links between the frames; the
first one is right about any forest, whether the links at its top are broken or not.
-/

namespace ZwaveTx

open Foundation
open ParentForest

namespace TxQueue

/-- No queued session is above its own parent. -/
def IsForest (txQueue : TxQueue) : Prop := ∀ root, txQueue.AcyclicBelow root

variable {txQueue : TxQueue} {session root : SessionId} {element : QueueElement}
  {elements : List QueueElement} {ids : List SessionId}

theorem isForest_of_smaller
    (smaller : ∀ element ∈ txQueue.elements, ∀ parent, parentOf element = some parent ->
      parent < element.zwaveTxSessionId) :
    txQueue.IsForest :=
  fun root => acyclic_of_rank (fun session => session) smaller root

/-- A session is queued at a root or below it. -/
structure IsInTree (txQueue : TxQueue) (root session : SessionId) : Prop where
  queued : (txQueue.find session).isSome
  below : txQueue.IsBelow root session

/-- A session is the topmost queued ancestor of another one: it names no parent, or one that is
not queued. -/
structure IsTopmostAncestor (txQueue : TxQueue) (session root : SessionId) : Prop where
  queued : (txQueue.find root).isSome
  above : txQueue.IsBelow root session
  topmost : ∀ element, txQueue.find root = some element ->
    ∀ parent, parentOf element = some parent -> txQueue.find parent = none

theorem climb_isTopmostAncestor (distinct : txQueue.Distinct) (forest : txQueue.IsForest)
    (hops : Nat) (found : txQueue.find session = some element)
    (enough : (atOrAbove QueueElement.zwaveTxSessionId parentOf txQueue.elements
      session).length ≤ hops) :
    txQueue.IsTopmostAncestor session (climb hops txQueue session) := by
  induction hops generalizing session element with
  | zero =>
    have mem : element ∈ atOrAbove QueueElement.zwaveTxSessionId parentOf
        txQueue.elements session :=
      mem_atOrAbove.mpr ⟨find_mem found, find_session found ▸ Below.root⟩
    have nonempty := List.length_pos_of_mem mem
    omega
  | succ hops ih =>
    have stays (topmost : ∀ parent, parentOf element = some parent ->
        txQueue.find parent = none) : txQueue.IsTopmostAncestor session session := by
      refine ⟨by simp [found], Below.root, fun other isOther => ?_⟩
      rw [← Option.some.inj (found.symm.trans isOther)]
      exact topmost
    unfold climb
    rw [found]
    dsimp only
    split
    next isChild =>
      have isParent : parentOf element = some element.options.transport.parentSessionId :=
        if_pos isChild
      split
      next noParent =>
        refine stays fun parent isOther => ?_
        rw [← Option.some.inj (isParent.symm.trans isOther)]
        exact noParent
      next parent foundParent =>
        have fewer := length_atOrAbove_parent distinct
          (forest element.options.transport.parentSessionId) (find_mem found) isParent
          Below.root
        rw [find_session found] at fewer
        have isTopmost := ih foundParent (by omega)
        have isLast := isTopmost.above.child (find_mem found) isParent
        rw [find_session found] at isLast
        exact ⟨isTopmost.queued, isLast, isTopmost.topmost⟩
    next isRoot =>
      refine stays fun parent isParent => ?_
      unfold parentOf at isParent
      rw [if_neg isRoot] at isParent
      cases isParent

theorem findRoot_isTopmostAncestor (distinct : txQueue.Distinct) (forest : txQueue.IsForest)
    (found : txQueue.find session = some element) :
    txQueue.IsTopmostAncestor session (txQueue.findRoot session) :=
  climb_isTopmostAncestor distinct forest txQueue.size found (length_atOrAbove_le _ _)

theorem Gathers.sweepDescendants
    (gathers : Gathers QueueElement.zwaveTxSessionId parentOf elements root ids)
    {swept : List QueueElement} (subset : swept ⊆ elements) :
    Gathers QueueElement.zwaveTxSessionId parentOf elements root
      (TxQueue.sweepDescendants swept ids) := by
  unfold TxQueue.sweepDescendants
  induction swept generalizing ids with
  | nil => exact gathers
  | cons element rest ih =>
    obtain ⟨mem, restSubset⟩ := List.cons_subset.mp subset
    rw [List.foldl_cons]
    refine ih ?_ restSubset
    split
    next => exact gathers
    next isNew =>
      split
      next isChild =>
        rw [Bool.and_eq_true, decide_eq_true_eq] at isChild
        exact gathers.add mem (if_pos isChild.1) isChild.2 isNew
      next => exact gathers

theorem sweepDescendants_extends (elements : List QueueElement) (ids : List SessionId) :
    ids <+: sweepDescendants elements ids ∧
      ∀ element ∈ elements, ∀ parent, parentOf element = some parent -> parent ∈ ids ->
        element.zwaveTxSessionId ∈ sweepDescendants elements ids := by
  unfold sweepDescendants
  induction elements generalizing ids with
  | nil => exact ⟨List.prefix_refl ids, by simp⟩
  | cons element rest ih =>
    rw [List.foldl_cons]
    generalize swept : (if element.zwaveTxSessionId ∈ ids then ids else _) = next
    obtain ⟨isPrefix, closes⟩ := ih next
    have grows : ids <+: next := by
      rw [← swept]
      split
      · exact List.prefix_refl ids
      · split
        · exact List.prefix_append ids _
        · exact List.prefix_refl ids
    refine ⟨grows.trans isPrefix, List.forall_mem_cons.mpr ⟨?_, ?_⟩⟩
    · intro parent isChild isGathered
      refine isPrefix.subset ?_
      unfold parentOf at isChild
      split at isChild
      next isValid =>
        cases isChild
        rw [← swept]
        split
        next already => exact already
        next =>
          rw [isValid, decide_eq_true isGathered]
          exact List.mem_append_right ids (List.mem_singleton_self _)
      next => cases isChild
    · intro other mem parent isChild isGathered
      exact closes other mem parent isChild (grows.subset isGathered)

theorem closed_of_sweepDescendants
    (sameLength : (sweepDescendants elements ids).length = ids.length) :
    sweepDescendants elements ids = ids ∧
      ClosedUnderChildren QueueElement.zwaveTxSessionId parentOf elements ids := by
  obtain ⟨isPrefix, closes⟩ := sweepDescendants_extends elements ids
  have same : ids = sweepDescendants elements ids := isPrefix.eq_of_length sameLength.symm
  refine ⟨same.symm, fun element mem parent isChild isGathered => ?_⟩
  rw [same]
  exact closes element mem parent isChild isGathered

theorem sweepUntilStable_gathers (fuel : Nat)
    (rootKey : root ∈ elements.map QueueElement.zwaveTxSessionId)
    (gathers : Gathers QueueElement.zwaveTxSessionId parentOf elements root ids)
    (enough : elements.length < fuel + ids.length) :
    Gathers QueueElement.zwaveTxSessionId parentOf elements root
        (sweepUntilStable fuel elements ids) ∧
      sweepDescendants elements (sweepUntilStable fuel elements ids) =
        sweepUntilStable fuel elements ids ∧
      ClosedUnderChildren QueueElement.zwaveTxSessionId parentOf elements
        (sweepUntilStable fuel elements ids) := by
  induction fuel generalizing ids with
  | zero =>
    have fits := gathers.length_le rootKey
    omega
  | succ fuel ih =>
    unfold sweepUntilStable
    split
    next sameLength => exact ⟨gathers, closed_of_sweepDescendants sameLength⟩
    next grows =>
      have longer := (sweepDescendants_extends elements ids).1.length_le
      exact ih (Gathers.sweepDescendants gathers (List.Subset.refl elements))
        (by omega)

theorem collectDescendants_gathers (found : txQueue.find root = some element) :
    Gathers QueueElement.zwaveTxSessionId parentOf txQueue.elements root
        (txQueue.collectDescendants root) ∧
      sweepDescendants txQueue.elements (txQueue.collectDescendants root) =
        txQueue.collectDescendants root ∧
      ClosedUnderChildren QueueElement.zwaveTxSessionId parentOf txQueue.elements
        (txQueue.collectDescendants root) := by
  have rootKey : root ∈ txQueue.elements.map QueueElement.zwaveTxSessionId :=
    List.mem_map.mpr ⟨element, find_mem found, find_session found⟩
  have enough : txQueue.elements.length < txQueue.size + 1 + [root].length := by
    show txQueue.elements.length < txQueue.elements.length + 1 + 1
    omega
  unfold collectDescendants
  rw [found]
  exact sweepUntilStable_gathers (txQueue.size + 1) rootKey .root enough

theorem sweepDescendants_collectDescendants (txQueue : TxQueue) (root : SessionId) :
    sweepDescendants txQueue.elements (txQueue.collectDescendants root) =
      txQueue.collectDescendants root := by
  cases found : txQueue.find root with
  | some element => exact (collectDescendants_gathers found).2.1
  | none =>
    have nothing : txQueue.collectDescendants root = [] := by
      unfold collectDescendants
      rw [found]
    have addsNothing (elements : List QueueElement) : sweepDescendants elements [] = [] := by
      unfold sweepDescendants
      induction elements with
      | nil => rfl
      | cons element rest ih => simpa using ih
    rw [nothing, addsNothing]

theorem mem_collectDescendants_iff (found : txQueue.find root = some element)
    (session : SessionId) :
    session ∈ txQueue.collectDescendants root ↔ txQueue.IsInTree root session := by
  obtain ⟨gathers, -, isClosed⟩ := collectDescendants_gathers found
  constructor
  · intro isGathered
    refine ⟨?_, gathers.isBelow isGathered⟩
    rcases gathers.eq_root_or_key isGathered with rfl | isKey
    · simp [found]
    · obtain ⟨other, mem, rfl⟩ := List.mem_map.mp isKey
      exact (lookup_isSome_iff _).mpr ⟨other, mem, rfl⟩
  · exact fun inTree => gathers.complete isClosed inTree.below

theorem notMem_of_below (distinct : txQueue.Distinct) (forest : txQueue.IsForest)
    (found : txQueue.find root = some element) {left taken : List SessionId}
    (isTree : txQueue.collectDescendants root = left ++ taken) {upper lower : SessionId}
    (inTree : txQueue.IsInTree root upper) (isBelow : txQueue.IsBelow upper lower)
    (queued : (txQueue.find lower).isSome) (isLeft : lower ∉ taken) : upper ∉ taken := by
  have lowerMember := (mem_collectDescendants_iff found lower).mpr
    ⟨queued, inTree.below.trans isBelow⟩
  obtain ⟨gathers, -⟩ := collectDescendants_gathers found
  rw [isTree] at lowerMember gathers
  have lowerLeft := (List.mem_append.mp lowerMember).resolve_right isLeft
  have upperLeft := Gathers.above_mem distinct (forest root)
    (gathers.of_append (List.ne_nil_of_mem lowerLeft)) inTree.below isBelow lowerLeft
  exact fun isTaken => (List.nodup_append.mp gathers.nodup).2.2 upper upperLeft upper isTaken rfl

end TxQueue

end ZwaveTx
