import Zpc.Foundation.ParentForest
import Zpc.ZwaveTx.Callbacks

/-!
# Evictions

What the queue-full failsafe of a request takes out of the queue: the worst unsent frame and
everything queued below it, whatever the order of the array and of the session ids is.  Only
the session ids have to be distinct.
-/

namespace ZwaveTx

open Foundation
open ParentForest

/-- The session an element names as its parent. -/
def parentOf (element : QueueElement) : Option SessionId :=
  if element.options.transport.validParentSessionId then
    some element.options.transport.parentSessionId
  else none

theorem parentSessionIdEquals_iff {element : QueueElement} {parent : SessionId} :
    parentSessionIdEquals element parent = true ↔ parentOf element = some parent := by
  unfold parentSessionIdEquals parentOf
  cases element.options.transport.validParentSessionId <;> simp

namespace TxQueue

/-- A session is below a root among the queued elements. -/
def IsBelow (txQueue : TxQueue) (root session : SessionId) : Prop :=
  Below QueueElement.zwaveTxSessionId parentOf txQueue.elements root session

/-- Nothing below a root is above its own parent. -/
def AcyclicBelow (txQueue : TxQueue) (root : SessionId) : Prop :=
  Acyclic QueueElement.zwaveTxSessionId parentOf txQueue.elements root

/-- The number of elements below a root. -/
noncomputable def sizeBelow (txQueue : TxQueue) (root : SessionId) : Nat :=
  (strictlyBelow QueueElement.zwaveTxSessionId parentOf txQueue.elements root).length

theorem sizeBelow_lt (txQueue : TxQueue) (root : SessionId) :
    txQueue.sizeBelow root < 2 * txQueue.size + 1 := by
  have bound : txQueue.sizeBelow root ≤ txQueue.size := length_strictlyBelow_le _ _
  omega

variable {txQueue : TxQueue}

theorem Distinct.mem_pop_iff (distinct : txQueue.Distinct) (session : SessionId)
    (other : QueueElement) :
    other ∈ (txQueue.pop session).2.elements ↔
      other ∈ txQueue.elements ∧ other.zwaveTxSessionId ≠ session := by
  have found := distinct.find_pop session other.zwaveTxSessionId
  constructor
  · intro stays
    rw [(distinct.pop session).find_of_mem stays] at found
    split at found
    next => cases found
    next isOther => exact ⟨find_mem found.symm, isOther⟩
  · rintro ⟨mem, isOther⟩
    rw [if_neg isOther, distinct.find_of_mem mem] at found
    exact find_mem found

/-- The members of a queue agree and its limits are kept, whatever the counter is. -/
structure Coherent (txQueue : TxQueue) : Prop where
  counted : ∀ node,
    txQueue.perNodeFrameCount node = countEntry (singlecastCount node txQueue.elements)
  shared : ∀ node, singlecastCount node txQueue.elements ≤ zwaveTxQueueMaxFramesPerNode
  fits : txQueue.size ≤ zwaveTxQueueBufferSize
  distinct : txQueue.Distinct

theorem Consistent.coherent (consistent : txQueue.Consistent) : txQueue.Coherent :=
  ⟨consistent.counted, consistent.shared, consistent.fits, consistent.distinct⟩

theorem Coherent.pop (coherent : txQueue.Coherent) (session : SessionId) :
    (txQueue.pop session).2.Coherent := by
  cases found : txQueue.find session with
  | none =>
    rw [pop_absent found]
    exact coherent
  | some element =>
    obtain ⟨_, split, counts⟩ := pop_perm found
    have length := split.length_eq
    have fewer := singlecastCount_perm split
    simp only [singlecastCount_cons] at fewer
    refine ⟨fun node => ?_, fun node => ?_, ?_, coherent.distinct.pop session⟩
    · rw [counts]
      exact countedDown_eq coherent.counted split node
    · have := coherent.shared node
      have := fewer node
      omega
    · have := coherent.fits
      unfold size PriorityQueue.size at *
      unfold elements at length
      simp only [List.length_cons] at length
      omega

theorem Coherent.of_same {other : TxQueue} (coherent : txQueue.Coherent)
    (elements : other.elements = txQueue.elements)
    (counts : other.perNodeFrameCount = txQueue.perNodeFrameCount) : other.Coherent where
  counted node := by rw [counts, elements, coherent.counted]
  shared node := by rw [elements]; exact coherent.shared node
  fits := by
    have same : other.size = txQueue.size := congrArg List.length elements
    rw [same]
    exact coherent.fits
  distinct := by
    unfold Distinct
    rw [elements]
    exact coherent.distinct

end TxQueue

namespace TxProcess

variable {txQueue : TxQueue} {proc : TxProcess} {env : Surroundings}
  {request : SendRequest} {worst : QueueElement}

theorem isWithin_iff {root session : SessionId} :
    IsWithin txQueue root session ↔ txQueue.IsBelow root session := by
  constructor
  · intro within
    induction within with
    | root => exact Below.root
    | child _ mem isChild ih => exact Below.child ih mem (parentSessionIdEquals_iff.mp isChild)
  · intro isBelow
    induction isBelow with
    | refl => exact .root
    | tail _ isLinked ih =>
      obtain ⟨element, mem, isChild, rfl⟩ := isLinked
      exact .child ih mem (parentSessionIdEquals_iff.mpr isChild)

/-- With enough fuel, an eviction takes out the element and everything below it, and nothing
else. -/
theorem mem_evictSubtree_iff (fuel : Nat) (distinct : proc.txQueue.Distinct)
    {element : QueueElement} (mem : element ∈ proc.txQueue.elements)
    (acyclic : proc.txQueue.AcyclicBelow element.zwaveTxSessionId)
    (enough : proc.txQueue.sizeBelow element.zwaveTxSessionId < fuel) :
    (evictSubtree fuel proc element).txQueue.Distinct ∧
      ∀ other, other ∈ (evictSubtree fuel proc element).txQueue.elements ↔
        other ∈ proc.txQueue.elements ∧
          ¬proc.txQueue.IsBelow element.zwaveTxSessionId other.zwaveTxSessionId := by
  -- The induction is on the fuel: fewer elements are below a child than below its parent, and
  -- fewer are below the parent once the child is gone.
  induction fuel generalizing proc element with
  | zero => omega
  | succ fuel ih =>
    unfold evictSubtree
    split
    next child isNext =>
      obtain ⟨childMember, isChildOf⟩ := TxQueue.getHighestPriorityChild_mem isNext
      have isChild := parentSessionIdEquals_iff.mp isChildOf
      have childBelow : proc.txQueue.IsBelow element.zwaveTxSessionId
          child.zwaveTxSessionId := .child .root childMember isChild
      have fewerBelowChild := length_strictlyBelow_child distinct acyclic childMember isChild
      have noCircle := acyclic child childMember _ isChild .root
      obtain ⟨midDistinct, isMid⟩ := ih distinct childMember
        (acyclic.of_below childBelow) (by unfold TxQueue.sizeBelow at *; omega)
      generalize evictSubtree fuel proc child = mid at midDistinct isMid
      have subset : mid.txQueue.elements ⊆ proc.txQueue.elements :=
        fun other isOther => ((isMid other).mp isOther).1
      have elementStays : element ∈ mid.txQueue.elements := (isMid element).mpr ⟨mem, noCircle⟩
      have fewerLeft := length_strictlyBelow_removed midDistinct subset
        (mem_strictlyBelow.mpr
          ⟨childMember, childBelow, fun isRoot => noCircle (isRoot ▸ .root)⟩)
        fun stays => ((isMid child).mp stays).2 .root
      obtain ⟨afterDistinct, isAfter⟩ := ih midDistinct elementStays
        (acyclic.mono subset) (by unfold TxQueue.sizeBelow at *; omega)
      refine ⟨afterDistinct, fun other => ?_⟩
      rw [isAfter, isMid]
      constructor
      · rintro ⟨⟨wasQueued, notBelowChild⟩, notBelow⟩
        refine ⟨wasQueued, fun isBelow => ?_⟩
        rcases Below.split (fun item itemMember notBelow => (isMid item).mpr
          ⟨itemMember, notBelow⟩) isBelow with belowChild | stays
        · exact notBelowChild belowChild
        · exact notBelow stays
      · rintro ⟨wasQueued, notBelow⟩
        refine ⟨⟨wasQueued, fun belowChild => ?_⟩, fun stays => ?_⟩
        · exact notBelow (childBelow.trans belowChild)
        · exact notBelow (Below.mono subset stays)
    next isLast =>
      have childless : ∀ item ∈ proc.txQueue.elements,
          parentOf item ≠ some element.zwaveTxSessionId := by
        intro item itemMember isChild
        have notChild := TxQueue.scan_eq_none isLast item itemMember
        rw [parentSessionIdEquals_iff.mpr isChild] at notChild
        cases notChild
      refine ⟨distinct.pop _, fun other => ?_⟩
      change other ∈ (proc.txQueue.pop element.zwaveTxSessionId).2.elements ↔ _
      rw [distinct.mem_pop_iff]
      constructor
      · rintro ⟨wasQueued, isOther⟩
        exact ⟨wasQueued, fun isBelow => isOther (Below.eq_root childless isBelow)⟩
      · rintro ⟨wasQueued, notBelow⟩
        exact ⟨wasQueued, fun isRoot => notBelow (isRoot ▸ .root)⟩

theorem evictSubtree_coherent (fuel : Nat) (coherent : proc.txQueue.Coherent)
    (element : QueueElement) : (evictSubtree fuel proc element).txQueue.Coherent := by
  induction fuel generalizing proc element with
  | zero => exact coherent
  | succ fuel ih =>
    unfold evictSubtree
    split
    next child _ => exact ih (ih coherent child) element
    next => exact coherent.pop _

/-- The state in which a request is tried again after an eviction. -/
def evictedFor (env : Surroundings) (proc : TxProcess) (request : SendRequest)
    (worst : QueueElement) : TxProcess :=
  evictSubtree (2 * proc.txQueue.size + 1) (proc.refusedRequest env request) worst

theorem sendData_of_full (notRejected : proc.isRejected env request = false)
    (isFull : zwaveTxQueueBufferSize ≤ proc.txQueue.size)
    (isWorst : proc.txQueue.findWorstUnsentByQos = some worst) :
    proc.sendData env request =
      (proc.evictedFor env request worst).tryEnqueue
        (proc.newElement env request) := by
  rcases proc.sendData_cases env request with
    ⟨rejected, -⟩ | ⟨-, isAccepted, -⟩ | ⟨-, -, ⟨noEviction, -⟩ | ⟨evicted, -, isEvicted, evicts⟩⟩
  · exact absurd (rejected.symm.trans notRejected) Bool.true_eq_false.mp
  · exact absurd isFull (Nat.not_le_of_lt (TxQueue.enqueue_ok isAccepted).2.1)
  · rcases noEviction with room | nothing
    · exact absurd isFull (Nat.not_le_of_lt room)
    · rw [nothing] at isWorst
      cases isWorst
  · obtain rfl : evicted = worst := Option.some.inj (isEvicted.symm.trans isWorst)
    exact evicts

theorem findWorstUnsentByQos_parentOf (isWorst : txQueue.findWorstUnsentByQos = some worst) :
    worst ∈ txQueue.elements ∧ worst.transmissionTimestamp = 0 ∧ parentOf worst = none := by
  obtain ⟨mem, passes⟩ := TxQueue.scan_mem isWorst
  unfold TxQueue.unsentStandalone at passes
  simp only [Bool.and_eq_true, beq_iff_eq, Bool.not_eq_true'] at passes
  exact ⟨mem, passes.1, by simp [parentOf, passes.2]⟩

theorem mem_evictedFor_iff (distinct : proc.txQueue.Distinct)
    (refused : (proc.txQueue.enqueue proc.clockTime (proc.newElement env request)).1 ≠ .ok)
    (isWorst : proc.txQueue.findWorstUnsentByQos = some worst) (other : QueueElement) :
    other ∈ (proc.evictedFor env request worst).txQueue.elements ↔
      other ∈ proc.txQueue.elements ∧
        ¬IsWithin proc.txQueue worst.zwaveTxSessionId other.zwaveTxSessionId := by
  obtain ⟨mem, -, parentless⟩ := findWorstUnsentByQos_parentOf isWorst
  have sameElements := refusedRequest_elements env proc refused
  have acyclic : proc.txQueue.AcyclicBelow worst.zwaveTxSessionId :=
    acyclic_of_parentless distinct mem parentless
  have enough := proc.txQueue.sizeBelow_lt worst.zwaveTxSessionId
  rw [isWithin_iff]
  unfold TxQueue.Distinct at distinct
  unfold TxQueue.AcyclicBelow at acyclic
  unfold TxQueue.sizeBelow at enough
  unfold TxQueue.IsBelow
  rw [← sameElements] at distinct mem acyclic enough ⊢
  exact (mem_evictSubtree_iff _ distinct mem acyclic enough).2 other

theorem evictedFor_coherent (coherent : proc.txQueue.Coherent)
    (refused : (proc.txQueue.enqueue proc.clockTime (proc.newElement env request)).1 ≠ .ok)
    (worst : QueueElement) : (proc.evictedFor env request worst).txQueue.Coherent := by
  obtain ⟨sameElements, sameCounts, -⟩ := TxQueue.enqueue_rejected refused
  have refusedCoherent : (proc.refusedRequest env request).txQueue.Coherent :=
    coherent.of_same sameElements sameCounts
  exact evictSubtree_coherent _ refusedCoherent worst

theorem remote_newElement (env : Surroundings) (proc : TxProcess) (request : SendRequest) :
    let element := proc.newElement env request
    element.connectionInfo.remote.isMulticast = request.connection.remote.isMulticast ∧
      element.connectionInfo.remote.nodeId = request.connection.remote.nodeId := by
  unfold newElement
  dsimp only
  split <;> exact ⟨rfl, rfl⟩

theorem enqueue_ok_iff_of_room (room : txQueue.size < zwaveTxQueueBufferSize) (now : ClockTime)
    (element : QueueElement) :
    (txQueue.enqueue now element).1 = .ok ↔ txQueue.perNodeLimitReached element = false := by
  unfold TxQueue.enqueue
  cases limit : txQueue.perNodeLimitReached element with
  | true => simp
  | false =>
    have inserted := (txQueue.queue.insert_perm queueElementQosCompare
      (txQueue.stored now element) room).1
    simp [inserted]

theorem singlecastCount_le_of_subset {elements other : List QueueElement} (node : NodeId)
    (nodup : elements.Nodup)
    (kept : ∀ element ∈ elements,
      TxQueue.singlecastTowards node element.connectionInfo = true -> element ∈ other) :
    TxQueue.singlecastCount node elements ≤ TxQueue.singlecastCount node other := by
  unfold TxQueue.singlecastCount
  rw [List.countP_map, List.countP_map, List.countP_eq_length_filter, List.countP_eq_length_filter]
  refine (List.subperm_of_subset (nodup.filter _) fun element mem => ?_).length_le
  obtain ⟨mem, towards⟩ := List.mem_filter.mp mem
  exact List.mem_filter.mpr ⟨kept element mem towards, towards⟩

/-- After an eviction there is room, and an attempt is refused exactly when the destination
has used up its share and none of the evicted frames is towards it. -/
theorem refused_after_eviction_iff {evicted : TxProcess} (coherent : proc.txQueue.Coherent)
    (afterCoherent : evicted.txQueue.Coherent) (worstMember : worst ∈ proc.txQueue.elements)
    (remains : ∀ other, other ∈ evicted.txQueue.elements ↔
      other ∈ proc.txQueue.elements ∧
        ¬IsWithin proc.txQueue worst.zwaveTxSessionId other.zwaveTxSessionId)
    (env : Surroundings)
    (before : TxProcess)
    (request : SendRequest)
    (now : ClockTime) :
    (evicted.txQueue.enqueue now (before.newElement env request)).1 ≠ .ok ↔
      request.connection.remote.isMulticast = false ∧
        zwaveTxQueueMaxFramesPerNode ≤
          TxQueue.singlecastCount request.connection.remote.nodeId proc.txQueue.elements ∧
        ∀ element ∈ proc.txQueue.elements,
          IsWithin proc.txQueue worst.zwaveTxSessionId element.zwaveTxSessionId ->
            TxQueue.singlecastTowards request.connection.remote.nodeId
              element.connectionInfo = false := by
  obtain ⟨isMulticast, nodeId⟩ := before.remote_newElement env request
  have subset : evicted.txQueue.elements ⊆ proc.txQueue.elements :=
    fun other stays => ((remains other).mp stays).1
  have room : evicted.txQueue.size < zwaveTxQueueBufferSize := by
    have shorter := length_lt_of_missing afterCoherent.distinct subset worstMember
      fun stays => ((remains worst).mp stays).2 .root
    exact Nat.lt_of_lt_of_le shorter coherent.fits
  have shareUsedUp : evicted.txQueue.perNodeLimitReached
        (before.newElement env request) = true ↔
      request.connection.remote.isMulticast = false ∧
        zwaveTxQueueMaxFramesPerNode ≤
          TxQueue.singlecastCount request.connection.remote.nodeId evicted.txQueue.elements := by
    unfold TxQueue.perNodeLimitReached
    rw [isMulticast, nodeId, afterCoherent.counted, TxQueue.countEntry_getD]
    simp
  rw [ne_eq, enqueue_ok_iff_of_room room, Bool.not_eq_false, shareUsedUp]
  refine and_congr_right fun _ => ?_
  constructor
  · intro usedUp
    have fewer := singlecastCount_le_of_subset request.connection.remote.nodeId
      (afterCoherent.distinct.of_map : evicted.txQueue.elements.Nodup)
      fun element stays _ => subset stays
    refine ⟨Nat.le_trans usedUp fewer, fun element mem within => ?_⟩
    rw [← Bool.not_eq_true]
    intro towards
    -- An evicted frame towards the destination would have made room in its share.
    have lost : (element :: evicted.txQueue.elements).Subperm proc.txQueue.elements :=
      List.subperm_of_subset
        (List.nodup_cons.mpr ⟨fun stays => ((remains element).mp stays).2 within,
          afterCoherent.distinct.of_map⟩)
        (List.cons_subset.mpr ⟨mem, subset⟩)
    have counts := lost.countP_le
      (TxQueue.singlecastTowards request.connection.remote.nodeId ∘ QueueElement.connectionInfo)
    rw [← List.countP_map, ← List.countP_map] at counts
    change TxQueue.singlecastCount _ (element :: _) ≤ TxQueue.singlecastCount _ _ at counts
    rw [TxQueue.singlecastCount_cons, if_pos towards] at counts
    have := coherent.shared request.connection.remote.nodeId
    omega
  · rintro ⟨usedUp, noneTowards⟩
    refine Nat.le_trans usedUp (singlecastCount_le_of_subset _ coherent.distinct.of_map ?_)
    intro element mem towards
    refine (remains element).mpr ⟨mem, fun within => ?_⟩
    rw [noneTowards element mem within] at towards
    cases towards

/-- Eight frames towards each of eight nodes; those towards node 5 have the highest
priority. -/
def fullQueueRun : List Action :=
  (List.range 8).flatMap fun node =>
    List.replicate 8 (.sendData {} (sampleRequest (node + 5) 0 (20 - node)))

/-- A frame towards node 20 with a session as its parent. -/
def requestBelow (parent : SessionId) (qosPriority : Nat) : SendRequest :=
  { sampleRequest 20 0 qosPriority with
    options :=
      { numberOfResponses := 0
        qosPriority := qosPriority
        transport := { parentSessionId := parent, validParentSessionId := true } } }

end TxProcess

end ZwaveTx
