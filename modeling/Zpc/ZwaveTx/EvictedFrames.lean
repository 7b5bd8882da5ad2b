import Zpc.ZwaveTx.Evictions

/-!
# The frames a full queue evicts

The failsafe takes the frame with the lowest priority among the unsent standalone ones, and
what is queued below it.  It looks neither at the frames below it, which may be on their way
already, nor at the priority of the frame it makes room for.
-/

namespace ZwaveTx

open Foundation
open ParentForest

namespace TxQueue

theorem foldl_keepWorse_le {candidate : QueueElement -> Bool} {elements : List QueueElement}
    {best : Option QueueElement} {kept : QueueElement}
    (result : elements.foldl
      (keepBetter candidate fun element worst => queueElementQosCompare worst element) best =
        some kept) :
    (∀ element, best = some element -> kept.options.qosPriority ≤ element.options.qosPriority) ∧
      ∀ element ∈ elements, candidate element = true ->
        kept.options.qosPriority ≤ element.options.qosPriority := by
  induction elements generalizing best with
  | nil =>
    refine ⟨fun element isBest => ?_, by simp⟩
    have same := Option.some.inj (isBest.symm.trans result)
    exact Nat.le_of_eq (by rw [same])
  | cons head rest ih =>
    obtain ⟨below, rest⟩ := ih result
    rw [List.forall_mem_cons, ← and_assoc]
    refine ⟨?_, rest⟩
    -- One round keeps an element that is as low as the best one and as the head.
    by_cases passes : candidate head = true
    · cases isBest : best with
      | none =>
        refine ⟨by simp, fun _ => below head ?_⟩
        simp [keepBetter, passes, isBest]
      | some worst =>
        by_cases lower : queueElementQosCompare worst head = true
        · have headKept := below head (by simp [keepBetter, passes, isBest, lower])
          have isLower : head.options.qosPriority < worst.options.qosPriority := by
            simpa [queueElementQosCompare] using lower
          refine ⟨fun element same => ?_, fun _ => headKept⟩
          rw [← Option.some.inj same]
          omega
        · have worstKept := below worst (by simp [keepBetter, passes, isBest, lower])
          have notLower : worst.options.qosPriority ≤ head.options.qosPriority := by
            simpa [queueElementQosCompare] using lower
          refine ⟨fun element same => ?_, fun _ => by omega⟩
          rwa [← Option.some.inj same]
    · refine ⟨fun element isBest => below element ?_, fun isCandidate => absurd isCandidate passes⟩
      simp [keepBetter, passes, isBest]

theorem findWorstUnsentByQos_le {txQueue : TxQueue} {worst : QueueElement}
    (isWorst : txQueue.findWorstUnsentByQos = some worst) {element : QueueElement}
    (mem : element ∈ txQueue.elements) (isCandidate : unsentStandalone element = true) :
    worst.options.qosPriority ≤ element.options.qosPriority :=
  (foldl_keepWorse_le isWorst).2 element mem isCandidate

end TxQueue

namespace TxProcess

/-- Exactly the family of a root was evicted: the root is unsent and stands alone with the
lowest priority of such frames, which is not above that of the incoming frame, and nothing of
the family was sent. -/
structure EvictsFamilyOf
    (before after : TxQueue)
    (incoming root : QueueElement) : Prop where
  queued : root ∈ before.elements
  standalone : TxQueue.unsentStandalone root = true
  lowest : ∀ other ∈ before.elements, TxQueue.unsentStandalone other = true ->
    root.options.qosPriority ≤ other.options.qosPriority
  family : ∀ other, other ∈ after.elements ↔
    other ∈ before.elements ∧ ¬IsWithin before root.zwaveTxSessionId other.zwaveTxSessionId
  nothingSent : ∀ other ∈ before.elements, other ∉ after.elements -> other.transmissionTimestamp = 0
  notAbove : root.options.qosPriority ≤ incoming.options.qosPriority

/-- Nothing below the worst unsent frame was sent, and its priority is not above that of the
incoming frame. -/
structure MayBeEvicted (txQueue : TxQueue) (incoming worst : QueueElement) : Prop where
  nothingSent : ∀ other ∈ txQueue.elements,
    IsWithin txQueue worst.zwaveTxSessionId other.zwaveTxSessionId ->
      other.transmissionTimestamp = 0
  notAbove : worst.options.qosPriority ≤ incoming.options.qosPriority

theorem EvictsFamilyOf.root_eq {before after : TxQueue} {incoming root worst : QueueElement}
    (evicts : EvictsFamilyOf before after incoming root) (distinct : before.Distinct)
    (worstMember : worst ∈ before.elements)
    (remains : ∀ other, other ∈ after.elements ↔
      other ∈ before.elements ∧ ¬IsWithin before worst.zwaveTxSessionId other.zwaveTxSessionId) :
    root = worst := by
  have rootGone : root ∉ after.elements := fun stays => ((evicts.family root).mp stays).2 .root
  have rootBelow : before.IsBelow worst.zwaveTxSessionId root.zwaveTxSessionId := by
    by_contra outside
    exact rootGone ((remains root).mpr
      ⟨evicts.queued, fun within => outside (isWithin_iff.mp within)⟩)
  have parentless : parentOf root = none := by
    have passes := evicts.standalone
    simp only [TxQueue.unsentStandalone, Bool.and_eq_true, Bool.not_eq_true'] at passes
    simp [parentOf, passes.2]
  rcases rootBelow.eq_or_parent distinct evicts.queued rfl with same | ⟨parent, isChild, _⟩
  · exact distinct.eq_of_key_eq _ evicts.queued worstMember same
  · rw [parentless] at isChild
    cases isChild

/-- A request for a full queue leaves it as it is when there is no unsent standalone frame.
Otherwise it is tried again after an eviction, which takes exactly the family of the worst
unsent frame, with nothing that was sent and no higher priority, exactly when that family may
be evicted. -/
theorem evicts_family_iff {proc : TxProcess} (distinct : proc.txQueue.Distinct)
    (isFull : zwaveTxQueueBufferSize ≤ proc.txQueue.size) {env : Surroundings}
    {request : SendRequest} (notRejected : proc.isRejected env request = false) :
    (proc.txQueue.findWorstUnsentByQos = none ->
      (proc.sendData env request).2.txQueue.elements = proc.txQueue.elements) ∧
    ∀ worst, proc.txQueue.findWorstUnsentByQos = some worst ->
      proc.sendData env request =
        (proc.evictedFor env request worst).tryEnqueue
          (proc.newElement env request) ∧
      ((∃ root, EvictsFamilyOf proc.txQueue
          (proc.evictedFor env request worst).txQueue
          (proc.newElement env request) root) ↔
        MayBeEvicted proc.txQueue (proc.newElement env request) worst) := by
  have refused : (proc.txQueue.enqueue proc.clockTime
      (proc.newElement env request)).1 ≠ .ok := fun accepted =>
    Nat.not_le_of_lt (TxQueue.enqueue_ok accepted).2.1 isFull
  constructor
  · intro nothing
    rcases proc.sendData_cases env request with
      ⟨rejected, -⟩ | ⟨-, isAccepted, -⟩ | ⟨-, -, ⟨-, fails⟩ | ⟨worst, -, isWorst, -⟩⟩
    · rw [notRejected] at rejected
      cases rejected
    · exact absurd isAccepted refused
    · rw [fails]
      exact refusedRequest_elements env proc refused
    · rw [nothing] at isWorst
      cases isWorst
  · intro worst isWorst
    refine ⟨sendData_of_full notRejected isFull isWorst, ?_⟩
    have remains := mem_evictedFor_iff distinct refused isWorst
    obtain ⟨worstMember, passes⟩ := TxQueue.scan_mem isWorst
    constructor
    · rintro ⟨root, family⟩
      obtain rfl := family.root_eq distinct worstMember remains
      refine ⟨fun other mem within => ?_, family.notAbove⟩
      exact family.nothingSent other mem fun stays => ((remains other).mp stays).2 within
    · intro may
      refine ⟨worst, worstMember, passes,
        fun other mem => TxQueue.findWorstUnsentByQos_le isWorst mem, remains, ?_,
        may.notAbove⟩
      intro other mem gone
      refine may.nothingSent other mem ?_
      by_contra outside
      exact gone ((remains other).mpr ⟨mem, outside⟩)

/-- A full queue in which nothing was sent, and a frame with a high priority. -/
theorem evicts_family_sample : let proc := run step initial fullQueueRun
    let request := sampleRequest 20 0 30
    ∀ worst, proc.txQueue.findWorstUnsentByQos = some worst ->
      ∃ root, EvictsFamilyOf proc.txQueue (proc.evictedFor {} request worst).txQueue
        (proc.newElement {} request) root := by
  intro proc request worst isWorst
  obtain ⟨distinct, isFull, notRejected, unsent⟩ :
      (proc.txQueue.elements.map QueueElement.zwaveTxSessionId).Nodup ∧
      zwaveTxQueueBufferSize ≤ proc.txQueue.size ∧
      proc.isRejected {} request = false ∧
      ∀ other ∈ proc.txQueue.elements,
        other.transmissionTimestamp = 0 ∧
          other.options.qosPriority ≤ (proc.newElement {} request).options.qosPriority := by
    decide +kernel
  obtain ⟨worstMember, -⟩ := TxQueue.scan_mem isWorst
  exact (((evicts_family_iff distinct isFull notRejected).2 worst isWorst).2).mpr
    ⟨fun other mem _ => (unsent other mem).1, (unsent worst worstMember).2⟩

/-- A frame with a low priority has a frame with a higher one evicted. -/
theorem not_evictsFamilyOf_lowPriority : let proc := run step initial fullQueueRun
    let request := sampleRequest 20 0 1
    (proc.sendData {} request).1 = .ok ∧
      ∀ worst, proc.txQueue.findWorstUnsentByQos = some worst ->
        ¬∃ root, EvictsFamilyOf proc.txQueue (proc.evictedFor {} request worst).txQueue
          (proc.newElement {} request) root := by
  intro proc request
  have above : (proc.sendData {} request).1 = .ok ∧
      ∀ other ∈ proc.txQueue.elements,
        (proc.newElement {} request).options.qosPriority < other.options.qosPriority := by
    decide +kernel
  constructor
  · exact above.1
  · intro worst isWorst evicts
    obtain ⟨root, family⟩ := evicts
    exact Nat.not_le_of_lt (above.2 root family.queued) family.notAbove

end TxProcess

end ZwaveTx
