import Zpc.ZwaveTx.Evictions

/-!
# Parents of queued frames

A frame with a parent is queued with a higher priority than its parent, so a child is sent
before its parent goes on.  A request keeps this, unless the failsafe evicts the very parent
of the frame it makes room for: the parent was looked up before the eviction.
-/

namespace ZwaveTx

open Foundation
open ParentForest

def zwaveTxQosMaxPriority : Nat := 0xFFFFFF00

namespace TxQueue

/-- Every parent is queued, with a lower priority than its children. -/
def ChildrenOutrank (txQueue : TxQueue) : Prop :=
  ∀ element ∈ txQueue.elements, ∀ session, parentOf element = some session ->
    ∃ parent ∈ txQueue.elements, parent.zwaveTxSessionId = session ∧
      parent.options.qosPriority < element.options.qosPriority

/-- Children outrank their parents, and every priority was given by a user or is one more than
that of the parent. -/
structure Ranked (txQueue : TxQueue) : Prop where
  parents : txQueue.ChildrenOutrank
  given : ∀ element ∈ txQueue.elements,
    element.options.qosPriority ≤ zwaveTxQosMaxPriority ∨
      ∃ parent ∈ txQueue.elements, parentOf element = some parent.zwaveTxSessionId ∧
        element.options.qosPriority = parent.options.qosPriority + 1

/-- The number of elements with a lower priority. -/
def outranked (txQueue : TxQueue) (element : QueueElement) : Nat :=
  txQueue.elements.countP fun other =>
    decide (other.options.qosPriority < element.options.qosPriority)

variable {txQueue : TxQueue} {element : QueueElement}

theorem Ranked.qosPriority_le (ranked : txQueue.Ranked) (priority : Nat)
    (mem : element ∈ txQueue.elements) (isPriority : element.options.qosPriority = priority) :
    element.options.qosPriority ≤ zwaveTxQosMaxPriority + txQueue.outranked element := by
  induction priority generalizing element with
  | zero => omega
  | succ priority ih =>
    rcases ranked.given element mem with isGiven | ⟨parent, isParent, _, raised⟩
    · omega
    · have below := ih isParent (by omega)
      -- The parent itself is one more element with a lower priority.
      have more : txQueue.outranked parent < txQueue.outranked element := by
        have split := List.perm_cons_erase isParent
        unfold outranked
        rw [split.countP_eq, split.countP_eq, List.countP_cons_of_neg (by simp),
          List.countP_cons_of_pos (by simp; omega)]
        refine Nat.lt_succ_of_le (List.countP_mono_left fun other _ lower => ?_)
        simp only [decide_eq_true_eq] at lower ⊢
        omega
      omega

theorem Ranked.qosPriority_lt (ranked : txQueue.Ranked)
    (fits : txQueue.size ≤ zwaveTxQueueBufferSize) (mem : element ∈ txQueue.elements) :
    element.options.qosPriority + 1 < 2 ^ 32 := by
  have bound := ranked.qosPriority_le _ mem rfl
  have count : txQueue.outranked element ≤ txQueue.elements.length := List.countP_le_length
  have short : txQueue.elements.length ≤ 64 := fits
  unfold zwaveTxQosMaxPriority at bound
  omega

theorem Ranked.congr {other : TxQueue} (ranked : txQueue.Ranked)
    (same : ∀ element, element ∈ other.elements ↔ element ∈ txQueue.elements) : other.Ranked where
  parents element mem session isChild := by
    obtain ⟨parent, isParent, found⟩ :=
      ranked.parents element ((same element).mp mem) session isChild
    exact ⟨parent, (same parent).mpr isParent, found⟩
  given element mem := by
    rcases ranked.given element ((same element).mp mem) with isGiven | ⟨parent, isParent, raised⟩
    · exact .inl isGiven
    · exact .inr ⟨parent, (same parent).mpr isParent, raised⟩

theorem Ranked.evict {before after : TxQueue} (ranked : before.Ranked) (root : SessionId)
    (remains : ∀ other, other ∈ after.elements ↔
      other ∈ before.elements ∧ ¬before.IsBelow root other.zwaveTxSessionId) :
    after.Ranked := by
  have stays {element parent : QueueElement} (mem : element ∈ after.elements)
      (isParent : parent ∈ before.elements)
      (isChild : parentOf element = some parent.zwaveTxSessionId) :
      parent ∈ after.elements := by
    obtain ⟨wasQueued, outside⟩ := (remains element).mp mem
    exact (remains parent).mpr
      ⟨isParent, fun isBelow => outside (Below.child isBelow wasQueued isChild)⟩
  constructor
  · intro element mem session isChild
    obtain ⟨parent, isParent, isSession, lower⟩ :=
      ranked.parents element ((remains element).mp mem).1 session isChild
    exact ⟨parent, stays mem isParent (isSession ▸ isChild), isSession, lower⟩
  · intro element mem
    rcases ranked.given element ((remains element).mp mem).1 with
      isGiven | ⟨parent, isParent, isChild, raised⟩
    · exact .inl isGiven
    · exact .inr ⟨parent, stays mem isParent isChild, isChild, raised⟩

end TxQueue

namespace TxProcess

/-- What the parent of a new frame and its priority have to be. -/
structure FitsBelow (txQueue : TxQueue) (element : QueueElement) : Prop where
  parent : ∀ session, parentOf element = some session ->
    ∃ parent ∈ txQueue.elements, parent.zwaveTxSessionId = session ∧
      parent.options.qosPriority < element.options.qosPriority
  given : element.options.qosPriority ≤ zwaveTxQosMaxPriority ∨
    ∃ parent ∈ txQueue.elements, parentOf element = some parent.zwaveTxSessionId ∧
      element.options.qosPriority = parent.options.qosPriority + 1

theorem parentOf_stored (txQueue : TxQueue) (now : ClockTime) (element : QueueElement) :
    parentOf (txQueue.stored now element) = parentOf element := by
  unfold parentOf TxQueue.stored
  cases element.options.transport.validParentSessionId <;> simp

variable {txQueue : TxQueue} {now : ClockTime} {element : QueueElement} {session : SessionId}
  {proc : TxProcess} {request : SendRequest}

theorem ranked_enqueue (ranked : txQueue.Ranked) (accepted : (txQueue.enqueue now element).1 = .ok)
    (fits : FitsBelow txQueue element) : (txQueue.enqueue now element).2.Ranked := by
  have stored : ∀ other, other ∈ (txQueue.enqueue now element).2.elements ↔
      other = txQueue.stored now element ∨ other ∈ txQueue.elements := by
    intro other
    rw [(TxQueue.enqueue_ok accepted).2.2.1.mem_iff, List.mem_cons]
  have sameParent := parentOf_stored txQueue now element
  have samePriority : (txQueue.stored now element).options.qosPriority =
      element.options.qosPriority := rfl
  constructor
  · intro other mem session isChild
    rcases (stored other).mp mem with rfl | wasQueued
    · obtain ⟨parent, isParent, found⟩ := fits.parent session (sameParent ▸ isChild)
      exact ⟨parent, (stored parent).mpr (.inr isParent), samePriority ▸ found⟩
    · obtain ⟨parent, isParent, found⟩ := ranked.parents other wasQueued session isChild
      exact ⟨parent, (stored parent).mpr (.inr isParent), found⟩
  · intro other mem
    rcases (stored other).mp mem with rfl | wasQueued
    · rcases fits.given with isGiven | ⟨parent, isParent, isChild, raised⟩
      · exact .inl (samePriority ▸ isGiven)
      · exact .inr ⟨parent, (stored parent).mpr (.inr isParent),
          sameParent ▸ isChild, samePriority ▸ raised⟩
    · rcases ranked.given other wasQueued with isGiven | ⟨parent, isParent, found⟩
      · exact .inl isGiven
      · exact .inr ⟨parent, (stored parent).mpr (.inr isParent), found⟩

theorem parent_queued_of_childrenOutrank (accepted : (txQueue.enqueue now element).1 = .ok)
    (outranks : (txQueue.enqueue now element).2.ChildrenOutrank)
    (isChild : parentOf element = some session) :
    ∃ parent ∈ txQueue.elements, parent.zwaveTxSessionId = session := by
  have split := (TxQueue.enqueue_ok accepted).2.2.1
  obtain ⟨parent, isParent, isSession, lower⟩ := outranks (txQueue.stored now element)
    (split.mem_iff.mpr (List.mem_cons_self ..)) session
    ((parentOf_stored txQueue now element).trans isChild)
  rcases List.mem_cons.mp (split.mem_iff.mp isParent) with isSelf | wasQueued
  · rw [isSelf] at lower
    omega
  · exact ⟨parent, wasQueued, isSession⟩

theorem newElement_fitsBelow (ranked : proc.txQueue.Ranked)
    (fits : proc.txQueue.size ≤ zwaveTxQueueBufferSize) (env : Surroundings)
    (isGiven : request.options.qosPriority ≤ zwaveTxQosMaxPriority) :
    FitsBelow proc.txQueue (proc.newElement env request) := by
  have sameOptions : (proc.newElement env request).options =
      proc.adjustedOptions request.options := rfl
  generalize proc.newElement env request = element at sameOptions
  unfold adjustedOptions at sameOptions
  split at sameOptions
  next isValid =>
    split at sameOptions
    next =>
      have standsAlone : parentOf element = none := by simp [parentOf, sameOptions]
      refine ⟨fun session isChild => ?_, .inl (by rw [sameOptions]; exact isGiven)⟩
      rw [standsAlone] at isChild
      cases isChild
    next parent found =>
      have isParent := TxQueue.find_mem found
      have sameSession := TxQueue.find_session found
      split at sameOptions
      next notAbove =>
        have isChild : parentOf element = some parent.zwaveTxSessionId := by
          simp [parentOf, sameOptions, isValid, sameSession]
        have raised : element.options.qosPriority = parent.options.qosPriority + 1 := by
          rw [sameOptions]
          exact Nat.mod_eq_of_lt (ranked.qosPriority_lt fits isParent)
        refine ⟨fun session isOther => ?_, .inr ⟨parent, isParent, isChild, raised⟩⟩
        exact ⟨parent, isParent, Option.some.inj (isChild.symm.trans isOther), by omega⟩
      next above =>
        have isChild : parentOf element = some parent.zwaveTxSessionId := by
          simp [parentOf, sameOptions, isValid, sameSession]
        refine ⟨fun session isOther => ?_, .inl (by rw [sameOptions]; exact isGiven)⟩
        refine ⟨parent, isParent, Option.some.inj (isChild.symm.trans isOther), ?_⟩
        rw [sameOptions]
        omega
  next standsAlone =>
    have parentless : parentOf element = none := by simp [parentOf, sameOptions, standsAlone]
    refine ⟨fun session isChild => ?_, .inl (by rw [sameOptions]; exact isGiven)⟩
    rw [parentless] at isChild
    cases isChild

theorem parentOf_newElement_iff (proc : TxProcess) (env : Surroundings)
    (request : SendRequest) (session : SessionId) :
    parentOf (proc.newElement env request) = some session ↔
      request.options.transport.validParentSessionId = true ∧
        request.options.transport.parentSessionId = session ∧
        (proc.txQueue.find session).isSome = true := by
  have sameOptions : (proc.newElement env request).options =
      proc.adjustedOptions request.options := rfl
  unfold adjustedOptions TxQueue.getById at sameOptions
  unfold parentOf
  rw [sameOptions]
  cases isValid : request.options.transport.validParentSessionId with
  | false => simp [isValid]
  | true =>
    cases found : proc.txQueue.find request.options.transport.parentSessionId with
    | none =>
      simp only [if_true, Bool.false_eq_true, if_false, reduceCtorEq, true_and, false_iff, not_and]
      rintro rfl
      simp [found]
    | some parent =>
      have same : request.options.transport.parentSessionId = session ↔
          request.options.transport.parentSessionId = session ∧
            (proc.txQueue.find session).isSome = true := by
        constructor
        · rintro rfl
          exact ⟨rfl, by simp [found]⟩
        · exact And.left
      simp only [if_true, true_and]
      split <;> simpa [isValid] using same

/-- The failsafe evicts the parent of the frame it makes room for: the request is not rejected,
the queue is full, the parent is in the family of the worst unsent frame, and the frame is
accepted then. -/
def EvictsParent (env : Surroundings) (proc : TxProcess) (request : SendRequest) : Prop :=
  proc.isRejected env request = false ∧
    zwaveTxQueueBufferSize ≤ proc.txQueue.size ∧
    request.options.transport.validParentSessionId = true ∧
    ∃ worst, proc.txQueue.findWorstUnsentByQos = some worst ∧
      IsWithin proc.txQueue worst.zwaveTxSessionId
        request.options.transport.parentSessionId ∧
      ¬(request.connection.remote.isMulticast = false ∧
        zwaveTxQueueMaxFramesPerNode ≤
          TxQueue.singlecastCount request.connection.remote.nodeId proc.txQueue.elements ∧
        ∀ element ∈ proc.txQueue.elements,
          IsWithin proc.txQueue worst.zwaveTxSessionId element.zwaveTxSessionId ->
            TxQueue.singlecastTowards request.connection.remote.nodeId
              element.connectionInfo = false)

theorem find_isSome_of_isWithin {root : QueueElement} (mem : root ∈ txQueue.elements)
    (within : IsWithin txQueue root.zwaveTxSessionId session) :
    (txQueue.find session).isSome = true := by
  have queued : ∃ element ∈ txQueue.elements, element.zwaveTxSessionId = session := by
    cases within with
    | root => exact ⟨root, mem, rfl⟩
    | @child _ element _ isMember _ => exact ⟨element, isMember, rfl⟩
  exact (lookup_isSome_iff _).mpr queued

theorem FitsBelow.evict {before after : TxQueue} (fits : FitsBelow before element)
    {root : SessionId}
    (remains : ∀ other, other ∈ after.elements ↔
      other ∈ before.elements ∧ ¬IsWithin before root other.zwaveTxSessionId)
    (outside : ∀ session, parentOf element = some session -> ¬IsWithin before root session) :
    FitsBelow after element := by
  constructor
  · intro session isChild
    obtain ⟨parent, isParent, isSession, lower⟩ := fits.parent session isChild
    exact ⟨parent, (remains parent).mpr ⟨isParent, isSession ▸ outside session isChild⟩,
      isSession, lower⟩
  · rcases fits.given with isGiven | ⟨parent, isParent, isChild, raised⟩
    · exact .inl isGiven
    · exact .inr ⟨parent, (remains parent).mpr ⟨isParent, outside _ isChild⟩, isChild, raised⟩

theorem ranked_sendData (coherent : proc.txQueue.Coherent) (ranked : proc.txQueue.Ranked)
    (env : Surroundings) (isGiven : request.options.qosPriority ≤ zwaveTxQosMaxPriority)
    (notEvicted : ¬EvictsParent env proc request) :
    (proc.sendData env request).2.txQueue.Ranked := by
  have fits := newElement_fitsBelow ranked coherent.fits env isGiven
  rcases proc.sendData_cases env request with
    ⟨-, fails⟩ | ⟨-, isAccepted, isOk⟩ | ⟨notRejected, refused,
      ⟨-, fails⟩ | ⟨worst, isFull, isWorst, evicts⟩⟩
  · rw [fails]
    exact ranked
  · rw [isOk]
    exact ranked_enqueue ranked isAccepted fits
  · rw [fails]
    refine ranked.congr fun element => ?_
    rw [refusedRequest_elements env proc refused]
  · have again : proc.sendData env request =
        (proc.evictedFor env request worst).tryEnqueue
          (proc.newElement env request) := evicts
    have remains := mem_evictedFor_iff coherent.distinct refused isWorst
    have worstMember := (findWorstUnsentByQos_parentOf isWorst).1
    have refusedIff := refused_after_eviction_iff coherent
      (evictedFor_coherent coherent refused worst) worstMember remains env proc
      request (proc.evictedFor env request worst).clockTime
    have evictedRanked : (proc.evictedFor env request worst).txQueue.Ranked :=
      ranked.evict worst.zwaveTxSessionId (by simpa only [isWithin_iff] using remains)
    rw [again]
    rcases (proc.evictedFor env request worst).tryEnqueue_cases
      (proc.newElement env request) with ⟨isAccepted, isOk⟩ | ⟨stillRefused, isFail⟩
    · rw [isOk]
      refine ranked_enqueue evictedRanked isAccepted (fits.evict remains ?_)
      intro session isChild within
      obtain ⟨isValid, rfl, _⟩ := (proc.parentOf_newElement_iff env request _).mp isChild
      exact notEvicted ⟨notRejected, isFull, isValid, worst, isWorst, within,
        fun vain => refusedIff.mpr vain isAccepted⟩
    · rw [isFail]
      refine evictedRanked.congr fun element => ?_
      change element ∈ (TxQueue.enqueue _ _ _).2.elements ↔ _
      rw [(TxQueue.enqueue_rejected stillRefused).1]

theorem EvictsParent.not_childrenOutrank {env : Surroundings}
    (evictsParent : EvictsParent env proc request) (coherent : proc.txQueue.Coherent) :
    ¬(proc.sendData env request).2.txQueue.ChildrenOutrank := by
  obtain ⟨notRejected, isFull, isValid, worst, isWorst, within, notVain⟩ := evictsParent
  have refused : (proc.txQueue.enqueue proc.clockTime
      (proc.newElement env request)).1 ≠ .ok := fun accepted =>
    Nat.not_le_of_lt (TxQueue.enqueue_ok accepted).2.1 isFull
  have remains := mem_evictedFor_iff coherent.distinct refused isWorst
  have worstMember := (findWorstUnsentByQos_parentOf isWorst).1
  have refusedIff := refused_after_eviction_iff coherent
    (evictedFor_coherent coherent refused worst) worstMember remains env proc
    request (proc.evictedFor env request worst).clockTime
  have isChild := (proc.parentOf_newElement_iff env request _).mpr
    ⟨isValid, rfl, find_isSome_of_isWithin worstMember within⟩
  rw [sendData_of_full notRejected isFull isWorst]
  rcases (proc.evictedFor env request worst).tryEnqueue_cases
    (proc.newElement env request) with ⟨isAccepted, isOk⟩ | ⟨stillRefused, -⟩
  · rw [isOk]
    intro outranks
    obtain ⟨parent, stays, isSession⟩ :=
      parent_queued_of_childrenOutrank isAccepted outranks isChild
    exact ((remains parent).mp stays).2 (isSession ▸ within)
  · exact absurd (refusedIff.mp stillRefused) notVain

/-- A request leaves every parent queued with a lower priority than its children exactly when
the failsafe does not evict the parent of the new frame, and then priorities are bounded
again. -/
theorem childrenOutrank_sendData_iff {proc : TxProcess} (coherent : proc.txQueue.Coherent)
    (ranked : proc.txQueue.Ranked) (env : Surroundings) {request : SendRequest}
    (isGiven : request.options.qosPriority ≤ zwaveTxQosMaxPriority) :
    ((proc.sendData env request).2.txQueue.ChildrenOutrank ↔ ¬EvictsParent env proc request) ∧
    (¬EvictsParent env proc request -> (proc.sendData env request).2.txQueue.Ranked) := by
  have keeps := ranked_sendData coherent ranked env isGiven
  refine ⟨⟨fun outranks evictsParent => ?_, fun notEvicted => (keeps notEvicted).parents⟩, keeps⟩
  exact evictsParent.not_childrenOutrank coherent outranks

/-- The frame of node 20 goes below a frame with the same priority. -/
theorem childrenOutrank_sendData_sample : let proc := (initial.sendData {} (sampleRequest 5 0 3)).2
    (proc.sendData {} (requestBelow 0 3)).2.txQueue.ChildrenOutrank := by
  intro proc
  have noEviction (before : TxProcess) (request : SendRequest)
      (room : before.txQueue.size < zwaveTxQueueBufferSize) :
      ¬EvictsParent {} before request := fun evicts => Nat.not_le_of_lt room evicts.2.1
  have coherent : proc.txQueue.Coherent :=
    (sendData_consistent TxQueue.Consistent.initial (by decide) {} _).1.coherent
  have empty : initial.txQueue.Ranked :=
    ⟨fun _ mem => absurd mem List.not_mem_nil, fun _ mem => absurd mem List.not_mem_nil⟩
  have ranked : proc.txQueue.Ranked :=
    ranked_sendData TxQueue.Consistent.initial.coherent empty {} (by decide)
      (noEviction _ _ (by decide))
  exact (childrenOutrank_sendData_iff coherent ranked {} (by decide)).1.mpr
    (noEviction _ _ (by decide +kernel))

/-- In a full queue of unsent frames the parent of a new frame is evicted for it. -/
theorem evicted_parent_still_named : let proc := run step initial fullQueueRun
    proc.txQueue.ChildrenOutrank ∧
      (proc.sendData {} (requestBelow 56 30)).1 = .ok ∧
      ¬(proc.sendData {} (requestBelow 56 30)).2.txQueue.ChildrenOutrank := by
  intro proc
  obtain ⟨standalone, isOk, isNamed, isGone⟩ :
      (∀ element ∈ proc.txQueue.elements, parentOf element = none) ∧
      (proc.sendData {} (requestBelow 56 30)).1 = .ok ∧
      (∃ element ∈ (proc.sendData {} (requestBelow 56 30)).2.txQueue.elements,
        parentOf element = some 56) ∧
      ∀ element ∈ (proc.sendData {} (requestBelow 56 30)).2.txQueue.elements,
        element.zwaveTxSessionId ≠ 56 := by
    decide +kernel
  refine ⟨fun element mem session isChild => ?_, isOk, fun outranks => ?_⟩
  · rw [standalone element mem] at isChild
    cases isChild
  · obtain ⟨element, mem, isChild⟩ := isNamed
    obtain ⟨parent, isParent, isSession, _⟩ := outranks element mem 56 isChild
    exact isGone parent isParent isSession

end TxProcess

end ZwaveTx
