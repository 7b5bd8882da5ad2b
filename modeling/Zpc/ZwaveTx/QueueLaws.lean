import Zpc.ZwaveTx.Queue

/-!
# Laws of the TX queue

What each operation of the queue does to the answers of `find`, and what the
searches of the queue return.  Users of the queue rely on these laws and do
not look into the heap.
-/

namespace ZwaveTx

open Foundation

namespace TxQueue

/-- The session ids of the queued elements are pairwise distinct. -/
def Distinct (txQueue : TxQueue) : Prop :=
  KeysDistinct QueueElement.zwaveTxSessionId txQueue.elements

variable {txQueue : TxQueue} {element : QueueElement} {now : ClockTime}

variable {session : SessionId}

theorem find_session (found : txQueue.find session = some element) :
    element.zwaveTxSessionId = session :=
  lookup_key _ found

theorem find_mem (found : txQueue.find session = some element) : element ∈ txQueue.elements :=
  lookup_mem _ found

theorem Distinct.find_of_mem (distinct : txQueue.Distinct) (mem : element ∈ txQueue.elements) :
    txQueue.find element.zwaveTxSessionId = some element :=
  (distinct.lookup_eq_some_iff _).mpr ⟨mem, rfl⟩

theorem find_eq_none_iff :
    txQueue.find session = none ↔
      ∀ element ∈ txQueue.elements, element.zwaveTxSessionId ≠ session :=
  lookup_eq_none_iff _

theorem findPosition_of_find (found : txQueue.find session = some element) :
    ∃ position, txQueue.findPosition session = some position ∧
      txQueue.queue.elements[position]? = some element := by
  unfold find lookup at found
  rw [List.find?_eq_bind_findIdx?_getElem?] at found
  exact Option.bind_eq_some_iff.mp (by simpa [findPosition, elements, beq_eq_decide] using found)

theorem empty_iff : txQueue.empty = true ↔ txQueue.elements = [] := by
  simp [empty, PriorityQueue.empty, elements]

theorem empty_iff_find : txQueue.empty = true ↔ ∀ session, txQueue.find session = none := by
  rw [empty_iff]
  constructor
  · intro nothing session
    simp [find_eq_none_iff, nothing]
  · intro absent
    rw [List.eq_nil_iff_forall_not_mem]
    intro element mem
    exact find_eq_none_iff.mp (absent element.zwaveTxSessionId) element mem rfl

theorem not_empty_of_find (found : txQueue.find session = some element) :
    txQueue.empty = false := by
  by_contra nothing
  rw [Bool.not_eq_false, empty_iff_find] at nothing
  simp [nothing session] at found

theorem firstInQueue_mem (first : txQueue.firstInQueue = some element) :
    element ∈ txQueue.elements :=
  List.mem_of_mem_head? first

theorem firstInQueue_isSome (nonempty : txQueue.empty = false) :
    ∃ element, txQueue.firstInQueue = some element := by
  have some' : txQueue.elements ≠ [] := by
    intro nothing
    rw [empty_iff.mpr nothing] at nonempty
    cases nonempty
  exact ⟨_, List.head?_eq_some_head some'⟩

theorem map_modify {β : Type*} {feature : QueueElement -> β} {change : QueueElement -> QueueElement}
    (keeps : ∀ element, feature (change element) = feature element) (txQueue : TxQueue)
    (session : SessionId) :
    (txQueue.modify session change).2.elements.map feature = txQueue.elements.map feature := by
  unfold modify
  split
  · exact map_updateFirst _ keeps session txQueue.elements
  · rfl

section Modify

variable {change : QueueElement -> QueueElement}
variable (keepsSession : ∀ element, (change element).zwaveTxSessionId = element.zwaveTxSessionId)
include keepsSession

theorem find_modify (txQueue : TxQueue) (session other : SessionId) :
    (txQueue.modify session change).2.find other =
      if other = session then (txQueue.find session).map change
      else txQueue.find other := by
  unfold modify
  cases found : txQueue.find session with
  | none =>
    by_cases same : other = session
    · simp [same, found]
    · simp [same]
  | some element =>
    have searched := lookup_updateFirst _ keepsSession session other txQueue.elements
    rw [show lookup _ session txQueue.elements = _ from found] at searched
    exact searched

theorem Distinct.modify {txQueue : TxQueue} (distinct : txQueue.Distinct) (session : SessionId) :
    (txQueue.modify session change).2.Distinct := by
  unfold Distinct KeysDistinct at *
  rw [map_modify keepsSession]
  exact distinct

end Modify

/-! The setters change one element in place. -/

theorem find_setTransmissionsResults (txQueue : TxQueue) (now : ClockTime)
    (session other : SessionId) (status : Nat) (report : Option TxReport) :
    (txQueue.setTransmissionsResults now session status report).2.find other =
      if other = session then (txQueue.find session).map (withResults now status report)
      else txQueue.find other :=
  @find_modify (withResults now status report) (fun _ => rfl) txQueue session other

/-- An element that is not requeued when it fails. -/
def withoutFasttrack (element : QueueElement) : QueueElement :=
  { element with options := { element.options with fasttrack := false } }

theorem find_disableFasttack (txQueue : TxQueue) (session other : SessionId) :
    (txQueue.disableFasttack session).2.find other =
      if other = session then (txQueue.find session).map withoutFasttrack
      else txQueue.find other :=
  @find_modify withoutFasttrack (fun _ => rfl) txQueue session other

/-- An element that was handed to a transport at a time. -/
def sentAt (now : ClockTime) (element : QueueElement) : QueueElement :=
  { element with transmissionTimestamp := now }

theorem find_setTransmissionTimestamp (txQueue : TxQueue) (now : ClockTime)
    (session other : SessionId) :
    (txQueue.setTransmissionTimestamp now session).2.find other =
      if other = session then (txQueue.find session).map (sentAt now)
      else txQueue.find other :=
  @find_modify (sentAt now) (fun _ => rfl) txQueue session other

/-- An element as if it had not been sent. -/
def unsent (element : QueueElement) : QueueElement :=
  { element with transmissionTimestamp := 0, transmissionTime := 0 }

theorem find_resetTransmissionTimestamp (txQueue : TxQueue) (session other : SessionId) :
    (txQueue.resetTransmissionTimestamp session).2.find other =
      if other = session then (txQueue.find session).map unsent
      else txQueue.find other :=
  @find_modify unsent (fun _ => rfl) txQueue session other

/-- An element whose completion step was run. -/
def withoutPending (element : QueueElement) : QueueElement :=
  { element with transportCompletionStepPending := false }

theorem find_consumeTransportCompletionStepPending (txQueue : TxQueue) (session other : SessionId) :
    (txQueue.consumeTransportCompletionStepPending session).2.find other =
      if other = session then (txQueue.find session).map withoutPending
      else txQueue.find other := by
  unfold consumeTransportCompletionStepPending
  split
  next => exact @find_modify withoutPending (fun _ => rfl) txQueue session other
  next notPending =>
    split
    next same =>
      subst same
      unfold transportCompletionStepIsPending at notPending
      cases found : txQueue.find other with
      | none => rfl
      | some element =>
        simp only [found, Bool.not_eq_true] at notPending
        simp only [Option.map_some, withoutPending, ← notPending]
    next => rfl

@[simp] theorem counter_modify (txQueue : TxQueue) (session : SessionId)
    (change : QueueElement -> QueueElement) :
    (txQueue.modify session change).2.zwaveTxSessionIdCounter =
      txQueue.zwaveTxSessionIdCounter := by
  unfold modify
  split <;> rfl

@[simp] theorem size_modify (txQueue : TxQueue) (session : SessionId)
    (change : QueueElement -> QueueElement) :
    (txQueue.modify session change).2.size = txQueue.size := by
  unfold modify
  split
  · exact length_updateFirst _ change session txQueue.elements
  · rfl

theorem pop_perm (found : txQueue.find session = some element) :
    (txQueue.pop session).1 = .ok ∧
      (element :: (txQueue.pop session).2.elements).Perm txQueue.elements ∧
      (txQueue.pop session).2.perNodeFrameCount = txQueue.countedDown element := by
  obtain ⟨position, atPosition, elementAt⟩ := findPosition_of_find found
  unfold pop
  rw [found, atPosition]
  exact ⟨rfl, txQueue.queue.erase_perm _ elementAt, rfl⟩

theorem pop_absent (absent : txQueue.find session = none) :
    txQueue.pop session = (.notFound, txQueue) := by
  unfold pop
  rw [absent]

@[simp] theorem counter_pop (txQueue : TxQueue) (session : SessionId) :
    (txQueue.pop session).2.zwaveTxSessionIdCounter = txQueue.zwaveTxSessionIdCounter := by
  unfold pop
  split <;> rfl

theorem Distinct.find_pop (distinct : txQueue.Distinct) (session other : SessionId) :
    (txQueue.pop session).2.find other = if other = session then none else txQueue.find other := by
  cases found : txQueue.find session with
  | none =>
    rw [pop_absent found]
    split
    next same => rw [same, found]
    next => rfl
  | some element =>
    obtain ⟨_, split, _⟩ := pop_perm found
    have searched := distinct.lookup_removed _ split other
    rw [find_session found] at searched
    exact searched

theorem Distinct.pop (distinct : txQueue.Distinct) (session : SessionId) :
    (txQueue.pop session).2.Distinct := by
  cases found : txQueue.find session with
  | none => rw [pop_absent found]; exact distinct
  | some element =>
    obtain ⟨_, split, _⟩ := pop_perm found
    exact distinct.removed _ split

theorem enqueue_ok (accepted : (txQueue.enqueue now element).1 = .ok) :
    txQueue.perNodeLimitReached element = false ∧
      txQueue.size < zwaveTxQueueBufferSize ∧
      (txQueue.enqueue now element).2.elements.Perm
        (txQueue.stored now element :: txQueue.elements) ∧
      (txQueue.enqueue now element).2.zwaveTxSessionIdCounter =
        (txQueue.zwaveTxSessionIdCounter + 1) % 2 ^ 32 ∧
      (txQueue.enqueue now element).2.perNodeFrameCount = txQueue.countedUp element := by
  unfold enqueue at *
  split at accepted
  next => cases accepted
  next belowLimit =>
    rw [if_neg belowLimit]
    refine ⟨by simpa using belowLimit, ?_⟩
    by_cases room : txQueue.size < zwaveTxQueueBufferSize
    · obtain ⟨inserted, perm⟩ := txQueue.queue.insert_perm
        queueElementQosCompare (txQueue.stored now element) room
      simp only [inserted, if_true]
      exact ⟨room, perm, trivial, trivial⟩
    · simp only [txQueue.queue.insert_full queueElementQosCompare
        (txQueue.stored now element) (by unfold size at room; omega)] at accepted
      cases accepted

theorem enqueue_rejected (rejected : (txQueue.enqueue now element).1 ≠ .ok) :
    (txQueue.enqueue now element).2.elements = txQueue.elements ∧
      (txQueue.enqueue now element).2.perNodeFrameCount = txQueue.perNodeFrameCount ∧
      ((txQueue.enqueue now element).2.zwaveTxSessionIdCounter = txQueue.zwaveTxSessionIdCounter ∨
        (txQueue.enqueue now element).2.zwaveTxSessionIdCounter =
          (txQueue.zwaveTxSessionIdCounter + 1) % 2 ^ 32) := by
  unfold enqueue at *
  split
  next => exact ⟨rfl, rfl, .inl rfl⟩
  next belowLimit =>
    rw [if_neg belowLimit] at rejected
    by_cases room : txQueue.size < zwaveTxQueueBufferSize
    · obtain ⟨inserted, _⟩ := txQueue.queue.insert_perm
        queueElementQosCompare (txQueue.stored now element) room
      simp [inserted] at rejected
    · have full : zwaveTxQueueBufferSize ≤ txQueue.queue.size := by
        unfold size at room
        omega
      simp only [txQueue.queue.insert_full queueElementQosCompare
        (txQueue.stored now element) full]
      exact ⟨rfl, rfl, .inr rfl⟩

section Scan

variable {candidate : QueueElement -> Bool}
variable {better : QueueElement -> QueueElement -> Bool}

variable {best : Option QueueElement} {element kept : QueueElement} {elements : List QueueElement}

theorem keepBetter_eq_some (result : keepBetter candidate better best element = some kept) :
    best = some kept ∨ (element = kept ∧ candidate element = true) := by
  unfold keepBetter at result
  split at result
  next passes =>
    split at result
    · exact .inr ⟨Option.some.inj result, passes⟩
    · split at result
      · exact .inr ⟨Option.some.inj result, passes⟩
      · exact .inl result
  next => exact .inl result

theorem keepBetter_eq_none (result : keepBetter candidate better best element = none) :
    best = none ∧ candidate element = false := by
  unfold keepBetter at result
  split at result
  next =>
    split at result
    · cases result
    · split at result <;> cases result
  next fails => exact ⟨result, by simpa using fails⟩

theorem foldl_keepBetter_eq_some
    (result : elements.foldl (keepBetter candidate better) best = some kept) :
    best = some kept ∨ (kept ∈ elements ∧ candidate kept = true) := by
  induction elements generalizing best with
  | nil => exact .inl result
  | cons head tail ih =>
    rcases ih result with before | ⟨mem, passes⟩
    · rcases keepBetter_eq_some before with isBest | ⟨isHead, passes⟩
      · exact .inl isBest
      · subst isHead
        exact .inr ⟨List.mem_cons_self, passes⟩
    · exact .inr ⟨List.mem_cons_of_mem head mem, passes⟩

theorem foldl_keepBetter_eq_none
    (result : elements.foldl (keepBetter candidate better) best = none) :
    best = none ∧ ∀ element ∈ elements, candidate element = false := by
  induction elements generalizing best with
  | nil => exact ⟨result, by simp⟩
  | cons head tail ih =>
    obtain ⟨before, others⟩ := ih result
    obtain ⟨nothing, headFails⟩ := keepBetter_eq_none before
    exact ⟨nothing, List.forall_mem_cons.mpr ⟨headFails, others⟩⟩

theorem scan_mem (found : scan candidate better elements = some element) :
    element ∈ elements ∧ candidate element = true := by
  rcases foldl_keepBetter_eq_some found with impossible | result
  · cases impossible
  · exact result

theorem scan_eq_none (nothing : scan candidate better elements = none) :
    ∀ element ∈ elements, candidate element = false :=
  (foldl_keepBetter_eq_none nothing).2

end Scan

theorem getHighestPriorityChild_mem {child : QueueElement}
    (found : txQueue.getHighestPriorityChild session = some child) :
    child ∈ txQueue.elements ∧ parentSessionIdEquals child session = true :=
  scan_mem found

theorem findBestUnsentBackoffBypass_mem
    (found : txQueue.findBestUnsentBackoffBypass = some element) :
    element ∈ txQueue.elements ∧ element.transmissionTimestamp = 0 ∧
      element.options.transport.ignoreIncomingFramesBackOff = true := by
  obtain ⟨mem, passes⟩ := scan_mem found
  simp only [Bool.and_eq_true, beq_iff_eq] at passes
  exact ⟨mem, passes.1, passes.2.1⟩

theorem findBestUnsentByQos_mem (found : txQueue.findBestUnsentByQos = some element) :
    element ∈ txQueue.elements ∧ element.transmissionTimestamp = 0 := by
  obtain ⟨mem, passes⟩ := scan_mem found
  simp only [unsentStandalone, Bool.and_eq_true, beq_iff_eq] at passes
  exact ⟨mem, passes.1⟩

theorem findWorstUnsentByQos_mem (found : txQueue.findWorstUnsentByQos = some element) :
    element ∈ txQueue.elements ∧ element.transmissionTimestamp = 0 := by
  obtain ⟨mem, passes⟩ := scan_mem found
  simp only [unsentStandalone, Bool.and_eq_true, beq_iff_eq] at passes
  exact ⟨mem, passes.1⟩

end TxQueue

end ZwaveTx
