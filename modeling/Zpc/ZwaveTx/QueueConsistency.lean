import Zpc.ZwaveTx.QueueLaws

/-!
# Consistency of the TX queue

The members of the queue agree with each other after any sequence of
operations: the frame counts are those of the queued elements and stay below
the limits, and no session id is used twice.  The element in front of the heap
has the highest priority as long as every removal puts the last element of the
array where it fits.
-/

namespace ZwaveTx

open Foundation

namespace TxQueue

/-- Whether a connection is a singlecast one towards a node. -/
def singlecastTowards (node : NodeId) (connectionInfo : ConnectionInfo) : Bool :=
  !connectionInfo.remote.isMulticast && connectionInfo.remote.nodeId == node

/-- Number of singlecast elements towards a node. -/
def singlecastCount (node : NodeId) (elements : List QueueElement) : Nat :=
  (elements.map QueueElement.connectionInfo).countP (singlecastTowards node)

/-- The entry the map of frame counts has for a count: none for zero. -/
def countEntry (count : Nat) : Option Nat := if count = 0 then none else some count

/-- The members of a queue agree and its limits are kept. -/
structure Consistent (txQueue : TxQueue) : Prop where
  /-- The frame counts are those of the queued frames. -/
  counted : ∀ node,
    txQueue.perNodeFrameCount node = countEntry (singlecastCount node txQueue.elements)
  /-- No node exceeds its share. -/
  shared : ∀ node, singlecastCount node txQueue.elements ≤ zwaveTxQueueMaxFramesPerNode
  /-- The queue is within its size. -/
  fits : txQueue.size ≤ zwaveTxQueueBufferSize
  /-- No session is queued twice. -/
  distinct : txQueue.Distinct
  /-- Queued sessions were handed out. -/
  issued : ∀ element ∈ txQueue.elements, element.zwaveTxSessionId < txQueue.zwaveTxSessionIdCounter

theorem Consistent.initial : TxQueue.initial.Consistent where
  counted := fun _ => rfl
  shared := fun _ => Nat.zero_le _
  fits := Nat.zero_le _
  distinct := List.nodup_nil
  issued := by simp [TxQueue.initial, elements, PriorityQueue.clear]

theorem countEntry_getD (count : Nat) : (countEntry count).getD 0 = count := by
  unfold countEntry
  split
  next isZero => simp [isZero]
  next => rfl

theorem singlecastCount_perm {elements other : List QueueElement} (permuted : elements.Perm other)
    (node : NodeId) : singlecastCount node elements = singlecastCount node other :=
  (permuted.map QueueElement.connectionInfo).countP_eq _

theorem singlecastCount_cons (element : QueueElement) (elements : List QueueElement)
    (node : NodeId) :
    singlecastCount node (element :: elements) =
      singlecastCount node elements +
        if singlecastTowards node element.connectionInfo then 1 else 0 := by
  simp [singlecastCount, List.countP_cons]

variable (fuel : Nat) {txQueue : TxQueue} {element : QueueElement}
  {change : QueueElement -> QueueElement}

theorem countedUp_eq
    (counted : ∀ node,
      txQueue.perNodeFrameCount node = countEntry (singlecastCount node txQueue.elements))
    (element : QueueElement)
    (node : NodeId) :
    txQueue.countedUp element node =
      countEntry (singlecastCount node txQueue.elements +
        if singlecastTowards node element.connectionInfo then 1 else 0) := by
  unfold countedUp
  by_cases multicast : element.connectionInfo.remote.isMulticast = true
  · simp [multicast, singlecastTowards, counted]
  · rw [if_neg multicast]
    by_cases destination : element.connectionInfo.remote.nodeId = node
    · subst destination
      rw [counted, countEntry_getD]
      simp [singlecastTowards, multicast, countEntry]
    · rw [Function.update_of_ne (Ne.symm destination), counted]
      simp [singlecastTowards, destination]

theorem countedDown_eq
    (counted : ∀ node,
      txQueue.perNodeFrameCount node = countEntry (singlecastCount node txQueue.elements))
    {remaining : List QueueElement}
    (split : (element :: remaining).Perm txQueue.elements)
    (node : NodeId) :
    txQueue.countedDown element node = countEntry (singlecastCount node remaining) := by
  have before := singlecastCount_perm split
  simp only [singlecastCount_cons] at before
  unfold countedDown
  by_cases multicast : element.connectionInfo.remote.isMulticast = true
  · simp [multicast, counted, ← before, singlecastTowards]
  · rw [if_neg multicast, counted, ← before]
    have own : singlecastTowards element.connectionInfo.remote.nodeId
        element.connectionInfo = true := by
      simp [singlecastTowards, multicast]
    simp only [own, if_true, countEntry, Nat.add_one_ne_zero, if_false, Nat.add_sub_cancel]
    by_cases destination : element.connectionInfo.remote.nodeId = node
    · subst destination
      simp
    · rw [Function.update_of_ne (Ne.symm destination), counted, ← before]
      simp [singlecastTowards, destination, countEntry]

section

variable (consistent : txQueue.Consistent)
include consistent

theorem shared_of_belowLimit
    (belowLimit : txQueue.perNodeLimitReached element = false) (node : NodeId) :
    singlecastCount node txQueue.elements +
        (if singlecastTowards node element.connectionInfo then 1 else 0) ≤
      zwaveTxQueueMaxFramesPerNode := by
  have withinLimit := consistent.shared node
  split
  next towards =>
    simp only [singlecastTowards, Bool.and_eq_true, Bool.not_eq_true', beq_iff_eq] at towards
    obtain ⟨singlecast, destination⟩ := towards
    simp only [perNodeLimitReached, singlecast, Bool.not_false, Bool.true_and,
      decide_eq_false_iff_not, consistent.counted, countEntry_getD, destination] at belowLimit
    omega
  next => omega

theorem Consistent.enqueue (now : ClockTime)
    (element : QueueElement) (counterFits : txQueue.zwaveTxSessionIdCounter + 1 < 2 ^ 32) :
    (txQueue.enqueue now element).2.Consistent := by
  by_cases accepted : (txQueue.enqueue now element).1 = .ok
  · obtain ⟨belowLimit, room, perm, counter, counts⟩ := enqueue_ok accepted
    rw [Nat.mod_eq_of_lt counterFits] at counter
    have connection : (txQueue.stored now element).connectionInfo = element.connectionInfo := rfl
    constructor
    · intro node
      rw [counts, countedUp_eq consistent.counted, singlecastCount_perm perm,
        singlecastCount_cons, connection]
    · intro node
      rw [singlecastCount_perm perm, singlecastCount_cons]
      exact shared_of_belowLimit consistent belowLimit node
    · have length := perm.length_eq
      simp only [List.length_cons] at length
      unfold size PriorityQueue.size at *
      unfold elements at length
      omega
    · refine KeysDistinct.perm _ ?_ perm
      refine List.nodup_cons.mpr ⟨?_, consistent.distinct⟩
      intro used
      obtain ⟨other, mem, same⟩ := List.mem_map.mp used
      exact Nat.ne_of_lt (consistent.issued other mem) same
    · intro other mem
      rw [counter]
      rcases List.mem_cons.mp (perm.mem_iff.mp mem) with isNew | isOld
      · rw [isNew]
        exact Nat.lt_succ_self _
      · exact Nat.lt_succ_of_lt (consistent.issued other isOld)
  · obtain ⟨same, counts, counter⟩ := enqueue_rejected accepted
    rw [Nat.mod_eq_of_lt counterFits] at counter
    constructor
    · intro node
      rw [counts, same]
      exact consistent.counted node
    · intro node
      rw [same]
      exact consistent.shared node
    · unfold size PriorityQueue.size
      rw [show (txQueue.enqueue now element).2.queue.elements = txQueue.queue.elements from same]
      exact consistent.fits
    · unfold Distinct
      rw [same]
      exact consistent.distinct
    · intro other mem
      rw [same] at mem
      have before := consistent.issued other mem
      rcases counter with kept | next
      · rw [kept]
        exact before
      · rw [next]
        exact Nat.lt_succ_of_lt before

theorem Consistent.find_counter : txQueue.find txQueue.zwaveTxSessionIdCounter = none :=
  find_eq_none_iff.mpr fun element mem same => Nat.ne_of_lt (consistent.issued element mem) same

theorem Consistent.issued_of_find {session : SessionId}
    (found : txQueue.find session = some element) : session < txQueue.zwaveTxSessionIdCounter := by
  have issued := consistent.issued element (find_mem found)
  rwa [find_session found] at issued

theorem Consistent.find_enqueue {now : ClockTime}
    (accepted : (txQueue.enqueue now element).1 = .ok) (session : SessionId) :
    (txQueue.enqueue now element).2.find session =
      if session = txQueue.zwaveTxSessionIdCounter then some (txQueue.stored now element)
      else txQueue.find session := by
  obtain ⟨_, _, perm, _, _⟩ := enqueue_ok accepted
  have fresh : KeysDistinct QueueElement.zwaveTxSessionId
      (txQueue.stored now element :: txQueue.elements) := by
    refine List.nodup_cons.mpr ⟨?_, consistent.distinct⟩
    intro used
    obtain ⟨other, mem, same⟩ := List.mem_map.mp used
    exact find_eq_none_iff.mp consistent.find_counter other mem same
  unfold find
  rw [fresh.lookup_perm _ perm, lookup_cons]
  simp only [eq_comm (a := session)]
  rfl

theorem Consistent.pop (session : SessionId) : (txQueue.pop session).2.Consistent := by
  cases found : txQueue.find session with
  | none =>
    rw [pop_absent found]
    exact consistent
  | some element =>
    obtain ⟨_, split, counts⟩ := pop_perm found
    have length := split.length_eq
    have fewer := singlecastCount_perm split
    simp only [singlecastCount_cons] at fewer
    constructor
    · intro node
      rw [counts]
      exact countedDown_eq consistent.counted split node
    · intro node
      have := consistent.shared node
      have := fewer node
      omega
    · have := consistent.fits
      unfold size PriorityQueue.size at *
      unfold elements at length
      simp only [List.length_cons] at length
      omega
    · exact consistent.distinct.pop session
    · intro other mem
      rw [counter_pop]
      exact consistent.issued other (split.mem_iff.mp (List.mem_cons_of_mem _ mem))

end

theorem Consistent.clear (_consistent : txQueue.Consistent) : txQueue.clear.Consistent where
  counted := fun _ => rfl
  shared := fun _ => Nat.zero_le _
  fits := Nat.zero_le _
  distinct := List.nodup_nil
  issued := by simp [TxQueue.clear, elements, PriorityQueue.clear]

theorem Consistent.modify {txQueue : TxQueue} (consistent : txQueue.Consistent)
    (session : SessionId) {change : QueueElement -> QueueElement}
    (keepsSession : ∀ element, (change element).zwaveTxSessionId = element.zwaveTxSessionId)
    (keepsConnection : ∀ element, (change element).connectionInfo = element.connectionInfo) :
    (txQueue.modify session change).2.Consistent := by
  have counts : (txQueue.modify session change).2.perNodeFrameCount =
      txQueue.perNodeFrameCount := by
    unfold TxQueue.modify
    split <;> rfl
  have connections : ∀ node,
      singlecastCount node (txQueue.modify session change).2.elements =
        singlecastCount node txQueue.elements := by
    intro node
    unfold singlecastCount
    rw [map_modify keepsConnection]
  constructor
  · intro node
    rw [counts, connections]
    exact consistent.counted node
  · intro node
    rw [connections]
    exact consistent.shared node
  · rw [size_modify]
    exact consistent.fits
  · exact consistent.distinct.modify keepsSession session
  · intro element mem
    rw [counter_modify]
    have used : element.zwaveTxSessionId ∈ txQueue.elements.map QueueElement.zwaveTxSessionId := by
      rw [← map_modify keepsSession txQueue session]
      exact List.mem_map_of_mem mem
    obtain ⟨old, oldMember, same⟩ := List.mem_map.mp used
    rw [← same]
    exact consistent.issued old oldMember

theorem Consistent.decrementAlongParents (consistent : txQueue.Consistent) (fuel : Nat)
    (session : SessionId) : (TxQueue.decrementAlongParents fuel txQueue session).2.Consistent := by
  induction fuel generalizing session with
  | zero => exact consistent
  | succ fuel ih =>
    unfold TxQueue.decrementAlongParents
    split
    next => exact consistent
    next element _ =>
      split
      · exact consistent.modify session (fun _ => rfl) (fun _ => rfl)
      · split
        · exact ih element.options.transport.parentSessionId
        · exact consistent

/-- The operations that change a queue, with the time at which one that reads
the clock is called. -/
inductive Operation
  | enqueue (now : ClockTime) (element : QueueElement)
  | pop (session : SessionId)
  | clear
  | setTransmissionsResults
      (now : ClockTime) (session : SessionId) (status : Nat) (report : Option TxReport)
  | decrementExpectedResponses (session : SessionId)
  | setTransmissionTimestamp (now : ClockTime) (session : SessionId)
  | resetTransmissionTimestamp (session : SessionId)
  | consumeTransportCompletionStepPending (session : SessionId)
  | disableFasttack (session : SessionId)

/-- Carry out one operation. -/
def step (txQueue : TxQueue) : Operation -> TxQueue
  | .enqueue now element => (txQueue.enqueue now element).2
  | .pop session => (txQueue.pop session).2
  | .clear => txQueue.clear
  | .setTransmissionsResults now session status report =>
      (txQueue.setTransmissionsResults now session status report).2
  | .decrementExpectedResponses session => (txQueue.decrementExpectedResponses session).2
  | .setTransmissionTimestamp now session => (txQueue.setTransmissionTimestamp now session).2
  | .resetTransmissionTimestamp session => (txQueue.resetTransmissionTimestamp session).2
  | .consumeTransportCompletionStepPending session =>
      (txQueue.consumeTransportCompletionStepPending session).2
  | .disableFasttack session => (txQueue.disableFasttack session).2

/-- Number of calls of `enqueue` in a sequence of operations. -/
def enqueueCount (operations : List Operation) : Nat :=
  operations.countP fun operation =>
    match operation with
    | .enqueue _ _ => true
    | _ => false

theorem Consistent.setters (consistent : txQueue.Consistent) (operation : Operation)
    (noEnqueue : ∀ now element, operation ≠ .enqueue now element) :
    (txQueue.step operation).Consistent := by
  cases operation with
  | enqueue now element => exact absurd rfl (noEnqueue now element)
  | pop session => exact consistent.pop session
  | clear => exact consistent.clear
  | setTransmissionsResults _ session | setTransmissionTimestamp _ session
  | resetTransmissionTimestamp session =>
    exact consistent.modify session (fun _ => rfl) (fun _ => rfl)
  | decrementExpectedResponses session => exact consistent.decrementAlongParents _ session
  | consumeTransportCompletionStepPending session =>
    simp only [step, consumeTransportCompletionStepPending]
    split
    · exact consistent.modify session (fun _ => rfl) (fun _ => rfl)
    · exact consistent
  | disableFasttack session => exact consistent.modify session (fun _ => rfl) (fun _ => rfl)

theorem counter_enqueue_le (txQueue : TxQueue) (now : ClockTime) (element : QueueElement) :
    (txQueue.enqueue now element).2.zwaveTxSessionIdCounter ≤
      txQueue.zwaveTxSessionIdCounter + 1 := by
  by_cases accepted : (txQueue.enqueue now element).1 = .ok
  · obtain ⟨_, _, _, counter, _⟩ := enqueue_ok accepted
    rw [counter]
    exact Nat.mod_le _ _
  · obtain ⟨_, _, counter⟩ := enqueue_rejected accepted
    rcases counter with kept | next
    · rw [kept]
      exact Nat.le_succ _
    · rw [next]
      exact Nat.mod_le _ _

theorem counter_decrementAlongParents (txQueue : TxQueue) (session : SessionId) :
    (decrementAlongParents fuel txQueue session).2.zwaveTxSessionIdCounter =
      txQueue.zwaveTxSessionIdCounter := by
  induction fuel generalizing session with
  | zero => rfl
  | succ fuel ih =>
    unfold decrementAlongParents
    split
    next => rfl
    next =>
      split
      · exact counter_modify _ _ _
      · split
        · exact ih _
        · rfl

theorem counter_setters (txQueue : TxQueue) (operation : Operation)
    (noEnqueue : ∀ now element, operation ≠ .enqueue now element) :
    (txQueue.step operation).zwaveTxSessionIdCounter = txQueue.zwaveTxSessionIdCounter := by
  cases operation with
  | enqueue now element => exact absurd rfl (noEnqueue now element)
  | pop session => exact counter_pop txQueue session
  | clear => rfl
  | setTransmissionsResults | setTransmissionTimestamp | resetTransmissionTimestamp
  | disableFasttack => exact counter_modify _ _ _
  | decrementExpectedResponses session => exact counter_decrementAlongParents _ txQueue session
  | consumeTransportCompletionStepPending session =>
    simp only [step, consumeTransportCompletionStepPending]
    split
    · exact counter_modify _ _ _
    · rfl

/-- The queue stays consistent while its counter does not wrap. -/
theorem Consistent.run (consistent : txQueue.Consistent) {operations : List Operation}
    (counterFits : txQueue.zwaveTxSessionIdCounter + enqueueCount operations < 2 ^ 32) :
    (Foundation.run step txQueue operations).Consistent := by
  induction operations generalizing txQueue with
  | nil => exact consistent
  | cons operation rest ih =>
    by_cases isEnqueue : ∃ now element, operation = .enqueue now element
    · obtain ⟨now, element, isEnqueue⟩ := isEnqueue
      subst isEnqueue
      simp only [enqueueCount, List.countP_cons, if_true] at counterFits
      refine ih (consistent.enqueue now element (by omega)) ?_
      have counter := counter_enqueue_le txQueue now element
      simp only [enqueueCount, step]
      omega
    · simp only [not_exists] at isEnqueue
      refine ih (consistent.setters operation isEnqueue) ?_
      rw [counter_setters txQueue operation isEnqueue]
      have : enqueueCount (operation :: rest) = enqueueCount rest := by
        unfold enqueueCount
        rw [List.countP_cons_of_neg]
        cases operation <;> simp at isEnqueue ⊢
      omega

/-- After any sequence of operations with fewer than `2 ^ 32` enqueues the
frame counts are the numbers of queued singlecast frames, without an entry for
zero, no count and no size exceeds its limit and the queued session ids are
pairwise distinct. -/
theorem run_initial_consistent (operations : List Operation)
    (fewEnqueues : enqueueCount operations < 2 ^ 32) :
    (∀ node,
        (Foundation.run step initial operations).perNodeFrameCount node =
          if singlecastCount node (Foundation.run step initial operations).elements = 0
          then none
          else some (singlecastCount node
            (Foundation.run step initial operations).elements)) ∧
      (∀ node count,
        (Foundation.run step initial operations).perNodeFrameCount node = some count ->
          count ≤ zwaveTxQueueMaxFramesPerNode) ∧
      (Foundation.run step initial operations).size ≤ zwaveTxQueueBufferSize ∧
      ((Foundation.run step initial operations).elements.map
        QueueElement.zwaveTxSessionId).Nodup := by
  have consistent : (run step initial operations).Consistent :=
    Consistent.initial.run (by simpa [initial] using fewEnqueues)
  refine ⟨consistent.counted, ?_, consistent.fits, consistent.distinct⟩
  intro node count entry
  have within := consistent.shared node
  rw [consistent.counted] at entry
  unfold countEntry at entry
  split at entry
  · cases entry
  · cases entry
    exact within

/-- A frame of one byte towards a node, as a user hands it in. -/
def sampleElement (qosPriority : Nat) : QueueElement where
  data := [0x20]
  sendDataTxStatus := TxReport.zero
  options := { numberOfResponses := 0, qosPriority := qosPriority }
  connectionInfo :=
    { local' := { nodeId := 1 }
      remote := { nodeId := 3, isMulticast := false }
      encapsulation := .none }
  zwaveTxSessionId := 0
  queueTimestamp := 0
  transmissionTimestamp := 0
  transmissionTime := 0
  transportCompletionStepPending := false
  callbackFunction := none
  user := 0
  sendDataStatus := 0

/-- Two frames towards one node are queued, the first is removed and its results are asked
for once more. -/
def sampleOperations : List Operation :=
  [.enqueue 5 (sampleElement 10), .enqueue 6 (sampleElement 20), .pop 0,
    .setTransmissionsResults 9 0 0 none]

/-- One frame towards the node is left, and counted. -/
theorem run_initial_consistent_sample :
    enqueueCount sampleOperations < 2 ^ 32 ∧
      (Foundation.run step initial sampleOperations).perNodeFrameCount 3 = some 1 ∧
      (Foundation.run step initial sampleOperations).size ≤ zwaveTxQueueBufferSize := by
  obtain ⟨counted, -, fits, -⟩ := run_initial_consistent sampleOperations (by decide)
  have oneLeft :
      singlecastCount 3 (run step initial sampleOperations).elements = 1 := by
    decide
  refine ⟨by decide, ?_, fits⟩
  rw [counted 3, oneLeft]
  rfl

/-- The frame in front has the highest QoS among the queued frames. -/
def FirstIsHighest (txQueue : TxQueue) : Prop :=
  ∀ first, txQueue.firstInQueue = some first ->
    ∀ element ∈ txQueue.elements, queueElementQosCompare element first = false

instance : IsStrictWeakOrder QueueElement
    (fun left right => queueElementQosCompare left right = true) where
  irrefl := by simp [queueElementQosCompare]
  trans := by
    simp only [queueElementQosCompare, decide_eq_true_eq]
    omega
  incomp_trans := by
    simp only [queueElementQosCompare, decide_eq_true_eq]
    omega

/-- Every removal puts the last element of the array where it fits. -/
def PopFits (txQueue : TxQueue) : Operation -> Prop
  | .pop session =>
      ∀ position, txQueue.findPosition session = some position ->
        txQueue.queue.LastFits queueElementQosCompare position
  | _ => True

theorem heapOrdered_modify (ordered : HeapOrdered queueElementQosCompare txQueue.elements)
    (session : SessionId)
    (keepsQos : ∀ element, (change element).options.qosPriority = element.options.qosPriority) :
    HeapOrdered queueElementQosCompare (txQueue.modify session change).2.elements := by
  have byQos := heapOrdered_map_iff (fun left right : Nat => decide (right < left))
    (fun element : QueueElement => element.options.qosPriority)
  refine (byQos _).mp ?_
  rw [map_modify keepsQos]
  exact (byQos _).mpr ordered

theorem heapOrdered_decrementAlongParents
    (ordered : HeapOrdered queueElementQosCompare txQueue.elements) (fuel : Nat)
    (session : SessionId) :
    HeapOrdered queueElementQosCompare (decrementAlongParents fuel txQueue session).2.elements := by
  induction fuel generalizing session with
  | zero => exact ordered
  | succ fuel ih =>
    unfold decrementAlongParents
    split
    next => exact ordered
    next =>
      split
      · exact heapOrdered_modify ordered session fun _ => rfl
      · split
        · exact ih _
        · exact ordered

theorem heapOrdered_nil (greater : QueueElement -> QueueElement -> Bool) :
    HeapOrdered greater [] := by
  intro i positive item parent itemAt
  cases itemAt

theorem heapOrdered_pop_iff (ordered : HeapOrdered queueElementQosCompare txQueue.elements)
    (session : SessionId) :
    HeapOrdered queueElementQosCompare (txQueue.pop session).2.elements ↔
      txQueue.PopFits (.pop session) := by
  simp only [PopFits]
  cases found : txQueue.find session with
  | none =>
    rw [pop_absent found]
    refine ⟨fun _ position atPosition => ?_, fun _ => ordered⟩
    obtain ⟨inside, own⟩ := List.findIdx?_eq_some_iff_getElem.mp atPosition
    exact absurd (by simpa using own.1)
      (find_eq_none_iff.mp found _ (List.getElem_mem inside))
  | some element =>
    obtain ⟨position, atPosition, elementAt⟩ := findPosition_of_find found
    have inside := (List.getElem?_eq_some_iff.mp elementAt).1
    have erased := txQueue.queue.erase_heapOrdered_iff inside ordered
    have popped : (txQueue.pop session).2.elements =
        (txQueue.queue.erase queueElementQosCompare position).elements := by
      simp only [pop, found, atPosition, elements]
    rw [popped, erased, atPosition]
    simp

/-- An operation keeps the heap order exactly if its pop fits. -/
theorem step_heapOrdered_iff (txQueue : TxQueue) (operation : Operation)
    (ordered : HeapOrdered queueElementQosCompare txQueue.elements) :
    HeapOrdered queueElementQosCompare (txQueue.step operation).elements ↔
      txQueue.PopFits operation := by
  cases operation with
  | enqueue now element =>
    simp only [PopFits, iff_true, step]
    by_cases accepted : (txQueue.enqueue now element).1 = .ok
    · have inserted := txQueue.queue.insert_heapOrdered (txQueue.stored now element) ordered
      obtain ⟨belowLimit, room, _⟩ := enqueue_ok accepted
      have fitted := (txQueue.queue.insert_perm queueElementQosCompare
        (txQueue.stored now element) room).1
      unfold enqueue elements
      rw [if_neg (by simp [belowLimit])]
      simp only [fitted, if_true]
      exact inserted
    · rw [(enqueue_rejected accepted).1]
      exact ordered
  | pop session => exact heapOrdered_pop_iff ordered session
  | clear => exact iff_of_true (heapOrdered_nil _) trivial
  | setTransmissionsResults _ session | setTransmissionTimestamp _ session
  | resetTransmissionTimestamp session | disableFasttack session =>
    exact iff_of_true (heapOrdered_modify ordered session fun _ => rfl) trivial
  | decrementExpectedResponses session =>
    exact iff_of_true (heapOrdered_decrementAlongParents ordered _ session) trivial
  | consumeTransportCompletionStepPending session =>
    simp only [step, consumeTransportCompletionStepPending, PopFits, iff_true]
    split
    · exact heapOrdered_modify ordered session fun _ => rfl
    · exact ordered

theorem firstIsHighest_of_heapOrdered
    (ordered : HeapOrdered queueElementQosCompare txQueue.elements) : txQueue.FirstIsHighest :=
  fun _ first _ mem => txQueue.queue.front_not_exceeded ordered first mem

/-- The container keeps its heap order, a maximum in front and the account of
its elements after every operation of a sequence exactly when each erasure puts
the last element where it fits; the TX queue keeps the order of its heap and
the highest QoS in front under the same condition on its removals. -/
theorem heap_order_throughout_iff {α : Type*} {maxSize : Nat} {greater : α -> α -> Bool}
    [IsStrictWeakOrder α (fun left right => greater left right = true)]
    (operations : List (PriorityQueue.Operation α)) (txOperations : List Operation) :
    ((∀ done, done <+: operations ->
        let history := Foundation.run (PriorityQueue.History.step greater)
          (PriorityQueue.History.start : PriorityQueue.History α maxSize) done
        HeapOrdered greater history.queue.elements ∧
          (∀ first, history.queue.front = some first ->
            ∀ item ∈ history.queue.elements, greater item first = false) ∧
          history.Accounted) ↔
      StepsMeet (PriorityQueue.History.step greater) (PriorityQueue.ErasureFits greater)
        (PriorityQueue.History.start : PriorityQueue.History α maxSize) operations) ∧
    ((∀ done, done <+: txOperations ->
        HeapOrdered queueElementQosCompare (run step initial done).elements ∧
          (run step initial done).FirstIsHighest) ↔
      StepsMeet step PopFits initial txOperations) := by
  constructor
  · have ordered := @PriorityQueue.heapOrdered_throughout_iff α maxSize greater _
      PriorityQueue.History.start PriorityQueue.History.start_heapOrdered operations
    rw [← ordered]
    refine forall₂_congr fun done _ => ⟨fun holds => holds.1, fun heap => ⟨heap, ?_, ?_⟩⟩
    · intro first isFront item stored
      exact PriorityQueue.front_not_exceeded _ heap isFront stored
    · exact run_invariant PriorityQueue.History.Accounted
        (fun _ operation accounted => accounted.step greater operation)
        PriorityQueue.History.start_accounted done
  · have initially : HeapOrdered queueElementQosCompare initial.elements := heapOrdered_nil _
    have ordered := throughout_iff_stepsMeet
      (fun txQueue : TxQueue => HeapOrdered queueElementQosCompare txQueue.elements)
      step_heapOrdered_iff initially txOperations
    rw [← ordered]
    exact forall₂_congr fun done _ =>
      ⟨fun holds => holds.1, fun heap => ⟨heap, firstIsHighest_of_heapOrdered heap⟩⟩

/-- Six frames whose heap has a small left branch; the fourth one is
removed. -/
def brokenHeapOperations : List Operation :=
  [.enqueue 1 (sampleElement 10), .enqueue 1 (sampleElement 5),
    .enqueue 1 (sampleElement 9), .enqueue 1 (sampleElement 4),
    .enqueue 1 (sampleElement 3), .enqueue 1 (sampleElement 8), .pop 3]

/-- One more frame is queued and the two frames of highest QoS are removed. -/
def wrongFrontOperations : List Operation :=
  brokenHeapOperations ++ [.enqueue 1 (sampleElement 1), .pop 0, .pop 2]

/-- The removal lifts the last element over its parent, and after three more
operations a frame of QoS 5 stands in front of one of QoS 8. -/
theorem pop_breaks_heap_order :
    ¬ HeapOrdered queueElementQosCompare
        (Foundation.run step initial brokenHeapOperations).elements ∧
      ¬ (Foundation.run step initial wrongFrontOperations).FirstIsHighest := by
  constructor
  · intro ordered
    have pair := ordered 3 (by decide) _ _ rfl rfl
    revert pair
    decide
  · intro highest
    have front := highest _ rfl _ (List.mem_of_getElem? (i := 1) rfl)
    revert front
    decide

instance : IsStrictWeakOrder Nat (fun left right => decide (right < left) = true) where
  irrefl := by simp
  trans := by
    simp only [decide_eq_true_eq]
    omega
  incomp_trans := by
    simp only [decide_eq_true_eq]
    omega

/-- Removing from the bottom of a chain of the heap meets the condition. -/
theorem heap_order_throughout_iff_sample :
    HeapOrdered (fun left right : Nat => decide (right < left))
        (Foundation.run (PriorityQueue.History.step fun left right : Nat => decide (right < left))
          (PriorityQueue.History.start : PriorityQueue.History Nat 4)
          [.insert 2, .insert 7, .erase 1]).queue.elements ∧
      (Foundation.run (PriorityQueue.History.step fun left right : Nat => decide (right < left))
        (PriorityQueue.History.start : PriorityQueue.History Nat 4)
        [.insert 2, .insert 7, .erase 1]).Accounted := by
  have fits : StepsMeet
      (PriorityQueue.History.step fun left right : Nat => decide (right < left))
      (PriorityQueue.ErasureFits fun left right : Nat => decide (right < left))
      (PriorityQueue.History.start : PriorityQueue.History Nat 4)
      [.insert 2, .insert 7, .erase 1] := by
    refine ⟨trivial, trivial, ?_, trivial⟩
    intro inside positive notLast
    exact absurd notLast (by decide)
  obtain ⟨ordered, -, accounted⟩ :=
    (heap_order_throughout_iff _ []).1.mpr fits _ (List.prefix_refl _)
  exact ⟨ordered, accounted⟩

end TxQueue

end ZwaveTx
