import Zpc.Foundation.KeyedList
import Zpc.ZwaveTx.Definitions
import Zpc.ZwaveTx.PriorityQueue

/-!
# The TX queue

The class `zwave_tx_queue`: a priority queue of frames ordered by their QoS
priority, the counter the session ids are taken from and the number of
singlecast frames per destination.  A getter that fills an element and returns
a status is an option here; the clock is an argument of the functions that
read it.  The locks and the log output are left out.
-/

namespace ZwaveTx

open Foundation

/-- The members of `zwave_tx_queue`.  The counter is a `uint32_t`; a node
without an entry in `per_node_frame_count_` is mapped to `none`. -/
structure TxQueue where
  queue : PriorityQueue QueueElement zwaveTxQueueBufferSize
  zwaveTxSessionIdCounter : Nat
  perNodeFrameCount : NodeId -> Option Nat

namespace TxQueue

/-- A queue as it is constructed. -/
def initial : TxQueue := ⟨PriorityQueue.clear, 0, fun _ => none⟩

/-- The queued elements in the order of the array. -/
def elements (txQueue : TxQueue) : List QueueElement := txQueue.queue.elements

variable (txQueue : TxQueue)

/-- The element an iterator returned by `find` points to. -/
def find (session : SessionId) : Option QueueElement :=
  lookup QueueElement.zwaveTxSessionId session txQueue.elements

/-- The position of the iterator returned by `find`. -/
def findPosition (session : SessionId) : Option Nat :=
  txQueue.elements.findIdx? fun element => element.zwaveTxSessionId == session

/-- Whether nothing is queued. -/
def empty (txQueue : TxQueue) : Bool := txQueue.queue.empty

/-- Number of queued elements. -/
def size (txQueue : TxQueue) : Nat := txQueue.queue.size

/-- Whether a session is queued. -/
def contains (session : SessionId) : Bool := (txQueue.find session).isSome

/-- A copy of the element of a session. -/
def getById (session : SessionId) : Option QueueElement := txQueue.find session

/-- The element in front of the heap. -/
def firstInQueue : Option QueueElement := txQueue.queue.front

/-- Whether the destination of a singlecast element has used up its share. -/
def perNodeLimitReached (element : QueueElement) : Bool :=
  !element.connectionInfo.remote.isMulticast &&
    decide (zwaveTxQueueMaxFramesPerNode ≤
      (txQueue.perNodeFrameCount element.connectionInfo.remote.nodeId).getD 0)

/-- The copy of a new element that `enqueue` stores. -/
def stored (now : ClockTime) (element : QueueElement) : QueueElement :=
  { element with
    zwaveTxSessionId := txQueue.zwaveTxSessionIdCounter
    options :=
      { element.options with
        transport :=
          { element.options.transport with
            parentSessionId :=
              if element.options.transport.validParentSessionId then
                element.options.transport.parentSessionId
              else nullSession } }
    transmissionTimestamp := 0
    transmissionTime := 0
    transportCompletionStepPending := false
    queueTimestamp := now }

/-- One more singlecast frame towards the destination of an element. -/
def countedUp (element : QueueElement) : NodeId -> Option Nat :=
  if element.connectionInfo.remote.isMulticast then txQueue.perNodeFrameCount
  else
    Function.update txQueue.perNodeFrameCount element.connectionInfo.remote.nodeId
      (some ((txQueue.perNodeFrameCount
        element.connectionInfo.remote.nodeId).getD 0 + 1))

/-- One singlecast frame less towards the destination of an element. -/
def countedDown (element : QueueElement) : NodeId -> Option Nat :=
  if element.connectionInfo.remote.isMulticast then txQueue.perNodeFrameCount
  else
    match txQueue.perNodeFrameCount element.connectionInfo.remote.nodeId with
    | none => txQueue.perNodeFrameCount
    | some count =>
        Function.update txQueue.perNodeFrameCount
          element.connectionInfo.remote.nodeId
          (if count - 1 = 0 then none else some (count - 1))

/-- Queue a copy of a new element under a fresh session id.  The id is used up
even when the heap is full. -/
def enqueue (now : ClockTime) (element : QueueElement) : SlStatus × TxQueue :=
  if txQueue.perNodeLimitReached element then (.full, txQueue)
  else
    let inserted := txQueue.queue.insert queueElementQosCompare (txQueue.stored now element)
    let counter := (txQueue.zwaveTxSessionIdCounter + 1) % 2 ^ 32
    if inserted.1 then
      (.ok, ⟨inserted.2, counter, txQueue.countedUp element⟩)
    else
      (.full, ⟨inserted.2, counter, txQueue.perNodeFrameCount⟩)

/-- Remove the element of a session. -/
def pop (session : SessionId) : SlStatus × TxQueue :=
  match txQueue.find session, txQueue.findPosition session with
  | some element, some position =>
      (.ok,
        { txQueue with
          queue := txQueue.queue.erase queueElementQosCompare position
          perNodeFrameCount := txQueue.countedDown element })
  | _, _ => (.notFound, txQueue)

/-- Remove everything. -/
def clear (txQueue : TxQueue) : TxQueue :=
  { txQueue with queue := PriorityQueue.clear, perNodeFrameCount := fun _ => none }

/-- Change the element of a session in place, where `find` points to. -/
def modify (txQueue : TxQueue) (session : SessionId)
    (change : QueueElement -> QueueElement) : SlStatus × TxQueue :=
  match txQueue.find session with
  | some _ =>
      (.ok,
        { txQueue with
          queue :=
            ⟨updateFirst QueueElement.zwaveTxSessionId session change
              txQueue.elements⟩ })
  | none => (.notFound, txQueue)

/-- An element with the results of its transmission written into it. -/
def withResults (now : ClockTime) (status : Nat) (report : Option TxReport)
    (element : QueueElement) : QueueElement :=
  let elapsed := now - element.transmissionTimestamp
  let transmissionTime := if elapsed = 0 then 1 else elapsed
  { element with
    sendDataStatus := status
    sendDataTxStatus :=
      { report.getD TxReport.zero with
        transmitTicks := transmissionTime / 10 % 2 ^ 16 }
    transmissionTime := transmissionTime
    transportCompletionStepPending := true }

/-- Record the outcome of a transmission. -/
def setTransmissionsResults (now : ClockTime) (session : SessionId) (status : Nat)
    (report : Option TxReport) : SlStatus × TxQueue :=
  txQueue.modify session (withResults now status report)

/-- The recursion of `decrement_expected_responses` along the parents. -/
def decrementAlongParents : Nat -> TxQueue -> SessionId -> SlStatus × TxQueue
  | 0, txQueue, _ => (.notFound, txQueue)
  | fuel + 1, txQueue, session =>
      match txQueue.find session with
      | none => (.notFound, txQueue)
      | some element =>
          if 0 < element.options.numberOfResponses then
            txQueue.modify session fun element =>
              { element with
                options :=
                  { element.options with
                    numberOfResponses := element.options.numberOfResponses - 1 } }
          else if element.options.transport.validParentSessionId then
            decrementAlongParents fuel txQueue
              element.options.transport.parentSessionId
          else (.ok, txQueue)

/-- One expected response less for a session or for the first of its parents
that expects some.  A chain of parents is not longer than the queue. -/
def decrementExpectedResponses (session : SessionId) : SlStatus × TxQueue :=
  decrementAlongParents (txQueue.size + 1) txQueue session

/-- Note that a frame is handed to a transport now. -/
def setTransmissionTimestamp (now : ClockTime) (session : SessionId) : SlStatus × TxQueue :=
  txQueue.modify session fun element => { element with transmissionTimestamp := now }

/-- Treat a frame as not sent. -/
def resetTransmissionTimestamp (session : SessionId) : SlStatus × TxQueue :=
  txQueue.modify session fun element =>
    { element with transmissionTimestamp := 0, transmissionTime := 0 }

/-- Whether the completion step of a session still has to run. -/
def transportCompletionStepIsPending (session : SessionId) : Bool :=
  match txQueue.find session with
  | some element => element.transportCompletionStepPending
  | none => false

/-- Take the pending flag of a session. -/
def consumeTransportCompletionStepPending (session : SessionId) : Bool × TxQueue :=
  if txQueue.transportCompletionStepIsPending session then
    (true,
      (txQueue.modify session fun element =>
        { element with transportCompletionStepPending := false }).2)
  else (false, txQueue)

/-- Do not requeue a frame when it fails. -/
def disableFasttack (session : SessionId) : SlStatus × TxQueue :=
  txQueue.modify session fun element =>
    { element with options := { element.options with fasttrack := false } }

/-- One round of a scan: an element that passes the test replaces the kept one
when it is better. -/
def keepBetter (candidate : QueueElement -> Bool) (better : QueueElement -> QueueElement -> Bool)
    (best : Option QueueElement) (element : QueueElement) : Option QueueElement :=
  if candidate element then
    match best with
    | none => some element
    | some kept => if better element kept then some element else some kept
  else best

/-- Scan the elements from the front of the array for the best candidate. -/
def scan (candidate : QueueElement -> Bool) (better : QueueElement -> QueueElement -> Bool)
    (elements : List QueueElement) : Option QueueElement :=
  elements.foldl (keepBetter candidate better) none

/-- The child of a session with the highest priority. -/
def getHighestPriorityChild (session : SessionId) : Option QueueElement :=
  scan (fun element => parentSessionIdEquals element session)
    queueElementQosCompare txQueue.elements

/-- A frame that was not sent and belongs to no parent. -/
def unsentStandalone (element : QueueElement) : Bool :=
  element.transmissionTimestamp == 0 && !element.options.transport.validParentSessionId

/-- The unsent standalone frame with the highest QoS. -/
def findBestUnsentByQos : Option QueueElement :=
  scan unsentStandalone queueElementQosCompare txQueue.elements

/-- The unsent standalone frame with the highest QoS among those that need not
wait for a back-off. -/
def findBestUnsentBackoffBypass : Option QueueElement :=
  scan
    (fun element =>
      element.transmissionTimestamp == 0 &&
        (element.options.transport.ignoreIncomingFramesBackOff &&
          !element.options.transport.validParentSessionId))
    queueElementQosCompare txQueue.elements

/-- The unsent standalone frame with the lowest QoS. -/
def findWorstUnsentByQos : Option QueueElement :=
  scan unsentStandalone (fun element worst => queueElementQosCompare worst element)
    txQueue.elements

/-- The sessions of the singlecast frames towards a node. -/
def collectSessionIdsForNode (node : NodeId) : List SessionId :=
  (txQueue.elements.filter fun element =>
    !element.connectionInfo.remote.isMulticast && element.connectionInfo.remote.nodeId == node).map
    QueueElement.zwaveTxSessionId

/-- All queued sessions. -/
def collectAllSessionIds : List SessionId :=
  txQueue.elements.map QueueElement.zwaveTxSessionId

/-- One sweep over the queue that adds the elements whose parent is collected
already. -/
def sweepDescendants (elements : List QueueElement) (ids : List SessionId) : List SessionId :=
  elements.foldl
    (fun ids element =>
      if element.zwaveTxSessionId ∈ ids then ids
      else if element.options.transport.validParentSessionId &&
          decide (element.options.transport.parentSessionId ∈ ids) then
        ids ++ [element.zwaveTxSessionId]
      else ids)
    ids

/-- Sweep until a sweep adds nothing. -/
def sweepUntilStable : Nat -> List QueueElement -> List SessionId -> List SessionId
  | 0, _, ids => ids
  | fuel + 1, elements, ids =>
      if (sweepDescendants elements ids).length = ids.length then ids
      else sweepUntilStable fuel elements (sweepDescendants elements ids)

/-- A session and everything below it, parents first.  Each sweep but the last
adds an element of the queue. -/
def collectDescendants (root : SessionId) : List SessionId :=
  match txQueue.find root with
  | none => []
  | some _ => sweepUntilStable (txQueue.size + 1) txQueue.elements [root]

/-- The hops of `find_root`, started at the element of a session. -/
def climb : Nat -> TxQueue -> SessionId -> SessionId
  | 0, _, session => session
  | hops + 1, txQueue, session =>
      match txQueue.find session with
      | none => session
      | some element =>
          if element.options.transport.validParentSessionId then
            match txQueue.find element.options.transport.parentSessionId with
            | none => session
            | some _ => climb hops txQueue element.options.transport.parentSessionId
          else session

/-- The topmost queued ancestor of a session. -/
def findRoot (session : SessionId) : SessionId :=
  climb txQueue.size txQueue session

end TxQueue

end ZwaveTx
