import Zpc.ZwaveTx.Process

/-!
# The TX component as a system

The entry points of the component, from `zwave_tx.cpp` and from the second half
of `zwave_tx_process.cpp`, and the system they form: its actions are the calls
made by users, by transports, by the timer and by the network management, and
the handling of one event by the thread of the process.  Each action runs to
its end before the next one starts.
-/

namespace ZwaveTx

open Foundation

namespace TxProcess

/-- Whether it is an S2 Nonce Get or Nonce Report. -/
def isS2TransportInternalFrame (frame : List UInt8) : Bool :=
  match frame with
  | commandClass :: command :: _ => commandClass == 0x9F && (command == 0x01 || command == 0x02)
  | _ => false

variable (proc : TxProcess)

/-- Whether a frame is a reply the current session waits for. -/
def isReplyToCurrent (node : NodeId) (frame : List UInt8) (current : QueueElement) : Bool :=
  !(isS2TransportInternalFrame frame && !isS2TransportInternalFrame current.data) &&
    proc.backoffReason == .currentSessionId &&
    node == current.connectionInfo.remote.nodeId &&
    decide (0 < current.options.numberOfResponses)

variable (env : Surroundings)

/-- The last part of `zwave_tx_process_inspect_received_frame_step`: the frame
may be a reply to the current session. -/
def handleReply (proc : TxProcess) (node : NodeId) (frame : List UInt8) : TxProcess :=
  match proc.txQueue.getById proc.currentTxSessionId with
  | none => proc
  | some current =>
      if proc.isReplyToCurrent node frame current then
        let proc :=
          if current.options.numberOfResponses = 1 then
            proc.resumeFromBackoffStep env
          else proc
        proc.withQueue
          (proc.txQueue.decrementExpectedResponses proc.currentTxSessionId).2
      else proc

/-- `zwave_tx_process_inspect_received_frame_step`. -/
def inspectReceivedFrameStep (proc : TxProcess) (node : NodeId) (frame : List UInt8) : TxProcess :=
  if proc.backoffReason = .expectedAdditionalFrames then
    if 0 < proc.expectedIncomingFrames.getFrames node then
      let proc := proc.withExpectedFrames (proc.expectedIncomingFrames.decrementFrames node)
      if proc.expectedIncomingFrames.empty then
        proc.resumeFromBackoffStep env
      else proc
    else proc
  else if proc.state = .idle ∨
      (proc.state = .backoff ∧ proc.backoffReason = .incomingUnsolicitedRoutedFrame) then
    if 0 < routeCacheGetNumberOfRepeaters proc.routeCache node then
      proc.initiateBackoff .incomingUnsolicitedRoutedFrame
    else proc
  else proc.handleReply env node frame

/-- `zwave_tx_process_abort_transmission` for a queued session. -/
def abortQueued (proc : TxProcess) (session : SessionId) : SlStatus × TxProcess :=
  let proc := proc.withQueue (proc.txQueue.disableFasttack session).2
  if proc.currentTxSessionId = session ∧ proc.state = .backoff ∧
      proc.backoffReason = .currentSessionId then
    (.ok, proc.resumeFromBackoffStep env)
  else if proc.state = .idle then
    (.ok, (proc.withCurrent session).dropUnsentCurrentMessage)
  else
    let answer := transportAbortSendData env proc session
    if answer.1 = .ok then answer
    else
      let written :=
        answer.2.txQueue.setTransmissionsResults answer.2.clockTime session
          transmitCompleteFail none
      (written.1, checkQueue env (answer.2.withQueue written.2))

/-- `zwave_tx_process_abort_transmission`. -/
def abortTransmission (proc : TxProcess) (session : SessionId) : SlStatus × TxProcess :=
  if proc.txQueue.contains session then proc.abortQueued env session
  else (.notFound, proc)

/-- Abort the sessions of a list one after the other. -/
def abortAll (proc : TxProcess) (sessions : List SessionId) : TxProcess :=
  run (fun proc session => (abortTransmission env proc session).2)
    proc sessions

/-- `zwave_tx_process_abort_transmissions_for_node`. -/
def abortTransmissionsForNode (proc : TxProcess) (node : NodeId) : TxProcess :=
  proc.abortAll env (proc.txQueue.collectSessionIdsForNode node)

/-- The part of the flush that deals with the current transmission: end an
active back-off, then drop what is on its way. -/
def flushCurrent (proc : TxProcess) : TxProcess :=
  let proc :=
    if proc.state = .backoff then proc.resumeFromBackoffStep env
    else proc
  if proc.state = .transmissionOngoing then
    (transportAbortSendData env proc
      proc.currentTxSessionId).2.dropUnsentCurrentMessage
  else proc

/-- The flag that a flush is ongoing is changed. -/
def withFlush (isOngoing : Bool) : TxProcess :=
  { proc with queueFlushOngoing := isOngoing }

/-- `zwave_tx_process_flush_queue_reset_step`. -/
def flushQueueResetStep (proc : TxProcess) : SlStatus × TxProcess :=
  let proc := proc.withFlush true
  if proc.txQueue.empty then (.alreadyInitialized, proc)
  else
    let proc := proc.flushCurrent env
    (.ok, proc.abortAll env proc.txQueue.collectAllSessionIds)

/-- `zwave_tx_process_open_tx_queue`. -/
def openTxQueue : TxProcess := proc.withFlush false

/-- `zwave_tx_process_set_expected_frames`. -/
def setExpectedFrames (proc : TxProcess) (node : NodeId) (count : Nat) : TxProcess :=
  let proc := proc.withExpectedFrames (proc.expectedIncomingFrames.setFrames node count)
  if proc.state = .backoff ∧ proc.backoffReason = .expectedAdditionalFrames ∧
      proc.expectedIncomingFrames.empty = true then
    proc.resumeFromBackoffStep env
  else proc

/-- Whether the watchdog finds the current transmission stuck. -/
def isStuckInFlight : Bool :=
  proc.state == .transmissionOngoing &&
    match proc.txQueue.getById proc.currentTxSessionId with
    | none => false
    | some element =>
        element.transmissionTimestamp != 0 && element.transmissionTime == 0 &&
          decide (txFrameInFlightWatchdogMs < proc.clockTime - element.transmissionTimestamp)

/-- One member of a stuck family is failed. -/
def forceFail (proc : TxProcess) (session : SessionId) : TxProcess :=
  let txQueue := (proc.txQueue.disableFasttack session).2
  let txQueue :=
    (txQueue.setTransmissionsResults proc.clockTime session transmitCompleteFail none).2
  (proc.withQueue txQueue).transmissionCompletedStep env session

/-- `zwave_tx_process_service_in_flight_watchdog`. -/
def serviceInFlightWatchdog (proc : TxProcess) : TxProcess :=
  if proc.isStuckInFlight then
    let family :=
      proc.txQueue.collectDescendants
        (proc.txQueue.findRoot proc.currentTxSessionId)
    let aborted :=
      run (fun proc session => (transportAbortSendData env proc session).2)
        proc.clearProtocolFrame family
    run (forceFail env) aborted family.reverse
  else proc

/-- A completion that arrives during a back-off: it is handled, and the back-off
of another session is kept or put on the stack. -/
def completeDuringBackoff (proc : TxProcess) (session : SessionId) : TxProcess :=
  let completed := proc.transmissionCompletedStep env session
  if session ≠ proc.currentTxSessionId ∧ proc.backoffReason = .currentSessionId then
    if completed.state ≠ .backoff then
      { completed with
        state := .backoff
        backoffReason := proc.backoffReason
        currentTxSessionId := proc.currentTxSessionId }
    else if completed.currentTxSessionId ≠ proc.currentTxSessionId then
      { completed with
        preemptedBackoffStack := proc.currentTxSessionId :: completed.preemptedBackoffStack
        interrupted := proc.currentTxSessionId :: completed.interrupted }
    else completed
  else completed

/-- The idle process has to wait for incoming frames before it sends. -/
def isToWaitForFrames (proc : TxProcess) : Bool :=
  proc.state == .idle && !proc.canIgnoreIncomingFrames env && !proc.expectedIncomingFrames.empty

def handleEvent (proc : TxProcess) : Event -> TxProcess
  | .sendNextMessage =>
      if proc.isToWaitForFrames env then proc.checkQueue env
      else if proc.state = .backoff then proc.checkQueue env
      else proc.sendNextMessageStep env
  | .sendOperationComplete session =>
      if proc.state ≠ .backoff then
        proc.transmissionCompletedStep env session
      else proc.completeDuringBackoff env session
  | .backoffTimerExpired _ => proc.resumeFromBackoffStep env
  | .nodeDeleted node => proc.abortTransmissionsForNode env node
  | .frameReceived node frame => proc.inspectReceivedFrameStep env node frame

/-- The event in front is taken out of the event queue. -/
def takeEvent : TxProcess := { proc with eventQueue := proc.eventQueue.tail }

/-- One round of `zwave_tx_process::run` that finds an event. -/
def handleNextEvent (proc : TxProcess) : TxProcess :=
  match proc.eventQueue with
  | [] => proc
  | event :: _ => handleEvent env proc.takeEvent event

/-- The arguments of `zwave_tx_send_data`. -/
structure SendRequest where
  connection : ConnectionInfo
  data : List UInt8
  options : TxOptions
  onSendComplete : Option CallbackFunction
  user : UserPointer

/-- The loop and the recursion of `evict_subtree`: as long as the element has a
child in the queue, that child is evicted first. -/
def evictSubtree : Nat -> TxProcess -> QueueElement -> TxProcess
  | 0, proc, _ => proc
  | fuel + 1, proc, element =>
      match proc.txQueue.getHighestPriorityChild element.zwaveTxSessionId with
      | some child => evictSubtree fuel (evictSubtree fuel proc child) element
      | none =>
          (proc.withQueue
            (proc.txQueue.pop element.zwaveTxSessionId).2).callBack
            element transmitCompleteFail none

/-- The options of a new frame: a child of a queued parent gets a higher QoS
than it, and a frame with an unknown parent becomes a standalone one. -/
def adjustedOptions (options : TxOptions) : TxOptions :=
  if options.transport.validParentSessionId then
    match proc.txQueue.getById options.transport.parentSessionId with
    | none =>
        { options with
          transport := { options.transport with validParentSessionId := false } }
    | some parent =>
        if options.qosPriority ≤ parent.options.qosPriority then
          { options with qosPriority := (parent.options.qosPriority + 1) % 2 ^ 32 }
        else options
  else options

/-- Whether a frame is one of the protocol command classes, which must not be
encrypted. -/
def isDowngraded (request : SendRequest) : Bool :=
  match request.data with
  | commandClass :: _ =>
      (commandClass == 0x00 || commandClass == 0x01) && !request.options.transport.isProtocolFrame
  | [] => false

/-- The queue element `zwave_tx_send_data` builds from its arguments. -/
def newElement (proc : TxProcess) (request : SendRequest) : QueueElement where
  data := request.data
  sendDataTxStatus := TxReport.zero
  options := proc.adjustedOptions request.options
  connectionInfo :=
    { request.connection with
      local' :=
        { request.connection.local' with
          isMulticast := false
          nodeId :=
            if request.connection.local'.nodeId = 0 then
              env.networkManagementNodeId
            else request.connection.local'.nodeId }
      remote :=
        if isDowngraded request then { request.connection.remote with endpointId := 0 }
        else request.connection.remote
      encapsulation := if isDowngraded request then .none else request.connection.encapsulation }
  zwaveTxSessionId := 0
  queueTimestamp := 0
  transmissionTimestamp := 0
  transmissionTime := 0
  transportCompletionStepPending := false
  callbackFunction := request.onSendComplete
  user := request.user
  sendDataStatus := 0

/-- Whether `zwave_tx_send_data` rejects its arguments before it looks at the
queue. -/
def isRejected (proc : TxProcess) (request : SendRequest) : Bool :=
  proc.queueFlushOngoing ||
    decide (zwaveMaxFrameSize < request.data.length) ||
    (request.data.isEmpty && !request.options.transport.isTestFrame) ||
    (!request.connection.remote.isMulticast &&
      request.connection.remote.nodeId == env.networkManagementNodeId)

/-- Try to queue an element; when it is accepted the process is told to look at
the queue. -/
def tryEnqueue (element : QueueElement) : SlStatus × TxProcess :=
  let enqueued := proc.txQueue.enqueue proc.clockTime element
  if enqueued.1 = .ok then
    (.ok,
      { proc.withQueue enqueued.2 with
        accepted :=
          (proc.txQueue.zwaveTxSessionIdCounter, element.callbackFunction) ::
            proc.accepted }.postEvent .sendNextMessage)
  else (.fail, proc.withQueue enqueued.2)

/-- `zwave_tx_send_data`.  The recursion of an eviction goes no deeper than
twice the number of queued frames. -/
def sendData (proc : TxProcess) (request : SendRequest) : SlStatus × TxProcess :=
  if proc.isRejected env request then (.fail, proc)
  else
    let element := proc.newElement env request
    let first := proc.tryEnqueue element
    if first.1 = .ok then first
    else if zwaveTxQueueBufferSize ≤ first.2.txQueue.size then
      match first.2.txQueue.findWorstUnsentByQos with
      | some evicted =>
          (evictSubtree (2 * first.2.txQueue.size + 1) first.2 evicted).tryEnqueue element
      | none => (.fail, first.2)
    else (.fail, first.2)

/-- What can happen to the component. -/
inductive Action
  | sendData (env : Surroundings) (request : SendRequest)
  | transportCompletion (session : SessionId) (status : Nat) (report : Option TxReport)
  | timerExpiration
  | frameReceived (node : NodeId) (frame : List UInt8)
  | abortTransmission (env : Surroundings) (session : SessionId)
  | nodeDeleted (node : NodeId)
  | flushQueueResetStep (env : Surroundings)
  | openTxQueue
  | setExpectedFrames (env : Surroundings) (node : NodeId) (count : Nat)
  | watchdogTick (env : Surroundings)
  | handleNextEvent (env : Surroundings)
  | clockTick (elapsed : ClockTime)

/-- `zwave_tx_process_backoff_timer_callback`, when the timer is armed. -/
def timerExpiration : TxProcess :=
  match proc.backoffTimer with
  | some arming => proc.timerStop.postEvent (.backoffTimerExpired arming)
  | none => proc

/-- One step of the system.  A completion is that of the oldest dispatch of the
session; node zero is never deleted; a received frame is cut to the maximal
length of a frame. -/
def step (proc : TxProcess) : Action -> TxProcess
  | .sendData env request => (proc.sendData env request).2
  | .transportCompletion session status report => proc.transportCallsBack session status report
  | .timerExpiration => proc.timerExpiration
  | .frameReceived node frame => proc.postEvent (.frameReceived node (frame.take zwaveMaxFrameSize))
  | .abortTransmission env session => (proc.abortTransmission env session).2
  | .nodeDeleted node => if node = 0 then proc else proc.postEvent (.nodeDeleted node)
  | .flushQueueResetStep env => (proc.flushQueueResetStep env).2
  | .openTxQueue => proc.openTxQueue
  | .setExpectedFrames env node count => proc.setExpectedFrames env node count
  | .watchdogTick env => proc.serviceInFlightWatchdog env
  | .handleNextEvent env => proc.handleNextEvent env
  | .clockTick elapsed => { proc with clockTime := proc.clockTime + elapsed }

/-- Two bytes towards a node, as a user with a callback sends them. -/
def sampleRequest (node responses qosPriority : Nat) : SendRequest where
  connection := ⟨{ nodeId := 1 }, { nodeId := node }, .none⟩
  data := [0x20, 0x02]
  options := { numberOfResponses := responses, qosPriority := qosPriority }
  onSendComplete := some 7
  user := 4096

/-- The same frame, to be sent without waiting for the end of a back-off. -/
def sampleBypassRequest (node responses qosPriority : Nat) : SendRequest :=
  { sampleRequest node responses qosPriority with
    options :=
      { numberOfResponses := responses
        qosPriority := qosPriority
        transport := { ignoreIncomingFramesBackOff := true } } }

end TxProcess

end ZwaveTx
