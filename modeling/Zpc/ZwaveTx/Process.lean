import Zpc.ZwaveTx.IncomingFrames
import Zpc.ZwaveTx.Queue

/-!
# The TX process

The functions of `zwave_tx_process.cpp` and of `zwave_tx_callbacks.cpp` on an
explicit state.  A function of the source that changes global variables takes
the state and returns the next one; the answers of the transports, of the
network management and of the Z-Wave API come in as `Surroundings`.

Next to the variables of the source the state keeps a record of what happened:
the dispatches a transport has not called back for, the completions with the
sessions they were taken for, the callbacks made to users, the accepted
sessions, the sessions whose back-off was interrupted, the completed reset
steps and the number of times the back-off timer was armed.  No function of the
source reads these.

The length of a back-off is left out: when an armed timer expires is up to the
surroundings.  A callback made to a user returns at once; what the user then
asks of the component is an action of its own.
-/

namespace ZwaveTx

open Foundation

/-- What a transport answers to `abort_send_data`.  Some transports call the
completion callback before they return. -/
inductive AbortAnswer
  | notFound
  | accepted
  | acceptedCallingBack (status : Nat) (report : Option TxReport)

/-- What the code around the component answers during one call. -/
structure Surroundings where
  networkManagementState : NetworkManagementState := .idle
  networkManagementNodeId : NodeId := 1
  zwapiSupportsNls : Bool := false
  apiTransportIsBusy : Bool := false
  transportSendData : SlStatus := .ok
  transportAbortSendData : SessionId -> AbortAnswer := fun _ => .notFound

/-- A frame handed to a transport that has not called back yet: the session,
the pointer that was handed over for it and whether it was a protocol frame. -/
structure Dispatch where
  session : SessionId
  user : UserPointer
  isProtocolFrame : Bool
  deriving DecidableEq

/-- One call of an `on_send_complete` callback. -/
structure CallbackCall where
  session : SessionId
  function : CallbackFunction
  status : Nat
  report : Option TxReport
  user : UserPointer

/-- The variables of the TX process and the record of what happened. -/
structure TxProcess where
  txQueue : TxQueue
  state : TxState
  /-- The arming of the timer that runs. -/
  backoffTimer : Option Nat
  queueFlushOngoing : Bool
  currentTxSessionId : SessionId
  expectedIncomingFrames : IncomingFrames
  backoffReason : BackoffReason
  preemptedBackoffStack : List SessionId
  isProtocolFrame : Bool
  /-- What the user pointers of protocol frames lead to. -/
  protocolMetadata : UserPointer -> Option SessionId
  routeCache : List RouteCacheData
  eventQueue : List Event
  clockTime : ClockTime
  /-- How often the back-off timer was armed. -/
  timerArmings : Nat
  /-- The arming made for the back-off of a session. -/
  backoffArming : SessionId -> Nat
  /-- The sessions whose back-off was interrupted. -/
  interrupted : List SessionId
  /-- The dispatches that no transport called back for yet. -/
  inFlight : List Dispatch
  /-- The completions, with the sessions they were taken for. -/
  completions : List (Dispatch × Option SessionId)
  /-- The callbacks made to users. -/
  callbacks : List CallbackCall
  /-- The accepted sessions with their callbacks. -/
  accepted : List (SessionId × Option CallbackFunction)
  resetStepsCompleted : Nat
  /-- A user pointer that leads to no session was followed. -/
  undefinedBehaviour : Bool

namespace TxProcess

/-- The state after `initialize`.  The clock runs since the system started. -/
def initial : TxProcess where
  txQueue := TxQueue.initial
  state := .idle
  backoffTimer := none
  queueFlushOngoing := false
  currentTxSessionId := nullSession
  expectedIncomingFrames := IncomingFrames.clear
  backoffReason := .currentSessionId
  preemptedBackoffStack := []
  isProtocolFrame := false
  protocolMetadata := fun _ => none
  routeCache := routeCacheInit
  eventQueue := []
  clockTime := 1
  timerArmings := 0
  backoffArming := fun _ => 0
  interrupted := []
  inFlight := []
  completions := []
  callbacks := []
  accepted := []
  resetStepsCompleted := 0
  undefinedBehaviour := false

variable (proc : TxProcess)

def postEvent (event : Event) : TxProcess :=
  { proc with eventQueue := proc.eventQueue ++ [event] }

/-- `timer_stop` on the back-off timer. -/
def timerStop : TxProcess := { proc with backoffTimer := none }

/-- `timer_set` on the back-off timer. -/
def timerSet : TxProcess :=
  { proc with
    backoffTimer := some (proc.timerArmings + 1)
    timerArmings := proc.timerArmings + 1 }

/-- The call of the callback of an element, when it has one. -/
def callbackCalls (element : QueueElement) (status : Nat)
    (report : Option TxReport) : List CallbackCall :=
  match element.callbackFunction with
  | some function => [⟨element.zwaveTxSessionId, function, status, report, element.user⟩]
  | none => []

/-- Call the callback of an element. -/
def callBack (element : QueueElement) (status : Nat) (report : Option TxReport) : TxProcess :=
  { proc with
    callbacks := callbackCalls element status report ++ proc.callbacks }

/-- Change the TX queue. -/
def withQueue (txQueue : TxQueue) : TxProcess := { proc with txQueue := txQueue }

/-- Change the state. -/
def withState (state : TxState) : TxProcess := { proc with state := state }

/-- Change the current session. -/
def withCurrent (session : SessionId) : TxProcess :=
  { proc with currentTxSessionId := session }

/-- Change the expected incoming frames. -/
def withExpectedFrames (frames : IncomingFrames) : TxProcess :=
  { proc with expectedIncomingFrames := frames }

/-- Clear the protocol frame flag. -/
def clearProtocolFrame : TxProcess := { proc with isProtocolFrame := false }

/-- The session a completion is for: the user pointer itself, or what the
protocol metadata behind it says while the protocol frame flag is set. -/
def completedSession (user : UserPointer) : Option SessionId :=
  if proc.isProtocolFrame then proc.protocolMetadata user else some user

/-- Remember the number of repeaters of a successful routed singlecast. -/
def recordRoute (element : QueueElement) : TxProcess :=
  if 0 < element.sendDataTxStatus.numberOfRepeaters ∧
      isTransmissionSuccessful element.sendDataStatus = true ∧
      element.connectionInfo.remote.isMulticast = false then
    { proc with
      routeCache :=
        routeCacheSetNumberOfRepeaters proc.routeCache
          element.connectionInfo.remote.nodeId
          element.sendDataTxStatus.numberOfRepeaters }
  else proc

/-- `on_zwave_transport_send_data_complete` once the session is known. -/
def recordCompletion (session : SessionId) (status : Nat) (report : Option TxReport) : TxProcess :=
  let written :=
    proc.withQueue
      (proc.txQueue.setTransmissionsResults proc.clockTime session status
        (some (report.getD TxReport.zero))).2
  match written.txQueue.getById session with
  | none => proc
  | some element => (written.recordRoute element).postEvent (.sendOperationComplete session)

/-- `on_zwave_transport_send_data_complete`.  Reading metadata behind a pointer
that is none is undefined. -/
def onZwaveTransportSendDataComplete (status : Nat) (report : Option TxReport)
    (user : UserPointer) :
    TxProcess :=
  match proc.completedSession user with
  | some session => proc.recordCompletion session status report
  | none => { proc with undefinedBehaviour := true }

/-- `zwave_tx_drop_unsent_current_message`. -/
def dropUnsentCurrentMessage : TxProcess :=
  (proc.withQueue
    (proc.txQueue.disableFasttack proc.currentTxSessionId).2).onZwaveTransportSendDataComplete
    transmitCompleteFail none proc.currentTxSessionId

/-- The record notes the completion of a dispatch. -/
def takeDispatch (dispatch : Dispatch) : TxProcess :=
  { proc with
    inFlight := proc.inFlight.erase dispatch
    completions := (dispatch, proc.completedSession dispatch.user) :: proc.completions }

/-- A transport calls back for one of its dispatches. -/
def completeDispatch (dispatch : Dispatch) (status : Nat) (report : Option TxReport) : TxProcess :=
  (proc.takeDispatch dispatch).onZwaveTransportSendDataComplete status report
    dispatch.user

/-- A transport calls back for the oldest dispatch of a session. -/
def transportCallsBack (session : SessionId) (status : Nat) (report : Option TxReport) :
    TxProcess :=
  match proc.inFlight.find? fun dispatch => dispatch.session == session with
  | none => proc
  | some dispatch => proc.completeDispatch dispatch status report

/-- `zwave_controller_transport_abort_send_data`. -/
def transportAbortSendData (env : Surroundings) (proc : TxProcess)
    (session : SessionId) : SlStatus × TxProcess :=
  match env.transportAbortSendData session with
  | .notFound => (.notFound, proc)
  | .accepted => (.ok, proc)
  | .acceptedCallingBack status report => (.ok, proc.transportCallsBack session status report)

/-- `zwave_tx_is_protocol_sending_frames`. -/
def isProtocolSendingFrames (env : Surroundings) : Bool :=
  env.networkManagementState == .assigningReturnRoute ||
    env.networkManagementState == .neighborDiscoveryOngoing

/-- Whether the head was completed and waits for replies. -/
def idleHeadOnlyWaitingForReplies (head : QueueElement) : Bool :=
  head.transmissionTime != 0 && !proc.txQueue.transportCompletionStepIsPending head.zwaveTxSessionId

/-- Whether the head was sent and not completed. -/
def idleHeadWaitingForChipCompletion (head : QueueElement) : Bool :=
  head.transmissionTimestamp != 0 && head.transmissionTime == 0

/-- `zwave_tx_fetch_radio_idle_backoff_bypass`. -/
def fetchRadioIdleBackoffBypass (env : Surroundings) (proc : TxProcess) : Option QueueElement :=
  if env.apiTransportIsBusy then none
  else
    match proc.txQueue.findBestUnsentBackoffBypass with
    | some bypass => if bypass.zwaveTxSessionId = proc.currentTxSessionId then none else some bypass
    | none => none

/-- What `zwave_tx_process_fetch_next_element_for_ongoing_transmission` finds,
without what it does when it finds nothing. -/
def nextElementForOngoingTransmission (env : Surroundings)
    (proc : TxProcess) : Option QueueElement :=
  match proc.txQueue.getHighestPriorityChild proc.currentTxSessionId with
  | some child => some child
  | none =>
      match proc.txQueue.getById proc.currentTxSessionId with
      | none => none
      | some current =>
          if current.transmissionTimestamp = 0 then some current
          else
            match proc.fetchRadioIdleBackoffBypass env with
            | some bypass => some bypass
            | none => some current

/-- `zwave_tx_can_ignore_incoming_frames`.  It is never called in the ongoing
state, so the change that state allows is left out. -/
def canIgnoreIncomingFrames (env : Surroundings) (proc : TxProcess) : Bool :=
  let next :=
    match proc.state with
    | .transmissionOngoing => proc.nextElementForOngoingTransmission env
    | .idle => proc.txQueue.firstInQueue
    | .backoff => proc.fetchRadioIdleBackoffBypass env
  match next with
  | some element =>
      element.options.transport.ignoreIncomingFramesBackOff && element.transmissionTimestamp == 0
  | none => false

/-- `zwave_tx_process_initiate_backoff`.  The record notes which arming of the
timer belongs to the back-off of the current session. -/
def initiateBackoff (reason : BackoffReason) : TxProcess :=
  { proc.timerSet with
    state := .backoff
    backoffReason := reason
    backoffArming :=
      if reason = .currentSessionId then
        Function.update proc.backoffArming proc.currentTxSessionId
          (proc.timerArmings + 1)
      else proc.backoffArming }

/-- Back off until the replies to a session are in. -/
def backOffFor (session : SessionId) : TxProcess :=
  (proc.withCurrent session).initiateBackoff .currentSessionId

/-- The back-off of the current session is put on the stack. -/
def preemptBackoff : TxProcess :=
  { proc.timerStop with
    preemptedBackoffStack := proc.currentTxSessionId :: proc.preemptedBackoffStack
    interrupted := proc.currentTxSessionId :: proc.interrupted
    state := .transmissionOngoing }

/-- The first half of `zwave_tx_process_check_queue`: break a back-off for a
frame that need not wait.  The flag tells that the back-off of a session was
pre-empted. -/
def breakBackoff (env : Surroundings) (proc : TxProcess) : Bool × TxProcess :=
  if proc.state = .backoff ∧ proc.backoffReason = .expectedAdditionalFrames ∧
      proc.canIgnoreIncomingFrames env = true then
    (false, proc.timerStop.withState .idle)
  else if proc.state = .backoff ∧ proc.backoffReason = .currentSessionId ∧
      proc.canIgnoreIncomingFrames env = true then
    (true, proc.preemptBackoff)
  else (false, proc)

/-- The second half of `zwave_tx_process_check_queue`: start a back-off when one
is due. -/
def startBackoffIfDue (env : Surroundings) (justPreempted : Bool) (proc : TxProcess) : TxProcess :=
  if proc.state = .idle ∧ proc.expectedIncomingFrames.empty = false ∧
      proc.canIgnoreIncomingFrames env = false then
    proc.initiateBackoff .expectedAdditionalFrames
  else if proc.state ≠ .backoff ∧ isProtocolSendingFrames env = true ∧
      justPreempted = false ∧ env.zwapiSupportsNls = false then
    proc.initiateBackoff .protocolSendingFrames
  else proc

/-- `zwave_tx_process_check_queue`. -/
def checkQueue (env : Surroundings) (proc : TxProcess) : TxProcess :=
  let broken := proc.breakBackoff env
  let proc := startBackoffIfDue env broken.1 broken.2
  if proc.state ≠ .backoff ∧ proc.txQueue.empty = false then
    proc.postEvent .sendNextMessage
  else proc

/-- `zwave_tx_finalize_element` for a queued element: stay with its parent or go
back to idle, and remove it. -/
def removeElement (element : QueueElement) : TxProcess :=
  let parent :=
    if element.options.transport.validParentSessionId then
      proc.txQueue.getById element.options.transport.parentSessionId
    else none
  let proc :=
    match parent with
    | some parent =>
        { proc with
          state := .transmissionOngoing
          currentTxSessionId := parent.zwaveTxSessionId }
    | none => { proc with state := .idle, currentTxSessionId := nullSession }
  let proc :=
    { proc with
      txQueue := (proc.txQueue.pop element.zwaveTxSessionId).2
      preemptedBackoffStack :=
        proc.preemptedBackoffStack.filter fun session => session != element.zwaveTxSessionId }
  if proc.queueFlushOngoing ∧ proc.txQueue.empty = true then
    { proc with resetStepsCompleted := proc.resetStepsCompleted + 1 }
  else proc

/-- `zwave_tx_finalize_element`. -/
def finalizeElement (env : Surroundings) (proc : TxProcess) (session : SessionId) : TxProcess :=
  match proc.txQueue.getById session with
  | none => checkQueue env (proc.withState .idle)
  | some element => proc.removeElement element

/-- The stack loses what stands on top. -/
def dropStack : TxProcess :=
  { proc with preemptedBackoffStack := proc.preemptedBackoffStack.tail }

/-- The loop of `zwave_tx_restore_preempted_backoff_if_needed`, one round for
every entry of the stack. -/
def restoreLoop (env : Surroundings) : Nat -> TxProcess -> TxProcess
  | 0, proc => proc
  | rounds + 1, proc =>
      match proc.preemptedBackoffStack with
      | [] => proc
      | preempted :: _ =>
          match proc.txQueue.getById preempted with
          | none => restoreLoop env rounds proc.dropStack
          | some element =>
              if element.options.numberOfResponses = 0 ∨ element.transmissionTime = 0 then
                restoreLoop env rounds
                  (proc.dropStack.finalizeElement env preempted)
              else proc.dropStack.backOffFor preempted

/-- `zwave_tx_restore_preempted_backoff_if_needed`. -/
def restorePreemptedBackoffIfNeeded (env : Surroundings) (proc : TxProcess) : TxProcess :=
  if proc.queueFlushOngoing then { proc with preemptedBackoffStack := [] }
  else restoreLoop env proc.preemptedBackoffStack.length proc

/-- The state transition of `zwave_tx_resume_from_backoff_step`. -/
def endBackoff (env : Surroundings) (proc : TxProcess) : TxProcess :=
  if proc.state = .backoff then
    match proc.backoffReason with
    | .currentSessionId => proc.finalizeElement env proc.currentTxSessionId
    | .expectedAdditionalFrames => (proc.withExpectedFrames IncomingFrames.clear).withState .idle
    | .protocolSendingFrames => proc.withState .idle
    | .incomingUnsolicitedRoutedFrame => proc.withState .idle
  else proc

/-- `zwave_tx_resume_from_backoff_step`. -/
def resumeFromBackoffStep (env : Surroundings) (proc : TxProcess) : TxProcess :=
  let ended := endBackoff env proc.timerStop
  checkQueue env
    (restorePreemptedBackoffIfNeeded env
      { ended with backoffReason := .currentSessionId })

/-- A failed frame that is to be sent once more. -/
def isToBeRequeued (element : QueueElement) : Bool :=
  !isTransmissionSuccessful element.sendDataStatus &&
    element.options.fasttrack && !proc.queueFlushOngoing

/-- A sent frame whose replies are to be waited for. -/
def isToBeBackedOff (element : QueueElement) : Bool :=
  isTransmissionSuccessful element.sendDataStatus &&
    decide (0 < element.options.numberOfResponses) &&
    !element.connectionInfo.remote.isMulticast &&
    !proc.queueFlushOngoing &&
    element.connectionInfo.remote.nodeId != zwaveBroadcastNodeId &&
    element.connectionInfo.remote.nodeId != zwaveLrBroadcastNodeId

/-- `zwave_tx_message_transmission_completed_step` for an element whose
completion was pending. -/
def completeElement (env : Surroundings) (proc : TxProcess) (element : QueueElement) : TxProcess :=
  let session := element.zwaveTxSessionId
  if proc.isToBeRequeued element then
    checkQueue env
      (proc.withQueue
        ((proc.txQueue.disableFasttack session).2.resetTransmissionTimestamp session).2)
  else
    let proc := proc.callBack element element.sendDataStatus
      (some element.sendDataTxStatus)
    if proc.isToBeBackedOff element then
      checkQueue env (proc.backOffFor session)
    else
      checkQueue env
        (restorePreemptedBackoffIfNeeded env
          (proc.finalizeElement env session))

/-- `zwave_tx_message_transmission_completed_step`. -/
def transmissionCompletedStep (env : Surroundings) (proc : TxProcess)
    (session : SessionId) : TxProcess :=
  match proc.txQueue.getById session with
  | none => checkQueue env (proc.withState .idle)
  | some element =>
      let consumed := proc.txQueue.consumeTransportCompletionStepPending session
      if consumed.1 then (proc.withQueue consumed.2).completeElement env element
      else proc

/-- Whether the discard timeout of an unsent frame has expired. -/
def isDiscardTimeoutExpired (element : QueueElement) : Bool :=
  decide (0 < element.options.discardTimeoutMs) &&
    element.transmissionTimestamp == 0 &&
    decide (element.queueTimestamp + element.options.discardTimeoutMs < proc.clockTime)

/-- Frames that are expired, completed or stuck are not sent again. -/
def isFrameToBeSent (env : Surroundings) (proc : TxProcess)
    (element : QueueElement) : Bool × TxProcess :=
  if proc.isDiscardTimeoutExpired element then
    (false, proc.dropUnsentCurrentMessage)
  else if element.transmissionTime ≠ 0 then
    if proc.txQueue.transportCompletionStepIsPending element.zwaveTxSessionId then
      (false, proc.transmissionCompletedStep env element.zwaveTxSessionId)
    else (false, proc)
  else if element.transmissionTimestamp ≠ 0 then
    if txFrameInFlightWatchdogMs < proc.clockTime - element.transmissionTimestamp then
      let aborted := (transportAbortSendData env proc proc.currentTxSessionId).2
      (false, aborted.clearProtocolFrame.dropUnsentCurrentMessage)
    else (false, proc)
  else (true, proc)

/-- The element the idle process looks at: the front of the queue, unless that
one only waits. -/
def nextElementWhileIdle (env : Surroundings) (proc : TxProcess) : Option QueueElement :=
  match proc.txQueue.firstInQueue with
  | none => none
  | some head =>
      if proc.idleHeadOnlyWaitingForReplies head then
        match proc.txQueue.findBestUnsentByQos with
        | some alternate => some alternate
        | none => some head
      else if idleHeadWaitingForChipCompletion head then
        match proc.fetchRadioIdleBackoffBypass env with
        | some alternate => some alternate
        | none => some head
      else some head

/-- Hand an element to the transports: mark it as sent and, for a protocol
frame, note its session behind its user pointer. -/
def markDispatched (element : QueueElement) : TxProcess :=
  let session := element.zwaveTxSessionId
  { proc with
    isProtocolFrame := element.options.transport.isProtocolFrame
    protocolMetadata :=
      if element.options.transport.isProtocolFrame then
        Function.update proc.protocolMetadata element.user (some session)
      else proc.protocolMetadata
    txQueue := (proc.txQueue.setTransmissionTimestamp proc.clockTime session).2 }

/-- The dispatch of an element. -/
def dispatchOf (element : QueueElement) : Dispatch where
  session := element.zwaveTxSessionId
  user :=
    if element.options.transport.isProtocolFrame then element.user
    else element.zwaveTxSessionId
  isProtocolFrame := element.options.transport.isProtocolFrame

/-- The end of `zwave_tx_process_send_next_message_step`, from the call of
`zwave_controller_transport_send_data` on.  A busy transport rolls the state
and the current session back and arms a timer for a retry. -/
def handToTransport (env : Surroundings) (previousSession : SessionId) (previousState : TxState)
    (proc : TxProcess) (element : QueueElement) : TxProcess :=
  match env.transportSendData with
  | .ok => { proc with inFlight := proc.inFlight ++ [dispatchOf element] }.timerStop
  | .busy =>
      timerSet
        { proc with
          txQueue := (proc.txQueue.resetTransmissionTimestamp proc.currentTxSessionId).2
          currentTxSessionId := previousSession
          state := previousState
          isProtocolFrame := false }
  | _ => proc.dropUnsentCurrentMessage

/-- `zwave_tx_process_send_next_message_step` once an element is chosen. -/
def sendElement (env : Surroundings) (proc : TxProcess) (element : QueueElement) : TxProcess :=
  let checked := isFrameToBeSent env (proc.withCurrent element.zwaveTxSessionId) element
  if checked.1 then
    handToTransport env proc.currentTxSessionId proc.state
      ((checked.2.withState .transmissionOngoing).markDispatched element) element
  else checked.2

/-- `zwave_tx_process_send_next_message_step`. -/
def sendNextMessageStep (env : Surroundings) (proc : TxProcess) : TxProcess :=
  if proc.txQueue.empty then proc
  else
    match proc.state with
    | .transmissionOngoing =>
        match proc.nextElementForOngoingTransmission env with
        | some element => sendElement env proc element
        | none => checkQueue env (proc.withState .idle)
    | .idle =>
        match proc.nextElementWhileIdle env with
        | some element => sendElement env proc element
        | none => proc
    | .backoff => proc

end TxProcess

end ZwaveTx
