import Zpc.ZwaveTx.Effects

/-!
# Effects of the entry points

What a completion of a transport, the abort of a transmission and the request
to send the next frame can do to the state, as case distinctions over the
state before.
-/

namespace ZwaveTx

open Foundation

namespace TxProcess

/-- The variables that steer the process, and its record, are left alone. -/
structure SameControl (before after : TxProcess) : Prop where
  state : after.state = before.state
  backoffTimer : after.backoffTimer = before.backoffTimer
  queueFlushOngoing : after.queueFlushOngoing = before.queueFlushOngoing
  currentTxSessionId : after.currentTxSessionId = before.currentTxSessionId
  expectedIncomingFrames : after.expectedIncomingFrames = before.expectedIncomingFrames
  backoffReason : after.backoffReason = before.backoffReason
  preemptedBackoffStack : after.preemptedBackoffStack = before.preemptedBackoffStack
  isProtocolFrame : after.isProtocolFrame = before.isProtocolFrame
  protocolMetadata : after.protocolMetadata = before.protocolMetadata
  clockTime : after.clockTime = before.clockTime
  timerArmings : after.timerArmings = before.timerArmings
  backoffArming : after.backoffArming = before.backoffArming
  interrupted : after.interrupted = before.interrupted
  callbacks : after.callbacks = before.callbacks
  accepted : after.accepted = before.accepted
  resetStepsCompleted : after.resetStepsCompleted = before.resetStepsCompleted

theorem SameControl.refl (proc : TxProcess) : proc.SameControl proc :=
  ⟨rfl, rfl, rfl, rfl, rfl, rfl, rfl, rfl, rfl, rfl, rfl, rfl, rfl, rfl, rfl, rfl⟩

theorem SameControl.trans {first second third : TxProcess} (earlier : first.SameControl second)
    (later : second.SameControl third) : first.SameControl third where
  state := later.state.trans earlier.state
  backoffTimer := later.backoffTimer.trans earlier.backoffTimer
  queueFlushOngoing := later.queueFlushOngoing.trans earlier.queueFlushOngoing
  currentTxSessionId := later.currentTxSessionId.trans earlier.currentTxSessionId
  expectedIncomingFrames := later.expectedIncomingFrames.trans earlier.expectedIncomingFrames
  backoffReason := later.backoffReason.trans earlier.backoffReason
  preemptedBackoffStack := later.preemptedBackoffStack.trans earlier.preemptedBackoffStack
  isProtocolFrame := later.isProtocolFrame.trans earlier.isProtocolFrame
  protocolMetadata := later.protocolMetadata.trans earlier.protocolMetadata
  clockTime := later.clockTime.trans earlier.clockTime
  timerArmings := later.timerArmings.trans earlier.timerArmings
  backoffArming := later.backoffArming.trans earlier.backoffArming
  interrupted := later.interrupted.trans earlier.interrupted
  callbacks := later.callbacks.trans earlier.callbacks
  accepted := later.accepted.trans earlier.accepted
  resetStepsCompleted := later.resetStepsCompleted.trans earlier.resetStepsCompleted

/-- The results of a transmission were written into the element of a session
and its completion was posted, if it is queued. -/
structure Delivers
    (before : TxProcess)
    (session : SessionId)
    (status : Nat)
    (report : Option TxReport)
    (after : TxProcess) : Prop extends SameControl before after where
  inFlight : after.inFlight = before.inFlight
  completions : after.completions = before.completions
  txQueue : after.txQueue =
    (before.txQueue.setTransmissionsResults before.clockTime session status
      (some (report.getD TxReport.zero))).2
  eventQueue : after.eventQueue =
    before.eventQueue ++
      if before.txQueue.contains session then [.sendOperationComplete session] else []

variable (env : Surroundings) (proc : TxProcess) (session : SessionId) (status : Nat)
  (element : QueueElement) (report : Option TxReport) (node : NodeId)

theorem SameControl.withQueue (txQueue : TxQueue) : proc.SameControl (proc.withQueue txQueue) :=
  { SameControl.refl _ with }

theorem SameControl.postEvent (event : Event) : proc.SameControl (proc.postEvent event) :=
  { SameControl.refl _ with }

theorem SameControl.recordRoute : proc.SameControl (proc.recordRoute element) := by
  unfold TxProcess.recordRoute
  split
  · exact { SameControl.refl _ with }
  · exact .refl proc

theorem recordRoute_rest :
    (proc.recordRoute element).txQueue = proc.txQueue ∧
      (proc.recordRoute element).eventQueue = proc.eventQueue ∧
      (proc.recordRoute element).inFlight = proc.inFlight ∧
      (proc.recordRoute element).completions = proc.completions := by
  unfold recordRoute
  split <;> exact ⟨rfl, rfl, rfl, rfl⟩

theorem recordCompletion_delivers :
    proc.Delivers session status report (proc.recordCompletion session status report) := by
  unfold recordCompletion TxQueue.getById
  generalize written : proc.withQueue
    (proc.txQueue.setTransmissionsResults proc.clockTime session status
      (some (report.getD TxReport.zero))).2 = after
  have searched : after.txQueue.find session = (proc.txQueue.find session).map
      (TxQueue.withResults proc.clockTime status (some (report.getD TxReport.zero))) := by
    rw [← written]
    exact (TxQueue.find_setTransmissionsResults _ _ _ _ _ _).trans (if_pos rfl)
  cases found : proc.txQueue.find session with
  | none =>
    simp only [searched, found, Option.map_none]
    constructor
    · exact .refl proc
    · rfl
    · rfl
    · simp [TxQueue.setTransmissionsResults, TxQueue.modify, found]
    · simp [TxQueue.contains, found]
  | some element =>
    simp only [searched, found, Option.map_some]
    generalize TxQueue.withResults proc.clockTime status _ element = result
    obtain ⟨sameQueue, sameEvents, sameFlight, sameCompletions⟩ := recordRoute_rest after result
    constructor
    · subst written
      exact (SameControl.withQueue proc _).trans
        ((SameControl.recordRoute _ result).trans (.postEvent _ _))
    · exact sameFlight.trans (by rw [← written]; rfl)
    · exact sameCompletions.trans (by rw [← written]; rfl)
    · exact sameQueue.trans (by rw [← written]; rfl)
    · simp only [TxQueue.contains, found, Option.isSome_some, if_true]
      refine congrArg (· ++ [Event.sendOperationComplete session]) (sameEvents.trans ?_)
      rw [← written]
      rfl

theorem onZwaveTransportSendDataComplete_cases (user : UserPointer) :
    (∃ session, proc.completedSession user = some session ∧
      proc.Delivers session status report
        (proc.onZwaveTransportSendDataComplete status report user)) ∨
    (proc.completedSession user = none ∧
      proc.onZwaveTransportSendDataComplete status report user =
        { proc with undefinedBehaviour := true }) := by
  unfold onZwaveTransportSendDataComplete
  cases decoded : proc.completedSession user with
  | none => exact .inr ⟨rfl, rfl⟩
  | some session => exact .inl ⟨session, rfl, recordCompletion_delivers proc session _ _⟩

theorem onZwaveTransportSendDataComplete_sameControl (user : UserPointer) :
    proc.SameControl (proc.onZwaveTransportSendDataComplete status report user) ∧
      (proc.onZwaveTransportSendDataComplete status report user).inFlight = proc.inFlight ∧
      (proc.onZwaveTransportSendDataComplete status report user).completions =
        proc.completions := by
  rcases proc.onZwaveTransportSendDataComplete_cases status report user with
    ⟨session, _, delivers⟩ | ⟨_, undefined⟩
  · exact ⟨delivers.toSameControl, delivers.inFlight, delivers.completions⟩
  · rw [undefined]
    exact ⟨{ SameControl.refl _ with },
      rfl, rfl⟩

theorem onZwaveTransportSendDataComplete_mem_eventQueue {proc : TxProcess} {status : Nat}
    {report : Option TxReport} {user : UserPointer} {event : Event}
    (mem : event ∈ (proc.onZwaveTransportSendDataComplete status report user).eventQueue) :
    event ∈ proc.eventQueue ∨ ∃ session, event = .sendOperationComplete session := by
  rcases proc.onZwaveTransportSendDataComplete_cases status report user with
    ⟨session, _, delivers⟩ | ⟨_, undefined⟩
  · rw [delivers.eventQueue, List.mem_append] at mem
    refine mem.imp_right fun posted => ⟨session, ?_⟩
    split at posted
    · exact List.mem_singleton.mp posted
    · cases posted
  · rw [undefined] at mem
    exact .inl mem

theorem dropUnsentCurrentMessage_sameControl :
    proc.SameControl proc.dropUnsentCurrentMessage ∧
      proc.dropUnsentCurrentMessage.inFlight = proc.inFlight ∧
      proc.dropUnsentCurrentMessage.completions = proc.completions := by
  obtain ⟨control, sameFlight, sameCompletions⟩ :=
    (proc.withQueue (proc.txQueue.disableFasttack
      proc.currentTxSessionId).2).onZwaveTransportSendDataComplete_sameControl
      transmitCompleteFail none proc.currentTxSessionId
  exact ⟨(SameControl.withQueue proc _).trans control, sameFlight, sameCompletions⟩

theorem completeDispatch_sameControl (proc : TxProcess) (dispatch : Dispatch) (status : Nat)
    (report : Option TxReport) :
    proc.SameControl (proc.completeDispatch dispatch status report) ∧
      (proc.completeDispatch dispatch status report).inFlight = proc.inFlight.erase dispatch ∧
      (proc.completeDispatch dispatch status report).completions =
        (dispatch, proc.completedSession dispatch.user) :: proc.completions := by
  obtain ⟨control, sameFlight, sameCompletions⟩ :=
    (proc.takeDispatch dispatch).onZwaveTransportSendDataComplete_sameControl
      status report dispatch.user
  refine ⟨SameControl.trans ?_ control, sameFlight, sameCompletions⟩
  exact { SameControl.refl _ with }

/-- The dispatch a transport calls back for when it is done with a session. -/
def oldestDispatch (proc : TxProcess) (session : SessionId) : Option Dispatch :=
  proc.inFlight.find? fun dispatch => dispatch.session == session

theorem oldestDispatch_mem {proc : TxProcess} {session : SessionId} {dispatch : Dispatch}
    (oldest : proc.oldestDispatch session = some dispatch) :
    dispatch ∈ proc.inFlight ∧ dispatch.session = session :=
  ⟨List.mem_of_find?_eq_some oldest, by simpa using List.find?_some oldest⟩

/-- What the request to abort a transmission does to the transports. -/
inductive TransportAborts
    (env : Surroundings)
    (proc : TxProcess)
    (session : SessionId) : SlStatus -> TxProcess -> Prop
  | refuses
      (answer : env.transportAbortSendData session = .notFound) :
      TransportAborts env proc session .notFound proc
  | accepts
      (answer : env.transportAbortSendData session = .accepted) :
      TransportAborts env proc session .ok proc
  | hasNothing
      {status : Nat}
      {report : Option TxReport}
      (answer : env.transportAbortSendData session = .acceptedCallingBack status report)
      (nothing : proc.oldestDispatch session = none) :
      TransportAborts env proc session .ok proc
  | callsBack
      {status : Nat}
      {report : Option TxReport}
      {dispatch : Dispatch}
      (answer : env.transportAbortSendData session = .acceptedCallingBack status report)
      (oldest : proc.oldestDispatch session = some dispatch) :
      TransportAborts env proc session .ok
        (proc.completeDispatch dispatch status report)

theorem transportAbortSendData_aborts :
    TransportAborts env proc session
      (transportAbortSendData env proc session).1
      (transportAbortSendData env proc session).2 := by
  unfold transportAbortSendData
  cases answer : env.transportAbortSendData session with
  | notFound => exact .refuses answer
  | accepted => exact .accepts answer
  | acceptedCallingBack status report =>
    dsimp only [transportCallsBack]
    cases oldest : proc.oldestDispatch session with
    | none =>
      unfold oldestDispatch at oldest
      rw [oldest]
      exact .hasNothing answer oldest
    | some dispatch =>
      have found := oldest
      unfold oldestDispatch at oldest
      rw [oldest]
      exact .callsBack answer found

theorem TransportAborts.sameControl {env : Surroundings} {proc after : TxProcess}
    {session : SessionId} {status : SlStatus}
    (aborts : TransportAborts env proc session status after) : proc.SameControl after := by
  cases aborts with
  | refuses | accepts | hasNothing => exact .refl proc
  | callsBack => exact (proc.completeDispatch_sameControl _ _ _).1

theorem TransportAborts.mem_eventQueue {env : Surroundings} {proc after : TxProcess}
    {session : SessionId} {status : SlStatus}
    (aborts : TransportAborts env proc session status after) {event : Event}
    (mem : event ∈ after.eventQueue) :
    event ∈ proc.eventQueue ∨ ∃ session, event = .sendOperationComplete session := by
  cases aborts with
  | refuses | accepts | hasNothing => exact .inl mem
  | @callsBack _ _ dispatch =>
    exact @onZwaveTransportSendDataComplete_mem_eventQueue (proc.takeDispatch dispatch)
      _ _ _ event mem

/-- What the abort of a transmission can do. -/
inductive Aborts
    (env : Surroundings)
    (proc : TxProcess)
    (session : SessionId) : TxProcess -> Prop
  | absent
      (absent : proc.txQueue.find session = none) :
      Aborts env proc session proc
  | endsBackoff
      {element : QueueElement}
      (found : proc.txQueue.find session = some element)
      (backingOff : proc.state = .backoff)
      (reason : proc.backoffReason = .currentSessionId)
      (current : proc.currentTxSessionId = session) :
      Aborts env proc session
        ((proc.withQueue (proc.txQueue.disableFasttack
          session).2).resumeFromBackoffStep env)
  | whileIdle
      {element : QueueElement}
      (found : proc.txQueue.find session = some element)
      (idle : proc.state = .idle) :
      Aborts env proc session
        ((proc.withQueue (proc.txQueue.disableFasttack session).2).withCurrent
          session).dropUnsentCurrentMessage
  | byTransport
      {element : QueueElement}
      {after : TxProcess}
      (found : proc.txQueue.find session = some element)
      (notIdle : proc.state ≠ .idle)
      (notCurrent : proc.state = .backoff ->
        proc.backoffReason = .currentSessionId ->
        proc.currentTxSessionId ≠ session)
      (aborts : TransportAborts env
        (proc.withQueue (proc.txQueue.disableFasttack session).2) session .ok after) :
      Aborts env proc session after
  | refused
      {element : QueueElement}
      (found : proc.txQueue.find session = some element)
      (notIdle : proc.state ≠ .idle)
      (notCurrent : proc.state = .backoff ->
        proc.backoffReason = .currentSessionId ->
        proc.currentTxSessionId ≠ session)
      (answer : env.transportAbortSendData session = .notFound) :
      Aborts env proc session
        (checkQueue env
          (proc.withQueue
            ((proc.txQueue.disableFasttack session).2.setTransmissionsResults
              proc.clockTime session transmitCompleteFail none).2))

theorem abortTransmission_aborts :
    Aborts env proc session (proc.abortTransmission env session).2 := by
  unfold abortTransmission TxQueue.contains
  cases found : proc.txQueue.find session with
  | none => exact .absent found
  | some element =>
    simp only [Option.isSome_some, if_true]
    unfold abortQueued
    generalize marked : proc.withQueue (proc.txQueue.disableFasttack session).2 = before
    dsimp only
    have state : before.state = proc.state := by rw [← marked]; rfl
    have reason : before.backoffReason = proc.backoffReason := by rw [← marked]; rfl
    have current : before.currentTxSessionId = proc.currentTxSessionId := by
      rw [← marked]; rfl
    rw [state, reason, current]
    split
    next ends =>
      rw [← marked]
      exact .endsBackoff found ends.2.1 ends.2.2 ends.1
    next notEnds =>
      have notCurrent : proc.state = .backoff ->
          proc.backoffReason = .currentSessionId ->
          proc.currentTxSessionId ≠ session :=
        fun backingOff isSession isCurrent => notEnds ⟨isCurrent, backingOff, isSession⟩
      split
      next idle =>
        rw [← marked]
        exact .whileIdle found idle
      next notIdle =>
        have aborts := before.transportAbortSendData_aborts env session
        generalize transportAbortSendData env before session = answer at aborts
        obtain ⟨status, after⟩ := answer
        cases aborts with
        | refuses answer =>
          rw [← marked]
          exact .refused found notIdle notCurrent answer
        | accepts answer =>
          rw [if_pos rfl, ← marked]
          exact .byTransport found notIdle notCurrent (.accepts answer)
        | hasNothing answer nothing =>
          subst marked
          exact .byTransport found notIdle notCurrent (.hasNothing answer nothing)
        | callsBack answer oldest =>
          subst marked
          exact .byTransport found notIdle notCurrent (.callsBack answer oldest)

/-- The element the process looks at when it is asked to send. -/
def nextElement (env : Surroundings) (proc : TxProcess) : Option QueueElement :=
  if proc.isToWaitForFrames env then none
  else
    match proc.state with
    | .transmissionOngoing => proc.nextElementForOngoingTransmission env
    | .idle => proc.nextElementWhileIdle env
    | .backoff => none

/-- What the process does with the element it looks at. -/
inductive LooksAt
    (env : Surroundings)
    (proc : TxProcess)
    (element : QueueElement) : TxProcess -> Prop
  | discards
      (expired : proc.isDiscardTimeoutExpired element = true) :
      LooksAt env proc element
        (proc.withCurrent element.zwaveTxSessionId).dropUnsentCurrentMessage
  | completes
      (answered : element.transmissionTime ≠ 0)
      (pending : proc.txQueue.transportCompletionStepIsPending
        element.zwaveTxSessionId = true) :
      LooksAt env proc element
        ((proc.withCurrent element.zwaveTxSessionId).transmissionCompletedStep env
          element.zwaveTxSessionId)
  | waits
      (answered : element.transmissionTime ≠ 0)
      (notPending : proc.txQueue.transportCompletionStepIsPending
        element.zwaveTxSessionId = false) :
      LooksAt env proc element (proc.withCurrent element.zwaveTxSessionId)
  | expires
      (unanswered : element.transmissionTime = 0)
      (sent : element.transmissionTimestamp ≠ 0)
      (late : txFrameInFlightWatchdogMs < proc.clockTime - element.transmissionTimestamp) :
      LooksAt env proc element
        (transportAbortSendData env
          (proc.withCurrent element.zwaveTxSessionId)
          element.zwaveTxSessionId).2.clearProtocolFrame.dropUnsentCurrentMessage
  | staysInFlight
      (unanswered : element.transmissionTime = 0)
      (sent : element.transmissionTimestamp ≠ 0) :
      LooksAt env proc element (proc.withCurrent element.zwaveTxSessionId)
  | handsOver
      (notExpired : proc.isDiscardTimeoutExpired element = false)
      (unanswered : element.transmissionTime = 0)
      (unsent : element.transmissionTimestamp = 0) :
      LooksAt env proc element
        (handToTransport env proc.currentTxSessionId proc.state
          (((proc.withCurrent element.zwaveTxSessionId).withState
            .transmissionOngoing).markDispatched element) element)

theorem sendElement_looksAt : LooksAt env proc element (sendElement env proc element) := by
  unfold sendElement isFrameToBeSent
  split
  next expired => exact .discards expired
  next notExpired =>
    split
    next answered =>
      split
      next pending => exact .completes answered pending
      next notPending => exact .waits answered (Bool.not_eq_true _ ▸ notPending)
    next unanswered =>
      split
      next sent =>
        split
        next late => exact .expires (not_not.mp unanswered) sent late
        next => exact .staysInFlight (not_not.mp unanswered) sent
      next unsent =>
        exact .handsOver (Bool.not_eq_true _ ▸ notExpired) (not_not.mp unanswered)
          (not_not.mp unsent)

/-- What a request to send can do. -/
inductive Sends (env : Surroundings) (proc : TxProcess) : TxProcess -> Prop
  | checks
      (waits : proc.state = .backoff ∨ proc.isToWaitForFrames env = true) :
      Sends env proc (proc.checkQueue env)
  | nothing
      (nothing : proc.txQueue.empty = true) :
      Sends env proc proc
  | losesCurrent
      (ongoing : proc.state = .transmissionOngoing)
      (lost : proc.nextElementForOngoingTransmission env = none) :
      Sends env proc (checkQueue env (proc.withState .idle))
  | looksAt
      {element : QueueElement}
      {after : TxProcess}
      (notBackingOff : proc.state ≠ .backoff)
      (next : proc.nextElement env = some element)
      (looks : LooksAt env proc element after) :
      Sends env proc after

theorem nextElementWhileIdle_isSome {proc : TxProcess} (nonempty : proc.txQueue.empty = false)
    (env : Surroundings) : ∃ element, proc.nextElementWhileIdle env = some element := by
  obtain ⟨head, first⟩ := TxQueue.firstInQueue_isSome nonempty
  unfold nextElementWhileIdle
  rw [first]
  dsimp only
  split
  · split <;> exact ⟨_, rfl⟩
  · split
    · split <;> exact ⟨_, rfl⟩
    · exact ⟨_, rfl⟩

theorem handleSendNextMessage_sends : Sends env proc (proc.handleEvent env .sendNextMessage) := by
  unfold handleEvent
  dsimp only
  split
  next waits => exact .checks (.inr waits)
  next notWaiting =>
    split
    next backingOff => exact .checks (.inl backingOff)
    next notBackingOff =>
      unfold sendNextMessageStep
      split
      next nothing => exact .nothing nothing
      next nonempty =>
        rw [Bool.not_eq_true] at nonempty
        split
        next ongoing =>
          cases next : proc.nextElementForOngoingTransmission env with
          | none => exact .losesCurrent ongoing next
          | some element =>
            exact .looksAt notBackingOff (by
              unfold nextElement
              rw [if_neg notWaiting, ongoing, ← next])
              (sendElement_looksAt env proc element)
        next idle =>
          obtain ⟨element, next⟩ := nextElementWhileIdle_isSome nonempty env
          rw [next]
          exact .looksAt notBackingOff (by
              unfold nextElement
              rw [if_neg notWaiting, idle, ← next])
            (sendElement_looksAt env proc element)
        next backingOff => exact absurd backingOff notBackingOff

theorem nextElement_mem {env : Surroundings} {proc : TxProcess} {element : QueueElement}
    (next : proc.nextElement env = some element) : element ∈ proc.txQueue.elements := by
  have bypassQueued : ∀ bypass, proc.fetchRadioIdleBackoffBypass env =
      some bypass -> bypass ∈ proc.txQueue.elements := by
    intro bypass fetched
    unfold fetchRadioIdleBackoffBypass at fetched
    split at fetched
    · cases fetched
    · split at fetched
      next best =>
        split at fetched
        · cases fetched
        · cases fetched
          exact (TxQueue.findBestUnsentBackoffBypass_mem best).1
      next => cases fetched
  unfold nextElement at next
  split at next
  · cases next
  split at next
  next =>
    unfold nextElementForOngoingTransmission at next
    split at next
    next child => cases next; exact (TxQueue.getHighestPriorityChild_mem child).1
    next =>
      split at next
      next => cases next
      next current queued =>
        split at next
        · cases next
          exact TxQueue.find_mem queued
        · split at next
          next bypass fetched => cases next; exact bypassQueued _ fetched
          next => cases next; exact TxQueue.find_mem queued
  next =>
    unfold nextElementWhileIdle at next
    split at next
    next => cases next
    next head first =>
      split at next
      · split at next
        next alternate => cases next; exact (TxQueue.findBestUnsentByQos_mem alternate).1
        next => cases next; exact TxQueue.firstInQueue_mem first
      · split at next
        · split at next
          next alternate => cases next; exact bypassQueued _ alternate
          next => cases next; exact TxQueue.firstInQueue_mem first
        · cases next
          exact TxQueue.firstInQueue_mem first
  next => cases next

theorem completeDuringBackoff_leaves : proc.Leaves (proc.completeDuringBackoff env session) := by
  have leaves := proc.transmissionCompletedStep_leaves env session
  unfold completeDuringBackoff
  dsimp only
  split
  · split
    · exact leaves.trans { Leaves.refl _ with }
    · split
      · exact leaves.trans { Leaves.refl _ with }
      · exact leaves
  · exact leaves

theorem handleReply_leaves (frame : List UInt8) :
    proc.Leaves (proc.handleReply env node frame) := by
  unfold handleReply
  split
  · exact .refl proc
  · split
    · dsimp only
      split
      · exact (resumeFromBackoffStep_quiet env proc).toLeaves.trans
          (.withQueue _ _)
      · exact .withQueue proc _
    · exact .refl proc

theorem inspectReceivedFrameStep_leaves (frame : List UInt8) :
    proc.Leaves (proc.inspectReceivedFrameStep env node frame) := by
  unfold inspectReceivedFrameStep
  split
  · split
    · have decremented := (Quiet.withExpectedFrames proc
        (proc.expectedIncomingFrames.decrementFrames node)).toLeaves
      dsimp only
      split
      · exact decremented.trans (resumeFromBackoffStep_quiet env _).toLeaves
      · exact decremented
    · exact .refl proc
  · split
    · split
      · exact (Quiet.initiateBackoff proc _).toLeaves
      · exact .refl proc
    · exact proc.handleReply_leaves env node frame

theorem setExpectedFrames_leaves (count : Nat) :
    proc.Leaves (proc.setExpectedFrames env node count) := by
  have set := (Quiet.withExpectedFrames proc
    (proc.expectedIncomingFrames.setFrames node count)).toLeaves
  unfold setExpectedFrames
  dsimp only
  split
  · exact set.trans (resumeFromBackoffStep_quiet env _).toLeaves
  · exact set

/-- The state in which the completion step of a failed member of a stuck family
runs. -/
def failed (proc : TxProcess) (session : SessionId) : TxProcess :=
  proc.withQueue
    ((proc.txQueue.disableFasttack session).2.setTransmissionsResults
      proc.clockTime session transmitCompleteFail none).2

theorem forceFail_eq :
    proc.forceFail env session = (proc.failed session).transmissionCompletedStep env session := rfl

theorem find_failed {proc : TxProcess} {session : SessionId} {element : QueueElement}
    (found : (proc.failed session).txQueue.find session = some element) :
    (proc.failed session).isToBeRequeued element = false ∧
      (proc.failed session).isToBeBackedOff element = false ∧
      ∃ earlier, proc.txQueue.find session = some earlier ∧
        element = TxQueue.withResults proc.clockTime transmitCompleteFail none
          (TxQueue.withoutFasttrack earlier) := by
  unfold failed withQueue at found
  rw [TxQueue.find_setTransmissionsResults, if_pos rfl, TxQueue.find_disableFasttack,
    if_pos rfl, Option.map_map] at found
  obtain ⟨earlier, foundEarlier, changed⟩ := Option.map_eq_some_iff.mp found
  subst changed
  refine ⟨?_, ?_, earlier, foundEarlier, rfl⟩
  · simp [isToBeRequeued, TxQueue.withResults, TxQueue.withoutFasttrack]
  · simp [isToBeBackedOff, TxQueue.withResults, isTransmissionSuccessful,
      transmitCompleteFail, transmitCompleteOk, transmitCompleteVerified]

theorem serviceInFlightWatchdog_rule (invariant : TxProcess -> Prop)
    (aborted : ∀ reached after session status,
      invariant reached -> TransportAborts env reached session status after -> invariant after)
    (completed : ∀ reached after session,
      invariant reached -> Completes env (reached.failed session) session after -> invariant after)
    (proc : TxProcess)
    (stuck : proc.isStuckInFlight = true -> invariant proc.clearProtocolFrame)
    (notStuck : proc.isStuckInFlight = false -> invariant proc) :
    invariant (proc.serviceInFlightWatchdog env) := by
  unfold serviceInFlightWatchdog
  split
  next isStuck =>
    refine run_invariant invariant (fun reached session holds => ?_) ?_ _
    · exact completed reached _ session holds
        (transmissionCompletedStep_completes env (reached.failed session) session)
    · exact run_invariant invariant
        (fun reached session holds => aborted reached _ session _ holds
          (reached.transportAbortSendData_aborts env session))
        (stuck isStuck) _
  next isNot => exact notStuck (by simpa using isNot)

theorem forceFail_leaves : proc.Leaves (proc.forceFail env session) :=
  (Leaves.withQueue proc _).trans (transmissionCompletedStep_leaves env _ session)

theorem evictSubtree_leaves (fuel : Nat) (proc : TxProcess) (element : QueueElement) :
    proc.Leaves (evictSubtree fuel proc element) := by
  induction fuel generalizing proc element with
  | zero => exact .refl proc
  | succ fuel ih =>
    unfold evictSubtree
    split
    next child _ => exact (ih proc child).trans (ih _ element)
    next => exact (Leaves.withQueue proc _).trans (.callBack _ element _ _)

/-- What a request to send data can do. -/
inductive Requests
    (env : Surroundings)
    (proc : TxProcess)
    (request : SendRequest) : TxProcess -> Prop
  | rejected : Requests env proc request proc
  | triesOnce :
      Requests env proc request
        (proc.tryEnqueue (proc.newElement env request)).2
  | evicts
      {evicted : QueueElement}
      (refused : (proc.tryEnqueue (proc.newElement env request)).1 ≠ .ok)
      (worst : (proc.tryEnqueue
        (proc.newElement env request)).2.txQueue.findWorstUnsentByQos = some evicted) :
      Requests env proc request
        ((evictSubtree
          (2 * (proc.tryEnqueue
            (proc.newElement env request)).2.txQueue.size + 1)
          (proc.tryEnqueue (proc.newElement env request)).2
          evicted).tryEnqueue (proc.newElement env request)).2

theorem sendData_requests (request : SendRequest) :
    Requests env proc request (proc.sendData env request).2 := by
  unfold sendData
  split
  · exact .rejected
  · dsimp only
    split
    next => exact .triesOnce
    next refused =>
      split
      · split
        next worst => exact .evicts refused worst
        next => exact .triesOnce
      · exact .triesOnce

end TxProcess

end ZwaveTx
