import Zpc.ZwaveTx.Handlers
import Mathlib.Data.List.Induction

/-!
# The queue under the actions of the component

Apart from the requests of users no action adds to the queue: the elements it
leaves keep what their users asked for, and the queue stays consistent.  A
request adds at most one element, under an id that was not used before unless
the counter wraps around.
-/

namespace ZwaveTx

open Foundation

/-- An element is the same frame for the same user, and it does not wait for
more replies than before. -/
structure SameFrame (before after : QueueElement) : Prop where
  data : after.data = before.data
  connectionInfo : after.connectionInfo = before.connectionInfo
  session : after.zwaveTxSessionId = before.zwaveTxSessionId
  transport : after.options.transport = before.options.transport
  callbackFunction : after.callbackFunction = before.callbackFunction
  user : after.user = before.user
  responses : after.options.numberOfResponses ≤ before.options.numberOfResponses

theorem SameFrame.refl (element : QueueElement) : SameFrame element element :=
  ⟨rfl, rfl, rfl, rfl, rfl, rfl, Nat.le_refl _⟩

theorem SameFrame.trans {first second third : QueueElement} (earlier : SameFrame first second)
    (later : SameFrame second third) : SameFrame first third where
  data := later.data.trans earlier.data
  connectionInfo := later.connectionInfo.trans earlier.connectionInfo
  session := later.session.trans earlier.session
  transport := later.transport.trans earlier.transport
  callbackFunction := later.callbackFunction.trans earlier.callbackFunction
  user := later.user.trans earlier.user
  responses := Nat.le_trans later.responses earlier.responses

namespace TxQueue

/-- No element was added and what is left are the same frames. -/
structure Evolves (before after : TxQueue) : Prop where
  counter : after.zwaveTxSessionIdCounter = before.zwaveTxSessionIdCounter
  consistent : before.Consistent -> after.Consistent
  find : before.Consistent -> ∀ session element,
    after.find session = some element ->
      ∃ earlier, before.find session = some earlier ∧ SameFrame earlier element

theorem Evolves.trans {first second third : TxQueue} (earlier : first.Evolves second)
    (later : second.Evolves third) : first.Evolves third where
  counter := later.counter.trans earlier.counter
  consistent := fun consistent => later.consistent (earlier.consistent consistent)
  find := by
    intro consistent session element found
    obtain ⟨middle, foundMiddle, same⟩ :=
      later.find (earlier.consistent consistent) session element found
    obtain ⟨start, foundStart, sameStart⟩ := earlier.find consistent session middle foundMiddle
    exact ⟨start, foundStart, sameStart.trans same⟩

variable (txQueue : TxQueue) (session : SessionId) {before after : TxQueue}

theorem Shrinks.evolves (shrinks : before.Shrinks after) : before.Evolves after where
  counter := shrinks.counter
  consistent := shrinks.consistent
  find := fun consistent _ element found =>
    ⟨element, shrinks.find_some consistent found, .refl element⟩

theorem Evolves.refl : txQueue.Evolves txQueue := (Shrinks.refl txQueue).evolves

theorem Evolves.modify (txQueue : TxQueue) (session : SessionId)
    {change : QueueElement -> QueueElement}
    (keeps : ∀ element, SameFrame element (change element)) :
    txQueue.Evolves (txQueue.modify session change).2 where
  counter := counter_modify txQueue session change
  consistent := fun consistent =>
    consistent.modify session (fun element => (keeps element).session)
      (fun element => (keeps element).connectionInfo)
  find := by
    intro consistent other element found
    rw [find_modify fun element => (keeps element).session] at found
    split at found
    next same =>
      subst same
      obtain ⟨earlier, foundEarlier, changed⟩ := Option.map_eq_some_iff.mp found
      exact ⟨earlier, foundEarlier, changed ▸ keeps earlier⟩
    next => exact ⟨element, found, .refl element⟩

theorem Evolves.setTransmissionsResults (now : ClockTime) (session : SessionId) (status : Nat)
    (report : Option TxReport) :
    txQueue.Evolves (txQueue.setTransmissionsResults now session status report).2 :=
  .modify txQueue session fun _ => { SameFrame.refl _ with }

theorem Evolves.disableFasttack (txQueue : TxQueue) (session : SessionId) :
    txQueue.Evolves (txQueue.disableFasttack session).2 :=
  .modify txQueue session fun _ => { SameFrame.refl _ with }

theorem Evolves.setTransmissionTimestamp (now : ClockTime) (session : SessionId) :
    txQueue.Evolves (txQueue.setTransmissionTimestamp now session).2 :=
  .modify txQueue session fun _ => { SameFrame.refl _ with }

theorem Evolves.resetTransmissionTimestamp :
    txQueue.Evolves (txQueue.resetTransmissionTimestamp session).2 :=
  .modify txQueue session fun _ => { SameFrame.refl _ with }

theorem Evolves.consumeTransportCompletionStepPending (txQueue : TxQueue) (session : SessionId) :
    txQueue.Evolves (txQueue.consumeTransportCompletionStepPending session).2 := by
  unfold TxQueue.consumeTransportCompletionStepPending
  split
  · exact .modify txQueue session fun _ => { SameFrame.refl _ with }
  · exact .refl txQueue

theorem Evolves.decrementAlongParents (fuel : Nat) (txQueue : TxQueue) (session : SessionId) :
    txQueue.Evolves (TxQueue.decrementAlongParents fuel txQueue session).2 := by
  induction fuel generalizing session with
  | zero => exact .refl txQueue
  | succ fuel ih =>
    unfold TxQueue.decrementAlongParents
    split
    next => exact .refl txQueue
    next =>
      split
      · exact .modify txQueue session fun _ => ⟨rfl, rfl, rfl, rfl, rfl, rfl, Nat.sub_le _ 1⟩
      · split
        · exact ih _
        · exact .refl txQueue

end TxQueue

namespace TxProcess

/-- The queue of a process evolves. -/
def QueueEvolves (before after : TxProcess) : Prop := before.txQueue.Evolves after.txQueue

variable (env : Surroundings) (proc : TxProcess) (element : QueueElement)
  (node : NodeId) (request : SendRequest) {before after : TxProcess} {session : SessionId}

theorem QueueEvolves.refl : proc.QueueEvolves proc := TxQueue.Evolves.refl proc.txQueue

theorem QueueEvolves.trans {first second third : TxProcess} (earlier : first.QueueEvolves second)
    (later : second.QueueEvolves third) : first.QueueEvolves third :=
  TxQueue.Evolves.trans earlier later

theorem Quiet.queueEvolves (quiet : before.Quiet after) : before.QueueEvolves after :=
  quiet.shrinks.evolves

theorem QueueEvolves.of_eq (same : after.txQueue = before.txQueue) : before.QueueEvolves after := by
  unfold QueueEvolves
  rw [same]
  exact .refl _

theorem QueueEvolves.withQueue {proc : TxProcess} {txQueue : TxQueue}
    (evolves : proc.txQueue.Evolves txQueue) : proc.QueueEvolves (proc.withQueue txQueue) :=
  evolves

theorem calledBack_evolves : proc.QueueEvolves (proc.calledBack element) :=
  TxQueue.Evolves.consumeTransportCompletionStepPending _ _

theorem requeued_evolves (session : SessionId) : proc.QueueEvolves (proc.requeued session) :=
  (TxQueue.Evolves.consumeTransportCompletionStepPending _ session).trans
    ((TxQueue.Evolves.disableFasttack _ session).trans (.resetTransmissionTimestamp _ session))

theorem removed_evolves (session : SessionId) (state : TxState) (parent : SessionId) :
    proc.QueueEvolves ((proc.calledBack element).removed session state parent) :=
  (proc.calledBack_evolves element).trans (Quiet.removed _ _ _ _).queueEvolves

theorem Completes.evolves {env : Surroundings} {proc completed : TxProcess}
    (completes : Completes env proc session completed) : proc.QueueEvolves completed := by
  cases completes with
  | absent => exact ((Quiet.withState proc .idle).trans (checkQueue_quiet env _)).queueEvolves
  | redundant => exact .refl _
  | requeues =>
    exact (proc.requeued_evolves session).trans (checkQueue_quiet env _).queueEvolves
  | backsOff =>
    exact (proc.calledBack_evolves _).trans
      ((Quiet.backOffFor _ session).trans (checkQueue_quiet env _)).queueEvolves
  | finalizes =>
    exact (proc.calledBack_evolves _).trans
      ((Quiet.removed _ _ _ _).trans
        ((restorePreemptedBackoffIfNeeded_quiet env _).trans
          (checkQueue_quiet env _))).queueEvolves

theorem transmissionCompletedStep_evolves (session : SessionId) :
    proc.QueueEvolves (proc.transmissionCompletedStep env session) :=
  (proc.transmissionCompletedStep_completes env session).evolves

theorem onZwaveTransportSendDataComplete_evolves (status : Nat) (report : Option TxReport)
    (user : UserPointer) :
    proc.QueueEvolves (proc.onZwaveTransportSendDataComplete status report user) := by
  rcases proc.onZwaveTransportSendDataComplete_cases status report user with
    ⟨session, _, delivers⟩ | ⟨_, undefined⟩
  · unfold QueueEvolves
    rw [delivers.txQueue]
    exact .setTransmissionsResults _ _ _ _ _
  · rw [undefined]
    exact TxQueue.Evolves.refl _

theorem dropUnsentCurrentMessage_evolves : proc.QueueEvolves proc.dropUnsentCurrentMessage :=
  (QueueEvolves.withQueue
    (.disableFasttack proc.txQueue proc.currentTxSessionId)).trans
    (onZwaveTransportSendDataComplete_evolves _ _ _ _)

theorem completeDispatch_evolves (dispatch : Dispatch) (status : Nat) (report : Option TxReport) :
    proc.QueueEvolves (proc.completeDispatch dispatch status report) :=
  onZwaveTransportSendDataComplete_evolves (proc.takeDispatch dispatch) _ _ _

theorem TransportAborts.evolves {env : Surroundings} {proc : TxProcess} {status : SlStatus}
    (aborts : TransportAborts env proc session status after) : proc.QueueEvolves after := by
  cases aborts with
  | refuses | accepts | hasNothing => exact .refl _
  | callsBack => exact proc.completeDispatch_evolves _ _ _

theorem transportAbortSendData_evolves (session : SessionId) :
    proc.QueueEvolves (transportAbortSendData env proc session).2 :=
  (proc.transportAbortSendData_aborts env session).evolves

theorem Aborts.evolves {env : Surroundings} {proc : TxProcess}
    (aborts : Aborts env proc session after) : proc.QueueEvolves after := by
  have marked : proc.QueueEvolves
      (proc.withQueue (proc.txQueue.disableFasttack session).2) :=
    .withQueue (.disableFasttack proc.txQueue session)
  cases aborts with
  | absent => exact .refl _
  | endsBackoff => exact marked.trans (resumeFromBackoffStep_quiet env _).queueEvolves
  | whileIdle =>
    exact marked.trans ((Quiet.withCurrent _ session).queueEvolves.trans
      (dropUnsentCurrentMessage_evolves _))
  | byTransport _ _ _ transportAborts => exact marked.trans transportAborts.evolves
  | refused =>
    have written := TxQueue.Evolves.trans marked
      (.setTransmissionsResults _ proc.clockTime session transmitCompleteFail none)
    exact (QueueEvolves.withQueue written).trans
      (checkQueue_quiet env _).queueEvolves

theorem run_evolves {Input : Type*} {step : TxProcess -> Input -> TxProcess}
    (evolves : ∀ proc input, QueueEvolves proc (step proc input)) (proc : TxProcess)
    (inputs : List Input) : proc.QueueEvolves (run step proc inputs) :=
  run_invariant proc.QueueEvolves
    (fun reached input soFar => soFar.trans (evolves reached input)) (.refl _) inputs

theorem abortAll_evolves (sessions : List SessionId) :
    proc.QueueEvolves (proc.abortAll env sessions) :=
  run_evolves
    (fun proc session => (proc.abortTransmission_aborts env session).evolves)
    proc sessions

theorem handToTransport_evolves (previousSession : SessionId) (previousState : TxState)
    (proc : TxProcess) (element : QueueElement) :
    proc.QueueEvolves (handToTransport env previousSession previousState proc element) := by
  unfold handToTransport
  split
  · exact .refl _
  · exact .resetTransmissionTimestamp _ _
  · exact proc.dropUnsentCurrentMessage_evolves

theorem LooksAt.evolves {env : Surroundings} {proc : TxProcess} {element : QueueElement}
    (looks : LooksAt env proc element after) : proc.QueueEvolves after := by
  cases looks with
  | discards => exact (proc.withCurrent element.zwaveTxSessionId).dropUnsentCurrentMessage_evolves
  | completes => exact
      (proc.withCurrent element.zwaveTxSessionId).transmissionCompletedStep_evolves _ _
  | waits | staysInFlight => exact .refl _
  | expires =>
    have aborted := (proc.withCurrent element.zwaveTxSessionId).transportAbortSendData_evolves env
      element.zwaveTxSessionId
    exact (QueueEvolves.trans aborted (.of_eq rfl)).trans
      (dropUnsentCurrentMessage_evolves (clearProtocolFrame _))
  | handsOver =>
    refine QueueEvolves.trans ?_ (handToTransport_evolves env _ _ _ element)
    exact TxQueue.Evolves.setTransmissionTimestamp _ _ _

theorem Sends.evolves {env : Surroundings} {proc : TxProcess} (sends : Sends env proc after) :
    proc.QueueEvolves after := by
  cases sends with
  | checks => exact (checkQueue_quiet env _).queueEvolves
  | nothing => exact .refl _
  | losesCurrent => exact ((Quiet.withState proc .idle).trans (checkQueue_quiet env _)).queueEvolves
  | looksAt _ _ looks => exact looks.evolves

theorem completeDuringBackoff_txQueue (session : SessionId) :
    (proc.completeDuringBackoff env session).txQueue =
      (proc.transmissionCompletedStep env session).txQueue := by
  unfold completeDuringBackoff
  dsimp only
  split
  · split
    · rfl
    · split <;> rfl
  · rfl

theorem handleReply_evolves (frame : List UInt8) :
    proc.QueueEvolves (proc.handleReply env node frame) := by
  unfold handleReply
  split
  · exact .refl _
  · split
    · dsimp only
      split
      · exact (resumeFromBackoffStep_quiet env proc).queueEvolves.trans
          (.decrementAlongParents _ _ _)
      · exact .decrementAlongParents _ _ _
    · exact .refl _

theorem inspectReceivedFrameStep_evolves (frame : List UInt8) :
    proc.QueueEvolves (proc.inspectReceivedFrameStep env node frame) := by
  unfold inspectReceivedFrameStep
  split
  · split
    · dsimp only
      split
      · exact ((Quiet.withExpectedFrames proc _).trans
          (resumeFromBackoffStep_quiet env _)).queueEvolves
      · exact .of_eq rfl
    · exact .refl _
  · split
    · split <;> exact .of_eq rfl
    · exact proc.handleReply_evolves env node frame

theorem handleEvent_evolves (event : Event) : proc.QueueEvolves (proc.handleEvent env event) := by
  cases event with
  | sendNextMessage => exact (proc.handleSendNextMessage_sends env).evolves
  | sendOperationComplete session =>
    unfold handleEvent
    dsimp only
    split
    · exact proc.transmissionCompletedStep_evolves env session
    · exact (proc.transmissionCompletedStep_evolves env session).trans
        (.of_eq (proc.completeDuringBackoff_txQueue env session))
  | backoffTimerExpired => exact (resumeFromBackoffStep_quiet env proc).queueEvolves
  | nodeDeleted node => exact proc.abortAll_evolves env _
  | frameReceived node frame => exact proc.inspectReceivedFrameStep_evolves env node frame

theorem handleNextEvent_evolves : proc.QueueEvolves (proc.handleNextEvent env) := by
  unfold handleNextEvent
  split
  · exact .refl _
  next event _ _ => exact handleEvent_evolves env proc.takeEvent event

theorem setExpectedFrames_evolves (count : Nat) :
    proc.QueueEvolves (proc.setExpectedFrames env node count) := by
  unfold setExpectedFrames
  dsimp only
  split
  · exact ((Quiet.withExpectedFrames proc _).trans
      (resumeFromBackoffStep_quiet env _)).queueEvolves
  · exact .of_eq rfl

theorem failed_evolves (session : SessionId) : proc.QueueEvolves (proc.failed session) :=
  .withQueue ((TxQueue.Evolves.disableFasttack _ session).trans
    (.setTransmissionsResults _ _ session _ _))

theorem forceFail_evolves (session : SessionId) : proc.QueueEvolves (proc.forceFail env session) :=
  (proc.failed_evolves session).trans
    (transmissionCompletedStep_evolves env _ session)

theorem serviceInFlightWatchdog_evolves : proc.QueueEvolves (proc.serviceInFlightWatchdog env) := by
  unfold serviceInFlightWatchdog
  split
  · exact (run_evolves
      (fun proc session => proc.transportAbortSendData_evolves env session)
      proc.clearProtocolFrame _).trans
      (run_evolves (forceFail_evolves env) _ _)
  · exact .refl _

theorem flushCurrent_evolves : proc.QueueEvolves (proc.flushCurrent env) := by
  unfold flushCurrent
  dsimp only
  have resumed : proc.QueueEvolves
      (if proc.state = .backoff then
      proc.resumeFromBackoffStep env else proc) := by
    split
    · exact (resumeFromBackoffStep_quiet env proc).queueEvolves
    · exact .refl _
  generalize (if proc.state = .backoff then proc.resumeFromBackoffStep env
    else proc) = current at resumed
  split
  · exact (resumed.trans (current.transportAbortSendData_evolves env _)).trans
      (dropUnsentCurrentMessage_evolves _)
  · exact resumed

theorem flushQueueResetStep_evolves : proc.QueueEvolves (proc.flushQueueResetStep env).2 := by
  unfold flushQueueResetStep
  dsimp only
  split
  · exact .refl _
  · exact (flushCurrent_evolves env (proc.withFlush true)).trans
      (abortAll_evolves env _ _)

/-- The counter has room for the two attempts of a request. -/
def CounterFits (proc : TxProcess) : Action -> Prop
  | .sendData _ _ => proc.txQueue.zwaveTxSessionIdCounter + 2 < 2 ^ 32
  | _ => True

/-- The state after an element was accepted. -/
def queuedNew (proc : TxProcess) (element : QueueElement) : TxProcess :=
  { proc with
    txQueue := (proc.txQueue.enqueue proc.clockTime element).2
    accepted :=
      (proc.txQueue.zwaveTxSessionIdCounter, element.callbackFunction) ::
        proc.accepted
    eventQueue := proc.eventQueue ++ [.sendNextMessage] }

theorem tryEnqueue_cases :
    ((proc.txQueue.enqueue proc.clockTime element).1 = .ok ∧
      proc.tryEnqueue element = (.ok, proc.queuedNew element)) ∨
    ((proc.txQueue.enqueue proc.clockTime element).1 ≠ .ok ∧
      proc.tryEnqueue element =
        (.fail, proc.withQueue
          (proc.txQueue.enqueue proc.clockTime element).2)) := by
  unfold tryEnqueue
  by_cases accepted : (proc.txQueue.enqueue proc.clockTime element).1 = .ok
  · exact .inl ⟨accepted, by simp only [accepted, if_true]; rfl⟩
  · exact .inr ⟨accepted, by simp only [accepted, if_false]⟩

/-- The state after an attempt to queue the frame of a request failed. -/
def refusedRequest (env : Surroundings) (proc : TxProcess) (request : SendRequest) : TxProcess :=
  proc.withQueue
    (proc.txQueue.enqueue proc.clockTime (proc.newElement env request)).2

theorem tryEnqueue_accepted (isAccepted : (proc.txQueue.enqueue proc.clockTime element).1 = .ok) :
    proc.tryEnqueue element = (.ok, proc.queuedNew element) :=
  (proc.tryEnqueue_cases _).elim (·.2) fun refuses => absurd isAccepted refuses.1

section

variable {request : SendRequest}
  (refused : (proc.txQueue.enqueue proc.clockTime (proc.newElement env request)).1 ≠ .ok)
include refused

theorem tryEnqueue_refused :
    proc.tryEnqueue (proc.newElement env request) = (.fail, proc.refusedRequest env request) :=
  (proc.tryEnqueue_cases _).elim (fun accepts => absurd accepts.1 refused) (·.2)

theorem refusedRequest_elements :
    (proc.refusedRequest env request).txQueue.elements = proc.txQueue.elements :=
  (TxQueue.enqueue_rejected refused).1

end

theorem worst_congr {before after : TxQueue} (same : after.elements = before.elements) :
    after.size = before.size ∧ after.findWorstUnsentByQos = before.findWorstUnsentByQos := by
  refine ⟨congrArg List.length same, ?_⟩
  unfold TxQueue.findWorstUnsentByQos
  rw [same]

theorem sendData_cases (env : Surroundings) (proc : TxProcess) (request : SendRequest) :
    (proc.isRejected env request = true ∧ proc.sendData env request = (.fail, proc)) ∨
    (proc.isRejected env request = false ∧
      (proc.txQueue.enqueue proc.clockTime
        (proc.newElement env request)).1 = .ok ∧
      proc.sendData env request = (.ok, proc.queuedNew (proc.newElement env request))) ∨
    (proc.isRejected env request = false ∧
      (proc.txQueue.enqueue proc.clockTime
        (proc.newElement env request)).1 ≠ .ok ∧
      ((proc.txQueue.size < zwaveTxQueueBufferSize ∨ proc.txQueue.findWorstUnsentByQos = none) ∧
        proc.sendData env request = (.fail, proc.refusedRequest env request) ∨
      ∃ worst, zwaveTxQueueBufferSize ≤ proc.txQueue.size ∧
        proc.txQueue.findWorstUnsentByQos = some worst ∧
        proc.sendData env request =
          (evictSubtree (2 * proc.txQueue.size + 1)
            (proc.refusedRequest env request) worst).tryEnqueue
              (proc.newElement env request))) := by
  unfold sendData
  cases rejected : proc.isRejected env request with
  | true => exact .inl ⟨rfl, rfl⟩
  | false =>
    right
    dsimp only
    rcases proc.tryEnqueue_cases (proc.newElement env request) with
      ⟨isAccepted, isOk⟩ | ⟨refused, -⟩
    · left
      rw [isOk]
      exact ⟨rfl, isAccepted, rfl⟩
    · right
      refine ⟨rfl, refused, ?_⟩
      have first := tryEnqueue_refused env proc refused
      obtain ⟨sameSize, sameWorst⟩ := worst_congr (refusedRequest_elements env proc refused)
      simp only [first, reduceCtorEq, Bool.false_eq_true, if_false, sameSize, sameWorst]
      by_cases isFull : zwaveTxQueueBufferSize ≤ proc.txQueue.size
      · rw [if_pos isFull]
        cases isWorst : proc.txQueue.findWorstUnsentByQos with
        | none => exact .inl ⟨.inr rfl, rfl⟩
        | some worst => exact .inr ⟨worst, isFull, rfl, rfl⟩
      · rw [if_neg isFull]
        exact .inl ⟨.inl (Nat.lt_of_not_le isFull), rfl⟩

theorem evictSubtree_shrinks (fuel : Nat) (proc : TxProcess) (element : QueueElement) :
    proc.txQueue.Shrinks (evictSubtree fuel proc element).txQueue := by
  induction fuel generalizing proc element with
  | zero => exact .refl _
  | succ fuel ih =>
    unfold evictSubtree
    split
    next child _ => exact (ih proc child).trans (ih _ element)
    next => exact .pop _ _

theorem tryEnqueue_consistent {proc : TxProcess} (consistent : proc.txQueue.Consistent)
    (counterFits : proc.txQueue.zwaveTxSessionIdCounter + 1 < 2 ^ 32) (element : QueueElement) :
    (proc.tryEnqueue element).2.txQueue.Consistent ∧
      proc.txQueue.zwaveTxSessionIdCounter ≤
        (proc.tryEnqueue element).2.txQueue.zwaveTxSessionIdCounter ∧
      (proc.tryEnqueue element).2.txQueue.zwaveTxSessionIdCounter ≤
        proc.txQueue.zwaveTxSessionIdCounter + 1 := by
  have enqueued := consistent.enqueue proc.clockTime element counterFits
  have below := TxQueue.counter_enqueue_le proc.txQueue proc.clockTime element
  rcases proc.tryEnqueue_cases element with ⟨accepted, isOk⟩ | ⟨rejected, isFail⟩
  · rw [isOk]
    obtain ⟨_, _, _, counter, _⟩ := TxQueue.enqueue_ok accepted
    exact ⟨enqueued, by dsimp only [queuedNew]; omega, below⟩
  · rw [isFail]
    obtain ⟨_, _, counter⟩ := TxQueue.enqueue_rejected rejected
    exact ⟨enqueued, by dsimp only [withQueue]; omega, below⟩

theorem sendData_consistent {proc : TxProcess} (consistent : proc.txQueue.Consistent)
    (counterFits : proc.txQueue.zwaveTxSessionIdCounter + 2 < 2 ^ 32)
    (env : Surroundings) (request : SendRequest) :
    (proc.sendData env request).2.txQueue.Consistent ∧
      proc.txQueue.zwaveTxSessionIdCounter ≤
        (proc.sendData env request).2.txQueue.zwaveTxSessionIdCounter := by
  have requests := proc.sendData_requests env request
  generalize (proc.sendData env request).2 = after at requests
  have once := tryEnqueue_consistent consistent (by omega)
    (proc.newElement env request)
  cases requests with
  | rejected => exact ⟨consistent, Nat.le_refl _⟩
  | triesOnce => exact ⟨once.1, once.2.1⟩
  | @evicts evicted _ _ =>
    generalize (proc.tryEnqueue (proc.newElement env request)).2 = first at once
    have shrinks := evictSubtree_shrinks (2 * first.txQueue.size + 1) first evicted
    have twice := tryEnqueue_consistent (shrinks.consistent once.1)
      (by rw [shrinks.counter]; omega) (proc.newElement env request)
    rw [shrinks.counter] at twice
    exact ⟨twice.1, Nat.le_trans once.2.1 twice.2.1⟩

theorem evictSubtree_eq (fuel : Nat) (proc : TxProcess) (element : QueueElement) :
    ∃ txQueue callbacks, evictSubtree fuel proc element =
      { proc with txQueue := txQueue, callbacks := callbacks } := by
  induction fuel generalizing proc element with
  | zero => exact ⟨proc.txQueue, proc.callbacks, rfl⟩
  | succ fuel ih =>
    unfold evictSubtree
    split
    next child _ =>
      obtain ⟨txQueue, callbacks, evicted⟩ := ih proc child
      rw [evicted]
      obtain ⟨txQueue, callbacks, rest⟩ := ih
        { proc with txQueue := txQueue, callbacks := callbacks } element
      exact ⟨txQueue, callbacks, rest⟩
    next => exact ⟨_, _, rfl⟩

theorem sendData_eq :
    ∃ txQueue accepted callbacks count, (proc.sendData env request).2 =
      { proc with
        txQueue := txQueue
        accepted := accepted
        callbacks := callbacks
        eventQueue := proc.eventQueue ++ List.replicate count .sendNextMessage } := by
  have once : ∀ (start : TxProcess) (element : QueueElement),
      ∃ txQueue accepted count, (start.tryEnqueue element).2 =
        { start with
          txQueue := txQueue
          accepted := accepted
          eventQueue := start.eventQueue ++ List.replicate count .sendNextMessage } := by
    intro start element
    rcases start.tryEnqueue_cases element with ⟨_, isOk⟩ | ⟨_, isFail⟩
    · rw [isOk]
      exact ⟨_, _, 1, rfl⟩
    · rw [isFail]
      exact ⟨(start.txQueue.enqueue start.clockTime element).2, start.accepted, 0,
        by simp [withQueue]⟩
  have requests := proc.sendData_requests env request
  generalize (proc.sendData env request).2 = after at requests
  cases requests with
  | rejected => exact ⟨proc.txQueue, proc.accepted, proc.callbacks, 0, by simp⟩
  | triesOnce =>
    obtain ⟨txQueue, accepted, count, tried⟩ := once proc (proc.newElement env request)
    exact ⟨txQueue, accepted, proc.callbacks, count, tried⟩
  | @evicts evicted _ _ =>
    obtain ⟨firstQueue, firstAccepted, firstCount, tried⟩ := once proc (proc.newElement env request)
    rw [tried]
    obtain ⟨smallerQueue, callbacks, evictedEq⟩ := evictSubtree_eq (2 * firstQueue.size + 1)
      { proc with
        txQueue := firstQueue
        accepted := firstAccepted
        eventQueue := proc.eventQueue ++ List.replicate firstCount .sendNextMessage }
      evicted
    rw [evictedEq]
    obtain ⟨txQueue, accepted, count, again⟩ :=
      once { proc with
        txQueue := smallerQueue
        callbacks := callbacks
        accepted := firstAccepted
        eventQueue := proc.eventQueue ++ List.replicate firstCount .sendNextMessage }
      (proc.newElement env request)
    rw [again]
    exact ⟨txQueue, accepted, callbacks, firstCount + count, by
      simp [List.append_assoc, List.replicate_append_replicate]⟩

theorem tryEnqueue_find {proc : TxProcess} (consistent : proc.txQueue.Consistent)
    (element : QueueElement) (old : session < proc.txQueue.zwaveTxSessionIdCounter) :
    (proc.tryEnqueue element).2.txQueue.find session = proc.txQueue.find session := by
  rcases proc.tryEnqueue_cases element with ⟨accepted, isOk⟩ | ⟨rejected, isFail⟩
  · rw [isOk]
    refine (consistent.find_enqueue accepted session).trans (if_neg ?_)
    exact Nat.ne_of_lt old
  · rw [isFail]
    unfold withQueue TxQueue.find
    rw [(TxQueue.enqueue_rejected rejected).1]

theorem sendData_find {proc : TxProcess} (consistent : proc.txQueue.Consistent)
    (counterFits : proc.txQueue.zwaveTxSessionIdCounter + 2 < 2 ^ 32) (env : Surroundings)
    (request : SendRequest) (old : session < proc.txQueue.zwaveTxSessionIdCounter) :
    (proc.sendData env request).2.txQueue.find session = none ∨
      (proc.sendData env request).2.txQueue.find session = proc.txQueue.find session := by
  have requests := proc.sendData_requests env request
  generalize (proc.sendData env request).2 = after at requests
  cases requests with
  | rejected => exact .inr rfl
  | triesOnce => exact .inr (tryEnqueue_find consistent _ old)
  | @evicts evicted _ _ =>
    have once := tryEnqueue_consistent consistent (by omega)
      (proc.newElement env request)
    have found := tryEnqueue_find consistent (proc.newElement env request) old
    generalize (proc.tryEnqueue (proc.newElement env request)).2 = first
      at once found
    have shrinks := evictSubtree_shrinks (2 * first.txQueue.size + 1) first evicted
    rw [tryEnqueue_find (shrinks.consistent once.1) _
      (by rw [shrinks.counter]; exact Nat.lt_of_lt_of_le old once.2.1), ← found]
    exact shrinks.find once.1 session

/-- Steps other than requests add no frame and change none. -/
theorem step_evolves (action : Action) (noRequest : ∀ env request, action ≠ .sendData env request) :
    proc.QueueEvolves (proc.step action) := by
  cases action with
  | sendData env request => exact absurd rfl (noRequest env request)
  | transportCompletion session status report =>
    unfold step transportCallsBack
    dsimp only
    split
    · exact .refl _
    · exact proc.completeDispatch_evolves _ status report
  | timerExpiration =>
    unfold step timerExpiration
    dsimp only
    split
    · exact .of_eq rfl
    · exact .refl _
  | frameReceived | openTxQueue | clockTick => exact .of_eq rfl
  | abortTransmission env session => exact (proc.abortTransmission_aborts env session).evolves
  | nodeDeleted node =>
    unfold step
    dsimp only
    split
    · exact .refl _
    · exact .of_eq rfl
  | flushQueueResetStep env => exact proc.flushQueueResetStep_evolves env
  | setExpectedFrames env node count => exact proc.setExpectedFrames_evolves env node count
  | watchdogTick env => exact proc.serviceInFlightWatchdog_evolves env
  | handleNextEvent env => exact proc.handleNextEvent_evolves env

/-- A step that does not wrap the counter keeps the queue consistent. -/
theorem step_consistent {proc : TxProcess} {action : Action}
    (consistent : proc.txQueue.Consistent) (counterFits : proc.CounterFits action) :
    (proc.step action).txQueue.Consistent ∧
      proc.txQueue.zwaveTxSessionIdCounter ≤
        (proc.step action).txQueue.zwaveTxSessionIdCounter := by
  by_cases isRequest : ∃ env request, action = .sendData env request
  · obtain ⟨env, request, same⟩ := isRequest
    subst same
    exact sendData_consistent consistent counterFits env request
  · have evolves := proc.step_evolves action fun env request same => isRequest ⟨env, request, same⟩
    exact ⟨evolves.consistent consistent, Nat.le_of_eq evolves.counter.symm⟩

/-- The frame of a request in the state it is made in, under a session id. -/
def requestedElement (env : Surroundings) (asked : TxProcess) (request : SendRequest)
    (session : SessionId) : QueueElement :=
  TxQueue.stored { asked.txQueue with zwaveTxSessionIdCounter := session } asked.clockTime
    (asked.newElement env request)

/-- The queued frame is that of a request of the run, as `zwave_tx_send_data` built it in
the state it was called in: the call put it into the queue under an id that was free. -/
def RequestedIn (actions : List Action) (session : SessionId) (queued : QueueElement) : Prop :=
  ∃ earlier env request, earlier ++ [.sendData env request] <+: actions ∧
    let asked := run step initial earlier
    asked.txQueue.find session = none ∧
      (asked.sendData env request).2.txQueue.find session =
        some (asked.requestedElement env request session) ∧
      SameFrame (asked.requestedElement env request session) queued

/-- An attempt to queue an element stores it under the next id, or changes nothing. -/
theorem tryEnqueue_find_cases {proc : TxProcess} (consistent : proc.txQueue.Consistent)
    (element : QueueElement) (session : SessionId) :
    (proc.tryEnqueue element).2.txQueue.find session = proc.txQueue.find session ∨
      session = proc.txQueue.zwaveTxSessionIdCounter ∧
        (proc.tryEnqueue element).2.txQueue.find session =
          some (proc.txQueue.stored proc.clockTime element) := by
  rcases proc.tryEnqueue_cases element with ⟨accepted, isOk⟩ | ⟨rejected, isFail⟩
  · rw [isOk]
    have found := consistent.find_enqueue accepted session
    split at found
    · exact .inr ⟨by assumption, found⟩
    · exact .inl found
  · rw [isFail]
    unfold withQueue TxQueue.find
    exact .inl (by rw [(TxQueue.enqueue_rejected rejected).1])

variable {queued : QueueElement}

/-- What a request leaves in the queue was there before, or is its own frame. -/
theorem sendData_find_cases {proc : TxProcess} (consistent : proc.txQueue.Consistent)
    (counterFits : proc.txQueue.zwaveTxSessionIdCounter + 2 < 2 ^ 32) (env : Surroundings)
    (request : SendRequest)
    (found : (proc.sendData env request).2.txQueue.find session = some queued) :
    proc.txQueue.find session = some queued ∨
      proc.txQueue.find session = none ∧ queued = proc.requestedElement env request session := by
  rcases proc.sendData_cases env request with ⟨-, isAnswer⟩ | ⟨-, isAccepted, isAnswer⟩ |
    ⟨-, refused, ⟨-, isAnswer⟩ | ⟨worst, -, -, isAnswer⟩⟩ <;>
  rw [isAnswer] at found
  · exact .inl found
  · have found := (consistent.find_enqueue isAccepted session).symm.trans found
    split at found
    · rename_i isNext
      cases found
      exact .inr ⟨isNext ▸ consistent.find_counter, isNext ▸ rfl⟩
    · exact .inl found
  · unfold TxQueue.find at found
    rw [refusedRequest_elements env proc refused] at found
    exact .inl found
  · -- The second attempt is made in the queue that the eviction leaves.
    have once := tryEnqueue_consistent consistent (by omega) (proc.newElement env request)
    rw [tryEnqueue_refused env proc refused] at once
    have shrinks := evictSubtree_shrinks (2 * proc.txQueue.size + 1)
      (proc.refusedRequest env request) worst
    obtain ⟨txQueue, callbacks, evicted⟩ := evictSubtree_eq (2 * proc.txQueue.size + 1)
      (proc.refusedRequest env request) worst
    have old : (proc.refusedRequest env request).txQueue.find session =
      proc.txQueue.find session := by
      unfold TxQueue.find
      rw [refusedRequest_elements env proc refused]
    rw [evicted] at found shrinks
    rcases tryEnqueue_find_cases (shrinks.consistent once.1) (proc.newElement env request) session
      with same | ⟨isNext, isNew⟩
    · rw [same] at found
      exact .inl (old.symm.trans (shrinks.find_some once.1 found))
    · rw [isNew] at found
      cases found
      refine .inr ⟨old.symm.trans ?_, isNext ▸ rfl⟩
      rw [isNext, shrinks.counter]
      exact once.1.find_counter

/-- In every run in which the session counter does not wrap, a queued frame is that of a
request of the run, as it was built then: none is made up, altered or misdirected. -/
theorem queued_frames_are_requested (actions : List Action)
    (counterFits : StepsMeet step CounterFits initial actions)
    (found : (run step initial actions).txQueue.find session = some queued) :
    RequestedIn actions session queued := by
  suffices kept : (run step initial actions).txQueue.Consistent ∧ ∀ session queued,
      (run step initial actions).txQueue.find session = some queued ->
      RequestedIn actions session queued from kept.2 _ _ found
  clear found
  induction actions using List.reverseRecOn with
  | nil => exact ⟨.initial, fun _ _ found => by cases found⟩
  | append_singleton earlier action ih =>
    obtain ⟨before, fits⟩ := (stepsMeet_append ..).mp counterFits
    obtain ⟨consistent, requested⟩ := ih before
    rw [run_append, run_cons, run_nil]
    refine ⟨(step_consistent consistent fits.1).1, fun session queued found => ?_⟩
    have goesOn : ∀ old, (run step initial earlier).txQueue.find session = some old ->
        SameFrame old queued -> RequestedIn (earlier ++ [action]) session queued := by
      intro old foundOld same
      obtain ⟨start, env, request, isPrefix, isFree, isBuilt, keeps⟩ :=
        requested session old foundOld
      exact ⟨start, env, request, isPrefix.trans (List.prefix_append ..), isFree, isBuilt,
        keeps.trans same⟩
    by_cases isRequest : ∃ env request, action = .sendData env request
    · obtain ⟨env, request, rfl⟩ := isRequest
      rcases sendData_find_cases consistent fits.1 env request found with old | ⟨isFree, rfl⟩
      · exact goesOn queued old (.refl _)
      · exact ⟨earlier, env, request, List.prefix_rfl, isFree, found, .refl _⟩
    · have evolves := (run step initial earlier).step_evolves action fun env request same =>
        isRequest ⟨env, request, same⟩
      obtain ⟨old, foundOld, same⟩ := evolves.find consistent session queued found
      exact goesOn old foundOld same

/-- The only request of a run. -/
theorem queued_frames_are_requested_sample :
    ∃ queued, (run step initial [.sendData {} (sampleRequest 5 1 10)]).txQueue.find 0 =
      some queued ∧
      RequestedIn [.sendData {} (sampleRequest 5 1 10)] 0 queued :=
  ⟨_, rfl, queued_frames_are_requested [.sendData {} (sampleRequest 5 1 10)]
    ⟨show 0 + 2 < 2 ^ 32 by decide, trivial⟩ rfl⟩

end TxProcess

end ZwaveTx
