import Zpc.ZwaveTx.Handlers

/-!
# Completions of dispatches

A completion carries only the pointer that was handed to the transport.  Which
session it is for depends on the protocol frame flag and on the metadata behind
the pointer at the time of the completion.  As long as the flag still fits the
outstanding dispatches, every completion reaches the session it is for; a
dispatch of another kind in between breaks this.
-/

namespace ZwaveTx

open Foundation

namespace TxProcess

/-- The flag and the metadata are those of the dispatch. -/
def Addresses (proc : TxProcess) (dispatch : Dispatch) : Prop :=
  dispatch.isProtocolFrame = proc.isProtocolFrame ∧
    if dispatch.isProtocolFrame then
      proc.protocolMetadata dispatch.user = some dispatch.session
    else dispatch.user = dispatch.session

/-- All outstanding dispatches are addressed by the flag, and all completions so
far were. -/
structure Addressed (proc : TxProcess) : Prop where
  /-- Completions were taken for the right session. -/
  past : ∀ completion ∈ proc.completions, completion.2 = some completion.1.session
  /-- Those to come will be. -/
  outstanding : ∀ dispatch ∈ proc.inFlight, proc.Addresses dispatch

variable (env : Surroundings) {proc before after : TxProcess} {dispatch : Dispatch}
  {session : SessionId} {status : SlStatus} {element : QueueElement}

theorem Addresses.completedSession (addresses : proc.Addresses dispatch) :
    proc.completedSession dispatch.user = some dispatch.session := by
  obtain ⟨sameFlag, address⟩ := addresses
  unfold TxProcess.completedSession
  rw [← sameFlag]
  split
  next isProtocol => simpa [isProtocol] using address
  next notProtocol => simpa [notProtocol] using address

/-- The variables the addresses depend on are the same. -/
structure SameAddresses (before after : TxProcess) : Prop where
  inFlight : after.inFlight = before.inFlight
  completions : after.completions = before.completions
  isProtocolFrame : after.isProtocolFrame = before.isProtocolFrame
  protocolMetadata : after.protocolMetadata = before.protocolMetadata

theorem Leaves.sameAddresses (leaves : before.Leaves after) : before.SameAddresses after :=
  ⟨leaves.inFlight, leaves.completions, leaves.isProtocolFrame, leaves.protocolMetadata⟩

theorem SameAddresses.addressed (same : before.SameAddresses after) (addressed : before.Addressed) :
    after.Addressed := by
  constructor
  · rw [same.completions]
    exact addressed.past
  · rw [same.inFlight]
    unfold Addresses
    rw [same.isProtocolFrame, same.protocolMetadata]
    exact addressed.outstanding

theorem dropUnsentCurrentMessage_sameAddresses (proc : TxProcess) :
    proc.SameAddresses proc.dropUnsentCurrentMessage := by
  obtain ⟨control, sameFlight, sameCompletions⟩ := proc.dropUnsentCurrentMessage_sameControl
  exact ⟨sameFlight, sameCompletions, control.isProtocolFrame, control.protocolMetadata⟩

section

variable (addressed : proc.Addressed)
include addressed

theorem Addressed.completeDispatch (outstanding : dispatch ∈ proc.inFlight) (status : Nat)
    (report : Option TxReport) : (proc.completeDispatch dispatch status report).Addressed := by
  obtain ⟨control, flight, completions⟩ := proc.completeDispatch_sameControl dispatch status report
  constructor
  · rw [completions]
    intro completion mem
    rcases List.mem_cons.mp mem with isNew | isOld
    · subst isNew
      exact (addressed.outstanding dispatch outstanding).completedSession
    · exact addressed.past completion isOld
  · rw [flight]
    unfold Addresses
    rw [control.isProtocolFrame, control.protocolMetadata]
    exact fun other mem => addressed.outstanding other (List.mem_of_mem_erase mem)

theorem Addressed.transportAborts {env : Surroundings}
    (aborts : TransportAborts env proc session status after) : after.Addressed := by
  cases aborts with
  | refuses | accepts | hasNothing => exact addressed
  | callsBack answer oldest => exact addressed.completeDispatch (oldestDispatch_mem oldest).1 _ _

theorem Addressed.transportAbortSendData (env : Surroundings) (session : SessionId) :
    (TxProcess.transportAbortSendData env proc session).2.Addressed :=
  addressed.transportAborts (proc.transportAbortSendData_aborts env session)

theorem Addressed.aborts {env : Surroundings} (aborts : Aborts env proc session after) :
    after.Addressed := by
  have marked := (Leaves.withQueue proc
    (proc.txQueue.disableFasttack session).2).sameAddresses.addressed addressed
  cases aborts with
  | absent => exact addressed
  | endsBackoff => exact (resumeFromBackoffStep_quiet env _).toLeaves.sameAddresses.addressed marked
  | whileIdle =>
    refine (dropUnsentCurrentMessage_sameAddresses _).addressed ?_
    exact (Quiet.withCurrent _ session).toLeaves.sameAddresses.addressed marked
  | byTransport _ _ _ transportAborts => exact marked.transportAborts transportAborts
  | refused =>
    refine (checkQueue_quiet env _).toLeaves.sameAddresses.addressed ?_
    exact (Leaves.withQueue proc _).sameAddresses.addressed addressed

theorem Addressed.abortAll (env : Surroundings) (sessions : List SessionId) :
    (proc.abortAll env sessions).Addressed :=
  run_invariant Addressed
    (fun proc session addressed => addressed.aborts (proc.abortTransmission_aborts env session))
    addressed sessions

end

/-- The dispatches that stay outstanding when a transport is asked to abort a
session. -/
def outstandingAfterAbort (env : Surroundings) (proc : TxProcess)
    (session : SessionId) : List Dispatch :=
  match env.transportAbortSendData session with
  | .acceptedCallingBack _ _ =>
      match proc.oldestDispatch session with
      | some dispatch => proc.inFlight.erase dispatch
      | none => proc.inFlight
  | _ => proc.inFlight

/-- Handing over an element leaves the outstanding dispatches addressed: they
are of the same kind and their metadata is not overwritten, and after a busy
answer, which clears the flag, none of them is a protocol frame. -/
def HandOverKeepsAddresses (env : Surroundings) (proc : TxProcess)
    (element : QueueElement) : Prop :=
  match env.transportSendData with
  | .busy => ∀ dispatch ∈ proc.inFlight, dispatch.isProtocolFrame = false
  | _ =>
      ∀ dispatch ∈ proc.inFlight,
        dispatch.isProtocolFrame = element.options.transport.isProtocolFrame ∧
          (dispatch.isProtocolFrame = true -> dispatch.user = element.user ->
            dispatch.session = element.zwaveTxSessionId)

/-- Looking at an element leaves the outstanding dispatches addressed: it is
handed over, or it is given up, which clears the flag. -/
def LookKeepsAddresses (env : Surroundings) (proc : TxProcess) (element : QueueElement) : Prop :=
  element.transmissionTime = 0 ->
    if element.transmissionTimestamp = 0 then
      proc.isDiscardTimeoutExpired element = false -> HandOverKeepsAddresses env proc element
    else
      txFrameInFlightWatchdogMs < proc.clockTime - element.transmissionTimestamp ->
        ∀ dispatch ∈ outstandingAfterAbort env proc element.zwaveTxSessionId,
          dispatch.isProtocolFrame = false

/-- A step leaves the outstanding dispatches addressed. -/
def StepKeepsAddresses (proc : TxProcess) : Action -> Prop
  | .handleNextEvent env =>
      proc.eventQueue.head? = some .sendNextMessage ->
        ∀ element, proc.nextElement env = some element -> LookKeepsAddresses env proc element
  | .watchdogTick _ =>
      proc.isStuckInFlight = true -> ∀ dispatch ∈ proc.inFlight, dispatch.isProtocolFrame = false
  | _ => True

theorem Addressed.clearFlag (addressed : proc.Addressed)
    (noProtocol : ∀ dispatch ∈ proc.inFlight, dispatch.isProtocolFrame = false) :
    proc.clearProtocolFrame.Addressed := by
  refine ⟨addressed.past, fun dispatch outstanding => ?_⟩
  obtain ⟨_, address⟩ := addressed.outstanding dispatch outstanding
  have plain := noProtocol dispatch outstanding
  rw [plain] at address
  exact ⟨plain, by rw [plain]; exact address⟩

theorem Addressed.markDispatched (addressed : proc.Addressed)
    (compatible : ∀ dispatch ∈ proc.inFlight,
      dispatch.isProtocolFrame = element.options.transport.isProtocolFrame ∧
        (dispatch.isProtocolFrame = true -> dispatch.user = element.user ->
          dispatch.session = element.zwaveTxSessionId)) :
    (proc.markDispatched element).Addressed := by
  refine ⟨addressed.past, fun dispatch outstanding => ?_⟩
  obtain ⟨_, address⟩ := addressed.outstanding dispatch outstanding
  obtain ⟨sameKind, ownPointer⟩ := compatible dispatch outstanding
  refine ⟨sameKind, ?_⟩
  cases isProtocol : dispatch.isProtocolFrame with
  | false => simpa [isProtocol] using address
  | true =>
    have elementProtocol : element.options.transport.isProtocolFrame = true := by
      rw [← sameKind, isProtocol]
    simp only [TxProcess.markDispatched, elementProtocol, if_true]
    by_cases samePointer : dispatch.user = element.user
    · rw [samePointer, Function.update_self, ownPointer isProtocol samePointer]
    · rw [Function.update_of_ne samePointer]
      simpa [isProtocol] using address

theorem markDispatched_addresses (proc : TxProcess) (element : QueueElement) :
    (proc.markDispatched element).Addresses (dispatchOf element) := by
  refine ⟨rfl, ?_⟩
  unfold dispatchOf markDispatched
  cases element.options.transport.isProtocolFrame with
  | false | true => simp

theorem Addressed.handToTransport (addressed : proc.Addressed) {env : Surroundings}
    (keeps : HandOverKeepsAddresses env proc element) (previousSession : SessionId)
    (previousState : TxState) :
    (TxProcess.handToTransport env previousSession previousState
      (proc.markDispatched element) element).Addressed := by
  unfold HandOverKeepsAddresses at keeps
  unfold TxProcess.handToTransport
  split
  next isOk =>
    rw [isOk] at keeps
    have marked := addressed.markDispatched keeps
    refine ⟨marked.past, fun dispatch outstanding => ?_⟩
    rcases List.mem_append.mp outstanding with isOld | isNew
    · exact marked.outstanding dispatch isOld
    · rw [List.mem_singleton.mp isNew]
      exact proc.markDispatched_addresses element
  next isBusy =>
    rw [isBusy] at keeps
    refine ⟨addressed.past, fun dispatch outstanding => ?_⟩
    have plain := keeps dispatch outstanding
    obtain ⟨_, address⟩ := addressed.outstanding dispatch outstanding
    rw [plain] at address
    exact ⟨plain, by rw [plain]; exact address⟩
  next notOk notBusy =>
    split at keeps
    next isBusy => exact absurd isBusy notBusy
    next =>
      exact (dropUnsentCurrentMessage_sameAddresses _).addressed
        (addressed.markDispatched keeps)

theorem TransportAborts.inFlight_eq {env : Surroundings}
    (aborts : TransportAborts env proc session status after) :
    after.inFlight = outstandingAfterAbort env proc session := by
  unfold outstandingAfterAbort
  cases aborts with
  | refuses answer | accepts answer => rw [answer]
  | hasNothing answer nothing =>
    rw [answer]
    rw [nothing]
  | callsBack answer oldest =>
    rw [answer]
    rw [oldest]
    exact (proc.completeDispatch_sameControl _ _ _).2.1

theorem Addressed.looksAt {env : Surroundings} (addressed : proc.Addressed)
    (keeps : LookKeepsAddresses env proc element) (looks : LooksAt env proc element after) :
    after.Addressed := by
  have looking : (proc.withCurrent element.zwaveTxSessionId).Addressed :=
    (Quiet.withCurrent proc _).toLeaves.sameAddresses.addressed addressed
  cases looks with
  | discards => exact (dropUnsentCurrentMessage_sameAddresses _).addressed looking
  | completes => exact (transmissionCompletedStep_leaves _ _ _).sameAddresses.addressed looking
  | waits | staysInFlight => exact looking
  | expires unanswered sent late =>
    have noProtocol := keeps unanswered
    rw [if_neg sent] at noProtocol
    have aborts := (proc.withCurrent element.zwaveTxSessionId).transportAbortSendData_aborts
      env element.zwaveTxSessionId
    refine (dropUnsentCurrentMessage_sameAddresses _).addressed
      (Addressed.clearFlag (looking.transportAborts aborts) ?_)
    rw [aborts.inFlight_eq]
    exact noProtocol late
  | handsOver notExpired unanswered unsent =>
    have handOver := keeps unanswered
    rw [if_pos unsent] at handOver
    exact Addressed.handToTransport
      ((Quiet.withState _ .transmissionOngoing).toLeaves.sameAddresses.addressed looking)
      (handOver notExpired) _ _

theorem Addressed.sends {env : Surroundings} (addressed : proc.Addressed)
    (keeps : ∀ element, proc.nextElement env = some element -> LookKeepsAddresses env proc element)
    (sends : Sends env proc after) : after.Addressed := by
  cases sends with
  | checks => exact (checkQueue_quiet env _).toLeaves.sameAddresses.addressed addressed
  | nothing => exact addressed
  | losesCurrent =>
    exact ((Quiet.withState proc .idle).trans
      (checkQueue_quiet env _)).toLeaves.sameAddresses.addressed addressed
  | looksAt _ next looks => exact addressed.looksAt (keeps _ next) looks

theorem SameAddresses.trans {first second third : TxProcess} (earlier : first.SameAddresses second)
    (later : second.SameAddresses third) : first.SameAddresses third where
  inFlight := later.inFlight.trans earlier.inFlight
  completions := later.completions.trans earlier.completions
  isProtocolFrame := later.isProtocolFrame.trans earlier.isProtocolFrame
  protocolMetadata := later.protocolMetadata.trans earlier.protocolMetadata

theorem tryEnqueue_sameAddresses (proc : TxProcess) (element : QueueElement) :
    proc.SameAddresses (proc.tryEnqueue element).2 := by
  unfold tryEnqueue
  dsimp only
  split <;> exact ⟨rfl, rfl, rfl, rfl⟩

theorem sendData_sameAddresses (proc : TxProcess) (request : SendRequest) :
    proc.SameAddresses (proc.sendData env request).2 := by
  have requests := proc.sendData_requests env request
  generalize (proc.sendData env request).2 = after at requests
  cases requests with
  | rejected => exact ⟨rfl, rfl, rfl, rfl⟩
  | triesOnce => exact proc.tryEnqueue_sameAddresses _
  | evicts =>
    exact (proc.tryEnqueue_sameAddresses _).trans
      ((evictSubtree_leaves _ _ _).sameAddresses.trans (tryEnqueue_sameAddresses _ _))

theorem Addressed.flushCurrent (addressed : proc.Addressed) (env : Surroundings) :
    (proc.flushCurrent env).Addressed := by
  unfold TxProcess.flushCurrent
  dsimp only
  have resumed : (if proc.state = .backoff then proc.resumeFromBackoffStep env
      else proc).Addressed := by
    split
    · exact (resumeFromBackoffStep_quiet env _).toLeaves.sameAddresses.addressed addressed
    · exact addressed
  generalize (if proc.state = .backoff then proc.resumeFromBackoffStep env
    else proc) = current at resumed
  split
  · exact (dropUnsentCurrentMessage_sameAddresses _).addressed
      (resumed.transportAbortSendData env _)
  · exact resumed

theorem Addressed.serviceInFlightWatchdog (addressed : proc.Addressed) (env : Surroundings)
    (noProtocol : proc.isStuckInFlight = true ->
      ∀ dispatch ∈ proc.inFlight, dispatch.isProtocolFrame = false) :
    (proc.serviceInFlightWatchdog env).Addressed := by
  unfold TxProcess.serviceInFlightWatchdog
  split
  next stuck =>
    refine run_invariant Addressed
      (fun proc session addressed =>
        (proc.forceFail_leaves env session).sameAddresses.addressed addressed) ?_ _
    exact run_invariant Addressed
      (fun proc session addressed => addressed.transportAbortSendData env session)
      (addressed.clearFlag (noProtocol stuck)) _
  next => exact addressed

theorem Addressed.handleEvent (addressed : proc.Addressed) (env : Surroundings) (event : Event)
    (keeps : event = .sendNextMessage ->
      ∀ element, proc.nextElement env = some element -> LookKeepsAddresses env proc element) :
    (proc.handleEvent env event).Addressed := by
  cases event with
  | sendNextMessage => exact addressed.sends (keeps rfl) (proc.handleSendNextMessage_sends env)
  | sendOperationComplete session =>
    unfold TxProcess.handleEvent
    dsimp only
    split
    · exact (transmissionCompletedStep_leaves _ _ _).sameAddresses.addressed addressed
    · exact (completeDuringBackoff_leaves _ _ _).sameAddresses.addressed addressed
  | backoffTimerExpired =>
    exact (resumeFromBackoffStep_quiet _ _).toLeaves.sameAddresses.addressed addressed
  | nodeDeleted node => exact addressed.abortAll env _
  | frameReceived node frame =>
    exact (inspectReceivedFrameStep_leaves _ _ _ _).sameAddresses.addressed addressed

/-- Every step that keeps the addresses leaves completions addressed. -/
theorem Addressed.step {action : Action} (addressed : proc.Addressed)
    (keeps : proc.StepKeepsAddresses action) : (proc.step action).Addressed := by
  cases action with
  | sendData env request => exact (proc.sendData_sameAddresses env request).addressed addressed
  | transportCompletion session status report =>
    unfold TxProcess.step transportCallsBack
    dsimp only
    split
    next => exact addressed
    next dispatch oldest =>
      exact addressed.completeDispatch (List.mem_of_find?_eq_some oldest) status report
  | timerExpiration =>
    unfold TxProcess.step timerExpiration
    dsimp only
    split
    · exact ⟨addressed.past, addressed.outstanding⟩
    · exact addressed
  | frameReceived | openTxQueue | clockTick => exact ⟨addressed.past, addressed.outstanding⟩
  | abortTransmission env session =>
    exact addressed.aborts (proc.abortTransmission_aborts env session)
  | nodeDeleted node =>
    unfold TxProcess.step
    dsimp only
    split
    · exact addressed
    · exact ⟨addressed.past, addressed.outstanding⟩
  | flushQueueResetStep env =>
    have flushing : (proc.withFlush true).Addressed := ⟨addressed.past, addressed.outstanding⟩
    unfold TxProcess.step TxProcess.flushQueueResetStep
    dsimp only
    split
    · exact flushing
    · exact (flushing.flushCurrent env).abortAll env _
  | setExpectedFrames env node count =>
    exact (proc.setExpectedFrames_leaves env node
      count).sameAddresses.addressed addressed
  | watchdogTick env => exact addressed.serviceInFlightWatchdog env keeps
  | handleNextEvent env =>
    unfold TxProcess.step TxProcess.handleNextEvent
    dsimp only
    split
    next => exact addressed
    next event rest queued =>
      have taken : proc.takeEvent.Addressed := ⟨addressed.past, addressed.outstanding⟩
      refine taken.handleEvent env event fun isSend => ?_
      exact keeps (by rw [queued, isSend]; rfl)

end TxProcess

end ZwaveTx
