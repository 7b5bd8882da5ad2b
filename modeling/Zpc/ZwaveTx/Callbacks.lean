import Zpc.ZwaveTx.CallbackAccounts

/-!
# Callbacks of users over whole runs

Whether the results of a transmission are written for a session that was called back
already is up to the state in which an entry point is called.  In the runs in which
that never happens, and in which no such session is evicted, every accepted session is
called back once.
-/

namespace ZwaveTx

open Foundation

namespace TxProcess

/-! ## Aborts -/

/-- The abort of a transmission writes no results for a session that only waits. -/
structure AbortsOpenly
    (env : Surroundings)
    (proc : TxProcess)
    (session : SessionId) : Prop where
  whileIdle : proc.txQueue.contains session = true -> proc.state = .idle ->
    proc.DeliversOpenly session
  refused : proc.state ≠ .idle ->
    (proc.BacksOff -> proc.currentTxSessionId ≠ session) ->
    env.transportAbortSendData session = .notFound ->
    proc.OpenToResults session
  byTransport : proc.txQueue.contains session = true -> proc.state ≠ .idle ->
    (proc.BacksOff -> proc.currentTxSessionId ≠ session) ->
    proc.TransportAbortsOpenly env session

variable {env : Surroundings} {proc after : TxProcess} {session root : SessionId}
  {element : QueueElement} {before txQueue : TxQueue} {event : Event}

theorem Aborts.accounted (aborts : Aborts env proc session after) (accounted : proc.Accounted)
    (openly : proc.AbortsOpenly env session) : after.Accounted := by
  have marked := accounted.disableFasttack session
  have contains : ∀ {element}, proc.txQueue.find session = some element ->
      proc.txQueue.contains session = true := by
    intro element found
    rw [TxQueue.contains, found, Option.isSome_some]
  cases aborts with
  | absent => exact accounted
  | endsBackoff => exact marked.resumeFromBackoffStep env
  | whileIdle found idle =>
    have aimed : ((proc.withQueue (proc.txQueue.disableFasttack session).2).withCurrent
        session).Accounted := by
      refine marked.transfer rfl rfl rfl (fun backsOff => ?_) marked.stacked
      rw [show proc.state = .backoff from backsOff.1] at idle
      cases idle
    apply aimed.dropUnsentCurrentMessage
    exact fun other taken =>
      (openly.whileIdle (contains found) idle other taken).disableFasttack session
  | byTransport found notIdle notCurrent aborts =>
    refine aborts.accounted marked ?_
    intro status report dispatch answer oldest other taken
    have isOpen := openly.byTransport (contains found) notIdle
      (fun backsOff => notCurrent backsOff.1 backsOff.2) status report dispatch answer oldest
    exact (isOpen other taken).disableFasttack session
  | refused found notIdle notCurrent answer =>
    have isOpen := openly.refused notIdle (fun backsOff => notCurrent backsOff.1 backsOff.2)
      answer
    apply Accounted.checkQueue
    exact marked.setTransmissionsResults (isOpen.disableFasttack session) proc.clockTime
      transmitCompleteFail none

/-- The abort of every session of a list writes no results for a session that only
waits. -/
def AllAbortOpenly (env : Surroundings) (proc : TxProcess) (sessions : List SessionId) : Prop :=
  StepsMeet (fun proc session => (proc.abortTransmission env session).2)
    (fun proc session => proc.AbortsOpenly env session) proc sessions

theorem Accounted.abortAll (accounted : proc.Accounted) {sessions : List SessionId}
    (openly : proc.AllAbortOpenly env sessions) : (proc.abortAll env sessions).Accounted := by
  refine StepsMeet.invariant Accounted ?_ accounted openly
  intro reached session accounted aborts
  exact (reached.abortTransmission_aborts env session).accounted accounted aborts

/-! ## The flush -/

/-- The state in which the flush drops what is on its way. -/
def flushResumed (env : Surroundings) (proc : TxProcess) : TxProcess :=
  if proc.state = .backoff then proc.resumeFromBackoffStep env else proc

theorem flushCurrent_eq (env : Surroundings) (proc : TxProcess) :
    proc.flushCurrent env =
      if (proc.flushResumed env).state = .transmissionOngoing then
        (transportAbortSendData env (proc.flushResumed env)
          (proc.flushResumed env).currentTxSessionId).2.dropUnsentCurrentMessage
      else proc.flushResumed env := rfl

/-- What is on its way is dropped without results for a session that only waits. -/
structure DropsOpenly (env : Surroundings) (proc : TxProcess) : Prop where
  transport : proc.TransportAbortsOpenly env proc.currentTxSessionId
  current : proc.DeliversOpenly proc.currentTxSessionId

theorem Accounted.dropAborted (accounted : proc.Accounted) (openly : proc.DropsOpenly env) :
    (transportAbortSendData env proc
      proc.currentTxSessionId).2.dropUnsentCurrentMessage.Accounted := by
  have aborts := proc.transportAbortSendData_aborts env proc.currentTxSessionId
  have control := aborts.sameControl
  apply (aborts.accounted accounted openly.transport).dropUnsentCurrentMessage
  rw [control.currentTxSessionId]
  intro session taken
  apply aborts.openToResults
  apply openly.current
  rw [← taken]
  unfold completedSession
  rw [control.isProtocolFrame, control.protocolMetadata]

/-- A flush writes no results for a session that only waits. -/
structure FlushesOpenly (env : Surroundings) (proc : TxProcess) : Prop where
  current : ((proc.withFlush true).flushResumed env).state = .transmissionOngoing ->
    ((proc.withFlush true).flushResumed env).DropsOpenly env
  aborts : ((proc.withFlush true).flushCurrent env).AllAbortOpenly env
    ((proc.withFlush true).flushCurrent env).txQueue.collectAllSessionIds

theorem Accounted.flushQueueResetStep (accounted : proc.Accounted)
    (openly : proc.txQueue.empty = false -> proc.FlushesOpenly env) :
    (proc.flushQueueResetStep env).2.Accounted := by
  have flushing : (proc.withFlush true).Accounted :=
    accounted.transfer rfl rfl rfl accounted.backedOff accounted.stacked
  unfold TxProcess.flushQueueResetStep
  dsimp only
  split
  next => exact flushing
  next nonempty =>
    obtain ⟨current, aborts⟩ := openly (Bool.not_eq_true _ ▸ nonempty)
    refine Accounted.abortAll ?_ aborts
    have resumed : ((proc.withFlush true).flushResumed env).Accounted := by
      unfold flushResumed
      split
      · exact flushing.resumeFromBackoffStep env
      · exact flushing
    rw [flushCurrent_eq]
    split
    next ongoing => exact resumed.dropAborted (current ongoing)
    next => exact resumed

/-! ## The watchdog -/

/-- The family of the transmission the watchdog finds stuck. -/
def stuckFamily (proc : TxProcess) : List SessionId :=
  proc.txQueue.collectDescendants (proc.txQueue.findRoot proc.currentTxSessionId)

/-- The watchdog writes no results for a session that only waits. -/
structure FailsOpenly (env : Surroundings) (proc : TxProcess) : Prop where
  aborts : StepsMeet
    (fun proc session => (transportAbortSendData env proc session).2)
    (fun proc session => proc.TransportAbortsOpenly env session)
    proc.clearProtocolFrame proc.stuckFamily
  fails : StepsMeet (forceFail env) OpenToResults
    (run (fun proc session => (transportAbortSendData env proc session).2)
      proc.clearProtocolFrame proc.stuckFamily) proc.stuckFamily.reverse

theorem Accounted.forceFail (accounted : proc.Accounted) (isOpen : proc.OpenToResults session)
    (env : Surroundings) : (proc.forceFail env session).Accounted := by
  have failed : (proc.failed session).Accounted :=
    (accounted.disableFasttack session).setTransmissionsResults
      (isOpen.disableFasttack session) proc.clockTime transmitCompleteFail none
  exact (transmissionCompletedStep_completes env _ session).accounted failed

theorem Accounted.serviceInFlightWatchdog (accounted : proc.Accounted)
    (openly : proc.isStuckInFlight = true -> proc.FailsOpenly env) :
    (proc.serviceInFlightWatchdog env).Accounted := by
  unfold TxProcess.serviceInFlightWatchdog
  split
  next stuck =>
    obtain ⟨aborts, fails⟩ := openly stuck
    have cleared : proc.clearProtocolFrame.Accounted :=
      accounted.transfer rfl rfl rfl accounted.backedOff accounted.stacked
    refine StepsMeet.invariant Accounted ?_ ?_ fails
    · exact fun reached session accounted isOpen => accounted.forceFail isOpen env
    · refine StepsMeet.invariant Accounted ?_ cleared aborts
      intro reached session accounted isOpen
      exact (reached.transportAbortSendData_aborts env session).accounted accounted
        isOpen
  next => exact accounted

/-! ## Sending the next frame -/

/-- What the process does with the next element writes no results for a session that
only waits.  A frame that the transport does not take is dropped under its session id,
which the flag of a protocol frame makes a pointer to metadata. -/
structure LooksOpenly
    (env : Surroundings)
    (proc : TxProcess)
    (element : QueueElement) : Prop where
  discards : proc.isDiscardTimeoutExpired element = true ->
    proc.DeliversOpenly element.zwaveTxSessionId
  expires : element.transmissionTime = 0 -> element.transmissionTimestamp ≠ 0 ->
    txFrameInFlightWatchdogMs < proc.clockTime - element.transmissionTimestamp ->
    proc.TransportAbortsOpenly env element.zwaveTxSessionId
  handsOver : element.transmissionTime = 0 -> element.transmissionTimestamp = 0 ->
    element.options.transport.isProtocolFrame = true ->
    env.transportSendData ≠ .ok -> env.transportSendData ≠ .busy ->
    ∀ session, proc.protocolMetadata element.zwaveTxSessionId = some session ->
      proc.OpenToResults session

theorem openToResults_of_unanswered (distinct : proc.txQueue.Distinct)
    (mem : element ∈ proc.txQueue.elements) (unanswered : element.transmissionTime = 0) :
    proc.OpenToResults element.zwaveTxSessionId := by
  intro queued found _ waits
  rw [distinct.find_of_mem mem] at found
  cases found
  exact waits.1 unanswered

theorem Accounted.withCurrent (accounted : proc.Accounted) (notBackingOff : proc.state ≠ .backoff)
    (session : SessionId) : (proc.withCurrent session).Accounted :=
  accounted.transfer rfl rfl rfl (fun backsOff => absurd backsOff.1 notBackingOff)
    accounted.stacked

/-- The state in which an element is handed to the transport. -/
def handedOver (proc : TxProcess) (element : QueueElement) : TxProcess :=
  ((proc.withCurrent element.zwaveTxSessionId).withState .transmissionOngoing).markDispatched
    element

theorem Accounted.handedOver (accounted : proc.Accounted) (element : QueueElement) :
    (proc.handedOver element).Accounted := by
  have stamped : (proc.withQueue (proc.txQueue.setTransmissionTimestamp proc.clockTime
      element.zwaveTxSessionId).2).Accounted := by
    apply accounted.modify
    · exact fun _ => { SameFrame.refl _ with }
    · exact fun queued found => (accounted.queued _ queued found).congr rfl rfl rfl
  exact stamped.transfer rfl rfl rfl (fun backsOff => nomatch backsOff.1) stamped.stacked

theorem OpenToResults.handedOver (isOpen : proc.OpenToResults session) (element : QueueElement) :
    (proc.handedOver element).OpenToResults session :=
  isOpen.modify element.zwaveTxSessionId (fun _ => { SameFrame.refl _ with })
    fun _ waits => waits

theorem Accounted.dropHandedOver (accounted : proc.Accounted)
    (isOpen : proc.OpenToResults element.zwaveTxSessionId)
    (others : element.options.transport.isProtocolFrame = true ->
      ∀ session, proc.protocolMetadata element.zwaveTxSessionId = some session ->
        proc.OpenToResults session) :
    (proc.handedOver element).dropUnsentCurrentMessage.Accounted := by
  apply (accounted.handedOver element).dropUnsentCurrentMessage
  intro session taken
  apply OpenToResults.handedOver
  change (if element.options.transport.isProtocolFrame = true then
    (if element.options.transport.isProtocolFrame = true then
      Function.update proc.protocolMetadata element.user (some element.zwaveTxSessionId)
    else proc.protocolMetadata) element.zwaveTxSessionId
    else some element.zwaveTxSessionId) = some session at taken
  split at taken
  next isProtocolFrame =>
    rw [Function.update_apply] at taken
    split at taken
    next =>
      cases taken
      exact isOpen
    next => exact others isProtocolFrame session taken
  next =>
    cases taken
    exact isOpen

theorem Accounted.rolledBack (accounted : proc.Accounted)
    (mem : element ∈ proc.txQueue.elements) (unanswered : element.transmissionTime = 0) :
    ((proc.handedOver element).withQueue
      ((proc.handedOver element).txQueue.resetTransmissionTimestamp
        element.zwaveTxSessionId).2).Accounted := by
  have handed := accounted.handedOver element
  have isOpen := (openToResults_of_unanswered accounted.consistent.distinct mem
    unanswered).handedOver element
  refine @Accounted.modify _ handed element.zwaveTxSessionId TxQueue.unsent ?_ ?_
  · exact fun _ => { SameFrame.refl _ with }
  · intro queued found
    have account := handed.queued _ queued found
    refine ⟨account.promised, ?_, .inl (handed.uncalled found isOpen)⟩
    intro pending
    change (proc.txQueue.setTransmissionTimestamp proc.clockTime
      element.zwaveTxSessionId).2.find element.zwaveTxSessionId = some queued at found
    rw [TxQueue.find_setTransmissionTimestamp, if_pos rfl,
      accounted.consistent.distinct.find_of_mem mem] at found
    cases found
    exact absurd unanswered (account.answered pending)

theorem LooksAt.accounted (looks : LooksAt env proc element after) (accounted : proc.Accounted)
    (notBackingOff : proc.state ≠ .backoff) (mem : element ∈ proc.txQueue.elements)
    (openly : proc.LooksOpenly env element) : after.Accounted := by
  have aimed := accounted.withCurrent notBackingOff element.zwaveTxSessionId
  cases looks with
  | discards expired => exact aimed.dropUnsentCurrentMessage (openly.discards expired)
  | completes => exact (transmissionCompletedStep_completes env _ _).accounted aimed
  | waits | staysInFlight => exact aimed
  | expires unanswered sent late =>
    have aborts := (proc.withCurrent element.zwaveTxSessionId).transportAbortSendData_aborts
      env element.zwaveTxSessionId
    have aborted := aborts.accounted aimed (openly.expires unanswered sent late)
    have isOpen : (proc.withCurrent element.zwaveTxSessionId).OpenToResults
        element.zwaveTxSessionId :=
      openToResults_of_unanswered accounted.consistent.distinct mem unanswered
    have control := aborts.sameControl
    have stillOpen := aborts.openToResults isOpen
    generalize (transportAbortSendData env
      (proc.withCurrent element.zwaveTxSessionId) element.zwaveTxSessionId).2 = reached at *
    have cleared : reached.clearProtocolFrame.Accounted :=
      aborted.transfer rfl rfl rfl aborted.backedOff aborted.stacked
    apply cleared.dropUnsentCurrentMessage
    intro session taken
    cases taken
    change reached.OpenToResults reached.currentTxSessionId
    rw [control.currentTxSessionId]
    exact stillOpen
  | handsOver notExpired unanswered unsent =>
    have isOpen := openToResults_of_unanswered accounted.consistent.distinct mem unanswered
    have handed := accounted.handedOver element
    unfold handToTransport
    split
    next => exact handed.transfer rfl rfl rfl (fun backsOff => nomatch backsOff.1) handed.stacked
    next =>
      have rolledBack := accounted.rolledBack mem unanswered
      exact rolledBack.transfer rfl rfl rfl (fun backsOff => absurd backsOff.1 notBackingOff)
        rolledBack.stacked
    next answer notOk notBusy =>
      apply accounted.dropHandedOver isOpen
      intro isProtocolFrame
      exact openly.handsOver unanswered unsent isProtocolFrame notOk notBusy

theorem Sends.accounted (sends : Sends env proc after) (accounted : proc.Accounted)
    (openly : ∀ element, proc.nextElement env = some element -> proc.LooksOpenly env element) :
    after.Accounted := by
  cases sends with
  | checks => exact accounted.checkQueue env
  | nothing => exact accounted
  | losesCurrent =>
    apply Accounted.checkQueue
    exact accounted.transfer rfl rfl rfl (fun backsOff => nomatch backsOff.1) accounted.stacked
  | looksAt notBackingOff next looks =>
    exact looks.accounted accounted notBackingOff (nextElement_mem next) (openly _ next)

/-! ## Received frames -/

theorem Accounted.handleReply (accounted : proc.Accounted) (env : Surroundings) (node : NodeId)
    (frame : List UInt8) : (proc.handleReply env node frame).Accounted := by
  unfold TxProcess.handleReply
  split
  · exact accounted
  · split
    · dsimp only
      split
      · exact (accounted.resumeFromBackoffStep env).decrementAlongParents _ _
      · exact accounted.decrementAlongParents _ _
    · exact accounted

theorem Accounted.withExpectedFrames (accounted : proc.Accounted) (frames : IncomingFrames) :
    (proc.withExpectedFrames frames).Accounted :=
  accounted.transfer rfl rfl rfl accounted.backedOff accounted.stacked

theorem Accounted.inspectReceivedFrameStep (accounted : proc.Accounted)
    (env : Surroundings) (node : NodeId) (frame : List UInt8) :
    (proc.inspectReceivedFrameStep env node frame).Accounted := by
  unfold TxProcess.inspectReceivedFrameStep
  split
  · split
    · dsimp only
      split
      · exact (accounted.withExpectedFrames _).resumeFromBackoffStep env
      · exact accounted.withExpectedFrames _
    · exact accounted
  · split
    · split
      · exact accounted.transfer rfl rfl rfl (fun backsOff => nomatch backsOff.2)
          accounted.stacked
      · exact accounted
    · exact accounted.handleReply env node frame

theorem Accounted.setExpectedFrames (accounted : proc.Accounted) (env : Surroundings)
    (node : NodeId) (count : Nat) : (proc.setExpectedFrames env node count).Accounted := by
  unfold TxProcess.setExpectedFrames
  dsimp only
  split
  · exact (accounted.withExpectedFrames _).resumeFromBackoffStep env
  · exact accounted.withExpectedFrames _

/-! ## Evictions -/

/-- A session is a root or queued below it. -/
inductive IsWithin (txQueue : TxQueue) (root : SessionId) : SessionId -> Prop
  | root : IsWithin txQueue root root
  | child
      {parent : SessionId}
      {element : QueueElement}
      (above : IsWithin txQueue root parent)
      (mem : element ∈ txQueue.elements)
      (isChild : parentSessionIdEquals element parent = true) :
      IsWithin txQueue root element.zwaveTxSessionId

theorem IsWithin.congr {after : TxQueue} (elements : after.elements = before.elements)
    (within : IsWithin after root session) : IsWithin before root session := by
  induction within with
  | root => exact .root
  | child _ mem isChild ih => exact .child ih (elements ▸ mem) isChild

theorem IsWithin.of_shrinks {after : TxQueue} (shrinks : before.Shrinks after)
    (consistent : before.Consistent) (within : IsWithin after root session) :
    IsWithin before root session := by
  induction within with
  | root => exact .root
  | @child _ element _ mem isChild ih =>
    have found := (shrinks.consistent consistent).distinct.find_of_mem mem
    exact .child ih
      (TxQueue.find_mem (shrinks.find_some consistent found)) isChild

theorem IsWithin.of_child (mem : element ∈ txQueue.elements)
    (isChild : parentSessionIdEquals element root = true)
    (within : IsWithin txQueue element.zwaveTxSessionId session) :
    IsWithin txQueue root session := by
  induction within with
  | root => exact .child .root mem isChild
  | child _ mem isChild ih => exact .child ih mem isChild

theorem OpenToResults.of_shrinks {before : TxProcess} (isOpen : before.OpenToResults session)
    (shrinks : before.txQueue.Shrinks after.txQueue) (consistent : before.txQueue.Consistent) :
    after.OpenToResults session :=
  fun element found => isOpen element (shrinks.find_some consistent found)

theorem Accounted.evictSubtree (fuel : Nat) (accounted : proc.Accounted)
    (found : proc.txQueue.find element.zwaveTxSessionId = some element)
    (isOpen : ∀ session, IsWithin proc.txQueue element.zwaveTxSessionId session ->
      proc.OpenToResults session) :
    (evictSubtree fuel proc element).Accounted ∧
      ∀ other, other < element.zwaveTxSessionId ->
        (evictSubtree fuel proc element).txQueue.find other = proc.txQueue.find other := by
  induction fuel generalizing proc element with
  | zero => exact ⟨accounted, fun _ _ => rfl⟩
  | succ fuel ih =>
    unfold evictSubtree
    split
    next child isNext =>
      obtain ⟨mem, isChild⟩ := TxQueue.getHighestPriorityChild_mem isNext
      have foundChild := accounted.consistent.distinct.find_of_mem mem
      -- a child was queued after its parent, so the parent stays when it is evicted
      have later : element.zwaveTxSessionId < child.zwaveTxSessionId := by
        obtain ⟨isValid, isParent⟩ := Bool.and_eq_true_iff.mp isChild
        rw [← beq_iff_eq.mp isParent]
        exact accounted.parents _ child foundChild isValid
      obtain ⟨evicted, kept⟩ := ih accounted foundChild
        fun session within => isOpen session (within.of_child mem isChild)
      have shrinks := evictSubtree_shrinks fuel proc child
      obtain ⟨again, keptAgain⟩ := ih evicted
        ((kept _ later).trans found)
        fun session within =>
          (isOpen session (within.of_shrinks shrinks accounted.consistent)).of_shrinks
            shrinks accounted.consistent
      refine ⟨again, fun other earlier => ?_⟩
      rw [keptAgain other earlier, kept other (Nat.lt_trans earlier later)]
    next =>
      have lookups := accounted.consistent.distinct.find_pop element.zwaveTxSessionId
      have uncalled := accounted.uncalled found (isOpen _ .root)
      have shrinks := TxQueue.Shrinks.pop proc.txQueue element.zwaveTxSessionId
      constructor
      · refine And.left (accounted.callsBack found uncalled shrinks.evolves rfl ?_ ?_ ?_ rfl rfl
          rfl rfl)
        · exact callsOf_callBack (proc.withQueue _) element _ _
        · exact fun other differs => (lookups other).trans (if_neg differs)
        · intro queued foundNow
          change (proc.txQueue.pop element.zwaveTxSessionId).2.find _ = _ at foundNow
          rw [lookups, if_pos rfl] at foundNow
          cases foundNow
      · exact fun other earlier => (lookups other).trans (if_neg (Nat.ne_of_lt earlier))

/-! ## Requests -/

theorem Accounted.counterRaised (accounted : proc.Accounted)
    (elements : txQueue.elements = proc.txQueue.elements) (consistent : txQueue.Consistent)
    (grows : proc.txQueue.zwaveTxSessionIdCounter ≤ txQueue.zwaveTxSessionIdCounter) :
    (proc.withQueue txQueue).Accounted := by
  have lookups : (proc.withQueue txQueue).txQueue.find = proc.txQueue.find := by
    funext session
    change lookup _ session txQueue.elements = _
    rw [elements]
    rfl
  have settled : ∀ session, proc.Settled session -> (proc.withQueue txQueue).Settled session :=
    fun session isSettled => ⟨Nat.lt_of_lt_of_le isSettled.issued grows, isSettled.called⟩
  refine ⟨consistent, ?_, accounted.promised, ?_, ?_, ?_, ?_, ?_⟩
  · exact fun entry mem => Nat.lt_of_lt_of_le (accounted.issued entry mem) grows
  · intro session element found
    rw [lookups] at found
    obtain ⟨promised, answered, called⟩ := accounted.queued session element found
    exact ⟨promised, answered, called⟩
  · rw [lookups]
    exact accounted.parents
  · rw [lookups]
    exact accounted.left
  · exact fun backsOff => settled _ (accounted.backedOff backsOff)
  · exact fun session mem => settled session (accounted.stacked session mem)

theorem Accounted.counter_unused (accounted : proc.Accounted) :
    proc.promisesOf proc.txQueue.zwaveTxSessionIdCounter = 0 ∧
      proc.callsOf proc.txQueue.zwaveTxSessionIdCounter = 0 := by
  have unused : proc.promisesOf proc.txQueue.zwaveTxSessionIdCounter = 0 := by
    rw [promisesOf, List.countP_eq_zero]
    intro entry mem isCounter
    have issued := accounted.issued entry mem
    obtain ⟨isCounter, -⟩ := Bool.and_eq_true_iff.mp isCounter
    exact Nat.ne_of_lt issued (beq_iff_eq.mp isCounter)
  refine ⟨unused, ?_⟩
  rw [accounted.left _ accounted.consistent.find_counter]
  exact unused

theorem promisesOf_queuedNew (proc : TxProcess) (element : QueueElement) (session : SessionId) :
    (proc.queuedNew element).promisesOf session =
      proc.promisesOf session +
        if proc.txQueue.zwaveTxSessionIdCounter = session ∧
          element.callbackFunction.isSome = true then 1 else 0 := by
  simp [promisesOf, queuedNew, List.countP_cons]

/-- An accepted element gets a fresh session and a promise when it has a callback. -/
theorem Accounted.queuedNew (accounted : proc.Accounted)
    (isAccepted : (proc.txQueue.enqueue proc.clockTime element).1 = .ok)
    (consistent : (proc.queuedNew element).txQueue.Consistent)
    (counterFits : proc.txQueue.zwaveTxSessionIdCounter + 1 < 2 ^ 32)
    (parent : element.options.transport.validParentSessionId = true ->
      element.options.transport.parentSessionId < proc.txQueue.zwaveTxSessionIdCounter) :
    (proc.queuedNew element).Accounted := by
  have lookups : ∀ session, (proc.queuedNew element).txQueue.find session = _ :=
    accounted.consistent.find_enqueue isAccepted
  have promises := proc.promisesOf_queuedNew element
  obtain ⟨unpromised, uncalled⟩ := accounted.counter_unused
  obtain ⟨-, -, -, raised, -⟩ := TxQueue.enqueue_ok isAccepted
  rw [Nat.mod_eq_of_lt counterFits] at raised
  have grows : ∀ session, session < proc.txQueue.zwaveTxSessionIdCounter ->
      session < (proc.queuedNew element).txQueue.zwaveTxSessionIdCounter := by
    intro session issued
    exact Nat.lt_of_lt_of_eq (Nat.lt_succ_of_lt issued) raised.symm
  have old : ∀ session, session ≠ proc.txQueue.zwaveTxSessionIdCounter ->
      (proc.queuedNew element).promisesOf session = proc.promisesOf session := by
    intro session differs
    rw [promises, if_neg fun isNew => differs isNew.1.symm]
    rfl
  have settled : ∀ session, proc.Settled session -> (proc.queuedNew element).Settled session := by
    intro session isSettled
    refine ⟨grows session isSettled.issued, ?_⟩
    rw [old session (Nat.ne_of_lt isSettled.issued)]
    exact isSettled.called
  refine ⟨consistent, ?_, ?_, ?_, ?_, ?_, ?_, ?_⟩
  · intro entry mem
    rcases List.mem_cons.mp mem with rfl | earlier
    · exact Nat.lt_of_lt_of_eq (Nat.lt_succ_self _) raised.symm
    · exact grows _ (accounted.issued entry earlier)
  · intro session
    by_cases isNew : session = proc.txQueue.zwaveTxSessionIdCounter
    · rw [promises, isNew]
      split <;> omega
    · rw [old session isNew]
      exact accounted.promised session
  · intro session queued found
    rw [lookups] at found
    split_ifs at found with isNew
    · cases found
      refine ⟨?_, nofun, .inl (isNew ▸ uncalled)⟩
      rw [promises, isNew, unpromised, Nat.zero_add]
      exact if_congr (and_iff_right rfl) rfl rfl
    · obtain ⟨promised, answered, called⟩ := accounted.queued session queued found
      refine ⟨?_, answered, ?_⟩
      · rw [old session isNew]
        exact promised
      · rw [old session isNew]
        exact called
  · intro session queued found isValid
    rw [lookups] at found
    split_ifs at found with isNew
    · cases found
      have given : element.options.transport.validParentSessionId = true := isValid
      dsimp only [TxQueue.stored]
      rw [if_pos given, isNew]
      exact parent given
    · exact accounted.parents session queued found isValid
  · intro session absent
    rw [lookups] at absent
    split_ifs at absent with isNew
    rw [old session isNew]
    exact accounted.left session absent
  · exact fun backsOff => settled _ (accounted.backedOff backsOff)
  · exact fun session mem => settled session (accounted.stacked session mem)

theorem Accounted.tryEnqueue (accounted : proc.Accounted)
    (counterFits : proc.txQueue.zwaveTxSessionIdCounter + 1 < 2 ^ 32)
    (parent : element.options.transport.validParentSessionId = true ->
      element.options.transport.parentSessionId < proc.txQueue.zwaveTxSessionIdCounter) :
    (proc.tryEnqueue element).2.Accounted := by
  obtain ⟨consistent, grows, -⟩ := tryEnqueue_consistent accounted.consistent counterFits element
  rcases proc.tryEnqueue_cases element with ⟨isAccepted, isOk⟩ | ⟨rejected, isFail⟩
  · rw [isOk] at consistent ⊢
    exact accounted.queuedNew isAccepted consistent counterFits parent
  · rw [isFail] at consistent grows ⊢
    exact accounted.counterRaised (TxQueue.enqueue_rejected rejected).1 consistent grows

theorem adjustedOptions_parent (consistent : proc.txQueue.Consistent) {options : TxOptions}
    (isValid : (proc.adjustedOptions options).transport.validParentSessionId = true) :
    (proc.adjustedOptions options).transport.parentSessionId <
      proc.txQueue.zwaveTxSessionIdCounter := by
  unfold adjustedOptions TxQueue.getById at *
  split at isValid
  next given =>
    rw [if_pos given]
    cases found : proc.txQueue.find options.transport.parentSessionId with
    | none =>
      rw [found] at isValid
      cases isValid
    | some parent =>
      have issued := consistent.issued_of_find found
      dsimp only
      split <;> exact issued
  next notGiven => exact absurd isValid notGiven

/-- No session that only waits is evicted for a request. -/
def EvictsOpenly (env : Surroundings) (proc : TxProcess) (request : SendRequest) : Prop :=
  proc.isRejected env request = false ->
    zwaveTxQueueBufferSize ≤ proc.txQueue.size ->
      ∀ evicted, proc.txQueue.findWorstUnsentByQos = some evicted ->
        ∀ session, IsWithin proc.txQueue evicted.zwaveTxSessionId session ->
          proc.OpenToResults session

theorem Accounted.evictAndEnqueue (accounted : proc.Accounted)
    (counterFits : proc.txQueue.zwaveTxSessionIdCounter + 1 < 2 ^ 32) {evicted : QueueElement}
    (found : proc.txQueue.find evicted.zwaveTxSessionId = some evicted)
    (isOpen : ∀ session, IsWithin proc.txQueue evicted.zwaveTxSessionId session ->
      proc.OpenToResults session)
    (parent : element.options.transport.validParentSessionId = true ->
      element.options.transport.parentSessionId < proc.txQueue.zwaveTxSessionIdCounter)
    (fuel : Nat) :
    ((TxProcess.evictSubtree fuel proc evicted).tryEnqueue element).2.Accounted := by
  have shrinks := evictSubtree_shrinks fuel proc evicted
  have afterwards := (accounted.evictSubtree fuel found isOpen).1
  apply afterwards.tryEnqueue
  · rw [shrinks.counter]
    exact counterFits
  · rw [shrinks.counter]
    exact parent

theorem Accounted.sendData (accounted : proc.Accounted)
    (counterFits : proc.txQueue.zwaveTxSessionIdCounter + 2 < 2 ^ 32) {request : SendRequest}
    (openly : proc.EvictsOpenly env request) : (proc.sendData env request).2.Accounted := by
  have parent : (proc.newElement env
      request).options.transport.validParentSessionId = true ->
      (proc.newElement env request).options.transport.parentSessionId <
        proc.txQueue.zwaveTxSessionIdCounter :=
    adjustedOptions_parent accounted.consistent
  have tried := accounted.tryEnqueue (by omega) parent
  have consistent := tryEnqueue_consistent accounted.consistent (by omega)
    (proc.newElement env request)
  rcases proc.sendData_cases env request with
    ⟨-, fails⟩ | ⟨-, isAccepted, isOk⟩ | ⟨notRejected, refused,
      ⟨-, fails⟩ | ⟨evicted, full, isWorst, evicts⟩⟩
  · rw [fails]
    exact accounted
  · rw [isOk, ← tryEnqueue_accepted proc _ isAccepted]
    exact tried
  · rw [tryEnqueue_refused env proc refused] at tried
    rw [fails]
    exact tried
  · rw [tryEnqueue_refused env proc refused] at tried consistent
    have elements := refusedRequest_elements env proc refused
    have mem := (TxQueue.findWorstUnsentByQos_mem isWorst).1
    have found := accounted.consistent.distinct.find_of_mem mem
    have isOpen := openly notRejected full evicted isWorst
    have sameFind : (proc.refusedRequest env request).txQueue.find = proc.txQueue.find := by
      funext session
      rw [TxQueue.find, TxQueue.find, elements]
    rw [evicts]
    apply tried.evictAndEnqueue
    · exact Nat.lt_of_le_of_lt (Nat.succ_le_succ consistent.2.2) counterFits
    · exact (congrFun sameFind _).trans found
    · intro session within queued foundNow
      rw [sameFind] at foundNow
      exact isOpen session (within.congr elements) queued foundNow
    · exact fun isValid => Nat.lt_of_lt_of_le (parent isValid) consistent.2.1

/-! ## Runs -/

/-- The event in front is handled without results for a session that only waits. -/
def HandlesOpenly (env : Surroundings) (proc : TxProcess) : Event -> Prop
  | .sendNextMessage => ∀ element, proc.nextElement env = some element ->
      proc.LooksOpenly env element
  | .nodeDeleted node => proc.AllAbortOpenly env (proc.txQueue.collectSessionIdsForNode node)
  | _ => True

/-- An action writes no results for a session that only waits and evicts no such
session, and the session ids do not wrap around. -/
def ActsOpenly (proc : TxProcess) : Action -> Prop
  | .sendData env request =>
      proc.txQueue.zwaveTxSessionIdCounter + 2 < 2 ^ 32 ∧ proc.EvictsOpenly env request
  | .transportCompletion session _ _ =>
      ∀ dispatch, proc.oldestDispatch session = some dispatch -> proc.DeliversOpenly dispatch.user
  | .abortTransmission env session => proc.AbortsOpenly env session
  | .flushQueueResetStep env => proc.txQueue.empty = false -> proc.FlushesOpenly env
  | .watchdogTick env => proc.isStuckInFlight = true -> proc.FailsOpenly env
  | .handleNextEvent env =>
      ∀ event, proc.eventQueue.head? = some event -> proc.takeEvent.HandlesOpenly env event
  | _ => True

theorem Accounted.handleEvent (accounted : proc.Accounted) (openly : proc.HandlesOpenly env event) :
    (proc.handleEvent env event).Accounted := by
  cases event with
  | sendNextMessage => exact (proc.handleSendNextMessage_sends env).accounted accounted openly
  | sendOperationComplete session =>
    unfold handleEvent
    dsimp only
    split
    next =>
      exact (proc.transmissionCompletedStep_completes env session).accounted
        accounted
    next backingOff => exact accounted.completeDuringBackoff (not_not.mp backingOff) env session
  | backoffTimerExpired => exact accounted.resumeFromBackoffStep env
  | nodeDeleted node => exact accounted.abortAll openly
  | frameReceived node frame => exact accounted.inspectReceivedFrameStep env node frame

/-- Every step that acts openly keeps callbacks and queue in agreement. -/
theorem Accounted.step (accounted : proc.Accounted) {action : Action}
    (openly : proc.ActsOpenly action) : (proc.step action).Accounted := by
  have elsewhere : ∀ {after : TxProcess}, proc.SameControl after ->
      after.txQueue = proc.txQueue -> after.Accounted :=
    fun control same => accounted.of_sameControl control same
  cases action with
  | sendData env request => exact accounted.sendData openly.1 openly.2
  | transportCompletion session status report =>
    unfold TxProcess.step transportCallsBack
    dsimp only
    split
    next => exact accounted
    next dispatch oldest => exact accounted.completeDispatch (openly dispatch oldest) status report
  | timerExpiration =>
    unfold TxProcess.step timerExpiration
    dsimp only
    split
    · exact accounted.transfer rfl rfl rfl accounted.backedOff accounted.stacked
    · exact accounted
  | frameReceived => exact elsewhere (.postEvent proc _) rfl
  | abortTransmission env session =>
    exact (proc.abortTransmission_aborts env session).accounted accounted openly
  | nodeDeleted node =>
    unfold TxProcess.step
    dsimp only
    split
    · exact accounted
    · exact elsewhere (.postEvent proc _) rfl
  | flushQueueResetStep env => exact accounted.flushQueueResetStep openly
  | openTxQueue | clockTick =>
    exact accounted.transfer rfl rfl rfl accounted.backedOff accounted.stacked
  | setExpectedFrames env node count => exact accounted.setExpectedFrames env node count
  | watchdogTick env => exact accounted.serviceInFlightWatchdog openly
  | handleNextEvent env =>
    have taken : proc.takeEvent.Accounted :=
      accounted.transfer rfl rfl rfl accounted.backedOff accounted.stacked
    unfold TxProcess.step handleNextEvent
    dsimp only
    split
    next => exact accounted
    next event rest queued => exact taken.handleEvent (openly event (by rw [queued]; rfl))

theorem initial_accounted : initial.Accounted := by
  refine ⟨TxQueue.Consistent.initial, ?_, ?_, ?_, ?_, ?_, ?_, ?_⟩
  · exact fun entry mem => absurd mem List.not_mem_nil
  · exact fun session => Nat.zero_le 1
  · intro session element found
    cases found
  · intro session element found
    cases found
  · exact fun session absent => rfl
  · exact fun backsOff => nomatch backsOff.1
  · exact fun session mem => absurd mem List.not_mem_nil

/-- In every state of a run in which no results are written for a session that only
waits for replies and no such session is evicted, no session was called back twice, and
the sessions that left the queue were called back. -/
theorem called_back_once (actions : List Action)
    (openly : StepsMeet step ActsOpenly initial actions) {done : List Action}
    (before : done <+: actions) : (run step initial done).CalledBackOnce :=
  ((openly.of_isPrefix before).invariant Accounted
    (fun _ _ accounted openly => accounted.step openly) initial_accounted).calledBackOnce

theorem openToResults_of_all
    (nothingWaits : proc.txQueue.elements.all fun element =>
      element.transmissionTime == 0 || element.transportCompletionStepPending)
    (session : SessionId) :
    proc.OpenToResults session := by
  intro element found _ waits
  have check := List.all_eq_true.mp nothingWaits element (TxQueue.find_mem found)
  rw [waits.2, Bool.or_false, beq_iff_eq] at check
  exact waits.1 check

theorem actsOpenly_handleNextEvent (head : proc.eventQueue.head? = some event)
    (openly : proc.takeEvent.HandlesOpenly env event) : proc.ActsOpenly (.handleNextEvent env) := by
  intro other isHead
  rw [head] at isHead
  cases isHead
  exact openly

/-- A frame is sent, completed, and waits for its reply until that comes in. -/
def sampleAnsweredRun : List Action :=
  [.sendData {} (sampleRequest 5 1 10), .handleNextEvent {}, .transportCompletion 0 0 none,
    .handleNextEvent {}, .frameReceived 5 [0x20, 0x03], .handleNextEvent {}]

theorem called_back_once_sample :
    StepsMeet step ActsOpenly initial sampleAnsweredRun ∧
      (run step initial sampleAnsweredRun).CalledBackOnce := by
  have openly : StepsMeet step ActsOpenly initial sampleAnsweredRun := by
    refine ⟨⟨show 0 + 2 < 2 ^ 32 by decide, ?_⟩, ?_, ?_, ?_, trivial, ?_, trivial⟩
    · exact fun _ full => absurd full (by decide)
    · apply actsOpenly_handleNextEvent (show _ = some Event.sendNextMessage by decide)
      intro element _
      have isOpen := @openToResults_of_all
        (initial.step (.sendData {} (sampleRequest 5 1 10))).takeEvent (by decide)
      exact ⟨fun _ session _ => isOpen session, fun _ _ _ _ _ _ _ _ session _ => isOpen session,
        fun _ _ _ _ _ session _ => isOpen session⟩
    · exact fun _ _ session _ => openToResults_of_all (by decide) session
    · exact actsOpenly_handleNextEvent (show _ = some (Event.sendOperationComplete 0) by decide)
        trivial
    · exact actsOpenly_handleNextEvent (show _ = some (Event.frameReceived 5 [0x20, 0x03])
        by decide) trivial
  exact ⟨openly, called_back_once sampleAnsweredRun openly (List.prefix_refl _)⟩

/-- A frame waits for its reply while a second one is sent, and the queue is
flushed. -/
def rearmedRun : List Action :=
  [.sendData {} (sampleRequest 5 1 10), .handleNextEvent {}, .transportCompletion 0 0 none,
    .handleNextEvent {}, .sendData {} (sampleBypassRequest 6 0 20), .handleNextEvent {},
    .flushQueueResetStep {}, .handleNextEvent {}, .handleNextEvent {}]

/-- The flush completes the first session once more. -/
theorem called_back_twice : ¬ (run step initial rearmedRun).CalledBackOnce := by
  intro once
  have atMostOnce := once.atMostOnce 0
  revert atMostOnce
  decide +kernel

end TxProcess

end ZwaveTx
