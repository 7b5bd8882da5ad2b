import Zpc.ZwaveTx.QueueFamilies

/-!
# Stuck families

When the watchdog finds a transmission stuck it fails the whole tree of the current session,
children before parents, by the ordinary completion step.  That step also looks at the stack of
pre-empted back-offs: a pre-empted session that waits for nothing any more is removed with it,
without a call of its callback, whether it belongs to the tree or not.
-/

namespace ZwaveTx

open Foundation
namespace TxQueue

theorem Distinct.consumeTransportCompletionStepPending {txQueue : TxQueue}
    (distinct : txQueue.Distinct) (session : SessionId) :
    (txQueue.consumeTransportCompletionStepPending session).2.Distinct := by
  unfold TxQueue.consumeTransportCompletionStepPending
  split
  · exact @Distinct.modify withoutPending (fun _ => rfl) txQueue distinct session
  · exact distinct

end TxQueue

namespace TxProcess

/-- A session on the stack of pre-empted back-offs that is queued and waits for nothing. -/
structure IsIdlePreempted (proc : TxProcess) (session : SessionId) : Prop where
  notFlushing : proc.queueFlushOngoing = false
  stacked : session ∈ proc.preemptedBackoffStack
  idle : ∃ element, proc.txQueue.find session = some element ∧ ¬isRestorable element

/-- What restoring a pre-empted back-off does to the queue and to the stack. -/
structure Restores (before after : TxProcess) : Prop where
  distinct : after.txQueue.Distinct
  find : ∀ session, after.txQueue.find session = before.txQueue.find session ∨
    after.txQueue.find session = none ∧ before.IsIdlePreempted session
  stack : after.preemptedBackoffStack ⊆ before.preemptedBackoffStack
  backingOff : after.state = .backoff -> after.currentTxSessionId ∈ before.preemptedBackoffStack

variable {proc reached : TxProcess} {session : SessionId} {element : QueueElement}
  {sessions : List SessionId} {spared : SessionId -> Prop} {calls : List CallbackCall}

theorem restorePreemptedBackoffIfNeeded_restores (distinct : proc.txQueue.Distinct)
    (notBackingOff : proc.state ≠ .backoff) (env : Surroundings) :
    proc.Restores (proc.restorePreemptedBackoffIfNeeded env) := by
  unfold restorePreemptedBackoffIfNeeded
  split
  next isFlushing =>
    exact ⟨distinct, fun _ => .inl rfl, List.nil_subset _,
      fun backingOff => absurd backingOff notBackingOff⟩
  next notFlushing =>
    have dropped (reached : TxProcess) :
        reached.dropStack.preemptedBackoffStack ⊆ reached.preemptedBackoffStack :=
      (List.tail_sublist _).subset
    refine restoreLoop_rule env
      (fun reached => proc.Restores reached ∧ reached.state ≠ .backoff)
      (fun reached => proc.Restores reached) ?_ ?_ ?_ ?_ _ proc ?_ (Nat.le_refl _)
    · rintro reached session outer ⟨restores, notReached⟩ stacked absent
      exact ⟨⟨restores.distinct, restores.find,
        List.Subset.trans (dropped reached) restores.stack,
        fun backingOff => absurd backingOff notReached⟩, notReached⟩
    · rintro reached session outer element ⟨restores, notReached⟩ stacked found notRestorable
      obtain ⟨state, current, parks, isRemoved⟩ := reached.dropStack.removeElement_parks element
      rw [isRemoved, TxQueue.find_session found]
      have onStack : session ∈ proc.preemptedBackoffStack :=
        restores.stack (by rw [stacked]; exact List.mem_cons_self)
      refine ⟨⟨restores.distinct.pop session, fun other => ?_, ?_,
        fun backingOff => absurd backingOff parks.state_ne⟩, parks.state_ne⟩
      · have afterPop := restores.distinct.find_pop session other
        by_cases isOther : other = session
        · rw [if_pos isOther] at afterPop
          subst isOther
          refine .inr ⟨afterPop, by simpa using notFlushing, onStack, element, ?_, notRestorable⟩
          rcases restores.find other with same | ⟨gone, -⟩
          · exact same.symm.trans found
          · rw [gone] at found
            cases found
        · rw [if_neg isOther] at afterPop
          exact (restores.find other).imp afterPop.trans (And.imp_left afterPop.trans)
      · exact List.Subset.trans (List.filter_sublist).subset
          (List.Subset.trans (dropped reached) restores.stack)
    · rintro reached session outer element ⟨restores, notReached⟩ stacked found restorable
      refine ⟨restores.distinct, restores.find,
        List.Subset.trans (dropped reached) restores.stack, fun _ => restores.stack ?_⟩
      rw [stacked]
      exact List.mem_cons_self
    · rintro reached ⟨restores, notReached⟩ exhausted
      exact restores
    · exact ⟨⟨distinct, fun _ => .inl rfl, List.Subset.refl _,
        fun backingOff => absurd backingOff notBackingOff⟩, notBackingOff⟩

variable {env : Surroundings}

theorem mem_stack_checkQueue (stacked : session ∈ (proc.checkQueue env).preemptedBackoffStack) :
    session ∈ proc.preemptedBackoffStack ∨
      proc.state = .backoff ∧ session = proc.currentTxSessionId := by
  have broken (flag : Bool) (reached : TxProcess)
      (breaks : Breaks env proc flag reached)
      (stacked : session ∈ reached.preemptedBackoffStack) :
      session ∈ proc.preemptedBackoffStack ∨
        proc.state = .backoff ∧ session = proc.currentTxSessionId := by
    cases breaks with
    | nothing | expectedFrames => exact .inl stacked
    | preempts backingOff =>
      rcases List.mem_cons.mp stacked with isCurrent | isOuter
      · exact .inr ⟨backingOff, isCurrent⟩
      · exact .inl isOuter
  have checks := checkQueue_checks env proc
  generalize proc.checkQueue env = checked at checks stacked
  cases checks with
  | keepsBackingOff => exact .inl stacked
  | startsBackoff breaks | asksForNext breaks | rests breaks => exact broken _ _ breaks stacked

/-- What of a queued element the results of a transmission leave alone; an element that waits
for replies goes on waiting. -/
structure SameRequest (before after : QueueElement) : Prop where
  session : after.zwaveTxSessionId = before.zwaveTxSessionId
  callbackFunction : after.callbackFunction = before.callbackFunction
  user : after.user = before.user
  restorable : isRestorable before -> isRestorable after

theorem SameRequest.refl (element : QueueElement) : SameRequest element element :=
  ⟨rfl, rfl, rfl, id⟩

theorem SameRequest.trans {first second third : QueueElement} (earlier : SameRequest first second)
    (later : SameRequest second third) : SameRequest first third :=
  ⟨later.session.trans earlier.session, later.callbackFunction.trans earlier.callbackFunction,
    later.user.trans earlier.user, fun restorable =>
      later.restorable (earlier.restorable restorable)⟩

theorem sameRequest_withResults (now : ClockTime) (status : Nat) (report : Option TxReport)
    (element : QueueElement) :
    SameRequest element (TxQueue.withResults now status report element) := by
  refine ⟨rfl, rfl, rfl, fun restorable => ⟨restorable.1, ?_⟩⟩
  unfold TxQueue.withResults
  dsimp only
  split
  · decide
  · assumption

/-- The same sessions are queued, with the same requests. -/
structure SameSessions (before after : TxQueue) : Prop where
  distinct : before.Distinct -> after.Distinct
  found : ∀ session element, after.find session = some element ->
    ∃ earlier, before.find session = some earlier ∧ SameRequest earlier element
  absent : ∀ session, after.find session = none -> before.find session = none

theorem SameSessions.refl (txQueue : TxQueue) : SameSessions txQueue txQueue :=
  ⟨id, fun _ element found => ⟨element, found, .refl element⟩, fun _ => id⟩

theorem SameSessions.trans {first second third : TxQueue} (earlier : SameSessions first second)
    (later : SameSessions second third) : SameSessions first third where
  distinct := later.distinct ∘ earlier.distinct
  found session element isLast := by
    obtain ⟨middle, isMiddle, sameLast⟩ := later.found session element isLast
    obtain ⟨original, isFirst, sameFirst⟩ := earlier.found session middle isMiddle
    exact ⟨original, isFirst, sameFirst.trans sameLast⟩
  absent session isAbsent := earlier.absent session (later.absent session isAbsent)

theorem sameSessions_modify {change : QueueElement -> QueueElement}
    (same : ∀ element, SameRequest element (change element)) (txQueue : TxQueue)
    (session : SessionId) : SameSessions txQueue (txQueue.modify session change).2 := by
  have keepsSession (element : QueueElement) := (same element).session
  refine ⟨fun distinct => distinct.modify keepsSession session, fun other element found => ?_,
    fun other absent => ?_⟩
  · rw [TxQueue.find_modify keepsSession] at found
    split at found
    next isOther =>
      obtain ⟨earlier, foundEarlier, rfl⟩ := Option.map_eq_some_iff.mp found
      exact ⟨earlier, isOther ▸ foundEarlier, same earlier⟩
    next => exact ⟨element, found, .refl element⟩
  · rw [TxQueue.find_modify keepsSession] at absent
    split at absent
    next isOther => exact isOther ▸ Option.map_eq_none_iff.mp absent
    next => exact absent

theorem TransportAborts.sameSessions {after : TxProcess} {status : SlStatus}
    (aborts : TransportAborts env proc session status after) :
    SameSessions proc.txQueue after.txQueue := by
  cases aborts with
  | refuses | accepts | hasNothing => exact .refl _
  | @callsBack status report dispatch =>
    rcases (proc.takeDispatch dispatch).onZwaveTransportSendDataComplete_cases status report
      dispatch.user with ⟨completed, -, delivers⟩ | ⟨-, undefined⟩
    · have written := sameSessions_modify
        (sameRequest_withResults proc.clockTime status (some (report.getD TxReport.zero)))
        proc.txQueue completed
      exact delivers.txQueue ▸ written
    · unfold completeDispatch
      rw [undefined]
      exact .refl _

/-- A session was failed: it is not queued any more, its user was told if it still was, and
only idle pre-empted sessions went with it. -/
structure FailsSession (before : TxProcess) (session : SessionId) (after : TxProcess) : Prop where
  queueFlushOngoing : after.queueFlushOngoing = before.queueFlushOngoing
  distinct : after.txQueue.Distinct
  find : ∀ other,
    other ≠ session ∧ after.txQueue.find other = before.txQueue.find other ∨
      after.txQueue.find other = none ∧ (other = session ∨ before.IsIdlePreempted other)
  stack : after.preemptedBackoffStack ⊆ before.preemptedBackoffStack
  told : before.txQueue.find session = none ∧ after.callbacks = before.callbacks ∨
    ∃ element report, before.txQueue.find session = some element ∧
      after.callbacks = callbackCalls element transmitCompleteFail report ++ before.callbacks

section

variable (distinct : proc.txQueue.Distinct)
include distinct

theorem forceFail_of_absent (absent : proc.txQueue.find session = none) (env : Surroundings) :
    proc.FailsSession session (proc.forceFail env session) := by
  have sameProcess : proc.failed session = proc := by
    simp [failed, withQueue, TxQueue.disableFasttack, TxQueue.setTransmissionsResults,
      TxQueue.modify, absent]
  have forced : proc.forceFail env session = checkQueue env (proc.withState .idle) := by
    rw [forceFail_eq, sameProcess]
    unfold transmissionCompletedStep TxQueue.getById
    rw [absent]
  obtain ⟨sameQueue, -⟩ := checkQueue_same env (proc.withState .idle)
  have quiet := checkQueue_quiet env (proc.withState .idle)
  rw [forced]
  refine ⟨quiet.queueFlushOngoing, sameQueue ▸ distinct, fun other => ?_, fun other stacked => ?_,
    .inl ⟨absent, quiet.callbacks⟩⟩
  · rw [sameQueue]
    by_cases isOther : other = session
    · exact .inr ⟨isOther ▸ absent, .inl isOther⟩
    · exact .inl ⟨isOther, rfl⟩
  · rcases mem_stack_checkQueue stacked with kept | ⟨backingOff, -⟩
    · exact kept
    · cases backingOff

/-- The end of the completion step of a failed session. -/
theorem forceFail_finalizes (found : proc.txQueue.find session = some element) {state : TxState}
    (notBackingOff : state ≠ .backoff) (parent : SessionId) (env : Surroundings) :
    proc.FailsSession session
      (checkQueue env
        (restorePreemptedBackoffIfNeeded env
          (((proc.failed session).calledBack
            (TxQueue.withResults proc.clockTime transmitCompleteFail none
              (TxQueue.withoutFasttrack element))).removed session state parent))) := by
  have own := TxQueue.find_session found
  have told : ((proc.failed session).calledBack
      (TxQueue.withResults proc.clockTime transmitCompleteFail none
        (TxQueue.withoutFasttrack element))).callbacks =
      callbackCalls element transmitCompleteFail
        (some (TxQueue.withResults proc.clockTime transmitCompleteFail none
          (TxQueue.withoutFasttrack element)).sendDataTxStatus) ++ proc.callbacks := rfl
  generalize isCalled : (proc.failed session).calledBack
    (TxQueue.withResults proc.clockTime transmitCompleteFail none
      (TxQueue.withoutFasttrack element)) = called at told ⊢
  have sameControl : called.queueFlushOngoing = proc.queueFlushOngoing ∧
      called.preemptedBackoffStack = proc.preemptedBackoffStack := by
    rw [← isCalled]
    exact ⟨rfl, rfl⟩
  have calledDistinct : called.txQueue.Distinct := by
    rw [← isCalled]
    have withoutFasttrack := @TxQueue.Distinct.modify TxQueue.withoutFasttrack (fun _ => rfl)
      proc.txQueue distinct session
    have withResults := @TxQueue.Distinct.modify
      (TxQueue.withResults proc.clockTime transmitCompleteFail none) (fun _ => rfl) _
      withoutFasttrack session
    exact withResults.consumeTransportCompletionStepPending _
  have calledFind (other : SessionId) (isOther : other ≠ session) :
      called.txQueue.find other = proc.txQueue.find other := by
    rw [← isCalled]
    refine (TxQueue.find_consumeTransportCompletionStepPending _ _ other).trans ?_
    rw [if_neg fun isSession => isOther (isSession.trans own)]
    refine (TxQueue.find_setTransmissionsResults _ _ session other _ _).trans ?_
    rw [if_neg isOther, TxQueue.find_disableFasttack, if_neg isOther]
  have quiet := (Quiet.removed called session state parent).trans
    ((restorePreemptedBackoffIfNeeded_quiet env _).trans (checkQueue_quiet env _))
  have popped := calledDistinct.find_pop session
  have restores := @restorePreemptedBackoffIfNeeded_restores
    (called.removed session state parent) (calledDistinct.pop session) notBackingOff env
  generalize restorePreemptedBackoffIfNeeded env
    (called.removed session state parent) = restored at restores quiet ⊢
  obtain ⟨sameQueue, -⟩ := checkQueue_same env restored
  have stackSubset : (called.removed session state parent).preemptedBackoffStack ⊆
      proc.preemptedBackoffStack := by
    rw [← sameControl.2]
    exact List.filter_sublist.subset
  refine ⟨quiet.queueFlushOngoing.trans sameControl.1, sameQueue ▸ restores.distinct,
    fun other => ?_, fun other stacked => ?_, .inr ⟨element, _, found, quiet.callbacks.trans told⟩⟩
  · rw [sameQueue]
    have afterPop := popped other
    by_cases isOther : other = session
    · rw [if_pos isOther] at afterPop
      refine .inr ⟨?_, .inl isOther⟩
      rcases restores.find other with same | ⟨gone, -⟩
      · exact same.trans afterPop
      · exact gone
    · rw [if_neg isOther, calledFind other isOther] at afterPop
      rcases restores.find other with same | ⟨gone, idle⟩
      · exact .inl ⟨isOther, same.trans afterPop⟩
      · obtain ⟨idleElement, foundIdle, notRestorable⟩ := idle.idle
        exact .inr ⟨gone, .inr ⟨sameControl.1 ▸ idle.notFlushing, stackSubset idle.stacked,
          idleElement, afterPop.symm.trans foundIdle, notRestorable⟩⟩
  · rcases mem_stack_checkQueue stacked with isStacked | ⟨backingOff, isCurrent⟩
    · exact stackSubset (restores.stack isStacked)
    · exact stackSubset (isCurrent ▸ restores.backingOff backingOff)

theorem forceFail_of_found (found : proc.txQueue.find session = some element) (env : Surroundings) :
    proc.FailsSession session (proc.forceFail env session) := by
  have isFailed : (proc.failed session).txQueue.find session =
      some (TxQueue.withResults proc.clockTime transmitCompleteFail none
        (TxQueue.withoutFasttrack element)) := by
    unfold failed withQueue
    rw [TxQueue.find_setTransmissionsResults, if_pos rfl, TxQueue.find_disableFasttack,
      if_pos rfl, found]
    rfl
  have completes := transmissionCompletedStep_completes env (proc.failed session)
    session
  rw [forceFail_eq]
  generalize transmissionCompletedStep env (proc.failed session) session = after
    at completes
  cases completes with
  | absent absent =>
    rw [isFailed] at absent
    cases absent
  | redundant isElement notPending | requeues isElement _ notPending
  | backsOff isElement _ _ notPending =>
    cases isFailed.symm.trans isElement
    cases notPending
  | @finalizes _ isElement _ state parent _ _ parks =>
    cases isFailed.symm.trans isElement
    exact forceFail_finalizes distinct found parks.state_ne parent env

theorem forceFail_failsSession (session : SessionId) (env : Surroundings) :
    proc.FailsSession session (proc.forceFail env session) := by
  cases found : proc.txQueue.find session with
  | none => exact forceFail_of_absent distinct found env
  | some element => exact forceFail_of_found distinct found env

end

/-- Calls with a failed status, at most one for each of the sessions and in their order, and one
for every session with a callback that is not spared. -/
structure TellsOfFailure
    (proc : TxProcess)
    (sessions : List SessionId)
    (spared : SessionId -> Prop)
    (calls : List CallbackCall) : Prop where
  failed : ∀ call ∈ calls, ∃ element, proc.txQueue.find call.session = some element ∧
    call ∈ callbackCalls element transmitCompleteFail call.report
  once : (calls.map CallbackCall.session).Sublist sessions
  complete : ∀ session ∈ sessions, ∀ element, proc.txQueue.find session = some element ->
    element.callbackFunction.isSome -> session ∈ calls.map CallbackCall.session ∨ spared session

theorem mem_callbackCalls {status : Nat} {report : Option TxReport} {call : CallbackCall}
    (mem : call ∈ callbackCalls element status report) :
    call.session = element.zwaveTxSessionId ∧ call.report = report := by
  unfold callbackCalls at mem
  split at mem
  · rw [List.mem_singleton.mp mem]
    exact ⟨rfl, rfl⟩
  · cases mem

theorem callbackCalls_of_sameRequest {before after : QueueElement} (same : SameRequest before after)
    (status : Nat) (report : Option TxReport) :
    callbackCalls after status report = callbackCalls before status report := by
  unfold callbackCalls
  rw [same.callbackFunction, same.session, same.user]

theorem sessions_callbackCalls (element : QueueElement) (status : Nat) (report : Option TxReport) :
    (callbackCalls element status report).map CallbackCall.session =
      if element.callbackFunction.isSome then [element.zwaveTxSessionId] else [] := by
  unfold callbackCalls
  cases element.callbackFunction <;> rfl

theorem TellsOfFailure.cons (tells : TellsOfFailure proc sessions spared calls)
    (found : proc.txQueue.find session = some element) (report : Option TxReport) :
    TellsOfFailure proc (session :: sessions) spared
      (callbackCalls element transmitCompleteFail report ++ calls) := by
  have own := TxQueue.find_session found
  constructor
  · intro call mem
    rcases List.mem_append.mp mem with isNew | earlier
    · obtain ⟨isSession, isReport⟩ := mem_callbackCalls isNew
      rw [isSession, isReport, own]
      exact ⟨element, found, isNew⟩
    · exact tells.failed call earlier
  · rw [List.map_append, sessions_callbackCalls, own]
    split
    · exact tells.once.cons_cons session
    · exact tells.once.cons session
  · intro other mem otherElement isOther hasCallback
    rw [List.map_append, List.mem_append]
    rcases List.mem_cons.mp mem with rfl | earlier
    · refine .inl (.inl ?_)
      rw [found] at isOther
      rw [sessions_callbackCalls, Option.some.inj isOther, if_pos hasCallback,
        TxQueue.find_session (isOther ▸ found)]
      exact List.mem_singleton_self _
    · exact (tells.complete other earlier otherElement isOther hasCallback).imp_left .inr

theorem TellsOfFailure.spare (tells : TellsOfFailure proc sessions spared calls)
    (isSpared : ∀ element, proc.txQueue.find session = some element -> spared session) :
    TellsOfFailure proc (session :: sessions) spared calls := by
  refine ⟨tells.failed, tells.once.cons session, fun other mem element found hasCallback => ?_⟩
  rcases List.mem_cons.mp mem with rfl | earlier
  · exact .inr (isSpared element found)
  · exact tells.complete other earlier element found hasCallback

/-- Some sessions were failed one after the other: none of them is queued any more, and of the
others only idle pre-empted ones are missing. -/
structure HasFailed
    (proc : TxProcess)
    (sessions : List SessionId)
    (reached : TxProcess) : Prop where
  queueFlushOngoing : reached.queueFlushOngoing = proc.queueFlushOngoing
  distinct : reached.txQueue.Distinct
  stack : reached.preemptedBackoffStack ⊆ proc.preemptedBackoffStack
  kept : ∀ session element, reached.txQueue.find session = some element ->
    session ∉ sessions ∧ ∃ earlier, proc.txQueue.find session = some earlier ∧
      SameRequest earlier element
  gone : ∀ session, reached.txQueue.find session = none ->
    proc.txQueue.find session = none ∨ session ∈ sessions ∨ proc.IsIdlePreempted session
  told : ∃ calls, reached.callbacks = calls ++ proc.callbacks ∧
    TellsOfFailure proc sessions proc.IsIdlePreempted calls

theorem HasFailed.isIdlePreempted (hasFailed : HasFailed proc sessions reached)
    (isIdle : reached.IsIdlePreempted session) : proc.IsIdlePreempted session := by
  obtain ⟨element, found, notRestorable⟩ := isIdle.idle
  obtain ⟨-, earlier, foundEarlier, same⟩ := hasFailed.kept session element found
  exact ⟨hasFailed.queueFlushOngoing ▸ isIdle.notFlushing, hasFailed.stack isIdle.stacked,
    earlier, foundEarlier, fun restorable => notRestorable (same.restorable restorable)⟩

theorem HasFailed.forceFail (hasFailed : HasFailed proc sessions reached)
    (isNew : session ∉ sessions) (env : Surroundings) :
    HasFailed proc (session :: sessions) (reached.forceFail env session) := by
  have fails := forceFail_failsSession hasFailed.distinct session env
  obtain ⟨calls, sameCalls, tells⟩ := hasFailed.told
  refine ⟨fails.queueFlushOngoing.trans hasFailed.queueFlushOngoing, fails.distinct,
    List.Subset.trans fails.stack hasFailed.stack, fun other element found => ?_,
    fun other absent => ?_, ?_⟩
  · rcases fails.find other with ⟨isOther, same⟩ | ⟨gone, -⟩
    · obtain ⟨notFailed, earlier⟩ := hasFailed.kept other element (same.symm.trans found)
      exact ⟨by simp [isOther, notFailed], earlier⟩
    · rw [gone] at found
      cases found
  · rcases fails.find other with ⟨-, same⟩ | ⟨-, rfl | isIdle⟩
    · exact (hasFailed.gone other (same.symm.trans absent)).imp_right
        (Or.imp_left (List.mem_cons_of_mem session))
    · exact .inr (.inl List.mem_cons_self)
    · exact .inr (.inr (hasFailed.isIdlePreempted isIdle))
  · rcases fails.told with ⟨absent, same⟩ | ⟨element, report, found, called⟩
    · refine ⟨calls, same.trans sameCalls, tells.spare fun element found => ?_⟩
      rcases hasFailed.gone session absent with neverThere | already | isIdle
      · rw [neverThere] at found
        cases found
      · exact absurd already isNew
      · exact isIdle
    · obtain ⟨-, earlier, foundEarlier, same⟩ := hasFailed.kept session element found
      rw [callbackCalls_of_sameRequest same] at called
      refine ⟨_, ?_, tells.cons foundEarlier report⟩
      rw [called, sameCalls, List.append_assoc]

/-- The state in which the transports were asked to abort the stuck family. -/
def familyAborted (env : Surroundings) (proc : TxProcess) : TxProcess :=
  run (fun proc session => (transportAbortSendData env proc session).2)
    proc.clearProtocolFrame proc.stuckFamily

/-- The state in which some sessions at the end of the stuck family were failed. -/
def failedAfter (env : Surroundings) (proc : TxProcess) (sessions : List SessionId) : TxProcess :=
  run (forceFail env) (proc.familyAborted env) sessions.reverse

theorem serviceInFlightWatchdog_of_stuck (stuck : proc.isStuckInFlight = true)
    (env : Surroundings) :
    proc.serviceInFlightWatchdog env = proc.failedAfter env proc.stuckFamily := by
  unfold serviceInFlightWatchdog
  rw [if_pos stuck]
  rfl

theorem hasFailed_familyAborted (distinct : proc.txQueue.Distinct) (env : Surroundings) :
    HasFailed proc [] (proc.familyAborted env) := by
  have invariant : proc.clearProtocolFrame.SameControl (proc.familyAborted env) ∧
      SameSessions proc.txQueue (proc.familyAborted env).txQueue := by
    refine run_invariant (fun reached => proc.clearProtocolFrame.SameControl reached ∧
      SameSessions proc.txQueue reached.txQueue) ?_ ⟨.refl _, .refl _⟩ proc.stuckFamily
    rintro reached session ⟨sameControl, sameSessions⟩
    have aborts := reached.transportAbortSendData_aborts env session
    exact ⟨sameControl.trans aborts.sameControl, sameSessions.trans aborts.sameSessions⟩
  obtain ⟨sameControl, sameSessions⟩ := invariant
  refine ⟨sameControl.queueFlushOngoing, sameSessions.distinct distinct, ?_,
    fun session element found => ⟨List.not_mem_nil, sameSessions.found session element found⟩,
    fun session absent => .inl (sameSessions.absent session absent),
    [], sameControl.callbacks, by simp, .refl [], by simp⟩
  rw [sameControl.preemptedBackoffStack]
  exact List.Subset.refl _

theorem hasFailed_failedAfter (distinct : proc.txQueue.Distinct) (nodup : sessions.Nodup)
    (env : Surroundings) : HasFailed proc sessions (proc.failedAfter env sessions) := by
  induction sessions with
  | nil => exact hasFailed_familyAborted distinct env
  | cons session rest ih =>
    obtain ⟨isNew, restNodup⟩ := List.nodup_cons.mp nodup
    have next : proc.failedAfter env (session :: rest) =
        (proc.failedAfter env rest).forceFail env session := by
      unfold failedAfter
      rw [List.reverse_cons, run_append, run_cons, run_nil]
    rw [next]
    exact (ih restNodup).forceFail isNew env

/-- The watchdog removes the tree of the current session and nothing else, tells the users of
the tree and nobody else of the failure, and removes no session before one that is queued below
it, apart from the spared sessions. -/
structure FailsTree
    (env : Surroundings)
    (proc : TxProcess)
    (spared : SessionId -> Prop) : Prop where
  topmost : proc.txQueue.IsTopmostAncestor proc.currentTxSessionId
    (proc.txQueue.findRoot proc.currentTxSessionId)
  nodup : proc.stuckFamily.Nodup
  family : ∀ session, session ∈ proc.stuckFamily ↔
    proc.txQueue.IsInTree (proc.txQueue.findRoot proc.currentTxSessionId) session
  removed : ∀ session ∈ proc.stuckFamily,
    (proc.serviceInFlightWatchdog env).txQueue.find session = none
  others : ∀ session ∉ proc.stuckFamily,
    (proc.serviceInFlightWatchdog env).txQueue.find session = none ->
      proc.txQueue.find session = none ∨ spared session
  noneAdded : ∀ session, proc.txQueue.find session = none ->
    (proc.serviceInFlightWatchdog env).txQueue.find session = none
  told : ∃ calls,
    (proc.serviceInFlightWatchdog env).callbacks = calls ++ proc.callbacks ∧
      TellsOfFailure proc proc.stuckFamily spared calls
  descendantsFirst : ∀ waiting failed, proc.stuckFamily = waiting ++ failed ->
    ∀ upper ∈ proc.stuckFamily, ∀ lower, proc.txQueue.IsBelow upper lower ->
      (proc.failedAfter env failed).txQueue.find upper = none ->
        (proc.failedAfter env failed).txQueue.find lower = none ∨ spared upper

/-- For any queue the sweeps over it end because the last one adds nothing.  When the watchdog
fires on a forest, it fails the tree of the current session; besides, and in any order, it
removes pre-empted sessions that wait for nothing. -/
theorem failsTree_of_stuck {proc : TxProcess} (distinct : proc.txQueue.Distinct)
    (forest : proc.txQueue.IsForest) (stuck : proc.isStuckInFlight = true) (env : Surroundings) :
    (∀ (txQueue : TxQueue) (root : SessionId),
      TxQueue.sweepDescendants txQueue.elements (txQueue.collectDescendants root) =
        txQueue.collectDescendants root) ∧
    proc.FailsTree env proc.IsIdlePreempted := by
  refine ⟨TxQueue.sweepDescendants_collectDescendants, ?_⟩
  obtain ⟨element, found⟩ : ∃ element,
      proc.txQueue.find proc.currentTxSessionId = some element := by
    unfold isStuckInFlight TxQueue.getById at stuck
    cases found : proc.txQueue.find proc.currentTxSessionId with
    | none => simp [found] at stuck
    | some element => exact ⟨element, rfl⟩
  have topmost := TxQueue.findRoot_isTopmostAncestor distinct forest found
  obtain ⟨root, foundRoot⟩ := Option.isSome_iff_exists.mp topmost.queued
  obtain ⟨gathers, -, isClosed⟩ := TxQueue.collectDescendants_gathers foundRoot
  have family := TxQueue.mem_collectDescendants_iff foundRoot
  have whole := hasFailed_failedAfter distinct gathers.nodup env
  have isWhole := serviceInFlightWatchdog_of_stuck stuck env
  refine ⟨topmost, gathers.nodup, family, ?_, ?_, ?_, ?_, ?_⟩
  · intro session mem
    rw [isWhole]
    cases still : (proc.failedAfter env proc.stuckFamily).txQueue.find session with
    | none => rfl
    | some element => exact absurd mem (whole.kept session element still).1
  · intro session notMember absent
    rw [isWhole] at absent
    exact (whole.gone session absent).imp_right fun isFailed => isFailed.resolve_left notMember
  · intro session absent
    rw [isWhole]
    cases still : (proc.failedAfter env proc.stuckFamily).txQueue.find session with
    | none => rfl
    | some element =>
      obtain ⟨-, earlier, foundEarlier, -⟩ := whole.kept session element still
      rw [absent] at foundEarlier
      cases foundEarlier
  · rw [isWhole]
    exact whole.told
  · intro waiting failed isFamily upper upperMember lower isBelow upperGone
    have isTree : proc.txQueue.collectDescendants _ = waiting ++ failed := isFamily
    have failedNodup := (List.nodup_append.mp (isTree ▸ gathers.nodup)).2.1
    have stage := hasFailed_failedAfter distinct failedNodup env
    have inTree := (family upper).mp upperMember
    rcases stage.gone upper upperGone with neverThere | upperFailed | isIdle
    · have queued := inTree.queued
      rw [neverThere] at queued
      cases queued
    · left
      cases still : (proc.failedAfter env failed).txQueue.find lower with
      | none => rfl
      | some element =>
        obtain ⟨notFailed, earlier, foundEarlier, -⟩ := stage.kept lower element still
        exact absurd upperFailed (TxQueue.notMem_of_below distinct forest foundRoot isTree
          inTree isBelow (by simp [foundEarlier]) notFailed)
    · exact .inr isIdle

/-- A frame and its child are on their way, and no transport calls back. -/
def childStuckRun : List Action :=
  [.sendData {} (sampleRequest 5 0 10), .handleNextEvent {}, .sendData {} (requestBelow 0 10),
    .handleNextEvent {}, .clockTick 90001]

theorem failsTree_childStuck :
    (run step initial childStuckRun).FailsTree {}
      (run step initial childStuckRun).IsIdlePreempted := by
  obtain ⟨distinct, smaller, stuck⟩ :
      ((run step initial childStuckRun).txQueue.elements.map
        QueueElement.zwaveTxSessionId).Nodup ∧
      (∀ element ∈ (run step initial childStuckRun).txQueue.elements,
        ∀ parent ∈ parentOf element, parent < element.zwaveTxSessionId) ∧
      (run step initial childStuckRun).isStuckInFlight = true := by
    decide +kernel
  exact (failsTree_of_stuck distinct (TxQueue.isForest_of_smaller smaller) stuck {}).2

/-- `find_root` gives the topmost queued ancestor, and `collect_descendants` its tree. -/
structure FindsFamily (txQueue : TxQueue) (session : SessionId) : Prop where
  topmost : txQueue.IsTopmostAncestor session (txQueue.findRoot session)
  nodup : (txQueue.collectDescendants (txQueue.findRoot session)).Nodup
  family : ∀ member, member ∈ txQueue.collectDescendants (txQueue.findRoot session) ↔
    txQueue.IsInTree (txQueue.findRoot session) member

/-- The family of every queued frame is found in every run. -/
theorem families_are_found (actions : List Action)
    (counterFits : StepsMeet step CounterFits initial actions) (session : SessionId)
    (queued : ((run step initial actions).txQueue.find session).isSome) :
    FindsFamily (run step initial actions).txQueue session := by
  have ordered := counterFits.invariant Ordered (fun _ _ ordered fits => ordered.step fits)
    ⟨.initial, parentsOlder_initial⟩
  obtain ⟨element, found⟩ := Option.isSome_iff_exists.mp queued
  have topmost := TxQueue.findRoot_isTopmostAncestor ordered.consistent.distinct
    ordered.acyclicBelow found
  obtain ⟨root, foundRoot⟩ := Option.isSome_iff_exists.mp topmost.queued
  exact ⟨topmost, (TxQueue.collectDescendants_gathers foundRoot).1.nodup,
    TxQueue.mem_collectDescendants_iff foundRoot⟩

theorem families_are_found_childStuck : FindsFamily (run step initial childStuckRun).txQueue 1 :=
  families_are_found childStuckRun ⟨show 0 + 2 < 2 ^ 32 by decide, trivial,
    show 1 + 2 < 2 ^ 32 by decide, trivial, trivial, trivial⟩ 1 (by decide +kernel)

/-- The reply to a second frame is counted for the first one as well, which is left on its own
without a reply to wait for. -/
def idleBackoffRun : List Action :=
  [.sendData {} (sampleRequest 2 1 10), .handleNextEvent {}, .transportCompletion 0 0 none,
    .handleNextEvent {}, .sendData {} (sampleBypassRequest 3 1 20), .handleNextEvent {},
    .handleNextEvent {}, .transportCompletion 1 0 none, .handleNextEvent {},
    .frameReceived 3 [0x20, 0x03], .handleNextEvent {}]

/-- Its back-off is broken for a third frame, which gets stuck. -/
def bypassStuck : TxProcess :=
  run step initial (idleBackoffRun ++
    [.sendData {} (sampleBypassRequest 4 0 20), .handleNextEvent {}, .handleNextEvent {},
      .clockTick 90001])

/-- Its back-off is broken as well, but it has two children, one of which gets stuck. -/
def childrenStuck : TxProcess :=
  run step initial (idleBackoffRun ++
    [.sendData {} (requestBelow 0 20), .sendData {} (requestBelow 0 20),
      .sendData {} (sampleBypassRequest 4 0 20), .handleNextEvent {}, .handleNextEvent {},
      .clockTick 90001])

/-- The first frame is removed with the tree of the third one.  With its own children it is
removed before one of them, and its user is not told. -/
theorem idle_preempted_removed :
    (bypassStuck.isStuckInFlight = true ∧ bypassStuck.stuckFamily = [2] ∧
      (bypassStuck.txQueue.find 0).isSome ∧
      (bypassStuck.serviceInFlightWatchdog {}).txQueue.find 0 = none) ∧
    (childrenStuck.isStuckInFlight = true ∧ childrenStuck.stuckFamily = [0, 2, 3] ∧
      (childrenStuck.failedAfter {} [3]).txQueue.find 0 = none ∧
      ((childrenStuck.failedAfter {} [3]).txQueue.find 2).isSome ∧
      (childrenStuck.serviceInFlightWatchdog {}).callbacks.map CallbackCall.session =
        2 :: 3 :: childrenStuck.callbacks.map CallbackCall.session) ∧
    ¬bypassStuck.FailsTree {} (fun _ => False) ∧
    ¬childrenStuck.FailsTree {} (fun _ => False) := by
  have bypass : bypassStuck.isStuckInFlight = true ∧ bypassStuck.stuckFamily = [2] ∧
      (bypassStuck.txQueue.find 0).isSome ∧
      (bypassStuck.serviceInFlightWatchdog {}).txQueue.find 0 = none := by
    decide +kernel
  obtain ⟨children, element, mem, isSession, isChild⟩ :
      (childrenStuck.isStuckInFlight = true ∧ childrenStuck.stuckFamily = [0, 2, 3] ∧
        (childrenStuck.failedAfter {} [3]).txQueue.find 0 = none ∧
        ((childrenStuck.failedAfter {} [3]).txQueue.find 2).isSome ∧
        (childrenStuck.serviceInFlightWatchdog {}).callbacks.map CallbackCall.session =
          2 :: 3 :: childrenStuck.callbacks.map CallbackCall.session) ∧
      ∃ element ∈ childrenStuck.txQueue.elements,
        element.zwaveTxSessionId = 2 ∧ parentOf element = some 0 := by
    decide +kernel
  refine ⟨bypass, children, fun fails => ?_, fun fails => ?_⟩
  · obtain ⟨-, isFamily, queued, gone⟩ := bypass
    rcases fails.others 0 (by simp [isFamily]) gone with neverThere | spared
    · rw [neverThere] at queued
      cases queued
    · exact spared
  · obtain ⟨-, isFamily, gone, still, -⟩ := children
    rcases fails.descendantsFirst [0, 2] [3] isFamily 0 (by simp [isFamily]) 2
      (isSession ▸ ParentForest.Below.child .root mem isChild) gone with absent | spared
    · rw [absent] at still
      cases still
    · exact spared

end TxProcess

end ZwaveTx
