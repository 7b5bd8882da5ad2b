import Zpc.ZwaveTx.BackoffTimer

/-!
# Accounts of the callbacks of users

A session is called back when its transmission is completed or when it is evicted.
One flag of its element says that the completion is still to be handled, and a
session that was called back may stay in the queue to wait for replies.  The account
of a session says what its flags tell about its callback; the functions below keep it
as long as they write no results for a session that only waits.
-/

namespace ZwaveTx

open Foundation

/-- An element whose completion was handled and that only waits for replies. -/
def OnlyWaits (element : QueueElement) : Prop :=
  element.transmissionTime ≠ 0 ∧ element.transportCompletionStepPending = false

namespace TxProcess

/-- How often the callback of a session was called. -/
def callsOf (proc : TxProcess) (session : SessionId) : Nat :=
  proc.callbacks.countP fun call => call.session == session

/-- How often a session was accepted with a callback. -/
def promisesOf (proc : TxProcess) (session : SessionId) : Nat :=
  proc.accepted.countP fun entry => entry.1 == session && entry.2.isSome

/-- No accepted session was called back twice, and one that is not queued any more
was called back. -/
structure CalledBackOnce (proc : TxProcess) : Prop where
  atMostOnce : ∀ session, proc.callsOf session ≤ 1
  exactlyOnce : ∀ session function, (session, some function) ∈ proc.accepted ->
    proc.txQueue.find session = none -> proc.callsOf session = 1

/-- A session that was handed out and called back as often as promised. -/
structure Settled (proc : TxProcess) (session : SessionId) : Prop where
  issued : session < proc.txQueue.zwaveTxSessionIdCounter
  called : proc.callsOf session = proc.promisesOf session

/-- What the flags of a queued element tell about the callback of its session. -/
structure ElementAccount
    (proc : TxProcess)
    (session : SessionId)
    (element : QueueElement) : Prop where
  promised : proc.promisesOf session = if element.callbackFunction.isSome then 1 else 0
  answered : element.transportCompletionStepPending = true -> element.transmissionTime ≠ 0
  called : proc.callsOf session = 0 ∨
    proc.callsOf session = proc.promisesOf session ∧ OnlyWaits element

/-- The callbacks agree with the queue, and the sessions whose back-off is under way
or was interrupted were called back. -/
structure Accounted (proc : TxProcess) : Prop where
  /-- The queue is consistent. -/
  consistent : proc.txQueue.Consistent
  /-- Accepted sessions were handed out. -/
  issued : ∀ entry ∈ proc.accepted, entry.1 < proc.txQueue.zwaveTxSessionIdCounter
  /-- None is promised two callbacks. -/
  promised : ∀ session, proc.promisesOf session ≤ 1
  /-- A queued element agrees with its callbacks. -/
  queued : ∀ session element, proc.txQueue.find session = some element ->
    proc.ElementAccount session element
  /-- Parents are older than their children. -/
  parents : ∀ session element, proc.txQueue.find session = some element ->
    element.options.transport.validParentSessionId = true ->
      element.options.transport.parentSessionId < session
  /-- A session that left was called back as promised. -/
  left : ∀ session, proc.txQueue.find session = none ->
    proc.callsOf session = proc.promisesOf session
  /-- So was the one backed off for. -/
  backedOff : proc.BacksOff -> proc.Settled proc.currentTxSessionId
  /-- So were those whose back-off was interrupted. -/
  stacked : ∀ session ∈ proc.preemptedBackoffStack, proc.Settled session

variable {proc before after completed : TxProcess} {env : Surroundings}
  {session other : SessionId} {element : QueueElement}

theorem Accounted.calls_le (accounted : proc.Accounted) (session : SessionId) :
    proc.callsOf session ≤ proc.promisesOf session := by
  cases found : proc.txQueue.find session with
  | none => exact Nat.le_of_eq (accounted.left session found)
  | some element =>
    rcases (accounted.queued session element found).called with none | ⟨all, -⟩
    · omega
    · exact Nat.le_of_eq all

theorem Accounted.calledBackOnce (accounted : proc.Accounted) : proc.CalledBackOnce where
  atMostOnce session := Nat.le_trans (accounted.calls_le session) (accounted.promised session)
  exactlyOnce session function isAccepted absent := by
    have promise : 0 < proc.promisesOf session := List.countP_pos_iff.mpr ⟨_, isAccepted, by simp⟩
    have atMost := accounted.promised session
    rw [accounted.left session absent]
    omega

theorem Accounted.rebuild (accounted : before.Accounted)
    (evolves : before.txQueue.Evolves after.txQueue)
    (callbacks : after.callbacks = before.callbacks) (accepted : after.accepted = before.accepted)
    (elements : ∀ session element, after.txQueue.find session = some element ->
      before.ElementAccount session element)
    (left : ∀ session, after.txQueue.find session = none ->
      before.callsOf session = before.promisesOf session)
    (backedOff : after.BacksOff -> before.Settled after.currentTxSessionId)
    (stacked : ∀ session ∈ after.preemptedBackoffStack, before.Settled session) :
    after.Accounted := by
  have calls : after.callsOf = before.callsOf := by
    funext session
    rw [callsOf, callsOf, callbacks]
  have promises : after.promisesOf = before.promisesOf := by
    funext session
    rw [promisesOf, promisesOf, accepted]
  have settled : ∀ session, before.Settled session -> after.Settled session := by
    intro session isSettled
    refine ⟨?_, ?_⟩
    · rw [evolves.counter]
      exact isSettled.issued
    · rw [calls, promises]
      exact isSettled.called
  refine ⟨evolves.consistent accounted.consistent, ?_, ?_, ?_, ?_, ?_, ?_, ?_⟩
  · rw [accepted, evolves.counter]
    exact accounted.issued
  · rw [promises]
    exact accounted.promised
  · intro session element found
    obtain ⟨promised, answered, called⟩ := elements session element found
    refine ⟨?_, answered, ?_⟩
    · rw [promises]
      exact promised
    · rw [calls, promises]
      exact called
  · intro session element found
    obtain ⟨earlier, foundEarlier, same⟩ := evolves.find accounted.consistent session element found
    rw [same.transport]
    exact accounted.parents session earlier foundEarlier
  · rw [calls, promises]
    exact left
  · exact fun backsOff => settled _ (backedOff backsOff)
  · exact fun session mem => settled session (stacked session mem)

theorem Accounted.transfer (accounted : before.Accounted) (txQueue : after.txQueue = before.txQueue)
    (callbacks : after.callbacks = before.callbacks) (accepted : after.accepted = before.accepted)
    (backedOff : after.BacksOff -> before.Settled after.currentTxSessionId)
    (stacked : ∀ session ∈ after.preemptedBackoffStack, before.Settled session) :
    after.Accounted := by
  refine accounted.rebuild ?_ callbacks accepted ?_ ?_ backedOff stacked
  · rw [txQueue]
    exact .refl _
  · rw [txQueue]
    exact accounted.queued
  · rw [txQueue]
    exact accounted.left

theorem Breaks.accounted {env : Surroundings} {proc broken : TxProcess} {justPreempted : Bool}
    (breaks : Breaks env proc justPreempted broken) (accounted : proc.Accounted) :
    broken.Accounted := by
  cases breaks with
  | nothing => exact accounted
  | expectedFrames =>
    exact accounted.transfer rfl rfl rfl (fun backsOff => nomatch backsOff.1) accounted.stacked
  | preempts backingOff reason =>
    refine accounted.transfer rfl rfl rfl (fun backsOff => nomatch backsOff.1) ?_
    intro session mem
    rcases List.mem_cons.mp mem with rfl | stacked
    · exact accounted.backedOff ⟨backingOff, reason⟩
    · exact accounted.stacked session stacked

section

variable (accounted : proc.Accounted)

include accounted

theorem Accounted.checkQueue (env : Surroundings) : (proc.checkQueue env).Accounted := by
  have checks := checkQueue_checks env proc
  generalize proc.checkQueue env = checked at checks
  cases checks with
  | keepsBackingOff => exact accounted
  | startsBackoff breaks reason noSession =>
    have broken := breaks.accounted accounted
    exact broken.transfer rfl rfl rfl (fun backsOff => absurd backsOff.2 noSession)
      broken.stacked
  | asksForNext breaks =>
    have broken := breaks.accounted accounted
    exact broken.transfer rfl rfl rfl broken.backedOff broken.stacked
  | rests breaks => exact breaks.accounted accounted

theorem Accounted.removed (settled : proc.callsOf session = proc.promisesOf session)
    {state : TxState} (notBackingOff : state ≠ .backoff) (current : SessionId) :
    (proc.removed session state current).Accounted := by
  have lookups := accounted.consistent.distinct.find_pop session
  refine accounted.rebuild (TxQueue.Shrinks.pop proc.txQueue session).evolves rfl rfl ?_ ?_ ?_ ?_
  · intro other element found
    dsimp only [TxProcess.removed] at found
    rw [lookups] at found
    split_ifs at found
    exact accounted.queued other element found
  · intro other absent
    dsimp only [TxProcess.removed] at absent
    rw [lookups] at absent
    split_ifs at absent with isSession
    · rw [isSession]
      exact settled
    · exact accounted.left other absent
  · exact fun backsOff => absurd backsOff.1 notBackingOff
  · exact fun other mem => accounted.stacked other (List.mem_of_mem_filter mem)

theorem Accounted.removeElement
    (settled : proc.callsOf element.zwaveTxSessionId = proc.promisesOf element.zwaveTxSessionId) :
    (proc.removeElement element).Accounted := by
  obtain ⟨state, current, parks, isRemoved⟩ := proc.removeElement_parks element
  rw [isRemoved]
  exact accounted.removed settled parks.state_ne current

theorem Accounted.restorePreemptedBackoffIfNeeded (env : Surroundings) :
    (proc.restorePreemptedBackoffIfNeeded env).Accounted := by
  have dropped : ∀ {proc : TxProcess}, proc.Accounted -> proc.dropStack.Accounted := by
    intro proc accounted
    exact accounted.transfer rfl rfl rfl accounted.backedOff
      fun session mem => accounted.stacked session (List.mem_of_mem_tail mem)
  unfold TxProcess.restorePreemptedBackoffIfNeeded
  split
  · exact accounted.transfer rfl rfl rfl accounted.backedOff (by simp)
  · refine restoreLoop_rule env Accounted Accounted ?_ ?_ ?_ ?_ _ proc accounted
      (Nat.le_refl _)
    · exact fun proc session outer accounted _ _ => dropped accounted
    · intro proc session outer element accounted stacked found _
      have settled := accounted.stacked session (by rw [stacked]; exact List.mem_cons_self)
      refine (dropped accounted).removeElement ?_
      rw [TxQueue.find_session found]
      exact settled.called
    · intro proc session outer element accounted stacked found _
      have settled := accounted.stacked session (by rw [stacked]; exact List.mem_cons_self)
      exact accounted.transfer rfl rfl rfl (fun _ => settled)
        fun session mem => accounted.stacked session (List.mem_of_mem_tail mem)
    · exact fun proc accounted _ => accounted

theorem Accounted.resumeFromBackoffStep (env : Surroundings) :
    (proc.resumeFromBackoffStep env).Accounted := by
  have stopped : proc.timerStop.Accounted :=
    accounted.transfer rfl rfl rfl accounted.backedOff accounted.stacked
  have idle : ∀ frames, ((proc.timerStop.withExpectedFrames frames).withState .idle).Accounted :=
    fun frames => accounted.transfer rfl rfl rfl (fun backsOff => nomatch backsOff.1)
      accounted.stacked
  have ended : (proc.backoffEnded env).Accounted := by
    have ends := endBackoff_ends env proc.timerStop
    have adrift := (proc.backoffEnded_adrift env).1
    unfold backoffEnded at adrift ⊢
    generalize endBackoff env proc.timerStop = ended at ends adrift
    have isEnded : ended.Accounted := by
      cases ends with
      | notBackingOff => exact stopped
      | @finalizes element backingOff reason found =>
        refine stopped.removeElement ?_
        rw [TxQueue.find_session found]
        exact (accounted.backedOff ⟨backingOff, reason⟩).called
      | gone => exact (idle proc.expectedIncomingFrames).checkQueue env
      | expectedFrames => exact idle _
      | otherReason => exact idle proc.expectedIncomingFrames
    refine isEnded.transfer rfl rfl rfl (fun backsOff => ?_) isEnded.stacked
    obtain ⟨wasBackingOff, wasReason, -, sameCurrent⟩ := adrift backsOff.1
    have quiet := ends.quiet
    have before := accounted.backedOff ⟨wasBackingOff, wasReason⟩
    rw [sameCurrent]
    refine ⟨?_, ?_⟩
    · rw [quiet.shrinks.counter]
      exact before.issued
    · rw [callsOf, promisesOf, quiet.callbacks, quiet.accepted]
      exact before.called
  exact (ended.restorePreemptedBackoffIfNeeded env).checkQueue env

end

theorem Accounted.of_sameControl (accounted : before.Accounted) (control : before.SameControl after)
    (txQueue : after.txQueue = before.txQueue) : after.Accounted := by
  refine accounted.transfer txQueue control.callbacks control.accepted ?_ ?_
  · rintro ⟨backingOff, reason⟩
    rw [control.currentTxSessionId]
    apply accounted.backedOff
    exact ⟨control.state ▸ backingOff, control.backoffReason ▸ reason⟩
  · rw [control.preemptedBackoffStack]
    exact accounted.stacked

theorem Accounted.modify {proc : TxProcess} (accounted : proc.Accounted) {session : SessionId}
    {change : QueueElement -> QueueElement} (keeps : ∀ element, SameFrame element (change element))
    (changed : ∀ element, proc.txQueue.find session = some element ->
      proc.ElementAccount session (change element)) :
    (proc.withQueue (proc.txQueue.modify session change).2).Accounted := by
  have lookups := TxQueue.find_modify (fun element => (keeps element).session)
  refine accounted.rebuild (.modify proc.txQueue session keeps) rfl rfl ?_ ?_
    accounted.backedOff accounted.stacked
  · intro other element found
    dsimp only [withQueue] at found
    rw [lookups] at found
    split_ifs at found with isSession
    · obtain ⟨earlier, foundEarlier, isChanged⟩ := Option.map_eq_some_iff.mp found
      rw [isSession, ← isChanged]
      exact changed earlier foundEarlier
    · exact accounted.queued other element found
  · intro other absent
    dsimp only [withQueue] at absent
    rw [lookups] at absent
    apply accounted.left
    split_ifs at absent with isSession
    · rw [isSession]
      exact Option.map_eq_none_iff.mp absent
    · exact absent

theorem ElementAccount.congr {changed : QueueElement}
    (account : proc.ElementAccount session element)
    (callback : changed.callbackFunction = element.callbackFunction)
    (time : changed.transmissionTime = element.transmissionTime)
    (pending : changed.transportCompletionStepPending = element.transportCompletionStepPending) :
    proc.ElementAccount session changed := by
  obtain ⟨promised, answered, called⟩ := account
  refine ⟨?_, ?_, ?_⟩
  · rw [callback]
    exact promised
  · rw [time, pending]
    exact answered
  · unfold OnlyWaits at *
    rw [time, pending]
    exact called

theorem Accounted.disableFasttack {proc : TxProcess} (accounted : proc.Accounted)
    (session : SessionId) :
    (proc.withQueue (proc.txQueue.disableFasttack session).2).Accounted := by
  apply accounted.modify
  · exact fun element => { SameFrame.refl _ with }
  · exact fun element found => (accounted.queued session element found).congr rfl rfl rfl

theorem Accounted.decrementAlongParents (accounted : proc.Accounted) (fuel : Nat)
    (session : SessionId) :
    (proc.withQueue (TxQueue.decrementAlongParents fuel proc.txQueue session).2).Accounted := by
  induction fuel generalizing session with
  | zero => exact accounted
  | succ fuel ih =>
    unfold TxQueue.decrementAlongParents
    split
    next => exact accounted
    next =>
      split
      · apply accounted.modify
        · exact fun element => ⟨rfl, rfl, rfl, rfl, rfl, rfl, Nat.sub_le _ 1⟩
        · exact fun element found => (accounted.queued session element found).congr rfl rfl rfl
      · split
        · exact ih _
        · exact accounted

/-- Results may be written for a session: it has no callback or does not only wait
for replies. -/
def OpenToResults (proc : TxProcess) (session : SessionId) : Prop :=
  ∀ element, proc.txQueue.find session = some element ->
    element.callbackFunction.isSome = true -> ¬ OnlyWaits element

theorem Accounted.uncalled {proc : TxProcess} (accounted : proc.Accounted) {session : SessionId}
    {element : QueueElement} (found : proc.txQueue.find session = some element)
    (isOpen : proc.OpenToResults session) : proc.callsOf session = 0 := by
  obtain ⟨promised, -, called⟩ := accounted.queued session element found
  rcases called with uncalled | ⟨all, waits⟩
  · exact uncalled
  · rw [all, promised]
    split
    next hasCallback => exact absurd waits (isOpen element found hasCallback)
    next => rfl

theorem Accounted.setTransmissionsResults (accounted : proc.Accounted)
    (isOpen : proc.OpenToResults session) (now : ClockTime) (status : Nat)
    (report : Option TxReport) :
    (proc.withQueue
      (proc.txQueue.setTransmissionsResults now session status report).2).Accounted := by
  apply accounted.modify
  · exact fun element => { SameFrame.refl _ with }
  · intro element found
    refine ⟨(accounted.queued session element found).promised, fun _ => ?_, ?_⟩
    · dsimp only [TxQueue.withResults]
      split
      next => exact Nat.one_ne_zero
      next elapsed => exact elapsed
    · exact .inl (accounted.uncalled found isOpen)

theorem Delivers.accounted {proc after : TxProcess} {session : SessionId} {status : Nat}
    {report : Option TxReport} (delivers : proc.Delivers session status report after)
    (accounted : proc.Accounted) (isOpen : proc.OpenToResults session) : after.Accounted := by
  have written := accounted.setTransmissionsResults isOpen proc.clockTime status
    (some (report.getD TxReport.zero))
  have same : ∀ txQueue, (proc.withQueue txQueue).SameControl proc := fun _ =>
    { SameControl.refl _ with }
  exact written.of_sameControl ((same _).trans delivers.toSameControl) delivers.txQueue

/-- The session a completion is taken for is open to results. -/
def DeliversOpenly (proc : TxProcess) (user : UserPointer) : Prop :=
  ∀ session, proc.completedSession user = some session -> proc.OpenToResults session

theorem Accounted.onZwaveTransportSendDataComplete (accounted : proc.Accounted) {user : UserPointer}
    (openly : proc.DeliversOpenly user) (status : Nat) (report : Option TxReport) :
    (proc.onZwaveTransportSendDataComplete status report user).Accounted := by
  rcases proc.onZwaveTransportSendDataComplete_cases status report user with
    ⟨session, taken, delivers⟩ | ⟨-, undefined⟩
  · exact delivers.accounted accounted (openly session taken)
  · rw [undefined]
    exact accounted.transfer rfl rfl rfl accounted.backedOff accounted.stacked

theorem OpenToResults.modify {proc : TxProcess} {other : SessionId}
    (isOpen : proc.OpenToResults other) (session : SessionId)
    {change : QueueElement -> QueueElement} (keeps : ∀ element, SameFrame element (change element))
    (waits : ∀ element, OnlyWaits (change element) -> OnlyWaits element) :
    (proc.withQueue (proc.txQueue.modify session change).2).OpenToResults other := by
  intro element found hasCallback
  dsimp only [withQueue] at found
  rw [TxQueue.find_modify fun element => (keeps element).session] at found
  split_ifs at found with isSession
  · obtain ⟨earlier, foundEarlier, isChanged⟩ := Option.map_eq_some_iff.mp found
    subst isChanged isSession
    intro waitsNow
    refine isOpen earlier foundEarlier ?_ (waits earlier waitsNow)
    rw [← (keeps earlier).callbackFunction]
    exact hasCallback
  · exact isOpen element found hasCallback

theorem OpenToResults.setTransmissionsResults (isOpen : proc.OpenToResults other)
    (now : ClockTime) (session : SessionId) (status : Nat) (report : Option TxReport) :
    (proc.withQueue
      (proc.txQueue.setTransmissionsResults now session status report).2).OpenToResults
      other :=
  isOpen.modify session (fun _ => { SameFrame.refl _ with })
    fun _ waits => nomatch waits.2

theorem OpenToResults.disableFasttack {proc : TxProcess} {other : SessionId}
    (isOpen : proc.OpenToResults other) (session : SessionId) :
    (proc.withQueue (proc.txQueue.disableFasttack session).2).OpenToResults other :=
  isOpen.modify session (fun _ => { SameFrame.refl _ with }) fun _ waits => waits

theorem OpenToResults.onZwaveTransportSendDataComplete (isOpen : proc.OpenToResults other)
    (status : Nat) (report : Option TxReport) (user : UserPointer) :
    (proc.onZwaveTransportSendDataComplete status report user).OpenToResults other := by
  rcases proc.onZwaveTransportSendDataComplete_cases status report user with
    ⟨session, -, delivers⟩ | ⟨-, undefined⟩
  · unfold OpenToResults
    rw [delivers.txQueue]
    exact isOpen.setTransmissionsResults proc.clockTime session status _
  · rw [undefined]
    exact isOpen

theorem Accounted.dropUnsentCurrentMessage (accounted : proc.Accounted)
    (openly : proc.DeliversOpenly proc.currentTxSessionId) :
    proc.dropUnsentCurrentMessage.Accounted := by
  refine (accounted.disableFasttack proc.currentTxSessionId).onZwaveTransportSendDataComplete
    ?_ transmitCompleteFail none
  exact fun session taken => (openly session taken).disableFasttack proc.currentTxSessionId

theorem Accounted.completeDispatch (accounted : proc.Accounted) {dispatch : Dispatch}
    (openly : proc.DeliversOpenly dispatch.user) (status : Nat) (report : Option TxReport) :
    (proc.completeDispatch dispatch status report).Accounted := by
  have taken : (proc.takeDispatch dispatch).Accounted :=
    accounted.transfer rfl rfl rfl accounted.backedOff accounted.stacked
  exact taken.onZwaveTransportSendDataComplete openly status report

/-- When the transport calls back for the session it is asked to abort, the session it
calls back for is open to results. -/
def TransportAbortsOpenly (env : Surroundings) (proc : TxProcess) (session : SessionId) : Prop :=
  ∀ status report dispatch,
    env.transportAbortSendData session = .acceptedCallingBack status report ->
      proc.oldestDispatch session = some dispatch -> proc.DeliversOpenly dispatch.user

variable {status : SlStatus}

theorem TransportAborts.accounted {env : Surroundings} {proc after : TxProcess}
    {session : SessionId} (aborts : TransportAborts env proc session status after)
    (accounted : proc.Accounted) (openly : proc.TransportAbortsOpenly env session) :
    after.Accounted := by
  cases aborts with
  | refuses | accepts | hasNothing => exact accounted
  | callsBack answer oldest => exact accounted.completeDispatch (openly _ _ _ answer oldest) _ _

theorem TransportAborts.openToResults (aborts : TransportAborts env proc session status after)
    (isOpen : proc.OpenToResults other) : after.OpenToResults other := by
  cases aborts with
  | refuses | accepts | hasNothing => exact isOpen
  | @callsBack _ _ dispatch =>
    have taken : (proc.takeDispatch dispatch).OpenToResults other := isOpen
    exact taken.onZwaveTransportSendDataComplete _ _ _

theorem callsOf_callBack (proc : TxProcess) (element : QueueElement) (status : Nat)
    (report : Option TxReport) (session : SessionId) :
    (proc.callBack element status report).callsOf session =
      proc.callsOf session +
        if element.zwaveTxSessionId = session ∧ element.callbackFunction.isSome = true then 1
        else 0 := by
  unfold callsOf callBack callbackCalls
  cases element.callbackFunction with
  | none => simp
  | some function =>
    by_cases own : element.zwaveTxSessionId = session
    · simp [own, Nat.add_comm]
    · simp [own]

/-- The user of one session is called back, and the session leaves the queue or only
waits. -/
theorem Accounted.callsBack (accounted : before.Accounted)
    (found : before.txQueue.find session = some element) (uncalled : before.callsOf session = 0)
    (evolves : before.txQueue.Evolves after.txQueue) (accepted : after.accepted = before.accepted)
    (calls : ∀ other, after.callsOf other = before.callsOf other +
      if session = other ∧ element.callbackFunction.isSome = true then 1 else 0)
    (others : ∀ other, other ≠ session -> after.txQueue.find other = before.txQueue.find other)
    (waits : ∀ queued, after.txQueue.find session = some queued -> OnlyWaits queued)
    (state : after.state = before.state)
    (reason : after.backoffReason = before.backoffReason)
    (current : after.currentTxSessionId = before.currentTxSessionId)
    (stack : after.preemptedBackoffStack = before.preemptedBackoffStack) :
    after.Accounted ∧ after.Settled session := by
  have account := accounted.queued session element found
  have promises : after.promisesOf = before.promisesOf := by
    funext other
    rw [promisesOf, promisesOf, accepted]
  have own : after.callsOf session = after.promisesOf session := by
    rw [calls, promises, uncalled, account.promised]
    simp
  have other : ∀ other, other ≠ session -> after.callsOf other = before.callsOf other := by
    intro other differs
    rw [calls, if_neg fun isOwn => differs isOwn.1.symm]
    rfl
  have settled : ∀ session, before.Settled session -> after.Settled session := by
    intro stays isSettled
    refine ⟨?_, ?_⟩
    · rw [evolves.counter]
      exact isSettled.issued
    · by_cases isOwn : stays = session
      · rw [isOwn]
        exact own
      · rw [other stays isOwn, promises]
        exact isSettled.called
  refine ⟨⟨evolves.consistent accounted.consistent, ?_, ?_, ?_, ?_, ?_, ?_, ?_⟩, ?_, own⟩
  · rw [accepted, evolves.counter]
    exact accounted.issued
  · rw [promises]
    exact accounted.promised
  · intro stays queued foundNow
    obtain ⟨earlier, foundEarlier, same⟩ := evolves.find accounted.consistent stays queued foundNow
    by_cases isOwn : stays = session
    · subst isOwn
      refine ⟨?_, fun _ => (waits queued foundNow).1, .inr ⟨own, waits queued foundNow⟩⟩
      rw [promises, same.callbackFunction]
      exact (accounted.queued stays earlier foundEarlier).promised
    · rw [others stays isOwn] at foundNow
      obtain ⟨promised, answered, called⟩ := accounted.queued stays queued foundNow
      refine ⟨?_, answered, ?_⟩
      · rw [promises]
        exact promised
      · rw [other stays isOwn, promises]
        exact called
  · intro stays queued foundNow
    obtain ⟨earlier, foundEarlier, same⟩ := evolves.find accounted.consistent stays queued foundNow
    rw [same.transport]
    exact accounted.parents stays earlier foundEarlier
  · intro gone absent
    by_cases isOwn : gone = session
    · rw [isOwn]
      exact own
    · rw [others gone isOwn] at absent
      rw [other gone isOwn, promises]
      exact accounted.left gone absent
  · rintro ⟨backingOff, isSession⟩
    rw [current]
    exact settled _ (accounted.backedOff ⟨state ▸ backingOff, reason ▸ isSession⟩)
  · rw [stack]
    exact fun stays mem => settled stays (accounted.stacked stays mem)
  · rw [evolves.counter]
    exact accounted.consistent.issued_of_find found

theorem Accounted.uncalled_of_pending {proc : TxProcess} (accounted : proc.Accounted)
    {session : SessionId} {element : QueueElement}
    (found : proc.txQueue.find session = some element)
    (pending : element.transportCompletionStepPending = true) : proc.callsOf session = 0 := by
  rcases (accounted.queued session element found).called with uncalled | ⟨-, waits⟩
  · exact uncalled
  · rw [waits.2] at pending
    cases pending

theorem Accounted.calledBack (accounted : proc.Accounted)
    (found : proc.txQueue.find session = some element)
    (pending : element.transportCompletionStepPending = true) :
    (proc.calledBack element).Accounted ∧ (proc.calledBack element).Settled session := by
  have own := TxQueue.find_session found
  have lookups := TxQueue.find_consumeTransportCompletionStepPending proc.txQueue session
  subst own
  refine accounted.callsBack found (accounted.uncalled_of_pending found pending)
    (proc.calledBack_evolves element) rfl ?_ ?_ ?_ rfl rfl rfl rfl
  · exact callsOf_callBack (proc.consumed element.zwaveTxSessionId) element _ _
  · exact fun other differs => (lookups other).trans (if_neg differs)
  · intro queued foundNow
    change (proc.txQueue.consumeTransportCompletionStepPending _).2.find _ = _ at foundNow
    rw [lookups, if_pos rfl, found] at foundNow
    cases foundNow
    exact ⟨(accounted.queued _ element found).answered pending, rfl⟩

theorem Accounted.requeued {proc : TxProcess} (accounted : proc.Accounted) {session : SessionId}
    {element : QueueElement} (found : proc.txQueue.find session = some element)
    (pending : element.transportCompletionStepPending = true) :
    (proc.requeued session).Accounted := by
  have uncalled := accounted.uncalled_of_pending found pending
  have consumed : (proc.consumed session).Accounted := by
    unfold consumed TxQueue.consumeTransportCompletionStepPending
    split
    · apply accounted.modify
      · exact fun _ => { SameFrame.refl _ with }
      · intro queued foundNow
        exact ⟨(accounted.queued session queued foundNow).promised, nofun, .inl uncalled⟩
    · exact accounted
  have marked := consumed.disableFasttack session
  refine @Accounted.modify _ marked session TxQueue.unsent ?_ ?_
  · exact fun _ => { SameFrame.refl _ with }
  · intro queued foundNow
    have account := marked.queued session queued foundNow
    refine ⟨account.promised, ?_, .inl uncalled⟩
    -- the flag was taken before the element is put back
    intro stillPending
    change ((proc.txQueue.consumeTransportCompletionStepPending
      session).2.disableFasttack session).2.find session = some queued at foundNow
    rw [TxQueue.find_disableFasttack, if_pos rfl,
      TxQueue.find_consumeTransportCompletionStepPending, if_pos rfl, found] at foundNow
    cases foundNow
    cases stillPending

theorem Completes.accounted {env : Surroundings} {proc completed : TxProcess} {session : SessionId}
    (completes : Completes env proc session completed) (accounted : proc.Accounted) :
    completed.Accounted := by
  cases completes with
  | absent =>
    apply Accounted.checkQueue
    exact accounted.transfer rfl rfl rfl (fun backsOff => nomatch backsOff.1) accounted.stacked
  | redundant => exact accounted
  | requeues found pending => exact (accounted.requeued found pending).checkQueue env
  | backsOff found pending =>
    obtain ⟨called, settled⟩ := accounted.calledBack found pending
    apply Accounted.checkQueue
    exact called.transfer rfl rfl rfl (fun _ => settled) called.stacked
  | finalizes found pending _ _ parks =>
    obtain ⟨called, settled⟩ := accounted.calledBack found pending
    apply Accounted.checkQueue
    apply Accounted.restorePreemptedBackoffIfNeeded
    exact called.removed settled.called parks.state_ne _

theorem Completes.calls_mono (completes : Completes env proc session completed)
    (other : SessionId) :
    proc.callsOf other ≤ completed.callsOf other := by
  have quietly : ∀ {start after : TxProcess}, proc.callsOf other ≤ start.callsOf other ->
      start.Quiet after -> proc.callsOf other ≤ after.callsOf other := by
    intro start after grows quiet
    rw [callsOf] at grows ⊢
    rw [callsOf, quiet.callbacks]
    exact grows
  have calledBack : ∀ element, proc.callsOf other ≤ (proc.calledBack element).callsOf other := by
    intro element
    have grows := callsOf_callBack (proc.consumed element.zwaveTxSessionId) element
      element.sendDataStatus (some element.sendDataTxStatus) other
    exact Nat.le_trans (Nat.le_add_right _ _) (Nat.le_of_eq grows.symm)
  cases completes with
  | absent =>
    exact quietly (Nat.le_refl _)
      ((Quiet.withState proc .idle).trans (checkQueue_quiet env _))
  | redundant => exact Nat.le_refl _
  | requeues =>
    have kept : proc.callsOf other ≤ (proc.requeued session).callsOf other := Nat.le_refl _
    exact quietly kept (checkQueue_quiet env _)
  | backsOff =>
    exact quietly (calledBack _)
      ((Quiet.backOffFor _ session).trans (checkQueue_quiet env _))
  | finalizes =>
    exact quietly (calledBack _)
      ((Quiet.removed _ _ _ _).trans
        ((restorePreemptedBackoffIfNeeded_quiet env _).trans
          (checkQueue_quiet env _)))

theorem Accounted.completeDuringBackoff (accounted : proc.Accounted)
    (backingOff : proc.state = .backoff) (env : Surroundings) (session : SessionId) :
    (proc.completeDuringBackoff env session).Accounted := by
  have completes := proc.transmissionCompletedStep_completes env session
  have completed := completes.accounted accounted
  have leaves := completes.leaves
  have evolves := completes.evolves
  unfold TxProcess.completeDuringBackoff
  generalize proc.transmissionCompletedStep env session = after at *
  dsimp only
  split
  next other =>
    have before := accounted.backedOff ⟨backingOff, other.2⟩
    -- the back-off that is kept or put on the stack was called back before
    have settled : after.Settled proc.currentTxSessionId := by
      refine ⟨?_, ?_⟩
      · rw [evolves.counter]
        exact before.issued
      · apply Nat.le_antisymm (completed.calls_le _)
        rw [promisesOf, leaves.accepted]
        refine Nat.le_trans (Nat.le_of_eq before.called.symm) ?_
        exact completes.calls_mono proc.currentTxSessionId
    split
    · exact completed.transfer rfl rfl rfl (fun _ => settled) completed.stacked
    · split
      · refine completed.transfer rfl rfl rfl completed.backedOff ?_
        intro stacked mem
        rcases List.mem_cons.mp mem with rfl | stays
        · exact settled
        · exact completed.stacked stacked stays
      · exact completed
  next => exact completed

end TxProcess

end ZwaveTx
