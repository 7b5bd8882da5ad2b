import Zpc.ZwaveTx.Callbacks

/-!
# Wake-ups

The process looks at its queue only when an event makes it.  As long as frames
are queued, something that leads to such an event has to be on its way: an event
that is posted already, the armed timer, or the completion of a frame that is
with a transport.  The handlers keep this up by ending in a check of the queue.
The process falls asleep when it is asked to send and finds a session that only
waits for its replies.
-/

namespace ZwaveTx

open Foundation

namespace TxQueue

/-- The queued sessions are the same, no completion that is pending was taken and no
frame was handed to a transport. -/
structure Carries (before after : TxQueue) : Prop where
  earlier : ∀ session element, after.find session = some element ->
    ∃ old, before.find session = some old ∧
      (old.transportCompletionStepPending = true -> element.transportCompletionStepPending = true) ∧
      (element.transmissionTimestamp ≠ 0 -> element.transmissionTime = 0 ->
        old.transmissionTimestamp ≠ 0 ∧ old.transmissionTime = 0)
  kept : ∀ session old, before.find session = some old ->
    ∃ element, after.find session = some element

variable (txQueue : TxQueue) (session : SessionId)

theorem Carries.refl : txQueue.Carries txQueue :=
  ⟨fun _ element found => ⟨element, found, id, fun sent unanswered => ⟨sent, unanswered⟩⟩,
    fun _ old found => ⟨old, found⟩⟩

theorem Carries.modify {change : QueueElement -> QueueElement}
    (keepsSession : ∀ element, (change element).zwaveTxSessionId = element.zwaveTxSessionId)
    (pending : ∀ element, element.transportCompletionStepPending = true ->
      (change element).transportCompletionStepPending = true)
    (sent : ∀ element, (change element).transmissionTimestamp ≠ 0 ->
      (change element).transmissionTime = 0 ->
        element.transmissionTimestamp ≠ 0 ∧ element.transmissionTime = 0) :
    txQueue.Carries (txQueue.modify session change).2 := by
  constructor
  · intro other element found
    rw [find_modify keepsSession] at found
    split at found
    next same =>
      obtain ⟨old, foundOld, changed⟩ := Option.map_eq_some_iff.mp found
      subst same changed
      exact ⟨old, foundOld, pending old, sent old⟩
    next => exact (Carries.refl txQueue).earlier other element found
  · intro other old found
    rw [find_modify keepsSession]
    split
    next same =>
      subst same
      exact ⟨change old, by rw [found]; rfl⟩
    next => exact ⟨old, found⟩

theorem withResults_answered (now : ClockTime) (status : Nat) (report : Option TxReport)
    (element : QueueElement) : (withResults now status report element).transmissionTime ≠ 0 := by
  unfold withResults
  dsimp only
  split
  next => exact Nat.one_ne_zero
  next elapsed => exact elapsed

theorem Carries.setTransmissionsResults (now : ClockTime) (session : SessionId) (status : Nat)
    (report : Option TxReport) :
    txQueue.Carries (txQueue.setTransmissionsResults now session status report).2 :=
  .modify txQueue session (fun _ => rfl) (fun _ _ => rfl)
    fun element _ unanswered => absurd unanswered (withResults_answered now status report element)

theorem Carries.disableFasttack : txQueue.Carries (txQueue.disableFasttack session).2 :=
  .modify txQueue session (fun _ => rfl) (fun _ => id)
    fun _ sent unanswered => ⟨sent, unanswered⟩

theorem Carries.decrementAlongParents (fuel : Nat) (txQueue : TxQueue) (session : SessionId) :
    txQueue.Carries (TxQueue.decrementAlongParents fuel txQueue session).2 := by
  induction fuel generalizing session with
  | zero => exact .refl txQueue
  | succ fuel ih =>
    unfold TxQueue.decrementAlongParents
    split
    next => exact .refl txQueue
    next =>
      split
      · exact .modify txQueue session (fun _ => rfl) (fun _ => id)
          fun _ sent unanswered => ⟨sent, unanswered⟩
      · split
        · exact ih _
        · exact .refl txQueue

theorem Carries.nonempty {before after : TxQueue} (carries : before.Carries after)
    (nonempty : after.empty = false) : before.empty = false := by
  obtain ⟨head, first⟩ := firstInQueue_isSome nonempty
  by_contra nothing
  rw [Bool.not_eq_false, empty_iff_find] at nothing
  have absent : after.find head.zwaveTxSessionId = none := by
    by_contra present
    obtain ⟨element, found⟩ := Option.ne_none_iff_exists'.mp present
    obtain ⟨old, foundOld, _⟩ := carries.earlier _ element found
    rw [nothing] at foundOld
    cases foundOld
  exact find_eq_none_iff.mp absent head (firstInQueue_mem first) rfl

end TxQueue

namespace TxProcess

/-! ## The property -/

/-- An event that makes the process look at its queue. -/
def isWakeUp : Event -> Bool
  | .sendNextMessage => true
  | .sendOperationComplete _ => true
  | .backoffTimerExpired _ => true
  | .nodeDeleted _ => false
  | .frameReceived _ _ => false

/-- Something that makes the process look at its queue again is on its way. -/
def WakeUpDue (proc : TxProcess) : Prop :=
  (∃ event ∈ proc.eventQueue, isWakeUp event = true) ∨
    proc.backoffTimer ≠ none ∨
    ∃ dispatch ∈ proc.inFlight, proc.txQueue.contains dispatch.session = true

/-- Queued frames are not forgotten. -/
def NotForgotten (proc : TxProcess) : Prop := proc.txQueue.empty = false -> proc.WakeUpDue

instance (proc : TxProcess) : Decidable proc.WakeUpDue := inferInstanceAs (Decidable (_ ∨ _ ∨ _))

/-! ## The invariant -/

/-- The process does not get past an event without looking at its queue.  The
completion of a queued session whose completion step has run already is passed
over. -/
def Rouses (proc : TxProcess) : Event -> Prop
  | .sendNextMessage => True
  | .sendOperationComplete session =>
      ∀ element, proc.txQueue.find session = some element ->
        element.transportCompletionStepPending = true
  | .backoffTimerExpired _ => True
  | .nodeDeleted _ => False
  | .frameReceived _ _ => False

/-- Something that rouses the process is on its way while frames are queued. -/
def Awake (proc : TxProcess) : Prop :=
  proc.txQueue.empty = false ->
    (∃ event ∈ proc.eventQueue, proc.Rouses event) ∨
      proc.backoffTimer ≠ none ∨
      ∃ dispatch ∈ proc.inFlight, ∃ element, proc.txQueue.find dispatch.session = some element

/-- A back-off is ended by its timer or by an expiration that is queued. -/
def BackoffTimed (proc : TxProcess) : Prop :=
  proc.state = .backoff -> proc.backoffTimer ≠ none ∨ proc.ExpiryQueued

/-- The frames that were sent and not completed are with a transport, one session
apart. -/
def SentExcept (proc : TxProcess) (excluded : Option SessionId) : Prop :=
  ∀ session element, some session ≠ excluded ->
    proc.txQueue.find session = some element ->
      element.transmissionTimestamp ≠ 0 -> element.transmissionTime = 0 ->
        ∃ dispatch ∈ proc.inFlight, dispatch.session = session

/-- What the handlers rely on when they take an event. -/
structure Steady (proc : TxProcess) : Prop where
  /-- The queue is consistent. -/
  consistent : proc.txQueue.Consistent
  /-- A back-off has its timer or its expiration. -/
  timed : proc.BackoffTimed
  /-- A sent frame has its completion outstanding. -/
  sent : proc.SentExcept none

/-- The invariant of the runs. -/
structure Watchful (proc : TxProcess) : Prop extends Steady proc where
  /-- Work in the queue has something to wake it. -/
  awake : proc.Awake

variable {proc before after completed : TxProcess} {excluded : Option SessionId}
  {env : Surroundings} {session : SessionId} {status : SlStatus} {element : QueueElement}
  {event : Event}

theorem Awake.notForgotten (awake : proc.Awake) : proc.NotForgotten := by
  intro nonempty
  rcases awake nonempty with ⟨event, mem, rouses⟩ | armed | ⟨dispatch, mem, element, found⟩
  · refine .inl ⟨event, mem, ?_⟩
    cases event with
    | sendNextMessage | sendOperationComplete | backoffTimerExpired => rfl
    | nodeDeleted | frameReceived => exact rouses.elim
  · exact .inr (.inl armed)
  · refine .inr (.inr ⟨dispatch, mem, ?_⟩)
    simp [TxQueue.contains, found]

theorem BackoffTimed.of_not_backoff (notBackingOff : proc.state ≠ .backoff) : proc.BackoffTimed :=
  fun backingOff => absurd backingOff notBackingOff

theorem BackoffTimed.transfer (timed : before.BackoffTimed) (state : after.state = before.state)
    (timer : after.backoffTimer = before.backoffTimer)
    (events : before.eventQueue ⊆ after.eventQueue) : after.BackoffTimed := by
  unfold BackoffTimed ExpiryQueued
  rw [state, timer]
  intro backingOff
  rcases timed backingOff with armed | ⟨arming, mem⟩
  · exact .inl armed
  · exact .inr ⟨arming, events mem⟩

theorem Awake.transfer (awake : before.Awake) (carries : before.txQueue.Carries after.txQueue)
    (timer : after.backoffTimer = before.backoffTimer)
    (events : before.eventQueue ⊆ after.eventQueue)
    (inFlight : ∀ dispatch ∈ before.inFlight,
      before.txQueue.contains dispatch.session = true -> dispatch ∈ after.inFlight) :
    after.Awake := by
  intro nonempty
  rcases awake (carries.nonempty nonempty) with
    ⟨event, mem, rouses⟩ | armed | ⟨dispatch, mem, old, found⟩
  · refine .inl ⟨event, events mem, ?_⟩
    cases event with
    | sendNextMessage | backoffTimerExpired => trivial
    | sendOperationComplete session =>
      intro element foundNow
      obtain ⟨old, foundOld, pending, _⟩ := carries.earlier session element foundNow
      exact pending (rouses old foundOld)
    | nodeDeleted | frameReceived => exact rouses.elim
  · exact .inr (.inl (by rw [timer]; exact armed))
  · obtain ⟨element, foundNow⟩ := carries.kept dispatch.session old found
    exact .inr (.inr ⟨dispatch, inFlight dispatch mem (by simp [TxQueue.contains, found]),
      element, foundNow⟩)

theorem SentExcept.transfer (sent : before.SentExcept excluded)
    (earlier : ∀ session element, some session ≠ excluded ->
      after.txQueue.find session = some element ->
        element.transmissionTimestamp ≠ 0 -> element.transmissionTime = 0 ->
          ∃ old, before.txQueue.find session = some old ∧
            old.transmissionTimestamp ≠ 0 ∧ old.transmissionTime = 0)
    (inFlight : ∀ dispatch ∈ before.inFlight, some dispatch.session ≠ excluded ->
      before.txQueue.contains dispatch.session = true -> dispatch ∈ after.inFlight) :
    after.SentExcept excluded := by
  intro session element other found isSent unanswered
  obtain ⟨old, foundOld, wasSent, wasUnanswered⟩ :=
    earlier session element other found isSent unanswered
  obtain ⟨dispatch, mem, same⟩ := sent session old other foundOld wasSent wasUnanswered
  refine ⟨dispatch, inFlight dispatch mem ?_ ?_, same⟩
  · rw [same]
    exact other
  · simp [TxQueue.contains, same, foundOld]

theorem SentExcept.quiet (sent : before.SentExcept excluded)
    (consistent : before.txQueue.Consistent) (quiet : before.Quiet after) :
    after.SentExcept excluded := by
  refine sent.transfer (fun session element _ found isSent unanswered => ?_) ?_
  · exact ⟨element, quiet.shrinks.find_some consistent found, isSent, unanswered⟩
  · rw [quiet.inFlight]
    exact fun _ mem _ _ => mem

theorem SentExcept.carries (sent : before.SentExcept excluded)
    (carries : before.txQueue.Carries after.txQueue) (inFlight : after.inFlight = before.inFlight) :
    after.SentExcept excluded := by
  refine sent.transfer (fun session element _ found isSent unanswered => ?_) ?_
  · obtain ⟨old, foundOld, _, wasSent⟩ := carries.earlier session element found
    exact ⟨old, foundOld, wasSent isSent unanswered⟩
  · rw [inFlight]
    exact fun _ mem _ _ => mem

/-! ## The internal functions -/

theorem BackoffTimed.checkQueue (timed : proc.BackoffTimed) (env : Surroundings) :
    (proc.checkQueue env).BackoffTimed ∧ (proc.checkQueue env).Awake := by
  have checks := checkQueue_checks env proc
  generalize proc.checkQueue env = checked at checks
  cases checks with
  | keepsBackingOff backingOff =>
    refine ⟨timed, fun _ => ?_⟩
    rcases timed backingOff with armed | ⟨arming, mem⟩
    · exact .inr (.inl armed)
    · exact .inl ⟨_, mem, trivial⟩
  | startsBackoff breaks reason => exact ⟨fun _ => .inl nofun, fun _ => .inr (.inl nofun)⟩
  | asksForNext breaks =>
    refine ⟨.of_not_backoff breaks.state_ne, fun _ => .inl ⟨.sendNextMessage, ?_, trivial⟩⟩
    exact List.mem_append_right _ List.mem_cons_self
  | rests breaks nothing =>
    refine ⟨.of_not_backoff breaks.state_ne, fun nonempty => ?_⟩
    rw [nothing] at nonempty
    cases nonempty

theorem Steady.checkQueue (steady : proc.Steady) (env : Surroundings) :
    (proc.checkQueue env).Watchful := by
  have quiet := checkQueue_quiet env proc
  obtain ⟨timed, awake⟩ := steady.timed.checkQueue env
  exact ⟨⟨quiet.shrinks.consistent steady.consistent, timed,
    steady.sent.quiet steady.consistent quiet⟩, awake⟩

theorem restorePreemptedBackoffIfNeeded_outcome (consistent : proc.txQueue.Consistent)
    (env : Surroundings) :
    ((proc.restorePreemptedBackoffIfNeeded env).state = .backoff ∧
      (proc.restorePreemptedBackoffIfNeeded env).backoffTimer ≠ none ∧
      (proc.restorePreemptedBackoffIfNeeded env).backoffReason = .currentSessionId ∧
      proc.queueFlushOngoing = false ∧ ∃ session, proc.WaitsOnStack session) ∨
    ((proc.restorePreemptedBackoffIfNeeded env).backoffTimer = proc.backoffTimer ∧
      (proc.restorePreemptedBackoffIfNeeded env).eventQueue = proc.eventQueue ∧
      ((proc.restorePreemptedBackoffIfNeeded env).state = .backoff -> proc.state = .backoff)) := by
  unfold restorePreemptedBackoffIfNeeded
  split
  next => exact .inr ⟨rfl, rfl, id⟩
  next notFlushing =>
    rw [Bool.not_eq_true] at notFlushing
    refine restoreLoop_rule env
      (fun reached => proc.Quiet reached ∧
        reached.preemptedBackoffStack ⊆ proc.preemptedBackoffStack ∧
        reached.backoffTimer = proc.backoffTimer ∧
        reached.eventQueue = proc.eventQueue ∧
        (reached.state = .backoff -> proc.state = .backoff))
      (fun reached => (reached.state = .backoff ∧ reached.backoffTimer ≠ none ∧
        reached.backoffReason = .currentSessionId ∧ proc.queueFlushOngoing = false ∧
        ∃ session, proc.WaitsOnStack session) ∨
        (reached.backoffTimer = proc.backoffTimer ∧
          reached.eventQueue = proc.eventQueue ∧
          (reached.state = .backoff -> proc.state = .backoff)))
      ?_ ?_ ?_ ?_ _ proc ⟨.refl proc, List.Subset.refl _, rfl, rfl, id⟩ (Nat.le_refl _)
    · rintro reached session outer ⟨quiet, stack, timer, events, state⟩ _ _
      exact ⟨quiet.trans (.setStack reached _),
        List.Subset.trans (List.tail_sublist _).subset stack, timer, events, state⟩
    · rintro reached session outer element ⟨quiet, stack, timer, events, _⟩ _ _ _
      obtain ⟨state, current, parks, removed⟩ := reached.dropStack.removeElement_parks element
      rw [removed]
      refine ⟨(quiet.trans (.setStack reached _)).trans (.removed _ _ _ _), ?_, timer, events,
        fun backingOff => absurd backingOff parks.state_ne⟩
      exact List.Subset.trans (List.filter_sublist.trans (List.tail_sublist _)).subset stack
    · rintro reached session outer element ⟨quiet, stack, _, _, _⟩ stacked found restorable
      refine .inl ⟨rfl, nofun, rfl, notFlushing, session,
        stack (by rw [stacked]; exact List.mem_cons_self), element, ?_, restorable.1⟩
      exact quiet.shrinks.find_some consistent found
    · rintro reached ⟨_, _, timer, events, state⟩ _
      exact .inr ⟨timer, events, state⟩

theorem BackoffTimed.restorePreemptedBackoffIfNeeded (timed : proc.BackoffTimed)
    (consistent : proc.txQueue.Consistent) (env : Surroundings) :
    (proc.restorePreemptedBackoffIfNeeded env).BackoffTimed := by
  rcases restorePreemptedBackoffIfNeeded_outcome consistent env with
    ⟨_, armed, _⟩ | ⟨timer, events, state⟩
  · exact fun _ => .inl armed
  · intro backingOff
    rw [timer, ExpiryQueued, events]
    exact timed (state backingOff)

theorem backoffEnded_timed (env : Surroundings) (proc : TxProcess) :
    (proc.backoffEnded env).BackoffTimed := by
  have ends := endBackoff_ends env proc.timerStop
  unfold backoffEnded
  generalize endBackoff env proc.timerStop = ended at ends
  cases ends with
  | notBackingOff notBackingOff => exact .of_not_backoff notBackingOff
  | @finalizes element backingOff reason found =>
    obtain ⟨state, current, parks, removed⟩ := proc.timerStop.removeElement_parks element
    rw [removed]
    exact .of_not_backoff parks.state_ne
  | gone backingOff reason absent =>
    have idle : (proc.timerStop.withState .idle).state ≠ .backoff := nofun
    exact ((BackoffTimed.of_not_backoff idle).checkQueue env).1
  | expectedFrames | otherReason => exact .of_not_backoff nofun

theorem resumeFromBackoffStep_watchful (consistent : proc.txQueue.Consistent)
    (sent : proc.SentExcept none) (env : Surroundings) :
    (proc.resumeFromBackoffStep env).Watchful := by
  have quiet := resumeFromBackoffStep_quiet env proc
  have endedConsistent := (proc.backoffEnded_quiet env).shrinks.consistent consistent
  have restored := (proc.backoffEnded_timed env).restorePreemptedBackoffIfNeeded
    endedConsistent env
  obtain ⟨timed, awake⟩ := restored.checkQueue env
  exact ⟨⟨quiet.shrinks.consistent consistent, timed, sent.quiet consistent quiet⟩, awake⟩

/-! ## Completions -/

theorem SentExcept.modify (sent : proc.SentExcept excluded) (session : SessionId)
    {change : QueueElement -> QueueElement}
    (keepsSession : ∀ element, (change element).zwaveTxSessionId = element.zwaveTxSessionId)
    (undone : ∀ element, (change element).transmissionTimestamp ≠ 0 ->
      (change element).transmissionTime = 0 ->
        element.transmissionTimestamp ≠ 0 ∧ element.transmissionTime = 0) :
    (proc.withQueue (proc.txQueue.modify session change).2).SentExcept excluded := by
  refine sent.transfer (fun other element _ found isSent unanswered => ?_)
    fun _ mem _ _ => mem
  change (proc.txQueue.modify session change).2.find other = some element at found
  rw [TxQueue.find_modify keepsSession] at found
  split at found
  next same =>
    obtain ⟨old, foundOld, changed⟩ := Option.map_eq_some_iff.mp found
    subst same changed
    exact ⟨old, foundOld, undone old isSent unanswered⟩
  next => exact ⟨element, found, isSent, unanswered⟩

theorem SentExcept.consumed (sent : proc.SentExcept excluded) (session : SessionId) :
    (proc.consumed session).SentExcept excluded := by
  unfold TxProcess.consumed TxQueue.consumeTransportCompletionStepPending
  split
  · exact sent.modify session (fun _ => rfl) fun _ isSent unanswered => ⟨isSent, unanswered⟩
  · exact sent

theorem SentExcept.requeued (sent : proc.SentExcept excluded) (session : SessionId) :
    (proc.requeued session).SentExcept excluded := by
  have consumed := (sent.consumed session).modify session
    (show ∀ element, (TxQueue.withoutFasttrack element).zwaveTxSessionId =
      element.zwaveTxSessionId from fun _ => rfl)
    fun _ isSent unanswered => ⟨isSent, unanswered⟩
  exact consumed.modify session
    (show ∀ element, (TxQueue.unsent element).zwaveTxSessionId =
      element.zwaveTxSessionId from fun _ => rfl)
    fun _ isSent _ => absurd rfl isSent

theorem SentExcept.completes (sent : proc.SentExcept none)
    (completes : Completes env proc session completed) (consistent : proc.txQueue.Consistent) :
    completed.SentExcept none := by
  cases completes with
  | absent =>
    exact sent.quiet consistent
      ((Quiet.withState proc .idle).trans (checkQueue_quiet env _))
  | redundant => exact sent
  | requeues =>
    have evolves := proc.requeued_evolves session
    exact (sent.requeued session).quiet (evolves.consistent consistent)
      (checkQueue_quiet env _)
  | @backsOff element =>
    have called : (proc.calledBack element).SentExcept none := sent.consumed _
    exact called.quiet ((proc.calledBack_evolves element).consistent consistent)
      ((Quiet.backOffFor _ session).trans (checkQueue_quiet env _))
  | @finalizes element =>
    have called : (proc.calledBack element).SentExcept none := sent.consumed _
    exact called.quiet ((proc.calledBack_evolves element).consistent consistent)
      ((Quiet.removed _ _ _ _).trans
        ((restorePreemptedBackoffIfNeeded_quiet env _).trans
          (checkQueue_quiet env _)))

theorem Completes.watchful (completes : Completes env proc session completed)
    (steady : proc.Steady) :
    completed.Steady ∧
      (completed.Awake ∨ (completed = proc ∧ ¬ proc.Rouses (.sendOperationComplete session))) := by
  have consistent := completes.evolves.consistent steady.consistent
  have sent := steady.sent.completes completes steady.consistent
  have settled : ∀ before : TxProcess, before.BackoffTimed ->
      completed = before.checkQueue env ->
        completed.Steady ∧ (completed.Awake ∨
          (completed = proc ∧ ¬ proc.Rouses (.sendOperationComplete session))) := by
    intro before timed isChecked
    obtain ⟨checkedTimed, awake⟩ := timed.checkQueue env
    rw [isChecked] at consistent sent ⊢
    exact ⟨⟨consistent, checkedTimed, sent⟩, .inl awake⟩
  cases completes with
  | absent =>
    have idle : (proc.withState .idle).state ≠ .backoff := nofun
    exact settled (proc.withState .idle) (.of_not_backoff idle) rfl
  | @redundant element found notPending =>
    refine ⟨steady, .inr ⟨rfl, fun rouses => ?_⟩⟩
    rw [rouses element found] at notPending
    cases notPending
  | requeues =>
    have back : (proc.requeued session).BackoffTimed :=
      steady.timed.transfer rfl rfl (List.Subset.refl _)
    exact settled _ back rfl
  | @backsOff element =>
    have armed : ((proc.calledBack element).backOffFor session).BackoffTimed := fun _ => .inl nofun
    exact settled _ armed rfl
  | @finalizes element found pending state parent notRequeued notBackedOff parks =>
    have evolves := proc.removed_evolves element session state parent
    refine settled _ (BackoffTimed.restorePreemptedBackoffIfNeeded ?_
      (evolves.consistent steady.consistent) env) rfl
    exact .of_not_backoff parks.state_ne

theorem Watchful.onZwaveTransportSendDataComplete (watchful : proc.Watchful) (status : Nat)
    (report : Option TxReport) (user : UserPointer) :
    (proc.onZwaveTransportSendDataComplete status report user).Watchful := by
  have consistent := (proc.onZwaveTransportSendDataComplete_evolves status report
    user).consistent watchful.consistent
  rcases proc.onZwaveTransportSendDataComplete_cases status report user with
    ⟨session, _, delivers⟩ | ⟨_, undefined⟩
  · have carries : proc.txQueue.Carries
        (proc.onZwaveTransportSendDataComplete status report user).txQueue := by
      rw [delivers.txQueue]
      exact .setTransmissionsResults _ _ _ _ _
    have events : proc.eventQueue ⊆
        (proc.onZwaveTransportSendDataComplete status report user).eventQueue := by
      rw [delivers.eventQueue]
      exact List.subset_append_left _ _
    refine ⟨⟨consistent, ?_, watchful.sent.carries carries delivers.inFlight⟩, ?_⟩
    · exact watchful.timed.transfer delivers.state delivers.backoffTimer events
    · refine watchful.awake.transfer carries delivers.backoffTimer events ?_
      rw [delivers.inFlight]
      exact fun _ mem _ => mem
  · rw [undefined]
    exact ⟨⟨watchful.consistent, watchful.timed, watchful.sent⟩, watchful.awake⟩

theorem Watchful.disableFasttack (watchful : proc.Watchful) (session : SessionId) :
    (proc.withQueue (proc.txQueue.disableFasttack session).2).Watchful := by
  have carries := TxQueue.Carries.disableFasttack proc.txQueue session
  refine ⟨⟨?_, watchful.timed, watchful.sent.carries carries rfl⟩, ?_⟩
  · exact (TxQueue.Evolves.disableFasttack proc.txQueue session).consistent
      watchful.consistent
  · exact watchful.awake.transfer carries rfl (List.Subset.refl _) fun _ mem _ => mem

theorem Watchful.dropUnsentCurrentMessage (watchful : proc.Watchful) :
    proc.dropUnsentCurrentMessage.Watchful :=
  (watchful.disableFasttack proc.currentTxSessionId).onZwaveTransportSendDataComplete _ _ _

theorem Delivers.watchful {status : Nat} {report : Option TxReport}
    (delivers : proc.Delivers session status report after) (consistent : proc.txQueue.Consistent)
    (timed : proc.BackoffTimed) (sent : proc.SentExcept (some session))
    (queued : proc.txQueue.contains session = true) : after.Watchful := by
  have carries : proc.txQueue.Carries after.txQueue := by
    rw [delivers.txQueue]
    exact .setTransmissionsResults _ _ _ _ _
  have written : ∀ element, after.txQueue.find session = some element ->
      element.transportCompletionStepPending = true ∧ element.transmissionTime ≠ 0 := by
    intro element found
    rw [delivers.txQueue, TxQueue.find_setTransmissionsResults, if_pos rfl] at found
    obtain ⟨old, _, changed⟩ := Option.map_eq_some_iff.mp found
    rw [← changed]
    exact ⟨rfl, TxQueue.withResults_answered _ _ _ old⟩
  have events := delivers.eventQueue
  rw [if_pos queued] at events
  refine ⟨⟨?_, ?_, ?_⟩, fun _ => .inl ⟨.sendOperationComplete session, ?_, ?_⟩⟩
  · rw [delivers.txQueue]
    exact (TxQueue.Evolves.setTransmissionsResults _ _ _ _ _).consistent consistent
  · refine timed.transfer delivers.state delivers.backoffTimer ?_
    rw [events]
    exact List.subset_append_left _ _
  · intro other element _ found isSent unanswered
    by_cases same : other = session
    · subst same
      exact absurd unanswered (written element found).2
    · exact sent.carries carries delivers.inFlight other element
        (by simpa using same) found isSent unanswered
  · rw [events]
    exact List.mem_append_right _ List.mem_cons_self
  · exact fun element found => (written element found).1

/-- A callback of a transport for a session reaches it, if it is queued. -/
def CallbackReaches (proc : TxProcess) (session : SessionId) : Prop :=
  ∀ dispatch ∈ proc.inFlight, dispatch.session = session ->
    proc.txQueue.contains session = true -> proc.completedSession dispatch.user = some session

theorem SentExcept.takeDispatch (sent : proc.SentExcept none) (dispatch : Dispatch) :
    (proc.takeDispatch dispatch).SentExcept (some dispatch.session) := by
  intro session element differs found isSent unanswered
  obtain ⟨remaining, mem, isSession⟩ := sent session element nofun found isSent unanswered
  refine ⟨remaining, (List.mem_erase_of_ne ?_).mpr mem, isSession⟩
  rintro rfl
  exact differs (by rw [isSession])

theorem Watchful.completeDispatch (watchful : proc.Watchful) {dispatch : Dispatch}
    (reaches : proc.txQueue.contains dispatch.session = true ->
      proc.completedSession dispatch.user = some dispatch.session)
    (status : Nat)
    (report : Option TxReport) :
    (proc.completeDispatch dispatch status report).Watchful := by
  have taken := watchful.sent.takeDispatch dispatch
  by_cases queued : proc.txQueue.contains dispatch.session = true
  · rcases (proc.takeDispatch dispatch).onZwaveTransportSendDataComplete_cases status report
      dispatch.user with ⟨session, decoded, delivers⟩ | ⟨undecoded, _⟩
    · have own := reaches queued
      rw [show proc.completedSession dispatch.user = some session from decoded] at own
      cases own
      exact delivers.watchful watchful.consistent watchful.timed taken queued
    · have own := reaches queued
      rw [show proc.completedSession dispatch.user = none from undecoded] at own
      cases own
  · -- nobody waits for the dispatch of a session that is gone
    have absent : proc.txQueue.find dispatch.session = none := by
      simpa [TxQueue.contains] using queued
    have still : (proc.takeDispatch dispatch).Watchful := by
      refine ⟨⟨watchful.consistent, watchful.timed, ?_⟩, ?_⟩
      · intro session element _ found isSent unanswered
        refine taken session element (fun same => ?_) found isSent unanswered
        cases same
        rw [show proc.txQueue.find dispatch.session = some element from found] at absent
        cases absent
      · refine watchful.awake.transfer (.refl _) rfl (List.Subset.refl _) ?_
        intro other mem isQueued
        refine (List.mem_erase_of_ne ?_).mpr mem
        rintro rfl
        exact queued isQueued
    exact still.onZwaveTransportSendDataComplete status report dispatch.user

/-! ## Aborts -/

/-- If a transport calls back before it answers the abort of a session, that reaches
the session. -/
def AbortReaches (env : Surroundings) (proc : TxProcess) (session : SessionId) : Prop :=
  ∀ status report,
    env.transportAbortSendData session = .acceptedCallingBack status report ->
      proc.CallbackReaches session

/-- Nothing new is with a transport or queued, and pointers mean what they meant. -/
structure Narrows (before after : TxProcess) : Prop where
  inFlight : after.inFlight ⊆ before.inFlight
  isProtocolFrame : after.isProtocolFrame = before.isProtocolFrame
  protocolMetadata : after.protocolMetadata = before.protocolMetadata
  evolves : before.QueueEvolves after

theorem Narrows.of_leaves (leaves : before.Leaves after) (evolves : before.QueueEvolves after) :
    before.Narrows after :=
  ⟨by rw [leaves.inFlight]; exact List.Subset.refl _, leaves.isProtocolFrame,
    leaves.protocolMetadata, evolves⟩

theorem Narrows.trans {first second third : TxProcess} (earlier : first.Narrows second)
    (later : second.Narrows third) : first.Narrows third :=
  ⟨List.Subset.trans later.inFlight earlier.inFlight,
    later.isProtocolFrame.trans earlier.isProtocolFrame,
    later.protocolMetadata.trans earlier.protocolMetadata,
    earlier.evolves.trans later.evolves⟩

theorem Narrows.callbackReaches (narrows : before.Narrows after)
    (consistent : before.txQueue.Consistent) (reaches : before.CallbackReaches session) :
    after.CallbackReaches session := by
  intro dispatch mem isSession queued
  have wasQueued : before.txQueue.contains session = true := by
    obtain ⟨element, found⟩ := Option.isSome_iff_exists.mp queued
    obtain ⟨earlier, foundEarlier, _⟩ := narrows.evolves.find consistent session element found
    simp [TxQueue.contains, foundEarlier]
  have decoded := reaches dispatch (narrows.inFlight mem) isSession wasQueued
  unfold completedSession at decoded ⊢
  rw [narrows.isProtocolFrame, narrows.protocolMetadata]
  exact decoded

theorem Narrows.abortReaches (narrows : before.Narrows after)
    (consistent : before.txQueue.Consistent) (reaches : before.AbortReaches env session) :
    after.AbortReaches env session :=
  fun status report answer => narrows.callbackReaches consistent (reaches status report answer)

theorem dropUnsentCurrentMessage_narrows (proc : TxProcess) :
    proc.Narrows proc.dropUnsentCurrentMessage := by
  obtain ⟨control, sameFlight, _⟩ := proc.dropUnsentCurrentMessage_sameControl
  exact ⟨by rw [sameFlight]; exact List.Subset.refl _, control.isProtocolFrame,
    control.protocolMetadata, proc.dropUnsentCurrentMessage_evolves⟩

theorem TransportAborts.narrows (aborts : TransportAborts env proc session status after) :
    proc.Narrows after := by
  have evolves := aborts.evolves
  have control := aborts.sameControl
  refine ⟨?_, control.isProtocolFrame, control.protocolMetadata, evolves⟩
  cases aborts with
  | refuses | accepts | hasNothing => exact List.Subset.refl _
  | @callsBack status report dispatch _ _ =>
    rw [(proc.completeDispatch_sameControl dispatch status report).2.1]
    exact List.erase_subset

theorem Aborts.narrows (aborts : Aborts env proc session after) : proc.Narrows after := by
  have marked : proc.Narrows
      (proc.withQueue (proc.txQueue.disableFasttack session).2) :=
    .of_leaves (.withQueue proc _) (.withQueue (.disableFasttack proc.txQueue session))
  cases aborts with
  | absent => exact .of_leaves (.refl proc) (.refl proc)
  | endsBackoff =>
    have quiet := resumeFromBackoffStep_quiet env
      (proc.withQueue (proc.txQueue.disableFasttack session).2)
    exact marked.trans (.of_leaves quiet.toLeaves quiet.queueEvolves)
  | whileIdle =>
    have current := Quiet.withCurrent
      (proc.withQueue (proc.txQueue.disableFasttack session).2) session
    exact (marked.trans (.of_leaves current.toLeaves current.queueEvolves)).trans
      (dropUnsentCurrentMessage_narrows _)
  | byTransport _ _ _ transportAborts => exact marked.trans transportAborts.narrows
  | refused =>
    have written := TxQueue.Evolves.trans marked.evolves
      (.setTransmissionsResults _ proc.clockTime session transmitCompleteFail none)
    have quiet := checkQueue_quiet env
      (proc.withQueue
        ((proc.txQueue.disableFasttack session).2.setTransmissionsResults
          proc.clockTime session transmitCompleteFail none).2)
    exact (Narrows.of_leaves (.withQueue proc _) (.withQueue written)).trans
      (.of_leaves quiet.toLeaves quiet.queueEvolves)

theorem TransportAborts.watchful (aborts : TransportAborts env proc session status after)
    (watchful : proc.Watchful) (reaches : proc.AbortReaches env session) : after.Watchful := by
  cases aborts with
  | refuses | accepts | hasNothing => exact watchful
  | @callsBack _ _ dispatch answer oldest =>
    obtain ⟨mem, isSession⟩ := oldestDispatch_mem oldest
    refine watchful.completeDispatch (fun queued => ?_) _ _
    rw [isSession] at queued ⊢
    exact reaches _ _ answer dispatch mem isSession queued

theorem Aborts.watchful (aborts : Aborts env proc session after) (watchful : proc.Watchful)
    (reaches : proc.AbortReaches env session) : after.Watchful := by
  have marked := watchful.disableFasttack session
  have narrows : proc.Narrows
      (proc.withQueue (proc.txQueue.disableFasttack session).2) :=
    .of_leaves (.withQueue proc _) (.withQueue (.disableFasttack proc.txQueue session))
  cases aborts with
  | absent => exact watchful
  | endsBackoff => exact resumeFromBackoffStep_watchful marked.consistent marked.sent env
  | whileIdle =>
    have current : ((proc.withQueue (proc.txQueue.disableFasttack session).2).withCurrent
        session).Watchful :=
      ⟨⟨marked.consistent, marked.timed, marked.sent⟩, marked.awake⟩
    exact current.dropUnsentCurrentMessage
  | byTransport _ _ _ transportAborts =>
    exact transportAborts.watchful marked (narrows.abortReaches watchful.consistent reaches)
  | refused =>
    have carries := TxQueue.Carries.setTransmissionsResults
      (proc.txQueue.disableFasttack session).2 proc.clockTime session
      transmitCompleteFail none
    have evolves := TxQueue.Evolves.setTransmissionsResults
      (proc.txQueue.disableFasttack session).2 proc.clockTime session
      transmitCompleteFail none
    have written : (proc.withQueue
        ((proc.txQueue.disableFasttack session).2.setTransmissionsResults
          proc.clockTime session transmitCompleteFail none).2).Steady :=
      ⟨evolves.consistent marked.consistent, watchful.timed, marked.sent.carries carries rfl⟩
    exact written.checkQueue env

theorem Watchful.abortAll (watchful : proc.Watchful) {sessions : List SessionId}
    (reaches : ∀ session ∈ sessions, proc.AbortReaches env session) :
    (proc.abortAll env sessions).Watchful := by
  refine And.left (run_invariant_of_mem
    (fun reached : TxProcess => reached.Watchful ∧
      ∀ session ∈ sessions, reached.AbortReaches env session)
    sessions ?_ ⟨watchful, reaches⟩)
  rintro reached session mem ⟨reachedWatchful, reachedReaches⟩
  have aborts := reached.abortTransmission_aborts env session
  refine ⟨aborts.watchful reachedWatchful (reachedReaches session mem), ?_⟩
  exact fun other isMember =>
    aborts.narrows.abortReaches reachedWatchful.consistent (reachedReaches other isMember)

/-! ## Sending -/

theorem dropUnsentCurrentMessage_watchful (consistent : proc.txQueue.Consistent)
    (timed : proc.BackoffTimed) (sent : proc.SentExcept (some proc.currentTxSessionId))
    (queued : proc.txQueue.contains proc.currentTxSessionId = true)
    (noProtocolFrame : proc.isProtocolFrame = false) : proc.dropUnsentCurrentMessage.Watchful := by
  have evolves := TxQueue.Evolves.disableFasttack proc.txQueue proc.currentTxSessionId
  have carries := TxQueue.Carries.disableFasttack proc.txQueue proc.currentTxSessionId
  have still : (proc.txQueue.disableFasttack proc.currentTxSessionId).2.contains
      proc.currentTxSessionId = true := by
    obtain ⟨element, found⟩ := Option.isSome_iff_exists.mp queued
    obtain ⟨marked, foundNow⟩ := carries.kept _ element found
    simp [TxQueue.contains, foundNow]
  have decoded : (proc.withQueue (proc.txQueue.disableFasttack
      proc.currentTxSessionId).2).completedSession proc.currentTxSessionId =
        some proc.currentTxSessionId := by
    simp [completedSession, withQueue, noProtocolFrame]
  rcases (proc.withQueue (proc.txQueue.disableFasttack
      proc.currentTxSessionId).2).onZwaveTransportSendDataComplete_cases
      transmitCompleteFail none proc.currentTxSessionId with
    ⟨session, isSession, delivers⟩ | ⟨undecoded, _⟩
  · rw [decoded] at isSession
    cases isSession
    exact delivers.watchful (evolves.consistent consistent) timed (sent.carries carries rfl) still
  · rw [decoded] at undecoded
    cases undecoded

/-- The process is asked to send and finds a session that only waits for replies. -/
def LooksIdly (env : Surroundings) (proc : TxProcess) : Prop :=
  ∃ element, proc.nextElement env = some element ∧
    element.transmissionTime ≠ 0 ∧
    proc.txQueue.transportCompletionStepIsPending element.zwaveTxSessionId = false

/-- The session of the frame that is to be dropped is not taken for the address of
the metadata of a protocol frame. -/
structure DropsByName
    (env : Surroundings)
    (proc : TxProcess)
    (element : QueueElement) : Prop where
  expired : proc.isDiscardTimeoutExpired element = true -> proc.isProtocolFrame = false
  refused : element.transmissionTime = 0 -> element.transmissionTimestamp = 0 ->
    env.transportSendData ≠ .ok -> env.transportSendData ≠ .busy ->
      element.options.transport.isProtocolFrame = false

theorem TransportAborts.sentExcept (aborts : TransportAborts env proc session status after)
    (sent : proc.SentExcept none) :
    after.SentExcept (some session) ∧ proc.txQueue.Carries after.txQueue := by
  have weaker : proc.SentExcept (some session) := fun other element _ => sent other element nofun
  cases aborts with
  | refuses | accepts | hasNothing => exact ⟨weaker, .refl _⟩
  | @callsBack status report dispatch _ oldest =>
    have taken := sent.takeDispatch dispatch
    rw [(oldestDispatch_mem oldest).2] at taken
    unfold completeDispatch
    rcases (proc.takeDispatch dispatch).onZwaveTransportSendDataComplete_cases status
      report dispatch.user with ⟨decoded, _, delivers⟩ | ⟨_, undefined⟩
    · have carries : proc.txQueue.Carries
          ((proc.takeDispatch dispatch).onZwaveTransportSendDataComplete status report
            dispatch.user).txQueue := by
        rw [delivers.txQueue]
        exact .setTransmissionsResults _ _ _ _ _
      exact ⟨taken.carries carries delivers.inFlight, carries⟩
    · rw [undefined]
      exact ⟨taken, .refl _⟩

theorem handToTransport_watchful (steady : proc.Steady)
    (found : proc.txQueue.find element.zwaveTxSessionId = some element)
    {previousSession : SessionId} {previousState : TxState}
    (notBackingOff : previousState ≠ .backoff)
    (byName : env.transportSendData ≠ .ok -> env.transportSendData ≠ .busy ->
      element.options.transport.isProtocolFrame = false) :
    (handToTransport env previousSession previousState
      (proc.handedOver element) element).Watchful := by
  have evolves := TxQueue.Evolves.setTransmissionTimestamp proc.txQueue proc.clockTime
    element.zwaveTxSessionId
  have consistent := evolves.consistent steady.consistent
  have lookups : ∀ session, (proc.handedOver element).txQueue.find session =
      if session = element.zwaveTxSessionId then
        some (TxQueue.sentAt proc.clockTime element)
      else proc.txQueue.find session := by
    intro session
    refine (TxQueue.find_setTransmissionTimestamp proc.txQueue proc.clockTime
      element.zwaveTxSessionId session).trans ?_
    rw [found]
    rfl
  have others : (proc.handedOver element).SentExcept (some element.zwaveTxSessionId) := by
    intro session other differs foundOther isSent unanswered
    rw [lookups, if_neg fun same => differs (by rw [same])] at foundOther
    exact steady.sent session other (Option.some_ne_none _) foundOther isSent unanswered
  have isQueued : (proc.handedOver element).txQueue.contains element.zwaveTxSessionId = true := by
    simp [TxQueue.contains, lookups]
  unfold handToTransport
  split
  next =>
    have isWith : dispatchOf element ∈ (proc.handedOver element).inFlight ++ [dispatchOf element] :=
      List.mem_append_right _ List.mem_cons_self
    refine ⟨⟨consistent, .of_not_backoff (by rintro ⟨⟩), ?_⟩, fun _ => .inr (.inr ?_)⟩
    · intro session other _ foundOther isSent unanswered
      by_cases same : session = element.zwaveTxSessionId
      · exact ⟨dispatchOf element, isWith, same.symm⟩
      · obtain ⟨dispatch, mem, isSession⟩ :=
          others session other (by simpa using same) foundOther isSent unanswered
        exact ⟨dispatch, List.mem_append_left _ mem, isSession⟩
    · exact ⟨dispatchOf element, isWith, Option.isSome_iff_exists.mp isQueued⟩
  next =>
    refine ⟨⟨?_, .of_not_backoff notBackingOff, ?_⟩, fun _ => .inr (.inl (Option.some_ne_none _))⟩
    · exact (TxQueue.Evolves.resetTransmissionTimestamp _ _).consistent consistent
    · intro session other _ foundOther isSent unanswered
      change ((proc.handedOver element).txQueue.resetTransmissionTimestamp
        element.zwaveTxSessionId).2.find session = some other at foundOther
      rw [TxQueue.find_resetTransmissionTimestamp] at foundOther
      split at foundOther
      next =>
        obtain ⟨old, _, changed⟩ := Option.map_eq_some_iff.mp foundOther
        rw [← changed] at isSent
        exact absurd rfl isSent
      next differs =>
        exact others session other (by simpa using differs) foundOther isSent unanswered
  next notOk notBusy =>
    refine dropUnsentCurrentMessage_watchful consistent
      (.of_not_backoff (by rintro ⟨⟩)) others isQueued ?_
    exact byName (fun isOk => notOk isOk) (fun isBusy => notBusy isBusy)

theorem LooksAt.watchful (looks : LooksAt env proc element after)
    (steady : proc.Steady) (notBackingOff : proc.state ≠ .backoff)
    (found : proc.txQueue.find element.zwaveTxSessionId = some element)
    (retries : element.transmissionTime ≠ 0 ->
      proc.txQueue.transportCompletionStepIsPending element.zwaveTxSessionId = false ->
        proc.backoffTimer ≠ none)
    (byName : proc.DropsByName env element) :
    after.Watchful := by
  have queued : proc.txQueue.contains element.zwaveTxSessionId = true := by
    simp [TxQueue.contains, found]
  cases looks with
  | discards expired =>
    refine dropUnsentCurrentMessage_watchful steady.consistent (.of_not_backoff notBackingOff)
      (fun session other _ => steady.sent session other (Option.some_ne_none _)) queued ?_
    exact byName.expired expired
  | completes answered pending =>
    have completes := (proc.withCurrent
      element.zwaveTxSessionId).transmissionCompletedStep_completes env
        element.zwaveTxSessionId
    obtain ⟨completed, awake | ⟨_, passedOver⟩⟩ :=
      completes.watchful ⟨steady.consistent, steady.timed, steady.sent⟩
    · exact ⟨completed, awake⟩
    · refine absurd (fun other foundOther => ?_) passedOver
      have isOther : proc.txQueue.find element.zwaveTxSessionId = some other := foundOther
      rw [TxQueue.transportCompletionStepIsPending, isOther] at pending
      exact pending
  | waits answered notPending =>
    exact ⟨⟨steady.consistent, steady.timed, steady.sent⟩,
      fun _ => .inr (.inl (retries answered notPending))⟩
  | expires unanswered sent late =>
    have aborts := (proc.withCurrent element.zwaveTxSessionId).transportAbortSendData_aborts
      env element.zwaveTxSessionId
    generalize transportAbortSendData env
      (proc.withCurrent element.zwaveTxSessionId) element.zwaveTxSessionId = answer at aborts
    obtain ⟨sentExcept, carries⟩ := aborts.sentExcept steady.sent
    have control := aborts.sameControl
    have current : answer.2.currentTxSessionId = element.zwaveTxSessionId :=
      control.currentTxSessionId
    refine dropUnsentCurrentMessage_watchful
      (aborts.evolves.consistent steady.consistent)
      (.of_not_backoff (control.state.trans_ne notBackingOff)) ?_ ?_ rfl
    · exact current.symm ▸ sentExcept
    · obtain ⟨now, foundNow⟩ := carries.kept element.zwaveTxSessionId element found
      change answer.2.txQueue.contains answer.2.currentTxSessionId = true
      rw [current]
      simp [TxQueue.contains, foundNow]
  | staysInFlight unanswered sent =>
    obtain ⟨dispatch, mem, isSession⟩ :=
      steady.sent element.zwaveTxSessionId element (Option.some_ne_none _) found sent
        unanswered
    refine ⟨⟨steady.consistent, steady.timed, steady.sent⟩,
      fun _ => .inr (.inr ⟨dispatch, mem, element, ?_⟩)⟩
    rw [isSession]
    exact found
  | handsOver notExpired unanswered unsent =>
    exact handToTransport_watchful steady found notBackingOff (byName.refused unanswered unsent)

theorem Sends.watchful (sends : Sends env proc after) (steady : proc.Steady)
    (retries : proc.LooksIdly env -> proc.backoffTimer ≠ none)
    (byName : ∀ element, proc.nextElement env = some element -> proc.DropsByName env element) :
    after.Watchful := by
  cases sends with
  | checks => exact steady.checkQueue env
  | nothing nothing =>
    refine ⟨steady, fun nonempty => ?_⟩
    rw [nothing] at nonempty
    cases nonempty
  | losesCurrent =>
    have idle : (proc.withState .idle).state ≠ .backoff := nofun
    have lost : (proc.withState .idle).Steady :=
      ⟨steady.consistent, .of_not_backoff idle, steady.sent⟩
    exact lost.checkQueue env
  | looksAt notBackingOff next looks =>
    exact looks.watchful steady notBackingOff
      (steady.consistent.distinct.find_of_mem (nextElement_mem next))
      (fun answered notPending => retries ⟨_, next, answered, notPending⟩) (byName _ next)

/-! ## Completions during a back-off -/

/-- The completion step of a session checks the queue while a back-off lasts: it puts
the frame back, starts its back-off or takes up another one. -/
def ChecksDuringBackoff (proc : TxProcess) (session : SessionId) : Prop :=
  proc.CompletionBacksOff session ∨
    ∃ element, proc.txQueue.find session = some element ∧
      element.transportCompletionStepPending = true ∧
      proc.isToBeRequeued element = true

/-- A frame that need not wait for the end of a back-off could be sent after the
completion step of a session. -/
def BypassCouldGo (env : Surroundings) (proc : TxProcess) (session : SessionId) : Prop :=
  env.apiTransportIsBusy = false ∧
    ∃ other element, proc.txQueue.find other = some element ∧
      element.options.transport.ignoreIncomingFramesBackOff = true ∧
      element.options.transport.validParentSessionId = false ∧
      (element.transmissionTimestamp = 0 ∨ other = session ∧ proc.isToBeRequeued element = true)

theorem canIgnoreIncomingFrames_backoff (backingOff : proc.state = .backoff)
    (ignores : proc.canIgnoreIncomingFrames env = true) :
    env.apiTransportIsBusy = false ∧
      ∃ element ∈ proc.txQueue.elements, element.transmissionTimestamp = 0 ∧
        element.options.transport.ignoreIncomingFramesBackOff = true ∧
        element.options.transport.validParentSessionId = false := by
  unfold canIgnoreIncomingFrames at ignores
  rw [backingOff] at ignores
  dsimp only at ignores
  unfold fetchRadioIdleBackoffBypass at ignores
  split at ignores
  next element fetched =>
    split at fetched
    next => cases fetched
    next notBusy =>
      refine ⟨Bool.not_eq_true _ ▸ notBusy, ?_⟩
      split at fetched
      next bypass best =>
        obtain ⟨mem, passes⟩ := TxQueue.scan_mem best
        simp only [Bool.and_eq_true, beq_iff_eq, Bool.not_eq_true'] at passes
        exact ⟨bypass, mem, passes.1, passes.2.1, passes.2.2⟩
      next => cases fetched
  next => cases ignores

theorem checkQueue_of_backsOff (backsOff : proc.BacksOff)
    (unbroken : proc.canIgnoreIncomingFrames env = false) : proc.checkQueue env = proc := by
  have broken : ∀ flag after, ¬ Breaks env proc flag after := by
    intro flag after breaks
    cases breaks with
    | nothing notBackingOff => exact notBackingOff backsOff.1
    | expectedFrames _ reason =>
      rw [backsOff.2] at reason
      cases reason
    | preempts _ _ ignores =>
      rw [unbroken] at ignores
      cases ignores
  have checks := checkQueue_checks env proc
  generalize proc.checkQueue env = checked at checks
  cases checks with
  | keepsBackingOff => rfl
  | startsBackoff breaks | asksForNext breaks | rests breaks => exact absurd breaks (broken _ _)

theorem bypassCouldGo_of_canIgnore (consistent : proc.txQueue.Consistent)
    (evolves : proc.QueueEvolves after)
    (unsent : ∀ other element, after.txQueue.find other = some element ->
      element.transmissionTimestamp = 0 ->
        ∀ old, proc.txQueue.find other = some old ->
          old.transmissionTimestamp = 0 ∨ other = session ∧ proc.isToBeRequeued old = true)
    (backingOff : after.state = .backoff)
    (ignores : after.canIgnoreIncomingFrames env = true) :
    proc.BypassCouldGo env session := by
  obtain ⟨notBusy, element, mem, notSent, bypasses, standalone⟩ :=
    canIgnoreIncomingFrames_backoff backingOff ignores
  have found := (evolves.consistent consistent).distinct.find_of_mem mem
  obtain ⟨old, foundOld, same⟩ := evolves.find consistent _ element found
  rw [same.transport] at bypasses standalone
  exact ⟨notBusy, _, old, foundOld, bypasses, standalone,
    unsent _ element found notSent old foundOld⟩

theorem Completes.eventQueue_subset (completes : Completes env proc session completed) :
    proc.eventQueue ⊆ completed.eventQueue := by
  cases completes with
  | absent => exact (checkQueue_quiet env (proc.withState .idle)).eventQueue_subset
  | redundant => exact List.Subset.refl _
  | requeues => exact (checkQueue_quiet env (proc.requeued session)).eventQueue_subset
  | @backsOff element =>
    exact (checkQueue_quiet env
      ((proc.calledBack element).backOffFor session)).eventQueue_subset
  | @finalizes element _ _ state parent =>
    exact ((Quiet.removed (proc.calledBack element) session state parent).trans
      ((restorePreemptedBackoffIfNeeded_quiet env _).trans
        (checkQueue_quiet env _))).eventQueue_subset

/-- The completion step of another session leaves the timer of a back-off alone when
it ends without one, unless a frame breaks a back-off meanwhile. -/
theorem Completes.timer_kept (completes : Completes env proc session completed)
    (consistent : proc.txQueue.Consistent) (backsOff : proc.BacksOff)
    (undisturbed : proc.ChecksDuringBackoff session -> ¬ proc.BypassCouldGo env session)
    (ended : completed.state ≠ .backoff) : completed.backoffTimer = proc.backoffTimer := by
  have kept : ∀ before : TxProcess, before.state ≠ .backoff ->
      before.backoffTimer = proc.backoffTimer ->
      (before.checkQueue env).state ≠ .backoff ->
        (before.checkQueue env).backoffTimer = proc.backoffTimer := by
    intro before notBackingOff timer stillNot
    rcases checkQueue_of_not_backoff notBackingOff env with
      ⟨reason, _, started⟩ | ⟨_, asked⟩ | ⟨_, rested⟩
    · rw [started] at stillNot
      exact absurd rfl stillNot
    · rw [asked]
      exact timer
    · rw [rested]
      exact timer
  have goesOn : ∀ after : TxProcess, after.BacksOff -> proc.QueueEvolves after ->
      proc.ChecksDuringBackoff session ->
      (∀ other element, after.txQueue.find other = some element ->
        element.transmissionTimestamp = 0 ->
          ∀ old, proc.txQueue.find other = some old ->
            old.transmissionTimestamp = 0 ∨ other = session ∧ proc.isToBeRequeued old = true) ->
      (after.checkQueue env).state = .backoff := by
    intro after afterBacksOff evolves checks unsent
    rw [checkQueue_of_backsOff afterBacksOff]
    · exact afterBacksOff.1
    · by_contra ignores
      exact undisturbed checks (bypassCouldGo_of_canIgnore consistent evolves unsent
        afterBacksOff.1 (Bool.not_eq_false _ ▸ ignores))
  have called : ∀ element other now, (proc.calledBack element).txQueue.find other = some now ->
      now.transmissionTimestamp = 0 -> ∀ old, proc.txQueue.find other = some old ->
        old.transmissionTimestamp = 0 := by
    intro element other now found notSent old foundOld
    change (proc.txQueue.consumeTransportCompletionStepPending
      element.zwaveTxSessionId).2.find other = some now at found
    rw [TxQueue.find_consumeTransportCompletionStepPending] at found
    split at found
    next same =>
      rw [← same, foundOld] at found
      cases found
      exact notSent
    next =>
      rw [foundOld] at found
      cases found
      exact notSent
  cases completes with
  | absent => exact kept (proc.withState .idle) nofun rfl ended
  | redundant => exact absurd backsOff.1 ended
  | @requeues element found pending requeues =>
    refine absurd (goesOn (proc.requeued session) backsOff ?_
      (.inr ⟨element, found, pending, requeues⟩) ?_) ended
    · exact proc.requeued_evolves session
    · intro other now foundNow notSent old foundOld
      by_cases same : other = session
      · rw [same, found] at foundOld
        cases foundOld
        exact .inr ⟨same, requeues⟩
      · change ((proc.consumed session).txQueue.disableFasttack
          session).2.resetTransmissionTimestamp session |>.2.find other = some now at foundNow
        rw [TxQueue.find_resetTransmissionTimestamp, if_neg same, TxQueue.find_disableFasttack,
          if_neg same] at foundNow
        change (proc.txQueue.consumeTransportCompletionStepPending session).2.find other =
          some now at foundNow
        rw [TxQueue.find_consumeTransportCompletionStepPending, if_neg same, foundOld]
          at foundNow
        cases foundNow
        exact .inl notSent
  | @backsOff element found pending notRequeued isBackedOff =>
    refine absurd (goesOn ((proc.calledBack element).backOffFor session) ⟨rfl, rfl⟩ ?_
      (.inl ⟨element, found, pending, notRequeued, .inl isBackedOff⟩) ?_) ended
    · exact (proc.calledBack_evolves element).trans (Quiet.backOffFor _ session).queueEvolves
    · exact fun other now foundNow notSent old foundOld =>
        .inl (called element other now foundNow notSent old foundOld)
  | @finalizes element found pending state parent notRequeued notBackedOff parks =>
    have removed := Quiet.removed (proc.calledBack element) session state parent
    have calledConsistent := (proc.calledBack_evolves element).consistent consistent
    have removedConsistent := removed.shrinks.consistent calledConsistent
    have quiet := restorePreemptedBackoffIfNeeded_quiet env
      ((proc.calledBack element).removed session state parent)
    rcases restorePreemptedBackoffIfNeeded_outcome removedConsistent env with
      ⟨backingOff, _, reason, notFlushing, other, stacked, waiting, foundWaiting, responses⟩ |
        ⟨timer, _, wasBackingOff⟩
    · have evolves := (proc.calledBack_evolves element).trans removed.queueEvolves
      obtain ⟨wasStacked, differs⟩ := List.mem_filter.mp stacked
      obtain ⟨old, foundOld, same⟩ := evolves.find consistent other waiting foundWaiting
      have waits : proc.WaitsOnStack other :=
        ⟨wasStacked, old, foundOld, by have := same.responses; omega⟩
      refine absurd (goesOn _ ⟨backingOff, reason⟩ (evolves.trans quiet.queueEvolves)
        (.inl ⟨element, found, pending, notRequeued, .inr ⟨notFlushing, other, waits,
          by simpa using differs⟩⟩) ?_) ended
      intro queued now foundNow notSent old foundOld
      have foundCalled := (removed.trans quiet).shrinks.find_some calledConsistent foundNow
      exact .inl (called element queued now foundCalled notSent old foundOld)
    · exact kept _ (fun backingOff => parks.state_ne (wasBackingOff backingOff)) timer ended

theorem Steady.completeDuringBackoff (steady : proc.Steady) (backingOff : proc.state = .backoff)
    (undisturbed : proc.BacksOff -> session ≠ proc.currentTxSessionId ->
      proc.ChecksDuringBackoff session -> ¬ proc.BypassCouldGo env session) :
    (proc.completeDuringBackoff env session).Steady ∧
      ((proc.completeDuringBackoff env session).Awake ∨
        (proc.completeDuringBackoff env session = proc ∧
          ¬ proc.Rouses (.sendOperationComplete session))) := by
  have completes := proc.transmissionCompletedStep_completes env session
  obtain ⟨completed, awake⟩ := completes.watchful steady
  unfold TxProcess.completeDuringBackoff
  dsimp only
  split
  next displaced =>
    have backsOff : proc.BacksOff := ⟨backingOff, displaced.2⟩
    split
    next ended =>
      have timer := completes.timer_kept steady.consistent backsOff
        (undisturbed backsOff displaced.1) ended
      refine ⟨⟨completed.consistent, fun _ => ?_, completed.sent⟩, ?_⟩
      · rcases steady.timed backingOff with armed | ⟨arming, mem⟩
        · exact .inl (by rw [timer]; exact armed)
        · exact .inr ⟨arming, completes.eventQueue_subset mem⟩
      · rcases awake with awake | ⟨same, _⟩
        · exact .inl awake
        · rw [same] at ended
          exact absurd backingOff ended
    next =>
      split
      next moved =>
        refine ⟨⟨completed.consistent, completed.timed, completed.sent⟩, ?_⟩
        rcases awake with awake | ⟨same, _⟩
        · exact .inl awake
        · rw [same] at moved
          exact absurd rfl moved
      next => exact ⟨completed, awake⟩
  next => exact ⟨completed, awake⟩

/-! ## Received frames -/

section

variable (watchful : proc.Watchful)
include watchful

theorem Watchful.decrementExpectedResponses (session : SessionId) :
    (proc.withQueue (proc.txQueue.decrementExpectedResponses session).2).Watchful := by
  have carries := TxQueue.Carries.decrementAlongParents (proc.txQueue.size + 1)
    proc.txQueue session
  have evolves := TxQueue.Evolves.decrementAlongParents (proc.txQueue.size + 1)
    proc.txQueue session
  refine ⟨⟨evolves.consistent watchful.consistent, watchful.timed,
    watchful.sent.carries carries rfl⟩, ?_⟩
  exact watchful.awake.transfer carries rfl (List.Subset.refl _) fun _ mem _ => mem

theorem Watchful.handleReply (env : Surroundings) (node : NodeId) (frame : List UInt8) :
    (proc.handleReply env node frame).Watchful := by
  unfold TxProcess.handleReply
  split
  · exact watchful
  · split
    · dsimp only
      split
      · exact (resumeFromBackoffStep_watchful watchful.consistent watchful.sent
          env).decrementExpectedResponses _
      · exact watchful.decrementExpectedResponses _
    · exact watchful

theorem Watchful.withExpectedFrames (frames : IncomingFrames) :
    (proc.withExpectedFrames frames).Watchful :=
  ⟨⟨watchful.consistent, watchful.timed, watchful.sent⟩, watchful.awake⟩

theorem Watchful.inspectReceivedFrameStep
    (env : Surroundings) (node : NodeId) (frame : List UInt8) :
    (proc.inspectReceivedFrameStep env node frame).Watchful := by
  unfold TxProcess.inspectReceivedFrameStep
  split
  · split
    · have decremented := watchful.withExpectedFrames
        (proc.expectedIncomingFrames.decrementFrames node)
      dsimp only
      split
      · exact resumeFromBackoffStep_watchful decremented.consistent decremented.sent env
      · exact decremented
    · exact watchful
  · split
    · split
      · exact ⟨⟨watchful.consistent, fun _ => .inl nofun, watchful.sent⟩,
          fun _ => .inr (.inl nofun)⟩
      · exact watchful
    · exact watchful.handleReply env node frame

theorem Watchful.setExpectedFrames (env : Surroundings) (node : NodeId) (count : Nat) :
    (proc.setExpectedFrames env node count).Watchful := by
  have set := watchful.withExpectedFrames (proc.expectedIncomingFrames.setFrames node count)
  unfold TxProcess.setExpectedFrames
  dsimp only
  split
  · exact resumeFromBackoffStep_watchful set.consistent set.sent env
  · exact set

end

/-! ## The flush and the watchdog -/

theorem Watchful.flushCurrent (watchful : proc.Watchful)
    (reaches : ∀ session, proc.AbortReaches env session) :
    (proc.flushCurrent env).Watchful ∧ proc.Narrows (proc.flushCurrent env) := by
  have resumed : (proc.flushResumed env).Watchful ∧ proc.Narrows (proc.flushResumed env) := by
    unfold flushResumed
    split
    · have quiet := resumeFromBackoffStep_quiet env proc
      exact ⟨resumeFromBackoffStep_watchful watchful.consistent watchful.sent env,
        .of_leaves quiet.toLeaves quiet.queueEvolves⟩
    · exact ⟨watchful, .of_leaves (.refl _) (.refl _)⟩
  rw [flushCurrent_eq]
  generalize proc.flushResumed env = current at resumed
  obtain ⟨currentWatchful, narrows⟩ := resumed
  split
  · have aborts := current.transportAbortSendData_aborts env current.currentTxSessionId
    have aborted := aborts.watchful currentWatchful
      (narrows.abortReaches watchful.consistent (reaches _))
    exact ⟨aborted.dropUnsentCurrentMessage,
      (narrows.trans aborts.narrows).trans (dropUnsentCurrentMessage_narrows _)⟩
  · exact ⟨currentWatchful, narrows⟩

theorem Watchful.flushQueueResetStep (watchful : proc.Watchful)
    (reaches : ∀ session, proc.AbortReaches env session) :
    (proc.flushQueueResetStep env).2.Watchful := by
  have flushing : (proc.withFlush true).Watchful :=
    ⟨⟨watchful.consistent, watchful.timed, watchful.sent⟩, watchful.awake⟩
  have flushingReaches : ∀ session, (proc.withFlush true).AbortReaches env session := reaches
  unfold TxProcess.flushQueueResetStep
  dsimp only
  split
  next => exact flushing
  next =>
    obtain ⟨current, narrows⟩ := flushing.flushCurrent flushingReaches
    exact current.abortAll fun session _ =>
      narrows.abortReaches watchful.consistent (flushingReaches session)

theorem Watchful.forceFail (watchful : proc.Watchful) (env : Surroundings) (session : SessionId) :
    (proc.forceFail env session).Watchful := by
  have marked := watchful.disableFasttack session
  have carries := TxQueue.Carries.setTransmissionsResults
    (proc.txQueue.disableFasttack session).2 proc.clockTime session
    transmitCompleteFail none
  have failed : (proc.failed session).Steady :=
    ⟨(proc.failed_evolves session).consistent watchful.consistent, watchful.timed,
      marked.sent.carries carries rfl⟩
  have completes := (proc.failed session).transmissionCompletedStep_completes env
    session
  obtain ⟨completed, awake | ⟨_, passedOver⟩⟩ := completes.watchful failed
  · exact ⟨completed, awake⟩
  · refine absurd (fun element found => ?_) passedOver
    obtain ⟨_, _, earlier, _, written⟩ := find_failed found
    rw [written]
    rfl

theorem Watchful.serviceInFlightWatchdog (watchful : proc.Watchful)
    (reaches : proc.isStuckInFlight = true -> ∀ session ∈ proc.stuckFamily,
      proc.clearProtocolFrame.AbortReaches env session) :
    (proc.serviceInFlightWatchdog env).Watchful := by
  unfold TxProcess.serviceInFlightWatchdog
  split
  next stuck =>
    have cleared : proc.clearProtocolFrame.Watchful :=
      ⟨⟨watchful.consistent, watchful.timed, watchful.sent⟩, watchful.awake⟩
    refine run_invariant Watchful (fun reached session reachedWatchful =>
      reachedWatchful.forceFail env session) ?_ _
    refine And.left (run_invariant_of_mem
      (fun reached : TxProcess => reached.Watchful ∧
        ∀ session ∈ proc.stuckFamily, reached.AbortReaches env session)
      proc.stuckFamily ?_ ⟨cleared, reaches stuck⟩)
    rintro reached session mem ⟨reachedWatchful, reachedReaches⟩
    have aborts := reached.transportAbortSendData_aborts env session
    refine ⟨aborts.watchful reachedWatchful (reachedReaches session mem), ?_⟩
    exact fun other isMember =>
      aborts.narrows.abortReaches reachedWatchful.consistent (reachedReaches other isMember)
  next => exact watchful

/-! ## Requests -/

theorem evictSubtree_find (fuel : Nat) {proc : TxProcess}
    (consistent : proc.txQueue.Consistent) {element : QueueElement} {session : SessionId}
    (outside : ¬ IsWithin proc.txQueue element.zwaveTxSessionId session) :
    (evictSubtree fuel proc element).txQueue.find session = proc.txQueue.find session := by
  induction fuel generalizing proc element with
  | zero => rfl
  | succ fuel ih =>
    unfold evictSubtree
    split
    next child isNext =>
      obtain ⟨mem, isChild⟩ := TxQueue.getHighestPriorityChild_mem isNext
      have shrinks := evictSubtree_shrinks fuel proc child
      have kept := @ih proc consistent child fun within => outside (within.of_child mem isChild)
      rw [← kept]
      exact ih (shrinks.consistent consistent) fun within =>
        outside (within.of_shrinks shrinks consistent)
    next =>
      refine (consistent.distinct.find_pop element.zwaveTxSessionId session).trans (if_neg ?_)
      rintro rfl
      exact outside .root

theorem Watchful.evictSubtree (watchful : proc.Watchful)
    (outside : ∀ dispatch ∈ proc.inFlight,
      ¬ IsWithin proc.txQueue element.zwaveTxSessionId dispatch.session)
    (fuel : Nat) :
    (evictSubtree fuel proc element).Watchful := by
  have shrinks := evictSubtree_shrinks fuel proc element
  have kept : ∀ dispatch ∈ proc.inFlight,
      (TxProcess.evictSubtree fuel proc element).txQueue.find dispatch.session =
        proc.txQueue.find dispatch.session :=
    fun dispatch mem => evictSubtree_find fuel watchful.consistent (outside dispatch mem)
  obtain ⟨txQueue, callbacks, evicted⟩ := evictSubtree_eq fuel proc element
  rw [evicted] at shrinks kept ⊢
  refine ⟨⟨shrinks.consistent watchful.consistent, watchful.timed, ?_⟩, fun nonempty => ?_⟩
  · intro session queued _ found isSent unanswered
    exact watchful.sent session queued nofun (shrinks.find_some watchful.consistent found) isSent
      unanswered
  · have wasNonempty : proc.txQueue.empty = false := by
      obtain ⟨head, first⟩ := TxQueue.firstInQueue_isSome nonempty
      have found := (shrinks.consistent watchful.consistent).distinct.find_of_mem
        (TxQueue.firstInQueue_mem first)
      exact TxQueue.not_empty_of_find (shrinks.find_some watchful.consistent found)
    rcases watchful.awake wasNonempty with
      ⟨event, mem, rouses⟩ | armed | ⟨dispatch, mem, queued, found⟩
    · refine .inl ⟨event, mem, ?_⟩
      cases event with
      | sendNextMessage | backoffTimerExpired => trivial
      | sendOperationComplete session =>
        exact fun element found => rouses element (shrinks.find_some watchful.consistent found)
      | nodeDeleted | frameReceived => exact rouses.elim
    · exact .inr (.inl armed)
    · exact .inr (.inr ⟨dispatch, mem, queued, (kept dispatch mem).trans found⟩)

theorem Watchful.tryEnqueue (watchful : proc.Watchful)
    (counterFits : proc.txQueue.zwaveTxSessionIdCounter + 1 < 2 ^ 32) (element : QueueElement) :
    (proc.tryEnqueue element).2.Watchful := by
  have consistent := (tryEnqueue_consistent watchful.consistent counterFits element).1
  rcases proc.tryEnqueue_cases element with ⟨accepted, isOk⟩ | ⟨rejected, isFail⟩
  · rw [isOk] at consistent ⊢
    refine ⟨⟨consistent, ?_, ?_⟩, fun _ => .inl ⟨.sendNextMessage, ?_, trivial⟩⟩
    · exact watchful.timed.transfer rfl rfl (List.subset_append_left _ _)
    · intro session queued _ found isSent unanswered
      change (proc.txQueue.enqueue proc.clockTime element).2.find session = some queued
        at found
      rw [watchful.consistent.find_enqueue accepted] at found
      split at found
      next =>
        cases found
        exact absurd rfl isSent
      next => exact watchful.sent session queued nofun found isSent unanswered
    · exact List.mem_append_right _ List.mem_cons_self
  · rw [isFail] at consistent ⊢
    have sameFind : (proc.txQueue.enqueue proc.clockTime element).2.find = proc.txQueue.find := by
      funext session
      rw [TxQueue.find, TxQueue.find, (TxQueue.enqueue_rejected rejected).1]
    have carries : proc.txQueue.Carries
        (proc.txQueue.enqueue proc.clockTime element).2 := by
      constructor
      · rw [sameFind]
        exact (TxQueue.Carries.refl _).earlier
      · rw [sameFind]
        exact (TxQueue.Carries.refl _).kept
    exact ⟨⟨consistent, watchful.timed, watchful.sent.carries carries rfl⟩,
      watchful.awake.transfer carries rfl (List.Subset.refl _) fun _ mem _ => mem⟩

/-- No frame that is with a transport is evicted for a request. -/
def EvictsNothingSent (env : Surroundings) (proc : TxProcess) (request : SendRequest) : Prop :=
  proc.isRejected env request = false ->
    zwaveTxQueueBufferSize ≤ proc.txQueue.size ->
      ∀ evicted, proc.txQueue.findWorstUnsentByQos = some evicted ->
        ∀ dispatch ∈ proc.inFlight,
          ¬ IsWithin proc.txQueue evicted.zwaveTxSessionId dispatch.session

theorem Watchful.sendData (watchful : proc.Watchful)
    (counterFits : proc.txQueue.zwaveTxSessionIdCounter + 2 < 2 ^ 32) {request : SendRequest}
    (evicts : proc.EvictsNothingSent env request) : (proc.sendData env request).2.Watchful := by
  have tried := watchful.tryEnqueue (by omega) (proc.newElement env request)
  have counter := (tryEnqueue_consistent watchful.consistent (by omega)
    (proc.newElement env request)).2.2
  rcases proc.sendData_cases env request with
    ⟨-, fails⟩ | ⟨-, isAccepted, isOk⟩ | ⟨notRejected, refused,
      ⟨-, fails⟩ | ⟨evicted, full, isWorst, triesAgain⟩⟩
  · rw [fails]
    exact watchful
  · rw [isOk, ← tryEnqueue_accepted proc _ isAccepted]
    exact tried
  · rw [tryEnqueue_refused env proc refused] at tried
    rw [fails]
    exact tried
  · rw [tryEnqueue_refused env proc refused] at tried counter
    have elements := refusedRequest_elements env proc refused
    rw [triesAgain]
    refine Watchful.tryEnqueue (tried.evictSubtree ?_ _) ?_ _
    · intro dispatch mem within
      exact evicts notRejected full evicted isWorst dispatch mem (within.congr elements)
    · rw [(evictSubtree_shrinks _ _ _).counter]
      exact Nat.lt_of_le_of_lt (Nat.succ_le_succ counter) counterFits

/-! ## Runs -/

/-- Handling an event leaves the process awake: asked to send, it does not find a
session that only waits for replies unless the timer of a retry is armed, what it drops
it drops by name, and the completion of another session during a back-off does not let
a frame break a back-off that is put back right away. -/
def HandlesAwake (env : Surroundings) (proc : TxProcess) : Event -> Prop
  | .sendNextMessage =>
      (proc.LooksIdly env -> proc.backoffTimer ≠ none) ∧
        ∀ element, proc.nextElement env = some element -> proc.DropsByName env element
  | .sendOperationComplete session =>
      proc.BacksOff -> session ≠ proc.currentTxSessionId ->
        proc.ChecksDuringBackoff session -> ¬ proc.BypassCouldGo env session
  | .nodeDeleted node =>
      ∀ session ∈ proc.txQueue.collectSessionIdsForNode node, proc.AbortReaches env session
  | .backoffTimerExpired _ => True
  | .frameReceived _ _ => True

/-- An action leaves the process awake. -/
def StaysAwake (proc : TxProcess) : Action -> Prop
  | .sendData env request =>
      proc.txQueue.zwaveTxSessionIdCounter + 2 < 2 ^ 32 ∧ proc.EvictsNothingSent env request
  | .transportCompletion session _ _ => proc.CallbackReaches session
  | .abortTransmission env session => proc.AbortReaches env session
  | .flushQueueResetStep env => ∀ session, proc.AbortReaches env session
  | .watchdogTick env =>
      proc.isStuckInFlight = true -> ∀ session ∈ proc.stuckFamily,
        proc.clearProtocolFrame.AbortReaches env session
  | .handleNextEvent env =>
      ∀ event, proc.eventQueue.head? = some event -> proc.takeEvent.HandlesAwake env event
  | _ => True

section

variable (watchful : proc.Watchful)
include watchful

theorem Watchful.takeEvent {rest : List Event} (queued : proc.eventQueue = event :: rest) :
    proc.takeEvent.txQueue.Consistent ∧ proc.takeEvent.SentExcept none ∧
      ((∀ arming, event ≠ .backoffTimerExpired arming) -> proc.takeEvent.Steady) ∧
      (¬ proc.Rouses event -> proc.takeEvent.Watchful) := by
  have others : ∀ other ∈ proc.eventQueue, other ≠ event -> other ∈ proc.takeEvent.eventQueue := by
    intro other mem differs
    rw [queued] at mem
    change other ∈ proc.eventQueue.tail
    rw [queued]
    exact (List.mem_cons.mp mem).resolve_left differs
  have steady : (∀ arming, event ≠ .backoffTimerExpired arming) -> proc.takeEvent.Steady := by
    intro noExpiry
    refine ⟨watchful.consistent, fun backingOff => ?_, watchful.sent⟩
    rcases watchful.timed backingOff with armed | ⟨arming, mem⟩
    · exact .inl armed
    · exact .inr ⟨arming, others _ mem (noExpiry arming).symm⟩
  refine ⟨watchful.consistent, watchful.sent, steady, fun passedOver => ⟨steady ?_, ?_⟩⟩
  · rintro arming rfl
    exact passedOver trivial
  · intro nonempty
    rcases watchful.awake nonempty with ⟨other, mem, rouses⟩ | armed | inFlight
    · refine .inl ⟨other, others other mem ?_, ?_⟩
      · rintro rfl
        exact passedOver rouses
      · cases other with
        | sendNextMessage | backoffTimerExpired => trivial
        | sendOperationComplete => exact rouses
        | nodeDeleted | frameReceived => exact rouses.elim
    · exact .inr (.inl armed)
    · exact .inr (.inr inFlight)

theorem Watchful.handleNextEvent
    (handles : ∀ event, proc.eventQueue.head? = some event ->
      proc.takeEvent.HandlesAwake env event) :
    (proc.handleNextEvent env).Watchful := by
  unfold TxProcess.handleNextEvent
  split
  next => exact watchful
  next event rest queued =>
    obtain ⟨consistent, sent, steady, stays⟩ := watchful.takeEvent queued
    have handled := handles event (by rw [queued]; rfl)
    cases event with
    | sendNextMessage =>
      exact (proc.takeEvent.handleSendNextMessage_sends env).watchful
        (steady nofun) handled.1 handled.2
    | sendOperationComplete session =>
      have outcome : (proc.takeEvent.handleEvent env
            (.sendOperationComplete session)).Steady ∧
          ((proc.takeEvent.handleEvent env
            (.sendOperationComplete session)).Awake ∨
            (proc.takeEvent.handleEvent env
              (.sendOperationComplete session) = proc.takeEvent ∧
              ¬ proc.takeEvent.Rouses (.sendOperationComplete session))) := by
        dsimp only [handleEvent]
        split
        next =>
          exact (proc.takeEvent.transmissionCompletedStep_completes env
            session).watchful (steady nofun)
        next backingOff =>
          exact (steady nofun).completeDuringBackoff (not_not.mp backingOff) handled
      obtain ⟨completed, awake | ⟨same, passedOver⟩⟩ := outcome
      · exact ⟨completed, awake⟩
      · rw [same]
        exact stays passedOver
    | backoffTimerExpired => exact resumeFromBackoffStep_watchful consistent sent env
    | nodeDeleted node => exact (stays id).abortAll handled
    | frameReceived node frame => exact (stays id).inspectReceivedFrameStep env node frame

theorem Watchful.postEvent (event : Event) : (proc.postEvent event).Watchful := by
  have events : proc.eventQueue ⊆ (proc.postEvent event).eventQueue := List.subset_append_left _ _
  exact ⟨⟨watchful.consistent, watchful.timed.transfer rfl rfl events, watchful.sent⟩,
    watchful.awake.transfer (.refl _) rfl events fun _ mem _ => mem⟩

theorem Watchful.timerExpiration : proc.timerExpiration.Watchful := by
  unfold TxProcess.timerExpiration
  split
  next arming _ =>
    have posted : .backoffTimerExpired arming ∈
        (proc.timerStop.postEvent (.backoffTimerExpired arming)).eventQueue :=
      List.mem_append_right _ List.mem_cons_self
    exact ⟨⟨watchful.consistent, fun _ => .inr ⟨arming, posted⟩, watchful.sent⟩,
      fun _ => .inl ⟨_, posted, trivial⟩⟩
  next => exact watchful

/-- Every step that stays awake keeps the process watchful. -/
theorem Watchful.step {action : Action} (stays : proc.StaysAwake action) :
    (proc.step action).Watchful := by
  cases action with
  | sendData env request => exact watchful.sendData stays.1 stays.2
  | transportCompletion session status report =>
    unfold TxProcess.step transportCallsBack
    dsimp only
    split
    next => exact watchful
    next dispatch oldest =>
      obtain ⟨mem, isSession⟩ := oldestDispatch_mem oldest
      refine watchful.completeDispatch (fun queued => ?_) status report
      rw [isSession] at queued ⊢
      exact stays dispatch mem isSession queued
  | timerExpiration => exact watchful.timerExpiration
  | frameReceived => exact watchful.postEvent _
  | abortTransmission env session =>
    exact (proc.abortTransmission_aborts env session).watchful watchful stays
  | nodeDeleted node =>
    unfold TxProcess.step
    dsimp only
    split
    · exact watchful
    · exact watchful.postEvent _
  | flushQueueResetStep env => exact watchful.flushQueueResetStep stays
  | openTxQueue | clockTick =>
    exact ⟨⟨watchful.consistent, watchful.timed, watchful.sent⟩, watchful.awake⟩
  | setExpectedFrames env node count => exact watchful.setExpectedFrames env node count
  | watchdogTick env => exact watchful.serviceInFlightWatchdog stays
  | handleNextEvent env => exact watchful.handleNextEvent stays

end

theorem initial_watchful : initial.Watchful := by
  refine ⟨⟨TxQueue.Consistent.initial, .of_not_backoff nofun, ?_⟩, fun nonempty => ?_⟩
  · intro session element _ found
    cases found
  · cases nonempty

/-- In every state of a run whose steps leave the process awake, queued frames are not
forgotten. -/
theorem queued_frames_not_forgotten (actions : List Action)
    (stays : StepsMeet step StaysAwake initial actions) {done : List Action}
    (before : done <+: actions) : (run step initial done).NotForgotten :=
  ((stays.of_isPrefix before).invariant Watchful
    (fun _ _ watchful stays => watchful.step stays) initial_watchful).awake.notForgotten

theorem not_looksIdly
    (unanswered : proc.txQueue.elements.all fun element => element.transmissionTime == 0)
    (env : Surroundings) : ¬ proc.LooksIdly env := by
  rintro ⟨element, next, answered, _⟩
  have check := List.all_eq_true.mp unanswered element (nextElement_mem next)
  exact answered (beq_iff_eq.mp check)

theorem staysAwake_handleNextEvent (head : proc.eventQueue.head? = some event)
    (handles : proc.takeEvent.HandlesAwake env event) : proc.StaysAwake (.handleNextEvent env) := by
  intro other isHead
  rw [head] at isHead
  cases isHead
  exact handles

/-- A frame is sent, completed, and waits for its reply. -/
def sampleWaitingRun : List Action :=
  [.sendData {} (sampleRequest 5 1 10), .handleNextEvent {}, .transportCompletion 0 0 none,
    .handleNextEvent {}]

theorem queued_frames_not_forgotten_sample :
    StepsMeet step StaysAwake initial sampleWaitingRun ∧
      (run step initial sampleWaitingRun).txQueue.empty = false ∧
      (run step initial sampleWaitingRun).NotForgotten := by
  have stays : StepsMeet step StaysAwake initial sampleWaitingRun := by
    refine ⟨⟨show 0 + 2 < 2 ^ 32 by decide, ?_⟩, ?_, ?_, ?_, trivial⟩
    · exact fun _ full => absurd full (by decide)
    · apply staysAwake_handleNextEvent (show _ = some Event.sendNextMessage by decide)
      refine ⟨fun idly => absurd idly (not_looksIdly (by decide) _), fun element _ => ⟨?_, ?_⟩⟩
      · exact fun _ => by decide
      · exact fun _ _ notOk => absurd rfl notOk
    · exact show ∀ dispatch ∈ _, _ by decide
    · apply staysAwake_handleNextEvent (show _ = some (Event.sendOperationComplete 0) by decide)
      exact fun backsOff => absurd backsOff.1 (by decide)
  exact ⟨stays, by decide, queued_frames_not_forgotten sampleWaitingRun stays (List.prefix_refl _)⟩

/-- A frame that belongs to a queued one. -/
def sampleChildRequest (node responses parent : Nat) : SendRequest :=
  { sampleRequest node responses 0 with
    options :=
      { numberOfResponses := responses
        qosPriority := 0
        transport := { parentSessionId := parent, validParentSessionId := true } } }

/-- A frame and its child both wait for replies when a third frame breaks the
back-off. -/
def forgottenFrameRun : List Action :=
  [.sendData {} (sampleRequest 5 1 10), .handleNextEvent {},
    .sendData {} (sampleChildRequest 5 1 0), .handleNextEvent {},
    .transportCompletion 1 0 none, .handleNextEvent {},
    .transportCompletion 0 0 none, .handleNextEvent {},
    .sendData {} (sampleBypassRequest 6 0 20), .handleNextEvent {}, .handleNextEvent {}]

/-- Asked for the third frame, the process looks at the child, which only waits. -/
theorem forgotten_frame : ¬ (run step initial forgottenFrameRun).NotForgotten := by
  intro notForgotten
  have due := notForgotten (by decide +kernel)
  revert due
  decide +kernel

end TxProcess

end ZwaveTx
