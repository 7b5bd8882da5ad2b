import Zpc.ZwaveTx.QueueEvolution

/-!
# The timer of a back-off

An expiration of the back-off timer is an event like any other and carries
nothing that tells which back-off the timer was armed for.  An expiration that
is still queued when the next back-off starts ends that one early.  As long as
no back-off of a session starts, or is taken up again, while an expiration is
queued, the back-off of a session is ended by no timer but its own.
-/

namespace ZwaveTx

open Foundation

namespace TxProcess

/-- The process waits for the replies to its current session. -/
def BacksOff (proc : TxProcess) : Prop :=
  proc.state = .backoff ∧ proc.backoffReason = .currentSessionId

/-- An expiration of the back-off timer waits to be handled. -/
def ExpiryQueued (proc : TxProcess) : Prop :=
  ∃ arming, .backoffTimerExpired arming ∈ proc.eventQueue

/-- An expiration that is handled next, while the process waits for the replies
to a queued session, was posted by the timer armed for this wait. -/
def NextExpiryIsOwn (proc : TxProcess) : Prop :=
  ∀ arming rest, proc.eventQueue = .backoffTimerExpired arming :: rest ->
    proc.BacksOff -> proc.txQueue.contains proc.currentTxSessionId = true ->
      arming = proc.backoffArming proc.currentTxSessionId

/-- While the process waits for the replies to a session, its timer and the
queued expirations are those of this wait. -/
structure OwnTimer (proc : TxProcess) : Prop where
  /-- The session waited for was handed out. -/
  issued : proc.BacksOff -> proc.currentTxSessionId < proc.txQueue.zwaveTxSessionIdCounter
  /-- A timer that runs is that of the wait. -/
  timer : proc.BacksOff -> ∀ element,
    proc.txQueue.find proc.currentTxSessionId = some element ->
      proc.backoffTimer = none ∨
        proc.backoffTimer = some (proc.backoffArming proc.currentTxSessionId)
  /-- So is every expiration in the queue. -/
  expiries : proc.BacksOff -> ∀ element,
    proc.txQueue.find proc.currentTxSessionId = some element ->
      ∀ arming, .backoffTimerExpired arming ∈ proc.eventQueue ->
        arming = proc.backoffArming proc.currentTxSessionId

variable (env : Surroundings) {proc before after completed : TxProcess}
  {session : SessionId}

theorem OwnTimer.nextExpiryIsOwn (own : proc.OwnTimer) : proc.NextExpiryIsOwn := by
  intro arming rest next backsOff queued
  obtain ⟨element, found⟩ := Option.isSome_iff_exists.mp queued
  exact own.expiries backsOff element found arming (by rw [next]; exact List.mem_cons_self)

theorem OwnTimer.of_not_backsOff (notBackingOff : ¬ proc.BacksOff) : proc.OwnTimer :=
  ⟨fun backsOff => absurd backsOff notBackingOff,
    fun backsOff => absurd backsOff notBackingOff,
    fun backsOff => absurd backsOff notBackingOff⟩

theorem OwnTimer.transfer (own : before.OwnTimer) (consistent : before.txQueue.Consistent)
    (evolves : before.QueueEvolves after) (control : before.SameControl after)
    (expiries : ∀ arming, .backoffTimerExpired arming ∈ after.eventQueue ->
      .backoffTimerExpired arming ∈ before.eventQueue) :
    after.OwnTimer := by
  have same : after.BacksOff -> before.BacksOff := by
    unfold BacksOff
    rw [control.state, control.backoffReason]
    exact id
  have earlier : ∀ element, after.txQueue.find before.currentTxSessionId = some element ->
      ∃ old, before.txQueue.find before.currentTxSessionId = some old := by
    intro element found
    obtain ⟨old, foundOld, _⟩ := evolves.find consistent _ element found
    exact ⟨old, foundOld⟩
  constructor
  · intro backsOff
    rw [control.currentTxSessionId, evolves.counter]
    exact own.issued (same backsOff)
  · rw [control.currentTxSessionId, control.backoffArming, control.backoffTimer]
    intro backsOff element found
    obtain ⟨old, foundOld⟩ := earlier element found
    exact own.timer (same backsOff) old foundOld
  · rw [control.currentTxSessionId, control.backoffArming]
    intro backsOff element found arming posted
    obtain ⟨old, foundOld⟩ := earlier element found
    exact own.expiries (same backsOff) old foundOld arming (expiries arming posted)

/-! ## The internal functions -/

theorem checkQueue_backsOff {env : Surroundings} (backsOff : (proc.checkQueue env).BacksOff) :
    proc.checkQueue env = proc := by
  have checks := checkQueue_checks env proc
  generalize proc.checkQueue env = checked at checks backsOff
  cases checks with
  | keepsBackingOff => rfl
  | startsBackoff breaks reason noSession => exact absurd backsOff.2 noSession
  | asksForNext breaks | rests breaks => exact absurd backsOff.1 breaks.state_ne

theorem OwnTimer.checkQueue (own : proc.OwnTimer) (env : Surroundings) :
    (proc.checkQueue env).OwnTimer := by
  by_cases backsOff : (proc.checkQueue env).BacksOff
  · rw [checkQueue_backsOff backsOff]
    exact own
  · exact .of_not_backsOff backsOff

theorem checkQueue_timer (proc : TxProcess) :
    (proc.checkQueue env).backoffArming = proc.backoffArming ∧
      ((proc.checkQueue env).state ≠ .backoff ->
        (proc.checkQueue env).backoffTimer = none ∨
          (proc.state ≠ .backoff ∧ (proc.checkQueue env).backoffTimer = proc.backoffTimer)) := by
  have broken : ∀ flag after, Breaks env proc flag after ->
      after.backoffArming = proc.backoffArming ∧
        (after.backoffTimer = none ∨
          (proc.state ≠ .backoff ∧ after.backoffTimer = proc.backoffTimer)) := by
    intro flag after breaks
    cases breaks with
    | nothing notBackingOff => exact ⟨rfl, .inr ⟨notBackingOff, rfl⟩⟩
    | expectedFrames | preempts => exact ⟨rfl, .inl rfl⟩
  have checks := checkQueue_checks env proc
  generalize proc.checkQueue env = checked at checks
  cases checks with
  | keepsBackingOff backingOff => exact ⟨rfl, fun other => absurd backingOff other⟩
  | startsBackoff breaks reason noSession =>
    refine ⟨?_, fun other => absurd rfl other⟩
    unfold initiateBackoff
    rw [if_neg noSession]
    exact (broken _ _ breaks).1
  | asksForNext breaks | rests breaks =>
    exact ⟨(broken _ _ breaks).1, fun _ => (broken _ _ breaks).2⟩

/-- A queued session on the stack still waits for replies. -/
def WaitsOnStack (proc : TxProcess) (session : SessionId) : Prop :=
  session ∈ proc.preemptedBackoffStack ∧
    ∃ element, proc.txQueue.find session = some element ∧ element.options.numberOfResponses ≠ 0

/-- What the attempt to take up a pre-empted wait does to the timer. -/
structure RestoresTimer (before after : TxProcess) : Prop where
  own : after.OwnTimer
  silent : after.BacksOff -> ∀ element,
    after.txQueue.find after.currentTxSessionId = some element -> ¬ before.ExpiryQueued
  kept : after.state ≠ .backoff ->
    after.backoffTimer = before.backoffTimer ∧ after.backoffArming = before.backoffArming
  arming : before.ExpiryQueued -> after.backoffArming = before.backoffArming

/-- A process that backs off only for a session that is gone takes up a wait
without a queued expiration, or none. -/
theorem restorePreemptedBackoffIfNeeded_timer (consistent : proc.txQueue.Consistent)
    (adrift : proc.state = .backoff ->
      proc.txQueue.find proc.currentTxSessionId = none ∧
        proc.currentTxSessionId < proc.txQueue.zwaveTxSessionIdCounter)
    (silent : proc.ExpiryQueued -> proc.queueFlushOngoing = false ->
      ∀ session, ¬ proc.WaitsOnStack session)
    (env : Surroundings) :
    proc.RestoresTimer (proc.restorePreemptedBackoffIfNeeded env) := by
  have stays : ∀ after : TxProcess,
      (after.state = .backoff ->
        after.txQueue.find after.currentTxSessionId = none ∧
          after.currentTxSessionId < after.txQueue.zwaveTxSessionIdCounter) ->
      after.backoffTimer = proc.backoffTimer ->
      after.backoffArming = proc.backoffArming -> proc.RestoresTimer after := by
    intro after afterAdrift timer arming
    have gone : ∀ element, after.BacksOff ->
        after.txQueue.find after.currentTxSessionId ≠ some element := by
      intro element backsOff found
      rw [(afterAdrift backsOff.1).1] at found
      cases found
    refine ⟨⟨fun backsOff => (afterAdrift backsOff.1).2, ?_, ?_⟩, ?_, ?_, ?_⟩
    · exact fun backsOff element found => absurd found (gone element backsOff)
    · exact fun backsOff element found => absurd found (gone element backsOff)
    · exact fun backsOff element found => absurd found (gone element backsOff)
    · exact fun _ => ⟨timer, arming⟩
    · exact fun _ => arming
  unfold restorePreemptedBackoffIfNeeded
  split
  next => exact stays _ adrift rfl rfl
  next notFlushing =>
    rw [Bool.not_eq_true] at notFlushing
    refine restoreLoop_rule env
      (fun reached => proc.Quiet reached ∧
        reached.preemptedBackoffStack ⊆ proc.preemptedBackoffStack ∧
        (reached.state = .backoff ->
          reached.txQueue.find reached.currentTxSessionId = none ∧
            reached.currentTxSessionId < reached.txQueue.zwaveTxSessionIdCounter) ∧
        reached.backoffTimer = proc.backoffTimer ∧
        reached.backoffArming = proc.backoffArming)
      (proc.RestoresTimer ·) ?_ ?_ ?_ ?_ _ proc
      ⟨.refl proc, List.Subset.refl _, adrift, rfl, rfl⟩ (Nat.le_refl _)
    · rintro reached session outer ⟨quiet, stack, reachedAdrift, timer, arming⟩ _ _
      exact ⟨quiet.trans (.setStack reached _),
        List.Subset.trans (List.tail_sublist _).subset stack,
        reachedAdrift, timer, arming⟩
    · rintro reached session outer element ⟨quiet, stack, _, timer, arming⟩ _ _ _
      obtain ⟨state, current, parks, removed⟩ := reached.dropStack.removeElement_parks element
      rw [removed]
      refine ⟨(quiet.trans (.setStack reached _)).trans (.removed _ _ _ _), ?_, ?_, timer, arming⟩
      · exact List.Subset.trans
          (List.filter_sublist.trans (List.tail_sublist _)).subset stack
      · exact fun backingOff => absurd backingOff parks.state_ne
    · rintro reached session outer element ⟨quiet, stack, _, _, arming⟩ stacked found restorable
      have waits : proc.WaitsOnStack session :=
        ⟨stack (by rw [stacked]; exact List.mem_cons_self), element,
          quiet.shrinks.find_some consistent found, restorable.1⟩
      have noExpiry : ¬ proc.ExpiryQueued := fun queued => silent queued notFlushing session waits
      have posted : ∀ arming, .backoffTimerExpired arming ∉ reached.eventQueue := by
        intro arming mem
        rcases quiet.mem_eventQueue mem with old | new
        · exact noExpiry ⟨arming, old⟩
        · cases new
      refine ⟨⟨fun _ => ?_, fun _ _ _ => .inr ?_, fun _ _ _ arming mem => ?_⟩, ?_, ?_, ?_⟩
      · exact (quiet.shrinks.consistent consistent).issued_of_find found
      · simp [backOffFor, initiateBackoff, timerSet, withCurrent, dropStack]
      · exact absurd mem (posted arming)
      · exact fun _ _ _ => noExpiry
      · exact fun other => absurd rfl other
      · exact fun queued => absurd queued noExpiry
    · rintro reached ⟨_, _, reachedAdrift, timer, arming⟩ _
      exact stays reached reachedAdrift timer arming

/-- The end of a back-off takes up a wait of a session on the stack. -/
def ResumeRestores (proc : TxProcess) : Prop :=
  proc.queueFlushOngoing = false ∧
    ∃ session, proc.WaitsOnStack session ∧ (proc.BacksOff -> session ≠ proc.currentTxSessionId)

theorem OwnTimer.resumeFromBackoffStep (own : proc.OwnTimer) (consistent : proc.txQueue.Consistent)
    (silent : proc.ExpiryQueued -> ¬ proc.ResumeRestores) (env : Surroundings) :
    (proc.resumeFromBackoffStep env).OwnTimer ∧
      ((proc.resumeFromBackoffStep env).BacksOff -> ∀ element,
        (proc.resumeFromBackoffStep env).txQueue.find
            (proc.resumeFromBackoffStep env).currentTxSessionId =
          some element -> ¬ proc.ExpiryQueued) := by
  have quiet := proc.backoffEnded_quiet env
  obtain ⟨adrift, stack⟩ := proc.backoffEnded_adrift env
  rw [resumeFromBackoffStep_eq]
  generalize proc.backoffEnded env = ended at quiet adrift stack
  have sameExpiry : ended.ExpiryQueued ↔ proc.ExpiryQueued := by
    constructor
    · rintro ⟨arming, mem⟩
      rcases quiet.mem_eventQueue mem with old | new
      · exact ⟨arming, old⟩
      · cases new
    · rintro ⟨arming, mem⟩
      exact ⟨arming, quiet.eventQueue_subset mem⟩
  have endedAdrift : ended.state = .backoff ->
      ended.txQueue.find ended.currentTxSessionId = none ∧
        ended.currentTxSessionId < ended.txQueue.zwaveTxSessionIdCounter := by
    intro backingOff
    obtain ⟨wasBackingOff, reason, absent, same⟩ := adrift backingOff
    rw [same, quiet.shrinks.counter]
    exact ⟨quiet.shrinks.find_none consistent absent, own.issued ⟨wasBackingOff, reason⟩⟩
  have endedSilent : ended.ExpiryQueued -> ended.queueFlushOngoing = false ->
      ∀ session, ¬ ended.WaitsOnStack session := by
    rintro queued notFlushing session ⟨stacked, element, found, waits⟩
    obtain ⟨wasStacked, notCurrent⟩ := stack session stacked
    have wasFound := quiet.shrinks.find_some consistent found
    refine silent (sameExpiry.mp queued) ⟨quiet.queueFlushOngoing ▸ notFlushing, session,
      ⟨wasStacked, element, wasFound, waits⟩, fun backsOff same => ?_⟩
    rw [same, notCurrent backsOff.1 backsOff.2 same] at wasFound
    cases wasFound
  have restores := restorePreemptedBackoffIfNeeded_timer
    (quiet.shrinks.consistent consistent) endedAdrift endedSilent env
  refine ⟨restores.own.checkQueue env, fun backsOff element found queued => ?_⟩
  have unchanged := checkQueue_backsOff backsOff
  rw [unchanged] at backsOff found
  exact restores.silent backsOff element found (sameExpiry.mpr queued)

/-! ## The completion step -/

/-- The completion step of a session starts its back-off or takes up another. -/
def CompletionBacksOff (proc : TxProcess) (session : SessionId) : Prop :=
  ∃ element, proc.txQueue.find session = some element ∧
    element.transportCompletionStepPending = true ∧
    proc.isToBeRequeued element = false ∧
    (proc.isToBeBackedOff element = true ∨
      (proc.queueFlushOngoing = false ∧ ∃ other, proc.WaitsOnStack other ∧ other ≠ session))

/-- Unless it ends in a back-off, a change stops the timer or keeps it; no wait
is armed anew while an expiration is queued. -/
structure KeepsTimer (before after : TxProcess) : Prop where
  kept : after.state ≠ .backoff ->
    after.backoffTimer = none ∨
      (after.backoffTimer = before.backoffTimer ∧ after.backoffArming = before.backoffArming)
  arming : before.ExpiryQueued -> after.backoffArming = before.backoffArming

theorem KeepsTimer.refl (proc : TxProcess) : proc.KeepsTimer proc :=
  ⟨fun _ => .inr ⟨rfl, rfl⟩, fun _ => rfl⟩

theorem KeepsTimer.checkQueue (before after : TxProcess)
    (kept : after.state ≠ .backoff ->
      after.backoffTimer = before.backoffTimer ∧ after.backoffArming = before.backoffArming)
    (arming : before.ExpiryQueued -> after.backoffArming = before.backoffArming)
    (env : Surroundings) :
    before.KeepsTimer (after.checkQueue env) := by
  obtain ⟨sameArming, timer⟩ := checkQueue_timer env after
  constructor
  · intro notBackingOff
    rcases timer notBackingOff with stopped | ⟨wasNot, same⟩
    · exact .inl stopped
    · obtain ⟨sameTimer, armed⟩ := kept wasNot
      exact .inr ⟨same.trans sameTimer, sameArming.trans armed⟩
  · exact fun queued => sameArming.trans (arming queued)

theorem Completes.timer {env : Surroundings} (completes : Completes env proc session completed)
    (consistent : proc.txQueue.Consistent) (own : proc.OwnTimer)
    (silent : proc.ExpiryQueued -> ¬ proc.CompletionBacksOff session) :
    completed.OwnTimer ∧ proc.KeepsTimer completed := by
  cases completes with
  | absent =>
    have idle : ¬ (proc.withState .idle).BacksOff := fun backsOff => nomatch backsOff.1
    exact ⟨(OwnTimer.of_not_backsOff idle).checkQueue env,
      .checkQueue proc (proc.withState .idle) (fun _ => ⟨rfl, rfl⟩) (fun _ => rfl)
        env⟩
  | redundant => exact ⟨own, .refl proc⟩
  | requeues =>
    have evolves := proc.requeued_evolves session
    have back : (proc.requeued session).OwnTimer :=
      own.transfer consistent evolves
        ((SameControl.withQueue proc _).trans (.withQueue _ _)) (fun _ => id)
    exact ⟨back.checkQueue env,
      .checkQueue proc (proc.requeued session) (fun _ => ⟨rfl, rfl⟩) (fun _ => rfl)
        env⟩
  | @backsOff element found pending notRequeued backsOff =>
    have noExpiry : ¬ proc.ExpiryQueued := fun queued =>
      silent queued ⟨element, found, pending, notRequeued, .inl backsOff⟩
    have waiting : ((proc.calledBack element).backOffFor session).OwnTimer := by
      refine ⟨fun _ => ?_, fun _ _ _ => .inr ?_, fun _ _ _ arming mem => ?_⟩
      · have counter := (TxQueue.Evolves.consumeTransportCompletionStepPending proc.txQueue
          element.zwaveTxSessionId).counter
        exact Nat.lt_of_lt_of_eq (consistent.issued_of_find found) counter.symm
      · simp [backOffFor, initiateBackoff, timerSet, withCurrent]
      · exact absurd ⟨arming, mem⟩ noExpiry
    exact ⟨waiting.checkQueue env,
      .checkQueue proc _ (fun other => absurd rfl other) (fun queued => absurd queued noExpiry)
        env⟩
  | @finalizes element found pending state parent notRequeued notBackedOff parks =>
    have evolves := proc.removed_evolves element session state parent
    have restores := restorePreemptedBackoffIfNeeded_timer
      (evolves.consistent consistent) (fun backingOff => absurd backingOff parks.state_ne)
      (by
        rintro queued notFlushing other ⟨stacked, remaining, foundOther, waits⟩
        obtain ⟨earlier, foundEarlier, same⟩ := evolves.find consistent other remaining foundOther
        obtain ⟨wasStacked, differs⟩ := List.mem_filter.mp stacked
        refine silent queued
          ⟨element, found, pending, notRequeued, .inr ⟨notFlushing, other,
            ⟨wasStacked, earlier, foundEarlier, ?_⟩, by simpa using differs⟩⟩
        have := same.responses
        omega)
      env
    exact ⟨restores.own.checkQueue env, .checkQueue proc _ restores.kept restores.arming env⟩

theorem OwnTimer.completeDuringBackoff (own : proc.OwnTimer) (consistent : proc.txQueue.Consistent)
    (silent : proc.ExpiryQueued -> ¬ proc.CompletionBacksOff session)
    (backingOff : proc.state = .backoff) (env : Surroundings) :
    (proc.completeDuringBackoff env session).OwnTimer := by
  have completes := proc.transmissionCompletedStep_completes env session
  obtain ⟨completedOwn, keeps⟩ := completes.timer consistent own silent
  unfold TxProcess.completeDuringBackoff
  dsimp only
  split
  next displaced =>
    split
    next notBackingOff =>
      -- The wait of the current session goes on: its timer was stopped or kept.
      have waited : proc.BacksOff := ⟨backingOff, displaced.2⟩
      refine ⟨fun _ => ?_, fun _ element found => ?_, fun _ element found arming mem => ?_⟩
      · exact Nat.lt_of_lt_of_eq (own.issued waited) completes.evolves.counter.symm
      · obtain ⟨earlier, foundEarlier, _⟩ := completes.evolves.find consistent _ element found
        rcases keeps.kept notBackingOff with stopped | ⟨timer, sameArming⟩
        · exact .inl stopped
        · dsimp only
          rw [timer, sameArming]
          exact own.timer waited earlier foundEarlier
      · obtain ⟨earlier, foundEarlier, _⟩ := completes.evolves.find consistent _ element found
        rcases completes.mem_eventQueue mem with old | new
        · dsimp only
          rw [keeps.arming ⟨arming, old⟩]
          exact own.expiries waited earlier foundEarlier arming old
        · cases new
    next =>
      split
      · exact ⟨completedOwn.issued, completedOwn.timer, completedOwn.expiries⟩
      · exact completedOwn
  next => exact completedOwn

/-! ## Aborts -/

theorem ResumeRestores.of_evolves (restores : after.ResumeRestores)
    (consistent : before.txQueue.Consistent) (evolves : before.QueueEvolves after)
    (control : before.SameControl after) : before.ResumeRestores := by
  obtain ⟨notFlushing, session, ⟨stacked, element, found, waits⟩, notCurrent⟩ := restores
  obtain ⟨earlier, foundEarlier, same⟩ := evolves.find consistent session element found
  rw [control.queueFlushOngoing] at notFlushing
  rw [control.preemptedBackoffStack] at stacked
  refine ⟨notFlushing, session, ⟨stacked, earlier, foundEarlier, ?_⟩, fun backsOff => ?_⟩
  · have := same.responses
    omega
  · rw [← control.currentTxSessionId]
    refine notCurrent ?_
    unfold BacksOff
    rw [control.state, control.backoffReason]
    exact backsOff

/-- Aborting a session takes up a wait of another one. -/
def AbortRestores (proc : TxProcess) (session : SessionId) : Prop :=
  proc.BacksOff ∧ proc.currentTxSessionId = session ∧
    proc.txQueue.contains session = true ∧ proc.ResumeRestores

theorem Aborts.timer {env : Surroundings}
    (aborts : Aborts env proc session after) (consistent : proc.txQueue.Consistent)
    (own : proc.OwnTimer) (silent : proc.ExpiryQueued -> ¬ proc.AbortRestores session) :
    after.OwnTimer ∧
      (after.ExpiryQueued -> proc.ExpiryQueued ∧
        (after.BacksOff -> ∀ element,
          after.txQueue.find after.currentTxSessionId = some element ->
            proc.BacksOff ∧ proc.SameControl after)) := by
  have evolves : proc.QueueEvolves
      (proc.withQueue (proc.txQueue.disableFasttack session).2) :=
    .withQueue (.disableFasttack proc.txQueue session)
  have marked : (proc.withQueue (proc.txQueue.disableFasttack session).2).OwnTimer :=
    own.transfer consistent evolves (.withQueue proc _) (fun _ => id)
  cases aborts with
  | absent => exact ⟨own, fun queued => ⟨queued, fun backsOff _ _ => ⟨backsOff, .refl proc⟩⟩⟩
  | endsBackoff found backingOff reason current =>
    have resumed := marked.resumeFromBackoffStep (evolves.consistent consistent)
      (fun queued restores => silent queued ⟨⟨backingOff, reason⟩, current,
        by simp [TxQueue.contains, found],
        restores.of_evolves consistent evolves (.withQueue proc _)⟩) env
    have quiet := resumeFromBackoffStep_quiet env
      (proc.withQueue (proc.txQueue.disableFasttack session).2)
    refine ⟨resumed.1, fun queued => ?_⟩
    have wasQueued : proc.ExpiryQueued := by
      obtain ⟨arming, mem⟩ := queued
      rcases quiet.mem_eventQueue mem with old | new
      · exact ⟨arming, old⟩
      · cases new
    exact ⟨wasQueued, fun backsOff element foundAfter =>
      absurd wasQueued (resumed.2 backsOff element foundAfter)⟩
  | whileIdle found idle =>
    have control := (((proc.withQueue (proc.txQueue.disableFasttack
      session).2).withCurrent session).dropUnsentCurrentMessage_sameControl).1
    have notBackingOff : ¬ (((proc.withQueue (proc.txQueue.disableFasttack
        session).2).withCurrent session).dropUnsentCurrentMessage).BacksOff := by
      intro backsOff
      have state := control.state.symm.trans backsOff.1
      rw [show proc.state = _ from state] at idle
      cases idle
    refine ⟨.of_not_backsOff notBackingOff, fun queued => ⟨?_, fun backsOff =>
      absurd backsOff notBackingOff⟩⟩
    obtain ⟨arming, mem⟩ := queued
    rcases onZwaveTransportSendDataComplete_mem_eventQueue mem with old | ⟨_, new⟩
    · exact ⟨arming, old⟩
    · cases new
  | byTransport found notIdle notCurrent transportAborts =>
    have earlier : ∀ arming, .backoffTimerExpired arming ∈ after.eventQueue ->
        .backoffTimerExpired arming ∈ proc.eventQueue := by
      intro arming mem
      rcases transportAborts.mem_eventQueue mem with old | ⟨_, new⟩
      · exact old
      · cases new
    have control : proc.SameControl after :=
      (SameControl.withQueue proc _).trans transportAborts.sameControl
    refine ⟨own.transfer consistent (evolves.trans transportAborts.evolves) control earlier,
      fun queued => ?_⟩
    obtain ⟨arming, mem⟩ := queued
    refine ⟨⟨arming, earlier arming mem⟩, fun backsOff _ _ => ⟨?_, control⟩⟩
    rw [BacksOff, control.state, control.backoffReason] at backsOff
    exact backsOff
  | refused found notIdle notCurrent answer =>
    have writtenEvolves : proc.QueueEvolves (proc.withQueue
        ((proc.txQueue.disableFasttack session).2.setTransmissionsResults
          proc.clockTime session transmitCompleteFail none).2) :=
      evolves.trans (.withQueue (.setTransmissionsResults _ _ _ _ _))
    have written := own.transfer consistent writtenEvolves (.withQueue proc _) (fun _ => id)
    refine ⟨written.checkQueue env, fun queued => ?_⟩
    constructor
    · obtain ⟨arming, mem⟩ := queued
      rcases (checkQueue_quiet env _).mem_eventQueue mem with old | new
      · exact ⟨arming, old⟩
      · cases new
    · intro backsOff _ _
      have unchanged := checkQueue_backsOff backsOff
      rw [unchanged] at backsOff ⊢
      exact ⟨backsOff, .withQueue proc _⟩

theorem OwnTimer.abortAll (own : proc.OwnTimer) (consistent : proc.txQueue.Consistent)
    (sessions : List SessionId)
    (silent : proc.ExpiryQueued -> ∀ session ∈ sessions, ¬ proc.AbortRestores session)
    (env : Surroundings) : (proc.abortAll env sessions).OwnTimer := by
  -- The condition on the first abort carries over to the later ones.
  have kept := @run_invariant_of_mem _ _
    (fun proc session => (abortTransmission env proc session).2)
    (fun reached : TxProcess => reached.txQueue.Consistent ∧ reached.OwnTimer ∧
      (reached.ExpiryQueued -> ∀ session ∈ sessions, ¬ reached.AbortRestores session))
    sessions
    (by
      rintro reached session mem ⟨reachedConsistent, reachedOwn, reachedSilent⟩
      have aborts := reached.abortTransmission_aborts env session
      obtain ⟨afterOwn, afterSilent⟩ := aborts.timer reachedConsistent reachedOwn
        (fun queued => reachedSilent queued session mem)
      refine ⟨aborts.evolves.consistent reachedConsistent, afterOwn, fun queued other among => ?_⟩
      rintro ⟨backsOff, current, queuedCurrent, restores⟩
      obtain ⟨wasQueued, kept⟩ := afterSilent queued
      obtain ⟨element, found⟩ := Option.isSome_iff_exists.mp queuedCurrent
      rw [← current] at found
      obtain ⟨backedOff, control⟩ := kept backsOff element found
      obtain ⟨earlier, foundEarlier, _⟩ := aborts.evolves.find reachedConsistent _ element found
      refine reachedSilent wasQueued other among ⟨backedOff, ?_, ?_,
        restores.of_evolves reachedConsistent aborts.evolves control⟩
      · rw [← control.currentTxSessionId, current]
      · rw [← current]
        simp [TxQueue.contains, foundEarlier])
    proc ⟨consistent, own, silent⟩
  exact kept.2.1

/-! ## Sending -/

theorem handToTransport_state (previousSession : SessionId) (previousState : TxState)
    (proc : TxProcess) (element : QueueElement) :
    (handToTransport env previousSession previousState proc element).state = proc.state ∨
      (handToTransport env previousSession previousState proc element).state = previousState := by
  unfold handToTransport
  split
  · exact .inl rfl
  · exact .inr rfl
  · exact .inl proc.dropUnsentCurrentMessage_sameControl.1.state

theorem LooksAt.timer {env : Surroundings} {element : QueueElement}
    (looks : LooksAt env proc element after) (notBackingOff : proc.state ≠ .backoff)
    (consistent : proc.txQueue.Consistent)
    (silent : proc.ExpiryQueued -> element.transmissionTime ≠ 0 ->
      ¬ proc.CompletionBacksOff element.zwaveTxSessionId) :
    after.OwnTimer := by
  have sameState : after.state = proc.state -> after.OwnTimer := fun same =>
    .of_not_backsOff fun backsOff => notBackingOff (same.symm.trans backsOff.1)
  cases looks with
  | discards =>
    exact sameState (dropUnsentCurrentMessage_sameControl
      (proc.withCurrent element.zwaveTxSessionId)).1.state
  | completes answered pending =>
    have looking : (proc.withCurrent element.zwaveTxSessionId).OwnTimer :=
      .of_not_backsOff fun backsOff => notBackingOff backsOff.1
    have completes := transmissionCompletedStep_completes env
      (proc.withCurrent element.zwaveTxSessionId) element.zwaveTxSessionId
    exact (completes.timer consistent looking (fun queued => silent queued answered)).1
  | waits | staysInFlight => exact sameState rfl
  | expires =>
    have aborts := (proc.withCurrent element.zwaveTxSessionId).transportAbortSendData_aborts
      env element.zwaveTxSessionId
    exact sameState ((dropUnsentCurrentMessage_sameControl (clearProtocolFrame _)).1.state.trans
      aborts.sameControl.state)
  | handsOver =>
    rcases handToTransport_state env proc.currentTxSessionId proc.state
      (((proc.withCurrent element.zwaveTxSessionId).withState
        .transmissionOngoing).markDispatched element) element with ongoing | previous
    · refine .of_not_backsOff fun backsOff => ?_
      have impossible := ongoing.symm.trans backsOff.1
      cases impossible
    · exact sameState previous

theorem Sends.timer {env : Surroundings} (sends : Sends env proc after)
    (consistent : proc.txQueue.Consistent) (own : proc.OwnTimer)
    (silent : proc.ExpiryQueued ->
      ∀ element, proc.nextElement env = some element ->
        element.transmissionTime ≠ 0 -> ¬ proc.CompletionBacksOff element.zwaveTxSessionId) :
    after.OwnTimer := by
  cases sends with
  | checks => exact own.checkQueue env
  | nothing => exact own
  | losesCurrent =>
    have idle : ¬ (proc.withState .idle).BacksOff := fun backsOff => nomatch backsOff.1
    exact (OwnTimer.of_not_backsOff idle).checkQueue env
  | looksAt notBackingOff next looks =>
    exact looks.timer notBackingOff consistent fun queued => silent queued _ next

/-! ## Received frames -/

/-- Handling a received frame ends a back-off. -/
def FrameResumes (proc : TxProcess) (node : NodeId) (frame : List UInt8) : Prop :=
  if proc.backoffReason = .expectedAdditionalFrames then
    0 < proc.expectedIncomingFrames.getFrames node ∧
      (proc.expectedIncomingFrames.decrementFrames node).empty = true
  else
    proc.state ≠ .idle ∧
      ∃ current, proc.txQueue.find proc.currentTxSessionId = some current ∧
        proc.isReplyToCurrent node frame current = true ∧
        current.options.numberOfResponses = 1

theorem OwnTimer.inspectReceivedFrameStep (own : proc.OwnTimer)
    (consistent : proc.txQueue.Consistent) (node : NodeId) (frame : List UInt8)
    (silent : proc.ExpiryQueued -> proc.FrameResumes node frame -> ¬ proc.ResumeRestores)
    (env : Surroundings) : (proc.inspectReceivedFrameStep env node frame).OwnTimer := by
  unfold FrameResumes at silent
  unfold TxProcess.inspectReceivedFrameStep
  split
  next forFrames =>
    rw [if_pos forFrames] at silent
    split
    next expected =>
      have decremented : (proc.withExpectedFrames
          (proc.expectedIncomingFrames.decrementFrames node)).OwnTimer :=
        ⟨own.issued, own.timer, own.expiries⟩
      dsimp only
      split
      next last =>
        exact (decremented.resumeFromBackoffStep consistent
          (fun queued => silent queued ⟨expected, last⟩) env).1
      next => exact decremented
    next => exact own
  next notForFrames =>
    rw [if_neg notForFrames] at silent
    split
    next =>
      split
      · exact .of_not_backsOff fun backsOff => nomatch backsOff.2
      · exact own
    next busy =>
      have notIdle : proc.state ≠ .idle := fun idle => busy (.inl idle)
      unfold handleReply TxQueue.getById
      split
      next => exact own
      next current found =>
        split
        next reply =>
          have resumed : (if current.options.numberOfResponses = 1 then
              proc.resumeFromBackoffStep env else proc).OwnTimer ∧
              (if current.options.numberOfResponses = 1 then
                proc.resumeFromBackoffStep env
              else proc).txQueue.Consistent := by
            split
            next last =>
              exact ⟨(own.resumeFromBackoffStep consistent
                (fun queued => silent queued ⟨notIdle, current, found, reply, last⟩)
                env).1,
                (resumeFromBackoffStep_quiet env proc).shrinks.consistent consistent⟩
            next => exact ⟨own, consistent⟩
          generalize (if current.options.numberOfResponses = 1 then
            proc.resumeFromBackoffStep env else proc) = reached at resumed
          exact resumed.1.transfer resumed.2
            (.withQueue (.decrementAlongParents _ _ _)) (.withQueue reached _) (fun _ => id)
        next => exact own

/-! ## The watchdog -/

/-- The process waits for the replies to no session and none is on its stack. -/
def Calm (proc : TxProcess) : Prop :=
  ¬ proc.BacksOff ∧ (proc.queueFlushOngoing = false -> ∀ session, ¬ proc.WaitsOnStack session)

theorem Calm.checkQueue (calm : proc.Calm) (env : Surroundings) : (proc.checkQueue env).Calm := by
  have stack : ∀ flag broken, Breaks env proc flag broken ->
      broken.preemptedBackoffStack = proc.preemptedBackoffStack ∧
        broken.txQueue = proc.txQueue ∧
        broken.queueFlushOngoing = proc.queueFlushOngoing := by
    intro flag broken breaks
    cases breaks with
    | nothing | expectedFrames => exact ⟨rfl, rfl, rfl⟩
    | preempts backingOff reason => exact absurd ⟨backingOff, reason⟩ calm.1
  refine ⟨fun backsOff => ?_, ?_⟩
  · rw [checkQueue_backsOff backsOff] at backsOff
    exact calm.1 backsOff
  · have checks := checkQueue_checks env proc
    generalize proc.checkQueue env = checked at checks
    have same : checked.preemptedBackoffStack = proc.preemptedBackoffStack ∧
        checked.txQueue = proc.txQueue ∧
        checked.queueFlushOngoing = proc.queueFlushOngoing := by
      cases checks with
      | keepsBackingOff => exact ⟨rfl, rfl, rfl⟩
      | @startsBackoff broken breaks | @asksForNext _ broken breaks => exact stack _ broken breaks
      | @rests _ _ breaks => exact stack _ _ breaks
    unfold WaitsOnStack
    rw [same.1, same.2.1, same.2.2]
    exact calm.2

theorem Calm.of_evolves (calm : before.Calm) (consistent : before.txQueue.Consistent)
    (evolves : before.QueueEvolves after) (notBackingOff : after.BacksOff -> before.BacksOff)
    (flush : after.queueFlushOngoing = before.queueFlushOngoing)
    (stack : after.preemptedBackoffStack ⊆ before.preemptedBackoffStack) : after.Calm := by
  refine ⟨fun backsOff => calm.1 (notBackingOff backsOff), ?_⟩
  rintro notFlushing session ⟨stacked, element, found, waits⟩
  obtain ⟨earlier, foundEarlier, same⟩ := evolves.find consistent session element found
  refine calm.2 (flush ▸ notFlushing) session ⟨stack stacked, earlier, foundEarlier, ?_⟩
  have := same.responses
  omega

theorem Calm.restorePreemptedBackoffIfNeeded (calm : proc.Calm)
    (consistent : proc.txQueue.Consistent) (notBackingOff : proc.state ≠ .backoff)
    (env : Surroundings) : (proc.restorePreemptedBackoffIfNeeded env).Calm := by
  unfold TxProcess.restorePreemptedBackoffIfNeeded
  split
  next => exact ⟨fun backsOff => notBackingOff backsOff.1, fun _ session waits => nomatch waits.1⟩
  next notFlushing =>
    rw [Bool.not_eq_true] at notFlushing
    refine restoreLoop_rule env
      (fun reached => proc.Quiet reached ∧ reached.state ≠ .backoff ∧
        reached.preemptedBackoffStack ⊆ proc.preemptedBackoffStack)
      (fun reached => reached.Calm) ?_ ?_ ?_ ?_ _ proc
      ⟨.refl proc, notBackingOff, List.Subset.refl _⟩ (Nat.le_refl _)
    · rintro reached session outer ⟨quiet, notBackingOff, stack⟩ _ _
      exact ⟨quiet.trans (.setStack reached _), notBackingOff,
        List.Subset.trans (List.tail_sublist _).subset stack⟩
    · rintro reached session outer element ⟨quiet, _, stack⟩ _ _ _
      obtain ⟨state, current, parks, removed⟩ := reached.dropStack.removeElement_parks element
      rw [removed]
      exact ⟨(quiet.trans (.setStack reached _)).trans (.removed _ _ _ _), parks.state_ne,
        List.Subset.trans (List.filter_sublist.trans (List.tail_sublist _)).subset stack⟩
    · rintro reached session outer element ⟨quiet, _, stack⟩ stacked found restorable
      refine absurd ?_ (calm.2 notFlushing session)
      exact ⟨stack (by rw [stacked]; exact List.mem_cons_self), element,
        quiet.shrinks.find_some consistent found, restorable.1⟩
    · rintro reached ⟨quiet, reachedNot, stack⟩ nothing
      refine ⟨fun backsOff => reachedNot backsOff.1, fun _ session waits => ?_⟩
      rw [WaitsOnStack, nothing] at waits
      exact nomatch waits.1

theorem Completes.calm {env : Surroundings} (completes : Completes env proc session completed)
    (consistent : proc.txQueue.Consistent) (calm : proc.Calm)
    (notBackedOff : ∀ element, proc.txQueue.find session = some element ->
      proc.isToBeBackedOff element = false) :
    completed.Calm := by
  cases completes with
  | absent =>
    refine Calm.checkQueue ?_ env
    exact calm.of_evolves consistent (.of_eq rfl) (fun backsOff => nomatch backsOff.1) rfl
      (List.Subset.refl _)
  | redundant => exact calm
  | requeues =>
    refine Calm.checkQueue ?_ env
    have evolves := proc.requeued_evolves session
    exact calm.of_evolves consistent evolves id rfl (List.Subset.refl _)
  | backsOff found pending notRequeued backsOff =>
    rw [notBackedOff _ found] at backsOff
    cases backsOff
  | @finalizes element found pending state parent notRequeued _ parks =>
    have evolves := proc.removed_evolves element session state parent
    have removedCalm := calm.of_evolves consistent evolves
      (fun backsOff => absurd backsOff.1 parks.state_ne) rfl List.filter_sublist.subset
    exact (removedCalm.restorePreemptedBackoffIfNeeded (evolves.consistent consistent)
      parks.state_ne env).checkQueue env

theorem isStuckInFlight_ongoing (stuck : proc.isStuckInFlight = true) :
    proc.state = .transmissionOngoing := by
  unfold isStuckInFlight at stuck
  rw [Bool.and_eq_true, beq_iff_eq] at stuck
  exact stuck.1

theorem Calm.serviceInFlightWatchdog (calm : proc.Calm) (consistent : proc.txQueue.Consistent)
    (env : Surroundings) : (proc.serviceInFlightWatchdog env).Calm := by
  refine (serviceInFlightWatchdog_rule env
    (fun reached => reached.txQueue.Consistent ∧ reached.Calm) ?_ ?_ proc
    (fun _ => ⟨consistent, calm⟩) (fun _ => ⟨consistent, calm⟩)).2
  · rintro reached after session status ⟨reachedConsistent, reachedCalm⟩ aborts
    have control := aborts.sameControl
    refine ⟨aborts.evolves.consistent reachedConsistent,
      reachedCalm.of_evolves reachedConsistent aborts.evolves ?_ control.queueFlushOngoing ?_⟩
    · unfold BacksOff
      rw [control.state, control.backoffReason]
      exact id
    · rw [control.preemptedBackoffStack]
      exact List.Subset.refl _
  · rintro reached after session ⟨reachedConsistent, reachedCalm⟩ completes
    have evolves := reached.failed_evolves session
    have failedConsistent := evolves.consistent reachedConsistent
    refine ⟨completes.evolves.consistent failedConsistent,
      completes.calm failedConsistent ?_ (fun element found => (find_failed found).2.1)⟩
    exact reachedCalm.of_evolves reachedConsistent evolves id rfl (List.Subset.refl _)

theorem OwnTimer.serviceInFlightWatchdog (own : proc.OwnTimer)
    (consistent : proc.txQueue.Consistent)
    (silent : proc.ExpiryQueued -> proc.isStuckInFlight = true ->
      proc.queueFlushOngoing = false -> ∀ session, ¬ proc.WaitsOnStack session)
    (env : Surroundings) :
    (proc.serviceInFlightWatchdog env).OwnTimer := by
  by_cases queued : proc.ExpiryQueued ∧ proc.isStuckInFlight = true
  · have calm : proc.Calm := by
      refine ⟨fun backsOff => ?_, silent queued.1 queued.2⟩
      rw [BacksOff, isStuckInFlight_ongoing queued.2] at backsOff
      exact nomatch backsOff.1
    exact .of_not_backsOff (calm.serviceInFlightWatchdog consistent env).1
  · cases stuck : proc.isStuckInFlight with
    | false =>
      unfold TxProcess.serviceInFlightWatchdog
      simp only [stuck, Bool.false_eq_true, if_false]
      exact own
    | true =>
      have noExpiry : ¬ proc.ExpiryQueued := fun expiry => queued ⟨expiry, stuck⟩
      refine (serviceInFlightWatchdog_rule env
        (fun reached => reached.txQueue.Consistent ∧ reached.OwnTimer ∧
          ¬ reached.ExpiryQueued) ?_ ?_ proc
        (fun _ => ⟨consistent, ⟨own.issued, own.timer, own.expiries⟩, noExpiry⟩)
        (fun _ => ⟨consistent, own, noExpiry⟩)).2.1
      · rintro reached after session status ⟨reachedConsistent, reachedOwn, none⟩ aborts
        have earlier : ∀ arming, .backoffTimerExpired arming ∈ after.eventQueue ->
            .backoffTimerExpired arming ∈ reached.eventQueue := by
          intro arming mem
          rcases aborts.mem_eventQueue mem with old | ⟨_, new⟩
          · exact old
          · cases new
        exact ⟨aborts.evolves.consistent reachedConsistent,
          reachedOwn.transfer reachedConsistent aborts.evolves aborts.sameControl earlier,
          fun ⟨arming, mem⟩ => none ⟨arming, earlier arming mem⟩⟩
      · rintro reached after session ⟨reachedConsistent, reachedOwn, none⟩ completes
        have evolves := reached.failed_evolves session
        have failedConsistent := evolves.consistent reachedConsistent
        have failedOwn : (reached.failed session).OwnTimer :=
          reachedOwn.transfer reachedConsistent evolves (.withQueue reached _) (fun _ => id)
        refine ⟨completes.evolves.consistent failedConsistent,
          (completes.timer failedConsistent failedOwn (fun expiry => absurd expiry none)).1, ?_⟩
        rintro ⟨arming, mem⟩
        rcases completes.mem_eventQueue mem with old | new
        · exact none ⟨arming, old⟩
        · cases new

/-! ## Whole runs -/

/-- Whether an expiration stays queued while an action is carried out. -/
def ExpiryStaysQueued (proc : TxProcess) : Action -> Prop
  | .handleNextEvent _ => proc.takeEvent.ExpiryQueued
  | _ => proc.ExpiryQueued

/-- An action starts to wait for the replies to a session, or takes up such a
wait. -/
def StartsWait (proc : TxProcess) : Action -> Prop
  | .handleNextEvent env =>
      match proc.eventQueue.head? with
      | some .sendNextMessage =>
          ∃ element, proc.nextElement env = some element ∧
            element.transmissionTime ≠ 0 ∧
            proc.CompletionBacksOff element.zwaveTxSessionId
      | some (.sendOperationComplete session) => proc.CompletionBacksOff session
      | some (.backoffTimerExpired _) => proc.ResumeRestores
      | some (.nodeDeleted node) =>
          ∃ session ∈ proc.txQueue.collectSessionIdsForNode node, proc.AbortRestores session
      | some (.frameReceived node frame) => proc.FrameResumes node frame ∧ proc.ResumeRestores
      | none => False
  | .abortTransmission _ session => proc.AbortRestores session
  | .setExpectedFrames _ node count =>
      proc.state = .backoff ∧
        proc.backoffReason = .expectedAdditionalFrames ∧
        (proc.expectedIncomingFrames.setFrames node count).empty = true ∧
        proc.ResumeRestores
  | .watchdogTick _ =>
      proc.isStuckInFlight = true ∧ proc.queueFlushOngoing = false ∧
        ∃ session, proc.WaitsOnStack session
  | _ => False

/-- No wait for the replies to a session starts while an expiration is
queued. -/
def StartsWaitsSilently (proc : TxProcess) (action : Action) : Prop :=
  proc.CounterFits action ∧ (proc.ExpiryStaysQueued action -> ¬ proc.StartsWait action)

/-- The invariant of the runs. -/
structure TimerInvariant (proc : TxProcess) : Prop where
  consistent : proc.txQueue.Consistent
  own : proc.OwnTimer

theorem handleNextEvent_timer {env : Surroundings} (invariant : proc.TimerInvariant)
    (silent : proc.takeEvent.ExpiryQueued -> ¬ proc.StartsWait (.handleNextEvent env)) :
    (proc.handleNextEvent env).OwnTimer := by
  obtain ⟨consistent, own⟩ := invariant
  have taken : proc.takeEvent.OwnTimer :=
    ⟨own.issued, own.timer, fun backsOff element found arming mem =>
      own.expiries backsOff element found arming ((List.tail_sublist _).subset mem)⟩
  unfold StartsWait at silent
  unfold handleNextEvent
  cases events : proc.eventQueue with
  | nil => exact own
  | cons event rest =>
    rw [events] at silent
    cases event with
    | sendNextMessage =>
      exact (proc.takeEvent.handleSendNextMessage_sends env).timer consistent
        taken fun queued element next answered backsOff =>
          silent queued ⟨element, next, answered, backsOff⟩
    | sendOperationComplete session =>
      dsimp only [handleEvent]
      split
      next =>
        exact ((proc.takeEvent.transmissionCompletedStep_completes env
          session).timer consistent taken silent).1
      next backingOff =>
        exact taken.completeDuringBackoff consistent silent (not_not.mp backingOff)
          env
    | backoffTimerExpired => exact (taken.resumeFromBackoffStep consistent silent env).1
    | nodeDeleted node =>
      exact taken.abortAll consistent _
        (fun queued session mem restores => silent queued ⟨session, mem, restores⟩) env
    | frameReceived node frame =>
      exact taken.inspectReceivedFrameStep consistent node frame
        (fun queued resumes restores => silent queued ⟨resumes, restores⟩) env

theorem OwnTimer.sendData (own : proc.OwnTimer) (consistent : proc.txQueue.Consistent)
    (counterFits : proc.txQueue.zwaveTxSessionIdCounter + 2 < 2 ^ 32) (env : Surroundings)
    (request : SendRequest) : (proc.sendData env request).2.OwnTimer := by
  have more := (sendData_consistent consistent counterFits env request).2
  have kept : ∀ session, session < proc.txQueue.zwaveTxSessionIdCounter ->
      ∀ element, (proc.sendData env request).2.txQueue.find session = some element ->
        proc.txQueue.find session = some element := by
    intro session old element found
    rcases sendData_find consistent counterFits env request old with gone | same
    · rw [gone] at found
      cases found
    · rw [← same, found]
  obtain ⟨txQueue, accepted, callbacks, count, sent⟩ := proc.sendData_eq env request
  rw [sent] at more kept ⊢
  refine ⟨fun backsOff => ?_, fun backsOff element found => ?_,
    fun backsOff element found arming mem => ?_⟩
  · exact Nat.lt_of_lt_of_le (own.issued backsOff) more
  · exact own.timer backsOff element (kept _ (own.issued backsOff) element found)
  · refine own.expiries backsOff element (kept _ (own.issued backsOff) element found) arming ?_
    rcases List.mem_append.mp mem with old | new
    · exact old
    · cases List.eq_of_mem_replicate new

theorem OwnTimer.timerExpiration (own : proc.OwnTimer) : proc.timerExpiration.OwnTimer := by
  unfold TxProcess.timerExpiration
  split
  next arming armed =>
    refine ⟨own.issued, fun _ _ _ => .inl rfl, fun backsOff element found other mem => ?_⟩
    rcases List.mem_append.mp mem with old | new
    · exact own.expiries backsOff element found other old
    · cases List.mem_singleton.mp new
      rcases own.timer backsOff element found with stopped | same
      · rw [armed] at stopped
        cases stopped
      · exact Option.some.inj (armed.symm.trans same)
  next => exact own

theorem OwnTimer.postEvent (own : proc.OwnTimer) {event : Event}
    (noExpiry : ∀ arming, event ≠ .backoffTimerExpired arming) :
    (proc.postEvent event).OwnTimer := by
  refine ⟨own.issued, own.timer, fun backsOff element found arming mem => ?_⟩
  rcases List.mem_append.mp mem with old | new
  · exact own.expiries backsOff element found arming old
  · exact absurd (List.mem_singleton.mp new).symm (noExpiry arming)

theorem OwnTimer.flushQueueResetStep (own : proc.OwnTimer) (consistent : proc.txQueue.Consistent)
    (env : Surroundings) : (proc.flushQueueResetStep env).2.OwnTimer := by
  have flushing : (proc.withFlush true).OwnTimer := ⟨own.issued, own.timer, own.expiries⟩
  have noRestore : ∀ reached : TxProcess, reached.queueFlushOngoing = true ->
      ¬ reached.ResumeRestores := by
    intro reached flush restores
    rw [restores.1] at flush
    cases flush
  unfold TxProcess.flushQueueResetStep
  dsimp only
  split
  · exact flushing
  · have resumed : (if (proc.withFlush true).state = .backoff then
        (proc.withFlush true).resumeFromBackoffStep env
        else proc.withFlush true).OwnTimer ∧
        (proc.withFlush true).Quiet (if (proc.withFlush true).state = .backoff then
          (proc.withFlush true).resumeFromBackoffStep env
          else proc.withFlush true) := by
      split
      · exact ⟨(flushing.resumeFromBackoffStep consistent
          (fun _ => noRestore _ rfl) env).1, resumeFromBackoffStep_quiet _ _⟩
      · exact ⟨flushing, .refl _⟩
    unfold flushCurrent
    dsimp only
    generalize (if (proc.withFlush true).state = .backoff then
      (proc.withFlush true).resumeFromBackoffStep env
      else proc.withFlush true) = current at resumed
    obtain ⟨currentOwn, quiet⟩ := resumed
    have currentConsistent := quiet.shrinks.consistent consistent
    have currentFlush : current.queueFlushOngoing = true := quiet.queueFlushOngoing
    split
    next ongoing =>
      have aborts := current.transportAbortSendData_aborts env
        current.currentTxSessionId
      have dropped := dropUnsentCurrentMessage_sameControl
        (transportAbortSendData env current current.currentTxSessionId).2
      have state := (dropped.1.state.trans aborts.sameControl.state).trans ongoing
      refine (OwnTimer.of_not_backsOff ?_).abortAll ?_ _ (fun _ session _ restores => ?_)
        env
      · intro backsOff
        rw [BacksOff, state] at backsOff
        exact nomatch backsOff.1
      · exact (aborts.evolves.trans (dropUnsentCurrentMessage_evolves _)).consistent
          currentConsistent
      · refine noRestore _ ?_ restores.2.2.2
        exact (dropped.1.queueFlushOngoing.trans aborts.sameControl.queueFlushOngoing).trans
          currentFlush
    next =>
      exact currentOwn.abortAll currentConsistent _
        (fun _ _ _ restores => noRestore _ currentFlush restores.2.2.2) env

/-- Every step that starts its waits silently keeps the invariant. -/
theorem TimerInvariant.step {action : Action} (invariant : proc.TimerInvariant)
    (silently : proc.StartsWaitsSilently action) : (proc.step action).TimerInvariant := by
  obtain ⟨counterFits, silent⟩ := silently
  refine ⟨(step_consistent invariant.consistent counterFits).1, ?_⟩
  obtain ⟨consistent, own⟩ := invariant
  cases action with
  | sendData env request => exact own.sendData consistent counterFits env request
  | transportCompletion session status report =>
    unfold TxProcess.step transportCallsBack
    dsimp only
    split
    next => exact own
    next dispatch oldest =>
      refine own.transfer consistent (proc.completeDispatch_evolves dispatch status report)
        (proc.completeDispatch_sameControl dispatch status report).1 ?_
      intro arming mem
      rcases @onZwaveTransportSendDataComplete_mem_eventQueue (proc.takeDispatch dispatch)
        _ _ _ _ mem with old | ⟨_, new⟩
      · exact old
      · cases new
  | timerExpiration => exact own.timerExpiration
  | frameReceived => exact own.postEvent fun _ => nofun
  | abortTransmission env session =>
    exact ((proc.abortTransmission_aborts env session).timer consistent own
      silent).1
  | nodeDeleted node =>
    unfold TxProcess.step
    dsimp only
    split
    · exact own
    · exact own.postEvent fun _ => nofun
  | flushQueueResetStep env => exact own.flushQueueResetStep consistent env
  | openTxQueue | clockTick => exact ⟨own.issued, own.timer, own.expiries⟩
  | setExpectedFrames env node count =>
    have set : (proc.withExpectedFrames
        (proc.expectedIncomingFrames.setFrames node count)).OwnTimer :=
      ⟨own.issued, own.timer, own.expiries⟩
    unfold TxProcess.step TxProcess.setExpectedFrames
    dsimp only
    split
    next ends =>
      exact (set.resumeFromBackoffStep consistent
        (fun queued restores => silent queued ⟨ends.1, ends.2.1, ends.2.2, restores⟩)
        env).1
    next => exact set
  | watchdogTick env =>
    exact own.serviceInFlightWatchdog consistent
      (fun queued stuck flush session waits => silent queued ⟨stuck, flush, session, waits⟩) env
  | handleNextEvent env => exact handleNextEvent_timer ⟨consistent, own⟩ silent

theorem initial_timerInvariant : initial.TimerInvariant :=
  ⟨TxQueue.Consistent.initial, .of_not_backsOff fun backsOff => nomatch backsOff.1⟩

/-- In every state of a run in which no wait for the replies to a session starts
while an expiration is queued, an expiration ends no wait but the one its timer
was armed for. -/
theorem expirations_end_their_own_wait (actions : List Action)
    (meets : StepsMeet step StartsWaitsSilently initial actions) {done : List Action}
    (before : done <+: actions) : (run step initial done).NextExpiryIsOwn :=
  ((meets.of_isPrefix before).invariant TimerInvariant
    (fun _ _ invariant silently => invariant.step silently)
    initial_timerInvariant).own.nextExpiryIsOwn

theorem not_expiryQueued
    (others : (proc.eventQueue.all fun event =>
      match event with
      | .backoffTimerExpired _ => false
      | _ => true) = true) :
    ¬ proc.ExpiryQueued := by
  rintro ⟨arming, mem⟩
  have other := List.all_eq_true.mp others _ mem
  cases other

/-- A frame is sent, waits for its reply and times out. -/
def sampleExpirationRun : List Action :=
  [.sendData {} (sampleRequest 5 1 10), .handleNextEvent {}, .transportCompletion 0 0 none,
    .handleNextEvent {}, .timerExpiration]

theorem expirations_end_their_own_wait_sample :
    StepsMeet step StartsWaitsSilently initial sampleExpirationRun ∧
      (run step initial sampleExpirationRun).NextExpiryIsOwn := by
  have meets : StepsMeet step StartsWaitsSilently initial sampleExpirationRun := by
    refine ⟨⟨?_, ?_⟩, ⟨trivial, ?_⟩, ⟨trivial, ?_⟩, ⟨trivial, ?_⟩, ⟨trivial, ?_⟩, trivial⟩
    · exact show 0 + 2 < 2 ^ 32 by decide
    · exact fun _ => id
    · exact fun queued => absurd queued (not_expiryQueued (by decide))
    · exact fun _ => id
    · exact fun queued => absurd queued (not_expiryQueued (by decide))
    · exact fun _ => id
  exact ⟨meets, expirations_end_their_own_wait sampleExpirationRun meets (List.prefix_refl _)⟩

/-- Two frames are on their way.  The first waits for its reply and times out
just after the second is completed. -/
def staleExpirationRun : List Action :=
  [.sendData {} (sampleRequest 5 1 10), .handleNextEvent {},
    .sendData {} (sampleBypassRequest 6 1 20), .handleNextEvent {},
    .transportCompletion 0 0 none, .handleNextEvent {}, .transportCompletion 1 0 none,
    .timerExpiration, .handleNextEvent {}]

/-- The expiration of the first wait is about to end the second one, which has
just begun. -/
theorem stale_expiration : ¬ (run step initial staleExpirationRun).NextExpiryIsOwn := by
  intro isOwn
  have same := isOwn 1 [] (by decide) ⟨by decide, by decide⟩ (by decide)
  revert same
  decide

end TxProcess

end ZwaveTx
