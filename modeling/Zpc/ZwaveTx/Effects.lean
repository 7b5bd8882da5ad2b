import Zpc.ZwaveTx.QueueConsistency
import Zpc.ZwaveTx.System

/-!
# Effects of the internal functions

What the functions that end back-offs and look at the queue can do to the
state: which variables they leave alone, how the queue shrinks and which of the
few possible states they end in.  The results about runs use these rules and do
not look into the functions again.
-/

namespace ZwaveTx

open Foundation

namespace TxQueue

/-- Some elements were taken out and the others are as they were. -/
structure Shrinks (before after : TxQueue) : Prop where
  counter : after.zwaveTxSessionIdCounter = before.zwaveTxSessionIdCounter
  consistent : before.Consistent -> after.Consistent
  find : before.Consistent -> ∀ session,
    after.find session = none ∨ after.find session = before.find session

theorem Shrinks.refl (txQueue : TxQueue) : txQueue.Shrinks txQueue := ⟨rfl, id, fun _ _ => .inr rfl⟩

theorem Shrinks.trans {first second third : TxQueue} (earlier : first.Shrinks second)
    (later : second.Shrinks third) : first.Shrinks third where
  counter := later.counter.trans earlier.counter
  consistent := fun consistent => later.consistent (earlier.consistent consistent)
  find := by
    intro consistent session
    rcases later.find (earlier.consistent consistent) session with gone | kept
    · exact .inl gone
    · rw [kept]
      exact earlier.find consistent session

theorem Shrinks.pop (txQueue : TxQueue) (session : SessionId) :
    txQueue.Shrinks (txQueue.pop session).2 where
  counter := counter_pop txQueue session
  consistent := fun consistent => consistent.pop session
  find := by
    intro consistent other
    rw [consistent.distinct.find_pop]
    split
    · exact .inl rfl
    · exact .inr rfl

variable {before after : TxQueue} {session : SessionId}

theorem Shrinks.find_some (shrinks : before.Shrinks after) (consistent : before.Consistent)
    {element : QueueElement} (found : after.find session = some element) :
    before.find session = some element := by
  rcases shrinks.find consistent session with gone | kept
  · rw [gone] at found
    cases found
  · rw [← kept, found]

theorem Shrinks.find_none (shrinks : before.Shrinks after) (consistent : before.Consistent)
    (absent : before.find session = none) : after.find session = none := by
  rcases shrinks.find consistent session with gone | kept
  · exact gone
  · rw [kept, absent]

end TxQueue

namespace TxProcess

/-- What the end of a back-off, the handling of a completion and the check of
the queue leave alone. -/
structure Leaves (before after : TxProcess) : Prop where
  queueFlushOngoing : after.queueFlushOngoing = before.queueFlushOngoing
  isProtocolFrame : after.isProtocolFrame = before.isProtocolFrame
  protocolMetadata : after.protocolMetadata = before.protocolMetadata
  clockTime : after.clockTime = before.clockTime
  inFlight : after.inFlight = before.inFlight
  completions : after.completions = before.completions
  accepted : after.accepted = before.accepted
  undefinedBehaviour : after.undefinedBehaviour = before.undefinedBehaviour

variable (env : Surroundings) (proc : TxProcess) (element : QueueElement)
  (session : SessionId) {first second third before after broken : TxProcess}
  {justPreempted : Bool}

theorem Leaves.refl : proc.Leaves proc := ⟨rfl, rfl, rfl, rfl, rfl, rfl, rfl, rfl⟩

theorem Leaves.trans (earlier : first.Leaves second) (later : second.Leaves third) :
    first.Leaves third where
  queueFlushOngoing := later.queueFlushOngoing.trans earlier.queueFlushOngoing
  isProtocolFrame := later.isProtocolFrame.trans earlier.isProtocolFrame
  protocolMetadata := later.protocolMetadata.trans earlier.protocolMetadata
  clockTime := later.clockTime.trans earlier.clockTime
  inFlight := later.inFlight.trans earlier.inFlight
  completions := later.completions.trans earlier.completions
  accepted := later.accepted.trans earlier.accepted
  undefinedBehaviour := later.undefinedBehaviour.trans earlier.undefinedBehaviour

/-- No user is called back, no element is changed and no event but a request to
send is posted. -/
structure Quiet (before after : TxProcess) : Prop extends Leaves before after where
  shrinks : before.txQueue.Shrinks after.txQueue
  callbacks : after.callbacks = before.callbacks
  events : ∃ count, after.eventQueue = before.eventQueue ++ List.replicate count .sendNextMessage

theorem Quiet.of_sameQueue (leaves : before.Leaves after) (txQueue : after.txQueue = before.txQueue)
    (callbacks : after.callbacks = before.callbacks)
    (eventQueue : after.eventQueue = before.eventQueue) : before.Quiet after where
  toLeaves := leaves
  shrinks := txQueue ▸ TxQueue.Shrinks.refl _
  callbacks := callbacks
  events := ⟨0, by simpa using eventQueue⟩

theorem Quiet.refl : proc.Quiet proc := .of_sameQueue (.refl proc) rfl rfl rfl

theorem Quiet.trans (earlier : first.Quiet second) (later : second.Quiet third) :
    first.Quiet third where
  toLeaves := earlier.toLeaves.trans later.toLeaves
  shrinks := earlier.shrinks.trans later.shrinks
  callbacks := later.callbacks.trans earlier.callbacks
  events := by
    obtain ⟨count, earlierEvents⟩ := earlier.events
    obtain ⟨more, laterEvents⟩ := later.events
    exact ⟨count + more, by rw [laterEvents, earlierEvents, List.append_assoc,
      List.replicate_append_replicate]⟩

variable {event : Event} {completed : TxProcess}

theorem Quiet.mem_eventQueue (quiet : before.Quiet after) (mem : event ∈ after.eventQueue) :
    event ∈ before.eventQueue ∨ event = .sendNextMessage := by
  obtain ⟨count, events⟩ := quiet.events
  rw [events, List.mem_append] at mem
  exact mem.imp_right List.eq_of_mem_replicate

theorem Quiet.eventQueue_subset (quiet : before.Quiet after) :
    before.eventQueue ⊆ after.eventQueue := by
  obtain ⟨count, events⟩ := quiet.events
  rw [events]
  exact List.subset_append_left _ _

theorem Quiet.timerStop : proc.Quiet proc.timerStop :=
  .of_sameQueue { Leaves.refl _ with } rfl rfl rfl

theorem Quiet.withState (state : TxState) : proc.Quiet (proc.withState state) :=
  .of_sameQueue { Leaves.refl _ with } rfl rfl rfl

theorem Quiet.setBackoffReason (reason : BackoffReason) :
    proc.Quiet { proc with backoffReason := reason } :=
  .of_sameQueue { Leaves.refl _ with } rfl rfl rfl

theorem Quiet.setStack (stack : List SessionId) :
    proc.Quiet { proc with preemptedBackoffStack := stack } :=
  .of_sameQueue { Leaves.refl _ with } rfl rfl rfl

theorem Quiet.withCurrent : proc.Quiet (proc.withCurrent session) :=
  .of_sameQueue { Leaves.refl _ with } rfl rfl rfl

theorem Quiet.withExpectedFrames (frames : IncomingFrames) :
    proc.Quiet (proc.withExpectedFrames frames) :=
  .of_sameQueue { Leaves.refl _ with } rfl rfl rfl

theorem Quiet.initiateBackoff (reason : BackoffReason) : proc.Quiet (proc.initiateBackoff reason) :=
  .of_sameQueue { Leaves.refl _ with } rfl rfl rfl

theorem Quiet.preemptBackoff : proc.Quiet proc.preemptBackoff :=
  .of_sameQueue { Leaves.refl _ with } rfl rfl rfl

theorem Quiet.askForNext : proc.Quiet (proc.postEvent .sendNextMessage) where
  toLeaves := { Leaves.refl _ with }
  shrinks := .refl _
  callbacks := rfl
  events := ⟨1, rfl⟩

/-- How the check of the queue breaks a back-off, if at all; the flag tells that
the back-off of a session was pre-empted. -/
inductive Breaks (env : Surroundings) (proc : TxProcess) : Bool -> TxProcess -> Prop
  | nothing
      (notBackingOff : proc.state ≠ .backoff) :
      Breaks env proc false proc
  | expectedFrames
      (backingOff : proc.state = .backoff)
      (reason : proc.backoffReason = .expectedAdditionalFrames)
      (ignores : proc.canIgnoreIncomingFrames env = true) :
      Breaks env proc false (proc.timerStop.withState .idle)
  | preempts
      (backingOff : proc.state = .backoff)
      (reason : proc.backoffReason = .currentSessionId)
      (ignores : proc.canIgnoreIncomingFrames env = true) :
      Breaks env proc true proc.preemptBackoff

/-- The states in which the check of the queue can end. -/
inductive Checks (env : Surroundings) (proc : TxProcess) : TxProcess -> Prop
  | keepsBackingOff
      (backingOff : proc.state = .backoff)
      (stays : proc.backoffReason = .expectedAdditionalFrames ∨
        proc.backoffReason = .currentSessionId -> proc.canIgnoreIncomingFrames env = false) :
      Checks env proc proc
  | startsBackoff
      {broken : TxProcess}
      (breaks : Breaks env proc false broken)
      (reason : BackoffReason)
      (noSession : reason ≠ .currentSessionId) :
      Checks env proc (broken.initiateBackoff reason)
  | asksForNext
      {justPreempted : Bool}
      {broken : TxProcess}
      (breaks : Breaks env proc justPreempted broken)
      (nonempty : broken.txQueue.empty = false) :
      Checks env proc (broken.postEvent .sendNextMessage)
  | rests
      {justPreempted : Bool}
      {broken : TxProcess}
      (breaks : Breaks env proc justPreempted broken)
      (nothing : broken.txQueue.empty = true) :
      Checks env proc broken

theorem Breaks.state_ne {env : Surroundings} {proc : TxProcess}
    (breaks : Breaks env proc justPreempted broken) : broken.state ≠ .backoff := by
  cases breaks with
  | nothing notBackingOff => exact notBackingOff
  | expectedFrames | preempts => exact nofun

theorem Breaks.quiet {env : Surroundings} {proc broken : TxProcess} {justPreempted : Bool}
    (breaks : Breaks env proc justPreempted broken) : proc.Quiet broken := by
  cases breaks with
  | nothing => exact .refl proc
  | expectedFrames => exact (Quiet.timerStop proc).trans (.withState _ _)
  | preempts => exact .preemptBackoff proc

theorem breakBackoff_breaks :
    Breaks env proc (proc.breakBackoff env).1
        (proc.breakBackoff env).2 ∨
      (proc.state = .backoff ∧
        (proc.backoffReason = .expectedAdditionalFrames ∨
          proc.backoffReason = .currentSessionId -> proc.canIgnoreIncomingFrames env = false) ∧
        proc.breakBackoff env = (false, proc)) := by
  unfold breakBackoff
  split
  next forExpected => exact .inl (.expectedFrames forExpected.1 forExpected.2.1 forExpected.2.2)
  next notExpected =>
    split
    next preempted => exact .inl (.preempts preempted.1 preempted.2.1 preempted.2.2)
    next notPreempted =>
      by_cases backingOff : proc.state = .backoff
      · refine .inr ⟨backingOff, ?_, rfl⟩
        rintro (reason | reason)
        · simpa [backingOff, reason] using notExpected
        · simpa [backingOff, reason] using notPreempted
      · exact .inl (.nothing backingOff)

theorem checkQueue_checks : Checks env proc (proc.checkQueue env) := by
  unfold checkQueue
  rcases breakBackoff_breaks env proc with breaks | ⟨backingOff, stays, same⟩
  · generalize proc.breakBackoff env = broken at breaks
    obtain ⟨justPreempted, broken⟩ := broken
    have notBackingOff := breaks.state_ne
    dsimp only at breaks notBackingOff ⊢
    unfold startBackoffIfDue
    split
    next due =>
      have fresh : justPreempted = false := by
        cases breaks with
        | nothing | expectedFrames => rfl
        | preempts => exact absurd due.1 nofun
      subst fresh
      exact .startsBackoff breaks _ nofun
    next =>
      split
      next due =>
        have fresh := due.2.2.1
        subst fresh
        exact .startsBackoff breaks _ nofun
      next =>
        split
        next ready => exact .asksForNext breaks ready.2
        next notReady => exact .rests breaks (by simpa [notBackingOff] using notReady)
  · rw [same]
    have unchanged : startBackoffIfDue env false proc = proc := by
      simp [startBackoffIfDue, backingOff]
    simp only [unchanged, backingOff, ne_eq, not_true_eq_false, false_and, if_false]
    exact .keepsBackingOff backingOff stays

theorem Checks.quiet {env : Surroundings} {proc checked : TxProcess}
    (checks : Checks env proc checked) : proc.Quiet checked := by
  cases checks with
  | keepsBackingOff => exact .refl proc
  | startsBackoff breaks reason => exact breaks.quiet.trans (.initiateBackoff _ reason)
  | asksForNext breaks => exact breaks.quiet.trans (.askForNext _)
  | rests breaks => exact breaks.quiet

theorem checkQueue_quiet : proc.Quiet (proc.checkQueue env) := (checkQueue_checks env proc).quiet

theorem checkQueue_same :
    (proc.checkQueue env).txQueue = proc.txQueue ∧
      (proc.checkQueue env).currentTxSessionId = proc.currentTxSessionId := by
  have same : ∀ flag broken, Breaks env proc flag broken ->
      broken.txQueue = proc.txQueue ∧ broken.currentTxSessionId = proc.currentTxSessionId := by
    intro flag broken breaks
    cases breaks with
    | nothing | expectedFrames | preempts => exact ⟨rfl, rfl⟩
  have checks := checkQueue_checks env proc
  generalize proc.checkQueue env = checked at checks
  cases checks with
  | keepsBackingOff => exact ⟨rfl, rfl⟩
  | @startsBackoff broken breaks | @asksForNext _ broken breaks => exact same _ broken breaks
  | @rests _ _ breaks => exact same _ _ breaks

theorem checkQueue_of_not_backoff {proc : TxProcess} (notBackingOff : proc.state ≠ .backoff)
    (env : Surroundings) :
    (∃ reason, reason ≠ .currentSessionId ∧ proc.checkQueue env = proc.initiateBackoff reason) ∨
    (proc.txQueue.empty = false ∧ proc.checkQueue env = proc.postEvent .sendNextMessage) ∨
    (proc.txQueue.empty = true ∧ proc.checkQueue env = proc) := by
  have same : ∀ flag broken, Breaks env proc flag broken -> broken = proc := by
    intro flag broken breaks
    cases breaks with
    | nothing => rfl
    | expectedFrames backingOff | preempts backingOff => exact absurd backingOff notBackingOff
  have checks := checkQueue_checks env proc
  generalize proc.checkQueue env = checked at checks
  cases checks with
  | keepsBackingOff backingOff => exact absurd backingOff notBackingOff
  | startsBackoff breaks reason noSession =>
    rw [same _ _ breaks]
    exact .inl ⟨reason, noSession, rfl⟩
  | asksForNext breaks nonempty =>
    rw [same _ _ breaks] at nonempty ⊢
    exact .inr (.inl ⟨nonempty, rfl⟩)
  | rests breaks nothing =>
    rw [same _ _ breaks] at nothing ⊢
    exact .inr (.inr ⟨nothing, rfl⟩)

/-- The state after an element was removed, given where the process goes. -/
def removed (proc : TxProcess) (session : SessionId) (state : TxState)
    (current : SessionId) : TxProcess :=
  { proc with
    state := state
    currentTxSessionId := current
    txQueue := (proc.txQueue.pop session).2
    preemptedBackoffStack := proc.preemptedBackoffStack.filter fun other => other != session
    resetStepsCompleted :=
      if proc.queueFlushOngoing ∧ (proc.txQueue.pop session).2.empty = true then
        proc.resetStepsCompleted + 1
      else proc.resetStepsCompleted }

/-- Where the process goes when an element is removed: to its queued parent, or
back to idle. -/
inductive Parks (proc : TxProcess) (element : QueueElement) : TxState -> SessionId -> Prop
  | atParent
      {parent : QueueElement}
      (isChild : element.options.transport.validParentSessionId = true)
      (queued : proc.txQueue.find element.options.transport.parentSessionId = some parent) :
      Parks proc element .transmissionOngoing
        element.options.transport.parentSessionId
  | idle
      (orphan : element.options.transport.validParentSessionId = true ->
        proc.txQueue.find element.options.transport.parentSessionId = none) :
      Parks proc element .idle nullSession

theorem Parks.state_ne {proc : TxProcess} {element : QueueElement} {state : TxState}
    {current : SessionId} (parks : Parks proc element state current) : state ≠ .backoff := by
  cases parks with
  | atParent | idle => exact nofun

theorem removeElement_parks :
    ∃ state current, Parks proc element state current ∧
      proc.removeElement element = proc.removed element.zwaveTxSessionId state current := by
  unfold removeElement
  by_cases isChild : element.options.transport.validParentSessionId = true
  · rw [if_pos isChild]
    unfold TxQueue.getById
    cases queued : proc.txQueue.find element.options.transport.parentSessionId with
    | none =>
      refine ⟨_, _, .idle fun _ => queued, ?_⟩
      dsimp only [removed]
      split <;> rfl
    | some parent =>
      refine ⟨_, _, .atParent isChild queued, ?_⟩
      dsimp only [removed]
      rw [TxQueue.find_session queued]
      split <;> rfl
  · rw [if_neg isChild]
    refine ⟨_, _, .idle fun isChild' => absurd isChild' isChild, ?_⟩
    dsimp only [removed]
    split <;> rfl

theorem Quiet.removed (state : TxState) (current : SessionId) :
    proc.Quiet (proc.removed session state current) where
  toLeaves := { Leaves.refl _ with }
  shrinks := .pop proc.txQueue session
  callbacks := rfl
  events := ⟨0, (List.append_nil _).symm⟩

theorem removeElement_quiet : proc.Quiet (proc.removeElement element) := by
  obtain ⟨state, current, _, removed⟩ := proc.removeElement_parks element
  rw [removed]
  exact .removed proc _ state current

theorem finalizeElement_of_find {proc : TxProcess} {session : SessionId} {element : QueueElement}
    (found : proc.txQueue.find session = some element) (env : Surroundings) :
    proc.finalizeElement env session = proc.removeElement element := by
  unfold finalizeElement TxQueue.getById
  rw [found]

theorem finalizeElement_of_absent {proc : TxProcess} {session : SessionId}
    (absent : proc.txQueue.find session = none) (env : Surroundings) :
    proc.finalizeElement env session = checkQueue env (proc.withState .idle) := by
  unfold finalizeElement TxQueue.getById
  rw [absent]

/-- The back-off of an element is taken up again when it comes up on the
stack. -/
def isRestorable (element : QueueElement) : Prop :=
  element.options.numberOfResponses ≠ 0 ∧ element.transmissionTime ≠ 0

instance (element : QueueElement) : Decidable (isRestorable element) :=
  inferInstanceAs (Decidable (_ ∧ _))

theorem restoreLoop_rule (invariant result : TxProcess -> Prop)
    (absent : ∀ proc session outer,
      invariant proc -> proc.preemptedBackoffStack = session :: outer ->
      proc.txQueue.find session = none -> invariant proc.dropStack)
    (finalized : ∀ proc session outer element,
      invariant proc -> proc.preemptedBackoffStack = session :: outer ->
      proc.txQueue.find session = some element -> ¬ isRestorable element ->
      invariant (proc.dropStack.removeElement element))
    (restored : ∀ proc session outer element,
      invariant proc -> proc.preemptedBackoffStack = session :: outer ->
      proc.txQueue.find session = some element -> isRestorable element ->
      result (proc.dropStack.backOffFor session))
    (exhausted : ∀ proc, invariant proc -> proc.preemptedBackoffStack = [] -> result proc)
    (rounds : Nat)
    (proc : TxProcess)
    (initially : invariant proc)
    (enough : proc.preemptedBackoffStack.length ≤ rounds) :
    result (restoreLoop env rounds proc) := by
  induction rounds generalizing proc with
  | zero => exact exhausted proc initially (List.eq_nil_of_length_eq_zero (by omega))
  | succ rounds ih =>
    unfold restoreLoop
    split
    next nothing => exact exhausted proc initially nothing
    next session outer stacked =>
      have shorter : proc.dropStack.preemptedBackoffStack.length ≤ rounds := by
        simpa [dropStack, stacked] using enough
      unfold TxQueue.getById
      cases found : proc.txQueue.find session with
      | none =>
        exact ih _ (absent proc session outer initially stacked found)
          shorter
      | some element =>
        dsimp only
        split
        next finished =>
          have notRestorable : ¬ isRestorable element := by
            unfold isRestorable
            tauto
          rw [@finalizeElement_of_find proc.dropStack session element found]
          refine ih _
            (finalized proc session outer element initially stacked found notRestorable) ?_
          obtain ⟨state, current, _, removed⟩ := proc.dropStack.removeElement_parks element
          rw [removed]
          exact Nat.le_trans (List.length_filter_le _ _) shorter
        next unfinished =>
          have restorable : isRestorable element := by
            tauto
          exact restored proc session outer element initially stacked found restorable

theorem restoreLoop_quiet (rounds : Nat) (proc : TxProcess)
    (enough : proc.preemptedBackoffStack.length ≤ rounds) :
    proc.Quiet (restoreLoop env rounds proc) := by
  refine restoreLoop_rule env (proc.Quiet ·) (proc.Quiet ·) ?_ ?_ ?_ ?_
    rounds proc (.refl proc) enough
  · intro current session outer quiet _ _
    exact quiet.trans (.setStack current _)
  · intro current session outer element quiet _ _ _
    exact (quiet.trans (.setStack current _)).trans (removeElement_quiet _ element)
  · intro current session outer element quiet _ _ _
    exact (quiet.trans (.setStack current _)).trans
      ((Quiet.withCurrent _ session).trans (.initiateBackoff _ _))
  · intro current quiet _
    exact quiet

theorem restorePreemptedBackoffIfNeeded_quiet :
    proc.Quiet (proc.restorePreemptedBackoffIfNeeded env) := by
  unfold restorePreemptedBackoffIfNeeded
  split
  · exact .setStack proc []
  · exact restoreLoop_quiet env _ proc (Nat.le_refl _)

/-- What the end of a back-off does. -/
inductive EndsBackoff (env : Surroundings) (proc : TxProcess) : TxProcess -> Prop
  | notBackingOff
      (notBackingOff : proc.state ≠ .backoff) :
      EndsBackoff env proc proc
  | finalizes
      {element : QueueElement}
      (backingOff : proc.state = .backoff)
      (reason : proc.backoffReason = .currentSessionId)
      (found : proc.txQueue.find proc.currentTxSessionId = some element) :
      EndsBackoff env proc (proc.removeElement element)
  | gone
      (backingOff : proc.state = .backoff)
      (reason : proc.backoffReason = .currentSessionId)
      (absent : proc.txQueue.find proc.currentTxSessionId = none) :
      EndsBackoff env proc
        (checkQueue env (proc.withState .idle))
  | expectedFrames
      (backingOff : proc.state = .backoff)
      (reason : proc.backoffReason = .expectedAdditionalFrames) :
      EndsBackoff env proc
        ((proc.withExpectedFrames IncomingFrames.clear).withState .idle)
  | otherReason
      (backingOff : proc.state = .backoff)
      (noSession : proc.backoffReason ≠ .currentSessionId) :
      EndsBackoff env proc (proc.withState .idle)

theorem endBackoff_ends : EndsBackoff env proc (proc.endBackoff env) := by
  unfold endBackoff
  split
  next backingOff =>
    split
    next reason =>
      cases found : proc.txQueue.find proc.currentTxSessionId with
      | none =>
        rw [finalizeElement_of_absent found]
        exact .gone backingOff reason found
      | some element =>
        rw [finalizeElement_of_find found]
        exact .finalizes backingOff reason found
    next reason => exact .expectedFrames backingOff reason
    next reason => exact .otherReason backingOff (by rw [reason]; exact nofun)
    next reason => exact .otherReason backingOff (by rw [reason]; exact nofun)
  next notBackingOff => exact .notBackingOff notBackingOff

theorem EndsBackoff.quiet {env : Surroundings} {proc ended : TxProcess}
    (ends : EndsBackoff env proc ended) : proc.Quiet ended := by
  cases ends with
  | notBackingOff => exact .refl proc
  | finalizes => exact proc.removeElement_quiet _
  | gone => exact (Quiet.withState proc .idle).trans (checkQueue_quiet env _)
  | expectedFrames => exact (Quiet.withExpectedFrames proc _).trans (.withState _ .idle)
  | otherReason => exact .withState proc .idle

/-- The state in which the end of a back-off takes up a pre-empted one. -/
def backoffEnded (env : Surroundings) (proc : TxProcess) : TxProcess :=
  { endBackoff env proc.timerStop with backoffReason := .currentSessionId }

theorem backoffEnded_quiet : proc.Quiet (proc.backoffEnded env) :=
  ((Quiet.timerStop proc).trans (endBackoff_ends env _).quiet).trans
    (.setBackoffReason _ _)

theorem resumeFromBackoffStep_eq :
    proc.resumeFromBackoffStep env =
      checkQueue env
        ((proc.backoffEnded env).restorePreemptedBackoffIfNeeded
          env) := rfl

theorem backoffEnded_adrift :
    ((proc.backoffEnded env).state = .backoff ->
      proc.state = .backoff ∧ proc.backoffReason = .currentSessionId ∧
        proc.txQueue.find proc.currentTxSessionId = none ∧
        (proc.backoffEnded env).currentTxSessionId = proc.currentTxSessionId) ∧
      ∀ session ∈ (proc.backoffEnded env).preemptedBackoffStack,
        session ∈ proc.preemptedBackoffStack ∧
          (proc.state = .backoff -> proc.backoffReason = .currentSessionId ->
            session = proc.currentTxSessionId ->
              proc.txQueue.find proc.currentTxSessionId = none) := by
  unfold backoffEnded
  have ends := endBackoff_ends env proc.timerStop
  generalize endBackoff env proc.timerStop = ended at ends
  cases ends with
  | notBackingOff notBackingOff =>
    exact ⟨fun backingOff => absurd backingOff notBackingOff,
      fun session mem => ⟨mem, fun backingOff => absurd backingOff notBackingOff⟩⟩
  | @finalizes element backingOff reason found =>
    obtain ⟨state, current, parks, removed⟩ := proc.timerStop.removeElement_parks element
    rw [removed]
    refine ⟨fun backingOff => absurd backingOff parks.state_ne, fun session mem => ?_⟩
    obtain ⟨stacked, differs⟩ := List.mem_filter.mp mem
    have own : element.zwaveTxSessionId = proc.currentTxSessionId := TxQueue.find_session found
    refine ⟨stacked, fun _ _ same => ?_⟩
    rw [own] at differs
    simp [same] at differs
  | gone backingOff reason absent =>
    have idle : (proc.timerStop.withState .idle).state ≠ .backoff := nofun
    rcases checkQueue_of_not_backoff idle env with
      ⟨other, _, started⟩ | ⟨_, asked⟩ | ⟨_, rested⟩
    · rw [started]
      exact ⟨fun _ => ⟨backingOff, reason, absent, rfl⟩,
        fun session mem => ⟨mem, fun _ _ _ => absent⟩⟩
    · rw [asked]
      exact ⟨fun again => absurd again idle, fun session mem => ⟨mem, fun _ _ _ => absent⟩⟩
    · rw [rested]
      exact ⟨fun again => absurd again idle, fun session mem => ⟨mem, fun _ _ _ => absent⟩⟩
  | expectedFrames backingOff reason =>
    refine ⟨nofun, fun session mem => ⟨mem, fun _ isSession => ?_⟩⟩
    rw [show proc.backoffReason = _ from reason] at isSession
    cases isSession
  | otherReason backingOff noSession =>
    exact ⟨nofun, fun session mem => ⟨mem, fun _ isSession => absurd isSession noSession⟩⟩

theorem resumeFromBackoffStep_quiet : proc.Quiet (proc.resumeFromBackoffStep env) :=
  ((proc.backoffEnded_quiet env).trans
    (restorePreemptedBackoffIfNeeded_quiet env _)).trans
    (checkQueue_quiet env _)

/-- The pending flag of a session is taken. -/
def consumed (proc : TxProcess) (session : SessionId) : TxProcess :=
  proc.withQueue (proc.txQueue.consumeTransportCompletionStepPending session).2

/-- The user of an element is told how its transmission went. -/
def calledBack (proc : TxProcess) (element : QueueElement) : TxProcess :=
  (proc.consumed element.zwaveTxSessionId).callBack element element.sendDataStatus
    (some element.sendDataTxStatus)

/-- A failed element is put back as if it had not been sent. -/
def requeued (proc : TxProcess) (session : SessionId) : TxProcess :=
  (proc.consumed session).withQueue
    (((proc.consumed session).txQueue.disableFasttack
      session).2.resetTransmissionTimestamp session).2

/-- What the completion step of a session can do. -/
inductive Completes
    (env : Surroundings)
    (proc : TxProcess)
    (session : SessionId) : TxProcess -> Prop
  | absent
      (absent : proc.txQueue.find session = none) :
      Completes env proc session
        (checkQueue env (proc.withState .idle))
  | redundant
      {element : QueueElement}
      (found : proc.txQueue.find session = some element)
      (notPending : element.transportCompletionStepPending = false) :
      Completes env proc session proc
  | requeues
      {element : QueueElement}
      (found : proc.txQueue.find session = some element)
      (pending : element.transportCompletionStepPending = true)
      (requeues : proc.isToBeRequeued element = true) :
      Completes env proc session
        (checkQueue env (proc.requeued session))
  | backsOff
      {element : QueueElement}
      (found : proc.txQueue.find session = some element)
      (pending : element.transportCompletionStepPending = true)
      (notRequeued : proc.isToBeRequeued element = false)
      (backsOff : proc.isToBeBackedOff element = true) :
      Completes env proc session
        (checkQueue env ((proc.calledBack element).backOffFor session))
  | finalizes
      {element : QueueElement}
      (found : proc.txQueue.find session = some element)
      (pending : element.transportCompletionStepPending = true)
      {state : TxState}
      {parent : SessionId}
      (notRequeued : proc.isToBeRequeued element = false)
      (notBackedOff : proc.isToBeBackedOff element = false)
      (parks : Parks (proc.calledBack element) element state parent) :
      Completes env proc session
        (checkQueue env
          (restorePreemptedBackoffIfNeeded env
            ((proc.calledBack element).removed session state parent)))

theorem finalizeElement_calledBack {proc : TxProcess} {element : QueueElement}
    (found : proc.txQueue.find element.zwaveTxSessionId = some element) (env : Surroundings) :
    ∃ state parent, Parks (proc.calledBack element) element state parent ∧
      (proc.calledBack element).finalizeElement env element.zwaveTxSessionId =
        (proc.calledBack element).removed element.zwaveTxSessionId state parent := by
  have still : (proc.calledBack element).txQueue.find element.zwaveTxSessionId =
      some (TxQueue.withoutPending element) := by
    refine (TxQueue.find_consumeTransportCompletionStepPending _ _ _).trans ?_
    rw [if_pos rfl, found]
    rfl
  rw [finalizeElement_of_find still]
  obtain ⟨state, parent, parks, removed⟩ :=
    (proc.calledBack element).removeElement_parks (TxQueue.withoutPending element)
  refine ⟨state, parent, ?_, removed⟩
  cases parks with
  | atParent isChild queued => exact .atParent isChild queued
  | idle orphan => exact .idle orphan

theorem completeElement_consumed :
    completeElement env (proc.consumed element.zwaveTxSessionId) element =
      if proc.isToBeRequeued element then
        checkQueue env (proc.requeued element.zwaveTxSessionId)
      else if proc.isToBeBackedOff element then
        checkQueue env
          ((proc.calledBack element).backOffFor element.zwaveTxSessionId)
      else
        checkQueue env
          (restorePreemptedBackoffIfNeeded env
            ((proc.calledBack element).finalizeElement env
              element.zwaveTxSessionId)) := by
  rfl

theorem transmissionCompletedStep_completes :
    Completes env proc session (proc.transmissionCompletedStep env session) := by
  unfold transmissionCompletedStep TxQueue.getById
  cases found : proc.txQueue.find session with
  | none => exact .absent found
  | some element =>
    have own := TxQueue.find_session found
    have isPending : proc.txQueue.transportCompletionStepIsPending session =
        element.transportCompletionStepPending := by
      simp [TxQueue.transportCompletionStepIsPending, found]
    by_cases pending : element.transportCompletionStepPending = true
    · have consumes : (proc.txQueue.consumeTransportCompletionStepPending session).1 = true := by
        simp [TxQueue.consumeTransportCompletionStepPending, isPending, pending]
      simp only [consumes, if_true]
      subst own
      have cases' := proc.completeElement_consumed env element
      unfold consumed at cases'
      rw [cases']
      split
      next requeues => exact .requeues found pending requeues
      next notRequeued =>
        rw [Bool.not_eq_true] at notRequeued
        split
        next backsOff => exact .backsOff found pending notRequeued backsOff
        next notBackedOff =>
          obtain ⟨state, parent, parks, removed⟩ := finalizeElement_calledBack found env
          rw [removed]
          exact .finalizes found pending notRequeued (by simpa using notBackedOff) parks
    · rw [Bool.not_eq_true] at pending
      have keeps : (proc.txQueue.consumeTransportCompletionStepPending session).1 = false := by
        simp [TxQueue.consumeTransportCompletionStepPending, isPending, pending]
      simp only [keeps, Bool.false_eq_true, if_false]
      exact .redundant found pending

theorem Leaves.withQueue (txQueue : TxQueue) : proc.Leaves (proc.withQueue txQueue) :=
  { Leaves.refl _ with }

theorem Leaves.callBack (status : Nat) (report : Option TxReport) :
    proc.Leaves (proc.callBack element status report) :=
  { Leaves.refl _ with }

theorem Leaves.calledBack : proc.Leaves (proc.calledBack element) :=
  (Leaves.withQueue proc _).trans (.callBack _ element _ _)

theorem Quiet.backOffFor : proc.Quiet (proc.backOffFor session) :=
  (Quiet.withCurrent proc session).trans (.initiateBackoff _ _)

theorem Completes.leaves {env : Surroundings} {proc completed : TxProcess} {session : SessionId}
    (completes : Completes env proc session completed) : proc.Leaves completed := by
  cases completes with
  | absent => exact ((Quiet.withState proc .idle).trans (checkQueue_quiet _ _)).toLeaves
  | redundant => exact .refl proc
  | requeues =>
    exact (Leaves.withQueue proc _).trans
      ((Leaves.withQueue _ _).trans (checkQueue_quiet _ _).toLeaves)
  | backsOff =>
    exact (Leaves.calledBack proc _).trans
      ((Quiet.backOffFor _ _).trans (checkQueue_quiet _ _)).toLeaves
  | finalizes =>
    exact (Leaves.calledBack proc _).trans
      ((Quiet.removed _ _ _ _).trans
        ((restorePreemptedBackoffIfNeeded_quiet _ _).trans
          (checkQueue_quiet _ _))).toLeaves

theorem Completes.mem_eventQueue {env : Surroundings} {proc : TxProcess} {session : SessionId}
    (completes : Completes env proc session completed) (mem : event ∈ completed.eventQueue) :
    event ∈ proc.eventQueue ∨ event = .sendNextMessage := by
  cases completes with
  | absent =>
    have quiet := checkQueue_quiet env (proc.withState .idle)
    exact quiet.mem_eventQueue mem
  | redundant => exact .inl mem
  | requeues =>
    have quiet := checkQueue_quiet env (proc.requeued session)
    exact quiet.mem_eventQueue mem
  | @backsOff element =>
    have quiet := checkQueue_quiet env
      ((proc.calledBack element).backOffFor session)
    exact quiet.mem_eventQueue mem
  | @finalizes element _ _ state parent =>
    have quiet := (Quiet.removed (proc.calledBack element) session state parent).trans
      ((restorePreemptedBackoffIfNeeded_quiet env _).trans
        (checkQueue_quiet env _))
    exact quiet.mem_eventQueue mem

theorem transmissionCompletedStep_leaves :
    proc.Leaves (proc.transmissionCompletedStep env session) :=
  (proc.transmissionCompletedStep_completes env session).leaves

end TxProcess

end ZwaveTx
