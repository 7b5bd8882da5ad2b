import Zpc.ZwaveTx.BackoffTimer

/-!
# Replies

A received frame may be the reply the current session waits for; it is counted
through the variable that names the current session.  When the reply is the
last one, the back-off is ended first, and the current session may be another
one by then.  The reply is counted once, and for no other session, as long as
the end of the back-off finds no queued session to take up and nothing above
the finished one expects responses.
-/

namespace ZwaveTx

open Foundation

namespace TxQueue

/-- The total of the responses the queued frames expect. -/
def expectedResponses (txQueue : TxQueue) : Nat :=
  (txQueue.elements.map fun element => element.options.numberOfResponses).sum

/-- A queued session above another one. -/
inductive Ancestor (txQueue : TxQueue) (session : SessionId) : SessionId -> Prop
  | parent
      {element parent : QueueElement}
      (found : txQueue.find session = some element)
      (isChild : element.options.transport.validParentSessionId = true)
      (queued : txQueue.find element.options.transport.parentSessionId = some parent) :
      Ancestor txQueue session element.options.transport.parentSessionId
  | above
      {middle : SessionId}
      {element parent : QueueElement}
      (lower : Ancestor txQueue session middle)
      (found : txQueue.find middle = some element)
      (isChild : element.options.transport.validParentSessionId = true)
      (queued : txQueue.find element.options.transport.parentSessionId = some parent) :
      Ancestor txQueue session element.options.transport.parentSessionId

variable {txQueue : TxQueue} {session : SessionId} {element : QueueElement}

theorem Ancestor.isChild {above : SessionId} (ancestor : txQueue.Ancestor session above) :
    ∃ element, txQueue.find session = some element ∧
      element.options.transport.validParentSessionId = true := by
  induction ancestor with
  | parent found isChild => exact ⟨_, found, isChild⟩
  | above _ _ _ _ ih => exact ih

/-- Whether a session or one of its parents expects responses, as
`decrement_expected_responses` looks for one. -/
def expectsAlongParents : Nat -> TxQueue -> SessionId -> Bool
  | 0, _, _ => false
  | fuel + 1, txQueue, session =>
      match txQueue.find session with
      | none => false
      | some element =>
          if 0 < element.options.numberOfResponses then true
          else if element.options.transport.validParentSessionId then
            expectsAlongParents fuel txQueue element.options.transport.parentSessionId
          else false

theorem decrementAlongParents_of_not_expects {fuel : Nat}
    (nothing : expectsAlongParents fuel txQueue session = false) :
    (decrementAlongParents fuel txQueue session).2 = txQueue := by
  induction fuel generalizing session with
  | zero => rfl
  | succ fuel ih =>
    unfold expectsAlongParents at nothing
    unfold decrementAlongParents
    cases found : txQueue.find session with
    | none => rfl
    | some element =>
      rw [found] at nothing
      dsimp only at nothing ⊢
      by_cases expects : 0 < element.options.numberOfResponses
      · rw [if_pos expects] at nothing
        cases nothing
      · rw [if_neg expects] at nothing ⊢
        by_cases isChild : element.options.transport.validParentSessionId = true
        · rw [if_pos isChild] at nothing ⊢
          exact ih nothing
        · rw [if_neg isChild]

/-- An element that expects one response less. -/
def withReply (element : QueueElement) : QueueElement :=
  { element with
    options := { element.options with numberOfResponses := element.options.numberOfResponses - 1 } }

theorem decrementExpectedResponses_of_expects (found : txQueue.find session = some element)
    (expects : 0 < element.options.numberOfResponses) :
    (txQueue.decrementExpectedResponses session).2 = (txQueue.modify session withReply).2 := by
  unfold decrementExpectedResponses decrementAlongParents
  rw [found]
  dsimp only
  rw [if_pos expects]
  rfl

theorem expectedResponses_modify (found : txQueue.find session = some element)
    (change : QueueElement -> QueueElement) :
    (txQueue.modify session change).2.expectedResponses + element.options.numberOfResponses =
      txQueue.expectedResponses + (change element).options.numberOfResponses := by
  unfold modify
  rw [found]
  exact sum_updateFirst QueueElement.zwaveTxSessionId
    (fun element => element.options.numberOfResponses) change found

theorem expectedResponses_pop (found : txQueue.find session = some element) :
    (txQueue.pop session).2.expectedResponses + element.options.numberOfResponses =
      txQueue.expectedResponses := by
  obtain ⟨_, split, _⟩ := pop_perm found
  have total := (split.map fun element => element.options.numberOfResponses).sum_nat
  rw [List.map_cons, List.sum_cons] at total
  unfold expectedResponses
  omega

end TxQueue

namespace TxProcess

/-- A frame from a node was counted at most once, and only for the session that
was current, towards that node, or for a queued session above it. -/
structure CountsReplyOnce (before after : TxProcess) (node : NodeId) : Prop where
  onlyCurrent : ∀ session earlier later,
    before.txQueue.find session = some earlier ->
    after.txQueue.find session = some later ->
    later.options.numberOfResponses ≠ earlier.options.numberOfResponses ->
      ∃ current, before.txQueue.find before.currentTxSessionId = some current ∧
        current.connectionInfo.remote.nodeId = node ∧
        (session = before.currentTxSessionId ∨
          before.txQueue.Ancestor before.currentTxSessionId session)
  atMostOne : before.txQueue.expectedResponses ≤ after.txQueue.expectedResponses + 1

/-- Where the process goes once its current session is finalized. -/
def sessionAfterCurrent (proc : TxProcess) : SessionId :=
  match proc.txQueue.find proc.currentTxSessionId with
  | some current =>
      if current.options.transport.validParentSessionId ∧
          proc.txQueue.contains current.options.transport.parentSessionId = true then
        current.options.transport.parentSessionId
      else nullSession
  | none => nullSession

/-- A frame that ends a back-off finds nothing else to count: while waiting for
expected frames, the sessions on the stack that expect responses were sent;
otherwise no other session on the stack is queued and, when the current session
is finalized, nothing expects responses where the process goes. -/
def FrameHarmless (proc : TxProcess) (node : NodeId) (frame : List UInt8) : Prop :=
  proc.FrameResumes node frame ->
    if proc.backoffReason = .expectedAdditionalFrames then
      proc.queueFlushOngoing = false ->
        ∀ session ∈ proc.preemptedBackoffStack, ∀ element,
          proc.txQueue.find session = some element ->
            element.options.numberOfResponses ≠ 0 -> element.transmissionTime ≠ 0
    else
      (proc.queueFlushOngoing = false ->
        ∀ session ∈ proc.preemptedBackoffStack,
          (proc.state = .backoff -> session ≠ proc.currentTxSessionId) ->
            proc.txQueue.find session = none) ∧
      (proc.state = .backoff ->
        let popped := (proc.txQueue.pop proc.currentTxSessionId).2
        TxQueue.expectsAlongParents (popped.size + 1) popped
          proc.sessionAfterCurrent = false)

variable {proc before after : TxProcess} {current : QueueElement} {node : NodeId}

theorem restorePreemptedBackoffIfNeeded_of_absent
    (absent : proc.queueFlushOngoing = false ->
      ∀ session ∈ proc.preemptedBackoffStack, proc.txQueue.find session = none)
    (env : Surroundings) :
    proc.restorePreemptedBackoffIfNeeded env = { proc with preemptedBackoffStack := [] } := by
  unfold restorePreemptedBackoffIfNeeded
  split
  next => rfl
  next notFlushing =>
    rw [Bool.not_eq_true] at notFlushing
    have gone := absent notFlushing
    refine restoreLoop_rule env
      (fun reached => reached.preemptedBackoffStack ⊆ proc.preemptedBackoffStack ∧
        reached = { proc with
          preemptedBackoffStack := reached.preemptedBackoffStack })
      (fun reached => reached = { proc with preemptedBackoffStack := [] })
      ?_ ?_ ?_ ?_ _ proc ⟨List.Subset.refl _, rfl⟩ (Nat.le_refl _)
    · rintro reached session outer ⟨stack, same⟩ _ _
      refine ⟨List.Subset.trans (List.tail_sublist _).subset stack, ?_⟩
      unfold dropStack
      rw [same]
    · rintro reached session outer element ⟨stack, same⟩ stacked found _
      have mem := stack (by rw [stacked]; exact List.mem_cons_self)
      rw [same] at found
      have impossible := gone session mem
      rw [show proc.txQueue.find session = _ from found] at impossible
      cases impossible
    · rintro reached session outer element ⟨stack, same⟩ stacked found _
      have mem := stack (by rw [stacked]; exact List.mem_cons_self)
      rw [same] at found
      have impossible := gone session mem
      rw [show proc.txQueue.find session = _ from found] at impossible
      cases impossible
    · rintro reached ⟨_, same⟩ nothing
      rw [same, nothing]

theorem restorePreemptedBackoffIfNeeded_expectedResponses (consistent : proc.txQueue.Consistent)
    (sent : proc.queueFlushOngoing = false ->
      ∀ session ∈ proc.preemptedBackoffStack, ∀ element,
        proc.txQueue.find session = some element ->
          element.options.numberOfResponses ≠ 0 -> element.transmissionTime ≠ 0)
    (env : Surroundings) :
    (proc.restorePreemptedBackoffIfNeeded env).txQueue.expectedResponses =
      proc.txQueue.expectedResponses := by
  unfold restorePreemptedBackoffIfNeeded
  split
  next => rfl
  next notFlushing =>
    rw [Bool.not_eq_true] at notFlushing
    refine restoreLoop_rule env
      (fun reached => proc.Quiet reached ∧
        reached.preemptedBackoffStack ⊆ proc.preemptedBackoffStack ∧
        reached.txQueue.expectedResponses = proc.txQueue.expectedResponses)
      (fun reached => reached.txQueue.expectedResponses = proc.txQueue.expectedResponses)
      ?_ ?_ ?_ ?_ _ proc ⟨.refl proc, List.Subset.refl _, rfl⟩ (Nat.le_refl _)
    · rintro reached session outer ⟨quiet, stack, total⟩ _ _
      exact ⟨quiet.trans (.setStack reached _),
        List.Subset.trans (List.tail_sublist _).subset stack, total⟩
    · rintro reached session outer element ⟨quiet, stack, total⟩ stacked found notRestorable
      have mem := stack (by rw [stacked]; exact List.mem_cons_self)
      have wasSent := sent notFlushing session mem element
        (quiet.shrinks.find_some consistent found)
      have expectsNone : element.options.numberOfResponses = 0 := by
        by_contra expects
        exact notRestorable ⟨expects, wasSent expects⟩
      obtain ⟨state, current, _, removed⟩ := reached.dropStack.removeElement_parks element
      rw [removed]
      refine ⟨(quiet.trans (.setStack reached _)).trans (.removed _ _ _ _),
        List.Subset.trans (List.filter_sublist.trans (List.tail_sublist _)).subset stack, ?_⟩
      have popped := TxQueue.expectedResponses_pop found
      rw [expectsNone, ← TxQueue.find_session found] at popped
      exact popped.trans total
    · rintro reached session outer element ⟨_, _, total⟩ _ _ _
      exact total
    · rintro reached ⟨_, _, total⟩ _
      exact total

theorem CountsReplyOnce.of_shrinks (consistent : before.txQueue.Consistent)
    (shrinks : before.txQueue.Shrinks after.txQueue)
    (total : before.txQueue.expectedResponses ≤ after.txQueue.expectedResponses + 1)
    (node : NodeId) :
    before.CountsReplyOnce after node := by
  refine ⟨fun session earlier later foundEarlier foundLater differ => ?_, total⟩
  rw [shrinks.find_some consistent foundLater] at foundEarlier
  cases foundEarlier
  exact absurd rfl differ

theorem CountsReplyOnce.of_decrement
    (found : before.txQueue.find before.currentTxSessionId = some current)
    (towards : current.connectionInfo.remote.nodeId = node)
    (expects : 0 < current.options.numberOfResponses)
    (decremented : after.txQueue =
      (before.txQueue.decrementExpectedResponses before.currentTxSessionId).2) :
    before.CountsReplyOnce after node := by
  rw [TxQueue.decrementExpectedResponses_of_expects found expects] at decremented
  constructor
  · intro session earlier later foundEarlier foundLater differ
    refine ⟨current, found, towards, .inl ?_⟩
    by_contra other
    rw [decremented, @TxQueue.find_modify TxQueue.withReply (fun _ => rfl), if_neg other,
      foundEarlier] at foundLater
    cases foundLater
    exact differ rfl
  · have total := TxQueue.expectedResponses_modify found TxQueue.withReply
    rw [← decremented] at total
    have less : (TxQueue.withReply current).options.numberOfResponses =
      current.options.numberOfResponses - 1 := rfl
    omega

theorem resumeFromBackoffStep_expectedResponses (consistent : proc.txQueue.Consistent)
    (noSession : proc.backoffReason ≠ .currentSessionId)
    (sent : proc.queueFlushOngoing = false ->
      ∀ session ∈ proc.preemptedBackoffStack, ∀ element,
        proc.txQueue.find session = some element ->
          element.options.numberOfResponses ≠ 0 -> element.transmissionTime ≠ 0)
    (env : Surroundings) :
    (proc.resumeFromBackoffStep env).txQueue.expectedResponses =
      proc.txQueue.expectedResponses := by
  have same : (proc.backoffEnded env).txQueue = proc.txQueue ∧
      (proc.backoffEnded env).preemptedBackoffStack = proc.preemptedBackoffStack ∧
      (proc.backoffEnded env).queueFlushOngoing = proc.queueFlushOngoing := by
    unfold backoffEnded
    have ends := endBackoff_ends env proc.timerStop
    generalize endBackoff env proc.timerStop = ended at ends
    cases ends with
    | notBackingOff | expectedFrames | otherReason => exact ⟨rfl, rfl, rfl⟩
    | finalizes _ reason | gone _ reason => exact absurd reason noSession
  rw [resumeFromBackoffStep_eq, (checkQueue_same env _).1]
  rw [← same.1] at consistent sent ⊢
  rw [← same.2.1, ← same.2.2] at sent
  exact restorePreemptedBackoffIfNeeded_expectedResponses consistent sent env

theorem backoffEnded_last_reply (found : proc.txQueue.find proc.currentTxSessionId = some current)
    (reason : proc.backoffReason = .currentSessionId) (env : Surroundings) :
    (proc.backoffEnded env).queueFlushOngoing = proc.queueFlushOngoing ∧
    ((proc.state ≠ .backoff ∧
      (proc.backoffEnded env).txQueue = proc.txQueue ∧
      (proc.backoffEnded env).currentTxSessionId = proc.currentTxSessionId ∧
      (proc.backoffEnded env).preemptedBackoffStack = proc.preemptedBackoffStack) ∨
    (proc.state = .backoff ∧
      (proc.backoffEnded env).txQueue = (proc.txQueue.pop proc.currentTxSessionId).2 ∧
      (proc.backoffEnded env).currentTxSessionId = proc.sessionAfterCurrent ∧
      (proc.backoffEnded env).preemptedBackoffStack =
        proc.preemptedBackoffStack.filter (· != proc.currentTxSessionId))) := by
  unfold backoffEnded
  have ends := endBackoff_ends env proc.timerStop
  generalize endBackoff env proc.timerStop = ended at ends
  cases ends with
  | notBackingOff notBackingOff => exact ⟨rfl, .inl ⟨notBackingOff, rfl, rfl, rfl⟩⟩
  | @finalizes element backingOff _ foundElement =>
    have same : element = current := Option.some.inj (foundElement.symm.trans found)
    subst same
    have own := TxQueue.find_session found
    obtain ⟨state, parent, parks, removed⟩ := proc.timerStop.removeElement_parks element
    rw [removed, ← own]
    refine ⟨rfl, .inr ⟨backingOff, rfl, ?_, rfl⟩⟩
    unfold sessionAfterCurrent
    rw [found]
    cases parks with
    | atParent isChild queued =>
      have contained : proc.txQueue.contains
          element.options.transport.parentSessionId = true := by
        unfold TxQueue.contains
        rw [show proc.txQueue.find _ = _ from queued]
        rfl
      dsimp only
      rw [if_pos ⟨isChild, contained⟩]
      rfl
    | idle orphan =>
      dsimp only
      rw [if_neg]
      · rfl
      · rintro ⟨isChild, contained⟩
        unfold TxQueue.contains at contained
        rw [show proc.txQueue.find _ = none from orphan isChild] at contained
        cases contained
  | gone _ _ nothing =>
    have impossible := found.symm.trans nothing
    cases impossible
  | expectedFrames _ other =>
    have impossible := reason.symm.trans other
    cases impossible
  | otherReason _ other => exact absurd reason other

theorem resumeFromBackoffStep_last_reply
    (found : proc.txQueue.find proc.currentTxSessionId = some current)
    (reason : proc.backoffReason = .currentSessionId)
    (absent : proc.queueFlushOngoing = false ->
      ∀ session ∈ proc.preemptedBackoffStack,
        (proc.state = .backoff -> session ≠ proc.currentTxSessionId) ->
          proc.txQueue.find session = none)
    (consistent : proc.txQueue.Consistent)
    (env : Surroundings) :
    (proc.state ≠ .backoff ∧
      (proc.resumeFromBackoffStep env).txQueue = proc.txQueue ∧
      (proc.resumeFromBackoffStep env).currentTxSessionId = proc.currentTxSessionId) ∨
    (proc.state = .backoff ∧
      (proc.resumeFromBackoffStep env).txQueue = (proc.txQueue.pop proc.currentTxSessionId).2 ∧
      (proc.resumeFromBackoffStep env).currentTxSessionId = proc.sessionAfterCurrent) := by
  rw [resumeFromBackoffStep_eq, (checkQueue_same env _).1, (checkQueue_same env _).2]
  have ended := backoffEnded_last_reply found reason env
  obtain ⟨sameFlush, ended⟩ := ended
  rw [← sameFlush] at absent
  rcases ended with ⟨notBackingOff, sameQueue, sameCurrent, sameStack⟩ |
    ⟨backingOff, popped, after, filtered⟩
  · rw [restorePreemptedBackoffIfNeeded_of_absent]
    · exact .inl ⟨notBackingOff, sameQueue, sameCurrent⟩
    · intro notFlushing session mem
      rw [sameQueue]
      rw [sameStack] at mem
      exact absent notFlushing session mem fun backingOff => absurd backingOff notBackingOff
  · rw [restorePreemptedBackoffIfNeeded_of_absent]
    · exact .inr ⟨backingOff, popped, after⟩
    · intro notFlushing session mem
      rw [filtered] at mem
      obtain ⟨stacked, differs⟩ := List.mem_filter.mp mem
      rw [popped]
      exact (TxQueue.Shrinks.pop proc.txQueue _).find_none consistent
        (absent notFlushing session stacked fun _ => by simpa using differs)

/-- Handling a harmless frame counts it at most once. -/
theorem inspectReceivedFrameStep_counts {proc : TxProcess} (consistent : proc.txQueue.Consistent)
    {node : NodeId} {frame : List UInt8} (harmless : proc.FrameHarmless node frame)
    (env : Surroundings) :
    proc.CountsReplyOnce (proc.inspectReceivedFrameStep env node frame) node := by
  have unchanged : proc.CountsReplyOnce proc node :=
    .of_shrinks consistent (.refl _) (Nat.le_succ _) node
  unfold FrameHarmless FrameResumes at harmless
  unfold inspectReceivedFrameStep
  split
  next forFrames =>
    rw [if_pos forFrames, if_pos forFrames] at harmless
    split
    next expected =>
      dsimp only
      split
      next last =>
        have quiet := resumeFromBackoffStep_quiet env
          (proc.withExpectedFrames (proc.expectedIncomingFrames.decrementFrames node))
        have noSession : proc.backoffReason ≠ .currentSessionId := by
          rw [forFrames]
          exact BackoffReason.noConfusion
        have total := @resumeFromBackoffStep_expectedResponses
          (proc.withExpectedFrames (proc.expectedIncomingFrames.decrementFrames node))
          consistent noSession (harmless ⟨expected, last⟩) env
        exact .of_shrinks consistent quiet.shrinks
          (by rw [total]; exact Nat.le_succ _) node
      next => exact ⟨unchanged.onlyCurrent, unchanged.atMostOne⟩
    next => exact unchanged
  next notForFrames =>
    rw [if_neg notForFrames, if_neg notForFrames] at harmless
    split
    next =>
      split
      · exact ⟨unchanged.onlyCurrent, unchanged.atMostOne⟩
      · exact unchanged
    next busy =>
      have notIdle : proc.state ≠ .idle := fun idle => busy (.inl idle)
      unfold handleReply TxQueue.getById
      split
      next => exact unchanged
      next current found =>
        split
        next reply =>
          have parts := reply
          unfold isReplyToCurrent at parts
          simp only [Bool.and_eq_true, beq_iff_eq, decide_eq_true_eq] at parts
          obtain ⟨⟨⟨_, reason⟩, towards⟩, expects⟩ := parts
          dsimp only
          split
          next last =>
            obtain ⟨absent, nothingAbove⟩ := harmless ⟨notIdle, current, found, reply, last⟩
            rcases resumeFromBackoffStep_last_reply found reason absent consistent env with
              ⟨_, sameQueue, sameCurrent⟩ | ⟨backingOff, popped, after⟩
            · refine .of_decrement found towards.symm expects ?_
              unfold withQueue
              rw [sameQueue, sameCurrent]
            · have shrinks := TxQueue.Shrinks.pop proc.txQueue proc.currentTxSessionId
              have total := TxQueue.expectedResponses_pop found
              have kept : ((proc.resumeFromBackoffStep
                  env).txQueue.decrementExpectedResponses
                  (proc.resumeFromBackoffStep env).currentTxSessionId).2 =
                  (proc.txQueue.pop proc.currentTxSessionId).2 := by
                rw [popped, after]
                exact TxQueue.decrementAlongParents_of_not_expects (nothingAbove backingOff)
              unfold withQueue
              rw [kept]
              exact .of_shrinks consistent shrinks (by dsimp only; omega) node
          next => exact .of_decrement found towards.symm expects rfl
        next => exact unchanged

/-- The frames of a run are harmless when they are handled, and the session
counter does not wrap. -/
def HandlesHarmlessFrames (proc : TxProcess) (action : Action) : Prop :=
  proc.CounterFits action ∧
    match action with
    | .handleNextEvent _ =>
        ∀ node frame rest, proc.eventQueue = .frameReceived node frame :: rest ->
          proc.takeEvent.FrameHarmless node frame
    | _ => True

/-- In a run whose frames are harmless, every handled frame is counted at most
once, for the session that was current and waited for its node. -/
theorem replies_are_counted_once (actions : List Action)
    (meets : StepsMeet step HandlesHarmlessFrames initial actions) {done rest : List Action}
    {env : Surroundings} (whole : actions = done ++ .handleNextEvent env :: rest)
    {node : NodeId} {frame : List UInt8} {others : List Event}
    (next : (run step initial done).eventQueue = .frameReceived node frame :: others) :
    (run step initial done).CountsReplyOnce
      (run step initial (done ++ [.handleNextEvent env])) node := by
  rw [whole, stepsMeet_append] at meets
  obtain ⟨earlier, ⟨_, harmless⟩, _⟩ := meets
  have consistent : (run step initial done).txQueue.Consistent :=
    earlier.invariant (fun proc => proc.txQueue.Consistent)
      (fun proc action consistent fits => (step_consistent consistent fits.1).1)
      TxQueue.Consistent.initial
  have counts := @inspectReceivedFrameStep_counts (run step initial done).takeEvent
    consistent node frame (harmless node frame others next) env
  have handled : run step initial (done ++ [.handleNextEvent env]) =
      (run step initial done).takeEvent.inspectReceivedFrameStep env node frame := by
    rw [run_append, run_cons]
    generalize run step initial done = proc at next
    unfold step handleNextEvent
    rw [next]
    rfl
  rw [handled]
  exact ⟨counts.onlyCurrent, counts.atMostOne⟩

/-- A frame is sent and its reply comes in. -/
def sampleReplyRun : List Action :=
  [.sendData {} (sampleRequest 5 1 10), .handleNextEvent {}, .transportCompletion 0 0 none,
    .handleNextEvent {}, .frameReceived 5 [0x20, 0x03]]

theorem replies_are_counted_once_sample :
    StepsMeet step HandlesHarmlessFrames initial
        (sampleReplyRun ++ [.handleNextEvent {}]) ∧
      (run step initial sampleReplyRun).CountsReplyOnce
        (run step initial (sampleReplyRun ++ [.handleNextEvent {}])) 5 := by
  have meets : StepsMeet step HandlesHarmlessFrames initial
      (sampleReplyRun ++ [.handleNextEvent {}]) := by
    refine ⟨⟨show 0 + 2 < 2 ^ 32 by decide, trivial⟩, ⟨trivial, ?_⟩, ⟨trivial, trivial⟩,
      ⟨trivial, ?_⟩, ⟨trivial, trivial⟩, ⟨trivial, ?_⟩, trivial⟩
    · intro node frame rest next
      cases next
    · intro node frame rest next
      cases next
    · intro node frame rest next
      cases next
      intro _
      refine ⟨fun _ session mem => ?_, fun _ => by decide⟩
      cases mem
  exact ⟨meets, replies_are_counted_once _ meets rfl rfl⟩

/-- A frame that waits for its reply is pre-empted by one towards another node,
which waits for its own reply in turn. -/
def foreignReplyRun : List Action :=
  [.sendData {} (sampleRequest 5 1 10), .handleNextEvent {}, .transportCompletion 0 0 none,
    .handleNextEvent {}, .sendData {} (sampleBypassRequest 6 1 20), .handleNextEvent {},
    .handleNextEvent {}, .transportCompletion 1 0 none, .handleNextEvent {},
    .frameReceived 6 [0x20, 0x03]]

/-- The reply to the second frame is counted for the first one, which was not
current and waits for another node. -/
theorem foreign_reply :
    (run step initial foreignReplyRun).eventQueue = [.frameReceived 6 [0x20, 0x03]] ∧
      (run step initial foreignReplyRun).currentTxSessionId = 1 ∧
      ¬ (run step initial foreignReplyRun).CountsReplyOnce
        (run step initial (foreignReplyRun ++ [.handleNextEvent {}])) 6 := by
  refine ⟨by decide, by decide, fun counts => ?_⟩
  obtain ⟨current, found, _, isCurrent | above⟩ := counts.onlyCurrent 0 _ _ rfl rfl (by decide)
  · revert isCurrent
    decide
  · obtain ⟨element, foundElement, isChild⟩ := above.isChild
    cases foundElement
    revert isChild
    decide

end TxProcess

end ZwaveTx
