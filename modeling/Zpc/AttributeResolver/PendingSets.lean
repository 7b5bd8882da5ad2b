import Zpc.AttributeResolver.Frames
import Zpc.AttributeResolver.Wakeups

/-!
# Pending Set resolutions

`execute_set` marks a Set resolution as pending after
`attribute_resolver_rule_execute` has returned, and the completion of the rule
takes the mark away.  The mark stays as long as a completion is to come in every
run in which the executor still holds the node when the send function accepts
its frame.  A send function that reports the completion first, as the group send
does when a follow-up frame cannot be queued, leaves a mark that nobody clears.
-/

namespace AttributeResolver

open Foundation

namespace Resolver

/-- The executor still holds the node of a Set rule when the send function
accepts the frame. -/
def CompletesAfterSend (state : Resolver) : Action -> Prop
  | .sendReturns true =>
      ∀ execution moreFrames, state.control = .sending execution moreFrames ->
        execution.ruleType = .setRule ->
        state.executor.nodePendingResolution = execution.node
  | _ => True

/-- The execution the resolver thread is in. -/
def Executing (state : Resolver) (execution : Execution) : Prop :=
  state.control = .ruleFunction execution ∨
    ∃ moreFrames, state.control = .sending execution moreFrames

/-- Only the node in the executor is marked, and an idle executor holds none. -/
structure OnlyHeldMarked (state : Resolver) : Prop where
  held : ∀ node, hasKey state.pendingSetResolutions node = true ->
    state.executor.nodePendingResolution = node ∧ node ≠ invalidNode
  idle : state.executor.resolverState = .idle -> state.executor.nodePendingResolution = invalidNode

/-- The invariant of the marks: none is there while a rule is executed. -/
structure MarkersHeld (state : Resolver) : Prop extends state.OnlyHeldMarked where
  executing : ∀ execution, state.Executing execution ->
    execution.node ≠ invalidNode ∧ ∀ node, hasKey state.pendingSetResolutions node = false

variable {state : Resolver} {execution : Execution} {status : SlStatus}

theorem OnlyHeldMarked.unmarked (markers : state.OnlyHeldMarked)
    (idle : state.executor.resolverState = .idle) (node : NodeId) :
    hasKey state.pendingSetResolutions node = false := by
  by_contra marked
  obtain ⟨pending, named⟩ := markers.held node (by simpa using marked)
  exact named (pending.symm.trans (markers.idle idle))

variable {before after : Resolver}

theorem OnlyHeldMarked.keeps (markers : before.OnlyHeldMarked) (keeps : before.Keeps after) :
    after.OnlyHeldMarked where
  held node marked := by
    rw [keeps.executor]
    exact markers.held node (keeps.pendingSet node marked)
  idle := by
    rw [keeps.executor]
    exact markers.idle

theorem MarkersHeld.keeps (markers : before.MarkersHeld) (keeps : before.Keeps after) :
    after.MarkersHeld where
  toOnlyHeldMarked := markers.toOnlyHeldMarked.keeps keeps
  executing execution running := by
    have before : before.Executing execution := by
      unfold Executing at running ⊢
      rwa [keeps.control] at running
    refine ⟨(markers.executing execution before).1, fun node => ?_⟩
    by_contra marked
    have unmarked := (markers.executing execution before).2 node
    rw [keeps.pendingSet node (by simpa using marked)] at unmarked
    exact absurd unmarked (by simp)

theorem markersHeld_of_unmarked (unmarked : ∀ node, hasKey state.pendingSetResolutions node = false)
    (named : ∀ execution, state.Executing execution -> execution.node ≠ invalidNode)
    (idle : state.executor.resolverState = .idle ->
      state.executor.nodePendingResolution = invalidNode) :
    state.MarkersHeld where
  held node marked := absurd marked (by simp [unmarked node])
  executing execution running := ⟨named execution running, unmarked⟩
  idle := idle

theorem hasKey_completeSet (state : Resolver) (node : NodeId) :
    hasKey (state.completeSet node).pendingSetResolutions node = false := by
  unfold completeSet
  split
  · rename_i unmarked
    simp [hasKey, unmarked]
  · simp
  · by_contra marked
    have erased := (schedules_scanNode
      { state with pendingSetResolutions := eraseKey state.pendingSetResolutions node }
      node).keeps.pendingSet node (by simpa using marked)
    simp at erased

theorem hasKey_onResolverRuleExecuteComplete (state : Resolver) (node : NodeId) :
    hasKey (state.onResolverRuleExecuteComplete node).pendingSetResolutions node = false := by
  rw [onResolverRuleExecuteComplete_eq]
  unfold completeRule
  extract_lets got single rearmed paced
  have rearms : (got.completeSet node).Keeps rearmed := keeps_rearm _ node
  have paces : rearmed.Keeps paced := by
    dsimp only [paced]
    split
    · exact keeps_paceSet rearmed node
    · exact .refl rearmed
  have watches := (schedules_watchIfResolved paced node).keeps.trans
    (schedules_postNextIfScanning _).keeps
  by_contra marked
  have before := (rearms.trans (paces.trans watches)).pendingSet node (by simpa using marked)
  rw [hasKey_completeSet got node] at before
  exact absurd before (by simp)

theorem MarkersHeld.releaseSlot (markers : state.MarkersHeld) (node : NodeId) :
    (state.releaseSlot node).MarkersHeld := by
  unfold Resolver.releaseSlot
  split
  · rename_i completes
    have pending : state.executor.nodePendingResolution = node := by
      simpa [Executor.completes] using completes
    have keeps := keeps_onResolverRuleExecuteComplete
      { state with executor := state.executor.release node } node
    refine markersHeld_of_unmarked (fun other => ?_) (fun execution running => ?_) fun _ => ?_
    · by_contra marked
      have wasMarked := keeps.pendingSet other (by simpa using marked)
      have isNode : node = other := pending.symm.trans (markers.held other wasMarked).1
      subst isNode
      rw [hasKey_onResolverRuleExecuteComplete] at marked
      exact marked rfl
    · refine (markers.executing execution ?_).1
      unfold Executing at running ⊢
      rwa [keeps.control] at running
    · rw [keeps.executor]
      simp [Executor.release, pending]
  · exact markers

theorem OnlyHeldMarked.withControl (markers : state.OnlyHeldMarked) {control : Control}
    (notExecuting : control = .idle ∨ control = .scanning) :
    { state with control := control }.MarkersHeld where
  held := markers.held
  idle := markers.idle
  executing execution running := by
    unfold Executing at running
    rcases notExecuting with rfl | rfl <;> simp at running

theorem OnlyHeldMarked.endNext (markers : state.OnlyHeldMarked) : state.endNext.MarkersHeld := by
  unfold Resolver.endNext
  extract_lets ended
  have ends : ended.MarkersHeld := markers.withControl (.inl rfl)
  split
  · exact ends.keeps (schedules_post ended _).keeps
  · exact ends

theorem OnlyHeldMarked.continueWith (markers : state.OnlyHeldMarked) (node : NodeId)
    (status : SlStatus) : (state.continueWith node status).MarkersHeld := by
  unfold Resolver.continueWith
  split
  · exact markers.endNext
  · exact markers.endNext
  · exact (markers.keeps (keeps_onResolverRuleExecuteComplete state node)).endNext
  · exact (markers.keeps (keeps_onResolverRuleExecuteComplete state node)).endNext
  · exact markers.withControl (.inr rfl)

variable {node : NodeId}

theorem hasKey_recordExecution
    (marked : hasKey (state.recordExecution execution status).pendingSetResolutions node = true) :
    hasKey state.pendingSetResolutions node = true ∨
      node = execution.node ∧ execution.ruleType = .setRule ∧
        (status = .ok ∨ status = .inProgress) := by
  unfold recordExecution at marked
  split at marked
  case h_3 =>
    refine .inl ?_
    rw [(schedules_restartPendingGetNodesTimer _).same] at marked
    exact marked
  case h_4 isSet =>
    simp only [hasKey_assign, Bool.or_eq_true, decide_eq_true_eq] at marked
    exact marked.elim (fun same => .inr ⟨same, isSet, .inl rfl⟩) .inl
  case h_5 isSet =>
    simp only [hasKey_assign, Bool.or_eq_true, decide_eq_true_eq] at marked
    exact marked.elim (fun same => .inr ⟨same, isSet, .inr rfl⟩) .inl
  all_goals exact .inl marked

theorem OnlyHeldMarked.executed (markers : state.OnlyHeldMarked)
    (held : status = .ok ∨ status = .inProgress -> execution.ruleType = .setRule ->
      state.executor.nodePendingResolution = execution.node ∧ execution.node ≠ invalidNode) :
    (state.executed execution status).MarkersHeld := by
  have sameExecutor := (recordExecution_frame state execution status).1
  refine OnlyHeldMarked.continueWith ⟨fun node marked => ?_, ?_⟩ execution.node status
  · rw [sameExecutor]
    rcases hasKey_recordExecution marked with before | ⟨rfl, isSet, accepted⟩
    · exact markers.held node before
    · exact held accepted isSet
  · rw [sameExecutor]
    exact markers.idle

theorem OnlyHeldMarked.ruleExecute (markers : state.OnlyHeldMarked)
    (named : execution.node ≠ invalidNode) : (state.ruleExecute execution).MarkersHeld := by
  unfold Resolver.ruleExecute
  extract_lets counted
  have counts : counted.OnlyHeldMarked := by
    dsimp only [counted]
    split
    · exact ⟨markers.held, markers.idle⟩
    · exact markers
  split
  · rename_i status refused
    exact counts.executed fun accepted => absurd accepted (Executor.not_accepted_of_claim refused)
  · rename_i executor claimed
    obtain ⟨idle, -, rfl⟩ := Executor.claim_eq_ok claimed
    refine markersHeld_of_unmarked (counts.unmarked idle) (fun other running => ?_) fun isIdle => ?_
    · have same : execution = other := by simpa [Executing] using running
      exact same ▸ named
    · exact absurd isIdle (by simp [Executor.stateOf_ne_idle])

theorem OnlyHeldMarked.visitNode (markers : state.OnlyHeldMarked) (named : node ≠ invalidNode) :
    (state.visitNode node).MarkersHeld := by
  unfold Resolver.visitNode
  split
  · unfold executeGet
    split
    · split
      · exact markers.withControl (.inr rfl)
      · split
        · refine OnlyHeldMarked.ruleExecute ?_ named
          exact ⟨markers.held, markers.idle⟩
        · exact markers.continueWith node _
    · split
      · exact markers.continueWith node _
      · exact markers.ruleExecute named
  · split
    · unfold executeSet
      split
      · exact markers.continueWith node _
      · split
        · exact markers.continueWith node _
        · extract_lets expired
          have expires : expired.OnlyHeldMarked := ⟨markers.held, markers.idle⟩
          split
          · exact expires.continueWith node _
          · refine OnlyHeldMarked.ruleExecute ?_ named
            exact ⟨expires.held, expires.idle⟩
    · exact markers.continueWith node _

theorem nodeExists_ne_invalidNode {store : Store} (there : store.nodeExists node = true) :
    node ≠ invalidNode := by
  rintro rfl
  simp [Store.nodeExists, Store.find] at there

section

variable (markers : state.MarkersHeld)

include markers

/-- A round of the scan marks a node only while its set is under way. -/
theorem MarkersHeld.iterate (running : state.control = .scanning) : state.iterate.MarkersHeld := by
  have stays : ∀ stack, { state with stack := stack }.MarkersHeld := fun stack =>
    ⟨⟨markers.held, markers.idle⟩, fun execution executing => by
      simp [Executing, running] at executing⟩
  unfold Resolver.iterate
  split
  · exact markers.toOnlyHeldMarked.endNext
  · split
    · exact stays _
    · rename_i node _ _ _ visited
      have there : state.store.nodeExists node = true := by
        by_contra missing
        simp [missing] at visited
      dsimp only
      split
      · exact (stays _).toOnlyHeldMarked.visitNode (nodeExists_ne_invalidNode there)
      · exact stays _

theorem MarkersHeld.resetState (executing : state.Executing execution) :
    { state with executor := state.executor.resetState execution.node }.OnlyHeldMarked where
  held node marked := by
    have unmarked := (markers.executing execution executing).2 node
    exact absurd (unmarked.symm.trans marked) (by simp)
  idle := by
    unfold Executor.resetState
    split
    · exact fun _ => rfl
    · exact markers.idle

theorem MarkersHeld.ruleReturns (frameStatus : Option SlStatus)
    (frameSize : Nat) : (state.ruleReturns frameStatus frameSize).MarkersHeld := by
  unfold Resolver.ruleReturns
  split
  · rename_i execution running
    have executing : state.Executing execution := .inl running
    extract_lets reset
    have fails : ∀ status, ¬(status = .ok ∨ status = .inProgress) ->
        (reset.executed execution status).MarkersHeld := fun status refused =>
      (markers.resetState executing).executed fun accepted => absurd accepted refused
    have sends : ∀ moreFrames,
        { state with control := .sending execution moreFrames }.MarkersHeld := by
      intro moreFrames
      refine markersHeld_of_unmarked (markers.executing execution executing).2
        (fun other sending => ?_) markers.idle
      have same : execution = other := by simpa [Executing] using sending
      exact same ▸ (markers.executing execution executing).1
    split
    · exact fails _ (by decide)
    · split
      · exact fails _ (by decide)
      · exact sends _
    · split
      · exact fails _ (by decide)
      · exact sends _
    all_goals exact fails _ (by decide)
  · exact markers

theorem MarkersHeld.sendReturns {accepted : Bool}
    (completesAfter : state.CompletesAfterSend (.sendReturns accepted)) :
    (state.sendReturns accepted).MarkersHeld := by
  unfold Resolver.sendReturns
  split
  · rename_i execution moreFrames running
    have executing : state.Executing execution := .inr ⟨moreFrames, running⟩
    have unmarked := (markers.executing execution executing).2
    split
    · rename_i isAccepted
      subst isAccepted
      have pending : (state.executor.finish execution.node moreFrames).nodePendingResolution =
          state.executor.nodePendingResolution := by
        unfold Executor.finish
        split <;> rfl
      refine OnlyHeldMarked.executed ⟨fun node marked => ?_, ?_⟩ fun _ isSet => ?_
      · exact absurd marked (by simp [unmarked node])
      · show (state.executor.finish execution.node moreFrames).resolverState = .idle -> _
        unfold Executor.finish
        split <;> exact markers.idle
      · exact ⟨pending.trans (completesAfter execution moreFrames running isSet),
          (markers.executing execution executing).1⟩
    · exact (markers.resetState executing).executed (by simp)
  · exact markers

theorem MarkersHeld.handleEvent : state.handleEvent.MarkersHeld := by
  unfold Resolver.handleEvent
  split
  · exact markers
  · unfold evNext
    split
    · exact ⟨⟨markers.held, markers.idle⟩, markers.executing⟩
    · extract_lets begun
      have begins : begun.OnlyHeldMarked := by
        dsimp only [begun]
        split <;> exact ⟨markers.held, markers.idle⟩
      split
      · exact begins.endNext
      · exact begins.withControl (.inr rfl)
  all_goals exact ⟨⟨markers.held, markers.idle⟩, markers.executing⟩

end

theorem markersHeld_isCallbackInvariant : CallbackInvariant MarkersHeld where
  keeps markers keeps := markers.keeps keeps
  releaseSlot markers node := markers.releaseSlot node
  withExecutor {_ _} markers state pending :=
    { held := fun node marked => pending ▸ markers.held node marked
      idle := fun idle => pending.trans (markers.idle (state ▸ idle))
      executing := markers.executing }

/-- Every step keeps the markers if no set completes before its send returns. -/
theorem MarkersHeld.step (markers : state.MarkersHeld) {action : Action}
    (completesAfter : state.CompletesAfterSend action) : (state.step action).MarkersHeld := by
  refine markersHeld_isCallbackInvariant.step action markers (fun _ => ?_) (fun running => ?_)
    (fun frameStatus frameSize _ => ?_) fun accepted isAction => ?_
  · exact markers.handleEvent
  · exact markers.iterate running
  · exact markers.ruleReturns frameStatus frameSize
  · subst isAction
    exact markers.sendReturns completesAfter

theorem markersHeld_initial (config : Config) (store : Store) :
    (initial config store).MarkersHeld :=
  markersHeld_of_unmarked (fun _ => rfl) (fun execution running => by
    simp [Executing, initial] at running) fun _ => rfl

end Resolver

namespace Tracked

/-- A completion for a node is still to come: the executor holds the node, or
the final status of a Set frame of it is not reported yet. -/
def Outstanding (tracked : Tracked) (node : NodeId) : Prop :=
  tracked.resolver.executor.nodePendingResolution = node ∨
    ∃ frame ∈ tracked.frames, frame.node = node

instance (tracked : Tracked) (node : NodeId) : Decidable (tracked.Outstanding node) :=
  inferInstanceAs (Decidable (_ ∨ _))

/-- Every node that is marked as pending a Set has a completion to come. -/
def NoStaleMarker (tracked : Tracked) : Prop :=
  ∀ node, hasKey tracked.resolver.pendingSetResolutions node = true -> tracked.Outstanding node

/-- In every run in which the executor still holds the node of a Set rule when
the send function accepts its frame, no node stays marked with nobody left to
clear the mark. -/
theorem noStaleMarker_of_completesAfterSend (config : Config) (store : Store)
    (actions : List TrackedAction)
    (completesAfter : StepsMeet step
      (fun tracked action => tracked.resolver.CompletesAfterSend action.action)
      (initial config store) actions) :
    (run step (initial config store) actions).NoStaleMarker := by
  have markers := completesAfter.invariant
    (fun tracked => tracked.resolver.MarkersHeld)
    (fun tracked action markers meets => markers.step meets)
    (Resolver.markersHeld_initial config store)
  intro node marked
  exact .inl (markers.held node marked).1

/-- Node 5 gets a desired value and a Set rule is executed for it. -/
def setUntilSent : List TrackedAction :=
  [.registerRules 1 exampleRules, .writeValue .reported 5 [1], .writeValue .desired 5 [2],
    .handleEvent, .iterate, .iterate, .ruleReturns (some .ok) 3].map (⟨·, 0⟩)

/-- The send function accepts the frame. -/
def acceptedSet : List TrackedAction := setUntilSent ++ [⟨.sendReturns true, 0⟩]

theorem noStaleMarker_acceptedSet :
    hasKey
      (run step (initial exampleConfig exampleStore) acceptedSet).resolver.pendingSetResolutions
        5 = true ∧
      (run step (initial exampleConfig exampleStore) acceptedSet).NoStaleMarker := by
  refine ⟨by decide, noStaleMarker_of_completesAfterSend exampleConfig exampleStore acceptedSet ?_⟩
  rw [acceptedSet, stepsMeet_append]
  refine ⟨by simp [setUntilSent, Resolver.CompletesAfterSend],
    fun execution moreFrames sending _ => ?_,
    trivial⟩
  cases sending
  decide

/-- The send function reports the failure of the frame before it returns. -/
def reportedInsideSend : List TrackedAction :=
  setUntilSent ++ [⟨.sendDataComplete .fail 5 .setRule, 0⟩, ⟨.sendReturns true, 0⟩]

/-- Node 5 is marked, and no completion will come. -/
theorem not_noStaleMarker_reportedInsideSend :
    ¬∀ (config : Config) (store : Store) (actions : List TrackedAction),
      (run step (initial config store) actions).resolver.control = .idle ->
      (run step (initial config store) actions).NoStaleMarker := by
  intro always
  have marked : hasKey (run step (initial exampleConfig exampleStore)
      reportedInsideSend).resolver.pendingSetResolutions 5 = true := by decide
  have nobody : ¬(run step (initial exampleConfig exampleStore) reportedInsideSend).Outstanding
      5 := by decide
  exact nobody (always exampleConfig exampleStore reportedInsideSend (by decide) 5 marked)

end Tracked

end AttributeResolver
