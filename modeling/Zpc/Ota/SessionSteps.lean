import Zpc.Ota.Transitions

/-!
# What an event makes of a session

An event either keeps the session of its node waiting for the next one, with every pause of
its resolution accounted for, or ends it, and resumes the resolution of the node.
-/

namespace Ota

open Foundation

/-- A call that concerns the attribute resolution of a node, with the endpoint it is for. -/
inductive ResolutionCall where
  | pause (endpointNode : Nat)
  | resume (endpointNode : Nat)

/-- The call a node's resolution sees of something that is given out. -/
def resolutionCall (node : Nat) : Output -> Option ResolutionCall
  | .pauseNodeResolution nodeId endpointNode =>
      if nodeId = node then some (.pause endpointNode) else none
  | .resumeNodeResolution nodeId endpointNode =>
      if nodeId = node then some (.resume endpointNode) else none
  | _ => none

/-- The calls for a node, in their order. -/
def resolutionCalls (node : Nat) (outputs : List Output) : List ResolutionCall :=
  outputs.filterMap (resolutionCall node)

@[simp] theorem resolutionCalls_append (node : Nat) (first second : List Output) :
    resolutionCalls node (first ++ second) =
      resolutionCalls node first ++ resolutionCalls node second :=
  List.filterMap_append

/-- Every pause is followed by one resumption, of the same endpoint. -/
def Matched (calls : List ResolutionCall) : Prop :=
  ∃ endpoints : List Nat,
    calls = endpoints.flatMap fun endpoint => [.pause endpoint, .resume endpoint]

theorem matched_nil : Matched [] := ⟨[], rfl⟩

theorem Matched.resumed {calls : List ResolutionCall} (matched : Matched calls) (endpoint : Nat) :
    Matched (calls ++ [.pause endpoint] ++ [.resume endpoint]) := by
  obtain ⟨endpoints, same⟩ := matched
  exact ⟨endpoints ++ [endpoint], by simp [same]⟩

variable (ctx : Context) {calls : List ResolutionCall}

theorem Matched.even_length (matched : Matched calls) : calls.length % 2 = 0 := by
  obtain ⟨endpoints, same⟩ := matched
  subst same
  induction endpoints with
  | nil => rfl
  | cons endpoint rest ih =>
    rw [List.flatMap_cons, List.length_append]
    simp only [List.length_cons, List.length_nil]
    omega

variable {before after : Context} {node : Nat}

theorem Matched.not_paused (matched : Matched calls) (endpoint : Nat) :
    ¬Matched (calls ++ [.pause endpoint]) := by
  intro paused
  have before := matched.even_length
  have after := paused.even_length
  rw [List.length_append, List.length_singleton] at after
  omega

/-- The calls for the node of a session: matched, up to the pause that is still open. -/
def Balanced (session : OtaSession) (calls : List ResolutionCall) : Prop :=
  if session.resolutionPaused then
    ∃ done, Matched done ∧ calls = done ++ [.pause session.endpointNode]
  else Matched calls

/-- The states a session waits for an event in. -/
def AwaitsEvent (state : OtaState) : Prop :=
  state = .startUpload ∨ state = .uploadDeliverFirmwareChunks ∨
    state = .uploadProcessDeviceOutcome ∨ state = .waitingForActivation ∨ state = .activating

/-- What holds of the session that is kept under a node. -/
structure Kept (node : Nat) (ctx : Context) : Prop where
  nodeId : ctx.session.nodeId = node
  awaits : AwaitsEvent ctx.session.currentState
  pausedInTransfer : ctx.session.resolutionPaused = true ->
    ctx.session.currentState = .uploadDeliverFirmwareChunks ∨
      ctx.session.currentState = .uploadProcessDeviceOutcome
  notAborted : ctx.session.transfer.abortRequested = false
  balanced : Balanced ctx.session (resolutionCalls node ctx.outputs)

/-- What is given out when a session ends. -/
def resumption (env : Surroundings) (session : OtaSession) : List ResolutionCall :=
  if env.nodeExists session.endpointNode && session.resolutionPaused then
    [.resume session.endpointNode]
  else []

/-- A session has ended: its node's resolution is resumed, if it was paused. -/
structure Ended
    (env : Surroundings)
    (node : Nat)
    (before after : Context) : Prop where
  terminal : after.session.currentState.isTerminal = true
  calls : resolutionCalls node after.outputs =
    resolutionCalls node before.outputs ++ resumption env before.session

/-- Nothing was given out that concerns the resolution of the other nodes. -/
def OthersUntouched (node : Nat) (before after : Context) : Prop :=
  ∀ other, other ≠ node -> resolutionCalls other after.outputs =
    resolutionCalls other before.outputs

/-- A change that concerns neither the resolution of a node nor what is known about it. -/
structure SameResolution (before after : Context) : Prop where
  nodeId : after.session.nodeId = before.session.nodeId
  endpointNode : after.session.endpointNode = before.session.endpointNode
  resolutionPaused : after.session.resolutionPaused = before.session.resolutionPaused
  calls : ∀ node, resolutionCalls node after.outputs = resolutionCalls node before.outputs

theorem SameResolution.refl : SameResolution ctx ctx := ⟨rfl, rfl, rfl, fun _ => rfl⟩

theorem SameResolution.trans {first second third : Context} (before : SameResolution first second)
    (after : SameResolution second third) : SameResolution first third :=
  ⟨after.nodeId.trans before.nodeId, after.endpointNode.trans before.endpointNode,
    after.resolutionPaused.trans before.resolutionPaused,
    fun node => (after.calls node).trans (before.calls node)⟩

theorem SameResolution.others {before after : Context} (same : SameResolution before after)
    (node : Nat) : OthersUntouched node before after :=
  fun other _ => same.calls other

theorem sameResolution_setState (ctx : Context) (state : OtaState) :
    SameResolution ctx (ctx.setState state) :=
  ⟨rfl, rfl, rfl, fun _ => rfl⟩

theorem sameResolution_published (report : MqttReport) :
    SameResolution ctx (ctx.emit (.published report)) :=
  ⟨rfl, rfl, rfl, fun node => by simp [resolutionCalls, resolutionCall]⟩

theorem SameResolution.balanced (same : SameResolution before after)
    (balanced : Balanced before.session (resolutionCalls node before.outputs)) :
    Balanced after.session (resolutionCalls node after.outputs) := by
  rw [Balanced, same.resolutionPaused, same.endpointNode, same.calls]
  exact balanced

theorem ended_clearSession (env : Surroundings) {finalState : OtaState}
    (isFinal : finalState.isTerminal = true) {before middle : Context}
    (same : SameResolution before middle) {node : Nat} (isNode : before.session.nodeId = node) :
    Ended env node before (clearSession env finalState middle) ∧
      OthersUntouched node before (clearSession env finalState middle) := by
  refine ⟨⟨by rw [clearSession_session]; exact isFinal, ?_⟩, ?_⟩
  · unfold clearSession resumption
    rw [same.endpointNode, same.resolutionPaused, same.nodeId, isNode, ← same.calls node]
    split
    · simp [resolutionCalls, resolutionCall]
    · simp
  · intro other isOther
    rw [← same.calls other]
    unfold clearSession
    rw [same.nodeId, isNode]
    split
    · simp [resolutionCalls, resolutionCall, isOther.symm]
    · rfl

/-- The events that end a session during its transfer. -/
def EndsTransfer (session : OtaSession) (event : ExternalEventData) : Prop :=
  match event.event with
  | .mqttAbort => True
  | .firmwareUpdateMdGetReceived =>
      session.currentState = .uploadDeliverFirmwareChunks ∧
        ∃ attributes, event.payload = .zwaveReport attributes ∧
          (OtaStepDeliverRequestedFirmwareChunks.reportNumberOf attributes = 0 ∨
            OtaStepDeliverRequestedFirmwareChunks.numberOfReportsOf attributes = 0 ∨
            session.firmwareMd.maxFragmentSize = 0)
  | .firmwareUpdateMdStatusReportReceived =>
      ∀ attributes, event.payload = .zwaveReport attributes ->
        (attributes.uint8 "status").getD 0 ≠ statusWaitForActivation
  | _ => False

/-- What an event makes of the session of a node. -/
structure Handled
    (env : Surroundings)
    (event : ExternalEventData)
    (node : Nat)
    (before after : Context) : Prop where
  others : OthersUntouched node before after
  outcome : Kept node after ∨ Ended env node before after
  ends : before.session.resolutionPaused = true ->
    (after.session.currentState.isTerminal = true ↔ EndsTransfer before.session event)

theorem AwaitsEvent.not_terminal {state : OtaState} (awaits : AwaitsEvent state) :
    state.isTerminal = false := by
  rcases awaits with same | same | same | same | same <;> rw [same] <;> rfl

section

variable
  {env : Surroundings}
  {event : ExternalEventData}
  {node : Nat}
  {before after : Context}

theorem Handled.of_kept (others : OthersUntouched node before after) (kept : Kept node after)
    (notEnding : before.session.resolutionPaused = true -> ¬EndsTransfer before.session event) :
    Handled env event node before after := by
  refine ⟨others, Or.inl kept, fun paused => ?_⟩
  rw [kept.awaits.not_terminal]
  simp [notEnding paused]

theorem Handled.of_ended (others : OthersUntouched node before after)
    (ended : Ended env node before after)
    (ending : before.session.resolutionPaused = true -> EndsTransfer before.session event) :
    Handled env event node before after := by
  refine ⟨others, Or.inr ended, fun paused => ?_⟩
  rw [ended.terminal]
  simp [ending paused]

variable {middle : Context}

theorem Handled.of_clearSession {finalState : OtaState} (isFinal : finalState.isTerminal = true)
    (same : SameResolution before middle) (isNode : before.session.nodeId = node)
    (ending : before.session.resolutionPaused = true -> EndsTransfer before.session event) :
    Handled env event node before (clearSession env finalState middle) := by
  obtain ⟨ended, others⟩ := ended_clearSession env isFinal same isNode
  exact Handled.of_ended others ended ending

theorem handled_abort (kept : Kept node before) (isAbort : event.event = .mqttAbort) :
    Handled env event node before
      (transitionToState env before .uploadRecordPendingTransferAbort) := by
  refine Handled.of_clearSession rfl ?_ kept.nodeId fun _ => by simp [EndsTransfer, isAbort]
  exact ⟨rfl, rfl, rfl, fun _ => rfl⟩

theorem handled_progress (kept : Kept node before)
    (isRequest : event.event = .mqttProgressRequest) :
    Handled env event node before
        (transitionToState env before .uploadPublishTransferProgress) ∧
      (transitionToState env before .uploadPublishTransferProgress).session.currentState
        = .uploadDeliverFirmwareChunks := by
  rw [transitionToState_publishProgress]
  have same : SameResolution before
      ((OtaStepPublishTransferProgress.onEnter
        (before.setState .uploadPublishTransferProgress)).2.setState
          .uploadDeliverFirmwareChunks) := by
    refine (sameResolution_setState before .uploadPublishTransferProgress).trans ?_
    refine SameResolution.trans ?_ (sameResolution_setState _ _)
    unfold OtaStepPublishTransferProgress.onEnter
    split
    · exact SameResolution.refl _
    · exact sameResolution_published _ _
  refine ⟨Handled.of_kept (same.others node) ⟨?_, Or.inr (Or.inl rfl), fun _ => Or.inl rfl, ?_,
    same.balanced kept.balanced⟩ fun _ => by simp [EndsTransfer, isRequest], rfl⟩
  · exact same.nodeId.trans kept.nodeId
  · unfold OtaStepPublishTransferProgress.onEnter
    split <;> exact kept.notAborted

theorem resumption_of_unpaused {session : OtaSession}
    (unpaused : session.resolutionPaused = false) :
    resumption env session = [] := by
  simp [resumption, unpaused]

/-- What the entry of an upload leaves, apart from the endpoint it finds. -/
structure Entered (before after : Context) : Prop where
  currentState : after.session.currentState = .startUpload
  nodeId : after.session.nodeId = before.session.nodeId
  unpaused : after.session.resolutionPaused = before.session.resolutionPaused
  aborted : after.session.transfer.abortRequested = before.session.transfer.abortRequested
  calls : ∀ node, resolutionCalls node after.outputs = resolutionCalls node before.outputs

theorem entered_startUpload : Entered before (advance env .startUpload before).1 := by
  simp only [advance, onEnter, OtaStepStartUpload.onEnter, handleEntry,
    OtaStepStartUpload.handleEntry]
  repeat' split
  all_goals
    refine ⟨rfl, rfl, rfl, rfl, fun node => ?_⟩
    simp [applyResult, OtaStepStartUpload.publishReport, resolutionCalls, resolutionCall]

theorem handled_start (isNode : before.session.nodeId = node)
    (unpaused : before.session.resolutionPaused = false)
    (notAborted : before.session.transfer.abortRequested = false)
    (matched : Matched (resolutionCalls node before.outputs)) :
    Handled env event node before (transitionToState env before .startUpload) := by
  have entered := @entered_startUpload env before
  have entry : Kept node (advance env .startUpload before).1 := by
    refine ⟨entered.nodeId.trans isNode, Or.inl entered.currentState, ?_,
      entered.aborted.trans notAborted, ?_⟩
    · rw [entered.unpaused, unpaused]
      exact fun isPaused => absurd isPaused Bool.false_ne_true
    · rw [Balanced, entered.unpaused, unpaused, entered.calls]
      exact matched
  rcases advance_startUpload env before with rests | fails
  · rw [transitionToState_of_rests (Prod.ext rfl rests)]
    exact Handled.of_kept (fun other _ => entered.calls other) entry (by simp [unpaused])
  · rw [transitionToState_of_leads (Prod.ext rfl fails), transitionToState_failed]
    obtain ⟨ended, others⟩ := @ended_clearSession env .failed rfl _ _
      (sameResolution_setState _ .failed) _ entry.nodeId
    refine Handled.of_ended ?_ ⟨ended.terminal, ?_⟩ (by simp [unpaused])
    · intro other isOther
      rw [others other isOther, entered.calls]
    · rw [ended.calls, entered.calls, resumption_of_unpaused (entered.unpaused.trans unpaused),
        resumption_of_unpaused unpaused]

theorem handled_reconnect (same : SameResolution before middle)
    (isNode : before.session.nodeId = node)
    (ending : before.session.resolutionPaused = true -> EndsTransfer before.session event) :
    Handled env event node before
        (transitionToState env middle .waitingForReconnect) ∧
      (transitionToState env middle
        .waitingForReconnect).session.currentState.isTerminal = true := by
  rw [transitionToState_waitingForReconnect]
  split
  · rw [transitionToState_triggerInterview]
    refine ⟨Handled.of_clearSession rfl (same.trans ?_) isNode ending, ?_⟩
    · exact ⟨rfl, rfl, rfl, fun node => by simp [resolutionCalls, resolutionCall]⟩
    · rw [clearSession_session]
      rfl
  · refine ⟨Handled.of_clearSession rfl (same.trans ⟨rfl, rfl, rfl, fun _ => rfl⟩) isNode ending,
      ?_⟩
    rw [clearSession_session]
    rfl

theorem handled_waitForActivation (kept : Kept node before) (same : SameResolution before middle)
    (notAborted : middle.session.transfer.abortRequested = false)
    (notEnding : before.session.resolutionPaused = true -> ¬EndsTransfer before.session event) :
    Handled env event node before (transitionToState env middle .waitingForActivation) := by
  rw [transitionToState_waitingForActivation]
  have isNode := same.nodeId.trans kept.nodeId
  have balanced := same.balanced kept.balanced
  rw [Balanced] at balanced
  unfold OtaStepWaitingForActivation.onEnter
  by_cases paused : middle.session.resolutionPaused
  · rw [if_pos paused] at balanced
    rw [if_pos (by simpa using paused)]
    obtain ⟨done, matched, calls⟩ := balanced
    refine Handled.of_kept ?_
      ⟨isNode, by simp [AwaitsEvent], by simp, notAborted, ?_⟩ notEnding
    · intro other isOther
      rw [← same.calls other]
      simp [resolutionCalls, resolutionCall, isNode, isOther.symm]
    · rw [Balanced]
      simp only [setState_session, setState_outputs, Context.emit_outputs, resolutionCalls_append,
        calls]
      simpa [resolutionCalls, resolutionCall, isNode] using
        matched.resumed middle.session.endpointNode
  · rw [if_neg paused] at balanced
    rw [if_neg (by simpa using paused)]
    refine Handled.of_kept (same.others node) ⟨isNode, by simp [AwaitsEvent], ?_, notAborted, ?_⟩
      notEnding
    · intro isPaused
      exact absurd isPaused paused
    · rw [Balanced, if_neg (by simpa using paused)]
      exact balanced

theorem handled_outcome (kept : Kept node before) (same : SameResolution before middle)
    (notAborted : middle.session.transfer.abortRequested = false)
    (processing : middle.session.currentState = .uploadProcessDeviceOutcome)
    (isStatus : event.event = .firmwareUpdateMdStatusReportReceived) :
    Handled env event node before
      (OtaStateMachine.routeResult env
        (OtaStepProcessDeviceTransferOutcome.handleEvent middle event)) := by
  unfold OtaStepProcessDeviceTransferOutcome.handleEvent
  cases payload : event.payload with
  | zwaveReport attributes =>
    dsimp only
    rw [notAborted, Bool.false_and, if_neg Bool.false_ne_true]
    have ends : (attributes.uint8 "status").getD 0 ≠ statusWaitForActivation ->
        EndsTransfer before.session event := by
      intro differs
      simp [EndsTransfer, isStatus, payload, differs]
    split
    · rename_i succeeds
      have differs : (attributes.uint8 "status").getD 0 ≠ statusWaitForActivation := by
        rw [succeeds]
        decide
      simp only [OtaStateMachine.routeResult, OtaStepProcessDeviceTransferOutcome.clearImage,
        OtaStepProcessDeviceTransferOutcome.publishCompletion, Context.emit_session, processing,
        true_and, if_true, OtaStateMachine.outcomeState]
      refine And.left
        (handled_reconnect (same.trans ⟨rfl, rfl, rfl, ?_⟩) kept.nodeId fun _ => ends differs)
      exact fun node => by simp [resolutionCalls, resolutionCall]
    · split
      · rename_i waits
        simp only [OtaStateMachine.routeResult, OtaStepProcessDeviceTransferOutcome.clearImage,
          OtaStepProcessDeviceTransferOutcome.publishCompletion, Context.emit_session,
          processing, true_and, if_true, OtaStateMachine.outcomeState]
        refine handled_waitForActivation kept (same.trans ⟨rfl, rfl, rfl, ?_⟩) notAborted ?_
        · exact fun node => by simp [resolutionCalls, resolutionCall]
        · simp [EndsTransfer, isStatus, payload, waits]
      · rename_i differs
        split
        · simp only [OtaStateMachine.routeResult,
            OtaStepProcessDeviceTransferOutcome.clearImage,
            OtaStepProcessDeviceTransferOutcome.publishCompletion, Context.emit_session,
            processing, true_and, if_true, OtaStateMachine.outcomeState,
            transitionToState_transferDone]
          refine Handled.of_clearSession rfl (same.trans ⟨rfl, rfl, rfl, ?_⟩) kept.nodeId
            fun _ => ends differs
          exact fun node => by simp [resolutionCalls, resolutionCall]
        · rw [routeResult_fail]
          refine Handled.of_clearSession rfl (same.trans ⟨rfl, rfl, rfl, ?_⟩) kept.nodeId
            fun _ => ends differs
          exact fun node => by
            simp [OtaStepProcessDeviceTransferOutcome.clearImage, resolutionCalls, resolutionCall]
  | _ =>
    rw [routeResult_fail]
    refine Handled.of_clearSession rfl (same.trans ⟨rfl, rfl, rfl, fun _ => rfl⟩) kept.nodeId
      fun _ => ?_
    simp [EndsTransfer, isStatus, payload]

theorem sendReports_keeps (numberOfReports : UInt8) (reportNumber : UInt16) (rounds index : Nat)
    (ctx : Context) :
    let result := OtaStepDeliverRequestedFirmwareChunks.sendReports env numberOfReports
      reportNumber rounds index ctx
    SameResolution ctx result.2 ∧
      result.2.session.currentState = ctx.session.currentState ∧
      result.2.session.transfer.abortRequested = ctx.session.transfer.abortRequested ∧
      (result.1 = some .stay ∨ result.1 = some .done) := by
  have sent : ∀ (ctx : Context) (report : MdReport),
      SameResolution ctx (ctx.emit (.mdReport report)) :=
    fun ctx report => ⟨rfl, rfl, rfl, fun node => by simp [resolutionCalls, resolutionCall]⟩
  induction rounds generalizing index ctx with
  | zero => exact ⟨SameResolution.refl ctx, rfl, rfl, Or.inl rfl⟩
  | succ rounds ih =>
    unfold OtaStepDeliverRequestedFirmwareChunks.sendReports
    dsimp only
    split
    · exact ⟨SameResolution.refl ctx, rfl, rfl, Or.inr rfl⟩
    · split
      · exact ⟨sent _ _, rfl, rfl, Or.inl rfl⟩
      · obtain ⟨same, state, aborted, code⟩ := ih (index + 1)
          { ctx.emit (.mdReport (OtaStepDeliverRequestedFirmwareChunks.batchReport
              ctx.session numberOfReports (reportNumber + UInt16.ofNat index) index)) with
            session := { ctx.session with
              transfer := { ctx.session.transfer with
                bytesTransferred :=
                  max (OtaStepDeliverRequestedFirmwareChunks.newTransferred ctx.session
                      (reportNumber + UInt16.ofNat index))
                    ctx.session.transfer.bytesTransferred } } }
        refine ⟨SameResolution.trans ?_ same, state, aborted, code⟩
        exact (sent ctx _).trans ⟨rfl, rfl, rfl, fun _ => rfl⟩

/-- A Get is answered, or ends the session when it asks for nothing. -/
theorem handled_deliver (kept : Kept node before)
    (delivering : before.session.currentState = .uploadDeliverFirmwareChunks)
    (isGet : event.event = .firmwareUpdateMdGetReceived) :
    Handled env event node before
      (OtaStateMachine.routeResult env
        (OtaStepDeliverRequestedFirmwareChunks.handleEvent env before event)) := by
  have refused : (before.session.resolutionPaused = true -> EndsTransfer before.session event) ->
      Handled env event node before
        (OtaStateMachine.routeResult env
          (OtaStepDeliverRequestedFirmwareChunks.refuse before)) := by
    intro ending
    simp only [OtaStepDeliverRequestedFirmwareChunks.refuse, OtaStateMachine.routeResult,
      reduceCtorEq, and_false, if_false, Option.some.injEq, applyTransition, applyResult,
      nextState, transitionToState_failed]
    exact Handled.of_clearSession rfl ⟨rfl, rfl, rfl, fun _ => rfl⟩ kept.nodeId ending
  unfold OtaStepDeliverRequestedFirmwareChunks.handleEvent
  cases payload : event.payload with
  | zwaveReport attributes =>
    dsimp only
    by_cases noNumber : OtaStepDeliverRequestedFirmwareChunks.reportNumberOf attributes = 0
    · rw [if_pos noNumber]
      exact refused fun _ => by simp [EndsTransfer, isGet, delivering, payload, noNumber]
    rw [if_neg noNumber]
    by_cases noReports : OtaStepDeliverRequestedFirmwareChunks.numberOfReportsOf attributes = 0
    · rw [if_pos noReports]
      exact refused fun _ => by simp [EndsTransfer, isGet, delivering, payload, noReports]
    rw [if_neg noReports, kept.notAborted, if_neg Bool.false_ne_true]
    by_cases noFragment : before.session.firmwareMd.maxFragmentSize = 0
    · rw [if_pos noFragment]
      exact refused fun _ => by simp [EndsTransfer, isGet, delivering, payload, noFragment]
    rw [if_neg noFragment]
    have notEnding : before.session.resolutionPaused = true ->
        ¬EndsTransfer before.session event := by
      simp [EndsTransfer, isGet, payload, noNumber, noReports, noFragment]
    unfold OtaStepDeliverRequestedFirmwareChunks.sendFirmwareReportBatch
    obtain ⟨same, state, aborted, code⟩ := @sendReports_keeps env
      (OtaStepDeliverRequestedFirmwareChunks.numberOfReportsOf attributes)
      (OtaStepDeliverRequestedFirmwareChunks.reportNumberOf attributes)
      (OtaStepDeliverRequestedFirmwareChunks.numberOfReportsOf attributes).toNat 0 before
    generalize OtaStepDeliverRequestedFirmwareChunks.sendReports env _ _ _ _ before =
      result at same state aborted code ⊢
    obtain ⟨resultCode, final⟩ := result
    replace state := state.trans delivering
    have balanced := same.balanced kept.balanced
    rcases code with isStay | isDone
    · cases isStay
      rw [routeResult_stay]
      exact Handled.of_kept (same.others node)
        ⟨same.nodeId.trans kept.nodeId, Or.inr (Or.inl state), fun _ => Or.inl state,
          aborted.trans kept.notAborted, balanced⟩ notEnding
    · cases isDone
      have routed : OtaStateMachine.routeResult env (some .done, final) =
          final.setState .uploadProcessDeviceOutcome := by
        simp [OtaStateMachine.routeResult, applyTransition, applyResult, nextState,
          show final.session.currentState = _ from state, transitionTable]
      rw [routed]
      exact Handled.of_kept (same.others node)
        ⟨same.nodeId.trans kept.nodeId, Or.inr (Or.inr (Or.inl rfl)), fun _ => Or.inr rfl,
          aborted.trans kept.notAborted, balanced⟩ notEnding
  | _ =>
    rw [routeResult_stay]
    exact Handled.of_kept (fun _ _ => rfl) kept fun _ => by simp [EndsTransfer, isGet, payload]

theorem Kept.unpaused (kept : Kept node before)
    (notDelivering : before.session.currentState ≠ .uploadDeliverFirmwareChunks)
    (notProcessing : before.session.currentState ≠ .uploadProcessDeviceOutcome) :
    before.session.resolutionPaused = false := by
  rw [Bool.eq_false_iff]
  intro paused
  rcases kept.pausedInTransfer paused with delivering | processing
  · exact notDelivering delivering
  · exact notProcessing processing

theorem handled_prepare (kept : Kept node before)
    (unpaused : before.session.resolutionPaused = false) (same : SameResolution before middle) :
    Handled env event node before (transitionToState env middle .uploadPrepareTransfer) := by
  have never : ∀ {conclusion : Prop}, before.session.resolutionPaused = true -> conclusion := by
    intro conclusion paused
    rw [unpaused] at paused
    cases paused
  by_cases missing : env.getImage middle.session.upload.imageName = []
  · rw [transitionToState_prepare_of_missing _ _ missing]
    refine Handled.of_clearSession rfl (same.trans ?_) kept.nodeId never
    simp only [OtaStepUploadPrepare.onEnter, setState_session, missing, if_true]
    exact ⟨rfl, rfl, rfl, fun _ => rfl⟩
  · rw [transitionToState_prepare_of_stored _ _ missing]
    have isNode := same.nodeId.trans kept.nodeId
    have matched := kept.balanced
    rw [Balanced, unpaused, ← same.calls] at matched
    refine Handled.of_kept ?_ ⟨isNode, Or.inr (Or.inl rfl), fun _ => Or.inl rfl, rfl, ?_⟩ never
    · intro other isOther
      rw [← same.calls other]
      simp [resolutionCalls, resolutionCall, isNode, isOther.symm]
    · simp only [Balanced, preparedSession, if_true]
      refine ⟨_, matched, ?_⟩
      simp [resolutionCalls, resolutionCall, isNode]

theorem handled_startUpload (kept : Kept node before)
    (waiting : before.session.currentState = .startUpload) :
    Handled env event node before
      (OtaStateMachine.routeResult env
        (OtaStepStartUpload.handleEvent before event)) := by
  have unpaused := kept.unpaused (by simp [waiting]) (by simp [waiting])
  have never : ∀ {conclusion : Prop}, before.session.resolutionPaused = true -> conclusion := by
    intro conclusion paused
    rw [unpaused] at paused
    cases paused
  have failed : ∀ middle, SameResolution before middle ->
      Handled env event node before
        (OtaStateMachine.routeResult env (some .fail, middle)) := by
    intro middle same
    rw [routeResult_fail]
    exact Handled.of_clearSession rfl (same.trans (sameResolution_setState _ _)) kept.nodeId never
  unfold OtaStepStartUpload.handleEvent
  split
  · split
    · unfold OtaStepStartUpload.handleRequestReport
      split
      · exact failed before (SameResolution.refl before)
      · split
        · have routed : OtaStateMachine.routeResult env
              (some .done, OtaStepStartUpload.publishReport before "accepted" none) =
              transitionToState env
                (OtaStepStartUpload.publishReport before "accepted" none)
                .uploadPrepareTransfer := by
            simp [OtaStateMachine.routeResult, OtaStepStartUpload.publishReport, waiting,
              applyTransition, applyResult, nextState, transitionTable]
          rw [routed]
          exact handled_prepare kept unpaused (sameResolution_published _ _)
        · exact failed _ (sameResolution_published _ _)
    · exact failed before (SameResolution.refl before)
  · have routed : OtaStateMachine.routeResult env
        (some .skip, OtaStepStartUpload.publishReport before "aborted" none) =
        transitionToState env
          (OtaStepStartUpload.publishReport before "aborted" none) .transferDone := by
      simp [OtaStateMachine.routeResult, OtaStepStartUpload.publishReport, waiting,
        applyTransition, applyResult, nextState, transitionTable]
    rw [routed]
    exact Handled.of_clearSession rfl
      ((sameResolution_published _ _).trans (sameResolution_setState _ _)) kept.nodeId never
  · rw [routeResult_stay]
    exact Handled.of_kept (fun _ _ => rfl) kept never

theorem routeResult_activate (waiting : before.session.currentState = .waitingForActivation) :
    OtaStateMachine.routeResult env (OtaStepWaitingForActivation.handleEvent before) =
      (OtaStepWaitingForActivation.handleEvent before).2.setState .activating := by
  simp [OtaStepWaitingForActivation.handleEvent, OtaStateMachine.routeResult, waiting,
    applyTransition, applyResult, nextState, transitionTable]

theorem handled_activate (kept : Kept node before)
    (waiting : before.session.currentState = .waitingForActivation) :
    Handled env event node before
      (OtaStateMachine.routeResult env
        (OtaStepWaitingForActivation.handleEvent before)) := by
  have unpaused := kept.unpaused (by simp [waiting]) (by simp [waiting])
  rw [routeResult_activate waiting]
  have same : SameResolution before
      ((OtaStepWaitingForActivation.handleEvent before).2.setState .activating) :=
    ⟨rfl, rfl, rfl, fun node => by
      simp [OtaStepWaitingForActivation.handleEvent, resolutionCalls, resolutionCall]⟩
  refine Handled.of_kept (same.others node)
    ⟨same.nodeId.trans kept.nodeId, by simp [AwaitsEvent], ?_, kept.notAborted,
      same.balanced kept.balanced⟩ (by simp [unpaused])
  intro paused
  rw [same.resolutionPaused, unpaused] at paused
  cases paused

theorem handled_activating (kept : Kept node before)
    (activating : before.session.currentState = .activating) :
    Handled env event node before
        (OtaStateMachine.routeResult env
          (OtaStepActivating.handleEvent before event)) ∧
      (OtaStateMachine.routeResult env
        (OtaStepActivating.handleEvent before event)).session.currentState.isTerminal = true := by
  have unpaused := kept.unpaused (by simp [activating]) (by simp [activating])
  have failed : ∀ middle, SameResolution before middle ->
      Handled env event node before
          (OtaStateMachine.routeResult env (some .fail, middle)) ∧
        (OtaStateMachine.routeResult env
          (some .fail, middle)).session.currentState.isTerminal = true := by
    intro middle same
    rw [routeResult_fail]
    refine ⟨Handled.of_clearSession rfl (same.trans (sameResolution_setState _ _)) kept.nodeId
      (by simp [unpaused]), ?_⟩
    rw [clearSession_session]
    rfl
  unfold OtaStepActivating.handleEvent
  split
  · dsimp only
    split
    · exact failed _ (sameResolution_published _ _)
    · rename_i attributes _ _
      have routed : ∀ waitTime : UInt16, OtaStateMachine.routeResult env
          (some .done, { before with session := { before.session with waitTime := waitTime } }) =
          transitionToState env
            { before with session := { before.session with waitTime := waitTime } }
            .waitingForReconnect := by
        simp [OtaStateMachine.routeResult, activating, applyTransition, applyResult, nextState,
          transitionTable]
      rw [routed]
      exact handled_reconnect ⟨rfl, rfl, rfl, fun _ => rfl⟩ kept.nodeId (by simp [unpaused])
  · exact failed before (SameResolution.refl before)

/-- What an event for the session of its node makes of the session. -/
def routeContext (env : Surroundings) (event : ExternalEventData) (ctx : Context) : Context :=
  let ctx := OtaStateMachine.endDelivery env event ctx
  if handlesExternalEvent event.event ctx.session.currentState = false then ctx
  else
    OtaStateMachine.routeResult env
      (handleEvent env ctx event ctx.session.currentState)

/-- By cases on the state of the session, and on whether its step handles the event. -/
theorem handled_routeContext (kept : Kept node before) (notAbort : event.event ≠ .mqttAbort) :
    Handled env event node before (routeContext env event before) := by
  have unhandled : (before.session.resolutionPaused = true ->
      ¬EndsTransfer before.session event) -> Handled env event node before before :=
    Handled.of_kept (fun _ _ => rfl) kept
  by_cases endsDelivery : event.event = .firmwareUpdateMdStatusReportReceived ∧
      before.session.currentState = .uploadDeliverFirmwareChunks
  · obtain ⟨isStatus, delivering⟩ := endsDelivery
    have ended : OtaStateMachine.endDelivery env event before =
        ({ before with
          session := { before.session with uploadInProgress := false } } : Context).setState
            .uploadProcessDeviceOutcome := by
      rw [OtaStateMachine.endDelivery, if_pos ⟨isStatus, delivering⟩, transitionToState_outcome]
    have handles : handlesExternalEvent event.event .uploadProcessDeviceOutcome = true := by
      rw [isStatus]
      rfl
    rw [routeContext, ended]
    simp only [setState_session, handles, reduceCtorEq, if_false]
    exact handled_outcome kept ⟨rfl, rfl, rfl, fun _ => rfl⟩ kept.notAborted rfl isStatus
  · have stays : OtaStateMachine.endDelivery env event before = before := if_neg endsDelivery
    rw [routeContext, stays]
    rcases kept.awaits with isState | isState | isState | isState | isState
    · rw [isState]
      split
      · exact unhandled (by simp [kept.unpaused (by simp [isState]) (by simp [isState])])
      · exact handled_startUpload kept isState
    · rw [isState]
      split
      · rename_i unhandledEvent
        refine unhandled fun _ => ?_
        simp only [handlesExternalEvent,
          OtaStepDeliverRequestedFirmwareChunks.handlesExternalEvent,
          decide_eq_false_iff_not] at unhandledEvent
        unfold EndsTransfer
        split <;> simp_all
      · rename_i handledEvent
        refine handled_deliver kept isState ?_
        simpa [handlesExternalEvent, OtaStepDeliverRequestedFirmwareChunks.handlesExternalEvent]
          using handledEvent
    · rw [isState]
      split
      · rename_i unhandledEvent
        refine unhandled fun _ => ?_
        simp only [handlesExternalEvent,
          OtaStepProcessDeviceTransferOutcome.handlesExternalEvent,
          decide_eq_false_iff_not] at unhandledEvent
        unfold EndsTransfer
        split <;> simp_all
      · rename_i handledEvent
        refine handled_outcome kept (SameResolution.refl before) kept.notAborted isState ?_
        simpa [handlesExternalEvent, OtaStepProcessDeviceTransferOutcome.handlesExternalEvent]
          using handledEvent
    · rw [isState]
      split
      · exact unhandled (by simp [kept.unpaused (by simp [isState]) (by simp [isState])])
      · exact handled_activate kept isState
    · rw [isState]
      split
      · exact unhandled (by simp [kept.unpaused (by simp [isState]) (by simp [isState])])
      · exact (handled_activating kept isState).1

theorem isActive_of_isActive_routeContext (kept : Kept node before)
    (active : (routeContext env event before).session.currentState.isActive = true) :
    before.session.currentState.isActive = true := by
  rcases kept.awaits with isState | isState | isState | isState | isState
  · rw [isState]
    rfl
  · rw [isState]
    rfl
  · rw [isState]
    rfl
  · exfalso
    revert active
    have stays : OtaStateMachine.endDelivery env event before = before := if_neg (by simp [isState])
    rw [routeContext, stays, isState]
    split
    · rw [isState]
      decide
    · simp only [handleEvent]
      rw [routeResult_activate isState]
      show OtaState.isActive .activating = true -> False
      decide
  · exfalso
    revert active
    have stays : OtaStateMachine.endDelivery env event before = before := if_neg (by simp [isState])
    rw [routeContext, stays, isState]
    split
    · rw [isState]
      decide
    · have terminal := (@handled_activating env event _ _ kept isState).2
      simp only [handleEvent]
      revert terminal
      generalize (OtaStateMachine.routeResult env
        (OtaStepActivating.handleEvent before event)).session.currentState = state
      cases state <;> decide

end

end Ota
