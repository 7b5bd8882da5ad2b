import Zpc.Foundation.ChainedMachine
import Zpc.Foundation.Run
import Zpc.Ota.Steps

/-!
# The firmware update state machine

`state_machine_base.hpp` with the transition table of `ota_state_machine.cpp`, and
`OtaStateMachine::process_event`.  One worker thread handles the events one after the other;
a step that throws ends it.  The status an event is answered with is not read by the worker.
-/

namespace Ota

/-- The table `register_transitions` sets up. -/
def transitionTable : OtaState -> StepResultCode -> Option OtaState
  | .startUpload, .done => some .uploadPrepareTransfer
  | .startUpload, .skip => some .transferDone
  | .uploadPrepareTransfer, .done => some .uploadDeliverFirmwareChunks
  | .uploadPrepareTransfer, .fail => some .failed
  | .uploadPublishTransferProgress, .done => some .uploadDeliverFirmwareChunks
  | .uploadPublishTransferProgress, .skip => some .transferDone
  | .uploadPublishTransferProgress, .fail => some .failed
  | .uploadRecordPendingTransferAbort, .done => some .transferDone
  | .uploadRecordPendingTransferAbort, .fail => some .failed
  | .uploadDeliverFirmwareChunks, .fail => some .failed
  | .uploadDeliverFirmwareChunks, .done => some .uploadProcessDeviceOutcome
  | .uploadProcessDeviceOutcome, .done => some .transferDone
  | .uploadProcessDeviceOutcome, .fail => some .failed
  | .waitingForActivation, .done => some .activating
  | .waitingForActivation, .fail => some .failed
  | .activating, .done => some .waitingForReconnect
  | .activating, .fail => some .failed
  | .waitingForReconnect, .done => some .triggerInterview
  | .waitingForReconnect, .fail => some .failed
  | .triggerInterview, .done => some .transferDone
  | .triggerInterview, .fail => some .failed
  | _, _ => none

/-- The state `apply_transition` goes to, if any. -/
def nextState (currentState : OtaState) : StepResultCode -> Option OtaState
  | .stay => none
  | .fail => some .failed
  | code => transitionTable currentState code

/-- `on_enter` of the step of a state. -/
def onEnter (env : Surroundings) (ctx : Context) : OtaState -> StepResult
  | .transferDone => OtaStepTransferDone.onEnter env ctx
  | .failed => OtaStepFailed.onEnter env ctx
  | .startUpload => OtaStepStartUpload.onEnter env ctx
  | .uploadPrepareTransfer => OtaStepUploadPrepare.onEnter env ctx
  | .uploadDeliverFirmwareChunks => (some .stay, ctx)
  | .uploadPublishTransferProgress => OtaStepPublishTransferProgress.onEnter ctx
  | .uploadRecordPendingTransferAbort => OtaStepRecordPendingTransferAbort.onEnter ctx
  | .uploadProcessDeviceOutcome => (some .stay, ctx)
  | .waitingForActivation => OtaStepWaitingForActivation.onEnter ctx
  | .activating => (some .stay, ctx)
  | .waitingForReconnect => OtaStepWaitingForReconnect.onEnter env ctx
  | .triggerInterview => OtaStepTriggerInterview.onEnter ctx

/-- `handle_event` of the step of a state, without an event. -/
def handleEntry (env : Surroundings) (ctx : Context) : OtaState -> StepResult
  | .startUpload => OtaStepStartUpload.handleEntry env ctx
  | _ => (some .stay, ctx)

/-- `handle_event` of the step of a state. -/
def handleEvent (env : Surroundings) (ctx : Context)
    (event : ExternalEventData) : OtaState -> StepResult
  | .startUpload => OtaStepStartUpload.handleEvent ctx event
  | .uploadDeliverFirmwareChunks => OtaStepDeliverRequestedFirmwareChunks.handleEvent env ctx event
  | .uploadProcessDeviceOutcome => OtaStepProcessDeviceTransferOutcome.handleEvent ctx event
  | .waitingForActivation => OtaStepWaitingForActivation.handleEvent ctx
  | .activating => OtaStepActivating.handleEvent ctx event
  | _ => (some .stay, ctx)

/-- `handles_external_event` of the step of a state. -/
def handlesExternalEvent (eventType : ExternalEvent) : OtaState -> Bool
  | .startUpload => OtaStepStartUpload.handlesExternalEvent eventType
  | .uploadDeliverFirmwareChunks =>
      OtaStepDeliverRequestedFirmwareChunks.handlesExternalEvent eventType
  | .uploadProcessDeviceOutcome =>
      OtaStepProcessDeviceTransferOutcome.handlesExternalEvent eventType
  | .waitingForActivation => OtaStepWaitingForActivation.handlesExternalEvent eventType
  | .activating => OtaStepActivating.handlesExternalEvent eventType
  | _ => false

/-- The state of the session of a context. -/
def Context.setState (ctx : Context) (state : OtaState) : Context :=
  { ctx with session := { ctx.session with currentState := state } }

/-- What is done with the result of a step: the state that is entered next, if any. -/
def applyResult : StepResult -> Context × Option OtaState
  | (none, ctx) => ({ ctx with threw := true }, none)
  | (some code, ctx) => (ctx, nextState ctx.session.currentState code)

/-- One pass of `transition_to_state`, up to the transition it ends with. -/
def advance (env : Surroundings) (state : OtaState) (ctx : Context) : Context × Option OtaState :=
  let entry := onEnter env (ctx.setState state) state
  applyResult
    (if entry.1 = some .stay then handleEntry env entry.2 state else entry)

/-- How far the states that are passed on entry are from one that is not. -/
def rank : OtaState -> Nat
  | .transferDone => 0
  | .failed => 0
  | .uploadPrepareTransfer => 2
  | .uploadPublishTransferProgress => 2
  | .waitingForReconnect => 2
  | _ => 1

variable (env : Surroundings) (ctx : Context) (state : OtaState)

@[simp] theorem setState_session :
    (ctx.setState state).session = { ctx.session with currentState := state } := rfl

@[simp] theorem setState_outputs : (ctx.setState state).outputs = ctx.outputs := rfl

@[simp] theorem setState_threw : (ctx.setState state).threw = ctx.threw := rfl

theorem clearSession_session (finalState : OtaState) (ctx : Context) :
    (clearSession env finalState ctx).session =
      { OtaSession.ofNode 0 with currentState := finalState } := by
  unfold clearSession
  split <;> rfl

theorem advance_startUpload (env : Surroundings) (ctx : Context) :
    (advance env .startUpload ctx).2 = none ∨ (advance env .startUpload ctx).2 = some .failed := by
  simp only [advance, onEnter, OtaStepStartUpload.onEnter, handleEntry,
    OtaStepStartUpload.handleEntry]
  repeat' split
  all_goals simp_all [applyResult, nextState]

theorem advance_descends (ctx : Context) (next : OtaState)
    (leads : (advance env state ctx).2 = some next) : rank next < rank state := by
  cases state with
  | startUpload =>
    rcases advance_startUpload env ctx with rests | fails
    · rw [rests] at leads
      cases leads
    · rw [fails] at leads
      cases leads
      decide
  | uploadPrepareTransfer =>
    simp only [advance, onEnter, OtaStepUploadPrepare.onEnter,
      OtaStepUploadPrepare.pauseResolution] at leads
    split at leads <;>
      simp [applyResult, nextState, transitionTable] at leads <;> subst leads <;> decide
  | uploadPublishTransferProgress =>
    simp only [advance, onEnter, OtaStepPublishTransferProgress.onEnter] at leads
    split at leads <;>
      simp [applyResult, nextState, transitionTable] at leads <;> subst leads <;> decide
  | uploadRecordPendingTransferAbort =>
    simp [advance, onEnter, OtaStepRecordPendingTransferAbort.onEnter, applyResult, nextState,
      transitionTable] at leads
    subst leads
    decide
  | waitingForActivation =>
    simp only [advance, onEnter, OtaStepWaitingForActivation.onEnter, handleEntry] at leads
    split at leads <;> simp [applyResult, nextState] at leads
  | waitingForReconnect =>
    simp only [advance, onEnter, OtaStepWaitingForReconnect.onEnter] at leads
    split at leads <;>
      simp [applyResult, nextState, transitionTable] at leads <;> subst leads <;> decide
  | triggerInterview =>
    simp [advance, onEnter, OtaStepTriggerInterview.onEnter, applyResult, nextState,
      transitionTable] at leads
    subst leads
    decide
  | transferDone =>
    simp [advance, onEnter, OtaStepTransferDone.onEnter, handleEntry, applyResult,
      nextState] at leads
  | failed =>
    simp [advance, onEnter, OtaStepFailed.onEnter, handleEntry, applyResult, nextState] at leads
  | _ => simp [advance, onEnter, handleEntry, applyResult, nextState] at leads

/-- The steps as a machine whose states lead on when they are entered. -/
def machine (env : Surroundings) : Foundation.ChainedMachine OtaState Context where
  advance := advance env
  rank := rank
  descends := advance_descends env

/-- A state is entered, and those that follow at once. -/
def transitionToState (env : Surroundings) (ctx : Context) (newState : OtaState) : Context :=
  (machine env).enter newState ctx

def applyTransition (env : Surroundings) (result : StepResult) : Context :=
  match applyResult result with
  | (ctx, none) => ctx
  | (ctx, some next) => transitionToState env ctx next

/-- `sessions`: the keys of a map are pairwise distinct. -/
structure SessionTable where
  entries : List (Nat × OtaSession)
  keysDistinct : (entries.map (·.1)).Nodup

namespace SessionTable

variable (table : SessionTable)

def find (nodeId : Nat) : Option OtaSession := table.entries.lookup nodeId

def insertOrAssign (nodeId : Nat) (session : OtaSession) : SessionTable where
  entries := Foundation.assign table.entries nodeId session
  keysDistinct := Foundation.nodup_keys_assign table.keysDistinct nodeId session

def erase (nodeId : Nat) : SessionTable where
  entries := Foundation.eraseKey table.entries nodeId
  keysDistinct := Foundation.nodup_keys_eraseKey table.keysDistinct nodeId

@[simp] theorem find_insertOrAssign (nodeId other : Nat) (session : OtaSession) :
    (table.insertOrAssign nodeId session).find other =
      if other = nodeId then some session else table.find other :=
  Foundation.lookup_assign table.entries nodeId other session

@[simp] theorem find_erase (nodeId other : Nat) :
    (table.erase nodeId).find other = if other = nodeId then none else table.find other :=
  Foundation.lookup_eraseKey table.entries nodeId other

end SessionTable

/-- `OtaStateMachine`, with what was given out so far and whether the worker is running. -/
structure OtaStateMachine where
  sessions : SessionTable
  outputs : List Output
  running : Bool

namespace OtaStateMachine

variable (sys : OtaStateMachine)

/-- What a step is given to work on. -/
def contextOf (session : OtaSession) : Context :=
  ⟨session, sys.outputs, false⟩

/-- Keep the session a step has left under its key. -/
def store (sys : OtaStateMachine) (nodeId : Nat) (ctx : Context) : OtaStateMachine where
  sessions := sys.sessions.insertOrAssign nodeId ctx.session
  outputs := ctx.outputs
  running := sys.running && !ctx.threw

/-- Keep the session a step has left, unless it is in a terminal state. -/
def settle (sys : OtaStateMachine) (nodeId : Nat) (ctx : Context) : OtaStateMachine :=
  let stored := sys.store nodeId ctx
  if ctx.session.currentState.isTerminal then
    { stored with sessions := stored.sessions.erase nodeId }
  else stored

def isActiveTransferInProgress : Bool :=
  sys.sessions.entries.any fun entry => entry.2.currentState.isActive

/-- The session `start_ota` makes. -/
def startedSession (nodeId : Nat) (imageName : String) (waitForActivation : Bool) : OtaSession :=
  { OtaSession.ofNode nodeId with upload := ⟨imageName, waitForActivation, 0⟩ }

/-- The event `MQTT_START_UPLOAD`, with `start_ota`. -/
def startUpload (env : Surroundings) (sys : OtaStateMachine) (nodeId : Nat) (imageName : String)
    (waitForActivation : Bool) : OtaStateMachine :=
  if (sys.sessions.find nodeId).isSome || sys.isActiveTransferInProgress then
    { sys with
      outputs := sys.outputs ++
        [.published
          { MqttReport.blank .startFirmwareUploadReport nodeId with
            status := some "error"
            reason := some "update_already_in_progress" }] }
  else
    sys.settle nodeId
      (transitionToState env
        (sys.contextOf (startedSession nodeId imageName waitForActivation)) .startUpload)

/-- The session a progress request is for, with its key. -/
def progressTarget (env : Surroundings) (sys : OtaStateMachine)
    (nodeId : Nat) : Option (Nat × OtaSession) :=
  if nodeId ≠ 0 then
    match sys.sessions.find nodeId with
    | some session => if session.uploadInProgress then some (nodeId, session) else none
    | none => none
  else
    env.order.findSome? fun key =>
      match sys.sessions.find key with
      | some session => if session.uploadInProgress then some (key, session) else none
      | none => none

/-- Where a processed transfer outcome leads. -/
def outcomeState : OtaTransferOutcome -> OtaState
  | .success => .waitingForReconnect
  | .waitForActivation => .waitingForActivation
  | .storedNoRestart => .transferDone
  | .none => .failed

/-- A Status Report that arrives during the delivery ends it. -/
def endDelivery (env : Surroundings) (event : ExternalEventData) (ctx : Context) : Context :=
  if event.event = .firmwareUpdateMdStatusReportReceived ∧
      ctx.session.currentState = .uploadDeliverFirmwareChunks then
    transitionToState env
      { ctx with session := { ctx.session with uploadInProgress := false } }
      .uploadProcessDeviceOutcome
  else ctx

/-- The transition after an event was handled. -/
def routeResult (env : Surroundings) (result : StepResult) : Context :=
  if result.2.session.currentState = .uploadProcessDeviceOutcome ∧ result.1 = some .done then
    transitionToState env result.2 (outcomeState result.2.session.transferOutcome)
  else applyTransition env result

/-- An event for the session of its node. -/
def routeEvent (env : Surroundings) (sys : OtaStateMachine) (event : ExternalEventData)
    (session : OtaSession) : OtaStateMachine :=
  let ctx := endDelivery env event (sys.contextOf session)
  let state := ctx.session.currentState
  if handlesExternalEvent event.event state = false then sys.store event.nodeId ctx
  else
    sys.settle event.nodeId
      (routeResult env (handleEvent env ctx event state))

/-- An event is handled by the session it belongs to. -/
def processEvent (env : Surroundings) (sys : OtaStateMachine)
    (event : ExternalEventData) : OtaStateMachine :=
  match event.event with
  | .mqttAbort =>
      match sys.sessions.find event.nodeId with
      | none => sys
      | some session =>
          sys.settle event.nodeId
            (transitionToState env (sys.contextOf session)
              .uploadRecordPendingTransferAbort)
  | .mqttProgressRequest =>
      match sys.progressTarget env event.nodeId with
      | none => sys
      | some (key, session) =>
          sys.store key
            (transitionToState env (sys.contextOf session)
              .uploadPublishTransferProgress)
  | .mqttStartUpload =>
      match event.payload with
      | .startFirmwareUpload nodeId imageName waitForActivation =>
          startUpload env sys nodeId imageName waitForActivation
      | _ => sys
  | _ =>
      match sys.sessions.find event.nodeId with
      | none => sys
      | some session => routeEvent env sys event session

/-- An event with what is read while it is handled. -/
structure Occurrence where
  env : Surroundings
  event : ExternalEventData

/-- `update_manager::run` on one event. -/
def step (occurrence : Occurrence) : OtaStateMachine :=
  if sys.running then processEvent occurrence.env sys occurrence.event
  else sys

/-- The state machine before the first event. -/
def initial : OtaStateMachine := ⟨⟨[], List.nodup_nil⟩, [], true⟩

end OtaStateMachine

end Ota
