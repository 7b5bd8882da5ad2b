import Zpc.Ota.StateMachine

/-!
# What entering a state does

The chains of states `transition_to_state` goes through, from each state to the one it comes
to rest in.
-/

namespace Ota

variable {state : OtaState}

theorem transitionToState_of_rests {env : Surroundings} {ctx rested : Context}
    (rests : advance env state ctx = (rested, none)) :
    transitionToState env ctx state = rested := by
  have last := @Foundation.ChainedMachine.enter_of_rests _ _ (machine env) state ctx
    (by simp [machine, rests])
  rw [transitionToState, last]
  simp [machine, rests]

theorem transitionToState_of_leads {env : Surroundings} {ctx passed : Context} {next : OtaState}
    (leads : advance env state ctx = (passed, some next)) :
    transitionToState env ctx state = transitionToState env passed next := by
  have further := @Foundation.ChainedMachine.enter_of_leads _ _ (machine env) state next ctx
    (by simp [machine, leads])
  rw [transitionToState, further]
  simp [machine, leads, transitionToState]

variable (env : Surroundings) (ctx : Context)

@[simp] theorem transitionToState_transferDone :
    transitionToState env ctx .transferDone =
      clearSession env .transferDone (ctx.setState .transferDone) :=
  transitionToState_of_rests
    (by simp [advance, onEnter, OtaStepTransferDone.onEnter, handleEntry, applyResult, nextState])

@[simp] theorem transitionToState_failed :
    transitionToState env ctx .failed = clearSession env .failed (ctx.setState .failed) :=
  transitionToState_of_rests
    (by simp [advance, onEnter, OtaStepFailed.onEnter, handleEntry, applyResult, nextState])

@[simp] theorem transitionToState_deliver :
    transitionToState env ctx .uploadDeliverFirmwareChunks =
      ctx.setState .uploadDeliverFirmwareChunks :=
  transitionToState_of_rests (by simp [advance, onEnter, handleEntry, applyResult, nextState])

@[simp] theorem transitionToState_outcome :
    transitionToState env ctx .uploadProcessDeviceOutcome =
      ctx.setState .uploadProcessDeviceOutcome :=
  transitionToState_of_rests (by simp [advance, onEnter, handleEntry, applyResult, nextState])

@[simp] theorem transitionToState_activating :
    transitionToState env ctx .activating = ctx.setState .activating :=
  transitionToState_of_rests (by simp [advance, onEnter, handleEntry, applyResult, nextState])

theorem transitionToState_waitingForActivation :
    transitionToState env ctx .waitingForActivation =
      (OtaStepWaitingForActivation.onEnter (ctx.setState .waitingForActivation)).2 := by
  refine transitionToState_of_rests ?_
  simp only [advance, onEnter, OtaStepWaitingForActivation.onEnter]
  split <;> simp [handleEntry, applyResult, nextState]

theorem transitionToState_recordAbort :
    transitionToState env ctx .uploadRecordPendingTransferAbort =
      clearSession env .transferDone
        ((OtaStepRecordPendingTransferAbort.onEnter
          (ctx.setState .uploadRecordPendingTransferAbort)).2.setState .transferDone) := by
  have leads : advance env .uploadRecordPendingTransferAbort ctx =
      ((OtaStepRecordPendingTransferAbort.onEnter
        (ctx.setState .uploadRecordPendingTransferAbort)).2, some .transferDone) := by
    simp [advance, onEnter, OtaStepRecordPendingTransferAbort.onEnter, applyResult, nextState,
      transitionTable]
  rw [transitionToState_of_leads leads]
  simp

theorem transitionToState_publishProgress :
    transitionToState env ctx .uploadPublishTransferProgress =
      (OtaStepPublishTransferProgress.onEnter
        (ctx.setState .uploadPublishTransferProgress)).2.setState
          .uploadDeliverFirmwareChunks := by
  have leads : advance env .uploadPublishTransferProgress ctx =
      ((OtaStepPublishTransferProgress.onEnter
        (ctx.setState .uploadPublishTransferProgress)).2,
        some .uploadDeliverFirmwareChunks) := by
    simp only [advance, onEnter, OtaStepPublishTransferProgress.onEnter]
    split <;> simp [applyResult, nextState, transitionTable]
  rw [transitionToState_of_leads leads]
  simp

/-- A session whose transfer begins. -/
def preparedSession (image : List UInt8) (session : OtaSession) : OtaSession :=
  { session with
    currentState := .uploadDeliverFirmwareChunks
    uploadInProgress := true
    resolutionPaused := true
    transfer := { session.transfer with
      imageSize := UInt32.ofNat image.length
      bytesTransferred := 0
      abortRequested := false }
    firmwareImageCache := image }

theorem transitionToState_prepare_of_stored
    (stored : env.getImage ctx.session.upload.imageName ≠ []) :
    transitionToState env ctx .uploadPrepareTransfer =
      { session :=
          preparedSession (env.getImage ctx.session.upload.imageName)
            ctx.session
        outputs := ctx.outputs ++ [.pauseNodeResolution ctx.session.nodeId ctx.session.endpointNode]
        threw := ctx.threw } := by
  have leads : advance env .uploadPrepareTransfer ctx =
      ((OtaStepUploadPrepare.onEnter env (ctx.setState .uploadPrepareTransfer)).2,
        some .uploadDeliverFirmwareChunks) := by
    simp [advance, onEnter, OtaStepUploadPrepare.onEnter, stored, applyResult, nextState,
      OtaStepUploadPrepare.pauseResolution, transitionTable]
  rw [transitionToState_of_leads leads]
  simp [OtaStepUploadPrepare.onEnter, stored, OtaStepUploadPrepare.pauseResolution,
    Context.setState, Context.emit, preparedSession]

theorem transitionToState_prepare_of_missing
    (missing : env.getImage ctx.session.upload.imageName = []) :
    transitionToState env ctx .uploadPrepareTransfer =
      clearSession env .failed
        ((OtaStepUploadPrepare.onEnter env
          (ctx.setState .uploadPrepareTransfer)).2.setState .failed) := by
  have leads : advance env .uploadPrepareTransfer ctx =
      ((OtaStepUploadPrepare.onEnter env (ctx.setState .uploadPrepareTransfer)).2,
        some .failed) := by
    simp [advance, onEnter, OtaStepUploadPrepare.onEnter, missing, applyResult, nextState]
  rw [transitionToState_of_leads leads]
  simp

theorem transitionToState_triggerInterview :
    transitionToState env ctx .triggerInterview =
      clearSession env .transferDone
        (((ctx.setState .triggerInterview).emit
          (.nodeInterviewRequested ctx.session.nodeId)).setState .transferDone) := by
  have leads : advance env .triggerInterview ctx =
      ((ctx.setState .triggerInterview).emit
        (.nodeInterviewRequested ctx.session.nodeId), some .transferDone) := by
    simp [advance, onEnter, OtaStepTriggerInterview.onEnter, applyResult, nextState,
      transitionTable]
  rw [transitionToState_of_leads leads]
  simp

theorem transitionToState_waitingForReconnect :
    transitionToState env ctx .waitingForReconnect =
      if (List.range maxNopRetries).any env.acknowledgesNop then
        transitionToState env (ctx.setState .waitingForReconnect) .triggerInterview
      else
        clearSession env .failed
          ((ctx.setState .waitingForReconnect).setState .failed) := by
  by_cases reached : (List.range maxNopRetries).any env.acknowledgesNop
  · rw [if_pos reached]
    refine transitionToState_of_leads ?_
    simp [advance, onEnter, OtaStepWaitingForReconnect.onEnter, reached, applyResult, nextState,
      transitionTable]
  · have leads : advance env .waitingForReconnect ctx =
        (ctx.setState .waitingForReconnect, some .failed) := by
      simp [advance, onEnter, OtaStepWaitingForReconnect.onEnter, reached, applyResult, nextState]
    rw [if_neg reached, transitionToState_of_leads leads]
    simp

@[simp] theorem routeResult_stay : OtaStateMachine.routeResult env (some .stay, ctx) = ctx := by
  simp [OtaStateMachine.routeResult, applyTransition, applyResult, nextState]

@[simp] theorem routeResult_fail :
    OtaStateMachine.routeResult env (some .fail, ctx) =
      clearSession env .failed (ctx.setState .failed) := by
  simp [OtaStateMachine.routeResult, applyTransition, applyResult, nextState]

end Ota
