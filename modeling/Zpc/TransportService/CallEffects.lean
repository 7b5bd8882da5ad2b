import Zpc.TransportService.InternalCalls

/-!
# What the inner calls leave

Every listed call is the last thing its step does to the frames sent and to the transmit
buffer.
-/

namespace TransportService

/-- The service after an inner call. -/
def InternalCall.perform (call : InternalCall) (accepted : Bool) : Service :=
  match call with
  | .replyFragReq service => service.replyFragReq accepted
  | .sendFragWaitCmd service => service.sendFragWaitCmd accepted

/-- The frames sent and the transmit buffer are what the call leaves. -/
structure InternalCall.Performed
    (call : InternalCall)
    (accepted : Bool)
    (after : Service) : Prop where
  sent : after.sent = (call.perform accepted).sent
  txBuf : after.txBuf = (call.perform accepted).txBuf
  datalenToSend : after.scb.datalenToSend = (call.perform accepted).scb.datalenToSend

theorem InternalCall.Performed.of_eq {call : InternalCall} {accepted : Bool} {after : Service}
    (same : after = call.perform accepted) : call.Performed accepted after :=
  ⟨by rw [same], by rw [same], by rw [same]⟩

namespace Service

variable {service : Service} {call : InternalCall} {frame : List UInt8} {fragmentLen now : Nat}

theorem requestFragWait_of_call (called : call ∈ service.requestFragWaitCalls) (accepted : Bool) :
    service.requestFragWait accepted = call.perform accepted := by
  unfold requestFragWaitCalls at called
  unfold requestFragWait
  split at called
  · simp at called
  next isIdle =>
    rw [if_neg isIdle, List.mem_singleton.mp called]
    rfl

theorem markFragReceived_of_call {offset : Nat}
    (called : call ∈ service.markFragReceivedCalls offset) (size : Nat) (accepted : Bool) :
    service.markFragReceived offset size accepted = (true, call.perform accepted) := by
  unfold markFragReceivedCalls at called
  unfold markFragReceived
  split at called
  next isUnopened => rw [if_pos isUnopened, requestFragWait_of_call called accepted]
  · simp at called

theorem receiveSubsequentFragment_of_call
    (called : call ∈ service.receiveSubsequentFragmentCalls frame fragmentLen)
    (accepted retried : Bool) :
    service.receiveSubsequentFragment frame fragmentLen accepted retried =
      call.perform accepted := by
  unfold receiveSubsequentFragmentCalls at called
  unfold receiveSubsequentFragment
  dsimp only at called ⊢
  split at called
  · simp at called
  next isLong =>
    split at called
    · simp at called
    next isSound =>
      split at called
      · simp at called
      next isNew =>
        split at called
        · simp at called
        next isExpected =>
          split at called
          · simp at called
          next isInside =>
            split at called
            · simp at called
            next isSmall =>
              rw [if_neg isLong, if_neg isSound, if_neg isNew, if_neg isExpected,
                if_neg isInside, if_neg isSmall,
                markFragReceived_of_call called (fragmentLen - 7) accepted]
              rfl

theorem transportServiceSenddataCb_of_call (called : call ∈ service.senddataCbCalls now)
    (accepted : Bool) :
    service.transportServiceSenddataCb now accepted = call.perform accepted := by
  unfold senddataCbCalls at called
  unfold transportServiceSenddataCb
  extract_lets at called ⊢
  split at called
  next missing =>
    rw [if_pos missing, List.mem_singleton.mp called]
    rfl
  next isNotMissing =>
    rw [if_neg isNotMissing]
    split at called
    next isWaiting =>
      rw [if_pos isWaiting, List.mem_singleton.mp called]
      rfl
    · simp at called

theorem receiveSegmentRequest_of_call (called : call ∈ service.receiveSegmentRequestCalls frame)
    (accepted : Bool) : service.receiveSegmentRequest frame accepted = call.perform accepted := by
  unfold receiveSegmentRequestCalls at called
  unfold receiveSegmentRequest
  dsimp only at called ⊢
  cases isOurs : (service.postEvent .fragReqOrCompl).foreignAnswer
      (sessionIdOf (byteAt frame 2)) with
  | some event =>
    rw [isOurs] at called
    cases called
  | none =>
    rw [isOurs] at called
    dsimp only at called ⊢
    split at called
    · cases called
    next isIdle =>
      rw [if_neg isIdle, List.mem_singleton.mp called]
      rfl

theorem receiveSegmentWait_of_call (called : call ∈ service.receiveSegmentWaitCalls now)
    (frame : List UInt8) (accepted : Bool) :
    call.Performed accepted (service.receiveSegmentWait frame now accepted) := by
  unfold receiveSegmentWaitCalls at called
  unfold receiveSegmentWait
  split at called
  · simp at called
  next isOpen =>
    rw [if_neg isOpen]
    have same := transportServiceSenddataCb_of_call called accepted
    exact ⟨congrArg (·.sent) same, congrArg (·.txBuf) same, congrArg (·.scb.datalenToSend) same⟩

theorem receive_of_call (called : call ∈ service.receiveCalls frame fragmentLen now)
    (accepted retried : Bool) :
    call.Performed accepted (service.receive frame fragmentLen now accepted retried) := by
  unfold receiveCalls at called
  unfold receive
  extract_lets at called ⊢
  split at called
  · simp at called
  next isOurs =>
    rw [if_neg isOurs]
    split at called
    · simp at called
    next isLater =>
      rw [if_neg isLater]
      split at called
      next isFragment =>
        rw [if_pos isFragment]
        exact .of_eq (receiveSubsequentFragment_of_call called accepted retried)
      next isAnswer =>
        rw [if_neg isAnswer]
        split at called
        next isRequest =>
          rw [if_pos isRequest]
          exact .of_eq (receiveSegmentRequest_of_call called accepted)
        next isOther =>
          rw [if_neg isOther]
          split at called
          · simp at called
          next isIncomplete =>
            rw [if_neg isIncomplete]
            split at called
            next isWait =>
              rw [if_pos isWait]
              exact receiveSegmentWait_of_call called frame accepted
            · simp at called

theorem transportServiceCommandHandler_of_call {source dest : Nat} {rxType : ReceiveType}
    {frameLength : Nat}
    (called : call ∈ service.commandHandlerCalls source dest rxType frame frameLength now)
    (accepted retried : Bool) :
    call.Performed accepted
      (service.transportServiceCommandHandler source dest rxType frame frameLength now accepted
        retried).2 := by
  unfold commandHandlerCalls at called
  unfold transportServiceCommandHandler
  extract_lets at called ⊢
  split at called
  · simp at called
  next notSelf =>
    rw [if_neg notSelf]
    split at called
    · simp at called
    next isShort =>
      rw [if_neg isShort]
      split at called
      next isSinglecast =>
        rw [if_pos isSinglecast]
        split at called
        · simp at called
        next isReady =>
          rw [if_neg isReady]
          exact .of_eq (requestFragWait_of_call called accepted)
      next notSinglecast =>
        rw [if_neg notSinglecast]
        split at called
        · simp at called
        next notBroadcast =>
          rw [if_neg notBroadcast]
          split at called
          next isUnopened =>
            rw [if_pos isUnopened]
            split at called
            · simp at called
            next isSmall =>
              rw [if_neg isSmall]
              exact .of_eq (requestFragWait_of_call called accepted)
          next isExpected =>
            rw [if_neg isExpected]
            exact receive_of_call called accepted retried

end Service

namespace Wrapper

/-- What the lower layer answers to the first frame of a step. -/
def Action.accepted : Action -> Bool
  | .sendData _ _ _ accepted => accepted
  | .lowerLayerCompletion _ _ accepted => accepted
  | .frameReceived _ _ _ _ _ accepted _ => accepted
  | .timerExpiration _ _ accepted _ => accepted

/-- A step performs every internal call it makes. -/
theorem step_of_call {wrapper : Wrapper} {action : Action} {call : InternalCall}
    (called : call ∈ wrapper.internalCalls action) :
    call.Performed action.accepted (wrapper.step action).service := by
  unfold internalCalls at called
  cases action with
  | sendData | timerExpiration => simp at called
  | lowerLayerCompletion status now accepted =>
    dsimp only at called
    split at called
    next isDue =>
      have same := Service.transportServiceSenddataCb_of_call called accepted
      have steps : (wrapper.step (.lowerLayerCompletion status now accepted)).service =
          wrapper.service.transportServiceSenddataCb now accepted := by
        simp only [step, if_pos isDue.1, onZwaveTxSendDataComplete, isDue.2, settle]
      exact .of_eq (steps.trans same)
    · simp at called
  | frameReceived source dest rxType frame now accepted retried =>
    unfold frameReceivedCalls at called
    unfold step zwaveTransportServiceOnFrameReceived
    dsimp only at called ⊢
    split at called
    · simp at called
    next isOurs =>
      rw [if_neg isOurs]
      split at called
      · simp at called
      next isKnown =>
        rw [if_neg isKnown]
        exact Service.transportServiceCommandHandler_of_call called accepted retried

end Wrapper

end TransportService
