import Zpc.TransportService.Definitions

/-!
# The sending side of the Transport Service

The functions of `transport_service.c` that cut a datagram into fragments and
hand them to the lower layer one by one.  Each of them asks the lower layer at
most once; whether it accepts the frame is the argument `accepted`.  The
counters are `uint16_t` or `uint8_t` and reduced where the code can exceed
them.
-/

namespace TransportService

namespace Service

variable (service : Service)

/-- `lower_layer_send_data`: the callback is kept in any case, and an accepted
frame is on its way. -/
def lowerLayerSendData (accepted : Bool) (frame : LowerLayerFrame) : Service :=
  let service := { service with intercepted := frame.callback }
  if accepted then { service with sent := service.sent ++ [frame] } else service

/-- Call the completion callback of the user, if there still is one. -/
def reportCompletion (status : Nat) : Service :=
  match service.onSendCompleteCb with
  | some callback =>
      { service with
        onSendCompleteCb := none
        completions := service.completions ++ [(callback, status)] }
  | none => service

/-- Arm the timer that takes the service back to idle. -/
def armResetTimer : Service :=
  { service with scb := { service.scb with resetTimer := some resetTime } }

/-- Number of fragments of the given length the remaining data needs. -/
def pendingSegments (remaining length : Nat) : Nat :=
  (remaining / length + if remaining % length = 0 then 0 else 1) % 2 ^ 8

/-- The transmit buffer with a First Fragment in it. -/
def firstFragment (datagramLen sessionId : Nat) (payload : List UInt8) : List UInt8 :=
  addCrc
    ([UInt8.ofNat commandClassTransportServiceV2,
        UInt8.ofNat (commandFirstFragment ||| ((datagramLen >>> 8) &&& 0x07)),
        UInt8.ofNat (datagramLen &&& 0xff),
        UInt8.ofNat (sessionId <<< 4)] ++ payload)

/-- The transmit buffer with a Subsequent Fragment in it. -/
def subsequentFragment (datagramLen sessionId offset : Nat) (payload : List UInt8) : List UInt8 :=
  addCrc
    ([UInt8.ofNat commandClassTransportServiceV2,
        UInt8.ofNat (commandSubsequentFragment ||| ((datagramLen >>> 8) &&& 0x07)),
        UInt8.ofNat (datagramLen &&& 0xff),
        UInt8.ofNat (((sessionId &&& 0x0F) <<< 4) ||| ((offset >>> 8) &&& 0x07)),
        UInt8.ofNat (offset &&& 0xff)] ++ payload)

/-- Bytes of the datagram from an offset on. -/
def datagramBytes (datagram : List UInt8) (offset length : Nat) : List UInt8 :=
  (datagram.drop offset).take length

/-- The fragment in the transmit buffer, cut to the length of a Subsequent
Fragment. -/
def subsequentFrame (expectedResponses : Nat) (callback : LowerLayerCallback) : LowerLayerFrame :=
  { source := service.scb.cmn.source
    dest := service.scb.cmn.dest
    payload := service.txBuf.take (service.scb.datalenToSend + 7)
    expectedResponses := expectedResponses
    callback := callback }

/-- The fragment in the transmit buffer, cut to the length of a First
Fragment. -/
def firstFrame (expectedResponses : Nat) (callback : LowerLayerCallback) : LowerLayerFrame :=
  { service.subsequentFrame expectedResponses callback with
    payload := service.txBuf.take (service.scb.datalenToSend + 6) }

/-- The last fragment expects an answer. -/
def sendLastFrag (accepted : Bool) : Service :=
  let service :=
    { service with
      rcb := { service.rcb with fcTimer := none }
      scb :=
        { service.scb with
          sending := false
          cmn := { service.scb.cmn with pendingSegments := 0 } } }
  let frame :=
    if service.scb.doesNotFitInFirstFrag then
      service.subsequentFrame 1 .tempCallbackLastFrag
    else service.firstFrame 1 .tempCallbackLastFrag
  let service := service.lowerLayerSendData accepted frame
  if accepted then service
  else if 0 < service.scb.flagFcTimerExpiredOnce then
    ((service.reportCompletion 1).postEvent .failureLastFrag2).armResetTimer
  else
    { service with
      scb :=
        { service.scb with
          flagFcTimerExpiredOnce := service.scb.flagFcTimerExpiredOnce + 1 } }

def tempCallbackLastFrag (status : Nat) (accepted : Bool) : Service :=
  if status ≠ 0 then
    if service.scb.flagFcTimerExpiredOnce = 0 then
      sendLastFrag
        { service with scb := { service.scb with flagFcTimerExpiredOnce := 1 } }
        accepted
    else ((service.reportCompletion 1).postEvent .failureLastFrag2).armResetTimer
  else
    postEvent
      { service with rcb := { service.rcb with fcTimer := some fragmentFcTimeout } }
      .success

def sendSubseqFrag (accepted : Bool) : Service :=
  let remaining :=
    if service.scb.remainingDataLen = 0 then service.scb.datagramLen
    else service.scb.remainingDataLen
  let service :=
    { service with
      rcb := { service.rcb with fcTimer := none }
      scb :=
        { service.scb with
          remainingDataLen := remaining
          datalenToSend :=
            if service.maxFragmentSize ≤ remaining then service.maxFragmentSize
            else remaining } }
  if service.scb.fragComplList.getD service.scb.cmn.sessionId 0 = 1 then service
  else
    let offset := service.scb.datagramLen - remaining
    let service :=
      { service with
        scb := { service.scb with offset := offset }
        txBuf :=
          subsequentFragment service.scb.datagramLen service.scb.cmn.sessionId offset
            (datagramBytes service.scb.datagram offset service.scb.datalenToSend) }
    if remaining ≤ service.maxFragmentSize then
      sendLastFrag
        (postEvent
          { service with scb := { service.scb with doesNotFitInFirstFrag := true } }
          .sendLastFrag)
        accepted
    else
      let service := service.armResetTimer
      let service :=
        { service with
          scb :=
            { service.scb with
              remainingDataLen := remaining - service.scb.datalenToSend } }
      let service :=
        service.lowerLayerSendData accepted
          (service.subsequentFrame 0 .transportServiceSenddataCb)
      let service :=
        if accepted then
          -- The data of this fragment was taken off already.
          let remaining :=
            if service.maxFragmentSize ≤ service.scb.remainingDataLen then
              service.scb.remainingDataLen - service.maxFragmentSize
            else service.scb.remainingDataLen
          { service with
            scb :=
              { service.scb with
                remainingDataLen := remaining
                cmn :=
                  { service.scb.cmn with
                    pendingSegments := pendingSegments remaining service.scb.datalenToSend } } }
        else service
      service.postEvent .sendNewFrag

/-- Another sender is asked to wait. -/
def sendFragWaitCmd (accepted : Bool) : Service :=
  let service := service.armResetTimer
  let waitFrame (pending : Nat) (callback : LowerLayerCallback) : LowerLayerFrame :=
    { source := service.scb.fragWaitSource
      dest := service.scb.fragWaitDest
      payload :=
        [UInt8.ofNat commandClassTransportServiceV2,
          UInt8.ofNat (commandSegmentWaitV2 &&& 0xf8), UInt8.ofNat pending]
      expectedResponses := 0
      callback := callback }
  if service.scb.sending then
    (service.lowerLayerSendData accepted
      (waitFrame service.scb.cmn.pendingSegments .transportServiceSenddataCb)).postEvent
      .success2
  else
    let pending :=
      if service.rcb.cmn.sessionId = noSessionId then 0
      else pendingSegments service.rcb.datagramSize service.rcb.curRecvdDataSize
    let service :=
      { service with
        rcb :=
          { service.rcb with
            cmn := { service.rcb.cmn with pendingSegments := pending } } }
    (service.lowerLayerSendData accepted (waitFrame pending .none)).postEvent .success

/-- The requested fragment is sent again. -/
def replyFragReq (accepted : Bool) : Service :=
  if service.scb.fragComplList.getD service.scb.cmn.sessionId 0 = 1 then service
  else
    let length :=
      if service.scb.datagramLen < service.scb.missingOffset + service.maxFragmentSize then
        (service.scb.datagramLen + 2 ^ 16 - service.scb.missingOffset) % 2 ^ 16
      else service.maxFragmentSize
    let service := { service with scb := { service.scb with datalenToSend := length } }
    let service :=
      { service with
        txBuf :=
          subsequentFragment service.scb.datagramLen service.scb.cmn.sessionId
            service.scb.missingOffset
            (datagramBytes service.scb.datagram service.scb.missingOffset length) }
    if service.scb.missingOffset + length = service.scb.datagramLen then
      let service :=
        postEvent
          { service with scb := { service.scb with doesNotFitInFirstFrag := true } }
          .sendLastMissFrag
      sendLastFrag
        { service with scb := { service.scb with flagRepliedFragReq := true } }
        accepted
    else
      let callback :=
        if service.scb.sending then .transportServiceSenddataCb
        else .tempCallbackReplyFragReq
      let service := service.lowerLayerSendData accepted (service.subsequentFrame 0 callback)
      { service with
        scb := { service.scb with flagRepliedFragReq := true }
        rcb := { service.rcb with fcTimer := some (fragmentFcTimeout + 500) } }

def transportServiceSenddataCb (now : Nat) (accepted : Bool) : Service :=
  let delay :=
    if service.scb.roundTripFirstFrag = 0 then 0
    else now - service.scb.roundTripFirstFrag + 50
  let service := { service with scb := { service.scb with roundTripFirstFrag := delay } }
  if service.scb.flagReplyFragReq then
    let service := service.postEvent .sendNxtMissFrag
    replyFragReq
      { service with scb := { service.scb with flagReplyFragReq := false } }
      accepted
  else if service.scb.flagSendFragWait then
    sendFragWaitCmd
      { service with scb := { service.scb with flagSendFragWait := false } }
      accepted
  else if service.scb.transmissionAborted = service.scb.cmn.sessionId then
    { service with
      scb := { service.scb with timerBtwn2Frags := none, roundTripFirstFrag := 0 } }
  else
    let service := service.postEvent .sendNewFrag
    { service with
      scb :=
        { service.scb with
          timerBtwn2Frags := some (15 + delay)
          roundTripFirstFrag := 0 } }

def tempCallbackReplyFragReq (status : Nat) : Service :=
  let service := if status ≠ 0 then service.reportCompletion status else service
  service.postEvent .sentMissFrag

/-- No Segment Complete came: the last fragment is sent once more, or the send fails. -/
def fcTimerExpired (accepted : Bool) : Service :=
  if service.scb.flagRepliedFragReq then
    let service :=
      { service with
        scb :=
          { service.scb with
            transmissionAborted := service.scb.cmn.sessionId
            flagRepliedFragReq := false
            currentDnode := 0 } }
    ((service.postEvent .fragComplTimerReq).reportCompletion 1).armResetTimer
  else if service.scb.transmissionAborted = service.scb.cmn.sessionId then
    service.reportCompletion 1
  else if 0 < service.scb.flagFcTimerExpiredOnce then
    let service :=
      { service with
        scb := { service.scb with flagFcTimerExpiredOnce := 0, currentDnode := 0 } }
    let service := (service.reportCompletion 1).postEvent .fragComplTimer2
    { service with rcb := { service.rcb with fcTimer := none } }
  else
    let service := service.postEvent .fragComplTimer
    sendLastFrag
      { service with
        scb :=
          { service.scb with
            flagFcTimerExpiredOnce := service.scb.flagFcTimerExpiredOnce + 1 } }
      accepted

/-- The session id after the current one. -/
def nextSessionId (sessionId : Nat) : Nat :=
  let next := if sessionId = 0 then 0 else (sessionId + 1) % 2 ^ 8
  if 0xf < next then 0 else next

/-- A datagram starts with the next session id. -/
def sendFirstFrag (now : Nat) (accepted : Bool) : Service :=
  let sessionId := nextSessionId service.scb.cmn.sessionId
  let fitsInOne := decide (service.scb.datagramLen ≤ service.maxFragmentSize)
  let remaining :=
    if fitsInOne then service.scb.datagramLen
    else service.scb.datagramLen - service.maxFragmentSize
  let length := if fitsInOne then service.scb.datagramLen else service.maxFragmentSize
  let service :=
    { service with
      scb :=
        { service.scb with
          fragComplList := service.scb.fragComplList.set sessionId 0
          remainingDataLen := remaining
          datalenToSend := length
          cmn :=
            { service.scb.cmn with
              sessionId := sessionId
              pendingSegments := pendingSegments remaining length } } }
  let service :=
    { service with
      txBuf :=
        firstFragment service.scb.datagramLen sessionId
          (datagramBytes service.scb.datagram 0 length) }
  if fitsInOne then
    sendLastFrag
      (postEvent
        { service with scb := { service.scb with doesNotFitInFirstFrag := false } }
        .sendLastFrag)
      accepted
  else
    let service := service.armResetTimer
    let service :=
      service.lowerLayerSendData accepted
        (service.firstFrame 0 .transportServiceSenddataCb)
    if accepted then
      { service with
        scb := { service.scb with roundTripFirstFrag := now, sending := true } }
    else service

end Service

/-- `transport_service_send_data_return_code_t`. -/
inductive SendDataReturnCode
  | sendSuccess
  | busy
  | willOverflow
  deriving DecidableEq

variable (service : Service)

/-- The fields `transport_service_send_data` sets whatever it answers: the
callback, the fragment size and, when the payload fits, the buffer of the
datagram, which keeps the bytes behind the new payload. -/
def Service.takeRequest (payload : List UInt8) (maxFrameLen : Nat) (onSendComplete : Option Nat) :
    Service :=
  let service :=
    { service with
      onSendCompleteCb := onSendComplete
      maxFragmentSize := (maxFrameLen + 2 ^ 16 - 7) % 2 ^ 16 }
  if payloadSizeMax < payload.length then service
  else
    Service.armResetTimer
      { service with
        scb :=
          { service.scb with
            datagram := payload ++ service.scb.datagram.drop payload.length } }

/-- The control block at the beginning of a session.  The current destination is
an eight-bit field for a sixteen-bit node id. -/
def Service.beginSession (source dest payloadLen : Nat) : Service :=
  { service with
    scb :=
      { service.scb with
        cmn := { service.scb.cmn with source := source, dest := dest }
        datagramLen := payloadLen
        sending := false
        flagRepliedFragReq := false
        transmissionAborted := nothingAborted
        flagSendFragWait := false
        flagReplyFragReq := false
        roundTripFirstFrag := 0
        flagFcTimerExpiredOnce := 0
        remainingDataLen := 0
        currentDnode := dest % 2 ^ 8 } }

/-- A datagram is taken while nothing is sent or received. -/
def Service.transportServiceSendData (source dest : Nat) (payload : List UInt8) (maxFrameLen : Nat)
    (onSendComplete : Option Nat) (now : Nat) (accepted : Bool) : SendDataReturnCode × Service :=
  let service := service.takeRequest payload maxFrameLen onSendComplete
  if payloadSizeMax < payload.length then (.willOverflow, service)
  else if service.currentState.isSending then (.busy, service)
  else if service.currentState.isReceiving then (.busy, service)
  else
    let service := service.beginSession source dest payload.length
    match service.currentState with
    | .idle => (.sendSuccess, (service.postEvent .startSend).sendFirstFrag now accepted)
    | .sendFrag => (.sendSuccess, (service.postEvent .sendNewFrag).sendFirstFrag now accepted)
    | _ => (.busy, service)

end TransportService
