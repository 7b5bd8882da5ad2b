import Zpc.TransportService.Wrapper

/-!
# Calls inside the Transport Service

A reply to a Segment Request and a Segment Wait are built by functions that several paths of
the service end in.  Here every path is followed up to such a call, with the service it is
made on.
-/

namespace TransportService

/-- A call of `reply_frag_req` or of `send_frag_wait_cmd`. -/
inductive InternalCall
  | replyFragReq (service : Service)
  | sendFragWaitCmd (service : Service)

namespace Service

variable (service : Service)

/-- The calls of `transport_service_senddata_cb`. -/
def senddataCbCalls (now : Nat) : List InternalCall :=
  let delay :=
    if service.scb.roundTripFirstFrag = 0 then 0
    else now - service.scb.roundTripFirstFrag + 50
  let service := { service with scb := { service.scb with roundTripFirstFrag := delay } }
  if service.scb.flagReplyFragReq then
    let service := service.postEvent .sendNxtMissFrag
    [.replyFragReq { service with scb := { service.scb with flagReplyFragReq := false } }]
  else if service.scb.flagSendFragWait then
    [.sendFragWaitCmd { service with scb := { service.scb with flagSendFragWait := false } }]
  else []

/-- A Segment Wait is sent at once unless a session is being sent. -/
def requestFragWaitCalls : List InternalCall :=
  if service.scb.sending then [] else [.sendFragWaitCmd service]

/-- The calls of `mark_frag_received`. -/
def markFragReceivedCalls (offset : Nat) : List InternalCall :=
  if offset ≠ 0 ∧ isByteReceived service.rcb.bytesRecvdBitmask 0 = false then
    (service.postEvent .subseqDiffSession).requestFragWaitCalls
  else []

/-- The calls of `receive` for `COMMAND_SUBSEQUENT_FRAGMENT`. -/
def receiveSubsequentFragmentCalls (frame : List UInt8) (fragmentLen : Nat) : List InternalCall :=
  let service := service.abortIfTieBroken
  if fragmentLen ≤ 7 then []
  else if zwaveCrc16 0x1D0F (frame.take fragmentLen) ≠ 0 then []
  else
    let received := sessionIdOf (byteAt frame 3)
    if service.rcb.recvFragComplList.getD received 0 = 1 then []
    else if service.isOtherSession received then []
    else
      let offset := elevenBits (byteAt frame 3) (byteAt frame 4)
      let length := fragmentLen - 7
      if payloadSizeMax < offset ∨ payloadSizeMax < length ∨
          payloadSizeMax < offset + length then []
      else if payloadSizeMax < elevenBits (byteAt frame 1) (byteAt frame 2) then []
      else
        markFragReceivedCalls
          { service with
            rcb :=
              { service.rcb with
                curRecvdDataSize := length
                rxTimer := some fragmentRxTimeout } }
          offset

/-- The calls of `receive` for `COMMAND_SEGMENT_REQUEST_V2`. -/
def receiveSegmentRequestCalls (frame : List UInt8) : List InternalCall :=
  let service := service.postEvent .fragReqOrCompl
  match service.foreignAnswer (sessionIdOf (byteAt frame 2)) with
  | some _ => []
  | none =>
      let service := service.stopFcTimer
      let service :=
        { service with
          scb :=
            { service.scb with
              missingOffset := ((byteAt frame 2 &&& 0x7) <<< 8) ||| byteAt frame 3 } }
      let service := service.postEvent .recvFragReq
      if service.scb.sending then [] else [.replyFragReq service]

/-- The calls of `receive` for `COMMAND_SEGMENT_WAIT_V2`. -/
def receiveSegmentWaitCalls (now : Nat) : List InternalCall :=
  if service.scb.fragComplList.getD service.scb.cmn.sessionId 0 = 1 then []
  else
    let service := service.postEvent .recvFragWait
    senddataCbCalls
      { service with
        scb := { service.scb with transmissionAborted := service.scb.cmn.sessionId } }
      now

/-- The calls of `receive`.  A First Fragment marks the offset zero, which makes no call. -/
def receiveCalls (frame : List UInt8) (fragmentLen now : Nat) : List InternalCall :=
  let command := byteAt frame 1 &&& 0xf8
  if byteAt frame 0 ≠ commandClassTransportServiceV2 then []
  else if command = commandFirstFragment then []
  else if command = commandSubsequentFragment then
    service.receiveSubsequentFragmentCalls frame fragmentLen
  else if command = commandSegmentRequestV2 then service.receiveSegmentRequestCalls frame
  else if command = commandSegmentCompleteV2 then []
  else if command = commandSegmentWaitV2 then service.receiveSegmentWaitCalls now
  else []

/-- The service in which a frame is received. -/
def receiving (source dest : Nat) (rxType : ReceiveType) : Service :=
  let service := service.noticeFrame.initializeOnce
  { service with
    rcb :=
      { service.rcb with
        cmn := { service.rcb.cmn with source := source, dest := dest }
        rxType := rxType } }

/-- The calls of `transport_service_command_handler`. -/
def commandHandlerCalls (source dest : Nat) (rxType : ReceiveType) (frame : List UInt8)
    (frameLength now : Nat) : List InternalCall :=
  let service := service.armResetTimer.breakTie source frame
  if source = dest then []
  else if payloadSizeMax < frameLength then []
  else
    let service :=
      { service with
        scb := { service.scb with fragWaitSource := dest, fragWaitDest := source } }
    if service.isThirdNode source ∧ rxType = .singlecast then
      if service.currentState = .sendFragWait then []
      else (service.postEvent .scastDiffNode).requestFragWaitCalls
    else if service.isThirdNode source ∧ rxType = .broadcast then []
    else if service.rcb.cmn.sessionId = noSessionId ∧
        byteAt frame 1 &&& 0xf8 = commandSubsequentFragment then
      if payloadSizeMax < elevenBits (byteAt frame 1) (byteAt frame 2) then []
      else (service.postEvent .subseqDiffSession).requestFragWaitCalls
    else (service.receiving source dest rxType).receiveCalls frame frameLength now

end Service

namespace Wrapper

/-- The calls of `zwave_transport_service_on_frame_received`. -/
def frameReceivedCalls (wrapper : Wrapper) (source dest : Nat) (rxType : ReceiveType)
    (frame : List UInt8) (now : Nat) : List InternalCall :=
  if Service.byteAt frame 0 ≠ commandClassTransportServiceV2 then []
  else if isKnownCommand (Service.byteAt frame 1 &&& 0xf8) = false then []
  else
    wrapper.service.commandHandlerCalls source dest rxType frame (frame.length % 2 ^ 8) now

/-- The calls of a step. -/
def internalCalls (wrapper : Wrapper) : Action -> List InternalCall
  | .lowerLayerCompletion _ now _ =>
      if wrapper.calledBack < wrapper.service.sent.length ∧
          wrapper.service.intercepted = .transportServiceSenddataCb then
        wrapper.service.senddataCbCalls now
      else []
  | .frameReceived source dest rxType frame now _ _ =>
      wrapper.frameReceivedCalls source dest rxType frame now
  | .sendData _ _ _ _ => []
  | .timerExpiration _ _ _ _ => []

end Wrapper

end TransportService
