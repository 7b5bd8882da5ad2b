import Zpc.TransportService.Sender

/-!
# The receiving side of the Transport Service

The functions of `transport_service.c` that put a datagram together from the
fragments of another node, and the dispatch of received frames to both sides.
The answers of the lower layer are arguments: `accepted` is its first one and
`retried` the one to the second attempt at a Segment Request.  The calls of
`zwave_tx_set_expected_frames` leave no trace here.
-/

namespace TransportService

/-- Whether the bit of a byte is set in the bit array. -/
def isByteReceived (bitmask : List Nat) (offset : Nat) : Bool :=
  (bitmask.getD (offset / 8) 0).testBit (offset % 8)

/-- Set the bit of a byte. -/
def setByteReceived (bitmask : List Nat) (offset : Nat) : List Nat :=
  bitmask.modify (offset / 8) fun byte => byte ||| 1 <<< (offset % 8)

/-- The loop of `mark_frag_received`.  It stops behind the end of the buffer. -/
def markBytes : Nat -> Nat -> List Nat -> List Nat
  | _, 0, bitmask => bitmask
  | offset, size + 1, bitmask =>
      let bitmask := setByteReceived bitmask offset
      if payloadSizeMax < offset then bitmask else markBytes (offset + 1) size bitmask

/-- Copy bytes into a buffer. -/
def copyBytes (buffer : List UInt8) (offset : Nat) (bytes : List UInt8) : List UInt8 :=
  buffer.take offset ++ bytes ++ buffer.drop (offset + bytes.length)

namespace Service

/-- The first byte that is not marked, the byte at zero left aside. -/
def firstUnmarked (bitmask : List Nat) : Option Nat :=
  (List.range (8 * bitmask.length)).find? fun offset =>
    offset != 0 && !isByteReceived bitmask offset

variable (service : Service)

/-- `get_next_missing_offset`: zero when nothing of the datagram is missing. -/
def getNextMissingOffset : Nat :=
  match firstUnmarked service.rcb.bytesRecvdBitmask with
  | some offset => if service.rcb.datagramSize ≤ offset then 0 else offset
  | none => 0

/-- The receiving session is forgotten. -/
def discardAllReceivedFragments : Service :=
  { service with
    rcb :=
      { service.rcb with
        datagramData := List.replicate payloadSizeMax 0
        cmn := ⟨0, 0, noSessionId, 0⟩
        currentSnode := 0
        bytesRecvdBitmask := List.replicate 26 0 } }

def resetTransportService : Service :=
  let service :=
    { service with
      currentState := .idle
      scb := { service.scb with resetTimer := none } }
  let service := service.discardAllReceivedFragments
  { service with scb := { service.scb with sending := false } }

/-- Ask for a Segment Wait: a sending session sends it instead of its next
fragment. -/
def requestFragWait (accepted : Bool) : Service :=
  if service.scb.sending then
    { service with scb := { service.scb with flagSendFragWait := true } }
  else service.sendFragWaitCmd accepted

/-- `mark_frag_received`; the first component tells that the First Fragment is
missing. -/
def markFragReceived (offset size : Nat) (accepted : Bool) : Bool × Service :=
  if offset ≠ 0 ∧ isByteReceived service.rcb.bytesRecvdBitmask 0 = false then
    (true, (service.postEvent .subseqDiffSession).requestFragWait accepted)
  else
    (false,
      { service with
        rcb :=
          { service.rcb with
            bytesRecvdBitmask := markBytes offset size service.rcb.bytesRecvdBitmask } })

/-- `upper_layer_command_handler` is called with the assembled datagram. -/
def deliver : Service :=
  { service with
    delivered := service.delivered ++
      [{ source := service.rcb.cmn.source
         dest := service.rcb.cmn.dest
         datagram := service.rcb.datagramData.take service.rcb.datagramSize
         copied := service.copied }] }

/-- A command of the receiving side towards the sender of the datagram. -/
def answer (payload : List UInt8) (expectedResponses : Nat) : LowerLayerFrame where
  source := service.rcb.cmn.dest
  dest := service.rcb.cmn.source
  payload := payload
  expectedResponses := expectedResponses
  callback := .none

/-- The datagram is acknowledged and delivered. -/
def sendFragCompleteCmd (accepted : Bool) : Service :=
  let sessionId := service.rcb.cmn.sessionId
  if 0x0f < sessionId then service
  else
    let service := service.armResetTimer
    let service :=
      service.lowerLayerSendData accepted
        (service.answer
          [UInt8.ofNat commandClassTransportServiceV2,
            UInt8.ofNat (commandSegmentCompleteV2 &&& 0xf8),
            UInt8.ofNat ((sessionId &&& 0x0f) <<< 4)] 0)
    let service := service.deliver
    let service :=
      { service with
        rcb :=
          { service.rcb with
            recvFragComplList := service.rcb.recvFragComplList.set sessionId 1
            cmn := { service.rcb.cmn with sessionId := noSessionId }
            currentSnode := 0
            rxTimer := none } }
    service.postEvent .success

/-- `rx_timer_expired` when it is called because a Segment Request could not be
sent: the requested byte is still missing. -/
def giveUpRequest : Service :=
  let service := { service with rcb := { service.rcb with rxTimer := none } }
  (service.postEvent .fragRxTimer).discardAllReceivedFragments

/-- The next missing fragment is requested. -/
def sendFragReqCmd (accepted retried : Bool) : Service :=
  let offset := service.getNextMissingOffset
  let sessionId := service.rcb.cmn.sessionId
  let service := { service with offsetToRequest := offset }
  if offset = 0 then service.postEvent .success
  else if 0x0f < sessionId then service
  else
    let request :=
      [UInt8.ofNat commandClassTransportServiceV2,
        UInt8.ofNat (commandSegmentRequestV2 &&& 0xf8),
        UInt8.ofNat (((sessionId &&& 0x0f) <<< 4) ||| ((offset &&& 0x700) >>> 8)),
        UInt8.ofNat (offset &&& 0xff)]
    let service :=
      { service with
        txBuf := request ++ service.txBuf.drop request.length
        rcb := { service.rcb with afterRequest := true } }
    let service := service.lowerLayerSendData accepted (service.answer request 1)
    let service :=
      if accepted then service
      else
        let service := service.lowerLayerSendData retried (service.answer request 1)
        if retried then service else service.giveUpRequest
    let service := service.postEvent .success
    { service with rcb := { service.rcb with rxTimer := some fragmentRxTimeout } }

/-- A datagram is complete, or a fragment is requested. -/
def findMissing (accepted retried : Bool) : Service :=
  if service.getNextMissingOffset ≠ 0 then
    if service.rcb.rxType = .broadcast then service.discardAllReceivedFragments
    else (service.postEvent .missingFrag).sendFragReqCmd accepted retried
  else if service.rcb.rxType = .broadcast then service
  else (service.postEvent .sendFragComplete).sendFragCompleteCmd accepted

/-- `rx_timer_expired` when the timer calls it. -/
def rxTimerExpired (accepted retried : Bool) : Service :=
  let service := { service with rcb := { service.rcb with rxTimer := none } }
  let service := service.postEvent .fragRxTimer
  if service.rcb.afterRequest = true ∧ service.getNextMissingOffset ≠ 0 then
    service.discardAllReceivedFragments
  else service.findMissing accepted retried

/-- A byte of a frame. -/
def byteAt (frame : List UInt8) (index : Nat) : Nat := (frame.getD index 0).toNat

/-- The four most significant bits of a byte. -/
def sessionIdOf (byte : Nat) : Nat := (byte &&& 0xf0) >>> 4

/-- The eleven bits of a size or of an offset in a byte and the next one. -/
def elevenBits (high low : Nat) : Nat := ((high &&& 0x07) <<< 8) + low

/-- A fragment of a tie that was broken ends the own transmission. -/
def abortIfTieBroken : Service :=
  if service.flagTieBroken then
    { service with
      scb := { service.scb with transmissionAborted := service.scb.cmn.sessionId } }
  else service

/-- The received session is not the one being assembled. -/
def isOtherSession (received : Nat) : Prop :=
  received ≠ service.rcb.cmn.sessionId ∧ service.rcb.cmn.sessionId ≠ noSessionId

instance (service : Service) (received : Nat) : Decidable (service.isOtherSession received) :=
  inferInstanceAs (Decidable (_ ∧ _))

/-- The control block at a First Fragment: the session begins and the bytes of
the fragment are copied. -/
def beginReception (sessionId datagramSize : Nat) (payload : List UInt8) : Service :=
  { service with
    copied := List.range payload.length
    rcb :=
      { service.rcb with
        cmn := { service.rcb.cmn with sessionId := sessionId }
        recvFragComplList := service.rcb.recvFragComplList.set sessionId 0
        curRecvdDataSize := payload.length
        datagramSize := datagramSize
        bytesRecvdBitmask := List.replicate 26 0
        currentSnode := service.rcb.cmn.source % 2 ^ 8
        datagramData := copyBytes service.rcb.datagramData 0 payload } }

/-- `receive` for `COMMAND_FIRST_FRAGMENT`.  A session id of four bits is always
one of the sixteen entries of `recv_frag_compl_list`. -/
def receiveFirstFragment (frame : List UInt8) (fragmentLen : Nat) (accepted : Bool) : Service :=
  let service := service.abortIfTieBroken
  if fragmentLen ≤ 6 then service.postEvent .recvNewFrag
  else if zwaveCrc16 0x1D0F (frame.take fragmentLen) ≠ 0 then service.postEvent .recvNewFrag
  else
    let received := sessionIdOf (byteAt frame 3)
    let size := elevenBits (byteAt frame 1) (byteAt frame 2)
    if service.isOtherSession received then service.postEvent .diffSession
    else if payloadSizeMax < size then service.postEvent .diffSession
    else
      let service := { service with rcb := { service.rcb with rxTimer := some fragmentRxTimeout } }
      let payload := (frame.drop 4).take (fragmentLen - 6)
      let service := service.beginReception received size payload
      let marked := service.markFragReceived 0 (fragmentLen - 6) accepted
      let service := marked.2
      if marked.1 then service
      else if service.rcb.curRecvdDataSize = service.rcb.datagramSize then
        (service.postEvent .sendFragComplete).sendFragCompleteCmd accepted
      else { service with rcb := { service.rcb with afterRequest := false } }

/-- Back to idle when a frame is dropped while receiving. -/
def dropWhileReceiving : Service :=
  if service.currentState = .receiving then service.postEvent .duplFrame else service

/-- The bytes of a Subsequent Fragment are copied into the datagram. -/
def copyFragment (offset : Nat) (payload : List UInt8) : Service :=
  { service with
    copied := service.copied ++ List.range' offset payload.length
    rcb :=
      { service.rcb with
        datagramData := copyBytes service.rcb.datagramData offset payload } }

/-- `receive` for `COMMAND_SUBSEQUENT_FRAGMENT`. -/
def receiveSubsequentFragment (frame : List UInt8) (fragmentLen : Nat) (accepted retried : Bool) :
    Service :=
  let service := service.abortIfTieBroken
  if fragmentLen ≤ 7 then service.postEvent .recvNewFrag
  else if zwaveCrc16 0x1D0F (frame.take fragmentLen) ≠ 0 then service.postEvent .recvNewFrag
  else
    let received := sessionIdOf (byteAt frame 3)
    if service.rcb.recvFragComplList.getD received 0 = 1 then service.dropWhileReceiving
    else if service.isOtherSession received then service.postEvent .diffSession
    else
      let offset := elevenBits (byteAt frame 3) (byteAt frame 4)
      let length := fragmentLen - 7
      let size := elevenBits (byteAt frame 1) (byteAt frame 2)
      let service := { service with rcb := { service.rcb with curRecvdDataSize := length } }
      if payloadSizeMax < offset ∨ payloadSizeMax < length ∨
          payloadSizeMax < offset + length then service.dropWhileReceiving
      else if payloadSizeMax < size then service.postEvent .diffSession
      else
        let service :=
          { service with rcb := { service.rcb with rxTimer := some fragmentRxTimeout } }
        let marked := service.markFragReceived offset length accepted
        let service := marked.2
        if marked.1 then service
        else
          let service := { service with rcb := { service.rcb with datagramSize := size } }
          -- The bytes are marked already when they are left out here.
          if offset < payloadSizeMax ∧ offset + length < payloadSizeMax then
            let service := service.copyFragment offset ((frame.drop 5).take length)
            if size ≤ offset + length then
              (service.postEvent .recvLastFrag).findMissing accepted retried
            else { service with rcb := { service.rcb with afterRequest := false } }
          else service

/-- The answer of a receiver belongs to another session of ours, or comes from
another node than the one we send to. -/
def foreignAnswer (received : Nat) : Option Event :=
  if received = service.scb.transmissionAborted then some .fragReqComplWaitDiffSession
  else if received ≠ service.scb.cmn.sessionId then some .fragReqComplWaitDiffSession
  else if service.rcb.cmn.source ≠ service.scb.currentDnode ∧ service.rcb.currentSnode ≠ 0
    then some .fragReqComplWaitDiffNode
  else none

/-- The timer that waits for the completion of a datagram is stopped. -/
def stopFcTimer : Service :=
  { service with rcb := { service.rcb with fcTimer := none } }

/-- `receive` for `COMMAND_SEGMENT_REQUEST_V2`. -/
def receiveSegmentRequest (frame : List UInt8) (accepted : Bool) : Service :=
  let service := service.postEvent .fragReqOrCompl
  match service.foreignAnswer (sessionIdOf (byteAt frame 2)) with
  | some event => service.postEvent event
  | none =>
      let service := service.stopFcTimer
      let service :=
        { service with
          scb :=
            { service.scb with
              missingOffset := ((byteAt frame 2 &&& 0x7) <<< 8) ||| byteAt frame 3 } }
      let service := service.postEvent .recvFragReq
      if service.scb.sending then
        { service with scb := { service.scb with flagReplyFragReq := true } }
      else service.replyFragReq accepted

/-- `receive` for `COMMAND_SEGMENT_COMPLETE_V2`. -/
def receiveSegmentComplete (frame : List UInt8) : Service :=
  let received := sessionIdOf (byteAt frame 2)
  let service := service.postEvent .fragReqOrCompl
  match service.foreignAnswer received with
  | some event => service.postEvent event
  | none =>
      let service := service.stopFcTimer
      let service :=
        { service with
          scb :=
            { service.scb with
              fragComplList := service.scb.fragComplList.set received 1
              currentDnode := 0 } }
      (service.reportCompletion 0).postEvent .recvFragCompl

/-- `receive` for `COMMAND_SEGMENT_WAIT_V2`: the transmission is aborted and its
restart is delayed. -/
def receiveSegmentWait (frame : List UInt8) (now : Nat) (accepted : Bool) : Service :=
  if service.scb.fragComplList.getD service.scb.cmn.sessionId 0 = 1 then
    service.postEvent .duplFrame
  else
    let service := service.postEvent .recvFragWait
    let service :=
      { service with
        scb := { service.scb with transmissionAborted := service.scb.cmn.sessionId } }
    let service := service.transportServiceSenddataCb now accepted
    { service with
      rcb :=
        { service.rcb with
          cmn := { service.rcb.cmn with pendingSegments := byteAt frame 2 } }
      scb := { service.scb with waitRestartTimer := some (100 + 100 * byteAt frame 2) } }

/-- `receive`.  It always returns `false`. -/
def receive (frame : List UInt8) (fragmentLen now : Nat) (accepted retried : Bool) : Service :=
  let command := byteAt frame 1 &&& 0xf8
  if byteAt frame 0 ≠ commandClassTransportServiceV2 then service
  else if command = commandFirstFragment then
    service.receiveFirstFragment frame fragmentLen accepted
  else if command = commandSubsequentFragment then
    service.receiveSubsequentFragment frame fragmentLen accepted retried
  else if command = commandSegmentRequestV2 then
    service.receiveSegmentRequest frame accepted
  else if command = commandSegmentCompleteV2 then service.receiveSegmentComplete frame
  else if command = commandSegmentWaitV2 then service.receiveSegmentWait frame now accepted
  else service

/-- The tie break: a sender with a lower node id than the originator of the
received frame receives instead. -/
def breakTie (source : Nat) (frame : List UInt8) : Service :=
  if service.currentState.isSending ∧ service.scb.cmn.dest = source ∧ service.myNodeId < source then
    let service := service.postEvent .tieBreak
    let service :=
      if byteAt frame 1 ≠ commandSegmentCompleteV2 then service.reportCompletion 1
      else service
    { service with flagTieBroken := true }
  else service

/-- The frame comes from a third node. -/
def isThirdNode (source : Nat) : Prop :=
  (source ≠ service.rcb.currentSnode ∧ service.rcb.currentSnode ≠ 0) ∨
    (source ≠ service.scb.currentDnode ∧ service.scb.currentDnode ≠ 0)

instance (service : Service) (source : Nat) : Decidable (service.isThirdNode source) :=
  inferInstanceAs (Decidable (_ ∨ _))

/-- What the state machine is told about a frame that is going to be
processed. -/
def noticeFrame : Service :=
  match service.currentState with
  | .idle => service.postEvent .startRecv
  | .receiving => service.postEvent .recvNewFrag
  | _ => service

/-- The receiving control block is initialized once. -/
def initializeOnce : Service :=
  if service.flagInitializeOnce then
    { service with
      flagInitializeOnce := false
      rcb :=
        { service.rcb with
          cmn := ⟨0, 0, noSessionId, 0⟩
          curRecvdDataSize := 0
          currentSnode := 0
          datagramData := List.replicate payloadSizeMax 0
          bytesRecvdBitmask := List.replicate 26 0 } }
  else service

/-- What is left to do with a frame of a known node. -/
def processFrame (source dest : Nat) (rxType : ReceiveType) (frame : List UInt8)
    (frameLength now : Nat) (accepted retried : Bool) : Service :=
  let service := service.noticeFrame.initializeOnce
  receive
    { service with
      rcb :=
        { service.rcb with
          cmn := { service.rcb.cmn with source := source, dest := dest }
          rxType := rxType } }
    frame frameLength now accepted retried

/-- `transport_service_command_handler`, with what it returns. -/
def transportServiceCommandHandler (source dest : Nat) (rxType : ReceiveType) (frame : List UInt8)
    (frameLength now : Nat) (accepted retried : Bool) : Bool × Service :=
  let service := service.armResetTimer.breakTie source frame
  if source = dest then (true, service)
  else if payloadSizeMax < frameLength then (true, service)
  else
    let service :=
      { service with
        scb := { service.scb with fragWaitSource := dest, fragWaitDest := source } }
    if service.isThirdNode source ∧ rxType = .singlecast then
      if service.currentState = .sendFragWait then (false, service)
      else (false, (service.postEvent .scastDiffNode).requestFragWait accepted)
    else if service.isThirdNode source ∧ rxType = .broadcast then
      (true, service.postEvent .bcastDiffNode)
    else if service.rcb.cmn.sessionId = noSessionId ∧
        byteAt frame 1 &&& 0xf8 = commandSubsequentFragment then
      if payloadSizeMax < elevenBits (byteAt frame 1) (byteAt frame 2) then
        (true, service.postEvent .diffSession)
      else (true, (service.postEvent .subseqDiffSession).requestFragWait accepted)
    else
      (false, service.processFrame source dest rxType frame frameLength now accepted retried)

end Service

end TransportService
