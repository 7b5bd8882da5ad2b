import Mathlib.Algebra.Group.Nat.Defs

/-!
# Data of the Transport Service

The state machine, the control blocks and the frame constants of
`transport_service.c`, and the checksum that closes every fragment.
-/

namespace TransportService

def payloadSizeMax : Nat := 200

/-- `FRAGMENT_FC_TIMEOUT` in milliseconds. -/
def fragmentFcTimeout : Nat := 1000

/-- `FRAGMENT_RX_TIMEOUT` in milliseconds. -/
def fragmentRxTimeout : Nat := 800

/-- `RESET_TIME` in milliseconds. -/
def resetTime : Nat := 5000

def commandClassTransportServiceV2 : Nat := 0x55

def commandFirstFragment : Nat := 0xC0

def commandSubsequentFragment : Nat := 0xE0

def commandSegmentRequestV2 : Nat := 0xC8

def commandSegmentCompleteV2 : Nat := 0xE8

def commandSegmentWaitV2 : Nat := 0xF0

/-- A session id outside the four bits of the field: no session. -/
def noSessionId : Nat := 0x10

/-- The value of `transmission_aborted` that no session id equals. -/
def nothingAborted : Nat := 0x11

/-- `TRANSPORT2_ST_T`. -/
inductive State
  | idle
  | receiving
  | sendFragComplete
  | sendFragReq
  | sendFragWait
  | findMissFrag
  | sendFrag
  | sendLastFrag
  | waitAck
  deriving DecidableEq

/-- `TRANSPORT2_EV_T`. -/
inductive Event
  | startRecv
  | recvNewFrag
  | noSessionId
  | sendFragComplete
  | noSendFragComplete
  | success
  | success2
  | success3
  | fragRxTimer
  | missingFrag
  | missingFragBcast
  | scastDiffNode
  | bcastDiffNode
  | diffSession
  | subseqDiffSession
  | fragReqComplWaitDiffSession
  | fragReqComplWaitDiffNode
  | recvFragReq
  | recvLastFrag
  | recvFragComplete
  | tieBreak
  | duplFrame
  | fragReqOrCompl
  | startSend
  | sendNewFrag
  | sendNxtMissFrag
  | sentMissFrag
  | recvFragWait
  | sendLastFrag
  | sendLastMissFrag
  | fragComplTimer
  | fragComplTimer2
  | fragComplTimerReq
  | failureLastFrag2
  | recvFragCompl
  | replyFragReqDone
  | fail
  deriving DecidableEq

/-- `transition_t` without the name of the action, which nothing reads. -/
structure Transition where
  st : State
  ev : Event
  nextSt : State

/-- The table `trans`. -/
def trans : List Transition :=
  [⟨.idle, .startRecv, .receiving⟩,
    ⟨.idle, .startSend, .sendFrag⟩,
    ⟨.idle, .sendNewFrag, .sendFrag⟩,
    ⟨.sendFrag, .sendNewFrag, .sendFrag⟩,
    ⟨.receiving, .sendNewFrag, .sendFrag⟩,
    ⟨.waitAck, .sendNewFrag, .sendFrag⟩,
    ⟨.receiving, .recvNewFrag, .receiving⟩,
    ⟨.receiving, .duplFrame, .idle⟩,
    ⟨.receiving, .noSessionId, .sendFragWait⟩,
    ⟨.receiving, .scastDiffNode, .sendFragWait⟩,
    ⟨.sendFrag, .scastDiffNode, .sendFragWait⟩,
    ⟨.waitAck, .scastDiffNode, .sendFragWait⟩,
    ⟨.receiving, .diffSession, .idle⟩,
    ⟨.receiving, .subseqDiffSession, .sendFragWait⟩,
    ⟨.receiving, .fragReqComplWaitDiffNode, .idle⟩,
    ⟨.receiving, .fragReqComplWaitDiffSession, .idle⟩,
    ⟨.sendFragWait, .success, .receiving⟩,
    ⟨.sendFragWait, .success2, .sendFrag⟩,
    ⟨.sendFragWait, .success3, .waitAck⟩,
    ⟨.sendFragComplete, .success, .idle⟩,
    ⟨.sendFragReq, .success, .receiving⟩,
    ⟨.receiving, .fragRxTimer, .findMissFrag⟩,
    ⟨.idle, .fragRxTimer, .idle⟩,
    ⟨.receiving, .bcastDiffNode, .receiving⟩,
    ⟨.receiving, .recvLastFrag, .findMissFrag⟩,
    ⟨.waitAck, .sendFragComplete, .sendFragComplete⟩,
    ⟨.receiving, .recvFragCompl, .idle⟩,
    ⟨.waitAck, .fragReqOrCompl, .waitAck⟩,
    ⟨.waitAck, .fragRxTimer, .idle⟩,
    ⟨.receiving, .fragReqOrCompl, .receiving⟩,
    ⟨.sendFrag, .fragReqOrCompl, .receiving⟩,
    ⟨.findMissFrag, .missingFrag, .sendFragReq⟩,
    ⟨.findMissFrag, .missingFragBcast, .idle⟩,
    ⟨.findMissFrag, .sendFragComplete, .sendFragComplete⟩,
    ⟨.findMissFrag, .noSendFragComplete, .idle⟩,
    ⟨.sendFrag, .recvFragWait, .sendFrag⟩,
    ⟨.receiving, .recvFragWait, .sendFrag⟩,
    ⟨.sendFrag, .sendLastFrag, .sendLastFrag⟩,
    ⟨.sendFrag, .sendLastMissFrag, .sendLastFrag⟩,
    ⟨.sendLastFrag, .success, .waitAck⟩,
    ⟨.waitAck, .fragComplTimer, .sendLastFrag⟩,
    ⟨.waitAck, .fragComplTimerReq, .idle⟩,
    ⟨.waitAck, .fragComplTimer2, .idle⟩,
    ⟨.waitAck, .failureLastFrag2, .idle⟩,
    ⟨.waitAck, .recvFragReq, .sendFrag⟩,
    ⟨.receiving, .recvFragReq, .sendFrag⟩,
    ⟨.waitAck, .recvFragCompl, .idle⟩,
    ⟨.sendFrag, .sendNxtMissFrag, .sendFrag⟩,
    ⟨.sendFrag, .fragComplTimer, .idle⟩,
    ⟨.sendFrag, .fragComplTimerReq, .idle⟩,
    ⟨.sendFrag, .sentMissFrag, .waitAck⟩,
    ⟨.sendFrag, .tieBreak, .receiving⟩,
    ⟨.sendLastFrag, .tieBreak, .receiving⟩,
    ⟨.waitAck, .recvFragWait, .sendFrag⟩,
    ⟨.sendLastFrag, .fail, .idle⟩,
    ⟨.waitAck, .tieBreak, .receiving⟩]

/-- The row of the table for a state and an event.  The table is searched from
its end. -/
def findTransition (cstate : State) (event : Event) : Option Transition :=
  trans.reverse.find? fun row => row.st = cstate ∧ row.ev = event

/-- `recv_or_send() == 1`. -/
def State.isReceiving : State -> Bool
  | .receiving | .sendFragComplete | .sendFragReq | .sendFragWait | .findMissFrag => true
  | _ => false

/-- `recv_or_send() == 0`. -/
def State.isSending : State -> Bool
  | .sendFrag | .sendLastFrag | .waitAck => true
  | _ => false

/-- `control_block_t`. -/
structure ControlBlock where
  source : Nat
  dest : Nat
  sessionId : Nat
  pendingSegments : Nat
  deriving DecidableEq

/-- `sending_cntrl_blk_t`.  A timer is the delay it was armed with. -/
structure SendingControlBlock where
  datalenToSend : Nat
  missingOffset : Nat
  offset : Nat
  remainingDataLen : Nat
  cmn : ControlBlock
  datagram : List UInt8
  datagramLen : Nat
  sending : Bool
  flagRepliedFragReq : Bool
  transmissionAborted : Nat
  resetTimer : Option Nat
  timerBtwn2Frags : Option Nat
  fragComplList : List Nat
  flagSendFragWait : Bool
  flagReplyFragReq : Bool
  fragWaitSource : Nat
  fragWaitDest : Nat
  roundTripFirstFrag : Nat
  flagFcTimerExpiredOnce : Nat
  currentDnode : Nat
  doesNotFitInFirstFrag : Bool
  waitRestartTimer : Option Nat := none
  deriving DecidableEq

inductive ReceiveType
  | singlecast
  | broadcast
  | multicast
  deriving DecidableEq

/-- `receiving_cntrl_blk_t`.  The fragment itself is an argument of the
functions that read it; `afterRequest` is the `state` of `rx_data`. -/
structure ReceivingControlBlock where
  cmn : ControlBlock
  curRecvdDataSize : Nat
  datagramSize : Nat
  currentSnode : Nat
  datagramData : List UInt8
  bytesRecvdBitmask : List Nat
  fcTimer : Option Nat
  rxTimer : Option Nat := none
  afterRequest : Bool := false
  recvFragComplList : List Nat := List.replicate 16 0
  rxType : ReceiveType := .singlecast
  deriving DecidableEq

/-- The function the lower layer calls when it is done with a frame. -/
inductive LowerLayerCallback
  | none
  | transportServiceSenddataCb
  | tempCallbackLastFrag
  | tempCallbackReplyFragReq
  deriving DecidableEq

/-- A frame the lower layer accepted. -/
structure LowerLayerFrame where
  source : Nat
  dest : Nat
  payload : List UInt8
  expectedResponses : Nat
  callback : LowerLayerCallback
  deriving DecidableEq

/-- A datagram handed to the upper layer, with the offsets of the bytes that
were copied into it from fragments. -/
structure Delivery where
  source : Nat
  dest : Nat
  datagram : List UInt8
  copied : List Nat
  deriving DecidableEq

/-- The variables of the service.  Beside them, `intercepted` is the callback
the lower layer was given last, `sent` are the frames it accepted, `completions`
the callbacks of the user that were called, with their statuses, and `delivered`
the datagrams handed to the upper layer, all oldest first; `copied` are the
offsets of the bytes copied since the last First Fragment. -/
structure Service where
  currentState : State
  maxFragmentSize : Nat
  scb : SendingControlBlock
  rcb : ReceivingControlBlock
  txBuf : List UInt8
  onSendCompleteCb : Option Nat
  sent : List LowerLayerFrame
  completions : List (Nat × Nat)
  myNodeId : Nat := 1
  offsetToRequest : Nat := 0
  flagTieBroken : Bool := false
  flagInitializeOnce : Bool := true
  intercepted : LowerLayerCallback := .none
  copied : List Nat := []
  delivered : List Delivery := []
  deriving DecidableEq

/-- A service that was never used. -/
def Service.unused : Service where
  currentState := .idle
  maxFragmentSize := 0
  scb :=
    { datalenToSend := 0
      missingOffset := 0
      offset := 0
      remainingDataLen := 0
      cmn := ⟨0, 0, 0, 0⟩
      datagram := List.replicate payloadSizeMax 0
      datagramLen := 0
      sending := false
      flagRepliedFragReq := false
      transmissionAborted := 0
      resetTimer := none
      timerBtwn2Frags := none
      fragComplList := List.replicate 15 0
      flagSendFragWait := false
      flagReplyFragReq := false
      fragWaitSource := 0
      fragWaitDest := 0
      roundTripFirstFrag := 0
      flagFcTimerExpiredOnce := 0
      currentDnode := 0
      doesNotFitInFirstFrag := false }
  rcb :=
    { cmn := ⟨0, 0, 0, 0⟩
      curRecvdDataSize := 0
      datagramSize := 0
      currentSnode := 0
      datagramData := List.replicate payloadSizeMax 0
      bytesRecvdBitmask := List.replicate 26 0
      fcTimer := none }
  txBuf := []
  onSendCompleteCb := none
  sent := []
  completions := []

/-- `t2_sm_post_event`. -/
def Service.postEvent (service : Service) (event : Event) : Service :=
  match findTransition service.currentState event with
  | some row => { service with currentState := row.nextSt }
  | none => service

variable (service : Service) (event : Event)

@[simp] theorem Service.scb_postEvent : (service.postEvent event).scb = service.scb := by
  unfold Service.postEvent
  split <;> rfl

@[simp] theorem Service.rcb_postEvent : (service.postEvent event).rcb = service.rcb := by
  unfold Service.postEvent
  split <;> rfl

@[simp] theorem Service.sent_postEvent : (service.postEvent event).sent = service.sent := by
  unfold Service.postEvent
  split <;> rfl

@[simp] theorem Service.maxFragmentSize_postEvent :
    (service.postEvent event).maxFragmentSize = service.maxFragmentSize := by
  unfold Service.postEvent
  split <;> rfl

@[simp] theorem Service.txBuf_postEvent : (service.postEvent event).txBuf = service.txBuf := by
  unfold Service.postEvent
  split <;> rfl

/-- The inner loop of `zwave_crc16`: one bit of the message. -/
def crc16Bit (crc16 : UInt16) (messageBit : Bool) : UInt16 :=
  if messageBit != (crc16 &&& 0x8000 != 0) then (crc16 <<< 1) ^^^ 0x1021
  else crc16 <<< 1

/-- One byte of the message, most significant bit first. -/
def crc16Byte (crc16 : UInt16) (workData : UInt8) : UInt16 :=
  [0x80, 0x40, 0x20, 0x10, 0x08, 0x04, 0x02, 0x01].foldl
    (fun crc16 bitMask => crc16Bit crc16 (workData &&& bitMask != 0)) crc16

def zwaveCrc16 (crc16 : UInt16) (data : List UInt8) : UInt16 := data.foldl crc16Byte crc16

/-- `add_crc` on a buffer that holds exactly the checked bytes. -/
def addCrc (buffer : List UInt8) : List UInt8 :=
  let crc := zwaveCrc16 0x1D0F buffer
  buffer ++ [(crc >>> 8).toUInt8, crc.toUInt8]

end TransportService
