import Mathlib.Data.List.Basic
import Zpc.ZwaveTx.Definitions

/-!
# The S2 transport

The sending side of `zwave_s2_transport.c` between the TX queue and libS2.  Of libS2 this
keeps which send it works on: it takes one send at a time, calls `S2_send_frame` for its
frames and `S2_send_done_event` once per send, and ends a send on any transmit status other
than OK.  Everything else it does is a list of calls given with the action.  Clock values,
which only set its timers, are left out.

`S2_post_send_done_event` tells the inclusion of libS2 of the end of a send
(`s2_inclusion_send_done`) before it tells the transport.  What the inclusion then calls
is put behind the report to the transport here.
-/

namespace S2Transport

open ZwaveTx (NodeId SessionId UserPointer CallbackFunction ConnectionInfo Encapsulation TxReport
  TxOptions nullSession zwaveMaxFrameSize transmitCompleteOk transmitCompleteFail)

def transmitCompleteNoAck : Nat := 0x01

def transmitCompleteVerified : Nat := 0x05

/-- `ZWAVE_TX_QOS_RECOMMENDED_TIMING_CRITICAL_PRIORITY`. -/
def timingCriticalPriority : Nat := 0x0FFFFFFF

def zwaveTxInvalidGroup : Nat := 0

def security2NonceGet : UInt8 := 0x01

def security2NonceReport : UInt8 := 0x02

def s2NonceReportMosSosMask : UInt8 := 0x3

def workbufSize : Nat := 1280

def s2TxoptionVerifyDelivery : Nat := 1

def s2TxoptionSinglecastFollowup : Nat := 2

def s2TxoptionFirstSinglecastFollowup : Nat := 4

/-- Values of `sl_status_t` that `zwave_s2_send_data` and `zwave_s2_abort_send_data` return. -/
inductive SlStatus where
  | ok
  | fail
  | busy
  | notFound
  | notSupported
  | wouldOverflow
  deriving DecidableEq

/-- `s2_tx_status_t`. -/
inductive S2TxStatus where
  | ok
  | noAck
  | fail
  | verified
  deriving DecidableEq

/-- `s2zw_codes`. -/
def S2TxStatus.zwCode : S2TxStatus -> Nat
  | .ok => transmitCompleteOk
  | .noAck => transmitCompleteNoAck
  | .fail => transmitCompleteFail
  | .verified => transmitCompleteVerified

/-- `zwave_s2_keyset_t`. -/
inductive ZwaveS2Keyset where
  | zwave
  | zwaveLongRange
  | unknown
  deriving DecidableEq

/-- `encapsulation_to_class`, without a class for the invalid key id. -/
def encapsulationToClass : Encapsulation -> Option Nat
  | .security2Unauthenticated => some 0
  | .security2Authenticated => some 1
  | .security2Access => some 2
  | _ => none

def convertNormalToLrKeyclass (classId : Nat) : Nat :=
  if classId = 2 then 4 else if classId = 1 then 3 else classId

/-- The content of a `protocol_metadata_t` that is copied here. -/
structure ProtocolMetadata where
  sessionId : UInt8
  data : List UInt8

/-- A metadata record set to zero with `memset`. -/
def ProtocolMetadata.zero : ProtocolMetadata := ⟨0, []⟩

/-- The transmit options with the fields for multicast that are read here. -/
structure SendOptions extends TxOptions where
  groupId : Nat
  isFirstFollowUp : Bool
  skipS2VerifyDelivery : Bool

/-- The arguments of `zwave_s2_send_data`.  For a protocol frame the user pointer points to
protocol metadata. -/
structure SendRequest where
  connection : ConnectionInfo
  data : List UInt8
  txOptions : SendOptions
  onSendComplete : Option CallbackFunction
  user : UserPointer
  metadata : ProtocolMetadata
  parentSessionId : SessionId

/-- What libS2 is asked to send. -/
structure LibS2Send where
  isMulticast : Bool
  lNode : NodeId
  rNode : NodeId
  classId : Nat
  txOptions : Nat
  mgrpGroupId : Option Nat
  data : List UInt8

/-- A send of `zwave_s2_send_data` that libS2 took. -/
structure Accepted where
  onSendComplete : Option CallbackFunction
  user : UserPointer
  parentSessionId : SessionId
  send : LibS2Send

/-- What the user pointer of a frame points to. -/
inductive FrameUser where
  | null
  | protocolMetadata
  | generationTag (generation : Nat)
  deriving DecidableEq

/-- A frame in the TX queue: the send of libS2 it was queued for, and how many inclusions had
been started. -/
structure TxFrame where
  connection : ConnectionInfo
  data : List UInt8
  options : TxOptions
  groupId : Nat
  user : FrameUser
  session : Option Nat
  inclusions : Nat
  deriving DecidableEq

/-- `zwave_s2_current_transmission_type_t`. -/
inductive TransmissionType where
  | singlecast
  | multicast

/-- `s2_transport_session_state_t` with `app_frame_generation_tags`. -/
structure SessionState where
  s2SendCallback : Option CallbackFunction
  s2SendUser : UserPointer
  s2SendTxStatus : TxReport
  currentTransmissionType : TransmissionType
  parentSessionId : SessionId
  validParentSessionId : Bool
  lastFrameData : List UInt8
  protocolMetadata : ProtocolMetadata
  appFrameGenerationTags : Nat -> ProtocolMetadata
  txOptions : TxOptions
  inclusionInProgress : Bool
  abortInProgress : Bool
  abortGeneration : Nat

/-- The invocation of a callback. -/
structure Invocation where
  callback : CallbackFunction
  user : UserPointer
  status : Nat
  txStatus : TxReport

/-- A completion that was forwarded to libS2: the send its frame was queued for, whether that
send had been aborted, and the send libS2 was working on. -/
structure Forward where
  session : Option Nat
  aborted : Bool
  during : Option Nat
  deriving DecidableEq

/-- A call of `zwave_s2_abort_send_data` that reached libS2: the given session, and the parent
session of the send that was in progress. -/
structure AbortTouch where
  sessionId : SessionId
  inProgress : Option SessionId
  deriving DecidableEq

/-- The transport, the send libS2 works on, the sends it took (the own ones without an entry),
the frames in the TX queue, and the record. -/
structure System where
  state : SessionState
  current : Option Nat
  sessions : List (Option Accepted)
  outstanding : List (Nat × TxFrame)
  framesQueued : Nat
  inclusionsStarted : Nat
  aborted : List Nat
  invocations : List Invocation
  forwarded : List Forward
  touches : List AbortTouch

namespace System

variable (sys : System)

/-- Invoke a callback if there is one. -/
def invoke (callback : Option CallbackFunction) (user : UserPointer) (status : Nat)
    (txStatus : TxReport) : System :=
  { sys with
    invocations := sys.invocations ++
      (callback.map fun function => ⟨function, user, status, txStatus⟩).toList }

variable (state : SessionState)

/-- The state without the callback of a send. -/
def withoutCallback : SessionState :=
  { state with s2SendCallback := none, s2SendUser := 0 }

/-- The parent session of the send in progress. -/
def inProgress : Option SessionId :=
  sys.current.bind fun number => (sys.sessions[number]?.join).map Accepted.parentSessionId

/-- `S2_send_done_event`. -/
def sendDoneEvent (status : S2TxStatus) : System :=
  { sys with
    state :=
      { withoutCallback sys.state with
        validParentSessionId := false
        s2SendTxStatus := .zero
        protocolMetadata :=
          if sys.state.txOptions.transport.isProtocolFrame then .zero
          else sys.state.protocolMetadata
        txOptions :=
          { sys.state.txOptions with
            transport := { sys.state.txOptions.transport with isProtocolFrame := false } } } }
    |>.invoke sys.state.s2SendCallback sys.state.s2SendUser status.zwCode
      sys.state.s2SendTxStatus

/-- A nonce report that resynchronizes, and so has to reach its peer in time. -/
def isResync (data : List UInt8) : Bool :=
  match data with
  | _ :: command :: _ :: flags :: _ =>
      command == security2NonceReport && flags &&& s2NonceReportMosSosMask != 0
  | _ => false

/-- The options `S2_send_frame` gives to the TX queue. -/
def frameOptions (data : List UInt8) : TxOptions :=
  let transport :=
    if state.txOptions.transport.isProtocolFrame then state.txOptions.transport else {}
  let standalone :=
    { transport with
      ignoreIncomingFramesBackOff := true
      validParentSessionId := false
      parentSessionId := nullSession }
  let child :=
    { transport with
      validParentSessionId := state.validParentSessionId
      parentSessionId := state.parentSessionId }
  let numberOfResponses := if state.validParentSessionId then 0 else 1
  { numberOfResponses :=
      if data[1]? = some security2NonceGet then 1
      else if isResync data then 0
      else numberOfResponses
    discardTimeoutMs := 0
    qosPriority := timingCriticalPriority
    fasttrack := state.txOptions.transport.isProtocolFrame && state.txOptions.fasttrack
    transport :=
      if data[1]? = some security2NonceGet then child
      else if isResync data || state.inclusionInProgress then standalone
      else child }

/-- The user pointer `S2_send_frame` gives to the TX queue. -/
def frameUser : FrameUser :=
  if state.txOptions.transport.isProtocolFrame then
    if state.s2SendCallback.isSome then .generationTag state.abortGeneration
    else .protocolMetadata
  else if state.abortInProgress || (state.s2SendCallback.isSome && !state.inclusionInProgress) then
    .generationTag state.abortGeneration
  else .null

/-- The TX queue takes a frame or refuses it. -/
def queueFrame (frame : TxFrame) (queued : Bool) : System :=
  if queued then
    { sys with
      outstanding := (sys.framesQueued, frame) :: sys.outstanding
      framesQueued := sys.framesQueued + 1 }
  else sys

/-- `S2_send_frame`. -/
def sendFrame (lNode rNode : NodeId) (data : List UInt8) (queued : Bool) : System :=
  { sys with
    state :=
      { sys.state with
        appFrameGenerationTags :=
          if sys.state.txOptions.transport.isProtocolFrame ∧ sys.state.s2SendCallback.isSome then
            Function.update sys.state.appFrameGenerationTags sys.state.abortGeneration
              sys.state.protocolMetadata
          else sys.state.appFrameGenerationTags } }
    |>.queueFrame
      { connection :=
          { local' := { nodeId := lNode }, remote := { nodeId := rNode }, encapsulation := .none }
        data := data
        options := frameOptions sys.state data
        groupId := 0
        user := frameUser sys.state
        session := sys.current
        inclusions := sys.inclusionsStarted }
      queued

/-- The user pointer `S2_send_frame_multi` gives to the TX queue. -/
def frameUserMulti : FrameUser :=
  if state.s2SendCallback.isSome && !state.inclusionInProgress then
    .generationTag state.abortGeneration
  else .null

/-- `S2_send_frame_multi`. -/
def sendFrameMulti (lNode rNode : NodeId) (data : List UInt8) (queued : Bool) : System :=
  sys.queueFrame
    { connection :=
        { local' := { nodeId := lNode }
          remote := { nodeId := rNode, isMulticast := true }
          encapsulation := .none }
      data := data
      options :=
        { numberOfResponses := 0
          qosPriority := 0
          transport :=
            { validParentSessionId := sys.state.validParentSessionId
              parentSessionId := sys.state.parentSessionId } }
      groupId := rNode
      user := frameUserMulti sys.state
      session := sys.current
      inclusions := sys.inclusionsStarted }
    queued

/-- What libS2 does on its own: it sends a frame, ends its send, or starts a send of its own. -/
inductive LibS2Call where
  | sendFrame (lNode rNode : NodeId) (data : List UInt8) (queued : Bool)
  | sendFrameMulti (lNode rNode : NodeId) (data : List UInt8) (queued : Bool)
  | sendDone (status : S2TxStatus)
  | startOwnSend

/-- One call.  A send ends once, and a send is only started when none is in progress. -/
def libS2Call : LibS2Call -> System
  | .sendFrame lNode rNode data queued => sys.sendFrame lNode rNode data queued
  | .sendFrameMulti lNode rNode data queued => sys.sendFrameMulti lNode rNode data queued
  | .sendDone status =>
      if sys.current.isSome then { sys with current := none }.sendDoneEvent status
      else sys
  | .startOwnSend =>
      if sys.current.isSome then sys
      else
        { sys with
          current := some sys.sessions.length
          sessions := sys.sessions ++ [none] }

/-- The calls of libS2 in their order. -/
def react (calls : List LibS2Call) : System := calls.foldl libS2Call sys

/-- `S2_send_frame_done_notify`, with what libS2 does then. -/
def sendFrameDoneNotify (status : S2TxStatus) (calls : List LibS2Call) : System :=
  (if status = .ok then sys else sys.libS2Call (.sendDone status)).react calls

/-- `s2_application_send_is_blocked`, with the answer whether an inclusion of libS2 is active. -/
def applicationSendIsBlocked (txOptions : SendOptions) (inclusionActive : Bool) : Bool :=
  if txOptions.transport.isProtocolFrame then false
  else
    sys.state.s2SendCallback.isSome || sys.state.inclusionInProgress ||
      (inclusionActive || sys.current.isSome)

/-- The transmit options of `zwave_s2_send_data` for libS2. -/
def libS2TxOptions (request : SendRequest) : Nat :=
  let verify :=
    (!request.connection.remote.isMulticast && !request.txOptions.skipS2VerifyDelivery) ||
      request.txOptions.transport.isProtocolFrame
  let isFollowUp :=
    !request.connection.remote.isMulticast && request.txOptions.groupId != zwaveTxInvalidGroup
  (if verify || isFollowUp then s2TxoptionVerifyDelivery else 0) |||
    (if isFollowUp then s2TxoptionSinglecastFollowup else 0) |||
    (if isFollowUp && request.txOptions.isFirstFollowUp then s2TxoptionFirstSinglecastFollowup
      else 0)

/-- The send that libS2 is asked for. -/
def libS2Send (request : SendRequest) (classId : Nat) (keyset : ZwaveS2Keyset) : LibS2Send where
  isMulticast := request.connection.remote.isMulticast
  lNode := request.connection.local'.nodeId
  rNode := request.connection.remote.nodeId
  classId := if keyset = .zwaveLongRange then convertNormalToLrKeyclass classId else classId
  txOptions := libS2TxOptions request
  mgrpGroupId :=
    if !request.connection.remote.isMulticast &&
        request.txOptions.groupId != zwaveTxInvalidGroup then
      some request.txOptions.groupId
    else none
  data := request.data

/-- `S2_send_data_all_cast` takes a send. -/
def libS2Accepts (data : List UInt8) : Bool :=
  !data.isEmpty && decide (data.length ≤ workbufSize) && sys.current.isNone

/-- The transmission type of a request. -/
def transmissionType (request : SendRequest) : TransmissionType :=
  if request.connection.remote.isMulticast then .multicast else .singlecast

/-- What `zwave_s2_send_data` writes before libS2 is asked, apart from the callback. -/
def prepare (request : SendRequest) : SessionState :=
  { state with
    currentTransmissionType := transmissionType request
    parentSessionId := request.parentSessionId
    validParentSessionId := true
    lastFrameData := request.data
    protocolMetadata :=
      if request.txOptions.transport.isProtocolFrame then request.metadata
      else state.protocolMetadata
    txOptions :=
      if request.txOptions.transport.isProtocolFrame then request.txOptions.toTxOptions
      else state.txOptions }

/-- libS2 takes a send, whose callback is in the state. -/
def startSession (request : SendRequest) (send : LibS2Send) : System :=
  { sys with
    state :=
      { prepare sys.state request with
        s2SendCallback := request.onSendComplete
        s2SendUser := request.user }
    current := some sys.sessions.length
    sessions := sys.sessions ++
      [some ⟨request.onSendComplete, request.user, request.parentSessionId, send⟩] }

/-- `zwave_s2_send_data`.  The callback of the state is put back when libS2 refuses. -/
def sendData (request : SendRequest) (keyset : ZwaveS2Keyset) (inclusionActive : Bool)
    (calls : List LibS2Call) : SlStatus × System :=
  match encapsulationToClass request.connection.encapsulation with
  | none => (.notSupported, sys)
  | some classId =>
      if zwaveMaxFrameSize < request.data.length then (.wouldOverflow, sys)
      else if sys.applicationSendIsBlocked request.txOptions inclusionActive then
        (.busy, sys)
      else if keyset = .unknown then
        (.fail, { sys with state := prepare sys.state request })
      else if sys.libS2Accepts request.data then
        (.ok, (sys.startSession request (libS2Send request classId keyset)).react calls)
      else (.busy, { sys with state := prepare sys.state request })

/-- The send in progress counts as aborted. -/
def abortCurrent : System :=
  { sys with aborted := sys.current.toList ++ sys.aborted }

/-- `zwave_s2_abort_send_data`. -/
def abortSendData (sessionId : SessionId) (calls : List LibS2Call) : SlStatus × System :=
  if sys.state.parentSessionId = sessionId then
    (.ok,
      ({ sys with
          state :=
            { withoutCallback sys.state with
              parentSessionId := nullSession
              validParentSessionId := false }
          touches := sys.touches ++ [AbortTouch.mk sessionId sys.inProgress] }.abortCurrent
        |>.sendFrameDoneNotify .noAck calls)
        |>.invoke sys.state.s2SendCallback sys.state.s2SendUser transmitCompleteFail
          sys.state.s2SendTxStatus)
  else (.notFound, sys)

/-- The loop of `zwave_s2_transport_set_inclusion_in_progress`: libS2 is notified until it is
not busy.  The lists are what it does after each notification, and nothing at their end. -/
def notifyUntilIdle (sys : System) : List (List LibS2Call) -> System
  | [] => sys.abortCurrent.sendFrameDoneNotify .fail []
  | calls :: rest =>
      let notified := sys.abortCurrent.sendFrameDoneNotify .fail calls
      if notified.current.isSome then notified.notifyUntilIdle rest else notified

/-- The part of `zwave_s2_transport_set_inclusion_in_progress` that aborts the send of a
callback. -/
def abortForInclusion (calls : List (List LibS2Call)) : System :=
  if sys.state.s2SendCallback.isSome then
    let notified :=
      { sys with state := { withoutCallback sys.state with abortInProgress := true } }
        |>.notifyUntilIdle calls
    { notified with state := { notified.state with abortInProgress := false } }
  else sys

/-- `zwave_s2_transport_set_inclusion_in_progress`. -/
def setInclusionInProgress (active : Bool) (calls : List (List LibS2Call)) : System :=
  let marked := { sys with state := { sys.state with inclusionInProgress := active } }
  if active then
    let aborted := marked.abortForInclusion calls
    { aborted with
      state := { aborted.state with abortGeneration := (aborted.state.abortGeneration + 1) % 256 }
      inclusionsStarted := aborted.inclusionsStarted + 1 }
      |>.invoke sys.state.s2SendCallback sys.state.s2SendUser transmitCompleteFail
        sys.state.s2SendTxStatus
  else marked

/-- The check of `send_frame_callback` for the user pointer of a completion. -/
def isStale (user : FrameUser) : Bool :=
  user != .null && user != .protocolMetadata && user != .generationTag state.abortGeneration

/-- `send_frame_callback`, with what libS2 does then. -/
def sendFrameCallback (frame : TxFrame) (status : Nat) (txInfo : Option TxReport)
    (calls : List LibS2Call) : System :=
  if isStale sys.state frame.user then sys
  else
    { sys with
      state := { sys.state with s2SendTxStatus := txInfo.getD sys.state.s2SendTxStatus }
      forwarded := sys.forwarded ++
        [Forward.mk frame.session (frame.session.any (· ∈ sys.aborted)) sys.current] }
      |>.sendFrameDoneNotify (if status = transmitCompleteOk then .ok else .noAck) calls

/-- Calls of the transport, completions of frames, and what libS2 does on a received frame or
an expired timer. -/
inductive Action where
  | sendData (request : SendRequest) (keyset : ZwaveS2Keyset) (inclusionActive : Bool)
      (calls : List LibS2Call)
  | abortSendData (sessionId : SessionId) (calls : List LibS2Call)
  | setInclusionInProgress (active : Bool) (calls : List (List LibS2Call))
  | txComplete (number status : Nat) (txInfo : Option TxReport) (calls : List LibS2Call)
  | libS2 (calls : List LibS2Call)

/-- One action.  The TX queue completes a frame once. -/
def step : Action -> System
  | .sendData request keyset inclusionActive calls =>
      (sys.sendData request keyset inclusionActive calls).2
  | .abortSendData sessionId calls => (sys.abortSendData sessionId calls).2
  | .setInclusionInProgress active calls => sys.setInclusionInProgress active calls
  | .txComplete number status txInfo calls =>
      match sys.outstanding.lookup number with
      | some frame =>
          { sys with outstanding := sys.outstanding.erase (number, frame) }
            |>.sendFrameCallback frame status txInfo calls
      | none => sys
  | .libS2 calls => sys.react calls

/-- The transport after `zwave_s2_transport_init`. -/
def initial : System where
  state :=
    { s2SendCallback := none
      s2SendUser := 0
      s2SendTxStatus := .zero
      currentTransmissionType := .singlecast
      parentSessionId := nullSession
      validParentSessionId := false
      lastFrameData := []
      protocolMetadata := .zero
      appFrameGenerationTags := fun _ => .zero
      txOptions := { numberOfResponses := 0, qosPriority := 0 }
      inclusionInProgress := false
      abortInProgress := false
      abortGeneration := 0 }
  current := none
  sessions := []
  outstanding := []
  framesQueued := 0
  inclusionsStarted := 0
  aborted := []
  invocations := []
  forwarded := []
  touches := []

end System

end S2Transport
