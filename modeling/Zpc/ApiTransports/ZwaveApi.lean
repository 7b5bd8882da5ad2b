import Zpc.Foundation.SlotLedger
import Zpc.ZwaveTx.Definitions

/-!
# The Z-Wave API transport

`zwave_api_transport.c` with its surroundings: the Z-Wave module, which accepts or refuses
what it is asked, completes an accepted frame later, and answers the requests for node
information of this transport and of other components.  An accepted send has a number, which
its frame carries; the transport itself never sees it.
-/

namespace ZwaveApiTransport

open Foundation (SlotLedger)
open ZwaveTx (SessionId UserPointer CallbackFunction ConnectionInfo TxReport
  isTransmissionSuccessful transmitCompleteOk transmitCompleteFail nullSession
  zwaveBroadcastNodeId zwaveLrBroadcastNodeId)

/-- Values of `sl_status_t` the transports tell apart. -/
inductive SlStatus where
  | ok
  | fail
  | busy
  | notFound
  | notSupported
  | wouldOverflow
  deriving DecidableEq

def invalidNodeId : Nat := 0

def zwaveApiMaximumFrameLength : Nat := 255

def zwaveTxInvalidGroup : Nat := 0

def transmitOptionAck : Nat := 0x01

def transmitOptionMulticastAsBroadcast : Nat := 0x02

/-- `TRANSMIT_OPTION_AUTO_ROUTE | TRANSMIT_OPTION_EXPLORE`. -/
def transmitOptionAutoRouteExplore : Nat := 0x04 ||| 0x20

def isBroadcastNodeId (nodeId : Nat) : Bool :=
  nodeId == zwaveBroadcastNodeId || nodeId == zwaveLrBroadcastNodeId

/-- The fields of `zwave_tx_options_t` that are read here. -/
structure TxOptions where
  fasttrack : Bool
  isTestFrame : Bool
  isProtocolFrame : Bool
  rfPower : Nat
  groupId : Nat

/-- The arguments of `zwave_api_send_data`. -/
structure SendRequest where
  info : ConnectionInfo
  data : List UInt8
  txOptions : TxOptions
  onSendDataComplete : Option CallbackFunction
  user : UserPointer
  parentSessionId : SessionId

/-- What the module, the groups and the attribute store answer while a frame is sent. -/
structure Answers where
  nodeIsWoeen : Bool
  interceptStatus : SlStatus
  transmitStatus : SlStatus
  nodes : Option (List Nat)

/-- What the module is asked. -/
inductive ZwapiCall where
  | sendNop (nodeId txOptions : Nat)
  | requestNodeInfo (nodeId : Nat)
  | sendTestFrame (nodeId rfPower : Nat)
  | sendProtocolData (nodeId : Nat) (data : List UInt8) (user : UserPointer)
  | sendData (nodeId : Nat) (data : List UInt8) (txOptions : Nat)
  | sendDataMulti (nodes : List Nat) (data : List UInt8) (txOptions : Nat)
  | abortSendData

/-- `send_data_state_t`. -/
structure SendDataState where
  onSendDataComplete : Option CallbackFunction
  user : UserPointer
  transmissionOngoing : Bool
  parentSessionId : SessionId
  remoteNodeId : Nat
  fastTrack : Bool
  awaitingNif : Bool
  emergencyTimerSet : Bool

/-- `zwave_api_reset_state`, which keeps the parent session. -/
def SendDataState.resetState (state : SendDataState) : SendDataState where
  onSendDataComplete := none
  user := 0
  transmissionOngoing := false
  parentSessionId := state.parentSessionId
  remoteNodeId := invalidNodeId
  fastTrack := false
  awaitingNif := false
  emergencyTimerSet := false

/-- An accepted send: the destination whose reachability it tells something about, and whether
it was sent with fast track. -/
structure Accepted where
  onSendDataComplete : Option CallbackFunction
  user : UserPointer
  destination : Nat
  fastTrack : Bool

/-- What a completion came from, with the number of the frame it belongs to. -/
inductive Source where
  | moduleCallback (number : Nat)
  | nodeInformation (number : Nat)
  | nodeInfoReqFailed (number : Nat)
  | foreignNodeInformation
  | foreignNodeInfoReqFailed
  | abort
  | emergencyTimeout
  | apiStarted
  | reset

/-- The end of a transmission: the callback that was invoked, and what the controller was told
about the reachability of which node. -/
structure Completion where
  status : Nat
  txReport : Option TxReport
  called : Option (CallbackFunction × UserPointer)
  notified : Option (Bool × Nat)
  source : Source

/-- What `zwave_controller_on_frame_transmission` is told when a transmission ends. -/
def notification (status remoteNodeId : Nat) (fastTrack : Bool) : Option (Bool × Nat) :=
  if remoteNodeId ≠ invalidNodeId then
    if isTransmissionSuccessful status then some (true, remoteNodeId)
    else if fastTrack = false then some (false, remoteNodeId)
    else none
  else none

/-- The transport, the frames the module has not completed and the requests it has not
answered, and the record. -/
structure System where
  state : SendDataState
  outstandingFrames : List Nat
  outstandingRequests : List (Nat × Nat)
  ledger : SlotLedger Accepted Completion
  zwapiCalls : List ZwapiCall

namespace System

variable (sys : System)

/-- Ask the module. -/
def ask (call : ZwapiCall) : System :=
  { sys with zwapiCalls := sys.zwapiCalls ++ [call] }

/-- The number the next accepted send gets. -/
def nextNumber : Nat := sys.ledger.accepted.length

/-- `zwave_api_transport_start_transmission`, for a send that is entered into the record. -/
def startTransmission (request : SendRequest) (destination : Nat) (fastTrack : Bool) : System :=
  { sys with
    state := { sys.state with
      transmissionOngoing := true
      onSendDataComplete := request.onSendDataComplete
      user := request.user
      parentSessionId := request.parentSessionId
      emergencyTimerSet := true }
    ledger := sys.ledger.accept
      ⟨request.onSendDataComplete, request.user, destination, fastTrack⟩ }

/-- `zwave_api_send_data_callback`. -/
def sendDataCallback (status : Nat) (txReport : Option TxReport) (source : Source) : System :=
  if sys.state.transmissionOngoing = false then sys
  else
    { sys with
      state := sys.state.resetState
      ledger := sys.ledger.complete
        { status := status
          txReport := txReport
          called := sys.state.onSendDataComplete.map fun callback => (callback, sys.state.user)
          notified := notification status sys.state.remoteNodeId sys.state.fastTrack
          source := source } }

/-- `zwave_api_transport_on_node_info_req_failed`. -/
def onNodeInfoReqFailed (source : Source) : System :=
  if sys.state.awaitingNif then sys.sendDataCallback transmitCompleteFail none source
  else sys

/-- `zwave_api_transport_on_node_information`. -/
def onNodeInformation (nodeId : Nat) (source : Source) : System :=
  if sys.state.awaitingNif && sys.state.remoteNodeId == nodeId then
    sys.sendDataCallback transmitCompleteOk none source
  else sys

/-- `zwave_api_transport_emergency_timeout_step`. -/
def emergencyTimeoutStep : System :=
  if sys.state.awaitingNif then sys.onNodeInfoReqFailed .emergencyTimeout
  else sys.ask .abortSendData

def onZwaveApiStarted : System :=
  if sys.state.transmissionOngoing = false then sys
  else sys.sendDataCallback transmitCompleteFail none .apiStarted

/-- `zwave_api_transport_reset`. -/
def transportReset : System :=
  let completed :=
    if sys.state.transmissionOngoing then
      sys.sendDataCallback transmitCompleteFail none .reset
    else sys
  { completed with state := completed.state.resetState }

/-- `zwave_api_abort_send_data`. -/
def abortSendData (sys : System) (sessionId : SessionId) : SlStatus × System :=
  if sys.state.transmissionOngoing = false ∨ sys.state.parentSessionId ≠ sessionId then
    (.notFound, sys)
  else if sys.state.awaitingNif then (.ok, sys.onNodeInfoReqFailed .abort)
  else (.ok, sys.ask .abortSendData)

/-- The frames `zwave_api_transport_intercept_payload` tries to send in another way. -/
inductive Intercept where
  | nop
  | requestNif
  | notSupported

variable (request : SendRequest)

/-- Which of them a request is. -/
def interceptOf : Intercept :=
  if request.info.remote.isMulticast then .notSupported
  else
    match request.data with
    | [] => .notSupported
    | commandClass :: rest =>
        if commandClass = 0x00 then .nop
        else if commandClass = 0x01 ∧ rest.head? = some 0x02 then .requestNif
        else .notSupported

/-- The transmit options of an intercepted NOP. -/
def nopTxOptions (answers : Answers) : Nat :=
  if answers.nodeIsWoeen then transmitOptionAutoRouteExplore
  else transmitOptionAutoRouteExplore ||| transmitOptionAck

/-- `zwave_api_transport_intercept_payload`: whether the module took the frame. -/
def interceptPayload (request : SendRequest) (answers : Answers) : Bool × System :=
  match interceptOf request with
  | .nop =>
      let asked := sys.ask (.sendNop request.info.remote.nodeId (nopTxOptions answers))
      if answers.interceptStatus = .ok then
        (true, { asked with outstandingFrames := sys.nextNumber :: sys.outstandingFrames })
      else (false, asked)
  | .requestNif =>
      let asked := sys.ask (.requestNodeInfo request.info.remote.nodeId)
      if answers.interceptStatus = .ok then
        (true,
          { asked with
            state := { sys.state with awaitingNif := true }
            outstandingRequests :=
              (sys.nextNumber, request.info.remote.nodeId) :: sys.outstandingRequests })
      else (false, asked)
  | .notSupported => (false, sys)

/-- The transmit options of a singlecast frame. -/
def singlecastTxOptions (answers : Answers) : Nat :=
  if isBroadcastNodeId request.info.remote.nodeId then 0
  else
    (if answers.nodeIsWoeen then 0 else transmitOptionAck) |||
      (if request.txOptions.fasttrack then 0 else transmitOptionAutoRouteExplore)

/-- What the module is asked for a singlecast or a broadcast frame. -/
def singlecastCall (answers : Answers) : ZwapiCall :=
  if request.txOptions.isTestFrame then
    .sendTestFrame request.info.remote.nodeId request.txOptions.rfPower
  else if request.txOptions.isProtocolFrame then
    .sendProtocolData request.info.remote.nodeId request.data request.user
  else .sendData request.info.remote.nodeId request.data (singlecastTxOptions request answers)

/-- The destination and the fast track setting that are saved for a singlecast frame. -/
def saveSessionState (state : SendDataState) (request : SendRequest) : SendDataState :=
  let saved :=
    if isBroadcastNodeId request.info.remote.nodeId then state
    else
      { state with
        remoteNodeId := request.info.remote.nodeId
        fastTrack := request.txOptions.fasttrack }
  if request.txOptions.isTestFrame then { saved with remoteNodeId := invalidNodeId } else saved

/-- The node a singlecast frame tells something about. -/
def singlecastDestination : Nat :=
  if isBroadcastNodeId request.info.remote.nodeId || request.txOptions.isTestFrame then
    invalidNodeId
  else request.info.remote.nodeId

/-- The fast track setting of a singlecast frame. -/
def singlecastFastTrack : Bool :=
  !isBroadcastNodeId request.info.remote.nodeId && request.txOptions.fasttrack

/-- The singlecast part of `zwave_api_send_data`. -/
def sendSinglecast (request : SendRequest) (answers : Answers) : SlStatus × System :=
  let asked :=
    { sys with state := saveSessionState sys.state request }.ask
      (singlecastCall request answers)
  if answers.transmitStatus = .ok then
    (.ok,
      { asked with outstandingFrames := sys.nextNumber :: sys.outstandingFrames }
        |>.startTransmission request (singlecastDestination request)
          (singlecastFastTrack request))
  else (.fail, asked)

/-- The multicast part of `zwave_api_send_data`. -/
def sendMulticast (request : SendRequest) (answers : Answers) : SlStatus × System :=
  match answers.nodes with
  | none => (.fail, sys)
  | some nodes =>
      let txOptions :=
        if request.txOptions.groupId ≠ zwaveTxInvalidGroup then
          transmitOptionMulticastAsBroadcast
        else 0
      let asked := sys.ask (.sendDataMulti nodes request.data txOptions)
      if answers.transmitStatus = .ok then
        (.ok,
          { asked with outstandingFrames := sys.nextNumber :: sys.outstandingFrames }
            |>.startTransmission request invalidNodeId false)
      else (.fail, asked)

/-- `zwave_api_send_data`. -/
def sendData (request : SendRequest) (answers : Answers) : SlStatus × System :=
  if zwaveApiMaximumFrameLength < request.data.length then (.wouldOverflow, sys)
  else if sys.state.transmissionOngoing then (.busy, sys)
  else
    let intercepted := sys.interceptPayload request answers
    if intercepted.1 then
      (.ok,
        { intercepted.2 with
          state := { intercepted.2.state with remoteNodeId := request.info.remote.nodeId } }
          |>.startTransmission request request.info.remote.nodeId false)
    else if request.info.remote.isMulticast = false then
      intercepted.2.sendSinglecast request answers
    else intercepted.2.sendMulticast request answers

/-- Calls of the transport, and what the module brings up. -/
inductive Action where
  | sendData (request : SendRequest) (answers : Answers)
  | abortSendData (sessionId : SessionId)
  | moduleCallback (number status : Nat) (txReport : Option TxReport)
  | nodeInformation (number : Nat)
  | nodeInfoReqFailed (number : Nat)
  | foreignNodeInformation (nodeId : Nat)
  | foreignNodeInfoReqFailed
  | emergencyTimeout
  | apiStarted
  | reset

/-- One action.  The module completes a frame and answers a request once; the emergency timer
expires while it is set. -/
def step : Action -> System
  | .sendData request answers => (sys.sendData request answers).2
  | .abortSendData sessionId => (sys.abortSendData sessionId).2
  | .moduleCallback number status txReport =>
      if number ∈ sys.outstandingFrames then
        { sys with outstandingFrames := sys.outstandingFrames.erase number }
          |>.sendDataCallback status txReport (.moduleCallback number)
      else sys
  | .nodeInformation number =>
      match sys.outstandingRequests.lookup number with
      | some nodeId =>
          { sys with
            outstandingRequests := sys.outstandingRequests.erase (number, nodeId) }
            |>.onNodeInformation nodeId (.nodeInformation number)
      | none => sys
  | .nodeInfoReqFailed number =>
      match sys.outstandingRequests.lookup number with
      | some nodeId =>
          { sys with
            outstandingRequests := sys.outstandingRequests.erase (number, nodeId) }
            |>.onNodeInfoReqFailed (.nodeInfoReqFailed number)
      | none => sys
  | .foreignNodeInformation nodeId => sys.onNodeInformation nodeId .foreignNodeInformation
  | .foreignNodeInfoReqFailed => sys.onNodeInfoReqFailed .foreignNodeInfoReqFailed
  | .emergencyTimeout =>
      if sys.state.emergencyTimerSet then
        { sys with state := { sys.state with emergencyTimerSet := false } }
          |>.emergencyTimeoutStep
      else sys
  | .apiStarted => sys.onZwaveApiStarted
  | .reset => sys.transportReset

/-- The transport after `zwave_api_transport_init`. -/
def initial : System where
  state := ⟨none, 0, false, nullSession, invalidNodeId, false, false, false⟩
  outstandingFrames := []
  outstandingRequests := []
  ledger := .empty
  zwapiCalls := []

end System

end ZwaveApiTransport
