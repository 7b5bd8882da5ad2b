import Zpc.MulticastFollowUps.TxGroups
import Zpc.ZwaveTx.Definitions

/-!
# The multicast follow-ups transport

`multicast_follow_ups_transport.c` with its surroundings: the TX queue, which accepts or
refuses a frame and completes an accepted one later, and the groups, which other components
use as well.  The frame of the parent session and its number of responses are read from the
TX queue whenever a follow-up is made, so an action brings what is read.
-/

namespace MulticastFollowUps

open ZwaveDefinitions
open ZwaveTx (SlStatus SessionId UserPointer CallbackFunction ConnectionInfo Endpoint
  Encapsulation TxReport transmitCompleteFail nullSession)

/-- The fields of `zwave_tx_transport_options_t` that are set here. -/
structure TransportOptions where
  parentSessionId : SessionId
  validParentSessionId : Bool
  groupId : Nat
  isFirstFollowUp : Bool

/-- The fields of `zwave_tx_options_t` that are read or set here. -/
structure TxOptions where
  numberOfResponses : Nat
  discardTimeoutMs : Nat
  qosPriority : Nat
  sendFollowUps : Bool
  transport : TransportOptions

/-- A frame for the TX queue. -/
structure TxFrame where
  info : ConnectionInfo
  data : List UInt8
  options : TxOptions

/-- The arguments of `multicast_follow_ups_send_data`. -/
structure SendRequest where
  info : ConnectionInfo
  data : List UInt8
  txOptions : TxOptions
  onSendDataComplete : Option CallbackFunction
  user : UserPointer
  parentSessionId : SessionId

/-- `remote.multicast_group`, which shares its storage with the node id. -/
def multicastGroup (info : ConnectionInfo) : Nat := info.remote.nodeId

/-- What the TX queue holds for the parent session. -/
structure ParentElement where
  data : List UInt8
  numberOfResponses : Nat

/-- `multicast_follow_up_session_state_t`. -/
structure SessionState where
  onSendDataComplete : Option CallbackFunction
  user : UserPointer
  transmissionOngoing : Bool
  parentSessionId : SessionId
  groupId : Nat
  remoteEndpointId : Nat
  lastSinglecastNodeId : Nat
  qosPriority : Nat
  discardTimeout : Nat
  encapsulation : Encapsulation

/-- The state `multicast_follow_ups_reset_state` leaves. -/
def SessionState.reset : SessionState where
  onSendDataComplete := none
  user := 0
  transmissionOngoing := false
  parentSessionId := nullSession
  groupId := zwaveTxInvalidGroup
  remoteEndpointId := 0
  lastSinglecastNodeId := 0
  qosPriority := 0
  discardTimeout := 0
  encapsulation := .none

/-- What the transport did, and what was done to it. -/
inductive Event where
  | queued (frame : TxFrame)
  | locked (groupId : Nat)
  | accepted (request : SendRequest) (members : List Nat)
  | completed
  | called (callback : CallbackFunction) (status : Nat) (txInfo : Option TxReport)
      (user : UserPointer)
  | unlocked (groupId : Nat)

/-- The transport, the groups, the frames the TX queue has not completed yet, and the record
of what happened. -/
structure System where
  state : SessionState
  txGroups : ZwaveTxGroups
  outstanding : List TxFrame
  events : List Event

namespace System

variable (sys : System)

/-- Add an event to the record. -/
def happen (event : Event) : System := { sys with events := sys.events ++ [event] }

/-- `zwave_tx_send_data`, with the answer of the TX queue. -/
def zwaveTxSendData (frame : TxFrame) (txStatus : SlStatus) : System :=
  if txStatus = .ok then
    { sys with outstanding := sys.outstanding ++ [frame] }.happen (.queued frame)
  else sys

/-- `multicast_follow_ups_reset_state`. -/
def resetState : System :=
  { sys with
    txGroups := sys.txGroups.unlockGroup sys.state.groupId
    state := .reset }.happen (.unlocked sys.state.groupId)

/-- `multicast_follow_ups_terminate_current_session`. -/
def terminateCurrentSession (status : Nat) (txInfo : Option TxReport) (user : UserPointer) :
    System :=
  match sys.state.onSendDataComplete with
  | some callback => (sys.happen (.called callback status txInfo user)).resetState
  | none => sys.resetState

/-- The frame of a singlecast follow-up. -/
def followUpFrame (state : SessionState) (parent : ParentElement) (node : Nat) : TxFrame where
  info :=
    { local' := ⟨0, 0, false⟩
      remote := ⟨node, state.remoteEndpointId, false⟩
      encapsulation := state.encapsulation }
  data := parent.data
  options :=
    { numberOfResponses := parent.numberOfResponses
      discardTimeoutMs := state.discardTimeout
      qosPriority := state.qosPriority
      sendFollowUps := false
      transport :=
        { parentSessionId := state.parentSessionId
          validParentSessionId := true
          groupId := state.groupId
          isFirstFollowUp := state.lastSinglecastNodeId == 0 } }

/-- The first node from the cursor on that is in the node list. -/
def nextSinglecastNode (state : SessionState) (nodeList : List UInt8) : Option Nat :=
  (List.range' state.lastSinglecastNodeId
    (zwLrMaxNodeId + 1 - state.lastSinglecastNodeId)).find? fun node => isNodeInMask node nodeList

def onMulticastMessageSendComplete (status : Nat) (txInfo : Option TxReport)
    (parent : ParentElement) (txStatus : SlStatus) : System :=
  if sys.state.transmissionOngoing = false then sys
  else
    match sys.txGroups.getNodes sys.state.groupId with
    | none => sys.terminateCurrentSession transmitCompleteFail none sys.state.user
    | some nodeList =>
        match nextSinglecastNode sys.state nodeList with
        | some node =>
            let moved :=
              { sys with state.lastSinglecastNodeId := node + 1 }.zwaveTxSendData
                (followUpFrame sys.state parent node) txStatus
            if txStatus = .ok then moved
            else moved.terminateCurrentSession transmitCompleteFail none sys.state.user
        | none => sys.terminateCurrentSession status txInfo sys.state.user

/-- The multicast frame that is queued again. -/
def multicastFrame (request : SendRequest) : TxFrame where
  info := request.info
  data := request.data
  options :=
    { request.txOptions with
      sendFollowUps := false
      transport :=
        { request.txOptions.transport with
          parentSessionId := request.parentSessionId
          validParentSessionId := true
          groupId := multicastGroup request.info } }

/-- The state of a session that starts. -/
def sessionOf (request : SendRequest) : SessionState where
  onSendDataComplete := request.onSendDataComplete
  user := request.user
  transmissionOngoing := true
  parentSessionId := request.parentSessionId
  groupId := multicastGroup request.info
  remoteEndpointId := request.info.remote.endpointId
  lastSinglecastNodeId := 0
  qosPriority := request.txOptions.qosPriority
  discardTimeout := request.txOptions.discardTimeoutMs
  encapsulation := request.info.encapsulation

/-- `multicast_follow_ups_send_data`. -/
def sendData (request : SendRequest) (txStatus : SlStatus) : SlStatus × System :=
  if request.info.remote.isMulticast = false ∨ request.txOptions.sendFollowUps = false then
    (.notSupported, sys)
  else if sys.state.transmissionOngoing = true then (.busy, sys)
  else
    let queued := sys.zwaveTxSendData (multicastFrame request) txStatus
    let started :=
      { queued with
        txGroups := queued.txGroups.lockGroup (multicastGroup request.info)
        state := sessionOf request }.happen (.locked (multicastGroup request.info))
    if txStatus = .ok then (.ok, started)
    else (.fail, started.terminateCurrentSession transmitCompleteFail none request.user)

/-- `multicast_follow_ups_abort_send_data`. -/
def abortSendData (sessionId : SessionId) : SlStatus × System :=
  if sys.state.transmissionOngoing = false ∨ sys.state.parentSessionId ≠ sessionId then
    (.notFound, sys)
  else
    (.ok, sys.terminateCurrentSession transmitCompleteFail none sys.state.user)

/-- The members of a group. -/
def members (groupId : Nat) : List Nat :=
  match sys.txGroups.getNodes groupId with
  | some nodeList => nodesInMask nodeList
  | none => []

end System

/-- The calls of the transport, the completions of the TX queue, and what other components
do with the groups. -/
inductive Action where
  | sendData (request : SendRequest) (txStatus : SlStatus)
  | complete (index : Nat) (status : Nat) (txInfo : Option TxReport) (parent : ParentElement)
      (txStatus : SlStatus)
  | abortSendData (sessionId : SessionId)
  | addNodeToGroup (node groupId : Nat)
  | assignGroup (nodes : List UInt8)
  | lockGroup (groupId : Nat)
  | unlockGroup (groupId : Nat)

namespace System

/-- One action.  An accepted send is recorded with the members of its group. -/
def step (sys : System) : Action -> System
  | .sendData request txStatus =>
      let sent := sys.sendData request txStatus
      if sent.1 = .ok then
        sent.2.happen (.accepted request (sys.members (multicastGroup request.info)))
      else sent.2
  | .complete index status txInfo parent txStatus =>
      match sys.outstanding[index]? with
      | none => sys
      | some _ =>
          ({ sys with outstanding := sys.outstanding.eraseIdx index }.happen
            .completed).onMulticastMessageSendComplete status txInfo parent txStatus
  | .abortSendData sessionId => (sys.abortSendData sessionId).2
  | .addNodeToGroup node groupId =>
      { sys with txGroups := sys.txGroups.addNodeToGroup node groupId }
  | .assignGroup nodes => { sys with txGroups := (sys.txGroups.assignGroup nodes).2 }
  | .lockGroup groupId => { sys with txGroups := sys.txGroups.lockGroup groupId }
  | .unlockGroup groupId => { sys with txGroups := sys.txGroups.unlockGroup groupId }

/-- The state after `multicast_follow_ups_transport_init`, with the groups that exist. -/
def initial (txGroups : ZwaveTxGroups) : System where
  state := .reset
  txGroups := txGroups
  outstanding := []
  events := []

end System

end MulticastFollowUps
