import Zpc.ApiTransports.ZwaveApi

/-!
# The Multi Channel transport

The sending side of `zwave_multi_channel_transport.c` with the TX queue, which accepts or
refuses an encapsulated frame and completes an accepted one later.
-/

namespace MultiChannelTransport

open Foundation (SlotLedger)
open ZwaveApiTransport (SlStatus)
open ZwaveTx (SessionId UserPointer CallbackFunction ConnectionInfo TxReport nullSession
  transmitCompleteFail zwaveMaxFrameSize)

def multiChannelEncapsulationOverhead : Nat := 4

def multiChannelEncapsulatedCommandMaximumSize : Nat :=
  zwaveMaxFrameSize - multiChannelEncapsulationOverhead

/-- The arguments of `zwave_command_class_multi_channel_send_data` that are read here. -/
structure SendRequest where
  connection : ConnectionInfo
  data : List UInt8
  onMultiChannelComplete : Option CallbackFunction
  user : UserPointer
  parentSessionId : SessionId

/-- A frame for the TX queue, whose parent is the session of the request. -/
structure TxFrame where
  connection : ConnectionInfo
  data : List UInt8
  parentSessionId : SessionId
  deriving DecidableEq

/-- `send_data_state_t`. -/
structure SendDataState where
  onSendDataComplete : Option CallbackFunction
  user : UserPointer
  transmissionOngoing : Bool
  parentSessionId : SessionId

/-- `reset_send_data_settings`. -/
def SendDataState.reset : SendDataState := ⟨none, 0, false, nullSession⟩

/-- An accepted send. -/
structure Accepted where
  onSendDataComplete : Option CallbackFunction
  user : UserPointer

/-- What a completion came from, with the number of the frame it belongs to. -/
inductive Source where
  | txQueue (number : Nat)
  | abort

/-- The end of a transmission, with the callback that was invoked. -/
structure Completion where
  status : Nat
  txInfo : Option TxReport
  called : Option (CallbackFunction × UserPointer)
  source : Source

/-- The transport, the frames the TX queue has not completed, and the record. -/
structure System where
  state : SendDataState
  outstanding : List (Nat × TxFrame)
  ledger : SlotLedger Accepted Completion

namespace System

variable (sys : System)

def onMultiChannelSendComplete (status : Nat) (txInfo : Option TxReport) (source : Source) :
    System :=
  if sys.state.transmissionOngoing = false then sys
  else
    { sys with
      state := .reset
      ledger := sys.ledger.complete
        { status := status
          txInfo := txInfo
          called := sys.state.onSendDataComplete.map fun callback => (callback, sys.state.user)
          source := source } }

/-- The destination endpoint of the encapsulation.  Multi Channel commands and the Version
Command Class Get go to the root device. -/
def destinationEndpoint (request : SendRequest) : Nat :=
  match request.data with
  | commandClass :: command :: _ =>
      if commandClass = 0x60 then 0
      else if commandClass = 0x86 ∧ command = 0x13 then 0
      else request.connection.remote.endpointId
  | _ => request.connection.remote.endpointId

/-- The encapsulated frame. -/
def encapsulated (request : SendRequest) : TxFrame where
  connection :=
    { request.connection with
      remote := { request.connection.remote with endpointId := 0 }
      local' := { request.connection.local' with endpointId := 0 } }
  data :=
    [0x60, 0x0D, UInt8.ofNat request.connection.local'.endpointId &&& 0x7F,
      UInt8.ofNat (destinationEndpoint request)] ++ request.data
  parentSessionId := request.parentSessionId

/-- `zwave_command_class_multi_channel_send_data`, with the answer of the TX queue. -/
def sendData (request : SendRequest) (transmitStatus : SlStatus) : SlStatus × System :=
  if request.connection.local'.endpointId = 0 ∧ destinationEndpoint request = 0 then
    (.notSupported, sys)
  else if multiChannelEncapsulatedCommandMaximumSize < request.data.length then
    (.wouldOverflow, sys)
  else if sys.state.transmissionOngoing then (.busy, sys)
  else if transmitStatus ≠ .ok then (.fail, sys)
  else
    (.ok,
      { state := ⟨request.onMultiChannelComplete, request.user, true, request.parentSessionId⟩
        outstanding := (sys.ledger.accepted.length, encapsulated request) :: sys.outstanding
        ledger := sys.ledger.accept ⟨request.onMultiChannelComplete, request.user⟩ })

/-- `zwave_command_class_multi_channel_abort_send_data`. -/
def abortSendData (sessionId : SessionId) : SlStatus × System :=
  if sys.state.transmissionOngoing ∧ sys.state.parentSessionId = sessionId then
    (.ok, sys.onMultiChannelSendComplete transmitCompleteFail none .abort)
  else (.notFound, sys)

/-- Calls of the transport, and what the TX queue completes. -/
inductive Action where
  | sendData (request : SendRequest) (transmitStatus : SlStatus)
  | abortSendData (sessionId : SessionId)
  | sendComplete (number status : Nat) (txInfo : Option TxReport)

/-- One action.  The TX queue completes a frame once. -/
def step : Action -> System
  | .sendData request transmitStatus => (sys.sendData request transmitStatus).2
  | .abortSendData sessionId => (sys.abortSendData sessionId).2
  | .sendComplete number status txInfo =>
      match sys.outstanding.lookup number with
      | some frame =>
          { sys with outstanding := sys.outstanding.erase (number, frame) }
            |>.onMultiChannelSendComplete status txInfo (.txQueue number)
      | none => sys

/-- The transport after `zwave_multi_channel_transport_init`. -/
def initial : System := ⟨.reset, [], .empty⟩

end System

end MultiChannelTransport
