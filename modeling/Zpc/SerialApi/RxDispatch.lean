import Zpc.SerialApi.Dispatch

/-!
# Every frame for the upper layer, with its bounds

`zwave_api_protocol_rx_dispatch` with all its function ids, over the bytes of one frame.  A
byte of a frame is an index inside of it, so that what is handed to the upper layer cannot be
anything else.  Where the code reads behind the frame, writes behind `zwapi_command_buffer` or
hands over what an earlier frame has left, there is a fault instead.
-/

namespace SerialApi

namespace RxDispatch

/-- The function ids that are dispatched. -/
inductive FuncId
  | applicationControllerUpdate
  | applicationCommandHandler
  | promiscuousApplicationCommandHandler
  | applicationCommandHandlerBridge
  | sendNodeInformation
  | sendProtocolData
  | sendDataBridge
  | sendData
  | sendNop
  | sendTestFrame
  | sendDataMultiBridge
  | sendDataMulti
  | memoryPutBuffer
  | setDefault
  | controllerChange
  | createNewPrimary
  | removeNodeFromNetwork
  | removeNodeIdFromNetwork
  | addNodeToNetwork
  | replicationSendData
  | assignReturnRoute
  | deleteReturnRoute
  | assignSucReturnRoute
  | deleteSucReturnRoute
  | setLearnMode
  | setSlaveLearnMode
  | setSucNodeId
  | requestNodeNeighborUpdate
  | requestNetworkUpdate
  | removeFailedNodeId
  | replaceFailedNode
  | serialApiStarted
  | requestProtocolCcEncryption

/-- The values of `zwapi_func_ids.h`. -/
def FuncId.byte : FuncId -> UInt8
  | .applicationControllerUpdate => 0x49
  | .applicationCommandHandler => funcIdApplicationCommandHandler
  | .promiscuousApplicationCommandHandler => funcIdPromiscuousApplicationCommandHandler
  | .applicationCommandHandlerBridge => funcIdApplicationCommandHandlerBridge
  | .sendNodeInformation => 0x12
  | .sendProtocolData => 0xAC
  | .sendDataBridge => 0xA9
  | .sendData => 0x13
  | .sendNop => 0xE9
  | .sendTestFrame => 0xBE
  | .sendDataMultiBridge => 0xAB
  | .sendDataMulti => 0x14
  | .memoryPutBuffer => 0x24
  | .setDefault => 0x42
  | .controllerChange => 0x4D
  | .createNewPrimary => 0x4C
  | .removeNodeFromNetwork => 0x4B
  | .removeNodeIdFromNetwork => 0x3F
  | .addNodeToNetwork => 0x4A
  | .replicationSendData => 0x45
  | .assignReturnRoute => 0x46
  | .deleteReturnRoute => 0x47
  | .assignSucReturnRoute => 0x51
  | .deleteSucReturnRoute => 0x55
  | .setLearnMode => 0x50
  | .setSlaveLearnMode => 0xA4
  | .setSucNodeId => 0x54
  | .requestNodeNeighborUpdate => 0x48
  | .requestNetworkUpdate => 0x53
  | .removeFailedNodeId => 0x61
  | .replaceFailedNode => 0x63
  | .serialApiStarted => funcIdSerialApiStarted
  | .requestProtocolCcEncryption => 0x6C

/-- The labels of the switch. -/
def funcIds : List FuncId :=
  [.applicationControllerUpdate, .applicationCommandHandler,
    .promiscuousApplicationCommandHandler, .applicationCommandHandlerBridge,
    .sendNodeInformation, .sendProtocolData, .sendDataBridge, .sendData, .sendNop,
    .sendTestFrame, .sendDataMultiBridge, .sendDataMulti, .memoryPutBuffer, .setDefault,
    .controllerChange, .createNewPrimary, .removeNodeFromNetwork, .removeNodeIdFromNetwork,
    .addNodeToNetwork, .replicationSendData, .assignReturnRoute, .deleteReturnRoute,
    .assignSucReturnRoute, .deleteSucReturnRoute, .setLearnMode, .setSlaveLearnMode,
    .setSucNodeId, .requestNodeNeighborUpdate, .requestNetworkUpdate, .removeFailedNodeId,
    .replaceFailedNode, .serialApiStarted, .requestProtocolCcEncryption]

/-- The label of the switch for a byte. -/
def funcIdOf (byte : UInt8) : Option FuncId := funcIds.find? fun funcId => funcId.byte == byte

def updateStateNodeInfoForeignHomeidReceived : UInt8 := 0x85

def updateStateIncludedNodeInfoReceived : UInt8 := 0x86

def updateStateNodeInfoSmartstartHomeidReceivedLr : UInt8 := 0x87

/-- The callbacks of `zwapi_callbacks_t` and those of the requests. -/
inductive Callback
  | applicationCommandHandler
  | applicationControllerUpdate
  | applicationCommandHandlerBridge
  | protocolCcEncryptionRequest
  | zwapiStarted
  | sendData
  | sendNop
  | sendDataMulti
  | sendTestFrame
  | sendDataBridge
  | sendDataMultiBridge
  | sendNodeInformation
  | memoryPutBuffer
  | setDefault
  | createNewPrimarlyCtrl
  | removeNodeFromNetwork
  | addNodeToNetwork
  | transferPrimaryCtrlRole
  | sendControllerReplication
  | assignReturnRoute
  | assignSucReturnRoute
  | deleteSucReturnRoute
  | deleteReturnRoute
  | setLearnMode
  | setVirtualNodeToLearnMode
  | requestNeighborUpdate
  | setSucNodeId
  | requestNetworkUpdate
  | removeFailedNode
  | replaceFailedNode
  deriving DecidableEq

/-- What the code must not do. -/
inductive Fault
  | readsBehindFrame (index : Nat)
  | writesBehindBuffer
  | handsOverStale

/-- A part of the code with its result, or the first fault. -/
abbrev Checked (α : Type) := Except Fault α

/-- A byte of a frame. -/
structure FrameByte (frame : List UInt8) where
  index : Nat
  inside : index < frame.length

/-- The value of a byte of a frame. -/
def FrameByte.value {frame : List UInt8} (byte : FrameByte frame) : UInt8 :=
  frame.get ⟨byte.index, byte.inside⟩

variable (frame : List UInt8)

/-- `pData[index]`. -/
def byteOf (index : Nat) : Checked (FrameByte frame) :=
  if inside : index < frame.length then .ok ⟨index, inside⟩
  else .error (.readsBehindFrame index)

/-- The number of bytes of a node id. -/
def width : NodeIdBasetype -> Nat
  | .nodeId16Bits => 2
  | .nodeId8Bits => 1

/-- `zwapi_read_node_id`: the node id and the next index. -/
def readNodeId (basetype : NodeIdBasetype) (frame : List UInt8)
    (index : Nat) : Checked (Nat × Nat) :=
  match basetype with
  | .nodeId16Bits => do
      let high ← byteOf frame index
      let low ← byteOf frame (wrap (index + 1))
      pure (256 * high.value.toNat + low.value.toNat, wrap (index + 2))
  | .nodeId8Bits => do
      let low ← byteOf frame index
      pure (low.value.toNat, wrap (index + 1))

/-- The bytes at `count` indices one after the other. -/
def slice (frame : List UInt8) (start : Nat) : Nat -> Checked (List (FrameByte frame))
  | 0 => pure []
  | count + 1 => do
      let bytes ← slice frame start count
      let byte ← byteOf frame (start + count)
      pure (bytes ++ [byte])

/-- Bytes are copied to the beginning of `zwapi_command_buffer`. -/
def copy (start count : Nat) : Checked (List (FrameByte frame)) := do
  let bytes ← slice frame start count
  if requestBufferSize < count then throw .writesBehindBuffer else pure bytes

/-- `zwave_controller_ntohl` of the four bytes of a home id. -/
def homeIdOf {frame : List UInt8} (bytes : List (FrameByte frame)) : Nat :=
  bytes.foldl (fun value byte => 256 * value + byte.value.toNat) 0

/-- A byte of the frame when the frame is long enough, else the default. -/
def byteOr (present : Bool) (index : Nat) : Checked (Option (FrameByte frame)) := do
  if present then
    let byte ← byteOf frame index
    pure (some byte)
  else pure none

/-- `LEARN_INFO`.  The command and its length are one list, and no status stands for the zero
of `memset`. -/
structure LearnInfo (frame : List UInt8) where
  bStatus : Option (FrameByte frame)
  bSource : Nat
  pCmd : List (FrameByte frame)

/-- `zwapi_tx_report_t`.  Where the frame is too short for a field, it has its default. -/
structure TxReport (frame : List UInt8) where
  transmitTicks : Nat
  numberOfRepeaters : FrameByte frame
  ackRssi : FrameByte frame
  incoming : List (FrameByte frame)
  ackChannelNumber : FrameByte frame
  txChannelNumber : FrameByte frame
  routeSchemeState : FrameByte frame
  lastRouteRepeaters : List (FrameByte frame)
  beam1000ms : Bool
  beam250ms : Bool
  lastRouteSpeed : UInt8
  routingAttempts : FrameByte frame
  lastFailedLinkFrom : FrameByte frame
  lastFailedLinkTo : FrameByte frame
  txPower : Option (FrameByte frame)
  measuredNoiseFloor : Option (FrameByte frame)
  destinationAckMpduTxPower : Option (FrameByte frame)
  destinationAckMpduMeasuredRssi : Option (FrameByte frame)
  destinationAckMpduMeasuredNoiseFloor : Option (FrameByte frame)

/-- A call of a callback.  No RSSI stands for `RSSI_NOT_AVAILABLE`. -/
inductive Upcall (frame : List UInt8)
  | applicationControllerUpdate
      (status : FrameByte frame) (nodeId : Nat) (nif : List (FrameByte frame)) (nwiHomeId : Nat)
  | applicationCommandHandler
      (rxStatus : FrameByte frame) (destination source : Nat) (command : List (FrameByte frame))
      (rssi : Option (FrameByte frame))
  | applicationCommandHandlerBridge
      (rxStatus : FrameByte frame) (destination source : Nat) (command : List (FrameByte frame))
      (rssi : Option (FrameByte frame))
  | status (callback : Callback) (value : FrameByte frame)
  | txStatus (callback : Callback) (value : FrameByte frame) (report : Option (TxReport frame))
  | plain (callback : Callback)
  | learnInfo (callback : Callback) (info : LearnInfo frame)
  | virtualNodeLearnMode (status : FrameByte frame) (original new : Nat)
  | zwapiStarted (data : List (FrameByte frame))
  | protocolCcEncryptionRequest
      (destination : Nat) (payload metadata : List (FrameByte frame))
      (useSupervision sessionId : FrameByte frame)

/-- What the dispatch knows beside the frame: the base type of node ids, whether callbacks are
registered at all and which of them are, and whether the start of the module is awaited. -/
structure Module where
  basetype : NodeIdBasetype
  hasCallbacks : Bool
  registered : Callback -> Bool
  awaitingStarted : Bool

namespace Module

variable (module : Module) (frame : List UInt8)

/-- `FUNC_ID_ZW_APPLICATION_CONTROLLER_UPDATE`. -/
def controllerUpdate : Checked (Option (Upcall frame)) := do
  if module.registered .applicationControllerUpdate then
    let status ← byteOf frame 3
    if status.value = updateStateNodeInfoForeignHomeidReceived ∨
        status.value = updateStateNodeInfoSmartstartHomeidReceivedLr then
      let source ← readNodeId module.basetype frame 4
      -- The length field in between is not used.
      let homeId ← slice frame (wrap (source.2 + 1)) 4
      let length ← byteOf frame (wrap (source.2 + 5))
      let nif ← copy frame (wrap (source.2 + 6)) (min length.value.toNat requestBufferSize)
      pure (some (.applicationControllerUpdate status source.1 nif (homeIdOf homeId)))
    else if status.value = updateStateIncludedNodeInfoReceived then
      let source ← readNodeId module.basetype frame 4
      let index := wrap (source.2 + 2)
      if index + 4 ≤ frame.length then
        let homeId ← slice frame index 4
        pure (some (.applicationControllerUpdate status source.1 [] (homeIdOf homeId)))
      else pure (some (.applicationControllerUpdate status source.1 [] 0))
    else
      let source ← readNodeId module.basetype frame 4
      let length ← byteOf frame source.2
      if requestBufferSize < length.value.toNat then pure none
      else
        -- Three bytes more than the length are copied.
        let nif ← copy frame (wrap (source.2 + 1)) (length.value.toNat + 3)
        pure (some (.applicationControllerUpdate status source.1
          (nif.take length.value.toNat) 0))
  else pure none

/-- `FUNC_ID_APPLICATION_COMMAND_HANDLER`. -/
def commandHandler : Checked (Option (Upcall frame)) := do
  if module.registered .applicationCommandHandler then
    let rxStatus ← byteOf frame 3
    let source ← readNodeId module.basetype frame 4
    let length ← byteOf frame source.2
    if requestBufferSize < length.value.toNat then pure none
    else
      let command ← copy frame (wrap (source.2 + 1)) length.value.toNat
      let index := wrap (source.2 + 1 + length.value.toNat)
      let rssi ← byteOr frame (index < frame.length) index
      pure (some (.applicationCommandHandler rxStatus 0 source.1 command rssi))
  else pure none

/-- `FUNC_ID_PROMISCUOUS_APPLICATION_COMMAND_HANDLER`. -/
def promiscuousCommandHandler : Checked (Option (Upcall frame)) := do
  if module.registered .applicationCommandHandler then
    let rxStatus ← byteOf frame 3
    let source ← byteOf frame 4
    let length ← byteOf frame 5
    if requestBufferSize < length.value.toNat then pure none
    else
      let command ← copy frame 6 length.value.toNat
      let destination ← byteOf frame (wrap (6 + length.value.toNat))
      let maskIndex := wrap (7 + length.value.toNat)
      let maskLength ← byteOf frame maskIndex
      let index := wrap (maskIndex + (maskLength.value.toNat + 1))
      let rssi ← byteOr frame (index < frame.length) index
      pure (some (.applicationCommandHandler rxStatus destination.value.toNat
        source.value.toNat command rssi))
  else pure none

/-- `FUNC_ID_APPLICATION_COMMAND_HANDLER_BRIDGE`. -/
def commandHandlerBridge : Checked (Option (Upcall frame)) := do
  if module.registered .applicationCommandHandlerBridge then
    let rxStatus ← byteOf frame 3
    let destination ← readNodeId module.basetype frame 4
    let source ← readNodeId module.basetype frame destination.2
    let length ← byteOf frame source.2
    if requestBufferSize < length.value.toNat then pure none
    else
      let command ← copy frame (wrap (source.2 + 1)) length.value.toNat
      let maskIndex := wrap (source.2 + 1 + length.value.toNat)
      let maskLength ← byteOf frame maskIndex
      let index := wrap (maskIndex + (maskLength.value.toNat + 1))
      let rssi ← byteOr frame (index < frame.length) index
      pure (some (.applicationCommandHandlerBridge rxStatus destination.1 source.1 command rssi))
  else pure none

/-- A case that hands over the status byte. -/
def reportStatus (callback : Callback) : Checked (Option (Upcall frame)) := do
  if module.registered callback then
    let status ← byteOf frame 4
    pure (some (.status callback status))
  else pure none

/-- A case that hands over nothing. -/
def reportDone (callback : Callback) : Checked (Option (Upcall frame)) :=
  if module.registered callback then pure (some (.plain callback)) else pure none

/-- The fields of a transmission report. -/
def readTxReport : Checked (TxReport frame) := do
  let ticksHigh ← byteOf frame 5
  let ticksLow ← byteOf frame 6
  let numberOfRepeaters ← byteOf frame 7
  let ackRssi ← byteOf frame 8
  let incoming ← slice frame 9 4
  let ackChannelNumber ← byteOf frame 13
  let txChannelNumber ← byteOf frame 14
  let routeSchemeState ← byteOf frame 15
  let lastRouteRepeaters ← slice frame 16 4
  let beamAndSpeed ← byteOf frame 20
  let routingAttempts ← byteOf frame 21
  let lastFailedLinkFrom ← byteOf frame 22
  let lastFailedLinkTo ← byteOf frame 23
  let txPower ← byteOr frame (25 ≤ frame.length) 24
  let measuredNoiseFloor ← byteOr frame (26 ≤ frame.length) 25
  let destinationAckMpduTxPower ← byteOr frame (27 ≤ frame.length) 26
  let destinationAckMpduMeasuredRssi ← byteOr frame (28 ≤ frame.length) 27
  let destinationAckMpduMeasuredNoiseFloor ← byteOr frame (29 ≤ frame.length) 28
  pure
    { transmitTicks := 256 * ticksHigh.value.toNat + ticksLow.value.toNat
      numberOfRepeaters := numberOfRepeaters
      ackRssi := ackRssi
      incoming := incoming
      ackChannelNumber := ackChannelNumber
      txChannelNumber := txChannelNumber
      routeSchemeState := routeSchemeState
      lastRouteRepeaters := lastRouteRepeaters
      beam1000ms := beamAndSpeed.value &&& 0x40 != 0
      beam250ms := beamAndSpeed.value &&& 0x20 != 0
      lastRouteSpeed := beamAndSpeed.value &&& 0x7
      routingAttempts := routingAttempts
      lastFailedLinkFrom := lastFailedLinkFrom
      lastFailedLinkTo := lastFailedLinkTo
      txPower := txPower
      measuredNoiseFloor := measuredNoiseFloor
      destinationAckMpduTxPower := destinationAckMpduTxPower
      destinationAckMpduMeasuredRssi := destinationAckMpduMeasuredRssi
      destinationAckMpduMeasuredNoiseFloor := destinationAckMpduMeasuredNoiseFloor }

/-- `FUNC_ID_ZW_SEND_DATA` and its kin.  The frame is read also when there is no callback. -/
def transmitted (callback : Callback) : Checked (Option (Upcall frame)) := do
  let txStatus ← byteOf frame 4
  if 24 ≤ frame.length then
    let report ← readTxReport frame
    if module.registered callback then pure (some (.txStatus callback txStatus (some report)))
    else pure none
  else if module.registered callback then pure (some (.txStatus callback txStatus none))
  else pure none

/-- `FUNC_ID_ZW_ADD_NODE_TO_NETWORK` and its kin. -/
def learned (callback : Callback) : Checked (Option (Upcall frame)) := do
  if module.registered callback then
    let bStatus ← byteOr frame (4 < frame.length) 4
    if 5 < frame.length then
      let source ← readNodeId module.basetype frame 5
      if source.2 < frame.length then
        let length ← byteOf frame source.2
        if requestBufferSize < length.value.toNat then pure none
        else
          let pCmd ← copy frame (wrap (source.2 + 1))
            (min length.value.toNat (frame.length - wrap (source.2 + 1)))
          pure (some (.learnInfo callback ⟨bStatus, source.1, pCmd⟩))
      else pure (some (.learnInfo callback ⟨bStatus, source.1, []⟩))
    else pure (some (.learnInfo callback ⟨bStatus, 0, []⟩))
  else pure none

/-- `FUNC_ID_ZW_SET_LEARN_MODE`. -/
def learnMode : Checked (Option (Upcall frame)) := do
  if module.registered .setLearnMode then
    let bytesToRead := if module.basetype = .nodeId16Bits then 7 else 6
    if bytesToRead < frame.length then
      let bStatus ← byteOf frame 4
      let source ← readNodeId module.basetype frame 5
      let length ← byteOf frame source.2
      if requestBufferSize < length.value.toNat then pure none
      else if source.2 + length.value.toNat < frame.length then
        let pCmd ← copy frame (source.2 + 1) length.value.toNat
        pure (some (.learnInfo .setLearnMode ⟨some bStatus, source.1, pCmd⟩))
      else
        -- Nothing is copied, and the buffer is handed over with the length of the frame.
        throw .handsOverStale
    else
      let _length ← byteOf frame 4
      -- The status and the source are those of an earlier frame.
      throw .handsOverStale
  else pure none

/-- `FUNC_ID_ZW_SET_SLAVE_LEARN_MODE`. -/
def slaveLearnMode : Checked (Option (Upcall frame)) := do
  if module.registered .setVirtualNodeToLearnMode then
    let original ← readNodeId module.basetype frame 5
    let new ← readNodeId module.basetype frame original.2
    let status ← byteOf frame 4
    pure (some (.virtualNodeLearnMode status original.1 new.1))
  else pure none

/-- `FUNC_ID_SERIAL_API_STARTED`. -/
def started : Checked (Option (Upcall frame)) := do
  if module.registered .zwapiStarted then
    let data ← copy frame 3 (startedLength frame.length)
    pure (some (.zwapiStarted data))
  else pure none

/-- `FUNC_ID_ZW_REQUEST_PROTOCOL_CC_ENCRYPTION`.  The payload and the metadata are handed over
where they are in the frame. -/
def encryptionRequest : Checked (Option (Upcall frame)) := do
  if module.registered .protocolCcEncryptionRequest then
    let destination ← readNodeId module.basetype frame 3
    let length ← byteOf frame destination.2
    if requestBufferSize < length.value.toNat then pure none
    else
      let index := wrap (destination.2 + 1)
      let payload ← slice frame index length.value.toNat
      let metadataLengthIndex := wrap (index + length.value.toNat)
      let metadataLength ← byteOf frame metadataLengthIndex
      let metadataIndex := wrap (metadataLengthIndex + 1)
      let metadata ← slice frame metadataIndex metadataLength.value.toNat
      let useSupervisionIndex := wrap (metadataIndex + metadataLength.value.toNat)
      let useSupervision ← byteOf frame useSupervisionIndex
      let sessionId ← byteOf frame (wrap (useSupervisionIndex + 1))
      pure (some (.protocolCcEncryptionRequest destination.1 payload metadata useSupervision
        sessionId))
  else pure none

/-- The switch over the function id. -/
def handle : FuncId -> Checked (Option (Upcall frame))
  | .applicationControllerUpdate => module.controllerUpdate frame
  | .applicationCommandHandler => module.commandHandler frame
  | .promiscuousApplicationCommandHandler => module.promiscuousCommandHandler frame
  | .applicationCommandHandlerBridge => module.commandHandlerBridge frame
  | .sendNodeInformation => module.reportStatus frame .sendNodeInformation
  | .sendProtocolData => module.transmitted frame .sendData
  | .sendDataBridge => module.transmitted frame .sendDataBridge
  | .sendData => module.transmitted frame .sendData
  | .sendNop => module.transmitted frame .sendNop
  | .sendTestFrame => module.reportStatus frame .sendTestFrame
  | .sendDataMultiBridge => module.reportStatus frame .sendDataMultiBridge
  | .sendDataMulti => module.reportStatus frame .sendDataMulti
  | .memoryPutBuffer => module.reportDone frame .memoryPutBuffer
  | .setDefault => module.reportDone frame .setDefault
  | .controllerChange => module.learned frame .transferPrimaryCtrlRole
  | .createNewPrimary => module.learned frame .createNewPrimarlyCtrl
  | .removeNodeFromNetwork => module.learned frame .removeNodeFromNetwork
  | .removeNodeIdFromNetwork => module.learned frame .removeNodeFromNetwork
  | .addNodeToNetwork => module.learned frame .addNodeToNetwork
  | .replicationSendData => module.reportStatus frame .sendControllerReplication
  | .assignReturnRoute => module.reportStatus frame .assignReturnRoute
  | .deleteReturnRoute => module.reportStatus frame .deleteReturnRoute
  | .assignSucReturnRoute => module.reportStatus frame .assignSucReturnRoute
  | .deleteSucReturnRoute => module.reportStatus frame .deleteSucReturnRoute
  | .setLearnMode => module.learnMode frame
  | .setSlaveLearnMode => module.slaveLearnMode frame
  | .setSucNodeId => module.reportStatus frame .setSucNodeId
  | .requestNodeNeighborUpdate => module.reportStatus frame .requestNeighborUpdate
  | .requestNetworkUpdate => module.reportStatus frame .requestNetworkUpdate
  | .removeFailedNodeId => module.reportStatus frame .removeFailedNode
  | .replaceFailedNode => module.reportStatus frame .replaceFailedNode
  | .serialApiStarted => module.started frame
  | .requestProtocolCcEncryption => module.encryptionRequest frame

/-- A callback is forgotten. -/
def clear (callback : Callback) : Module :=
  { module with registered := Function.update module.registered callback false }

/-- What a function id changes beside the call of a callback. -/
def after : FuncId -> Module
  | .sendProtocolData => module.clear .sendData
  | .sendDataBridge => module.clear .sendDataBridge
  | .sendData => module.clear .sendData
  | .sendNop => module.clear .sendNop
  | .sendTestFrame => module.clear .sendTestFrame
  | .serialApiStarted => { module with awaitingStarted := false }
  | _ => module

/-- `zwave_api_protocol_rx_dispatch`: the callback that is called, if any, and what is left. -/
def rxDispatch : Checked (Option (Upcall frame) × Module) := do
  let type ← byteOf frame 1
  if type.value = frameTypeResponse then pure (none, module)
  else if module.hasCallbacks then
    let command ← byteOf frame 2
    match funcIdOf command.value with
    | some funcId => do
        let upcall ← module.handle frame funcId
        pure (upcall, module.after funcId)
    | none => pure (none, module)
  else pure (none, module)

end Module

end RxDispatch

end SerialApi
