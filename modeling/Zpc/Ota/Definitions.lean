import Zpc.Foundation.FiniteMap
import Zpc.TransportService.Definitions

/-!
# Sessions and events of the firmware manager

`update_manager_types.hpp` and `ota_external_event_types.hpp`, with what the steps of a
session read from the attribute store and the image store and what they give out.
-/

namespace Ota

def validCombo : UInt8 := 0xFF

def checksumError : UInt8 := 0x00

/-- `FirmwareUpdateMdStatusReport::WAIT_FOR_ACTIVATION`. -/
def statusWaitForActivation : UInt8 := 0xFD

/-- `FirmwareUpdateMdStatusReport::STORED_NO_RESTART`. -/
def statusStoredNoRestart : UInt8 := 0xFE

/-- `FirmwareUpdateMdStatusReport::SUCCESS`. -/
def statusSuccess : UInt8 := 0xFF

def activationStatusSuccess : UInt8 := 0xFF

def maxNopRetries : Nat := 60

/-- `kMaxImageSize`. -/
def maxImageSize : Nat := 10 * 1024 * 1024

/-- `ATTRIBUTE_STORE_INVALID_NODE`. -/
def invalidNode : Nat := 0

inductive OtaState where
  | transferDone
  | startUpload
  | uploadPrepareTransfer
  | uploadDeliverFirmwareChunks
  | uploadPublishTransferProgress
  | uploadRecordPendingTransferAbort
  | uploadProcessDeviceOutcome
  | waitingForActivation
  | activating
  | waitingForReconnect
  | triggerInterview
  | failed
  deriving DecidableEq

namespace OtaState

/-- The states a session is erased in. -/
def isTerminal (state : OtaState) : Bool := state = .transferDone || state = .failed

/-- `active_states` of `is_active_transfer_in_progress`. -/
def isActive (state : OtaState) : Bool :=
  state = .startUpload || state = .uploadPrepareTransfer ||
    state = .uploadDeliverFirmwareChunks || state = .uploadPublishTransferProgress ||
    state = .uploadRecordPendingTransferAbort || state = .uploadProcessDeviceOutcome

end OtaState

inductive OtaTransferOutcome where
  | none
  | success
  | waitForActivation
  | storedNoRestart
  deriving DecidableEq

structure OtaUploadRequest where
  imageName : String
  waitForActivation : Bool
  firmwareTarget : UInt8
  deriving DecidableEq

structure OtaTransferProgress where
  imageSize : UInt32
  bytesTransferred : UInt32
  abortRequested : Bool
  firmwareChecksum : UInt16
  deriving DecidableEq

structure OtaFirmwareMdMetadata where
  manufacturerId : UInt16
  firmwareId : UInt16
  maxFragmentSize : UInt16
  hardwareVersion : UInt8
  numberOfFirmwareTargets : UInt8
  firmwareUpgradable : Bool
  deriving DecidableEq

structure OtaSession where
  nodeId : Nat
  currentState : OtaState
  uploadInProgress : Bool
  resolutionPaused : Bool
  endpointNode : Nat
  upload : OtaUploadRequest
  transfer : OtaTransferProgress
  firmwareMd : OtaFirmwareMdMetadata
  firmwareImageCache : List UInt8
  waitTime : UInt16
  transferOutcome : OtaTransferOutcome
  deriving DecidableEq

/-- The constructor of `OtaSession`. -/
def OtaSession.ofNode (nodeId : Nat) : OtaSession where
  nodeId := nodeId
  currentState := .transferDone
  uploadInProgress := false
  resolutionPaused := false
  endpointNode := invalidNode
  upload := ⟨"", false, 0⟩
  transfer := ⟨0, 0, false, 0⟩
  firmwareMd := ⟨0, 0, 0, 0, 0, false⟩
  firmwareImageCache := []
  waitTime := 0
  transferOutcome := .none

/-- The value of an attribute of a report, by its type. -/
inductive AttributeValue where
  | uint8 (value : UInt8)
  | uint16 (value : UInt16)
  | other

/-- The attribute map of a report. -/
abbrev AttributeMap := List (String × AttributeValue)

/-- The attribute of a name, when it is there as an 8-bit value. -/
def AttributeMap.uint8 (attributes : AttributeMap) (name : String) : Option UInt8 :=
  match attributes.lookup name with
  | some (.uint8 value) => some value
  | _ => none

/-- The attribute of a name, when it is there as a 16-bit value. -/
def AttributeMap.uint16 (attributes : AttributeMap) (name : String) : Option UInt16 :=
  match attributes.lookup name with
  | some (.uint16 value) => some value
  | _ => none

/-- The payload of an event, by the type it is stored with. -/
inductive Payload where
  | startFirmwareUpload (nodeId : Nat) (imageName : String) (waitForActivation : Bool)
  | zwaveReport (attributeMap : AttributeMap)
  | other

/-- `ota_external_event_t`. -/
inductive ExternalEvent where
  | mqttStartUpload
  | mqttAbort
  | mqttActivate
  | mqttProgressRequest
  | firmwareMdReportReceived
  | firmwareUpdateMdRequestReportReceived
  | firmwareUpdateMdGetReceived
  | firmwareUpdateMdStatusReportReceived
  | firmwareUpdateActivationStatusReport
  deriving DecidableEq

/-- `ota_external_event_data`. -/
structure ExternalEventData where
  event : ExternalEvent
  nodeId : Nat
  payload : Payload

/-- The attributes of the group `FIRMWARE_MD_REPORT_GROUP`. -/
structure FirmwareMdReportGroup where
  manufacturerId : UInt16
  firmware0Id : UInt16
  maxFragmentSize : UInt16
  hardwareVersion : UInt8
  numberOfFirmwareTargets : UInt8
  firmwareUpgradable : UInt8

/-- What the stores, the lower layer and the map of sessions answer during one event.  A
group without a readable attribute makes the access throw. -/
structure Surroundings where
  endpointNode : Nat -> Nat
  nodeExists : Nat -> Bool
  firmwareMdReportGroup : Nat -> Option (Option FirmwareMdReportGroup)
  imageFile : String -> List UInt8
  enqueuesReport : Nat -> Bool
  acknowledgesNop : Nat -> Bool
  order : List Nat

/-- `OTAImageStore::get_image`, on the file of a valid name. -/
def Surroundings.getImage (env : Surroundings) (imageName : String) : List UInt8 :=
  if maxImageSize < (env.imageFile imageName).length then []
  else env.imageFile imageName

theorem Surroundings.length_getImage_le (env : Surroundings) (imageName : String) :
    (env.getImage imageName).length ≤ maxImageSize := by
  unfold getImage
  split
  · exact Nat.zero_le _
  · omega

/-- `command_class_firmware_update_md_report_payload_t`. -/
structure MdReport where
  endpointNode : Nat
  reportNumber : UInt16
  isLast : Bool
  data : List UInt8
  qosOffset : UInt32

/-- `command_class_firmware_update_md_request_get_payload_t`. -/
structure MdRequestGet where
  endpointNode : Nat
  manufacturerId : UInt16
  firmwareId : UInt16
  checksum : UInt16
  firmwareTarget : UInt8
  fragmentSize : UInt16
  activation : Bool
  hardwareVersion : UInt8

/-- `command_class_firmware_update_md_activation_set_payload_t`. -/
structure ActivationSet where
  endpointNode : Nat
  manufacturerId : UInt16
  firmwareId : UInt16
  checksum : UInt16
  firmwareTarget : UInt8
  hardwareVersion : UInt8

/-- The topics reports are published on. -/
inductive ReportTopic where
  | startFirmwareUploadReport
  | progressReport

/-- A published report: the keys that are set, with their values. -/
structure MqttReport where
  topic : ReportTopic
  nodeId : Nat
  imageName : Option String
  status : Option String
  reason : Option String
  imageSize : Option UInt32
  currentSent : Option UInt32
  percentage : Option UInt32
  statusCode : Option UInt8
  waittime : Option UInt16

/-- What the firmware manager gives out. -/
inductive Output where
  | pauseNodeResolution (nodeId endpointNode : Nat)
  | resumeNodeResolution (nodeId endpointNode : Nat)
  | mdRequestGet (payload : MdRequestGet)
  | mdReport (payload : MdReport)
  | activationSet (payload : ActivationSet)
  | nodeInterviewRequested (nodeId : Nat)
  | published (report : MqttReport)

/-- The session a step works on, what was given out so far, and whether the step threw. -/
structure Context where
  session : OtaSession
  outputs : List Output
  threw : Bool

namespace Context

/-- Give something out. -/
def emit (ctx : Context) (output : Output) : Context :=
  { ctx with outputs := ctx.outputs ++ [output] }

variable (ctx : Context) (output : Output)

@[simp] theorem emit_session : (ctx.emit output).session = ctx.session := rfl

@[simp] theorem emit_outputs : (ctx.emit output).outputs = ctx.outputs ++ [output] := rfl

@[simp] theorem emit_threw : (ctx.emit output).threw = ctx.threw := rfl

end Context

end Ota
