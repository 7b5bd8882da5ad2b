import Zpc.ZwaveTx.Definitions

/-!
# Data of the network management

The states and events of `nm_state_machine.c`, the variables of `nms`, the queue
of return routes, and the event queue of the handler thread.
-/

namespace NetworkManagement

/-- `zwave_network_management_state_t`. -/
abbrev State := ZwaveTx.NetworkManagementState

def nodeInfoMaxSize : Nat := 64

/-- `ZWAVE_CONTROLLER_MAXIMUM_COMMAND_CLASS_LIST_LENGTH`. -/
def maximumCommandClassListLength : Nat := 64

def assignReturnRouteQueueSize : Nat := 10

/-- `ASSIGN_RETURN_ROUTE_COOLDOWN` in milliseconds. -/
def assignReturnRouteCooldown : Nat := 60000

def zwMaxNodes : Nat := 232

def zwLrMinNodeId : Nat := 256

def zwLrMaxNodeId : Nat := 4000

def commandClassSecurity : Nat := 0x98

def commandClassSecurity2 : Nat := 0x9F

def initiateProxyInclusionReplace : Nat := 0x03

/-- `ZWAVE_CONTROLLER_S2_AUTHENTICATED_KEY | ZWAVE_CONTROLLER_S2_ACCESS_KEY`. -/
def s2AuthenticatedOrAccessKey : UInt8 := 0x06

/-- A DSK of zeros. -/
def zeroDsk : List UInt8 := List.replicate 16 0

/-- `zwave_kex_fail_type_t`. -/
inductive KexFailType
  | none
  | kexKey
  | kexScheme
  | kexCurves
  | decrypt
  | cancel
  | auth
  | keyGet
  | keyVerify
  | keyReport
  | unknown
  deriving DecidableEq

/-- `zwave_learn_mode_t`. -/
inductive LearnMode
  | none
  | nwi
  | nwe
  | smartStart
  deriving DecidableEq

/-- `nm_s2_user_input_t`. -/
inductive S2UserInput
  | none
  | grantKeys
  | acceptDsk
  deriving DecidableEq

/-- `zwave_protocol_t`, as far as inclusions use it. -/
inductive Protocol
  | zwave
  | zwaveLongRange
  deriving DecidableEq

/-- The bits of `controller_capabilities_bitmask` that are looked at. -/
structure ControllerCapabilities where
  isSecondary : Bool
  nodeIdServerPresent : Bool
  isSuc : Bool

/-- `zwave_node_info_t`. -/
structure NodeInfo where
  listeningProtocol : UInt8
  optionalProtocol : UInt8
  basicDeviceClass : UInt8
  genericDeviceClass : UInt8
  specificDeviceClass : UInt8
  commandClassList : List Nat
  deriving DecidableEq

/-- The node info of a record that is filled with zeros. -/
def NodeInfo.empty : NodeInfo := ⟨0, 0, 0, 0, 0, []⟩

/-- `LEARN_INFO`: the status apart, with the bytes behind `pCmd`. -/
structure LearnInfo where
  bSource : Nat
  pCmd : List UInt8
  deriving DecidableEq

def LearnInfo.bLen (info : LearnInfo) : Nat := info.pCmd.length

/-- A `LEARN_INFO` of zeros. -/
def LearnInfo.empty : LearnInfo := ⟨0, []⟩

inductive AddNodeStatus
  | learnReady
  | nodeFound
  | addingController
  | protocolDone
  | addingEndNode
  | failed
  | notPrimary
  | done
  | unknown

/-- `smartstart_event_data_t`. -/
structure SmartStartEventData where
  dsk : List UInt8
  grantedKeys : UInt8
  preferredInclusion : Protocol
  deriving DecidableEq

/-- `nm_event_t`, without the events that nothing posts or handles. -/
inductive Event
  | addLearnReady
  | addNodeFound
  | addController
  | addProtocolDone
  | addEndNode
  | addFailed
  | addNotPrimary
  | addNodeStatusDone
  | nodeAdd
  | timeout
  | securityDone
  | addSecurityReqKeys
  | addSecurityKeyChallenge
  | addSecurityKeysSet
  | addSecurityDskSet
  | learnSet
  | learnStarted
  | learnDone
  | learnFailed
  | startProxyInclusion
  | nodeAddSmartStart (data : SmartStartEventData)
  | removeFailed
  | removeFailedOk
  | removeFailedFail
  | smartStartEnable
  | setDefault
  | setDefaultComplete
  | nodeRemove
  | nodeRemoveFailed
  | nodeRemoveComplete
  | abort
  | nopFail
  | nopSuccess
  | requestNodeNeighborRequest (nodeId : Nat)
  | requestNodeNeighborRequestComplete
  | assignReturnRouteStart
  | assignReturnRouteCompleted
  deriving DecidableEq

/-- The sub-state flags that are used. -/
structure Flags where
  s2Add : Bool
  smartStartInclusion : Bool
  reportDsk : Bool

/-- No flag is set. -/
def Flags.empty : Flags := ⟨false, false, false⟩

/-- `network_mgmt_state_t`, without its timer. -/
structure Nms where
  cachedHomeId : Nat
  cachedLocalNodeId : Nat
  cachedNodeList : List Nat
  controllerCapabilities : ControllerCapabilities
  nodeIdBeingHandled : Nat
  exclusionNodeIdFilter : Nat
  state : State
  flags : Flags
  expectedDsk : List UInt8
  reportedDsk : List UInt8
  verifiedDskInput : List UInt8
  reportedDskBlanked : Nat
  requestedKeys : UInt8
  expectedS2UserInput : S2UserInput
  requestedCsa : Bool
  acceptedS2Bootstrapping : Bool
  acceptedCsa : Bool
  s2BootstrappingStarted : Bool
  kexFailType : KexFailType
  grantedKeys : UInt8
  inclusionProtocol : Protocol
  nodeInfo : NodeInfo
  smartStartAddModeEnabled : Bool
  smartStartLearnModeEnabled : Bool
  learnModeIntent : LearnMode
  isController : Bool
  proxyInclusionStep : Nat
  s0InclusionEnabled : Bool

/-- `zwave_network_management_route_state_t`. -/
inductive RouteState
  | unassignedEntry
  | notEstablished
  | inProgress
  | established
  deriving DecidableEq

/-- `assign_return_route_t`. -/
structure Route where
  nodeId : Nat
  destinationNodeId : Nat
  state : RouteState
  reuseTimestamp : Nat

/-- `clear_queue_entry`. -/
def Route.cleared : Route := ⟨0, 0, .unassignedEntry, 0⟩

/-- `zwave_controller_on_node_added`: the arguments of a call. -/
structure NodeAdded where
  isOk : Bool
  nodeInfo : NodeInfo
  nodeId : Nat
  dsk : List UInt8
  grantedKeys : UInt8
  kexFailType : KexFailType
  inclusionProtocol : Protocol

/-- What an accepted request asks for, as far as it is kept in `nms`. -/
inductive Request
  | removeFailed (nodeId : Nat)
  | removeNode (nodeId : Nat)
  | learnMode (mode : LearnMode)
  | startProxyInclusion (nodeId : Nat) (nodeInfo : NodeInfo) (inclusionStep : Nat)
  deriving DecidableEq

/-- What posted an event.  The code keeps nothing of this. -/
inductive Origin
  | internal
  | request (request : Request)
  | statusUpdate (info : LearnInfo)

/-- An entry of the event queue. -/
structure Posting where
  event : Event
  origin : Origin

end NetworkManagement
