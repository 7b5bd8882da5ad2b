import Mathlib.Algebra.Group.Nat.Defs

/-!
# Data of the Z-Wave TX component

The types of `zwave_tx_definitions.h`, `zwave_controller_connection_info.h`,
`zwave_tx_queue.hpp` and `zwave_tx_process.h` that the TX queue and the TX
process read or write.  Pointers and handles are numbers: a session id is the
value of a 32-bit counter cast to a pointer, so the null pointer is the id
zero.  Fields that are only handed on to a transport are left out.
-/

namespace ZwaveTx

/-- `zwave_node_id_t`. -/
abbrev NodeId := Nat

/-- `zwave_tx_session_id_t`, a counter value cast to `void *`. -/
abbrev SessionId := Nat

/-- A `void *` of a user of the component. -/
abbrev UserPointer := Nat

/-- Milliseconds of the monotonic clock. -/
abbrev ClockTime := Nat

/-- Address of an `on_zwave_tx_send_data_complete_t` function. -/
abbrev CallbackFunction := Nat

/-- The null pointer, which is also the first session id handed out. -/
def nullSession : SessionId := 0

/-- Values of `sl_status_t` the component tells apart. -/
inductive SlStatus
  | ok
  | fail
  | busy
  | full
  | notFound
  | notSupported
  | alreadyInitialized
  deriving DecidableEq

/-- `CLOCK_SECOND` in milliseconds. -/
def clockSecond : ClockTime := 1000

def zwaveTxQueueBufferSize : Nat := 64

def zwaveTxQueueMaxFramesPerNode : Nat := zwaveTxQueueBufferSize / 8

def zwaveTxIncomingFramesBufferSize : Nat := 10

def zwaveTxRouteCacheBufferSize : Nat := 50

def zwaveMaxFrameSize : Nat := 158

def zwaveBroadcastNodeId : NodeId := 255

def zwaveLrBroadcastNodeId : NodeId := 0xFFF

def txFrameInFlightWatchdogMs : ClockTime := 90 * clockSecond

def transmitCompleteOk : Nat := 0x00

def transmitCompleteFail : Nat := 0x02

def transmitCompleteVerified : Nat := 0x05

def isTransmissionSuccessful (status : Nat) : Bool :=
  status == transmitCompleteOk || status == transmitCompleteVerified

/-- `zwave_controller_encapsulation_scheme_t`. -/
inductive Encapsulation
  | networkScheme
  | none
  | security0
  | security2Unauthenticated
  | security2Authenticated
  | security2Access
  deriving DecidableEq

/-- `zwave_controller_endpoint_t`.  The node id shares its storage with the
multicast group. -/
structure Endpoint where
  nodeId : NodeId
  endpointId : Nat := 0
  isMulticast : Bool := false
  deriving DecidableEq

/-- `zwave_controller_connection_info_t`. -/
structure ConnectionInfo where
  local' : Endpoint
  remote : Endpoint
  encapsulation : Encapsulation
  deriving DecidableEq

/-- `zwave_tx_transport_options_t`. -/
structure TransportOptions where
  parentSessionId : SessionId := nullSession
  validParentSessionId : Bool := false
  isTestFrame : Bool := false
  isProtocolFrame : Bool := false
  ignoreIncomingFramesBackOff : Bool := false
  deriving DecidableEq

/-- `zwave_tx_options_t`. -/
structure TxOptions where
  numberOfResponses : Nat
  discardTimeoutMs : ClockTime := 0
  qosPriority : Nat
  fasttrack : Bool := false
  transport : TransportOptions := {}
  deriving DecidableEq

/-- The part of `zwapi_tx_report_t` the component reads or writes. -/
structure TxReport where
  numberOfRepeaters : Nat
  transmitTicks : Nat
  deriving DecidableEq

/-- A report set to zero with `memset`. -/
def TxReport.zero : TxReport := ⟨0, 0⟩

/-- `zwave_tx_queue_element_t`. -/
structure QueueElement where
  data : List UInt8
  sendDataTxStatus : TxReport
  options : TxOptions
  connectionInfo : ConnectionInfo
  zwaveTxSessionId : SessionId
  queueTimestamp : ClockTime
  transmissionTimestamp : ClockTime
  transmissionTime : ClockTime
  transportCompletionStepPending : Bool
  callbackFunction : Option CallbackFunction
  user : UserPointer
  sendDataStatus : Nat
  deriving DecidableEq

def queueElementQosCompare (left right : QueueElement) : Bool :=
  decide (right.options.qosPriority < left.options.qosPriority)

def parentSessionIdEquals (element : QueueElement) (parent : SessionId) : Bool :=
  element.options.transport.validParentSessionId &&
    element.options.transport.parentSessionId == parent

/-- `zwave_tx_state_t`. -/
inductive TxState
  | idle
  | transmissionOngoing
  | backoff
  deriving DecidableEq

/-- `zwave_tx_backoff_reason_t`. -/
inductive BackoffReason
  | currentSessionId
  | expectedAdditionalFrames
  | protocolSendingFrames
  | incomingUnsolicitedRoutedFrame
  deriving DecidableEq

/-- `zwave_tx_events_t` with the data an event carries.  The number of a timer
expiration tells which arming of the timer posted it; the source event carries
no data and no handler reads the number. -/
inductive Event
  | sendNextMessage
  | sendOperationComplete (session : SessionId)
  | backoffTimerExpired (arming : Nat)
  | nodeDeleted (node : NodeId)
  | frameReceived (node : NodeId) (frame : List UInt8)
  deriving DecidableEq

/-- `zwave_network_management_state_t`. -/
inductive NetworkManagementState
  | idle
  | waitingForAdd
  | nodeFound
  | waitForProtocol
  | setDefault
  | learnMode
  | learnModeStarted
  | waitForSecureAdd
  | waitingForNodeRemoval
  | waitingForFailedNodeRemoval
  | waitForSecureLearn
  | replaceFailedReq
  | prepareSucInclision
  | waitForSucInclusion
  | proxyInclusionWaitNif
  | waitForTxToSelfDestruct
  | waitForSelfDestructRemoval
  | failedNodeRemove
  | sendNop
  | assigningReturnRoute
  | neighborDiscoveryOngoing
  deriving DecidableEq

end ZwaveTx
