import Zpc.Foundation.Run
import Zpc.TransportService.Receiver

/-!
# The Transport Service and its wrapper

`zwave_transport_service_wrapper.c` is the only user of the service: it refuses
a datagram while the last one is not completed, stands between the service and
the Z-Wave TX queue and calls the service back.  One step is one call from
outside: a request, the completion of a frame, a received frame or the
expiration of a timer.
-/

namespace TransportService

/-- What the wrapper asks its surroundings about a node. -/
structure Surroundings where
  maximumPayload : Nat
  isNodeS2Capable : Bool
  transportServiceVersion : Nat

/-- The arguments of `zwave_transport_service_send_data`. -/
structure SendRequest where
  localNodeId : Nat
  remoteNodeId : Nat
  isMulticast : Bool
  data : List UInt8
  onSendComplete : Option Nat
  parentSessionId : Nat

/-- `sl_status_t`. -/
inductive SlStatus
  | ok
  | fail
  | busy
  | wouldOverflow
  | notSupported
  | notFound

/-- The transmission of a datagram from its First Fragment on: its session id,
what was marked as aborted then, and whether a Segment Wait led to it. -/
structure Transmission where
  sessionId : Nat
  transmissionAborted : Nat
  isRestart : Bool
  deriving DecidableEq

/-- The wrapper around the service.  `calledBack` counts the frames the lower
layer called back for, `requests` the calls of `transport_service_send_data`,
which number their callbacks; `acceptedRequests` are the numbers of those that
succeeded, `forwarded` the completions passed on to the users, with their parent
sessions, and `transmissions` the calls of `send_first_frag`, oldest first. -/
structure Wrapper where
  service : Service
  transportServiceBusy : Bool
  interceptedOnSendDataComplete : Option Nat
  parentSessionId : Nat
  calledBack : Nat
  requests : Nat
  acceptedRequests : List Nat
  forwarded : List (Nat × Nat)
  transmissions : List Transmission

namespace Wrapper

/-- The wrapper and the service before their first use. -/
def initial : Wrapper where
  service := Service.unused
  transportServiceBusy := false
  interceptedOnSendDataComplete := none
  parentSessionId := 0
  calledBack := 0
  requests := 0
  acceptedRequests := []
  forwarded := []
  transmissions := []

variable (wrapper : Wrapper)

/-- `on_transport_service_send_data_complete`, for every completion the service
has reported since. -/
def settle (next : Service) : Wrapper :=
  let reported := next.completions.drop wrapper.service.completions.length
  { wrapper with
    service := next
    transportServiceBusy := wrapper.transportServiceBusy && reported.isEmpty
    forwarded := wrapper.forwarded ++
      (if wrapper.interceptedOnSendDataComplete.isSome then
        reported.map fun completion => (wrapper.parentSessionId, if completion.2 = 0 then 0 else 1)
      else []) }

/-- Note that a transmission has begun. -/
def recordTransmission (isRestart : Bool) : Wrapper :=
  { wrapper with
    transmissions := wrapper.transmissions ++
      [{ sessionId := wrapper.service.scb.cmn.sessionId
         transmissionAborted := wrapper.service.scb.transmissionAborted
         isRestart := isRestart }] }

/-- A datagram the Transport Service is not used for. -/
def isNotSupported (env : Surroundings) (request : SendRequest) : Bool :=
  request.isMulticast ||
    request.remoteNodeId == 0xff || request.remoteNodeId == 0xfff ||
    decide (request.data.length ≤ env.maximumPayload) ||
    (!env.isNodeS2Capable && decide (env.transportServiceVersion < 2))

def zwaveTransportServiceSendData (env : Surroundings) (request : SendRequest) (now : Nat)
    (accepted : Bool) : SlStatus × Wrapper :=
  if isNotSupported env request then (.notSupported, wrapper)
  else if wrapper.transportServiceBusy then (.busy, wrapper)
  else
    let number := wrapper.requests
    let wrapper :=
      { wrapper with
        interceptedOnSendDataComplete := request.onSendComplete
        parentSessionId := request.parentSessionId
        requests := number + 1 }
    let answer :=
      wrapper.service.transportServiceSendData request.localNodeId request.remoteNodeId
        request.data env.maximumPayload (some number) now accepted
    let wrapper := wrapper.settle answer.2
    match answer.1 with
    | .sendSuccess =>
        let wrapper := wrapper.recordTransmission false
        (.ok,
          { wrapper with
            transportServiceBusy := true
            acceptedRequests := wrapper.acceptedRequests ++ [number] })
    | .willOverflow => (.wouldOverflow, wrapper)
    | .busy => (.fail, wrapper)

/-- `on_zwave_tx_send_data_complete`: whatever frame is completed, the callback
given last is called. -/
def onZwaveTxSendDataComplete (status now : Nat) (accepted : Bool) : Wrapper :=
  let outcome := if status = 0 then 0 else 1
  match wrapper.service.intercepted with
  | .none => wrapper
  | .transportServiceSenddataCb =>
      wrapper.settle (wrapper.service.transportServiceSenddataCb now accepted)
  | .tempCallbackLastFrag => wrapper.settle (wrapper.service.tempCallbackLastFrag outcome accepted)
  | .tempCallbackReplyFragReq => wrapper.settle (wrapper.service.tempCallbackReplyFragReq outcome)

/-- The commands `zwave_transport_service_on_frame_received` passes on. -/
def isKnownCommand (command : Nat) : Bool :=
  command == commandFirstFragment || command == commandSegmentCompleteV2 ||
    command == commandSegmentRequestV2 || command == commandSegmentWaitV2 ||
    command == commandSubsequentFragment

/-- `zwave_transport_service_on_frame_received`.  The length of the frame goes
through an eight-bit parameter. -/
def zwaveTransportServiceOnFrameReceived (source dest : Nat) (rxType : ReceiveType)
    (frame : List UInt8) (now : Nat) (accepted retried : Bool) : SlStatus × Wrapper :=
  if Service.byteAt frame 0 ≠ commandClassTransportServiceV2 then (.notSupported, wrapper)
  else if isKnownCommand (Service.byteAt frame 1 &&& 0xf8) = false then (.notFound, wrapper)
  else
    let answer :=
      wrapper.service.transportServiceCommandHandler source dest rxType frame
        (frame.length % 2 ^ 8) now accepted retried
    (if answer.1 then .ok else .fail, wrapper.settle answer.2)

/-- The timers of the service. -/
inductive Timer
  | reset
  | waitRestart
  | btwn2Frags
  | fc
  | rx

/-- Whether a timer is armed. -/
def isArmed (service : Service) : Timer -> Bool
  | .reset => service.scb.resetTimer.isSome
  | .waitRestart => service.scb.waitRestartTimer.isSome
  | .btwn2Frags => service.scb.timerBtwn2Frags.isSome
  | .fc => service.rcb.fcTimer.isSome
  | .rx => service.rcb.rxTimer.isSome

/-- The function an armed timer calls.  The timer is no longer armed then. -/
def timerExpired (timer : Timer) (now : Nat) (accepted retried : Bool) : Wrapper :=
  let service := wrapper.service
  match timer with
  | .reset => wrapper.settle service.resetTransportService
  | .waitRestart =>
      let service := { service with scb := { service.scb with waitRestartTimer := none } }
      (wrapper.settle (service.sendFirstFrag now accepted)).recordTransmission true
  | .btwn2Frags =>
      let service := { service with scb := { service.scb with timerBtwn2Frags := none } }
      wrapper.settle (service.sendSubseqFrag accepted)
  | .fc => wrapper.settle (service.stopFcTimer.fcTimerExpired accepted)
  | .rx => wrapper.settle (service.rxTimerExpired accepted retried)

/-- What can happen to the service.  `accepted` and `retried` are the answers of
the lower layer to what the service sends then. -/
inductive Action
  | sendData
      (env : Surroundings)
      (request : SendRequest)
      (now : Nat)
      (accepted : Bool)
  | lowerLayerCompletion (status now : Nat) (accepted : Bool)
  | frameReceived
      (source dest : Nat)
      (rxType : ReceiveType)
      (frame : List UInt8)
      (now : Nat)
      (accepted retried : Bool)
  | timerExpiration (timer : Timer) (now : Nat) (accepted retried : Bool)

/-- One step. -/
def step : Action -> Wrapper
  | .sendData env request now accepted =>
      (wrapper.zwaveTransportServiceSendData env request now accepted).2
  | .lowerLayerCompletion status now accepted =>
      if wrapper.calledBack < wrapper.service.sent.length then
        { wrapper with calledBack := wrapper.calledBack + 1 }.onZwaveTxSendDataComplete
          status now accepted
      else wrapper
  | .frameReceived source dest rxType frame now accepted retried =>
      (wrapper.zwaveTransportServiceOnFrameReceived source dest rxType frame now accepted
        retried).2
  | .timerExpiration timer now accepted retried =>
      if isArmed wrapper.service timer then wrapper.timerExpired timer now accepted retried
      else wrapper

end Wrapper

end TransportService
