import Zpc.NetworkManagement.StateMachine
import Zpc.Foundation.Run

/-!
# The network management as a system

The API functions and the callbacks write variables and post events, the handler
thread handles the events one after the other, and the timer thread handles a
timeout itself.  A timer that has expired is out of reach of `timer_set` and
`timer_stop`: its callback runs when the timer thread gets to it, with other
events handled in between.

A call, the handling of an event and a callback of the timer are one step each.  The
source has no lock between these threads, so two of them can also overlap; such runs
are not described here.
-/

namespace NetworkManagement

/-- A timeout that was handled: the setting of the timer that expired, the setting
made on entry to the state it was handled in, and the states before and after. -/
structure TimeoutRecord where
  expired : Nat
  entry : Option Nat
  before : State
  after : State
  deriving DecidableEq

/-- What the code does not keep: the setting of the timer on entry to the state, the
number of timer operations when the timer expired, the calls of
`zwave_controller_on_node_added` since `NM_IDLE` was left and whether the inclusion
was aborted while it waited for the protocol, the states that a return route took
the machine out of, what requests asked for and what they were started with, the
information of status updates and the information their events were handled with,
and the timeouts. -/
structure History where
  entryTimer : Option Nat
  operationsAtExpiry : Nat
  added : List NodeAdded
  aborted : Bool
  interrupted : List State
  starts : List (Request × Request)
  updates : List (LearnInfo × LearnInfo)
  timeouts : List TimeoutRecord

/-- The variables of the component.  The settings of the timer are numbered by the
timer operations so far; one of them may run, and one may have expired with its
callback still to run. -/
structure Machine where
  nms : Nms
  routes : List Route
  learnInfo : LearnInfo
  events : List Posting
  /-- The setting of the timer that runs. -/
  timer : Option Nat
  /-- The setting that expired with its callback still to run. -/
  expired : Option Nat
  /-- How often the timer was set or stopped. -/
  timerOperations : Nat
  history : History

namespace Machine

/-- The machine after `nm_state_machine_init`. -/
def initial (env : Surroundings) : Machine where
  nms :=
    { cachedHomeId := env.homeId
      cachedLocalNodeId := env.localNodeId
      cachedNodeList := env.fullNodeList
      controllerCapabilities := env.controllerCapabilities
      nodeIdBeingHandled := 0
      exclusionNodeIdFilter := 0
      state := .idle
      flags := .empty
      expectedDsk := zeroDsk
      reportedDsk := zeroDsk
      verifiedDskInput := zeroDsk
      reportedDskBlanked := 0
      requestedKeys := 0
      expectedS2UserInput := .none
      requestedCsa := false
      acceptedS2Bootstrapping := false
      acceptedCsa := false
      s2BootstrappingStarted := false
      kexFailType := .none
      grantedKeys := 0
      inclusionProtocol := .zwave
      nodeInfo := .empty
      smartStartAddModeEnabled := false
      smartStartLearnModeEnabled := false
      learnModeIntent := .none
      isController := false
      proxyInclusionStep := 0
      s0InclusionEnabled := true }
  routes := List.replicate assignReturnRouteQueueSize .cleared
  learnInfo := .empty
  events := []
  timer := none
  expired := none
  timerOperations := 0
  history :=
    { entryTimer := none
      operationsAtExpiry := 0
      added := []
      aborted := false
      interrupted := []
      starts := []
      updates := []
      timeouts := [] }

variable (machine : Machine)

/-- Some variables are changed. -/
def withNms (nms : Nms) : Machine := { machine with nms := nms }

/-- `zwave_network_management_post_event`. -/
def post (event : Event) (origin : Origin) : Machine :=
  { machine with events := machine.events ++ [⟨event, origin⟩] }

/-- `timer_set` and `timer_stop`. -/
def operateTimer : TimerOperation -> Machine
  | .keep => machine
  | .set =>
      { machine with
        timer := some machine.timerOperations
        timerOperations := machine.timerOperations + 1 }
  | .stop => { machine with timer := none, timerOperations := machine.timerOperations + 1 }

/-- What a branch of the switch does. -/
def apply (reaction : Reaction) : Machine :=
  let operated := machine.operateTimer reaction.timer
  { operated with
    nms := reaction.nms
    routes := reaction.routes
    events := machine.events ++ reaction.posts.map fun event => ⟨event, .internal⟩
    history := { machine.history with added := machine.history.added ++ reaction.added } }

/-- The clean-up when the machine is idle after the switch. -/
def cleanUp : Machine :=
  if machine.nms.state = .idle then
    (machine.operateTimer .stop).withNms (resetLastOperationData machine.nms)
  else machine

/-- The next return route is assigned, whatever the state. -/
def assignReturnRoutes (env : Surroundings) (machine : Machine) : Machine :=
  let next := assignNext env machine.routes
  if next.1 then
    { machine with
      nms := { machine.nms with state := .assigningReturnRoute }
      routes := next.2
      history :=
        { machine.history with
          interrupted :=
            if machine.nms.state = .idle ∨ machine.nms.state = .assigningReturnRoute then
              machine.history.interrupted
            else machine.history.interrupted ++ [machine.nms.state] } }
  else { machine with routes := next.2 }

/-- SmartStart is activated when the machine is idle. -/
def activateSmartStart : Machine :=
  if machine.nms.state = .idle ∧ ¬ (machine.nms.smartStartAddModeEnabled ∧ isZpcSis machine.nms) ∧
      machine.nms.smartStartLearnModeEnabled ∧ weAreAloneInOurNetwork machine.nms then
    machine.withNms { machine.nms with learnModeIntent := .smartStart }
  else machine

/-- The end of `nm_fsm_post_event`, after the switch. -/
def afterSwitch (env : Surroundings) (machine : Machine) : Machine :=
  (machine.cleanUp.assignReturnRoutes env).activateSmartStart

/-- The reaction of the machine to an event. -/
def reaction (env : Surroundings) (machine : Machine) (event : Event) : Reaction :=
  react env machine.nms machine.routes machine.learnInfo event

/-- `nm_fsm_post_event`.  The event that a branch hands on ends after the switch
itself. -/
def fsmPostEvent (env : Surroundings) (machine : Machine) (event : Event) : Machine :=
  let reacted := machine.apply (machine.reaction env event)
  match (machine.reaction env event).ending with
  | .afterSwitch => reacted.afterSwitch env
  | .atOnce => reacted
  | .withAnother another => (reacted.apply (reacted.reaction env another)).afterSwitch env

/-- A period outside `NM_IDLE` begins with the event that is handled. -/
def beginPeriod : Machine :=
  if machine.nms.state = .idle then
    { machine with history := { machine.history with added := [], aborted := false } }
  else machine

/-- An event was handled: the entry to a new state is noted, and the abortion of an
inclusion that waits for the protocol. -/
def note (earlier : Machine) (event : Event) (machine : Machine) : Machine :=
  { machine with
    history :=
      { machine.history with
        aborted := machine.history.aborted ||
          (earlier.nms.state = .waitForProtocol && event = .abort)
        entryTimer :=
          if machine.nms.state = earlier.nms.state then machine.history.entryTimer
          else machine.timer.filter fun setting => earlier.timerOperations ≤ setting } }

/-- The handling of an event. -/
def handle (env : Surroundings) (machine : Machine) (event : Event) : Machine :=
  note machine event (machine.beginPeriod.fsmPostEvent env event)

end Machine

/-- The request as an operation that starts finds it. -/
def Request.found (nms : Nms) : Request -> Request
  | .removeFailed _ => .removeFailed nms.nodeIdBeingHandled
  | .removeNode _ => .removeNode nms.exclusionNodeIdFilter
  | .learnMode _ => .learnMode nms.learnModeIntent
  | .startProxyInclusion _ _ _ =>
      .startProxyInclusion nms.nodeIdBeingHandled nms.nodeInfo nms.proxyInclusionStep

namespace Machine

variable (machine : Machine)

/-- What an event is handled with is noted: the parameters of a request in
`NM_IDLE`, and the information of a status update with a node. -/
def noteOrigin (posting : Posting) : Machine :=
  match posting.origin with
  | .internal => machine
  | .request request =>
      if machine.nms.state = .idle then
        { machine with
          history :=
            { machine.history with
              starts := machine.history.starts ++ [(request, request.found machine.nms)] } }
      else machine
  | .statusUpdate info =>
      if posting.event = .addController ∨ posting.event = .addEndNode then
        { machine with
          history :=
            { machine.history with
              updates := machine.history.updates ++ [(info, machine.learnInfo)] } }
      else machine

variable (env : Surroundings)

/-- `zwave_network_management_handler::run`. -/
def handleNext (machine : Machine) : Machine :=
  match machine.events with
  | [] => machine
  | posting :: rest => ({ machine with events := rest }.noteOrigin posting).handle env posting.event

/-- The timer expires: the timer thread takes it out. -/
def timerExpires : Machine :=
  match machine.timer, machine.expired with
  | some setting, none =>
      { machine with
        timer := none
        expired := some setting
        history := { machine.history with operationsAtExpiry := machine.timerOperations } }
  | _, _ => machine

/-- `nm_nms_timer_callback`. -/
def timerCallback (machine : Machine) : Machine :=
  match machine.expired with
  | none => machine
  | some setting =>
      let handled := { machine with expired := none }.handle env .timeout
      { handled with
        history :=
          { handled.history with
            timeouts := handled.history.timeouts ++
              [⟨setting, machine.history.entryTimer, machine.nms.state, handled.nms.state⟩] } }

/-- `network_management_is_ready_for_a_new_operation`. -/
def isReadyForANewOperation (machine : Machine) : Bool :=
  machine.nms.state = .idle && !env.isResetOngoing

/-- A request is accepted: its parameters are written, and its event is posted. -/
def accept (machine : Machine) (nms : Nms) (event : Event) (origin : Origin) : Machine :=
  if machine.isReadyForANewOperation env then (machine.withNms nms).post event origin
  else machine

/-- `zwave_network_management_set_default`. -/
def setDefault (machine : Machine) : Machine :=
  if machine.nms.state = .assigningReturnRoute then
    { machine.withNms { machine.nms with state := .idle } with
      routes := clearQueue machine.routes
      history := { machine.history with entryTimer := none } }.post .setDefault .internal
  else if machine.nms.state = .idle then machine.post .setDefault .internal
  else machine

/-- `zwave_network_management_abort`. -/
def abort (machine : Machine) : Machine :=
  if machine.nms.state = .idle then machine else machine.post .abort .internal

/-- The first loop of `zwave_network_management_return_route_add_to_queue`: whether
the route is queued already, and the queue. -/
def findRoute (clock nodeId destinationNodeId : Nat) : List Route -> Bool × List Route
  | [] => (false, [])
  | route :: rest =>
      let reusable :=
        if route.state = .established ∧ route.reuseTimestamp < clock then .cleared else route
      if reusable.nodeId = nodeId ∧ reusable.destinationNodeId = destinationNodeId then
        (true, reusable :: rest)
      else
        ((findRoute clock nodeId destinationNodeId rest).1,
          reusable :: (findRoute clock nodeId destinationNodeId rest).2)

/-- The second loop of `zwave_network_management_return_route_add_to_queue`: whether
there was room, and the queue. -/
def insertRoute (nodeId destinationNodeId : Nat) : List Route -> Bool × List Route
  | [] => (false, [])
  | route :: rest =>
      if route.nodeId = 0 then
        (true,
          { route with
            nodeId := nodeId
            destinationNodeId := destinationNodeId
            state := .notEstablished } :: rest)
      else
        ((insertRoute nodeId destinationNodeId rest).1,
          route :: (insertRoute nodeId destinationNodeId rest).2)

/-- `zwave_network_management_assign_return_route`. -/
def assignReturnRoute (machine : Machine) (nodeId destinationNodeId : Nat) : Machine :=
  if env.isResetOngoing then machine
  else
    let found := findRoute env.clock nodeId destinationNodeId machine.routes
    if found.1 then { machine with routes := found.2 }
    else
      let inserted := insertRoute nodeId destinationNodeId found.2
      if inserted.1 then
        { machine with routes := inserted.2 }.post .assignReturnRouteStart .internal
      else { machine with routes := found.2 }

/-- The calls of the API. -/
inductive Call
  | enableSmartStartAddMode (enabled : Bool)
  | enableSmartStartLearnMode (enabled : Bool)
  | addNodeWithDsk (data : SmartStartEventData)
  | setDefault
  | removeFailed (nodeId : Nat)
  | removeNode (nodeId : Nat)
  | abort
  | addNode
  | keysSet (accepted csa : Bool) (grantedKeys : UInt8)
  | dskSet (dsk : List UInt8)
  | learnMode (mode : LearnMode)
  | requestNodeNeighborDiscovery (nodeId : Nat)
  | startProxyInclusion (nodeId : Nat) (nodeInfo : NodeInfo) (inclusionStep : Nat)
  | assignReturnRoute (nodeId destinationNodeId : Nat)

/-- The functions of `zwave_network_management.c`. -/
def call (machine : Machine) : Call -> Machine
  | .enableSmartStartAddMode enabled =>
      (machine.withNms { machine.nms with smartStartAddModeEnabled := enabled }).post
        .smartStartEnable .internal
  | .enableSmartStartLearnMode enabled =>
      (machine.withNms { machine.nms with smartStartLearnModeEnabled := enabled }).post
        .smartStartEnable .internal
  | .addNodeWithDsk data => machine.accept env machine.nms (.nodeAddSmartStart data) .internal
  | .setDefault => machine.setDefault
  | .removeFailed nodeId =>
      if nodeId ∈ machine.nms.cachedNodeList then
        machine.accept env { machine.nms with nodeIdBeingHandled := nodeId } .removeFailed
          (.request (.removeFailed nodeId))
      else machine
  | .removeNode nodeId =>
      if zwMaxNodes < nodeId then machine
      else
        machine.accept env { machine.nms with exclusionNodeIdFilter := nodeId } .nodeRemove
          (.request (.removeNode nodeId))
  | .abort => machine.abort
  | .addNode => machine.accept env machine.nms .nodeAdd .internal
  | .keysSet accepted csa grantedKeys =>
      if machine.nms.state = .waitForSecureAdd ∧ machine.nms.expectedS2UserInput = .grantKeys then
        (machine.withNms
          { machine.nms with
            acceptedS2Bootstrapping := accepted
            grantedKeys := grantedKeys
            acceptedCsa := csa
            expectedS2UserInput := .none }).post .addSecurityKeysSet .internal
      else machine
  | .dskSet dsk =>
      if machine.nms.state = .waitForSecureAdd ∧ machine.nms.expectedS2UserInput = .acceptDsk then
        (machine.withNms
          { machine.nms with verifiedDskInput := dsk, expectedS2UserInput := .none }).post
          .addSecurityDskSet .internal
      else machine
  | .learnMode mode =>
      if mode = .none then
        if machine.nms.state = .learnMode then machine.post .abort .internal else machine
      else
        machine.accept env { machine.nms with learnModeIntent := mode } .learnSet
          (.request (.learnMode mode))
  | .requestNodeNeighborDiscovery nodeId =>
      machine.accept env machine.nms (.requestNodeNeighborRequest nodeId) .internal
  | .startProxyInclusion nodeId nodeInfo inclusionStep =>
      machine.accept env
        { machine.nms with
          nodeIdBeingHandled := nodeId
          flags := .empty
          nodeInfo := nodeInfo
          proxyInclusionStep := inclusionStep } .startProxyInclusion
        (.request (.startProxyInclusion nodeId nodeInfo inclusionStep))
  | .assignReturnRoute nodeId destinationNodeId =>
      machine.assignReturnRoute env nodeId destinationNodeId

/-- `get_event_for_learn_status`. -/
def eventForLearnStatus : AddNodeStatus -> Event
  | .learnReady => .addLearnReady
  | .nodeFound => .addNodeFound
  | .addingController => .addController
  | .protocolDone => .addProtocolDone
  | .addingEndNode => .addEndNode
  | .failed => .addFailed
  | .notPrimary => .addNotPrimary
  | .done => .addNodeStatusDone
  | .unknown => .addLearnReady

/-- The information that `add_node_status_update` backs up. -/
def backUp (info : LearnInfo) : LearnInfo := if nodeInfoMaxSize < info.bLen then .empty else info

/-- The status of `on_remove_node_status_update`. -/
inductive RemoveNodeStatus
  | removing (bSource : Nat)
  | done
  | failed

/-- The status of `on_learn_mode_callback`. -/
inductive LearnModeStatus
  | started (bSource : Nat)
  | done
  | failed

/-- The callbacks that other components make. -/
inductive Callback
  | addNodeStatusUpdate (status : AddNodeStatus) (info : LearnInfo)
  | secureInclusionComplete (grantedKeys : UInt8) (kexFail : KexFailType)
  | keysRequest (requestedKeys : UInt8) (csa : Bool)
  | dskChallenge (grantedKeys : UInt8) (dskLength : Nat) (dsk : List UInt8)
  | s2InclusionStarted
  | removeFailedStatusUpdate (isRemoved : Bool)
  | removeNodeStatusUpdate (status : RemoveNodeStatus)
  | nopSendDone (isSuccessful : Bool)
  | learnMode (status : LearnModeStatus)
  | setDefaultComplete
  | requestNodeNeighborUpdateCompleted
  | assignReturnRouteComplete
  | zwaveApiStarted

/-- Its result counts only while it is awaited. -/
def onSecureInclusionComplete (grantedKeys : UInt8) (kexFail : KexFailType) : Machine :=
  let nms := machine.nms
  if nms.state = .waitForSecureAdd ∨ nms.state = .waitForSecureLearn then
    (machine.withNms
      { nms with
        grantedKeys := grantedKeys
        kexFailType := kexFail
        flags :=
          if nms.state = .waitForSecureAdd ∧ kexFail = .none ∧ 0 < nms.reportedDskBlanked then
            { nms.flags with reportDsk := true }
          else nms.flags }).post .securityDone .internal
  else machine

/-- `on_learn_mode_callback`. -/
def onLearnMode : LearnModeStatus -> Machine
  | .started bSource =>
      let started :=
        (machine.withNms { machine.nms with nodeIdBeingHandled := bSource }).post .learnStarted
          .internal
      if machine.nms.learnModeIntent = .smartStart then
        { started.withNms { started.nms with state := .learnMode } with
          history :=
            { machine.history with
              entryTimer :=
                if machine.nms.state = .learnMode then machine.history.entryTimer else none } }
      else started
  | .done => machine.post .learnDone .internal
  | .failed => machine.post .learnFailed .internal

def onRemoveNodeStatusUpdate : RemoveNodeStatus -> Machine
  | .removing bSource =>
      if machine.nms.exclusionNodeIdFilter ≠ 0 ∧ bSource ≠ machine.nms.exclusionNodeIdFilter then
        machine.post .nodeRemoveFailed .internal
      else machine.withNms { machine.nms with nodeIdBeingHandled := bSource }
  | .done => machine.post .nodeRemoveComplete .internal
  | .failed => machine.post .nodeRemoveFailed .internal

/-- The callbacks of the component. -/
def callback (machine : Machine) : Callback -> Machine
  | .addNodeStatusUpdate status info =>
      { machine with learnInfo := backUp info }.post (eventForLearnStatus status)
        (.statusUpdate info)
  | .secureInclusionComplete grantedKeys kexFail =>
      machine.onSecureInclusionComplete grantedKeys kexFail
  | .keysRequest requestedKeys csa =>
      if machine.nms.state = .waitForSecureAdd then
        (machine.withNms
          { machine.nms with
            requestedCsa := csa
            requestedKeys := requestedKeys
            expectedS2UserInput := .grantKeys }).post .addSecurityReqKeys .internal
      else machine
  | .dskChallenge grantedKeys dskLength dsk =>
      if machine.nms.state = .waitForSecureAdd ∨ machine.nms.state = .waitForSecureLearn then
        (machine.withNms
          { machine.nms with
            grantedKeys := grantedKeys
            reportedDsk := dsk
            reportedDskBlanked := dskLength
            expectedS2UserInput := .acceptDsk }).post .addSecurityKeyChallenge .internal
      else machine
  | .s2InclusionStarted => machine.withNms { machine.nms with s2BootstrappingStarted := true }
  | .removeFailedStatusUpdate isRemoved =>
      machine.post (if isRemoved then .removeFailedOk else .removeFailedFail) .internal
  | .removeNodeStatusUpdate status => machine.onRemoveNodeStatusUpdate status
  | .nopSendDone isSuccessful =>
      machine.post (if isSuccessful then .nopSuccess else .nopFail) .internal
  | .learnMode status => machine.onLearnMode status
  | .setDefaultComplete => machine.post .setDefaultComplete .internal
  | .requestNodeNeighborUpdateCompleted =>
      machine.post .requestNodeNeighborRequestComplete .internal
  | .assignReturnRouteComplete =>
      let completed := onAssignReturnRouteComplete env machine.routes
      { machine with
        routes := completed.1
        events := machine.events ++ completed.2.map fun event => ⟨event, .internal⟩ }
  | .zwaveApiStarted =>
      if machine.nms.state = .setDefault then machine.post .setDefaultComplete .internal
      else machine.abort

/-- What can happen next. -/
inductive Action
  | call (env : Surroundings) (request : Call)
  | callback (env : Surroundings) (request : Callback)
  | handleNext (env : Surroundings)
  | timerExpires
  | timerCallback (env : Surroundings)

/-- One step of the network management. -/
def step (machine : Machine) : Action -> Machine
  | .call env request => machine.call env request
  | .callback env request => machine.callback env request
  | .handleNext env => machine.handleNext env
  | .timerExpires => machine.timerExpires
  | .timerCallback env => machine.timerCallback env

end Machine

end NetworkManagement
