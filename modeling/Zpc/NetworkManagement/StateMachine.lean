import Zpc.NetworkManagement.Definitions

/-!
# The state machine

`nm_fsm_post_event` is a switch over the state, and what it does after the switch.
A reaction is what one branch of the switch does: the variables and return routes
it leaves, the timer it sets or stops, the events it posts, the calls of
`zwave_controller_on_node_added`, and how it ends.  Calls that only tell another
component something are left out.
-/

namespace NetworkManagement

/-- What the other components answer while an event is handled. -/
structure Surroundings where
  isResetOngoing : Bool
  removeNodeAccepted : Bool
  neighborUpdateAccepted : Bool
  assignReturnRouteAccepted : Nat -> Nat -> Bool
  removeFailedNodeStarted : Bool
  nopAccepted : Bool
  protocolInfo : UInt8 × UInt8
  homeId : Nat
  localNodeId : Nat
  fullNodeList : List Nat
  controllerCapabilities : ControllerCapabilities
  assignedKeys : UInt8
  provisionedDsk : Option (List UInt8)
  clock : Nat

/-- Surroundings that accept every request: a primary controller with node id 1 that
is alone in its network. -/
def Surroundings.accepting : Surroundings where
  isResetOngoing := false
  removeNodeAccepted := true
  neighborUpdateAccepted := true
  assignReturnRouteAccepted _ _ := true
  removeFailedNodeStarted := true
  nopAccepted := true
  protocolInfo := (0x53, 0x9C)
  homeId := 0xC0FFEE01
  localNodeId := 1
  fullNodeList := [1]
  controllerCapabilities := ⟨false, true, true⟩
  assignedKeys := 0x87
  provisionedDsk := none
  clock := 0

/-- A return route that is queued and not established. -/
def Route.isUnfinished (route : Route) : Bool :=
  route.state = .notEstablished || route.state = .inProgress

/-- The route is established until it may be assigned again. -/
def Route.establish (clock : Nat) (route : Route) : Route :=
  { route with
    state := .established
    reuseTimestamp := clock + assignReturnRouteCooldown }

/-- The second loop of `zwave_network_management_return_route_assign_next`. -/
def assignFirst (env : Surroundings) : List Route -> Bool × List Route
  | [] => (false, [])
  | route :: rest =>
      if route.state = .notEstablished then
        if env.assignReturnRouteAccepted route.nodeId route.destinationNodeId then
          (true, { route with state := .inProgress } :: rest)
        else
          ((assignFirst env rest).1, route.establish env.clock :: (assignFirst env rest).2)
      else ((assignFirst env rest).1, route :: (assignFirst env rest).2)

variable (env : Surroundings)

/-- `zwave_network_management_return_route_assign_next`: whether a route is in
progress, and the queue. -/
def assignNext (routes : List Route) : Bool × List Route :=
  if routes.any fun route => route.state = .inProgress then (true, routes)
  else assignFirst env routes

/-- `on_assign_return_route_complete`: the queue, and the events that are posted. -/
def onAssignReturnRouteComplete (routes : List Route) : List Route × List Event :=
  let completed := routes.map fun route =>
    if route.state = .inProgress then route.establish env.clock else route
  let next := assignNext env completed
  (next.2, if next.1 then [] else [.assignReturnRouteCompleted])

/-- `zwave_network_management_return_route_clear_queue`. -/
def clearQueue (routes : List Route) : List Route := routes.map fun _ => .cleared

variable (nms : Nms)

/-- `reset_nms_last_operation_data`. -/
def resetLastOperationData : Nms :=
  { nms with
    nodeIdBeingHandled := 0
    exclusionNodeIdFilter := 0
    isController := false
    flags := .empty
    inclusionProtocol := .zwave
    requestedCsa := false
    requestedKeys := 0
    expectedS2UserInput := .none
    reportedDskBlanked := 0
    kexFailType := .none
    s2BootstrappingStarted := false
    learnModeIntent := .none
    reportedDsk := zeroDsk
    expectedDsk := zeroDsk
    verifiedDskInput := zeroDsk }

def weAreAloneInOurNetwork : Bool :=
  nms.cachedNodeList.all fun nodeId => nodeId = nms.cachedLocalNodeId

/-- `zwave_network_management_is_zpc_sis`. -/
def isZpcSis : Bool :=
  !nms.controllerCapabilities.isSecondary && nms.controllerCapabilities.nodeIdServerPresent &&
    nms.controllerCapabilities.isSuc

/-- Whether a SmartStart inclusion lacks what it requires. -/
def weShouldSelfDestruct : Bool :=
  if nms.learnModeIntent ≠ .smartStart then false
  else if nms.kexFailType ≠ .none || !nms.s2BootstrappingStarted then true
  else if 0 < nms.cachedLocalNodeId && nms.cachedLocalNodeId ≤ zwMaxNodes then false
  else if zwLrMinNodeId ≤ nms.cachedLocalNodeId && nms.cachedLocalNodeId ≤ zwLrMaxNodeId then
    (nms.grantedKeys &&& s2AuthenticatedOrAccessKey) = 0
  else true

/-- `network_management_refresh_cached_node_list`. -/
def refreshCachedNodeList (nms : Nms) : Nms :=
  { nms with cachedNodeList := env.fullNodeList }

/-- `network_management_refresh_cached_ids`. -/
def refreshCachedIds (nms : Nms) : Nms :=
  { nms with
    cachedHomeId := env.homeId
    cachedLocalNodeId := env.localNodeId }

/-- `network_management_refresh_network_information`. -/
def refreshNetworkInformation (nms : Nms) : Nms :=
  { refreshCachedNodeList env (refreshCachedIds env nms) with
    controllerCapabilities := env.controllerCapabilities }

def onNewNetwork (nms : Nms) : Nms :=
  { refreshNetworkInformation env nms with grantedKeys := env.assignedKeys }

/-- `zwave_command_class_list_unpack`.  An extended command class that is cut off
ends the list; the code asserts that there is none. -/
def commandClassListUnpack : List UInt8 -> List Nat
  | [] => []
  | [byte] => if 0xF1 ≤ byte then [] else [byte.toNat]
  | high :: low :: rest =>
      if 0xF1 ≤ high then (256 * high.toNat + low.toNat) :: commandClassListUnpack rest
      else high.toNat :: commandClassListUnpack (low :: rest)

/-- `nm_fill_reported_dsk_from_expected_if_needed`. -/
def fillReportedDskFromExpectedIfNeeded : Nms :=
  if !nms.flags.reportDsk && nms.reportedDsk = zeroDsk && nms.expectedDsk ≠ zeroDsk then
    { nms with reportedDsk := nms.expectedDsk, flags := { nms.flags with reportDsk := true } }
  else nms

/-- The DSK that is told to the upper layers. -/
def callbackDsk : List UInt8 := if nms.flags.reportDsk then nms.reportedDsk else zeroDsk

/-- What is done with the timer. -/
inductive TimerOperation
  | keep
  | set
  | stop

/-- How the handling of an event ends: after the switch, at once, or with the
handling of another event. -/
inductive Ending
  | afterSwitch
  | atOnce
  | withAnother (event : Event)

/-- What one branch of the switch does. -/
structure Reaction where
  nms : Nms
  routes : List Route
  timer : TimerOperation
  posts : List Event
  added : List NodeAdded
  ending : Ending

/-- A branch that changes variables only. -/
def Reaction.ofNms (routes : List Route) : Reaction :=
  ⟨nms, routes, .keep, [], [], .afterSwitch⟩

/-- A failed bootstrapping is told with a reason. -/
def notifyNodeAddSecurityFailed : Nms × NodeAdded :=
  let failed := if nms.kexFailType = .none then { nms with kexFailType := .cancel } else nms
  let filled := fillReportedDskFromExpectedIfNeeded failed
  (filled,
    { isOk := false
      nodeInfo := filled.nodeInfo
      nodeId := filled.nodeIdBeingHandled
      dsk := callbackDsk filled
      grantedKeys := filled.grantedKeys
      kexFailType := filled.kexFailType
      inclusionProtocol := filled.inclusionProtocol })

/-- An aborted inclusion is told without one. -/
def notifyNodeAddAborted : NodeAdded where
  isOk := false
  nodeInfo := nms.nodeInfo
  nodeId := nms.nodeIdBeingHandled
  dsk := zeroDsk
  grantedKeys := nms.grantedKeys
  kexFailType := .none
  inclusionProtocol := nms.inclusionProtocol

/-- The end of an inclusion is told. -/
def dispatchNodeAdded (nms : Nms) (routes : List Route) : Reaction :=
  let filled := fillReportedDskFromExpectedIfNeeded nms
  { Reaction.ofNms
      { refreshCachedNodeList env filled with
        state := .idle
        proxyInclusionStep := 0 } routes with
    added :=
      [{ isOk := filled.kexFailType = .none
         nodeInfo := filled.nodeInfo
         nodeId := filled.nodeIdBeingHandled
         dsk := callbackDsk filled
         grantedKeys := filled.grantedKeys
         kexFailType := filled.kexFailType
         inclusionProtocol := filled.inclusionProtocol }] }

def dispatchNodeAddedAfterSelfDestructFail (nms : Nms) (routes : List Route) : Reaction :=
  if nms.kexFailType ≠ .none then
    .ofNms
      { refreshCachedNodeList env nms with
        state := .idle
        proxyInclusionStep := 0 } routes
  else dispatchNodeAdded env { nms with kexFailType := .unknown } routes

/-- `nm_start_self_destruct_remove_failed`. -/
def startSelfDestructRemoveFailed (nms : Nms) (routes : List Route) : Reaction :=
  { Reaction.ofNms { nms with state := .waitForSelfDestructRemoval } routes with
    timer := .set
    posts := if env.removeFailedNodeStarted then [] else [.removeFailedFail] }

/-- A failed inclusion goes on with the verification of the self-destruct. -/
def sendNopAfterFailure (routes : List Route) (added : List NodeAdded) : Reaction :=
  { Reaction.ofNms { nms with state := .sendNop } routes with
    timer := .set
    added := added }

/-- An operation ends, with nothing else to do. -/
def endOperation (routes : List Route) : Reaction :=
  .ofNms { nms with state := .idle } routes

def isCommandClassInNif (nodeInfo : NodeInfo) (commandClass : Nat) : Bool :=
  (nodeInfo.commandClassList.take maximumCommandClassListLength).contains commandClass

section Switch

variable (env : Surroundings) (nms : Nms) (routes : List Route)

/-- `NM_IDLE`. -/
def reactIdle : Event -> Reaction
  | .learnSet =>
      if nms.learnModeIntent = .nwi ∨ nms.learnModeIntent = .nwe then
        { Reaction.ofNms { nms with state := .learnMode } routes with timer := .set }
      else { Reaction.ofNms nms routes with ending := .atOnce }
  | .setDefault => { Reaction.ofNms { nms with state := .setDefault } routes with timer := .set }
  | .removeFailed =>
      { Reaction.ofNms { nms with state := .sendNop } routes with posts := [.removeFailed] }
  | .nodeAddSmartStart data =>
      if env.isResetOngoing then { Reaction.ofNms nms routes with ending := .atOnce }
      else
        { Reaction.ofNms
            { nms with
              inclusionProtocol := data.preferredInclusion
              state := .waitingForAdd
              grantedKeys := data.grantedKeys
              flags := { s2Add := true, smartStartInclusion := true, reportDsk := false }
              expectedDsk := data.dsk } routes with
          timer := .set }
  | .nodeRemove =>
      if env.removeNodeAccepted then
        { Reaction.ofNms
            { nms with nodeIdBeingHandled := 0, state := .waitingForNodeRemoval } routes with
          timer := .set }
      else .ofNms { nms with nodeIdBeingHandled := 0 } routes
  | .nodeAdd =>
      { Reaction.ofNms
          { refreshCachedNodeList env nms with
            state := .waitingForAdd
            flags := { s2Add := true, smartStartInclusion := false, reportDsk := false }
            inclusionProtocol := .zwave } routes with
        timer := .set }
  | .requestNodeNeighborRequest nodeId =>
      if env.neighborUpdateAccepted then
        .ofNms { nms with state := .neighborDiscoveryOngoing, nodeIdBeingHandled := nodeId } routes
      else .ofNms nms routes
  | .startProxyInclusion =>
      { Reaction.ofNms { nms with state := .waitForProtocol } routes with
        timer := .set
        ending := .withAnother .addNodeStatusDone }
  | .assignReturnRouteStart =>
      .ofNms
        { nms with
          state := if (assignNext env routes).1 then .assigningReturnRoute else nms.state }
        (assignNext env routes).2
  | _ => .ofNms nms routes

/-- The NOP that is sent from `NM_SEND_NOP`. -/
def sendNop (state : State) : Reaction :=
  { Reaction.ofNms { nms with state := state } routes with
    timer := .set
    posts := if env.nopAccepted then [] else [.nopFail] }

/-- `NM_SEND_NOP`. -/
def reactSendNop : Event -> Reaction
  | .timeout => sendNop env nms routes .waitForTxToSelfDestruct
  | .removeFailed => sendNop env nms routes .failedNodeRemove
  | _ => .ofNms nms routes

/-- `NM_WAIT_FOR_TX_TO_SELF_DESTRUCT`. -/
def reactWaitForTxToSelfDestruct : Event -> Reaction
  | .nopFail => startSelfDestructRemoveFailed env nms routes
  | .timeout => startSelfDestructRemoveFailed env nms routes
  | .nopSuccess => dispatchNodeAddedAfterSelfDestructFail env nms routes
  | .abort => { endOperation nms routes with posts := [.removeFailedFail] }
  | _ => .ofNms nms routes

/-- `NM_FAILED_NODE_REMOVE`. -/
def reactFailedNodeRemove : Event -> Reaction
  | .nopFail =>
      { Reaction.ofNms { nms with state := .waitingForFailedNodeRemoval } routes with
        posts := if env.removeFailedNodeStarted then [] else [.removeFailedFail] }
  | .timeout => { endOperation nms routes with posts := [.removeFailedFail] }
  | .nopSuccess => { endOperation nms routes with posts := [.removeFailedFail] }
  | .abort => { endOperation nms routes with posts := [.removeFailedFail] }
  | _ => .ofNms nms routes

/-- `NM_SET_DEFAULT`.  A timeout resets the chip and waits on. -/
def reactSetDefault : Event -> Reaction
  | .setDefaultComplete =>
      { endOperation
          (onNewNetwork env (refreshNetworkInformation env nms)) routes with
        timer := .stop }
  | _ => .ofNms nms routes

/-- `NM_WAITING_FOR_ADD`. -/
def reactWaitingForAdd : Event -> Reaction
  | .abort => endOperation nms routes
  | .timeout => endOperation nms routes
  | .addFailed => endOperation nms routes
  | .addNodeFound => { Reaction.ofNms { nms with state := .nodeFound } routes with timer := .set }
  | _ => .ofNms nms routes

/-- `NM_NODE_FOUND` with the information of the node that was found. -/
def reactNodeInformation (info : LearnInfo) (isController : Bool) : Reaction :=
  if info.bLen = 0 ∨ info.bSource = 0 then
    { Reaction.ofNms nms routes with ending := .withAnother .addFailed }
  else
    let found := { nms with nodeIdBeingHandled := info.bSource, isController := isController }
    if 4 ≤ info.bLen ∧ info.bLen < nodeInfoMaxSize then
      { Reaction.ofNms
          { found with
            nodeInfo :=
              { nms.nodeInfo with
                basicDeviceClass := info.pCmd.getD 0 0
                genericDeviceClass := info.pCmd.getD 1 0
                specificDeviceClass := info.pCmd.getD 2 0
                commandClassList := commandClassListUnpack (info.pCmd.drop 3) }
            state := .waitForProtocol } routes with
        timer := .set }
    else
      { Reaction.ofNms found routes with
        timer := .set
        ending := .withAnother .addFailed }

/-- `NM_NODE_FOUND`. -/
def reactNodeFound (info : LearnInfo) : Event -> Reaction
  | .addController => reactNodeInformation nms routes info true
  | .addEndNode => reactNodeInformation nms routes info false
  | .addFailed => endOperation nms routes
  | .timeout => endOperation nms routes
  | _ => .ofNms nms routes

/-- The protocol has added the node: security comes next. -/
def reactNodeStatusDone : Reaction :=
  if nms.nodeIdBeingHandled ≠ 0 ∧ nms.nodeIdBeingHandled ∈ nms.cachedNodeList ∧
      nms.proxyInclusionStep ≠ initiateProxyInclusionReplace then
    endOperation nms routes
  else
    let known :=
      { nms with
        nodeInfo :=
          { nms.nodeInfo with
            listeningProtocol := env.protocolInfo.1
            optionalProtocol := env.protocolInfo.2 } }
    if nms.flags.smartStartInclusion then
      { Reaction.ofNms { known with state := .waitForSecureAdd } routes with timer := .set }
    else if isCommandClassInNif nms.nodeInfo commandClassSecurity2 then
      { Reaction.ofNms
          { known with
            flags := { s2Add := true, smartStartInclusion := false, reportDsk := false }
            state := .waitForSecureAdd } routes with
        timer := .set }
    else if nms.s0InclusionEnabled && isCommandClassInNif nms.nodeInfo commandClassSecurity then
      { Reaction.ofNms { known with state := .waitForSecureAdd } routes with timer := .set }
    else
      dispatchNodeAdded env { known with grantedKeys := 0, kexFailType := .none } routes

/-- `NM_WAIT_FOR_PROTOCOL`. -/
def reactWaitForProtocol : Event -> Reaction
  | .addNodeStatusDone => reactNodeStatusDone env nms routes
  | .abort => sendNopAfterFailure nms routes [notifyNodeAddAborted nms]
  | .timeout => sendNopAfterFailure nms routes []
  | .addFailed => sendNopAfterFailure nms routes []
  | .addNotPrimary => sendNopAfterFailure nms routes []
  | _ => .ofNms nms routes

/-- Security failed: the upper layers are told, and the node is to be removed. -/
def reactSecurityFailed : Reaction :=
  sendNopAfterFailure (notifyNodeAddSecurityFailed nms).1 routes
    [(notifyNodeAddSecurityFailed nms).2]

/-- The DSK of a node that is added. -/
def reactKeyChallenge : Reaction :=
  let blanked := nms.reportedDskBlanked
  if nms.flags.smartStartInclusion then
    if nms.reportedDsk.drop blanked = nms.expectedDsk.drop blanked then
      .ofNms
        { nms with
          reportedDsk := nms.expectedDsk.take blanked ++ nms.reportedDsk.drop blanked
          flags := { nms.flags with reportDsk := true } } routes
    else .ofNms nms routes
  else
    match env.provisionedDsk with
    | some dsk =>
        if 0 < blanked then
          .ofNms
            { nms with reportedDsk := dsk, flags := { nms.flags with reportDsk := true } } routes
        else .ofNms nms routes
    | none => .ofNms nms routes

/-- `NM_WAIT_FOR_SECURE_ADD`. -/
def reactWaitForSecureAdd : Event -> Reaction
  | .securityDone =>
      if nms.kexFailType = .none then dispatchNodeAdded env nms routes
      else reactSecurityFailed nms routes
  | .addSecurityKeyChallenge => reactKeyChallenge env nms routes
  | .addSecurityDskSet =>
      .ofNms
        { nms with
          reportedDsk := nms.verifiedDskInput.take nms.reportedDskBlanked ++
            nms.reportedDsk.drop nms.reportedDskBlanked } routes
  | .timeout => reactSecurityFailed nms routes
  | _ => .ofNms nms routes

/-- `NM_WAIT_FOR_SELF_DESTRUCT_REMOVAL`. -/
def reactWaitForSelfDestructRemoval : Event -> Reaction
  | .removeFailedOk => endOperation (refreshCachedNodeList env nms) routes
  | .removeFailedFail => dispatchNodeAddedAfterSelfDestructFail env nms routes
  | .timeout => dispatchNodeAddedAfterSelfDestructFail env nms routes
  | _ => .ofNms nms routes

/-- `NM_WAITING_FOR_FAILED_NODE_REMOVAL`. -/
def reactWaitingForFailedNodeRemoval : Event -> Reaction
  | .removeFailedOk => endOperation (refreshCachedNodeList env nms) routes
  | .removeFailedFail => endOperation nms routes
  | .timeout => endOperation nms routes
  | _ => .ofNms nms routes

/-- `NM_WAITING_FOR_NODE_REMOVAL`. -/
def reactWaitingForNodeRemoval : Event -> Reaction
  | .timeout => endOperation nms routes
  | .nodeRemoveFailed => endOperation nms routes
  | .abort => endOperation nms routes
  | .nodeRemoveComplete => endOperation (refreshCachedNodeList env nms) routes
  | _ => .ofNms nms routes

/-- `NM_LEARN_MODE`. -/
def reactLearnMode : Event -> Reaction
  | .timeout => endOperation nms routes
  | .abort => endOperation nms routes
  | .learnStarted => .ofNms { nms with state := .learnModeStarted } routes
  | .learnDone => endOperation nms routes
  | _ => .ofNms nms routes

/-- `NM_LEARN_MODE_STARTED`. -/
def reactLearnModeStarted : Event -> Reaction
  | .learnDone =>
      let refreshed := refreshCachedNodeList env (refreshCachedIds env nms)
      if nms.learnModeIntent = .nwe then
        { Reaction.ofNms { refreshed with state := .setDefault } routes with
          posts := [.setDefaultComplete] }
      else if nms.cachedHomeId = refreshed.cachedHomeId ∨
          nms.cachedLocalNodeId = refreshed.cachedLocalNodeId then
        { Reaction.ofNms { refreshed with state := .waitForSecureLearn } routes with
          posts := [.securityDone] }
      else .ofNms { refreshed with state := .waitForSecureLearn } routes
  | .learnFailed => endOperation nms routes
  | _ => .ofNms nms routes

/-- `NM_WAIT_FOR_SECURE_LEARN`. -/
def reactWaitForSecureLearn : Event -> Reaction
  | .securityDone =>
      if weShouldSelfDestruct nms then
        { Reaction.ofNms { nms with state := .setDefault } routes with ending := .atOnce }
      else endOperation (onNewNetwork env nms) routes
  | _ => .ofNms nms routes

/-- `NM_ASSIGNING_RETURN_ROUTE`. -/
def reactAssigningReturnRoute : Event -> Reaction
  | .abort =>
      let completed := onAssignReturnRouteComplete env (clearQueue routes)
      { Reaction.ofNms nms completed.1 with posts := completed.2 }
  | .assignReturnRouteCompleted => endOperation nms routes
  | _ => .ofNms nms routes

/-- `NM_NEIGHBOR_DISCOVERY_ONGOING`. -/
def reactNeighborDiscoveryOngoing : Event -> Reaction
  | .abort => { Reaction.ofNms nms routes with posts := [.requestNodeNeighborRequestComplete] }
  | .requestNodeNeighborRequestComplete => endOperation nms routes
  | _ => .ofNms nms routes

/-- The switch of `nm_fsm_post_event`. -/
def react (info : LearnInfo) (event : Event) : Reaction :=
  match nms.state with
  | .idle => reactIdle env nms routes event
  | .sendNop => reactSendNop env nms routes event
  | .waitForTxToSelfDestruct => reactWaitForTxToSelfDestruct env nms routes event
  | .failedNodeRemove => reactFailedNodeRemove env nms routes event
  | .setDefault => reactSetDefault env nms routes event
  | .waitingForAdd => reactWaitingForAdd nms routes event
  | .nodeFound => reactNodeFound nms routes info event
  | .waitForProtocol => reactWaitForProtocol env nms routes event
  | .waitForSecureAdd => reactWaitForSecureAdd env nms routes event
  | .waitForSelfDestructRemoval => reactWaitForSelfDestructRemoval env nms routes event
  | .waitingForFailedNodeRemoval => reactWaitingForFailedNodeRemoval env nms routes event
  | .waitingForNodeRemoval => reactWaitingForNodeRemoval env nms routes event
  | .learnMode => reactLearnMode nms routes event
  | .learnModeStarted => reactLearnModeStarted env nms routes event
  | .waitForSecureLearn => reactWaitForSecureLearn env nms routes event
  | .assigningReturnRoute => reactAssigningReturnRoute env nms routes event
  | .neighborDiscoveryOngoing => reactNeighborDiscoveryOngoing nms routes event
  | .replaceFailedReq => .ofNms nms routes
  | .prepareSucInclision => .ofNms nms routes
  | .waitForSucInclusion => .ofNms nms routes
  | .proxyInclusionWaitNif => .ofNms nms routes

end Switch

end NetworkManagement
