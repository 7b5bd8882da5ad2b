import Zpc.Foundation.Run
import Zpc.AttributeResolver.Resolver

/-!
# The resolver thread and its surroundings

The resolver thread handles one event at a time.  Handling a `NEXT_EVENT` runs
the loop of `resolver_find_next_resolve`, which leaves the component twice for
every rule it executes: for the rule function and for the send function.  These
are points where anything else may happen, in particular the completion of the
frame that is being sent, so the thread is a machine that stops there.  One
iteration of the loop is one step.
-/

namespace AttributeResolver

open Foundation

namespace Resolver

variable (state : Resolver)

/-- The end of `attribute_resolver_ev_next`. -/
def endNext : Resolver :=
  let state := { state with control := .idle }
  if state.stack.isEmpty && state.scanRequested then state.post .next else state

/-- What `resolver_find_next_resolve` does with the status of a rule. -/
def continueWith (node : NodeId) (status : SlStatus) : Resolver :=
  match status with
  | .ok | .inProgress => state.endNext
  | .notInitialized | .alreadyExists => (state.onResolverRuleExecuteComplete node).endNext
  | _ => { state with control := .scanning }

/-- The end of `execute_get` and `execute_set`, after
`attribute_resolver_rule_execute` has returned. -/
def recordExecution (execution : Execution) (status : SlStatus) : Resolver :=
  match execution.ruleType, execution.isRetry, status with
  | .getRule, false, .ok | .getRule, false, .inProgress =>
      { state with
        pendingGetResolutions :=
          assign state.pendingGetResolutions execution.node { sendTimeout := 0, count := 1 } }
  | .getRule, false, .isWaiting =>
      { state with
        pendingGetResolutions :=
          assign state.pendingGetResolutions execution.node
            { sendTimeout := state.clock + 1000, count := 0 } }.restartPendingGetNodesTimer
  | .setRule, _, .ok =>
      { state with
        pendingSetResolutions := assign state.pendingSetResolutions execution.node false }
  | .setRule, _, .inProgress =>
      { state with
        pendingSetResolutions := assign state.pendingSetResolutions execution.node true }
  | _, _, _ => state

/-- `attribute_resolver_rule_execute` has returned. -/
def executed (execution : Execution) (status : SlStatus) : Resolver :=
  (state.recordExecution execution status).continueWith execution.node status

/-- `attribute_resolver_rule_execute`, up to the call of the rule function. -/
def ruleExecute (execution : Execution) : Resolver :=
  let state :=
    match execution.ruleType with
    | .getRule => { state with attempts := state.attempts ++ [execution.node] }
    | .setRule => state
  match state.executor.claim execution.node (state.store.nodeType execution.node)
      execution.ruleType with
  | .error status => state.executed execution status
  | .ok executor => { state with executor := executor, control := .ruleFunction execution }

/-- A Get is retried when due, unless its retries are used up. -/
def executeGet (node : NodeId) : Resolver :=
  match state.pendingGetResolutions.lookup node with
  | some pending =>
      if state.getNodeRetryCount node ≤ pending.count then { state with control := .scanning }
      else if pending.sendTimeout ≤ state.clock ∧ pending.sendTimeout ≠ 0 then
        { state with
          pendingGetResolutions :=
            assign state.pendingGetResolutions node
              { pending with count := pending.count + 1 } }.ruleExecute
          { node := node, ruleType := .getRule, isRetry := true }
      else state.continueWith node .isWaiting
  | none =>
      if state.resolutionAlreadyQueued .getRule node then state.continueWith node .isWaiting
      else state.ruleExecute { node := node, ruleType := .getRule, isRetry := false }

/-- A Set waits for its cooldown and for its group. -/
def executeSet (node : NodeId) : Resolver :=
  if hasKey state.pendingSetResolutions node then state.continueWith node .isWaiting
  else if (state.setRetryCooldownUntil.lookup node).any fun deadline => state.clock < deadline then
    state.continueWith node .isWaiting
  else
    let state := { state with setRetryCooldownUntil := eraseKey state.setRetryCooldownUntil node }
    if state.resolutionAlreadyQueued .setRule node then state.continueWith node .isWaiting
    else
      { state with
        pendingGetResolutions := eraseKey state.pendingGetResolutions node }.ruleExecute
        { node := node, ruleType := .setRule, isRetry := false }

/-- All children of a node have been visited. -/
def visitNode (node : NodeId) : Resolver :=
  if state.needsGet node then state.executeGet node
  else if state.needsSet node then state.executeSet node
  else state.continueWith node .notInitialized

/-- One iteration of the loop of `resolver_find_next_resolve`, or its end. -/
def iterate : Resolver :=
  match state.stack with
  | [] => state.endNext
  | (node, index) :: below =>
      if state.isNodeOrParentPaused node || !state.store.nodeExists node then
        { state with stack := below }
      else
        let children := state.store.children node
        let index := if children.length < index then 0 else index
        match children[index]? with
        | none => { state with stack := below }.visitNode node
        | some child => { state with stack := (child, 0) :: (node, index + 1) :: below }

/-- The rule function returns, with an exception if there is no status. -/
def ruleReturns (frameStatus : Option SlStatus) (frameSize : Nat) : Resolver :=
  match state.control with
  | .ruleFunction execution =>
      let reset := { state with executor := state.executor.resetState execution.node }
      match frameStatus with
      | none => reset.executed execution .notSupported
      | some .ok | some .inProgress =>
          if maxFrameLen < frameSize then reset.executed execution .wouldOverflow
          else
            { state with
              control := .sending execution (decide (frameStatus = some .inProgress)) }
      | some .alreadyExists => reset.executed execution .alreadyExists
      | some .isWaiting | some .notReady => reset.executed execution .isWaiting
      | some _ => reset.executed execution .notSupported
  | _ => state

/-- The send function returns. -/
def sendReturns (accepted : Bool) : Resolver :=
  match state.control with
  | .sending execution moreFrames =>
      if accepted then
        { state with
          executor := state.executor.finish execution.node moreFrames }.executed execution
          (if moreFrames then .inProgress else .ok)
      else
        { state with
          executor := state.executor.resetState execution.node }.executed execution .notReady
  | _ => state

/-- The beginning of `attribute_resolver_ev_next`. -/
def evNext : Resolver :=
  if state.store.root = invalidNode then state
  else
    let state :=
      if state.stack.isEmpty && state.scanRequested then
        { state with scanRequested := false, stack := [(state.store.root, 0)] }
      else state
    if state.executor.isBusy then state.endNext else { state with control := .scanning }

/-- `attribute_resolver_handler::run`. -/
def handleEvent : Resolver :=
  match state.events with
  | [] => state
  | .next :: rest => { state with events := rest }.evNext
  | .watch _ :: rest => { state with events := rest }
  | .timerSet interval :: rest =>
      { state with
        events := rest
        pendingGetResumeTimer := some (state.clock + interval) }

/-- `attribute_store_add_node`, with the callback of the resolver. -/
def addNode (node : NodeId) (type : AttributeType) (parent : NodeId) : Resolver :=
  if node = invalidNode || state.store.nodeExists node || !state.store.nodeExists parent then state
  else
    let state :=
      { state with
        store := state.store.withNode
          { id := node, type := type, parent := parent, reported := [], desired := [] }
        attempts := state.attempts.filter fun other => other ≠ node
        giveUps := state.giveUps.filter fun other => other ≠ node }
    if state.isNotified .reported type then state.onResolverNodeUpdate node else state

/-- `attribute_store_delete_node` for a node without children, with the callback
of the resolver. -/
def deleteNode (node : NodeId) : Resolver :=
  if !state.store.nodeExists node || decide (node = state.store.root) ||
      !(state.store.children node).isEmpty then state
  else
    let state :=
      if state.isNotified .reported (state.store.nodeType node) then
        state.onResolverNodeDeleted node
      else state
    { state with store := state.store.without node }

/-- `attribute_resolver_pause_node_resolution`. -/
def pauseNodeResolution (node : NodeId) : Resolver :=
  { state with pausedNodes := node :: state.pausedNodes }

/-- `attribute_resolver_resume_node_resolution`. -/
def resumeNodeResolution (node : NodeId) : Resolver :=
  let state := { state with pausedNodes := state.pausedNodes.filter fun other => other ≠ node }
  if state.isNodeUnderResolution node then state else state.scanNode node

/-- `attribute_resolver_set_resolution_listener`. -/
def setResolutionListener (node : NodeId) (callback : Nat) : Resolver :=
  if node = invalidNode then state
  else
    { state with
      listeners :=
        if state.listeners.contains (node, callback) then state.listeners
        else state.listeners ++ [(node, callback)] }.scanNode node

/-- `attribute_resolver_clear_resolution_listener`. -/
def clearResolutionListener (node : NodeId) (callback : Nat) : Resolver :=
  { state with listeners := state.listeners.erase (node, callback) }

/-- `attribute_resolver_restart_set_resolution`.  The lower layers abort the
resolution if they know it, with a rule type of theirs. -/
def restartSetResolution (node : NodeId) (aborts : Option RuleType) : Resolver :=
  if hasKey state.pendingSetResolutions node then
    let state :=
      { state with
        pendingSetResolutions := eraseKey state.pendingSetResolutions node
        setRetryCooldownUntil := eraseKey state.setRetryCooldownUntil node }
    let state := state.resumeNodeResolution node
    let state :=
      match aborts with
      | none => state
      | some ruleType => state.onResolverSendDataComplete .aborted node ruleType
    state.scanNode node
  else state

/-- `attribute_resolver_restart_get_resolution`. -/
def restartGetResolution (node : NodeId) : Resolver :=
  if hasKey state.pendingGetResolutions node then
    { state with
      pendingGetResolutions := eraseKey state.pendingGetResolutions node }.scanNode node
  else state

/-- `restart_exhausted_get_resolutions_locked`, to a depth. -/
def restartExhaustedTo : Nat -> Resolver -> NodeId -> Resolver
  | 0, state, _ => state
  | depth + 1, state, node =>
      let restarted :=
        if state.needsGet node && state.isNodeGetResolutionMaxRetriesReached node then
          { state with
            pendingGetResolutions := eraseKey state.pendingGetResolutions node }.scanNode node
        else state
      (restarted.store.children node).foldl (restartExhaustedTo depth) restarted

/-- `attribute_resolver_restart_exhausted_get_resolutions`. -/
def restartExhaustedGetResolutions (node : NodeId) : Resolver :=
  if node = invalidNode then state
  else restartExhaustedTo state.store.nodes.length state node

/-- `attribute_resolver_request_rearm_after_completion`. -/
def requestRearmAfterCompletion (node : NodeId) (retryCount : UInt8) : Resolver :=
  { state with
    rearmAfterCompletion := assign state.rearmAfterCompletion node retryCount }

/-- `attribute_resolver_start_group_resolution`. -/
def startGroupResolution (node : NodeId) (retryCount : UInt8) : Resolver :=
  if hasKey state.pendingSetResolutions node then
    state.requestRearmAfterCompletion node retryCount
  else (state.writeValue .reported node []).writeValue .desired node [retryCount]

/-- `attribute_resolver::register_multiple_types_rules`, for one type of the
group. -/
def registerRules (state : Resolver) (type : AttributeType) (rules : Rules) : Resolver :=
  let state :=
    { state with
      executor := state.executor.registerRules type rules
      groups :=
        { state.groups with
          ruleBookInverted := state.groups.ruleBookInverted ++ [(rules, type)] } }
  if state.stack.isEmpty then state.requestScan else state

/-- `attribute_resolver_set_attribute_depth`. -/
def setAttributeDepth (type : AttributeType) (depth : Nat) : Resolver :=
  { state with
    groups := { state.groups with relatives := assign state.groups.relatives type depth } }

/-- `pending_get_resume_timer_expired_event`. -/
def resumeTimerExpires : Resolver :=
  if state.pendingGetResumeTimer.any fun deadline => deadline ≤ state.clock then
    let state := { state with pendingGetResumeTimer := none }
    if state.store.root = invalidNode then state else state.resumeExpiredPendingGetNodes
  else state

end Resolver

/-- What can happen next. -/
inductive Action
  | writeValue (valueState : ValueState) (node : NodeId) (value : List UInt8)
  | addNode (node : NodeId) (type : AttributeType) (parent : NodeId)
  | deleteNode (node : NodeId)
  | sendDataComplete (status : SendStatus) (node : NodeId) (ruleType : RuleType)
  | ruleAbort (node : NodeId)
  | ruleTimeout
  | scanNode (node : NodeId)
  | pause (node : NodeId)
  | resume (node : NodeId)
  | setListener (node : NodeId) (callback : Nat)
  | clearListener (node : NodeId) (callback : Nat)
  | restartSet (node : NodeId) (aborts : Option RuleType)
  | restartGet (node : NodeId)
  | restartExhaustedGets (node : NodeId)
  | requestRearm (node : NodeId) (retryCount : UInt8)
  | startGroupResolution (node : NodeId) (retryCount : UInt8)
  | registerRules (type : AttributeType) (rules : Rules)
  | setAttributeDepth (type : AttributeType) (depth : Nat)
  | tick (duration : Nat)
  | resumeTimerExpires
  | handleEvent
  | iterate
  | ruleReturns (frameStatus : Option SlStatus) (frameSize : Nat)
  | sendReturns (accepted : Bool)

namespace Resolver

/-- One step of the resolver thread, or one call from outside.  The resolver
thread takes an event only when it is idle, and the scan goes on only while it
is scanning. -/
def step (state : Resolver) : Action -> Resolver
  | .writeValue valueState node value => state.writeValue valueState node value
  | .addNode node type parent => state.addNode node type parent
  | .deleteNode node => state.deleteNode node
  | .sendDataComplete status node ruleType => state.onResolverSendDataComplete status node ruleType
  | .ruleAbort node => state.releaseSlot node
  | .ruleTimeout => state.onRuleExecutionTimeout
  | .scanNode node => state.scanNode node
  | .pause node => state.pauseNodeResolution node
  | .resume node => state.resumeNodeResolution node
  | .setListener node callback => state.setResolutionListener node callback
  | .clearListener node callback => state.clearResolutionListener node callback
  | .restartSet node aborts => state.restartSetResolution node aborts
  | .restartGet node => state.restartGetResolution node
  | .restartExhaustedGets node => state.restartExhaustedGetResolutions node
  | .requestRearm node retryCount => state.requestRearmAfterCompletion node retryCount
  | .startGroupResolution node retryCount => state.startGroupResolution node retryCount
  | .registerRules type rules => state.registerRules type rules
  | .setAttributeDepth type depth => state.setAttributeDepth type depth
  | .tick duration => { state with clock := state.clock + duration }
  | .resumeTimerExpires => state.resumeTimerExpires
  | .handleEvent => if state.control = .idle then state.handleEvent else state
  | .iterate => if state.control = .scanning then state.iterate else state
  | .ruleReturns frameStatus frameSize => state.ruleReturns frameStatus frameSize
  | .sendReturns accepted => state.sendReturns accepted

end Resolver

/-- The configuration of the controller, for attributes of one byte. -/
def exampleConfig : Config where
  getRetryTimeout := 3000
  getRetryCount := 5
  numberOf _ value :=
    match value with
    | [byte] => some byte.toNat
    | _ => none

/-- A root with one attribute of type 1 below it. -/
def exampleStore : Store where
  nodes :=
    [{ id := 1, type := 7, parent := invalidNode, reported := [], desired := [] },
      { id := 5, type := 1, parent := 1, reported := [], desired := [] }]
  root := 1

end AttributeResolver
