import Zpc.Foundation.FiniteMap
import Zpc.AttributeResolver.Store

/-!
# The attribute resolver

`attribute_resolver.cpp` keeps the stack of the scan through the attribute
store, the Get and Set resolutions that are pending, and the events of the
resolver thread.  The functions below are the ones that run to their end without
leaving the component: the callbacks of the store and of the rule executor, and
the functions other components call.
-/

namespace AttributeResolver

open Foundation

/-- `pending_get_t`. -/
structure PendingGet where
  sendTimeout : Nat
  count : Nat
  deriving DecidableEq

/-- The events of the resolver thread. -/
inductive Event
  | next
  | watch (node : NodeId)
  | timerSet (interval : Nat)

/-- `attribute_resolver_config_t`.  `numberOf` reads the number a value of a type
stands for, if that is a natural number. -/
structure Config where
  getRetryTimeout : Nat
  getRetryCount : Nat
  numberOf : AttributeType -> List UInt8 -> Option Nat

/-- An execution of a rule by the resolver thread.  `isRetry` tells whether the
Get resolution was pending already. -/
structure Execution where
  node : NodeId
  ruleType : RuleType
  isRetry : Bool
  deriving DecidableEq

/-- Where the resolver thread is: between two events, at the head of the loop of
`resolver_find_next_resolve`, or inside the rule function or the send function
of an execution. -/
inductive Control
  | idle
  | scanning
  | ruleFunction (execution : Execution)
  | sending (execution : Execution) (moreFrames : Bool)
  deriving DecidableEq

/-- The state of the resolver.  The top of the stack comes first.  `attempts`
lists the nodes a Get rule was executed for and `giveUps` those the give-up
listeners were invoked for, each since the last update of the node. -/
structure Resolver where
  config : Config
  groups : Groups
  store : Store
  executor : Executor
  clock : Nat
  control : Control
  stack : List (NodeId × Nat)
  pausedNodes : List NodeId
  listeners : List (NodeId × Nat)
  pendingGetResolutions : List (NodeId × PendingGet)
  pendingSetResolutions : List (NodeId × Bool)
  setRetryCooldownUntil : List (NodeId × Nat)
  rearmAfterCompletion : List (NodeId × UInt8)
  scanRequested : Bool
  events : List Event
  pendingGetResumeTimer : Option Nat
  attempts : List NodeId
  giveUps : List NodeId

namespace Resolver

/-- The state after `attribute_resolver_init`. -/
def initial (config : Config) (store : Store) : Resolver where
  config := config
  groups := { ruleBookInverted := [], relatives := [] }
  store := store
  executor := .initial
  clock := 0
  control := .idle
  stack := []
  pausedNodes := []
  listeners := []
  pendingGetResolutions := []
  pendingSetResolutions := []
  setRetryCooldownUntil := []
  rearmAfterCompletion := []
  scanRequested := true
  events := [.next]
  pendingGetResumeTimer := none
  attempts := []
  giveUps := []

variable (state : Resolver)

/-- Whether a value with a Get rule is not reported yet. -/
def needsGet (node : NodeId) : Bool :=
  state.executor.hasRule .getRule (state.store.nodeType node) &&
    !state.store.isValueDefined .reported node

/-- Whether a value with a Set rule differs from the desired one. -/
def needsSet (node : NodeId) : Bool :=
  state.executor.hasRule .setRule (state.store.nodeType node) &&
    state.store.isValueDefined .desired node && !state.store.isValueMatched node

/-- The nodes that are resolved together with a node. -/
def groupNodes (ruleType : RuleType) (node : NodeId) : List NodeId :=
  ruleGetGroupNodes state.executor state.groups state.store ruleType node

def isNodeOrParentPaused (node : NodeId) : Bool :=
  (state.store.pathToRoot node).any fun other => state.pausedNodes.contains other

def isNodeUnderResolution (node : NodeId) : Bool :=
  hasKey state.pendingGetResolutions node || hasKey state.pendingSetResolutions node

def getNodeRetryCount (node : NodeId) : Nat :=
  if state.store.isValueDefined .desired node then
    match state.config.numberOf (state.store.nodeType node)
        (state.store.value .desired node) with
    | some desired => if 1 ≤ desired ∧ desired ≤ 255 then desired else state.config.getRetryCount
    | none => state.config.getRetryCount
  else state.config.getRetryCount

def isNodeGetResolutionMaxRetriesReached (node : NodeId) : Bool :=
  (state.pendingGetResolutions.lookup node).any fun pending =>
    decide (state.getNodeRetryCount node ≤ pending.count)

/-- Whether a resolution listener is registered for a node. -/
def hasListener (node : NodeId) : Bool := hasKey state.listeners node

def getHighestParentWithResolutionListener (node : NodeId) : NodeId :=
  if node = invalidNode then invalidNode
  else
    (((node :: state.store.pathToRoot (state.store.nodeParent node)).filter
      state.hasListener).getLast?).getD invalidNode

/-- Whether a node of its group is pending. -/
def resolutionAlreadyQueued (ruleType : RuleType) (node : NodeId) : Bool :=
  (state.groupNodes ruleType node).any fun other =>
    match ruleType with
    | .getRule => hasKey state.pendingGetResolutions other
    | .setRule => hasKey state.pendingSetResolutions other

/-- `attribute_resolver_node_or_child_needs_resolution`, to a depth. -/
def nodeOrChildNeedsResolutionTo (state : Resolver) : Nat -> NodeId -> Bool
  | 0, _ => false
  | depth + 1, node =>
      (state.needsGet node && !state.isNodeGetResolutionMaxRetriesReached node) ||
        state.needsSet node ||
        (state.store.children node).any (state.nodeOrChildNeedsResolutionTo depth)

/-- `attribute_resolver_node_or_child_needs_resolution`. -/
def nodeOrChildNeedsResolution (node : NodeId) : Bool :=
  state.nodeOrChildNeedsResolutionTo state.store.nodes.length node

/-- Push an event to the queue of the resolver thread. -/
def post (event : Event) : Resolver :=
  { state with events := state.events ++ [event] }

/-- Set the child index of the lowest stack entry of a node to zero. -/
def resetIndex (stack : List (NodeId × Nat)) (node : NodeId) : List (NodeId × Nat) :=
  match stack with
  | [] => []
  | entry :: below =>
      if below.any fun other => other.1 = node then entry :: resetIndex below node
      else if entry.1 = node then (node, 0) :: below
      else entry :: below

/-- The scan starts over from the lowest ancestor on the stack. -/
def setCommonParentStackIndexZero (node : NodeId) : Resolver :=
  match (state.store.pathToRoot node).find? fun other =>
      state.stack.any fun entry => entry.1 = other with
  | none => state
  | some common => { state with stack := resetIndex state.stack common }

/-- Set `scan_requested` and post the event for it. -/
def requestScan : Resolver :=
  if state.scanRequested then state
  else { state with scanRequested := true }.post .next

def scanNode (node : NodeId) : Resolver :=
  if node = invalidNode then state
  else
    (if state.stack.isEmpty then state else state.setCommonParentStackIndexZero node).requestScan

/-- `is_node_to_be_scanned`: the answer, and the state without an expired
cooldown. -/
def isNodeToBeScanned (node : NodeId) : Bool × Resolver :=
  if state.isNodeOrParentPaused node then (false, state)
  else if state.needsGet node then
    match state.pendingGetResolutions.lookup node with
    | some pending =>
        (decide (pending.count < state.config.getRetryCount) &&
          decide (pending.sendTimeout ≤ state.clock) && decide (pending.sendTimeout ≠ 0), state)
    | none => (true, state)
  else if state.needsSet node && !hasKey state.pendingSetResolutions node then
    match state.setRetryCooldownUntil.lookup node with
    | some deadline =>
        if state.clock < deadline then (false, state)
        else
          (true, { state with
            setRetryCooldownUntil := eraseKey state.setRetryCooldownUntil node })
    | none => (true, state)
  else (false, state)

/-- Scan a node if it is to be scanned. -/
def scanIfNeeded (node : NodeId) : Resolver :=
  if (state.isNodeToBeScanned node).1 then (state.isNodeToBeScanned node).2.scanNode node
  else (state.isNodeToBeScanned node).2

/-- The earlier one of a deadline and the next deadline so far, of which zero
stands for none. -/
def earlier (deadline next : Nat) : Nat := if deadline < next ∨ next = 0 then deadline else next

/-- One pending Get in `attribute_resolver_restart_pending_get_nodes_timer`. -/
def considerPendingGet (considered : Resolver × Nat)
    (entry : NodeId × PendingGet) : Resolver × Nat :=
  let state := considered.1
  if state.getNodeRetryCount entry.1 ≤ entry.2.count ∨
      state.isNodeOrParentPaused entry.1 = true ∨ state.needsGet entry.1 = false then considered
  else if entry.2.sendTimeout = 0 then considered
  else if entry.2.sendTimeout ≤ state.clock then (state.scanNode entry.1, considered.2)
  else (state, earlier entry.2.sendTimeout considered.2)

/-- One cooldown in `attribute_resolver_restart_pending_get_nodes_timer`. -/
def considerCooldown (considered : Resolver × Nat) (entry : NodeId × Nat) : Resolver × Nat :=
  if entry.2 ≤ considered.1.clock then (considered.1.scanNode entry.1, considered.2)
  else (considered.1, earlier entry.2 considered.2)

/-- `attribute_resolver_restart_pending_get_nodes_timer`. -/
def restartPendingGetNodesTimer : Resolver :=
  let considered :=
    state.setRetryCooldownUntil.foldl considerCooldown
      (state.pendingGetResolutions.foldl considerPendingGet (state, 0))
  if considered.2 ≠ 0 ∧ considered.1.clock < considered.2 then
    considered.1.post (.timerSet (considered.2 - considered.1.clock))
  else considered.1

/-- `attribute_resume_expired_pending_get_nodes`. -/
def resumeExpiredPendingGetNodes : Resolver :=
  ((state.pendingGetResolutions.map (·.1)).foldl scanIfNeeded state).restartPendingGetNodesTimer

/-- `on_resolver_node_update`, for a node that exists. -/
def onResolverNodeUpdate (node : NodeId) : Resolver :=
  if state.store.root = invalidNode then state
  else
    let state :=
      if !state.needsGet node || state.isNodeGetResolutionMaxRetriesReached node then
        { state with pendingGetResolutions := eraseKey state.pendingGetResolutions node }
      else state
    let state :=
      if !state.needsSet node then
        { state with
          pendingSetResolutions := eraseKey state.pendingSetResolutions node
          setRetryCooldownUntil := eraseKey state.setRetryCooldownUntil node }
      else state
    if state.getHighestParentWithResolutionListener node ≠ invalidNode then
      state.scanNode (state.getHighestParentWithResolutionListener node)
    else state.scanIfNeeded node

/-- Whether the resolver registered a callback for a value of a type. -/
def isNotified (valueState : ValueState) (type : AttributeType) : Bool :=
  state.executor.hasRule .setRule type ||
    (state.executor.hasRule .getRule type && decide (valueState = .reported))

/-- A value of a node has changed in the store. -/
def changeValue (valueState : ValueState) (node : NodeId) (value : List UInt8) : Resolver :=
  { state with
    store := state.store.withValue valueState node value
    attempts := state.attempts.filter fun other => other ≠ node
    giveUps := state.giveUps.filter fun other => other ≠ node }

/-- `attribute_store_set_node_attribute_value`, with the callback of the
resolver. -/
def writeValue (valueState : ValueState) (node : NodeId) (value : List UInt8) : Resolver :=
  if !state.store.nodeExists node || decide (state.store.value valueState node = value) then
    state
  else if state.isNotified valueState (state.store.nodeType node) then
    (state.changeValue valueState node value).onResolverNodeUpdate node
  else state.changeValue valueState node value

/-- One node of a group in `give_up_get_resolution_on_group`. -/
def giveUpNode (node : NodeId) : Resolver :=
  let state := state.writeValue .desired node []
  { state with
    pendingGetResolutions :=
      assign state.pendingGetResolutions node
        { sendTimeout := 0, count := state.config.getRetryCount } }

def giveUpGetResolutionOnGroup (node : NodeId) : Resolver :=
  (state.groupNodes .getRule node).foldl giveUpNode state

def invokeGiveUpListeners (node : NodeId) : Resolver :=
  { state with giveUps := state.giveUps ++ [node] }

/-- The part of `on_resolver_rule_execute_complete` about a Get resolution. -/
def completeGet (node : NodeId) : Resolver :=
  match state.pendingGetResolutions.lookup node with
  | none => state
  | some pending =>
      if state.needsGet node then
        let state :=
          { state with
            pendingGetResolutions :=
              assign state.pendingGetResolutions node
                { pending with
                  sendTimeout := state.clock + state.config.getRetryTimeout } }
        let state := state.restartPendingGetNodesTimer
        if state.getNodeRetryCount node ≤ pending.count then
          let state := (state.giveUpGetResolutionOnGroup node).invokeGiveUpListeners node
          state.scanNode (state.getHighestParentWithResolutionListener node)
        else state
      else state

/-- The part of `on_resolver_rule_execute_complete` that takes a Set resolution
out of the pending ones. -/
def completeSet (node : NodeId) : Resolver :=
  match state.pendingSetResolutions.lookup node with
  | none => state
  | some false => { state with pendingSetResolutions := eraseKey state.pendingSetResolutions node }
  | some true =>
      { state with
        pendingSetResolutions := eraseKey state.pendingSetResolutions node }.scanNode node

/-- The part of `on_resolver_rule_execute_complete` that restores the desired
value of a node that asked for a re-arm. -/
def rearm (node : NodeId) : Resolver :=
  match state.rearmAfterCompletion.lookup node with
  | none => state
  | some retryCount =>
      { state with
        rearmAfterCompletion := eraseKey state.rearmAfterCompletion node }.writeValue
          .desired node [retryCount]

/-- `SET_RETRY_BACKOFF_MS`. -/
def setRetryBackoff : Nat := 500

/-- The part of `on_resolver_rule_execute_complete` that paces Set retries. -/
def paceSet (node : NodeId) : Resolver :=
  if state.needsSet node then
    { state with
      setRetryCooldownUntil :=
        assign state.setRetryCooldownUntil node
          (state.clock + setRetryBackoff) }.restartPendingGetNodesTimer
  else
    { state with setRetryCooldownUntil := eraseKey state.setRetryCooldownUntil node }

/-- Tell the listeners of a node when nothing is left to resolve. -/
def watchIfResolved (node : NodeId) : Resolver :=
  if state.hasListener node && !state.nodeOrChildNeedsResolution node then
    state.post (.watch node)
  else state

/-- Go on with the scan. -/
def postNextIfScanning : Resolver :=
  if state.stack.isEmpty then state else state.post .next

/-- A rule has completed: its records go. -/
def onResolverRuleExecuteComplete (node : NodeId) : Resolver :=
  let state := state.completeGet node
  let singleFrameSetCompleted := decide (state.pendingSetResolutions.lookup node = some false)
  let state := (state.completeSet node).rearm node
  let state := if singleFrameSetCompleted then state.paceSet node else state
  (state.watchIfResolved node).postNextIfScanning

/-- Release the executor slot of a node and call `compl_func` for it. -/
def releaseSlot (node : NodeId) : Resolver :=
  if state.executor.completes node then
    { state with
      executor := state.executor.release node }.onResolverRuleExecuteComplete node
  else state

/-- What `on_resolver_send_data_complete` does to one node of the group. -/
def settleNode (status : SendStatus) (state : Resolver) (node : NodeId) : Resolver :=
  match status with
  | .ok | .okExecutionFailed => (state.writeValue .reported node []).writeValue .desired node []
  | .fail => state.writeValue .desired node []
  | .okExecutionVerified =>
      (state.writeValue .reported node (state.store.desiredOrReported node)).writeValue
        .desired node []
  | _ => state

/-- Whether a status of a Set settles the values of the group. -/
def settlesGroup (status : SendStatus) (needsMoreFrames : Bool) : Bool :=
  match status with
  | .ok | .okExecutionVerified | .okExecutionFailed => !needsMoreFrames
  | .fail => true
  | _ => false

/-- What `on_resolver_send_data_complete` writes to the store. -/
def settle (status : SendStatus) (node : NodeId) (ruleType : RuleType) : Resolver :=
  let needsMoreFrames := state.executor.needsMoreFrames node
  match ruleType with
  | .getRule => state
  | .setRule =>
      let state := if status = .ok then state.writeValue .reported node [] else state
      if settlesGroup status needsMoreFrames then
        (state.groupNodes .setRule node).foldl (settleNode status) state
      else state

def onResolverSendDataComplete (status : SendStatus) (node : NodeId) (ruleType : RuleType) :
    Resolver :=
  (state.settle status node ruleType).releaseSlot node

/-- A rule that takes too long counts as a failed send. -/
def onRuleExecutionTimeout : Resolver :=
  if state.executor.ruleExecutionTimer then
    { state with
      executor := { state.executor with ruleExecutionTimer := false } }.onResolverSendDataComplete
        .fail state.executor.nodePendingResolution state.executor.timedOutRuleType
  else state

def onResolverNodeDeleted (node : NodeId) : Resolver :=
  let state :=
    { state with
      listeners := eraseKey state.listeners node
      pausedNodes := state.pausedNodes.filter fun other => other ≠ node
      pendingGetResolutions := eraseKey state.pendingGetResolutions node
      pendingSetResolutions := eraseKey state.pendingSetResolutions node
      setRetryCooldownUntil := eraseKey state.setRetryCooldownUntil node
      rearmAfterCompletion := eraseKey state.rearmAfterCompletion node }
  let state := state.releaseSlot node
  state.scanNode (state.getHighestParentWithResolutionListener node)

end Resolver

end AttributeResolver
