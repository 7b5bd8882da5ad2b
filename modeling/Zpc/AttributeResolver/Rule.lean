import Mathlib.Logic.Basic

/-!
# The rule executor

`attribute_resolver_rule.cpp` executes one resolution rule at a time.  Its state
is guarded by `rule_mutex`, which is not held while the rule function and the
send function run, so a call is a sequence of critical sections.  Each critical
section is a function of its own here.
-/

namespace AttributeResolver

/-- `attribute_store_node_t`. -/
abbrev NodeId := Nat

/-- `attribute_store_type_t`. -/
abbrev AttributeType := Nat

/-- `ATTRIBUTE_STORE_INVALID_NODE`. -/
def invalidNode : NodeId := 0

/-- `ATTRIBUTE_STORE_INVALID_ATTRIBUTE_TYPE`. -/
def invalidAttributeType : AttributeType := 0

/-- `MAX_FRAME_LEN`, the size of the buffer a rule function writes to. -/
def maxFrameLen : Nat := 255

/-- `resolver_rule_type_t`. -/
inductive RuleType
  | setRule
  | getRule
  deriving DecidableEq

/-- `resolver_send_status_t`. -/
inductive SendStatus
  | ok
  | okExecutionPending
  | fail
  | okExecutionVerified
  | okExecutionFailed
  | alreadyHandled
  | aborted
  deriving DecidableEq

/-- The values of `sl_status_t` the resolver uses. -/
inductive SlStatus
  | ok
  | fail
  | abort
  | busy
  | notFound
  | notReady
  | inProgress
  | isWaiting
  | notSupported
  | notInitialized
  | alreadyExists
  | wouldOverflow
  deriving DecidableEq

/-- The state of the executor. -/
inductive ResolverState
  | idle
  | executingSetRule
  | executingGetRule
  deriving DecidableEq

/-- `attribute_rules`: which functions were registered together.  Rules are
shared by pointer, and `identity` is the pointer. -/
structure Rules where
  identity : Nat
  setFunc : Bool
  getFunc : Bool
  deriving DecidableEq

/-- Whether the function of a rule type was registered. -/
def Rules.hasFunc (rules : Rules) : RuleType -> Bool
  | .setRule => rules.setFunc
  | .getRule => rules.getFunc

/-- A Get and a Set rule. -/
def exampleRules : Rules where
  identity := 0
  setFunc := true
  getFunc := true

/-- The state `rule_mutex` guards.  `ruleExecutionTimer` tells whether the timer
is running. -/
structure Executor where
  ruleBook : List (AttributeType × Rules)
  resolverState : ResolverState
  nodePendingResolution : NodeId
  nodeNeedsMoreFrames : Bool
  ruleExecutionTimer : Bool

namespace Executor

/-- The executor after `attribute_resolver_rule_init`, with no execution
ongoing. -/
def initial : Executor where
  ruleBook := []
  resolverState := .idle
  nodePendingResolution := invalidNode
  nodeNeedsMoreFrames := false
  ruleExecutionTimer := false

/-- `rule_book[node_type] = rules`. -/
def registerRules (executor : Executor) (type : AttributeType) (rules : Rules) : Executor :=
  { executor with ruleBook := (type, rules) :: executor.ruleBook }

/-- The rules of an attribute type. -/
def rulesOf (executor : Executor) (type : AttributeType) : Option Rules :=
  executor.ruleBook.lookup type

/-- `attribute_resolver_has_get_rule` and `attribute_resolver_has_set_rule`. -/
def hasRule (executor : Executor) (ruleType : RuleType) (type : AttributeType) : Bool :=
  (executor.rulesOf type).any fun rules => rules.hasFunc ruleType

/-- The state an execution of a rule type is in. -/
def stateOf : RuleType -> ResolverState
  | .setRule => .executingSetRule
  | .getRule => .executingGetRule

/-- The first phase of `attribute_resolver_rule_execute`: the status it returns
early with, or the executor with its slot claimed. -/
def claim (executor : Executor) (node : NodeId) (type : AttributeType)
    (ruleType : RuleType) : Except SlStatus Executor :=
  match executor.rulesOf type with
  | none => .error .notFound
  | some rules =>
      if executor.resolverState ≠ .idle then .error .busy
      else if rules.hasFunc ruleType then
        .ok
          { executor with
            resolverState := stateOf ruleType
            nodePendingResolution := node
            nodeNeedsMoreFrames := false }
      else .error .notSupported

/-- `reset_state` of `attribute_resolver_rule_execute`, when no frame was
accepted for transmission. -/
def resetState (executor : Executor) (node : NodeId) : Executor :=
  if executor.nodePendingResolution = node then
    { executor with
      resolverState := .idle
      nodePendingResolution := invalidNode }
  else executor

/-- The last phase of `attribute_resolver_rule_execute`, after the send function
accepted the frame. -/
def finish (executor : Executor) (node : NodeId) (moreFrames : Bool) : Executor :=
  if executor.nodePendingResolution = node then
    { executor with
      nodeNeedsMoreFrames := moreFrames
      ruleExecutionTimer := true }
  else executor

/-- What `on_resolver_send_data_complete` reads first. -/
def needsMoreFrames (executor : Executor) (node : NodeId) : Bool :=
  decide (node = executor.nodePendingResolution) && decide (node ≠ invalidNode) &&
    executor.nodeNeedsMoreFrames

/-- The last critical section of `on_resolver_send_data_complete` and the only
one of `attribute_resolver_rule_abort`. -/
def release (executor : Executor) (node : NodeId) : Executor :=
  if executor.nodePendingResolution = node then
    { executor with
      nodePendingResolution := invalidNode
      resolverState := .idle
      ruleExecutionTimer := false }
  else executor

/-- Whether `compl_func` is called after `release`. -/
def completes (executor : Executor) (node : NodeId) : Bool :=
  decide (executor.nodePendingResolution = node)

/-- `attribute_resolver_rule_busy`. -/
def isBusy (executor : Executor) : Bool := decide (executor.resolverState ≠ .idle)

/-- The rule type `on_rule_execution_timeout` reports. -/
def timedOutRuleType (executor : Executor) : RuleType :=
  if executor.resolverState = .executingSetRule then .setRule else .getRule

theorem stateOf_ne_idle (ruleType : RuleType) : stateOf ruleType ≠ .idle := by
  cases ruleType <;> decide

variable {executor : Executor} {node : NodeId} {type : AttributeType} {ruleType : RuleType}
  {status : SlStatus}

theorem claim_eq_ok {claimed : Executor}
    (succeeds : executor.claim node type ruleType = .ok claimed) :
    executor.resolverState = .idle ∧ executor.hasRule ruleType type = true ∧
      claimed =
        { executor with
          resolverState := stateOf ruleType
          nodePendingResolution := node
          nodeNeedsMoreFrames := false } := by
  unfold claim at succeeds
  cases found : executor.rulesOf type with
  | none => simp [found] at succeeds
  | some rules =>
    rw [found] at succeeds
    dsimp only at succeeds
    split at succeeds
    · cases succeeds
    · rename_i notBusy
      split at succeeds
      · rename_i registered
        cases succeeds
        exact ⟨not_not.mp notBusy, by simp [hasRule, found, registered], rfl⟩
      · cases succeeds

theorem status_of_claim (refused : executor.claim node type ruleType = .error status) :
    status = .notFound ∨ status = .busy ∨ status = .notSupported := by
  unfold claim at refused
  split at refused
  · cases refused
    exact .inl rfl
  · split at refused
    · cases refused
      exact .inr (.inl rfl)
    · split at refused
      · cases refused
      · cases refused
        exact .inr (.inr rfl)

theorem not_accepted_of_claim (refused : executor.claim node type ruleType = .error status) :
    ¬(status = .ok ∨ status = .inProgress) := by
  rcases status_of_claim refused with rfl | rfl | rfl <;> decide

end Executor

end AttributeResolver
