import Zpc.AttributeResolver.Effects

/-!
# Set frames in flight

A Set frame is generated by the rule function from the values of the store and
is in flight until its final status is reported.  The rule function reads the
store without a lock, each value at any time between its call and its return, so
all the stores of that time are kept.  The resolver is told the node
and the rule type of a completion only; which frame it belongs to is known to
the surroundings.  The frames are kept beside the resolver, together with what
the completions did to the desired values.
-/

namespace AttributeResolver

open Foundation

/-- A Set frame in flight. -/
structure Frame where
  number : Nat
  node : NodeId
  /-- The stores that the rule function may have read. -/
  generatedFrom : List Store

/-- A desired value that a completion promoted or cleared. -/
structure Settlement where
  node : NodeId
  desired : List UInt8
  /-- The values that the completed frame may have been generated from. -/
  generated : List (List UInt8)
  deriving DecidableEq

/-- The resolver with the Set frames in flight. -/
structure Tracked where
  resolver : Resolver
  /-- The number of frames that were generated. -/
  generated : Nat
  /-- The stores that there were since the rule function was called. -/
  readable : List Store
  frames : List Frame
  settlements : List Settlement

/-- An action, with the number of the frame it completes, if it does. -/
structure TrackedAction where
  action : Action
  frame : Nat

namespace Tracked

/-- The resolver after its initialization. -/
def initial (config : Config) (store : Store) : Tracked where
  resolver := .initial config store
  generated := 0
  readable := []
  frames := []
  settlements := []

variable (tracked : Tracked)

/-- The frame with a number, if it is in flight for a node. -/
def frameOf (number : Nat) (node : NodeId) : Option Frame :=
  tracked.frames.find? fun frame => frame.number = number && frame.node = node

/-- What a completion of a frame does to the desired values of its group. -/
def settlementsOf (resolver : Resolver) (frame : Frame) (status : SendStatus) : List Settlement :=
  if Resolver.settlesGroup status (resolver.executor.needsMoreFrames frame.node) then
    ((resolver.groupNodes .setRule frame.node).filter fun node =>
      resolver.store.isValueDefined .desired node).map fun node =>
        { node := node
          desired := resolver.store.value .desired node
          generated := frame.generatedFrom.map fun store => store.value .desired node }
  else []

/-- A status is reported for a node.  `isFinal` tells whether the frame is not
in flight any more. -/
def report (number : Nat) (node : NodeId) (status : SendStatus) (isFinal : Bool) : Tracked :=
  match tracked.frameOf number node with
  | none => tracked
  | some frame =>
      { tracked with
        frames :=
          if isFinal then tracked.frames.filter fun other => other.number ≠ number
          else tracked.frames
        settlements := tracked.settlements ++ settlementsOf tracked.resolver frame status }

/-- The frames after an action, as far as the surroundings know them. -/
def track (action : TrackedAction) : Tracked :=
  match action.action, tracked.resolver.control with
  | .sendDataComplete status node .setRule, _ =>
      tracked.report action.frame node status (decide (status ≠ .okExecutionPending))
  | .restartSet node (some .setRule), _ =>
      if hasKey tracked.resolver.pendingSetResolutions node then
        tracked.report action.frame node .aborted true
      else tracked
  | .ruleTimeout, _ =>
      -- The frame stays in flight: its own status will still be reported.
      if tracked.resolver.executor.ruleExecutionTimer &&
          decide (tracked.resolver.executor.timedOutRuleType = .setRule) then
        tracked.report action.frame tracked.resolver.executor.nodePendingResolution .fail false
      else tracked
  | .ruleReturns frameStatus frameSize, .ruleFunction execution =>
      if execution.ruleType = .setRule ∧
          (frameStatus = some .ok ∨ frameStatus = some .inProgress) ∧ frameSize ≤ maxFrameLen then
        { tracked with
          generated := tracked.generated + 1
          frames := tracked.frames ++
            [{ number := tracked.generated
               node := execution.node
               generatedFrom := tracked.readable }] }
      else tracked
  | .sendReturns false, .sending execution _ =>
      if execution.ruleType = .setRule then
        { tracked with
          frames := tracked.frames.filter fun frame => frame.number + 1 ≠ tracked.generated }
      else tracked
  | _, _ => tracked

/-- One step of the resolver, with the frames in flight and what a rule function that
runs may have read. -/
def step (tracked : Tracked) (action : TrackedAction) : Tracked :=
  let resolver := tracked.resolver.step action.action
  { tracked.track action with
    resolver := resolver
    readable :=
      match tracked.resolver.control, resolver.control with
      | .ruleFunction _, .ruleFunction _ => tracked.readable ++ [resolver.store]
      | _, .ruleFunction _ => [resolver.store]
      | _, _ => [] }

end Tracked

end AttributeResolver
