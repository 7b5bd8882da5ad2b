import Mathlib.Data.Nat.Basic
import Zpc.Foundation.OrderedMap
import Zpc.Foundation.Run

/-!
# Attribute timeouts

The functions of `attribute_timeouts.cpp` on an explicit state.  The list of timeouts is a
multimap, walked in the order of the nodes and, for one node, in the order of insertion;
one watch timer serves the whole list.

The clock is read anew whenever the source reads it: between two readings of one function
the clock may advance, by an amount that comes with the action.  Only `timer_set`, which
reads it again for the watch timer, is given the instant of the reading before.  The clock
counts milliseconds in 64 bits; times are natural numbers here.  The timer handler calls a
callback without holding the lock of the list, so one round of its loop is an action of its
own, and whatever a callback or another thread does in between is another action.

Next to the variables of the source the state keeps a record of the accepted requests, of
the callbacks made and of the timeouts that were taken out without a callback.  No function
of the source reads these.
-/

namespace AttributeTimeouts

open Foundation

/-- `attribute_store_node_t`. -/
abbrev Node := Nat

/-- Address of an `attribute_timeout_callback_t` function. -/
abbrev CallbackFunction := Nat

def attributeStoreInvalidNode : Node := 0

/-- Values of `sl_status_t` the component returns. -/
inductive SlStatus
  | ok
  | fail
  | notFound

/-- `attribute_timeout_t`.  The number is that of the request, for the record. -/
structure AttributeTimeout where
  timestamp : Nat
  callbackFunction : CallbackFunction
  number : Nat

/-- An entry of the multimap. -/
abbrev Entry := Node × AttributeTimeout

/-- A request that was answered with `SL_STATUS_OK`. -/
structure Accepted where
  node : Node
  callbackFunction : CallbackFunction
  deadline : Nat
  number : Nat

/-- One call of a callback. -/
structure Invocation where
  node : Node
  callbackFunction : CallbackFunction
  time : Nat
  number : Nat

/-- Why a timeout was taken out without a callback. -/
inductive Reason
  | cancelled
  | replaced
  | nodeDeleted

/-- A timeout that was taken out without a callback. -/
structure Dismissal where
  number : Nat
  reason : Reason

/-- The variables of the component and the record of what happened.  An armed timer is
known by the time it is due; the flag tells that the handler of the timer is running. -/
structure Timeouts where
  attributeTimeouts : List Entry
  watchTimer : Option Nat
  isHandling : Bool
  clockTime : Nat
  accepted : List Accepted
  invocations : List Invocation
  dismissals : List Dismissal

namespace Timeouts

/-- The state after `attribute_timeouts_init`. -/
def initial : Timeouts where
  attributeTimeouts := []
  watchTimer := none
  isHandling := false
  clockTime := 0
  accepted := []
  invocations := []
  dismissals := []

/-- Whether an entry is the one of a node and a callback. -/
def isFor (node : Node) (callbackFunction : CallbackFunction) (entry : Entry) : Bool :=
  entry.1 == node && entry.2.callbackFunction == callbackFunction

variable (timeouts : Timeouts)

/-- `attribute_timeout_cancel_callback_safe`, with the reason for the record. -/
def cancelCallbackSafe (reason : Reason) (node : Node) (callbackFunction : CallbackFunction) :
    Bool × Timeouts :=
  match timeouts.attributeTimeouts.find? (isFor node callbackFunction) with
  | none => (false, timeouts)
  | some entry =>
      (true,
        { timeouts with
          attributeTimeouts := timeouts.attributeTimeouts.eraseP (isFor node callbackFunction)
          dismissals := ⟨entry.2.number, reason⟩ :: timeouts.dismissals })

/-- The loop of `attribute_timeout_restart_watch_timer`: the earliest timestamp that is
still to come, zero when there is none. -/
def nextTimeout (now : Nat) (entries : List Entry) : Nat :=
  entries.foldl
    (fun next entry =>
      if now < entry.2.timestamp ∧ (next = 0 ∨ entry.2.timestamp < next) then
        entry.2.timestamp
      else next)
    0

/-- `attribute_timeout_restart_watch_timer`. -/
def restartWatchTimer : Timeouts :=
  let next := nextTimeout timeouts.clockTime timeouts.attributeTimeouts
  if next = 0 then timeouts
  else
    { timeouts with
      watchTimer := some (timeouts.clockTime + (next - timeouts.clockTime)) }

/-- The clock goes on. -/
def clockTick (elapsed : Nat) : Timeouts :=
  { timeouts with clockTime := timeouts.clockTime + elapsed }

/-- An accepted request is recorded. -/
def accept (node : Node) (callbackFunction : CallbackFunction) (deadline : Nat) : Timeouts :=
  { timeouts with
    accepted := ⟨node, callbackFunction, deadline, timeouts.accepted.length⟩ :: timeouts.accepted }

/-- A callback is called. -/
def invoke (node : Node) (callbackFunction : CallbackFunction) (number : Nat) : Timeouts :=
  { timeouts with
    invocations := ⟨node, callbackFunction, timeouts.clockTime, number⟩ :: timeouts.invocations }

/-- A timeout is put into the list. -/
def insert (node : Node) (timeout : AttributeTimeout) : Timeouts :=
  { timeouts with
    attributeTimeouts := insertInOrder (node, timeout) timeouts.attributeTimeouts }

/-- The part of `attribute_timeout_set_callback` in front of the restart of the timer: the
timestamp is taken, and once the lock is held the pair is replaced. -/
def replaceTimeout (node : Node) (duration : Nat) (callbackFunction : CallbackFunction)
    (elapsed : Nat) : Timeouts :=
  let timestamp := timeouts.clockTime + duration
  let number := timeouts.accepted.length
  (((timeouts.accept node callbackFunction timestamp).clockTick elapsed).cancelCallbackSafe
    .replaced node callbackFunction).2.insert node ⟨timestamp, callbackFunction, number⟩

/-- `attribute_timeout_set_callback`.  A null callback is none; the clock advances between
the reading for the timestamp and the one for the timer. -/
def setCallback (node : Node) (duration : Nat) (callbackFunction : Option CallbackFunction)
    (elapsed : Nat) : SlStatus × Timeouts :=
  match callbackFunction with
  | none => (.fail, timeouts)
  | some function =>
      if node = attributeStoreInvalidNode then (.fail, timeouts)
      else if duration = 0 then
        (.ok,
          (timeouts.accept node function timeouts.clockTime).invoke node function
            timeouts.accepted.length)
      else
        (.ok, (timeouts.replaceTimeout node duration function elapsed).restartWatchTimer)

/-- `attribute_timeout_cancel_callback`. -/
def cancelCallback (node : Node) (callbackFunction : CallbackFunction) : SlStatus × Timeouts :=
  let cancelled := timeouts.cancelCallbackSafe .cancelled node callbackFunction
  (if cancelled.1 then .ok else .notFound, cancelled.2)

/-- `attribute_timeouts.contains`. -/
def contains (node : Node) : Bool :=
  timeouts.attributeTimeouts.any fun entry => entry.1 == node

/-- `attribute_timeouts.erase` of a node. -/
def eraseNode (node : Node) : Timeouts :=
  { timeouts with
    attributeTimeouts := timeouts.attributeTimeouts.filter fun entry => !(entry.1 == node)
    dismissals :=
      ((timeouts.attributeTimeouts.filter fun entry => entry.1 == node).map
        fun entry => ⟨entry.2.number, .nodeDeleted⟩) ++ timeouts.dismissals }

/-- The timeout of a deleted node goes. -/
def onAttributeNodeDeleted (node : Node) : Timeouts :=
  if timeouts.contains node then (timeouts.eraseNode node).restartWatchTimer else timeouts

/-- The worker of the timer component finds the watch timer due and starts its handler. -/
def timerExpires : Timeouts :=
  match timeouts.watchTimer with
  | none => timeouts
  | some due =>
      if due ≤ timeouts.clockTime ∧ timeouts.isHandling = false then
        { timeouts with watchTimer := none, isHandling := true }
      else timeouts

/-- Whether an entry is due. -/
def isDue (now : Nat) (entry : Entry) : Bool := decide (entry.2.timestamp ≤ now)

/-- One round of the loop of `attribute_timeout_invoke_timeout_functions`.  When nothing is
due the clock advances between the search and the restart of the timer, and the handler
returns. -/
def invokeTimeoutFunctions (elapsed : Nat) : Timeouts :=
  match timeouts.attributeTimeouts.find? (isDue timeouts.clockTime) with
  | none => { (timeouts.clockTick elapsed).restartWatchTimer with isHandling := false }
  | some entry =>
      { timeouts with
        attributeTimeouts := timeouts.attributeTimeouts.eraseP (isDue timeouts.clockTime) }.invoke
        entry.1 entry.2.callbackFunction entry.2.number

/-- What can happen to the component. -/
inductive Action
  | setCallback
      (node : Node)
      (duration : Nat)
      (callbackFunction : Option CallbackFunction)
      (elapsed : Nat)
  | cancelCallback (node : Node) (callbackFunction : CallbackFunction)
  | nodeDeleted (node : Node)
  | timerExpires
  | handlerRound (elapsed : Nat)
  | clockTick (elapsed : Nat)

/-- One step of the component. -/
def step : Action -> Timeouts
  | .setCallback node duration callbackFunction elapsed =>
      (timeouts.setCallback node duration callbackFunction elapsed).2
  | .cancelCallback node callbackFunction => (timeouts.cancelCallback node callbackFunction).2
  | .nodeDeleted node => timeouts.onAttributeNodeDeleted node
  | .timerExpires => timeouts.timerExpires
  | .handlerRound elapsed =>
      if timeouts.isHandling then timeouts.invokeTimeoutFunctions elapsed else timeouts
  | .clockTick elapsed => timeouts.clockTick elapsed

end Timeouts

end AttributeTimeouts
