import Zpc.Foundation.Run

/-!
# The S0 bootstrapping machine

The state machine of `zwave_s0_sm.c`, together with the two cases of
`s0_application_command_handler` that feed it.  An event is looked up by a walk over the
whole transition table.  The action of a row may raise another event, and the walk then
goes on in the state that event has left behind.

`zwave_tx` answers a send with its acceptance, after it may have evicted frames that the
machine handed over earlier.  The network key is read from the keystore.  Both answers
come with the action.  The machine keeps count of the frames whose completion is
outstanding and a record of what happened; no function of the source reads these.

A handler and the callback of the timer are one step each.  The source has no lock
between their threads, so two of them can also overlap; such runs are not described here.
-/

namespace S0

open Foundation

/-- `zwave_node_id_t`. -/
abbrev NodeId := Nat

/-- `zwave_controller_encapsulation_scheme_t`. -/
inductive Encapsulation
  | networkScheme
  | none
  | security0
  | security2Unauthenticated
  | security2Authenticated
  | security2Access
  deriving DecidableEq

namespace Bootstrapping

/-- `s0_bootstrap_state_t`. -/
inductive State
  | incIdle
  | awaitingSchemeReport
  | handleSchemeReport
  | awaitingKeyVerify
  | handleNetKeyVerify
  | awaiting2SchemeReport
  deriving DecidableEq

/-- The states in which a frame of the other node is awaited. -/
def State.awaits : State -> Bool
  | .awaitingSchemeReport => true
  | .awaitingKeyVerify => true
  | .awaiting2SchemeReport => true
  | _ => false

/-- `s0_bootstrap_event_t`. -/
inductive Event
  | bootstrappingStart
  | schemeReportReceived
  | sendKeySet
  | netKeyVerifyReceived
  | sendSchemeInherit
  | wasNotController
  | wrongSchemeReport
  | bootstrapAbort
  | timeout
  deriving DecidableEq

/-- `s0_action_t`. -/
inductive TransitionAction
  | sendSchemeGet
  | schemeReportRecv
  | sendKeySet
  | netKeyVerifyReceived
  | sendSchemeInherit
  | secondSchemeReportReceived
  | bootstrapAbort
  | noAction

/-- `s0_transition_t`. -/
structure Transition where
  state : State
  event : Event
  action : TransitionAction
  newState : State

/-- `s0_transition_table`. -/
def transitionTable : List Transition :=
  [⟨.incIdle, .bootstrappingStart, .sendSchemeGet, .awaitingSchemeReport⟩,
    ⟨.awaitingSchemeReport, .bootstrapAbort, .bootstrapAbort, .incIdle⟩,
    ⟨.awaitingSchemeReport, .timeout, .bootstrapAbort, .incIdle⟩,
    ⟨.awaitingSchemeReport, .schemeReportReceived, .schemeReportRecv, .handleSchemeReport⟩,
    ⟨.handleSchemeReport, .sendKeySet, .sendKeySet, .awaitingKeyVerify⟩,
    ⟨.awaitingKeyVerify, .timeout, .bootstrapAbort, .incIdle⟩,
    ⟨.awaitingKeyVerify, .netKeyVerifyReceived, .netKeyVerifyReceived, .handleNetKeyVerify⟩,
    ⟨.awaitingKeyVerify, .bootstrapAbort, .bootstrapAbort, .incIdle⟩,
    ⟨.handleNetKeyVerify, .wasNotController, .noAction, .incIdle⟩,
    ⟨.handleNetKeyVerify, .sendSchemeInherit, .sendSchemeInherit, .awaiting2SchemeReport⟩,
    ⟨.awaiting2SchemeReport, .schemeReportReceived, .secondSchemeReportReceived, .incIdle⟩,
    ⟨.awaiting2SchemeReport, .timeout, .bootstrapAbort, .incIdle⟩,
    ⟨.awaiting2SchemeReport, .bootstrapAbort, .bootstrapAbort, .incIdle⟩]

/-- The frames that the machine sends. -/
inductive SentFrame
  | schemeGet
  | keySet
  | schemeInherit
  deriving DecidableEq

/-- The frames that reach the machine. -/
inductive ReceivedFrame
  | schemeReport
  | networkKeyVerify
  deriving DecidableEq

/-- What is recorded. -/
inductive Occurrence
  | started (nodeId : NodeId) (isController : Bool)
  | sent (frame : SentFrame)
  | received (nodeId : NodeId) (frame : ReceivedFrame) (encapsulation : Encapsulation)
  | outcome (nodeId : NodeId) (success : Bool)
  deriving DecidableEq

def transmitCompleteOk : Nat := 0x00

def transmitCompleteFail : Nat := 0x02

/-- Size of `ZW_SECURITY_SCHEME_REPORT_FRAME`. -/
def schemeReportFrameSize : Nat := 3

/-- How the surroundings answer in the course of one event: how many frames of the machine
`zwave_tx` evicts, whether it takes the new one, and whether the network key is read the
first and the second time. -/
structure Answers where
  evicted : Nat
  accepted : Bool
  firstRead : Bool
  secondRead : Bool

/-- `s0_sm_t` with the callback of the user, the count of outstanding completions and the
record, the newest occurrence first. -/
structure Machine where
  bootstrapState : State
  remoteNodeId : NodeId
  bootstrapTimer : Bool
  isController : Bool
  completeCallback : Bool
  outstanding : Nat
  record : List Occurrence

namespace Machine

/-- The state before the first bootstrapping. -/
def initial : Machine where
  bootstrapState := .incIdle
  remoteNodeId := 0
  bootstrapTimer := false
  isController := false
  completeCallback := false
  outstanding := 0
  record := []

/-- `reset_s0_sm`. -/
def reset (machine : Machine) : Machine :=
  { machine with
    bootstrapState := .incIdle
    remoteNodeId := 0
    bootstrapTimer := false
    isController := false }

/-- Note what happened. -/
def note (machine : Machine) (occurrence : Occurrence) : Machine :=
  { machine with record := occurrence :: machine.record }

/-- Call the callback of the user, if there is one. -/
def complete (machine : Machine) (success : Bool) : Machine :=
  if machine.completeCallback then machine.note (.outcome machine.remoteNodeId success)
  else machine

/-- `s0_abort_bootstrap`. -/
def abortBootstrap (machine : Machine) : Machine := (machine.complete false).reset

section Raising

variable (raise : Event -> Machine -> Machine) (answers : Answers)

/-- `s0_send_data_callback`. -/
def sendDataCallback (machine : Machine) (status : Nat) : Machine :=
  if status = transmitCompleteOk then { machine with bootstrapTimer := true }
  else if status = transmitCompleteFail then raise .bootstrapAbort machine
  else machine

/-- The frames of the machine that `zwave_tx` evicts are completed. -/
def evictFrames : Nat -> Machine -> Machine
  | 0, machine => machine
  | evicted + 1, machine =>
      if machine.outstanding = 0 then machine
      else
        evictFrames evicted
          (sendDataCallback raise { machine with outstanding := machine.outstanding - 1 }
            transmitCompleteFail)

/-- `s0_bootstrap_frames_generic_send`. -/
def genericSend (machine : Machine) (frame : SentFrame) : Machine :=
  let machine := evictFrames raise answers.evicted machine
  if answers.accepted then
    { machine with outstanding := machine.outstanding + 1 }.note (.sent frame)
  else machine

/-- `s0_handle_net_key_verify`. -/
def handleNetKeyVerify (machine : Machine) : Machine :=
  if machine.isController then raise .sendSchemeInherit machine
  else raise .wasNotController (machine.complete true)

/-- `s0_send_key_set`, which sends nothing without the key. -/
def sendKeySet (machine : Machine) : Machine :=
  if answers.firstRead then genericSend raise answers machine .keySet else machine

/-- A send that failed aborts the bootstrapping. -/
def abortUnless (sent : Bool) (machine : Machine) : Machine :=
  if sent then machine else raise .bootstrapAbort machine

/-- What a row of the table does. -/
def perform (machine : Machine) : TransitionAction -> Machine
  | .sendSchemeGet =>
      abortUnless raise answers.accepted (genericSend raise answers machine .schemeGet)
  | .schemeReportRecv => raise .sendKeySet machine
  | .sendKeySet =>
      abortUnless raise answers.secondRead
        (abortUnless raise (answers.firstRead && answers.accepted)
          (sendKeySet raise answers machine))
  | .netKeyVerifyReceived => handleNetKeyVerify raise machine
  | .sendSchemeInherit =>
      abortUnless raise answers.accepted (genericSend raise answers machine .schemeInherit)
  | .secondSchemeReportReceived => if machine.isController then machine.complete true else machine
  | .bootstrapAbort => machine.abortBootstrap
  | .noAction => machine.reset

end Raising

/-- The walk over the table, to a depth of events raised inside of events. -/
def processEventTo (answers : Answers) : Nat -> Event -> Machine -> Machine
  | 0, _, machine => machine
  | depth + 1, event, machine =>
      transitionTable.foldl
        (fun machine row =>
          if machine.bootstrapState = row.state ∧ event = row.event then
            perform (processEventTo answers depth) answers
              { machine with bootstrapState := row.newState } row.action
          else machine)
        machine

/-- `s0_sm_process_event`.  Events are raised three deep at most. -/
def processEvent (answers : Answers) : Event -> Machine -> Machine := processEventTo answers 3

/-- What can happen to the machine. -/
inductive Action
  | bootstrappingStart (nodeId : NodeId) (isController : Bool) (answers : Answers)
  | bootstrappingStop
  | schemeReport (nodeId : NodeId) (encapsulation : Encapsulation) (frameLength : Nat)
      (answers : Answers)
  | networkKeyVerify (nodeId : NodeId) (encapsulation : Encapsulation) (answers : Answers)
  | sendCompletes (status : Nat) (answers : Answers)
  | timerExpires (answers : Answers)
  | setCallback (isSet : Bool)

/-- `s0_bootstrapping_start`. -/
def bootstrappingStart (machine : Machine) (nodeId : NodeId) (isController : Bool)
    (answers : Answers) : Machine :=
  if machine.bootstrapState = .incIdle then
    let machine := { machine.reset with remoteNodeId := nodeId }.note (.started nodeId isController)
    { processEvent answers .bootstrappingStart machine with isController := isController }
  else machine

/-- `s0_scheme_report_received`. -/
def schemeReportReceived (machine : Machine) (fromNode : NodeId) (answers : Answers) : Machine :=
  if fromNode = machine.remoteNodeId ∧
      (machine.bootstrapState = .awaitingSchemeReport ∨
        machine.bootstrapState = .awaiting2SchemeReport) then
    processEvent answers .schemeReportReceived { machine with bootstrapTimer := false }
  else machine

/-- `s0_network_key_verify_received`. -/
def networkKeyVerifyReceived (machine : Machine) (fromNode : NodeId)
    (answers : Answers) : Machine :=
  if fromNode = machine.remoteNodeId then
    processEvent answers .netKeyVerifyReceived { machine with bootstrapTimer := false }
  else machine

/-- One step of the machine.  A completion comes for a frame that is outstanding, and the
timer fires when it is armed. -/
def step (machine : Machine) : Action -> Machine
  | .bootstrappingStart nodeId isController answers =>
      machine.bootstrappingStart nodeId isController answers
  | .bootstrappingStop => machine.reset
  | .schemeReport nodeId encapsulation frameLength answers =>
      if schemeReportFrameSize ≤ frameLength then
        (machine.note (.received nodeId .schemeReport encapsulation)).schemeReportReceived nodeId
          answers
      else machine
  | .networkKeyVerify nodeId encapsulation answers =>
      (machine.note (.received nodeId .networkKeyVerify encapsulation)).networkKeyVerifyReceived
        nodeId answers
  | .sendCompletes status answers =>
      if machine.outstanding = 0 then machine
      else
        sendDataCallback (processEvent answers)
          { machine with outstanding := machine.outstanding - 1 } status
  | .timerExpires answers =>
      if machine.bootstrapTimer then
        processEvent answers .timeout { machine with bootstrapTimer := false }
      else machine
  | .setCallback isSet => { machine with completeCallback := isSet }

@[simp] theorem bootstrapState_abortBootstrap (machine : Machine) :
    machine.abortBootstrap.bootstrapState = .incIdle := rfl

theorem abortBootstrap_idle (machine : Machine) :
    { machine with bootstrapState := .incIdle }.abortBootstrap = machine.abortBootstrap := by
  unfold abortBootstrap complete
  split <;> rfl

variable (answers : Answers) (depth : Nat) {machine : Machine}

theorem processEventTo_bootstrapAbort (machine : Machine) :
    processEventTo answers (depth + 1) .bootstrapAbort machine =
      if machine.bootstrapState.awaits then machine.abortBootstrap else machine := by
  unfold processEventTo
  cases state : machine.bootstrapState <;>
    simp [transitionTable, perform, state, State.awaits, abortBootstrap_idle]

theorem processEventTo_timeout (machine : Machine) :
    processEventTo answers (depth + 1) .timeout machine =
      if machine.bootstrapState.awaits then machine.abortBootstrap else machine := by
  unfold processEventTo
  cases state : machine.bootstrapState <;>
    simp [transitionTable, perform, state, State.awaits, abortBootstrap_idle]

theorem processEventTo_bootstrappingStart (idle : machine.bootstrapState = .incIdle) :
    processEventTo answers (depth + 1) .bootstrappingStart machine =
      perform (processEventTo answers depth) answers
        { machine with bootstrapState := .awaitingSchemeReport } .sendSchemeGet := by
  rw [processEventTo]
  simp [transitionTable, idle]

theorem processEventTo_sendKeySet (handles : machine.bootstrapState = .handleSchemeReport) :
    processEventTo answers (depth + 1) .sendKeySet machine =
      perform (processEventTo answers depth) answers
        { machine with bootstrapState := .awaitingKeyVerify } .sendKeySet := by
  rw [processEventTo]
  simp [transitionTable, handles]

theorem processEventTo_sendSchemeInherit (answers : Answers) (depth : Nat) {machine : Machine}
    (handles : machine.bootstrapState = .handleNetKeyVerify) :
    processEventTo answers (depth + 1) .sendSchemeInherit machine =
      perform (processEventTo answers depth) answers
        { machine with bootstrapState := .awaiting2SchemeReport } .sendSchemeInherit := by
  rw [processEventTo]
  simp [transitionTable, handles]

theorem processEventTo_wasNotController (answers : Answers) (depth : Nat) {machine : Machine}
    (handles : machine.bootstrapState = .handleNetKeyVerify) :
    processEventTo answers (depth + 1) .wasNotController machine = machine.reset := by
  rw [processEventTo]
  simp [transitionTable, handles, perform, reset]

theorem processEventTo_netKeyVerifyReceived (answers : Answers) (depth : Nat) (machine : Machine) :
    processEventTo answers (depth + 1) .netKeyVerifyReceived machine =
      if machine.bootstrapState = .awaitingKeyVerify then
        handleNetKeyVerify (processEventTo answers depth)
          { machine with bootstrapState := .handleNetKeyVerify }
      else machine := by
  rw [processEventTo]
  cases state : machine.bootstrapState <;> simp [transitionTable, state, perform]

theorem processEventTo_secondSchemeReport (answers : Answers) (depth : Nat) {machine : Machine}
    (awaits : machine.bootstrapState = .awaiting2SchemeReport) :
    processEventTo answers (depth + 1) .schemeReportReceived machine =
      perform (processEventTo answers depth) answers
        { machine with bootstrapState := .incIdle } .secondSchemeReportReceived := by
  rw [processEventTo]
  simp [transitionTable, awaits]

theorem processEventTo_firstSchemeReport (awaits : machine.bootstrapState = .awaitingSchemeReport)
    (notSecond : (processEventTo answers depth .sendKeySet
      { machine with bootstrapState := .handleSchemeReport }).bootstrapState ≠
        .awaiting2SchemeReport) :
    processEventTo answers (depth + 1) .schemeReportReceived machine =
      processEventTo answers depth .sendKeySet
        { machine with bootstrapState := .handleSchemeReport } := by
  rw [processEventTo]
  simp [transitionTable, awaits, perform, notSecond]

/-- A bootstrapping goes on in the state it has, or it was aborted. -/
def GoesOn (before after : Machine) : Prop :=
  (after.bootstrapState = before.bootstrapState ∧ after.remoteNodeId = before.remoteNodeId ∧
    after.isController = before.isController) ∨ after.bootstrapState = .incIdle

theorem GoesOn.refl (machine : Machine) : machine.GoesOn machine := .inl ⟨rfl, rfl, rfl⟩

theorem GoesOn.trans {first second third : Machine} (earlier : first.GoesOn second)
    (later : second.GoesOn third) : first.GoesOn third := by
  rcases later with ⟨sameState, sameRemote, sameController⟩ | idle
  · rcases earlier with ⟨firstState, firstRemote, firstController⟩ | idle
    · exact .inl ⟨sameState.trans firstState, sameRemote.trans firstRemote,
        sameController.trans firstController⟩
    · exact .inr (sameState.trans idle)
  · exact .inr idle

/-- What an abort does, for the functions that raise one. -/
def Aborts (raise : Event -> Machine -> Machine) : Prop :=
  ∀ machine, raise .bootstrapAbort machine =
    if machine.bootstrapState.awaits then machine.abortBootstrap else machine

theorem aborts_processEventTo (answers : Answers) (depth : Nat) :
    Aborts (processEventTo answers (depth + 1)) :=
  processEventTo_bootstrapAbort answers depth

section Sending

variable {raise : Event -> Machine -> Machine} (aborts : Aborts raise) {answers : Answers}
include aborts

variable (machine : Machine)

theorem GoesOn.raiseAbort : machine.GoesOn (raise .bootstrapAbort machine) := by
  rw [aborts machine]
  split
  · exact .inr rfl
  · exact .refl machine

theorem GoesOn.evictFrames (evicted : Nat) (machine : Machine) :
    machine.GoesOn (evictFrames raise evicted machine) := by
  induction evicted generalizing machine with
  | zero => exact .refl machine
  | succ evicted ih =>
    rw [Machine.evictFrames]
    split
    · exact .refl machine
    · have failed : machine.GoesOn (raise .bootstrapAbort
          { machine with outstanding := machine.outstanding - 1 }) :=
        .raiseAbort aborts { machine with outstanding := machine.outstanding - 1 }
      exact failed.trans (ih _)

theorem GoesOn.genericSend (frame : SentFrame) :
    machine.GoesOn (genericSend raise answers machine frame) := by
  have evicted := GoesOn.evictFrames aborts answers.evicted machine
  unfold Machine.genericSend
  split <;> exact evicted

theorem GoesOn.abortUnless (sent : Bool) (machine : Machine) :
    machine.GoesOn (abortUnless raise sent machine) := by
  unfold Machine.abortUnless
  split
  · exact .refl machine
  · exact .raiseAbort aborts machine

theorem abortUnless_idle {before machine : Machine} (goesOn : before.GoesOn machine)
    (awaits : before.bootstrapState.awaits = true) :
    (abortUnless raise false machine).bootstrapState = .incIdle := by
  unfold abortUnless
  rw [if_neg Bool.false_ne_true, aborts machine]
  rcases goesOn with ⟨sameState, -⟩ | idle
  · rw [sameState, if_pos awaits]
    rfl
  · split
    · rfl
    · exact idle

end Sending

end Machine

end Bootstrapping

end S0
