import Zpc.NetworkManagement.System
import Mathlib.Tactic

/-!
# What the handling of an event does

The handling of an event is its switch, and then the clean-up, the return routes
and SmartStart, unless the switch ends at once.  For each part this module says
which variables it leaves alone.
-/

namespace NetworkManagement

/-- What the switch has done when it does not go on after it. -/
inductive Reaction.Ends (nms : Nms) (routes : List Route) (reaction : Reaction) : Prop
  | afterSwitch (ending : reaction.ending = .afterSwitch)
  | unchanged
      (idle : nms.state = .idle)
      (same : reaction = { Reaction.ofNms nms routes with ending := .atOnce })
  | selfDestruct
      (waits : nms.state = .waitForSecureLearn)
      (ending : reaction.ending = .atOnce)
      (state : reaction.nms.state = .setDefault)
      (keep : reaction.timer = .keep)
      (silent : reaction.added = [])
  | proxyInclusion
      (idle : nms.state = .idle)
      (ending : reaction.ending = .withAnother .addNodeStatusDone)
      (state : reaction.nms = { nms with state := .waitForProtocol })
      (set : reaction.timer = .set)
      (silent : reaction.added = [])
  | noInformation
      (found : nms.state = .nodeFound)
      (ending : reaction.ending = .withAnother .addFailed)
      (state : reaction.nms.state = .nodeFound)
      (silent : reaction.added = [])

section Reactions

variable (env : Surroundings) (nms : Nms) (routes : List Route)

variable (event : Event)

theorem reactIdle_ends (idle : nms.state = .idle) :
    (reactIdle env nms routes event).Ends nms routes := by
  cases event
  case learnSet =>
    simp only [reactIdle]
    split_ifs
    · exact .afterSwitch rfl
    · exact .unchanged idle rfl
  case nodeAddSmartStart data =>
    simp only [reactIdle]
    split_ifs
    · exact .unchanged idle rfl
    · exact .afterSwitch rfl
  case nodeRemove =>
    simp only [reactIdle]
    split_ifs <;> exact .afterSwitch rfl
  case requestNodeNeighborRequest nodeId =>
    simp only [reactIdle]
    split_ifs <;> exact .afterSwitch rfl
  case startProxyInclusion => exact .proxyInclusion idle rfl rfl rfl rfl
  all_goals exact .afterSwitch rfl

theorem reactNodeFound_ends (info : LearnInfo) (event : Event) (found : nms.state = .nodeFound) :
    (reactNodeFound nms routes info event).Ends nms routes := by
  have information : ∀ isController,
      (reactNodeInformation nms routes info isController).Ends nms routes := by
    intro isController
    unfold reactNodeInformation
    split_ifs
    · exact .noInformation found rfl found rfl
    · exact .afterSwitch rfl
    · exact .noInformation found rfl found rfl
  cases event
  case addController => exact information true
  case addEndNode => exact information false
  all_goals exact .afterSwitch rfl

theorem dispatchNodeAddedAfterSelfDestructFail_ending :
    (dispatchNodeAddedAfterSelfDestructFail env nms routes).ending = .afterSwitch := by
  unfold dispatchNodeAddedAfterSelfDestructFail
  split_ifs <;> rfl

theorem reactNodeStatusDone_ending :
    (reactNodeStatusDone env nms routes).ending = .afterSwitch := by
  unfold reactNodeStatusDone
  extract_lets known
  split_ifs <;> rfl

theorem reactKeyChallenge_ending : (reactKeyChallenge env nms routes).ending = .afterSwitch := by
  unfold reactKeyChallenge
  extract_lets blanked
  split_ifs
  · rfl
  · rfl
  all_goals split <;> rfl

theorem react_ends (info : LearnInfo) (event : Event) :
    (react env nms routes info event).Ends nms routes := by
  unfold react
  cases state : nms.state <;> simp only
  case idle => exact reactIdle_ends env nms routes event state
  case nodeFound => exact reactNodeFound_ends nms routes info event state
  case waitForTxToSelfDestruct =>
    cases event
    case nopSuccess => exact .afterSwitch (dispatchNodeAddedAfterSelfDestructFail_ending _ _ _)
    all_goals exact .afterSwitch rfl
  case waitForProtocol =>
    cases event
    case addNodeStatusDone => exact .afterSwitch (reactNodeStatusDone_ending _ _ _)
    all_goals exact .afterSwitch rfl
  case waitForSecureAdd =>
    cases event
    case securityDone =>
      simp only [reactWaitForSecureAdd]
      split_ifs <;> exact .afterSwitch rfl
    case addSecurityKeyChallenge => exact .afterSwitch (reactKeyChallenge_ending _ _ _)
    all_goals exact .afterSwitch rfl
  case waitForSelfDestructRemoval =>
    cases event
    case removeFailedFail =>
      exact .afterSwitch (dispatchNodeAddedAfterSelfDestructFail_ending _ _ _)
    case timeout => exact .afterSwitch (dispatchNodeAddedAfterSelfDestructFail_ending _ _ _)
    all_goals exact .afterSwitch rfl
  case learnModeStarted =>
    cases event
    case learnDone =>
      simp only [reactLearnModeStarted]
      split_ifs <;> exact .afterSwitch rfl
    all_goals exact .afterSwitch rfl
  case waitForSecureLearn =>
    cases event
    case securityDone =>
      simp only [reactWaitForSecureLearn]
      split_ifs
      · exact .selfDestruct state rfl rfl rfl rfl
      · exact .afterSwitch rfl
    all_goals exact .afterSwitch rfl
  all_goals cases event <;> exact .afterSwitch rfl

end Reactions

namespace Machine

/-- The machine after the switch. -/
def switched (env : Surroundings) (machine : Machine) (event : Event) : Machine :=
  let reacted := machine.apply (machine.reaction env event)
  match (machine.reaction env event).ending with
  | .withAnother another => reacted.apply (reacted.reaction env another)
  | _ => reacted

variable {env : Surroundings} {machine : Machine} {event : Event}

theorem switched_of_alone
    (alone : ∀ another, (machine.reaction env event).ending ≠ .withAnother another) :
    machine.switched env event = machine.apply (machine.reaction env event) := by
  cases ending : (machine.reaction env event).ending with
  | afterSwitch | atOnce => simp only [switched, ending]
  | withAnother another => exact absurd ending (alone another)

theorem switched_of_withAnother {another : Event}
    (hands : (machine.reaction env event).ending = .withAnother another) :
    machine.switched env event =
      (machine.apply (machine.reaction env event)).apply
        ((machine.apply (machine.reaction env event)).reaction env another) := by
  simp only [switched, hands]

theorem reaction_addFailed (env : Surroundings) (found : machine.nms.state = .nodeFound) :
    machine.reaction env .addFailed = endOperation machine.nms machine.routes := by
  simp only [reaction, react, found]
  rfl

theorem reaction_addNodeStatusDone (env : Surroundings)
    (waits : machine.nms.state = .waitForProtocol) :
    machine.reaction env .addNodeStatusDone =
      reactNodeStatusDone env machine.nms machine.routes := by
  simp only [reaction, react, waits]
  rfl

/-- The switch ends the handling. -/
def endsAtOnce (env : Surroundings) (machine : Machine) (event : Event) : Prop :=
  (machine.reaction env event).ending = .atOnce

theorem fsmPostEvent_of_endsAtOnce (atOnce : machine.endsAtOnce env event) :
    machine.fsmPostEvent env event = machine.switched env event := by
  unfold endsAtOnce at atOnce
  simp only [fsmPostEvent, switched, atOnce]

theorem fsmPostEvent_of_not_endsAtOnce (goesOn : ¬ machine.endsAtOnce env event) :
    machine.fsmPostEvent env event = (machine.switched env event).afterSwitch env := by
  unfold endsAtOnce at goesOn
  simp only [fsmPostEvent, switched]
  split <;> simp_all

section Apply

variable (machine : Machine) (reaction : Reaction)

@[simp] theorem apply_nms : (machine.apply reaction).nms = reaction.nms := rfl

@[simp] theorem apply_routes : (machine.apply reaction).routes = reaction.routes := rfl

@[simp] theorem apply_events : (machine.apply reaction).events =
    machine.events ++ reaction.posts.map fun event => ⟨event, .internal⟩ := rfl

@[simp] theorem apply_learnInfo : (machine.apply reaction).learnInfo = machine.learnInfo := by
  unfold apply operateTimer
  cases reaction.timer <;> rfl

@[simp] theorem apply_expired : (machine.apply reaction).expired = machine.expired := by
  unfold apply operateTimer
  cases reaction.timer <;> rfl

@[simp] theorem apply_history : (machine.apply reaction).history =
    { machine.history with added := machine.history.added ++ reaction.added } := rfl

@[simp] theorem apply_timer : (machine.apply reaction).timer =
    (machine.operateTimer reaction.timer).timer := rfl

@[simp] theorem apply_timerOperations : (machine.apply reaction).timerOperations =
    (machine.operateTimer reaction.timer).timerOperations := rfl

end Apply

section AfterSwitch

variable (env : Surroundings) (machine : Machine)

@[simp] theorem cleanUp_state : machine.cleanUp.nms.state = machine.nms.state := by
  unfold cleanUp
  split_ifs <;> rfl

@[simp] theorem cleanUp_routes : machine.cleanUp.routes = machine.routes := by
  unfold cleanUp
  split_ifs <;> rfl

@[simp] theorem cleanUp_events : machine.cleanUp.events = machine.events := by
  unfold cleanUp
  split_ifs <;> rfl

@[simp] theorem cleanUp_learnInfo : machine.cleanUp.learnInfo = machine.learnInfo := by
  unfold cleanUp
  split_ifs <;> rfl

@[simp] theorem cleanUp_expired : machine.cleanUp.expired = machine.expired := by
  unfold cleanUp
  split_ifs <;> rfl

@[simp] theorem cleanUp_history : machine.cleanUp.history = machine.history := by
  unfold cleanUp
  split_ifs <;> rfl

theorem cleanUp_of_idle (idle : machine.nms.state = .idle) :
    machine.cleanUp = (machine.operateTimer .stop).withNms (resetLastOperationData machine.nms) :=
  if_pos idle

theorem cleanUp_of_busy (busy : machine.nms.state ≠ .idle) : machine.cleanUp = machine :=
  if_neg busy

@[simp] theorem assignReturnRoutes_events :
    (machine.assignReturnRoutes env).events = machine.events := by
  unfold assignReturnRoutes
  dsimp only
  split_ifs <;> rfl

@[simp] theorem assignReturnRoutes_learnInfo :
    (machine.assignReturnRoutes env).learnInfo = machine.learnInfo := by
  unfold assignReturnRoutes
  dsimp only
  split_ifs <;> rfl

@[simp] theorem assignReturnRoutes_timer :
    (machine.assignReturnRoutes env).timer = machine.timer := by
  unfold assignReturnRoutes
  dsimp only
  split_ifs <;> rfl

@[simp] theorem assignReturnRoutes_expired :
    (machine.assignReturnRoutes env).expired = machine.expired := by
  unfold assignReturnRoutes
  dsimp only
  split_ifs <;> rfl

@[simp] theorem assignReturnRoutes_timerOperations :
    (machine.assignReturnRoutes env).timerOperations = machine.timerOperations := by
  unfold assignReturnRoutes
  dsimp only
  split_ifs <;> rfl

@[simp] theorem assignReturnRoutes_routes :
    (machine.assignReturnRoutes env).routes = (assignNext env machine.routes).2 := by
  unfold assignReturnRoutes
  dsimp only
  split_ifs <;> rfl

theorem assignReturnRoutes_nms :
    (machine.assignReturnRoutes env).nms =
      if (assignNext env machine.routes).1 then
        { machine.nms with state := .assigningReturnRoute }
      else machine.nms := by
  unfold assignReturnRoutes
  dsimp only
  split_ifs <;> rfl

theorem assignReturnRoutes_history :
    (machine.assignReturnRoutes env).history =
      { machine.history with
        interrupted :=
          if (assignNext env machine.routes).1 = true ∧
              ¬ (machine.nms.state = .idle ∨ machine.nms.state = .assigningReturnRoute) then
            machine.history.interrupted ++ [machine.nms.state]
          else machine.history.interrupted } := by
  unfold assignReturnRoutes
  dsimp only
  split_ifs <;> simp_all

theorem activateSmartStart_eq :
    ∃ intent, machine.activateSmartStart =
      machine.withNms { machine.nms with learnModeIntent := intent } := by
  unfold activateSmartStart
  split_ifs <;> exact ⟨_, rfl⟩

variable (nms : Nms)

@[simp] theorem withNms_nms : (machine.withNms nms).nms = nms := rfl

@[simp] theorem withNms_routes : (machine.withNms nms).routes = machine.routes := rfl

@[simp] theorem withNms_events : (machine.withNms nms).events = machine.events := rfl

@[simp] theorem withNms_learnInfo : (machine.withNms nms).learnInfo = machine.learnInfo := rfl

@[simp] theorem withNms_timer : (machine.withNms nms).timer = machine.timer := rfl

@[simp] theorem withNms_expired : (machine.withNms nms).expired = machine.expired := rfl

@[simp] theorem withNms_timerOperations :
    (machine.withNms nms).timerOperations = machine.timerOperations := rfl

@[simp] theorem withNms_history : (machine.withNms nms).history = machine.history := rfl

theorem afterSwitch_eq :
    ∃ intent, machine.afterSwitch env = (machine.cleanUp.assignReturnRoutes env).withNms
      { (machine.cleanUp.assignReturnRoutes env).nms with learnModeIntent := intent } :=
  (machine.cleanUp.assignReturnRoutes env).activateSmartStart_eq

@[simp] theorem afterSwitch_events : (machine.afterSwitch env).events = machine.events := by
  obtain ⟨intent, same⟩ := machine.afterSwitch_eq env
  simp [same]

@[simp] theorem afterSwitch_learnInfo :
    (machine.afterSwitch env).learnInfo = machine.learnInfo := by
  obtain ⟨intent, same⟩ := machine.afterSwitch_eq env
  simp [same]

@[simp] theorem afterSwitch_routes :
    (machine.afterSwitch env).routes = (assignNext env machine.routes).2 := by
  obtain ⟨intent, same⟩ := machine.afterSwitch_eq env
  simp [same]

@[simp] theorem afterSwitch_timer : (machine.afterSwitch env).timer = machine.cleanUp.timer := by
  obtain ⟨intent, same⟩ := machine.afterSwitch_eq env
  simp [same]

@[simp] theorem afterSwitch_expired : (machine.afterSwitch env).expired = machine.expired := by
  obtain ⟨intent, same⟩ := machine.afterSwitch_eq env
  simp [same]

@[simp] theorem afterSwitch_timerOperations :
    (machine.afterSwitch env).timerOperations = machine.cleanUp.timerOperations := by
  obtain ⟨intent, same⟩ := machine.afterSwitch_eq env
  simp [same]

@[simp] theorem afterSwitch_state :
    (machine.afterSwitch env).nms.state =
      if (assignNext env machine.routes).1 then .assigningReturnRoute
      else machine.nms.state := by
  obtain ⟨intent, same⟩ := machine.afterSwitch_eq env
  simp only [same, withNms_nms, assignReturnRoutes_nms, cleanUp_routes]
  split_ifs <;> simp

@[simp] theorem afterSwitch_kexFailType :
    (machine.afterSwitch env).nms.kexFailType = machine.cleanUp.nms.kexFailType := by
  obtain ⟨intent, same⟩ := machine.afterSwitch_eq env
  simp only [same, withNms_nms, assignReturnRoutes_nms, cleanUp_routes]
  split_ifs <;> rfl

theorem afterSwitch_history :
    (machine.afterSwitch env).history = (machine.assignReturnRoutes env).history := by
  obtain ⟨intent, same⟩ := machine.afterSwitch_eq env
  rw [same, withNms_history, assignReturnRoutes_history, assignReturnRoutes_history,
    cleanUp_routes, cleanUp_history, cleanUp_state]

end AfterSwitch

section Handle

variable (env : Surroundings) (machine : Machine) (event : Event)

@[simp] theorem switched_learnInfo :
    (machine.switched env event).learnInfo = machine.learnInfo := by
  unfold switched
  split <;> simp

@[simp] theorem switched_expired : (machine.switched env event).expired = machine.expired := by
  unfold switched
  split <;> simp

theorem switched_history :
    ∃ added, (machine.switched env event).history =
      { machine.history with added := machine.history.added ++ added } := by
  unfold switched
  split
  · exact ⟨_, by rw [apply_history, apply_history, List.append_assoc]⟩
  · exact ⟨_, apply_history _ _⟩

theorem switched_events :
    ∃ posts : List Event, (machine.switched env event).events =
      machine.events ++ posts.map fun event => ⟨event, .internal⟩ := by
  unfold switched
  split
  · exact ⟨_, by rw [apply_events, apply_events, List.append_assoc, ← List.map_append]⟩
  · exact ⟨_, apply_events _ _⟩

theorem fsmPostEvent_frame :
    (machine.fsmPostEvent env event).learnInfo = machine.learnInfo ∧
      (machine.fsmPostEvent env event).expired = machine.expired ∧
      (machine.fsmPostEvent env event).events = (machine.switched env event).events := by
  by_cases atOnce : machine.endsAtOnce env event
  · rw [fsmPostEvent_of_endsAtOnce atOnce]
    simp
  · rw [fsmPostEvent_of_not_endsAtOnce atOnce]
    simp

theorem fsmPostEvent_history :
    ∃ added interrupted, (machine.fsmPostEvent env event).history =
      { machine.history with
        added := machine.history.added ++ added
        interrupted := interrupted } := by
  obtain ⟨added, history⟩ := machine.switched_history env event
  by_cases atOnce : machine.endsAtOnce env event
  · rw [fsmPostEvent_of_endsAtOnce atOnce, history]
    exact ⟨added, machine.history.interrupted, rfl⟩
  · rw [fsmPostEvent_of_not_endsAtOnce atOnce, afterSwitch_history, assignReturnRoutes_history,
      history]
    exact ⟨added, _, rfl⟩

@[simp] theorem beginPeriod_nms : machine.beginPeriod.nms = machine.nms := by
  unfold beginPeriod
  split_ifs <;> rfl

@[simp] theorem beginPeriod_routes : machine.beginPeriod.routes = machine.routes := by
  unfold beginPeriod
  split_ifs <;> rfl

@[simp] theorem beginPeriod_learnInfo : machine.beginPeriod.learnInfo = machine.learnInfo := by
  unfold beginPeriod
  split_ifs <;> rfl

@[simp] theorem beginPeriod_events : machine.beginPeriod.events = machine.events := by
  unfold beginPeriod
  split_ifs <;> rfl

@[simp] theorem beginPeriod_timer : machine.beginPeriod.timer = machine.timer := by
  unfold beginPeriod
  split_ifs <;> rfl

@[simp] theorem beginPeriod_expired : machine.beginPeriod.expired = machine.expired := by
  unfold beginPeriod
  split_ifs <;> rfl

@[simp] theorem beginPeriod_timerOperations :
    machine.beginPeriod.timerOperations = machine.timerOperations := by
  unfold beginPeriod
  split_ifs <;> rfl

theorem beginPeriod_history :
    ∃ added aborted, machine.beginPeriod.history =
      { machine.history with added := added, aborted := aborted } := by
  unfold beginPeriod
  split_ifs
  · exact ⟨_, _, rfl⟩
  · exact ⟨machine.history.added, machine.history.aborted, rfl⟩

@[simp] theorem handle_nms :
    (machine.handle env event).nms = (machine.beginPeriod.fsmPostEvent env event).nms := rfl

@[simp] theorem handle_routes :
    (machine.handle env event).routes = (machine.beginPeriod.fsmPostEvent env event).routes := rfl

@[simp] theorem handle_timer :
    (machine.handle env event).timer = (machine.beginPeriod.fsmPostEvent env event).timer := rfl

@[simp] theorem handle_timerOperations :
    (machine.handle env event).timerOperations =
      (machine.beginPeriod.fsmPostEvent env event).timerOperations := rfl

@[simp] theorem handle_learnInfo : (machine.handle env event).learnInfo = machine.learnInfo :=
  (fsmPostEvent_frame _ _ _).1.trans (by simp)

@[simp] theorem handle_expired : (machine.handle env event).expired = machine.expired :=
  (fsmPostEvent_frame _ _ _).2.1.trans (by simp)

theorem handle_events :
    ∃ posts : List Event, (machine.handle env event).events =
      machine.events ++ posts.map fun event => ⟨event, .internal⟩ := by
  obtain ⟨posts, events⟩ := machine.beginPeriod.switched_events env event
  rw [beginPeriod_events] at events
  exact ⟨posts, (fsmPostEvent_frame _ _ _).2.2.trans events⟩

theorem handle_history :
    (machine.handle env event).history.starts = machine.history.starts ∧
      (machine.handle env event).history.updates = machine.history.updates ∧
      (machine.handle env event).history.timeouts = machine.history.timeouts ∧
      (machine.handle env event).history.operationsAtExpiry =
        machine.history.operationsAtExpiry := by
  obtain ⟨added, aborted, begins⟩ := machine.beginPeriod_history
  obtain ⟨more, interrupted, history⟩ := machine.beginPeriod.fsmPostEvent_history env event
  rw [begins] at history
  simp only [handle, note, history, and_self]

end Handle

theorem noteOrigin_eq (machine : Machine) (posting : Posting) :
    ∃ starts updates, machine.noteOrigin posting =
      { machine with
        history := { machine.history with starts := starts, updates := updates } } := by
  unfold noteOrigin
  split
  · exact ⟨machine.history.starts, machine.history.updates, rfl⟩
  · split_ifs
    · exact ⟨_, machine.history.updates, rfl⟩
    · exact ⟨machine.history.starts, machine.history.updates, rfl⟩
  · split_ifs
    · exact ⟨machine.history.starts, _, rfl⟩
    · exact ⟨machine.history.starts, machine.history.updates, rfl⟩

end Machine

end NetworkManagement
