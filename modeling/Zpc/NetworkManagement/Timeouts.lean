import Zpc.NetworkManagement.Calls

/-!
# Timeouts

One timer serves every state.  A timer that has expired is served by the timer
thread later, and nothing tells which state it was set for: the timeout is handled
in the state the machine is in then.
-/

namespace NetworkManagement

open Foundation

/-- The states that a timeout ends and that are entered with the timer set, from
other states than `NM_IDLE` at least. -/
def isTimed : State -> Bool
  | .waitingForAdd => true
  | .nodeFound => true
  | .waitForProtocol => true
  | .waitForSecureAdd => true
  | .sendNop => true
  | .waitForTxToSelfDestruct => true
  | .waitForSelfDestructRemoval => true
  | .failedNodeRemove => true
  | .waitingForNodeRemoval => true
  | .learnMode => true
  | _ => false

/-- What a branch does with the timer: it keeps it with the state, sets it for a new
state, ends in a state that is not timed, or leaves `NM_IDLE` without a timer. -/
def Reaction.IsTimed (state : State) (reaction : Reaction) : Prop :=
  (reaction.nms.state = state ∧ reaction.timer = .keep) ∨
    (reaction.nms.state ≠ state ∧ reaction.timer = .set) ∨
    isTimed reaction.nms.state = false ∨
    (state = .idle ∧ reaction.timer = .keep)

section Reactions

variable (env : Surroundings) (nms : Nms) (routes : List Route)

variable (event : Event) {reaction : Reaction}

theorem isTimed_of_idle (state : State) (idle : reaction.nms.state = .idle) :
    reaction.IsTimed state :=
  .inr (.inr (.inl (by rw [idle]; rfl)))

theorem reactIdle_isTimed (idle : nms.state = .idle) :
    (reactIdle env nms routes event).IsTimed .idle := by
  have other : ∀ reaction : Reaction, reaction.nms = nms -> reaction.timer = .keep ->
      reaction.IsTimed .idle := by
    intro reaction same keep
    exact .inl ⟨by rw [same, idle], keep⟩
  cases event
  case learnSet =>
    simp only [reactIdle]
    split_ifs
    · exact .inr (.inl ⟨by simp [Reaction.ofNms], rfl⟩)
    · exact other _ rfl rfl
  case setDefault => exact .inr (.inl ⟨by simp [reactIdle, Reaction.ofNms], rfl⟩)
  case removeFailed => exact .inr (.inr (.inr ⟨rfl, rfl⟩))
  case nodeAddSmartStart data =>
    simp only [reactIdle]
    split_ifs
    · exact other _ rfl rfl
    · exact .inr (.inl ⟨by simp [Reaction.ofNms], rfl⟩)
  case nodeRemove =>
    simp only [reactIdle]
    split_ifs
    · exact .inr (.inl ⟨by simp [Reaction.ofNms], rfl⟩)
    · exact .inl ⟨idle, rfl⟩
  case nodeAdd => exact .inr (.inl ⟨by simp [reactIdle, Reaction.ofNms], rfl⟩)
  case requestNodeNeighborRequest nodeId =>
    simp only [reactIdle]
    split_ifs
    · exact .inr (.inr (.inl rfl))
    · exact other _ rfl rfl
  case startProxyInclusion => exact .inr (.inl ⟨by simp [reactIdle, Reaction.ofNms], rfl⟩)
  case assignReturnRouteStart => exact .inr (.inr (.inr ⟨rfl, rfl⟩))
  all_goals exact other _ rfl rfl

theorem dispatchNodeAddedAfterSelfDestructFail_state :
    (dispatchNodeAddedAfterSelfDestructFail env nms routes).nms.state = .idle := by
  unfold dispatchNodeAddedAfterSelfDestructFail
  split_ifs <;> rfl

theorem reactNodeStatusDone_isTimed (waits : nms.state = .waitForProtocol) :
    (reactNodeStatusDone env nms routes).IsTimed nms.state := by
  have secured : ∀ reaction : Reaction, reaction.nms.state = .waitForSecureAdd ->
      reaction.timer = .set -> reaction.IsTimed nms.state :=
    fun _ state set => .inr (.inl ⟨by simp [state, waits], set⟩)
  unfold reactNodeStatusDone
  extract_lets known
  split_ifs
  · exact isTimed_of_idle _ rfl
  · exact secured _ rfl rfl
  · exact secured _ rfl rfl
  · exact secured _ rfl rfl
  · exact isTimed_of_idle _ rfl

theorem reactKeyChallenge_isTimed : (reactKeyChallenge env nms routes).IsTimed nms.state := by
  unfold reactKeyChallenge
  extract_lets blanked
  split_ifs
  · exact .inl ⟨rfl, rfl⟩
  · exact .inl ⟨rfl, rfl⟩
  all_goals split <;> exact .inl ⟨rfl, rfl⟩

theorem reactLearnModeStarted_isTimed :
    (reactLearnModeStarted env nms routes event).IsTimed nms.state := by
  cases event
  case learnDone =>
    simp only [reactLearnModeStarted]
    split_ifs
    all_goals exact .inr (.inr (.inl rfl))
  case learnFailed => exact isTimed_of_idle _ rfl
  all_goals exact .inl ⟨rfl, rfl⟩

theorem isTimed_of_set {state : State} (next : State) (enters : reaction.nms.state = next)
    (other : next ≠ state) (set : reaction.timer = .set) : reaction.IsTimed state :=
  .inr (.inl ⟨enters ▸ other, set⟩)

/-- The branches that enter another state set the timer, go to `NM_IDLE`, or go where a
timeout changes nothing. -/
theorem react_isTimed (info : LearnInfo) (event : Event)
    (alone : ∀ another, (react env nms routes info event).ending ≠ .withAnother another) :
    (react env nms routes info event).IsTimed nms.state := by
  have stays : ∀ next : Nms, next.state = nms.state ->
      (Reaction.ofNms next routes).IsTimed nms.state :=
    fun _ same => .inl ⟨same, rfl⟩
  unfold react at alone ⊢
  cases state : nms.state <;> simp only [state] at alone ⊢ stays
  case idle => exact reactIdle_isTimed env nms routes event state
  case sendNop =>
    cases event
    case timeout => exact isTimed_of_set .waitForTxToSelfDestruct rfl (by decide) rfl
    case removeFailed => exact isTimed_of_set .failedNodeRemove rfl (by decide) rfl
    all_goals exact stays _ state
  case waitForTxToSelfDestruct =>
    cases event
    case nopFail => exact isTimed_of_set .waitForSelfDestructRemoval rfl (by decide) rfl
    case timeout => exact isTimed_of_set .waitForSelfDestructRemoval rfl (by decide) rfl
    case nopSuccess => exact isTimed_of_idle _ (dispatchNodeAddedAfterSelfDestructFail_state _ _ _)
    case abort => exact isTimed_of_idle _ rfl
    all_goals exact stays _ state
  case failedNodeRemove =>
    cases event
    case nopFail => exact .inr (.inr (.inl rfl))
    case timeout => exact isTimed_of_idle _ rfl
    case nopSuccess => exact isTimed_of_idle _ rfl
    case abort => exact isTimed_of_idle _ rfl
    all_goals exact stays _ state
  case setDefault =>
    cases event
    case setDefaultComplete => exact isTimed_of_idle _ rfl
    all_goals exact stays _ state
  case waitingForAdd =>
    cases event
    case addNodeFound => exact isTimed_of_set .nodeFound rfl (by decide) rfl
    case abort => exact isTimed_of_idle _ rfl
    case timeout => exact isTimed_of_idle _ rfl
    case addFailed => exact isTimed_of_idle _ rfl
    all_goals exact stays _ state
  case nodeFound =>
    have information : ∀ isController,
        (∀ another,
          (reactNodeInformation nms routes info isController).ending ≠ .withAnother another) ->
        (reactNodeInformation nms routes info isController).IsTimed .nodeFound := by
      intro isController
      unfold reactNodeInformation
      split_ifs
      · exact fun alone => absurd rfl (alone .addFailed)
      · exact fun _ => isTimed_of_set .waitForProtocol rfl (by decide) rfl
      · exact fun alone => absurd rfl (alone .addFailed)
    cases event
    case addController => exact information true alone
    case addEndNode => exact information false alone
    case addFailed => exact isTimed_of_idle _ rfl
    case timeout => exact isTimed_of_idle _ rfl
    all_goals exact stays _ state
  case waitForProtocol =>
    cases event
    case addNodeStatusDone => exact state ▸ reactNodeStatusDone_isTimed env nms routes state
    case abort => exact isTimed_of_set .sendNop rfl (by decide) rfl
    case timeout => exact isTimed_of_set .sendNop rfl (by decide) rfl
    case addFailed => exact isTimed_of_set .sendNop rfl (by decide) rfl
    case addNotPrimary => exact isTimed_of_set .sendNop rfl (by decide) rfl
    all_goals exact stays _ state
  case waitForSecureAdd =>
    cases event
    case securityDone =>
      simp only [reactWaitForSecureAdd]
      split_ifs
      · exact isTimed_of_idle _ rfl
      · exact isTimed_of_set .sendNop rfl (by decide) rfl
    case addSecurityKeyChallenge => exact state ▸ reactKeyChallenge_isTimed env nms routes
    case timeout => exact isTimed_of_set .sendNop rfl (by decide) rfl
    all_goals exact stays _ state
  case waitForSelfDestructRemoval =>
    cases event
    case removeFailedOk => exact isTimed_of_idle _ rfl
    case removeFailedFail =>
      exact isTimed_of_idle _ (dispatchNodeAddedAfterSelfDestructFail_state _ _ _)
    case timeout => exact isTimed_of_idle _ (dispatchNodeAddedAfterSelfDestructFail_state _ _ _)
    all_goals exact stays _ state
  case waitingForFailedNodeRemoval =>
    cases event
    case removeFailedOk => exact isTimed_of_idle _ rfl
    case removeFailedFail => exact isTimed_of_idle _ rfl
    case timeout => exact isTimed_of_idle _ rfl
    all_goals exact stays _ state
  case waitingForNodeRemoval =>
    cases event
    case timeout => exact isTimed_of_idle _ rfl
    case nodeRemoveFailed => exact isTimed_of_idle _ rfl
    case abort => exact isTimed_of_idle _ rfl
    case nodeRemoveComplete => exact isTimed_of_idle _ rfl
    all_goals exact stays _ state
  case learnMode =>
    cases event
    case timeout => exact isTimed_of_idle _ rfl
    case abort => exact isTimed_of_idle _ rfl
    case learnStarted => exact .inr (.inr (.inl rfl))
    case learnDone => exact isTimed_of_idle _ rfl
    all_goals exact stays _ state
  case learnModeStarted => exact state ▸ reactLearnModeStarted_isTimed env nms routes event
  case waitForSecureLearn =>
    cases event
    case securityDone =>
      simp only [reactWaitForSecureLearn]
      split_ifs
      · exact .inr (.inr (.inl rfl))
      · exact isTimed_of_idle _ rfl
    all_goals exact stays _ state
  case assigningReturnRoute =>
    cases event
    case abort => exact .inl ⟨state, rfl⟩
    case assignReturnRouteCompleted => exact isTimed_of_idle _ rfl
    all_goals exact stays _ state
  case neighborDiscoveryOngoing =>
    cases event
    case abort => exact .inl ⟨state, rfl⟩
    case requestNodeNeighborRequestComplete => exact isTimed_of_idle _ rfl
    all_goals exact stays _ state
  all_goals exact stays _ state

end Reactions

namespace Machine

/-- What the handling of an event does with the timer: nothing, with the state or from
`NM_IDLE`; it sets it for the state that is entered; it stops it in `NM_IDLE`; or it
ends in a state that a timeout does not end. -/
inductive TimedStep (machine next : Machine) : Prop
  | same
      (state : next.nms.state = machine.nms.state)
      (timer : next.timer = machine.timer)
      (operations : next.timerOperations = machine.timerOperations)
  | entered
      (state : next.nms.state ≠ machine.nms.state)
      (busy : next.nms.state ≠ .idle)
      (setting : Nat)
      (timer : next.timer = some setting)
      (new : machine.timerOperations ≤ setting)
      (operations : machine.timerOperations < next.timerOperations)
  | stopped
      (timer : next.timer = none)
      (operations : machine.timerOperations < next.timerOperations)
  | untimed
      (state : isTimed next.nms.state = false)
      (busy : next.nms.state ≠ .idle)
  | left
      (idle : machine.nms.state = .idle)
      (busy : next.nms.state ≠ .idle)
      (timer : next.timer = machine.timer)
      (operations : next.timerOperations = machine.timerOperations)

variable (env : Surroundings) {machine next : Machine}

theorem timedStep_apply {reaction : Reaction} (timed : reaction.IsTimed machine.nms.state) :
    reaction.nms.state = .idle ∨ machine.TimedStep (machine.apply reaction) := by
  by_cases idle : reaction.nms.state = .idle
  · exact .inl idle
  right
  obtain ⟨same, keep⟩ | ⟨other, set⟩ | untimed | ⟨wasIdle, keep⟩ := timed
  · exact .same same (by simp [keep, operateTimer]) (by simp [keep, operateTimer])
  · refine .entered other idle machine.timerOperations ?_ le_rfl ?_
    all_goals simp [set, operateTimer]
  · exact .untimed untimed idle
  · exact .left wasIdle idle (by simp [keep, operateTimer]) (by simp [keep, operateTimer])

theorem timerOperations_le_apply (machine : Machine) (reaction : Reaction) :
    machine.timerOperations ≤ (machine.apply reaction).timerOperations := by
  cases operation : reaction.timer <;> simp [operation, operateTimer]

theorem timerOperations_le_switched (machine : Machine) (event : Event) :
    machine.timerOperations ≤ (machine.switched env event).timerOperations := by
  unfold switched
  split
  · exact (timerOperations_le_apply _ _).trans (timerOperations_le_apply _ _)
  · exact timerOperations_le_apply _ _

theorem timedStep_proxyInclusion {env : Surroundings} {reacted : Machine}
    (idle : machine.nms.state = .idle) (state : reacted.nms.state = .waitForProtocol)
    (timer : reacted.timer = some machine.timerOperations)
    (operations : reacted.timerOperations = machine.timerOperations + 1) :
    (reacted.apply (reacted.reaction env .addNodeStatusDone)).nms.state = .idle ∨
      machine.TimedStep (reacted.apply (reacted.reaction env .addNodeStatusDone)) := by
  have timed : (reacted.reaction env .addNodeStatusDone).IsTimed reacted.nms.state := by
    rw [reaction_addNodeStatusDone env state]
    exact reactNodeStatusDone_isTimed env reacted.nms reacted.routes state
  obtain isIdle | step := timedStep_apply timed
  · exact .inl isIdle
  · by_cases isIdle : (reacted.reaction env .addNodeStatusDone).nms.state = .idle
    · exact .inl isIdle
    have other : (reacted.apply (reacted.reaction env .addNodeStatusDone)).nms.state ≠
        machine.nms.state := by
      rw [idle]
      exact isIdle
    right
    cases step with
    | same _ sameTimer sameOperations =>
      exact .entered other isIdle _ (sameTimer.trans timer) le_rfl (by omega)
    | entered _ busy setting newTimer new later =>
      exact .entered other busy setting newTimer (by omega) (by omega)
    | stopped stopped stoppedOperations => exact .stopped stopped (by omega)
    | untimed untimed busy => exact .untimed untimed busy
    | left wasIdle => simp [state] at wasIdle

theorem timedStep_switched (machine : Machine) (event : Event) :
    (machine.switched env event).nms.state = .idle ∨
      machine.TimedStep (machine.switched env event) := by
  by_cases hands : ∃ another, (machine.reaction env event).ending = .withAnother another
  · obtain ⟨another, hands⟩ := hands
    rw [switched_of_withAnother hands]
    cases react_ends env machine.nms machine.routes machine.learnInfo event with
    | afterSwitch ending | selfDestruct _ ending => simp [reaction, ending] at hands
    | unchanged idle same => simp [reaction, same] at hands
    | proxyInclusion idle ending state set silent =>
      obtain rfl : .addNodeStatusDone = another := Ending.withAnother.inj (ending.symm.trans hands)
      apply timedStep_proxyInclusion idle
      · simp [reaction, state]
      all_goals simp [reaction, set, operateTimer]
    | noInformation found ending state silent =>
      obtain rfl : .addFailed = another := Ending.withAnother.inj (ending.symm.trans hands)
      left
      rw [reaction_addFailed env state]
      rfl
  · push Not at hands
    rw [switched_of_alone hands]
    exact timedStep_apply (react_isTimed env _ _ _ _ hands)

theorem timedStep_afterSwitch {switched : Machine}
    (step : switched.nms.state = .idle ∨ machine.TimedStep switched)
    (grows : machine.timerOperations ≤ switched.timerOperations) :
    machine.TimedStep (switched.afterSwitch env) := by
  by_cases assigned : (assignNext env switched.routes).1 = true
  · have state : (switched.afterSwitch env).nms.state = .assigningReturnRoute := by
      rw [afterSwitch_state, if_pos assigned]
    exact .untimed (by rw [state]; rfl) (by rw [state]; simp)
  have state : (switched.afterSwitch env).nms.state = switched.nms.state := by
    rw [afterSwitch_state, if_neg assigned]
  by_cases idle : switched.nms.state = .idle
  · refine .stopped ?_ ?_
    · rw [afterSwitch_timer, cleanUp_of_idle _ idle]
      rfl
    · rw [afterSwitch_timerOperations, cleanUp_of_idle _ idle]
      exact Nat.lt_succ_of_le grows
  · have timer : (switched.afterSwitch env).timer = switched.timer := by
      rw [afterSwitch_timer, cleanUp_of_busy _ idle]
    have operations : (switched.afterSwitch env).timerOperations = switched.timerOperations := by
      rw [afterSwitch_timerOperations, cleanUp_of_busy _ idle]
    cases step.resolve_left idle with
    | same sameState sameTimer sameOperations =>
      exact .same (state.trans sameState) (timer.trans sameTimer)
        (operations.trans sameOperations)
    | entered other busy setting newTimer new later =>
      exact .entered (state ▸ other) (state ▸ busy) setting (timer.trans newTimer) new
        (operations ▸ later)
    | stopped stopped later => exact .stopped (timer.trans stopped) (operations ▸ later)
    | untimed untimed busy => exact .untimed (state ▸ untimed) (state ▸ busy)
    | left wasIdle busy sameTimer sameOperations =>
      exact .left wasIdle (state ▸ busy) (timer.trans sameTimer)
        (operations.trans sameOperations)

theorem timedStep_fsmPostEvent (machine : Machine) (event : Event) :
    machine.TimedStep (machine.fsmPostEvent env event) := by
  by_cases atOnce : machine.endsAtOnce env event
  · have alone : ∀ another, (machine.reaction env event).ending ≠ .withAnother another := by
      rw [show (machine.reaction env event).ending = .atOnce from atOnce]
      simp
    rw [fsmPostEvent_of_endsAtOnce atOnce, switched_of_alone alone]
    cases react_ends env machine.nms machine.routes machine.learnInfo event with
    | afterSwitch ending | proxyInclusion _ ending | noInformation _ ending =>
      simp [endsAtOnce, reaction, ending] at atOnce
    | unchanged idle same =>
      refine .same ?_ ?_ ?_
      all_goals simp [reaction, same, Reaction.ofNms, operateTimer]
    | selfDestruct waits ending state keep silent =>
      refine .untimed ?_ ?_
      all_goals simp [reaction, state, isTimed]
  · rw [fsmPostEvent_of_not_endsAtOnce atOnce]
    exact timedStep_afterSwitch env (machine.timedStep_switched env event)
      (machine.timerOperations_le_switched env event)

theorem timerOperations_le_fsmPostEvent (machine : Machine) (event : Event) :
    machine.timerOperations ≤ (machine.fsmPostEvent env event).timerOperations := by
  have switches := machine.timerOperations_le_switched env event
  by_cases atOnce : machine.endsAtOnce env event
  · rwa [fsmPostEvent_of_endsAtOnce atOnce]
  · rw [fsmPostEvent_of_not_endsAtOnce atOnce, afterSwitch_timerOperations]
    by_cases idle : (machine.switched env event).nms.state = .idle
    · rw [cleanUp_of_idle _ idle]
      exact switches.trans (Nat.le_succ _)
    · rwa [cleanUp_of_busy _ idle]

/-- No timer was set or stopped since the last one expired. -/
def IsFresh (machine : Machine) : Prop :=
  machine.history.operationsAtExpiry = machine.timerOperations

/-- No timer runs, and none has expired just now. -/
def HasNoTimer (machine : Machine) : Prop :=
  machine.timer = none ∧ (machine.expired = none ∨ ¬ machine.IsFresh)

/-- An expired timer is served before another timer is set or stopped, unless the state
does not end with a timeout; not in `NM_WAITING_FOR_FAILED_NODE_REMOVAL`; and only where
no return route takes the opportunity.  `set_default` and SmartStart change the state
only where no timer is left of the state before. -/
def ServesTimers (machine : Machine) : Action -> Prop
  | .timerCallback _ =>
      machine.expired = none ∨
        if isTimed machine.nms.state then machine.IsFresh
        else
          machine.nms.state ≠ .waitingForFailedNodeRemoval ∧
            (machine.nms.state = .assigningReturnRoute ∨ hasUnfinished machine.routes = false)
  | .call _ .setDefault => machine.nms.state = .assigningReturnRoute -> machine.HasNoTimer
  | .callback _ (.learnMode (.started _)) =>
      machine.nms.learnModeIntent = .smartStart ->
        machine.nms.state = .idle ∨ machine.nms.state = .learnMode ∨ machine.HasNoTimer
  | _ => True

/-- In a timed state, the timer that runs and the one that expired just now were set
when the state was entered, and no timer is left in `NM_IDLE`. -/
structure TimersKept (machine : Machine) : Prop where
  /-- An expiry lies in the past. -/
  expiry : machine.history.operationsAtExpiry ≤ machine.timerOperations
  /-- A timer that runs is that of the state. -/
  running : isTimed machine.nms.state = true ->
    ∀ setting ∈ machine.timer, machine.history.entryTimer = some setting
  /-- So is one that expired just now. -/
  fresh : isTimed machine.nms.state = true -> machine.IsFresh ->
    ∀ setting ∈ machine.expired, machine.history.entryTimer = some setting
  /-- An idle machine has no timer. -/
  idle : machine.nms.state = .idle -> machine.HasNoTimer
  /-- A timeout that had an effect was that of its state. -/
  timeouts : ∀ record ∈ machine.history.timeouts,
    record.before ≠ record.after -> record.entry = some record.expired

theorem TimersKept.of_hasNoTimer
    (expiry : machine.history.operationsAtExpiry ≤ machine.timerOperations)
    (none : machine.HasNoTimer)
    (timeouts : ∀ record ∈ machine.history.timeouts,
      record.before ≠ record.after -> record.entry = some record.expired) :
    machine.TimersKept where
  expiry := expiry
  running _ setting mem := by simp [none.1] at mem
  fresh _ isFresh setting mem := by
    obtain noneExpired | stale := none.2
    · simp [noneExpired] at mem
    · exact absurd isFresh stale
  idle _ := none
  timeouts := timeouts

theorem handle_entryTimer (machine : Machine) (event : Event) :
    (machine.handle env event).history.entryTimer =
      if (machine.handle env event).nms.state = machine.nms.state then
        machine.history.entryTimer
      else
        (machine.handle env event).timer.filter fun setting =>
          machine.timerOperations ≤ setting := by
  obtain ⟨added, aborted, begins⟩ := machine.beginPeriod_history
  obtain ⟨more, interrupted, history⟩ := machine.beginPeriod.fsmPostEvent_history env event
  rw [begins] at history
  simp only [handle, note, history]

/-- Every handler treats the timer in one of these ways. -/
theorem timedStep_handle (machine : Machine) (event : Event) :
    machine.TimedStep (machine.handle env event) := by
  cases timedStep_fsmPostEvent env machine.beginPeriod event with
  | same state timer operations =>
    exact .same (by simpa using state) (by simpa using timer) (by simpa using operations)
  | entered state busy setting timer new operations =>
    exact .entered (by simpa using state) busy setting timer (by simpa using new)
      (by simpa using operations)
  | stopped timer operations => exact .stopped timer (by simpa using operations)
  | untimed state busy => exact .untimed state busy
  | left idle busy timer operations =>
    exact .left (by simpa using idle) busy (by simpa using timer) (by simpa using operations)

theorem TimersKept.of_timedStep (timers : machine.TimersKept) (step : machine.TimedStep next)
    (grows : machine.timerOperations ≤ next.timerOperations)
    (expired : next.expired = machine.expired)
    (atExpiry : next.history.operationsAtExpiry = machine.history.operationsAtExpiry)
    (entry : next.history.entryTimer =
      if next.nms.state = machine.nms.state then machine.history.entryTimer
      else next.timer.filter fun setting => machine.timerOperations ≤ setting)
    (timeouts : ∀ record ∈ next.history.timeouts,
      record.before ≠ record.after -> record.entry = some record.expired) :
    next.TimersKept := by
  have expiry : next.history.operationsAtExpiry ≤ next.timerOperations :=
    atExpiry ▸ timers.expiry.trans grows
  have stale : machine.timerOperations < next.timerOperations -> ¬ next.IsFresh := by
    intro later isFresh
    have := timers.expiry
    unfold IsFresh at isFresh
    omega
  have freshBefore : next.timerOperations = machine.timerOperations ->
      (next.IsFresh ↔ machine.IsFresh) := by
    intro same
    rw [IsFresh, IsFresh, atExpiry, same]
  cases step with
  | same state timer operations =>
    rw [if_pos state] at entry
    refine ⟨expiry, ?_, ?_, ?_, timeouts⟩
    · rw [state, timer, entry]
      exact timers.running
    · rw [state, expired, entry, freshBefore operations]
      exact timers.fresh
    · rw [state, HasNoTimer, timer, expired, freshBefore operations]
      exact timers.idle
  | entered state busy setting timer new operations =>
    rw [if_neg state, timer] at entry
    refine ⟨expiry, fun _ other mem => ?_, fun _ isFresh => ?_, ?_, timeouts⟩
    · obtain rfl : setting = other := by simpa [timer] using mem
      rw [entry]
      simp [Option.filter_some, new]
    · exact absurd isFresh (stale operations)
    · exact fun idle => absurd idle busy
  | stopped timer operations =>
    exact .of_hasNoTimer expiry ⟨timer, .inr (stale operations)⟩ timeouts
  | untimed state busy =>
    refine ⟨expiry, ?_, ?_, fun idle => absurd idle busy, timeouts⟩
    all_goals exact fun timed => absurd (state.symm.trans timed) (by decide)
  | left idle busy timer operations =>
    refine .of_hasNoTimer expiry ?_ timeouts
    rw [HasNoTimer, timer, expired, freshBefore operations]
    exact timers.idle idle

/-- Every handler keeps the timers. -/
theorem TimersKept.handle (timers : machine.TimersKept) (env : Surroundings) (event : Event) :
    (machine.handle env event).TimersKept := by
  obtain ⟨_, _, records, atExpiry⟩ := machine.handle_history env event
  apply timers.of_timedStep (machine.timedStep_handle env event)
  · simpa using timerOperations_le_fsmPostEvent env machine.beginPeriod event
  · exact machine.handle_expired env event
  · exact atExpiry
  · exact machine.handle_entryTimer env event
  · rw [records]
    exact timers.timeouts

section

variable (timers : machine.TimersKept)
include timers

theorem TimersKept.of_same (state : next.nms.state = machine.nms.state)
    (timer : next.timer = machine.timer)
    (expired : next.expired = machine.expired)
    (operations : next.timerOperations = machine.timerOperations)
    (atExpiry : next.history.operationsAtExpiry = machine.history.operationsAtExpiry)
    (entry : next.history.entryTimer = machine.history.entryTimer)
    (records : next.history.timeouts = machine.history.timeouts) : next.TimersKept := by
  apply timers.of_timedStep (.same state timer operations) operations.ge expired atExpiry
  · rw [if_pos state, entry]
  · rw [records]
    exact timers.timeouts

theorem TimersKept.of_quiet (quiet : machine.Quiet next) : next.TimersKept :=
  timers.of_same quiet.state quiet.timer quiet.expired quiet.timerOperations
    (by rw [quiet.history]) (by rw [quiet.history]) (by rw [quiet.history])

theorem TimersKept.setDefault
    (none : machine.nms.state = .assigningReturnRoute -> machine.HasNoTimer) :
    machine.setDefault.TimersKept := by
  unfold Machine.setDefault
  split_ifs with assigning idle
  · exact .of_hasNoTimer timers.expiry (none assigning) timers.timeouts
  · exact { timers with }
  · exact timers

theorem TimersKept.call (env : Surroundings) {request : Call}
    (serves : machine.ServesTimers (.call env request)) :
    (machine.call env request).TimersKept := by
  obtain quiet | accepts | rfl | ⟨nodeId, destinationNodeId, rfl⟩ := call_cases env machine request
  · exact timers.of_quiet quiet
  · obtain ⟨nms, event, origin, becomes, state, _⟩ := accepts.becomes
    rw [becomes]
    exact timers.of_same state rfl rfl rfl rfl rfl rfl
  · exact timers.setDefault serves
  · simp only [Machine.call]
    obtain quiet | ⟨_, _, routes, queued⟩ :=
      assignReturnRoute_cases env machine nodeId destinationNodeId
    · exact timers.of_quiet quiet
    · rw [queued]
      exact { timers with }

theorem TimersKept.learnModeStarted (env : Surroundings) (bSource : Nat)
    (serves : machine.ServesTimers (.callback env (.learnMode (.started bSource)))) :
    (machine.callback env (.learnMode (.started bSource))).TimersKept := by
  simp only [callback, onLearnMode]
  by_cases smartStart : machine.nms.learnModeIntent = .smartStart
  · rw [if_pos smartStart]
    by_cases learnMode : machine.nms.state = .learnMode
    · exact timers.of_same learnMode.symm rfl rfl rfl rfl (if_pos learnMode) rfl
    · have none : machine.HasNoTimer := by
        obtain idle | same | none := serves smartStart
        · exact timers.idle idle
        · exact absurd same learnMode
        · exact none
      exact .of_hasNoTimer timers.expiry none timers.timeouts
  · rw [if_neg smartStart]
    exact { timers with }

theorem TimersKept.callback (env : Surroundings)
    {request : Callback} (serves : machine.ServesTimers (.callback env request)) :
    (machine.callback env request).TimersKept := by
  obtain quiet | ⟨status, info, rfl⟩ | ⟨bSource, rfl⟩ | ⟨bSource, rfl⟩ :=
    callback_cases env machine request
  · exact timers.of_quiet quiet
  · exact { timers with }
  · exact timers.learnModeStarted env bSource serves
  · simp only [Machine.callback, onRemoveNodeStatusUpdate]
    split_ifs <;> exact { timers with }

/-- Handling the next event keeps the timers. -/
theorem TimersKept.handleNext (env : Surroundings) : (machine.handleNext env).TimersKept := by
  unfold Machine.handleNext
  split
  · exact timers
  · rename_i posting rest events
    obtain ⟨starts, updates, noted⟩ := { machine with events := rest }.noteOrigin_eq posting
    rw [noted]
    apply TimersKept.handle
    exact { timers with }

theorem TimersKept.timerExpires : machine.timerExpires.TimersKept := by
  unfold Machine.timerExpires
  split
  · rename_i setting timer expired
    refine ⟨le_rfl, fun _ other mem => ?_, fun timed _ other mem => ?_, fun idle => ?_,
      timers.timeouts⟩
    · simp at mem
    · obtain rfl : setting = other := by simpa using mem
      exact timers.running timed setting timer
    · have := (timers.idle idle).1
      simp [timer] at this
  · exact timers

end

theorem react_timeout (nms : Nms) (routes : List Route) (info : LearnInfo)
    (untimed : isTimed nms.state = false) (notRemoving : nms.state ≠ .waitingForFailedNodeRemoval) :
    react env nms routes info .timeout = .ofNms nms routes := by
  unfold react
  cases state : nms.state
  case waitingForFailedNodeRemoval => exact absurd state notRemoving
  all_goals
    first
      | rfl
      | simp [isTimed, state] at untimed

theorem handle_timeout_state (untimed : isTimed machine.nms.state = false)
    (notRemoving : machine.nms.state ≠ .waitingForFailedNodeRemoval)
    (noRoute : machine.nms.state = .assigningReturnRoute ∨ hasUnfinished machine.routes = false) :
    (machine.handle env .timeout).nms.state = machine.nms.state := by
  have reaction : machine.beginPeriod.reaction env .timeout =
      .ofNms machine.nms machine.routes := by
    simp only [reaction, beginPeriod_nms, beginPeriod_routes]
    exact react_timeout env _ _ _ untimed notRemoving
  have goesOn : ¬ machine.beginPeriod.endsAtOnce env .timeout := by
    simp [endsAtOnce, reaction, Reaction.ofNms]
  have alone : ∀ another,
      (machine.beginPeriod.reaction env .timeout).ending ≠ .withAnother another := by
    simp [reaction, Reaction.ofNms]
  rw [handle_nms, fsmPostEvent_of_not_endsAtOnce goesOn, switched_of_alone alone, reaction,
    afterSwitch_state]
  obtain assigning | finished := noRoute
  · simp [Reaction.ofNms, assigning]
  · simp [Reaction.ofNms, assignNext_of_finished env finished]

theorem TimersKept.timerCallback (timers : machine.TimersKept) (env : Surroundings)
    (serves : machine.ServesTimers (.timerCallback env)) :
    (machine.timerCallback env).TimersKept := by
  unfold Machine.timerCallback
  split
  · exact timers
  · rename_i setting expired
    have idle : { machine with expired := none }.TimersKept := by
      refine ⟨timers.expiry, timers.running, fun _ _ other mem => ?_, fun isIdle => ?_,
        timers.timeouts⟩
      · simp at mem
      · exact ⟨(timers.idle isIdle).1, .inl rfl⟩
    have handled := idle.handle env .timeout
    refine ⟨handled.expiry, handled.running, handled.fresh, handled.idle, ?_⟩
    intro record mem changes
    obtain earlier | new := List.mem_append.mp mem
    · exact handled.timeouts record earlier changes
    obtain rfl := List.mem_singleton.mp new
    obtain noneExpired | inTime := serves
    · simp [expired] at noneExpired
    by_cases timed : isTimed machine.nms.state = true
    · rw [if_pos timed] at inTime
      exact timers.fresh timed inTime setting expired
    · rw [if_neg timed] at inTime
      have same := @handle_timeout_state env { machine with expired := none }
        (by simpa using timed) inTime.1 inTime.2
      exact absurd same.symm changes

/-- Every step that serves the timers keeps them. -/
theorem TimersKept.step (timers : machine.TimersKept) {action : Action}
    (serves : machine.ServesTimers action) : (machine.step action).TimersKept := by
  cases action with
  | call env request => exact timers.call env serves
  | callback env request => exact timers.callback env serves
  | handleNext env => exact timers.handleNext env
  | timerExpires => exact timers.timerExpires
  | timerCallback env => exact timers.timerCallback env serves

/-- In every run that serves expired timers in time, a timeout changes the state only if
it comes from the timer that was set on entry to the state. -/
theorem timeouts_run (env : Surroundings) (actions : List Action)
    (serves : StepsMeet step ServesTimers (initial env) actions) :
    ∀ record ∈ (run step (initial env) actions).history.timeouts,
      record.before ≠ record.after -> record.entry = some record.expired := by
  have start : (initial env).TimersKept := .of_hasNoTimer le_rfl ⟨rfl, .inl rfl⟩ (by simp [initial])
  exact (serves.invariant TimersKept (fun _ _ timers => timers.step) start).timeouts

/-- Nothing is found while a node is to be added, and the timer is served in time. -/
def inclusionTimesOut : List Action :=
  [.call .accepting .addNode,
    .handleNext .accepting,
    .timerExpires,
    .timerCallback .accepting]

theorem timeouts_run_inclusionTimesOut :
    (run step (initial .accepting) inclusionTimesOut).history.timeouts =
      [⟨0, some 0, .waitingForAdd, .idle⟩] ∧
      ∀ record ∈ (run step (initial .accepting) inclusionTimesOut).history.timeouts,
        record.before ≠ record.after -> record.entry = some record.expired := by
  refine ⟨by decide, timeouts_run _ _ ⟨trivial, trivial, trivial, .inr ?_, trivial⟩⟩
  unfold IsFresh
  decide

/-- The timer of `NM_WAITING_FOR_ADD` expires, a node is found, and the timeout ends the
state that the node has just entered. -/
theorem not_timeouts_run :
    ¬ ∀ env actions,
      ∀ record ∈ (run step (initial env) actions).history.timeouts,
        record.before ≠ record.after -> record.entry = some record.expired := by
  intro kept
  have records : (run step (initial .accepting)
      [.call .accepting .addNode,
        .handleNext .accepting,
        .callback .accepting (.addNodeStatusUpdate .nodeFound ⟨5, []⟩),
        .timerExpires,
        .handleNext .accepting,
        .timerCallback .accepting]).history.timeouts = [⟨0, some 1, .nodeFound, .idle⟩] := by
    decide
  have same := kept .accepting _ _ (records ▸ List.mem_singleton_self _) (by decide)
  exact absurd same (by decide)

end Machine

end NetworkManagement
