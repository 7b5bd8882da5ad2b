import Zpc.NetworkManagement.Calls

/-!
# The result of an inclusion

`zwave_controller_on_node_added` tells the upper layers how an inclusion has ended.
A failed inclusion is told before the self-destruct of the node is verified, and
whether it was told is inferred afterwards from `kex_fail_type`.  An inclusion that is
aborted while it waits for the protocol is told without one.
-/

namespace NetworkManagement

open Foundation

/-- A node is being included. -/
def isIncluding : State -> Bool
  | .waitingForAdd => true
  | .nodeFound => true
  | .waitForProtocol => true
  | .waitForSecureAdd => true
  | _ => false

/-- The self-destruct of a node is being verified. -/
def isDestroying : State -> Bool
  | .sendNop => true
  | .waitForTxToSelfDestruct => true
  | .waitForSelfDestructRemoval => true
  | _ => false

/-- The event says that the self-destruct has failed. -/
def failsSelfDestruct : State -> Event -> Bool
  | .waitForTxToSelfDestruct, .nopSuccess => true
  | .waitForSelfDestructRemoval, .removeFailedFail => true
  | .waitForSelfDestructRemoval, .timeout => true
  | _, _ => false

/-- How a branch of the switch tells the result of an inclusion: not at all, at the end
of an inclusion, with a failure before the self-destruct, or after it has failed. -/
inductive Reaction.Tells (nms : Nms) (event : Event) (reaction : Reaction) : Prop
  | silentOutside
      (silent : reaction.added = [])
      (outside : isIncluding reaction.nms.state = false ∧ isDestroying reaction.nms.state = false)
  | silentInclusion
      (silent : reaction.added = [])
      (including : nms.state = .idle ∨ isIncluding nms.state = true)
  | silentDestruction
      (silent : reaction.added = [])
      (destroying : isDestroying nms.state = true)
      (still : isIncluding reaction.nms.state = false)
      (kexFailType : reaction.nms.kexFailType = nms.kexFailType)
  | ended
      (including : isIncluding nms.state = true)
      (once : reaction.added.length = 1)
      (idle : reaction.nms.state = .idle)
  | failed
      (including : isIncluding nms.state = true)
      (once : reaction.added.length = 1)
      (destroying : reaction.nms.state = .sendNop)
      (known : reaction.nms.kexFailType ≠ .none ∨ nms.state = .waitForProtocol ∧ event = .abort)
  | survived
      (fails : failsSelfDestruct nms.state event = true)
      (untold : nms.kexFailType = .none)
      (once : reaction.added.length = 1)
      (idle : reaction.nms.state = .idle)

section Reactions

variable (env : Surroundings) (nms : Nms) (routes : List Route)

variable (event : Event) {reaction : Reaction}

theorem tells_of_idle {event : Event} (idle : reaction.nms.state = .idle)
    (silent : reaction.added = []) : reaction.Tells nms event :=
  .silentOutside silent (by simp [idle, isIncluding, isDestroying])

theorem dispatchNodeAddedAfterSelfDestructFail_tells {event : Event}
    (fails : failsSelfDestruct nms.state event = true) :
    (dispatchNodeAddedAfterSelfDestructFail env nms routes).Tells nms event := by
  unfold dispatchNodeAddedAfterSelfDestructFail
  split_ifs with told
  · exact tells_of_idle nms rfl rfl
  · exact .survived fails (by simpa using told) rfl rfl

theorem reactNodeStatusDone_tells (waits : nms.state = .waitForProtocol) :
    (reactNodeStatusDone env nms routes).Tells nms event := by
  have including : isIncluding nms.state = true := by rw [waits]; rfl
  unfold reactNodeStatusDone
  split_ifs
  · exact tells_of_idle nms rfl rfl
  · exact .silentInclusion rfl (.inr including)
  · exact .silentInclusion rfl (.inr including)
  · exact .silentInclusion rfl (.inr including)
  · exact .ended including rfl rfl

theorem reactNodeInformation_added (info : LearnInfo) (isController : Bool) :
    (reactNodeInformation nms routes info isController).added = [] := by
  unfold reactNodeInformation
  split_ifs <;> rfl

theorem reactKeyChallenge_added : (reactKeyChallenge env nms routes).added = [] := by
  unfold reactKeyChallenge
  extract_lets blanked
  split_ifs
  · rfl
  · rfl
  all_goals split <;> rfl

theorem notifyNodeAddSecurityFailed_kexFailType :
    (notifyNodeAddSecurityFailed nms).1.kexFailType ≠ .none := by
  have filled : ∀ failed : Nms,
      (fillReportedDskFromExpectedIfNeeded failed).kexFailType = failed.kexFailType := by
    intro failed
    unfold fillReportedDskFromExpectedIfNeeded
    split_ifs <;> rfl
  unfold notifyNodeAddSecurityFailed
  rw [filled]
  split_ifs with none
  · simp
  · exact none

theorem reactSecurityFailed_tells (including : isIncluding nms.state = true) :
    (reactSecurityFailed nms routes).Tells nms event :=
  .failed including rfl rfl (.inl (notifyNodeAddSecurityFailed_kexFailType nms))

theorem reactIdle_added : (reactIdle env nms routes event).added = [] := by
  cases event
  case learnSet =>
    simp only [reactIdle]
    split_ifs <;> rfl
  case nodeAddSmartStart data =>
    simp only [reactIdle]
    split_ifs <;> rfl
  case nodeRemove =>
    simp only [reactIdle]
    split_ifs <;> rfl
  case requestNodeNeighborRequest nodeId =>
    simp only [reactIdle]
    split_ifs <;> rfl
  all_goals rfl

theorem tells_of_same (silent : reaction.added = []) (state : reaction.nms.state = nms.state)
    (kexFailType : reaction.nms.kexFailType = nms.kexFailType) : reaction.Tells nms event := by
  by_cases including : isIncluding nms.state = true
  · exact .silentInclusion silent (.inr including)
  by_cases destroying : isDestroying nms.state = true
  · exact .silentDestruction silent destroying (by simpa [state] using including) kexFailType
  · refine .silentOutside silent ?_
    rw [state]
    simpa using And.intro including destroying

theorem reactWaitForProtocol_tells (waits : nms.state = .waitForProtocol) :
    (reactWaitForProtocol env nms routes event).Tells nms event := by
  have including : isIncluding nms.state = true := by rw [waits]; rfl
  cases event
  case addNodeStatusDone => exact reactNodeStatusDone_tells env nms routes _ waits
  case abort => exact .failed including rfl rfl (.inr ⟨waits, rfl⟩)
  all_goals exact .silentInclusion rfl (.inr including)

theorem reactWaitForSecureAdd_tells (waits : nms.state = .waitForSecureAdd) :
    (reactWaitForSecureAdd env nms routes event).Tells nms event := by
  have including : isIncluding nms.state = true := by rw [waits]; rfl
  cases event
  case securityDone =>
    simp only [reactWaitForSecureAdd]
    split_ifs
    · exact .ended including rfl rfl
    · exact reactSecurityFailed_tells nms routes _ including
  case timeout => exact reactSecurityFailed_tells nms routes _ including
  case addSecurityKeyChallenge =>
    exact .silentInclusion (reactKeyChallenge_added env nms routes) (.inr including)
  all_goals exact .silentInclusion rfl (.inr including)

theorem reactWaitForTxToSelfDestruct_tells (waits : nms.state = .waitForTxToSelfDestruct) :
    (reactWaitForTxToSelfDestruct env nms routes event).Tells nms event := by
  have destroying : isDestroying nms.state = true := by rw [waits]; rfl
  cases event
  case nopSuccess =>
    exact dispatchNodeAddedAfterSelfDestructFail_tells env nms routes (by rw [waits]; rfl)
  case nopFail => exact .silentDestruction rfl destroying rfl rfl
  case timeout => exact .silentDestruction rfl destroying rfl rfl
  case abort => exact tells_of_idle nms rfl rfl
  all_goals exact tells_of_same nms _ rfl rfl rfl

theorem reactWaitForSelfDestructRemoval_tells (waits : nms.state = .waitForSelfDestructRemoval) :
    (reactWaitForSelfDestructRemoval env nms routes event).Tells nms event := by
  cases event
  case removeFailedOk => exact tells_of_idle nms rfl rfl
  case removeFailedFail =>
    exact dispatchNodeAddedAfterSelfDestructFail_tells env nms routes (by rw [waits]; rfl)
  case timeout =>
    exact dispatchNodeAddedAfterSelfDestructFail_tells env nms routes (by rw [waits]; rfl)
  all_goals exact tells_of_same nms _ rfl rfl rfl

theorem reactLearnModeStarted_tells :
    (reactLearnModeStarted env nms routes event).Tells nms event := by
  cases event
  case learnDone =>
    simp only [reactLearnModeStarted]
    split_ifs
    all_goals exact .silentOutside rfl ⟨rfl, rfl⟩
  case learnFailed => exact tells_of_idle nms rfl rfl
  all_goals exact tells_of_same nms _ rfl rfl rfl

theorem react_tells (info : LearnInfo) (event : Event) :
    (react env nms routes info event).Tells nms event := by
  unfold react
  cases state : nms.state <;> simp only
  case idle => exact .silentInclusion (reactIdle_added env nms routes event) (.inl state)
  case sendNop =>
    have destroying : isDestroying nms.state = true := by rw [state]; rfl
    cases event
    case timeout => exact .silentDestruction rfl destroying rfl rfl
    case removeFailed => exact .silentDestruction rfl destroying rfl rfl
    all_goals exact tells_of_same nms _ rfl rfl rfl
  case waitForTxToSelfDestruct =>
    exact reactWaitForTxToSelfDestruct_tells env nms routes event state
  case waitForSelfDestructRemoval =>
    exact reactWaitForSelfDestructRemoval_tells env nms routes event state
  case waitingForAdd =>
    have including : isIncluding nms.state = true := by rw [state]; rfl
    cases event <;> exact .silentInclusion rfl (.inr including)
  case nodeFound =>
    have including : isIncluding nms.state = true := by rw [state]; rfl
    cases event
    case addController =>
      exact .silentInclusion (reactNodeInformation_added nms routes info true) (.inr including)
    case addEndNode =>
      exact .silentInclusion (reactNodeInformation_added nms routes info false) (.inr including)
    all_goals exact .silentInclusion rfl (.inr including)
  case waitForProtocol => exact reactWaitForProtocol_tells env nms routes event state
  case waitForSecureAdd => exact reactWaitForSecureAdd_tells env nms routes event state
  case learnModeStarted => exact reactLearnModeStarted_tells env nms routes event
  case waitForSecureLearn =>
    cases event
    case securityDone =>
      simp only [reactWaitForSecureLearn]
      split_ifs
      all_goals exact .silentOutside rfl ⟨rfl, rfl⟩
    all_goals exact tells_of_same nms _ rfl rfl rfl
  all_goals
    cases event
    all_goals
      first
        | exact tells_of_same nms _ rfl rfl rfl
        | exact .silentOutside rfl ⟨rfl, rfl⟩

end Reactions

theorem isDestroying_of_failsSelfDestruct {state : State} {event : Event}
    (fails : failsSelfDestruct state event = true) : isDestroying state = true := by
  unfold failsSelfDestruct at fails
  split at fails
  · rfl
  · rfl
  · rfl
  · simp at fails

namespace Machine

/-- An inclusion that runs has not been told, and one that has failed was told with a
reason or because it was aborted. -/
structure ToldOnce (machine : Machine) (aborted : Bool) : Prop where
  /-- An inclusion under way has not been told. -/
  including : isIncluding machine.nms.state = true -> machine.history.added = []
  /-- A failed one was told with a reason, if at all. -/
  destroying : isDestroying machine.nms.state = true ->
    machine.history.added = [] ∨
      machine.history.added.length = 1 ∧ (machine.nms.kexFailType ≠ .none ∨ aborted = true)
  /-- None is told twice. -/
  once : machine.history.added.length ≤ 1

variable (env : Surroundings) {machine next : Machine} {aborted : Bool} {event : Event}

theorem ToldOnce.of_none (aborted : Bool) (none : machine.history.added = []) :
    machine.ToldOnce aborted :=
  ⟨fun _ => none, fun _ => .inl none, by simp [none]⟩

theorem ToldOnce.of_outside (aborted : Bool)
    (outside : isIncluding machine.nms.state = false ∧ isDestroying machine.nms.state = false)
    (once : machine.history.added.length ≤ 1) : machine.ToldOnce aborted where
  including isIncluding := absurd isIncluding (by simp [outside.1])
  destroying isDestroying := absurd isDestroying (by simp [outside.2])
  once := once

theorem ToldOnce.apply {machine : Machine} {aborted : Bool} (told : machine.ToldOnce aborted)
    (begins : machine.nms.state = .idle -> machine.history.added = []) {event : Event}
    {reaction : Reaction} (tells : reaction.Tells machine.nms event)
    (notAgain : failsSelfDestruct machine.nms.state event = true ->
      ¬ (aborted = true ∧ machine.nms.kexFailType = .none)) :
    (machine.apply reaction).ToldOnce
      (aborted || (machine.nms.state = .waitForProtocol && event = .abort)) := by
  cases tells with
  | silentOutside silent outside => exact .of_outside _ outside (by simpa [silent] using told.once)
  | silentInclusion silent including =>
    have none : machine.history.added = [] := including.elim begins told.including
    exact .of_none _ (by simp [none, silent])
  | silentDestruction silent destroying still kexFailType =>
    refine ⟨fun including => absurd including (by simp [still]), fun _ => ?_, ?_⟩
    · simp only [apply_history, apply_nms, silent, List.append_nil, kexFailType]
      refine (told.destroying destroying).imp_right fun failed => ⟨failed.1, ?_⟩
      exact failed.2.imp_right fun isAborted => by simp [isAborted]
    · simpa [silent] using told.once
  | ended including once idle =>
    refine .of_outside _ (by simp [idle, isIncluding, isDestroying]) ?_
    simp [told.including including, once]
  | failed including once destroying known =>
    have one : (machine.apply reaction).history.added.length = 1 := by
      simp [told.including including, once]
    refine ⟨fun stillIncluding => ?_, fun _ => .inr ⟨one, ?_⟩, one.le⟩
    · simp [destroying, isIncluding] at stillIncluding
    · exact known.imp_right fun aborts => by simp [aborts]
  | survived fails untold once idle =>
    have none : machine.history.added = [] := by
      obtain none | ⟨_, kexFail | isAborted⟩ :=
        told.destroying (isDestroying_of_failsSelfDestruct fails)
      · exact none
      · exact absurd untold kexFail
      · exact absurd ⟨isAborted, untold⟩ (notAgain fails)
    refine .of_outside _ (by simp [idle, isIncluding, isDestroying]) ?_
    simp [none, once]

theorem reaction_tells (machine : Machine) (event : Event) :
    (machine.reaction env event).Tells machine.nms event :=
  react_tells env machine.nms machine.routes machine.learnInfo event

theorem ToldOnce.afterSwitch (told : machine.ToldOnce aborted) (env : Surroundings) :
    (machine.afterSwitch env).ToldOnce aborted := by
  have added : (machine.afterSwitch env).history.added = machine.history.added := by
    rw [afterSwitch_history, assignReturnRoutes_history]
  by_cases assigned : (assignNext env machine.routes).1 = true
  · refine .of_outside _ ?_ (by rw [added]; exact told.once)
    rw [afterSwitch_state, if_pos assigned]
    exact ⟨rfl, rfl⟩
  have state : (machine.afterSwitch env).nms.state = machine.nms.state := by
    rw [afterSwitch_state, if_neg assigned]
  by_cases idle : machine.nms.state = .idle
  · refine .of_outside _ ?_ (by rw [added]; exact told.once)
    rw [state, idle]
    exact ⟨rfl, rfl⟩
  · refine ⟨?_, ?_, ?_⟩
    · rw [state, added]
      exact told.including
    · rw [state, added, afterSwitch_kexFailType, cleanUp_of_busy _ idle]
      exact told.destroying
    · rw [added]
      exact told.once

theorem ToldOnce.switched (told : machine.ToldOnce aborted)
    (begins : machine.nms.state = .idle -> machine.history.added = []) (env : Surroundings)
    (notAgain : failsSelfDestruct machine.nms.state event = true ->
      ¬ (aborted = true ∧ machine.nms.kexFailType = .none)) :
    (machine.switched env event).ToldOnce
      (aborted || (machine.nms.state = .waitForProtocol && event = .abort)) := by
  have reacted := told.apply begins (machine.reaction_tells env event) notAgain
  by_cases hands : ∃ another, (machine.reaction env event).ending = .withAnother another
  · -- The event that is handed on comes in an inclusion, and is no abortion.
    obtain ⟨another, hands⟩ := hands
    rw [switched_of_withAnother hands]
    have again : (machine.apply (machine.reaction env event)).nms.state ≠ .idle ->
        (∀ state, failsSelfDestruct state another = false) -> another ≠ .abort ->
        ((machine.apply (machine.reaction env event)).apply
          ((machine.apply (machine.reaction env event)).reaction env
            another)).ToldOnce
          (aborted || (machine.nms.state = .waitForProtocol && event = .abort)) := by
      intro busy harmless noAbort
      have twice := ToldOnce.apply reacted (fun idle => absurd idle busy)
        (reaction_tells env _ another) (by simp [harmless])
      simpa [noAbort] using twice
    cases react_ends env machine.nms machine.routes machine.learnInfo event with
    | afterSwitch ending | selfDestruct _ ending => simp [reaction, ending] at hands
    | unchanged idle same => simp [reaction, same] at hands
    | proxyInclusion idle ending state set silent =>
      obtain rfl : .addNodeStatusDone = another := Ending.withAnother.inj (ending.symm.trans hands)
      apply again
      · simp [reaction, state]
      · intro other
        cases other <;> rfl
      · decide
    | noInformation found ending state silent =>
      obtain rfl : .addFailed = another := Ending.withAnother.inj (ending.symm.trans hands)
      apply again
      · simp [reaction, state]
      · intro other
        cases other <;> rfl
      · decide
  · push Not at hands
    rw [switched_of_alone hands]
    exact reacted

/-- A self-destruct that has failed is not that of an inclusion that was aborted while it
waited for the protocol, with no reason left in `kex_fail_type`. -/
def FailsWithReason (machine : Machine) (event : Event) : Prop :=
  failsSelfDestruct machine.nms.state event = true ->
    ¬ (machine.history.aborted = true ∧ machine.nms.kexFailType = .none)

/-- Every event is handled as `FailsWithReason` says. -/
def TellsOnce (machine : Machine) : Action -> Prop
  | .handleNext _ => ∀ posting ∈ machine.events.head?, machine.FailsWithReason posting.event
  | .timerCallback _ => machine.expired ≠ none -> machine.FailsWithReason .timeout
  | _ => True

instance (machine : Machine) (event : Event) : Decidable (machine.FailsWithReason event) :=
  inferInstanceAs (Decidable (_ -> ¬ (_ ∧ _)))

instance (machine : Machine) : (action : Action) -> Decidable (machine.TellsOnce action)
  | .handleNext _ =>
      inferInstanceAs
        (Decidable (∀ posting ∈ machine.events.head?, machine.FailsWithReason posting.event))
  | .timerCallback _ =>
      inferInstanceAs (Decidable (machine.expired ≠ none -> machine.FailsWithReason .timeout))
  | .call _ _ => isTrue trivial
  | .callback _ _ => isTrue trivial
  | .timerExpires => isTrue trivial

theorem ToldOnce.fsmPostEvent (told : machine.ToldOnce aborted)
    (begins : machine.nms.state = .idle -> machine.history.added = []) (env : Surroundings)
    (notAgain : failsSelfDestruct machine.nms.state event = true ->
      ¬ (aborted = true ∧ machine.nms.kexFailType = .none)) :
    (machine.fsmPostEvent env event).ToldOnce
      (aborted || (machine.nms.state = .waitForProtocol && event = .abort)) := by
  have switches := told.switched begins env notAgain
  by_cases atOnce : machine.endsAtOnce env event
  · rwa [fsmPostEvent_of_endsAtOnce atOnce]
  · rw [fsmPostEvent_of_not_endsAtOnce atOnce]
    exact switches.afterSwitch env

/-- No handler tells of an inclusion a second time. -/
theorem ToldOnce.handle (told : machine.ToldOnce machine.history.aborted) (env : Surroundings)
    (notAgain : machine.FailsWithReason event) :
    (machine.handle env event).ToldOnce (machine.handle env event).history.aborted := by
  have begun : machine.beginPeriod.ToldOnce machine.beginPeriod.history.aborted ∧
      (machine.beginPeriod.nms.state = .idle -> machine.beginPeriod.history.added = []) ∧
      machine.beginPeriod.FailsWithReason event := by
    by_cases idle : machine.nms.state = .idle
    · have fresh : machine.beginPeriod.history.added = [] := by
        rw [beginPeriod, if_pos idle]
      refine ⟨.of_none _ fresh, fun _ => fresh, fun fails => ?_⟩
      simp [idle, failsSelfDestruct] at fails
    · rw [beginPeriod, if_neg idle]
      exact ⟨told, fun isIdle => absurd isIdle idle, notAgain⟩
  obtain ⟨told, begins, notAgain⟩ := begun
  have handled := told.fsmPostEvent begins env notAgain
  obtain ⟨added, interrupted, history⟩ := machine.beginPeriod.fsmPostEvent_history env event
  have aborted : (machine.handle env event).history.aborted =
      (machine.beginPeriod.history.aborted ||
        (machine.beginPeriod.nms.state = .waitForProtocol && event = .abort)) := by
    simp only [Machine.handle, note, history, beginPeriod_nms]
  rw [aborted]
  exact ⟨handled.including, handled.destroying, handled.once⟩

section

variable (told : machine.ToldOnce machine.history.aborted)
include told

theorem ToldOnce.of_same (state : next.nms.state = machine.nms.state)
    (kexFailType : isDestroying machine.nms.state = true ->
      next.nms.kexFailType = machine.nms.kexFailType)
    (added : next.history.added = machine.history.added)
    (aborted : next.history.aborted = machine.history.aborted) :
    next.ToldOnce next.history.aborted := by
  refine ⟨?_, ?_, ?_⟩
  · rw [state, added]
    exact told.including
  · rw [state, added, aborted]
    intro destroying
    rw [kexFailType destroying]
    exact told.destroying destroying
  · rw [added]
    exact told.once

theorem ToldOnce.of_quiet (quiet : machine.Quiet next) : next.ToldOnce next.history.aborted := by
  apply told.of_same quiet.state _ (by rw [quiet.history]) (by rw [quiet.history])
  intro destroying
  obtain same | waits | waits := quiet.kexFailType
  · exact same
  all_goals simp [waits, isDestroying] at destroying

theorem ToldOnce.call (env : Surroundings) (request : Call) :
    (machine.call env request).ToldOnce (machine.call env request).history.aborted := by
  obtain quiet | accepts | rfl | ⟨nodeId, destinationNodeId, rfl⟩ := call_cases env machine request
  · exact told.of_quiet quiet
  · obtain ⟨nms, event, origin, becomes, state, kexFailType, _⟩ := accepts.becomes
    rw [becomes]
    exact told.of_same state (fun _ => kexFailType) rfl rfl
  · simp only [Machine.call, setDefault]
    split_ifs
    · exact .of_outside _ ⟨rfl, rfl⟩ told.once
    · exact { told with }
    · exact told
  · simp only [Machine.call]
    obtain quiet | ⟨_, _, routes, queued⟩ :=
      assignReturnRoute_cases env machine nodeId destinationNodeId
    · exact told.of_quiet quiet
    · rw [queued]
      exact { told with }

theorem ToldOnce.callback (env : Surroundings) (request : Callback) :
    (machine.callback env request).ToldOnce (machine.callback env request).history.aborted := by
  obtain quiet | ⟨status, info, rfl⟩ | ⟨bSource, rfl⟩ | ⟨bSource, rfl⟩ :=
    callback_cases env machine request
  · exact told.of_quiet quiet
  · exact { told with }
  · simp only [Machine.callback, onLearnMode]
    by_cases smartStart : machine.nms.learnModeIntent = .smartStart
    · rw [if_pos smartStart]
      exact .of_outside _ ⟨rfl, rfl⟩ told.once
    · rw [if_neg smartStart]
      exact { told with }
  · simp only [Machine.callback, onRemoveNodeStatusUpdate]
    split_ifs <;> exact { told with }

end

/-- Every step that tells once keeps the invariant. -/
theorem ToldOnce.step (told : machine.ToldOnce machine.history.aborted) {action : Action}
    (once : machine.TellsOnce action) :
    (machine.step action).ToldOnce (machine.step action).history.aborted := by
  cases action with
  | call env request => exact told.call env request
  | callback env request => exact told.callback env request
  | handleNext env =>
    simp only [Machine.step, handleNext]
    split
    · exact told
    · rename_i posting rest events
      have notAgain : machine.FailsWithReason posting.event := once posting (by simp [events])
      obtain ⟨starts, updates, noted⟩ := { machine with events := rest }.noteOrigin_eq posting
      rw [noted]
      apply ToldOnce.handle
      · exact { told with }
      · exact notAgain
  | timerExpires =>
    simp only [Machine.step, timerExpires]
    split
    · exact { told with }
    · exact told
  | timerCallback env =>
    simp only [Machine.step, timerCallback]
    split
    · exact told
    · rename_i setting expired
      have notAgain : machine.FailsWithReason .timeout := once (by simp [expired])
      have idle : { machine with expired := none }.ToldOnce machine.history.aborted :=
        { told with }
      have handled := ToldOnce.handle idle env notAgain
      exact ⟨handled.including, handled.destroying, handled.once⟩

/-- In every run in which no self-destruct fails after the inclusion was aborted while it
waited for the protocol, `zwave_controller_on_node_added` is called at most once between
leaving `NM_IDLE` and the return to it. -/
theorem added_run (env : Surroundings) (actions : List Action)
    (once : StepsMeet step TellsOnce (initial env) actions) :
    (run step (initial env) actions).history.added.length ≤ 1 := by
  have start : (initial env).ToldOnce (initial env).history.aborted := .of_none _ rfl
  exact (once.invariant (fun machine : Machine => machine.ToldOnce machine.history.aborted)
    (fun _ _ told => told.step) start).once

/-- An inclusion up to the protocol: an end node with S2 is found. -/
def inclusionUpToProtocol : List Action :=
  [.call .accepting .addNode,
    .handleNext .accepting,
    .callback .accepting (.addNodeStatusUpdate .nodeFound ⟨5, []⟩),
    .handleNext .accepting,
    .callback .accepting (.addNodeStatusUpdate .addingEndNode ⟨5, [4, 16, 1, 0x9F, 0x25]⟩),
    .handleNext .accepting]

/-- The bootstrapping fails, and so does the self-destruct after it. -/
def failedBootstrapping : List Action :=
  inclusionUpToProtocol ++
    [.callback .accepting (.addNodeStatusUpdate .done ⟨5, []⟩),
      .handleNext .accepting,
      .callback .accepting (.secureInclusionComplete 0 .auth),
      .handleNext .accepting,
      .timerExpires,
      .timerCallback .accepting,
      .callback .accepting (.nopSendDone true),
      .handleNext .accepting]

theorem added_run_failedBootstrapping :
    (run step (initial .accepting) failedBootstrapping).history.added.map NodeAdded.kexFailType =
      [.auth] ∧
      (run step (initial .accepting) failedBootstrapping).history.added.length ≤ 1 := by
  refine ⟨by decide, added_run _ _ ?_⟩
  decide

/-- The inclusion is aborted while it waits for the protocol, and the node answers the
NOP: the failure is told twice. -/
theorem not_added_run :
    ¬ ∀ env actions, (run step (initial env) actions).history.added.length ≤ 1 := by
  intro once
  have twice : (run step (initial .accepting)
      (inclusionUpToProtocol ++
        [.call .accepting .abort,
          .handleNext .accepting,
          .timerExpires,
          .timerCallback .accepting,
          .callback .accepting (.nopSendDone true),
          .handleNext .accepting])).history.added.length = 2 := by
    decide
  exact absurd (once _ _) (by rw [twice]; decide)

end Machine

end NetworkManagement
