import Zpc.Ota.SessionSteps

/-!
# The sessions between two events

No session is left in a terminal state, every session is kept under its node, one of them at
most transfers an image, and the pauses of a node's resolution are resumed when its session
is over.
-/

namespace Ota

open Foundation

namespace OtaStateMachine

/-- What holds of the sessions between two events. -/
structure WellKept (sys : OtaStateMachine) : Prop where
  noneFinished : ∀ node session, sys.sessions.find node = some session ->
    session.currentState ≠ .transferDone ∧ session.currentState ≠ .failed
  storedUnderNode : ∀ node session, sys.sessions.find node = some session -> session.nodeId = node
  oneActive : ∀ first second firstSession secondSession,
    sys.sessions.find first = some firstSession ->
    sys.sessions.find second = some secondSession ->
    firstSession.currentState.isActive = true -> secondSession.currentState.isActive = true ->
    first = second
  resumed : ∀ node, sys.sessions.find node = none -> Matched (resolutionCalls node sys.outputs)

/-- What carries it from one event to the next. -/
structure Invariant (sys : OtaStateMachine) : Prop where
  kept : ∀ node session, sys.sessions.find node = some session -> Kept node (sys.contextOf session)
  oneActive : ∀ first second firstSession secondSession,
    sys.sessions.find first = some firstSession ->
    sys.sessions.find second = some secondSession ->
    firstSession.currentState.isActive = true -> secondSession.currentState.isActive = true ->
    first = second
  resumed : ∀ node, sys.sessions.find node = none -> Matched (resolutionCalls node sys.outputs)

variable {sys : OtaStateMachine}

theorem Invariant.wellKept (invariant : Invariant sys) : WellKept sys := by
  refine ⟨?_, fun node session found => (invariant.kept node session found).nodeId,
    invariant.oneActive, invariant.resumed⟩
  intro node session found
  have running := (invariant.kept node session found).awaits.not_terminal
  constructor <;> intro isFinal <;>
    rw [show (sys.contextOf session).session.currentState = _ from isFinal] at running <;>
    cases running

theorem invariant_initial : Invariant initial := by
  refine ⟨?_, ?_, fun _ _ => matched_nil⟩
  · intro node session found
    cases found
  · intro first second firstSession secondSession found
    cases found

theorem Kept.of_calls {node : Nat} {session : OtaSession} {other : OtaStateMachine}
    (kept : Kept node (sys.contextOf session))
    (calls : resolutionCalls node other.outputs = resolutionCalls node sys.outputs) :
    Kept node (other.contextOf session) := by
  refine ⟨kept.nodeId, kept.awaits, kept.pausedInTransfer, kept.notAborted, ?_⟩
  show Balanced session (resolutionCalls node other.outputs)
  rw [calls]
  exact kept.balanced

section

variable {sys : OtaStateMachine} {key : Nat} {after : Context}

theorem find_settle (other : Nat) :
    (sys.settle key after).sessions.find other =
      if other = key then
        if after.session.currentState.isTerminal then none else some after.session
      else sys.sessions.find other := by
  unfold settle store
  by_cases terminal : after.session.currentState.isTerminal <;> by_cases same : other = key <;>
    simp [terminal, same]

@[simp] theorem outputs_settle : (sys.settle key after).outputs = after.outputs := by
  unfold settle store
  split <;> rfl

/-- Settling what an event made of a session keeps the table, as long as a session that ends
can be resumed and the transfer of the session is the only one. -/
theorem Invariant.settle (invariant : Invariant sys) {env : Surroundings}
    {event : ExternalEventData} {session : OtaSession}
    (handled : Handled env event key (sys.contextOf session) after)
    (balanced : Balanced session (resolutionCalls key sys.outputs))
    (resumable : session.resolutionPaused = true ->
      after.session.currentState.isTerminal = true ->
      env.nodeExists session.endpointNode = true)
    (alone : after.session.currentState.isActive = true ->
      ∀ other otherSession, other ≠ key -> sys.sessions.find other = some otherSession ->
        otherSession.currentState.isActive = false) :
    Invariant (sys.settle key after) := by
  have callsOf : ∀ other, other ≠ key ->
      resolutionCalls other (sys.settle key after).outputs = resolutionCalls other sys.outputs := by
    intro other isOther
    rw [outputs_settle]
    exact handled.others other isOther
  refine ⟨?_, ?_, ?_⟩
  · intro node kept found
    rw [find_settle] at found
    split at found
    · rename_i same
      split at found
      · cases found
      · rename_i running
        cases found
        rcases handled.outcome with keptAfter | ended
        · rw [same]
          exact ⟨keptAfter.nodeId, keptAfter.awaits, keptAfter.pausedInTransfer,
            keptAfter.notAborted, by simpa [contextOf] using keptAfter.balanced⟩
        · exact absurd ended.terminal running
    · rename_i isOther
      exact Kept.of_calls (invariant.kept node kept found) (callsOf node isOther)
  · have activeOf : ∀ node kept, (sys.settle key after).sessions.find node = some kept ->
        kept.currentState.isActive = true ->
        (node = key ∧ after.session.currentState.isActive = true) ∨
          (node ≠ key ∧ sys.sessions.find node = some kept) := by
      intro node kept found active
      rw [find_settle] at found
      split at found
      · rename_i same
        split at found
        · cases found
        · cases found
          exact Or.inl ⟨same, active⟩
      · rename_i isOther
        exact Or.inr ⟨isOther, found⟩
    intro first second firstSession secondSession firstFound secondFound firstActive secondActive
    rcases activeOf first _ firstFound firstActive with ⟨firstKey, active⟩ | ⟨firstOther, first'⟩
    · rcases activeOf second _ secondFound secondActive with ⟨secondKey, -⟩ | ⟨isOther, second'⟩
      · rw [firstKey, secondKey]
      · rw [alone active second _ isOther second'] at secondActive
        cases secondActive
    · rcases activeOf second _ secondFound secondActive with ⟨-, active⟩ | ⟨-, second'⟩
      · rw [alone active first _ firstOther first'] at firstActive
        cases firstActive
      · exact invariant.oneActive first second _ _ first' second' firstActive secondActive
  · intro node missing
    rw [find_settle] at missing
    split at missing
    · rename_i same
      split at missing
      · rename_i terminal
        rw [same, outputs_settle]
        rcases handled.outcome with keptAfter | ended
        · rw [keptAfter.awaits.not_terminal] at terminal
          cases terminal
        · rw [ended.calls]
          show Matched (resolutionCalls key sys.outputs ++ resumption env session)
          rw [Balanced] at balanced
          split at balanced
          · rename_i paused
            obtain ⟨done, matched, calls⟩ := balanced
            rw [calls, resumption, resumable paused terminal, paused]
            exact matched.resumed session.endpointNode
          · rename_i unpaused
            rw [resumption_of_unpaused (by simpa using unpaused), List.append_nil]
            exact balanced
      · cases missing
    · rename_i isOther
      rw [callsOf node isOther]
      exact invariant.resumed node missing

theorem Invariant.published (invariant : Invariant sys) (report : MqttReport) :
    Invariant { sys with outputs := sys.outputs ++ [.published report] } := by
  have calls : ∀ node, resolutionCalls node (sys.outputs ++ [.published report]) =
      resolutionCalls node sys.outputs := by
    simp [resolutionCalls, resolutionCall]
  refine ⟨?_, invariant.oneActive, ?_⟩
  · intro node session found
    exact Kept.of_calls (invariant.kept node session found) (calls node)
  · intro node missing
    rw [calls]
    exact invariant.resumed node missing

variable {env : Surroundings} {event : ExternalEventData}

/-- An event that is routed to the session of its node. -/
def IsRouted (event : ExternalEventData) : Prop :=
  event.event ≠ .mqttStartUpload ∧ event.event ≠ .mqttProgressRequest

variable {session : OtaSession}

theorem routeEvent_eq_settle (awaits : AwaitsEvent session.currentState) :
    routeEvent env sys event session =
      sys.settle event.nodeId (routeContext env event (sys.contextOf session)) := by
  unfold routeEvent routeContext
  dsimp only
  split
  · have running : (endDelivery env event
        (sys.contextOf session)).session.currentState.isTerminal = false := by
      unfold endDelivery
      split
      · rw [transitionToState_outcome]
        rfl
      · exact awaits.not_terminal
    unfold settle
    rw [running, if_neg Bool.false_ne_true]
  · rfl

theorem processEvent_routed (invariant : Invariant sys) (routed : IsRouted event)
    {session : OtaSession} (found : sys.sessions.find event.nodeId = some session) :
    ∃ after, processEvent env sys event = sys.settle event.nodeId after ∧
      Handled env event event.nodeId (sys.contextOf session) after ∧
      (after.session.currentState.isActive = true -> session.currentState.isActive = true) := by
  have kept := invariant.kept _ _ found
  obtain ⟨notStart, notProgress⟩ := routed
  by_cases isAbort : event.event = .mqttAbort
  · refine ⟨_, by simp [processEvent, isAbort, found], handled_abort kept isAbort, ?_⟩
    intro active
    rw [transitionToState_recordAbort, clearSession_session] at active
    cases active
  · refine ⟨routeContext env event (sys.contextOf session), ?_,
      handled_routeContext kept isAbort, isActive_of_isActive_routeContext kept⟩
    rw [← routeEvent_eq_settle (show AwaitsEvent session.currentState from kept.awaits)]
    unfold processEvent
    split <;> simp_all

theorem find_progressTarget {nodeId key : Nat}
    (target : sys.progressTarget env nodeId = some (key, session)) :
    sys.sessions.find key = some session := by
  unfold progressTarget at target
  split at target
  · split at target
    · rename_i found
      split at target
      · cases target
        exact found
      · cases target
    · cases target
  · obtain ⟨other, -, isTarget⟩ := List.exists_of_findSome?_eq_some target
    split at isTarget
    · rename_i found
      split at isTarget
      · cases isTarget
        exact found
      · cases isTarget
    · cases isTarget

theorem processEvent_progress (invariant : Invariant sys)
    (isRequest : event.event = .mqttProgressRequest)
    (target : sys.progressTarget env event.nodeId = some (key, session)) :
    ∃ after, processEvent env sys event = sys.settle key after ∧
      Handled env event key (sys.contextOf session) after ∧
      after.session.currentState = .uploadDeliverFirmwareChunks := by
  obtain ⟨handled, delivering⟩ :=
    @handled_progress env _ _ _
      (invariant.kept key session (find_progressTarget target)) isRequest
  refine ⟨_, ?_, handled, delivering⟩
  simp [processEvent, isRequest, target, settle, delivering, OtaState.isTerminal]

theorem invariant_startUpload (invariant : Invariant sys) (event : ExternalEventData)
    (nodeId : Nat) (imageName : String) (waitForActivation : Bool) :
    Invariant (startUpload env sys nodeId imageName waitForActivation) := by
  unfold startUpload
  split
  · exact invariant.published _
  · rename_i accepted
    rw [Bool.or_eq_true, not_or, Bool.not_eq_true, Bool.not_eq_true] at accepted
    obtain ⟨free, inactive⟩ := accepted
    rw [Option.isSome_eq_false_iff, Option.isNone_iff_eq_none] at free
    have matched := invariant.resumed nodeId free
    have handled := @handled_start env event _
      (sys.contextOf (startedSession nodeId imageName waitForActivation))
      rfl rfl rfl matched
    refine invariant.settle handled matched ?_ ?_
    · intro paused
      cases paused
    · intro _ other otherSession _ found
      rw [isActiveTransferInProgress, List.any_eq_false] at inactive
      have idle := inactive (other, otherSession) (mem_of_lookup_eq_some found)
      simpa using idle

/-- A progress request does not put a session back to the delivery while the image of another
node is transferred. -/
def ProgressAlone (sys : OtaStateMachine) (occurrence : Occurrence) : Prop :=
  occurrence.event.event = .mqttProgressRequest ->
    ∀ key session, sys.progressTarget occurrence.env occurrence.event.nodeId =
      some (key, session) ->
      ∀ other otherSession, other ≠ key -> sys.sessions.find other = some otherSession ->
        otherSession.currentState.isActive = false

/-- An event that ends a transfer finds the endpoint of the session in the attribute store. -/
def EndpointRemains (sys : OtaStateMachine) (occurrence : Occurrence) : Prop :=
  ∀ session, sys.sessions.find occurrence.event.nodeId = some session ->
    session.resolutionPaused = true -> EndsTransfer session occurrence.event ->
    occurrence.env.nodeExists session.endpointNode = true

/-- The condition on an event that is handled. -/
def Orderly (sys : OtaStateMachine) (occurrence : Occurrence) : Prop :=
  sys.running = true -> ProgressAlone sys occurrence ∧ EndpointRemains sys occurrence

theorem isRouted_of_endsTransfer (ends : EndsTransfer session event) : IsRouted event := by
  unfold EndsTransfer at ends
  split at ends <;> simp_all [IsRouted]

variable {occurrence : Occurrence}

/-- Every orderly event keeps the table of the sessions. -/
theorem Invariant.step (invariant : Invariant sys) (orderly : Orderly sys occurrence) :
    Invariant (step sys occurrence) := by
  unfold OtaStateMachine.step
  split
  · rename_i running
    obtain ⟨alone, remains⟩ := orderly running
    by_cases routed : IsRouted occurrence.event
    · cases found : sys.sessions.find occurrence.event.nodeId with
      | none =>
        have ignored : processEvent occurrence.env sys occurrence.event = sys := by
          unfold processEvent
          split <;> simp_all [IsRouted]
        rw [ignored]
        exact invariant
      | some session =>
        obtain ⟨after, settled, handled, active⟩ :=
          @processEvent_routed _ occurrence.env _ invariant routed _ found
        rw [settled]
        refine invariant.settle handled (invariant.kept _ _ found).balanced ?_ ?_
        · intro paused terminal
          exact remains session found paused ((handled.ends paused).mp terminal)
        · intro isActive other otherSession isOther otherFound
          by_contra otherActive
          exact isOther (invariant.oneActive other occurrence.event.nodeId otherSession session
            otherFound found (by simpa using otherActive) (active isActive))
    · unfold IsRouted at routed
      rw [not_and_or, not_not, not_not] at routed
      rcases routed with isStart | isRequest
      · unfold processEvent
        rw [isStart]
        dsimp only
        split
        · exact invariant_startUpload invariant occurrence.event _ _ _
        · exact invariant
      · cases target : sys.progressTarget occurrence.env occurrence.event.nodeId with
        | none =>
          have ignored : processEvent occurrence.env sys occurrence.event = sys := by
            simp [processEvent, isRequest, target]
          rw [ignored]
          exact invariant
        | some found =>
          obtain ⟨key, session⟩ := found
          obtain ⟨after, settled, handled, delivering⟩ :=
            processEvent_progress invariant isRequest target
          rw [settled]
          refine invariant.settle handled
            (invariant.kept _ _ (find_progressTarget target)).balanced ?_ ?_
          · intro _ terminal
            rw [delivering] at terminal
            cases terminal
          · intro _ other otherSession isOther otherFound
            exact alone isRequest key session target other otherSession isOther otherFound
  · exact invariant

/-- An event that leaves the table well kept was orderly. -/
theorem orderly_of_wellKept_step (invariant : Invariant sys)
    (wellKept : WellKept (OtaStateMachine.step sys occurrence)) : Orderly sys occurrence := by
  intro running
  rw [step, if_pos running] at wellKept
  constructor
  · intro isRequest key session target other otherSession isOther otherFound
    obtain ⟨after, settled, -, delivering⟩ := processEvent_progress invariant isRequest target
    rw [settled] at wellKept
    by_contra otherActive
    refine isOther (wellKept.oneActive other key otherSession after.session ?_ ?_
      (by simpa using otherActive) (by rw [delivering]; rfl))
    · rw [find_settle, if_neg isOther]
      exact otherFound
    · rw [find_settle, if_pos rfl, delivering]
      rfl
  · intro session found paused ends
    obtain ⟨after, settled, handled, -⟩ :=
      @processEvent_routed _ occurrence.env _ invariant
        (isRouted_of_endsTransfer ends) _ found
    have terminal := (handled.ends paused).mpr ends
    rw [settled] at wellKept
    by_contra gone
    have matched := wellKept.resumed occurrence.event.nodeId
      (by rw [find_settle, if_pos rfl, terminal]; rfl)
    rw [outputs_settle] at matched
    rcases handled.outcome with keptAfter | ended
    · rw [keptAfter.awaits.not_terminal] at terminal
      cases terminal
    · rw [ended.calls] at matched
      have balanced : Balanced session
          (resolutionCalls occurrence.event.nodeId sys.outputs) :=
        (invariant.kept _ _ found).balanced
      rw [Balanced, if_pos paused] at balanced
      obtain ⟨done, matchedBefore, calls⟩ := balanced
      have nothing : resumption occurrence.env session = [] := by
        simp [resumption, gone]
      simp only [contextOf, nothing, List.append_nil, calls] at matched
      exact matchedBefore.not_paused _ matched

end

/-- In every run of the state machine, the sessions are well kept between any two events
exactly when every event is orderly. -/
theorem wellKept_iff_orderly (occurrences : List Occurrence) :
    (∀ done, done <+: occurrences -> WellKept (run step initial done)) ↔
      StepsMeet step Orderly initial occurrences :=
  throughout_iff_of_invariant Invariant WellKept (fun _ => Invariant.wellKept)
    (fun _ _ invariant orderly => invariant.step orderly)
    (fun _ _ invariant wellKept => orderly_of_wellKept_step invariant wellKept)
    invariant_initial occurrences

/-- Nodes with three bytes of firmware to come, in fragments of two bytes. -/
def twoNodesSurroundings : Surroundings where
  endpointNode := fun node => 10 + node
  nodeExists := fun _ => true
  firmwareMdReportGroup := fun _ => some (some ⟨0, 0, 2, 0, 0, 0xFF⟩)
  imageFile := fun _ => [10, 11, 12]
  enqueuesReport := fun _ => true
  acknowledgesNop := fun _ => true
  order := [2, 3]

/-- An event of the sample run. -/
def sampleOccurrence (event : ExternalEvent) (nodeId : Nat) (payload : Payload) : Occurrence where
  env := twoNodesSurroundings
  event := ⟨event, nodeId, payload⟩

/-- A node takes its image with a Get that passes the end and waits for its activation; while
another node is asked to take an image, the progress is requested. -/
def progressAfterDelivery : List Occurrence :=
  [sampleOccurrence .mqttStartUpload 2 (.startFirmwareUpload 2 "fw.gbl" true),
    sampleOccurrence .firmwareUpdateMdRequestReportReceived 2
      (.zwaveReport [("status", .uint8 0xFF)]),
    sampleOccurrence .firmwareUpdateMdGetReceived 2
      (.zwaveReport [("number_of_reports", .uint8 3), ("report_number_2", .uint8 1)]),
    sampleOccurrence .firmwareUpdateMdStatusReportReceived 2
      (.zwaveReport [("status", .uint8 0xFD)]),
    sampleOccurrence .mqttStartUpload 3 (.startFirmwareUpload 3 "fw.gbl" true),
    sampleOccurrence .mqttProgressRequest 0 .other]

theorem not_wellKept_progressAfterDelivery :
    ¬∀ done, done <+: progressAfterDelivery -> WellKept (run step initial done) := by
  intro throughout
  have wellKept := throughout progressAfterDelivery (List.prefix_refl _)
  have first : ∃ session,
      (run step initial progressAfterDelivery).sessions.find 2 = some session ∧
        session.currentState.isActive = true := by decide +kernel
  have second : ∃ session,
      (run step initial progressAfterDelivery).sessions.find 3 = some session ∧
        session.currentState.isActive = true := by decide +kernel
  obtain ⟨firstSession, firstFound, firstActive⟩ := first
  obtain ⟨secondSession, secondFound, secondActive⟩ := second
  exact absurd
    (wellKept.oneActive 2 3 firstSession secondSession firstFound secondFound firstActive
      secondActive) (by decide)

/-- Every session is left as it was, and what is given out are reports. -/
structure OnlyPublishes
    (env : Surroundings)
    (sys : OtaStateMachine)
    (event : ExternalEventData) : Prop where
  sessions : ∀ nodeId, (processEvent env sys event).sessions.find nodeId = sys.sessions.find nodeId
  running : (processEvent env sys event).running = sys.running
  reports : ∃ reports : List MqttReport,
    (processEvent env sys event).outputs = sys.outputs ++ reports.map .published

/-- The session that a progress request is for, if there is one, delivers its image. -/
def TargetDelivers (env : Surroundings) (sys : OtaStateMachine) (nodeId : Nat) : Prop :=
  ∀ key session, sys.progressTarget env nodeId = some (key, session) ->
    session.currentState = .uploadDeliverFirmwareChunks

theorem publishProgress_onEnter (ctx : Context) :
    (OtaStepPublishTransferProgress.onEnter ctx).2.session = ctx.session ∧
      (OtaStepPublishTransferProgress.onEnter ctx).2.threw = ctx.threw ∧
      ∃ reports : List MqttReport,
        (OtaStepPublishTransferProgress.onEnter ctx).2.outputs =
          ctx.outputs ++ reports.map .published := by
  unfold OtaStepPublishTransferProgress.onEnter
  split
  · exact ⟨rfl, rfl, [], (List.append_nil _).symm⟩
  · exact ⟨rfl, rfl, [_], rfl⟩

theorem onlyPublishes_progress_iff (sys : OtaStateMachine) (nodeId : Nat) (payload : Payload) :
    OnlyPublishes env sys ⟨.mqttProgressRequest, nodeId, payload⟩ ↔
      TargetDelivers env sys nodeId := by
  unfold TargetDelivers
  cases target : sys.progressTarget env nodeId with
  | none =>
    have same : processEvent env sys ⟨.mqttProgressRequest, nodeId, payload⟩ = sys := by
      simp only [processEvent, target]
    constructor
    · intro _ _ _ isTarget
      cases isTarget
    · intro _
      refine ⟨?_, ?_, [], ?_⟩ <;> simp [same]
  | some entry =>
    obtain ⟨key, session⟩ := entry
    have found := find_progressTarget target
    obtain ⟨sameSession, sameThrew, reports, published⟩ := publishProgress_onEnter
      ((sys.contextOf session).setState .uploadPublishTransferProgress)
    have stored : processEvent env sys ⟨.mqttProgressRequest, nodeId, payload⟩ =
        sys.store key ((OtaStepPublishTransferProgress.onEnter
          ((sys.contextOf session).setState .uploadPublishTransferProgress)).2.setState
            .uploadDeliverFirmwareChunks) := by
      simp only [processEvent, target, transitionToState_publishProgress]
    have left : ∀ other,
        (processEvent env sys
          ⟨.mqttProgressRequest, nodeId, payload⟩).sessions.find other =
        if other = key then some { session with currentState := .uploadDeliverFirmwareChunks }
        else sys.sessions.find other := by
      intro other
      simp only [stored, store, setState_session, sameSession, SessionTable.find_insertOrAssign]
      rfl
    constructor
    · intro onlyPublishes _ _ isTarget
      cases isTarget
      have kept := onlyPublishes.sessions key
      rw [left, if_pos rfl, found] at kept
      exact (congrArg OtaSession.currentState (Option.some.inj kept)).symm
    · intro delivers
      refine ⟨fun other => ?_, ?_, reports, ?_⟩
      · rw [left]
        split
        · next isKey => rw [isKey, found, ← delivers key session rfl]
        · rfl
      · simp only [stored, store, setState_threw, sameThrew]
        exact Bool.and_true _
      · rw [stored]
        exact published

/-- In every state that is reached, a progress request leaves the sessions as they are if and
only if the session it is for, if any, delivers its image. -/
theorem progress_only_publishes_iff (done : List Occurrence) (env : Surroundings)
    (nodeId : Nat) (payload : Payload) :
    OnlyPublishes env (run step initial done) ⟨.mqttProgressRequest, nodeId, payload⟩ ↔
      TargetDelivers env (run step initial done) nodeId :=
  onlyPublishes_progress_iff _ nodeId payload

/-- A request after the Get that passes the end takes the session back to the delivery. -/
theorem not_onlyPublishes_afterLastGet :
    ¬ OnlyPublishes twoNodesSurroundings (run step initial (progressAfterDelivery.take 3))
      ⟨.mqttProgressRequest, 2, .other⟩ := by
  intro onlyPublishes
  exact absurd (onlyPublishes.sessions 2) (by decide +kernel)

end OtaStateMachine

end Ota
