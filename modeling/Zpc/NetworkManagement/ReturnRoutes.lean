import Zpc.NetworkManagement.Calls

/-!
# Return routes and the other operations

The queue of return routes is looked at after the switch of every event, whatever
the state.  A route that waits while another operation runs takes the machine out
of it.  This does not happen when routes are requested only where they can be
assigned next, and operations are requested only when no route waits.
-/

namespace NetworkManagement

open Foundation

namespace Machine

/-- A return route can be assigned before any other operation starts. -/
def AwaitsRoutes (machine : Machine) : Prop :=
  (machine.nms.state = .idle ∨ machine.nms.state = .assigningReturnRoute) ∧
    ∀ posting ∈ machine.events, posting.event.startsOperation = false

/-- A return route is queued only when it can be assigned before any other operation
starts, and an operation is requested in `NM_IDLE`, or a SmartStart inclusion begins,
only when no return route waits or is in progress. -/
def KeepsApart (machine : Machine) : Action -> Prop
  | .call env (.assignReturnRoute nodeId destinationNodeId) =>
      env.isResetOngoing = true ∨
        (findRoute env.clock nodeId destinationNodeId machine.routes).1 = true ∨
        machine.AwaitsRoutes
  | .call _ request =>
      request.startsOperation = true -> machine.nms.state = .idle ->
        hasUnfinished machine.routes = false
  | .callback _ (.learnMode (.started _)) =>
      machine.nms.learnModeIntent = .smartStart -> hasUnfinished machine.routes = false
  | _ => True

/-- No return route waits behind another operation, and none has interrupted one. -/
structure RoutesApart (machine : Machine) : Prop where
  /-- Return routes are left only while they are awaited. -/
  unfinished : hasUnfinished machine.routes = true -> machine.AwaitsRoutes
  /-- No operation was interrupted by one. -/
  interrupted : machine.history.interrupted = []

variable {machine : Machine} {event : Event}

theorem RoutesApart.of_finished (finished : hasUnfinished machine.routes = false)
    (interrupted : machine.history.interrupted = []) : machine.RoutesApart :=
  ⟨fun unfinished => absurd unfinished (by simp [finished]), interrupted⟩

theorem RoutesApart.of_quiet {next : Machine} (apart : machine.RoutesApart)
    (quiet : machine.Quiet next) : next.RoutesApart where
  unfinished unfinished := by
    obtain ⟨more, events, noStart⟩ := quiet.events
    have awaits : machine.AwaitsRoutes := by
      apply apart.unfinished
      by_contra finished
      have stillFinished := quiet.routes (by simpa using finished)
      simp [stillFinished] at unfinished
    refine ⟨quiet.state ▸ awaits.1, fun posting mem => ?_⟩
    rw [events] at mem
    obtain earlier | new := List.mem_append.mp mem
    · exact awaits.2 posting earlier
    · obtain ⟨event, posted, rfl⟩ := List.mem_map.mp new
      exact noStart event posted
  interrupted := by
    rw [quiet.history]
    exact apart.interrupted

section Reactions

variable (env : Surroundings) (nms : Nms) (routes : List Route)

theorem dispatchNodeAddedAfterSelfDestructFail_routes :
    (dispatchNodeAddedAfterSelfDestructFail env nms routes).routes = routes := by
  unfold dispatchNodeAddedAfterSelfDestructFail
  split_ifs <;> rfl

variable (info : LearnInfo)

theorem reactNodeInformation_routes (isController : Bool) :
    (reactNodeInformation nms routes info isController).routes = routes := by
  unfold reactNodeInformation
  split_ifs <;> rfl

theorem reactNodeStatusDone_routes : (reactNodeStatusDone env nms routes).routes = routes := by
  unfold reactNodeStatusDone
  split_ifs <;> rfl

theorem reactKeyChallenge_routes : (reactKeyChallenge env nms routes).routes = routes := by
  unfold reactKeyChallenge
  extract_lets blanked
  split_ifs
  · rfl
  · rfl
  all_goals split <;> rfl

theorem react_routes (event : Event)
    (other : ¬ (nms.state = .idle ∨ nms.state = .assigningReturnRoute)) :
    (react env nms routes info event).routes = routes := by
  push Not at other
  unfold react
  split
  case h_1 idle => exact absurd idle other.1
  case h_16 assigning => exact absurd assigning other.2
  case h_3 =>
    cases event
    case nopSuccess => exact dispatchNodeAddedAfterSelfDestructFail_routes _ _ _
    all_goals rfl
  case h_7 =>
    cases event
    case addController => exact reactNodeInformation_routes _ _ _ _
    case addEndNode => exact reactNodeInformation_routes _ _ _ _
    all_goals rfl
  case h_8 =>
    cases event
    case addNodeStatusDone => exact reactNodeStatusDone_routes _ _ _
    all_goals rfl
  case h_9 =>
    cases event
    case addSecurityKeyChallenge => exact reactKeyChallenge_routes _ _ _
    case securityDone =>
      simp only [reactWaitForSecureAdd]
      split_ifs <;> rfl
    all_goals rfl
  case h_10 =>
    cases event
    case removeFailedFail => exact dispatchNodeAddedAfterSelfDestructFail_routes _ _ _
    case timeout => exact dispatchNodeAddedAfterSelfDestructFail_routes _ _ _
    all_goals rfl
  case h_14 =>
    cases event
    case learnDone =>
      simp only [reactLearnModeStarted]
      split_ifs <;> rfl
    all_goals rfl
  case h_15 =>
    cases event
    case securityDone =>
      simp only [reactWaitForSecureLearn]
      split_ifs <;> rfl
    all_goals rfl
  all_goals
    cases event <;> rfl

theorem react_finished (event : Event) {routes : List Route}
    (finished : hasUnfinished routes = false) :
    hasUnfinished (react env nms routes info event).routes = false := by
  by_cases other : nms.state = .idle ∨ nms.state = .assigningReturnRoute
  · obtain idle | assigning := other
    · simp only [react, idle]
      cases event
      case assignReturnRouteStart =>
        simp only [reactIdle, Reaction.ofNms, assignNext_of_finished env finished]
        exact finished
      all_goals
        simp only [reactIdle]
        first
          | exact finished
          | split_ifs <;> exact finished
    · simp only [react, assigning]
      cases event
      case abort =>
        have cleared := hasUnfinished_clearQueue routes
        simp only [reactAssigningReturnRoute, Reaction.ofNms,
          onAssignReturnRouteComplete_of_finished env cleared]
        exact cleared
      all_goals exact finished
  · rw [react_routes env nms routes info event other]
    exact finished

theorem react_noStart (noStart : event.startsOperation = false)
    (quiet : nms.state = .idle ∨ nms.state = .assigningReturnRoute) :
    ((react env nms routes info event).nms.state = .idle ∨
        (react env nms routes info event).nms.state = .assigningReturnRoute) ∧
      (∀ posted ∈ (react env nms routes info event).posts, posted.startsOperation = false) ∧
      (react env nms routes info event).ending = .afterSwitch := by
  obtain idle | assigning := quiet
  · simp only [react, idle]
    cases event
    case assignReturnRouteStart =>
      simp only [reactIdle, Reaction.ofNms]
      split_ifs <;> simp [idle]
    all_goals
      first
        | exact ⟨.inl idle, by simp [reactIdle, Reaction.ofNms], rfl⟩
        | exact absurd noStart (by decide)
        | exact absurd noStart (by simp [Event.startsOperation])
  · simp only [react, assigning]
    cases event
    case abort =>
      have cleared := hasUnfinished_clearQueue routes
      simp only [reactAssigningReturnRoute, Reaction.ofNms,
        onAssignReturnRouteComplete_of_finished env cleared]
      exact ⟨.inr assigning, by decide, trivial⟩
    case assignReturnRouteCompleted =>
      exact ⟨.inl rfl, by simp [reactAssigningReturnRoute, endOperation, Reaction.ofNms], rfl⟩
    all_goals
      exact ⟨.inr assigning, by simp [reactAssigningReturnRoute, Reaction.ofNms], rfl⟩

end Reactions

section

variable (apart : machine.RoutesApart)

include apart

theorem RoutesApart.fsmPostEvent (env : Surroundings)
    (noStart : hasUnfinished machine.routes = true -> event.startsOperation = false) :
    (machine.fsmPostEvent env event).RoutesApart := by
  by_cases unfinished : hasUnfinished machine.routes = true
  · -- The machine stays where routes are assigned.
    obtain ⟨state, posts, ending⟩ := react_noStart env machine.nms machine.routes
      machine.learnInfo (noStart unfinished) (apart.unfinished unfinished).1
    have goesOn : ¬ machine.endsAtOnce env event := by
      simp [endsAtOnce, reaction, ending]
    have switched : machine.switched env event = machine.apply (machine.reaction env event) := by
      simp [switched, reaction, ending]
    rw [fsmPostEvent_of_not_endsAtOnce goesOn, switched]
    refine ⟨fun _ => ⟨?_, ?_⟩, ?_⟩
    · rw [afterSwitch_state]
      split_ifs
      · exact .inr rfl
      · exact state
    · intro posting mem
      rw [afterSwitch_events] at mem
      obtain earlier | new := List.mem_append.mp mem
      · exact (apart.unfinished unfinished).2 posting earlier
      · obtain ⟨posted, isPosted, rfl⟩ := List.mem_map.mp new
        exact posts posted isPosted
    · rw [afterSwitch_history, assignReturnRoutes_history]
      rw [if_neg (fun interrupts => interrupts.2 state)]
      exact apart.interrupted
  · -- There is no route that could interrupt.
    have finished : hasUnfinished machine.routes = false := by simpa using unfinished
    have stillFinished : hasUnfinished (machine.switched env event).routes = false := by
      unfold switched
      split
      · exact react_finished _ _ _ _ (react_finished _ _ _ _ finished)
      · exact react_finished _ _ _ _ finished
    obtain ⟨added, history⟩ := machine.switched_history env event
    by_cases atOnce : machine.endsAtOnce env event
    · rw [fsmPostEvent_of_endsAtOnce atOnce]
      refine .of_finished stillFinished ?_
      rw [history]
      exact apart.interrupted
    · rw [fsmPostEvent_of_not_endsAtOnce atOnce]
      have nothing := assignNext_of_finished env stillFinished
      refine .of_finished ?_ ?_
      · rw [afterSwitch_routes, nothing]
        exact stillFinished
      · rw [afterSwitch_history, assignReturnRoutes_history, nothing, history]
        simpa using apart.interrupted

/-- A handler starts no operation beside a return route. -/
theorem RoutesApart.handle (env : Surroundings)
    (noStart : hasUnfinished machine.routes = true -> event.startsOperation = false) :
    (machine.handle env event).RoutesApart := by
  obtain ⟨added, aborted, history⟩ := machine.beginPeriod_history
  have begun : machine.beginPeriod.RoutesApart := by
    refine ⟨fun unfinished => ?_, by simpa [history] using apart.interrupted⟩
    rw [beginPeriod_routes] at unfinished
    simpa [AwaitsRoutes] using apart.unfinished unfinished
  have stillNoStart : hasUnfinished machine.beginPeriod.routes = true ->
      event.startsOperation = false := by
    rwa [beginPeriod_routes]
  have handled := begun.fsmPostEvent env stillNoStart
  exact ⟨handled.unfinished, handled.interrupted⟩

/-- Handling the next event keeps the routes apart. -/
theorem RoutesApart.handleNext (env : Surroundings) : (machine.handleNext env).RoutesApart := by
  unfold Machine.handleNext
  split
  · exact apart
  · rename_i posting rest events
    have awaits : hasUnfinished machine.routes = true ->
        ∀ other ∈ posting :: rest, other.event.startsOperation = false := by
      intro unfinished
      rw [← events]
      exact (apart.unfinished unfinished).2
    obtain ⟨starts, updates, noted⟩ := { machine with events := rest }.noteOrigin_eq posting
    rw [noted]
    refine RoutesApart.handle ?_ env ?_
    · refine ⟨fun unfinished => ⟨(apart.unfinished unfinished).1, ?_⟩, apart.interrupted⟩
      intro other mem
      exact awaits unfinished other (List.mem_cons_of_mem posting mem)
    · intro unfinished
      exact awaits unfinished posting List.mem_cons_self

theorem RoutesApart.setDefault
    (finished : machine.nms.state = .idle -> hasUnfinished machine.routes = false) :
    machine.setDefault.RoutesApart := by
  unfold Machine.setDefault
  split_ifs with assigning idle
  · exact .of_finished (hasUnfinished_clearQueue machine.routes) apart.interrupted
  · exact .of_finished (finished idle) apart.interrupted
  · exact apart

theorem RoutesApart.assignReturnRoute (env : Surroundings) (nodeId destinationNodeId : Nat)
    (keeps : machine.KeepsApart (.call env (.assignReturnRoute nodeId destinationNodeId))) :
    (machine.assignReturnRoute env nodeId destinationNodeId).RoutesApart := by
  obtain quiet | ⟨noReset, notFound, routes, queued⟩ :=
    assignReturnRoute_cases env machine nodeId destinationNodeId
  · exact apart.of_quiet quiet
  · have awaits : machine.AwaitsRoutes := by
      obtain reset | found | awaits := keeps
      · simp [noReset] at reset
      · simp [notFound] at found
      · exact awaits
    rw [queued]
    refine ⟨fun _ => ⟨awaits.1, fun posting mem => ?_⟩, apart.interrupted⟩
    obtain earlier | new := List.mem_append.mp mem
    · exact awaits.2 posting earlier
    · obtain rfl := List.mem_singleton.mp new
      rfl

theorem RoutesApart.call (env : Surroundings) {request : Call}
    (keeps : machine.KeepsApart (.call env request)) : (machine.call env request).RoutesApart := by
  obtain quiet | accepts | rfl | ⟨nodeId, destinationNodeId, rfl⟩ := call_cases env machine request
  · exact apart.of_quiet quiet
  · -- An operation is accepted only when no route waits.
    have finished : hasUnfinished machine.routes = false := by
      have starts := accepts.starts
      cases request
      case assignReturnRoute nodeId destinationNodeId => simp [Call.startsOperation] at starts
      all_goals exact keeps starts accepts.idle
    obtain ⟨nms, event, origin, becomes, _⟩ := accepts.becomes
    rw [becomes]
    exact .of_finished finished apart.interrupted
  · exact apart.setDefault (keeps rfl)
  · exact apart.assignReturnRoute env nodeId destinationNodeId keeps

theorem RoutesApart.callback (env : Surroundings)
    {request : Callback} (keeps : machine.KeepsApart (.callback env request)) :
    (machine.callback env request).RoutesApart := by
  have posts : ∀ (nms : Nms) (info : LearnInfo) (event : Event) (origin : Origin),
      nms.state = machine.nms.state -> event.startsOperation = false ->
        ({ machine with nms := nms, learnInfo := info }.post event origin).RoutesApart := by
    intro nms info event origin state noStart
    refine ⟨fun unfinished => ?_, apart.interrupted⟩
    obtain ⟨quiet, queued⟩ := apart.unfinished unfinished
    refine ⟨state ▸ quiet, fun posting mem => ?_⟩
    obtain earlier | new := List.mem_append.mp mem
    · exact queued posting earlier
    · obtain rfl := List.mem_singleton.mp new
      exact noStart
  obtain quiet | ⟨status, info, rfl⟩ | ⟨bSource, rfl⟩ | ⟨bSource, rfl⟩ :=
    callback_cases env machine request
  · exact apart.of_quiet quiet
  · exact posts _ _ _ _ rfl (by cases status <;> rfl)
  · simp only [Machine.callback, onLearnMode]
    by_cases smartStart : machine.nms.learnModeIntent = .smartStart
    · rw [if_pos smartStart]
      exact .of_finished (keeps smartStart) apart.interrupted
    · rw [if_neg smartStart]
      exact posts _ _ _ _ rfl rfl
  · simp only [Machine.callback, onRemoveNodeStatusUpdate]
    split_ifs
    · exact posts _ _ _ _ rfl rfl
    · exact ⟨apart.unfinished, apart.interrupted⟩

/-- Every step that keeps operations apart keeps the invariant. -/
theorem RoutesApart.step {action : Action}
    (keeps : machine.KeepsApart action) : (machine.step action).RoutesApart := by
  cases action with
  | call env request => exact apart.call env keeps
  | callback env request => exact apart.callback env keeps
  | handleNext env => exact apart.handleNext env
  | timerExpires =>
    simp only [Machine.step, timerExpires]
    split
    · exact ⟨apart.unfinished, apart.interrupted⟩
    · exact apart
  | timerCallback env =>
    simp only [Machine.step, timerCallback]
    split
    · exact apart
    · have idle : { machine with expired := none }.RoutesApart :=
        ⟨apart.unfinished, apart.interrupted⟩
      have handled := idle.handle env fun _ => (rfl : Event.timeout.startsOperation = _)
      exact ⟨handled.unfinished, handled.interrupted⟩

end

/-- In every run that requests return routes and other operations one after the other,
no return route takes the machine out of another operation. -/
theorem interrupted_run (env : Surroundings) (actions : List Action)
    (keeps : StepsMeet step KeepsApart (initial env) actions) :
    (run step (initial env) actions).history.interrupted = [] := by
  have start : (initial env).RoutesApart := .of_finished rfl rfl
  exact (keeps.invariant RoutesApart (fun _ _ apart => apart.step) start).interrupted

/-- A return route is assigned, and a node is added after it. -/
def routeThenInclusion : List Action :=
  [.call .accepting (.assignReturnRoute 5 1),
    .handleNext .accepting,
    .callback .accepting .assignReturnRouteComplete,
    .handleNext .accepting,
    .call .accepting .addNode,
    .handleNext .accepting]

theorem interrupted_run_routeThenInclusion :
    (run step (initial .accepting) routeThenInclusion).nms.state = .waitingForAdd ∧
      (run step (initial .accepting) routeThenInclusion).history.interrupted = [] := by
  refine ⟨by decide, interrupted_run _ _ ?_⟩
  refine ⟨.inr (.inr ⟨.inl rfl, ?_⟩), trivial, trivial, trivial, ?_, trivial, trivial⟩
  · exact fun posting mem => absurd mem List.not_mem_nil
  · exact fun _ _ => by decide

/-- A return route is requested while a node is added: the handling of its event takes
the machine out of the inclusion. -/
theorem not_interrupted_run :
    ¬ ∀ env actions, (run step (initial env) actions).history.interrupted = [] := by
  intro never
  have interrupted : (run step (initial .accepting)
      [.call .accepting .addNode,
        .call .accepting (.assignReturnRoute 5 1),
        .handleNext .accepting]).history.interrupted = [.waitingForAdd] := by
    decide
  exact absurd ((never _ _).symm.trans interrupted) (by decide)

end Machine

end NetworkManagement
