import Zpc.NetworkManagement.Effects

/-!
# What calls and callbacks do

Most calls and callbacks write variables that no operation starts with and post
events that start none.  The others are accepted requests, `set_default`, return
routes that are queued, and the callbacks that write the node id or the information
of a status update.
-/

namespace NetworkManagement

/-- The events that start an operation in `NM_IDLE`. -/
def Event.startsOperation : Event -> Bool
  | .learnSet => true
  | .setDefault => true
  | .removeFailed => true
  | .nodeAddSmartStart _ => true
  | .nodeRemove => true
  | .nodeAdd => true
  | .requestNodeNeighborRequest _ => true
  | .startProxyInclusion => true
  | _ => false

/-- The calls that ask for an operation other than a return route. -/
def Machine.Call.startsOperation : Machine.Call -> Bool
  | .addNodeWithDsk _ => true
  | .setDefault => true
  | .removeFailed _ => true
  | .removeNode _ => true
  | .addNode => true
  | .learnMode mode => mode ≠ .none
  | .requestNodeNeighborDiscovery _ => true
  | .startProxyInclusion _ _ _ => true
  | _ => false

/-- A return route waits or is in progress. -/
def hasUnfinished (routes : List Route) : Bool := routes.any Route.isUnfinished

variable (env : Surroundings) {routes : List Route}

theorem state_of_hasUnfinished_eq_false (finished : hasUnfinished routes = false) :
    ∀ route ∈ routes, route.state ≠ .notEstablished ∧ route.state ≠ .inProgress := by
  simpa [hasUnfinished, Route.isUnfinished] using finished

theorem hasUnfinished_clearQueue (routes : List Route) :
    hasUnfinished (clearQueue routes) = false := by
  simp [hasUnfinished, clearQueue, Route.isUnfinished, Route.cleared]

theorem assignFirst_of_finished (finished : ∀ route ∈ routes, route.state ≠ .notEstablished) :
    assignFirst env routes = (false, routes) := by
  induction routes with
  | nil => rfl
  | cons route rest ih =>
    have same := ih fun other mem => finished other (List.mem_cons_of_mem route mem)
    rw [assignFirst, if_neg (finished route List.mem_cons_self), same]

theorem assignNext_of_finished (finished : hasUnfinished routes = false) :
    assignNext env routes = (false, routes) := by
  have states := state_of_hasUnfinished_eq_false finished
  unfold assignNext
  rw [if_neg (by simpa using fun route mem => (states route mem).2)]
  exact assignFirst_of_finished env fun route mem => (states route mem).1

theorem onAssignReturnRouteComplete_of_finished (finished : hasUnfinished routes = false) :
    onAssignReturnRouteComplete env routes = (routes, [.assignReturnRouteCompleted]) := by
  have states := state_of_hasUnfinished_eq_false finished
  have same : (routes.map fun route =>
      if route.state = .inProgress then route.establish env.clock else route) = routes := by
    conv_rhs => rw [← List.map_id routes]
    apply List.map_congr_left
    intro route mem
    rw [if_neg (states route mem).2, id]
  unfold onAssignReturnRouteComplete
  dsimp only
  rw [same, assignNext_of_finished env finished]
  rfl

namespace Machine

variable (env : Surroundings) (machine : Machine) {routes : List Route} {nms : Nms}
  {event : Event} {request : Call}

theorem hasUnfinished_findRoute (clock nodeId destinationNodeId : Nat)
    (finished : hasUnfinished routes = false) :
    hasUnfinished (findRoute clock nodeId destinationNodeId routes).2 = false := by
  induction routes with
  | nil => rfl
  | cons route rest ih =>
    simp only [hasUnfinished, List.any_cons, Bool.or_eq_false_iff] at finished
    have reusable : Route.isUnfinished
        (if route.state = .established ∧ route.reuseTimestamp < clock then .cleared
          else route) = false := by
      split_ifs
      · rfl
      · exact finished.1
    have later := ih finished.2
    simp only [hasUnfinished] at later
    simp only [findRoute]
    split_ifs
    all_goals simp_all [hasUnfinished]

/-- Variables are written that no operation starts with, and events are posted that
start none.  The result of a security bootstrapping is written only where one is
waited for. -/
structure Quiet (machine next : Machine) : Prop where
  state : next.nms.state = machine.nms.state
  found : ∀ request : Request, request.found next.nms = request.found machine.nms
  kexFailType : next.nms.kexFailType = machine.nms.kexFailType ∨
    machine.nms.state = .waitForSecureAdd ∨ machine.nms.state = .waitForSecureLearn
  routes : hasUnfinished machine.routes = false -> hasUnfinished next.routes = false
  learnInfo : next.learnInfo = machine.learnInfo
  timer : next.timer = machine.timer
  expired : next.expired = machine.expired
  timerOperations : next.timerOperations = machine.timerOperations
  history : next.history = machine.history
  events : ∃ more : List Event,
    next.events = machine.events ++ more.map (fun event => ⟨event, .internal⟩) ∧
      ∀ event ∈ more, event.startsOperation = false

theorem Quiet.refl : machine.Quiet machine where
  state := rfl
  found _ := rfl
  kexFailType := .inl rfl
  routes := id
  learnInfo := rfl
  timer := rfl
  expired := rfl
  timerOperations := rfl
  history := rfl
  events := ⟨[], by simp, by simp⟩

/-- The variables an operation starts with are not written. -/
structure SameForOperations (nms next : Nms) : Prop where
  state : next.state = nms.state
  found : ∀ request : Request, request.found next = request.found nms
  kexFailType : next.kexFailType = nms.kexFailType ∨
    nms.state = .waitForSecureAdd ∨ nms.state = .waitForSecureLearn

theorem SameForOperations.of_found {next : Nms} (state : next.state = nms.state)
    (kexFailType : next.kexFailType = nms.kexFailType)
    (found : ∀ request : Request, request.found next = request.found nms) :
    SameForOperations nms next :=
  ⟨state, found, .inl kexFailType⟩

theorem SameForOperations.refl (nms : Nms) : SameForOperations nms nms :=
  ⟨rfl, fun _ => rfl, .inl rfl⟩

theorem Quiet.withNms_post (same : SameForOperations machine.nms nms)
    (noStart : event.startsOperation = false) :
    machine.Quiet ((machine.withNms nms).post event .internal) :=
  { Quiet.refl machine with
    state := same.state
    found := same.found
    kexFailType := same.kexFailType
    events := ⟨[event], rfl, by simpa using noStart⟩ }

theorem Quiet.post (noStart : event.startsOperation = false) :
    machine.Quiet (machine.post event .internal) :=
  .withNms_post machine (.refl machine.nms) noStart

theorem Quiet.withNms (same : SameForOperations machine.nms nms) :
    machine.Quiet (machine.withNms nms) :=
  { Quiet.refl machine with
    state := same.state
    found := same.found
    kexFailType := same.kexFailType }

theorem Quiet.withRoutes {posts : List Event}
    (finished : hasUnfinished machine.routes = false -> hasUnfinished routes = false)
    (noStart : ∀ event ∈ posts, event.startsOperation = false) :
    machine.Quiet
      { machine with
        routes := routes
        events := machine.events ++ posts.map fun event => ⟨event, .internal⟩ } :=
  { Quiet.refl machine with
    routes := finished
    events := ⟨posts, rfl, noStart⟩ }

/-- The calls that leave parameters of a request in `nms`. -/
def Call.isRequest : Call -> Bool
  | .removeFailed _ => true
  | .removeNode _ => true
  | .learnMode mode => mode ≠ .none
  | .startProxyInclusion _ _ _ => true
  | _ => false

/-- A call is accepted in `NM_IDLE`: its parameters are written, and an event is
posted that starts its operation. -/
structure Accepts
    (env : Surroundings)
    (machine : Machine)
    (request : Call)
    (next : Machine) : Prop where
  starts : request.startsOperation = true
  ready : machine.isReadyForANewOperation env = true
  becomes : ∃ nms event origin, next = (machine.withNms nms).post event origin ∧
    nms.state = machine.nms.state ∧ nms.kexFailType = machine.nms.kexFailType ∧
    (nms = machine.nms ∧ origin = .internal ∨
      request.isRequest = true ∧ ∃ asked, origin = .request asked ∧ asked.found nms = asked)

theorem Accepts.idle {env : Surroundings} {machine next : Machine}
    (accepts : machine.Accepts env request next) : machine.nms.state = .idle := by
  have ready := accepts.ready
  simp only [isReadyForANewOperation, Bool.and_eq_true, decide_eq_true_eq] at ready
  exact ready.1

theorem accept_internal (event : Event) (starts : request.startsOperation = true) (other : Prop) :
    machine.Quiet (machine.accept env machine.nms event .internal) ∨
      machine.Accepts env request
        (machine.accept env machine.nms event .internal) ∨
      other := by
  unfold accept
  split_ifs with ready
  · exact .inr (.inl ⟨starts, ready, _, event, _, rfl, rfl, rfl, .inl ⟨rfl, rfl⟩⟩)
  · exact .inl (.refl machine)

theorem accept_request (event : Event) {asked : Request} (starts : request.startsOperation = true)
    (isRequest : request.isRequest = true) (state : nms.state = machine.nms.state)
    (kexFailType : nms.kexFailType = machine.nms.kexFailType) (found : asked.found nms = asked)
    (other : Prop) :
    machine.Quiet (machine.accept env nms event (.request asked)) ∨
      machine.Accepts env request
        (machine.accept env nms event (.request asked)) ∨
      other := by
  unfold accept
  split_ifs with ready
  · exact .inr (.inl ⟨starts, ready, nms, event, _, rfl, state, kexFailType,
      .inr ⟨isRequest, asked, rfl, found⟩⟩)
  · exact .inl (.refl machine)

theorem call_cases (request : Call) :
    machine.Quiet (machine.call env request) ∨
      machine.Accepts env request (machine.call env request) ∨
      request = .setDefault ∨
      ∃ nodeId destinationNodeId, request = .assignReturnRoute nodeId destinationNodeId := by
  cases request with
  | enableSmartStartAddMode | enableSmartStartLearnMode =>
    exact .inl (.withNms_post machine (.of_found rfl rfl (by rintro ⟨⟩ <;> rfl)) rfl)
  | addNodeWithDsk | addNode | requestNodeNeighborDiscovery =>
    exact accept_internal env machine _ rfl _
  | setDefault => exact .inr (.inr (.inl rfl))
  | removeFailed nodeId =>
    simp only [call]
    split_ifs
    · apply accept_request <;> rfl
    · exact .inl (.refl machine)
  | removeNode nodeId =>
    simp only [call]
    split_ifs
    · exact .inl (.refl machine)
    · apply accept_request <;> rfl
  | abort =>
    simp only [call, abort]
    split_ifs
    · exact .inl (.refl machine)
    · exact .inl (.post machine rfl)
  | keysSet | dskSet =>
    simp only [call]
    split_ifs
    · exact .inl (.withNms_post machine (.of_found rfl rfl (by rintro ⟨⟩ <;> rfl)) rfl)
    · exact .inl (.refl machine)
  | learnMode mode =>
    simp only [call]
    split_ifs with off
    · exact .inl (.post machine rfl)
    · exact .inl (.refl machine)
    · have starts : (Call.learnMode mode).startsOperation = true := by
        simpa [Call.startsOperation] using off
      apply accept_request _ _ _ starts starts <;> rfl
  | startProxyInclusion nodeId nodeInfo inclusionStep => apply accept_request <;> rfl
  | assignReturnRoute nodeId destinationNodeId =>
    exact .inr (.inr (.inr ⟨nodeId, destinationNodeId, rfl⟩))

theorem assignReturnRoute_cases (nodeId destinationNodeId : Nat) :
    machine.Quiet (machine.assignReturnRoute env nodeId destinationNodeId) ∨
      (env.isResetOngoing = false ∧
        (findRoute env.clock nodeId destinationNodeId machine.routes).1 = false ∧
        ∃ routes, machine.assignReturnRoute env nodeId destinationNodeId =
          { machine with routes := routes }.post .assignReturnRouteStart .internal) := by
  have searched : machine.Quiet
      { machine with
        routes := (findRoute env.clock nodeId destinationNodeId machine.routes).2 } := by
    simpa using Quiet.withRoutes machine
      (hasUnfinished_findRoute env.clock nodeId destinationNodeId)
      (List.forall_mem_nil fun event => Event.startsOperation event = false)
  unfold assignReturnRoute
  extract_lets found inserted
  split_ifs with reset isFound isInserted
  · exact .inl (.refl machine)
  · exact .inl searched
  · exact .inr ⟨by simpa using reset, by simpa using isFound, _, rfl⟩
  · exact .inl searched

theorem quiet_assignReturnRouteComplete :
    machine.Quiet (machine.callback env .assignReturnRouteComplete) := by
  apply Quiet.withRoutes
  · intro finished
    rw [onAssignReturnRouteComplete_of_finished env finished]
    exact finished
  · intro event posted
    simp only [onAssignReturnRouteComplete] at posted
    split_ifs at posted
    · simp at posted
    · obtain rfl := List.mem_singleton.mp posted
      rfl

theorem callback_cases (request : Callback) :
    machine.Quiet (machine.callback env request) ∨
      (∃ status info, request = .addNodeStatusUpdate status info) ∨
      (∃ bSource, request = .learnMode (.started bSource)) ∨
      ∃ bSource, request = .removeNodeStatusUpdate (.removing bSource) := by
  cases request with
  | addNodeStatusUpdate status info => exact .inr (.inl ⟨status, info, rfl⟩)
  | secureInclusionComplete grantedKeys kexFail =>
    simp only [callback, onSecureInclusionComplete]
    by_cases waits : machine.nms.state = .waitForSecureAdd ∨ machine.nms.state = .waitForSecureLearn
    · rw [if_pos waits]
      exact .inl (.withNms_post machine
        ⟨rfl, fun request => by cases request <;> rfl, .inr waits⟩ rfl)
    · rw [if_neg waits]
      exact .inl (.refl machine)
  | keysRequest | dskChallenge =>
    simp only [callback]
    split_ifs
    · exact .inl (.withNms_post machine (.of_found rfl rfl (by rintro ⟨⟩ <;> rfl)) rfl)
    · exact .inl (.refl machine)
  | s2InclusionStarted => exact .inl (.withNms machine (.of_found rfl rfl (by rintro ⟨⟩ <;> rfl)))
  | removeFailedStatusUpdate isRemoved => exact .inl (.post machine (by cases isRemoved <;> rfl))
  | removeNodeStatusUpdate status =>
    cases status with
    | removing bSource => exact .inr (.inr (.inr ⟨bSource, rfl⟩))
    | done | failed => exact .inl (.post machine rfl)
  | nopSendDone isSuccessful => exact .inl (.post machine (by cases isSuccessful <;> rfl))
  | learnMode status =>
    cases status with
    | started bSource => exact .inr (.inr (.inl ⟨bSource, rfl⟩))
    | done | failed => exact .inl (.post machine rfl)
  | setDefaultComplete | requestNodeNeighborUpdateCompleted => exact .inl (.post machine rfl)
  | assignReturnRouteComplete => exact .inl (quiet_assignReturnRouteComplete env machine)
  | zwaveApiStarted =>
    simp only [callback, abort]
    split_ifs
    · exact .inl (.post machine rfl)
    · exact .inl (.refl machine)
    · exact .inl (.post machine rfl)

end Machine

end NetworkManagement
