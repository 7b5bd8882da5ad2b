import Zpc.NetworkManagement.Calls

/-!
# The parameters of requests

An accepted request leaves its parameters in `nms` and its event in the queue.
Between the two, an event that is handled in `NM_IDLE` wipes the parameters, and
another request or a callback may write over them.  A request that finds no event
queued, and that no timeout and no callback gets in the way of, starts with its own
parameters.
-/

namespace NetworkManagement

open Foundation

/-- The request behind an event. -/
def Posting.request? (posting : Posting) : Option Request :=
  match posting.origin with
  | .request request => some request
  | _ => none

/-- The node that a request leaves in `nms.node_id_being_handled`. -/
def Request.nodeId? : Request -> Option Nat
  | .removeFailed nodeId => some nodeId
  | .startProxyInclusion nodeId _ _ => some nodeId
  | _ => none

theorem Request.found_withNodeId {request : Request} {nms : Nms} {nodeId : Nat}
    (found : request.found nms = request) (same : ∀ asked ∈ request.nodeId?, asked = nodeId) :
    request.found { nms with nodeIdBeingHandled := nodeId } = request := by
  cases request with
  | removeFailed asked =>
    have eq : asked = nodeId := same asked rfl
    simp [Request.found, eq]
  | removeNode | learnMode => exact found
  | startProxyInclusion asked nodeInfo inclusionStep =>
    have eq : asked = nodeId := same asked rfl
    simp only [Request.found, Request.startProxyInclusion.injEq] at found ⊢
    exact ⟨eq.symm, found.2⟩

namespace Machine

/-- The requests whose events are queued. -/
def pendingRequests (machine : Machine) : List Request := machine.events.filterMap Posting.request?

/-- A request is made only when no event is queued.  While its event is queued, no
timer callback runs, and no callback writes another node id. -/
def KeepsParameters (machine : Machine) : Action -> Prop
  | .call env request =>
      request.isRequest = true -> machine.isReadyForANewOperation env = true -> machine.events = []
  | .callback _ (.learnMode (.started bSource)) =>
      ∀ request ∈ machine.pendingRequests, ∀ nodeId ∈ request.nodeId?, nodeId = bSource
  | .callback _ (.removeNodeStatusUpdate (.removing bSource)) =>
      ∀ request ∈ machine.pendingRequests, ∀ nodeId ∈ request.nodeId?, nodeId = bSource
  | .timerCallback _ => machine.expired = none ∨ machine.pendingRequests = []
  | _ => True

/-- A queued request comes next, and finds its parameters if the machine is idle
then; so did the requests that were started. -/
structure RequestsKept (machine : Machine) : Prop where
  /-- Only the next event can be a request. -/
  next : ∀ posting ∈ machine.events.tail, posting.request? = none
  /-- A queued request still has its parameters. -/
  kept : ∀ request ∈ machine.pendingRequests,
    machine.nms.state ≠ .assigningReturnRoute ∧
      (machine.nms.state = .idle -> request.found machine.nms = request)
  /-- Each operation started with those it was asked for. -/
  started : ∀ start ∈ machine.history.starts, start.2 = start.1

theorem pendingRequests_eq_nil_iff (machine : Machine) :
    machine.pendingRequests = [] ↔ ∀ posting ∈ machine.events, posting.request? = none := by
  simp [pendingRequests]

variable (env : Surroundings) {machine next : Machine} {more : List Posting}
  {request : Call}

theorem pendingRequests_append (events : next.events = machine.events ++ more)
    (noRequest : ∀ posting ∈ more, posting.request? = none) :
    next.pendingRequests = machine.pendingRequests := by
  have none : more.filterMap Posting.request? = [] := by
    simpa using noRequest
  rw [pendingRequests, events, List.filterMap_append, none, List.append_nil]
  rfl

theorem RequestsKept.of_none (none : machine.pendingRequests = [])
    (started : ∀ start ∈ machine.history.starts, start.2 = start.1) : machine.RequestsKept where
  next posting mem :=
    (pendingRequests_eq_nil_iff machine).mp none posting (List.mem_of_mem_tail mem)
  kept request mem := by
    rw [none] at mem
    exact absurd mem List.not_mem_nil
  started := started

theorem RequestsKept.of_append (requests : machine.RequestsKept)
    (events : next.events = machine.events ++ more)
    (noRequest : ∀ posting ∈ more, posting.request? = none)
    (kept : ∀ request ∈ machine.pendingRequests,
      next.nms.state ≠ .assigningReturnRoute ∧
        (next.nms.state = .idle -> request.found next.nms = request))
    (starts : next.history.starts = machine.history.starts) :
    next.RequestsKept where
  next posting mem := by
    rw [events] at mem
    cases queue : machine.events with
    | nil =>
      rw [queue] at mem
      exact noRequest posting (List.mem_of_mem_tail mem)
    | cons first rest =>
      rw [queue] at mem
      obtain earlier | new := List.mem_append.mp mem
      · exact requests.next posting (by rw [queue]; exact earlier)
      · exact noRequest posting new
  kept := by
    rw [pendingRequests_append events noRequest]
    exact kept
  started := by
    rw [starts]
    exact requests.started

theorem RequestsKept.of_quiet (requests : machine.RequestsKept) (quiet : machine.Quiet next) :
    next.RequestsKept := by
  obtain ⟨more, events, _⟩ := quiet.events
  refine requests.of_append events (by simp [Posting.request?]) ?_ (by rw [quiet.history])
  intro request mem
  rw [quiet.state, quiet.found]
  exact requests.kept request mem

section

variable (requests : machine.RequestsKept)
include requests

theorem RequestsKept.accepts {env : Surroundings} (accepts : machine.Accepts env request next)
    (keeps : machine.KeepsParameters (.call env request)) : next.RequestsKept := by
  have idle := accepts.idle
  obtain ⟨nms, event, origin, becomes, state, _, written⟩ := accepts.becomes
  rw [becomes]
  obtain ⟨rfl, rfl⟩ | ⟨isRequest, asked, rfl, found⟩ := written
  · refine requests.of_append rfl (by simp [Posting.request?]) ?_ rfl
    exact requests.kept
  · -- The request is alone in the queue.
    have empty : machine.events = [] := keeps isRequest accepts.ready
    refine ⟨by simp [post, withNms, empty], fun other mem => ?_, requests.started⟩
    simp only [pendingRequests, post, withNms, empty, List.nil_append, Posting.request?,
      List.filterMap_cons, List.filterMap_nil, List.mem_singleton] at mem
    subst mem
    refine ⟨?_, fun _ => found⟩
    simp [post, state, idle]

theorem RequestsKept.setDefault : machine.setDefault.RequestsKept := by
  unfold Machine.setDefault
  split_ifs with assigning idle
  · -- No request waits while return routes are assigned.
    refine requests.of_append rfl (by simp [Posting.request?]) ?_ rfl
    intro request mem
    exact absurd assigning (requests.kept request mem).1
  · exact requests.of_append rfl (by simp [Posting.request?]) requests.kept rfl
  · exact requests

theorem RequestsKept.call (env : Surroundings)
    (keeps : machine.KeepsParameters (.call env request)) :
    (machine.call env request).RequestsKept := by
  obtain quiet | accepts | rfl | ⟨nodeId, destinationNodeId, rfl⟩ := call_cases env machine request
  · exact requests.of_quiet quiet
  · exact requests.accepts accepts keeps
  · exact requests.setDefault
  · simp only [call]
    obtain quiet | ⟨_, _, routes, queued⟩ :=
      assignReturnRoute_cases env machine nodeId destinationNodeId
    · exact requests.of_quiet quiet
    · rw [queued]
      exact requests.of_append rfl (by simp [Posting.request?]) requests.kept rfl

theorem RequestsKept.callback (env : Surroundings)
    {request : Callback} (keeps : machine.KeepsParameters (.callback env request)) :
    (machine.callback env request).RequestsKept := by
  obtain quiet | ⟨status, info, rfl⟩ | ⟨bSource, rfl⟩ | ⟨bSource, rfl⟩ :=
    callback_cases env machine request
  · exact requests.of_quiet quiet
  · exact requests.of_append rfl (by simp [Posting.request?]) requests.kept rfl
  · simp only [Machine.callback, onLearnMode]
    by_cases smartStart : machine.nms.learnModeIntent = .smartStart
    · rw [if_pos smartStart]
      refine requests.of_append rfl (by simp [Posting.request?]) ?_ rfl
      exact fun _ _ => ⟨by simp, by simp⟩
    · rw [if_neg smartStart]
      refine requests.of_append rfl (by simp [Posting.request?]) ?_ rfl
      intro asked mem
      obtain ⟨other, found⟩ := requests.kept asked mem
      exact ⟨other, fun idle => Request.found_withNodeId (found idle) (keeps asked mem)⟩
  · simp only [Machine.callback, onRemoveNodeStatusUpdate]
    split_ifs
    · exact requests.of_append rfl (by simp [Posting.request?]) requests.kept rfl
    · refine requests.of_append (List.append_nil _).symm (by simp) ?_ rfl
      intro asked mem
      obtain ⟨other, found⟩ := requests.kept asked mem
      exact ⟨other, fun idle => Request.found_withNodeId (found idle) (keeps asked mem)⟩

end

/-- Handlers queue no requests. -/
theorem pendingRequests_handle (machine : Machine) (event : Event) :
    (machine.handle env event).pendingRequests = machine.pendingRequests := by
  obtain ⟨posts, events⟩ := machine.handle_events env event
  exact pendingRequests_append events (by simp [Posting.request?])

theorem RequestsKept.started_noteOrigin (requests : machine.RequestsKept) {posting : Posting}
    {rest : List Posting} (events : machine.events = posting :: rest) :
    ∀ start ∈ ({ machine with events := rest }.noteOrigin posting).history.starts,
      start.2 = start.1 := by
  unfold noteOrigin
  split
  · exact requests.started
  · rename_i request origin
    split_ifs with idle
    · have pending : request ∈ machine.pendingRequests := by
        simp [pendingRequests, events, Posting.request?, origin]
      intro start mem
      obtain earlier | new := List.mem_append.mp mem
      · exact requests.started start earlier
      · obtain rfl := List.mem_singleton.mp new
        exact (requests.kept request pending).2 idle
    · exact requests.started
  · split_ifs <;> exact requests.started

/-- Handling the next event leaves the parameters of queued requests alone. -/
theorem RequestsKept.handleNext (requests : machine.RequestsKept) (env : Surroundings) :
    (machine.handleNext env).RequestsKept := by
  unfold Machine.handleNext
  split
  · exact requests
  · rename_i posting rest events
    have started := requests.started_noteOrigin events
    obtain ⟨starts, updates, noted⟩ := { machine with events := rest }.noteOrigin_eq posting
    refine .of_none ?_ ?_
    · rw [pendingRequests_handle, noted, pendingRequests_eq_nil_iff]
      intro other mem
      exact requests.next other (by rw [events]; exact mem)
    · rw [(handle_history env _ _).1]
      exact started

/-- Every step that spares the parameters keeps the requests. -/
theorem RequestsKept.step (requests : machine.RequestsKept) {action : Action}
    (keeps : machine.KeepsParameters action) : (machine.step action).RequestsKept := by
  cases action with
  | call env request => exact requests.call env keeps
  | callback env request => exact requests.callback env keeps
  | handleNext env => exact requests.handleNext env
  | timerExpires =>
    simp only [Machine.step, timerExpires]
    split
    · exact ⟨requests.next, requests.kept, requests.started⟩
    · exact requests
  | timerCallback env =>
    simp only [Machine.step, timerCallback]
    split
    · exact requests
    · rename_i setting expired
      obtain idle | noneQueued := keeps
      · simp [expired] at idle
      · have handled := pendingRequests_handle env { machine with expired := none }
          .timeout
        refine .of_none (handled.trans noneQueued) ?_
        rw [(handle_history env _ _).1]
        exact requests.started

/-- In every run in which a request finds no event queued, and neither a timeout nor
another node id comes before its event is handled, every request that starts in
`NM_IDLE` starts with its own parameters. -/
theorem starts_run (env : Surroundings) (actions : List Action)
    (keeps : StepsMeet step KeepsParameters (initial env) actions) :
    ∀ start ∈ (run step (initial env) actions).history.starts, start.2 = start.1 := by
  have first : (initial env).RequestsKept := .of_none rfl (by simp [initial])
  exact (keeps.invariant RequestsKept (fun _ _ requests => requests.step) first).started

theorem starts_run_removeNode :
    (run step (initial .accepting)
        [.call .accepting (.removeNode 5), .handleNext .accepting]).history.starts =
      [(.removeNode 5, .removeNode 5)] ∧
      ∀ start ∈ (run step (initial .accepting)
        [.call .accepting (.removeNode 5), .handleNext .accepting]).history.starts,
        start.2 = start.1 := by
  refine ⟨by decide, starts_run _ _ ⟨?_, trivial, trivial⟩⟩
  exact fun _ _ => rfl

/-- SmartStart is enabled just before the exclusion of node 5 is requested.  The event
of SmartStart wipes the filter, and every node may be excluded. -/
theorem not_starts_run :
    ¬ ∀ env actions,
      ∀ start ∈ (run step (initial env) actions).history.starts, start.2 = start.1 := by
  intro kept
  have started : (run step (initial .accepting)
      [.call .accepting (.enableSmartStartAddMode true),
        .call .accepting (.removeNode 5),
        .handleNext .accepting,
        .handleNext .accepting]).history.starts = [(.removeNode 5, .removeNode 0)] := by
    decide
  have same := kept .accepting _ _ (started ▸ List.mem_singleton_self _)
  exact absurd same (by decide)

end Machine

end NetworkManagement
