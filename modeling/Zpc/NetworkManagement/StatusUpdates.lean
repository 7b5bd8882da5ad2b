import Zpc.NetworkManagement.Calls

/-!
# Status updates of an inclusion

`add_node_status_update` keeps the information of a status update in one variable,
and the event it posts only points there.  The event is handled with the
information of the update that came last.
-/

namespace NetworkManagement

open Foundation

/-- The events that are handled with the information of a node. -/
def Event.HasNode (event : Event) : Prop := event = .addController ∨ event = .addEndNode

instance (event : Event) : Decidable event.HasNode :=
  inferInstanceAs (Decidable (event = .addController ∨ event = .addEndNode))

namespace Machine

/-- A status update finds no event queued that is to be handled with other
information, and an update with a node has information that fits into
`NODE_INFO_MAX_SIZE`. -/
def KeepsInformation (machine : Machine) : Action -> Prop
  | .callback _ (.addNodeStatusUpdate status info) =>
      (∀ posting ∈ machine.events, posting.event.HasNode ->
        ∀ earlier, posting.origin = .statusUpdate earlier -> earlier = backUp info) ∧
      ((eventForLearnStatus status).HasNode -> info.bLen ≤ nodeInfoMaxSize)
  | _ => True

/-- Every event with a node was and will be handled with the information of the
update that posted it. -/
structure Informed (machine : Machine) : Prop where
  /-- What is queued will be handled with its own update. -/
  queued : ∀ posting ∈ machine.events, posting.event.HasNode ->
    ∀ info, posting.origin = .statusUpdate info -> info = machine.learnInfo
  /-- What was handled was. -/
  handled : ∀ update ∈ machine.history.updates, update.2 = update.1

/-- Nothing happens but that events are posted that are no status updates. -/
structure PostsOther (machine next : Machine) : Prop where
  learnInfo : next.learnInfo = machine.learnInfo
  updates : next.history.updates = machine.history.updates
  events : ∃ more, next.events = machine.events ++ more ∧
    ∀ posting ∈ more, ∀ info, posting.origin ≠ .statusUpdate info

variable (env : Surroundings) {machine next : Machine}

theorem PostsOther.of_same (learnInfo : next.learnInfo = machine.learnInfo)
    (updates : next.history.updates = machine.history.updates)
    (events : next.events = machine.events) : machine.PostsOther next :=
  ⟨learnInfo, updates, [], by rw [events, List.append_nil], by simp⟩

theorem PostsOther.of_post (learnInfo : next.learnInfo = machine.learnInfo)
    (updates : next.history.updates = machine.history.updates) {event : Event} {origin : Origin}
    (events : next.events = machine.events ++ [⟨event, origin⟩])
    (other : ∀ info, origin ≠ .statusUpdate info) : machine.PostsOther next :=
  ⟨learnInfo, updates, [⟨event, origin⟩], events, by simpa using other⟩

theorem Informed.of_postsOther (informed : machine.Informed) (posts : machine.PostsOther next) :
    next.Informed where
  queued posting mem hasNode info origin := by
    obtain ⟨more, events, other⟩ := posts.events
    rw [events] at mem
    rw [posts.learnInfo]
    obtain earlier | later := List.mem_append.mp mem
    · exact informed.queued posting earlier hasNode info origin
    · exact absurd origin (other posting later info)
  handled := by
    rw [posts.updates]
    exact informed.handled

/-- Handlers post no status updates. -/
theorem postsOther_handle (machine : Machine) (event : Event) :
    machine.PostsOther (machine.handle env event) where
  learnInfo := machine.handle_learnInfo env event
  updates := (machine.handle_history env event).2.1
  events := by
    obtain ⟨posts, events⟩ := machine.handle_events env event
    exact ⟨_, events, by simp⟩

theorem PostsOther.of_quiet (quiet : machine.Quiet next) : machine.PostsOther next where
  learnInfo := quiet.learnInfo
  updates := by rw [quiet.history]
  events := by
    obtain ⟨more, events, _⟩ := quiet.events
    exact ⟨_, events, by simp⟩

theorem postsOther_setDefault (machine : Machine) : machine.PostsOther machine.setDefault := by
  unfold setDefault
  split_ifs
  · exact .of_post rfl rfl rfl (by simp)
  · exact .of_post rfl rfl rfl (by simp)
  · exact .of_quiet (.refl machine)

theorem postsOther_call (machine : Machine) (request : Call) :
    machine.PostsOther (machine.call env request) := by
  obtain quiet | accepts | rfl | ⟨nodeId, destinationNodeId, rfl⟩ := call_cases env machine request
  · exact .of_quiet quiet
  · obtain ⟨nms, event, origin, becomes, _, _, written⟩ := accepts.becomes
    rw [becomes]
    refine .of_post rfl rfl rfl ?_
    obtain ⟨_, rfl⟩ | ⟨_, asked, rfl, _⟩ := written
    all_goals simp
  · exact postsOther_setDefault machine
  · simp only [call]
    obtain quiet | ⟨_, _, routes, queued⟩ :=
      assignReturnRoute_cases env machine nodeId destinationNodeId
    · exact .of_quiet quiet
    · rw [queued]
      exact .of_post rfl rfl rfl (by simp)

theorem postsOther_callback (machine : Machine) {request : Callback}
    (other : ∀ status info, request ≠ .addNodeStatusUpdate status info) :
    machine.PostsOther (machine.callback env request) := by
  obtain quiet | ⟨status, info, rfl⟩ | ⟨bSource, rfl⟩ | ⟨bSource, rfl⟩ :=
    callback_cases env machine request
  · exact .of_quiet quiet
  · exact absurd rfl (other status info)
  · simp only [callback, onLearnMode]
    by_cases smartStart : machine.nms.learnModeIntent = .smartStart
    · rw [if_pos smartStart]
      exact .of_post rfl rfl rfl (by simp)
    · rw [if_neg smartStart]
      exact .of_post rfl rfl rfl (by simp)
  · simp only [callback, onRemoveNodeStatusUpdate]
    split_ifs
    · exact .of_post rfl rfl rfl (by simp)
    · exact .of_same rfl rfl rfl

theorem Informed.addNodeStatusUpdate (informed : machine.Informed) (env : Surroundings)
    {status : AddNodeStatus} {info : LearnInfo}
    (keeps : machine.KeepsInformation (.callback env (.addNodeStatusUpdate status info))) :
    (machine.callback env (.addNodeStatusUpdate status info)).Informed where
  queued posting mem hasNode earlier origin := by
    obtain ⟨unused, fits⟩ := keeps
    obtain queued | new := List.mem_append.mp mem
    · exact unused posting queued hasNode earlier origin
    · obtain rfl := List.mem_singleton.mp new
      obtain rfl : info = earlier := by simpa using origin
      -- The information of an update that is too long is not kept.
      have small := fits hasNode
      exact (if_neg (by omega)).symm
  handled := informed.handled

theorem Informed.noteOrigin (informed : machine.Informed) {posting : Posting} {rest : List Posting}
    (events : machine.events = posting :: rest) :
    ({ machine with events := rest }.noteOrigin posting).Informed := by
  have later : ∀ other ∈ rest, other.event.HasNode ->
      ∀ info, other.origin = .statusUpdate info -> info = machine.learnInfo := by
    intro other mem
    apply informed.queued
    rw [events]
    exact List.mem_cons_of_mem posting mem
  simp only [Machine.noteOrigin]
  split
  · exact ⟨later, informed.handled⟩
  · split_ifs <;> exact ⟨later, informed.handled⟩
  · rename_i info origin
    split_ifs with hasNode
    · refine ⟨later, fun update mem => ?_⟩
      obtain earlier | new := List.mem_append.mp mem
      · exact informed.handled update earlier
      · obtain rfl := List.mem_singleton.mp new
        refine (informed.queued posting ?_ hasNode info origin).symm
        rw [events]
        exact List.mem_cons_self
    · exact ⟨later, informed.handled⟩

/-- Every step that leaves the information in place keeps the invariant. -/
theorem Informed.step (informed : machine.Informed) {action : Action}
    (keeps : machine.KeepsInformation action) : (machine.step action).Informed := by
  cases action with
  | call env request => exact informed.of_postsOther (postsOther_call env machine request)
  | callback env request =>
    by_cases update : ∃ status info, request = .addNodeStatusUpdate status info
    · obtain ⟨status, info, rfl⟩ := update
      exact informed.addNodeStatusUpdate env keeps
    · push Not at update
      exact informed.of_postsOther (postsOther_callback env machine update)
  | handleNext env =>
    simp only [Machine.step, handleNext]
    split
    · exact informed
    · rename_i posting rest events
      exact (informed.noteOrigin events).of_postsOther (postsOther_handle env _ _)
  | timerExpires =>
    simp only [Machine.step, timerExpires]
    split
    · exact ⟨informed.queued, informed.handled⟩
    · exact informed
  | timerCallback env =>
    simp only [Machine.step, timerCallback]
    split
    · exact informed
    · have idle : { machine with expired := none }.Informed := ⟨informed.queued, informed.handled⟩
      have handled := idle.of_postsOther (postsOther_handle env _ .timeout)
      exact ⟨handled.queued, handled.handled⟩

/-- In every run whose status updates find no event queued with other information,
every event with a node is handled with the information of the update that posted
it. -/
theorem updates_run (env : Surroundings) (actions : List Action)
    (keeps : StepsMeet step KeepsInformation (initial env) actions) :
    ∀ update ∈ (run step (initial env) actions).history.updates, update.2 = update.1 := by
  have start : (initial env).Informed := ⟨by simp [initial], by simp [initial]⟩
  exact (keeps.invariant Informed (fun _ _ informed => informed.step) start).handled

/-- An inclusion up to the node information: the node is found, and the information
of an end node with two command classes comes in. -/
def inclusionUpToNodeInformation : List Action :=
  [.call .accepting .addNode,
    .handleNext .accepting,
    .callback .accepting (.addNodeStatusUpdate .nodeFound ⟨5, []⟩),
    .handleNext .accepting,
    .callback .accepting (.addNodeStatusUpdate .addingEndNode ⟨5, [4, 16, 1, 0x9F, 0x25]⟩)]

theorem updates_run_inclusion :
    (run step (initial .accepting)
        (inclusionUpToNodeInformation ++ [.handleNext .accepting])).history.updates =
      [(⟨5, [4, 16, 1, 0x9F, 0x25]⟩, ⟨5, [4, 16, 1, 0x9F, 0x25]⟩)] ∧
      ∀ update ∈ (run step (initial .accepting)
        (inclusionUpToNodeInformation ++ [.handleNext .accepting])).history.updates,
        update.2 = update.1 := by
  refine ⟨by decide, updates_run _ _ ?_⟩
  refine ⟨trivial, trivial, ⟨?_, ?_⟩, trivial, ⟨?_, ?_⟩, trivial, trivial⟩
  · intro posting mem
    exact absurd mem (List.not_mem_nil)
  · decide
  · intro posting mem
    exact absurd mem (List.not_mem_nil)
  · decide

/-- The next status update takes the information of the end node away before the
event of the end node is handled. -/
theorem not_updates_run :
    ¬ ∀ env actions,
      ∀ update ∈ (run step (initial env) actions).history.updates, update.2 = update.1 := by
  intro informed
  have handled : (run step (initial .accepting)
      (inclusionUpToNodeInformation ++
        [.callback .accepting (.addNodeStatusUpdate .protocolDone ⟨5, []⟩),
          .handleNext .accepting])).history.updates =
      [(⟨5, [4, 16, 1, 0x9F, 0x25]⟩, ⟨5, []⟩)] := by
    decide
  have same := informed .accepting _ _ (handled ▸ List.mem_singleton_self _)
  exact absurd same (by decide)

end Machine

end NetworkManagement
