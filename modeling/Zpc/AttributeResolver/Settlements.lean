import Zpc.AttributeResolver.Frames
import Zpc.AttributeResolver.Evolution

/-!
# Desired values and the completions of older frames

A completion of a Set rule settles the desired values of the whole group as they
are when it is reported.  They are the values the frame was generated from in
every run in which no desired value is written to a node of the group while the
rule function generates the frame or the frame is in flight, be it from outside or
by a re-arm.  The resolver does not see to that: a value written in between is
promoted to the reported one, or cleared, without ever having been sent.
-/

namespace AttributeResolver

open Foundation

namespace Resolver

variable {state : Resolver} {earlier execution : Execution} {action : Action}

theorem control_endNext (state : Resolver) : state.endNext.control = .idle := by
  unfold endNext
  dsimp only
  split <;> rfl

theorem executed_not_ruleFunction (state : Resolver) (earlier execution : Execution)
    (status : SlStatus) : (state.executed earlier status).control ≠ .ruleFunction execution := by
  unfold executed continueWith
  split
  all_goals first
    | rw [control_endNext]
    | skip
  all_goals exact nofun

/-- A rule function that returns does not run after the step. -/
theorem ruleReturns_not_ruleFunction (running : state.control = .ruleFunction earlier)
    (frameStatus : Option SlStatus) (frameSize : Nat) :
    (state.ruleReturns frameStatus frameSize).control ≠ .ruleFunction execution := by
  unfold ruleReturns
  rw [running]
  dsimp only
  split
  case h_2 | h_3 =>
    split
    · exact executed_not_ruleFunction _ _ _ _
    · exact nofun
  all_goals exact executed_not_ruleFunction _ _ _ _

/-- No step but its return touches a rule function that runs. -/
theorem control_step_of_ruleFunction (running : state.control = .ruleFunction earlier)
    (notReturned : ∀ frameStatus frameSize, action ≠ .ruleReturns frameStatus frameSize) :
    (state.step action).control = .ruleFunction earlier := by
  have invariant : CallbackInvariant fun after => after.control = .ruleFunction earlier := {
    keeps := fun same keeps => keeps.control.trans same
    releaseSlot := fun {state} same node => by
      unfold releaseSlot
      split
      · exact (keeps_onResolverRuleExecuteComplete _ node).control.trans same
      · exact same
    withExecutor := fun same _ _ => same }
  refine invariant.step action running (fun idle => ?_) (fun scanning => ?_)
    (fun _ _ returns => absurd returns (notReturned _ _)) fun accepted _ => ?_
  · exact absurd (idle.symm.trans running) nofun
  · exact absurd (scanning.symm.trans running) nofun
  · unfold sendReturns
    rw [running]
    exact running

/-- The rule function that runs before and after a step is the same call. -/
theorem ruleFunction_same (running : state.control = .ruleFunction earlier)
    (runs : (state.step action).control = .ruleFunction execution) :
    execution = earlier ∧ ∀ frameStatus frameSize, action ≠ .ruleReturns frameStatus frameSize := by
  have notReturned : ∀ frameStatus frameSize, action ≠ .ruleReturns frameStatus frameSize := by
    rintro frameStatus frameSize rfl
    exact ruleReturns_not_ruleFunction running frameStatus frameSize runs
  refine ⟨?_, notReturned⟩
  rw [control_step_of_ruleFunction running notReturned] at runs
  exact (Control.ruleFunction.inj runs).symm

end Resolver

namespace Tracked

/-- The completions settled the desired values their frames were generated from,
whenever the rule function read them. -/
def SettlesOwn (tracked : Tracked) : Prop :=
  ∀ settlement ∈ tracked.settlements, settlement.generated ≠ [] ∧
    ∀ value ∈ settlement.generated, settlement.desired = value

/-- A node belongs to the group of a Set frame in flight. -/
def InFlight (frames : List Frame) (resolver : Resolver) (node : NodeId) : Prop :=
  ∃ frame ∈ frames, node ∈ resolver.groupNodes .setRule frame.node

/-- A node belongs to the group of a Set rule whose function runs, and does not return in
the step. -/
def Generating (resolver : Resolver) (action : Action) (node : NodeId) : Prop :=
  (∀ status size, action ≠ .ruleReturns status size) ∧
    ∃ execution, resolver.control = .ruleFunction execution ∧ execution.ruleType = .setRule ∧
      node ∈ resolver.groupNodes .setRule execution.node

/-- No desired value is written to the group of a Set frame that is being generated, or
that is in flight and is not completed by the step, and the groups do not change
meanwhile. -/
def Undisturbed (tracked : Tracked) (action : TrackedAction) : Prop :=
  (Resolver.ChangesGroups action.action -> tracked.frames = [] ∧
    ∀ execution, tracked.resolver.control = .ruleFunction execution ->
      execution.ruleType ≠ .setRule) ∧
    ∀ node, tracked.resolver.MayWriteDesired node action.action ->
      ¬InFlight (tracked.track action).frames tracked.resolver node ∧
        ¬Generating tracked.resolver action.action node

/-- The desired values of the group of a node are those of all the stores, as far as
they are defined. -/
def AsRead (resolver : Resolver) (node : NodeId) (stores : List Store) : Prop :=
  stores ≠ [] ∧ ∀ other ∈ resolver.groupNodes .setRule node,
    resolver.store.value .desired other = [] ∨
      ∀ store ∈ stores, resolver.store.value .desired other = store.value .desired other

variable {tracked : Tracked} {frame : Frame} {action : TrackedAction}

theorem frameOf_eq_some {number : Nat} {node : NodeId}
    (found : tracked.frameOf number node = some frame) :
    frame ∈ tracked.frames ∧ frame.node = node := by
  refine ⟨List.mem_of_find?_eq_some found, ?_⟩
  have isFrame := List.find?_some found
  simp only [Bool.and_eq_true, decide_eq_true_eq] at isFrame
  exact isFrame.2

theorem settlementsOf_own {resolver : Resolver}
    (asRead : AsRead resolver frame.node frame.generatedFrom) (status : SendStatus) :
    ∀ settlement ∈ settlementsOf resolver frame status, settlement.generated ≠ [] ∧
      ∀ value ∈ settlement.generated, settlement.desired = value := by
  intro settlement mem
  unfold settlementsOf at mem
  split at mem
  · obtain ⟨node, settled, rfl⟩ := List.mem_map.mp mem
    obtain ⟨inGroup, defined⟩ := List.mem_filter.mp settled
    refine ⟨by simpa using asRead.1, fun value generated => ?_⟩
    obtain ⟨store, isRead, rfl⟩ := List.mem_map.mp generated
    rcases asRead.2 node inGroup with undefined | same
    · simp [Store.isValueDefined, undefined] at defined
    · exact same store isRead
  · cases mem

/-- The frames that are in flight or being generated keep the values they are generated
from, and the completions settle their own values. -/
structure FramesKept (tracked : Tracked) : Prop where
  /-- What a frame in flight was generated from is still desired, or was cleared. -/
  frames : ∀ frame ∈ tracked.frames, AsRead tracked.resolver frame.node frame.generatedFrom
  /-- What a Set rule function may have read is still desired, or was cleared. -/
  readable : ∀ execution, tracked.resolver.control = .ruleFunction execution ->
    execution.ruleType = .setRule -> AsRead tracked.resolver execution.node tracked.readable
  settles : tracked.SettlesOwn

theorem FramesKept.report (kept : tracked.FramesKept) (number : Nat) (node : NodeId)
    (status : SendStatus) (isFinal : Bool) :
    (tracked.report number node status isFinal).FramesKept := by
  unfold Tracked.report
  split
  · exact kept
  · rename_i frame found
    obtain ⟨mem, -⟩ := frameOf_eq_some found
    refine ⟨fun other inFlight => kept.frames other ?_, kept.readable, fun settlement settled => ?_⟩
    · dsimp only at inFlight
      split at inFlight
      · exact List.mem_of_mem_filter inFlight
      · exact inFlight
    · rcases List.mem_append.mp settled with before | now
      · exact kept.settles settlement before
      · exact settlementsOf_own (kept.frames frame mem) status settlement now

theorem FramesKept.track (kept : tracked.FramesKept) (action : TrackedAction) :
    (tracked.track action).FramesKept := by
  unfold Tracked.track
  split
  · exact kept.report _ _ _ _
  · split
    · exact kept.report _ _ _ _
    · exact kept
  · split
    · exact kept.report _ _ _ _
    · exact kept
  · split
    · rename_i running isGenerated
      refine ⟨fun frame inFlight => ?_, kept.readable, kept.settles⟩
      rcases List.mem_append.mp inFlight with before | isNew
      · exact kept.frames frame before
      · rw [List.mem_singleton.mp isNew]
        exact kept.readable _ running isGenerated.1
    · exact kept
  · split
    · exact ⟨fun frame inFlight => kept.frames frame (List.mem_of_mem_filter inFlight),
        kept.readable, kept.settles⟩
    · exact kept
  · exact kept

theorem track_resolver (tracked : Tracked) (action : TrackedAction) :
    (tracked.track action).resolver = tracked.resolver := by
  have reports : ∀ number node status isFinal,
      (tracked.report number node status isFinal).resolver = tracked.resolver := by
    intro number node status isFinal
    unfold report
    split <;> rfl
  unfold track
  split
  · exact reports _ _ _ _
  all_goals first
    | rfl
    | (split
       · first
           | rfl
           | exact reports _ _ _ _
       · rfl)

theorem track_frames_of_changesGroups (changes : Resolver.ChangesGroups action.action)
    (none : tracked.frames = []) : (tracked.track action).frames = [] := by
  obtain ⟨action, frame⟩ := action
  cases action <;> first
    | exact none
    | exact changes.elim

/-- Values that no step disturbs stay the ones that were read. -/
theorem AsRead.step {stores : List Store} {node : NodeId}
    (asRead : AsRead tracked.resolver node stores)
    (keepsGroups : ¬Resolver.ChangesGroups action.action)
    (unwritten : ∀ other ∈ tracked.resolver.groupNodes .setRule node,
      ¬tracked.resolver.MayWriteDesired other action.action) :
    AsRead (tracked.step action).resolver node stores := by
  have evolves := tracked.resolver.evolves_step keepsGroups
  refine ⟨asRead.1, fun other inGroup => ?_⟩
  rw [show (tracked.step action).resolver = tracked.resolver.step action.action from rfl,
    evolves.groupNodes] at inGroup
  rcases evolves.values .desired other with same | cleared | written
  · exact (asRead.2 other inGroup).imp (fun undefined => same.trans undefined)
      fun generated store isRead => same.trans (generated store isRead)
  · exact .inl cleared
  · exact absurd written (unwritten other inGroup)

variable {execution : Execution}

/-- While the rule function runs, each further store is readable too. -/
theorem step_readable_of_running {earlier : Execution} (tracked : Tracked)
    (running : tracked.resolver.control = .ruleFunction earlier)
    (runs : (tracked.step action).resolver.control = .ruleFunction execution) :
    (tracked.step action).readable = tracked.readable ++
      [(tracked.step action).resolver.store] := by
  have runs : (tracked.resolver.step action.action).control = .ruleFunction execution := runs
  unfold step
  dsimp only
  rw [running, runs]

/-- A rule function that is called reads the store of that moment. -/
theorem step_readable_of_called (tracked : Tracked)
    (notRunning : ∀ earlier, tracked.resolver.control ≠ .ruleFunction earlier)
    (runs : (tracked.step action).resolver.control = .ruleFunction execution) :
    (tracked.step action).readable = [(tracked.step action).resolver.store] := by
  have runs : (tracked.resolver.step action.action).control = .ruleFunction execution := runs
  unfold step
  dsimp only
  rw [runs]
  split
  · rename_i earlier _ running _
    exact absurd running (notRunning earlier)
  · rfl
  · rename_i notRuns _
    exact absurd rfl (notRuns execution)

/-- The values that a Set rule function may have read are still desired after the step. -/
theorem FramesKept.readable_step (kept : tracked.FramesKept)
    (undisturbed : tracked.Undisturbed action)
    (runs : (tracked.step action).resolver.control = .ruleFunction execution)
    (isSet : execution.ruleType = .setRule) :
    AsRead (tracked.step action).resolver execution.node (tracked.step action).readable := by
  by_cases running : ∃ earlier, tracked.resolver.control = .ruleFunction earlier
  · obtain ⟨earlier, running⟩ := running
    obtain ⟨rfl, notReturned⟩ := Resolver.ruleFunction_same running runs
    have keepsGroups : ¬Resolver.ChangesGroups action.action := fun changes =>
      (undisturbed.1 changes).2 _ running isSet
    have still := (kept.readable _ running isSet).step keepsGroups fun node inGroup writes =>
      (undisturbed.2 node writes).2 ⟨notReturned, _, running, isSet, inGroup⟩
    rw [step_readable_of_running tracked running runs]
    refine ⟨by simp, fun other inGroup => (still.2 other inGroup).imp_right ?_⟩
    intro same store isRead
    rcases List.mem_append.mp isRead with before | now
    · exact same store before
    · rw [List.mem_singleton.mp now]
  · rw [step_readable_of_called tracked (not_exists.mp running) runs]
    exact ⟨by simp, fun other inGroup => .inr fun store isRead => by
      rw [List.mem_singleton.mp isRead]⟩

/-- Every undisturbed step keeps the frames and their settlements. -/
theorem FramesKept.step (kept : tracked.FramesKept) (undisturbed : tracked.Undisturbed action) :
    (tracked.step action).FramesKept := by
  have tracks := kept.track action
  refine ⟨fun frame inFlight => ?_, fun execution runs isSet => ?_, tracks.settles⟩
  · by_cases changes : Resolver.ChangesGroups action.action
    · have none := track_frames_of_changesGroups changes (undisturbed.1 changes).1
      exact absurd (none ▸ inFlight) (List.not_mem_nil)
    · have before := tracks.frames frame inFlight
      rw [track_resolver] at before
      exact before.step changes fun node inGroup writes =>
        (undisturbed.2 node writes).1 ⟨frame, inFlight, inGroup⟩
  · exact kept.readable_step undisturbed runs isSet

/-- A Set frame of node 5 with value 2 is in flight. -/
def setInFlight : List TrackedAction :=
  [.registerRules 1 exampleRules, .writeValue .reported 5 [1], .writeValue .desired 5 [2],
    .handleEvent, .iterate, .iterate, .ruleReturns (some .ok) 3, .sendReturns true].map (⟨·, 0⟩)

/-- The frame is verified. -/
def verified : TrackedAction := ⟨.sendDataComplete .okExecutionVerified 5 .setRule, 0⟩

/-- A new desired value is written before the older frame is verified. -/
def overtaken : List TrackedAction := setInFlight ++ [⟨.writeValue .desired 5 [3], 0⟩, verified]

end Tracked

end AttributeResolver
