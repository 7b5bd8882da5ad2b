import Zpc.AttributeResolver.PendingSets
import Zpc.AttributeResolver.Evolution

/-!
# Re-armed Set resolutions

A group resolution that is started while a Set of its node is pending is kept
for the completion of that Set.  The completion restores the desired value only,
so that the node needs a Set again unless the status left the value that is
restored as the reported one.
-/

namespace AttributeResolver

open Foundation

namespace Resolver

/-- The node needs a Set again that carries a retry count, and nothing marks it
as pending. -/
structure Rearmed (state : Resolver) (node : NodeId) (retryCount : UInt8) : Prop where
  desired : state.store.value .desired node = [retryCount]
  defined : state.store.isValueDefined .desired node = true
  mismatch : state.store.isValueMatched node = false
  unmarked : hasKey state.pendingSetResolutions node = false

variable (status : SendStatus) {state : Resolver} {node other : NodeId} {requested : UInt8}
  {action : Action} {actions : List Action}

variable {retryCount : UInt8}

theorem rearmed_iff (desired : state.store.value .desired node = [requested])
    (unmarked : hasKey state.pendingSetResolutions node = false) :
    state.Rearmed node retryCount ↔
      requested = retryCount ∧ state.store.value .reported node ≠ [retryCount] := by
  constructor
  · intro rearmed
    have same : requested = retryCount := by
      have both := desired.symm.trans rearmed.desired
      simpa using both
    refine ⟨same, fun reported => ?_⟩
    have mismatch := rearmed.mismatch
    simp [Store.isValueMatched, reported, desired, same] at mismatch
  · rintro ⟨rfl, differs⟩
    refine ⟨desired, by simp [Store.isValueDefined, desired], ?_, unmarked⟩
    simp [Store.isValueMatched, desired, differs]

/-- The reported value a status leaves at a node it settles. -/
def settledValue (status : SendStatus) (store : Store) (node : NodeId) : List UInt8 :=
  match status with
  | .ok | .okExecutionFailed => []
  | .okExecutionVerified => store.desiredOrReported node
  | _ => store.value .reported node

theorem settledValue_congr {status : SendStatus} {before after : Store}
    (same : ∀ valueState, after.value valueState node = before.value valueState node) :
    settledValue status after node = settledValue status before node := by
  unfold settledValue Store.desiredOrReported Store.isValueDefined
  simp only [same]

theorem value_settleNode_of_ne (state : Resolver) (differs : node ≠ other)
    (valueState : ValueState) :
    (settleNode status state other).store.value valueState node =
      state.store.value valueState node := by
  unfold settleNode
  split <;> simp [store_writeValue, differs]

theorem nodeExists_settleNode (state : Resolver) (node : NodeId) :
    (settleNode status state node).store.nodeExists = state.store.nodeExists :=
  (@writes_settleNode (fun _ _ _ => True) status state node trivial
    fun _ => trivial).tree.nodeExists

theorem nodeExists_writeValue (state : Resolver) (valueState : ValueState) (node : NodeId)
    (value : List UInt8) :
    (state.writeValue valueState node value).store.nodeExists = state.store.nodeExists :=
  (@writes_writeValue (fun _ _ _ => True) state valueState node value trivial).tree.nodeExists

theorem settledValue_settleNode (there : state.store.nodeExists node = true) (other : NodeId) :
    settledValue status (settleNode status state other).store node =
      settledValue status state.store node := by
  by_cases same : node = other
  · subst same
    cases status <;>
      simp [settledValue, settleNode, Store.desiredOrReported, Store.isValueDefined,
        store_writeValue, nodeExists_writeValue, there]
  · exact settledValue_congr (value_settleNode_of_ne status state same)

theorem reported_settleNode (there : state.store.nodeExists node = true) :
    (settleNode status state node).store.value .reported node =
      settledValue status state.store node := by
  cases status <;>
    simp [settledValue, settleNode, store_writeValue, there]

theorem reported_settleNodes (nodes : List NodeId) (there : state.store.nodeExists node = true) :
    (nodes.foldl (settleNode status) state).store.value .reported node =
      if node ∈ nodes then settledValue status state.store node
      else state.store.value .reported node := by
  induction nodes generalizing state with
  | nil => simp
  | cons first rest ih =>
    have still : (settleNode status state first).store.nodeExists node = true := by
      rw [nodeExists_settleNode]
      exact there
    rw [List.foldl_cons, ih still, settledValue_settleNode status there]
    by_cases same : node = first
    · subst same
      simp [reported_settleNode status there]
    · simp [same, value_settleNode_of_ne status state same]

/-- A status of a Set settles the node it is reported for: its group is settled
and the node is in it. -/
def SettlesItself (state : Resolver) (status : SendStatus) (node : NodeId) : Prop :=
  settlesGroup status (state.executor.needsMoreFrames node) = true ∧
    node ∈ state.groupNodes .setRule node

/-- The step leaves a retry count as the reported value of the node whose rule it
completes. -/
def LeavesReported (state : Resolver) (node : NodeId) (retryCount : UInt8) : Action -> Prop
  | .sendDataComplete .ok _ .setRule => False
  | .sendDataComplete .okExecutionFailed _ .setRule =>
      state.store.value .reported node = [retryCount] ∧ ¬state.SettlesItself .okExecutionFailed node
  | .sendDataComplete .okExecutionVerified _ .setRule =>
      (state.SettlesItself .okExecutionVerified node ∧
          state.store.desiredOrReported node = [retryCount]) ∨
        (state.store.value .reported node = [retryCount] ∧
          ¬state.SettlesItself .okExecutionVerified node)
  | _ => state.store.value .reported node = [retryCount]

theorem reported_settle_set (there : state.store.nodeExists node = true) (notOk : status ≠ .ok) :
    (state.SettlesItself status node ->
      (state.settle status node .setRule).store.value .reported node =
        settledValue status state.store node) ∧
    (¬state.SettlesItself status node ->
      (state.settle status node .setRule).store.value .reported node =
        state.store.value .reported node) := by
  unfold SettlesItself settle
  simp only [notOk, if_false]
  by_cases settles : settlesGroup status (state.executor.needsMoreFrames node) = true
  · rw [if_pos settles, reported_settleNodes status _ there]
    by_cases mem : node ∈ state.groupNodes .setRule node <;> simp [settles, mem]
  · rw [if_neg settles]
    simp [settles]

theorem reported_settle_iff (there : state.store.nodeExists node = true) (status : SendStatus)
    (ruleType : RuleType) (retryCount : UInt8) :
    (state.settle status node ruleType).store.value .reported node = [retryCount] ↔
      state.LeavesReported node retryCount (.sendDataComplete status node ruleType) := by
  cases ruleType with
  | getRule => cases status <;> exact Iff.rfl
  | setRule =>
    by_cases isOk : status = .ok
    · subst isOk
      have undefines : (state.settle .ok node .setRule).store.value .reported node = [] := by
        unfold settle
        have still : (state.writeValue .reported node []).store.nodeExists node = true := by
          rw [nodeExists_writeValue]
          exact there
        have undefined : (state.writeValue .reported node []).store.value .reported node = [] := by
          simp [store_writeValue, there]
        simp only [if_true]
        split
        · rw [reported_settleNodes _ _ still]
          simp [settledValue, undefined]
        · exact undefined
      rw [undefines]
      exact ⟨fun same => absurd same (by simp), False.elim⟩
    · obtain ⟨settled, left⟩ := reported_settle_set status there isOk
      by_cases settles : state.SettlesItself status node
      · rw [settled settles]
        cases status <;>
          simp [settledValue, LeavesReported, settles] at isOk ⊢
      · rw [left settles]
        cases status <;> simp [LeavesReported, settles] at isOk ⊢

theorem rearmed_onResolverRuleExecuteComplete_iff (there : state.store.nodeExists node = true)
    (request : state.rearmAfterCompletion.lookup node = some requested) (retryCount : UInt8) :
    (state.onResolverRuleExecuteComplete node).Rearmed node retryCount ↔
      requested = retryCount ∧ state.store.value .reported node ≠ [retryCount] := by
  have before := @writes_beforeRearm (fun valueState _ _ => valueState = .desired)
    (fun _ => rfl) state node
  have after := @writes_afterRearm (fun _ _ _ => False) state node
  have unchanged : ∀ valueState,
      (state.onResolverRuleExecuteComplete node).store.value valueState node =
        (((state.completeGet node).completeSet node).rearm node).store.value valueState node :=
    fun valueState => (after.values valueState node).resolve_right id
  have restored : ((state.completeGet node).completeSet node).rearm node =
      { (state.completeGet node).completeSet node with
        rearmAfterCompletion := eraseKey
          ((state.completeGet node).completeSet node).rearmAfterCompletion node }.writeValue
            .desired node [requested] := by
    unfold rearm
    rw [before.rearm, request]
  have still : ((state.completeGet node).completeSet node).store.nodeExists node = true := by
    rw [before.tree.nodeExists]
    exact there
  have reported : (state.onResolverRuleExecuteComplete node).store.value .reported node =
      state.store.value .reported node := by
    rw [unchanged, restored, store_writeValue]
    simpa using before.values .reported node
  rw [← reported]
  refine rearmed_iff ?_ (hasKey_onResolverRuleExecuteComplete state node)
  rw [unchanged, restored, store_writeValue]
  simp [still]

theorem Schedules.rearmed_iff {before after : Resolver} (schedules : before.Schedules after)
    (node : NodeId) (retryCount : UInt8) :
    after.Rearmed node retryCount ↔ before.Rearmed node retryCount := by
  rw [schedules.same]
  exact ⟨fun rearmed => ⟨rearmed.desired, rearmed.defined, rearmed.mismatch, rearmed.unmarked⟩,
    fun rearmed => ⟨rearmed.desired, rearmed.defined, rearmed.mismatch, rearmed.unmarked⟩⟩

theorem rearmed_endNext_iff (state : Resolver) (node : NodeId) (retryCount : UInt8) :
    state.endNext.Rearmed node retryCount ↔ state.Rearmed node retryCount := by
  unfold endNext
  dsimp only
  split <;>
    exact ⟨fun rearmed => ⟨rearmed.desired, rearmed.defined, rearmed.mismatch, rearmed.unmarked⟩,
      fun rearmed => ⟨rearmed.desired, rearmed.defined, rearmed.mismatch, rearmed.unmarked⟩⟩

theorem rearmed_releaseSlot_iff (pending : state.executor.nodePendingResolution = node)
    (there : state.store.nodeExists node = true)
    (request : state.rearmAfterCompletion.lookup node = some requested) (retryCount : UInt8) :
    (state.releaseSlot node).Rearmed node retryCount ↔
      requested = retryCount ∧ state.store.value .reported node ≠ [retryCount] := by
  unfold releaseSlot
  rw [if_pos (by simp [Executor.completes, pending])]
  refine rearmed_onResolverRuleExecuteComplete_iff ?_ ?_ retryCount
  · exact there
  · exact request

theorem rearmed_onResolverSendDataComplete_iff
    (pending : state.executor.nodePendingResolution = node)
    (there : state.store.nodeExists node = true)
    (request : state.rearmAfterCompletion.lookup node = some requested) (status : SendStatus)
    (ruleType : RuleType) (retryCount : UInt8) :
    (state.onResolverSendDataComplete status node ruleType).Rearmed node retryCount ↔
      requested = retryCount ∧
        ¬state.LeavesReported node retryCount (.sendDataComplete status node ruleType) := by
  have settles := @writes_settle (fun _ _ _ => True) (fun _ => trivial) (fun _ _ => trivial)
    state status node ruleType
  rw [← reported_settle_iff there]
  refine rearmed_releaseSlot_iff ?_ ?_ ?_ retryCount
  · rw [settles.executor]
    exact pending
  · rw [settles.tree.nodeExists]
    exact there
  · rw [settles.rearm]
    exact request

theorem leavesReported_of_unsettled {status : SendStatus}
    (unsettled : status = .fail ∨ status = .aborted) (ruleType : RuleType) :
    state.LeavesReported node retryCount (.sendDataComplete status node ruleType) ↔
      state.store.value .reported node = [retryCount] := by
  rcases unsettled with rfl | rfl <;> cases ruleType <;> exact Iff.rfl

theorem rearmed_restartSetResolution_iff {ruleType : RuleType}
    (pending : state.executor.nodePendingResolution = node)
    (marked : hasKey state.pendingSetResolutions node = true)
    (there : state.store.nodeExists node = true)
    (request : state.rearmAfterCompletion.lookup node = some requested) (retryCount : UInt8) :
    (state.restartSetResolution node (some ruleType)).Rearmed node retryCount ↔
      requested = retryCount ∧ state.store.value .reported node ≠ [retryCount] := by
  unfold restartSetResolution
  rw [if_pos marked]
  extract_lets erased resumed aborted
  have resumes : Writes (fun _ _ _ => False) state resumed := by
    refine Writes.trans ?_ (writes_resumeNodeResolution erased node)
    exact ⟨.refl _, rfl, rfl, rfl, fun _ _ => .inl rfl⟩
  rw [(schedules_scanNode aborted node).rearmed_iff,
    ← (resumes.values .reported node).resolve_right id, ne_eq,
    ← leavesReported_of_unsettled (.inr rfl) ruleType]
  refine rearmed_onResolverSendDataComplete_iff ?_ ?_ ?_ .aborted ruleType retryCount
  · rw [resumes.executor]
    exact pending
  · rw [resumes.tree.nodeExists]
    exact there
  · rw [resumes.rearm]
    exact request

theorem rearmed_iterate_iff (visits : state.VisitsNext node) (notGet : state.needsGet node = false)
    (notSet : state.needsSet node = false)
    (request : state.rearmAfterCompletion.lookup node = some requested) (retryCount : UInt8) :
    state.iterate.Rearmed node retryCount ↔
      requested = retryCount ∧ state.store.value .reported node ≠ [retryCount] := by
  obtain ⟨index, below, onTop, unpaused, there, allVisited⟩ := visits
  have popped : state.iterate =
      ({ state with stack := below }.onResolverRuleExecuteComplete node).endNext := by
    unfold iterate
    rw [onTop]
    simp only [unpaused, there, Bool.not_true, Bool.or_self, Bool.false_eq_true, if_false,
      allVisited]
    unfold visitNode
    rw [show needsGet { state with stack := below } node = false from notGet,
      show needsSet { state with stack := below } node = false from notSet]
    rfl
  rw [popped, rearmed_endNext_iff]
  refine rearmed_onResolverRuleExecuteComplete_iff ?_ ?_ retryCount
  · exact there
  · exact request

theorem rearmed_ruleReturns_iff {execution : Execution}
    (running : state.control = .ruleFunction execution)
    (there : state.store.nodeExists execution.node = true)
    (request : state.rearmAfterCompletion.lookup execution.node = some requested) (frameSize : Nat)
    (retryCount : UInt8) :
    (state.ruleReturns (some .alreadyExists) frameSize).Rearmed execution.node retryCount ↔
      requested = retryCount ∧ state.store.value .reported execution.node ≠ [retryCount] := by
  have returned : state.ruleReturns (some .alreadyExists) frameSize =
      ({ state with
        executor := state.executor.resetState
          execution.node }.onResolverRuleExecuteComplete execution.node).endNext := by
    unfold ruleReturns
    simp only [running]
    rcases execution with ⟨node, _ | _, _ | _⟩ <;> rfl
  rw [returned, rearmed_endNext_iff]
  refine rearmed_onResolverRuleExecuteComplete_iff ?_ ?_ retryCount
  · exact there
  · exact request

/-- The completion rearms the node exactly if the request is this one and no report stays. -/
theorem rearmed_step_iff (completes : state.CompletesRuleOf node action)
    (there : state.store.nodeExists node = true)
    (request : state.rearmAfterCompletion.lookup node = some requested) (retryCount : UInt8) :
    (state.step action).Rearmed node retryCount ↔
      requested = retryCount ∧ ¬state.LeavesReported node retryCount action := by
  cases action with
  | sendDataComplete status other ruleType =>
    obtain ⟨rfl, pending⟩ := completes
    exact rearmed_onResolverSendDataComplete_iff pending there request status ruleType retryCount
  | ruleAbort other =>
    obtain ⟨rfl, pending⟩ := completes
    exact rearmed_releaseSlot_iff pending there request retryCount
  | ruleTimeout =>
    obtain ⟨running, pending⟩ := completes
    show state.onRuleExecutionTimeout.Rearmed node retryCount ↔
      _ ∧ ¬state.store.value .reported node = [retryCount]
    unfold onRuleExecutionTimeout
    rw [if_pos running, pending]
    refine rearmed_onResolverSendDataComplete_iff ?_ ?_ ?_ .fail _ retryCount
    · exact pending
    · exact there
    · exact request
  | restartSet other aborts =>
    cases aborts with
    | none => exact completes.elim
    | some ruleType =>
      obtain ⟨rfl, pending, marked⟩ := completes
      exact rearmed_restartSetResolution_iff pending marked there request retryCount
  | iterate =>
    obtain ⟨scanning, visits, notGet, notSet⟩ := completes
    show (if state.control = .scanning then state.iterate else state).Rearmed _ _ ↔ _
    rw [if_pos scanning]
    exact rearmed_iterate_iff visits notGet notSet request retryCount
  | ruleReturns frameStatus frameSize =>
    rcases frameStatus with _ | status
    · exact completes.elim
    · cases status <;> first
        | exact completes.elim
        | (obtain ⟨execution, running, rfl⟩ := completes
           exact rearmed_ruleReturns_iff running there request frameSize retryCount)
  | _ => exact completes.elim

/-- The retry count that is asked for after a step. -/
def requestedAfter (state : Resolver) (node : NodeId) (requested : UInt8) : Action -> UInt8
  | .requestRearm other retryCount => if other = node then retryCount else requested
  | .startGroupResolution other retryCount =>
      if other = node ∧ hasKey state.pendingSetResolutions node = true then retryCount
      else requested
  | _ => requested

/-- The retry count that was asked for last. -/
def lastRequested (node : NodeId) : UInt8 -> Resolver -> List Action -> UInt8
  | requested, _, [] => requested
  | requested, state, action :: rest =>
      lastRequested node (state.requestedAfter node requested action) (state.step action) rest

/-- The resolution of a node goes on: the step does not complete it, and the node
still exists. -/
def GoesOn (node : NodeId) (state : Resolver) (action : Action) : Prop :=
  ¬state.CompletesRuleOf node action ∧ (state.step action).store.nodeExists node = true

theorem lookup_rearm_of_ne (differs : other ≠ node) :
    (state.releaseSlot node).rearmAfterCompletion.lookup other =
      state.rearmAfterCompletion.lookup other := by
  have evolves : Evolves (fun _ _ _ => True) (fun changed => changed = node) state
      (state.releaseSlot node) :=
    evolves_releaseSlot (fun _ => trivial) state fun _ _ => ⟨rfl, fun _ => trivial⟩
  exact (evolves.rearm other).resolve_right differs

theorem nodeExists_without (store : Store) (node : NodeId) :
    (store.without node).nodeExists node = false := by
  unfold Store.nodeExists Store.find Store.without
  split <;> simp

theorem lookup_rearm_deleteNode (there : (state.deleteNode node).store.nodeExists other = true) :
    (state.deleteNode node).rearmAfterCompletion.lookup other =
      state.rearmAfterCompletion.lookup other := by
  unfold deleteNode at there ⊢
  split
  · rfl
  · rename_i deletes
    rw [if_neg deletes] at there
    have differs : other ≠ node := by
      rintro rfl
      have gone := nodeExists_without (if state.isNotified .reported (state.store.nodeType other)
        then state.onResolverNodeDeleted other else state).store other
      exact absurd (there.symm.trans gone) (by decide)
    split
    · unfold onResolverNodeDeleted
      extract_lets forgotten released
      have keeps : Writes (fun _ _ _ => False) released
          (released.scanNode (released.getHighestParentWithResolutionListener node)) :=
        (schedules_scanNode _ _).writes
      rw [keeps.rearm, show released = forgotten.releaseSlot node from rfl,
        lookup_rearm_of_ne differs]
      rw [lookup_eraseKey, if_neg differs]
    · rfl

theorem lookup_request (state : Resolver)
    (request : state.rearmAfterCompletion.lookup node = some requested) (other : NodeId)
    (retryCount : UInt8) :
    (state.requestRearmAfterCompletion other retryCount).rearmAfterCompletion.lookup node =
      some (if other = node then retryCount else requested) := by
  rw [requestRearmAfterCompletion]
  by_cases same : other = node
  · simp [same]
  · simp [same, Ne.symm same, request]

/-- A step before the completion keeps the last requested count. -/
theorem lookup_rearm_step (goesOn : state.GoesOn node action)
    (request : state.rearmAfterCompletion.lookup node = some requested) :
    (state.step action).rearmAfterCompletion.lookup node =
      some (state.requestedAfter node requested action) := by
  by_cases changes : ChangesGroups action
  · have kept : (state.step action).rearmAfterCompletion.lookup node =
        state.rearmAfterCompletion.lookup node := by
      cases action with
      | addNode other type parent =>
        show (state.addNode other type parent).rearmAfterCompletion.lookup node = _
        unfold addNode
        split
        · rfl
        · dsimp only
          split
          · rw [(@writes_onResolverNodeUpdate (fun _ _ _ => False) _ other).rearm]
          · rfl
      | deleteNode other => exact lookup_rearm_deleteNode goesOn.2
      | registerRules type rules =>
        show (state.registerRules type rules).rearmAfterCompletion.lookup node = _
        unfold registerRules
        dsimp only
        split
        · rw [(@Schedules.writes (fun _ _ _ => False) _ _ (schedules_requestScan _)).rearm]
        · rfl
      | setAttributeDepth type depth => rfl
      | _ => exact changes.elim
    rw [kept, request]
    cases action <;> first
      | rfl
      | exact changes.elim
  · have evolves := (state.evolves_step changes).rearm node
    cases action with
    | requestRearm other retryCount => exact lookup_request state request other retryCount
    | startGroupResolution other retryCount =>
      by_cases marked : hasKey state.pendingSetResolutions other = true
      · have asks : (state.step (.startGroupResolution other retryCount)) =
            state.requestRearmAfterCompletion other retryCount := if_pos marked
        rw [asks, lookup_request state request other retryCount]
        by_cases same : other = node
        · subst same
          simp [requestedAfter, marked]
        · simp [requestedAfter, same]
      · have kept := evolves.resolve_right fun mayChange => marked (mayChange.1 ▸ mayChange.2)
        rw [kept, request]
        refine congrArg some (if_neg ?_).symm
        rintro ⟨rfl, isMarked⟩
        exact marked isMarked
    | _ => exact (evolves.resolve_right goesOn.1).trans request

/-- Until the rule completes, the last requested count is kept. -/
theorem lookup_rearm_run (goesOn : StepsMeet step (GoesOn node) state actions)
    (request : state.rearmAfterCompletion.lookup node = some requested) :
    (run step state actions).rearmAfterCompletion.lookup node =
      some (lastRequested node requested state actions) := by
  induction actions generalizing state requested with
  | nil => exact request
  | cons action rest ih => exact ih goesOn.2 (lookup_rearm_step goesOn.1 request)

theorem nodeExists_of_goesOn (goesOn : StepsMeet step (GoesOn node) state actions)
    (there : state.store.nodeExists node = true) :
    (run step state actions).store.nodeExists node = true :=
  goesOn.invariant (fun state => state.store.nodeExists node = true)
    (fun _ _ _ meets => meets.2) there

/-- A group resolution is started while a Set of its node is pending, and later
the resolution completes.  The node then needs a Set again with the retry count
of the call exactly when no other one was asked for since and the completion
does not leave it as the reported value. -/
theorem rearmed_iff_of_startGroupResolution (config : Config) (store : Store) (before : List Action)
    (node : NodeId) (retryCount : UInt8) (during : List Action) (completion : Action)
    (pending : hasKey (run step (initial config store) before).pendingSetResolutions node = true)
    (goesOn : StepsMeet step (GoesOn node) (run step (initial config store) before)
      (.startGroupResolution node retryCount :: during))
    (completes : (run step (initial config store)
      (before ++ .startGroupResolution node retryCount :: during)).CompletesRuleOf
        node completion) :
    (run step (initial config store)
        (before ++ .startGroupResolution node retryCount :: during ++ [completion])).Rearmed
          node retryCount ↔
      lastRequested node retryCount
          (run step (initial config store) (before ++ [.startGroupResolution node retryCount]))
          during = retryCount ∧
        ¬(run step (initial config store)
          (before ++ .startGroupResolution node retryCount :: during)).LeavesReported
            node retryCount completion := by
  rw [run_append step _ _ [completion]]
  rw [run_append, run_cons] at completes ⊢
  rw [run_append step _ before [_]]
  set started := run step (initial config store) before
  have request : (started.step (.startGroupResolution node retryCount)).rearmAfterCompletion.lookup
      node = some retryCount := by
    show (started.startGroupResolution node retryCount).rearmAfterCompletion.lookup node = _
    unfold startGroupResolution
    rw [if_pos pending, requestRearmAfterCompletion, lookup_assign, if_pos rfl]
  exact rearmed_step_iff completes (nodeExists_of_goesOn goesOn.2 goesOn.1.2)
    (lookup_rearm_run goesOn.2 request) retryCount

/-- A Set rule alone. -/
def setOnlyRules : Rules where
  identity := 1
  setFunc := true
  getFunc := false

/-- A group resolution of node 5 has sent its frame. -/
def groupResolutionSent : List Action :=
  [.registerRules 1 setOnlyRules, .startGroupResolution 5 3, .handleEvent, .iterate, .iterate,
    .ruleReturns (some .ok) 3, .sendReturns true]

theorem goesOn_groupResolutionSent :
    StepsMeet step (GoesOn 5) (run step (initial exampleConfig exampleStore) groupResolutionSent)
      [.startGroupResolution 5 3] :=
  ⟨⟨id, by decide⟩, trivial⟩

/-- The group resolution is started again and the frame is delivered without
Supervision: the node needs a Set again. -/
theorem rearmed_ok :
    (run step (initial exampleConfig exampleStore)
      (groupResolutionSent ++ [.startGroupResolution 5 3] ++
        [.sendDataComplete .ok 5 .setRule])).Rearmed 5 3 :=
  (rearmed_iff_of_startGroupResolution exampleConfig exampleStore groupResolutionSent 5 3 []
    (.sendDataComplete .ok 5 .setRule) (by decide) goesOn_groupResolutionSent
    ⟨rfl, by decide⟩).mpr ⟨rfl, id⟩

/-- The group resolution is started again and the frame is verified: the retry
count becomes the reported value, and restoring the desired one makes no
mismatch. -/
theorem not_rearmed_okExecutionVerified :
    ¬∀ (config : Config) (store : Store) (before : List Action) (node : NodeId)
        (retryCount : UInt8) (during : List Action) (completion : Action),
      hasKey (run step (initial config store) before).pendingSetResolutions node = true ->
      StepsMeet step (GoesOn node) (run step (initial config store) before)
        (.startGroupResolution node retryCount :: during) ->
      (run step (initial config store)
        (before ++ .startGroupResolution node retryCount :: during)).CompletesRuleOf
          node completion ->
      (run step (initial config store)
        (before ++ .startGroupResolution node retryCount :: during ++ [completion])).Rearmed
          node retryCount := by
  intro always
  have rearmed := always exampleConfig exampleStore groupResolutionSent 5 3 []
    (.sendDataComplete .okExecutionVerified 5 .setRule) (by decide) goesOn_groupResolutionSent
    ⟨rfl, by decide⟩
  exact absurd rearmed.mismatch (by decide)

end Resolver

end AttributeResolver
