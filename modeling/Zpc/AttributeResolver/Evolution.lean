import Zpc.AttributeResolver.Values

/-!
# What a step may change

For every action, the nodes whose rule it completes, the nodes it may give a
desired value, and the nodes whose request for a re-arm it may change.  Every
step that leaves the tree and the rules alone changes no other desired value
and no other request.
-/

namespace AttributeResolver

open Foundation

namespace Resolver

/-- A step that may change values: the tree, the rules and their groups stay, a
value that is not as before is an allowed one, and a request for a re-arm is as
before unless it may change. -/
structure Evolves
    (allowed : ValueState -> NodeId -> List UInt8 -> Prop)
    (rearmed : NodeId -> Prop)
    (before after : Resolver) : Prop where
  tree : before.store.SameTree after.store
  rules : after.executor.ruleBook = before.executor.ruleBook
  groups : after.groups = before.groups
  values : ∀ valueState node,
    after.store.value valueState node = before.store.value valueState node ∨
      allowed valueState node (after.store.value valueState node)
  rearm : ∀ node,
    after.rearmAfterCompletion.lookup node = before.rearmAfterCompletion.lookup node ∨ rearmed node

variable {allowed : ValueState -> NodeId -> List UInt8 -> Prop} {rearmed : NodeId -> Prop}

theorem Evolves.refl (state : Resolver) : Evolves allowed rearmed state state :=
  ⟨.refl _, rfl, rfl, fun _ _ => .inl rfl, fun _ => .inl rfl⟩

theorem Evolves.trans {first second third : Resolver}
    (earlier : Evolves allowed rearmed first second)
    (later : Evolves allowed rearmed second third) :
    Evolves allowed rearmed first third where
  tree := earlier.tree.trans later.tree
  rules := later.rules.trans earlier.rules
  groups := later.groups.trans earlier.groups
  values valueState node := by
    rcases later.values valueState node with same | isAllowed
    · rw [same]
      exact earlier.values valueState node
    · exact .inr isAllowed
  rearm node := by
    rcases later.rearm node with same | changes
    · rw [same]
      exact earlier.rearm node
    · exact .inr changes

variable (state : Resolver) {before after : Resolver} {node : NodeId} {status : SlStatus}
  {action : Action}

theorem Writes.evolves (writes : Writes allowed before after) :
    Evolves allowed rearmed before after :=
  ⟨writes.tree, by rw [writes.executor], writes.groups, writes.values,
    fun _ => .inl (by rw [writes.rearm])⟩

theorem Evolves.groupNodes (evolves : Evolves allowed rearmed before after) (ruleType : RuleType)
    (node : NodeId) : after.groupNodes ruleType node = before.groupNodes ruleType node := by
  unfold Resolver.groupNodes
  rw [evolves.tree.ruleGetGroupNodes, evolves.groups]
  unfold ruleGetGroupNodes ruleGetGroup Executor.rulesOf
  rw [evolves.rules]

theorem evolves_rearm
    (rearms : hasKey state.rearmAfterCompletion node = true ->
      rearmed node ∧ ∀ value, allowed .desired node value) :
    Evolves allowed rearmed state (state.rearm node) := by
  unfold rearm
  split
  · exact .refl state
  · rename_i retryCount requested
    have permitted := rearms (by simp [hasKey, requested])
    refine Evolves.trans ?_ (writes_writeValue _ (permitted.2 _)).evolves
    refine ⟨.refl _, rfl, rfl, fun _ _ => .inl rfl, fun other => ?_⟩
    rw [lookup_eraseKey]
    by_cases same : other = node
    · exact .inr (same ▸ permitted.1)
    · exact .inl (if_neg same)

theorem evolves_onResolverRuleExecuteComplete (clears : ∀ node, allowed .desired node [])
    (state : Resolver)
    (rearms : hasKey state.rearmAfterCompletion node = true ->
      rearmed node ∧ ∀ value, allowed .desired node value) :
    Evolves allowed rearmed state (state.onResolverRuleExecuteComplete node) := by
  have before := writes_beforeRearm clears state node
  refine before.evolves.trans (Evolves.trans ?_ (writes_afterRearm state node).evolves)
  refine evolves_rearm _ ?_
  rw [before.rearm]
  exact rearms

theorem evolves_releaseSlot (clears : ∀ node, allowed .desired node []) (state : Resolver)
    (rearms : state.executor.nodePendingResolution = node ->
      hasKey state.rearmAfterCompletion node = true ->
      rearmed node ∧ ∀ value, allowed .desired node value) :
    Evolves allowed rearmed state (state.releaseSlot node) := by
  unfold releaseSlot
  split
  · rename_i completes
    have pending : state.executor.nodePendingResolution = node := by
      simpa [Executor.completes] using completes
    refine Evolves.trans ?_ (evolves_onResolverRuleExecuteComplete clears _ (rearms pending))
    refine { Evolves.refl _ with rules := ?_ }
    simp [Executor.release, pending]
  · exact .refl state

theorem evolves_endNext : Evolves allowed rearmed state state.endNext := by
  unfold endNext
  dsimp only
  split <;> exact { Evolves.refl _ with }

theorem evolves_continueWith (clears : ∀ node, allowed .desired node []) (state : Resolver)
    (rearms : status = .notInitialized ∨ status = .alreadyExists ->
      hasKey state.rearmAfterCompletion node = true ->
      rearmed node ∧ ∀ value, allowed .desired node value) :
    Evolves allowed rearmed state (state.continueWith node status) := by
  unfold continueWith
  split
  · exact evolves_endNext state
  · exact evolves_endNext state
  · exact (evolves_onResolverRuleExecuteComplete clears state (rearms (.inl rfl))).trans
      (evolves_endNext _)
  · exact (evolves_onResolverRuleExecuteComplete clears state (rearms (.inr rfl))).trans
      (evolves_endNext _)
  · exact { Evolves.refl _ with }

theorem writes_recordExecution (execution : Execution) (status : SlStatus) :
    Writes allowed state (state.recordExecution execution status) := by
  unfold recordExecution
  split
  case h_3 =>
    refine Writes.trans ?_ (schedules_restartPendingGetNodesTimer _).writes
    exact { Writes.refl _ with }
  all_goals exact { Writes.refl _ with }

theorem evolves_executed (clears : ∀ node, allowed .desired node []) (state : Resolver)
    {execution : Execution}
    (rearms : status = .notInitialized ∨ status = .alreadyExists ->
      hasKey state.rearmAfterCompletion execution.node = true ->
      rearmed execution.node ∧ ∀ value, allowed .desired execution.node value) :
    Evolves allowed rearmed state (state.executed execution status) := by
  have records : Writes allowed state (state.recordExecution execution status) :=
    writes_recordExecution state execution status
  refine records.evolves.trans (evolves_continueWith clears _ ?_)
  rw [records.rearm]
  exact rearms

theorem evolves_ruleExecute (clears : ∀ node, allowed .desired node []) (state : Resolver)
    (execution : Execution) : Evolves allowed rearmed state (state.ruleExecute execution) := by
  unfold ruleExecute
  extract_lets counted
  have counts : Evolves allowed rearmed state counted := by
    dsimp only [counted]
    split <;> exact { Evolves.refl _ with }
  refine counts.trans ?_
  split
  · rename_i status refused
    refine evolves_executed clears counted fun isComplete => ?_
    have refusals := Executor.status_of_claim refused
    rcases isComplete with rfl | rfl <;> simp at refusals
  · rename_i executor claimed
    obtain ⟨-, -, rfl⟩ := Executor.claim_eq_ok claimed
    exact { Evolves.refl _ with }

theorem evolves_visitNode (clears : ∀ node, allowed .desired node []) (state : Resolver)
    (rearms : state.needsGet node = false -> state.needsSet node = false ->
      hasKey state.rearmAfterCompletion node = true ->
      rearmed node ∧ ∀ value, allowed .desired node value) :
    Evolves allowed rearmed state (state.visitNode node) := by
  have waits : ∀ other : Resolver,
      Evolves allowed rearmed other (other.continueWith node .isWaiting) :=
    fun other => evolves_continueWith clears other (by simp)
  unfold visitNode
  split
  · unfold executeGet
    split
    · split
      · exact { Evolves.refl _ with }
      · split
        · refine Evolves.trans ?_ (evolves_ruleExecute clears _ _)
          exact { Evolves.refl _ with }
        · exact waits state
    · split
      · exact waits state
      · exact evolves_ruleExecute clears state _
  · rename_i notGet
    split
    · unfold executeSet
      split
      · exact waits state
      · split
        · exact waits state
        · extract_lets expired
          have expires : Evolves allowed rearmed state expired := { Evolves.refl _ with }
          refine expires.trans ?_
          split
          · exact waits expired
          · refine Evolves.trans ?_ (evolves_ruleExecute clears _ _)
            exact { Evolves.refl _ with }
    · rename_i notSet
      exact evolves_continueWith clears state fun _ =>
        rearms (by simpa using notGet) (by simpa using notSet)

/-- The next iteration of the scan visits a node: it is on top of the stack, and
all its children have been visited. -/
def VisitsNext (state : Resolver) (node : NodeId) : Prop :=
  ∃ index below, state.stack = (node, index) :: below ∧
    state.isNodeOrParentPaused node = false ∧ state.store.nodeExists node = true ∧
    (state.store.children node)[if (state.store.children node).length < index then 0
      else index]? = none

/-- A step that completes the rule of a node: the slot is released by a
completion, an abort or a timeout, or the resolution needs no frame. -/
def CompletesRuleOf (state : Resolver) (node : NodeId) : Action -> Prop
  | .sendDataComplete _ other _ => other = node ∧ state.executor.nodePendingResolution = node
  | .ruleAbort other => other = node ∧ state.executor.nodePendingResolution = node
  | .restartSet other (some _) =>
      other = node ∧ state.executor.nodePendingResolution = node ∧
        hasKey state.pendingSetResolutions node = true
  | .ruleTimeout =>
      state.executor.ruleExecutionTimer = true ∧ state.executor.nodePendingResolution = node
  | .iterate =>
      state.control = .scanning ∧ state.VisitsNext node ∧
        state.needsGet node = false ∧ state.needsSet node = false
  | .ruleReturns (some .alreadyExists) _ =>
      ∃ execution, state.control = .ruleFunction execution ∧ execution.node = node
  | _ => False

/-- A step that may give a node a desired value. -/
def MayWriteDesired (state : Resolver) (node : NodeId) : Action -> Prop
  | .writeValue .desired other value => other = node ∧ value ≠ []
  | .startGroupResolution other _ => other = node ∧ hasKey state.pendingSetResolutions node = false
  | action => state.CompletesRuleOf node action ∧ hasKey state.rearmAfterCompletion node = true

/-- A step that changes the tree, the rules or their groups. -/
def ChangesGroups : Action -> Prop
  | .addNode _ _ _ | .deleteNode _ | .registerRules _ _ | .setAttributeDepth _ _ => True
  | _ => False

/-- The values a step may write: reported values, cleared desired values, and
desired values for the nodes it may give one. -/
def AllowedIn (state : Resolver) (action : Action) : ValueState -> NodeId -> List UInt8 -> Prop
  | .reported, _, _ => True
  | .desired, node, value => value = [] ∨ state.MayWriteDesired node action

/-- A step that may change the request for a re-arm of a node. -/
def MayChangeRearm (state : Resolver) (action : Action) (node : NodeId) : Prop :=
  match action with
  | .requestRearm other _ => other = node
  | .startGroupResolution other _ => other = node ∧ hasKey state.pendingSetResolutions node = true
  | _ => state.CompletesRuleOf node action

theorem allowedIn_clear (action : Action) (node : NodeId) :
    state.AllowedIn action .desired node [] := .inl rfl

theorem evolves_onResolverSendDataComplete {state : Resolver} {current : Resolver}
    (status : SendStatus) (ruleType : RuleType)
    (rearms : current.executor.nodePendingResolution = node ->
      hasKey current.rearmAfterCompletion node = true ->
      state.MayChangeRearm action node ∧ ∀ value, state.AllowedIn action .desired node value) :
    Evolves (state.AllowedIn action) (state.MayChangeRearm action) current
      (current.onResolverSendDataComplete status node ruleType) := by
  have settles : Writes (state.AllowedIn action) current (current.settle status node ruleType) :=
    writes_settle (allowedIn_clear state action) (fun _ _ => trivial) current status node ruleType
  refine settles.evolves.trans (evolves_releaseSlot (allowedIn_clear state action) _ ?_)
  rw [settles.executor, settles.rearm]
  exact rearms

theorem writes_resumeNodeResolution (node : NodeId) :
    Writes allowed state (state.resumeNodeResolution node) := by
  unfold resumeNodeResolution
  extract_lets resumed
  have resumes : Writes allowed state resumed := { Writes.refl _ with }
  split
  · exact resumes
  · exact resumes.trans (schedules_scanNode resumed node).writes

theorem writes_restartExhaustedTo (depth : Nat) (state : Resolver) (node : NodeId) :
    Writes allowed state (restartExhaustedTo depth state node) := by
  induction depth generalizing state node with
  | zero => exact .refl state
  | succ depth ih =>
    unfold restartExhaustedTo
    extract_lets restarted
    have restarts : Writes allowed state restarted := by
      dsimp only [restarted]
      split
      · refine Writes.trans ?_ (schedules_scanNode _ node).writes
        exact { Writes.refl _ with }
      · exact .refl state
    exact restarts.trans (writes_foldl ih _ restarted)

theorem evolves_ruleReturns (frameStatus : Option SlStatus) (frameSize : Nat) :
    Evolves (state.AllowedIn (.ruleReturns frameStatus frameSize))
      (state.MayChangeRearm (.ruleReturns frameStatus frameSize)) state
      (state.ruleReturns frameStatus frameSize) := by
  unfold ruleReturns
  split
  · rename_i execution running
    extract_lets reset
    have resets : Evolves (state.AllowedIn (.ruleReturns frameStatus frameSize))
        (state.MayChangeRearm (.ruleReturns frameStatus frameSize)) state reset := by
      refine { Evolves.refl _ with rules := ?_ }
      dsimp only [reset]
      unfold Executor.resetState
      split <;> rfl
    have fails : ∀ status, status ≠ .notInitialized -> status ≠ .alreadyExists ->
        Evolves (state.AllowedIn (.ruleReturns frameStatus frameSize))
          (state.MayChangeRearm (.ruleReturns frameStatus frameSize)) state
          (reset.executed execution status) := fun status notSkipped notThere =>
      resets.trans (evolves_executed (allowedIn_clear state _) reset fun isComplete =>
        absurd isComplete (not_or.mpr ⟨notSkipped, notThere⟩))
    split
    · exact fails _ (by decide) (by decide)
    · split
      · exact fails _ (by decide) (by decide)
      · exact { Evolves.refl _ with }
    · split
      · exact fails _ (by decide) (by decide)
      · exact { Evolves.refl _ with }
    · refine resets.trans (evolves_executed (allowedIn_clear state _) reset fun _ requested => ?_)
      exact ⟨⟨execution, running, rfl⟩, fun _ => .inr ⟨⟨execution, running, rfl⟩, requested⟩⟩
    all_goals exact fails _ (by decide) (by decide)
  · exact .refl state

theorem evolves_sendReturns (accepted : Bool) :
    Evolves (state.AllowedIn (.sendReturns accepted))
      (state.MayChangeRearm (.sendReturns accepted)) state (state.sendReturns accepted) := by
  unfold sendReturns
  split
  · rename_i execution moreFrames running
    split
    · refine Evolves.trans ?_ (evolves_executed (allowedIn_clear state _) _ ?_)
      · refine { Evolves.refl _ with rules := ?_ }
        unfold Executor.finish
        split <;> rfl
      · cases moreFrames <;> simp
    · refine Evolves.trans ?_ (evolves_executed (allowedIn_clear state _) _ (by simp))
      refine { Evolves.refl _ with rules := ?_ }
      unfold Executor.resetState
      split <;> rfl
  · exact .refl state

/-- One round of the scan changes only what it is allowed to. -/
theorem evolves_iterate (scanning : state.control = .scanning) :
    Evolves (state.AllowedIn .iterate) (state.MayChangeRearm .iterate) state state.iterate := by
  unfold iterate
  split
  · exact evolves_endNext state
  · rename_i node index below onTop
    split
    · exact { Evolves.refl _ with }
    · rename_i visitable
      obtain ⟨unpaused, there⟩ : state.isNodeOrParentPaused node = false ∧
          state.store.nodeExists node = true := by simpa using visitable
      dsimp only
      split
      · rename_i allVisited
        refine Evolves.trans ?_ (evolves_visitNode (allowedIn_clear state _) _
          fun notGet notSet requested => ?_)
        · exact { Evolves.refl _ with }
        · have completes : state.CompletesRuleOf node .iterate :=
            ⟨scanning, ⟨index, below, onTop, unpaused, there, allVisited⟩, notGet, notSet⟩
          exact ⟨completes, fun _ => .inr ⟨completes, requested⟩⟩
      · exact { Evolves.refl _ with }

theorem evolves_restartSetResolution (node : NodeId) (aborts : Option RuleType) :
    Evolves (state.AllowedIn (.restartSet node aborts))
      (state.MayChangeRearm (.restartSet node aborts)) state
      (state.restartSetResolution node aborts) := by
  unfold restartSetResolution
  split
  · rename_i marked
    extract_lets erased resumed aborted
    have resumes : Writes (state.AllowedIn (.restartSet node aborts)) state resumed := by
      refine Writes.trans ?_ (writes_resumeNodeResolution erased node)
      exact { Writes.refl _ with }
    have afterAbort : Evolves (state.AllowedIn (.restartSet node aborts))
        (state.MayChangeRearm (.restartSet node aborts)) state aborted := by
      dsimp only [aborted]
      split
      · exact resumes.evolves
      · refine resumes.evolves.trans (evolves_onResolverSendDataComplete _ _ ?_)
        rw [resumes.executor, resumes.rearm]
        exact fun pending requested =>
          ⟨⟨rfl, pending, marked⟩, fun _ => .inr ⟨⟨rfl, pending, marked⟩, requested⟩⟩
    exact afterAbort.trans (schedules_scanNode aborted node).writes.evolves
  · exact .refl state

theorem evolves_requestRearm (retryCount : UInt8) (permitted : rearmed node) :
    Evolves allowed rearmed state (state.requestRearmAfterCompletion node retryCount) := by
  refine ⟨.refl _, rfl, rfl, fun _ _ => .inl rfl, fun other => ?_⟩
  rw [requestRearmAfterCompletion, lookup_assign]
  by_cases same : other = node
  · exact .inr (same ▸ permitted)
  · exact .inl (if_neg same)

/-- Every step writes allowed values only. -/
theorem evolves_step (keepsGroups : ¬ChangesGroups action) :
    Evolves (state.AllowedIn action) (state.MayChangeRearm action) state (state.step action) := by
  cases action with
  | writeValue valueState node value =>
    refine (writes_writeValue state ?_).evolves
    cases valueState with
    | reported => trivial
    | desired =>
      by_cases cleared : value = []
      · exact .inl cleared
      · exact .inr ⟨rfl, cleared⟩
  | addNode | deleteNode | registerRules | setAttributeDepth => exact absurd trivial keepsGroups
  | sendDataComplete status node ruleType =>
    exact evolves_onResolverSendDataComplete status ruleType
      fun pending requested => ⟨⟨rfl, pending⟩, fun _ => .inr ⟨⟨rfl, pending⟩, requested⟩⟩
  | ruleAbort node =>
    exact evolves_releaseSlot (allowedIn_clear state _) state
      fun pending requested => ⟨⟨rfl, pending⟩, fun _ => .inr ⟨⟨rfl, pending⟩, requested⟩⟩
  | ruleTimeout =>
    show Evolves _ _ state state.onRuleExecutionTimeout
    unfold onRuleExecutionTimeout
    split
    · rename_i running
      refine Evolves.trans ?_ (evolves_onResolverSendDataComplete _ _ ?_)
      · exact { Evolves.refl _ with }
      · exact fun pending requested =>
          ⟨⟨running, pending⟩, fun _ => .inr ⟨⟨running, pending⟩, requested⟩⟩
    · exact .refl state
  | scanNode node => exact (schedules_scanNode state node).writes.evolves
  | pause | clearListener | tick => exact { Evolves.refl _ with }
  | resume node => exact (writes_resumeNodeResolution state node).evolves
  | setListener node callback =>
    show Evolves _ _ state (state.setResolutionListener node callback)
    unfold setResolutionListener
    split
    · exact .refl state
    · refine Evolves.trans ?_ (schedules_scanNode _ node).writes.evolves
      exact { Evolves.refl _ with }
  | restartSet node aborts => exact evolves_restartSetResolution state node aborts
  | restartGet node =>
    show Evolves _ _ state (state.restartGetResolution node)
    unfold restartGetResolution
    split
    · refine Evolves.trans ?_ (schedules_scanNode _ node).writes.evolves
      exact { Evolves.refl _ with }
    · exact .refl state
  | restartExhaustedGets node =>
    show Evolves _ _ state (state.restartExhaustedGetResolutions node)
    unfold restartExhaustedGetResolutions
    split
    · exact .refl state
    · exact (writes_restartExhaustedTo _ state node).evolves
  | requestRearm node retryCount => exact evolves_requestRearm state retryCount rfl
  | startGroupResolution node retryCount =>
    show Evolves _ _ state (state.startGroupResolution node retryCount)
    unfold startGroupResolution
    split
    · rename_i marked
      exact evolves_requestRearm state retryCount ⟨rfl, marked⟩
    · rename_i unmarked
      refine ((writes_writeValue state ?_).trans (writes_writeValue _ ?_)).evolves
      · trivial
      · exact .inr ⟨rfl, by simpa using unmarked⟩
  | resumeTimerExpires =>
    show Evolves _ _ state state.resumeTimerExpires
    unfold resumeTimerExpires
    split
    · extract_lets stopped
      have stops : Evolves (state.AllowedIn .resumeTimerExpires)
          (state.MayChangeRearm .resumeTimerExpires) state stopped :=
        { Evolves.refl _ with }
      split
      · exact stops
      · exact stops.trans (schedules_resumeExpiredPendingGetNodes stopped).writes.evolves
    · exact .refl state
  | handleEvent =>
    show Evolves _ _ state (if state.control = .idle then state.handleEvent else state)
    split
    · unfold handleEvent
      split
      · exact .refl state
      · unfold evNext
        split
        · exact { Evolves.refl _ with }
        · extract_lets begun
          have begins : Evolves (state.AllowedIn .handleEvent)
              (state.MayChangeRearm .handleEvent) state begun := by
            dsimp only [begun]
            split <;> exact { Evolves.refl _ with }
          split
          · exact begins.trans (evolves_endNext begun)
          · exact begins.trans { Evolves.refl _ with }
      all_goals exact { Evolves.refl _ with }
    · exact .refl state
  | iterate =>
    show Evolves _ _ state (if state.control = .scanning then state.iterate else state)
    split
    · rename_i scanning
      exact evolves_iterate state scanning
    · exact .refl state
  | ruleReturns frameStatus frameSize => exact evolves_ruleReturns state frameStatus frameSize
  | sendReturns accepted => exact evolves_sendReturns state accepted

end Resolver

end AttributeResolver
