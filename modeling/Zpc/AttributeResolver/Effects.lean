import Zpc.AttributeResolver.Machine

/-!
# What the functions of the resolver change

Scheduling a scan touches the child indices of the stack, the request for a scan
and the event queue only.  The callbacks of the store and of the rule executor
schedule scans, take resolutions out of the pending ones and write values.  None
of them takes an event out of the queue, puts a node on the stack or marks a Set
resolution as pending.
-/

namespace AttributeResolver

open Foundation

namespace Resolver

/-- A step that schedules scans: the stack has the same nodes, events are added
only, and a new request for a scan comes with an event. -/
structure Schedules (before after : Resolver) : Prop where
  same : after =
    { before with
      stack := after.stack
      setRetryCooldownUntil := after.setRetryCooldownUntil
      scanRequested := after.scanRequested
      events := after.events }
  stack : after.stack.map (·.1) = before.stack.map (·.1)
  events : before.events <+: after.events
  requested : before.scanRequested = true -> after.scanRequested = true
  posted : after.scanRequested = true -> before.scanRequested = true ∨ Event.next ∈ after.events

theorem Schedules.refl (state : Resolver) : state.Schedules state where
  same := rfl
  stack := rfl
  events := List.prefix_rfl
  requested := id
  posted := .inl

variable {first second third : Resolver}

theorem Schedules.trans (earlier : first.Schedules second) (later : second.Schedules third) :
    first.Schedules third where
  same := by
    rw [later.same, earlier.same]
  stack := later.stack.trans earlier.stack
  events := earlier.events.trans later.events
  requested request := later.requested (earlier.requested request)
  posted request := by
    rcases later.posted request with before | after
    · exact (earlier.posted before).imp_right fun mem => later.events.subset mem
    · exact .inr after

variable (state : Resolver) (node : NodeId) {α : Type*}

theorem schedules_post (event : Event) : state.Schedules (state.post event) where
  same := rfl
  stack := rfl
  events := List.prefix_append _ _
  requested := id
  posted := .inl

theorem resetIndex_nodes (stack : List (NodeId × Nat)) (node : NodeId) :
    (resetIndex stack node).map (·.1) = stack.map (·.1) := by
  induction stack with
  | nil => rfl
  | cons entry below ih =>
    rw [resetIndex]
    split
    · simp [ih]
    · split
      · rename_i isNode
        simp [isNode]
      · rfl

theorem schedules_setCommonParentStackIndexZero :
    state.Schedules (state.setCommonParentStackIndexZero node) := by
  unfold setCommonParentStackIndexZero
  split
  · exact .refl state
  · exact ⟨rfl, resetIndex_nodes _ _, List.prefix_rfl, id, .inl⟩

theorem schedules_requestScan : state.Schedules state.requestScan := by
  unfold requestScan
  split
  · exact .refl state
  · exact ⟨rfl, rfl, List.prefix_append _ _, fun _ => rfl, fun _ => .inr (by simp [post])⟩

theorem schedules_scanNode : state.Schedules (state.scanNode node) := by
  unfold scanNode
  split
  · exact .refl state
  · refine .trans ?_ (schedules_requestScan _)
    split
    · exact .refl state
    · exact schedules_setCommonParentStackIndexZero state node

theorem schedules_isNodeToBeScanned : state.Schedules (state.isNodeToBeScanned node).2 := by
  unfold isNodeToBeScanned
  repeat' split
  all_goals first
    | exact .refl state
    | exact ⟨rfl, rfl, List.prefix_rfl, id, .inl⟩

theorem schedules_scanIfNeeded : state.Schedules (state.scanIfNeeded node) := by
  unfold scanIfNeeded
  split
  · exact (schedules_isNodeToBeScanned state node).trans (schedules_scanNode _ node)
  · exact schedules_isNodeToBeScanned state node

theorem schedules_considerPendingGet (considered : Resolver × Nat) (entry : NodeId × PendingGet) :
    considered.1.Schedules (considerPendingGet considered entry).1 := by
  unfold considerPendingGet
  dsimp only
  repeat' split
  all_goals first
    | exact .refl _
    | exact schedules_scanNode _ _

theorem schedules_considerCooldown (considered : Resolver × Nat) (entry : NodeId × Nat) :
    considered.1.Schedules (considerCooldown considered entry).1 := by
  unfold considerCooldown
  split
  · exact schedules_scanNode _ _
  · exact .refl _

theorem schedules_foldl (consider : Resolver × Nat -> α -> Resolver × Nat)
    (schedules : ∀ (considered : Resolver × Nat) (entry : α),
      considered.1.Schedules (consider considered entry).1)
    (entries : List α)
    (considered : Resolver × Nat) :
    considered.1.Schedules (entries.foldl consider considered).1 := by
  induction entries generalizing considered with
  | nil => exact .refl _
  | cons entry rest ih => exact (schedules considered entry).trans (ih _)

theorem schedules_restartPendingGetNodesTimer :
    state.Schedules state.restartPendingGetNodesTimer := by
  have loops := (schedules_foldl considerPendingGet schedules_considerPendingGet
    state.pendingGetResolutions (state, 0)).trans
      (schedules_foldl considerCooldown schedules_considerCooldown
        state.setRetryCooldownUntil _)
  unfold restartPendingGetNodesTimer
  dsimp only
  split
  · exact loops.trans (schedules_post _ _)
  · exact loops

theorem schedules_resumeExpiredPendingGetNodes :
    state.Schedules state.resumeExpiredPendingGetNodes := by
  refine .trans ?_ (schedules_restartPendingGetNodesTimer _)
  generalize state.pendingGetResolutions.map (·.1) = nodes
  induction nodes generalizing state with
  | nil => exact .refl state
  | cons node rest ih => exact (schedules_scanIfNeeded state node).trans (ih _)

theorem schedules_watchIfResolved : state.Schedules (state.watchIfResolved node) := by
  unfold watchIfResolved
  split
  · exact schedules_post state _
  · exact .refl state

theorem schedules_postNextIfScanning : state.Schedules state.postNextIfScanning := by
  unfold postNextIfScanning
  split
  · exact .refl state
  · exact schedules_post state _

/-- What every callback leaves as it is: the executor and the control of the
resolver thread, the nodes on the stack and the root.  Events are added only, a
new request for a scan comes with an event, and no Set resolution becomes
pending. -/
structure Keeps (before after : Resolver) : Prop where
  executor : after.executor = before.executor
  control : after.control = before.control
  root : after.store.root = before.store.root
  stack : after.stack.map (·.1) = before.stack.map (·.1)
  events : before.events <+: after.events
  posted : after.scanRequested = true -> before.scanRequested = true ∨ Event.next ∈ after.events
  pendingSet : ∀ node, hasKey after.pendingSetResolutions node = true ->
    hasKey before.pendingSetResolutions node = true

theorem Keeps.refl (state : Resolver) : state.Keeps state :=
  ⟨rfl, rfl, rfl, rfl, List.prefix_rfl, .inl, fun _ => id⟩

theorem Keeps.trans (earlier : first.Keeps second) (later : second.Keeps third) :
    first.Keeps third where
  executor := later.executor.trans earlier.executor
  control := later.control.trans earlier.control
  root := later.root.trans earlier.root
  stack := later.stack.trans earlier.stack
  events := earlier.events.trans later.events
  posted request := by
    rcases later.posted request with before | after
    · exact (earlier.posted before).imp_right fun mem => later.events.subset mem
    · exact .inr after
  pendingSet node pending := earlier.pendingSet node (later.pendingSet node pending)

theorem Schedules.keeps {before after : Resolver} (schedules : before.Schedules after) :
    before.Keeps after where
  executor := by rw [schedules.same]
  control := by rw [schedules.same]
  root := by rw [schedules.same]
  stack := schedules.stack
  events := schedules.events
  posted := schedules.posted
  pendingSet node pending := by
    rw [schedules.same] at pending
    exact pending

theorem keeps_foldl (body : Resolver -> α -> Resolver)
    (keeps : ∀ (state : Resolver) (entry : α), state.Keeps (body state entry)) (entries : List α)
    (state : Resolver) : state.Keeps (entries.foldl body state) := by
  induction entries generalizing state with
  | nil => exact .refl state
  | cons entry rest ih => exact (keeps state entry).trans (ih _)

theorem keeps_onResolverNodeUpdate : state.Keeps (state.onResolverNodeUpdate node) := by
  unfold onResolverNodeUpdate
  split
  · exact .refl state
  · extract_lets forgotten unset
    have forgets : state.Keeps forgotten := by
      dsimp only [forgotten]
      split
      · exact { Keeps.refl _ with }
      · exact .refl state
    have unsets : forgotten.Keeps unset := by
      dsimp only [unset]
      split
      · exact ⟨rfl, rfl, rfl, rfl, List.prefix_rfl, .inl, fun other pending => by
          simp only [hasKey_eraseKey, Bool.and_eq_true] at pending
          exact pending.2⟩
      · exact .refl forgotten
    refine forgets.trans (unsets.trans ?_)
    split
    · exact (schedules_scanNode _ _).keeps
    · exact (schedules_scanIfNeeded _ _).keeps

theorem keeps_changeValue (valueState : ValueState) (node : NodeId) (value : List UInt8) :
    state.Keeps (state.changeValue valueState node value) :=
  { Keeps.refl _ with }

theorem keeps_writeValue (valueState : ValueState) (node : NodeId) (value : List UInt8) :
    state.Keeps (state.writeValue valueState node value) := by
  unfold writeValue
  split
  · exact .refl state
  · split
    · exact (keeps_changeValue state valueState node value).trans
        (keeps_onResolverNodeUpdate _ node)
    · exact keeps_changeValue state valueState node value

theorem keeps_giveUpNode : state.Keeps (state.giveUpNode node) :=
  (keeps_writeValue state .desired node []).trans
    { Keeps.refl _ with }

theorem keeps_completeGet : state.Keeps (state.completeGet node) := by
  unfold completeGet
  split
  · exact .refl state
  · split
    · extract_lets timed restarted givenUp
      have times : state.Keeps timed := { Keeps.refl _ with }
      have restarts : timed.Keeps restarted := (schedules_restartPendingGetNodesTimer timed).keeps
      refine times.trans (restarts.trans ?_)
      split
      · have givesUp : restarted.Keeps givenUp :=
          (keeps_foldl giveUpNode keeps_giveUpNode _ restarted).trans
            { Keeps.refl _ with }
        exact givesUp.trans (schedules_scanNode _ _).keeps
      · exact .refl restarted
    · exact .refl state

theorem keeps_completeSet : state.Keeps (state.completeSet node) := by
  have erases :
      state.Keeps
        { state with pendingSetResolutions := eraseKey state.pendingSetResolutions node } :=
    ⟨rfl, rfl, rfl, rfl, List.prefix_rfl, .inl, fun other pending => by
      simp only [hasKey_eraseKey, Bool.and_eq_true] at pending
      exact pending.2⟩
  unfold completeSet
  split
  · exact .refl state
  · exact erases
  · exact erases.trans (schedules_scanNode _ node).keeps

theorem keeps_rearm : state.Keeps (state.rearm node) := by
  unfold rearm
  split
  · exact .refl state
  · refine Keeps.trans ?_ (keeps_writeValue _ .desired node _)
    exact { Keeps.refl _ with }

theorem keeps_paceSet : state.Keeps (state.paceSet node) := by
  unfold paceSet
  split
  · refine Keeps.trans ?_ (schedules_restartPendingGetNodesTimer _).keeps
    exact { Keeps.refl _ with }
  · exact { Keeps.refl _ with }

/-- The part of `on_resolver_rule_execute_complete` before the scan goes on. -/
def completeRule (state : Resolver) (node : NodeId) : Resolver :=
  let state := state.completeGet node
  let singleFrameSetCompleted := decide (state.pendingSetResolutions.lookup node = some false)
  let state := (state.completeSet node).rearm node
  let state := if singleFrameSetCompleted then state.paceSet node else state
  state.watchIfResolved node

theorem onResolverRuleExecuteComplete_eq :
    state.onResolverRuleExecuteComplete node = (state.completeRule node).postNextIfScanning := rfl

theorem keeps_completeRule : state.Keeps (state.completeRule node) := by
  unfold completeRule
  extract_lets got single rearmed paced
  have gets : state.Keeps got := keeps_completeGet state node
  have rearms : got.Keeps rearmed := (keeps_completeSet got node).trans (keeps_rearm _ node)
  have paces : rearmed.Keeps paced := by
    dsimp only [paced]
    split
    · exact keeps_paceSet rearmed node
    · exact .refl rearmed
  exact gets.trans (rearms.trans (paces.trans (schedules_watchIfResolved paced node).keeps))

theorem keeps_onResolverRuleExecuteComplete :
    state.Keeps (state.onResolverRuleExecuteComplete node) :=
  (keeps_completeRule state node).trans (schedules_postNextIfScanning _).keeps

theorem keeps_settleNode (status : SendStatus) (state : Resolver) (node : NodeId) :
    state.Keeps (settleNode status state node) := by
  unfold settleNode
  split
  all_goals first
    | exact .refl state
    | exact keeps_writeValue _ _ _ _
    | exact (keeps_writeValue _ _ _ _).trans (keeps_writeValue _ _ _ _)

theorem keeps_settle (status : SendStatus) (node : NodeId) (ruleType : RuleType) :
    state.Keeps (state.settle status node ruleType) := by
  unfold settle
  extract_lets moreFrames undefined
  have undefines : state.Keeps undefined := by
    dsimp only [undefined]
    split
    · exact keeps_writeValue _ _ _ _
    · exact .refl state
  split
  · exact .refl state
  · split
    · exact undefines.trans (keeps_foldl (settleNode status) (keeps_settleNode status) _ _)
    · exact undefines

theorem next_mem_of_complete (scanning : (state.onResolverRuleExecuteComplete node).stack ≠ []) :
    Event.next ∈ (state.onResolverRuleExecuteComplete node).events := by
  rw [onResolverRuleExecuteComplete_eq] at scanning ⊢
  unfold postNextIfScanning at scanning ⊢
  split
  · rename_i empty
    rw [if_pos empty] at scanning
    exact absurd (List.isEmpty_iff.mp empty) scanning
  · simp [post]

theorem keeps_resumeNodeResolution : state.Keeps (state.resumeNodeResolution node) := by
  unfold resumeNodeResolution
  extract_lets resumed
  have resumes : state.Keeps resumed := { Keeps.refl _ with }
  split
  · exact resumes
  · exact resumes.trans (schedules_scanNode resumed node).keeps

theorem keeps_restartExhaustedTo (depth : Nat) (state : Resolver) (node : NodeId) :
    state.Keeps (restartExhaustedTo depth state node) := by
  induction depth generalizing state node with
  | zero => exact .refl state
  | succ depth ih =>
    unfold restartExhaustedTo
    extract_lets restarted
    have restarts : state.Keeps restarted := by
      dsimp only [restarted]
      split
      · refine Keeps.trans ?_ (schedules_scanNode _ node).keeps
        exact { Keeps.refl _ with }
      · exact .refl state
    exact restarts.trans (keeps_foldl _ ih _ restarted)

/-- A property that the callbacks keep, that survives the release of a slot, and
that does not depend on the rule book or the timer of the executor. -/
structure CallbackInvariant (property : Resolver -> Prop) : Prop where
  keeps : ∀ {before after : Resolver}, property before -> before.Keeps after -> property after
  releaseSlot : ∀ {state : Resolver}, property state -> ∀ node, property (state.releaseSlot node)
  withExecutor : ∀ {state : Resolver} {executor : Executor}, property state ->
    executor.resolverState = state.executor.resolverState ->
    executor.nodePendingResolution = state.executor.nodePendingResolution ->
    property { state with executor := executor }

namespace CallbackInvariant

variable {property : Resolver -> Prop} (invariant : CallbackInvariant property)
include invariant

variable {state : Resolver}

theorem onResolverSendDataComplete (holds : property state) (status : SendStatus) (node : NodeId)
    (ruleType : RuleType) : property (state.onResolverSendDataComplete status node ruleType) :=
  invariant.releaseSlot (invariant.keeps holds (keeps_settle state status node ruleType)) node

theorem onResolverNodeDeleted (holds : property state) (node : NodeId) :
    property (state.onResolverNodeDeleted node) := by
  unfold Resolver.onResolverNodeDeleted
  extract_lets forgotten released
  have forgets : state.Keeps forgotten :=
    ⟨rfl, rfl, rfl, rfl, List.prefix_rfl, .inl, fun other pending => by
      simp only [forgotten, hasKey_eraseKey, Bool.and_eq_true] at pending
      exact pending.2⟩
  exact invariant.keeps (invariant.releaseSlot (invariant.keeps holds forgets) node)
    (schedules_scanNode released _).keeps

theorem restartSetResolution (holds : property state) (node : NodeId) (aborts : Option RuleType) :
    property (state.restartSetResolution node aborts) := by
  unfold Resolver.restartSetResolution
  split
  · extract_lets erased resumed aborted
    have erases : state.Keeps erased :=
      ⟨rfl, rfl, rfl, rfl, List.prefix_rfl, .inl, fun other pending => by
        simp only [erased, hasKey_eraseKey, Bool.and_eq_true] at pending
        exact pending.2⟩
    have resumes : property resumed :=
      invariant.keeps holds (erases.trans (keeps_resumeNodeResolution erased node))
    have afterAbort : property aborted := by
      dsimp only [aborted]
      split
      · exact resumes
      · exact invariant.onResolverSendDataComplete resumes _ _ _
    exact invariant.keeps afterAbort (schedules_scanNode aborted node).keeps
  · exact holds

/-- Such a property is kept by every step that the four moves of the resolver
thread keep it by. -/
theorem step (action : Action) (holds : property state)
    (handlesEvent : state.control = .idle -> property state.handleEvent)
    (iterates : state.control = .scanning -> property state.iterate)
    (ruleReturns : ∀ frameStatus frameSize, action = .ruleReturns frameStatus frameSize ->
      property (state.ruleReturns frameStatus frameSize))
    (sendReturns : ∀ accepted, action = .sendReturns accepted ->
      property (state.sendReturns accepted)) :
    property (state.step action) := by
  have unrelated : ∀ {after : Resolver}, state.Keeps after -> property after := fun keeps =>
    invariant.keeps holds keeps
  cases action with
  | writeValue valueState node value => exact unrelated (keeps_writeValue _ _ _ _)
  | addNode node type parent =>
    show property (state.addNode node type parent)
    unfold addNode
    split
    · exact holds
    · extract_lets added
      have adds : state.Keeps added := { Keeps.refl _ with }
      split
      · exact unrelated (adds.trans (keeps_onResolverNodeUpdate added node))
      · exact unrelated adds
  | deleteNode node =>
    show property (state.deleteNode node)
    unfold deleteNode
    split
    · exact holds
    · extract_lets forgotten
      have forgets : property forgotten := by
        dsimp only [forgotten]
        split
        · exact invariant.onResolverNodeDeleted holds node
        · exact holds
      exact invariant.keeps forgets { Keeps.refl _ with }
  | sendDataComplete status node ruleType =>
    exact invariant.onResolverSendDataComplete holds status node ruleType
  | ruleAbort node => exact invariant.releaseSlot holds node
  | ruleTimeout =>
    show property state.onRuleExecutionTimeout
    unfold onRuleExecutionTimeout
    split
    · refine invariant.onResolverSendDataComplete ?_ _ _ _
      exact invariant.withExecutor holds rfl rfl
    · exact holds
  | scanNode node => exact unrelated (schedules_scanNode state node).keeps
  | pause | tick => exact unrelated { Keeps.refl _ with }
  | resume node => exact unrelated (keeps_resumeNodeResolution state node)
  | setListener node callback =>
    show property (state.setResolutionListener node callback)
    unfold setResolutionListener
    split
    · exact holds
    · refine unrelated (Keeps.trans ?_ (schedules_scanNode _ node).keeps)
      exact { Keeps.refl _ with }
  | clearListener | requestRearm | setAttributeDepth =>
    exact unrelated { Keeps.refl _ with }
  | restartSet node aborts => exact invariant.restartSetResolution holds node aborts
  | restartGet node =>
    show property (state.restartGetResolution node)
    unfold restartGetResolution
    split
    · refine unrelated (Keeps.trans ?_ (schedules_scanNode _ node).keeps)
      exact { Keeps.refl _ with }
    · exact holds
  | restartExhaustedGets node =>
    show property (state.restartExhaustedGetResolutions node)
    unfold restartExhaustedGetResolutions
    split
    · exact holds
    · exact unrelated (keeps_restartExhaustedTo _ state node)
  | startGroupResolution node retryCount =>
    show property (state.startGroupResolution node retryCount)
    unfold startGroupResolution
    split
    · exact unrelated { Keeps.refl _ with }
    · exact unrelated ((keeps_writeValue _ _ _ _).trans (keeps_writeValue _ _ _ _))
  | registerRules type rules =>
    show property (state.registerRules type rules)
    unfold registerRules
    extract_lets _ registered
    have withRules : property { state with executor := state.executor.registerRules type rules } :=
      invariant.withExecutor holds rfl rfl
    have registers : property registered :=
      invariant.keeps withRules { Keeps.refl _ with }
    split
    · exact invariant.keeps registers (schedules_requestScan registered).keeps
    · exact registers
  | resumeTimerExpires =>
    show property state.resumeTimerExpires
    unfold resumeTimerExpires
    split
    · extract_lets stopped
      have stops : state.Keeps stopped := { Keeps.refl _ with }
      split
      · exact unrelated stops
      · exact unrelated
          (stops.trans (schedules_resumeExpiredPendingGetNodes stopped).keeps)
    · exact holds
  | handleEvent =>
    show property (if state.control = .idle then state.handleEvent else state)
    split
    · rename_i idle
      exact handlesEvent idle
    · exact holds
  | iterate =>
    show property (if state.control = .scanning then state.iterate else state)
    split
    · rename_i running
      exact iterates running
    · exact holds
  | ruleReturns frameStatus frameSize => exact ruleReturns frameStatus frameSize rfl
  | sendReturns accepted => exact sendReturns accepted rfl

end CallbackInvariant

end Resolver

end AttributeResolver
