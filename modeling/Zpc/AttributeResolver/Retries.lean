import Zpc.AttributeResolver.RetryAccounts
import Zpc.AttributeResolver.Evolution

/-!
# Bounded retries and reported give-ups

Under the conditions below the attempts of a Get stay within the retry count of
its node, and a node is not left without retries before its give-up was reported
once.  The conditions are about the answers of the rule functions, about the
moment at which completions and values arrive, and about the other nodes of the
group.  The resolver sees to none of them.
-/

namespace AttributeResolver

open Foundation

namespace Resolver

/-! ## The conditions -/

/-- The completion of the rule of a node concerns no pending Get of another node,
and no re-arm comes on top of a Get. -/
def CompletesAlone (state : Resolver) (node : NodeId) : Prop :=
  (hasKey state.rearmAfterCompletion node = true ->
    state.pendingGetResolutions.lookup node = none) ∧
  (state.isNodeGetResolutionMaxRetriesReached node = true -> state.needsGet node = true ->
    ∀ other ∈ state.groupNodes .getRule node,
      other = node ∨ state.store.isValueDefined .reported other = true)

/-- The answer to a Get: a frame that is sent, or, unless it was the last attempt,
anything. -/
def AnswersGet (state : Resolver) (execution : Execution) (answered : Prop) : Prop :=
  execution.ruleType = .getRule -> answered ∨
    (execution.isRetry = true ∧ state.isNodeGetResolutionMaxRetriesReached execution.node = false)

/-- What a step must be like for the accounts to be kept. -/
def KeepsAccounts (state : Resolver) : Action -> Prop
  | .writeValue .desired node value =>
      state.store.value .desired node ≠ value ->
        ∀ pending, state.pendingGetResolutions.lookup node = some pending ->
          state.SafeWrite node value pending
  | .startGroupResolution node retryCount =>
      hasKey state.pendingSetResolutions node = false ->
        ∀ pending, state.pendingGetResolutions.lookup node = some pending ->
          state.SafeWrite node [retryCount] pending
  | .sendDataComplete _ node ruleType =>
      state.executor.nodePendingResolution = node ->
        state.executor.resolverState = .executingGetRule -> ruleType = .getRule
  | .ruleReturns frameStatus frameSize =>
      ∀ execution, state.control = .ruleFunction execution ->
        state.AnswersGet execution
          ((frameStatus = some .ok ∨ frameStatus = some .inProgress) ∧ frameSize ≤ maxFrameLen)
  | .sendReturns accepted =>
      ∀ execution moreFrames, state.control = .sending execution moreFrames ->
        state.AnswersGet execution
          (accepted = true ∧
            (execution.isRetry = true ∨
              (state.executor.nodePendingResolution = execution.node ∧
                state.needsGet execution.node = true ∧
                state.store.nodeExists execution.node = true)))
  | .restartGet node => hasKey state.pendingGetResolutions node = false
  | .restartExhaustedGets _ =>
      ∀ node, state.needsGet node = true -> state.isNodeGetResolutionMaxRetriesReached node = false
  | .registerRules type _ => state.executor.rulesOf type = none
  | _ => True

/-! ## Completions -/

section Complete

variable {state : Resolver} {node : NodeId}

theorem sameBooks_completeSet (state : Resolver) (node : NodeId) :
    state.SameBooks (state.completeSet node) := by
  have erases : state.SameBooks
      { state with pendingSetResolutions := eraseKey state.pendingSetResolutions node } :=
    { SameBooks.refl _ with }
  unfold completeSet
  split
  · exact .refl state
  · exact erases
  · exact erases.trans (schedules_scanNode _ node).sameBooks

theorem sameBooks_paceSet (state : Resolver) (node : NodeId) :
    state.SameBooks (state.paceSet node) := by
  unfold paceSet
  split
  · refine SameBooks.trans ?_ (schedules_restartPendingGetNodesTimer _).sameBooks
    exact { SameBooks.refl _ with }
  · exact { SameBooks.refl _ with }

theorem completeGet_of_absent (none : state.pendingGetResolutions.lookup node = none) :
    state.completeGet node = state := by
  unfold completeGet
  rw [none]

theorem Ledger.complete {leftOut : NodeId -> Prop} (gets : Ledger leftOut (state.completeGet node))
    (rearms : hasKey state.rearmAfterCompletion node = true ->
      state.pendingGetResolutions.lookup node = none) :
    Ledger leftOut (state.onResolverRuleExecuteComplete node) := by
  unfold onResolverRuleExecuteComplete
  extract_lets got single rearmed paced
  have sets := gets.congr (sameBooks_completeSet got node)
  have keepsRequest : (got.completeSet node).rearmAfterCompletion = state.rearmAfterCompletion :=
    (@writes_beforeRearm (fun _ _ _ => True) (fun _ => trivial) state node).rearm
  have isRearmed : Ledger leftOut rearmed := by
    dsimp only [rearmed]
    unfold rearm
    split
    · exact sets
    · rename_i retryCount requested
      have none := rearms (by rw [← keepsRequest, hasKey, requested]; rfl)
      have same : (got.completeSet node).pendingGetResolutions.lookup node = Option.none := by
        rw [(sameBooks_completeSet got node).pendingGet]
        dsimp only [got]
        rw [completeGet_of_absent none, none]
      refine Ledger.writeValue ?_ fun _ _ _ pending found => ?_
      · exact sets.congr { SameBooks.refl _ with }
      · rw [show (got.completeSet node).pendingGetResolutions.lookup node = some pending
          from found] at same
        cases same
  have isPaced : Ledger leftOut paced := by
    dsimp only [paced]
    split
    · exact isRearmed.congr (sameBooks_paceSet rearmed node)
    · exact isRearmed
  exact (isPaced.congr (schedules_watchIfResolved paced node).sameBooks).congr
    (schedules_postNextIfScanning _).sameBooks

theorem Ledger.absent_of_set (ledger : FullLedger state)
    (held : state.executor.nodePendingResolution = node)
    (notGet : state.executor.resolverState ≠ .executingGetRule) :
    state.pendingGetResolutions.lookup node = none := by
  by_contra found
  obtain ⟨pending, isPending⟩ := Option.ne_none_iff_exists'.mp found
  have there := ledger.live node (by simp [hasKey, isPending])
  rcases (ledger.accounts node there id).present pending isPending with dormant | active
  · exact dormant.notHeld held
  · rcases active.phase with inFlight | waiting | givenUp
    · exact notGet inFlight.executes
    · exact waiting.notHeld held
    · exact givenUp.notHeld held

theorem completesAlone_of_absent (none : state.pendingGetResolutions.lookup node = none) :
    state.CompletesAlone node := by
  refine ⟨fun _ => none, fun reached => ?_⟩
  simp [isNodeGetResolutionMaxRetriesReached, none] at reached

/-- The resolver with a free slot. -/
def withFreeSlot (state : Resolver) : Resolver :=
  { state with
    executor :=
      { state.executor with
        nodePendingResolution := invalidNode
        resolverState := .idle
        ruleExecutionTimer := false } }

variable {leftOut : NodeId -> Prop}

theorem Ledger.withFreeSlot (ledger : Ledger leftOut state)
    (only : ∀ other, leftOut other -> other = node)
    (held : state.executor.nodePendingResolution = node) :
    Ledger (· = node) state.withFreeSlot where
  root := ledger.root
  retryCount := ledger.retryCount
  retryTimeout := ledger.retryTimeout
  rules := ledger.rules
  idle := ⟨fun _ => rfl, fun _ => rfl⟩
  scanning _ := rfl
  executing _ _ := .inl rfl
  fresh := ledger.fresh
  live := ledger.live
  accounts other there differs := by
    refine SameAccount.accounted ?_
      (ledger.accounts other there fun isOut => differs (only other isOut))
    refine ⟨rfl, rfl, rfl, fun _ => rfl, ?_, fun isHeld => ?_, fun _ _ => Iff.rfl, rfl, rfl, rfl⟩
    · exact ⟨fun isInvalid => absurd isInvalid.symm (nodeExists_ne_invalidNode there),
        fun isHeld => absurd (isHeld.symm.trans held) differs⟩
    · exact absurd (isHeld.symm.trans held) differs

theorem Ledger.completing (ledger : FullLedger state)
    (held : state.executor.nodePendingResolution = node) (alone : state.CompletesAlone node)
    {pending : PendingGet} (found : state.pendingGetResolutions.lookup node = some pending) :
    state.withFreeSlot.Completing node where
  ledger := ledger.withFreeSlot (fun _ => False.elim) held
  released := rfl
  executing execution executing := by
    have there := ledger.live node (by simp [hasKey, found])
    rcases ledger.executing execution executing with isInvalid | ⟨isNode, -⟩
    · exact absurd (held.symm.trans isInvalid) (nodeExists_ne_invalidNode there)
    · exact isNode.symm.trans held
  absent none := by
    rw [show state.pendingGetResolutions.lookup node = Option.none from none] at found
    cases found
  present other isOther := by
    have there := ledger.live node (by simp [hasKey, found])
    rcases (ledger.accounts node there id).present other isOther with dormant | active
    · exact absurd held dormant.notHeld
    · refine .inr ⟨active.needsGet, active.attempts, active.count, ?_⟩
      rcases active.phase with inFlight | waiting | givenUp
      · exact inFlight.giveUps
      · exact waiting.giveUps
      · exact absurd held givenUp.notHeld
  alone := alone.2

theorem Ledger.releaseSlot (ledger : FullLedger state)
    (alone : state.executor.nodePendingResolution = node -> state.CompletesAlone node) :
    FullLedger (state.releaseSlot node) := by
  unfold Resolver.releaseSlot
  split
  · rename_i completes
    have held : state.executor.nodePendingResolution = node := by
      simpa [Executor.completes] using completes
    have isFree : { state with executor := state.executor.release node } = state.withFreeSlot := by
      unfold Resolver.withFreeSlot Executor.release
      rw [if_pos held]
    rw [isFree]
    refine Ledger.complete ?_ (alone held).1
    cases found : state.pendingGetResolutions.lookup node with
    | some pending => exact (ledger.completing held (alone held) found).completeGet
    | none =>
      have same : state.withFreeSlot.completeGet node = state.withFreeSlot :=
        completeGet_of_absent found
      rw [same]
      refine (ledger.withFreeSlot (fun _ => False.elim) held).close fun there =>
        ⟨fun _ => ?_, fun pending isPending => ?_⟩
      · exact (ledger.accounts node there id).absent found
      · rw [show state.pendingGetResolutions.lookup node = some pending from isPending] at found
        cases found
  · exact ledger

/-! ## The completion of a frame -/

section

variable (ledger : FullLedger state)
include ledger

variable (status : SendStatus)

theorem Ledger.settleNode
    (rule : state.executor.hasRule .setRule (state.store.nodeType node) = true) :
    FullLedger (settleNode status state node) := by
  have cleared : ∀ value, FullLedger
      ((state.writeValue .reported node value).writeValue .desired node []) := by
    intro value
    have writes := @writes_writeValue (fun _ _ _ => True) state .reported node value trivial
    refine (ledger.writeReported node value).clearDesired ?_
    rw [writes.executor, writes.tree.nodeType]
    exact rule
  unfold Resolver.settleNode
  split
  · exact cleared []
  · exact cleared []
  · exact ledger.clearDesired rule
  · exact cleared _
  · exact ledger

theorem Ledger.settleNodes (nodes : List NodeId)
    (rule : ∀ other ∈ nodes, state.executor.hasRule .setRule (state.store.nodeType other) = true) :
    FullLedger (nodes.foldl (Resolver.settleNode status) state) := by
  induction nodes generalizing state with
  | nil => exact ledger
  | cons first rest ih =>
    have writes := @writes_settleNode (fun _ _ _ => True) status state first trivial
      fun _ => trivial
    refine ih (ledger.settleNode status (rule first List.mem_cons_self)) ?_
    intro other mem
    rw [writes.executor, writes.tree.nodeType]
    exact rule other (List.mem_cons_of_mem first mem)

theorem Ledger.settle (node : NodeId) (ruleType : RuleType) :
    FullLedger (state.settle status node ruleType) := by
  unfold Resolver.settle
  extract_lets moreFrames undefined
  have undefines : FullLedger undefined := by
    dsimp only [undefined]
    split
    · exact ledger.writeReported node []
    · exact ledger
  split
  · exact ledger
  · split
    · exact undefines.settleNodes status _ fun other mem => undefines.hasRule_of_groupNodes mem
    · exact undefines

theorem Ledger.onResolverSendDataComplete (status : SendStatus) {ruleType : RuleType}
    (sameRule : state.executor.nodePendingResolution = node ->
      state.executor.resolverState = .executingGetRule -> ruleType = .getRule)
    (alone : state.executor.nodePendingResolution = node -> state.CompletesAlone node) :
    FullLedger (state.onResolverSendDataComplete status node ruleType) := by
  have settled := ledger.settle status node ruleType
  refine settled.releaseSlot fun held => ?_
  have writes := @writes_settle (fun _ _ _ => True) (fun _ => trivial) (fun _ _ => trivial)
    state status node ruleType
  rw [writes.executor] at held
  by_cases isGet : state.executor.resolverState = .executingGetRule
  · rw [sameRule held isGet]
    exact alone held
  · refine completesAlone_of_absent (settled.absent_of_set ?_ ?_)
    · rw [writes.executor]
      exact held
    · rw [writes.executor]
      exact isGet

end

theorem Ledger.withExecutor (ledger : Ledger leftOut state) {executor : Executor}
    (rules : executor.ruleBook = state.executor.ruleBook)
    (held : executor.nodePendingResolution = state.executor.nodePendingResolution)
    (resolverState : executor.resolverState = state.executor.resolverState) :
    Ledger leftOut { state with executor := executor } where
  root := ledger.root
  retryCount := ledger.retryCount
  retryTimeout := ledger.retryTimeout
  rules entry mem := by
    unfold Executor.rulesOf
    rw [rules]
    exact ledger.rules entry mem
  idle := by
    rw [held, resolverState]
    exact ledger.idle
  scanning running := by
    rw [resolverState]
    exact ledger.scanning running
  executing execution executing := by
    rw [held, resolverState]
    exact ledger.executing execution executing
  fresh := ledger.fresh
  live := ledger.live
  accounts node there counted := by
    refine SameAccount.accounted ?_ (ledger.accounts node there counted)
    refine ⟨rfl, ?_, rfl, fun _ => rfl, ?_, fun _ => resolverState,
      fun _ _ => Iff.rfl, rfl, rfl, rfl⟩
    · unfold Executor.hasRule Executor.rulesOf
      rw [rules]
    · rw [held]

theorem Ledger.onRuleExecutionTimeout (ledger : FullLedger state)
    (alone : state.CompletesAlone state.executor.nodePendingResolution) :
    FullLedger state.onRuleExecutionTimeout := by
  unfold Resolver.onRuleExecutionTimeout
  split
  · refine Ledger.onResolverSendDataComplete ?_ .fail ?_ ?_
    · exact ledger.withExecutor rfl rfl rfl
    · intro _ isGet
      have isGet : state.executor.resolverState = .executingGetRule := isGet
      simp [Executor.timedOutRuleType, isGet]
    · exact fun _ => alone
  · exact ledger

end Complete

/-! ## The resolver thread -/

section Thread

variable {state : Resolver} {leftOut : NodeId -> Prop}

theorem Ledger.withControl (ledger : Ledger leftOut state) {control : Control}
    (outside : control = .idle ∨ (control = .scanning ∧ state.executor.resolverState = .idle))
    (settled : ∀ node, ¬leftOut node -> state.FirstGet node -> state.attempts.count node = 0) :
    Ledger leftOut { state with control := control } where
  root := ledger.root
  retryCount := ledger.retryCount
  retryTimeout := ledger.retryTimeout
  rules := ledger.rules
  idle := ledger.idle
  scanning running := by
    rcases outside with isIdle | ⟨-, isIdle⟩
    · exact absurd (isIdle.symm.trans running) (by decide)
    · exact isIdle
  executing execution executing := by
    rcases outside with rfl | ⟨rfl, -⟩ <;> simp [Executing] at executing
  fresh execution executing := by
    rcases outside with rfl | ⟨rfl, -⟩ <;> simp [Executing] at executing
  live := ledger.live
  accounts node there counted := by
    have accounted := ledger.accounts node there counted
    refine ⟨fun none => ?_, fun pending found => ?_⟩
    · obtain ⟨noGiveUps, attempts⟩ := accounted.absent none
      refine ⟨noGiveUps, .inl (attempts.elim id fun first => ?_)⟩
      exact settled node counted first.2
    · rcases accounted.present pending found with dormant | active
      · exact .inl ⟨dormant.rule, dormant.reported, dormant.desired, dormant.sendTimeout,
          dormant.count, dormant.notHeld, dormant.attempts, dormant.giveUps⟩
      · refine .inr ⟨active.needsGet, active.attempts, active.count, ?_⟩
        rcases active.phase with inFlight | waiting | givenUp
        · refine .inl ⟨inFlight.held, inFlight.executes, fun execution _ executing => ?_,
            inFlight.giveUps⟩
          rcases outside with rfl | ⟨rfl, -⟩ <;> simp [Executing] at executing
        · exact .inr (.inl ⟨waiting.notHeld, waiting.sendTimeout, waiting.count, waiting.giveUps⟩)
        · exact .inr (.inr ⟨givenUp.notHeld, givenUp.count, givenUp.desired, givenUp.giveUps⟩)

theorem Ledger.endNext (ledger : Ledger leftOut state)
    (settled : ∀ node, ¬leftOut node -> state.FirstGet node -> state.attempts.count node = 0) :
    Ledger leftOut state.endNext := by
  have leaves := ledger.withControl (.inl rfl) settled
  unfold Resolver.endNext
  dsimp only
  split
  · exact leaves.congr (schedules_post _ _).sameBooks
  · exact leaves

theorem not_firstGet_of_outside (outside : state.control = .idle ∨ state.control = .scanning)
    (node : NodeId) : ¬state.FirstGet node := by
  rcases outside with isIdle | isScanning
  · simp [FirstGet, Executing, isIdle]
  · simp [FirstGet, Executing, isScanning]

theorem Executor.claim_of_idle {executor : Executor} {type : AttributeType} {ruleType : RuleType}
    (idle : executor.resolverState = .idle) (rule : executor.hasRule ruleType type = true)
    (node : NodeId) :
    executor.claim node type ruleType =
      .ok
        { executor with
          resolverState := Executor.stateOf ruleType
          nodePendingResolution := node
          nodeNeedsMoreFrames := false } := by
  unfold Executor.hasRule at rule
  unfold Executor.claim
  cases found : executor.rulesOf type with
  | none => simp [found] at rule
  | some rules =>
    have registered : rules.hasFunc ruleType = true := by simpa [found] using rule
    simp [idle, registered]

/-- The state in which the rule function of an execution is called. -/
def started (state : Resolver) (execution : Execution) (entries : List (NodeId × PendingGet))
    (attempts : List NodeId) : Resolver :=
  { state with
    pendingGetResolutions := entries
    attempts := attempts
    executor :=
      { state.executor with
        resolverState := Executor.stateOf execution.ruleType
        nodePendingResolution := execution.node
        nodeNeedsMoreFrames := false }
    control := .ruleFunction execution }

theorem Ledger.started (ledger : FullLedger state)
    (scanning : state.control = .scanning) {execution : Execution}
    (there : state.store.nodeExists execution.node = true) {entries : List (NodeId × PendingGet)}
    {attempts : List NodeId}
    (entriesSame : ∀ other, other ≠ execution.node ->
      entries.lookup other = state.pendingGetResolutions.lookup other)
    (attemptsSame : ∀ other, other ≠ execution.node ->
      attempts.count other = state.attempts.count other)
    (fresh : execution.ruleType = .setRule ∨ execution.isRetry = false ->
      entries.lookup execution.node = none)
    (account : (state.started execution entries attempts).Accounted execution.node) :
    FullLedger (state.started execution entries attempts) := by
  have free := ledger.idle.mp (ledger.scanning scanning)
  have only : ∀ other, (state.started execution entries attempts).Executing other ->
      other = execution := by
    intro other executing
    unfold Executing Resolver.started at executing
    simpa [eq_comm] using executing
  refine ⟨ledger.root, ledger.retryCount, ledger.retryTimeout, ledger.rules, ?_, ?_, ?_, ?_, ?_, ?_⟩
  · refine ⟨fun isIdle => absurd isIdle (Executor.stateOf_ne_idle _), fun isInvalid => ?_⟩
    exact absurd isInvalid (nodeExists_ne_invalidNode there)
  · intro running
    exact absurd running (by simp [Resolver.started])
  · intro other executing
    rw [only other executing]
    exact .inr ⟨rfl, rfl⟩
  · intro other executing isFresh
    rw [only other executing] at isFresh ⊢
    exact fresh isFresh
  · intro node isKey
    by_cases same : node = execution.node
    · exact same ▸ there
    · have isKey : hasKey entries node = true := isKey
      rw [hasKey, entriesSame node same] at isKey
      exact ledger.live node isKey
  · intro node isThere _
    by_cases same : node = execution.node
    · exact same ▸ account
    · refine SameAccount.accounted ?_ (ledger.accounts node isThere id)
      refine ⟨rfl, rfl, rfl, fun _ => rfl, ?_, fun isHeld => ?_, fun other isNode => ?_,
        entriesSame node same, attemptsSame node same, rfl⟩
      · exact ⟨fun isHeld => absurd isHeld.symm same, fun isHeld =>
          absurd (isHeld.symm.trans free) (nodeExists_ne_invalidNode isThere)⟩
      · exact absurd (isHeld.symm.trans free) (nodeExists_ne_invalidNode isThere)
      · constructor
        · intro executing
          rw [only other executing] at isNode
          exact absurd isNode.symm same
        · intro executing
          simp [Executing, scanning] at executing

theorem Ledger.stillScanning (ledger : FullLedger state) (scanning : state.control = .scanning) :
    FullLedger { state with control := .scanning } :=
  ledger.withControl (.inr ⟨rfl, ledger.scanning scanning⟩) fun node _ first =>
    absurd first (not_firstGet_of_outside (.inr scanning) node)

theorem one_le_getNodeRetryCount (ledger : Ledger leftOut state) (node : NodeId) :
    1 ≤ state.getNodeRetryCount node := by
  have positive := ledger.retryCount
  unfold getNodeRetryCount
  split
  · split
    · split
      · rename_i inRange
        exact inRange.1
      · exact positive
    · exact positive
  · exact positive

variable {execution : Execution} {node : NodeId} {pending : PendingGet} {status : SlStatus}

theorem ruleExecute_eq_started (idle : state.executor.resolverState = .idle)
    (rule : state.executor.hasRule execution.ruleType (state.store.nodeType execution.node) =
      true) :
    state.ruleExecute execution =
      state.started execution state.pendingGetResolutions
        (match execution.ruleType with
        | .getRule => state.attempts ++ [execution.node]
        | .setRule => state.attempts) := by
  unfold ruleExecute
  obtain ⟨node, ruleType, isRetry⟩ := execution
  have claimed := Executor.claim_of_idle idle rule node
  cases ruleType
  all_goals
    dsimp only at claimed ⊢
    rw [claimed]
    rfl

section

variable (ledger : FullLedger state)
include ledger

section

variable (scanning : state.control = .scanning) (there : state.store.nodeExists node = true)

include scanning there

theorem Ledger.firstGet (needed : state.needsGet node = true)
    (none : state.pendingGetResolutions.lookup node = none) :
    FullLedger (state.ruleExecute { node := node, ruleType := .getRule, isRetry := false }) := by
  have rule : state.executor.hasRule .getRule (state.store.nodeType node) = true := by
    rw [needsGet_eq, Bool.and_eq_true] at needed
    exact needed.1
  obtain ⟨noGiveUps, attempts⟩ := (ledger.accounts node there id).absent none
  have noAttempts : state.attempts.count node = 0 :=
    attempts.elim id fun first => absurd first.2 (not_firstGet_of_outside (.inr scanning) node)
  rw [ruleExecute_eq_started (ledger.scanning scanning) rule]
  refine ledger.started scanning there (fun _ _ => rfl) (fun other differs => ?_) (fun _ => none) ?_
  · simp [Ne.symm differs]
  · refine ⟨fun _ => ⟨noGiveUps, .inr ⟨?_, .inl rfl⟩⟩, fun pending found => ?_⟩
    · show (state.attempts ++ [node]).count node ≤ 1
      simp [noAttempts]
    · rw [show state.pendingGetResolutions.lookup node = some pending from found] at none
      cases none

theorem Ledger.retryGet (needed : state.needsGet node = true)
    (found : state.pendingGetResolutions.lookup node = some pending)
    (below : ¬state.getNodeRetryCount node ≤ pending.count) :
    FullLedger
      ({ state with
        pendingGetResolutions :=
          assign state.pendingGetResolutions node
            { pending with count := pending.count + 1 } }.ruleExecute
        { node := node, ruleType := .getRule, isRetry := true }) := by
  have free := ledger.idle.mp (ledger.scanning scanning)
  have rule : state.executor.hasRule .getRule (state.store.nodeType node) = true := by
    rw [needsGet_eq, Bool.and_eq_true] at needed
    exact needed.1
  have active : state.Active node pending := by
    refine ((ledger.accounts node there id).present pending found).resolve_left fun dormant => ?_
    have defined := dormant.reported
    unfold needsGet at needed
    simp [defined] at needed
  have waiting : state.Waiting node pending := by
    rcases active.phase with inFlight | waiting | givenUp
    · exact absurd (inFlight.held.symm.trans free) (nodeExists_ne_invalidNode there)
    · exact waiting
    · exact absurd givenUp.count below
  have starts : FullLedger
      (state.started { node := node, ruleType := .getRule, isRetry := true }
        (assign state.pendingGetResolutions node { pending with count := pending.count + 1 })
        (state.attempts ++ [node])) := by
    refine ledger.started scanning there (fun other differs => ?_) (fun other differs => ?_)
      (by simp) ⟨fun none => ?_, fun other isOther => .inr ?_⟩
    · rw [lookup_assign, if_neg differs]
    · simp [Ne.symm differs]
    · have none : (assign state.pendingGetResolutions node _).lookup node = Option.none := none
      rw [lookup_assign, if_pos rfl] at none
      cases none
    · have isOther : (assign state.pendingGetResolutions node _).lookup node = some other := isOther
      rw [lookup_assign, if_pos rfl] at isOther
      cases isOther
      refine ⟨needed, ?_, ?_, .inl ⟨rfl, rfl, fun _ _ _ => waiting.sendTimeout, waiting.giveUps⟩⟩
      · show (state.attempts ++ [node]).count node ≤ pending.count + 1
        have before := active.attempts
        simpa using before
      · exact waiting.count
  rw [ruleExecute_eq_started]
  · exact starts
  · exact ledger.scanning scanning
  · exact rule

theorem Ledger.executeGet (needed : state.needsGet node = true) :
    FullLedger (state.executeGet node) := by
  unfold Resolver.executeGet
  split
  · rename_i pending found
    split
    · exact ledger.stillScanning scanning
    · rename_i below
      split
      · exact ledger.retryGet scanning there needed found below
      · exact ledger.stillScanning scanning
  · rename_i none
    split
    · exact ledger.stillScanning scanning
    · exact ledger.firstGet scanning there needed none

theorem Ledger.executeSet (notNeeded : state.needsGet node = false)
    (needed : state.needsSet node = true) : FullLedger (state.executeSet node) := by
  have rule : state.executor.hasRule .setRule (state.store.nodeType node) = true := by
    unfold needsSet at needed
    rw [Bool.and_eq_true, Bool.and_eq_true] at needed
    exact needed.1.1
  have settled : state.attempts.count node = 0 ∧ state.giveUps.count node = 0 := by
    cases found : state.pendingGetResolutions.lookup node with
    | none =>
      obtain ⟨noGiveUps, attempts⟩ := (ledger.accounts node there id).absent found
      exact ⟨attempts.elim id fun first =>
        absurd first.2 (not_firstGet_of_outside (.inr scanning) node), noGiveUps⟩
    | some pending =>
      rcases (ledger.accounts node there id).present pending found with dormant | active
      · exact ⟨dormant.attempts, dormant.giveUps⟩
      · exact absurd (active.needsGet.symm.trans notNeeded) (by decide)
  have erased : (eraseKey state.pendingGetResolutions node).lookup node = none := by
    rw [lookup_eraseKey, if_pos rfl]
  unfold Resolver.executeSet
  split
  · exact ledger.stillScanning scanning
  · split
    · exact ledger.stillScanning scanning
    · extract_lets expired
      have expires : FullLedger expired :=
        ledger.congr { SameBooks.refl _ with }
      split
      · exact expires.stillScanning scanning
      · have starts : FullLedger
            (expired.started { node := node, ruleType := .setRule, isRetry := false }
              (eraseKey state.pendingGetResolutions node) state.attempts) := by
          refine expires.started scanning there (fun other differs => ?_) (fun _ _ => rfl)
            (fun _ => erased) ⟨fun _ => ⟨settled.2, .inl settled.1⟩, fun pending found => ?_⟩
          · rw [lookup_eraseKey, if_neg differs]
          · rw [show (eraseKey state.pendingGetResolutions node).lookup node = some pending
              from found] at erased
            cases erased
        rw [ruleExecute_eq_started]
        · exact starts
        · exact ledger.scanning scanning
        · exact rule

end

theorem Ledger.completeUnneeded (notNeeded : state.needsGet node = false)
    (rearms : hasKey state.rearmAfterCompletion node = true ->
      state.pendingGetResolutions.lookup node = none) :
    FullLedger (state.onResolverRuleExecuteComplete node) := by
  refine Ledger.complete ?_ rearms
  have same : state.completeGet node = state := by
    unfold completeGet
    split
    · rfl
    · rw [if_neg (by simp [notNeeded])]
  rw [same]
  exact ledger

/-- A round of the scan keeps the retry ledger. -/
theorem Ledger.iterate (scanning : state.control = .scanning)
    (alone : ∀ node, state.CompletesRuleOf node .iterate -> state.CompletesAlone node) :
    FullLedger state.iterate := by
  have outside : ∀ node, ¬False -> state.FirstGet node -> state.attempts.count node = 0 :=
    fun node _ first => absurd first (not_firstGet_of_outside (.inr scanning) node)
  have moves : ∀ stack, FullLedger { state with stack := stack } := fun stack =>
    ledger.congr { SameBooks.refl _ with }
  unfold Resolver.iterate
  split
  · exact ledger.endNext outside
  · rename_i node index below onTop
    split
    · exact moves below
    · rename_i visitable
      obtain ⟨unpaused, there⟩ : state.isNodeOrParentPaused node = false ∧
          state.store.nodeExists node = true := by simpa using visitable
      dsimp only
      split
      · rename_i allVisited
        have pops := moves below
        unfold visitNode
        split
        · rename_i needed
          exact pops.executeGet scanning there needed
        · rename_i notGet
          have notGet : state.needsGet node = false := Bool.eq_false_iff.mpr notGet
          split
          · rename_i needed
            exact pops.executeSet scanning there notGet needed
          · rename_i notSet
            have notSet : state.needsSet node = false := Bool.eq_false_iff.mpr notSet
            have isAlone := alone node
              ⟨scanning, ⟨index, below, onTop, unpaused, there, allVisited⟩, notGet, notSet⟩
            have completes := pops.completeUnneeded notGet isAlone.1
            refine completes.endNext fun other _ first => ?_
            have keeps := keeps_onResolverRuleExecuteComplete { state with stack := below } node
            refine absurd first (not_firstGet_of_outside (.inr ?_) other)
            rw [keeps.control]
            exact scanning
      · exact moves _

end

/-- An execution that no frame comes of: it was not the last attempt of a Get. -/
def Abandons (state : Resolver) (execution : Execution) : Prop :=
  execution.ruleType = .getRule -> execution.isRetry = true ∧
    state.isNodeGetResolutionMaxRetriesReached execution.node = false

theorem executing_unique {first second : Execution} (isFirst : state.Executing first)
    (isSecond : state.Executing second) : first = second := by
  rcases isFirst with running | ⟨moreFrames, running⟩ <;>
    rcases isSecond with same | ⟨otherFrames, same⟩ <;> rw [running] at same
  · exact Control.ruleFunction.inj same
  · cases same
  · cases same
  · exact (Control.sending.inj same).1

theorem Abandons.not_firstGet (abandons : state.Abandons execution)
    (executing : state.Executing execution) (node : NodeId) : ¬state.FirstGet node := by
  intro first
  have isRetry := (executing_unique executing first ▸ abandons) rfl
  exact Bool.false_ne_true isRetry.1

theorem Ledger.belowLimit (ledger : FullLedger state)
    (executing : state.Executing execution) (abandons : state.Abandons execution)
    (found : state.pendingGetResolutions.lookup execution.node = some pending) :
    pending.count < state.getNodeRetryCount execution.node := by
  cases isType : execution.ruleType with
  | setRule =>
    have none := ledger.fresh execution executing (.inl isType)
    rw [found] at none
    cases none
  | getRule =>
    have below := (abandons isType).2
    rw [isNodeGetResolutionMaxRetriesReached_of_lookup found] at below
    exact not_le.mp (of_decide_eq_false below)

/-- The slot of an execution is given back without a completion. -/
def withReset (state : Resolver) (execution : Execution) : Resolver :=
  { state with executor := state.executor.resetState execution.node }

theorem Ledger.freeAfterReset (ledger : FullLedger state) (executing : state.Executing execution) :
    (state.executor.resetState execution.node).nodePendingResolution = invalidNode ∧
      (state.executor.resetState execution.node).resolverState = .idle := by
  unfold Executor.resetState
  split
  · exact ⟨rfl, rfl⟩
  · rename_i notHeld
    rcases ledger.executing execution executing with isInvalid | ⟨isNode, -⟩
    · exact ⟨isInvalid, ledger.idle.mpr isInvalid⟩
    · exact absurd isNode notHeld

theorem Ledger.withReset (ledger : FullLedger state) (executing : state.Executing execution)
    (abandons : state.Abandons execution) : FullLedger (state.withReset execution) := by
  obtain ⟨free, isIdle⟩ := ledger.freeAfterReset executing
  have book : (state.executor.resetState execution.node).ruleBook = state.executor.ruleBook := by
    unfold Executor.resetState
    split <;> rfl
  refine ⟨ledger.root, ledger.retryCount, ledger.retryTimeout, fun entry mem => ?_,
    ⟨fun _ => free, fun _ => isIdle⟩, fun _ => isIdle, fun _ _ => .inl free, ledger.fresh,
    ledger.live, fun node there _ => ?_⟩
  · show (state.executor.resetState execution.node).rulesOf entry.2 = some entry.1
    unfold Executor.rulesOf
    rw [book]
    exact ledger.rules entry mem
  · have notHeld : (state.withReset execution).executor.nodePendingResolution ≠ node := by
      show (state.executor.resetState execution.node).nodePendingResolution ≠ node
      rw [free]
      exact (nodeExists_ne_invalidNode there).symm
    have rule : (state.withReset execution).executor.hasRule .getRule
          ((state.withReset execution).store.nodeType node) =
        state.executor.hasRule .getRule (state.store.nodeType node) := by
      show (state.executor.resetState execution.node).hasRule .getRule
        (state.store.nodeType node) = _
      unfold Executor.hasRule Executor.rulesOf
      rw [book]
    have needs : (state.withReset execution).needsGet node = state.needsGet node := by
      rw [needsGet_eq, needsGet_eq, rule]
      rfl
    have accounted := ledger.accounts node there id
    refine ⟨accounted.absent, fun pending found => ?_⟩
    rcases accounted.present pending found with dormant | active
    · exact .inl ⟨rule.trans dormant.rule, dormant.reported, dormant.desired, dormant.sendTimeout,
        dormant.count, notHeld, dormant.attempts, dormant.giveUps⟩
    · refine .inr ⟨needs.trans active.needsGet, active.attempts, active.count, .inr ?_⟩
      rcases active.phase with inFlight | waiting | givenUp
      · have isNode : execution.node = node := by
          rcases ledger.executing execution executing with isInvalid | ⟨isNode, -⟩
          · exact absurd (inFlight.held.symm.trans isInvalid) (nodeExists_ne_invalidNode there)
          · exact isNode.symm.trans inFlight.held
        subst isNode
        exact .inl ⟨notHeld, inFlight.sendTimeout execution rfl executing,
          ledger.belowLimit executing abandons found, inFlight.giveUps⟩
      · exact .inl ⟨notHeld, waiting.sendTimeout, waiting.count, waiting.giveUps⟩
      · exact .inr ⟨notHeld, givenUp.count, givenUp.desired, givenUp.giveUps⟩

theorem recordExecution_of_abandons {other : Resolver} (abandons : state.Abandons execution)
    (refused : status ≠ .ok ∧ status ≠ .inProgress) :
    other.recordExecution execution status = other := by
  obtain ⟨node, ruleType, isRetry⟩ := execution
  obtain ⟨notOk, notProgress⟩ := refused
  cases ruleType with
  | getRule =>
    obtain ⟨rfl, -⟩ := abandons rfl
    cases status <;> rfl
  | setRule => cases status <;> first | rfl | exact absurd rfl notOk | exact absurd rfl notProgress

section

variable (ledger : FullLedger state)
include ledger

theorem Ledger.executedAbandoned
    (executing : state.Executing execution) (abandons : state.Abandons execution)
    (refused : (status ≠ .ok ∧ status ≠ .inProgress) ∧ status ≠ .notInitialized)
    (alone : status = .alreadyExists -> state.CompletesAlone execution.node) :
    FullLedger ((state.withReset execution).executed execution status) := by
  have reset := ledger.withReset executing abandons
  have notFirst : ∀ node, ¬(state.withReset execution).FirstGet node :=
    fun node first => abandons.not_firstGet executing node first
  have outside : ∀ node, ¬False -> (state.withReset execution).FirstGet node ->
      (state.withReset execution).attempts.count node = 0 :=
    fun node _ first => absurd first (notFirst node)
  obtain ⟨free, isIdle⟩ := ledger.freeAfterReset executing
  unfold executed
  rw [recordExecution_of_abandons abandons refused.1]
  by_cases isThere : status = .alreadyExists
  · subst isThere
    have completes : FullLedger
        ((state.withReset execution).onResolverRuleExecuteComplete execution.node) := by
      refine Ledger.complete (Completing.completeGet ?_) (alone rfl).1
      refine ⟨reset.mono fun _ => False.elim, free, fun other isExecuting => ?_, fun _ there =>
        reset.accounts _ there id, fun pending found => ?_, fun reached => ?_⟩
      · rw [@executing_unique state other execution isExecuting executing]
      · have there := reset.live execution.node (by simp [hasKey, found])
        refine ((reset.accounts _ there id).present pending found).imp_right fun active => ?_
        refine ⟨active.needsGet, active.attempts, active.count, ?_⟩
        rcases active.phase with inFlight | waiting | givenUp
        · exact inFlight.giveUps
        · exact waiting.giveUps
        · exact absurd givenUp.count (not_le.mpr (ledger.belowLimit executing abandons found))
      · cases found : state.pendingGetResolutions.lookup execution.node with
        | none =>
          rw [show (state.withReset execution).isNodeGetResolutionMaxRetriesReached
            execution.node = state.isNodeGetResolutionMaxRetriesReached execution.node
            from rfl] at reached
          simp [isNodeGetResolutionMaxRetriesReached, found] at reached
        | some pending =>
          rw [show (state.withReset execution).isNodeGetResolutionMaxRetriesReached
            execution.node = state.isNodeGetResolutionMaxRetriesReached execution.node
            from rfl, isNodeGetResolutionMaxRetriesReached_of_lookup found] at reached
          exact absurd (of_decide_eq_true reached)
            (not_le.mpr (ledger.belowLimit executing abandons found))
    refine completes.endNext fun node _ first => absurd ?_ (notFirst node)
    have keeps := keeps_onResolverRuleExecuteComplete (state.withReset execution) execution.node
    unfold FirstGet Executing at first ⊢
    rw [keeps.control] at first
    exact first
  · have scans := reset.withControl (.inr ⟨rfl, isIdle⟩) outside
    unfold continueWith
    split
    · exact absurd rfl refused.1.1
    · exact absurd rfl refused.1.2
    · exact absurd rfl refused.2
    · exact absurd rfl isThere
    · exact scans

theorem Ledger.sending (running : state.control = .ruleFunction execution) (moreFrames : Bool) :
    FullLedger { state with control := .sending execution moreFrames } := by
  have executes : ∀ other,
      Executing { state with control := .sending execution moreFrames } other ↔
        state.Executing other := by
    unfold Executing
    rw [running]
    simp
  refine ⟨ledger.root, ledger.retryCount, ledger.retryTimeout, ledger.rules, ledger.idle,
    fun isScanning => absurd isScanning (by simp), fun other executing => ?_,
    fun other executing => ?_, ledger.live, fun node there counted => ?_⟩
  · exact ledger.executing other ((executes other).mp executing)
  · exact ledger.fresh other ((executes other).mp executing)
  · refine SameAccount.accounted ?_ (ledger.accounts node there counted)
    exact ⟨rfl, rfl, rfl, fun _ => rfl, Iff.rfl, fun _ => rfl, fun other _ => executes other, rfl,
      rfl, rfl⟩

theorem Ledger.ruleReturns {frameStatus : Option SlStatus}
    {frameSize : Nat} (keeps : state.KeepsAccounts (.ruleReturns frameStatus frameSize))
    (alone : ∀ node, state.CompletesRuleOf node (.ruleReturns frameStatus frameSize) ->
      state.CompletesAlone node) :
    FullLedger (state.ruleReturns frameStatus frameSize) := by
  unfold Resolver.ruleReturns
  split
  · rename_i execution running
    have executing : state.Executing execution := .inl running
    have answers := keeps execution running
    extract_lets reset
    have abandoned : ∀ status,
        ¬((frameStatus = some .ok ∨ frameStatus = some .inProgress) ∧ frameSize ≤ maxFrameLen) ->
        (status ≠ .ok ∧ status ≠ .inProgress) ∧ status ≠ .notInitialized ->
        (status = .alreadyExists -> state.CompletesAlone execution.node) ->
        FullLedger (reset.executed execution status) :=
      fun status noFrame refused isAlone =>
        ledger.executedAbandoned executing (fun isGet => (answers isGet).resolve_left noFrame)
          refused isAlone
    split
    · exact abandoned _ (by simp) (by decide) (by simp)
    · split
      · rename_i tooLong
        exact abandoned _ (fun sent => absurd sent.2 (not_le.mpr tooLong)) (by decide) (by simp)
      · exact ledger.sending running _
    · split
      · rename_i tooLong
        exact abandoned _ (fun sent => absurd sent.2 (not_le.mpr tooLong)) (by decide) (by simp)
      · exact ledger.sending running _
    · exact abandoned _ (by simp) (by decide) fun _ => alone _ ⟨execution, running, rfl⟩
    · exact abandoned _ (by simp) (by decide) (by simp)
    · exact abandoned _ (by simp) (by decide) (by simp)
    · rename_i notOk notProgress _ _ _
      refine abandoned _ (fun sent => ?_) (by decide) (by simp)
      rcases sent.1 with isOk | isProgress
      · exact notOk (Option.some.inj isOk)
      · exact notProgress (Option.some.inj isProgress)
  · exact ledger

theorem Ledger.firstSent (first : state.FirstGet node)
    (held : state.executor.nodePendingResolution = node) (needed : state.needsGet node = true)
    (there : state.store.nodeExists node = true) :
    FullLedger
      { state with
        control := .idle
        pendingGetResolutions :=
          assign state.pendingGetResolutions node { sendTimeout := 0, count := 1 } } := by
  have none := ledger.fresh _ first (.inr rfl)
  obtain ⟨noGiveUps, attempts⟩ := (ledger.accounts node there id).absent none
  have executes : state.executor.resolverState = .executingGetRule := by
    rcases ledger.executing _ first with isInvalid | ⟨-, isGet⟩
    · exact absurd (held.symm.trans isInvalid) (nodeExists_ne_invalidNode there)
    · exact isGet
  have leaves : Ledger (· = node) { state with control := .idle } :=
    (ledger.mono fun _ => False.elim).withControl (.inl rfl) fun other differs isFirst =>
      absurd (congrArg Execution.node (executing_unique isFirst first)) differs
  have assigns : ChangesOnly node { state with control := .idle }
      { state with
        control := .idle
        pendingGetResolutions :=
          assign state.pendingGetResolutions node { sendTimeout := 0, count := 1 } } :=
    changesOnly_assign { state with control := .idle } node _
  have account : Accounted
      { state with
        control := .idle
        pendingGetResolutions :=
          assign state.pendingGetResolutions node { sendTimeout := 0, count := 1 } } node := by
    refine ⟨fun isNone => ?_, fun pending found => .inr ?_⟩
    · rw [lookup_assign, if_pos rfl] at isNone
      cases isNone
    · rw [lookup_assign, if_pos rfl] at found
      cases found
      refine ⟨needed, ?_, one_le_getNodeRetryCount ledger node,
        .inl ⟨held, executes, ?_, noGiveUps⟩⟩
      · exact attempts.elim (fun zero => zero.le.trans (Nat.zero_le 1)) fun isOne => isOne.1
      · exact fun execution _ executing => absurd executing (by simp [Executing])
  refine Ledger.close (assigns.ledger leaves ?_ (fun _ => there) ?_) fun _ => account
  · exact fun _ _ execution executing => absurd executing (by simp [Executing])
  · exact fun _ differs => absurd rfl differs

theorem Ledger.executedSent (executing : state.Executing execution)
    (sent : execution.ruleType = .getRule -> execution.isRetry = true ∨
      (state.executor.nodePendingResolution = execution.node ∧
        state.needsGet execution.node = true ∧
        state.store.nodeExists execution.node = true))
    (isSent : status = .ok ∨ status = .inProgress) :
    FullLedger (state.executed execution status) := by
  have ends : ∀ other : Resolver, other.continueWith execution.node status = other.endNext := by
    intro other
    rcases isSent with rfl | rfl <;> rfl
  unfold executed
  rw [ends]
  obtain ⟨node, ruleType, isRetry⟩ := execution
  cases ruleType with
  | setRule =>
    have records : state.SameBooks
        (state.recordExecution { node := node, ruleType := .setRule, isRetry := isRetry }
          status) := by
      rcases isSent with rfl | rfl <;> exact { SameBooks.refl _ with }
    refine (ledger.congr records).endNext fun other _ first => ?_
    have same := executing_unique executing ((records.executing _).mp first)
    exact absurd (congrArg Execution.ruleType same) (by simp)
  | getRule =>
    cases isRetry with
    | true =>
      refine ledger.endNext fun other _ first => ?_
      have same := executing_unique executing first
      exact absurd (congrArg Execution.isRetry same) (by simp)
    | false =>
      obtain ⟨held, needed, there⟩ := (sent rfl).resolve_left (by simp)
      have records : state.recordExecution
          { node := node, ruleType := .getRule, isRetry := false } status =
          { state with
            pendingGetResolutions :=
              assign state.pendingGetResolutions node { sendTimeout := 0, count := 1 } } := by
        rcases isSent with rfl | rfl <;> rfl
      have leaves := ledger.firstSent executing held needed there
      rw [records]
      unfold Resolver.endNext
      dsimp only
      split
      · exact leaves.congr (schedules_post _ _).sameBooks
      · exact leaves

theorem Ledger.sendReturns {accepted : Bool} (keeps : state.KeepsAccounts (.sendReturns accepted)) :
    FullLedger (state.sendReturns accepted) := by
  unfold Resolver.sendReturns
  split
  · rename_i execution moreFrames running
    have executing : state.Executing execution := .inr ⟨moreFrames, running⟩
    have answers := keeps execution moreFrames running
    split
    · rename_i isAccepted
      have finished : FullLedger
          { state with executor := state.executor.finish execution.node moreFrames } := by
        refine ledger.withExecutor ?_ ?_ ?_
        all_goals
          unfold Executor.finish
          split <;> rfl
      have book : (state.executor.finish execution.node moreFrames).ruleBook =
          state.executor.ruleBook := by
        unfold Executor.finish
        split <;> rfl
      refine finished.executedSent executing (fun isGet => ?_) (by cases moreFrames <;> simp)
      refine ((answers isGet).imp And.right And.left).symm.elim .inl (Or.imp_right ?_)
      rintro ⟨held, needed, there⟩
      refine ⟨?_, ?_, there⟩
      · show (state.executor.finish execution.node moreFrames).nodePendingResolution = _
        unfold Executor.finish
        split <;> exact held
      · rw [needsGet_eq] at needed ⊢
        unfold Executor.hasRule Executor.rulesOf at needed ⊢
        rw [book]
        exact needed
    · rename_i refused
      refine ledger.executedAbandoned executing (fun isGet => ?_) (by decide) (by simp)
      exact (answers isGet).resolve_left fun sent => refused sent.1
  · exact ledger

theorem Ledger.handleEvent (isIdle : state.control = .idle) : FullLedger state.handleEvent := by
  have outside : ∀ other : Resolver, other.control = .idle ->
      ∀ node, ¬False -> other.FirstGet node -> other.attempts.count node = 0 :=
    fun other idle node _ first => absurd first (not_firstGet_of_outside (.inl idle) node)
  unfold Resolver.handleEvent
  split
  · exact ledger
  · rename_i rest _
    have taken : FullLedger { state with events := rest } :=
      ledger.congr { SameBooks.refl _ with }
    unfold evNext
    split
    · exact taken
    · extract_lets begun
      have begins : Resolver.SameBooks { state with events := rest } begun := by
        dsimp only [begun]
        split
        · exact { SameBooks.refl _ with }
        · exact .refl _
      have idle : begun.control = .idle := begins.control.trans isIdle
      have started := taken.congr begins
      split
      · exact started.endNext (outside begun idle)
      · rename_i notBusy
        refine started.withControl (.inr ⟨rfl, ?_⟩) (outside begun idle)
        simpa [Executor.isBusy] using notBusy
  all_goals exact ledger.congr { SameBooks.refl _ with }

end

end Thread

/-! ## The tree and the rules -/

section Tree

variable {state : Resolver} {node : NodeId}

theorem find_withNode {store : Store} {record : AttributeNode}
    (isNew : store.nodeExists record.id = false) (valid : record.id ≠ invalidNode)
    (other : NodeId) :
    (store.withNode record).find other =
      if other = record.id then some record else store.find other := by
  have absent : store.nodes.find? (fun entry => entry.id = record.id) = none := by
    simpa [Store.nodeExists, Store.find, valid] using isNew
  unfold Store.find Store.withNode
  by_cases same : other = record.id
  · subst same
    rw [if_neg valid, List.find?_append, absent]
    simp
  · rw [if_neg same]
    split
    · rfl
    · rw [List.find?_append]
      simp [Ne.symm same]

variable {other : NodeId}

theorem find_without (store : Store) (differs : other ≠ node) :
    (store.without node).find other = store.find other := by
  unfold Store.find Store.without
  split
  · rfl
  · rw [List.find?_filter]
    refine congrArg (fun test => List.find? test store.nodes) (funext fun record => ?_)
    by_cases isOther : record.id = other
    · simp [isOther, differs]
    · simp [isOther]

theorem readings_of_find {before after : Store} (same : after.find other = before.find other) :
    after.nodeExists other = before.nodeExists other ∧
      after.nodeType other = before.nodeType other ∧
      ∀ valueState, after.value valueState other = before.value valueState other := by
  refine ⟨?_, ?_, fun valueState => ?_⟩
  · unfold Store.nodeExists
    rw [same]
  · unfold Store.nodeType
    rw [same]
  · unfold Store.value
    rw [same]

theorem Ledger.forgetAbsent {leftOut : NodeId -> Prop} (ledger : Ledger leftOut state)
    (none : state.pendingGetResolutions.lookup node = none) :
    Ledger leftOut (state.forgetGet node) := by
  unfold forgetGet
  split
  · have erased : (eraseKey state.pendingGetResolutions node).lookup node = Option.none := by
      rw [lookup_eraseKey, if_pos rfl]
    refine (changesOnly_erase state node).ledger ledger ?_ ?_ ?_
    · exact fun _ found => absurd erased found
    · intro isKey
      simp at isKey
    · intro there counted
      refine ⟨fun _ => (ledger.accounts node there counted).absent none, fun pending found => ?_⟩
      rw [show (eraseKey state.pendingGetResolutions node).lookup node = some pending
        from found] at erased
      cases erased
  · exact ledger

theorem Ledger.addNode (ledger : FullLedger state) (node : NodeId) (type : AttributeType)
    (parent : NodeId) : FullLedger (state.addNode node type parent) := by
  unfold Resolver.addNode
  split
  · exact ledger
  · rename_i adds
    obtain ⟨⟨valid, isNew⟩, -⟩ :
      (node ≠ invalidNode ∧ state.store.nodeExists node = false) ∧ _ := by
      simpa using adds
    have none : state.pendingGetResolutions.lookup node = none := by
      by_contra found
      have isKey : hasKey state.pendingGetResolutions node = true := by
        rw [hasKey, Option.isSome_iff_ne_none]
        exact found
      exact absurd ((ledger.live node isKey).symm.trans isNew) (by decide)
    extract_lets added
    have finds : ∀ other, other ≠ node -> added.store.find other = state.store.find other := by
      intro other differs
      refine (find_withNode ?_ ?_ other).trans (if_neg differs)
      · exact isNew
      · exact valid
    have exists' : ∀ other, other ≠ node ->
        added.store.nodeExists other = state.store.nodeExists other :=
      fun other differs => (readings_of_find (finds other differs)).1
    have adds : FullLedger added := by
      refine ⟨ledger.root, ledger.retryCount, ledger.retryTimeout, ledger.rules, ledger.idle,
        ledger.scanning, ledger.executing, ledger.fresh, fun other isKey => ?_,
        fun other there _ => ?_⟩
      · have differs : other ≠ node := by
          rintro rfl
          rw [hasKey, show added.pendingGetResolutions = state.pendingGetResolutions from rfl,
            none] at isKey
          cases isKey
        rw [exists' other differs]
        exact ledger.live other isKey
      · by_cases same : other = node
        · subst same
          refine ⟨fun _ => ⟨?_, .inl ?_⟩, fun pending found => ?_⟩
          · show (state.giveUps.filter _).count other = 0
            rw [count_filter_ne, if_pos rfl]
          · show (state.attempts.filter _).count other = 0
            rw [count_filter_ne, if_pos rfl]
          · rw [show state.pendingGetResolutions.lookup other = some pending from found] at none
            cases none
        · rw [exists' other same] at there
          obtain ⟨-, sameType, sameValues⟩ := readings_of_find (finds other same)
          refine SameAccount.accounted ?_ (ledger.accounts other there id)
          refine ⟨rfl, by rw [sameType], sameType, sameValues, Iff.rfl, fun _ => rfl,
            fun _ _ => Iff.rfl, rfl, ?_, ?_⟩
          · show (state.attempts.filter _).count other = _
            rw [count_filter_ne, if_neg same]
          · show (state.giveUps.filter _).count other = _
            rw [count_filter_ne, if_neg same]
    split
    · refine (adds.forgetAbsent ?_).congr (sameBooks_onResolverNodeUpdate adds.root node)
      exact none
    · exact adds

theorem Ledger.without (ledger : Ledger (· = node) state)
    (none : state.pendingGetResolutions.lookup node = none) :
    FullLedger { state with store := state.store.without node } := by
  refine ⟨ledger.root, ledger.retryCount, ledger.retryTimeout, ledger.rules, ledger.idle,
    ledger.scanning, ledger.executing, ledger.fresh, fun other isKey => ?_, fun other there _ => ?_⟩
  · have differs : other ≠ node := by
      rintro rfl
      rw [hasKey, none] at isKey
      cases isKey
    rw [(readings_of_find (find_without state.store differs)).1]
    exact ledger.live other isKey
  · have differs : other ≠ node := by
      rintro rfl
      have gone : (state.store.without other).nodeExists other = false := by
        unfold Store.nodeExists Store.find Store.without
        split <;> simp
      exact absurd (there.symm.trans gone) (by decide)
    obtain ⟨sameExists, sameType, sameValues⟩ := readings_of_find (find_without state.store differs)
    rw [sameExists] at there
    refine SameAccount.accounted ?_ (ledger.accounts other there differs)
    exact ⟨rfl, by rw [sameType], sameType, sameValues, Iff.rfl, fun _ => rfl, fun _ _ => Iff.rfl,
      rfl, rfl, rfl⟩

theorem sameBooks_complete (absent : state.pendingGetResolutions.lookup node = none)
    (unrequested : state.rearmAfterCompletion.lookup node = none) :
    state.SameBooks (state.onResolverRuleExecuteComplete node) := by
  unfold onResolverRuleExecuteComplete
  extract_lets got single rearmed paced
  have isSame : got = state := completeGet_of_absent absent
  have keepsRequest : (got.completeSet node).rearmAfterCompletion = state.rearmAfterCompletion := by
    rw [isSame]
    exact (@writes_completeSet (fun _ _ _ => True) state node).rearm
  have rearms : state.SameBooks rearmed := by
    dsimp only [rearmed]
    unfold rearm
    rw [keepsRequest, unrequested, isSame]
    exact sameBooks_completeSet state node
  have paces : rearmed.SameBooks paced := by
    dsimp only [paced]
    split
    · exact sameBooks_paceSet rearmed node
    · exact .refl rearmed
  exact rearms.trans (paces.trans ((schedules_watchIfResolved paced node).sameBooks.trans
    (schedules_postNextIfScanning _).sameBooks))

theorem Ledger.onResolverNodeDeleted (ledger : FullLedger state) (node : NodeId) :
    Ledger (· = node) (state.onResolverNodeDeleted node) ∧
      (state.onResolverNodeDeleted node).pendingGetResolutions.lookup node = none := by
  unfold Resolver.onResolverNodeDeleted
  extract_lets forgotten released
  have erased : forgotten.pendingGetResolutions.lookup node = none := by
    rw [lookup_eraseKey, if_pos rfl]
  have unrequested : forgotten.rearmAfterCompletion.lookup node = none := by
    rw [lookup_eraseKey, if_pos rfl]
  have forgets : Ledger (· = node) forgotten := by
    have erases : Ledger (· = node)
        { state with pendingGetResolutions := eraseKey state.pendingGetResolutions node } := by
      refine (changesOnly_erase state node).ledger (ledger.mono fun _ => False.elim) ?_ ?_ ?_
      · exact fun _ found => absurd erased found
      · intro isKey
        simp at isKey
      · exact fun _ differs => absurd rfl differs
    exact erases.congr { SameBooks.refl _ with }
  have releases : Ledger (· = node) released ∧
      released.pendingGetResolutions.lookup node = none := by
    dsimp only [released]
    unfold Resolver.releaseSlot
    split
    · rename_i completes
      have held : forgotten.executor.nodePendingResolution = node := by
        simpa [Executor.completes] using completes
      have isFree : { forgotten with executor := forgotten.executor.release node } =
          forgotten.withFreeSlot := by
        unfold Resolver.withFreeSlot Executor.release
        rw [if_pos held]
      rw [isFree]
      have same : forgotten.withFreeSlot.SameBooks
          (forgotten.withFreeSlot.onResolverRuleExecuteComplete node) :=
        sameBooks_complete erased unrequested
      refine ⟨(forgets.withFreeSlot (fun _ => id) held).congr same, ?_⟩
      rw [same.pendingGet]
      exact erased
    · exact ⟨forgets, erased⟩
  have scans := (schedules_scanNode released
    (released.getHighestParentWithResolutionListener node)).sameBooks
  refine ⟨releases.1.congr scans, ?_⟩
  rw [scans.pendingGet]
  exact releases.2

theorem Ledger.deleteNode (ledger : FullLedger state) (node : NodeId) :
    FullLedger (state.deleteNode node) := by
  unfold Resolver.deleteNode
  split
  · exact ledger
  · rename_i deletes
    obtain ⟨⟨there, -⟩, -⟩ : (state.store.nodeExists node = true ∧ _) ∧ _ := by
      simpa using deletes
    split
    · obtain ⟨deleted, none⟩ := ledger.onResolverNodeDeleted node
      exact deleted.without none
    · rename_i unnotified
      refine (ledger.mono fun _ => False.elim).without ?_
      by_contra found
      obtain ⟨pending, isPending⟩ := Option.ne_none_iff_exists'.mp found
      refine unnotified ?_
      rcases (ledger.accounts node there id).present pending isPending with dormant | active
      · simp [isNotified, dormant.rule]
      · have needed := active.needsGet
        rw [needsGet_eq, Bool.and_eq_true] at needed
        simp [isNotified, needed.1]

theorem rulesOf_registerRules (executor : Executor) (type other : AttributeType) (rules : Rules) :
    (executor.registerRules type rules).rulesOf other =
      if other = type then some rules else executor.rulesOf other :=
  lookup_cons_map (type, rules) executor.ruleBook other

theorem Ledger.registerRules (ledger : FullLedger state) {type : AttributeType}
    (unregistered : state.executor.rulesOf type = none) (rules : Rules) :
    FullLedger (state.registerRules type rules) := by
  unfold Resolver.registerRules
  extract_lets _ registered
  have registers : FullLedger registered := by
    refine ⟨ledger.root, ledger.retryCount, ledger.retryTimeout, fun entry mem => ?_,
      ledger.idle, ledger.scanning, ledger.executing, ledger.fresh, ledger.live,
      fun node there counted => ?_⟩
    · show (state.executor.registerRules type rules).rulesOf entry.2 = some entry.1
      rw [rulesOf_registerRules]
      rcases List.mem_append.mp mem with before | isNew
      · have known := ledger.rules entry before
        rw [if_neg fun same => by
          rw [same, unregistered] at known
          cases known]
        exact known
      · rw [List.mem_singleton.mp isNew, if_pos rfl]
    · have accounted := ledger.accounts node there counted
      by_cases same : state.store.nodeType node = type
      · have noRule : state.executor.hasRule .getRule (state.store.nodeType node) = false := by
          rw [Executor.hasRule, same, unregistered]
          rfl
        refine ⟨accounted.absent, fun pending found => ?_⟩
        rcases accounted.present pending found with dormant | active
        · exact absurd (dormant.rule.symm.trans noRule) (by decide)
        · have needed := active.needsGet
          rw [needsGet_eq, noRule] at needed
          cases needed
      · refine SameAccount.accounted ?_ accounted
        refine ⟨rfl, ?_, rfl, fun _ => rfl, Iff.rfl, fun _ => rfl,
          fun _ _ => Iff.rfl, rfl, rfl, rfl⟩
        unfold Executor.hasRule
        rw [rulesOf_registerRules, if_neg same]
  split
  · exact registers.congr (schedules_requestScan registered).sameBooks
  · exact registers

theorem Ledger.setAttributeDepth (ledger : FullLedger state) (type : AttributeType)
    (depth : Nat) : FullLedger (state.setAttributeDepth type depth) := by
  refine ⟨ledger.root, ledger.retryCount, ledger.retryTimeout, ledger.rules, ledger.idle,
    ledger.scanning, ledger.executing, ledger.fresh, ledger.live, fun node there counted => ?_⟩
  refine SameAccount.accounted ?_ (ledger.accounts node there counted)
  exact ⟨rfl, rfl, rfl, fun _ => rfl, Iff.rfl, fun _ => rfl, fun _ _ => Iff.rfl, rfl, rfl, rfl⟩

end Tree

/-! ## The other calls -/

section Calls

variable {state : Resolver} {node : NodeId}

theorem lookup_writeReported (root : state.store.root ≠ invalidNode) (node : NodeId)
    (value : List UInt8) {pending : PendingGet}
    (found : (state.writeValue .reported node value).pendingGetResolutions.lookup node =
      some pending) :
    state.pendingGetResolutions.lookup node = some pending := by
  by_cases writes : state.store.nodeExists node = true ∧ state.store.value .reported node ≠ value
  · rw [(sameBooks_writeValue root writes.1 writes.2).pendingGet] at found
    rcases lookup_write state .reported node value with erased | same
    · rw [erased] at found
      cases found
    · exact same.symm.trans found
  · unfold writeValue at found
    rw [if_pos] at found
    · exact found
    · by_cases there : state.store.nodeExists node = true
      · simp only [there, true_and, not_not] at writes
        simp [writes]
      · simp [there]

theorem Ledger.startGroupResolution (ledger : FullLedger state) {retryCount : UInt8}
    (keeps : state.KeepsAccounts (.startGroupResolution node retryCount)) :
    FullLedger (state.startGroupResolution node retryCount) := by
  unfold Resolver.startGroupResolution
  split
  · exact ledger.congr { SameBooks.refl _ with }
  · rename_i unmarked
    have writes := @writes_writeValue (fun _ _ _ => True) state .reported node [] trivial
    refine (ledger.writeReported node []).writeValue fun _ _ _ pending found => ?_
    have safe := keeps (by simpa using unmarked) pending
      (lookup_writeReported ledger.root node [] found)
    unfold SafeWrite at safe ⊢
    rw [writes.executor, writes.tree.nodeType]
    exact safe

theorem sameBooks_resumeNodeResolution (state : Resolver) (node : NodeId) :
    state.SameBooks (state.resumeNodeResolution node) := by
  unfold resumeNodeResolution
  extract_lets resumed
  have resumes : state.SameBooks resumed := { SameBooks.refl _ with }
  split
  · exact resumes
  · exact resumes.trans (schedules_scanNode resumed node).sameBooks

theorem CompletesAlone.congr {after : Resolver} (alone : state.CompletesAlone node)
    (same : state.SameBooks after)
    (rearm : after.rearmAfterCompletion = state.rearmAfterCompletion) :
    after.CompletesAlone node := by
  have account := same.sameAccount node
  have reached : after.isNodeGetResolutionMaxRetriesReached node =
      state.isNodeGetResolutionMaxRetriesReached node := by
    unfold isNodeGetResolutionMaxRetriesReached
    rw [account.entry, account.getNodeRetryCount]
  refine ⟨?_, ?_⟩
  · rw [rearm, same.pendingGet]
    exact alone.1
  · unfold groupNodes
    rw [reached, account.needsGet, same.executor, same.groups, same.store]
    exact alone.2

theorem settle_aborted (state : Resolver) (node : NodeId) (ruleType : RuleType) :
    state.settle .aborted node ruleType = state := by
  cases ruleType <;> rfl

theorem Ledger.restartSetResolution (ledger : FullLedger state) {aborts : Option RuleType}
    (alone : state.CompletesRuleOf node (.restartSet node aborts) -> state.CompletesAlone node) :
    FullLedger (state.restartSetResolution node aborts) := by
  unfold Resolver.restartSetResolution
  split
  · rename_i marked
    extract_lets forgotten resumed aborted
    have forgets : state.SameBooks forgotten := { SameBooks.refl _ with }
    have resumes : state.SameBooks resumed :=
      forgets.trans (sameBooks_resumeNodeResolution forgotten node)
    have keepsRequest : resumed.rearmAfterCompletion = state.rearmAfterCompletion :=
      (@writes_resumeNodeResolution (fun _ _ _ => True) forgotten node).rearm
    have isResumed := ledger.congr resumes
    have isAborted : FullLedger aborted := by
      dsimp only [aborted]
      split
      · exact isResumed
      · unfold Resolver.onResolverSendDataComplete
        rw [settle_aborted]
        refine isResumed.releaseSlot fun held => ?_
        rw [resumes.executor] at held
        exact (alone ⟨rfl, held, marked⟩).congr resumes keepsRequest
    exact isAborted.congr (schedules_scanNode aborted node).sameBooks
  · exact ledger

theorem restartExhaustedTo_eq
    (within : ∀ node, state.needsGet node = true ->
      state.isNodeGetResolutionMaxRetriesReached node = false)
    (depth : Nat)
    (node : NodeId) :
    restartExhaustedTo depth state node = state := by
  induction depth generalizing node with
  | zero => rfl
  | succ depth ih =>
    have unreached : (state.needsGet node && state.isNodeGetResolutionMaxRetriesReached node) ≠
        true := by
      intro both
      rw [Bool.and_eq_true] at both
      exact absurd (both.2.symm.trans (within node both.1)) (by decide)
    have visits : ∀ children : List NodeId,
        children.foldl (restartExhaustedTo depth) state = state := by
      intro children
      induction children with
      | nil => rfl
      | cons child rest ofRest =>
        rw [List.foldl_cons, ih]
        exact ofRest
    unfold restartExhaustedTo
    rw [if_neg unreached]
    exact visits _

theorem sameBooks_setResolutionListener (state : Resolver) (node : NodeId) (callback : Nat) :
    state.SameBooks (state.setResolutionListener node callback) := by
  unfold setResolutionListener
  split
  · exact .refl state
  · refine SameBooks.trans ?_ (schedules_scanNode _ node).sameBooks
    exact { SameBooks.refl _ with }

theorem sameBooks_resumeTimerExpires (state : Resolver) :
    state.SameBooks state.resumeTimerExpires := by
  unfold resumeTimerExpires
  split
  · extract_lets expired
    have expires : state.SameBooks expired := { SameBooks.refl _ with }
    split
    · exact expires
    · exact expires.trans (schedules_resumeExpiredPendingGetNodes expired).sameBooks
  · exact .refl state

end Calls

/-! ## Whole runs -/

/-- A step after which the accounts are in order if they were before: what it
completes concerns one Get only, and the rest of the condition. -/
def RetriesInOrder (state : Resolver) (action : Action) : Prop :=
  (∀ node, state.CompletesRuleOf node action -> state.CompletesAlone node) ∧
    state.KeepsAccounts action

/-- Every step whose retries are in order keeps the retry ledger. -/
theorem Ledger.step {state : Resolver} {action : Action} (ledger : FullLedger state)
    (inOrder : state.RetriesInOrder action) : FullLedger (state.step action) := by
  obtain ⟨alone, keeps⟩ := inOrder
  cases action with
  | writeValue valueState node value =>
    refine ledger.writeValue fun isDesired _ => ?_
    subst isDesired
    exact keeps
  | addNode node type parent => exact ledger.addNode node type parent
  | deleteNode node => exact ledger.deleteNode node
  | sendDataComplete status node ruleType =>
    exact ledger.onResolverSendDataComplete status keeps fun held => alone node ⟨rfl, held⟩
  | ruleAbort node => exact ledger.releaseSlot fun held => alone node ⟨rfl, held⟩
  | ruleTimeout =>
    by_cases running : state.executor.ruleExecutionTimer = true
    · exact ledger.onRuleExecutionTimeout (alone _ ⟨running, rfl⟩)
    · have unchanged : state.step .ruleTimeout = state := if_neg running
      rw [unchanged]
      exact ledger
  | scanNode node => exact ledger.congr (schedules_scanNode state node).sameBooks
  | pause | clearListener | requestRearm | tick =>
    exact ledger.congr { SameBooks.refl _ with }
  | resume node => exact ledger.congr (sameBooks_resumeNodeResolution state node)
  | setListener node callback =>
    exact ledger.congr (sameBooks_setResolutionListener state node callback)
  | restartSet node aborts => exact ledger.restartSetResolution (alone node)
  | restartGet node =>
    have unchanged : state.step (.restartGet node) = state := by
      show state.restartGetResolution node = state
      unfold restartGetResolution
      rw [if_neg (by rw [keeps]; decide)]
    rw [unchanged]
    exact ledger
  | restartExhaustedGets node =>
    have unchanged : state.step (.restartExhaustedGets node) = state := by
      show state.restartExhaustedGetResolutions node = state
      unfold restartExhaustedGetResolutions
      split
      · rfl
      · exact restartExhaustedTo_eq keeps _ node
    rw [unchanged]
    exact ledger
  | startGroupResolution node retryCount => exact ledger.startGroupResolution keeps
  | registerRules type rules => exact ledger.registerRules keeps rules
  | setAttributeDepth type depth => exact ledger.setAttributeDepth type depth
  | resumeTimerExpires => exact ledger.congr (sameBooks_resumeTimerExpires state)
  | handleEvent =>
    show Ledger _ (if state.control = .idle then state.handleEvent else state)
    split
    · exact ledger.handleEvent ‹_›
    · exact ledger
  | iterate =>
    show Ledger _ (if state.control = .scanning then state.iterate else state)
    split
    · exact ledger.iterate ‹_› alone
    · exact ledger
  | ruleReturns frameStatus frameSize => exact ledger.ruleReturns keeps alone
  | sendReturns accepted => exact ledger.sendReturns keeps

/-- The resolver starts with a ledger in order. -/
theorem ledger_initial (config : Config) (store : Store) (root : store.root ≠ invalidNode)
    (retryCount : 1 ≤ config.getRetryCount) (retryTimeout : 1 ≤ config.getRetryTimeout) :
    FullLedger (initial config store) where
  root := root
  retryCount := retryCount
  retryTimeout := retryTimeout
  rules entry mem := absurd mem List.not_mem_nil
  idle := ⟨fun _ => rfl, fun _ => rfl⟩
  scanning running := by cases running
  executing execution executing := by simp [Executing, initial] at executing
  fresh execution executing := by simp [Executing, initial] at executing
  live node found := by cases found
  accounts node there counted := ⟨fun _ => ⟨rfl, .inl rfl⟩, fun pending found => by cases found⟩

/-- No Get is on its way for a node, and none will be sent again: its entry has
reached the limit or has no time for the next attempt. -/
def StoppedRetrying (state : Resolver) (node : NodeId) : Prop :=
  state.executor.nodePendingResolution ≠ node ∧
    ∃ pending, state.pendingGetResolutions.lookup node = some pending ∧
      (state.getNodeRetryCount node ≤ pending.count ∨ pending.sendTimeout = 0)

/-- The attempts for a node are within its retry count, and while it has no
reported value it is not left without retries before its give-up was reported,
which happens once. -/
structure RetriesAccounted (state : Resolver) (node : NodeId) : Prop where
  attempts : state.attempts.count node ≤ state.getNodeRetryCount node
  giveUps : state.store.isValueDefined .reported node = false ->
    state.StoppedRetrying node -> state.giveUps.count node = 1

variable {state : Resolver}

theorem Ledger.retriesAccounted (ledger : FullLedger state) {node : NodeId}
    (there : state.store.nodeExists node = true) : state.RetriesAccounted node := by
  have accounted := ledger.accounts node there id
  have atLeastOne := one_le_getNodeRetryCount ledger node
  constructor
  · cases found : state.pendingGetResolutions.lookup node with
    | none => rcases (accounted.absent found).2 with noAttempt | ⟨one, -⟩ <;> omega
    | some pending =>
      rcases accounted.present pending found with dormant | active
      · rw [dormant.attempts]
        exact Nat.zero_le _
      · exact active.attempts.trans active.count
  · rintro undefined ⟨notHeld, pending, found, stopped⟩
    rcases accounted.present pending found with dormant | active
    · exact absurd (dormant.reported.symm.trans undefined) (by decide)
    · rcases active.phase with inFlight | waiting | givenUp
      · exact absurd inFlight.held notHeld
      · rcases stopped with reached | isZero
        · exact absurd waiting.count (Nat.not_lt.mpr reached)
        · exact absurd isZero waiting.sendTimeout
      · exact givenUp.giveUps

/-- In every run whose steps are in order, the attempts for every node are bounded
and its give-up is reported. -/
theorem retriesAccounted_run (config : Config) (store : Store) (root : store.root ≠ invalidNode)
    (retryCount : 1 ≤ config.getRetryCount) (retryTimeout : 1 ≤ config.getRetryTimeout)
    (actions : List Action) (inOrder : StepsMeet step RetriesInOrder (initial config store) actions)
    (node : NodeId)
    (there : (run step (initial config store) actions).store.nodeExists node = true) :
    (run step (initial config store) actions).RetriesAccounted node := by
  have ledger : FullLedger (run step (initial config store) actions) :=
    inOrder.invariant (Ledger fun _ => False) (fun _ _ kept meets => kept.step meets)
      (ledger_initial config store root retryCount retryTimeout)
  exact ledger.retriesAccounted there

/-- A Get rule alone. -/
def getOnlyRules : Rules where
  identity := 1
  setFunc := false
  getFunc := true

/-- Two attempts, the second one a retry. -/
def oneRetryConfig : Config := { exampleConfig with getRetryCount := 2 }

/-- The Get of node 5 is sent, and no report comes. -/
def unansweredGet : List Action :=
  [.handleEvent, .iterate, .iterate, .ruleReturns (some .ok) 3, .sendReturns true,
    .sendDataComplete .ok 5 .getRule]

/-- Neither the first attempt for node 5 nor the retry is answered. -/
def oneRetry : List Action :=
  [.registerRules 1 getOnlyRules] ++ unansweredGet ++
    [.handleEvent, .handleEvent, .iterate, .tick 3000, .resumeTimerExpires] ++ unansweredGet

theorem retriesInOrder_iterate {state : Resolver} (noRearm : state.rearmAfterCompletion = []) :
    state.RetriesInOrder .iterate :=
  ⟨fun node completes => ⟨fun requested => by simp [hasKey, noRearm] at requested,
    fun _ needsGet => absurd (completes.2.2.1.symm.trans needsGet) (by decide)⟩, trivial⟩

theorem retriesInOrder_ruleReturns (state : Resolver) {frameSize : Nat}
    (fits : frameSize ≤ maxFrameLen) : state.RetriesInOrder (.ruleReturns (some .ok) frameSize) :=
  ⟨fun _ => False.elim, fun _ _ _ => .inl ⟨.inl rfl, fits⟩⟩

theorem retriesInOrder_sendReturns {state : Resolver} {execution : Execution}
    (sending : state.control = .sending execution false)
    (answered : execution.isRetry = true ∨
      (state.executor.nodePendingResolution = execution.node ∧
        state.needsGet execution.node = true ∧ state.store.nodeExists execution.node = true)) :
    state.RetriesInOrder (.sendReturns true) := by
  refine ⟨fun _ => False.elim, fun other moreFrames isSending _ => .inl ⟨rfl, ?_⟩⟩
  obtain ⟨rfl, -⟩ := Control.sending.inj (sending.symm.trans isSending)
  exact answered

theorem retriesInOrder_sendDataComplete {state : Resolver} {node : NodeId} (status : SendStatus)
    (noRearm : state.rearmAfterCompletion = [])
    (alone : ∀ other ∈ state.groupNodes .getRule node,
      other = node ∨ state.store.isValueDefined .reported other = true) :
    state.RetriesInOrder (.sendDataComplete status node .getRule) := by
  refine ⟨?_, fun _ _ => rfl⟩
  rintro _ ⟨rfl, -⟩
  exact ⟨fun requested => by simp [hasKey, noRearm] at requested, fun _ _ => alone⟩

/-- The give-up is reported after the retry. -/
theorem retriesAccounted_oneRetry :
    (run step (initial oneRetryConfig exampleStore) oneRetry).attempts = [5, 5] ∧
      (run step (initial oneRetryConfig exampleStore) oneRetry).StoppedRetrying 5 ∧
      (run step (initial oneRetryConfig exampleStore) oneRetry).RetriesAccounted 5 := by
  have inOrder : StepsMeet step RetriesInOrder (initial oneRetryConfig exampleStore) oneRetry :=
    ⟨⟨fun _ => False.elim, rfl⟩, ⟨fun _ => False.elim, trivial⟩, retriesInOrder_iterate rfl,
      retriesInOrder_iterate rfl, retriesInOrder_ruleReturns _ (by decide),
      retriesInOrder_sendReturns rfl (.inr (by decide)),
      retriesInOrder_sendDataComplete _ rfl (by decide), ⟨fun _ => False.elim, trivial⟩,
      ⟨fun _ => False.elim, trivial⟩, retriesInOrder_iterate rfl, ⟨fun _ => False.elim, trivial⟩,
      ⟨fun _ => False.elim, trivial⟩, ⟨fun _ => False.elim, trivial⟩, retriesInOrder_iterate rfl,
      retriesInOrder_iterate rfl, retriesInOrder_ruleReturns _ (by decide),
      retriesInOrder_sendReturns rfl (.inl (by decide)),
      retriesInOrder_sendDataComplete _ rfl (by decide), trivial⟩
  refine ⟨by decide, ⟨by decide, ⟨0, 2⟩, by decide, .inr rfl⟩, ?_⟩
  exact retriesAccounted_run oneRetryConfig exampleStore (by decide) (by decide) (by decide)
    oneRetry inOrder 5 (by decide)

/-- The rule of node 5 is not ready for its Get. -/
def waitingScan : List Action :=
  [.handleEvent, .iterate, .iterate, .ruleReturns (some .isWaiting) 0, .iterate]

/-- The rule of node 5 is not ready, six times in a row. -/
def waitingScans : List Action :=
  [.registerRules 1 getOnlyRules] ++ waitingScan ++
    [.handleEvent, .tick 1000, .resumeTimerExpires] ++ waitingScan ++
    [.scanNode 5] ++ waitingScan ++ [.scanNode 5] ++ waitingScan ++
    [.scanNode 5] ++ waitingScan ++ [.scanNode 5] ++ waitingScan

/-- The first attempt is not counted when the rule is not ready, so that six
attempts are made for a retry count of five.  The last one does not complete, and
no give-up is reported. -/
theorem not_retriesAccounted_waitingScans :
    ¬∀ (config : Config) (store : Store) (actions : List Action) (node : NodeId),
      store.root ≠ invalidNode ->
      1 ≤ config.getRetryCount ->
      1 ≤ config.getRetryTimeout ->
      (run step (initial config store) actions).store.nodeExists node = true ->
      (run step (initial config store) actions).executor.hasRule .getRule
        ((run step (initial config store) actions).store.nodeType node) = true ->
      (run step (initial config store) actions).RetriesAccounted node := by
  intro always
  have accounted := always exampleConfig exampleStore waitingScans 5 (by decide) (by decide)
    (by decide) (by decide) (by decide)
  exact absurd accounted.attempts (by decide)

end Resolver

end AttributeResolver
