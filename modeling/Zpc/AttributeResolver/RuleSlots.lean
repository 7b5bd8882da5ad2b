import Zpc.Foundation.Run
import Zpc.AttributeResolver.Rule
import Mathlib.Data.List.Count
import Mathlib.Data.List.Perm.Basic

/-!
# Interleavings of the rule executor

Any number of calls may be between two of their critical sections, and the timer
worker, of which there is one, may be inside `on_rule_execution_timeout`.  Every
claimed slot gets a number.  A run keeps account of the slots that were released,
of the calls of `compl_func` with the slot they complete, and of the executions
that timeouts failed.

The account is kept as it should be in every run in which no call names the
invalid node, executions of one node do not overlap, and nobody else releases
the slot while the timer worker handles a timeout.  The source does not see to
the last: a completion between the expiration and the critical sections of the
timeout makes the timeout act on the slot it finds then.
-/

namespace AttributeResolver

open Foundation

/-- A call in between two critical sections. -/
inductive Call
  /-- `attribute_resolver_rule_execute` with the slot claimed: the rule function
  or the send function is running. -/
  | execution (slot : Nat) (node : NodeId)
  /-- `on_resolver_send_data_complete` has been entered. -/
  | completion (node : NodeId)
  /-- `on_resolver_send_data_complete` updates the attribute store. -/
  | updating (node : NodeId) (needsMoreFrames : Bool)

/-- The timer worker.  It keeps the slot the timer was set for. -/
inductive TimerWorker
  | waiting
  /-- `on_rule_execution_timeout` has been entered. -/
  | expired (slot : Option Nat)
  /-- It has read the pending node and calls `on_resolver_send_data_complete`. -/
  | timedOut (slot : Option Nat) (node : NodeId)
  | updating (slot : Option Nat) (node : NodeId) (needsMoreFrames : Bool)
  deriving DecidableEq

/-- The executor, the calls in progress and the account of the slots.  `claimed`
slots have been numbered, `holder` is the one being held and `timerSlot` the one
`timer_set` was last called for.  `failed` lists, for every execution a timeout
ended, the slot of the timer and the slot that was ended. -/
structure Executions where
  executor : Executor
  calls : List Call
  worker : TimerWorker
  claimed : Nat
  holder : Option Nat
  timerSlot : Option Nat
  released : List Nat
  completed : List (Option Nat)
  failed : List (Option Nat × Option Nat)

/-- A call from outside, or the next critical section of the call at a position
of the list. -/
inductive ExecutorAction
  | registerRules (type : AttributeType) (rules : Rules)
  | execute (node : NodeId) (type : AttributeType) (ruleType : RuleType)
  /-- The rule function failed or the send function did not accept the frame. -/
  | rejected (position : Nat)
  /-- The send function accepted the frame. -/
  | accepted (position : Nat) (moreFrames : Bool)
  | sendDataComplete (node : NodeId)
  | proceed (position : Nat)
  | abort (node : NodeId)
  | timerExpires
  | workerProceeds

namespace Executions

/-- No execution is ongoing. -/
def initial : Executions where
  executor := .initial
  calls := []
  worker := .waiting
  claimed := 0
  holder := none
  timerSlot := none
  released := []
  completed := []
  failed := []

/-- The slot is taken from its holder, if it has one, and `compl_func` is called
for the slots that are `told`. -/
def takeSlot (state : Executions) (executor : Executor) (told : List (Option Nat)) : Executions :=
  { state with
    executor := executor
    holder := none
    released := state.released ++ state.holder.toList
    completed := state.completed ++ told }

/-- The last critical section of a completion or an abort, and the call of
`compl_func` after it. -/
def releaseSlot (state : Executions) (node : NodeId) : Executions :=
  if state.executor.completes node then
    state.takeSlot (state.executor.release node) [state.holder]
  else state

/-- The first phase of `attribute_resolver_rule_execute`. -/
def execute (state : Executions) (node : NodeId) (type : AttributeType)
    (ruleType : RuleType) : Executions :=
  match state.executor.claim node type ruleType with
  | .error _ => state
  | .ok executor =>
      { state with
        executor := executor
        calls := state.calls ++ [.execution state.claimed node]
        claimed := state.claimed + 1
        holder := some state.claimed }

/-- `attribute_resolver_rule_execute` returns without a frame in flight. -/
def rejected (state : Executions) (position : Nat) : Executions :=
  match state.calls[position]? with
  | some (.execution _ node) =>
      let returned := { state with calls := state.calls.eraseIdx position }
      if state.executor.nodePendingResolution = node then
        returned.takeSlot (state.executor.resetState node) []
      else returned
  | _ => state

/-- `attribute_resolver_rule_execute` returns with a frame in flight. -/
def accepted (state : Executions) (position : Nat) (moreFrames : Bool) : Executions :=
  match state.calls[position]? with
  | some (.execution slot node) =>
      { state with
        executor := state.executor.finish node moreFrames
        calls := state.calls.eraseIdx position
        timerSlot :=
          if state.executor.nodePendingResolution = node then some slot
          else state.timerSlot }
  | _ => state

/-- The next critical section of a completion. -/
def proceed (state : Executions) (position : Nat) : Executions :=
  match state.calls[position]? with
  | some (.completion node) =>
      { state with
        calls := state.calls.set position (.updating node (state.executor.needsMoreFrames node)) }
  | some (.updating node _) =>
      { state with calls := state.calls.eraseIdx position }.releaseSlot node
  | _ => state

/-- The worker takes up an expired timer. -/
def timerExpires (state : Executions) : Executions :=
  if state.executor.ruleExecutionTimer && decide (state.worker = .waiting) then
    { state with
      executor := { state.executor with ruleExecutionTimer := false }
      worker := .expired state.timerSlot }
  else state

/-- The next critical section of `on_rule_execution_timeout`. -/
def workerProceeds (state : Executions) : Executions :=
  match state.worker with
  | .waiting => state
  | .expired slot => { state with worker := .timedOut slot state.executor.nodePendingResolution }
  | .timedOut slot node =>
      { state with worker := .updating slot node (state.executor.needsMoreFrames node) }
  | .updating slot node _ =>
      { state.releaseSlot node with
        worker := .waiting
        failed :=
          if state.executor.completes node then state.failed ++ [(slot, state.holder)]
          else state.failed }

/-- One call from outside or one critical section. -/
def step (state : Executions) : ExecutorAction -> Executions
  | .registerRules type rules => { state with executor := state.executor.registerRules type rules }
  | .execute node type ruleType => state.execute node type ruleType
  | .rejected position => state.rejected position
  | .accepted position moreFrames => state.accepted position moreFrames
  | .sendDataComplete node => { state with calls := state.calls ++ [.completion node] }
  | .proceed position => state.proceed position
  | .abort node => state.releaseSlot node
  | .timerExpires => state.timerExpires
  | .workerProceeds => state.workerProceeds

/-- What the claimed slots are promised: the executor is idle exactly when no
node is pending, which is when no slot is held; every slot that is not held any
more was released once; `compl_func` was called at most once for a slot and
never without one; and a timeout ended the execution its timer was set for. -/
structure AccountKept (state : Executions) : Prop where
  idle_iff : state.executor.resolverState = .idle ↔
    state.executor.nodePendingResolution = invalidNode
  held_iff : state.executor.resolverState = .idle ↔ state.holder = none
  releasedOnce : ∀ slot, state.released.count slot =
    if slot < state.claimed ∧ state.holder ≠ some slot then 1 else 0
  completedOnce : ∀ slot, state.completed.count (some slot) ≤ 1
  completedSlot : none ∉ state.completed
  failedOwn : ∀ entry ∈ state.failed, entry.2 = entry.1

/-- No call names the invalid node, an execution does not begin before the last
one of the same node has returned, and nobody else releases the slot while the
timer worker handles a timeout. -/
def Undisturbed (state : Executions) : ExecutorAction -> Prop
  | .execute node _ _ => node ≠ invalidNode ∧ ∀ slot, Call.execution slot node ∉ state.calls
  | .sendDataComplete node => node ≠ invalidNode
  | .abort node =>
      node ≠ invalidNode ∧ (state.worker = .waiting ∨ state.executor.nodePendingResolution ≠ node)
  | .proceed position =>
      ∀ node moreFrames, state.calls[position]? = some (.updating node moreFrames) ->
        state.worker = .waiting ∨ state.executor.nodePendingResolution ≠ node
  | _ => True

/-- The slot of an execution in progress. -/
def slotOf : Call -> Option Nat
  | .execution slot _ => some slot
  | _ => none

/-- The node a completion in progress names. -/
def completionOf : Call -> Option NodeId
  | .completion node => some node
  | .updating node _ => some node
  | .execution _ _ => none

/-- No execution in progress owns the slot that is held. -/
def HeldByFrame (state : Executions) : Prop :=
  state.holder ≠ none ∧
    ∀ slot node, Call.execution slot node ∈ state.calls -> state.holder ≠ some slot

/-- What the timer worker knows about the slot while it handles a timeout. -/
def WorkerKnows (state : Executions) : Prop :=
  match state.worker with
  | .waiting => True
  | .expired slot => slot = state.holder ∧ state.HeldByFrame
  | .timedOut slot node =>
      slot = state.holder ∧ state.HeldByFrame ∧ state.executor.nodePendingResolution = node
  | .updating slot node _ =>
      slot = state.holder ∧ state.HeldByFrame ∧ state.executor.nodePendingResolution = node

/-- The calls in progress: executions have slots of their own, and the pending
node is theirs only if they hold the slot. -/
structure CallsKept (state : Executions) : Prop where
  slots : (state.calls.filterMap slotOf).Nodup
  claimed : ∀ slot node, Call.execution slot node ∈ state.calls -> slot < state.claimed
  named : ∀ slot node, Call.execution slot node ∈ state.calls -> node ≠ invalidNode
  own : ∀ slot node, Call.execution slot node ∈ state.calls ->
    state.executor.nodePendingResolution = node -> state.holder = some slot
  completions : ∀ call ∈ state.calls, completionOf call ≠ some invalidNode

/-- The invariant of the executor. -/
structure SlotsKept (state : Executions) : Prop where
  idle_iff : state.executor.resolverState = .idle ↔
    state.executor.nodePendingResolution = invalidNode
  held_iff : state.executor.resolverState = .idle ↔ state.holder = none
  holder : ∀ slot, state.holder = some slot -> slot < state.claimed
  releasedOnce : ∀ slot, state.released.count slot =
    if slot < state.claimed ∧ state.holder ≠ some slot then 1 else 0
  completed_le : ∀ slot, state.completed.count (some slot) ≤ state.released.count slot
  completedSlot : none ∉ state.completed
  failedOwn : ∀ entry ∈ state.failed, entry.2 = entry.1
  calls : state.CallsKept
  timer : state.executor.ruleExecutionTimer = true ->
    state.timerSlot = state.holder ∧ state.HeldByFrame
  worker : state.WorkerKnows

variable {state : Executions} {node : NodeId} {slot : Nat}

theorem SlotsKept.accountKept (kept : state.SlotsKept) : state.AccountKept where
  idle_iff := kept.idle_iff
  held_iff := kept.held_iff
  releasedOnce := kept.releasedOnce
  completedOnce slot := by
    refine Nat.le_trans (kept.completed_le slot) ?_
    rw [kept.releasedOnce slot]
    split <;> omega
  completedSlot := kept.completedSlot
  failedOwn := kept.failedOwn

theorem slotsKept_initial : initial.SlotsKept := by
  constructor <;> simp [initial, Executor.initial, WorkerKnows]
  constructor <;> simp

theorem SlotsKept.exists_holder (kept : state.SlotsKept)
    (pending : state.executor.nodePendingResolution = node) (named : node ≠ invalidNode) :
    ∃ slot, state.holder = some slot := by
  refine Option.ne_none_iff_exists'.mp fun free => ?_
  exact named (pending ▸ kept.idle_iff.mp (kept.held_iff.mpr free))

theorem SlotsKept.withCalls (kept : state.SlotsKept) {calls : List Call}
    (executions : ∀ slot node,
      Call.execution slot node ∈ calls -> Call.execution slot node ∈ state.calls)
    (slots : (calls.filterMap slotOf).Nodup)
    (completions : ∀ call ∈ calls, completionOf call ≠ some invalidNode) :
    { state with calls := calls }.SlotsKept := by
  have held : state.HeldByFrame -> { state with calls := calls }.HeldByFrame :=
    fun held => ⟨held.1, fun slot node mem => held.2 slot node (executions slot node mem)⟩
  refine
    { kept with
      calls :=
        { slots := slots
          claimed := fun slot node mem => kept.calls.claimed slot node (executions slot node mem)
          named := fun slot node mem => kept.calls.named slot node (executions slot node mem)
          own := fun slot node mem => kept.calls.own slot node (executions slot node mem)
          completions := completions }
      timer := fun running => ⟨(kept.timer running).1, held (kept.timer running).2⟩
      worker := ?_ }
  have knows := kept.worker
  unfold WorkerKnows at knows ⊢
  cases working : state.worker with
  | waiting => trivial
  | expired slot =>
    rw [working] at knows
    exact ⟨knows.1, held knows.2⟩
  | timedOut | updating =>
    rw [working] at knows
    exact ⟨knows.1, held knows.2.1, knows.2.2⟩

theorem SlotsKept.returns {state : Executions} (kept : state.SlotsKept) (position : Nat) :
    { state with calls := state.calls.eraseIdx position }.SlotsKept := by
  have part := List.eraseIdx_sublist state.calls position
  refine kept.withCalls (fun slot node mem => part.subset mem) ?_
    fun call mem => kept.calls.completions call (part.subset mem)
  exact kept.calls.slots.sublist (part.filterMap slotOf)

theorem SlotsKept.worker_waiting (kept : state.SlotsKept) (unheld : ¬state.HeldByFrame) :
    state.worker = .waiting := by
  have knows := kept.worker
  unfold WorkerKnows at knows
  cases working : state.worker with
  | waiting => rfl
  | expired slot =>
    rw [working] at knows
    exact absurd knows.2 unheld
  | timedOut | updating =>
    rw [working] at knows
    exact absurd knows.2.1 unheld

theorem SlotsKept.not_heldByFrame (kept : state.SlotsKept)
    (inProgress : Call.execution slot node ∈ state.calls) (holds : state.holder = some slot) :
    state.executor.ruleExecutionTimer = false ∧ state.worker = .waiting := by
  have notFrame : ¬state.HeldByFrame := fun held => held.2 slot node inProgress holds
  refine ⟨?_, kept.worker_waiting notFrame⟩
  by_contra running
  exact notFrame (kept.timer (by simpa using running)).2

theorem SlotsKept.takeSlot (kept : state.SlotsKept) (holds : state.holder = some slot)
    {executor : Executor} (idle : executor.resolverState = .idle)
    (cleared : executor.nodePendingResolution = invalidNode)
    (stopped : executor.ruleExecutionTimer = false) (waiting : state.worker = .waiting)
    {told : List (Option Nat)} (toldOnce : told = [] ∨ told = [some slot]) :
    (state.takeSlot executor told).SlotsKept := by
  have releases : ∀ other, (state.released ++ state.holder.toList).count other =
      state.released.count other + if other = slot then 1 else 0 := by
    intro other
    rw [holds, List.count_append]
    by_cases same : other = slot
    · simp [same]
    · simp [same, Ne.symm same]
  refine
    { idle_iff := by simp [Executions.takeSlot, idle, cleared]
      held_iff := by simp [Executions.takeSlot, idle]
      holder := by simp [Executions.takeSlot]
      releasedOnce := fun other => ?_
      completed_le := fun other => ?_
      completedSlot := ?_
      failedOwn := kept.failedOwn
      calls :=
        { slots := kept.calls.slots
          claimed := kept.calls.claimed
          named := kept.calls.named
          own := fun slot node mem pending => ?_
          completions := kept.calls.completions }
      timer := by simp [Executions.takeSlot, stopped]
      worker := by simp [WorkerKnows, Executions.takeSlot, waiting] }
  · refine (releases other).trans ?_
    rw [kept.releasedOnce other, holds]
    by_cases same : other = slot
    · simp [same, kept.holder slot holds, Executions.takeSlot]
    · simp [same, Ne.symm same, Executions.takeSlot]
  · refine Nat.le_trans ?_ (Nat.le_of_eq (releases other).symm)
    have before := kept.completed_le other
    show (state.completed ++ told).count (some other) ≤ _
    rw [List.count_append]
    rcases toldOnce with rfl | rfl
    · simp only [List.count_nil]
      omega
    · rw [List.count_singleton]
      by_cases same : other = slot
      · simp [same] at before ⊢
        omega
      · simp [same, Ne.symm same] at before ⊢
        omega
  · have before := kept.completedSlot
    rcases toldOnce with rfl | rfl <;> simpa [Executions.takeSlot] using before
  · exact absurd (pending.symm.trans cleared) (kept.calls.named slot node mem)

theorem SlotsKept.releaseSlot (kept : state.SlotsKept) (named : node ≠ invalidNode)
    (undisturbed : state.worker = .waiting ∨ state.executor.nodePendingResolution ≠ node) :
    (state.releaseSlot node).SlotsKept := by
  unfold Executions.releaseSlot Executor.completes
  split
  · rename_i completes
    have pending : state.executor.nodePendingResolution = node := by simpa using completes
    obtain ⟨slot, holds⟩ := kept.exists_holder pending named
    have waiting := undisturbed.resolve_right (not_not.mpr pending)
    refine kept.takeSlot holds ?_ ?_ ?_ waiting (.inr (by rw [holds]))
    all_goals simp [Executor.release, pending]
  · exact kept

/-- Claiming a slot for a node that holds none keeps the account. -/
theorem SlotsKept.execute (kept : state.SlotsKept) (type : AttributeType) (ruleType : RuleType)
    (named : node ≠ invalidNode) (alone : ∀ slot, Call.execution slot node ∉ state.calls) :
    (state.execute node type ruleType).SlotsKept := by
  unfold Executions.execute
  split
  · exact kept
  · rename_i executor succeeds
    obtain ⟨idle, -, rfl⟩ := Executor.claim_eq_ok succeeds
    have free := kept.held_iff.mp idle
    have unheld : ¬state.HeldByFrame := fun held => held.1 free
    have isNew : ∀ slot other, Call.execution slot other ∈ state.calls -> slot ≠ state.claimed :=
      fun slot other mem => Nat.ne_of_lt (kept.calls.claimed slot other mem)
    refine
      { idle_iff := by simp [Executor.stateOf_ne_idle, named]
        held_iff := by simp [Executor.stateOf_ne_idle]
        holder := fun slot same => by
          cases same
          exact Nat.lt_succ_self _
        releasedOnce := fun slot => ?_
        completed_le := kept.completed_le
        completedSlot := kept.completedSlot
        failedOwn := kept.failedOwn
        calls := ?_
        timer := fun running => absurd (kept.timer running).2 unheld
        worker := ?_ }
    · refine (kept.releasedOnce slot).trans (if_congr ?_ rfl rfl)
      rw [free]
      simp only [ne_eq, reduceCtorEq, not_false_eq_true, and_true, Option.some.injEq]
      omega
    · refine
        { slots := ?_
          claimed := fun slot other mem => ?_
          named := fun slot other mem => ?_
          own := fun slot other mem pending => ?_
          completions := fun call mem => ?_ }
      · rw [List.filterMap_append]
        refine List.nodup_append.mpr ⟨kept.calls.slots, by simp [slotOf], ?_⟩
        intro slot mem other isLast same
        obtain ⟨call, inProgress, slotIs⟩ := List.mem_filterMap.mp mem
        cases call with
        | execution slot' other' =>
          have lastIs : other = state.claimed := by simpa [slotOf] using isLast
          have slotIs : slot' = slot := by simpa [slotOf] using slotIs
          exact isNew slot' other' inProgress (slotIs.trans (same.trans lastIs))
        | completion | updating => simp [slotOf] at slotIs
      · rcases List.mem_append.mp mem with before | last
        · exact Nat.lt_succ_of_lt (kept.calls.claimed slot other before)
        · obtain ⟨rfl, -⟩ : slot = state.claimed ∧ other = node := by simpa using last
          exact Nat.lt_succ_self _
      · rcases List.mem_append.mp mem with before | last
        · exact kept.calls.named slot other before
        · obtain ⟨-, rfl⟩ : slot = state.claimed ∧ other = node := by simpa using last
          exact named
      · rcases List.mem_append.mp mem with before | last
        · subst pending
          exact absurd before (alone slot)
        · obtain ⟨rfl, -⟩ : slot = state.claimed ∧ other = node := by simpa using last
          rfl
      · rcases List.mem_append.mp mem with before | last
        · exact kept.calls.completions call before
        · rw [List.mem_singleton.mp last]
          simp [completionOf]
    · have waiting := kept.worker_waiting unheld
      simp [WorkerKnows, waiting]

theorem SlotsKept.rejected (kept : state.SlotsKept) (position : Nat) :
    (state.rejected position).SlotsKept := by
  unfold Executions.rejected
  split
  · rename_i slot node found
    have inProgress := List.mem_of_getElem? found
    split
    · rename_i pending
      have holds := kept.calls.own slot node inProgress pending
      obtain ⟨stopped, waiting⟩ := kept.not_heldByFrame inProgress holds
      refine (kept.returns position).takeSlot holds ?_ ?_ ?_ waiting (.inl rfl)
      all_goals simp [Executor.resetState, pending, stopped]
    · exact kept.returns position
  · exact kept

variable {position : Nat}

theorem CallsKept.slot_ne_of_mem_eraseIdx (kept : state.CallsKept) {other : Nat}
    {otherNode : NodeId} (found : state.calls[position]? = some (.execution slot node))
    (mem : Call.execution other otherNode ∈ state.calls.eraseIdx position) : other ≠ slot := by
  obtain ⟨within, isCall⟩ := List.getElem?_eq_some_iff.mp found
  have split : (Call.execution slot node :: state.calls.eraseIdx position).Perm state.calls := by
    rw [← isCall]
    exact List.getElem_cons_eraseIdx_perm within
  have nodup := (split.filterMap slotOf).nodup_iff.mpr kept.slots
  have fresh : slot ∉ (state.calls.eraseIdx position).filterMap slotOf :=
    (List.nodup_cons.mp nodup).1
  rintro rfl
  exact fresh (List.mem_filterMap.mpr ⟨_, mem, rfl⟩)

theorem SlotsKept.accepted (kept : state.SlotsKept) (position : Nat) (moreFrames : Bool) :
    (state.accepted position moreFrames).SlotsKept := by
  unfold Executions.accepted
  split
  · rename_i slot node found
    have inProgress := List.mem_of_getElem? found
    have returned := kept.returns position
    by_cases pending : state.executor.nodePendingResolution = node
    · have holds := kept.calls.own slot node inProgress pending
      obtain ⟨-, waiting⟩ := kept.not_heldByFrame inProgress holds
      rw [Executor.finish, if_pos pending, if_pos pending]
      refine
        { idle_iff := kept.idle_iff
          held_iff := kept.held_iff
          holder := kept.holder
          releasedOnce := kept.releasedOnce
          completed_le := kept.completed_le
          completedSlot := kept.completedSlot
          failedOwn := kept.failedOwn
          calls := ⟨returned.calls.slots, returned.calls.claimed, returned.calls.named,
            returned.calls.own, returned.calls.completions⟩
          timer := fun _ => ⟨holds.symm, ?_, ?_⟩
          worker := by simp [WorkerKnows, waiting] }
      · show state.holder ≠ none
        rw [holds]
        simp
      · intro other otherNode mem same
        have isSlot : slot = other := Option.some.inj (holds.symm.trans same)
        exact kept.calls.slot_ne_of_mem_eraseIdx found mem isSlot.symm
    · rw [Executor.finish, if_neg pending, if_neg pending]
      exact returned
  · exact kept

theorem SlotsKept.proceed {state : Executions} (kept : state.SlotsKept)
    (undisturbed : state.Undisturbed (.proceed position)) : (state.proceed position).SlotsKept := by
  unfold Executions.proceed
  split
  · rename_i node found
    have inProgress := List.mem_of_getElem? found
    have named := kept.calls.completions _ inProgress
    have calls : ∀ call ∈ state.calls.set position
        (.updating node (state.executor.needsMoreFrames node)),
        call ∈ state.calls ∨ call = .updating node (state.executor.needsMoreFrames node) :=
      fun call mem => List.mem_or_eq_of_mem_set mem
    refine kept.withCalls (fun slot other mem => ?_) ?_ fun call mem => ?_
    · exact (calls _ mem).resolve_right (by simp)
    · obtain ⟨within, isCall⟩ := List.getElem?_eq_some_iff.mp found
      have same : (state.calls.set position
          (.updating node (state.executor.needsMoreFrames node))).filterMap slotOf =
          state.calls.filterMap slotOf := by
        conv_rhs => rw [← List.take_append_drop position state.calls,
          List.drop_eq_getElem_cons within, isCall]
        rw [List.set_eq_take_append_cons_drop, if_pos within]
        simp [List.filterMap_append, List.filterMap_cons, slotOf]
      rw [same]
      exact kept.calls.slots
    · rcases calls call mem with before | rfl
      · exact kept.calls.completions call before
      · exact named
  · rename_i node moreFrames found
    have inProgress := List.mem_of_getElem? found
    have named := kept.calls.completions _ inProgress
    refine (kept.returns position).releaseSlot (fun isInvalid => ?_)
      (undisturbed node moreFrames found)
    exact named (by simp [completionOf, isInvalid])
  · exact kept

theorem SlotsKept.timerExpires (kept : state.SlotsKept) : state.timerExpires.SlotsKept := by
  unfold Executions.timerExpires
  split
  · rename_i fires
    rw [Bool.and_eq_true] at fires
    exact
      { idle_iff := kept.idle_iff
        held_iff := kept.held_iff
        holder := kept.holder
        releasedOnce := kept.releasedOnce
        completed_le := kept.completed_le
        completedSlot := kept.completedSlot
        failedOwn := kept.failedOwn
        calls := ⟨kept.calls.slots, kept.calls.claimed, kept.calls.named,
          kept.calls.own, kept.calls.completions⟩
        timer := fun running => nomatch running
        worker := kept.timer fires.1 }
  · exact kept

theorem SlotsKept.timeoutReleases (kept : state.SlotsKept) {slot : Option Nat} {moreFrames : Bool}
    (working : state.worker = .updating slot node moreFrames) : state.workerProceeds.SlotsKept := by
  have knows := kept.worker
  rw [WorkerKnows, working] at knows
  obtain ⟨isHolder, held, pending⟩ := knows
  have completes : state.executor.completes node = true := by
    simp [Executor.completes, pending]
  -- The state of the worker plays no part once its entry is written.
  have settled :
      { state with
        worker := .waiting
        failed := state.failed ++ [(slot, state.holder)] }.SlotsKept :=
    { kept with
      failedOwn := fun entry mem => by
        rcases List.mem_append.mp mem with before | last
        · exact kept.failedOwn entry before
        · rw [List.mem_singleton.mp last, isHolder]
      calls := ⟨kept.calls.slots, kept.calls.claimed, kept.calls.named,
        kept.calls.own, kept.calls.completions⟩
      worker := trivial }
  have named : node ≠ invalidNode := fun isInvalid =>
    held.1 (kept.held_iff.mp (kept.idle_iff.mpr (pending.trans isInvalid)))
  have releases := settled.releaseSlot named (.inl rfl)
  unfold Executions.workerProceeds
  rw [working]
  simp only [Executions.releaseSlot, completes, if_true] at releases ⊢
  exact releases

theorem SlotsKept.workerProceeds (kept : state.SlotsKept) : state.workerProceeds.SlotsKept := by
  have knows := kept.worker
  cases working : state.worker with
  | waiting =>
    rw [Executions.workerProceeds, working]
    exact kept
  | expired slot =>
    rw [WorkerKnows, working] at knows
    rw [Executions.workerProceeds, working]
    exact { kept with
      calls := ⟨kept.calls.slots, kept.calls.claimed, kept.calls.named,
        kept.calls.own, kept.calls.completions⟩
      worker := ⟨knows.1, knows.2, rfl⟩ }
  | timedOut slot node =>
    rw [WorkerKnows, working] at knows
    rw [Executions.workerProceeds, working]
    exact { kept with
      calls := ⟨kept.calls.slots, kept.calls.claimed, kept.calls.named,
        kept.calls.own, kept.calls.completions⟩
      worker := knows }
  | updating slot node moreFrames => exact kept.timeoutReleases working

/-- Every undisturbed step keeps the account of the slots. -/
theorem SlotsKept.step (kept : state.SlotsKept) {action : ExecutorAction}
    (undisturbed : state.Undisturbed action) : (state.step action).SlotsKept := by
  cases action with
  | registerRules type rules =>
    exact { kept with
      calls := ⟨kept.calls.slots, kept.calls.claimed, kept.calls.named,
        kept.calls.own, kept.calls.completions⟩
      worker := kept.worker }
  | execute node type ruleType => exact kept.execute type ruleType undisturbed.1 undisturbed.2
  | rejected position => exact kept.rejected position
  | accepted position moreFrames => exact kept.accepted position moreFrames
  | sendDataComplete node =>
    refine kept.withCalls (fun slot other mem => ?_) ?_ fun call mem => ?_
    · simpa using mem
    · simpa [List.filterMap_append, List.filterMap_cons, slotOf] using kept.calls.slots
    · rcases List.mem_append.mp mem with before | last
      · exact kept.calls.completions call before
      · rw [List.mem_singleton.mp last]
        exact fun isInvalid => undisturbed (Option.some.inj isInvalid)
  | proceed position => exact kept.proceed undisturbed
  | abort node => exact kept.releaseSlot undisturbed.1 undisturbed.2
  | timerExpires => exact kept.timerExpires
  | workerProceeds => exact kept.workerProceeds

/-- In every undisturbed run of the executor the account of the slots is kept. -/
theorem accountKept_of_undisturbed (actions : List ExecutorAction)
    (undisturbed : StepsMeet step Undisturbed initial actions) :
    (run step initial actions).AccountKept :=
  (undisturbed.invariant SlotsKept (fun _ _ kept meets => kept.step meets)
    slotsKept_initial).accountKept

/-- An execution of node 5 times out. -/
def timeoutRun : List ExecutorAction :=
  [.registerRules 1 exampleRules, .execute 5 1 .setRule, .accepted 0 false,
    .timerExpires, .workerProceeds, .workerProceeds, .workerProceeds]

theorem accountKept_timeoutRun :
    StepsMeet step Undisturbed initial timeoutRun ∧
      (run step initial timeoutRun).AccountKept ∧
      (run step initial timeoutRun).failed = [(some 0, some 0)] := by
  have undisturbed : StepsMeet step Undisturbed initial timeoutRun := by
    simp [timeoutRun, Undisturbed, invalidNode, initial, step]
  exact ⟨undisturbed, accountKept_of_undisturbed timeoutRun undisturbed, by decide⟩

/-- The completion of node 5 arrives when its timer has just expired. -/
def lateTimeoutRun : List ExecutorAction :=
  [.registerRules 1 exampleRules, .execute 5 1 .setRule, .accepted 0 false,
    .timerExpires, .sendDataComplete 5, .proceed 0, .proceed 0,
    .workerProceeds, .workerProceeds, .workerProceeds]

/-- `compl_func` is called for the completion and then without any slot. -/
theorem not_accountKept_lateTimeoutRun : ¬∀ actions, (run step initial actions).AccountKept := by
  intro always
  have completed : (run step initial lateTimeoutRun).completed = [some 0, none] := by decide
  have slots := (always lateTimeoutRun).completedSlot
  rw [completed] at slots
  simp at slots

end Executions

end AttributeResolver
