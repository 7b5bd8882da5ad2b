import Zpc.AttributeResolver.Effects

/-!
# No lost wake-up

The request for a scan, the stack, the executor and the event queue are changed
by different functions.  Between two events, whenever there is something left to
scan, either a `NEXT_EVENT` is in the queue or the executor is busy, and then the
completion of its rule posts one.
-/

namespace AttributeResolver

open Foundation

namespace Resolver

/-- There is something to scan: the stack is not empty or a scan is requested. -/
def HasWork (state : Resolver) : Prop := state.stack ≠ [] ∨ state.scanRequested = true

/-- The invariant behind the wake-ups.  While the resolver thread is in its loop
it will look at the stack again, and at the end of the loop at the request. -/
structure Awake (state : Resolver) : Prop where
  root : state.store.root ≠ invalidNode
  requested : state.control = .idle -> state.stack = [] -> state.scanRequested = true ->
    Event.next ∈ state.events
  scanning : state.control ≠ .scanning -> state.stack ≠ [] ->
    Event.next ∈ state.events ∨ state.executor.isBusy = true

variable {state before after : Resolver} {status : SlStatus}

theorem Awake.wakesUp (awake : state.Awake) (idle : state.control = .idle) (work : state.HasWork) :
    Event.next ∈ state.events ∨ state.executor.isBusy = true := by
  by_cases empty : state.stack = []
  · rcases work with nonempty | requested
    · exact absurd empty nonempty
    · exact .inl (awake.requested idle empty requested)
  · exact awake.scanning (by simp [idle]) empty

theorem Keeps.stack_eq_nil_iff (keeps : before.Keeps after) :
    after.stack = [] ↔ before.stack = [] := by
  rw [← List.map_eq_nil_iff (f := Prod.fst), keeps.stack, List.map_eq_nil_iff]

theorem Awake.keeps {before after : Resolver} (awake : before.Awake) (keeps : before.Keeps after) :
    after.Awake where
  root := keeps.root ▸ awake.root
  requested idle empty requested := by
    rcases keeps.posted requested with before | posted
    · exact keeps.events.subset
        (awake.requested (keeps.control ▸ idle) (keeps.stack_eq_nil_iff.mp empty) before)
    · exact posted
  scanning running nonempty := by
    rw [keeps.executor]
    refine (awake.scanning (keeps.control ▸ running) fun empty => ?_).imp_left
      fun mem => keeps.events.subset mem
    exact nonempty (keeps.stack_eq_nil_iff.mpr empty)

theorem Awake.complete {state : Resolver} (awake : state.Awake) (executor : Executor)
    (node : NodeId) :
    ({ state with executor := executor }.onResolverRuleExecuteComplete node).Awake := by
  have keeps := keeps_onResolverRuleExecuteComplete { state with executor := executor } node
  refine ⟨keeps.root ▸ awake.root, fun idle empty requested => ?_, fun _ nonempty => ?_⟩
  · rcases keeps.posted requested with before | posted
    · exact keeps.events.subset
        (awake.requested (keeps.control ▸ idle) (keeps.stack_eq_nil_iff.mp empty) before)
    · exact posted
  · exact .inl (next_mem_of_complete _ node nonempty)

theorem Awake.releaseSlot (awake : state.Awake) (node : NodeId) :
    (state.releaseSlot node).Awake := by
  unfold Resolver.releaseSlot
  split
  · exact awake.complete _ node
  · exact awake

theorem awake_endNext (root : state.store.root ≠ invalidNode)
    (scanning : state.stack ≠ [] -> Event.next ∈ state.events ∨ state.executor.isBusy = true) :
    state.endNext.Awake := by
  unfold endNext
  dsimp only
  split
  · rename_i left
    simp only [Bool.and_eq_true, List.isEmpty_iff] at left
    exact ⟨root, fun _ _ _ => by simp [post], fun _ nonempty => absurd left.1 nonempty⟩
  · rename_i left
    refine ⟨root, fun _ empty requested => ?_, fun _ => scanning⟩
    exact absurd (by simp [show state.stack = [] from empty,
      show state.scanRequested = true from requested]) left

theorem awake_scanning (root : state.store.root ≠ invalidNode) :
    { state with control := .scanning }.Awake :=
  ⟨root, fun idle => absurd idle (by simp), fun running => absurd rfl running⟩

theorem awake_continueWith (root : state.store.root ≠ invalidNode) (node : NodeId)
    (busy : status = .ok ∨ status = .inProgress -> state.stack ≠ [] ->
      Event.next ∈ state.events ∨ state.executor.isBusy = true) :
    (state.continueWith node status).Awake := by
  unfold continueWith
  split
  · exact awake_endNext root (busy (.inl rfl))
  · exact awake_endNext root (busy (.inr rfl))
  · refine awake_endNext ?_ fun nonempty => .inl (next_mem_of_complete _ node nonempty)
    exact (keeps_onResolverRuleExecuteComplete state node).root ▸ root
  · refine awake_endNext ?_ fun nonempty => .inl (next_mem_of_complete _ node nonempty)
    exact (keeps_onResolverRuleExecuteComplete state node).root ▸ root
  · exact awake_scanning root

theorem recordExecution_frame (state : Resolver) (execution : Execution) (status : SlStatus) :
    (state.recordExecution execution status).executor = state.executor ∧
      (state.recordExecution execution status).store = state.store ∧
      (state.recordExecution execution status).stack.map (·.1) = state.stack.map (·.1) ∧
      state.events <+: (state.recordExecution execution status).events := by
  unfold recordExecution
  split
  case h_3 =>
    have schedules := schedules_restartPendingGetNodesTimer
      { state with
        pendingGetResolutions :=
          assign state.pendingGetResolutions execution.node
            { sendTimeout := state.clock + 1000, count := 0 } }
    refine ⟨?_, ?_, schedules.stack, schedules.events⟩ <;> rw [schedules.same]
  all_goals exact ⟨rfl, rfl, rfl, List.prefix_rfl⟩

theorem awake_executed (root : state.store.root ≠ invalidNode) (execution : Execution)
    (busy : status = .ok ∨ status = .inProgress -> state.stack ≠ [] ->
      Event.next ∈ state.events ∨ state.executor.isBusy = true) :
    (state.executed execution status).Awake := by
  obtain ⟨executor, store, stack, events⟩ := recordExecution_frame state execution status
  refine awake_continueWith (store ▸ root) execution.node fun accepted nonempty => ?_
  rw [executor]
  refine (busy accepted fun empty => nonempty ?_).imp_left fun mem => events.subset mem
  rw [← List.map_eq_nil_iff (f := Prod.fst), stack, empty, List.map_nil]

theorem awake_ruleExecute (root : state.store.root ≠ invalidNode) (execution : Execution) :
    (state.ruleExecute execution).Awake := by
  unfold ruleExecute
  extract_lets counted
  have sameStore : counted.store = state.store := by
    dsimp only [counted]
    split <;> rfl
  split
  · rename_i status refused
    exact awake_executed (sameStore ▸ root) execution fun accepted =>
      absurd accepted (Executor.not_accepted_of_claim refused)
  · rename_i executor claimed
    obtain ⟨-, -, rfl⟩ := Executor.claim_eq_ok claimed
    refine ⟨sameStore ▸ root, fun idle => absurd idle (by simp), fun _ _ => .inr ?_⟩
    simp [Executor.isBusy, Executor.stateOf_ne_idle]

theorem awake_visitNode (root : state.store.root ≠ invalidNode) (node : NodeId) :
    (state.visitNode node).Awake := by
  unfold visitNode
  split
  · unfold executeGet
    split
    · split
      · exact awake_scanning root
      · split
        · refine awake_ruleExecute ?_ _
          exact root
        · exact awake_continueWith root node (by simp)
    · split
      · exact awake_continueWith root node (by simp)
      · exact awake_ruleExecute root _
  · split
    · unfold executeSet
      split
      · exact awake_continueWith root node (by simp)
      · split
        · exact awake_continueWith root node (by simp)
        · extract_lets expired
          split
          · refine awake_continueWith ?_ node (by simp)
            exact root
          · refine awake_ruleExecute ?_ _
            exact root
    · exact awake_continueWith root node (by simp)

/-- A round of the scan leaves no work without an event or a busy executor. -/
theorem Awake.iterate (awake : state.Awake) (running : state.control = .scanning) :
    state.iterate.Awake := by
  have stays : ∀ stack, { state with stack := stack }.Awake := fun stack =>
    ⟨awake.root, fun idle => absurd (running.symm.trans idle) (by simp),
      fun other => absurd running other⟩
  unfold Resolver.iterate
  split
  · rename_i empty
    exact awake_endNext awake.root fun nonempty => absurd empty nonempty
  · split
    · exact stays _
    · dsimp only
      split
      · refine awake_visitNode ?_ _
        exact awake.root
      · exact stays _

theorem Awake.ruleReturns (awake : state.Awake) (frameStatus : Option SlStatus) (frameSize : Nat) :
    (state.ruleReturns frameStatus frameSize).Awake := by
  unfold Resolver.ruleReturns
  split
  · rename_i execution running
    extract_lets reset
    have fails : ∀ status, status ≠ .ok -> status ≠ .inProgress ->
        (reset.executed execution status).Awake := by
      intro status notOk notInProgress
      refine awake_executed ?_ execution fun accepted => ?_
      · exact awake.root
      · exact absurd accepted (not_or.mpr ⟨notOk, notInProgress⟩)
    have sends : ∀ moreFrames, { state with control := .sending execution moreFrames }.Awake :=
      fun moreFrames => ⟨awake.root, fun idle => absurd idle (by simp),
        fun _ => awake.scanning (by simp [running])⟩
    split
    · exact fails _ (by decide) (by decide)
    · split
      · exact fails _ (by decide) (by decide)
      · exact sends _
    · split
      · exact fails _ (by decide) (by decide)
      · exact sends _
    all_goals exact fails _ (by decide) (by decide)
  · exact awake

theorem Awake.sendReturns (awake : state.Awake) (accepted : Bool) :
    (state.sendReturns accepted).Awake := by
  unfold Resolver.sendReturns
  split
  · rename_i execution moreFrames running
    have due := awake.scanning (by simp [running])
    split
    · refine awake_executed ?_ execution fun _ nonempty => ?_
      · exact awake.root
      · refine (due nonempty).imp_right fun busy => ?_
        unfold Executor.finish
        split <;> exact busy
    · refine awake_executed ?_ execution (by simp)
      exact awake.root
  · exact awake

theorem Awake.handleEvent (awake : state.Awake) (idle : state.control = .idle) :
    state.handleEvent.Awake := by
  unfold Resolver.handleEvent
  split
  · exact awake
  · unfold evNext
    rw [if_neg awake.root]
    extract_lets begun
    have sameRoot : begun.store.root = state.store.root := by
      dsimp only [begun]
      split <;> rfl
    split
    · rename_i busy
      exact awake_endNext (sameRoot ▸ awake.root) fun _ => .inr busy
    · exact awake_scanning (sameRoot ▸ awake.root)
  all_goals
    rename_i rest queue
    have remains : Event.next ∈ state.events -> Event.next ∈ rest := by
      rw [queue]
      simp
    exact ⟨awake.root, fun _ empty requested => remains (awake.requested idle empty requested),
      fun running nonempty => (awake.scanning running nonempty).imp_left remains⟩

theorem awake_isCallbackInvariant : CallbackInvariant Awake where
  keeps awake keeps := awake.keeps keeps
  releaseSlot awake node := awake.releaseSlot node
  withExecutor {_ _} awake state _ :=
    ⟨awake.root, awake.requested, fun running nonempty =>
      (awake.scanning running nonempty).imp_right fun busy => by
        rw [Executor.isBusy, state]
        exact busy⟩

/-- No step of the resolver loses a wake-up. -/
theorem Awake.step (awake : state.Awake) (action : Action) : (state.step action).Awake := by
  refine awake_isCallbackInvariant.step action awake (fun idle => ?_) (fun running => ?_)
    (fun frameStatus frameSize _ => ?_) fun accepted _ => ?_
  · exact awake.handleEvent idle
  · exact awake.iterate running
  · exact awake.ruleReturns frameStatus frameSize
  · exact awake.sendReturns accepted

theorem awake_initial (config : Config) {store : Store} (initialized : store.root ≠ invalidNode) :
    (initial config store).Awake :=
  ⟨initialized, fun _ _ _ => by simp [initial], fun _ nonempty => absurd rfl nonempty⟩

/-- In every run on an initialized store, between two events, work that is left
has a `NEXT_EVENT` in the queue or waits for the executor. -/
theorem next_queued_or_busy_of_hasWork (config : Config) (store : Store)
    (initialized : store.root ≠ invalidNode) (actions : List Action)
    (idle : (run step (initial config store) actions).control = .idle)
    (work : (run step (initial config store) actions).HasWork) :
    Event.next ∈ (run step (initial config store) actions).events ∨
      (run step (initial config store) actions).executor.isBusy = true :=
  (run_invariant Awake (fun _ action awake => awake.step action)
    (awake_initial config initialized) actions).wakesUp idle work

/-- A Get rule is executed for node 5 and its frame is accepted. -/
def busyRun : List Action :=
  [.registerRules 1 exampleRules, .handleEvent, .iterate, .iterate, .ruleReturns (some .ok) 3,
    .sendReturns true]

theorem busy_of_busyRun :
    (run step (initial exampleConfig exampleStore) busyRun).stack = [(1, 1)] ∧
      (Event.next ∈ (run step (initial exampleConfig exampleStore) busyRun).events ∨
        (run step (initial exampleConfig exampleStore) busyRun).executor.isBusy = true) := by
  have stack : (run step (initial exampleConfig exampleStore) busyRun).stack = [(1, 1)] := by
    decide
  refine ⟨stack, next_queued_or_busy_of_hasWork exampleConfig exampleStore (by decide) busyRun
    (by decide) (.inl ?_)⟩
  rw [stack]
  simp

end Resolver

end AttributeResolver
