import Zpc.AttributeResolver.PendingSets
import Zpc.AttributeResolver.Values

/-!
# The accounts of the Get resolutions

For every attribute the resolver keeps an entry with the number of attempts and
the time of the next one.  The invariant below relates the entry of a node to the
attempts that were made and to the give-ups that were reported since the last
update of the node.  A completion breaks it for the node it is about and restores
it, so it is stated with nodes that are left out.
-/

namespace AttributeResolver

open Foundation

namespace Resolver

/-- The first Get of a node is being executed. -/
def FirstGet (state : Resolver) (node : NodeId) : Prop :=
  state.Executing { node := node, ruleType := .getRule, isRetry := false }

/-- The entry of a node that was given up together with its group, and has a
reported value. -/
structure Dormant (state : Resolver) (node : NodeId) (pending : PendingGet) : Prop where
  rule : state.executor.hasRule .getRule (state.store.nodeType node) = true
  reported : state.store.isValueDefined .reported node = true
  desired : state.store.isValueDefined .desired node = false
  sendTimeout : pending.sendTimeout = 0
  count : state.config.getRetryCount ≤ pending.count
  notHeld : state.executor.nodePendingResolution ≠ node
  attempts : state.attempts.count node = 0
  giveUps : state.giveUps.count node = 0

/-- The executor holds the node for a Get. -/
structure InFlight (state : Resolver) (node : NodeId) (pending : PendingGet) : Prop where
  held : state.executor.nodePendingResolution = node
  executes : state.executor.resolverState = .executingGetRule
  sendTimeout : ∀ execution, execution.node = node -> state.Executing execution ->
    pending.sendTimeout ≠ 0
  giveUps : state.giveUps.count node = 0

/-- The next attempt comes when the time of the entry has passed. -/
structure Waiting (state : Resolver) (node : NodeId) (pending : PendingGet) : Prop where
  notHeld : state.executor.nodePendingResolution ≠ node
  sendTimeout : pending.sendTimeout ≠ 0
  count : pending.count < state.getNodeRetryCount node
  giveUps : state.giveUps.count node = 0

/-- All attempts were made, and the give-up was reported. -/
structure GivenUp (state : Resolver) (node : NodeId) (pending : PendingGet) : Prop where
  notHeld : state.executor.nodePendingResolution ≠ node
  count : state.getNodeRetryCount node ≤ pending.count
  desired : pending.sendTimeout = 0 -> state.store.isValueDefined .desired node = false
  giveUps : state.giveUps.count node = 1

/-- The entry of a node that needs a Get. -/
structure Active (state : Resolver) (node : NodeId) (pending : PendingGet) : Prop where
  needsGet : state.needsGet node = true
  attempts : state.attempts.count node ≤ pending.count
  count : pending.count ≤ state.getNodeRetryCount node
  phase : state.InFlight node pending ∨ state.Waiting node pending ∨ state.GivenUp node pending

/-- What holds of a node. -/
structure Accounted (state : Resolver) (node : NodeId) : Prop where
  absent : state.pendingGetResolutions.lookup node = none ->
    state.giveUps.count node = 0 ∧
      (state.attempts.count node = 0 ∨ state.attempts.count node ≤ 1 ∧ state.FirstGet node)
  present : ∀ pending, state.pendingGetResolutions.lookup node = some pending ->
    state.Dormant node pending ∨ state.Active node pending

/-- The invariant, with nodes left out. -/
structure Ledger (leftOut : NodeId -> Prop) (state : Resolver) : Prop where
  root : state.store.root ≠ invalidNode
  retryCount : 1 ≤ state.config.getRetryCount
  retryTimeout : 1 ≤ state.config.getRetryTimeout
  rules : ∀ entry ∈ state.groups.ruleBookInverted, state.executor.rulesOf entry.2 = some entry.1
  idle : state.executor.resolverState = .idle ↔ state.executor.nodePendingResolution = invalidNode
  scanning : state.control = .scanning -> state.executor.resolverState = .idle
  executing : ∀ execution, state.Executing execution ->
    state.executor.nodePendingResolution = invalidNode ∨
      (state.executor.nodePendingResolution = execution.node ∧
        state.executor.resolverState = Executor.stateOf execution.ruleType)
  fresh : ∀ execution, state.Executing execution ->
    execution.ruleType = .setRule ∨ execution.isRetry = false ->
    state.pendingGetResolutions.lookup execution.node = none
  live : ∀ node, hasKey state.pendingGetResolutions node = true ->
    state.store.nodeExists node = true
  accounts : ∀ node, state.store.nodeExists node = true -> ¬leftOut node -> state.Accounted node

/-- The invariant of a run leaves no node out. -/
abbrev FullLedger (state : Resolver) : Prop := Ledger (fun _ => False) state

/-! ## What the account of a node depends on -/

/-- Nothing that the account of a node depends on has changed. -/
structure SameAccount (before after : Resolver) (node : NodeId) : Prop where
  config : after.config = before.config
  rule : after.executor.hasRule .getRule (after.store.nodeType node) =
    before.executor.hasRule .getRule (before.store.nodeType node)
  type : after.store.nodeType node = before.store.nodeType node
  values : ∀ valueState, after.store.value valueState node = before.store.value valueState node
  held : after.executor.nodePendingResolution = node ↔ before.executor.nodePendingResolution = node
  resolverState : before.executor.nodePendingResolution = node ->
    after.executor.resolverState = before.executor.resolverState
  executing : ∀ execution, execution.node = node ->
    (after.Executing execution ↔ before.Executing execution)
  entry : after.pendingGetResolutions.lookup node = before.pendingGetResolutions.lookup node
  attempts : after.attempts.count node = before.attempts.count node
  giveUps : after.giveUps.count node = before.giveUps.count node

namespace SameAccount

variable {before after : Resolver} {node : NodeId} {pending : PendingGet}

section

variable (same : SameAccount before after node)
include same

theorem isValueDefined (valueState : ValueState) :
    after.store.isValueDefined valueState node = before.store.isValueDefined valueState node := by
  unfold Store.isValueDefined
  rw [same.values]

theorem needsGet : after.needsGet node = before.needsGet node := by
  unfold Resolver.needsGet
  rw [same.rule, same.isValueDefined]

theorem getNodeRetryCount : after.getNodeRetryCount node = before.getNodeRetryCount node := by
  unfold Resolver.getNodeRetryCount
  rw [same.isValueDefined, same.type, same.values, same.config]

theorem dormant (dormant : before.Dormant node pending) : after.Dormant node pending where
  rule := same.rule.trans dormant.rule
  reported := (same.isValueDefined _).trans dormant.reported
  desired := (same.isValueDefined _).trans dormant.desired
  sendTimeout := dormant.sendTimeout
  count := by
    rw [same.config]
    exact dormant.count
  notHeld := fun held => dormant.notHeld (same.held.mp held)
  attempts := same.attempts.trans dormant.attempts
  giveUps := same.giveUps.trans dormant.giveUps

theorem phase
    (phase : before.InFlight node pending ∨ before.Waiting node pending ∨
      before.GivenUp node pending) :
    after.InFlight node pending ∨ after.Waiting node pending ∨ after.GivenUp node pending := by
  rcases phase with inFlight | waiting | givenUp
  · refine .inl ⟨same.held.mpr inFlight.held, ?_, ?_, same.giveUps.trans inFlight.giveUps⟩
    · rw [same.resolverState inFlight.held]
      exact inFlight.executes
    · exact fun execution isNode executing =>
        inFlight.sendTimeout execution isNode ((same.executing execution isNode).mp executing)
  · refine .inr (.inl ⟨fun held => waiting.notHeld (same.held.mp held), waiting.sendTimeout, ?_,
      same.giveUps.trans waiting.giveUps⟩)
    rw [same.getNodeRetryCount]
    exact waiting.count
  · refine .inr (.inr ⟨fun held => givenUp.notHeld (same.held.mp held), ?_, ?_,
      same.giveUps.trans givenUp.giveUps⟩)
    · rw [same.getNodeRetryCount]
      exact givenUp.count
    · rw [same.isValueDefined]
      exact givenUp.desired

theorem accounted (accounted : before.Accounted node) : after.Accounted node where
  absent none := by
    rw [same.giveUps, same.attempts]
    obtain ⟨noGiveUps, attempts⟩ := accounted.absent (same.entry.symm.trans none)
    refine ⟨noGiveUps, attempts.imp_right (And.imp_right fun first => ?_)⟩
    exact (same.executing _ rfl).mpr first
  present pending found := by
    refine (accounted.present pending (same.entry.symm.trans found)).imp same.dormant ?_
    intro active
    refine ⟨same.needsGet.trans active.needsGet, ?_, ?_, same.phase active.phase⟩
    · rw [same.attempts]
      exact active.attempts
    · rw [same.getNodeRetryCount]
      exact active.count

end

end SameAccount

/-- Everything the accounts depend on is as before. -/
structure SameBooks (before after : Resolver) : Prop where
  config : after.config = before.config
  groups : after.groups = before.groups
  store : after.store = before.store
  executor : after.executor = before.executor
  control : after.control = before.control
  pendingGet : after.pendingGetResolutions = before.pendingGetResolutions
  attempts : after.attempts = before.attempts
  giveUps : after.giveUps = before.giveUps

theorem SameBooks.refl (state : Resolver) : state.SameBooks state :=
  ⟨rfl, rfl, rfl, rfl, rfl, rfl, rfl, rfl⟩

variable {first second third : Resolver}

theorem SameBooks.trans (earlier : first.SameBooks second) (later : second.SameBooks third) :
    first.SameBooks third where
  config := later.config.trans earlier.config
  groups := later.groups.trans earlier.groups
  store := later.store.trans earlier.store
  executor := later.executor.trans earlier.executor
  control := later.control.trans earlier.control
  pendingGet := later.pendingGet.trans earlier.pendingGet
  attempts := later.attempts.trans earlier.attempts
  giveUps := later.giveUps.trans earlier.giveUps

variable {before after state : Resolver} {leftOut : NodeId -> Prop}

theorem Schedules.sameBooks (schedules : before.Schedules after) : before.SameBooks after := by
  rw [schedules.same]
  exact { SameBooks.refl _ with }

theorem SameBooks.executing (same : before.SameBooks after) (execution : Execution) :
    after.Executing execution ↔ before.Executing execution := by
  unfold Executing
  rw [same.control]

theorem SameBooks.sameAccount (same : before.SameBooks after) (node : NodeId) :
    SameAccount before after node where
  config := same.config
  rule := by rw [same.executor, same.store]
  type := by rw [same.store]
  values _ := by rw [same.store]
  held := by rw [same.executor]
  resolverState _ := by rw [same.executor]
  executing execution _ := same.executing execution
  entry := by rw [same.pendingGet]
  attempts := by rw [same.attempts]
  giveUps := by rw [same.giveUps]

theorem Ledger.congr (ledger : Ledger leftOut before) (same : before.SameBooks after) :
    Ledger leftOut after where
  root := by
    rw [same.store]
    exact ledger.root
  retryCount := by
    rw [same.config]
    exact ledger.retryCount
  retryTimeout := by
    rw [same.config]
    exact ledger.retryTimeout
  rules := by
    rw [same.groups, same.executor]
    exact ledger.rules
  idle := by
    rw [same.executor]
    exact ledger.idle
  scanning := by
    rw [same.control, same.executor]
    exact ledger.scanning
  executing execution executing := by
    rw [same.executor]
    exact ledger.executing execution ((same.executing execution).mp executing)
  fresh execution executing isFresh := by
    rw [same.pendingGet]
    exact ledger.fresh execution ((same.executing execution).mp executing) isFresh
  live := by
    rw [same.pendingGet, same.store]
    exact ledger.live
  accounts node there counted := by
    rw [same.store] at there
    exact (same.sameAccount node).accounted (ledger.accounts node there counted)

theorem Ledger.mono {more : NodeId -> Prop} (ledger : Ledger leftOut state)
    (weaker : ∀ node, leftOut node -> more node) : Ledger more state :=
  { ledger with
    accounts := fun node there counted =>
      ledger.accounts node there fun isOut => counted (weaker node isOut) }

/-! ## Changes of one node -/

/-- Nothing that the accounts of other nodes depend on has changed. -/
structure ChangesOnly (node : NodeId) (before after : Resolver) : Prop where
  config : after.config = before.config
  groups : after.groups = before.groups
  executor : after.executor = before.executor
  control : after.control = before.control
  tree : before.store.SameTree after.store
  values : ∀ valueState other, other ≠ node ->
    after.store.value valueState other = before.store.value valueState other
  entries : ∀ other, other ≠ node ->
    after.pendingGetResolutions.lookup other = before.pendingGetResolutions.lookup other
  attempts : ∀ other, other ≠ node -> after.attempts.count other = before.attempts.count other
  giveUps : ∀ other, other ≠ node -> after.giveUps.count other = before.giveUps.count other

namespace ChangesOnly

variable {before after : Resolver} {node : NodeId}

theorem executing (changes : ChangesOnly node before after) (execution : Execution) :
    after.Executing execution ↔ before.Executing execution := by
  unfold Executing
  rw [changes.control]

theorem sameAccount (changes : ChangesOnly node before after) {other : NodeId}
    (differs : other ≠ node) : SameAccount before after other where
  config := changes.config
  rule := by rw [changes.executor, changes.tree.nodeType]
  type := by rw [changes.tree.nodeType]
  values valueState := changes.values valueState other differs
  held := by rw [changes.executor]
  resolverState _ := by rw [changes.executor]
  executing execution _ := changes.executing execution
  entry := changes.entries other differs
  attempts := changes.attempts other differs
  giveUps := changes.giveUps other differs

theorem ledger (changes : ChangesOnly node before after) (ledger : Ledger leftOut before)
    (fresh : before.pendingGetResolutions.lookup node = none ->
      after.pendingGetResolutions.lookup node ≠ none ->
      ∀ execution, before.Executing execution -> execution.node = node ->
        ¬(execution.ruleType = .setRule ∨ execution.isRetry = false))
    (live : hasKey after.pendingGetResolutions node = true -> before.store.nodeExists node = true)
    (account : before.store.nodeExists node = true -> ¬leftOut node -> after.Accounted node) :
    Ledger leftOut after where
  root := by
    rw [changes.tree.root]
    exact ledger.root
  retryCount := by
    rw [changes.config]
    exact ledger.retryCount
  retryTimeout := by
    rw [changes.config]
    exact ledger.retryTimeout
  rules := by
    rw [changes.groups, changes.executor]
    exact ledger.rules
  idle := by
    rw [changes.executor]
    exact ledger.idle
  scanning := by
    rw [changes.control, changes.executor]
    exact ledger.scanning
  executing execution executing := by
    rw [changes.executor]
    exact ledger.executing execution ((changes.executing execution).mp executing)
  fresh execution executing isFresh := by
    have executed := (changes.executing execution).mp executing
    have none := ledger.fresh execution executed isFresh
    by_cases same : execution.node = node
    · by_contra some
      exact fresh (same ▸ none) (same ▸ some) execution executed same isFresh
    · rw [changes.entries _ same]
      exact none
  live other found := by
    rw [changes.tree.nodeExists]
    by_cases same : other = node
    · exact same ▸ live (same ▸ found)
    · rw [hasKey, changes.entries other same] at found
      exact ledger.live other found
  accounts other there counted := by
    rw [changes.tree.nodeExists] at there
    by_cases same : other = node
    · exact same ▸ account (same ▸ there) (same ▸ counted)
    · exact (changes.sameAccount same).accounted (ledger.accounts other there counted)

end ChangesOnly

/-! ## Writes -/

/-- The part of `on_resolver_node_update` about the Get resolution. -/
def forgetGet (state : Resolver) (node : NodeId) : Resolver :=
  if !state.needsGet node || state.isNodeGetResolutionMaxRetriesReached node then
    { state with pendingGetResolutions := eraseKey state.pendingGetResolutions node }
  else state

theorem sameBooks_onResolverNodeUpdate (root : state.store.root ≠ invalidNode) (node : NodeId) :
    (state.forgetGet node).SameBooks (state.onResolverNodeUpdate node) := by
  unfold onResolverNodeUpdate
  rw [if_neg root]
  extract_lets forgotten unset
  have unsets : (state.forgetGet node).SameBooks unset := by
    dsimp only [unset]
    split
    · exact { SameBooks.refl _ with }
    · exact .refl _
  split
  · exact unsets.trans (schedules_scanNode _ _).sameBooks
  · exact unsets.trans (schedules_scanIfNeeded _ _).sameBooks

theorem lookup_forgetGet (state : Resolver) (node other : NodeId) :
    (state.forgetGet node).pendingGetResolutions.lookup other =
      if other = node ∧
          (!state.needsGet node || state.isNodeGetResolutionMaxRetriesReached node) = true then
        none
      else state.pendingGetResolutions.lookup other := by
  unfold forgetGet
  split
  · rename_i settled
    simp [settled]
  · rename_i unsettled
    simp [unsettled]

theorem ChangesOnly.refl (node : NodeId) (state : Resolver) : ChangesOnly node state state :=
  ⟨rfl, rfl, rfl, rfl, .refl _, fun _ _ _ => rfl, fun _ _ => rfl, fun _ _ => rfl, fun _ _ => rfl⟩

theorem changesOnly_assign (state : Resolver) (node : NodeId) (pending : PendingGet) :
    ChangesOnly node state
      { state with
        pendingGetResolutions := assign state.pendingGetResolutions node pending } where
  config := rfl
  groups := rfl
  executor := rfl
  control := rfl
  tree := .refl _
  values _ _ _ := rfl
  entries other differs := by
    rw [lookup_assign, if_neg differs]
  attempts _ _ := rfl
  giveUps _ _ := rfl

theorem changesOnly_erase (state : Resolver) (node : NodeId) :
    ChangesOnly node state
      { state with pendingGetResolutions := eraseKey state.pendingGetResolutions node } where
  config := rfl
  groups := rfl
  executor := rfl
  control := rfl
  tree := .refl _
  values _ _ _ := rfl
  entries other differs := by
    rw [lookup_eraseKey, if_neg differs]
  attempts _ _ := rfl
  giveUps _ _ := rfl

theorem changesOnly_forgetGet (state : Resolver) (node : NodeId) :
    ChangesOnly node state (state.forgetGet node) := by
  unfold forgetGet
  split
  · exact changesOnly_erase state node
  · exact .refl node state

variable {node : NodeId}

theorem ChangesOnly.trans (earlier : ChangesOnly node first second)
    (later : ChangesOnly node second third) : ChangesOnly node first third where
  config := later.config.trans earlier.config
  groups := later.groups.trans earlier.groups
  executor := later.executor.trans earlier.executor
  control := later.control.trans earlier.control
  tree := earlier.tree.trans later.tree
  values valueState other differs :=
    (later.values valueState other differs).trans (earlier.values valueState other differs)
  entries other differs := (later.entries other differs).trans (earlier.entries other differs)
  attempts other differs := (later.attempts other differs).trans (earlier.attempts other differs)
  giveUps other differs := (later.giveUps other differs).trans (earlier.giveUps other differs)

theorem ChangesOnly.congr {same : Resolver} (changes : ChangesOnly node before after)
    (isSame : after.SameBooks same) : ChangesOnly node before same where
  config := isSame.config.trans changes.config
  groups := isSame.groups.trans changes.groups
  executor := isSame.executor.trans changes.executor
  control := isSame.control.trans changes.control
  tree := isSame.store ▸ changes.tree
  values valueState other differs := by
    rw [isSame.store]
    exact changes.values valueState other differs
  entries other differs := by
    rw [isSame.pendingGet]
    exact changes.entries other differs
  attempts other differs := by
    rw [isSame.attempts]
    exact changes.attempts other differs
  giveUps other differs := by
    rw [isSame.giveUps]
    exact changes.giveUps other differs

theorem count_filter_ne (nodes : List NodeId) (node other : NodeId) :
    (nodes.filter fun entry => entry ≠ node).count other =
      if other = node then 0 else nodes.count other := by
  by_cases same : other = node
  · subst same
    rw [if_pos rfl, List.count_eq_zero]
    simp
  · rw [if_neg same, List.count_filter (by simpa using same)]

theorem changesOnly_changeValue (state : Resolver) (valueState : ValueState) (node : NodeId)
    (value : List UInt8) : ChangesOnly node state (state.changeValue valueState node value) where
  config := rfl
  groups := rfl
  executor := rfl
  control := rfl
  tree := Store.sameTree_withValue _ _ _ _
  values otherState other differs := by
    show (state.store.withValue valueState node value).value otherState other = _
    rw [Store.value_withValue, if_neg fun isTarget => differs isTarget.1]
  entries _ _ := rfl
  attempts other differs := by
    show (state.attempts.filter _).count other = _
    rw [count_filter_ne, if_neg differs]
  giveUps other differs := by
    show (state.giveUps.filter _).count other = _
    rw [count_filter_ne, if_neg differs]

/-- A write of a desired value that the entry of the node survives: the resolver
is told, and the node was not given up or the value is cleared. -/
def SafeWrite (state : Resolver) (node : NodeId) (value : List UInt8)
    (pending : PendingGet) : Prop :=
  state.executor.hasRule .setRule (state.store.nodeType node) = true ∧
    (value = [] ∨ pending.sendTimeout ≠ 0 ∨ state.executor.nodePendingResolution = node)

theorem getNodeRetryCount_of_undefined
    (undefined : state.store.isValueDefined .desired node = false) :
    state.getNodeRetryCount node = state.config.getRetryCount := by
  unfold getNodeRetryCount
  rw [undefined]
  rfl

theorem isNodeGetResolutionMaxRetriesReached_of_lookup {pending : PendingGet}
    (found : state.pendingGetResolutions.lookup node = some pending) :
    state.isNodeGetResolutionMaxRetriesReached node =
      decide (state.getNodeRetryCount node ≤ pending.count) := by
  simp [isNodeGetResolutionMaxRetriesReached, found]

section ChangeValue

variable {state : Resolver} {valueState : ValueState} {node : NodeId} {value : List UInt8}

theorem value_changeValue (there : state.store.nodeExists node = true) (otherState : ValueState) :
    (state.changeValue valueState node value).store.value otherState node =
      if otherState = valueState then value else state.store.value otherState node := by
  show (state.store.withValue valueState node value).value otherState node = _
  rw [Store.value_withValue]
  simp [there]

theorem count_attempts_changeValue (state : Resolver) (valueState : ValueState) (node : NodeId)
    (value : List UInt8) : (state.changeValue valueState node value).attempts.count node = 0 := by
  show (state.attempts.filter _).count node = 0
  rw [count_filter_ne, if_pos rfl]

theorem count_giveUps_changeValue (state : Resolver) (valueState : ValueState) (node : NodeId)
    (value : List UInt8) : (state.changeValue valueState node value).giveUps.count node = 0 := by
  show (state.giveUps.filter _).count node = 0
  rw [count_filter_ne, if_pos rfl]

theorem needsGet_eq (state : Resolver) (node : NodeId) :
    state.needsGet node =
      (state.executor.hasRule .getRule (state.store.nodeType node) &&
        (state.store.value .reported node).isEmpty) := by
  simp [needsGet, Store.isValueDefined]

variable {pending : PendingGet}

theorem forgets_of_reported (accounted : state.Accounted node)
    (there : state.store.nodeExists node = true)
    (changes : state.store.value .reported node ≠ value)
    (found : state.pendingGetResolutions.lookup node = some pending) :
    (!(state.changeValue .reported node value).needsGet node ||
      (state.changeValue .reported node value).isNodeGetResolutionMaxRetriesReached node) =
        true := by
  by_cases cleared : value = []
  · rcases accounted.present pending found with dormant | active
    · have undefined :
          (state.changeValue .reported node value).store.isValueDefined .desired node = false := by
        unfold Store.isValueDefined
        rw [value_changeValue there]
        exact dormant.desired
      have same : (state.changeValue .reported node value).pendingGetResolutions.lookup node =
          some pending := found
      rw [isNodeGetResolutionMaxRetriesReached_of_lookup same,
        getNodeRetryCount_of_undefined undefined]
      have reached : (state.changeValue .reported node value).config.getRetryCount ≤
          pending.count := dormant.count
      simp [reached]
    · have undefined := active.needsGet
      rw [needsGet_eq, Bool.and_eq_true] at undefined
      exact absurd ((List.isEmpty_iff.mp undefined.2).trans cleared.symm) changes
  · rw [needsGet_eq, value_changeValue there]
    simp [cleared]

theorem Active.changeDesired (active : state.Active node pending)
    (there : state.store.nodeExists node = true) (changes : state.store.value .desired node ≠ value)
    (safe : state.SafeWrite node value pending)
    (below : pending.count < (state.changeValue .desired node value).getNodeRetryCount node) :
    (state.changeValue .desired node value).Active node pending where
  needsGet := by
    rw [needsGet_eq, value_changeValue there]
    have needed := active.needsGet
    rw [needsGet_eq] at needed
    rw [show (state.changeValue .desired node value).store.nodeType node =
      state.store.nodeType node from congrFun (Store.sameTree_withValue _ _ _ _).nodeType node]
    exact needed
  attempts := by
    rw [count_attempts_changeValue state .desired node value]
    exact Nat.zero_le _
  count := below.le
  phase := by
    rcases active.phase with inFlight | waiting | givenUp
    · exact .inl ⟨inFlight.held, inFlight.executes, inFlight.sendTimeout,
        count_giveUps_changeValue state _ _ _⟩
    · exact .inr (.inl ⟨waiting.notHeld, waiting.sendTimeout, below,
        count_giveUps_changeValue state _ _ _⟩)
    · refine .inr (.inl ⟨givenUp.notHeld, fun zero => ?_, below,
        count_giveUps_changeValue state _ _ _⟩)
      have undefined := givenUp.desired zero
      rw [Store.isValueDefined, Bool.not_eq_false', List.isEmpty_iff] at undefined
      rcases safe.2 with cleared | later | held
      · exact changes (undefined.trans cleared.symm)
      · exact later zero
      · exact givenUp.notHeld held

/-- A value has changed and the resolver, when it is notified, may forget the node. -/
def written (state : Resolver) (valueState : ValueState) (node : NodeId) (value : List UInt8) :
    Resolver :=
  if state.isNotified valueState (state.store.nodeType node) then
    (state.changeValue valueState node value).forgetGet node
  else state.changeValue valueState node value

theorem Accounted.written (accounted : state.Accounted node)
    (there : state.store.nodeExists node = true)
    (changes : state.store.value valueState node ≠ value)
    (safe : valueState = .desired -> ∀ pending,
      state.pendingGetResolutions.lookup node = some pending ->
      state.SafeWrite node value pending) :
    (state.written valueState node value).Accounted node := by
  unfold Resolver.written
  have forgotten : ∀ entries : List (NodeId × PendingGet), entries.lookup node = none ->
      { state.changeValue valueState node value with
        pendingGetResolutions := entries }.Accounted node := by
    intro entries none
    refine ⟨fun _ => ⟨count_giveUps_changeValue state valueState node value,
      .inl (count_attempts_changeValue state valueState node value)⟩,
      fun pending found => ?_⟩
    rw [show entries.lookup node = some pending from found] at none
    cases none
  have erased : (!(state.changeValue valueState node value).needsGet node ||
      (state.changeValue valueState node value).isNodeGetResolutionMaxRetriesReached node) = true ->
      ((state.changeValue valueState node value).forgetGet node).Accounted node := by
    intro settled
    unfold forgetGet
    rw [if_pos settled]
    refine forgotten _ ?_
    rw [lookup_eraseKey, if_pos rfl]
  cases found : state.pendingGetResolutions.lookup node with
  | none =>
    split
    · by_cases settled : (!(state.changeValue valueState node value).needsGet node ||
          (state.changeValue valueState node value).isNodeGetResolutionMaxRetriesReached
            node) = true
      · exact erased settled
      · unfold forgetGet
        rw [if_neg settled]
        exact forgotten _ found
    · exact forgotten _ found
  | some pending =>
    have rule : state.executor.hasRule .getRule (state.store.nodeType node) = true := by
      rcases accounted.present pending found with dormant | active
      · exact dormant.rule
      · have needed := active.needsGet
        rw [needsGet_eq, Bool.and_eq_true] at needed
        exact needed.1
    cases valueState with
    | reported =>
      rw [if_pos (by simp [isNotified, rule])]
      exact erased (forgets_of_reported accounted there changes found)
    | desired =>
      have isSafe := safe rfl pending found
      rw [if_pos (by simp [isNotified, isSafe.1])]
      by_cases settled : (!(state.changeValue .desired node value).needsGet node ||
          (state.changeValue .desired node value).isNodeGetResolutionMaxRetriesReached
            node) = true
      · exact erased settled
      · unfold forgetGet
        rw [if_neg settled]
        have same : (state.changeValue .desired node value).pendingGetResolutions.lookup node =
            some pending := found
        rw [isNodeGetResolutionMaxRetriesReached_of_lookup same] at settled
        obtain ⟨needed, below⟩ : (state.changeValue .desired node value).needsGet node = true ∧
            pending.count < (state.changeValue .desired node value).getNodeRetryCount node := by
          simpa using settled
        refine ⟨fun none => ?_, fun other isOther => ?_⟩
        · rw [same] at none
          cases none
        · rw [same] at isOther
          cases isOther
          rcases accounted.present pending found with dormant | active
          · rw [needsGet_eq, value_changeValue there, if_neg (by decide),
              Bool.and_eq_true] at needed
            have defined := dormant.reported
            rw [Store.isValueDefined, needed.2] at defined
            exact absurd defined (by decide)
          · exact .inr (active.changeDesired there changes isSafe below)

end ChangeValue

theorem sameBooks_writeValue (root : state.store.root ≠ invalidNode) {valueState : ValueState}
    {value : List UInt8} (there : state.store.nodeExists node = true)
    (changes : state.store.value valueState node ≠ value) :
    (state.written valueState node value).SameBooks (state.writeValue valueState node value) := by
  have writes : ¬(!state.store.nodeExists node ||
      decide (state.store.value valueState node = value)) = true := by simp [there, changes]
  unfold written writeValue
  split
  · refine sameBooks_onResolverNodeUpdate ?_ node
    exact root
  · exact .refl _

theorem changesOnly_write (state : Resolver) (valueState : ValueState) (node : NodeId)
    (value : List UInt8) : ChangesOnly node state (state.written valueState node value) := by
  have changes := changesOnly_changeValue state valueState node value
  unfold written
  split
  · exact changes.trans (changesOnly_forgetGet _ node)
  · exact changes

theorem lookup_write (state : Resolver) (valueState : ValueState) (node : NodeId)
    (value : List UInt8) :
    (state.written valueState node value).pendingGetResolutions.lookup node = none ∨
      (state.written valueState node value).pendingGetResolutions.lookup node =
        state.pendingGetResolutions.lookup node := by
  unfold written
  split
  · rw [lookup_forgetGet]
    split
    · exact .inl rfl
    · exact .inr rfl
  · exact .inr rfl

theorem writeValue_cases (root : state.store.root ≠ invalidNode) (valueState : ValueState)
    (node : NodeId) (value : List UInt8) :
    state.writeValue valueState node value = state ∨
      (state.store.value valueState node ≠ value ∧
        ChangesOnly node state (state.writeValue valueState node value) ∧
        (state.writeValue valueState node value).attempts.count node = 0 ∧
        (state.writeValue valueState node value).giveUps.count node = 0) := by
  by_cases writes : state.store.nodeExists node = true ∧ state.store.value valueState node ≠ value
  · obtain ⟨there, changes⟩ := writes
    have same := sameBooks_writeValue root there changes
    refine .inr ⟨changes, (changesOnly_write state valueState node value).congr same, ?_, ?_⟩
    · rw [same.attempts, written]
      split
      · unfold forgetGet
        split <;> exact count_attempts_changeValue state valueState node value
      · exact count_attempts_changeValue state valueState node value
    · rw [same.giveUps, written]
      split
      · unfold forgetGet
        split <;> exact count_giveUps_changeValue state valueState node value
      · exact count_giveUps_changeValue state valueState node value
  · left
    unfold writeValue
    by_cases there : state.store.nodeExists node = true
    · simp only [there, true_and, not_not] at writes
      simp [writes]
    · simp [there]

theorem Ledger.writeValue (ledger : Ledger leftOut state) {valueState : ValueState} {node : NodeId}
    {value : List UInt8}
    (safe : valueState = .desired -> ¬leftOut node -> state.store.value .desired node ≠ value ->
      ∀ pending, state.pendingGetResolutions.lookup node = some pending ->
      state.SafeWrite node value pending) :
    Ledger leftOut (state.writeValue valueState node value) := by
  by_cases there : state.store.nodeExists node = true
  · rcases writeValue_cases ledger.root valueState node value with unchanged | ⟨changes, -⟩
    · rw [unchanged]
      exact ledger
    · refine Ledger.congr ?_ (sameBooks_writeValue ledger.root there changes)
      refine (changesOnly_write state valueState node value).ledger ledger ?_ (fun _ => there) ?_
      · intro none found
        rcases lookup_write state valueState node value with erased | same
        · exact absurd erased found
        · exact absurd (same.trans none) found
      · intro _ counted
        refine (ledger.accounts node there counted).written there changes ?_
        intro isDesired
        subst isDesired
        exact safe rfl counted changes
  · unfold Resolver.writeValue
    rw [if_pos (by simp [there])]
    exact ledger

theorem Ledger.writeReported (ledger : Ledger leftOut state) (node : NodeId) (value : List UInt8) :
    Ledger leftOut (state.writeValue .reported node value) :=
  ledger.writeValue (fun isDesired => absurd isDesired (by decide))

theorem Ledger.clearDesired (ledger : Ledger leftOut state)
    (rule : state.executor.hasRule .setRule (state.store.nodeType node) = true) :
    Ledger leftOut (state.writeValue .desired node []) :=
  ledger.writeValue fun _ _ _ _ _ => ⟨rule, .inl rfl⟩

/-! ## Giving up on a group -/

theorem Ledger.hasRule_of_groupNodes (ledger : Ledger leftOut state) {ruleType : RuleType}
    {other : NodeId} (mem : other ∈ state.groupNodes ruleType node) :
    state.executor.hasRule ruleType (state.store.nodeType other) = true := by
  unfold groupNodes ruleGetGroupNodes at mem
  split at mem
  · rw [List.mem_insertionSort, List.mem_filter, List.contains_iff_mem] at mem
    have isType := mem.2
    unfold ruleGetGroup at isType
    split at isType
    · cases isType
    · obtain ⟨entry, inBook, sameType⟩ := List.mem_map.mp isType
      obtain ⟨inBook, isRule⟩ := List.mem_filter.mp inBook
      rw [Bool.and_eq_true] at isRule
      rw [← sameType, Executor.hasRule, ledger.rules entry inBook]
      exact isRule.2
  · cases mem

/-- A node that has reached its limit, before the give-up is reported. -/
structure Exhausted (state : Resolver) (node : NodeId) (pending : PendingGet) : Prop where
  needsGet : state.needsGet node = true
  notHeld : state.executor.nodePendingResolution ≠ node
  attempts : state.attempts.count node ≤ pending.count
  count : pending.count = state.getNodeRetryCount node
  desired : pending.sendTimeout = 0 -> state.store.isValueDefined .desired node = false
  giveUps : state.giveUps.count node = 0

section GiveUp

variable {state : Resolver} {node : NodeId}

theorem value_giveUpNode_reported (state : Resolver) (other node : NodeId) :
    (state.giveUpNode other).store.value .reported node = state.store.value .reported node := by
  show (state.writeValue .desired other []).store.value .reported node = _
  rw [store_writeValue]
  simp

theorem sameTree_giveUpNode (state : Resolver) (other : NodeId) :
    state.store.SameTree (state.giveUpNode other).store :=
  (@writes_giveUpNode (fun _ _ _ => True) (fun _ => trivial) state other).tree

variable {other : NodeId} {pending : PendingGet}

/-- Another node of the group, which has a reported value, becomes dormant. -/
theorem Ledger.giveUpOther (ledger : Ledger (· = node) state) (differs : other ≠ node)
    (rule : state.executor.hasRule .getRule (state.store.nodeType other) = true)
    (reported : state.store.isValueDefined .reported other = true)
    (notHeld : state.executor.nodePendingResolution ≠ other)
    (notExecuting : ∀ execution, state.Executing execution -> execution.node ≠ other) :
    Ledger (· = node) (state.giveUpNode other) := by
  have there : state.store.nodeExists other = true := by
    by_contra missing
    have none : state.store.find other = Option.none := by
      simpa [Store.nodeExists] using missing
    simp [Store.isValueDefined, Store.value, none] at reported
  have isDormant : ∀ pending, state.pendingGetResolutions.lookup other = some pending ->
      state.Dormant other pending := by
    intro pending found
    refine ((ledger.accounts other there differs).present pending found).resolve_right ?_
    intro active
    have needed := active.needsGet
    unfold needsGet at needed
    simp [reported] at needed
  have settled : state.attempts.count other = 0 ∧ state.giveUps.count other = 0 := by
    cases found : state.pendingGetResolutions.lookup other with
    | none =>
      obtain ⟨noGiveUps, noAttempts | ⟨-, first⟩⟩ :=
        (ledger.accounts other there differs).absent found
      · exact ⟨noAttempts, noGiveUps⟩
      · exact absurd rfl (notExecuting _ first)
    | some pending => exact ⟨(isDormant pending found).attempts, (isDormant pending found).giveUps⟩
  have written : Ledger (· = node) (state.writeValue .desired other []) := by
    refine ledger.writeValue fun _ _ changes pending found => ?_
    have undefined := (isDormant pending found).desired
    rw [Store.isValueDefined, Bool.not_eq_false', List.isEmpty_iff] at undefined
    exact absurd undefined changes
  have cleared : (state.writeValue .desired other []).store.value .desired other = [] := by
    rw [store_writeValue]
    simp [there]
  have counts : (state.writeValue .desired other []).attempts.count other = 0 ∧
      (state.writeValue .desired other []).giveUps.count other = 0 := by
    rcases writeValue_cases ledger.root .desired other [] with unchanged | ⟨-, -, reset⟩
    · rw [unchanged]
      exact settled
    · exact reset
  have keeps := keeps_writeValue state .desired other []
  have tree := sameTree_giveUpNode state other
  refine (changesOnly_assign _ other _).ledger written ?_ (fun _ => ?_) ?_
  · intro _ _ execution executing isOther
    unfold Executing at executing
    rw [keeps.control] at executing
    exact absurd isOther (notExecuting execution executing)
  · rw [show (state.writeValue .desired other []).store.nodeExists = state.store.nodeExists from
      tree.nodeExists]
    exact there
  · intro _ _
    refine ⟨fun none => ?_, fun pending found => .inl ?_⟩
    · rw [lookup_assign, if_pos rfl] at none
      cases none
    · rw [lookup_assign, if_pos rfl] at found
      cases found
      refine ⟨?_, ?_, ?_, rfl, le_rfl, ?_, counts.1, counts.2⟩
      · show (state.writeValue .desired other []).executor.hasRule .getRule
          ((state.writeValue .desired other []).store.nodeType other) = true
        rw [keeps.executor, show (state.writeValue .desired other []).store.nodeType =
          state.store.nodeType from tree.nodeType]
        exact rule
      · show (!((state.writeValue .desired other []).store.value .reported other).isEmpty) = true
        rw [show (state.writeValue .desired other []).store.value .reported other =
          state.store.value .reported other from value_giveUpNode_reported state other other]
        exact reported
      · show (!((state.writeValue .desired other []).store.value .desired other).isEmpty) = false
        rw [cleared]
        rfl
      · show (state.writeValue .desired other []).executor.nodePendingResolution ≠ other
        rw [keeps.executor]
        exact notHeld

theorem Ledger.giveUpItself (ledger : Ledger (· = node) state)
    (found : state.pendingGetResolutions.lookup node = some pending) :
    Ledger (· = node) (state.giveUpNode node) := by
  have written : Ledger (· = node) (state.writeValue .desired node []) :=
    ledger.writeValue fun _ notOut => absurd rfl notOut
  have keeps := keeps_writeValue state .desired node []
  have there : state.store.nodeExists node = true := ledger.live node (by simp [hasKey, found])
  refine (changesOnly_assign _ node _).ledger written ?_ (fun _ => ?_) ?_
  · intro _ _ execution executing isNode isFresh
    unfold Executing at executing
    rw [keeps.control] at executing
    have none := ledger.fresh execution executing isFresh
    rw [isNode, found] at none
    cases none
  · rw [show (state.writeValue .desired node []).store.nodeExists = state.store.nodeExists from
      (sameTree_giveUpNode state node).nodeExists]
    exact there
  · exact fun _ notOut => absurd rfl notOut

theorem Exhausted.giveUpItself (ledger : Ledger (· = node) state)
    (there : state.store.nodeExists node = true) (exhausted : state.Exhausted node pending) :
    (state.giveUpNode node).Exhausted node
      { sendTimeout := 0, count := state.config.getRetryCount } := by
  have keeps := keeps_writeValue state .desired node []
  have tree := sameTree_giveUpNode state node
  have cleared : (state.giveUpNode node).store.isValueDefined .desired node = false := by
    show (!((state.writeValue .desired node []).store.value .desired node).isEmpty) = false
    rw [store_writeValue]
    simp [there]
  have counts : (state.giveUpNode node).config = state.config ∧
      (state.giveUpNode node).attempts.count node ≤ state.config.getRetryCount ∧
      (state.giveUpNode node).giveUps.count node = 0 := by
    show (state.writeValue .desired node []).config = _ ∧
      (state.writeValue .desired node []).attempts.count node ≤ _ ∧
      (state.writeValue .desired node []).giveUps.count node = 0
    rcases writeValue_cases ledger.root .desired node [] with unchanged |
      ⟨-, changes, noAttempts, noGiveUps⟩
    · have undefined : state.store.isValueDefined .desired node = false := by
        rw [← cleared]
        show _ = (state.writeValue .desired node []).store.isValueDefined .desired node
        rw [unchanged]
      rw [unchanged, ← getNodeRetryCount_of_undefined undefined, ← exhausted.count]
      exact ⟨rfl, exhausted.attempts, exhausted.giveUps⟩
    · rw [noAttempts]
      exact ⟨changes.config, Nat.zero_le _, noGiveUps⟩
  refine ⟨?_, ?_, counts.2.1, ?_, fun _ => cleared, counts.2.2⟩
  · have needed := exhausted.needsGet
    rw [needsGet_eq] at needed ⊢
    rw [value_giveUpNode_reported, tree.nodeType,
      show (state.giveUpNode node).executor = state.executor from keeps.executor]
    exact needed
  · rw [show (state.giveUpNode node).executor = state.executor from keeps.executor]
    exact exhausted.notHeld
  · rw [getNodeRetryCount_of_undefined cleared, counts.1]

/-- What stays while the group of a node is given up. -/
structure GivingUp (state : Resolver) (node : NodeId) : Prop where
  ledger : Ledger (· = node) state
  entry : ∃ pending, state.pendingGetResolutions.lookup node = some pending ∧
    state.Exhausted node pending
  notHeld : ∀ other, state.store.nodeExists other = true ->
    state.executor.nodePendingResolution ≠ other
  executing : ∀ execution, state.Executing execution -> execution.node = node

theorem lookup_giveUpNode_of_ne (root : state.store.root ≠ invalidNode) (differs : node ≠ other) :
    (state.giveUpNode other).pendingGetResolutions.lookup node =
      state.pendingGetResolutions.lookup node := by
  show (assign (state.writeValue .desired other []).pendingGetResolutions other _).lookup node = _
  rw [lookup_assign, if_neg differs]
  rcases writeValue_cases root .desired other [] with unchanged | ⟨-, changes, -⟩
  · rw [unchanged]
  · exact changes.entries node differs

theorem changesOnly_giveUpNode (root : state.store.root ≠ invalidNode) (other : NodeId) :
    ChangesOnly other state (state.giveUpNode other) := by
  refine ChangesOnly.trans ?_ (changesOnly_assign _ other _)
  rcases writeValue_cases root .desired other [] with unchanged | ⟨-, changes, -⟩
  · rw [unchanged]
    exact .refl other state
  · exact changes

theorem SameAccount.exhausted (same : SameAccount before after node)
    (exhausted : before.Exhausted node pending) : after.Exhausted node pending where
  needsGet := same.needsGet.trans exhausted.needsGet
  notHeld := fun held => exhausted.notHeld (same.held.mp held)
  attempts := by
    rw [same.attempts]
    exact exhausted.attempts
  count := by
    rw [same.getNodeRetryCount]
    exact exhausted.count
  desired := by
    rw [same.isValueDefined]
    exact exhausted.desired
  giveUps := same.giveUps.trans exhausted.giveUps

theorem GivingUp.giveUpNode (givingUp : state.GivingUp node)
    (rule : state.executor.hasRule .getRule (state.store.nodeType other) = true)
    (alone : other = node ∨ state.store.isValueDefined .reported other = true) :
    (state.giveUpNode other).GivingUp node := by
  obtain ⟨ledger, ⟨pending, found, exhausted⟩, notHeld, executing⟩ := givingUp
  have changes := changesOnly_giveUpNode ledger.root other
  have there : state.store.nodeExists node = true := ledger.live node (by simp [hasKey, found])
  refine ⟨?_, ?_, ?_, fun execution executes =>
    executing execution ((changes.executing execution).mp executes)⟩
  · by_cases same : other = node
    · exact same ▸ ledger.giveUpItself found
    · have reported := alone.resolve_left same
      have otherThere : state.store.nodeExists other = true := by
        by_contra missing
        have none : state.store.find other = Option.none := by
          simpa [Store.nodeExists] using missing
        simp [Store.isValueDefined, Store.value, none] at reported
      refine ledger.giveUpOther same rule reported (notHeld other otherThere) ?_
      intro execution executes isOther
      exact same (isOther.symm.trans (executing execution executes))
  · by_cases same : other = node
    · subst same
      refine ⟨_, ?_, exhausted.giveUpItself ledger there⟩
      show (assign (state.writeValue .desired other []).pendingGetResolutions other _).lookup
        other = _
      rw [lookup_assign, if_pos rfl]
      have config : (state.writeValue .desired other []).config = state.config := changes.config
      rw [config]
    · exact ⟨pending, (lookup_giveUpNode_of_ne ledger.root (Ne.symm same)).trans found,
        (changes.sameAccount (Ne.symm same)).exhausted exhausted⟩
  · rw [changes.executor, changes.tree.nodeExists]
    exact notHeld

theorem GivingUp.giveUpNodes (nodes : List NodeId) (givingUp : state.GivingUp node)
    (rule : ∀ other ∈ nodes, state.executor.hasRule .getRule (state.store.nodeType other) = true)
    (alone : ∀ other ∈ nodes, other = node ∨ state.store.isValueDefined .reported other = true) :
    (nodes.foldl Resolver.giveUpNode state).GivingUp node := by
  induction nodes generalizing state with
  | nil => exact givingUp
  | cons first rest ih =>
    have gives := givingUp.giveUpNode (rule first List.mem_cons_self)
      (alone first List.mem_cons_self)
    have changes := changesOnly_giveUpNode givingUp.ledger.root first
    refine ih gives (fun other mem => ?_) fun other mem => ?_
    · rw [changes.executor, changes.tree.nodeType]
      exact rule other (List.mem_cons_of_mem first mem)
    · unfold Store.isValueDefined
      rw [value_giveUpNode_reported]
      exact alone other (List.mem_cons_of_mem first mem)

theorem GivingUp.invokeGiveUpListeners (givingUp : state.GivingUp node) :
    FullLedger (state.invokeGiveUpListeners node) := by
  obtain ⟨ledger, ⟨pending, found, exhausted⟩, -, -⟩ := givingUp
  have changes : ChangesOnly node state (state.invokeGiveUpListeners node) :=
    ⟨rfl, rfl, rfl, rfl, .refl _, fun _ _ _ => rfl, fun _ _ => rfl, fun _ _ => rfl,
      fun other differs => by simp [Resolver.invokeGiveUpListeners, Ne.symm differs]⟩
  have account : (state.invokeGiveUpListeners node).Accounted node := by
    refine ⟨fun none => ?_, fun other isOther => .inr ?_⟩
    · rw [show state.pendingGetResolutions.lookup node = Option.none from none] at found
      cases found
    · rw [show state.pendingGetResolutions.lookup node = some other from isOther] at found
      cases found
      refine ⟨exhausted.needsGet, exhausted.attempts, exhausted.count.le, .inr (.inr ?_)⟩
      refine ⟨exhausted.notHeld, exhausted.count.ge, exhausted.desired, ?_⟩
      simp [Resolver.invokeGiveUpListeners, exhausted.giveUps]
  have all := changes.ledger ledger (fun none some => absurd none some)
    (fun isKey => ledger.live node isKey) fun _ _ => account
  refine { all with accounts := fun other there _ => ?_ }
  by_cases same : other = node
  · exact same ▸ account
  · exact all.accounts other there same

end GiveUp

/-! ## Completions -/

/-- What holds when the rule of a node completes: its slot is free, and nobody
else is executed.  The node itself is accounted for but for the phase of its
entry, and whoever else would be given up with it has a reported value. -/
structure Completing (state : Resolver) (node : NodeId) : Prop where
  ledger : Ledger (· = node) state
  released : state.executor.nodePendingResolution = invalidNode
  executing : ∀ execution, state.Executing execution -> execution.node = node
  absent : state.pendingGetResolutions.lookup node = none ->
    state.store.nodeExists node = true -> state.Accounted node
  present : ∀ pending, state.pendingGetResolutions.lookup node = some pending ->
    state.Dormant node pending ∨
      (state.needsGet node = true ∧ state.attempts.count node ≤ pending.count ∧
        pending.count ≤ state.getNodeRetryCount node ∧ state.giveUps.count node = 0)
  alone : state.isNodeGetResolutionMaxRetriesReached node = true -> state.needsGet node = true ->
    ∀ other ∈ state.groupNodes .getRule node,
      other = node ∨ state.store.isValueDefined .reported other = true

section Complete

variable {state : Resolver} {node : NodeId}

theorem Ledger.close (ledger : Ledger (· = node) state)
    (account : state.store.nodeExists node = true -> state.Accounted node) : FullLedger state :=
  { ledger with
    accounts := fun other there _ => by
      by_cases same : other = node
      · exact same ▸ account (same ▸ there)
      · exact ledger.accounts other there same }

/-- The entry with the time of the next attempt. -/
def withSendTimeout (state : Resolver) (node : NodeId) (pending : PendingGet) : Resolver :=
  { state with
    pendingGetResolutions :=
      assign state.pendingGetResolutions node
        { pending with sendTimeout := state.clock + state.config.getRetryTimeout } }

theorem Completing.withSendTimeout (completing : state.Completing node) {pending : PendingGet}
    (found : state.pendingGetResolutions.lookup node = some pending) :
    Ledger (· = node) (state.withSendTimeout node pending) := by
  refine (changesOnly_assign state node _).ledger completing.ledger ?_ ?_ ?_
  · intro none
    rw [found] at none
    cases none
  · exact fun _ => completing.ledger.live node (by simp [hasKey, found])
  · exact fun _ notOut => absurd rfl notOut

theorem Completing.notHeld (completing : state.Completing node) {other : NodeId}
    (there : state.store.nodeExists other = true) :
    state.executor.nodePendingResolution ≠ other := by
  rw [completing.released]
  exact (nodeExists_ne_invalidNode there).symm

/-- The part of a completion about the Get resolution restores the invariant. -/
theorem Completing.completeGet (completing : state.Completing node) :
    FullLedger (state.completeGet node) := by
  have ledger := completing.ledger
  unfold Resolver.completeGet
  split
  · rename_i none
    exact ledger.close (completing.absent none)
  · rename_i pending found
    have there : state.store.nodeExists node = true := ledger.live node (by simp [hasKey, found])
    split
    · rename_i needed
      have counted : state.attempts.count node ≤ pending.count ∧
          pending.count ≤ state.getNodeRetryCount node ∧ state.giveUps.count node = 0 := by
        rcases completing.present pending found with dormant | ⟨-, counted⟩
        · have defined := dormant.reported
          unfold needsGet at needed
          simp [defined] at needed
        · exact counted
      extract_lets timed restarted givenUp
      have restarts : (state.withSendTimeout node pending).SameBooks restarted :=
        (schedules_restartPendingGetNodesTimer timed).sameBooks
      have timedLedger : Ledger (· = node) (state.withSendTimeout node pending) :=
        completing.withSendTimeout found
      have later : state.clock + state.config.getRetryTimeout ≠ 0 := by
        have positive := ledger.retryTimeout
        omega
      have entry : (state.withSendTimeout node pending).pendingGetResolutions.lookup node =
          some { pending with
            sendTimeout := state.clock + state.config.getRetryTimeout } := by
        show (assign _ node _).lookup node = _
        rw [lookup_assign, if_pos rfl]
      have sameLimit : restarted.getNodeRetryCount node = state.getNodeRetryCount node :=
        (restarts.sameAccount node).getNodeRetryCount
      split
      · rename_i reached
        rw [sameLimit] at reached
        have exhausted : (state.withSendTimeout node pending).Exhausted node
            { pending with sendTimeout := state.clock + state.config.getRetryTimeout } :=
          ⟨needed, completing.notHeld there, counted.1, le_antisymm counted.2.1 reached,
            fun zero => absurd zero later, counted.2.2⟩
        have givingUp : (state.withSendTimeout node pending).GivingUp node :=
          ⟨timedLedger, ⟨_, entry, exhausted⟩, fun other isThere => completing.notHeld isThere,
            completing.executing⟩
        have sameGroup : restarted.groupNodes .getRule node = state.groupNodes .getRule node := by
          unfold groupNodes
          rw [restarts.executor, restarts.groups, restarts.store]
          rfl
        have isReached : state.isNodeGetResolutionMaxRetriesReached node = true := by
          rw [isNodeGetResolutionMaxRetriesReached_of_lookup found]
          exact decide_eq_true reached
        have started : restarted.GivingUp node := by
          refine ⟨timedLedger.congr restarts, ⟨_, ?_, (restarts.sameAccount node).exhausted
            exhausted⟩, ?_, ?_⟩
          · rw [restarts.pendingGet]
            exact entry
          · rw [restarts.executor, restarts.store]
            exact givingUp.notHeld
          · exact fun execution executes =>
              completing.executing execution ((restarts.executing execution).mp executes)
        have group := started.giveUpNodes (restarted.groupNodes .getRule node)
          (fun other mem => started.ledger.hasRule_of_groupNodes mem) (fun other mem => by
            rw [sameGroup] at mem
            rw [restarts.store]
            exact completing.alone isReached needed other mem)
        exact group.invokeGiveUpListeners.congr (schedules_scanNode givenUp _).sameBooks
      · rename_i below
        rw [sameLimit, not_le] at below
        refine (timedLedger.congr restarts).close fun _ => ?_
        refine (restarts.sameAccount node).accounted ⟨fun none => ?_, fun other isOther => .inr ?_⟩
        · rw [entry] at none
          cases none
        · rw [entry] at isOther
          cases isOther
          exact ⟨needed, counted.1, counted.2.1, .inr (.inl ⟨completing.notHeld there, later, below,
            counted.2.2⟩)⟩
    · rename_i notNeeded
      refine ledger.close fun _ => ⟨fun none => ?_, fun other isOther => ?_⟩
      · rw [found] at none
        cases none
      · rw [found] at isOther
        cases isOther
        refine (completing.present pending found).imp_right fun active => ?_
        exact absurd active.1 notNeeded

end Complete

end Resolver

end AttributeResolver
