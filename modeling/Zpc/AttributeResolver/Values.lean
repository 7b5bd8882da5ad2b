import Zpc.AttributeResolver.Effects

/-!
# The values the resolver writes

A write changes one value of one attribute; the tree, the types and with them
the groups of the rules stay as they are.  A function of the resolver is
described by the writes it may make.
-/

namespace AttributeResolver

open Foundation

namespace Store

/-- The ids, types and parents of the attributes. -/
def shape (store : Store) : List (NodeId × AttributeType × NodeId) :=
  store.nodes.map fun record => (record.id, record.type, record.parent)

/-- Two stores have the same tree. -/
structure SameTree (before after : Store) : Prop where
  shape : after.shape = before.shape
  root : after.root = before.root

variable (store : Store) (valueState : ValueState) (node : NodeId) (value : List UInt8)
  {before after : Store}

theorem find_map_shape :
    (store.find node).map (fun record => (record.id, record.type, record.parent)) =
      if node = invalidNode then none else store.shape.find? fun entry => entry.1 = node := by
  unfold find
  split
  · rfl
  · rw [shape, List.find?_map]
    rfl

theorem SameTree.find_map (same : before.SameTree after) (node : NodeId) :
    (after.find node).map (fun record => (record.id, record.type, record.parent)) =
      (before.find node).map fun record => (record.id, record.type, record.parent) := by
  rw [find_map_shape, find_map_shape, same.shape]

theorem SameTree.nodeExists (same : before.SameTree after) :
    after.nodeExists = before.nodeExists := by
  funext node
  have found := congrArg Option.isSome (same.find_map node)
  simpa [Store.nodeExists] using found

theorem SameTree.nodeType (same : before.SameTree after) : after.nodeType = before.nodeType := by
  funext node
  have found := congrArg (Option.map fun entry => entry.2.1) (same.find_map node)
  simp only [Option.map_map] at found
  exact congrArg (fun type => type.getD invalidAttributeType) found

theorem SameTree.nodeParent (same : before.SameTree after) :
    after.nodeParent = before.nodeParent := by
  funext node
  have found := congrArg (Option.map fun entry => entry.2.2) (same.find_map node)
  simp only [Option.map_map] at found
  exact congrArg (fun parent => parent.getD invalidNode) found

theorem children_eq_shape :
    store.children node =
      if store.nodeExists node then
        (store.shape.filter fun entry => entry.2.2 = node).map (·.1)
      else [] := by
  rw [shape, List.filter_map, List.map_map]
  rfl

theorem SameTree.children (same : before.SameTree after) : after.children = before.children := by
  funext node
  rw [children_eq_shape, children_eq_shape, same.shape, same.nodeExists]

theorem SameTree.ancestorAt (same : before.SameTree after) (depth : Nat) (node : NodeId) :
    after.ancestorAt depth node = before.ancestorAt depth node := by
  induction depth generalizing node with
  | zero => rfl
  | succ depth ih => rw [Store.ancestorAt, Store.ancestorAt, same.nodeParent, ih]

theorem SameTree.descendantsAt (same : before.SameTree after) (depth : Nat) :
    after.descendantsAt depth = before.descendantsAt depth := by
  induction depth with
  | zero => rfl
  | succ depth ih =>
    funext node
    rw [Store.descendantsAt, Store.descendantsAt, same.children, ih]

theorem SameTree.ruleGetGroupNodes (same : before.SameTree after) (executor : Executor)
    (groups : Groups) (ruleType : RuleType) (node : NodeId) :
    ruleGetGroupNodes executor groups after ruleType node =
      ruleGetGroupNodes executor groups before ruleType node := by
  unfold AttributeResolver.ruleGetGroupNodes
  rw [same.nodeExists, same.nodeType]
  split
  · dsimp only
    rw [same.ancestorAt, same.descendantsAt]
  · rfl

theorem SameTree.refl (store : Store) : store.SameTree store := ⟨rfl, rfl⟩

theorem SameTree.trans {first second third : Store} (earlier : first.SameTree second)
    (later : second.SameTree third) : first.SameTree third :=
  ⟨later.shape.trans earlier.shape, later.root.trans earlier.root⟩

theorem sameTree_withValue : store.SameTree (store.withValue valueState node value) where
  shape := by
    rw [shape, withValue, List.map_map]
    refine List.map_congr_left fun record _ => ?_
    simp only [Function.comp_apply]
    split
    · cases valueState <;> rfl
    · rfl
  root := rfl

theorem find_withValue (other : NodeId) (value : List UInt8) :
    (store.withValue valueState node value).find other =
      (store.find other).map fun record =>
        if record.id = node then AttributeNode.withValue record valueState value else record := by
  unfold find
  split
  · rfl
  · rw [withValue, List.find?_map]
    congr 1
    refine congrArg (fun test => List.find? test store.nodes) ?_
    funext record
    simp only [Function.comp_apply]
    split
    · cases valueState <;> rfl
    · rfl

theorem find_id {store : Store} {node : NodeId} {record : AttributeNode}
    (found : store.find node = some record) : record.id = node := by
  unfold find at found
  split at found
  · cases found
  · simpa using List.find?_some found

theorem value_withValue (otherState : ValueState) (node other : NodeId) (value : List UInt8) :
    (store.withValue valueState node value).value otherState other =
      if other = node ∧ otherState = valueState ∧ store.nodeExists node = true then value
      else store.value otherState other := by
  cases found : store.find other with
  | none =>
    simp only [Store.value, find_withValue, found, Option.map_none]
    rw [if_neg]
    rintro ⟨rfl, -, there⟩
    simp [nodeExists, found] at there
  | some record =>
    have sameId := find_id found
    simp only [Store.value, find_withValue, found, Option.map_some]
    by_cases same : other = node
    · subst same
      cases valueState <;> cases otherState <;>
        simp [sameId, AttributeNode.withValue, nodeExists, found]
    · have differ : ¬record.id = node := fun isNode => same (sameId.symm.trans isNode)
      simp only [differ, if_false, same, false_and]

end Store

namespace Resolver

/-- What a function may write: a value that is not as before is an allowed one.
The tree, the rules and the requests for a re-arm stay. -/
structure Writes
    (allowed : ValueState -> NodeId -> List UInt8 -> Prop)
    (before after : Resolver) : Prop where
  tree : before.store.SameTree after.store
  executor : after.executor = before.executor
  groups : after.groups = before.groups
  rearm : after.rearmAfterCompletion = before.rearmAfterCompletion
  values : ∀ valueState node,
    after.store.value valueState node = before.store.value valueState node ∨
      allowed valueState node (after.store.value valueState node)

variable {allowed : ValueState -> NodeId -> List UInt8 -> Prop}

theorem Writes.refl (state : Resolver) : Writes allowed state state :=
  ⟨.refl _, rfl, rfl, rfl, fun _ _ => .inl rfl⟩

theorem Writes.trans {first second third : Resolver} (earlier : Writes allowed first second)
    (later : Writes allowed second third) : Writes allowed first third where
  tree := earlier.tree.trans later.tree
  executor := later.executor.trans earlier.executor
  groups := later.groups.trans earlier.groups
  rearm := later.rearm.trans earlier.rearm
  values valueState node := by
    rcases later.values valueState node with same | isAllowed
    · rw [same]
      exact earlier.values valueState node
    · exact .inr isAllowed

theorem Schedules.writes {before after : Resolver} (schedules : before.Schedules after) :
    Writes allowed before after := by
  rw [schedules.same]
  exact { Writes.refl _ with }

theorem writes_foldl {α : Type*} {body : Resolver -> α -> Resolver}
    (writes : ∀ (state : Resolver) (entry : α), Writes allowed state (body state entry))
    (entries : List α) (state : Resolver) : Writes allowed state (entries.foldl body state) := by
  induction entries generalizing state with
  | nil => exact .refl state
  | cons entry rest ih => exact (writes state entry).trans (ih _)

variable (state : Resolver) (node : NodeId)

theorem writes_onResolverNodeUpdate : Writes allowed state (state.onResolverNodeUpdate node) := by
  unfold onResolverNodeUpdate
  split
  · exact .refl state
  · extract_lets forgotten unset
    have forgets : Writes allowed state forgotten := by
      dsimp only [forgotten]
      split
      · exact { Writes.refl _ with }
      · exact .refl state
    have unsets : Writes allowed forgotten unset := by
      dsimp only [unset]
      split
      · exact { Writes.refl _ with }
      · exact .refl forgotten
    refine forgets.trans (unsets.trans ?_)
    split
    · exact (schedules_scanNode _ _).writes
    · exact (schedules_scanIfNeeded _ _).writes

theorem store_writeValue (valueState otherState : ValueState) (node other : NodeId)
    (value : List UInt8) :
    (state.writeValue valueState node value).store.value otherState other =
      if other = node ∧ otherState = valueState ∧ state.store.nodeExists node = true then value
      else state.store.value otherState other := by
  have changes : ∀ {after : Resolver},
      after.store = state.store.withValue valueState node value ->
      after.store.value otherState other =
        if other = node ∧ otherState = valueState ∧ state.store.nodeExists node = true then value
        else state.store.value otherState other := by
    rintro after isChanged
    rw [isChanged, Store.value_withValue]
  unfold writeValue
  split
  · rename_i unchanged
    split
    · rename_i isTarget
      obtain ⟨rfl, rfl, there⟩ := isTarget
      simpa [there] using unchanged
    · rfl
  · split
    · rcases (@writes_onResolverNodeUpdate (fun _ _ _ => False)
        (state.changeValue valueState node value) node).values otherState other with same | none
      · exact same.trans (changes rfl)
      · exact none.elim
    · exact changes rfl

theorem writes_writeValue {valueState : ValueState} {node : NodeId} {value : List UInt8}
    (isAllowed : allowed valueState node value) :
    Writes allowed state (state.writeValue valueState node value) := by
  have changes : Writes allowed state (state.changeValue valueState node value) := by
    refine ⟨Store.sameTree_withValue _ _ _ _, rfl, rfl, rfl, fun otherState other => ?_⟩
    show (state.store.withValue valueState node value).value otherState other = _ ∨
      allowed otherState other ((state.store.withValue valueState node value).value
        otherState other)
    rw [Store.value_withValue]
    split
    · rename_i isTarget
      obtain ⟨rfl, rfl, -⟩ := isTarget
      exact .inr isAllowed
    · exact .inl rfl
  unfold writeValue
  split
  · exact .refl state
  · split
    · exact changes.trans (writes_onResolverNodeUpdate _ node)
    · exact changes

theorem writes_giveUpNode (clears : ∀ node, allowed .desired node []) (state : Resolver)
    (node : NodeId) : Writes allowed state (state.giveUpNode node) :=
  (writes_writeValue state (clears node)).trans
    { Writes.refl _ with }

theorem writes_completeGet (clears : ∀ node, allowed .desired node []) (state : Resolver)
    (node : NodeId) : Writes allowed state (state.completeGet node) := by
  unfold completeGet
  split
  · exact .refl state
  · split
    · extract_lets timed restarted givenUp
      have times : Writes allowed state timed := { Writes.refl _ with }
      have restarts : Writes allowed timed restarted :=
        (schedules_restartPendingGetNodesTimer timed).writes
      refine times.trans (restarts.trans ?_)
      split
      · have givesUp : Writes allowed restarted givenUp :=
          (writes_foldl (writes_giveUpNode clears) _ restarted).trans
            { Writes.refl _ with }
        exact givesUp.trans (schedules_scanNode _ _).writes
      · exact .refl restarted
    · exact .refl state

theorem writes_completeSet : Writes allowed state (state.completeSet node) := by
  have erases :
      Writes allowed state
        { state with pendingSetResolutions := eraseKey state.pendingSetResolutions node } :=
    { Writes.refl _ with }
  unfold completeSet
  split
  · exact .refl state
  · exact erases
  · exact erases.trans (schedules_scanNode _ node).writes

theorem writes_paceSet : Writes allowed state (state.paceSet node) := by
  unfold paceSet
  split
  · refine Writes.trans ?_ (schedules_restartPendingGetNodesTimer _).writes
    exact { Writes.refl _ with }
  · exact { Writes.refl _ with }

theorem writes_beforeRearm (clears : ∀ node, allowed .desired node []) (state : Resolver)
    (node : NodeId) : Writes allowed state ((state.completeGet node).completeSet node) :=
  (writes_completeGet clears state node).trans (writes_completeSet _ node)

theorem writes_afterRearm :
    Writes allowed
      (((state.completeGet node).completeSet node).rearm node)
      (state.onResolverRuleExecuteComplete node) := by
  unfold onResolverRuleExecuteComplete
  extract_lets got single rearmed paced
  have paces : Writes allowed rearmed paced := by
    dsimp only [paced]
    split
    · exact writes_paceSet rearmed node
    · exact .refl rearmed
  exact paces.trans ((schedules_watchIfResolved paced node).writes.trans
    (schedules_postNextIfScanning _).writes)

theorem writes_settleNode {status : SendStatus} {state : Resolver} {node : NodeId}
    (clearsDesired : allowed .desired node [])
    (settlesReported : ∀ value, allowed .reported node value) :
    Writes allowed state (settleNode status state node) := by
  unfold settleNode
  split
  all_goals first
    | exact .refl state
    | exact writes_writeValue _ clearsDesired
    | exact (writes_writeValue _ (settlesReported _)).trans (writes_writeValue _ clearsDesired)

theorem writes_settle (clearsDesired : ∀ node, allowed .desired node [])
    (settlesReported : ∀ node value, allowed .reported node value) (state : Resolver)
    (status : SendStatus) (node : NodeId) (ruleType : RuleType) :
    Writes allowed state (state.settle status node ruleType) := by
  unfold settle
  extract_lets moreFrames undefined
  have undefines : Writes allowed state undefined := by
    dsimp only [undefined]
    split
    · exact writes_writeValue _ (settlesReported node [])
    · exact .refl state
  split
  · exact .refl state
  · split
    · exact undefines.trans (writes_foldl
        (fun _ other => writes_settleNode (clearsDesired other) (settlesReported other)) _ _)
    · exact undefines

end Resolver

end AttributeResolver
