import Zpc.Foundation.ParentForest
import Zpc.Foundation.PostOrder
import Zpc.AttributeResolver.Values

/-!
# The order of a scan

A scan visits the attributes that are neither paused nor below a paused one in post-order, as
long as nothing but the loop of `resolver_find_next_resolve` changes its stack.  A request to
scan an attribute does: it sets the child index of a common parent back, so that what was
visited below that parent is visited again.
-/

namespace AttributeResolver

open Foundation
open PostOrder
open ParentForest

namespace Store

/-- The parent of an attribute, which the root does not have. -/
def parentOf (record : AttributeNode) : Option NodeId :=
  if record.parent = invalidNode then none else some record.parent

/-- An attribute is at or below another one. -/
def IsBelow (store : Store) (upper lower : NodeId) : Prop :=
  Below AttributeNode.id parentOf store.nodes upper lower

/-- The ids are valid and distinct, and every attribute is below the root. -/
structure IsTree (store : Store) : Prop where
  distinct : KeysDistinct AttributeNode.id store.nodes
  valid : ∀ record ∈ store.nodes, record.id ≠ invalidNode
  rooted : ∃ record ∈ store.nodes, record.id = store.root ∧ parentOf record = none
  connected : ∀ record ∈ store.nodes, store.IsBelow store.root record.id

variable {store : Store}

variable {record : AttributeNode} {parent other : NodeId} {steps : Nat}

theorem IsTree.find_of_mem (tree : store.IsTree) (mem : record ∈ store.nodes) :
    store.find record.id = some record := by
  unfold find
  rw [if_neg (tree.valid record mem)]
  have found : (store.nodes.find? fun other => other.id = record.id).isSome = true :=
    List.find?_isSome.mpr ⟨record, mem, by simp⟩
  obtain ⟨other, isOther⟩ := Option.isSome_iff_exists.mp found
  have sameId : other.id = record.id := by simpa using List.find?_some isOther
  rw [isOther, tree.distinct.eq_of_key_eq _ (List.mem_of_find?_eq_some isOther) mem sameId]

variable {node : NodeId}

theorem mem_of_find (found : store.find node = some record) : record ∈ store.nodes := by
  unfold find at found
  split at found
  · cases found
  · exact List.mem_of_find?_eq_some found

theorem IsTree.nodeExists_iff (tree : store.IsTree) (node : NodeId) :
    store.nodeExists node = true ↔ ∃ record ∈ store.nodes, record.id = node := by
  unfold nodeExists
  constructor
  · intro found
    obtain ⟨record, isRecord⟩ := Option.isSome_iff_exists.mp found
    exact ⟨record, mem_of_find isRecord, find_id isRecord⟩
  · rintro ⟨record, mem, rfl⟩
    rw [tree.find_of_mem mem]
    rfl

theorem IsTree.root_exists (tree : store.IsTree) : store.nodeExists store.root = true := by
  obtain ⟨record, mem, isRoot, _⟩ := tree.rooted
  exact (tree.nodeExists_iff _).mpr ⟨record, mem, isRoot⟩

theorem IsTree.exists_of_isBelow (tree : store.IsTree) (isBelow : store.IsBelow store.root node) :
    store.nodeExists node = true := by
  rcases isBelow.cases_tail with same | ⟨_, _, record, mem, _, isNode⟩
  · exact same ▸ tree.root_exists
  · exact (tree.nodeExists_iff _).mpr ⟨record, mem, isNode⟩

theorem IsTree.parent_exists (tree : store.IsTree) (mem : record ∈ store.nodes)
    (isChild : parentOf record = some parent) :
    store.IsBelow store.root parent ∧ store.nodeExists parent = true := by
  rcases (tree.connected record mem).eq_or_parent tree.distinct mem rfl with
    isRoot | ⟨above, isAbove, isBelow⟩
  · obtain ⟨root, rootMember, sameRoot, parentless⟩ := tree.rooted
    have same := tree.distinct.eq_of_key_eq _ mem rootMember (isRoot.trans sameRoot.symm)
    rw [same, parentless] at isChild
    cases isChild
  · obtain rfl : above = parent := Option.some.inj (isAbove.symm.trans isChild)
    exact ⟨isBelow, tree.exists_of_isBelow isBelow⟩

theorem parentOf_eq_some_iff :
    parentOf record = some parent ↔ record.parent = parent ∧ parent ≠ invalidNode := by
  unfold parentOf
  split
  next isInvalid =>
    rw [isInvalid]
    constructor
    · simp
    · rintro ⟨rfl, valid⟩
      exact absurd rfl valid
  next isValid =>
    rw [Option.some.injEq]
    constructor
    · rintro rfl
      exact ⟨rfl, isValid⟩
    · exact And.left

theorem IsTree.mem_children_iff (tree : store.IsTree) (node child : NodeId) :
    child ∈ store.children node ↔ IsLinked AttributeNode.id parentOf store.nodes node child := by
  unfold children
  constructor
  · intro mem
    split at mem
    next found =>
      obtain ⟨record, isChild, rfl⟩ := List.mem_map.mp mem
      obtain ⟨recordMember, isParent⟩ := List.mem_filter.mp isChild
      refine ⟨record, recordMember, parentOf_eq_some_iff.mpr ⟨by simpa using isParent, ?_⟩, rfl⟩
      obtain ⟨parent, parentMember, rfl⟩ := (tree.nodeExists_iff node).mp found
      exact tree.valid parent parentMember
    next => cases mem
  · rintro ⟨record, mem, isChild, rfl⟩
    rw [if_pos (tree.parent_exists mem isChild).2]
    refine List.mem_map_of_mem (List.mem_filter.mpr ⟨mem, ?_⟩)
    simpa using (parentOf_eq_some_iff.mp isChild).1

theorem IsTree.above_iff (tree : store.IsTree) (upper lower : NodeId) :
    Above store.children upper lower ↔ store.IsBelow upper lower := by
  have same : (fun upper lower => lower ∈ store.children upper) =
      IsLinked AttributeNode.id parentOf store.nodes := by
    funext upper lower
    exact propext (tree.mem_children_iff upper lower)
  unfold Above IsBelow Below
  rw [same]

theorem IsTree.acyclic (tree : store.IsTree) :
    Acyclic AttributeNode.id parentOf store.nodes store.root := by
  obtain ⟨root, mem, isRoot, parentless⟩ := tree.rooted
  exact isRoot ▸ acyclic_of_parentless tree.distinct mem parentless

/-- The number of attributes strictly below an attribute. -/
noncomputable def sizeBelow (store : Store) (node : NodeId) : Nat :=
  (strictlyBelow AttributeNode.id parentOf store.nodes node).length

theorem IsTree.ranked (tree : store.IsTree) : Ranked store.children store.sizeBelow := by
  intro node child isChild
  obtain ⟨record, mem, isParent, rfl⟩ := (tree.mem_children_iff node child).mp isChild
  have isBelow := (tree.parent_exists mem isParent).1
  exact length_strictlyBelow_child tree.distinct (tree.acyclic.of_below isBelow) mem isParent

theorem sizeBelow_lt (store : Store) (node : NodeId) :
    store.sizeBelow node < store.nodes.length + 1 :=
  Nat.lt_succ_of_le (length_strictlyBelow_le _ _)

theorem upward_isBelow (tree : store.IsTree) (mem : other ∈ store.upward steps node) :
    store.nodeExists node = true ∧ store.IsBelow other node := by
  induction steps generalizing node with
  | zero => cases mem
  | succ steps ih =>
    unfold upward at mem
    split at mem
    next found =>
      refine ⟨found, ?_⟩
      rcases List.mem_cons.mp mem with rfl | isAbove
      · exact Below.root
      · obtain ⟨parentExists, isBelow⟩ := ih isAbove
        obtain ⟨record, isRecord⟩ := Option.isSome_iff_exists.mp found
        have isParent : store.nodeParent node = record.parent := by
          unfold nodeParent
          rw [isRecord]
          rfl
        obtain ⟨parent, parentMember, isId⟩ := (tree.nodeExists_iff _).mp parentExists
        have isChild : parentOf record = some (store.nodeParent node) :=
          parentOf_eq_some_iff.mpr ⟨isParent.symm, isId ▸ tree.valid parent parentMember⟩
        exact find_id isRecord ▸ isBelow.child (mem_of_find isRecord) isChild
    next => cases mem

theorem mem_upward (tree : store.IsTree) (mem : record ∈ store.nodes)
    (enough : (atOrAbove AttributeNode.id parentOf store.nodes record.id).length ≤ steps)
    (isBelow : store.IsBelow other record.id) : other ∈ store.upward steps record.id := by
  -- The induction is on the steps: fewer attributes are at or above a parent.
  induction steps generalizing record with
  | zero =>
    have itself : record ∈ atOrAbove AttributeNode.id parentOf store.nodes record.id :=
      mem_atOrAbove.mpr ⟨mem, Below.root⟩
    rw [List.eq_nil_of_length_eq_zero (Nat.le_zero.mp enough)] at itself
    cases itself
  | succ steps ih =>
    unfold upward
    rw [if_pos ((tree.nodeExists_iff _).mpr ⟨record, mem, rfl⟩)]
    rcases isBelow.eq_or_parent tree.distinct mem rfl with same | ⟨above, isChild, isAbove⟩
    · exact same ▸ List.mem_cons_self
    · obtain ⟨aboveBelow, aboveExists⟩ := tree.parent_exists mem isChild
      have fewer := length_atOrAbove_parent tree.distinct tree.acyclic mem isChild aboveBelow
      have isParent : store.nodeParent record.id = above := by
        unfold nodeParent
        rw [tree.find_of_mem mem]
        exact (parentOf_eq_some_iff.mp isChild).1
      obtain ⟨parent, parentMember, rfl⟩ := (tree.nodeExists_iff above).mp aboveExists
      rw [isParent]
      exact List.mem_cons_of_mem _ (ih parentMember (by omega) isAbove)

theorem IsTree.mem_pathToRoot_iff (tree : store.IsTree) (node other : NodeId) :
    other ∈ store.pathToRoot node ↔ store.nodeExists node = true ∧ store.IsBelow other node := by
  constructor
  · exact upward_isBelow tree
  · rintro ⟨found, isBelow⟩
    obtain ⟨record, mem, rfl⟩ := (tree.nodeExists_iff node).mp found
    exact mem_upward tree mem (length_atOrAbove_le _ _) isBelow

end Store

namespace Resolver

/-- Whether the scan goes past an attribute and what is below it. -/
def isSkipped (state : Resolver) (node : NodeId) : Bool :=
  state.isNodeOrParentPaused node || !state.store.nodeExists node

/-- What the next iteration of the loop finds, and its stack. -/
def advance (state : Resolver) : Option NodeId × List (NodeId × Nat) :=
  PostOrder.advance state.store.children state.isSkipped state.stack

variable {state : Resolver}

/-- A round of the scan is one move of the walk and a visit of the node it finds. -/
theorem iterate_eq_advance (running : state.stack ≠ []) : state.iterate = match state.advance with
      | (some node, stack) => { state with stack := stack }.visitNode node
      | (none, stack) => { state with stack := stack } := by
  unfold iterate advance PostOrder.advance isSkipped
  cases isStack : state.stack with
  | nil => exact absurd isStack running
  | cons entry below =>
    obtain ⟨node, index⟩ := entry
    dsimp only
    by_cases skips : (state.isNodeOrParentPaused node || !state.store.nodeExists node) = true
    · rw [if_pos skips, if_pos skips]
    · rw [if_neg skips, if_neg skips]
      generalize (if (state.store.children node).length < index then 0 else index) = index
      cases (state.store.children node)[index]? <;> rfl

/-- The attributes a scan is to visit, in the order of the documentation. -/
def scanOrder (state : Resolver) : List NodeId :=
  orderTo state.store.children state.isSkipped (state.store.nodes.length + 1) state.store.root

/-- The number of iterations of a scan. -/
def scanLength (state : Resolver) : Nat :=
  (tourTo state.store.children state.isSkipped (state.store.nodes.length + 1)
    state.store.root).length

/-- Whether an action is an iteration of the loop. -/
def isIteration (state : Resolver) : Action -> Bool
  | .iterate => decide (state.control = .scanning) && !state.stack.isEmpty
  | _ => false

/-- What the iterations of a run find. -/
def found : Resolver -> List Action -> List (Option NodeId)
  | _, [] => []
  | state, action :: rest =>
      (if state.isIteration action then [state.advance.1] else []) ++ found (state.step action) rest

/-- The attributes a run visits. -/
def visited (state : Resolver) (actions : List Action) : List NodeId :=
  (state.found actions).reduceOption

/-- A step leaves the tree and the pauses as they are, and the stack is only changed by the
iterations of the loop. -/
structure Undisturbed (state : Resolver) (action : Action) : Prop where
  tree : state.store.SameTree (state.step action).store
  paused : (state.step action).pausedNodes = state.pausedNodes
  stack : (state.step action).stack =
    if state.isIteration action then state.advance.2 else state.stack

theorem isNodeOrParentPaused_iff (tree : state.store.IsTree) (node : NodeId) :
    state.isNodeOrParentPaused node = true ↔
      state.store.nodeExists node = true ∧
        ∃ paused ∈ state.pausedNodes, state.store.IsBelow paused node := by
  unfold isNodeOrParentPaused
  simp only [List.any_eq_true, List.contains_iff_mem, tree.mem_pathToRoot_iff]
  constructor
  · rintro ⟨paused, ⟨exists', isBelow⟩, isPaused⟩
    exact ⟨exists', paused, isPaused, isBelow⟩
  · rintro ⟨exists', paused, isPaused, isBelow⟩
    exact ⟨paused, ⟨exists', isBelow⟩, isPaused⟩

theorem isForest (tree : state.store.IsTree) :
    IsForest state.store.children state.isSkipped state.store.sizeBelow where
  ranked := tree.ranked
  oneParent first second child isFirst isSecond := by
    obtain ⟨record, mem, isChild, isId⟩ := (tree.mem_children_iff first child).mp isFirst
    obtain ⟨other, otherMember, isOther, otherId⟩ :=
      (tree.mem_children_iff second child).mp isSecond
    have same := tree.distinct.eq_of_key_eq _ mem otherMember (isId.trans otherId.symm)
    exact Option.some.inj (isChild.symm.trans (same ▸ isOther))
  distinct node := by
    unfold Store.children
    split
    · exact List.Nodup.sublist (List.filter_sublist.map _) tree.distinct
    · exact List.nodup_nil
  inherited node isSkipped child isChild := by
    have parentExists : state.store.nodeExists node = true := by
      unfold Store.children at isChild
      split at isChild
      next found => exact found
      next => cases isChild
    have isPaused : state.isNodeOrParentPaused node = true := by
      simpa [Resolver.isSkipped, parentExists] using isSkipped
    obtain ⟨-, paused, isMember, isBelow⟩ := (isNodeOrParentPaused_iff tree node).mp isPaused
    obtain ⟨record, mem, isParent, rfl⟩ := (tree.mem_children_iff node child).mp isChild
    have childExists := (tree.nodeExists_iff record.id).mpr ⟨record, mem, rfl⟩
    have childPaused := (isNodeOrParentPaused_iff tree record.id).mpr
      ⟨childExists, paused, isMember, isBelow.child mem isParent⟩
    simp [Resolver.isSkipped, childPaused]

/-- What a scan has to visit and in which order: every attribute that is neither paused nor
below a paused one, once, behind its children and in the order of its siblings. -/
structure IsScanOf (state : Resolver) (nodes : List NodeId) : Prop where
  once : nodes.Nodup
  exactly : ∀ node, node ∈ nodes ↔
    state.store.nodeExists node = true ∧
      ¬∃ paused ∈ state.pausedNodes, state.store.IsBelow paused node
  childrenFirst : ∀ node ∈ nodes, ∀ child ∈ state.store.children node, child ∈ nodes ->
    [child, node].Sublist nodes
  siblings : ∀ node first second, [first, second].Sublist (state.store.children node) ->
    first ∈ nodes -> second ∈ nodes -> [first, second].Sublist nodes

theorem isScanOf_scanOrder (tree : state.store.IsTree) : state.IsScanOf state.scanOrder := by
  have forest := isForest tree
  have isOrder : IsPostOrder state.store.children state.isSkipped state.store.root
      state.scanOrder :=
    (ordersChildren_orderTo tree.ranked state.store.sizeBelow_lt).isPostOrder forest _
  have exactly (node : NodeId) : node ∈ state.scanOrder ↔
      state.store.nodeExists node = true ∧
        ¬∃ paused ∈ state.pausedNodes, state.store.IsBelow paused node := by
    rw [isOrder.exactly, tree.above_iff]
    constructor
    · rintro ⟨isBelow, visits⟩
      have found := tree.exists_of_isBelow isBelow
      refine ⟨found, fun isPaused => ?_⟩
      have skips := (isNodeOrParentPaused_iff tree node).mpr ⟨found, isPaused⟩
      simp [isSkipped, skips] at visits
    · rintro ⟨found, notPaused⟩
      obtain ⟨record, mem, rfl⟩ := (tree.nodeExists_iff node).mp found
      refine ⟨tree.connected record mem, ?_⟩
      have visits : state.isNodeOrParentPaused record.id = false := by
        rw [← Bool.not_eq_true, isNodeOrParentPaused_iff tree]
        exact fun isPaused => notPaused isPaused.2
      simp [isSkipped, visits, found]
  refine ⟨isOrder.once, exactly, isOrder.childrenFirst, ?_⟩
  intro node first second inOrder isFirst isSecond
  -- The parent of a visited attribute is visited as well.
  have isChild := inOrder.subset List.mem_cons_self
  obtain ⟨record, mem, isParent, rfl⟩ := (tree.mem_children_iff node first).mp isChild
  refine isOrder.siblings node ?_ record.id second inOrder isFirst isSecond
  refine (exactly node).mpr ⟨(tree.parent_exists mem isParent).2, ?_⟩
  rintro ⟨paused, isPaused, isBelow⟩
  exact ((exactly record.id).mp isFirst).2 ⟨paused, isPaused, isBelow.child mem isParent⟩

theorem upward_of_sameTree {before after : Store} (same : before.SameTree after) (steps : Nat)
    (node : NodeId) : after.upward steps node = before.upward steps node := by
  induction steps generalizing node with
  | zero => rfl
  | succ steps ih =>
    unfold Store.upward
    rw [same.nodeExists, same.nodeParent, ih]

theorem isSkipped_of_sameTree {before after : Resolver} (same : before.store.SameTree after.store)
    (paused : after.pausedNodes = before.pausedNodes) : after.isSkipped = before.isSkipped := by
  have sameLength : after.store.nodes.length = before.store.nodes.length := by
    simpa [Store.shape] using congrArg List.length same.shape
  funext node
  unfold isSkipped isNodeOrParentPaused Store.pathToRoot
  rw [sameLength, upward_of_sameTree same, same.nodeExists, paused]

theorem found_append_toured {children : NodeId -> List NodeId} {skipped : NodeId -> Bool}
    {tour : NodeId -> List (Option NodeId)} (tours : ToursChildren children skipped tour)
    (actions : List Action) (sameChildren : state.store.children = children)
    (sameSkipped : state.isSkipped = skipped) (fit : IndicesFit children state.stack)
    (undisturbed : StepsMeet step Undisturbed state actions) :
    state.found actions ++ toured children skipped tour (run step state actions).stack =
      toured children skipped tour state.stack := by
  induction actions generalizing state with
  | nil => rfl
  | cons action rest ih =>
    obtain ⟨calm, restCalm⟩ := undisturbed
    have nextChildren := calm.tree.children.trans sameChildren
    have nextSkipped := (isSkipped_of_sameTree calm.tree calm.paused).trans sameSkipped
    have nextStack := calm.stack
    unfold found
    rw [run_cons, List.append_assoc]
    cases iterates : state.isIteration action with
    | false =>
      rw [iterates] at nextStack
      rw [if_neg Bool.false_ne_true, ih nextChildren nextSkipped
        (nextStack ▸ fit) restCalm, nextStack]
      rfl
    | true =>
      have running : state.stack ≠ [] := by
        intro isEmpty
        cases action with
        | iterate => simp [isIteration, isEmpty] at iterates
        | _ => cases iterates
      have sameAdvance : state.advance = PostOrder.advance children skipped state.stack := by
        unfold advance
        rw [sameChildren, sameSkipped]
      rw [iterates, sameAdvance] at nextStack
      rw [if_pos rfl, sameAdvance, ih nextChildren nextSkipped
        (nextStack ▸ fit.advance) restCalm, nextStack, toured_advance tours fit running]
      rfl

/-- In every run from a stack that holds the root only, in which the tree and the pauses stay
and no request sets a child index back, the attributes are visited in post-order, and the loop
stops after a number of iterations that the tree gives. -/
theorem visits_in_postOrder {state : Resolver} (tree : state.store.IsTree)
    (starts : state.stack = [(state.store.root, 0)]) {actions : List Action}
    (undisturbed : StepsMeet step Undisturbed state actions) :
    state.IsScanOf state.scanOrder ∧
      state.visited actions <+: state.scanOrder ∧
      (state.found actions).length ≤ state.scanLength ∧
      ((run step state actions).stack = [] ↔ (state.found actions).length = state.scanLength) ∧
      ((run step state actions).stack = [] -> state.visited actions = state.scanOrder) := by
  have tours : ToursChildren state.store.children state.isSkipped
      (tourTo state.store.children state.isSkipped (state.store.nodes.length + 1)) :=
    toursChildren_tourTo tree.ranked state.store.sizeBelow_lt
  have fit : IndicesFit state.store.children state.stack := by
    rw [starts]
    exact List.forall_mem_cons.mpr ⟨Nat.zero_le _, by simp⟩
  have whole := found_append_toured tours actions rfl rfl fit undisturbed
  have isWhole : toured state.store.children state.isSkipped
      (tourTo state.store.children state.isSkipped (state.store.nodes.length + 1)) state.stack =
        tourTo state.store.children state.isSkipped (state.store.nodes.length + 1)
          state.store.root := by
    rw [starts, tours state.store.root]
    simp [toured]
  rw [isWhole] at whole
  have ended : toured state.store.children state.isSkipped
      (tourTo state.store.children state.isSkipped (state.store.nodes.length + 1))
      (run step state actions).stack = [] ↔ (run step state actions).stack = [] :=
    toured_eq_nil_iff
  generalize toured state.store.children state.isSkipped
    (tourTo state.store.children state.isSkipped (state.store.nodes.length + 1))
    (run step state actions).stack = left at whole ended
  have order : state.scanOrder = state.visited actions ++ left.reduceOption := by
    unfold scanOrder visited
    rw [← List.reduceOption_append, whole, reduceOption_tourTo]
  have length : state.scanLength = (state.found actions).length + left.length := by
    unfold scanLength
    rw [← whole, List.length_append]
  refine ⟨isScanOf_scanOrder tree, order ▸ List.prefix_append _ _, by omega, ?_, ?_⟩
  · rw [← ended, ← List.length_eq_zero_iff]
    omega
  · intro isDone
    rw [order, ended.mpr isDone]
    simp

/-- A root with two attributes of different types. -/
def pairStore : Store where
  nodes :=
    [{ id := 1, type := 7, parent := invalidNode, reported := [], desired := [] },
      { id := 5, type := 1, parent := 1, reported := [], desired := [] },
      { id := 6, type := 2, parent := 1, reported := [], desired := [] }]
  root := 1

theorem isTree_pairStore : pairStore.IsTree where
  distinct := by
    unfold KeysDistinct
    decide
  valid := by decide
  rooted := by decide
  connected := by
    have linked : ∀ record ∈ pairStore.nodes, record.id = 1 ∨ Store.parentOf record = some 1 := by
      decide
    intro record mem
    rcases linked record mem with isRoot | isChild
    · exact isRoot ▸ Below.root
    · exact Below.child .root mem isChild

instance (state : Resolver) (action : Action) : Decidable (state.Undisturbed action) :=
  decidable_of_iff
    (((step state action).store.shape = state.store.shape ∧
        (step state action).store.root = state.store.root) ∧
      (step state action).pausedNodes = state.pausedNodes ∧
      (step state action).stack = if state.isIteration action then state.advance.2 else state.stack)
    ⟨fun ⟨⟨shape, root⟩, paused, stack⟩ => ⟨⟨shape, root⟩, paused, stack⟩,
      fun calm => ⟨⟨calm.tree.shape, calm.tree.root⟩, calm.paused, calm.stack⟩⟩

/-- A scan past a paused attribute. -/
theorem visits_in_postOrder_pausedSibling :
    (run step (initial exampleConfig pairStore) [.pause 6, .handleEvent]).visited
      [.iterate, .iterate, .handleEvent, .iterate, .iterate, .iterate] =
        (run step (initial exampleConfig pairStore) [.pause 6, .handleEvent]).scanOrder := by
  have sameStore : (run step (initial exampleConfig pairStore) [.pause 6, .handleEvent]).store =
      pairStore := by
    decide
  have calm : StepsMeet step Undisturbed
      (run step (initial exampleConfig pairStore) [.pause 6, .handleEvent])
      [.iterate, .iterate, .handleEvent, .iterate, .iterate, .iterate] := by
    decide
  obtain ⟨-, -, -, -, done⟩ :=
    visits_in_postOrder (sameStore ▸ isTree_pairStore) (by decide) calm
  exact done (by decide)

/-- The Get of attribute 5 waits, and that of attribute 6 is not supported; then the Get of
attribute 5 is due again. -/
def retryDueRun : List Action :=
  [.registerRules 1 { exampleRules with identity := 1 },
    .registerRules 2 { exampleRules with identity := 2 }, .handleEvent,
    .iterate, .iterate, .ruleReturns (some .isWaiting) 0,
    .iterate, .iterate, .ruleReturns none 0, .iterate,
    .tick 1000, .handleEvent, .scanNode 5, .handleEvent]

/-- The rest of a call of `resolver_find_next_resolve` in which the Gets of both attributes
wait. -/
def waitingScanRun : List Action :=
  [.iterate, .iterate, .ruleReturns (some .isWaiting) 0,
    .iterate, .iterate, .ruleReturns (some .isWaiting) 0, .iterate, .iterate]

/-- When the Get of an attribute has to wait while that of a visited one is due, the visited
one is visited again in the same call. -/
theorem visited_again_when_due : let state := run step (initial exampleConfig pairStore) retryDueRun
    state.store = pairStore ∧ state.stack = [(pairStore.root, 0)] ∧ state.control = .scanning ∧
      StepsMeet step
        (fun state action => (step state action).store = state.store ∧
          (step state action).pausedNodes = state.pausedNodes) state waitingScanRun ∧
      state.visited waitingScanRun = [5, 6, 5] := by
  decide

end Resolver

end AttributeResolver
