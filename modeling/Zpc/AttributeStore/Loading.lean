import Zpc.AttributeStore.Bookkeeping

/-!
# Loading the attribute store from the datastore

`attribute_store_load_from_datastore` deletes the tree with the ordinary deletion of
the root, forgets the pending deletions, makes an object of each row, and links the
objects in a second pass over the rows.  The callbacks for the deletions call no
operation.
-/

namespace AttributeStore

open Foundation

/-- What loading takes from its surroundings: the order in which the datastore returns
the rows of the table, each of them once, and the address of a new object. -/
structure Platform where
  fetchAll : List (NodeId × Row) -> List (NodeId × Row)
  fetchAll_nodup : ∀ rows, ((fetchAll rows).map (·.1)).Nodup
  mem_fetchAll : ∀ rows id row, (id, row) ∈ fetchAll rows ↔ rows.lookup id = some row
  allocate : Heap -> Address
  allocate_fresh : ∀ heap, hasKey heap (allocate heap) = false

namespace Store

/-- The innermost call goes on, with callbacks that call no operation. -/
def advance (store : Store) : Store :=
  match store.calls with
  | .deletesChildren _ :: _ => store.deleteChildren
  | _ => store.callbacksReturn

/-- An object for a row.  The row of the root gives the root its values. -/
def loadNode (platform : Platform) (store : Store) (entry : NodeId × Row) : Store :=
  if entry.1 = rootId then
    { store with
      heap :=
        modify store.heap store.rootNode fun node =>
          { node with
            reportedValue := entry.2.reportedValue
            desiredValue := entry.2.desiredValue }
      idNodeMap := assign store.idNodeMap rootId store.rootNode }
  else
    { store with
      heap :=
        assign store.heap (platform.allocate store.heap)
          { StoreNode.new none entry.2.type entry.1 with
            reportedValue := entry.2.reportedValue
            desiredValue := entry.2.desiredValue }
      idNodeMap := assign store.idNodeMap entry.1 (platform.allocate store.heap) }

/-- The link of a row.  The root has no parent. -/
def attachLink (store : Store) (entry : NodeId × Row) : Store :=
  match store.getNodeFromId entry.2.parentId with
  | (parentNode, store) =>
      match store.getNodeFromId entry.1 with
      | (childNode, store) =>
          match parentNode, childNode with
          | some parent, some child =>
              { store with
                heap :=
                  modify
                    (modify store.heap parent fun node =>
                      { node with childNodes := node.childNodes ++ [child] })
                    child fun node => { node with parentNode := some parent } }
          | _, _ => store

end Store

namespace PersistentStore

/-- The innermost call goes on, with callbacks that call no operation. -/
def advance (persistent : PersistentStore) : PersistentStore :=
  match persistent.store.calls with
  | .deletesChildren _ :: _ => persistent.deleteChildren
  | _ => { persistent with store := persistent.store.callbacksReturn }

/-- A number of steps, or fewer if all calls have returned by then. -/
def settle : Nat -> PersistentStore -> PersistentStore
  | 0, persistent => persistent
  | steps + 1, persistent =>
      if persistent.store.calls = [] then persistent else settle steps persistent.advance

/-- `attribute_store_delete_node` for the root.  An object takes three steps: its
deletion starts, is recorded, and ends. -/
def deleteRoot (persistent : PersistentStore) : PersistentStore :=
  settle (3 * persistent.store.heap.length + 1)
    { persistent with store := persistent.store.deleteNode rootId }

/-- `attribute_store_load_all_nodes_from_datastore`. -/
def load (platform : Platform) (persistent : PersistentStore) : PersistentStore :=
  let emptied := persistent.deleteRoot
  let fetched := platform.fetchAll emptied.rows
  { emptied with
    store := fetched.foldl Store.attachLink (fetched.foldl (Store.loadNode platform) emptied.store)
    pendingDeletion := [] }

end PersistentStore

/-- What is left to do for an object: its deletion starts, is recorded, and ends. -/
def stepsFor (entry : Address × StoreNode) : Nat := if entry.2.undergoingDeletion then 2 else 3

theorem two_le_stepsFor (entry : Address × StoreNode) : 2 ≤ stepsFor entry := by
  unfold stepsFor
  split_ifs <;> omega

variable {heap : Heap} {address : Address} {node : StoreNode}

theorem sum_stepsFor_modify (there : heap.lookup address = some node)
    (change : StoreNode -> StoreNode) :
    ((modify heap address change).map stepsFor).sum + stepsFor (address, node) ≤
      (heap.map stepsFor).sum + stepsFor (address, change node) := by
  have erased := sum_eraseKey_add_le stepsFor (mem_of_lookup_eq_some there)
  rw [modify, there]
  dsimp only
  rw [assign, List.map_cons, List.sum_cons]
  omega

theorem sum_stepsFor_modify_le {change : StoreNode -> StoreNode}
    (marked : ∀ node, node.undergoingDeletion = true -> (change node).undergoingDeletion = true)
    (heap : Heap) (address : Address) :
    ((modify heap address change).map stepsFor).sum ≤ (heap.map stepsFor).sum := by
  cases there : heap.lookup address with
  | none => rw [modify, there]
  | some node =>
    have changed := sum_stepsFor_modify there change
    have fewer : stepsFor (address, change node) ≤ stepsFor (address, node) := by
      unfold stepsFor
      split_ifs with stillMarked wasMarked wasMarked
      · exact Nat.le_refl 2
      · omega
      · exact absurd (marked node wasMarked) stillMarked
      · exact Nat.le_refl 3
    omega

theorem sum_stepsFor_destroy (there : heap.lookup address = some node)
    (leaf : node.childNodes = []) :
    ((destroy heap address).map stepsFor).sum + 2 ≤ (heap.map stepsFor).sum := by
  have nonempty : heap.length = heap.length - 1 + 1 := by
    have mem := List.length_pos_of_mem (mem_of_lookup_eq_some there)
    omega
  unfold destroy
  rw [nonempty, destroyTo]
  simp only [there, leaf, List.foldl_nil]
  cases node.parentNode with
  | none =>
    have erased := sum_eraseKey_add_le stepsFor (mem_of_lookup_eq_some there)
    have atLeast := two_le_stepsFor (address, node)
    dsimp only
    omega
  | some parent =>
    obtain ⟨unlinked, unlinkedThere⟩ : ∃ unlinked,
        (removeChildLink heap parent address).lookup address = some unlinked := by
      rw [removeChildLink, lookup_modify]
      split_ifs with isParent
      · exact ⟨_, by rw [← isParent, there]; rfl⟩
      · exact ⟨node, there⟩
    have erased := sum_eraseKey_add_le stepsFor (mem_of_lookup_eq_some unlinkedThere)
    have atLeast := two_le_stepsFor (address, unlinked)
    have fewer : ((removeChildLink heap parent address).map stepsFor).sum ≤
        (heap.map stepsFor).sum := by
      apply sum_stepsFor_modify_le
      exact fun _ marked => marked
    dsimp only
    omega

namespace Store

variable {store : Store}

/-- The steps that are left. -/
def stepsLeft (store : Store) : Nat :=
  (store.heap.map stepsFor).sum +
    match store.calls with
    | .deletesChildren _ :: _ => 1
    | _ => 0

/-- The deletion of the root goes down one path of the tree, and marks no other node. -/
structure Emptying (store : Store) : Prop where
  sound : store.Sound
  marks : ∀ address node, store.heap.lookup address = some node ->
    node.undergoingDeletion = true -> address ∈ markedBy store.calls
  path : store.calls = [] ∧
        (∃ node, store.heap.lookup store.rootNode = some node ∧ node.childNodes = [] ∧
          node.reportedValue = [] ∧ node.desiredValue = []) ∨
      ∃ call deletion, ∃ above : List Deletion, store.calls = call :: above.map .awaitsChild ∧
        (call = .deletesChildren deletion ∨ call = .reportsDeleted deletion) ∧
        PathTo (childrenOf store.heap) store.rootNode deletion.nodeToDelete
          (above.map (·.nodeToDelete))

theorem mem_markedBy (calls : List Call) (address : Address) :
    address ∈ markedBy calls ↔
      ∃ deletion ∈ deletionsOf calls, deletion.isRoot = false ∧
        deletion.nodeToDelete = address := by
  simp [markedBy, and_assoc]

theorem exists_of_firstChild (sound : store.Sound)
    (isSome : store.firstChild address ≠ invalidNode) :
    ∃ child childNode, child ∈ childrenOf store.heap address ∧
      store.heap.lookup child = some childNode ∧
      childNode.id = store.firstChild address := by
  unfold firstChild at isSome ⊢
  cases there : store.heap.lookup address with
  | none => simp [there] at isSome
  | some node =>
    cases children : node.childNodes with
    | nil => simp [there, children] at isSome
    | cons child rest =>
      have isChild : child ∈ childrenOf store.heap address := by
        simp [childrenOf, there, children]
      obtain ⟨childNode, childThere⟩ :=
        (live_iff store.heap child).mp (sound.indexed.tree.liveEnds _ _ isChild).2
      exact ⟨child, childNode, isChild, childThere, by simp [children, childThere]⟩

variable {deletion : Deletion} {above : List Deletion}

theorem Emptying.of_empty (emptying : store.Emptying)
    (isFirst : store.calls = .deletesChildren deletion :: above.map .awaitsChild)
    (path : PathTo (childrenOf store.heap) store.rootNode deletion.nodeToDelete
      (above.map (·.nodeToDelete)))
    (ends : store.firstChild deletion.nodeToDelete = invalidNode) :
    store.deleteChildren.Emptying ∧ store.deleteChildren.stepsLeft < store.stepsLeft := by
  have sound := emptying.sound.deleteChildren
  obtain ⟨node, there, -, isRoot, -⟩ := emptying.sound.guarded.holds deletion
    (mem_deletionsOf (isFirst ▸ List.mem_cons_self) rfl)
  have childless := invalidNode_of_firstChild emptying.sound there ends
  unfold deleteChildren at sound ⊢
  simp only [isFirst, if_pos ends] at sound ⊢
  cases atRoot : deletion.isRoot with
  | true =>
    rw [if_pos atRoot] at sound
    rw [if_pos rfl]
    -- The root has nothing above it.
    have isRootNode : deletion.nodeToDelete = store.rootNode := by simpa [atRoot] using isRoot
    rw [isRootNode] at path there
    have noneAbove : above = [] := by
      have same := emptying.sound.indexed.tree.pathTo_unique path .root
      simpa using same
    subst noneAbove
    refine ⟨⟨sound, ?_, ?_⟩, ?_⟩
    · intro address changed changedThere isMarked
      have wasMarked : ∃ before, store.heap.lookup address = some before ∧
          before.undergoingDeletion = true := by
        simp only [returns, lookup_modify] at changedThere
        split_ifs at changedThere with same
        · obtain ⟨before, beforeThere, rfl⟩ := Option.map_eq_some_iff.mp changedThere
          exact ⟨before, same ▸ beforeThere, isMarked⟩
        · exact ⟨changed, changedThere, isMarked⟩
      obtain ⟨before, beforeThere, beforeMarked⟩ := wasMarked
      have mem := emptying.marks address before beforeThere beforeMarked
      rw [isFirst, mem_markedBy] at mem
      obtain ⟨other, isOther, notRoot, -⟩ := mem
      simp only [deletionsOf, List.map_nil, List.filterMap_cons, Call.deletion,
        List.filterMap_nil, List.mem_singleton] at isOther
      rw [isOther, atRoot] at notRoot
      cases notRoot
    · refine .inl ⟨rfl, { node with reportedValue := [], desiredValue := [] }, ?_, childless,
        rfl, rfl⟩
      simp [returns, lookup_modify, there]
    · have fewer := sum_stepsFor_modify_le keepsLinks_clear.marked store.heap store.rootNode
      simp only [stepsLeft, returns, unwind, isFirst, List.map_nil]
      omega
  | false =>
    rw [if_neg (by simp [atRoot])] at sound
    rw [if_neg (by simp)]
    refine ⟨⟨sound, ?_, ?_⟩, ?_⟩
    · intro address marked markedThere isMarked
      have mem := emptying.marks address marked markedThere isMarked
      rw [isFirst] at mem
      exact mem
    · exact .inr ⟨_, deletion, above, rfl, .inr rfl, path⟩
    · simp only [stepsLeft, isFirst]
      omega

/-- The deletion of a child starts. -/
theorem Emptying.of_child (emptying : store.Emptying)
    (isFirst : store.calls = .deletesChildren deletion :: above.map .awaitsChild)
    (path : PathTo (childrenOf store.heap) store.rootNode deletion.nodeToDelete
      (above.map (·.nodeToDelete)))
    (goesOn : store.firstChild deletion.nodeToDelete ≠ invalidNode) :
    store.deleteChildren.Emptying ∧ store.deleteChildren.stepsLeft < store.stepsLeft := by
  have tree := emptying.sound.indexed.tree
  have sound := emptying.sound.deleteChildren
  obtain ⟨child, childNode, isChild, childThere, childId⟩ :=
    exists_of_firstChild emptying.sound goesOn
  have childPath := path.child isChild
  -- The child is not on the path down to its parent, so that it is not marked.
  have notAbove : ∀ other ∈ deletionsOf store.calls, other.nodeToDelete ≠ child := by
    intro other isOther isSame
    rw [isFirst] at isOther
    have onPath : other ∈ deletion :: above := by
      simpa [deletionsOf, Call.deletion, Function.comp_def] using isOther
    refine (List.nodup_cons.mp (tree.nodup_of_pathTo childPath)).1 ?_
    rw [← isSame]
    exact List.mem_map_of_mem onPath
  have notRoot : child ≠ store.rootNode := by
    rintro rfl
    have hasParent := (tree.links _ _).mp isChild
    rw [tree.rootParent] at hasParent
    cases hasParent
  have unmarked : childNode.undergoingDeletion = false := by
    by_contra isMarked
    have mem := emptying.marks child childNode childThere (by simpa using isMarked)
    obtain ⟨other, isOther, -, isSame⟩ := (mem_markedBy _ _).mp mem
    exact notAbove other isOther isSame
  have mapped : store.idNodeMap.lookup childNode.id = some child :=
    (emptying.sound.indexed.mapped _ _).mpr (by simp [idOf, childThere])
  have guarded : Guarded store.heap store.rootNode (.deletesChildren deletion :: _) :=
    isFirst ▸ emptying.sound.guarded
  have started : store.deleteChildren =
      { store with
        heap := modify store.heap child fun node => { node with undergoingDeletion := true }
        calls :=
          .deletesChildren ⟨child, childNode.id, false⟩ ::
            (deletion :: above).map .awaitsChild } := by
    rw [deleteChildren, isFirst]
    dsimp only
    rw [if_neg goesOn, ← childId]
    rcases deleteNode_cases
        (⟨emptying.sound.indexed, guarded.replace rfl (by simp)⟩ :
          Sound { store with calls := .awaitsChild deletion :: above.map .awaitsChild })
        childNode.id with
      ⟨unmapped, -⟩ | ⟨address, node, isMapped, there, ⟨isMarked, -⟩ | ⟨-, starts⟩⟩
    · rw [mapped] at unmapped
      cases unmapped
    · rw [mapped] at isMapped
      cases isMapped
      rw [childThere] at there
      cases there
      rw [unmarked] at isMarked
      cases isMarked
    · rw [mapped] at isMapped
      cases isMapped
      rw [starts]
      simp [notRoot]
  rw [started] at sound ⊢
  refine ⟨⟨sound, ?_, ?_⟩, ?_⟩
  · intro address node there isMarked
    rw [mem_markedBy]
    rw [lookup_modify] at there
    by_cases same : address = child
    · exact ⟨⟨child, childNode.id, false⟩, by simp [deletionsOf, Call.deletion], rfl, same.symm⟩
    · rw [if_neg same] at there
      obtain ⟨other, isOther, isDeleted⟩ :=
        (mem_markedBy _ _).mp (emptying.marks address node there isMarked)
      refine ⟨other, ?_, isDeleted⟩
      rw [isFirst] at isOther
      exact List.mem_cons_of_mem _ isOther
  · refine .inr ⟨_, ⟨child, childNode.id, false⟩, deletion :: above, rfl, .inl rfl, ?_⟩
    rw [keepsLinks_mark.childrenOf]
    exact childPath
  · have fewer := sum_stepsFor_modify childThere
      fun node => { node with undergoingDeletion := true }
    simp only [stepsFor, unmarked, if_true, if_false, Bool.false_eq_true] at fewer
    simp only [stepsLeft, isFirst]
    omega

theorem Emptying.of_reported (emptying : store.Emptying)
    (isFirst : store.calls = .reportsDeleted deletion :: above.map .awaitsChild)
    (path : PathTo (childrenOf store.heap) store.rootNode deletion.nodeToDelete
      (above.map (·.nodeToDelete))) :
    store.callbacksReturn.Emptying ∧ store.callbacksReturn.stepsLeft < store.stepsLeft := by
  have tree := emptying.sound.indexed.tree
  have sound := emptying.sound.callbacksReturn
  obtain ⟨node, there, -, leaf, notRoot⟩ :=
    emptying.sound.of_reportsDeleted (isFirst ▸ List.mem_cons_self)
  have lookups := lookup_destroy there leaf
  cases above with
  | nil => exact absurd path.eq_root notRoot
  | cons parent above =>
    have returned : store.callbacksReturn =
        { store with
          idNodeMap := eraseKey store.idNodeMap deletion.nodeId
          heap := destroy store.heap deletion.nodeToDelete
          calls := .deletesChildren parent :: above.map .awaitsChild } := by
      rw [callbacksReturn, isFirst]
      rfl
    rw [returned] at sound ⊢
    refine ⟨⟨sound, ?_, ?_⟩, ?_⟩
    · intro address marked markedThere isMarked
      obtain ⟨elsewhere, before, beforeThere, beforeMarked⟩ :
          address ≠ deletion.nodeToDelete ∧ ∃ before, store.heap.lookup address = some before ∧
            before.undergoingDeletion = true := by
        rw [lookups] at markedThere
        split_ifs at markedThere with isFreed isParent
        · obtain ⟨before, beforeThere, rfl⟩ := Option.map_eq_some_iff.mp markedThere
          exact ⟨isFreed, before, beforeThere, isMarked⟩
        · exact ⟨isFreed, marked, markedThere, isMarked⟩
      obtain ⟨other, isOther, otherNotRoot, rfl⟩ :=
        (mem_markedBy _ _).mp (emptying.marks address before beforeThere beforeMarked)
      refine (mem_markedBy _ _).mpr ⟨other, ?_, otherNotRoot, rfl⟩
      rw [isFirst] at isOther
      rcases List.mem_cons.mp isOther with rfl | inRest
      · exact absurd rfl elsewhere
      · exact inRest
    · refine .inr ⟨_, parent, above, rfl, .inl rfl, ?_⟩
      -- The path to the parent in the smaller tree is its path in the larger one.
      have fewer : ∀ address child, child ∈ childrenOf (destroy store.heap deletion.nodeToDelete)
          address -> child ∈ childrenOf store.heap address := by
        intro address child isChild
        rw [childrenOf, lookups] at isChild
        rw [childrenOf]
        split_ifs at isChild
        · simp at isChild
        · cases before : store.heap.lookup address <;> simp_all
        · exact isChild
      obtain ⟨parentNode, parentThere, -⟩ :=
        sound.guarded.holds parent (mem_deletionsOf List.mem_cons_self rfl)
      obtain ⟨parentPath, reached⟩ := sound.indexed.tree.reached parent.nodeToDelete
        ((live_iff _ _).mpr ⟨parentNode, parentThere⟩)
      have same := tree.pathTo_unique (reached.mono fewer) path.above.1
      rw [← same]
      exact reached
    · have fewer := sum_stepsFor_destroy there leaf
      simp only [stepsLeft, isFirst]
      omega

/-- Each step of the deletion at loading goes on and brings it nearer to its end. -/
theorem Emptying.advance (emptying : store.Emptying) (goesOn : store.calls ≠ []) :
    store.advance.Emptying ∧ store.advance.stepsLeft < store.stepsLeft := by
  rcases emptying.path with ⟨returned, -⟩ | ⟨call, deletion, above, isFirst, isCall, path⟩
  · exact absurd returned goesOn
  · unfold Store.advance
    rcases isCall with rfl | rfl
    · rw [isFirst]
      by_cases ends : store.firstChild deletion.nodeToDelete = invalidNode
      · exact emptying.of_empty isFirst path ends
      · exact emptying.of_child isFirst path ends
    · rw [isFirst]
      exact emptying.of_reported isFirst path

/-- A step of a deletion keeps the root node and its type. -/
theorem Sound.type_advance (sound : store.Sound) :
    store.advance.rootNode = store.rootNode ∧
      (contentAt store.advance.heap store.rootNode).map (·.2.type) =
        (contentAt store.heap store.rootNode).map (·.2.type) := by
  unfold Store.advance
  split
  · rename_i deletion rest isFirst
    unfold Store.deleteChildren
    simp only [isFirst]
    split_ifs
    · refine ⟨rfl, ?_⟩
      simp only [Store.returns, contentAt, lookup_modify, if_true, Option.map_map]
      rfl
    · exact ⟨rfl, rfl⟩
    · have guarded : Guarded store.heap store.rootNode (.deletesChildren deletion :: rest) :=
        isFirst ▸ sound.guarded
      have awaits : Sound { store with calls := .awaitsChild deletion :: rest } :=
        ⟨sound.indexed, guarded.replace rfl (by simp)⟩
      obtain ⟨sameRoot, content, -⟩ :=
        awaits.contentAt_deleteNode (store.firstChild deletion.nodeToDelete)
      exact ⟨sameRoot, by rw [content]⟩
  · unfold Store.callbacksReturn
    split
    · rename_i deletion rest isFirst
      obtain ⟨node, there, -, leaf, elsewhere⟩ :=
        sound.of_reportsDeleted (isFirst ▸ List.mem_cons_self)
      refine ⟨rfl, ?_⟩
      simp only [Store.returns]
      rw [contentAt_destroy sound.indexed there leaf, if_neg elsewhere.symm]
    all_goals exact ⟨rfl, rfl⟩

end Store

namespace PersistentStore

variable {persistent : PersistentStore}

theorem advance_cases (persistent : PersistentStore) :
    persistent.advance = { persistent with store := persistent.store.advance } ∨
      persistent.advance =
        { persistent with store := persistent.store.advance }.storeAttribute
          persistent.store.rootNode ∨
      ∃ deletion, deletion ∈ deletionsOf persistent.store.calls ∧ deletion.isRoot = false ∧
        persistent.advance =
          { persistent with store := persistent.store.advance }.recordDeletion deletion.nodeId := by
  unfold advance Store.advance
  split
  · rename_i deletion rest isFirst
    unfold deleteChildren
    simp only [isFirst]
    split_ifs with ends isRoot
    · exact .inr (.inl rfl)
    · exact .inr (.inr ⟨deletion, mem_deletionsOf List.mem_cons_self rfl, by simpa using isRoot,
        rfl⟩)
    · exact .inl rfl
  · exact .inl rfl

/-- A step of a deletion keeps the account of what is to be saved. -/
theorem Recorded.advance (recorded : persistent.Recorded none) :
    persistent.advance.Recorded none := by
  unfold PersistentStore.advance
  split
  · exact recorded.deleteChildren
  · exact recorded.callbacksReturn

@[simp] theorem recordDeletion_store (persistent : PersistentStore) (id : NodeId) :
    (persistent.recordDeletion id).store = persistent.store := by
  unfold recordDeletion
  split_ifs <;> rfl

@[simp] theorem advance_store (persistent : PersistentStore) :
    persistent.advance.store = persistent.store.advance := by
  rcases advance_cases persistent with same | stored | ⟨deletion, -, -, isRecorded⟩
  · rw [same]
  · rw [stored, storeAttribute_store]
  · rw [isRecorded, recordDeletion_store]

variable {before : PersistentStore}

theorem recordDeletion_rows (delayed : persistent.autoSaveInterval ≠ 0) (id : NodeId) :
    (persistent.recordDeletion id).rows = persistent.rows := by
  unfold recordDeletion
  split_ifs <;> rfl

theorem recordDeletion_pendingDeletion (atOnce : persistent.autoSaveInterval = 0) (id : NodeId) :
    (persistent.recordDeletion id).pendingDeletion = [] := by
  unfold recordDeletion
  simp only [if_pos atOnce]
  rfl

@[simp] theorem recordDeletion_autoSaveInterval (persistent : PersistentStore) (id : NodeId) :
    (persistent.recordDeletion id).autoSaveInterval = persistent.autoSaveInterval := by
  unfold recordDeletion
  split_ifs <;> rfl

@[simp] theorem storeAttribute_autoSaveInterval (persistent : PersistentStore) (address : Address) :
    (persistent.storeAttribute address).autoSaveInterval = persistent.autoSaveInterval := by
  unfold storeAttribute
  split
  · rfl
  · split_ifs <;> rfl

theorem lookup_storeAttribute_rootNode
    (root : idOf persistent.store.heap persistent.store.rootNode = some rootId) {id : NodeId}
    (notRoot : id ≠ rootId) :
    (persistent.storeAttribute persistent.store.rootNode).rows.lookup id =
      persistent.rows.lookup id := by
  obtain ⟨node, there, isRootId⟩ := Option.map_eq_some_iff.mp root
  unfold storeAttribute
  rw [there]
  simp [storeRow, isRootId, notRoot]

/-- The tree is being deleted.  With an auto-save interval the rows of the nodes stay,
and without one no deletion stays pending. -/
structure Clearing (before persistent : PersistentStore) : Prop where
  emptying : persistent.store.Emptying
  recorded : persistent.Recorded none
  rootNode : persistent.store.rootNode = before.store.rootNode
  rootType : (contentAt persistent.store.heap before.store.rootNode).map (·.2.type) =
    (contentAt before.store.heap before.store.rootNode).map (·.2.type)
  interval : persistent.autoSaveInterval = before.autoSaveInterval
  kept : before.autoSaveInterval ≠ 0 -> ∀ id, id ≠ rootId ->
    persistent.rows.lookup id = before.rows.lookup id
  flushed : before.autoSaveInterval = 0 -> persistent.pendingDeletion = []

/-- A step of the deletion keeps clearing the store of before. -/
theorem Clearing.advance {before : PersistentStore} (clearing : before.Clearing persistent)
    (goesOn : persistent.store.calls ≠ []) : before.Clearing persistent.advance := by
  obtain ⟨sameRoot, sameType⟩ := clearing.emptying.sound.type_advance
  have recorded := clearing.recorded.advance
  have root := recorded.root
  rw [advance_store, sameRoot] at root
  have emptying := (clearing.emptying.advance goesOn).1
  rw [clearing.rootNode] at sameType
  refine ⟨?_, recorded, ?_, ?_, ?_, ?_, ?_⟩
  · rw [advance_store]
    exact emptying
  · rw [advance_store, sameRoot]
    exact clearing.rootNode
  · rw [advance_store, sameType]
    exact clearing.rootType
  · rw [← clearing.interval]
    rcases advance_cases persistent with same | stored | ⟨deletion, -, -, isRecorded⟩
    · rw [same]
    · rw [stored, storeAttribute_autoSaveInterval]
    · rw [isRecorded, recordDeletion_autoSaveInterval]
  · intro delayed id notRoot
    rw [← clearing.kept delayed id notRoot]
    rw [← clearing.interval] at delayed
    rcases advance_cases persistent with same | stored | ⟨deletion, -, -, isRecorded⟩
    · rw [same]
    · rw [stored, ← sameRoot]
      exact lookup_storeAttribute_rootNode (by rw [sameRoot]; exact root) notRoot
    · rw [isRecorded, recordDeletion_rows]
      exact delayed
  · intro atOnce
    rcases advance_cases persistent with same | stored | ⟨deletion, -, -, isRecorded⟩
    · rw [same]
      exact clearing.flushed atOnce
    · rw [stored, storeAttribute_pendingDeletion]
      exact clearing.flushed atOnce
    · rw [isRecorded]
      rw [← clearing.interval] at atOnce
      apply recordDeletion_pendingDeletion
      exact atOnce

theorem Clearing.settle {steps : Nat} (clearing : before.Clearing persistent)
    (enough : persistent.store.stepsLeft ≤ steps) :
    before.Clearing (settle steps persistent) ∧ (settle steps persistent).store.calls = [] := by
  induction steps generalizing persistent with
  | zero =>
    refine ⟨clearing, ?_⟩
    by_contra goesOn
    have fewer := (clearing.emptying.advance goesOn).2
    omega
  | succ steps ih =>
    rw [settle]
    split_ifs with returned
    · exact ⟨clearing, returned⟩
    · have fewer := (clearing.emptying.advance returned).2
      apply ih (clearing.advance returned)
      rw [advance_store]
      omega

/-- No node was left marked by a deletion that another one stopped. -/
def NoneMarked (store : Store) : Prop :=
  ∀ address node, store.heap.lookup address = some node -> node.undergoingDeletion = false

theorem sum_stepsFor_le (heap : Heap) : (heap.map stepsFor).sum ≤ 3 * heap.length := by
  induction heap with
  | nil => exact Nat.le_refl 0
  | cons entry rest ih =>
    have atMost : stepsFor entry ≤ 3 := by
      unfold stepsFor
      split_ifs <;> omega
    rw [List.map_cons, List.sum_cons, List.length_cons]
    omega

theorem Recorded.deleteRoot (recorded : persistent.Recorded none)
    (idle : persistent.store.calls = []) (noneMarked : NoneMarked persistent.store)
    (nonePending : persistent.pendingDeletion = []) :
    persistent.Clearing persistent.deleteRoot ∧ persistent.deleteRoot.store.calls = [] := by
  have mapped := (recorded.sound.indexed.mapped _ _).mpr recorded.root
  rcases Store.deleteNode_cases recorded.sound rootId with
    ⟨unmapped, -⟩ | ⟨address, node, isMapped, there, ⟨isMarked, -⟩ | ⟨-, started⟩⟩
  · rw [mapped] at unmapped
    cases unmapped
  · rw [noneMarked address node there] at isMarked
    cases isMarked
  · rw [mapped] at isMapped
    cases isMapped
    have starts := recorded.deleteNode rootId
    rw [if_pos rfl, idle] at started
    apply Clearing.settle
    · refine ⟨⟨starts.sound, ?_, ?_⟩, starts, ?_, ?_, rfl, fun _ _ _ => rfl, fun _ => nonePending⟩
      · intro address marked markedThere isMarked
        rw [started] at markedThere
        rw [noneMarked address marked markedThere] at isMarked
        cases isMarked
      · rw [started]
        exact .inr ⟨_, _, [], rfl, .inl rfl, .root⟩
      all_goals rw [started]
    · rw [started]
      have bound := sum_stepsFor_le persistent.store.heap
      simp only [Store.stepsLeft]
      omega

end PersistentStore

end AttributeStore
