import Zpc.Foundation.LinkedTree
import Zpc.AttributeStore.Operations

/-!
# The tree of the attribute store

In every state in which the lock is free the live objects are a tree below the
root, and the map holds each of them under its own id.  A call that deletes a node
other than the root has marked it first.  The mark keeps other calls from
deleting the node, from modifying it and from adding children to it, so that the
node of every call that has not returned is still there when its callbacks
return, and has no children then.
-/

namespace AttributeStore

open Foundation

/-! ## Reading the heap -/

/-- An object is allocated. -/
def Live (heap : Heap) (address : Address) : Prop := hasKey heap address = true

/-- The children of an object. -/
def childrenOf (heap : Heap) (address : Address) : List Address :=
  ((heap.lookup address).map (·.childNodes)).getD []

/-- The parent of an object. -/
def parentOf (heap : Heap) (address : Address) : Option Address :=
  ((heap.lookup address).map (·.parentNode)).getD none

/-- The id of an object. -/
def idOf (heap : Heap) (address : Address) : Option NodeId := (heap.lookup address).map (·.id)

theorem live_iff (heap : Heap) (address : Address) :
    Live heap address ↔ ∃ node, heap.lookup address = some node := by
  rw [Live, hasKey, Option.isSome_iff_exists]

theorem lookup_modify (heap : Heap) (address other : Address) (change : StoreNode -> StoreNode) :
    (modify heap address change).lookup other =
      if other = address then (heap.lookup address).map change else heap.lookup other := by
  unfold modify
  cases found : heap.lookup address with
  | none =>
    by_cases same : other = address
    · simp [same, found]
    · simp [same]
  | some node =>
    rw [lookup_assign]
    rfl

variable {heap : Heap} {address : Address}

theorem idOf_of_findIdTo {id : NodeId} {depth : Nat} {found : Address}
    (finds : findIdTo heap id depth address = some found) : idOf heap found = some id := by
  induction depth generalizing address with
  | zero => cases finds
  | succ depth ih =>
    rw [findIdTo, Option.bind_eq_some_iff] at finds
    obtain ⟨node, there, finds⟩ := finds
    split at finds
    · rename_i sameId
      cases finds
      simp [idOf, there, sameId]
    · obtain ⟨child, -, inChild⟩ := List.exists_of_findSome?_eq_some finds
      exact ih inChild

theorem lookup_destroy {node : StoreNode} (there : heap.lookup address = some node)
    (leaf : node.childNodes = []) (other : Address) :
    (destroy heap address).lookup other =
      if other = address then none
      else if node.parentNode = some other then
        (heap.lookup other).map fun above =>
          { above with childNodes := above.childNodes.filter fun child => child ≠ address }
      else heap.lookup other := by
  have nonempty : heap.length = heap.length - 1 + 1 := by
    have mem := List.length_pos_of_mem (mem_of_lookup_eq_some there)
    omega
  unfold destroy
  rw [nonempty, destroyTo]
  simp only [there, leaf, List.foldl_nil]
  rw [lookup_eraseKey]
  by_cases same : other = address
  · simp [same]
  · simp only [same, if_false]
    cases above : node.parentNode with
    | none => simp
    | some parent =>
      simp only [removeChildLink, lookup_modify, Option.some.injEq]
      by_cases isParent : other = parent
      · simp [isParent]
      · simp [isParent, Ne.symm isParent]

theorem lookup_addChild {parent : Address} (differs : parent ≠ address) (type : NodeType)
    (id : NodeId) (other : Address) :
    (addChild heap parent type id address).lookup other =
      if other = address then some (.new (some parent) type id)
      else if other = parent then
        (heap.lookup parent).map fun above =>
          { above with childNodes := above.childNodes ++ [address] }
      else heap.lookup other := by
  unfold addChild
  rw [lookup_modify]
  by_cases isParent : other = parent
  · simp [isParent, differs]
  · simp [isParent]

/-! ## The tree and the map -/

/-- The live objects are a tree below the root, and the map holds each of them
under its own id. -/
structure Indexed (heap : Heap) (root : Address) (map : List (NodeId × Address)) : Prop where
  tree : LinkedTree (Live heap) (childrenOf heap) (parentOf heap) root
  mapped : ∀ id address, map.lookup id = some address ↔ idOf heap address = some id
  valid : ∀ address, idOf heap address ≠ some invalidNode

/-- A change of an object that leaves its id and its links, and takes no mark
away. -/
structure KeepsLinks (change : StoreNode -> StoreNode) : Prop where
  id : ∀ node, (change node).id = node.id
  parentNode : ∀ node, (change node).parentNode = node.parentNode
  childNodes : ∀ node, (change node).childNodes = node.childNodes
  marked : ∀ node, node.undergoingDeletion = true -> (change node).undergoingDeletion = true

section Modify

variable {change : StoreNode -> StoreNode}

theorem read_modify {α : Type*} (read : StoreNode -> α)
    (untouched : ∀ node, read (change node) = read node) (heap : Heap) (address other : Address) :
    ((modify heap address change).lookup other).map read = (heap.lookup other).map read := by
  rw [lookup_modify]
  by_cases same : other = address
  · subst same
    rw [if_pos rfl, Option.map_map]
    exact congrArg (fun reading => (heap.lookup other).map reading) (funext untouched)
  · rw [if_neg same]

variable (heap : Heap) (address : Address)

theorem live_modify (change : StoreNode -> StoreNode) :
    Live (modify heap address change) = Live heap := by
  funext other
  have kept := congrArg Option.isSome (@read_modify change _ (fun _ => ()) (fun _ => rfl)
    heap address other)
  rw [Option.isSome_map, Option.isSome_map] at kept
  simp only [Live, hasKey, kept]

theorem KeepsLinks.childrenOf (keeps : KeepsLinks change) (heap : Heap) (address : Address) :
    childrenOf (modify heap address change) = childrenOf heap := by
  funext other
  exact congrArg (·.getD []) (read_modify (·.childNodes) keeps.childNodes heap address other)

theorem KeepsLinks.parentOf (keeps : KeepsLinks change) (heap : Heap) (address : Address) :
    parentOf (modify heap address change) = parentOf heap := by
  funext other
  exact congrArg (·.getD none) (read_modify (·.parentNode) keeps.parentNode heap address other)

theorem KeepsLinks.idOf (keeps : KeepsLinks change) (heap : Heap) (address : Address) :
    idOf (modify heap address change) = idOf heap := by
  funext other
  exact read_modify (·.id) keeps.id heap address other

theorem Indexed.modify {heap : Heap} {root : Address} {map : List (NodeId × Address)}
    (indexed : Indexed heap root map) (keeps : KeepsLinks change) (address : Address) :
    Indexed (modify heap address change) root map where
  tree := by
    rw [live_modify, keeps.childrenOf, keeps.parentOf]
    exact indexed.tree
  mapped := by
    rw [keeps.idOf]
    exact indexed.mapped
  valid := by
    rw [keeps.idOf]
    exact indexed.valid

end Modify

section Leaves

variable {heap : Heap} {root : Address} {map : List (NodeId × Address)}

variable {address : Address}

/-- A new object below a live one. -/
theorem Indexed.addChild (indexed : Indexed heap root map) {parent : Address}
    (parentLive : Live heap parent) (fresh : ¬Live heap address) (type : NodeType) {newId : NodeId}
    (notInvalid : newId ≠ invalidNode) (unused : hasKey map newId = false) :
    Indexed (addChild heap parent type newId address) root (assign map newId address) := by
  have differs : parent ≠ address := by
    rintro rfl
    exact fresh parentLive
  have free : heap.lookup address = none := Option.not_isSome_iff_eq_none.mp fresh
  obtain ⟨above, aboveThere⟩ := (live_iff heap parent).mp parentLive
  have ids : ∀ other, idOf (AttributeStore.addChild heap parent type newId address) other =
      if other = address then some newId else idOf heap other := by
    intro other
    unfold idOf
    rw [lookup_addChild differs]
    by_cases isNew : other = address
    · simp [isNew, StoreNode.new]
    · by_cases isParent : other = parent
      · simp [isParent, differs, aboveThere]
      · simp [isNew, isParent]
  refine ⟨indexed.tree.attach fresh parentLive ?_ ?_ ?_, ?_, ?_⟩
  · intro other
    rw [Live, Live, hasKey, hasKey, lookup_addChild differs]
    by_cases isNew : other = address
    · simp [isNew]
    · by_cases isParent : other = parent
      · simp [isParent, differs, aboveThere]
      · simp [isNew, isParent]
  · intro other
    unfold childrenOf
    rw [lookup_addChild differs]
    by_cases isParent : other = parent
    · simp [isParent, differs, aboveThere]
    · by_cases isNew : other = address
      · simp [isNew, differs.symm, free, StoreNode.new]
      · simp [isNew, isParent]
  · intro other
    unfold parentOf
    rw [lookup_addChild differs]
    by_cases isNew : other = address
    · simp [isNew, StoreNode.new]
    · by_cases isParent : other = parent
      · simp [isParent, differs, aboveThere]
      · simp [isNew, isParent]
  · intro id other
    rw [lookup_assign, ids]
    have notMapped : map.lookup newId = none := by
      simpa [hasKey] using unused
    by_cases isNew : other = address
    · subst isNew
      by_cases isId : id = newId
      · simp [isId]
      · have unmapped : map.lookup id ≠ some other := fun isMapped => by
          have there := (indexed.mapped id other).mp isMapped
          simp [idOf, free] at there
        simp [isId, Ne.symm isId, unmapped]
    · by_cases isId : id = newId
      · have notOther : idOf heap other ≠ some newId := fun hasId => by
          rw [← indexed.mapped, notMapped] at hasId
          cases hasId
        simp [isNew, Ne.symm isNew, isId, notOther]
      · simp only [isNew, isId, if_false]
        exact indexed.mapped id other
  · intro other
    rw [ids]
    split
    · simpa using notInvalid
    · exact indexed.valid other

/-- A leaf other than the root is freed. -/
theorem Indexed.destroy (indexed : Indexed heap root map) {node : StoreNode}
    (there : heap.lookup address = some node) (notRoot : address ≠ root)
    (leaf : node.childNodes = []) : Indexed (destroy heap address) root (eraseKey map node.id) := by
  have isParent : ∀ other, node.parentNode = some other ↔ address ∈ childrenOf heap other := by
    intro other
    rw [indexed.tree.links]
    simp [parentOf, there]
  have ids : ∀ other, idOf (AttributeStore.destroy heap address) other =
      if other = address then none else idOf heap other := by
    intro other
    unfold idOf
    rw [lookup_destroy there leaf]
    by_cases same : other = address
    · simp [same]
    · by_cases above : node.parentNode = some other
      · simp [same, above, Option.map_map, Function.comp_def]
      · simp [same, above]
  refine ⟨indexed.tree.detach notRoot (by simp [childrenOf, there, leaf]) ?_ ?_ ?_, ?_, ?_⟩
  · intro other
    rw [Live, Live, hasKey, hasKey, lookup_destroy there leaf]
    by_cases same : other = address
    · simp [same]
    · by_cases above : node.parentNode = some other
      all_goals simp [same, above]
  · intro other
    have removed : ∀ nodes : List Address, address ∉ nodes ->
        nodes.filter (fun child => child ≠ address) = nodes := by
      intro nodes absent
      refine List.filter_eq_self.mpr fun child mem => ?_
      have differs : child ≠ address := fun same => absent (same ▸ mem)
      simpa using differs
    by_cases above : node.parentNode = some other
    · have differs : other ≠ address := by
        rintro rfl
        have mem := (isParent other).mp above
        simp [childrenOf, there, leaf] at mem
      unfold childrenOf
      rw [lookup_destroy there leaf, if_neg differs, if_pos above]
      cases heap.lookup other <;> simp
    · rw [removed _ fun mem => above ((isParent other).mpr mem)]
      unfold childrenOf
      rw [lookup_destroy there leaf, if_neg above]
      by_cases same : other = address
      · simp [same, there, leaf]
      · simp [same]
  · intro other
    unfold parentOf
    rw [lookup_destroy there leaf]
    by_cases same : other = address
    · simp [same]
    · by_cases above : node.parentNode = some other
      · simp only [same, above, if_false, if_true]
        cases heap.lookup other <;> rfl
      · simp [same, above]
  · intro id other
    rw [lookup_eraseKey, ids]
    have own : map.lookup node.id = some address :=
      (indexed.mapped node.id address).mpr (by simp [idOf, there])
    by_cases same : other = address
    · subst same
      by_cases isId : id = node.id
      · simp [isId]
      · have unmapped : map.lookup id ≠ some other := fun isMapped => by
          have itsId := (indexed.mapped id other).mp isMapped
          simp only [idOf, there, Option.map_some, Option.some.injEq] at itsId
          exact isId itsId.symm
        simp [isId, unmapped]
    · by_cases isId : id = node.id
      · have notOther : idOf heap other ≠ some node.id := fun hasId => by
          rw [← indexed.mapped, own] at hasId
          exact same (Option.some.inj hasId).symm
        simp [same, isId, notOther]
      · simp only [same, isId, if_false]
        exact indexed.mapped id other
  · intro other
    rw [ids]
    split
    · simp
    · exact indexed.valid other

end Leaves

/-! ## The calls that have not returned -/

/-- The deletion a call is about. -/
def Call.deletion : Call -> Option Deletion
  | .deletesChildren deletion => some deletion
  | .awaitsChild deletion => some deletion
  | .reportsDeleted deletion => some deletion
  | _ => none

/-- The deletions that have not returned. -/
def deletionsOf (calls : List Call) : List Deletion := calls.filterMap Call.deletion

/-- The nodes other than the root that are being deleted. -/
def markedBy (calls : List Call) : List Address :=
  ((deletionsOf calls).filter fun deletion => !deletion.isRoot).map (·.nodeToDelete)

/-- The node of a deletion is live, and marked unless it is the root. -/
def Holds (heap : Heap) (root : Address) (deletion : Deletion) : Prop :=
  ∃ node, heap.lookup deletion.nodeToDelete = some node ∧ node.id = deletion.nodeId ∧
    deletion.isRoot = decide (deletion.nodeToDelete = root) ∧
    (deletion.isRoot = false -> node.undergoingDeletion = true)

/-- What the marks guarantee to the calls that have not returned. -/
structure Guarded (heap : Heap) (root : Address) (calls : List Call) : Prop where
  holds : ∀ deletion ∈ deletionsOf calls, Holds heap root deletion
  emptied : ∀ deletion, .reportsDeleted deletion ∈ calls ->
    deletion.isRoot = false ∧ childrenOf heap deletion.nodeToDelete = []
  distinct : (markedBy calls).Nodup

section Calls

variable {heap : Heap} {root : Address} {calls : List Call}

variable {call : Call} {deletion : Deletion} {address : Address}

theorem mem_deletionsOf (mem : call ∈ calls) (about : call.deletion = some deletion) :
    deletion ∈ deletionsOf calls :=
  List.mem_filterMap.mpr ⟨call, mem, about⟩

theorem Guarded.tail (guarded : Guarded heap root (call :: calls)) : Guarded heap root calls where
  holds deletion mem := guarded.holds deletion (by
    obtain ⟨other, inCalls, about⟩ := List.mem_filterMap.mp mem
    exact mem_deletionsOf (List.mem_cons_of_mem call inCalls) about)
  emptied deletion mem := guarded.emptied deletion (List.mem_cons_of_mem call mem)
  distinct := by
    refine guarded.distinct.sublist (((List.Sublist.filterMap _ ?_).filter _).map _)
    exact List.sublist_cons_self call calls

theorem Guarded.replace {call next : Call} (guarded : Guarded heap root (call :: calls))
    (same : next.deletion = call.deletion)
    (emptied : ∀ deletion, next = .reportsDeleted deletion ->
      deletion.isRoot = false ∧ childrenOf heap deletion.nodeToDelete = []) :
    Guarded heap root (next :: calls) := by
  have sameDeletions : deletionsOf (next :: calls) = deletionsOf (call :: calls) := by
    simp only [deletionsOf, List.filterMap_cons, same]
  refine ⟨?_, fun deletion mem => ?_, ?_⟩
  · rw [sameDeletions]
    exact guarded.holds
  · rcases List.mem_cons.mp mem with isNext | before
    · exact emptied deletion isNext.symm
    · exact guarded.tail.emptied deletion before
  · rw [markedBy, sameDeletions]
    exact guarded.distinct

section

variable (guarded : Guarded heap root calls)
include guarded

theorem Guarded.push (noDeletion : call.deletion = none) : Guarded heap root (call :: calls) := by
  have sameDeletions : deletionsOf (call :: calls) = deletionsOf calls := by
    simp only [deletionsOf, List.filterMap_cons, noDeletion]
  refine ⟨?_, fun deletion mem => ?_, ?_⟩
  · rw [sameDeletions]
    exact guarded.holds
  · rcases List.mem_cons.mp mem with isCall | before
    · rw [← isCall] at noDeletion
      cases noDeletion
    · exact guarded.emptied deletion before
  · rw [markedBy, sameDeletions]
    exact guarded.distinct

theorem Guarded.unwind (status : Status) : Guarded heap root (Store.unwind status calls) := by
  fun_induction Store.unwind status calls with
  | case1 deletion rest => exact guarded.replace rfl (by simp)
  | case2 deletion rest failed ih => exact ih guarded.tail
  | case3 calls => exact guarded

theorem Guarded.pushDeletion (holds : Holds heap root deletion)
    (isNew : deletion.isRoot = false -> deletion.nodeToDelete ∉ markedBy calls) :
    Guarded heap root (.deletesChildren deletion :: calls) := by
  refine ⟨fun other mem => ?_, fun other mem => ?_, ?_⟩
  · rcases List.mem_cons.mp mem with rfl | before
    · exact holds
    · exact guarded.holds other before
  · rcases List.mem_cons.mp mem with isCall | before
    · cases isCall
    · exact guarded.emptied other before
  · simp only [markedBy, deletionsOf, List.filterMap_cons, Call.deletion]
    cases isRoot : deletion.isRoot with
    | true =>
      rw [List.filter_cons_of_neg (by simp [isRoot])]
      exact guarded.distinct
    | false =>
      rw [List.filter_cons_of_pos (by simp [isRoot]), List.map_cons, List.nodup_cons]
      exact ⟨isNew isRoot, guarded.distinct⟩

theorem Guarded.marked {address : Address} (mem : address ∈ markedBy calls) :
    ∃ node, heap.lookup address = some node ∧ node.undergoingDeletion = true := by
  obtain ⟨deletion, isDeletion, rfl⟩ := List.mem_map.mp mem
  obtain ⟨inCalls, notRoot⟩ := List.mem_filter.mp isDeletion
  obtain ⟨node, there, -, -, marked⟩ := guarded.holds deletion inCalls
  exact ⟨node, there, marked (by simpa using notRoot)⟩

theorem Guarded.transfer {after : Heap}
    (kept : ∀ deletion ∈ deletionsOf calls, ∀ node,
      heap.lookup deletion.nodeToDelete = some node ->
      ∃ next, after.lookup deletion.nodeToDelete = some next ∧ next.id = node.id ∧
        (node.undergoingDeletion = true -> next.undergoingDeletion = true ∧
          (node.childNodes = [] -> next.childNodes = []))) :
    Guarded after root calls where
  holds deletion mem := by
    obtain ⟨node, there, sameId, isRoot, marked⟩ := guarded.holds deletion mem
    obtain ⟨next, still, keepsId, keepsMark⟩ := kept deletion mem node there
    exact ⟨next, still, keepsId.trans sameId, isRoot, fun notRoot => (keepsMark (marked notRoot)).1⟩
  emptied deletion mem := by
    obtain ⟨notRoot, empty⟩ := guarded.emptied deletion mem
    have inCalls : deletion ∈ deletionsOf calls := mem_deletionsOf mem rfl
    obtain ⟨node, there, -, -, marked⟩ := guarded.holds deletion inCalls
    obtain ⟨next, still, -, keepsMark⟩ := kept deletion inCalls node there
    refine ⟨notRoot, ?_⟩
    have noChildren : node.childNodes = [] := by simpa [childrenOf, there] using empty
    simp [childrenOf, still, (keepsMark (marked notRoot)).2 noChildren]
  distinct := guarded.distinct

theorem Guarded.modify {change : StoreNode -> StoreNode} (keeps : KeepsLinks change)
    (address : Address) : Guarded (modify heap address change) root calls := by
  refine guarded.transfer fun deletion _ node there => ?_
  rw [lookup_modify]
  by_cases same : deletion.nodeToDelete = address
  · rw [← same, there, if_pos rfl]
    exact ⟨change node, rfl, keeps.id node, fun marked => ⟨keeps.marked node marked,
      fun empty => (keeps.childNodes node).trans empty⟩⟩
  · rw [if_neg same]
    exact ⟨node, there, rfl, fun marked => ⟨marked, id⟩⟩

theorem Guarded.addChild {parent : Address} {above : StoreNode}
    (parentThere : heap.lookup parent = some above) (unmarked : above.undergoingDeletion = false)
    (fresh : ¬Live heap address) (type : NodeType) (newId : NodeId) :
    Guarded (addChild heap parent type newId address) root calls := by
  have differs : parent ≠ address := by
    rintro rfl
    exact fresh ((live_iff heap parent).mpr ⟨above, parentThere⟩)
  refine guarded.transfer fun deletion _ node there => ?_
  have notNew : deletion.nodeToDelete ≠ address := by
    rintro rfl
    exact fresh ((live_iff heap _).mpr ⟨node, there⟩)
  rw [lookup_addChild differs, if_neg notNew]
  by_cases isParent : deletion.nodeToDelete = parent
  · rw [isParent, parentThere] at there
    cases there
    rw [if_pos isParent, parentThere]
    exact ⟨_, rfl, rfl, fun marked => absurd marked (by simp [unmarked])⟩
  · rw [if_neg isParent]
    exact ⟨node, there, rfl, fun marked => ⟨marked, id⟩⟩

end

theorem Guarded.destroy (guarded : Guarded heap root (.reportsDeleted deletion :: calls))
    {node : StoreNode} (there : heap.lookup deletion.nodeToDelete = some node)
    (leaf : node.childNodes = []) : Guarded (destroy heap deletion.nodeToDelete) root calls := by
  obtain ⟨notRoot, -⟩ := guarded.emptied deletion List.mem_cons_self
  obtain ⟨_, -, -, isRoot, -⟩ := guarded.holds deletion (mem_deletionsOf List.mem_cons_self rfl)
  refine guarded.tail.transfer fun other mem otherNode otherThere => ?_
  have differs : other.nodeToDelete ≠ deletion.nodeToDelete := by
    intro same
    obtain ⟨_, -, -, otherIsRoot, -⟩ := guarded.tail.holds other mem
    have otherNotRoot : other.isRoot = false := by
      rw [otherIsRoot, same, ← isRoot, notRoot]
    have distinct := guarded.distinct
    simp only [markedBy, deletionsOf, List.filterMap_cons, Call.deletion] at distinct
    rw [List.filter_cons_of_pos (by simp [notRoot]), List.map_cons, List.nodup_cons] at distinct
    refine distinct.1 (List.mem_map.mpr ⟨other, List.mem_filter.mpr ⟨mem, ?_⟩, same⟩)
    simp [otherNotRoot]
  rw [lookup_destroy there leaf, if_neg differs]
  split
  · rw [otherThere]
    refine ⟨_, rfl, rfl, fun marked => ⟨marked, fun empty => ?_⟩⟩
    simp [empty]
  · exact ⟨otherNode, otherThere, rfl, fun marked => ⟨marked, id⟩⟩

end Calls

/-! ## Runs -/

namespace Store

/-- What holds whenever the lock is free. -/
structure Sound (store : Store) : Prop where
  indexed : Indexed store.heap store.rootNode store.idNodeMap
  guarded : Guarded store.heap store.rootNode store.calls

variable {store : Store}

theorem getNodeFromId_of_mapped
    (mapped : ∀ id address,
      store.idNodeMap.lookup id = some address ↔ idOf store.heap address = some id)
    (valid : store.idNodeMap.lookup invalidNode = none)
    (id : NodeId) :
    store.getNodeFromId id = (store.idNodeMap.lookup id, store) := by
  unfold getNodeFromId
  split
  · rename_i isInvalid
    rw [isInvalid, valid]
  · split
    · rename_i address isMapped
      rw [isMapped]
    · rename_i unmapped
      split
      · rw [unmapped]
      · rename_i address found
        have isMapped := (mapped id address).mpr (idOf_of_findIdTo found)
        rw [unmapped] at isMapped
        cases isMapped

theorem Sound.getNodeFromId (sound : store.Sound) (id : NodeId) :
    store.getNodeFromId id = (store.idNodeMap.lookup id, store) := by
  refine getNodeFromId_of_mapped sound.indexed.mapped ?_ id
  refine Option.eq_none_iff_forall_ne_some.mpr fun address isMapped => ?_
  exact sound.indexed.valid address ((sound.indexed.mapped _ address).mp isMapped)

theorem Sound.returns (sound : store.Sound) (status : Status) : (store.returns status).Sound :=
  ⟨sound.indexed, sound.guarded.unwind status⟩

theorem keepsLinks_mark : KeepsLinks fun node => { node with undergoingDeletion := true } :=
  ⟨fun _ => rfl, fun _ => rfl, fun _ => rfl, fun _ _ => rfl⟩

theorem deleteNode_cases (sound : store.Sound) (id : NodeId) :
    store.idNodeMap.lookup id = none ∧ store.deleteNode id = store.returns .ok ∨
      ∃ address node,
        store.idNodeMap.lookup id = some address ∧ store.heap.lookup address = some node ∧
        (node.undergoingDeletion = true ∧ store.deleteNode id = store.returns .inProgress ∨
          node.undergoingDeletion = false ∧
          store.deleteNode id =
            { store with
              heap :=
                if address = store.rootNode then store.heap
                else
                  modify store.heap address fun node => { node with undergoingDeletion := true }
              calls :=
                .deletesChildren ⟨address, id, decide (address = store.rootNode)⟩ ::
                  store.calls }) := by
  have byId := sound.getNodeFromId id
  unfold deleteNode
  split
  · rename_i isInvalid
    left
    rw [getNodeFromId, if_pos isInvalid] at byId
    exact ⟨(Prod.mk.inj byId).1.symm, rfl⟩
  · rw [byId]
    split
    · rename_i isStore
      obtain ⟨unmapped, rfl⟩ := Prod.mk.inj isStore
      exact .inl ⟨unmapped, rfl⟩
    · rename_i address stored isStore
      obtain ⟨isMapped, rfl⟩ := Prod.mk.inj isStore
      have itsId := (sound.indexed.mapped id address).mp isMapped
      obtain ⟨node, there, rfl⟩ := Option.map_eq_some_iff.mp itsId
      refine .inr ⟨address, node, isMapped, there, ?_⟩
      simp only [there]
      by_cases isMarked : node.undergoingDeletion = true
      · rw [if_pos isMarked]
        exact .inl ⟨isMarked, rfl⟩
      · rw [if_neg isMarked]
        refine .inr ⟨by simpa using isMarked, ?_⟩
        by_cases isRoot : address = store.rootNode <;> simp [isRoot]

theorem Sound.deleteNode (sound : store.Sound) (id : NodeId) : (store.deleteNode id).Sound := by
  rcases deleteNode_cases sound id with
    ⟨-, returned⟩ | ⟨address, node, isMapped, there, ⟨-, returned⟩ | ⟨unmarked, started⟩⟩
  · rw [returned]
    exact sound.returns .ok
  · rw [returned]
    exact sound.returns .inProgress
  · have sameId : node.id = id := by
      simpa [idOf, there] using (sound.indexed.mapped id address).mp isMapped
    rw [started]
    by_cases isRoot : address = store.rootNode
    · simp only [isRoot, decide_true, if_true]
      refine ⟨sound.indexed, sound.guarded.pushDeletion ?_ (by simp)⟩
      exact ⟨node, isRoot ▸ there, sameId, by simp, by simp⟩
    · simp only [isRoot, decide_false, if_false]
      refine ⟨sound.indexed.modify keepsLinks_mark address, ?_⟩
      refine (sound.guarded.modify keepsLinks_mark address).pushDeletion ?_ fun _ => ?_
      · refine ⟨{ node with undergoingDeletion := true }, ?_, sameId, by simp [isRoot], by simp⟩
        simp [lookup_modify, there]
      · intro isMarked
        obtain ⟨marked, markedThere, isTrue⟩ := sound.guarded.marked isMarked
        rw [there] at markedThere
        cases markedThere
        rw [unmarked] at isTrue
        cases isTrue

theorem invalidNode_of_firstChild (sound : store.Sound) {node : StoreNode}
    (there : store.heap.lookup address = some node)
    (none : store.firstChild address = invalidNode) :
    node.childNodes = [] := by
  unfold firstChild at none
  rw [there] at none
  dsimp only at none
  split at none
  · assumption
  · rename_i child rest isFirst
    have isChild : child ∈ childrenOf store.heap address := by
      simp [childrenOf, there, isFirst]
    obtain ⟨childNode, childThere⟩ :=
      (live_iff store.heap child).mp (sound.indexed.tree.liveEnds _ _ isChild).2
    simp only [childThere, Option.map_some, Option.getD_some] at none
    refine absurd ?_ (sound.indexed.valid child)
    simp [idOf, childThere, none]

theorem keepsLinks_clear :
    KeepsLinks fun node => { node with reportedValue := [], desiredValue := [] } :=
  ⟨fun _ => rfl, fun _ => rfl, fun _ => rfl, fun _ marked => marked⟩

theorem Sound.deleteChildren (sound : store.Sound) : store.deleteChildren.Sound := by
  unfold Store.deleteChildren
  split
  · rename_i deletion rest isFirst
    have guarded : Guarded store.heap store.rootNode (.deletesChildren deletion :: rest) :=
      isFirst ▸ sound.guarded
    split
    · rename_i none
      split
      · refine Sound.returns ?_ .ok
        exact ⟨sound.indexed.modify keepsLinks_clear _, guarded.tail.modify keepsLinks_clear _⟩
      · rename_i notRoot
        refine ⟨sound.indexed, guarded.replace rfl fun other isSame => ?_⟩
        cases isSame
        obtain ⟨node, there, -⟩ := guarded.holds deletion (mem_deletionsOf List.mem_cons_self rfl)
        refine ⟨by simpa using notRoot, ?_⟩
        simp [childrenOf, there, invalidNode_of_firstChild sound there none]
    · refine Sound.deleteNode ?_ _
      exact ⟨sound.indexed, guarded.replace rfl (by simp)⟩
  · exact sound

theorem Sound.of_reportsDeleted (sound : store.Sound) {deletion : Deletion}
    (mem : .reportsDeleted deletion ∈ store.calls) :
    ∃ node, store.heap.lookup deletion.nodeToDelete = some node ∧ node.id = deletion.nodeId ∧
      node.childNodes = [] ∧ deletion.nodeToDelete ≠ store.rootNode := by
  obtain ⟨node, there, sameId, isRoot, -⟩ := sound.guarded.holds deletion (mem_deletionsOf mem rfl)
  obtain ⟨notRoot, empty⟩ := sound.guarded.emptied deletion mem
  rw [notRoot] at isRoot
  exact ⟨node, there, sameId, by simpa [childrenOf, there] using empty, by simpa using isRoot.symm⟩

theorem Sound.callbacksReturn (sound : store.Sound) : store.callbacksReturn.Sound := by
  unfold Store.callbacksReturn
  split
  · rename_i deletion rest isFirst
    have guarded : Guarded store.heap store.rootNode (.reportsDeleted deletion :: rest) :=
      isFirst ▸ sound.guarded
    obtain ⟨node, there, sameId, leaf, differs⟩ :=
      sound.of_reportsDeleted (isFirst ▸ List.mem_cons_self)
    refine Sound.returns ?_ .ok
    refine ⟨?_, guarded.destroy there leaf⟩
    have destroyed := sound.indexed.destroy there differs leaf
    rw [sameId] at destroyed
    exact destroyed
  · rename_i isFirst
    exact ⟨sound.indexed, (isFirst ▸ sound.guarded).tail⟩
  · rename_i isFirst
    exact ⟨sound.indexed, (isFirst ▸ sound.guarded).tail⟩
  · exact sound

variable (id : NodeId) (value : List UInt8) {iterations : Nat}

theorem not_isTaken_of_nextFree {id newId : NodeId}
    (ends : store.nextFree iterations id = some newId) : store.isTaken newId = false := by
  induction iterations generalizing id with
  | zero => cases ends
  | succ iterations ih =>
    rw [nextFree] at ends
    split at ends
    · exact ih ends
    · rename_i free
      cases ends
      simpa using free

theorem isTaken_of_nextFree_eq_none {id : NodeId} (goesOn : store.nextFree iterations id = none)
    {index : Nat} (inRange : index < iterations) :
    store.isTaken (id + UInt32.ofNat index) = true := by
  induction iterations generalizing id index with
  | zero => omega
  | succ iterations ih =>
    rw [nextFree] at goesOn
    split at goesOn
    · rename_i taken
      cases index with
      | zero => simpa using taken
      | succ index =>
        have later := ih goesOn (Nat.lt_of_succ_lt_succ inRange)
        rw [UInt32.ofNat_add, UInt32.add_comm (UInt32.ofNat index), ← UInt32.add_assoc]
        exact later
    · cases goesOn

theorem getNextId_isSome (room : store.idNodeMap.length + 2 < 2 ^ 32) :
    store.getNextId.isSome = true := by
  by_contra goesOn
  have goesOn : store.nextFree (2 ^ 32) (store.lastAssignedId + 1) = none :=
    Option.not_isSome_iff_eq_none.mp goesOn
  have every : ∀ id, store.isTaken id = true := by
    intro id
    have taken := isTaken_of_nextFree_eq_none goesOn
      (id - (store.lastAssignedId + 1)).toNat_lt
    rwa [UInt32.ofNat_toNat, UInt32.add_comm, UInt32.sub_add_cancel] at taken
  have distinct : ((List.range (2 ^ 32)).map UInt32.ofNat).Nodup := by
    refine List.Nodup.map_on (fun first isFirst second isSecond same => ?_) List.nodup_range
    have values := congrArg UInt32.toNat same
    rwa [UInt32.toNat_ofNat_of_lt' (List.mem_range.mp isFirst),
      UInt32.toNat_ofNat_of_lt' (List.mem_range.mp isSecond)] at values
  have among : (List.range (2 ^ 32)).map UInt32.ofNat ⊆
      invalidNode :: rootId :: store.idNodeMap.map (·.1) := by
    intro id _
    have taken := every id
    simp only [isTaken, Bool.or_eq_true, decide_eq_true_eq] at taken
    rcases taken with (isInvalid | isRoot) | isKey
    · simp [isInvalid]
    · simp [isRoot]
    · obtain ⟨address, found⟩ := Option.isSome_iff_exists.mp isKey
      have mem := mem_of_lookup_eq_some found
      simp only [List.mem_cons, List.mem_map]
      exact .inr (.inr ⟨_, mem, rfl⟩)
  have bound := distinct.length_le_of_subset among
  simp only [List.length_map, List.length_range, List.length_cons] at bound
  omega

theorem addNode_cases (sound : store.Sound) (validation : Validation) (type : NodeType)
    (parentNode : NodeId) (address : Address) :
    store.addNode validation type parentNode address = (none, store) ∨
      ∃ newId parent above,
        store.heap.lookup parent = some above ∧ above.undergoingDeletion = false ∧
        ¬Live store.heap address ∧ store.isTaken newId = false ∧
        store.addNode validation type parentNode address =
          (some newId,
            { store with
              heap := addChild store.heap parent type newId address
              idNodeMap := assign store.idNodeMap newId address
              lastAssignedId := newId
              calls := .reportsCreated newId :: store.calls }) := by
  unfold addNode
  rw [sound.getNodeFromId]
  split
  · exact .inl rfl
  · split
    · rename_i isStore
      obtain ⟨-, rfl⟩ := Prod.mk.inj isStore
      exact .inl rfl
    · rename_i parent stored isMapped
      obtain ⟨-, rfl⟩ := Prod.mk.inj isMapped
      split
      · exact .inl rfl
      · rename_i above there
        split
        · exact .inl rfl
        · rename_i allowed
          obtain ⟨⟨unmarked, -⟩, fresh⟩ :
              (above.undergoingDeletion = false ∧ _) ∧ hasKey store.heap address = false := by
            simpa using allowed
          split
          · exact .inl rfl
          · rename_i newId isNext
            refine .inr ⟨newId, parent, above, there, unmarked, ?_,
              not_isTaken_of_nextFree isNext, rfl⟩
            simp [Live, fresh]

theorem not_taken_iff :
    store.isTaken id = false ↔
      id ≠ invalidNode ∧ id ≠ rootId ∧ hasKey store.idNodeMap id = false := by
  simp [isTaken, and_assoc]

theorem Sound.addNode (sound : store.Sound) (validation : Validation) (type : NodeType)
    (parentNode : NodeId) (address : Address) :
    (store.addNode validation type parentNode address).2.Sound := by
  rcases addNode_cases sound validation type parentNode address with
    refused | ⟨newId, parent, above, there, unmarked, fresh, free, added⟩
  · rw [refused]
    exact sound
  · rw [added]
    obtain ⟨notInvalid, -, unused⟩ := (not_taken_iff newId).mp free
    have parentLive : Live store.heap parent := (live_iff _ _).mpr ⟨above, there⟩
    exact ⟨sound.indexed.addChild parentLive fresh type notInvalid unused,
      (sound.guarded.addChild there unmarked fresh type newId).push rfl⟩

theorem keepsLinks_desired : KeepsLinks fun node => { node with desiredValue := value } :=
  ⟨fun _ => rfl, fun _ => rfl, fun _ => rfl, fun _ marked => marked⟩

theorem keepsLinks_reported : KeepsLinks fun node => { node with reportedValue := value } :=
  ⟨fun _ => rfl, fun _ => rfl, fun _ => rfl, fun _ marked => marked⟩

theorem Sound.setNodeAttributeValue (sound : store.Sound) (validation : Validation) (id : NodeId)
    (valueState : ValueState) (value : List UInt8) :
    (store.setNodeAttributeValue validation id valueState value).Sound := by
  unfold Store.setNodeAttributeValue
  rw [sound.getNodeFromId]
  split
  · exact sound
  · split
    · rename_i isStore
      obtain ⟨-, rfl⟩ := Prod.mk.inj isStore
      exact sound
    · rename_i nodeToModify stored isMapped
      obtain ⟨-, rfl⟩ := Prod.mk.inj isMapped
      split
      · exact sound
      · split
        · exact sound
        · split
          · exact ⟨sound.indexed, sound.guarded.push rfl⟩
          · split
            · exact sound
            · cases valueState with
              | desired =>
                exact ⟨sound.indexed.modify (keepsLinks_desired value) _,
                  (sound.guarded.modify (keepsLinks_desired value) _).push rfl⟩
              | reported =>
                exact ⟨sound.indexed.modify (keepsLinks_reported value) _,
                  (sound.guarded.modify (keepsLinks_reported value) _).push rfl⟩
              | desiredOrReported => exact sound

/-- Every call and every callback leaves the store sound. -/
theorem Sound.step (sound : store.Sound) (validation : Validation) (action : Action) :
    (store.step validation action).Sound := by
  cases action with
  | addNode type parentNode address =>
    show (if store.acceptsCalls then _ else store).Sound
    split
    · exact sound.addNode validation type parentNode address
    · exact sound
  | deleteNode id =>
    show (if store.acceptsCalls then _ else store).Sound
    split
    · exact sound.deleteNode id
    · exact sound
  | setNodeAttributeValue id valueState value =>
    show (if store.acceptsCalls then _ else store).Sound
    split
    · exact sound.setNodeAttributeValue validation id valueState value
    · exact sound
  | deleteChildren => exact sound.deleteChildren
  | callbacksReturn => exact sound.callbacksReturn

theorem sound_initial (rootNode : Address) (lastAssignedId : NodeId) :
    (initial rootNode lastAssignedId).Sound := by
  have lookups : ∀ address,
      (initial rootNode lastAssignedId).heap.lookup address =
        if address = rootNode then some (.new none rootType rootId) else none := by
    intro address
    exact lookup_cons_map _ _ _
  have live : ∀ address,
      Live (initial rootNode lastAssignedId).heap address ↔ address = rootNode := by
    intro address
    rw [Live, hasKey, lookups]
    split <;> simp_all
  have noChildren : ∀ address, childrenOf (initial rootNode lastAssignedId).heap address = [] := by
    intro address
    rw [childrenOf, lookups]
    split <;> rfl
  have noParent : ∀ address, parentOf (initial rootNode lastAssignedId).heap address = none := by
    intro address
    rw [parentOf, lookups]
    split <;> rfl
  have ids : ∀ address, idOf (initial rootNode lastAssignedId).heap address =
      if address = rootNode then some rootId else none := by
    intro address
    rw [idOf, lookups]
    split <;> rfl
  refine ⟨⟨⟨(live _).mpr rfl, noParent _, ?_, ?_, ?_, ?_⟩, ?_, ?_⟩, ?_, ?_, ?_⟩
  · simp [noChildren, noParent]
  · simp [noChildren]
  · simp [noChildren]
  · intro address isLive
    rw [(live address).mp isLive]
    exact ⟨[], .root⟩
  · intro id address
    rw [ids]
    show List.lookup id [(rootId, rootNode)] = _ ↔ _
    rw [lookup_cons_map]
    by_cases isRoot : address = rootNode
    · by_cases isId : id = rootId <;> simp [isRoot, isId, eq_comm]
    · by_cases isId : id = rootId <;> simp [isRoot, Ne.symm isRoot, isId]
  · intro address
    rw [ids]
    split
    · decide
    · simp
  · simp [deletionsOf, initial]
  · simp [initial]
  · simp [markedBy, deletionsOf, initial]

/-- An object can be reached from the root. -/
def Reachable (store : Store) (address : Address) : Prop :=
  ∃ path, PathTo (childrenOf store.heap) store.rootNode address path

/-- The map holds exactly the nodes that can be reached from the root, each under
its own id, the ids are distinct, the links agree, and the nodes are a tree. -/
structure Consistent (store : Store) : Prop where
  mapped : ∀ id address, store.idNodeMap.lookup id = some address ->
    store.Reachable address ∧ idOf store.heap address = some id
  complete : ∀ address, store.Reachable address ->
    ∃ id, idOf store.heap address = some id ∧ store.idNodeMap.lookup id = some address
  distinct : ∀ first second, store.Reachable first -> store.Reachable second ->
    idOf store.heap first = idOf store.heap second -> first = second
  links : ∀ above address,
    address ∈ childrenOf store.heap above ↔ parentOf store.heap address = some above
  childrenNodup : ∀ address, (childrenOf store.heap address).Nodup
  tree : ∀ address, store.Reachable address ->
    ∃! path, PathTo (childrenOf store.heap) store.rootNode address path

theorem Sound.consistent (sound : store.Sound) : store.Consistent := by
  have live : ∀ address, store.Reachable address -> Live store.heap address :=
    fun address ⟨path, reached⟩ => sound.indexed.tree.live_of_pathTo reached
  have complete : ∀ address, store.Reachable address ->
      ∃ id, idOf store.heap address = some id ∧ store.idNodeMap.lookup id = some address := by
    intro address reachable
    obtain ⟨node, there⟩ := (live_iff _ _).mp (live address reachable)
    have itsId : idOf store.heap address = some node.id := by simp [idOf, there]
    exact ⟨node.id, itsId, (sound.indexed.mapped _ _).mpr itsId⟩
  refine ⟨?_, complete, ?_, sound.indexed.tree.links, sound.indexed.tree.nodup, ?_⟩
  · intro id address isMapped
    have itsId := (sound.indexed.mapped id address).mp isMapped
    obtain ⟨node, there, -⟩ := Option.map_eq_some_iff.mp itsId
    exact ⟨sound.indexed.tree.reached address ((live_iff _ _).mpr ⟨node, there⟩), itsId⟩
  · intro first second firstReachable secondReachable sameId
    obtain ⟨id, firstId, firstMapped⟩ := complete first firstReachable
    have secondMapped := (sound.indexed.mapped id second).mpr (sameId ▸ firstId)
    rw [firstMapped] at secondMapped
    exact Option.some.inj secondMapped
  · exact fun address reachable => sound.indexed.tree.existsUnique_pathTo (live address reachable)

/-- In every state of every run the map and the tree are consistent, and the next
id that `attribute_store_add_node` returns is a valid one that no live node
has. -/
theorem consistent_run (validation : Validation) (rootNode : Address) (lastAssignedId : NodeId)
    (actions : List Action) :
    (run (step validation) (initial rootNode lastAssignedId) actions).Consistent ∧
      ∀ type parentNode address newId,
        ((run (step validation) (initial rootNode lastAssignedId) actions).addNode validation
          type parentNode address).1 = some newId ->
        newId ≠ invalidNode ∧ ∀ other,
          idOf (run (step validation) (initial rootNode lastAssignedId) actions).heap other ≠
            some newId := by
  have sound : (run (step validation) (initial rootNode lastAssignedId) actions).Sound :=
    run_invariant Sound (fun _ action sound => sound.step validation action)
      (sound_initial rootNode lastAssignedId) actions
  refine ⟨sound.consistent, fun type parentNode address newId returned => ?_⟩
  rcases addNode_cases sound validation type parentNode address with
    refused | ⟨assigned, parent, above, -, -, -, free, added⟩
  · rw [refused] at returned
    cases returned
  · rw [added] at returned
    cases returned
    obtain ⟨notInvalid, -, unused⟩ := (not_taken_iff _).mp free
    refine ⟨notInvalid, fun other hasId => ?_⟩
    rw [← sound.indexed.mapped] at hasId
    simp [hasKey, hasId] at unused

/-- Validation is switched off. -/
def noValidation : Validation where
  isNodeAdditionValid _ _ := true
  isWriteOperationValid _ _ := true

/-- A node is deleted with its child.  The callback for the child tries to delete
the node again and adds another one below the root. -/
def deletesWithinDeletion : List Action :=
  [.addNode 2 1 200, .callbacksReturn, .addNode 3 2 300, .callbacksReturn, .deleteNode 2,
    .deleteChildren, .deleteChildren, .deleteNode 2, .addNode 4 1 400, .callbacksReturn,
    .callbacksReturn, .deleteChildren, .callbacksReturn]

/-- The root and the node of the callback are left, and the next id is free. -/
theorem consistent_deletesWithinDeletion :
    (run (step noValidation) (initial 100 0) deletesWithinDeletion).calls = [] ∧
      (run (step noValidation) (initial 100 0) deletesWithinDeletion).idNodeMap =
        [(4, 400), (1, 100)] ∧
      (run (step noValidation) (initial 100 0) deletesWithinDeletion).Consistent ∧
      (5 : NodeId) ≠ invalidNode := by
  have consistent := consistent_run noValidation 100 0 deletesWithinDeletion
  exact ⟨by decide, by decide, consistent.1, (consistent.2 2 4 200 5 (by decide)).1⟩

end Store

end AttributeStore
