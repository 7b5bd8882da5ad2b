import Zpc.AttributeStore.Consistency
import Zpc.AttributeStore.Persistence

/-!
# The rows of the live nodes

A node is live until its deletion is recorded, which is before the callbacks for its
deletion.  Its row is what the datastore would be given for it now.
-/

namespace AttributeStore

open Foundation

/-- The id of an object and the row it would be stored with. -/
def contentAt (heap : Heap) (address : Address) : Option (NodeId × Row) :=
  (heap.lookup address).map fun node => (node.id, rowOf heap node)

/-- The callbacks for the deletion of the object are being called. -/
def IsReported (calls : List Call) (address : Address) : Prop :=
  ∃ deletion, Call.reportsDeleted deletion ∈ calls ∧ deletion.nodeToDelete = address

/-- A live node and its row.  A node is live until its deletion is recorded. -/
def Store.HasRow (store : Store) (id : NodeId) (row : Row) : Prop :=
  ∃ address, contentAt store.heap address = some (id, row) ∧ ¬ IsReported store.calls address

/-- A live node has the id. -/
def Store.IsLive (store : Store) (id : NodeId) : Prop := ∃ row, store.HasRow id row

variable {heap : Heap} {node : StoreNode} {address root : Address} {id : NodeId} {row : Row}
  {change : StoreNode -> StoreNode} {map : List (NodeId × Address)}

theorem rowOf_congr {other : Heap}
    (ids : ∀ parent, node.parentNode = some parent -> idOf other parent = idOf heap parent) :
    rowOf other node = rowOf heap node := by
  unfold rowOf
  cases above : node.parentNode with
  | none => rfl
  | some parent =>
    have same := ids parent above
    unfold idOf at same
    simp only [same]

theorem contentAt_eq_some_iff :
    contentAt heap address = some (id, row) ↔
      ∃ node, heap.lookup address = some node ∧ node.id = id ∧ rowOf heap node = row := by
  simp [contentAt]

theorem idOf_of_contentAt (content : contentAt heap address = some (id, row)) :
    idOf heap address = some id := by
  obtain ⟨node, there, sameId, -⟩ := contentAt_eq_some_iff.mp content
  simp [idOf, there, sameId]

theorem idOf_eq_contentAt (heap : Heap) (address : Address) :
    idOf heap address = (contentAt heap address).map (·.1) := by
  simp [idOf, contentAt, Function.comp_def]

theorem contentAt_modify_of_same (keeps : KeepsLinks change)
    (type : ∀ node, (change node).type = node.type)
    (reportedValue : ∀ node, (change node).reportedValue = node.reportedValue)
    (desiredValue : ∀ node, (change node).desiredValue = node.desiredValue) (heap : Heap)
    (address : Address) : contentAt (modify heap address change) = contentAt heap := by
  funext other
  have ids : idOf (modify heap address change) = idOf heap := keeps.idOf heap address
  have rows : ∀ node, rowOf (modify heap address change) node = rowOf heap node :=
    fun node => rowOf_congr fun parent _ => by rw [ids]
  unfold contentAt
  simp only [rows]
  refine read_modify (fun node => (node.id, rowOf heap node)) (fun node => ?_) heap address other
  simp only [rowOf, keeps.id, keeps.parentNode, type, reportedValue, desiredValue]

theorem contentAt_modify_of_ne (keeps : KeepsLinks change) (heap : Heap) {other : Address}
    (differs : other ≠ address) :
    contentAt (modify heap address change) other = contentAt heap other := by
  have ids : idOf (modify heap address change) = idOf heap := keeps.idOf heap address
  have rows : ∀ node, rowOf (modify heap address change) node = rowOf heap node :=
    fun node => rowOf_congr fun parent _ => by rw [ids]
  unfold contentAt
  simp only [rows, lookup_modify, if_neg differs]

theorem idOf_modify (keeps : KeepsLinks change) (heap : Heap) (address other : Address) :
    idOf (modify heap address change) other = idOf heap other :=
  congrFun (keeps.idOf heap address) other

theorem contentAt_addChild {parent : Address} (indexed : Indexed heap root map)
    (parentLive : Live heap parent) (fresh : ¬ Live heap address) (type : NodeType) (newId : NodeId)
    (other : Address) :
    contentAt (addChild heap parent type newId address) other =
      if other = address then
        some (newId, ⟨type, (idOf heap parent).getD nullId, [], []⟩)
      else contentAt heap other := by
  have differs : parent ≠ address := by
    rintro rfl
    exact fresh parentLive
  have ids : ∀ above, above ≠ address ->
      idOf (addChild heap parent type newId address) above = idOf heap above := by
    intro above notNew
    rw [idOf, lookup_addChild differs, if_neg notNew]
    split_ifs with isParent
    · rw [isParent, Option.map_map]
      rfl
    · rfl
  by_cases isNew : other = address
  · rw [contentAt, lookup_addChild differs, if_pos isNew, if_pos isNew]
    simp only [Option.map_some, StoreNode.new, rowOf]
    have above := ids parent differs
    unfold idOf at above
    rw [above]
    rfl
  · rw [if_neg isNew]
    cases there : heap.lookup other with
    | none =>
      have notParent : other ≠ parent := by
        rintro rfl
        obtain ⟨node, parentThere⟩ := (live_iff heap other).mp parentLive
        rw [there] at parentThere
        cases parentThere
      rw [contentAt, contentAt, lookup_addChild differs, if_neg isNew, if_neg notParent, there]
      rfl
    | some node =>
      -- No object has the new one above it.
      have rows : ∀ changed : StoreNode, changed.parentNode = node.parentNode ->
          rowOf (addChild heap parent type newId address) changed = rowOf heap changed := by
        intro changed sameParent
        apply rowOf_congr
        intro above isAbove
        apply ids
        rintro rfl
        have isParent : parentOf heap other = some above := by
          simp [parentOf, there, ← sameParent, isAbove]
        have isChild := (indexed.tree.links above other).mpr isParent
        exact fresh (indexed.tree.liveEnds above other isChild).1
      rw [contentAt, contentAt, lookup_addChild differs]
      split_ifs with isParent
      · subst isParent
        rw [there]
        exact congrArg (fun row => some (node.id, row))
          (rows { node with childNodes := node.childNodes ++ [address] } rfl)
      · rw [there]
        simp only [Option.map_some]
        rw [rows _ rfl]

theorem contentAt_destroy (indexed : Indexed heap root map)
    (there : heap.lookup address = some node) (leaf : node.childNodes = []) (other : Address) :
    contentAt (destroy heap address) other =
      if other = address then none else contentAt heap other := by
  have ids : ∀ above, above ≠ address -> idOf (destroy heap address) above = idOf heap above := by
    intro above notFreed
    rw [idOf, lookup_destroy there leaf, if_neg notFreed]
    split_ifs
    · rw [Option.map_map]
      rfl
    · rfl
  by_cases isFreed : other = address
  · rw [contentAt, lookup_destroy there leaf, if_pos isFreed, if_pos isFreed]
    rfl
  · rw [if_neg isFreed, contentAt, contentAt, lookup_destroy there leaf]
    cases otherThere : heap.lookup other with
    | none => split_ifs <;> rfl
    | some otherNode =>
      have rows : ∀ changed : StoreNode, changed.parentNode = otherNode.parentNode ->
          rowOf (destroy heap address) changed = rowOf heap changed := by
        intro changed sameParent
        apply rowOf_congr
        intro above isAbove
        apply ids
        rintro rfl
        have isParent : parentOf heap other = some above := by
          simp [parentOf, otherThere, ← sameParent, isAbove]
        have isChild := (indexed.tree.links above other).mpr isParent
        simp [childrenOf, there, leaf] at isChild
      split_ifs
      · exact congrArg (fun row => some (otherNode.id, row))
          (rows
            { otherNode with
              childNodes := otherNode.childNodes.filter fun child => child ≠ address } rfl)
      · simp only [Option.map_some]
        rw [rows _ rfl]

theorem isReported_unwind (status : Status) (calls : List Call) (address : Address) :
    IsReported (Store.unwind status calls) address ↔ IsReported calls address := by
  fun_induction Store.unwind status calls with
  | case1 deletion rest isOk => simp [IsReported]
  | case2 deletion rest notOk ih =>
    rw [ih]
    simp [IsReported]
  | case3 calls notAwaiting => rfl

theorem isReported_cons_of_ne {call : Call} (other : ∀ deletion, call ≠ .reportsDeleted deletion)
    (calls : List Call) (address : Address) :
    IsReported (call :: calls) address ↔ IsReported calls address := by
  constructor
  · rintro ⟨deletion, mem, same⟩
    rcases List.mem_cons.mp mem with isCall | before
    · exact absurd isCall.symm (other deletion)
    · exact ⟨deletion, before, same⟩
  · rintro ⟨deletion, mem, same⟩
    exact ⟨deletion, List.mem_cons_of_mem call mem, same⟩

namespace Store

variable {store next : Store}

theorem hasRow_congr (content : contentAt next.heap = contentAt store.heap)
    (reported : ∀ address, IsReported next.calls address ↔ IsReported store.calls address)
    (id : NodeId) (row : Row) : next.HasRow id row ↔ store.HasRow id row := by
  simp only [HasRow, content, reported]

section

variable (sound : store.Sound)
include sound

theorem Sound.address_unique {first second : Address} (firstHas : idOf store.heap first = some id)
    (secondHas : idOf store.heap second = some id) : first = second := by
  rw [← sound.indexed.mapped] at firstHas secondHas
  rw [firstHas] at secondHas
  exact Option.some.inj secondHas

theorem Sound.hasRow_unique {first second : Row} (firstRow : store.HasRow id first)
    (secondRow : store.HasRow id second) : first = second := by
  obtain ⟨firstAddress, firstContent, -⟩ := firstRow
  obtain ⟨secondAddress, secondContent, -⟩ := secondRow
  have same := sound.address_unique (idOf_of_contentAt firstContent)
    (idOf_of_contentAt secondContent)
  rw [same, secondContent] at firstContent
  cases firstContent
  rfl

theorem Sound.contentAt_deleteNode (deleted : NodeId) :
    (store.deleteNode deleted).rootNode = store.rootNode ∧
      contentAt (store.deleteNode deleted).heap = contentAt store.heap ∧
      ∀ address, IsReported (store.deleteNode deleted).calls address ↔
        IsReported store.calls address := by
  have returned : ∀ status, (store.returns status).rootNode = store.rootNode ∧
      contentAt (store.returns status).heap = contentAt store.heap ∧
      ∀ address, IsReported (store.returns status).calls address ↔ IsReported store.calls address :=
    fun status => ⟨rfl, rfl, isReported_unwind status store.calls⟩
  rcases deleteNode_cases sound deleted with
    ⟨-, same⟩ | ⟨address, node, -, -, ⟨-, same⟩ | ⟨-, started⟩⟩
  · rw [same]
    exact returned .ok
  · rw [same]
    exact returned .inProgress
  · rw [started]
    refine ⟨rfl, ?_, isReported_cons_of_ne (by simp) _⟩
    split_ifs
    · rfl
    · exact contentAt_modify_of_same keepsLinks_mark (fun _ => rfl) (fun _ => rfl)
        (fun _ => rfl) _ _

theorem Sound.hasRow_deleteNode (deleted : NodeId) (id : NodeId) (row : Row) :
    (store.deleteNode deleted).HasRow id row ↔ store.HasRow id row := by
  obtain ⟨-, content, reported⟩ := sound.contentAt_deleteNode deleted
  exact hasRow_congr content reported id row

theorem Sound.hasRow_callbacksReturn (id : NodeId) (row : Row) :
    store.callbacksReturn.HasRow id row ↔ store.HasRow id row := by
  unfold Store.callbacksReturn
  split
  · rename_i deletion rest isFirst
    obtain ⟨node, there, -, leaf, -⟩ := sound.of_reportsDeleted (isFirst ▸ List.mem_cons_self)
    have content := contentAt_destroy sound.indexed there leaf
    simp only [HasRow, Store.returns, isReported_unwind, content, isFirst]
    constructor
    · rintro ⟨address, hasContent, notReported⟩
      split_ifs at hasContent with isFreed
      refine ⟨address, hasContent, ?_⟩
      rintro ⟨other, mem, same⟩
      rcases List.mem_cons.mp mem with isSame | before
      · cases isSame
        exact isFreed same.symm
      · exact notReported ⟨other, before, same⟩
    · rintro ⟨address, hasContent, notReported⟩
      have differs : address ≠ deletion.nodeToDelete := by
        rintro rfl
        exact notReported ⟨deletion, List.mem_cons_self, rfl⟩
      refine ⟨address, by rw [if_neg differs]; exact hasContent, ?_⟩
      rintro ⟨other, mem, same⟩
      exact notReported ⟨other, List.mem_cons_of_mem _ mem, same⟩
  · rename_i isFirst
    apply hasRow_congr
    · rfl
    · intro address
      rw [isFirst]
      exact (isReported_cons_of_ne (by simp) _ address).symm
  · rename_i isFirst
    apply hasRow_congr
    · rfl
    · intro address
      rw [isFirst]
      exact (isReported_cons_of_ne (by simp) _ address).symm
  · rfl

theorem Sound.idOf_callbacksReturn :
    idOf store.callbacksReturn.heap store.callbacksReturn.rootNode =
      idOf store.heap store.rootNode := by
  unfold Store.callbacksReturn
  split
  · rename_i deletion rest isFirst
    obtain ⟨node, there, -, leaf, elsewhere⟩ :=
      sound.of_reportsDeleted (isFirst ▸ List.mem_cons_self)
    show idOf (destroy store.heap deletion.nodeToDelete) store.rootNode = _
    rw [idOf_eq_contentAt, contentAt_destroy sound.indexed there leaf, if_neg elsewhere.symm,
      ← idOf_eq_contentAt]
  all_goals rfl

theorem Sound.hasRow_reportsDeleted {deletion : Deletion} {rest : List Call}
    (isFirst : store.calls = .deletesChildren deletion :: rest) (id : NodeId) (row : Row) :
    { store with calls := .reportsDeleted deletion :: rest }.HasRow id row ↔
      store.HasRow id row ∧ id ≠ deletion.nodeId := by
  have guarded : Guarded store.heap store.rootNode (.deletesChildren deletion :: rest) :=
    isFirst ▸ sound.guarded
  obtain ⟨node, there, sameId, -⟩ := guarded.holds deletion (mem_deletionsOf List.mem_cons_self rfl)
  have itsId : idOf store.heap deletion.nodeToDelete = some deletion.nodeId := by
    simp [idOf, there, sameId]
  simp only [HasRow, isFirst]
  constructor
  · rintro ⟨address, content, notReported⟩
    refine ⟨⟨address, content, ?_⟩, ?_⟩
    · rintro ⟨other, mem, same⟩
      rcases List.mem_cons.mp mem with isSame | before
      · cases isSame
      · exact notReported ⟨other, List.mem_cons_of_mem _ before, same⟩
    · rintro rfl
      have same := sound.address_unique itsId (idOf_of_contentAt content)
      exact notReported ⟨deletion, List.mem_cons_self, same⟩
  · rintro ⟨⟨address, content, notReported⟩, differs⟩
    refine ⟨address, content, ?_⟩
    rintro ⟨other, mem, same⟩
    rcases List.mem_cons.mp mem with isSame | before
    · cases isSame
      rw [same, idOf_of_contentAt content] at itsId
      exact differs (Option.some.inj itsId)
    · exact notReported ⟨other, List.mem_cons_of_mem _ before, same⟩

end

theorem isLive_iff (store : Store) (id : NodeId) :
    store.IsLive id ↔
      ∃ address, idOf store.heap address = some id ∧ ¬ IsReported store.calls address := by
  constructor
  · rintro ⟨row, address, content, notReported⟩
    exact ⟨address, idOf_of_contentAt content, notReported⟩
  · rintro ⟨address, itsId, notReported⟩
    obtain ⟨node, there, sameId⟩ := Option.map_eq_some_iff.mp itsId
    refine ⟨rowOf store.heap node, address, ?_, notReported⟩
    exact contentAt_eq_some_iff.mpr ⟨node, there, sameId, rfl⟩

variable {change : StoreNode -> StoreNode} {address : Address}

theorem isLive_modify (keeps : KeepsLinks change)
    (heap : next.heap = modify store.heap address change)
    (reported : ∀ other, IsReported next.calls other ↔ IsReported store.calls other) (id : NodeId) :
    next.IsLive id ↔ store.IsLive id := by
  simp only [isLive_iff, heap, idOf_modify keeps, reported]

theorem hasRow_modify (keeps : KeepsLinks change) (itsId : idOf store.heap address = some id)
    (heap : next.heap = modify store.heap address change)
    (reported : ∀ other, IsReported next.calls other ↔ IsReported store.calls other)
    {other : NodeId} (differs : other ≠ id) (row : Row) :
    next.HasRow other row ↔ store.HasRow other row := by
  have elsewhere : ∀ place, idOf store.heap place = some other -> place ≠ address := by
    rintro place hasId rfl
    rw [itsId] at hasId
    exact differs (Option.some.inj hasId).symm
  simp only [HasRow, heap, reported]
  constructor
  · rintro ⟨place, content, notReported⟩
    have hasId := idOf_of_contentAt content
    rw [idOf_modify keeps] at hasId
    rw [contentAt_modify_of_ne keeps _ (elsewhere place hasId)] at content
    exact ⟨place, content, notReported⟩
  · rintro ⟨place, content, notReported⟩
    refine ⟨place, ?_, notReported⟩
    rw [contentAt_modify_of_ne keeps _ (elsewhere place (idOf_of_contentAt content))]
    exact content

theorem Sound.hasRow_addChild (sound : store.Sound) {parent : Address}
    (parentLive : Live store.heap parent) (fresh : ¬ Live store.heap address) {type : NodeType}
    {newId : NodeId} (heap : next.heap = addChild store.heap parent type newId address)
    (reported : ∀ other, IsReported next.calls other ↔ IsReported store.calls other) :
    next.IsLive newId ∧ ∀ id row, id ≠ newId -> (next.HasRow id row ↔ store.HasRow id row) := by
  have content := contentAt_addChild sound.indexed parentLive fresh type newId
  -- A reported node is allocated, so the new one is none.
  have notReported : ¬ IsReported store.calls address := by
    rintro ⟨deletion, mem, rfl⟩
    obtain ⟨node, there, -⟩ := sound.guarded.holds deletion (mem_deletionsOf mem rfl)
    exact fresh ((live_iff _ _).mpr ⟨node, there⟩)
  constructor
  · refine (isLive_iff _ _).mpr ⟨address, ?_, (reported address).not.mpr notReported⟩
    apply idOf_of_contentAt
    rw [heap, content, if_pos rfl]
  · intro id row differs
    simp only [HasRow, heap, content, reported]
    constructor
    · rintro ⟨place, hasContent, placeNotReported⟩
      split_ifs at hasContent with isNew
      · cases hasContent
        exact absurd rfl differs
      · exact ⟨place, hasContent, placeNotReported⟩
    · rintro ⟨place, hasContent, placeNotReported⟩
      have elsewhere : place ≠ address := by
        rintro rfl
        obtain ⟨node, there, -⟩ := contentAt_eq_some_iff.mp hasContent
        exact fresh ((live_iff _ _).mpr ⟨node, there⟩)
      exact ⟨place, by rw [if_neg elsewhere]; exact hasContent, placeNotReported⟩

theorem Sound.not_isReported_rootNode (sound : store.Sound) :
    ¬ IsReported store.calls store.rootNode := by
  rintro ⟨deletion, mem, isRoot⟩
  obtain ⟨-, -, -, -, notRoot⟩ := sound.of_reportsDeleted mem
  exact notRoot isRoot

end Store

end AttributeStore
