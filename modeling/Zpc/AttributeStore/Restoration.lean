import Mathlib.Data.List.Dedup
import Zpc.AttributeStore.Loading

/-!
# The tree that loading restores

The first pass over the rows makes the objects and the second one links them, in
whatever order the rows come.  Loading what was saved restores the tree, except that
the deletion of the old tree clears the row of the root, and takes the other rows
away when the auto-save cooldown interval is zero.
-/

namespace AttributeStore

open Foundation

namespace Store

variable {store : Store}

/-! ## The first pass -/

/-- The rows have become objects without links. -/
structure Loaded
    (place : Address)
    (rootType : NodeType)
    (done : List (NodeId × Row))
    (store : Store) : Prop where
  rootNode : store.rootNode = place
  calls : store.calls = []
  mapped : ∀ id address,
    store.idNodeMap.lookup id = some address ↔ idOf store.heap address = some id
  keys : ∀ id, store.idNodeMap.lookup id ≠ none ↔ id = rootId ∨ id ∈ done.map (·.1)
  root : store.idNodeMap.lookup rootId = some place
  unlinked : ∀ address node, store.heap.lookup address = some node ->
    node.parentNode = none ∧ node.childNodes = []
  types : ∀ address node, store.heap.lookup address = some node ->
    node.id = rootId -> node.type = rootType
  objects : ∀ address node row, store.heap.lookup address = some node ->
    (node.id, row) ∈ done ->
      node.reportedValue = row.reportedValue ∧ node.desiredValue = row.desiredValue ∧
        (node.id ≠ rootId -> node.type = row.type)

variable {place : Address} {rootType : NodeType} {done : List (NodeId × Row)}

variable (platform : Platform) {row : Row} {rest fetched : List (NodeId × Row)}
  {entry : NodeId × Row}

/-- The row of the root gives the root its values. -/
theorem Loaded.loadRoot (loaded : Loaded place rootType done store) (platform : Platform)
    (isNew : rootId ∉ done.map (·.1)) :
    Loaded place rootType (done ++ [(rootId, row)]) (store.loadNode platform (rootId, row)) := by
  have keeps : KeepsLinks fun node : StoreNode =>
      { node with reportedValue := row.reportedValue, desiredValue := row.desiredValue } :=
    ⟨fun _ => rfl, fun _ => rfl, fun _ => rfl, fun _ marked => marked⟩
  have lookups : ∀ id, (assign store.idNodeMap rootId store.rootNode).lookup id =
      store.idNodeMap.lookup id := by
    intro id
    rw [lookup_assign, loaded.rootNode]
    split_ifs with isRoot
    · rw [isRoot, loaded.root]
    · rfl
  have before : ∀ address node,
      (modify store.heap store.rootNode fun node : StoreNode =>
        { node with reportedValue := row.reportedValue, desiredValue := row.desiredValue }).lookup
          address = some node ->
      ∃ old, store.heap.lookup address = some old ∧ node.id = old.id ∧ node.type = old.type ∧
        node.parentNode = old.parentNode ∧ node.childNodes = old.childNodes ∧
        (node.id = rootId -> node.reportedValue = row.reportedValue ∧
          node.desiredValue = row.desiredValue) ∧
        (node.id ≠ rootId -> node = old) := by
    intro address node there
    have rootThere := (loaded.mapped _ _).mp loaded.root
    rw [lookup_modify, loaded.rootNode] at there
    split_ifs at there with isRoot
    · obtain ⟨old, oldThere, rfl⟩ := Option.map_eq_some_iff.mp there
      have isRootId : old.id = rootId := by simpa [idOf, oldThere] using rootThere
      exact ⟨old, isRoot ▸ oldThere, rfl, rfl, rfl, rfl, fun _ => ⟨rfl, rfl⟩,
        fun notRoot => absurd isRootId notRoot⟩
    · refine ⟨node, there, rfl, rfl, rfl, rfl, fun isRootId => ?_, fun _ => rfl⟩
      have here := (loaded.mapped rootId address).mpr (by simp [idOf, there, isRootId])
      rw [loaded.root] at here
      exact absurd (Option.some.inj here).symm isRoot
  rw [loadNode, if_pos rfl]
  refine ⟨loaded.rootNode, loaded.calls, ?_, ?_, ?_, ?_, ?_, ?_⟩
  · intro id address
    rw [lookups, idOf_modify keeps]
    exact loaded.mapped id address
  · intro id
    rw [lookups, loaded.keys]
    simp only [List.map_append, List.map_cons, List.map_nil, List.mem_append, List.mem_singleton]
    tauto
  · dsimp only
    rw [lookups]
    exact loaded.root
  · intro address node there
    obtain ⟨old, oldThere, -, -, sameParent, sameChildren, -⟩ := before address node there
    rw [sameParent, sameChildren]
    exact loaded.unlinked address old oldThere
  · intro address node there isRoot
    obtain ⟨old, oldThere, sameId, sameType, -⟩ := before address node there
    rw [sameType]
    exact loaded.types address old oldThere (sameId ▸ isRoot)
  · intro address node other there mem
    obtain ⟨old, oldThere, -, -, -, -, atRoot, elsewhere⟩ := before address node there
    by_cases isRoot : node.id = rootId
    · rw [isRoot] at mem
      rcases List.mem_append.mp mem with inDone | isLast
      · exact absurd (List.mem_map_of_mem inDone) isNew
      · cases List.mem_singleton.mp isLast
        exact ⟨(atRoot isRoot).1, (atRoot isRoot).2, fun notRoot => absurd isRoot notRoot⟩
    · obtain rfl := elsewhere isRoot
      rcases List.mem_append.mp mem with inDone | isLast
      · exact loaded.objects address node other oldThere inDone
      · exact absurd (congrArg Prod.fst (List.mem_singleton.mp isLast)) isRoot

theorem Loaded.loadOther (loaded : Loaded place rootType done store) (platform : Platform)
    {id : NodeId} (notRoot : id ≠ rootId) (isNew : id ∉ done.map (·.1)) :
    Loaded place rootType (done ++ [(id, row)]) (store.loadNode platform (id, row)) := by
  have fresh : store.heap.lookup (platform.allocate store.heap) = none := by
    simpa [hasKey] using platform.allocate_fresh store.heap
  have unmapped : store.idNodeMap.lookup id = none := by
    by_contra isMapped
    exact ((loaded.keys id).mp isMapped).elim notRoot isNew
  rw [loadNode, if_neg notRoot]
  generalize platform.allocate store.heap = address at fresh ⊢
  refine ⟨loaded.rootNode, loaded.calls, ?_, ?_, ?_, ?_, ?_, ?_⟩
  · intro otherId other
    have before := loaded.mapped otherId other
    simp only [idOf, lookup_assign] at before ⊢
    by_cases isId : otherId = id
    · by_cases isAddress : other = address
      · simp [isId, isAddress, StoreNode.new]
      · rw [isId, unmapped] at before
        simpa [isId, isAddress, Ne.symm isAddress] using before
    · by_cases isAddress : other = address
      · rw [isAddress, fresh] at before
        simpa [isId, isAddress, StoreNode.new, Ne.symm isId] using before
      · simpa [isId, isAddress] using before
  · intro otherId
    simp only [lookup_assign, List.map_append, List.map_cons, List.map_nil, List.mem_append,
      List.mem_singleton]
    split_ifs with isId
    · simp [isId]
    · rw [loaded.keys]
      simp [isId]
  · simp only [lookup_assign]
    rw [if_neg (Ne.symm notRoot)]
    exact loaded.root
  · intro other node there
    simp only [lookup_assign] at there
    split_ifs at there with isAddress
    · cases there
      exact ⟨rfl, rfl⟩
    · exact loaded.unlinked other node there
  · intro other node there isRoot
    simp only [lookup_assign] at there
    split_ifs at there with isAddress
    · cases there
      exact absurd isRoot notRoot
    · exact loaded.types other node there isRoot
  · intro other node otherRow there mem
    simp only [lookup_assign] at there
    split_ifs at there with isAddress
    · cases there
      rcases List.mem_append.mp mem with inDone | isLast
      · exact absurd (List.mem_map_of_mem inDone) isNew
      · cases List.mem_singleton.mp isLast
        exact ⟨rfl, rfl, fun _ => rfl⟩
    · rcases List.mem_append.mp mem with inDone | isLast
      · exact loaded.objects other node otherRow there inDone
      · have sameId : node.id = id := congrArg Prod.fst (List.mem_singleton.mp isLast)
        have isMapped := (loaded.mapped id other).mpr (by simp [idOf, there, sameId])
        rw [unmapped] at isMapped
        cases isMapped

theorem Loaded.foldl (loaded : Loaded place rootType done store)
    (nodup : ((done ++ rest).map (·.1)).Nodup) :
    Loaded place rootType (done ++ rest) (rest.foldl (loadNode platform) store) := by
  induction rest generalizing done store with
  | nil => simpa using loaded
  | cons entry rest ih =>
    have isNew : entry.1 ∉ done.map (·.1) := by
      intro inDone
      rw [List.map_append] at nodup
      exact List.disjoint_of_nodup_append nodup inDone List.mem_cons_self
    have next : Loaded place rootType (done ++ [entry]) (store.loadNode platform entry) := by
      obtain ⟨id, row⟩ := entry
      by_cases isRoot : id = rootId
      · subst isRoot
        exact loaded.loadRoot platform isNew
      · exact loaded.loadOther platform isRoot isNew
    have appended : done ++ entry :: rest = (done ++ [entry]) ++ rest := by simp
    rw [appended] at nodup ⊢
    exact ih next nodup

/-! ## The second pass -/

variable (map : List (NodeId × Address))

/-- The parent of a node, by the rows. -/
def parentIn (rows : List (NodeId × Row)) (id : NodeId) : Option Address :=
  (rows.lookup id).bind fun row => map.lookup row.parentId

/-- The children of an object, by the rows. -/
def childrenIn (rows : List (NodeId × Row)) (address : Address) : List Address :=
  rows.filterMap fun entry =>
    if map.lookup entry.2.parentId = some address then map.lookup entry.1 else none

theorem parentIn_append (isNew : entry.1 ∉ done.map (·.1)) (id : NodeId) :
    parentIn map (done ++ [entry]) id =
      if id = entry.1 then map.lookup entry.2.parentId else parentIn map done id := by
  unfold parentIn
  rw [List.lookup_append, lookup_cons_map, lookup_nil_map]
  split_ifs with isEntry
  · rw [isEntry, lookup_eq_none_of_notMem isNew]
    rfl
  · rw [Option.or_none]

theorem childrenIn_append (done : List (NodeId × Row)) (entry : NodeId × Row) (address : Address) :
    childrenIn map (done ++ [entry]) address =
      childrenIn map done address ++
        if map.lookup entry.2.parentId = some address then (map.lookup entry.1).toList else [] := by
  unfold childrenIn
  rw [List.filterMap_append, List.filterMap_cons]
  split_ifs with isParent
  · cases map.lookup entry.1 <;> rfl
  · rfl

/-- The objects of the first pass are linked as the rows say. -/
structure Linked
    (loaded : Store)
    (done : List (NodeId × Row))
    (store : Store) : Prop where
  rootNode : store.rootNode = loaded.rootNode
  calls : store.calls = loaded.calls
  idNodeMap : store.idNodeMap = loaded.idNodeMap
  lookup : ∀ address, store.heap.lookup address =
    (loaded.heap.lookup address).map fun node =>
      { node with
        parentNode := parentIn loaded.idNodeMap done node.id
        childNodes := childrenIn loaded.idNodeMap done address }

theorem Linked.idOf_eq {loaded : Store} (linked : Linked loaded done store) (address : Address) :
    idOf store.heap address = idOf loaded.heap address := by
  rw [idOf, linked.lookup, Option.map_map]
  rfl

theorem lookup_modify_of_absent {heap : Heap} {address : Address}
    (absent : heap.lookup address = none) (other : Address) (change : StoreNode -> StoreNode) :
    (modify heap other change).lookup address = none := by
  rw [lookup_modify]
  split_ifs with same
  · rw [← same, absent]
    rfl
  · exact absent

theorem Linked.attachLink {loaded : Store} (created : Loaded place rootType fetched loaded)
    (valid : loaded.idNodeMap.lookup invalidNode = none) (linked : Linked loaded done store)
    (isFetched : entry ∈ fetched) (isNew : entry.1 ∉ done.map (·.1)) :
    Linked loaded (done ++ [entry]) (store.attachLink entry) := by
  have byId : ∀ id, store.getNodeFromId id = (loaded.idNodeMap.lookup id, store) := by
    intro id
    rw [← linked.idNodeMap]
    refine getNodeFromId_of_mapped (fun id address => ?_) (linked.idNodeMap ▸ valid) id
    rw [linked.idNodeMap, linked.idOf_eq]
    exact created.mapped id address
  obtain ⟨child, isChild⟩ : ∃ child, loaded.idNodeMap.lookup entry.1 = some child :=
    Option.ne_none_iff_exists'.mp
      ((created.keys entry.1).mpr (.inr (List.mem_map_of_mem isFetched)))
  unfold Store.attachLink
  rw [byId]
  dsimp only
  rw [byId, isChild]
  cases isParent : loaded.idNodeMap.lookup entry.2.parentId with
  | none =>
    refine ⟨linked.rootNode, linked.calls, linked.idNodeMap, fun address => ?_⟩
    rw [linked.lookup]
    congr 1
    funext node
    have sameParent : parentIn loaded.idNodeMap (done ++ [entry]) node.id =
        parentIn loaded.idNodeMap done node.id := by
      rw [parentIn_append _ isNew, isParent]
      split_ifs with isEntry
      · rw [isEntry, parentIn, lookup_eq_none_of_notMem isNew]
        rfl
      · rfl
    rw [sameParent, childrenIn_append, isParent, if_neg (by simp), List.append_nil]
  | some parent =>
    refine ⟨linked.rootNode, linked.calls, linked.idNodeMap, fun address => ?_⟩
    cases there : loaded.heap.lookup address with
    | none =>
      have absent : store.heap.lookup address = none := by rw [linked.lookup, there]; rfl
      rw [lookup_modify_of_absent (lookup_modify_of_absent absent _ _)]
      rfl
    | some node =>
      have atChild : address = child ↔ node.id = entry.1 := by
        have here := created.mapped entry.1 address
        simp only [isChild, idOf, there, Option.map_some, Option.some.injEq] at here
        rw [← here]
        exact eq_comm
      have before := linked.lookup address
      simp only [there, Option.map_some] at before
      simp only [Option.map_some, parentIn_append _ isNew, childrenIn_append, isParent, isChild,
        Option.some.injEq, Option.toList_some, ← atChild]
      by_cases isParentNode : parent = address
      · by_cases isChildNode : address = child
        · subst isParentNode isChildNode
          simp [lookup_modify, before]
        · subst isParentNode
          simp [lookup_modify, before, isChildNode]
      · by_cases isChildNode : address = child
        · subst isChildNode
          simp [lookup_modify, before, isParentNode, Ne.symm isParentNode]
        · simp [lookup_modify, before, isParentNode, Ne.symm isParentNode, isChildNode]

theorem Linked.foldl {loaded : Store} (created : Loaded place rootType fetched loaded)
    (valid : loaded.idNodeMap.lookup invalidNode = none) (linked : Linked loaded done store)
    (among : rest ⊆ fetched) (nodup : ((done ++ rest).map (·.1)).Nodup) :
    Linked loaded (done ++ rest) (rest.foldl Store.attachLink store) := by
  induction rest generalizing done store with
  | nil => simpa using linked
  | cons entry rest ih =>
    have isNew : entry.1 ∉ done.map (·.1) := by
      intro inDone
      rw [List.map_append] at nodup
      exact List.disjoint_of_nodup_append nodup inDone List.mem_cons_self
    have next := linked.attachLink created valid (among List.mem_cons_self) isNew
    have appended : done ++ entry :: rest = (done ++ [entry]) ++ rest := by simp
    rw [appended] at nodup ⊢
    exact ih next (fun other inRest => among (List.mem_cons_of_mem _ inRest))
      nodup

theorem Loaded.linked (created : Loaded place rootType done store) : Linked store [] store := by
  refine ⟨rfl, rfl, rfl, fun address => ?_⟩
  cases there : store.heap.lookup address with
  | none => rfl
  | some node =>
    obtain ⟨noParent, noChildren⟩ := created.unlinked address node there
    obtain ⟨type, id, desiredValue, reportedValue, parentNode, childNodes, marked⟩ := node
    subst noParent noChildren
    rfl

/-! ## The restored tree -/

/-- What becomes of a row.  The root keeps its own type, and a parent without a row is
none. -/
def restoredRow (rootType : NodeType) (map : List (NodeId × Address))
    (entry : NodeId × Row) : Row where
  type := if entry.1 = rootId then rootType else entry.2.type
  parentId := if map.lookup entry.2.parentId = none then nullId else entry.2.parentId
  reportedValue := entry.2.reportedValue
  desiredValue := entry.2.desiredValue

section Restored

variable {loaded : Store} {fetched : List (NodeId × Row)}

section

variable (created : Loaded place rootType fetched loaded)
include created

section

variable (linked : Linked loaded fetched store)

include linked

theorem Linked.contentAt_eq (nodup : (fetched.map (·.1)).Nodup) (isFetched : entry ∈ fetched)
    {address : Address} (isMapped : loaded.idNodeMap.lookup entry.1 = some address) :
    contentAt store.heap address = some (entry.1, restoredRow rootType loaded.idNodeMap entry) := by
  obtain ⟨id, row⟩ := entry
  obtain ⟨node, there, rfl⟩ := Option.map_eq_some_iff.mp ((created.mapped _ _).mp isMapped)
  obtain ⟨reported, desired, type⟩ := created.objects address node row there isFetched
  have lookedUp := lookup_eq_some_of_mem nodup isFetched
  have now := linked.lookup address
  rw [there] at now
  refine contentAt_eq_some_iff.mpr ⟨_, now, rfl, ?_⟩
  simp only [rowOf, restoredRow, parentIn, lookedUp, Option.bind_some, reported, desired]
  congr 1
  · split_ifs with isRoot
    · exact created.types address node there isRoot
    · exact type isRoot
  · cases isParent : loaded.idNodeMap.lookup row.parentId with
    | none => rfl
    | some parent =>
      have parentId : idOf store.heap parent = some row.parentId := by
        rw [linked.idOf_eq]
        exact (created.mapped _ _).mp isParent
      rw [idOf] at parentId
      simp [parentId]

theorem Linked.exists_contentAt_iff (nodup : (fetched.map (·.1)).Nodup)
    (hasRoot : rootId ∈ fetched.map (·.1)) (id : NodeId) (row : Row) :
    (∃ address, contentAt store.heap address = some (id, row)) ↔
      ∃ stored, (id, stored) ∈ fetched ∧
        row = restoredRow rootType loaded.idNodeMap (id, stored) := by
  have mappedOf : ∀ {id : NodeId}, id ∈ fetched.map (·.1) ->
      ∃ address, loaded.idNodeMap.lookup id = some address :=
    fun isKey => Option.ne_none_iff_exists'.mp ((created.keys _).mpr (.inr isKey))
  constructor
  · rintro ⟨address, content⟩
    have itsId := idOf_of_contentAt content
    rw [linked.idOf_eq] at itsId
    have isMapped := (created.mapped _ _).mpr itsId
    have isKey : id ∈ fetched.map (·.1) := by
      rcases (created.keys id).mp (by rw [isMapped]; simp) with rfl | isKey
      · exact hasRoot
      · exact isKey
    obtain ⟨⟨entryId, stored⟩, isFetched, rfl⟩ := List.mem_map.mp isKey
    rw [linked.contentAt_eq created nodup isFetched isMapped] at content
    cases content
    exact ⟨stored, isFetched, rfl⟩
  · rintro ⟨stored, isFetched, rfl⟩
    obtain ⟨address, isMapped⟩ := mappedOf (List.mem_map_of_mem isFetched)
    exact ⟨address, linked.contentAt_eq created nodup isFetched isMapped⟩

theorem Linked.mem_childrenOf_iff (above address : Address) :
    address ∈ childrenOf store.heap above ↔
      ∃ entry ∈ fetched, loaded.idNodeMap.lookup entry.2.parentId = some above ∧
        loaded.idNodeMap.lookup entry.1 = some address := by
  have children : ∀ {node : StoreNode}, loaded.heap.lookup above = some node ->
      childrenOf store.heap above = childrenIn loaded.idNodeMap fetched above := by
    intro node there
    rw [childrenOf, linked.lookup, there]
    rfl
  constructor
  · intro isChild
    cases there : loaded.heap.lookup above with
    | none => simp [childrenOf, linked.lookup, there] at isChild
    | some node =>
      rw [children there] at isChild
      obtain ⟨entry, isFetched, isLink⟩ := List.mem_filterMap.mp isChild
      split_ifs at isLink with isParent
      exact ⟨entry, isFetched, isParent, isLink⟩
  · rintro ⟨entry, isFetched, isParent, isEntry⟩
    obtain ⟨node, there, -⟩ := Option.map_eq_some_iff.mp ((created.mapped _ _).mp isParent)
    rw [children there]
    exact List.mem_filterMap.mpr ⟨entry, isFetched, by rw [if_pos isParent]; exact isEntry⟩

theorem Linked.parentOf_eq_some_iff (nodup : (fetched.map (·.1)).Nodup) (above address : Address) :
    parentOf store.heap address = some above ↔
      ∃ entry ∈ fetched, loaded.idNodeMap.lookup entry.2.parentId = some above ∧
        loaded.idNodeMap.lookup entry.1 = some address := by
  constructor
  · intro isParent
    rw [parentOf, linked.lookup] at isParent
    cases there : loaded.heap.lookup address with
    | none => simp [there] at isParent
    | some node =>
      simp only [there, Option.map_some, parentIn] at isParent
      obtain ⟨row, isRow, isParent⟩ := Option.bind_eq_some_iff.mp isParent
      refine ⟨(node.id, row), mem_of_lookup_eq_some isRow, isParent, ?_⟩
      exact (created.mapped _ _).mpr (by simp [idOf, there])
  · rintro ⟨⟨id, row⟩, isFetched, isParent, isEntry⟩
    obtain ⟨node, there, rfl⟩ := Option.map_eq_some_iff.mp ((created.mapped _ _).mp isEntry)
    rw [parentOf, linked.lookup, there]
    simp only [Option.map_some, Option.bind_some, parentIn, lookup_eq_some_of_mem nodup isFetched]
    exact isParent

theorem Linked.nodup_childrenOf (nodup : (fetched.map (·.1)).Nodup) (address : Address) :
    (childrenOf store.heap address).Nodup := by
  cases there : loaded.heap.lookup address with
  | none => simp [childrenOf, linked.lookup, there]
  | some node =>
    have children : childrenOf store.heap address =
        childrenIn loaded.idNodeMap fetched address := by
      rw [childrenOf, linked.lookup, there]
      rfl
    rw [children]
    refine List.Pairwise.filterMap _ (fun first second differs child isFirst other isSecond => ?_)
      (List.pairwise_map.mp nodup)
    -- One object is not made of two rows.
    rintro rfl
    split_ifs at isFirst isSecond
    have firstId := (created.mapped _ _).mp isFirst
    rw [(created.mapped _ _).mp isSecond] at firstId
    exact differs (Option.some.inj firstId).symm

theorem Linked.reached {original : Store} (sound : original.Sound)
    (root : idOf original.heap original.rootNode = some rootId)
    (rows : ∀ address id row, contentAt original.heap address = some (id, row) ->
      (id, row) ∈ fetched)
    {node : Address}
    {path : List Address}
    (reached : PathTo (childrenOf original.heap) original.rootNode node path) :
    ∃ id address restoredPath, idOf original.heap node = some id ∧
      loaded.idNodeMap.lookup id = some address ∧
      PathTo (childrenOf store.heap) place address restoredPath := by
  induction reached with
  | root => exact ⟨rootId, place, [], root, created.root, .root⟩
  | @child above child path abovePath isChild ih =>
    obtain ⟨aboveId, aboveAddress, restoredPath, aboveHas, aboveMapped, aboveReached⟩ := ih
    obtain ⟨childNode, childThere⟩ := (live_iff _ _).mp (sound.indexed.tree.liveEnds _ _ isChild).2
    have isParent := (sound.indexed.tree.links _ _).mp isChild
    have parentId : (rowOf original.heap childNode).parentId = aboveId := by
      have isAbove : childNode.parentNode = some above := by
        simpa [parentOf, childThere] using isParent
      rw [idOf] at aboveHas
      simp [rowOf, isAbove, aboveHas]
    have isFetched := rows child childNode.id (rowOf original.heap childNode)
      (contentAt_eq_some_iff.mpr ⟨childNode, childThere, rfl, rfl⟩)
    obtain ⟨address, isMapped⟩ := Option.ne_none_iff_exists'.mp
      ((created.keys childNode.id).mpr (.inr (List.mem_map_of_mem isFetched)))
    refine ⟨childNode.id, address, aboveAddress :: restoredPath, by simp [idOf, childThere],
      isMapped, aboveReached.child ?_⟩
    refine (linked.mem_childrenOf_iff created _ _).mpr ⟨_, isFetched, ?_, isMapped⟩
    rw [parentId]
    exact aboveMapped

/-- The restored objects are a tree when the rows are those of a tree. -/
theorem Linked.sound (nodup : (fetched.map (·.1)).Nodup) {original : Store}
    (sound : original.Sound) (root : idOf original.heap original.rootNode = some rootId)
    (rows : ∀ id row, (id, row) ∈ fetched ↔
      ∃ address, contentAt original.heap address = some (id, row)) :
    store.Sound := by
  have valid : loaded.idNodeMap.lookup invalidNode = none := by
    by_contra isMapped
    rcases (created.keys invalidNode).mp isMapped with isRoot | isKey
    · cases isRoot
    · obtain ⟨⟨id, row⟩, isFetched, rfl⟩ := List.mem_map.mp isKey
      obtain ⟨address, content⟩ := (rows _ row).mp isFetched
      exact sound.indexed.valid address (idOf_of_contentAt content)
  have live : ∀ {id : NodeId} {address : Address}, loaded.idNodeMap.lookup id = some address ->
      Live store.heap address := by
    intro id address isMapped
    have itsId := (created.mapped _ _).mp isMapped
    rw [← linked.idOf_eq] at itsId
    obtain ⟨node, there, -⟩ := Option.map_eq_some_iff.mp itsId
    exact (live_iff _ _).mpr ⟨node, there⟩
  have sameRoot : store.rootNode = place := linked.rootNode.trans created.rootNode
  refine ⟨⟨⟨?_, ?_, ?_, ?_, linked.nodup_childrenOf created nodup, ?_⟩, ?_, ?_⟩, ?_⟩
  · rw [sameRoot]
    exact live created.root
  · -- The row of the root names no parent.
    refine Option.eq_none_iff_forall_ne_some.mpr fun above isParent => ?_
    rw [sameRoot, linked.parentOf_eq_some_iff created nodup] at isParent
    obtain ⟨⟨id, row⟩, isFetched, isAbove, isRoot⟩ := isParent
    have rootHas := (created.mapped _ _).mp created.root
    rw [(created.mapped _ _).mp isRoot] at rootHas
    cases rootHas
    obtain ⟨address, content⟩ := (rows _ row).mp isFetched
    have isRootNode := sound.address_unique (idOf_of_contentAt content) root
    obtain ⟨node, there, -, rfl⟩ := contentAt_eq_some_iff.mp content
    have noParent := sound.indexed.tree.rootParent
    rw [isRootNode] at there
    have isNull : (rowOf original.heap node).parentId = invalidNode := by
      have none : node.parentNode = none := by simpa [parentOf, there] using noParent
      simp only [rowOf, none]
      rfl
    rw [isNull, valid] at isAbove
    cases isAbove
  · intro above address
    rw [linked.mem_childrenOf_iff created, linked.parentOf_eq_some_iff created nodup]
  · intro above address isChild
    obtain ⟨entry, -, isAbove, isEntry⟩ := (linked.mem_childrenOf_iff created _ _).mp isChild
    exact ⟨live isAbove, live isEntry⟩
  · intro address isLive
    obtain ⟨node, there⟩ := (live_iff _ _).mp isLive
    have itsId : idOf loaded.heap address = some node.id := by
      rw [← linked.idOf_eq]
      simp [idOf, there]
    have isMapped := (created.mapped _ _).mpr itsId
    have inOriginal : ∃ place, idOf original.heap place = some node.id := by
      rcases (created.keys node.id).mp (by rw [isMapped]; simp) with isRoot | isKey
      · exact ⟨original.rootNode, isRoot ▸ root⟩
      · obtain ⟨⟨id, row⟩, isFetched, sameId⟩ := List.mem_map.mp isKey
        obtain ⟨place, content⟩ := (rows _ row).mp isFetched
        exact ⟨place, sameId ▸ idOf_of_contentAt content⟩
    obtain ⟨original, originalHas⟩ := inOriginal
    obtain ⟨originalNode, originalThere, -⟩ := Option.map_eq_some_iff.mp originalHas
    obtain ⟨path, reached⟩ := sound.indexed.tree.reached original
      ((live_iff _ _).mpr ⟨originalNode, originalThere⟩)
    obtain ⟨id, restored, restoredPath, hasId, restoredMapped, restoredReached⟩ :=
      linked.reached created sound root
        (fun address id row content => (rows id row).mpr ⟨address, content⟩) reached
    rw [originalHas] at hasId
    cases hasId
    rw [isMapped] at restoredMapped
    cases restoredMapped
    rw [sameRoot]
    exact ⟨restoredPath, restoredReached⟩
  · intro id address
    rw [linked.idNodeMap, linked.idOf_eq]
    exact created.mapped id address
  · intro address hasInvalid
    rw [linked.idOf_eq, ← created.mapped, valid] at hasInvalid
    cases hasInvalid
  · rw [linked.calls, created.calls]
    refine ⟨?_, ?_, ?_⟩
    · simp [deletionsOf]
    · simp
    · simp [markedBy, deletionsOf]

end

end

variable {original : Store}

theorem Loaded.restoredRow_eq {rootObject : StoreNode}
    (created : Loaded place rootObject.type fetched loaded) (sound : original.Sound)
    (root : idOf original.heap original.rootNode = some rootId)
    (rootThere : original.heap.lookup original.rootNode = some rootObject)
    (rows : ∀ address id row, contentAt original.heap address = some (id, row) ->
      (id, row) ∈ fetched)
    {address : Address}
    {id : NodeId}
    (content : contentAt original.heap address = some (id, row)) :
    restoredRow rootObject.type loaded.idNodeMap (id, row) = row := by
  have itsId := idOf_of_contentAt content
  obtain ⟨node, there, -, rfl⟩ := contentAt_eq_some_iff.mp content
  have type : (if id = rootId then rootObject.type else node.type) = node.type := by
    split_ifs with isRoot
    · rw [isRoot] at itsId
      rw [sound.address_unique itsId root, rootThere] at there
      cases there
      rfl
    · rfl
  have parent : (if loaded.idNodeMap.lookup (rowOf original.heap node).parentId = none then nullId
      else (rowOf original.heap node).parentId) = (rowOf original.heap node).parentId := by
    split_ifs with unmapped
    · cases above : node.parentNode with
      | none => simp [rowOf, above]
      | some parent =>
        -- The parent has a row, so that it has an object.
        have isParent : parentOf original.heap address = some parent := by
          simp [parentOf, there, above]
        have isChild := (sound.indexed.tree.links parent address).mpr isParent
        obtain ⟨parentNode, parentThere⟩ :=
          (live_iff _ _).mp (sound.indexed.tree.liveEnds _ _ isChild).1
        have isFetched := rows parent parentNode.id _
          (contentAt_eq_some_iff.mpr ⟨parentNode, parentThere, rfl, rfl⟩)
        have sameId : (rowOf original.heap node).parentId = parentNode.id := by
          simp [rowOf, above, parentThere]
        rw [sameId] at unmapped
        have isKey := (created.keys parentNode.id).mpr (.inr (List.mem_map_of_mem isFetched))
        exact absurd unmapped isKey
    · rfl
  unfold restoredRow
  rw [parent]
  simp only [rowOf, type]

end Restored

/-! ## The tree of a store -/

/-- A node of the tree with its type, its parent and its values. -/
def InTree (store : Store) (id : NodeId) (row : Row) : Prop :=
  ∃ address, store.Reachable address ∧ contentAt store.heap address = some (id, row)

/-- Two stores have the same tree: the same ids with the same types, parents and values,
and no id twice. -/
structure Reproduces (store original : Store) : Prop where
  nodes : ∀ id row, store.InTree id row ↔ original.InTree id row
  distinct : ∀ first second, store.Reachable first -> store.Reachable second ->
    idOf store.heap first = idOf store.heap second -> first = second

theorem Sound.inTree_iff (sound : store.Sound) (id : NodeId) (row : Row) :
    store.InTree id row ↔ ∃ address, contentAt store.heap address = some (id, row) := by
  constructor
  · rintro ⟨address, -, content⟩
    exact ⟨address, content⟩
  · rintro ⟨address, content⟩
    obtain ⟨node, there, -⟩ := contentAt_eq_some_iff.mp content
    exact ⟨address, sound.indexed.tree.reached address ((live_iff _ _).mpr ⟨node, there⟩), content⟩

theorem hasRow_iff_of_idle (idle : store.calls = []) (id : NodeId) (row : Row) :
    store.HasRow id row ↔ ∃ address, contentAt store.heap address = some (id, row) := by
  simp [HasRow, IsReported, idle]

theorem Emptying.loaded (emptying : store.Emptying)
    (root : idOf store.heap store.rootNode = some rootId) (returned : store.calls = []) :
    ∃ node, store.heap.lookup store.rootNode = some node ∧ node.reportedValue = [] ∧
      node.desiredValue = [] ∧ Loaded store.rootNode node.type [] store ∧
      ∀ address, Live store.heap address -> address = store.rootNode := by
  obtain ⟨node, there, childless, noReported, noDesired⟩ :
      ∃ node, store.heap.lookup store.rootNode = some node ∧ node.childNodes = [] ∧
        node.reportedValue = [] ∧ node.desiredValue = [] := by
    rcases emptying.path with ⟨-, isEmpty⟩ | ⟨call, deletion, above, isFirst, -⟩
    · exact isEmpty
    · rw [returned] at isFirst
      cases isFirst
  have tree := emptying.sound.indexed.tree
  have alone : ∀ address, Live store.heap address -> address = store.rootNode := by
    intro address isLive
    obtain ⟨path, reached⟩ := tree.reached address isLive
    cases path with
    | nil => exact reached.eq_root
    | cons above path =>
      obtain ⟨child, isChild, -⟩ := reached.exists_first
      simp [childrenOf, there, childless] at isChild
  have only : ∀ address other, store.heap.lookup address = some other -> other = node := by
    intro address other otherThere
    rw [alone address ((live_iff _ _).mpr ⟨other, otherThere⟩), there] at otherThere
    exact (Option.some.inj otherThere).symm
  have mapped := emptying.sound.indexed.mapped
  refine ⟨node, there, noReported, noDesired, ⟨rfl, returned, mapped, ?_, (mapped _ _).mpr root,
    ?_, ?_, by simp⟩, alone⟩
  · intro id
    simp only [List.map_nil, List.not_mem_nil, or_false]
    constructor
    · intro isMapped
      obtain ⟨address, isAddress⟩ := Option.ne_none_iff_exists'.mp isMapped
      have itsId := (mapped _ _).mp isAddress
      obtain ⟨other, otherThere, -⟩ := Option.map_eq_some_iff.mp itsId
      rw [alone address ((live_iff _ _).mpr ⟨other, otherThere⟩), root] at itsId
      exact (Option.some.inj itsId).symm
    · rintro rfl
      rw [(mapped _ _).mpr root]
      simp
  · intro address other otherThere
    rw [only address other otherThere]
    have noParent := tree.rootParent
    exact ⟨by simpa [parentOf, there] using noParent, childless⟩
  · intro address other otherThere _
    rw [only address other otherThere]

end Store

namespace PersistentStore

variable {persistent : PersistentStore}

/-! ## Saving and loading -/

variable {node : StoreNode}

theorem Recorded.deleteRoot_save (recorded : persistent.Recorded none)
    (idle : persistent.store.calls = []) (noneMarked : NoneMarked persistent.store)
    (there : persistent.store.heap.lookup persistent.store.rootNode = some node) :
    persistent.save.Clearing persistent.save.deleteRoot ∧
      Store.Loaded persistent.store.rootNode node.type [] persistent.save.deleteRoot.store ∧
      (∀ id, persistent.save.deleteRoot.store.IsLive id -> id = rootId) ∧
      persistent.save.deleteRoot.store.HasRow rootId ⟨node.type, nullId, [], []⟩ := by
  obtain ⟨saved, -, nonePending, sameStore⟩ := recorded.save
  obtain ⟨clearing, returned⟩ :=
    saved.deleteRoot (sameStore ▸ idle) (sameStore ▸ noneMarked) nonePending
  have root := clearing.recorded.root
  obtain ⟨rootObject, rootThere, noReported, noDesired, loaded, alone⟩ :=
    clearing.emptying.loaded root returned
  have sameRoot := clearing.rootNode
  have sameType := clearing.rootType
  rw [sameStore] at sameRoot sameType
  rw [sameRoot] at rootThere loaded alone root
  have isType : rootObject.type = node.type := by
    simpa [contentAt, rootThere, there, rowOf] using sameType
  rw [isType] at loaded
  refine ⟨clearing, loaded, ?_, ?_⟩
  · intro id isLive
    obtain ⟨address, itsId, -⟩ := (Store.isLive_iff _ _).mp isLive
    obtain ⟨other, otherThere, -⟩ := Option.map_eq_some_iff.mp itsId
    rw [alone address ((live_iff _ _).mpr ⟨other, otherThere⟩), root] at itsId
    exact (Option.some.inj itsId).symm
  · refine (Store.hasRow_iff_of_idle returned _ _).mpr ⟨persistent.store.rootNode, ?_⟩
    refine contentAt_eq_some_iff.mpr ⟨rootObject, rootThere, ?_, ?_⟩
    · simpa [idOf, rootThere] using root
    · obtain ⟨noParent, -⟩ := loaded.unlinked _ rootObject rootThere
      simp [rowOf, noParent, isType, noReported, noDesired]

theorem Recorded.lookup_deleteRoot (recorded : persistent.Recorded none)
    (idle : persistent.store.calls = []) (noneMarked : NoneMarked persistent.store)
    (there : persistent.store.heap.lookup persistent.store.rootNode = some node) (id : NodeId)
    (row : Row) :
    persistent.save.deleteRoot.rows.lookup id = some row ↔
      id = rootId ∧ row = ⟨node.type, nullId, [], []⟩ ∨
        id ≠ rootId ∧ persistent.autoSaveInterval ≠ 0 ∧ persistent.store.HasRow id row := by
  obtain ⟨clearing, -, onlyRoot, hasRoot⟩ := recorded.deleteRoot_save idle noneMarked there
  by_cases isRoot : id = rootId
  · have rootRow : persistent.save.deleteRoot.rows.lookup rootId =
        some ⟨node.type, nullId, [], []⟩ := by
      rcases clearing.recorded.saved rootId _ hasRoot with isChanged | isPending | isStored
      · cases isChanged
      · exact absurd rfl (clearing.recorded.pending rootId isPending).2
      · exact isStored
    simp [isRoot, rootRow, eq_comm]
  · simp only [isRoot, false_and, not_false_eq_true, true_and, false_or, ne_eq]
    by_cases atOnce : persistent.autoSaveInterval = 0
    · simp only [atOnce, not_true_eq_false, false_and, iff_false]
      intro isRow
      rcases clearing.recorded.gone id (by rw [isRow]; simp) with isLive | isPending
      · exact isRoot (onlyRoot id isLive)
      · rw [clearing.flushed (by simpa using atOnce)] at isPending
        cases isPending
    · rw [clearing.kept (by simpa using atOnce) id isRoot, recorded.lookup_save]
      simp [atOnce]

/-- The values of the root would be lost, and without an auto-save interval all other
nodes. -/
def Restorable (persistent : PersistentStore) : Prop :=
  (∀ node, persistent.store.heap.lookup persistent.store.rootNode = some node ->
      node.reportedValue = [] ∧ node.desiredValue = []) ∧
    (persistent.autoSaveInterval ≠ 0 ∨
      ∀ address, Live persistent.store.heap address -> address = persistent.store.rootNode)

theorem Recorded.exists_linked (recorded : persistent.Recorded none)
    (idle : persistent.store.calls = []) (noneMarked : NoneMarked persistent.store)
    (platform : Platform)
    (there : persistent.store.heap.lookup persistent.store.rootNode = some node) :
    ∃ loaded,
      Store.Loaded persistent.store.rootNode node.type
        (platform.fetchAll persistent.save.deleteRoot.rows) loaded ∧
      Store.Linked loaded (platform.fetchAll persistent.save.deleteRoot.rows)
        (persistent.save.load platform).store := by
  obtain ⟨-, emptied, -⟩ := recorded.deleteRoot_save idle noneMarked there
  have nodup := platform.fetchAll_nodup persistent.save.deleteRoot.rows
  have created := emptied.foldl platform nodup
  have valid : ((platform.fetchAll persistent.save.deleteRoot.rows).foldl
      (Store.loadNode platform) persistent.save.deleteRoot.store).idNodeMap.lookup invalidNode =
        none := by
    by_contra isMapped
    rcases (created.keys invalidNode).mp isMapped with isRoot | isKey
    · cases isRoot
    · obtain ⟨⟨id, row⟩, isFetched, isInvalid⟩ := List.mem_map.mp isKey
      rw [List.nil_append, platform.mem_fetchAll,
        recorded.lookup_deleteRoot idle noneMarked there] at isFetched
      rcases isFetched with ⟨isRoot, -⟩ | ⟨-, -, address, content, -⟩
      · rw [isRoot] at isInvalid
        cases isInvalid
      · exact recorded.sound.indexed.valid address (isInvalid ▸ idOf_of_contentAt content)
  exact ⟨_, created, created.linked.foldl created valid (List.Subset.refl _) nodup⟩

theorem Recorded.rootId_mem_fetchAll (recorded : persistent.Recorded none)
    (idle : persistent.store.calls = []) (noneMarked : NoneMarked persistent.store)
    (platform : Platform) :
    rootId ∈ (platform.fetchAll persistent.save.deleteRoot.rows).map (·.1) := by
  obtain ⟨node, there, -⟩ := Option.map_eq_some_iff.mp recorded.root
  have isRow := (recorded.lookup_deleteRoot idle noneMarked there rootId _).mpr (.inl ⟨rfl, rfl⟩)
  exact List.mem_map_of_mem ((platform.mem_fetchAll _ _ _).mpr isRow)

theorem Recorded.restorable (recorded : persistent.Recorded none)
    (idle : persistent.store.calls = []) (noneMarked : NoneMarked persistent.store)
    {platform : Platform}
    (reproduces : Store.Reproduces (persistent.save.load platform).store persistent.store) :
    persistent.Restorable := by
  obtain ⟨node, there, isRootId⟩ := Option.map_eq_some_iff.mp recorded.root
  obtain ⟨loaded, created, linked⟩ := recorded.exists_linked idle noneMarked platform there
  have nodup := platform.fetchAll_nodup persistent.save.deleteRoot.rows
  have hasRoot := recorded.rootId_mem_fetchAll idle noneMarked platform
  -- A node of the tree comes back from a row.
  have comesBack : ∀ id row,
    (∃ address, contentAt persistent.store.heap address = some (id, row)) ->
      ∃ stored, persistent.save.deleteRoot.rows.lookup id = some stored ∧
        row.reportedValue = stored.reportedValue ∧ row.desiredValue = stored.desiredValue := by
    intro id row was
    have inTree := (recorded.sound.inTree_iff id row).mpr was
    obtain ⟨address, -, content⟩ := (reproduces.nodes id row).mpr inTree
    obtain ⟨stored, isFetched, rfl⟩ :=
      (linked.exists_contentAt_iff created nodup hasRoot id row).mp ⟨address, content⟩
    exact ⟨stored, (platform.mem_fetchAll _ _ _).mp isFetched, rfl, rfl⟩
  have lookups := recorded.lookup_deleteRoot idle noneMarked there
  constructor
  · intro rootObject rootThere
    rw [there] at rootThere
    cases rootThere
    obtain ⟨stored, isStored, sameReported, sameDesired⟩ := comesBack node.id _
      ⟨_, contentAt_eq_some_iff.mpr ⟨node, there, rfl, rfl⟩⟩
    rcases (lookups _ _).mp isStored with ⟨-, rfl⟩ | ⟨notRoot, -⟩
    · exact ⟨sameReported, sameDesired⟩
    · exact absurd isRootId notRoot
  · by_contra lost
    push Not at lost
    obtain ⟨atOnce, address, isLive, differs⟩ := lost
    obtain ⟨other, otherThere⟩ := (live_iff _ _).mp isLive
    obtain ⟨stored, isStored, -⟩ := comesBack other.id _
      ⟨_, contentAt_eq_some_iff.mpr ⟨other, otherThere, rfl, rfl⟩⟩
    rcases (lookups _ _).mp isStored with ⟨isRoot, -⟩ | ⟨-, delayed, -⟩
    · have itsId : idOf persistent.store.heap address = some rootId := by
        simp [idOf, otherThere, isRoot]
      exact differs (recorded.sound.address_unique itsId recorded.root)
    · exact delayed atOnce

theorem Restorable.lookup_deleteRoot (restorable : persistent.Restorable)
    (recorded : persistent.Recorded none) (idle : persistent.store.calls = [])
    (noneMarked : NoneMarked persistent.store) (id : NodeId) (row : Row) :
    persistent.save.deleteRoot.rows.lookup id = some row ↔
      ∃ address, contentAt persistent.store.heap address = some (id, row) := by
  obtain ⟨noValues, kept⟩ := restorable
  obtain ⟨node, there, isRootId⟩ := Option.map_eq_some_iff.mp recorded.root
  obtain ⟨noReported, noDesired⟩ := noValues node there
  have hasRow := Store.hasRow_iff_of_idle idle
  have rootRow : rowOf persistent.store.heap node = ⟨node.type, nullId, [], []⟩ := by
    have noParent : node.parentNode = none := by
      simpa [parentOf, there] using recorded.sound.indexed.tree.rootParent
    simp [rowOf, noParent, noReported, noDesired]
  have rootHas : persistent.store.HasRow rootId ⟨node.type, nullId, [], []⟩ :=
    (hasRow _ _).mpr ⟨_, contentAt_eq_some_iff.mpr ⟨node, there, isRootId, rootRow⟩⟩
  rw [recorded.lookup_deleteRoot idle noneMarked there, ← hasRow]
  by_cases isRoot : id = rootId
  · subst isRoot
    simp only [true_and, not_true_eq_false, false_and, or_false, ne_eq]
    constructor
    · rintro rfl
      exact rootHas
    · exact fun has => recorded.sound.hasRow_unique has rootHas
  · simp only [isRoot, false_and, not_false_eq_true, true_and, false_or, ne_eq]
    refine ⟨fun isKept => isKept.2, fun has => ⟨?_, has⟩⟩
    refine kept.resolve_right fun alone => ?_
    obtain ⟨address, content⟩ := (hasRow id row).mp has
    have itsId := idOf_of_contentAt content
    obtain ⟨other, otherThere, -⟩ := Option.map_eq_some_iff.mp itsId
    rw [alone address ((live_iff _ _).mpr ⟨other, otherThere⟩), recorded.root] at itsId
    exact isRoot (Option.some.inj itsId).symm

theorem Restorable.reproduces (restorable : persistent.Restorable)
    (recorded : persistent.Recorded none) (idle : persistent.store.calls = [])
    (noneMarked : NoneMarked persistent.store) (platform : Platform) :
    Store.Reproduces (persistent.save.load platform).store persistent.store := by
  obtain ⟨node, there, isRootId⟩ := Option.map_eq_some_iff.mp recorded.root
  obtain ⟨loaded, created, linked⟩ := recorded.exists_linked idle noneMarked platform there
  have nodup := platform.fetchAll_nodup persistent.save.deleteRoot.rows
  have hasRoot := recorded.rootId_mem_fetchAll idle noneMarked platform
  have rows : ∀ id row, (id, row) ∈ platform.fetchAll persistent.save.deleteRoot.rows ↔
      ∃ address, contentAt persistent.store.heap address = some (id, row) := by
    intro id row
    rw [platform.mem_fetchAll, restorable.lookup_deleteRoot recorded idle noneMarked]
  have sound := linked.sound created nodup recorded.sound recorded.root rows
  have same : ∀ id row, (id, row) ∈ platform.fetchAll persistent.save.deleteRoot.rows ->
      Store.restoredRow node.type loaded.idNodeMap (id, row) = row := by
    intro id row isFetched
    obtain ⟨address, content⟩ := (rows id row).mp isFetched
    exact created.restoredRow_eq recorded.sound recorded.root there
      (fun address id row content => (rows id row).mpr ⟨address, content⟩) content
  refine ⟨fun id row => ?_, sound.consistent.distinct⟩
  rw [sound.inTree_iff, recorded.sound.inTree_iff,
    linked.exists_contentAt_iff created nodup hasRoot, ← rows]
  constructor
  · rintro ⟨stored, isFetched, rfl⟩
    rw [same id stored isFetched]
    exact isFetched
  · exact fun isFetched => ⟨row, isFetched, (same id row isFetched).symm⟩

/-- In every state of a run that hands out no id that is pending deletion, saving and
loading reproduces the tree exactly when it is restorable, unless an operation is under
way or a deletion was stopped. -/
theorem reproduces_run (platform : Platform) (validation : Validation) (rootNode : Address)
    (lastAssignedId : NodeId) (interval : Nat) {actions : List Action}
    (reusesNone : StepsMeet (step validation) (ReusesNoPendingId validation)
      (initial rootNode lastAssignedId interval) actions)
    (idle : (run (step validation) (initial rootNode lastAssignedId interval)
      actions).store.calls = [])
    (noneMarked : NoneMarked (run (step validation) (initial rootNode lastAssignedId interval)
      actions).store) :
    Store.Reproduces
        ((run (step validation) (initial rootNode lastAssignedId interval) actions).save.load
          platform).store
        (run (step validation) (initial rootNode lastAssignedId interval) actions).store ↔
      (run (step validation) (initial rootNode lastAssignedId interval) actions).Restorable := by
  have recorded : (run (step validation) (initial rootNode lastAssignedId interval)
      actions).Recorded none :=
    reusesNone.invariant (fun persistent => persistent.Recorded none)
      (fun _ _ recorded meets => recorded.step meets)
      (recorded_initial rootNode lastAssignedId interval)
  constructor
  · exact fun reproduces => recorded.restorable idle noneMarked reproduces
  · exact fun restorable => restorable.reproduces recorded idle noneMarked platform

/-- The rows come in the order in which they were stored, and addresses are never used
twice in a heap. -/
def sequentialPlatform : Platform where
  fetchAll rows := (rows.map (·.1)).dedup.filterMap fun id => (rows.lookup id).map (id, ·)
  fetchAll_nodup rows := by
    have distinct := List.nodup_dedup (rows.map fun entry => entry.1)
    refine List.pairwise_map.mpr
      (List.Pairwise.filterMap _ (fun first second differs => ?_) distinct)
    intro entry isFirst other isSecond
    obtain ⟨_, -, rfl⟩ := Option.map_eq_some_iff.mp isFirst
    obtain ⟨_, -, rfl⟩ := Option.map_eq_some_iff.mp isSecond
    exact differs
  mem_fetchAll rows id row := by
    simp only [List.mem_filterMap, List.mem_dedup, Option.map_eq_some_iff]
    constructor
    · rintro ⟨key, -, found, isFound, isEntry⟩
      cases isEntry
      exact isFound
    · intro isFound
      exact ⟨id, List.mem_map_of_mem (mem_of_lookup_eq_some isFound), row, isFound, rfl⟩
  allocate heap := (heap.map (·.1)).sum + 1
  allocate_fresh heap := by
    rw [hasKey]
    cases there : heap.lookup ((heap.map (·.1)).sum + 1) with
    | none => rfl
    | some node =>
        have bound := sum_eraseKey_add_le (fun entry => entry.1) (mem_of_lookup_eq_some there)
        exact absurd (Nat.le_trans (Nat.le_add_left _ _) bound) (Nat.not_succ_le_self _)

/-- A node is added and gets a value. -/
def addsNodeWithValue : List Action :=
  [.operate (.addNode 2 rootId 200), .operate .callbacksReturn,
    .operate (.setNodeAttributeValue 2 .reported [7]), .operate .callbacksReturn]

theorem reproduces_addsNodeWithValue :
    Store.Reproduces
      ((run (step Store.noValidation) (initial 100 0 10) addsNodeWithValue).save.load
        sequentialPlatform).store
      (run (step Store.noValidation) (initial 100 0 10) addsNodeWithValue).store := by
  have unmarked : ∀ entry ∈
      (run (step Store.noValidation) (initial 100 0 10) addsNodeWithValue).store.heap,
      entry.2.undergoingDeletion = false := by
    decide
  have noValues : ∀ entry ∈
      (run (step Store.noValidation) (initial 100 0 10) addsNodeWithValue).store.heap,
      entry.1 = 100 -> entry.2.reportedValue = [] ∧ entry.2.desiredValue = [] := by
    decide
  refine (reproduces_run sequentialPlatform Store.noValidation 100 0 10 ?_ (by decide) ?_).mpr
    ⟨?_, ?_⟩
  · exact ⟨fun _ _ _ _ => List.not_mem_nil, trivial, trivial, trivial, trivial⟩
  · exact fun address node there => unmarked _ (mem_of_lookup_eq_some there)
  · exact fun node there => noValues _ (mem_of_lookup_eq_some there) rfl
  · exact .inl (by decide)

/-- The root gets a value. -/
def setsRootValue : List Action :=
  [.operate (.setNodeAttributeValue rootId .reported [7]), .operate .callbacksReturn]

/-- The value of the root is gone after a save and a load. -/
theorem not_reproduces_setsRootValue :
    ¬ Store.Reproduces
      ((run (step Store.noValidation) (initial 100 0 10) setsRootValue).save.load
        sequentialPlatform).store
      (run (step Store.noValidation) (initial 100 0 10) setsRootValue).store := by
  intro reproduces
  have before : (run (step Store.noValidation) (initial 100 0 10) setsRootValue).store.InTree
      rootId ⟨Store.rootType, nullId, [7], []⟩ :=
    ⟨100, ⟨[], .root⟩, by decide⟩
  obtain ⟨address, -, content⟩ := (reproduces.nodes _ _).mpr before
  obtain ⟨node, there, -, isRow⟩ := contentAt_eq_some_iff.mp content
  have noValues : ∀ entry ∈
      ((run (step Store.noValidation) (initial 100 0 10) setsRootValue).save.load
        sequentialPlatform).store.heap, entry.2.reportedValue = [] := by
    decide
  have reported : node.reportedValue = [7] := congrArg Row.reportedValue isRow
  rw [noValues _ (mem_of_lookup_eq_some there)] at reported
  cases reported

end PersistentStore

end AttributeStore
