import Zpc.AttributeStore.LiveRows

/-!
# What the datastore knows of the attribute store

The datastore and the bookkeeping determine the tree: a node that is not pending
save has its row, and a row without a node is pending deletion.  This breaks where an
id is handed out again that is still pending deletion.
-/

namespace AttributeStore

open Foundation

namespace PersistentStore

/-- The rows and what is pending agree with the live nodes, up to one node whose change
is still to be stored. -/
structure Tracked (persistent : PersistentStore) (changed : Option NodeId) : Prop where
  sound : persistent.store.Sound
  root : idOf persistent.store.heap persistent.store.rootNode = some rootId
  pending : ∀ id ∈ persistent.pendingSave, persistent.store.IsLive id ∧ id ≠ rootId
  new : ∀ id ∈ persistent.neverSaved, persistent.store.IsLive id ∧ id ≠ rootId
  saved : ∀ id row, persistent.store.HasRow id row ->
    some id = changed ∨ id ∈ persistent.pendingSave ∨ persistent.rows.lookup id = some row
  gone : ∀ id, persistent.rows.lookup id ≠ none ->
    persistent.store.IsLive id ∨ id ∈ persistent.pendingDeletion
  kept : ∀ id ∈ persistent.pendingDeletion, ¬ persistent.store.IsLive id

/-- A node that was never saved is pending save and has no row. -/
structure Recorded (persistent : PersistentStore) (changed : Option NodeId) : Prop
    extends persistent.Tracked changed where
  newPending : ∀ id ∈ persistent.neverSaved, some id = changed ∨ id ∈ persistent.pendingSave
  unsaved : ∀ id ∈ persistent.neverSaved, persistent.rows.lookup id = none

variable {persistent : PersistentStore}

variable {address : Address} {node : StoreNode} {next store : Store} {type : NodeType}
  {validation : Validation} {action : Action}

theorem Tracked.storeRow {changed : Option NodeId} (tracked : persistent.Tracked changed)
    (there : persistent.store.heap.lookup address = some node)
    (notReported : ¬ IsReported persistent.store.calls address) :
    (persistent.storeRow node).Tracked changed := by
  have hasRow : persistent.store.HasRow node.id (rowOf persistent.store.heap node) :=
    ⟨address, contentAt_eq_some_iff.mpr ⟨node, there, rfl, rfl⟩, notReported⟩
  refine ⟨tracked.sound, tracked.root, tracked.pending, tracked.new, ?_, ?_, tracked.kept⟩
  · intro id row has
    simp only [PersistentStore.storeRow, lookup_assign]
    by_cases isStored : id = node.id
    · subst isStored
      rw [if_pos rfl, tracked.sound.hasRow_unique has hasRow]
      exact .inr (.inr rfl)
    · rw [if_neg isStored]
      exact tracked.saved id row has
  · intro id
    simp only [PersistentStore.storeRow, lookup_assign]
    by_cases isStored : id = node.id
    · subst isStored
      exact fun _ => .inl ⟨_, hasRow⟩
    · rw [if_neg isStored]
      exact tracked.gone id

/-- The change of a node is stored, or is pending from now on. -/
theorem Recorded.storeAttribute {address : Address} {node : StoreNode}
    (there : persistent.store.heap.lookup address = some node)
    (notReported : ¬ IsReported persistent.store.calls address)
    (recorded : persistent.Recorded (some node.id)) :
    (persistent.storeAttribute address).Recorded none := by
  have stored := recorded.toTracked.storeRow there notReported
  have itsId : idOf persistent.store.heap address = some node.id := by simp [idOf, there]
  have live : persistent.store.IsLive node.id :=
    (Store.isLive_iff _ _).mpr ⟨address, itsId, notReported⟩
  have storedRow : ∀ id row, persistent.store.HasRow id row ->
      id ∈ persistent.pendingSave ∨ (persistent.storeRow node).rows.lookup id = some row := by
    intro id row has
    obtain isChanged | isPending | isStored := stored.saved id row has
    · cases isChanged
      have hasRow : persistent.store.HasRow node.id (rowOf persistent.store.heap node) :=
        ⟨address, contentAt_eq_some_iff.mpr ⟨node, there, rfl, rfl⟩, notReported⟩
      rw [recorded.sound.hasRow_unique has hasRow]
      simp [storeRow]
    · exact .inl isPending
    · exact .inr isStored
  have others : ∀ id, id ≠ node.id ->
      (persistent.storeRow node).rows.lookup id = persistent.rows.lookup id := by
    intro id differs
    simp [storeRow, differs]
  unfold PersistentStore.storeAttribute
  rw [there]
  split_ifs with isRoot atOnce
  · -- The root was never among the nodes that are pending.
    have isRootId : node.id = rootId := by
      have rootHas := recorded.root
      rw [← isRoot, itsId] at rootHas
      exact Option.some.inj rootHas
    have differs : ∀ id ∈ persistent.neverSaved, id ≠ node.id := by
      intro id isNew
      rw [isRootId]
      exact (recorded.new id isNew).2
    refine ⟨⟨stored.sound, stored.root, stored.pending, stored.new, ?_, stored.gone, stored.kept⟩,
      ?_, ?_⟩
    · exact fun id row has => .inr (storedRow id row has)
    · intro id isNew
      refine .inr ((recorded.newPending id isNew).resolve_left fun isChanged => ?_)
      exact differs id isNew (Option.some.inj isChanged)
    · intro id isNew
      rw [others id (differs id isNew)]
      exact recorded.unsaved id isNew
  · refine ⟨⟨stored.sound, stored.root, stored.pending, ?_, ?_, stored.gone, stored.kept⟩, ?_, ?_⟩
    · exact fun id isNew => recorded.new id (Finset.mem_of_mem_erase isNew)
    · exact fun id row has => .inr (storedRow id row has)
    · intro id isNew
      obtain ⟨differs, wasNew⟩ := Finset.mem_erase.mp isNew
      refine .inr ((recorded.newPending id wasNew).resolve_left fun isChanged => ?_)
      exact differs (Option.some.inj isChanged)
    · intro id isNew
      obtain ⟨differs, wasNew⟩ := Finset.mem_erase.mp isNew
      rw [others id differs]
      exact recorded.unsaved id wasNew
  · have notRoot : node.id ≠ rootId := by
      intro isRootId
      exact isRoot (recorded.sound.address_unique (isRootId ▸ itsId) recorded.root)
    refine ⟨⟨recorded.sound, recorded.root, ?_, recorded.new, ?_, recorded.gone, recorded.kept⟩,
      ?_, recorded.unsaved⟩
    · intro id isPending
      rcases Finset.mem_insert.mp isPending with rfl | wasPending
      · exact ⟨live, notRoot⟩
      · exact recorded.pending id wasPending
    · intro id row has
      right
      obtain isChanged | isPending | isStored := recorded.saved id row has
      · cases isChanged
        exact .inl (Finset.mem_insert_self _ _)
      · exact .inl (Finset.mem_insert_of_mem isPending)
      · exact .inr isStored
    · intro id isNew
      right
      obtain isChanged | isPending := recorded.newPending id isNew
      · cases isChanged
        exact Finset.mem_insert_self _ _
      · exact Finset.mem_insert_of_mem isPending

/-! ## Deletions -/

theorem lookup_deletePendingDeletions (persistent : PersistentStore) (id : NodeId) :
    persistent.deletePendingDeletions.rows.lookup id =
      if id ∈ persistent.pendingDeletion ∧ id ∉ persistent.neverSaved then none
      else persistent.rows.lookup id := by
  have folded : ∀ (ids : List NodeId) (rows : List (NodeId × Row)),
      (ids.foldl (fun rows deleted =>
        if deleted ∈ persistent.neverSaved then rows else eraseKey rows deleted) rows).lookup id =
        if id ∈ ids ∧ id ∉ persistent.neverSaved then none else rows.lookup id := by
    intro ids
    induction ids with
    | nil => simp
    | cons deleted ids ih =>
      intro rows
      rw [List.foldl_cons, ih]
      by_cases isNew : id ∈ persistent.neverSaved
      · by_cases isDeleted : deleted ∈ persistent.neverSaved
        · simp [isNew, isDeleted]
        · have differs : id ≠ deleted := by
            rintro rfl
            exact isDeleted isNew
          simp [isNew, isDeleted, differs]
      · by_cases same : id = deleted
        · subst same
          simp [isNew]
        · by_cases isDeleted : deleted ∈ persistent.neverSaved
          all_goals simp [isNew, isDeleted, same]
  exact folded persistent.pendingDeletion persistent.rows

theorem Tracked.deletePendingDeletions (tracked : persistent.Tracked none) :
    persistent.deletePendingDeletions.Tracked none := by
  have rows := lookup_deletePendingDeletions persistent
  refine ⟨tracked.sound, tracked.root, tracked.pending, tracked.new, ?_, ?_, ?_⟩
  · intro id row has
    have notPending : id ∉ persistent.pendingDeletion :=
      fun isPending => tracked.kept id isPending ⟨row, has⟩
    rw [rows, if_neg (by simp [notPending])]
    exact tracked.saved id row has
  · intro id hasRow
    rw [rows] at hasRow
    split_ifs at hasRow with isDeleted
    · exact absurd rfl hasRow
    · obtain live | isPending := tracked.gone id hasRow
      · exact .inl live
      · push Not at isDeleted
        exact .inl (tracked.new id (isDeleted isPending)).1
  · intro id isPending
    exact absurd isPending List.not_mem_nil

theorem Recorded.deletePendingDeletions (recorded : persistent.Recorded none) :
    persistent.deletePendingDeletions.Recorded none := by
  refine ⟨recorded.toTracked.deletePendingDeletions, recorded.newPending, fun id isNew => ?_⟩
  rw [lookup_deletePendingDeletions, if_neg fun isDeleted => isDeleted.2 isNew]
  exact recorded.unsaved id isNew

/-- The deletion of a node is recorded when the node stops to be live. -/
theorem Recorded.recordDeletion (recorded : persistent.Recorded none) {next : Store}
    (sound : next.Sound) (root : idOf next.heap next.rootNode = some rootId) {deleted : NodeId}
    (hasRow : ∀ id row, next.HasRow id row ↔ persistent.store.HasRow id row ∧ id ≠ deleted) :
    ({ persistent with store := next }.recordDeletion deleted).Recorded none := by
  have live : ∀ id, next.IsLive id ↔ persistent.store.IsLive id ∧ id ≠ deleted := by
    intro id
    simp only [Store.IsLive, hasRow, exists_and_right]
  have kept : ∀ id ∈ persistent.pendingDeletion, ¬ next.IsLive id := by
    intro id isPending isLive
    exact recorded.kept id isPending ((live id).mp isLive).1
  have pending : ∀ id ∈ persistent.pendingSave.erase deleted, next.IsLive id ∧ id ≠ rootId := by
    intro id isPending
    obtain ⟨differs, wasPending⟩ := Finset.mem_erase.mp isPending
    obtain ⟨wasLive, notRoot⟩ := recorded.pending id wasPending
    exact ⟨(live id).mpr ⟨wasLive, differs⟩, notRoot⟩
  have saved : ∀ id row, next.HasRow id row ->
      some id = none ∨ id ∈ persistent.pendingSave.erase deleted ∨
        persistent.rows.lookup id = some row := by
    intro id row has
    obtain ⟨had, differs⟩ := (hasRow id row).mp has
    refine (recorded.saved id row had).imp_right (Or.imp_left fun isPending => ?_)
    exact Finset.mem_erase.mpr ⟨differs, isPending⟩
  have gone : ∀ id, id ≠ deleted -> persistent.rows.lookup id ≠ none ->
      next.IsLive id ∨ id ∈ persistent.pendingDeletion := by
    intro id differs hasKey
    exact (recorded.gone id hasKey).imp_left fun wasLive => (live id).mpr ⟨wasLive, differs⟩
  have recordedFirst : ∀ neverSaved pendingDeletion,
      (∀ id ∈ neverSaved, id ∈ persistent.neverSaved ∧ id ≠ deleted) ->
      (∀ id, id ∈ pendingDeletion ↔ id ∈ persistent.pendingDeletion ∨
        id = deleted ∧ deleted ∉ persistent.neverSaved) ->
      ({ persistent with
          store := next
          neverSaved := neverSaved
          pendingSave := persistent.pendingSave.erase deleted
          pendingDeletion := pendingDeletion } : PersistentStore).Recorded none := by
    intro neverSaved pendingDeletion isNew isPending
    refine ⟨⟨sound, root, pending, ?_, saved, ?_, ?_⟩, ?_, ?_⟩
    · intro id new
      obtain ⟨wasNew, differs⟩ := isNew id new
      exact ⟨(live id).mpr ⟨(recorded.new id wasNew).1, differs⟩, (recorded.new id wasNew).2⟩
    · intro id hasKey
      by_cases isDeleted : id = deleted
      · subst isDeleted
        refine .inr ((isPending id).mpr (.inr ⟨rfl, fun wasNew => ?_⟩))
        exact hasKey (recorded.unsaved id wasNew)
      · exact (gone id isDeleted hasKey).imp_right fun was => (isPending id).mpr (.inl was)
    · intro id nowPending isLive
      obtain wasPending | ⟨isDeleted, -⟩ := (isPending id).mp nowPending
      · exact kept id wasPending isLive
      · exact ((live id).mp isLive).2 isDeleted
    · intro id new
      obtain ⟨wasNew, differs⟩ := isNew id new
      refine (recorded.newPending id wasNew).imp_right fun wasPending => ?_
      exact Finset.mem_erase.mpr ⟨differs, wasPending⟩
    · exact fun id new => recorded.unsaved id (isNew id new).1
  unfold PersistentStore.recordDeletion
  dsimp only
  by_cases wasNew : deleted ∈ persistent.neverSaved
  · have first := recordedFirst (persistent.neverSaved.erase deleted) persistent.pendingDeletion
      (fun id new => (Finset.mem_erase.mp new).symm) (by simp [wasNew])
    split_ifs
    · exact first.deletePendingDeletions
    · exact first
  · have first := recordedFirst persistent.neverSaved (persistent.pendingDeletion ++ [deleted])
      (fun id new => ⟨new, fun same => wasNew (same ▸ new)⟩) (by simp [wasNew])
    split_ifs
    · exact first.deletePendingDeletions
    · exact first

/-! ## Saving -/

/-- Rows of live nodes are stored that were pending save, and nothing else happens. -/
structure SavesSome (persistent next : PersistentStore) : Prop where
  store : next.store = persistent.store
  neverSaved : next.neverSaved = persistent.neverSaved
  pendingDeletion : next.pendingDeletion = persistent.pendingDeletion
  pendingSave : next.pendingSave ⊆ persistent.pendingSave
  autoSaveInterval : next.autoSaveInterval = persistent.autoSaveInterval
  tracked : persistent.Tracked none -> next.Tracked none

theorem SavesSome.refl (persistent : PersistentStore) : persistent.SavesSome persistent :=
  ⟨rfl, rfl, rfl, Finset.Subset.refl _, rfl, fun tracked => tracked⟩

theorem SavesSome.trans {middle next : PersistentStore} (first : persistent.SavesSome middle)
    (second : middle.SavesSome next) : persistent.SavesSome next where
  store := second.store.trans first.store
  neverSaved := second.neverSaved.trans first.neverSaved
  pendingDeletion := second.pendingDeletion.trans first.pendingDeletion
  pendingSave := second.pendingSave.trans first.pendingSave
  autoSaveInterval := second.autoSaveInterval.trans first.autoSaveInterval
  tracked tracked := second.tracked (first.tracked tracked)

theorem eq_rootNode_of_parentNode (sound : store.Sound)
    (there : store.heap.lookup address = some node) (noParent : node.parentNode = none) :
    address = store.rootNode := by
  obtain ⟨path, reached⟩ := sound.indexed.tree.reached address ((live_iff _ _).mpr ⟨node, there⟩)
  cases reached with
  | root => rfl
  | child _ isChild =>
    have hasParent := (sound.indexed.tree.links _ _).mp isChild
    simp [parentOf, there, noParent] at hasParent

theorem savesSome_node (there : persistent.store.heap.lookup address = some node) :
    persistent.SavesSome
      (if node.parentNode = none then persistent.storeRow node
        else if node.id ∈ persistent.pendingSave then
          { persistent.storeRow node with
            pendingSave := persistent.pendingSave.erase node.id }
        else persistent) := by
  split_ifs with noParent isPending
  · refine ⟨rfl, rfl, rfl, Finset.Subset.refl _, rfl, fun tracked => ?_⟩
    have isRoot := eq_rootNode_of_parentNode tracked.sound there noParent
    exact tracked.storeRow there (isRoot ▸ tracked.sound.not_isReported_rootNode)
  · refine ⟨rfl, rfl, rfl, Finset.erase_subset _ _, rfl, fun tracked => ?_⟩
    -- The node that is pending is this one, so that it is live.
    have notReported : ¬ IsReported persistent.store.calls address := by
      obtain ⟨place, itsId, notReported⟩ :=
        (Store.isLive_iff _ _).mp (tracked.pending node.id isPending).1
      have same : place = address := tracked.sound.address_unique itsId (by simp [idOf, there])
      exact same ▸ notReported
    have stored := tracked.storeRow there notReported
    refine ⟨stored.sound, stored.root, ?_, stored.new, ?_, stored.gone, stored.kept⟩
    · exact fun id stillPending => tracked.pending id (Finset.mem_of_mem_erase stillPending)
    · intro id row has
      right
      by_cases isStored : id = node.id
      · subst isStored
        have hasRow : persistent.store.HasRow node.id (rowOf persistent.store.heap node) :=
          ⟨address, contentAt_eq_some_iff.mpr ⟨node, there, rfl, rfl⟩, notReported⟩
        rw [tracked.sound.hasRow_unique has hasRow]
        exact .inr (by simp [storeRow])
      · obtain isChanged | wasPending | wasStored := stored.saved id row has
        · cases isChanged
        · exact .inl (Finset.mem_erase.mpr ⟨isStored, wasPending⟩)
        · exact .inr wasStored
  · exact .refl persistent

theorem savesSome_foldl {saveChild : PersistentStore -> Address -> PersistentStore}
    (saves : ∀ persistent address, SavesSome persistent (saveChild persistent address))
    (children : List Address) (persistent : PersistentStore) :
    persistent.SavesSome (children.foldl saveChild persistent) := by
  induction children generalizing persistent with
  | nil => exact .refl persistent
  | cons child children ih => exact (saves persistent child).trans (ih _)

theorem savesSome_saveNodeTo (depth : Nat) (persistent : PersistentStore) (address : Address) :
    persistent.SavesSome (saveNodeTo depth persistent address) := by
  induction depth generalizing persistent address with
  | zero => exact .refl persistent
  | succ depth ih =>
    rw [saveNodeTo]
    split
    · exact .refl persistent
    · rename_i node there
      exact (savesSome_node there).trans
        (savesSome_foldl ih node.childNodes _)

variable {id : NodeId}

theorem notMem_pendingSave_saveNodeTo {depth : Nat} {other : Address} {path : List Address}
    (reached : PathTo (childrenOf persistent.store.heap) address other path)
    (deep : path.length < depth) (itsId : idOf persistent.store.heap other = some id)
    (hasParent : parentOf persistent.store.heap other ≠ none) :
    id ∉ (saveNodeTo depth persistent address).pendingSave := by
  induction depth generalizing persistent address path with
  | zero => omega
  | succ depth ih =>
    rw [saveNodeTo]
    cases path with
    | nil =>
      cases reached
      obtain ⟨node, there, rfl⟩ := Option.map_eq_some_iff.mp itsId
      have notRoot : node.parentNode ≠ none := by
        simpa [parentOf, there] using hasParent
      rw [there]
      refine fun stillPending => absurd
        ((savesSome_foldl (savesSome_saveNodeTo depth) node.childNodes _).pendingSave
          stillPending) ?_
      rw [if_neg notRoot]
      split_ifs with wasPending
      · exact Finset.notMem_erase _ _
      · exact wasPending
    | cons above path =>
      obtain ⟨child, isChild, rest, restPath, sameLength⟩ := reached.exists_first
      cases there : persistent.store.heap.lookup address with
      | none => simp [childrenOf, there] at isChild
      | some node =>
        have isChild : child ∈ node.childNodes := by
          simpa [childrenOf, there] using isChild
        obtain ⟨before, after, split⟩ := List.append_of_mem isChild
        dsimp only
        rw [split, List.foldl_append]
        refine fun stillPending => absurd
          ((savesSome_foldl (savesSome_saveNodeTo depth) after _).pendingSave
            stillPending) ?_
        have same := ((savesSome_node there).trans
          (savesSome_foldl (savesSome_saveNodeTo depth) before _)).store
        refine ih (by rw [same]; exact restPath) ?_ ?_ ?_
        · simp only [List.length_cons] at deep
          omega
        · rw [same]
          exact itsId
        · rw [same]
          exact hasParent

theorem Tracked.pendingSave_saveNode (tracked : persistent.Tracked none) :
    (persistent.saveNode persistent.store.rootNode).pendingSave = ∅ := by
  refine Finset.eq_empty_of_forall_notMem fun id stillPending => ?_
  have saves := savesSome_saveNodeTo persistent.store.heap.length persistent
    persistent.store.rootNode
  obtain ⟨isLive, notRoot⟩ := tracked.pending id (saves.pendingSave stillPending)
  obtain ⟨address, itsId, -⟩ := (Store.isLive_iff _ _).mp isLive
  obtain ⟨node, there, -⟩ := Option.map_eq_some_iff.mp itsId
  obtain ⟨path, reached⟩ :=
    tracked.sound.indexed.tree.reached address ((live_iff _ _).mpr ⟨node, there⟩)
  have deep : path.length < persistent.store.heap.length := by
    have among : ∀ other, Live persistent.store.heap other ->
        other ∈ persistent.store.heap.map (·.1) := by
      intro other otherLive
      obtain ⟨otherNode, otherThere⟩ := (live_iff _ _).mp otherLive
      exact List.mem_map.mpr ⟨_, mem_of_lookup_eq_some otherThere, rfl⟩
    simpa using tracked.sound.indexed.tree.length_lt_of_pathTo reached among
  refine notMem_pendingSave_saveNodeTo reached deep itsId ?_ stillPending
  intro noParent
  have isRoot := eq_rootNode_of_parentNode tracked.sound there
    (by simpa [parentOf, there] using noParent)
  rw [isRoot, tracked.root] at itsId
  exact notRoot (Option.some.inj itsId).symm

@[simp] theorem save_autoSaveInterval (persistent : PersistentStore) :
    persistent.save.autoSaveInterval = persistent.autoSaveInterval := by
  have saves := savesSome_saveNodeTo persistent.store.heap.length persistent
    persistent.store.rootNode
  unfold save
  split_ifs
  · exact saves.autoSaveInterval
  · rfl

theorem Recorded.save (recorded : persistent.Recorded none) :
    persistent.save.Recorded none ∧ persistent.save.pendingSave = ∅ ∧
      persistent.save.pendingDeletion = [] ∧ persistent.save.store = persistent.store := by
  have saves := savesSome_saveNodeTo persistent.store.heap.length persistent
    persistent.store.rootNode
  unfold PersistentStore.save
  split_ifs with somePending
  · have tracked := (saves.tracked recorded.toTracked).deletePendingDeletions
    refine ⟨⟨⟨tracked.sound, tracked.root, tracked.pending, by simp, tracked.saved, tracked.gone,
      tracked.kept⟩, by simp, by simp⟩, ?_, rfl, saves.store⟩
    exact recorded.toTracked.pendingSave_saveNode
  · push Not at somePending
    refine ⟨⟨⟨recorded.sound, recorded.root, recorded.pending, by simp, recorded.saved,
      recorded.gone, recorded.kept⟩, by simp, by simp⟩, somePending.1, somePending.2, rfl⟩

/-! ## The steps -/

theorem Recorded.of_hasRow (recorded : persistent.Recorded none) {next : Store} (sound : next.Sound)
    (root : idOf next.heap next.rootNode = some rootId)
    (hasRow : ∀ id row, next.HasRow id row ↔ persistent.store.HasRow id row) :
    ({ persistent with store := next } : PersistentStore).Recorded none := by
  have live : ∀ id, next.IsLive id ↔ persistent.store.IsLive id := by
    intro id
    simp only [Store.IsLive, hasRow]
  refine ⟨⟨sound, root, ?_, ?_, ?_, ?_, ?_⟩, recorded.newPending, recorded.unsaved⟩
  · exact fun id isPending => by
      rw [live]
      exact recorded.pending id isPending
  · exact fun id isNew => by
      rw [live]
      exact recorded.new id isNew
  · exact fun id row has => recorded.saved id row ((hasRow id row).mp has)
  · exact fun id hasKey => by
      rw [live]
      exact recorded.gone id hasKey
  · exact fun id isPending => by
      rw [live]
      exact recorded.kept id isPending

theorem Recorded.of_modify (recorded : persistent.Recorded none) {next : Store} (sound : next.Sound)
    {change : StoreNode -> StoreNode} (keeps : KeepsLinks change) {address : Address}
    (itsId : idOf persistent.store.heap address = some id)
    (heap : next.heap = modify persistent.store.heap address change)
    (rootNode : next.rootNode = persistent.store.rootNode)
    (reported : ∀ other, IsReported next.calls other ↔ IsReported persistent.store.calls other) :
    ({ persistent with store := next } : PersistentStore).Recorded (some id) := by
  have live := Store.isLive_modify keeps heap reported
  refine ⟨⟨sound, ?_, ?_, ?_, ?_, ?_, ?_⟩, ?_, recorded.unsaved⟩
  · dsimp only
    rw [heap, rootNode, idOf_modify keeps]
    exact recorded.root
  · exact fun other isPending => by
      rw [live]
      exact recorded.pending other isPending
  · exact fun other isNew => by
      rw [live]
      exact recorded.new other isNew
  · intro other row has
    by_cases same : other = id
    · exact .inl (congrArg some same)
    · have had := (Store.hasRow_modify keeps itsId heap reported same row).mp has
      exact .inr ((recorded.saved other row had).resolve_left (by simp))
  · exact fun other hasKey => by
      rw [live]
      exact recorded.gone other hasKey
  · exact fun other isPending => by
      rw [live]
      exact recorded.kept other isPending
  · exact fun other isNew => .inr ((recorded.newPending other isNew).resolve_left (by simp))

/-- A node is added under an id that is neither taken nor pending deletion, and is
still to be stored. -/
theorem Recorded.of_addChild (recorded : persistent.Recorded none) (sound : next.Sound)
    {parent : Address} (parentLive : Live persistent.store.heap parent)
    (fresh : ¬ Live persistent.store.heap address) {newId : NodeId}
    (free : persistent.store.isTaken newId = false)
    (notPending : newId ∉ persistent.pendingDeletion)
    (heap : next.heap = addChild persistent.store.heap parent type newId address)
    (rootNode : next.rootNode = persistent.store.rootNode)
    (reported : ∀ other, IsReported next.calls other ↔ IsReported persistent.store.calls other) :
    ({ persistent with
        store := next
        neverSaved := insert newId persistent.neverSaved } : PersistentStore).Recorded
      (some newId) := by
  obtain ⟨newLive, others⟩ := recorded.sound.hasRow_addChild parentLive fresh heap reported
  obtain ⟨-, notRoot, isFree⟩ := (Store.not_taken_iff newId).mp free
  have wasNotLive : ¬ persistent.store.IsLive newId := by
    intro wasLive
    obtain ⟨place, itsId, -⟩ := (Store.isLive_iff _ _).mp wasLive
    rw [← recorded.sound.indexed.mapped] at itsId
    simp [hasKey, itsId] at isFree
  have live : ∀ id, id ≠ newId -> (next.IsLive id ↔ persistent.store.IsLive id) := by
    intro id differs
    simp only [Store.IsLive, others id _ differs]
  have stillLive : ∀ id, persistent.store.IsLive id -> next.IsLive id := by
    intro id wasLive
    refine (live id ?_).mpr wasLive
    rintro rfl
    exact wasNotLive wasLive
  refine ⟨⟨sound, ?_, ?_, ?_, ?_, ?_, ?_⟩, ?_, ?_⟩
  · have elsewhere : persistent.store.rootNode ≠ address := by
      intro isRoot
      exact fresh (isRoot ▸ recorded.sound.indexed.tree.rootLive)
    have content := contentAt_addChild recorded.sound.indexed parentLive fresh type newId
    rw [heap, rootNode, idOf_eq_contentAt, content, if_neg elsewhere, ← idOf_eq_contentAt]
    exact recorded.root
  · exact fun id isPending => (recorded.pending id isPending).imp_left (stillLive id)
  · intro id isNew
    rcases Finset.mem_insert.mp isNew with rfl | wasNew
    · exact ⟨newLive, notRoot⟩
    · exact (recorded.new id wasNew).imp_left (stillLive id)
  · intro id row has
    by_cases isNew : id = newId
    · exact .inl (congrArg some isNew)
    · have had := (others id row isNew).mp has
      exact .inr ((recorded.saved id row had).resolve_left (by simp))
  · exact fun id hasKey => (recorded.gone id hasKey).imp_left (stillLive id)
  · intro id isPending
    have differs : id ≠ newId := by
      rintro rfl
      exact notPending isPending
    exact (live id differs).not.mpr (recorded.kept id isPending)
  · intro id isNew
    rcases Finset.mem_insert.mp isNew with rfl | wasNew
    · exact .inl rfl
    · exact .inr ((recorded.newPending id wasNew).resolve_left (by simp))
  · intro id isNew
    rcases Finset.mem_insert.mp isNew with rfl | wasNew
    · by_contra hasKey
      rcases recorded.gone id hasKey with wasLive | isPending
      · exact wasNotLive wasLive
      · exact notPending isPending
    · exact recorded.unsaved id wasNew

theorem not_isReported_of_unmarked (sound : store.Sound)
    (there : store.heap.lookup address = some node) (unmarked : node.undergoingDeletion = false) :
    ¬ IsReported store.calls address := by
  rintro ⟨deletion, mem, rfl⟩
  obtain ⟨marked, markedThere, -, -, isMarked⟩ :=
    sound.guarded.holds deletion (mem_deletionsOf mem rfl)
  rw [there] at markedThere
  cases markedThere
  rw [isMarked (sound.guarded.emptied deletion mem).1] at unmarked
  cases unmarked

/-- A call of `attribute_store_add_node` passes its checks. -/
def Admits (validation : Validation) (store : Store) (type : NodeType) (parentNode : NodeId)
    (address : Address) : Prop :=
  type ≠ invalidAttributeType ∧ ¬ Live store.heap address ∧
    ∃ parent above, store.idNodeMap.lookup parentNode = some parent ∧
      store.heap.lookup parent = some above ∧ above.undergoingDeletion = false ∧
      validation.isNodeAdditionValid type above.type = true

theorem addNode_eq_some_iff (sound : store.Sound) (validation : Validation) (type : NodeType)
    (parentNode : NodeId) (address : Address) (newId : NodeId) :
    (store.addNode validation type parentNode address).1 = some newId ↔
      Admits validation store type parentNode address ∧ store.getNextId = some newId := by
  unfold Store.addNode Admits
  rw [sound.getNodeFromId]
  by_cases isInvalid : type = invalidAttributeType
  · simp [isInvalid]
  · cases isMapped : store.idNodeMap.lookup parentNode with
    | none => simp [isInvalid]
    | some parent =>
      have itsId := (sound.indexed.mapped parentNode parent).mp isMapped
      obtain ⟨above, there, -⟩ := Option.map_eq_some_iff.mp itsId
      simp only [if_neg isInvalid, there]
      cases isMarked : above.undergoingDeletion with
      | true => simp [there, isMarked]
      | false =>
        cases isValid : validation.isNodeAdditionValid type above.type with
        | false => simp [there, isValid]
        | true =>
          cases isUsed : hasKey store.heap address with
          | true => simp [Live, isUsed]
          | false => cases store.getNextId <;> simp_all [Live]

/-- The next id is not pending deletion. -/
def HandsOutUnused (validation : Validation) (persistent : PersistentStore) (type : NodeType)
    (parentNode : NodeId) (address : Address) : Prop :=
  Admits validation persistent.store type parentNode address ->
    ∀ newId, persistent.store.getNextId = some newId -> newId ∉ persistent.pendingDeletion

theorem Recorded.addNode (recorded : persistent.Recorded none) {parentNode : NodeId}
    (unused : persistent.HandsOutUnused validation type parentNode address) :
    (persistent.addNode validation type parentNode address).Recorded none := by
  unfold PersistentStore.addNode
  rcases Store.addNode_cases recorded.sound validation type parentNode address with
    refused | ⟨newId, parent, above, there, unmarked, fresh, free, added⟩
  · rw [refused]
    exact recorded
  · have sound := recorded.sound.addNode validation type parentNode address
    obtain ⟨admits, isNext⟩ := (addNode_eq_some_iff recorded.sound validation type parentNode
      address newId).mp (by rw [added])
    have notPending : newId ∉ persistent.pendingDeletion := unused admits newId isNext
    have parentLive : Live persistent.store.heap parent := (live_iff _ _).mpr ⟨above, there⟩
    have differs : parent ≠ address := by
      rintro rfl
      exact fresh parentLive
    rw [added] at sound ⊢
    have itself : (addChild persistent.store.heap parent type newId address).lookup address =
        some (.new (some parent) type newId) := by
      rw [lookup_addChild differs, if_pos rfl]
    refine Recorded.storeAttribute itself ?_ ?_
    · exact not_isReported_of_unmarked sound itself rfl
    · exact recorded.of_addChild sound parentLive fresh free notPending rfl rfl
        (isReported_cons_of_ne (by simp) _)

theorem setNodeAttributeValue_cases (sound : store.Sound) (validation : Validation) (id : NodeId)
    (valueState : ValueState) (value : List UInt8) :
    nodeToModify validation store id valueState value = none ∧
        (store.setNodeAttributeValue validation id valueState value = store ∨
          store.setNodeAttributeValue validation id valueState value =
            { store with calls := .reportsUpdated :: store.calls }) ∨
      ∃ address node change,
        nodeToModify validation store id valueState value = some address ∧
        store.heap.lookup address = some node ∧ node.id = id ∧
        node.undergoingDeletion = false ∧ KeepsLinks change ∧
        (change node).undergoingDeletion = false ∧
        store.setNodeAttributeValue validation id valueState value =
          { store with
            heap := modify store.heap address change
            calls := .reportsUpdated :: store.calls } := by
  have byId := sound.getNodeFromId id
  unfold Store.setNodeAttributeValue nodeToModify
  split
  · rename_i isInvalid
    rw [Store.getNodeFromId, if_pos isInvalid]
    exact .inl ⟨rfl, .inl rfl⟩
  · rw [byId]
    split
    · rename_i isStore
      obtain ⟨unmapped, rfl⟩ := Prod.mk.inj isStore
      exact .inl ⟨by rw [unmapped]; rfl, .inl rfl⟩
    · rename_i address stored isStore
      obtain ⟨isMapped, rfl⟩ := Prod.mk.inj isStore
      have itsId := (sound.indexed.mapped id address).mp isMapped
      obtain ⟨node, there, sameId⟩ := Option.map_eq_some_iff.mp itsId
      simp only [isMapped, there, Option.filter_some]
      by_cases isMarked : node.undergoingDeletion = true
      · simp [isMarked]
      · by_cases identical : Store.isValueIdentical node valueState value = true
        · simp [isMarked, identical]
        · by_cases valid : validation.isWriteOperationValid node.type value = true
          · cases valueState with
            | desired =>
              right
              refine ⟨address, node, _, ?_, there, sameId, by simpa using isMarked,
                Store.keepsLinks_desired value, by simpa using isMarked, ?_⟩
              all_goals simp [isMarked, identical, valid]
            | reported =>
              right
              refine ⟨address, node, _, ?_, there, sameId, by simpa using isMarked,
                Store.keepsLinks_reported value, by simpa using isMarked, ?_⟩
              all_goals simp [isMarked, identical, valid]
            | desiredOrReported => simp [isMarked, identical, valid]
          · simp [isMarked, identical, valid]

section

variable (recorded : persistent.Recorded none)
include recorded

theorem Recorded.setNodeAttributeValue
    (validation : Validation) (id : NodeId) (valueState : ValueState) (value : List UInt8) :
    (persistent.setNodeAttributeValue validation id valueState value).Recorded none := by
  have sound := recorded.sound.setNodeAttributeValue validation id valueState value
  have reported : ∀ other, IsReported (.reportsUpdated :: persistent.store.calls) other ↔
      IsReported persistent.store.calls other :=
    isReported_cons_of_ne (by simp) persistent.store.calls
  unfold PersistentStore.setNodeAttributeValue
  rcases setNodeAttributeValue_cases recorded.sound validation id valueState value with
    ⟨notFound, same | touched⟩ |
      ⟨address, node, change, found, there, sameId, -, keeps, unmarked, changed⟩
  · rw [notFound, same]
    exact recorded
  · rw [notFound]
    rw [touched] at sound ⊢
    refine recorded.of_hasRow sound recorded.root fun other row => ?_
    apply Store.hasRow_congr
    · rfl
    · exact reported
  · rw [found]
    rw [changed] at sound ⊢
    have itsId : idOf persistent.store.heap address = some id := by simp [idOf, there, sameId]
    have itself : (modify persistent.store.heap address change).lookup address =
        some (change node) := by
      simp [lookup_modify, there]
    have changedId : (change node).id = id := (keeps.id node).trans sameId
    have pending := recorded.of_modify sound keeps itsId rfl rfl reported
    rw [← changedId] at pending
    refine Recorded.storeAttribute itself ?_ pending
    exact not_isReported_of_unmarked sound itself unmarked

theorem Recorded.deleteNode (id : NodeId) :
    ({ persistent with store := persistent.store.deleteNode id } : PersistentStore).Recorded
      none := by
  obtain ⟨rootNode, content, -⟩ := recorded.sound.contentAt_deleteNode id
  refine recorded.of_hasRow (recorded.sound.deleteNode id) ?_
    (recorded.sound.hasRow_deleteNode id)
  rw [rootNode, idOf_eq_contentAt, content, ← idOf_eq_contentAt]
  exact recorded.root

theorem Recorded.callbacksReturn :
    ({ persistent with store := persistent.store.callbacksReturn } : PersistentStore).Recorded
      none := by
  refine recorded.of_hasRow recorded.sound.callbacksReturn ?_
    recorded.sound.hasRow_callbacksReturn
  rw [recorded.sound.idOf_callbacksReturn]
  exact recorded.root

theorem Recorded.deleteChildren : persistent.deleteChildren.Recorded none := by
  have sound := recorded.sound.deleteChildren
  unfold PersistentStore.deleteChildren
  unfold Store.deleteChildren at sound ⊢
  cases isFirst : persistent.store.calls with
  | nil => exact recorded
  | cons call rest =>
    cases call with
    | deletesChildren deletion =>
      simp only [isFirst] at sound ⊢
      have before : ∀ address, IsReported (.deletesChildren deletion :: rest) address ↔
          IsReported rest address := isReported_cons_of_ne (by simp) rest
      split_ifs at sound ⊢ with ends isRoot
      · -- The root is cleared.
        obtain ⟨node, there, sameId⟩ := Option.map_eq_some_iff.mp recorded.root
        have pending := recorded.of_modify sound Store.keepsLinks_clear recorded.root rfl rfl
          fun other => (isReported_unwind .ok rest other).trans (isFirst ▸ (before other).symm)
        rw [← sameId] at pending
        refine @Recorded.storeAttribute _ _
          { node with reportedValue := [], desiredValue := [] } ?_ ?_ pending
        · simp [Store.returns, lookup_modify, there]
        · exact sound.not_isReported_rootNode
      · exact recorded.recordDeletion sound recorded.root
          (recorded.sound.hasRow_reportsDeleted isFirst)
      · -- The deletion of a child starts.
        have guarded : Guarded persistent.store.heap persistent.store.rootNode
            (.deletesChildren deletion :: rest) := isFirst ▸ recorded.sound.guarded
        have awaits := @Recorded.of_hasRow _ recorded
          { persistent.store with calls := .awaitsChild deletion :: rest }
          ⟨recorded.sound.indexed, guarded.replace rfl (by simp)⟩ recorded.root fun id row => by
            apply Store.hasRow_congr
            · rfl
            · intro address
              rw [isFirst, before]
              exact isReported_cons_of_ne (by simp) rest address
        exact awaits.deleteNode _
    | _ => exact recorded

end

/-- No step hands out an id that is pending deletion. -/
def ReusesNoPendingId (validation : Validation) (persistent : PersistentStore) : Action -> Prop
  | .operate (.addNode type parentNode address) =>
      persistent.store.acceptsCalls = true ->
        persistent.HandsOutUnused validation type parentNode address
  | _ => True

/-- A step that reuses no pending id keeps rows and pending lists in step. -/
theorem Recorded.step (recorded : persistent.Recorded none)
    (reusesNone : persistent.ReusesNoPendingId validation action) :
    (persistent.step validation action).Recorded none := by
  cases action with
  | operate operation =>
    cases operation with
    | addNode type parentNode address =>
      show (if persistent.store.acceptsCalls then _ else persistent).Recorded none
      split
      · rename_i accepts
        exact recorded.addNode (reusesNone accepts)
      · exact recorded
    | deleteNode id =>
      show (if persistent.store.acceptsCalls then _ else persistent).Recorded none
      split
      · exact recorded.deleteNode id
      · exact recorded
    | setNodeAttributeValue id valueState value =>
      show (if persistent.store.acceptsCalls then _ else persistent).Recorded none
      split
      · exact recorded.setNodeAttributeValue validation id valueState value
      · exact recorded
    | deleteChildren => exact recorded.deleteChildren
    | callbacksReturn => exact recorded.callbacksReturn
  | save => exact recorded.save.1
  | setAutoSaveInterval seconds =>
    exact ⟨⟨recorded.sound, recorded.root, recorded.pending, recorded.new, recorded.saved,
      recorded.gone, recorded.kept⟩, recorded.newPending, recorded.unsaved⟩

/-- At the start the saved rows are those of the store. -/
theorem lookup_rows_initial (rootNode : Address) (lastAssignedId : NodeId) (interval : Nat)
    (id : NodeId) (row : Row) :
    (initial rootNode lastAssignedId interval).rows.lookup id = some row ↔
      (initial rootNode lastAssignedId interval).store.HasRow id row := by
  have content : ∀ address,
      contentAt (initial rootNode lastAssignedId interval).store.heap address =
        if address = rootNode then some (rootId, ⟨Store.rootType, nullId, [], []⟩) else none := by
    intro address
    rw [contentAt, initial, Store.initial, lookup_cons_map]
    split <;> rfl
  have notReported : ∀ address,
      ¬ IsReported (initial rootNode lastAssignedId interval).store.calls address := by
    simp [IsReported, initial, Store.initial]
  simp only [Store.HasRow, content, notReported, not_false_eq_true, and_true]
  rw [initial, lookup_cons_map, lookup_nil_map]
  constructor
  · intro isRow
    refine ⟨rootNode, ?_⟩
    split_ifs at isRow with isRoot
    cases isRow
    rw [if_pos rfl, isRoot]
  · rintro ⟨address, isContent⟩
    split_ifs at isContent
    cases isContent
    rfl

theorem recorded_initial (rootNode : Address) (lastAssignedId : NodeId) (interval : Nat) :
    (initial rootNode lastAssignedId interval).Recorded none := by
  have rows := lookup_rows_initial rootNode lastAssignedId interval
  refine ⟨⟨Store.sound_initial rootNode lastAssignedId, ?_, ?_, ?_, ?_, ?_, ?_⟩, ?_, ?_⟩
  · simp [idOf, initial, Store.initial, StoreNode.new]
  · simp [initial]
  · simp [initial]
  · exact fun id row has => .inr (.inr ((rows id row).mpr has))
  · intro id hasKey
    obtain ⟨row, isRow⟩ := Option.ne_none_iff_exists'.mp hasKey
    exact .inl ⟨row, (rows id row).mp isRow⟩
  all_goals simp [initial]

/-! ## Runs -/

/-- The datastore and the bookkeeping determine the tree. -/
structure Determined (persistent : PersistentStore) : Prop where
  saved : ∀ id row, persistent.store.HasRow id row -> id ≠ rootId ->
    id ∈ persistent.pendingSave ∨ persistent.rows.lookup id = some row
  gone : ∀ id, persistent.rows.lookup id ≠ none -> ¬ persistent.store.IsLive id ->
    id ∈ persistent.pendingDeletion
  kept : ∀ id, persistent.store.IsLive id -> id ∉ persistent.pendingDeletion
  afterSave : ∀ id row, persistent.save.rows.lookup id = some row ↔ persistent.store.HasRow id row

theorem Recorded.lookup_save (recorded : persistent.Recorded none) (id : NodeId) (row : Row) :
    persistent.save.rows.lookup id = some row ↔ persistent.store.HasRow id row := by
  obtain ⟨saved, nonePending, noneDeleted, sameStore⟩ := recorded.save
  have stored : ∀ row, persistent.store.HasRow id row ->
      persistent.save.rows.lookup id = some row := by
    intro row has
    rw [← sameStore] at has
    rcases saved.saved id row has with isChanged | isPending | isStored
    · cases isChanged
    · rw [nonePending] at isPending
      exact absurd isPending (Finset.notMem_empty id)
    · exact isStored
  refine ⟨fun isRow => ?_, stored row⟩
  rcases saved.gone id (by rw [isRow]; simp) with ⟨liveRow, has⟩ | isPending
  · rw [sameStore] at has
    have same := stored liveRow has
    rw [isRow] at same
    cases same
    exact has
  · rw [noneDeleted] at isPending
    exact absurd isPending List.not_mem_nil

theorem Recorded.determined (recorded : persistent.Recorded none) : persistent.Determined where
  saved id row has _ := (recorded.saved id row has).resolve_left (by simp)
  gone id hasKey notLive := (recorded.gone id hasKey).resolve_left notLive
  kept id isLive isPending := recorded.kept id isPending isLive
  afterSave := recorded.lookup_save

@[simp] theorem storeAttribute_store (persistent : PersistentStore) (address : Address) :
    (persistent.storeAttribute address).store = persistent.store := by
  unfold storeAttribute
  split
  · rfl
  · split_ifs <;> rfl

@[simp] theorem storeAttribute_pendingDeletion (persistent : PersistentStore) (address : Address) :
    (persistent.storeAttribute address).pendingDeletion = persistent.pendingDeletion := by
  unfold storeAttribute
  split
  · rfl
  · split_ifs <;> rfl

theorem Recorded.reusesNoPendingId (recorded : persistent.Recorded none)
    (determined : (persistent.step validation action).Determined) :
    persistent.ReusesNoPendingId validation action := by
  match action with
  | .operate (.addNode type parentNode address) =>
    intro accepts admits newId isNext isPending
    have handsOut := (addNode_eq_some_iff recorded.sound validation type parentNode address
      newId).mpr ⟨admits, isNext⟩
    rcases Store.addNode_cases recorded.sound validation type parentNode address with
      refused | ⟨assigned, parent, above, there, unmarked, fresh, free, added⟩
    · rw [refused] at handsOut
      cases handsOut
    · rw [added] at handsOut
      cases handsOut
      have stepped : persistent.step validation (.operate (.addNode type parentNode address)) =
          persistent.addNode validation type parentNode address :=
        if_pos accepts
      rw [stepped, PersistentStore.addNode, added] at determined
      refine determined.kept newId ?_ (by simpa using isPending)
      rw [storeAttribute_store]
      exact (recorded.sound.hasRow_addChild ((live_iff _ _).mpr ⟨above, there⟩) fresh rfl
        (isReported_cons_of_ne (by simp) _)).1
  | .operate (.deleteNode _) => trivial
  | .operate (.setNodeAttributeValue _ _ _) => trivial
  | .operate .deleteChildren => trivial
  | .operate .callbacksReturn => trivial
  | .save => trivial
  | .setAutoSaveInterval _ => trivial

/-- The datastore and the bookkeeping determine the tree in every state of a run
exactly when no id is handed out that is pending deletion. -/
theorem determined_run (validation : Validation) (rootNode : Address) (lastAssignedId : NodeId)
    (interval : Nat) (actions : List Action) :
    (∀ done, done <+: actions ->
        (run (step validation) (initial rootNode lastAssignedId interval) done).Determined) ↔
      StepsMeet (step validation) (ReusesNoPendingId validation)
        (initial rootNode lastAssignedId interval) actions :=
  throughout_iff_of_invariant (fun persistent => persistent.Recorded none) Determined
    (fun _ recorded => recorded.determined) (fun _ _ recorded => recorded.step)
    (fun _ _ recorded => recorded.reusesNoPendingId)
    (recorded_initial rootNode lastAssignedId interval) actions

/-- A node is added and deleted before it is saved. -/
def addsAndDeletes (id : NodeId) : List Action :=
  [.operate (.addNode 2 rootId 200), .operate .callbacksReturn, .operate (.deleteNode id),
    .operate .deleteChildren, .operate .callbacksReturn]

/-- A node is saved and deleted, and the other ids are all handed out and given back
before the next save. -/
def reusesPendingId : List Action :=
  [.operate (.addNode 2 rootId 200), .operate .callbacksReturn, .save, .operate (.deleteNode 2),
      .operate .deleteChildren, .operate .callbacksReturn] ++
    (List.range (2 ^ 32 - 3)).flatMap (fun index => addsAndDeletes (3 + UInt32.ofNat index)) ++
    [.operate (.addNode 2 rootId 200)]

/-- The node with id 2 is saved and deleted. -/
def pendingDeletionOfTwo (lastAssignedId : NodeId) : PersistentStore where
  store := .initial 100 lastAssignedId
  neverSaved := ∅
  pendingSave := ∅
  pendingDeletion := [2]
  rows := [(2, ⟨2, rootId, [], []⟩), (rootId, ⟨Store.rootType, nullId, [], []⟩)]
  autoSaveInterval := 10

theorem getNextId_of_free (free : store.isTaken (store.lastAssignedId + 1) = false) :
    store.getNextId = some (store.lastAssignedId + 1) := by
  show store.nextFree (4294967295 + 1) _ = _
  rw [Store.nextFree, if_neg (by simp [free])]

theorem addNode_initial (notInvalid : id + 1 ≠ invalidNode) (notRoot : id + 1 ≠ rootId) :
    (Store.initial 100 id).addNode Store.noValidation 2 rootId 200 =
      (some (id + 1),
        { Store.initial 100 id with
          heap :=
            [(100, { StoreNode.new none Store.rootType rootId with childNodes := [200] }),
              (200, StoreNode.new (some 100) 2 (id + 1))]
          idNodeMap := [(id + 1, 200), (rootId, 100)]
          lastAssignedId := id + 1
          calls := [.reportsCreated (id + 1)] }) := by
  have isNext : (Store.initial 100 id).getNextId = some (id + 1) := by
    apply getNextId_of_free
    refine (Store.not_taken_iff _).mpr ⟨notInvalid, notRoot, ?_⟩
    simp [hasKey, Store.initial, lookup_cons_map, notRoot]
  have byId : (Store.initial 100 id).getNodeFromId rootId = (some 100, Store.initial 100 id) := rfl
  rw [Store.addNode, if_neg (by decide), byId]
  simp only [isNext]
  simp [Store.initial, StoreNode.new, Store.noValidation, hasKey, addChild, modify, assign,
    eraseKey, lookup_cons_map, notRoot.symm]

theorem run_addsAndDeletes (notInvalid : id + 1 ≠ invalidNode) (notRoot : id + 1 ≠ rootId) :
    run (step Store.noValidation) (pendingDeletionOfTwo id) (addsAndDeletes (id + 1)) =
      pendingDeletionOfTwo (id + 1) := by
  have added := addNode_initial notInvalid notRoot
  have first : step Store.noValidation (pendingDeletionOfTwo id)
      (.operate (.addNode 2 rootId 200)) =
        (pendingDeletionOfTwo id).addNode Store.noValidation 2 rootId 200 := rfl
  rw [addsAndDeletes, run_cons, first, addNode]
  simp only [pendingDeletionOfTwo, added]
  simp [Store.initial, StoreNode.new, step, call, storeAttribute, recordDeletion,
    deleteChildren, Store.acceptsCalls, Store.deleteNode, Store.getNodeFromId,
    Store.deleteChildren, Store.firstChild, Store.callbacksReturn, Store.returns, Store.unwind,
    destroy, destroyTo, removeChildLink, modify, assign, eraseKey, lookup_cons_map, notInvalid,
    notRoot.symm]

theorem run_addsAndDeletes_range {count : Nat} (fits : count + 3 ≤ 2 ^ 32) :
    run (step Store.noValidation) (pendingDeletionOfTwo 2)
        ((List.range count).flatMap fun index => addsAndDeletes (3 + UInt32.ofNat index)) =
      pendingDeletionOfTwo (2 + UInt32.ofNat count) := by
  induction count with
  | zero => rfl
  | succ count ih =>
    have next : 3 + UInt32.ofNat count = 2 + UInt32.ofNat count + 1 := by
      rw [UInt32.add_comm 2, UInt32.add_assoc, UInt32.add_comm]
      rfl
    have later : 2 + UInt32.ofNat (count + 1) = 2 + UInt32.ofNat count + 1 := by
      rw [UInt32.ofNat_add, UInt32.add_assoc]
      rfl
    have value : (2 + UInt32.ofNat count + 1).toNat = count + 3 := by
      have small : count < UInt32.size := by
        rw [UInt32.size]
        omega
      rw [← next, UInt32.toNat_add, UInt32.toNat_ofNat_of_lt' small]
      show (3 + count) % 2 ^ 32 = count + 3
      omega
    have differs : ∀ id : NodeId, id.toNat < 3 -> 2 + UInt32.ofNat count + 1 ≠ id := by
      rintro id small rfl
      omega
    rw [List.range_succ, List.flatMap_append, run_append, ih (by omega),
      List.flatMap_singleton, next, later]
    exact run_addsAndDeletes (differs _ (by decide)) (differs _ (by decide))

/-- The id of the node that is pending deletion is handed out again: the next save
takes the row of the new node away. -/
theorem not_determined_reusesPendingId :
    ¬ (run (step Store.noValidation) (initial 100 1 10) reusesPendingId).Determined := by
  intro determined
  have before : run (step Store.noValidation) (initial 100 1 10)
      [.operate (.addNode 2 rootId 200), .operate .callbacksReturn, .save,
        .operate (.deleteNode 2), .operate .deleteChildren, .operate .callbacksReturn] =
      pendingDeletionOfTwo 2 := rfl
  have lastId : 2 + UInt32.ofNat (2 ^ 32 - 3) = 4294967295 := by decide
  rw [reusesPendingId, run_append, run_append, before, run_addsAndDeletes_range (by decide),
    lastId] at determined
  have calls : (run (step Store.noValidation) (pendingDeletionOfTwo 4294967295)
      [.operate (.addNode 2 rootId 200)]).store.calls = [.reportsCreated 2] := by
    decide
  refine determined.kept 2 ((Store.isLive_iff _ _).mpr ⟨200, by decide, ?_⟩) (by decide)
  rintro ⟨deletion, mem, -⟩
  rw [calls] at mem
  simp at mem

end PersistentStore

end AttributeStore
