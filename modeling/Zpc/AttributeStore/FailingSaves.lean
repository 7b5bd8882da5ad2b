import Mathlib.Data.List.Enum
import Zpc.AttributeStore.Bookkeeping

/-!
# Saves with a failing datastore

Any operation of the datastore may fail during a save.  A node is taken from the nodes that
are pending save whether its row was stored or not, and an entry of the queue of deletions
whether its row was deleted or not, so that a failure is forgotten.  A failure to store the
root comes first and leaves everything else pending.
-/

namespace AttributeStore

open Foundation

/-- An operation of the datastore during a save: the row of a node is stored, or that of an
entry of the queue of deletions is deleted. -/
inductive Operation
  | store (id : NodeId)
  | delete (position : Nat)
  deriving DecidableEq

/-- A save with the operations it has reached.  `isOk` tells whether the last status was
`SL_STATUS_OK`. -/
structure Saving where
  persistent : PersistentStore
  isOk : Bool
  reached : List Operation

namespace Saving

variable (fails : Operation -> Bool)

/-- `STORE_ATTRIBUTE` and `STORE_ROOT_ATTRIBUTE`. -/
def storeRow (saving : Saving) (node : StoreNode) : Saving where
  persistent :=
    if fails (.store node.id) then saving.persistent else saving.persistent.storeRow node
  isOk := !fails (.store node.id)
  reached := saving.reached ++ [.store node.id]

/-- The part of `attribute_store_save_node_to_datastore` about the node itself. -/
def saveItself (saving : Saving) (node : StoreNode) : Saving :=
  if node.parentNode = none then saving.storeRow fails node
  else if node.id ∈ saving.persistent.pendingSave then
    let stored := saving.storeRow fails node
    { stored with
      persistent :=
        { stored.persistent with pendingSave := stored.persistent.pendingSave.erase node.id } }
  else saving

/-- `attribute_store_save_node_to_datastore`, to a depth. -/
def saveNodeTo : Nat -> Saving -> Address -> Saving
  | 0, saving, _ => saving
  | depth + 1, saving, address =>
      match saving.persistent.store.heap.lookup address with
      | none => saving
      | some node =>
          node.childNodes.foldl
            (fun saving child => if saving.isOk then saveNodeTo depth saving child else saving)
            (saving.saveItself fails node)

/-- One round of the loop of `attribute_store_delete_pending_deletions_from_datastore`. -/
def deletePending (saving : Saving) (entry : NodeId × Nat) : Saving :=
  if entry.1 ∈ saving.persistent.neverSaved then saving
  else
    { persistent :=
        if fails (.delete entry.2) then saving.persistent
        else { saving.persistent with rows := eraseKey saving.persistent.rows entry.1 }
      isOk := saving.isOk && !fails (.delete entry.2)
      reached := saving.reached ++ [.delete entry.2] }

/-- `attribute_store_delete_pending_deletions_from_datastore`. -/
def deletePendingDeletions (saving : Saving) : Saving :=
  let deleted := saving.persistent.pendingDeletion.zipIdx.foldl (deletePending fails) saving
  { deleted with persistent := { deleted.persistent with pendingDeletion := [] } }

end Saving

namespace PersistentStore

/-- `attribute_store_save_to_datastore`, when some operations of the datastore fail. -/
def saveWith (fails : Operation -> Bool) (persistent : PersistentStore) : Saving :=
  let started : Saving := { persistent := persistent, isOk := true, reached := [] }
  let saved :=
    if persistent.pendingSave ≠ ∅ ∨ persistent.pendingDeletion ≠ [] then
      (started.saveNodeTo fails persistent.store.heap.length
        persistent.store.rootNode).deletePendingDeletions fails
    else started
  { saved with persistent := { saved.persistent with neverSaved := ∅ } }

end PersistentStore

namespace Saving

variable {fails : Operation -> Bool}

/-- What a save does from one point to a later one: only stored nodes leave the pending ones,
and an error comes from a node that has left them, or from one without a parent. -/
structure Continues (fails : Operation -> Bool) (before after : Saving) : Prop where
  store : after.persistent.store = before.persistent.store
  neverSaved : after.persistent.neverSaved = before.persistent.neverSaved
  pendingDeletion : after.persistent.pendingDeletion = before.persistent.pendingDeletion
  pendingSave : after.persistent.pendingSave ⊆ before.persistent.pendingSave
  reached : before.reached ⊆ after.reached
  erased : ∀ id ∈ before.persistent.pendingSave, id ∉ after.persistent.pendingSave ->
    .store id ∈ after.reached
  failed : after.isOk = false -> before.isOk = false ∨
    ∃ id, fails (.store id) = true ∧
      (id ∈ before.persistent.pendingSave ∧ id ∉ after.persistent.pendingSave ∨
        ∃ address node, before.persistent.store.heap.lookup address = some node ∧
          node.parentNode = none ∧ node.id = id)

theorem Continues.refl (saving : Saving) : Continues fails saving saving where
  store := rfl
  neverSaved := rfl
  pendingDeletion := rfl
  pendingSave := Finset.Subset.refl _
  reached := List.Subset.refl _
  erased _ isPending notPending := absurd isPending notPending
  failed := .inl

theorem Continues.trans {first second third : Saving} (earlier : Continues fails first second)
    (later : Continues fails second third) : Continues fails first third where
  store := later.store.trans earlier.store
  neverSaved := later.neverSaved.trans earlier.neverSaved
  pendingDeletion := later.pendingDeletion.trans earlier.pendingDeletion
  pendingSave := later.pendingSave.trans earlier.pendingSave
  reached := List.Subset.trans earlier.reached later.reached
  erased id isPending notPending := by
    by_cases stillPending : id ∈ second.persistent.pendingSave
    · exact later.erased id stillPending notPending
    · exact later.reached (earlier.erased id isPending stillPending)
  failed isFailed := by
    rcases later.failed isFailed with
      failedBefore | ⟨id, isFailing, ⟨isPending, notPending⟩ | isRoot⟩
    · refine (earlier.failed failedBefore).imp_right ?_
      rintro ⟨id, isFailing, ⟨isPending, notPending⟩ | isRoot⟩
      · exact ⟨id, isFailing, .inl ⟨isPending, fun still => notPending (later.pendingSave still)⟩⟩
      · exact ⟨id, isFailing, .inr isRoot⟩
    · exact .inr ⟨id, isFailing, .inl ⟨earlier.pendingSave isPending, notPending⟩⟩
    · exact .inr ⟨id, isFailing, .inr (earlier.store ▸ isRoot)⟩

variable (saving : Saving) (node : StoreNode) {address : Address} {depth : Nat}

@[simp] theorem storeRow_store :
    (saving.storeRow fails node).persistent.store = saving.persistent.store := by
  unfold storeRow
  split <;> rfl

@[simp] theorem storeRow_pendingSave :
    (saving.storeRow fails node).persistent.pendingSave = saving.persistent.pendingSave := by
  unfold storeRow
  split <;> rfl

@[simp] theorem storeRow_neverSaved :
    (saving.storeRow fails node).persistent.neverSaved = saving.persistent.neverSaved := by
  unfold storeRow
  split <;> rfl

@[simp] theorem storeRow_pendingDeletion :
    (saving.storeRow fails node).persistent.pendingDeletion =
      saving.persistent.pendingDeletion := by
  unfold storeRow
  split <;> rfl

theorem continues_saveItself {saving : Saving} {node : StoreNode}
    (there : saving.persistent.store.heap.lookup address = some node) :
    Continues fails saving (saving.saveItself fails node) := by
  unfold saveItself
  split
  next noParent =>
    refine ⟨by simp, by simp, by simp, by simp, by simp [storeRow], ?_, ?_⟩
    · intro id isPending notPending
      exact absurd isPending (by simpa using notPending)
    · intro isFailed
      exact .inr ⟨node.id, by simpa [storeRow] using isFailed, .inr ⟨address, node, there,
        noParent, rfl⟩⟩
  next hasParent =>
    split
    next isPending =>
      refine ⟨by simp, by simp, by simp, by simp [Finset.erase_subset], by simp [storeRow], ?_, ?_⟩
      · intro id wasPending notPending
        have isNode : id = node.id := by
          by_contra differs
          exact notPending (by simp [differs, wasPending])
        simp [storeRow, isNode]
      · intro isFailed
        exact .inr ⟨node.id, by simpa [storeRow] using isFailed, .inl ⟨isPending, by simp⟩⟩
    next => exact .refl saving

variable (fails) in
theorem continues_saveNodeTo (depth : Nat) (saving : Saving) (address : Address) :
    Continues fails saving (saving.saveNodeTo fails depth address) := by
  induction depth generalizing saving address with
  | zero => exact .refl saving
  | succ depth ih =>
    unfold saveNodeTo
    split
    next => exact .refl saving
    next node there =>
      refine (continues_saveItself there).trans ?_
      generalize saving.saveItself fails node = saved
      induction node.childNodes generalizing saved with
      | nil => exact .refl saved
      | cons child rest restHypothesis =>
        rw [List.foldl_cons]
        refine .trans ?_ (restHypothesis _)
        split
        · exact ih saved child
        · exact .refl saved

theorem persistent_saveItself_of_isOk {saving : Saving} {node : StoreNode}
    (isOk : (saving.saveItself fails node).isOk = true) :
    (saving.saveItself fails node).persistent =
      if node.parentNode = none then saving.persistent.storeRow node
      else if node.id ∈ saving.persistent.pendingSave then
        { saving.persistent.storeRow node with
          pendingSave := saving.persistent.pendingSave.erase node.id }
      else saving.persistent := by
  unfold saveItself at isOk ⊢
  split at isOk
  next noParent =>
    have succeeds : fails (.store node.id) = false := by
      simpa [storeRow] using isOk
    simp [storeRow, noParent, succeeds]
  next hasParent =>
    split at isOk
    next isPending =>
      have succeeds : fails (.store node.id) = false := by
        simpa [storeRow] using isOk
      simp [storeRow, PersistentStore.storeRow, hasParent, isPending, succeeds]
    next notPending => simp [hasParent, notPending]

theorem persistent_saveNodeTo_of_isOk {saving : Saving}
    (isOk : (saving.saveNodeTo fails depth address).isOk = true) :
    (saving.saveNodeTo fails depth address).persistent =
      PersistentStore.saveNodeTo depth saving.persistent address := by
  induction depth generalizing saving address with
  | zero => rfl
  | succ depth ih =>
    unfold saveNodeTo at isOk ⊢
    unfold PersistentStore.saveNodeTo
    cases there : saving.persistent.store.heap.lookup address with
    | none => rfl
    | some node =>
      simp only [there] at isOk
      -- A status that is not OK stays over the rest of the children.
      have fold (children : List Address) (saved : Saving)
          (isOk : (children.foldl (fun saving child =>
            if saving.isOk then saveNodeTo fails depth saving child else saving)
              saved).isOk = true) :
          saved.isOk = true ∧ (children.foldl (fun saving child =>
            if saving.isOk then saveNodeTo fails depth saving child else saving)
              saved).persistent =
                children.foldl (PersistentStore.saveNodeTo depth) saved.persistent := by
        induction children generalizing saved with
        | nil => exact ⟨isOk, rfl⟩
        | cons child rest restHypothesis =>
          rw [List.foldl_cons] at isOk ⊢
          rw [List.foldl_cons]
          obtain ⟨nextOk, same⟩ := restHypothesis _ isOk
          cases savedOk : saved.isOk with
          | false => simp only [savedOk, Bool.false_eq_true, if_false] at nextOk
          | true =>
            simp only [savedOk, if_true] at nextOk same ⊢
            exact ⟨trivial, same.trans (by rw [ih nextOk])⟩
      obtain ⟨itselfOk, same⟩ := fold node.childNodes _ isOk
      rw [same, persistent_saveItself_of_isOk itselfOk]

theorem saveNodeTo_of_root {saving : Saving} {node : StoreNode}
    (there : saving.persistent.store.heap.lookup address = some node)
    (noParent : node.parentNode = none) (failing : fails (.store node.id) = true) :
    (saving.saveNodeTo fails (depth + 1) address).persistent = saving.persistent := by
  have stops (children : List Address) (saved : Saving) (notOk : saved.isOk = false) :
      children.foldl (fun saving child =>
        if saving.isOk then saveNodeTo fails depth saving child else saving) saved = saved := by
    induction children with
    | nil => rfl
    | cons child rest ih => rw [List.foldl_cons, if_neg (by simp [notOk]), ih]
  unfold saveNodeTo
  rw [there]
  dsimp only
  rw [stops]
  all_goals simp [saveItself, storeRow, noParent, failing]

variable (fails) in
theorem deletePending_foldl (entries : List (NodeId × Nat)) (saving : Saving) :
    saving.reached ⊆ (entries.foldl (deletePending fails) saving).reached ∧
      (∀ entry ∈ entries, entry.1 ∉ saving.persistent.neverSaved ->
        .delete entry.2 ∈ (entries.foldl (deletePending fails) saving).reached) ∧
      ∃ rows, (entries.foldl (deletePending fails) saving).persistent =
        { saving.persistent with rows := rows } := by
  induction entries generalizing saving with
  | nil => exact ⟨List.Subset.refl _, by simp, saving.persistent.rows, rfl⟩
  | cons entry rest ih =>
    rw [List.foldl_cons]
    have one : saving.reached ⊆ (saving.deletePending fails entry).reached ∧
        (entry.1 ∉ saving.persistent.neverSaved ->
          .delete entry.2 ∈ (saving.deletePending fails entry).reached) ∧
        ∃ rows, (saving.deletePending fails entry).persistent =
          { saving.persistent with rows := rows } := by
      unfold deletePending
      split
      next isNew => exact ⟨List.Subset.refl _, fun notNew => absurd isNew notNew, _, rfl⟩
      next =>
        refine ⟨List.subset_append_left _ _, by simp, ?_⟩
        dsimp only
        split <;> exact ⟨_, rfl⟩
    obtain ⟨reached, own, rows, sameStore⟩ := one
    obtain ⟨restReached, restOwn, restRows, restStore⟩ := ih (saving.deletePending fails entry)
    refine ⟨List.Subset.trans reached restReached, ?_, restRows, ?_⟩
    · intro other mem notNew
      rcases List.mem_cons.mp mem with rfl | inRest
      · exact restReached (own notNew)
      · refine restOwn other inRest ?_
        rw [sameStore]
        exact notNew
    · rw [restStore, sameStore]

variable (fails) in
theorem deletePending_foldl_of_succeeds (entries : List (NodeId × Nat)) (saving : Saving)
    (succeeds : ∀ entry ∈ entries, entry.1 ∉ saving.persistent.neverSaved ->
      fails (.delete entry.2) = false) :
    (entries.foldl (deletePending fails) saving).persistent =
      { saving.persistent with
        rows := (entries.map Prod.fst).foldl
          (fun rows id => if id ∈ saving.persistent.neverSaved then rows else eraseKey rows id)
          saving.persistent.rows } := by
  induction entries generalizing saving with
  | nil => rfl
  | cons entry rest ih =>
    obtain ⟨first, others⟩ := List.forall_mem_cons.mp succeeds
    rw [List.foldl_cons, List.map_cons, List.foldl_cons]
    by_cases isNew : entry.1 ∈ saving.persistent.neverSaved
    · have same : saving.deletePending fails entry = saving := by
        unfold deletePending
        rw [if_pos isNew]
      rw [same, ih saving others, if_pos isNew]
    · have same : (saving.deletePending fails entry).persistent =
          { saving.persistent with rows := eraseKey saving.persistent.rows entry.1 } := by
        unfold deletePending
        rw [if_neg isNew, first isNew]
        rfl
      rw [ih _ (by rw [same]; exact others), same, if_neg isNew]

variable (fails) in
theorem deletePendingDeletions_persistent :
    ∃ rows, (saving.deletePendingDeletions fails).persistent =
      { saving.persistent with rows := rows, pendingDeletion := [] } := by
  obtain ⟨-, -, rows, same⟩ := deletePending_foldl fails
    saving.persistent.pendingDeletion.zipIdx saving
  refine ⟨rows, ?_⟩
  unfold deletePendingDeletions
  dsimp only
  rw [same]

variable (fails) in
theorem reached_deletePendingDeletions :
    saving.reached ⊆ (saving.deletePendingDeletions fails).reached ∧
      ∀ (position : Nat) (id : NodeId),
        saving.persistent.pendingDeletion[position]? = some id ->
        id ∉ saving.persistent.neverSaved ->
        .delete position ∈ (saving.deletePendingDeletions fails).reached := by
  obtain ⟨reached, own, -⟩ := deletePending_foldl fails
    saving.persistent.pendingDeletion.zipIdx saving
  exact ⟨reached, fun position id isEntry =>
    own (id, position) (List.mk_mem_zipIdx_iff_getElem?.mpr isEntry)⟩

theorem deletePendingDeletions_of_succeeds {saving : Saving}
    (succeeds : ∀ (position : Nat) (id : NodeId),
      saving.persistent.pendingDeletion[position]? = some id ->
      id ∉ saving.persistent.neverSaved -> fails (.delete position) = false) :
    (saving.deletePendingDeletions fails).persistent =
      saving.persistent.deletePendingDeletions := by
  have same := deletePending_foldl_of_succeeds fails
    saving.persistent.pendingDeletion.zipIdx saving fun entry mem =>
      succeeds entry.2 entry.1 (List.mem_zipIdx_iff_getElem?.mp mem)
  unfold deletePendingDeletions PersistentStore.deletePendingDeletions
  dsimp only
  rw [same, List.zipIdx_map_fst]

end Saving

namespace PersistentStore

open Saving

variable {fails : Operation -> Bool} {persistent : PersistentStore}

/-- What is not stored or deleted by a save is still pending, and the next save without a
failure makes the rows those of the live nodes. -/
structure KeepsPending (fails : Operation -> Bool) (persistent : PersistentStore) : Prop where
  modifications : ∀ id ∈ persistent.pendingSave,
    (.store id ∈ (persistent.saveWith fails).reached -> fails (.store id) = true) ->
    id ∈ (persistent.saveWith fails).persistent.pendingSave
  deletions : ∀ (position : Nat) (id : NodeId),
    persistent.pendingDeletion[position]? = some id -> id ∉ persistent.neverSaved ->
    (.delete position ∈ (persistent.saveWith fails).reached -> fails (.delete position) = true) ->
    id ∈ (persistent.saveWith fails).persistent.pendingDeletion
  nextSave : ∀ id row,
    (persistent.saveWith fails).persistent.save.rows.lookup id = some row ↔
      (persistent.saveWith fails).persistent.store.HasRow id row

/-- The row of the root cannot be stored or those of the pending nodes all can, and the rows
pending deletion can be deleted. -/
structure FailsHarmlessly (fails : Operation -> Bool) (persistent : PersistentStore) : Prop where
  stores : fails (.store rootId) = true ∨ ∀ id ∈ persistent.pendingSave, fails (.store id) = false
  deletes : ∀ (position : Nat) (id : NodeId),
    persistent.pendingDeletion[position]? = some id -> id ∉ persistent.neverSaved ->
    fails (.delete position) = false

/-- The save up to the deletions. -/
def saveRows (fails : Operation -> Bool) (persistent : PersistentStore) : Saving :=
  ({ persistent := persistent, isOk := true, reached := [] } : Saving).saveNodeTo fails
    persistent.store.heap.length persistent.store.rootNode

variable (fails persistent) in
theorem continues_saveRows :
    Continues fails { persistent := persistent, isOk := true, reached := [] }
      (persistent.saveRows fails) :=
  continues_saveNodeTo fails persistent.store.heap.length _ persistent.store.rootNode

variable (fails) in
theorem saveWith_eq (somePending : persistent.pendingSave ≠ ∅ ∨ persistent.pendingDeletion ≠ []) :
    persistent.saveWith fails =
      let saved := (persistent.saveRows fails).deletePendingDeletions fails
      { saved with persistent := { saved.persistent with neverSaved := ∅ } } := by
  unfold saveWith
  dsimp only
  rw [if_pos somePending]
  rfl

variable (fails) in
theorem saveRows_cases (tracked : persistent.Tracked none) :
    (persistent.saveRows fails).persistent = persistent.saveNode persistent.store.rootNode ∨
      fails (.store rootId) = true ∨
      ∃ id ∈ persistent.pendingSave, fails (.store id) = true ∧
        id ∉ (persistent.saveRows fails).persistent.pendingSave := by
  have continues := continues_saveRows fails persistent
  cases isOk : (persistent.saveRows fails).isOk with
  | true => exact .inl (persistent_saveNodeTo_of_isOk isOk)
  | false =>
    right
    rcases continues.failed isOk with
      wasFailed | ⟨id, failing, ⟨isPending, notPending⟩ | ⟨address, node, there, noParent, isId⟩⟩
    · cases wasFailed
    · exact .inr ⟨id, isPending, failing, notPending⟩
    · left
      have isRoot := eq_rootNode_of_parentNode tracked.sound there noParent
      have rootHas := tracked.root
      rw [← isRoot] at rootHas
      have isRootId : node.id = rootId := by
        simpa [idOf, show persistent.store.heap.lookup address = some node from there]
          using rootHas
      rw [← isRootId, isId]
      exact failing

theorem saveRows_of_root (tracked : persistent.Tracked none)
    (failing : fails (.store rootId) = true) :
    (persistent.saveRows fails).persistent = persistent := by
  obtain ⟨node, there, isId⟩ := Option.map_eq_some_iff.mp tracked.root
  have noParent : node.parentNode = none := by
    have parentless := tracked.sound.indexed.tree.rootParent
    simpa [parentOf, there] using parentless
  have nonempty : persistent.store.heap.length = persistent.store.heap.length - 1 + 1 := by
    have mem := List.length_pos_of_mem (mem_of_lookup_eq_some there)
    omega
  unfold saveRows
  rw [nonempty]
  exact saveNodeTo_of_root there noParent (isId ▸ failing)

theorem Tracked.recorded_of_cleared (tracked : persistent.Tracked none) :
    ({ persistent with neverSaved := ∅ } : PersistentStore).Recorded none :=
  ⟨⟨tracked.sound, tracked.root, tracked.pending, by simp, tracked.saved, tracked.gone,
    tracked.kept⟩, by simp, by simp⟩

theorem saveWith_of_succeeds (tracked : persistent.Tracked none) :
    (persistent.saveWith fun _ => false).persistent = persistent.save := by
  by_cases somePending : persistent.pendingSave ≠ ∅ ∨ persistent.pendingDeletion ≠ []
  · have whole : (persistent.saveRows fun _ => false).persistent =
        persistent.saveNode persistent.store.rootNode := by
      rcases saveRows_cases (fun _ => false) tracked with
        whole | isFailing | ⟨id, -, isFailing, -⟩
      · exact whole
      all_goals cases isFailing
    rw [saveWith_eq (fun _ => false) somePending]
    dsimp only
    rw [deletePendingDeletions_of_succeeds (by simp), whole]
    unfold save
    rw [if_pos somePending]
  · unfold saveWith save
    dsimp only
    rw [if_neg somePending, if_neg somePending]

theorem Recorded.saveWith (recorded : persistent.Recorded none)
    (harmless : persistent.FailsHarmlessly fails) :
    (persistent.saveWith fails).persistent.Recorded none := by
  by_cases somePending : persistent.pendingSave ≠ ∅ ∨ persistent.pendingDeletion ≠ []
  · have continues := continues_saveRows fails persistent
    have rowsTracked : (persistent.saveRows fails).persistent.Tracked none := by
      by_cases rootFails : fails (.store rootId) = true
      · rw [saveRows_of_root recorded.toTracked rootFails]
        exact recorded.toTracked
      · rcases saveRows_cases fails recorded.toTracked with
          whole | isFailing | ⟨id, isPending, isFailing, -⟩
        · rw [whole]
          exact (savesSome_saveNodeTo _ _ _).tracked recorded.toTracked
        · exact absurd isFailing rootFails
        · have succeeds := harmless.stores.resolve_left rootFails id isPending
          rw [succeeds] at isFailing
          cases isFailing
    have deletes : ((persistent.saveRows fails).deletePendingDeletions fails).persistent =
        (persistent.saveRows fails).persistent.deletePendingDeletions :=
      deletePendingDeletions_of_succeeds fun position id isEntry notNew =>
        harmless.deletes position id (continues.pendingDeletion ▸ isEntry)
          (continues.neverSaved ▸ notNew)
    rw [saveWith_eq fails somePending]
    dsimp only
    rw [deletes]
    exact rowsTracked.deletePendingDeletions.recorded_of_cleared
  · unfold PersistentStore.saveWith
    dsimp only
    rw [if_neg somePending]
    exact recorded.toTracked.recorded_of_cleared

variable (fails) in
theorem saveWith_rest (somePending : persistent.pendingSave ≠ ∅ ∨ persistent.pendingDeletion ≠ []) :
    (persistent.saveWith fails).persistent.pendingSave =
        (persistent.saveRows fails).persistent.pendingSave ∧
      (persistent.saveWith fails).persistent.pendingDeletion = [] ∧
      (persistent.saveWith fails).reached =
        ((persistent.saveRows fails).deletePendingDeletions fails).reached := by
  obtain ⟨rows, sameRest⟩ := deletePendingDeletions_persistent fails (persistent.saveRows fails)
  rw [saveWith_eq fails somePending]
  dsimp only
  rw [sameRest]
  exact ⟨rfl, rfl, rfl⟩

theorem KeepsPending.failsHarmlessly (recorded : persistent.Recorded none)
    (somePending : persistent.pendingSave ≠ ∅ ∨ persistent.pendingDeletion ≠ [])
    (keeps : persistent.KeepsPending fails) : persistent.FailsHarmlessly fails := by
  obtain ⟨samePending, noDeletions, -⟩ := saveWith_rest fails somePending
  constructor
  · rcases saveRows_cases fails recorded.toTracked with
      whole | isFailing | ⟨id, isPending, isFailing, notPending⟩
    · refine .inr fun id isPending => ?_
      by_contra failing
      have still := keeps.modifications id isPending fun _ => eq_true_of_ne_false failing
      rw [samePending, whole, recorded.toTracked.pendingSave_saveNode] at still
      exact Finset.notMem_empty id still
    · exact .inl isFailing
    · have still := keeps.modifications id isPending fun _ => isFailing
      rw [samePending] at still
      exact absurd still notPending
  · intro position id isEntry notNew
    by_contra failing
    have still := keeps.deletions position id isEntry notNew
      fun _ => eq_true_of_ne_false failing
    rw [noDeletions] at still
    cases still

theorem FailsHarmlessly.keepsPending (recorded : persistent.Recorded none)
    (somePending : persistent.pendingSave ≠ ∅ ∨ persistent.pendingDeletion ≠ [])
    (harmless : persistent.FailsHarmlessly fails) : persistent.KeepsPending fails := by
  have continues := continues_saveRows fails persistent
  obtain ⟨samePending, -, sameReached⟩ := saveWith_rest fails somePending
  obtain ⟨reached, reachesDeletions⟩ := reached_deletePendingDeletions fails
    (persistent.saveRows fails)
  refine ⟨fun id isPending unlessFailed => ?_, fun position id isEntry notNew unlessFailed => ?_,
    (recorded.saveWith harmless).lookup_save⟩
  · by_contra notPending
    rw [samePending] at notPending
    have isReached := continues.erased id isPending notPending
    have failing := unlessFailed (sameReached ▸ reached isReached)
    rcases harmless.stores with rootFails | succeeds
    · rw [saveRows_of_root recorded.toTracked rootFails] at notPending
      exact notPending isPending
    · rw [succeeds id isPending] at failing
      cases failing
  · have isReached := reachesDeletions position id (continues.pendingDeletion ▸ isEntry)
      (continues.neverSaved ▸ notNew)
    have failing := unlessFailed (sameReached ▸ isReached)
    rw [harmless.deletes position id isEntry notNew] at failing
    cases failing

/-- A save forgets nothing, so that the next save without a failure completes it, exactly when
its failures are harmless. -/
theorem keepsPending_iff (recorded : persistent.Recorded none) (fails : Operation -> Bool) :
    persistent.KeepsPending fails ↔ persistent.FailsHarmlessly fails := by
  by_cases somePending : persistent.pendingSave ≠ ∅ ∨ persistent.pendingDeletion ≠ []
  · exact ⟨KeepsPending.failsHarmlessly recorded somePending,
      FailsHarmlessly.keepsPending recorded somePending⟩
  · push Not at somePending
    have harmless : persistent.FailsHarmlessly fails :=
      ⟨.inr (by simp [somePending.1]), by simp [somePending.2]⟩
    refine iff_of_true ⟨?_, ?_, (recorded.saveWith harmless).lookup_save⟩ harmless
    · simp [somePending.1]
    · simp [somePending.2]

/-- A node was added and is pending save. -/
def addedNode : PersistentStore :=
  run (step Store.noValidation) (initial 100 0 10)
    [.operate (.addNode 2 rootId 200), .operate .callbacksReturn]

theorem recorded_addedNode : addedNode.Recorded none := by
  have meets : StepsMeet (step Store.noValidation) (ReusesNoPendingId Store.noValidation)
      (initial 100 0 10) [.operate (.addNode 2 rootId 200), .operate .callbacksReturn] :=
    ⟨fun _ _ _ _ => by simp [initial], trivial, trivial⟩
  exact meets.invariant (fun persistent => persistent.Recorded none)
    (fun _ _ recorded => recorded.step) (recorded_initial 100 0 10)

/-- When the row of the root cannot be stored, the node stays pending. -/
theorem keepsPending_rootFails :
    addedNode.KeepsPending fun operation => decide (operation = .store rootId) := by
  refine (keepsPending_iff recorded_addedNode _).mpr ⟨.inl (by decide), ?_⟩
  have noDeletions : addedNode.pendingDeletion = [] := by decide
  simp [noDeletions]

/-- When the row of the node cannot be stored, the node is not pending any more, and the next
save does not store it. -/
theorem not_keepsPending_nodeFails :
    (2 ∈ addedNode.pendingSave ∧
      .store 2 ∈ (addedNode.saveWith fun operation => decide (operation = .store 2)).reached ∧
      (addedNode.saveWith fun operation =>
        decide (operation = .store 2)).persistent.pendingSave = ∅ ∧
      (addedNode.saveWith fun operation =>
        decide (operation = .store 2)).persistent.save.rows.lookup 2 = none) ∧
    ¬addedNode.KeepsPending fun operation => decide (operation = .store 2) := by
  have lost : 2 ∈ addedNode.pendingSave ∧
      .store 2 ∈ (addedNode.saveWith fun operation => decide (operation = .store 2)).reached ∧
      (addedNode.saveWith fun operation =>
        decide (operation = .store 2)).persistent.pendingSave = ∅ ∧
      (addedNode.saveWith fun operation =>
        decide (operation = .store 2)).persistent.save.rows.lookup 2 = none := by
    decide
  refine ⟨lost, fun keeps => ?_⟩
  have still := keeps.modifications 2 lost.1 (by simp)
  exact Finset.notMem_empty 2 still

end PersistentStore

end AttributeStore
