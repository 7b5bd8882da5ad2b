import Mathlib.Data.Finset.Basic
import Zpc.AttributeStore.Operations

/-!
# The attribute store and its datastore

Changes of the attribute store reach the datastore at once when the auto-save
cooldown interval is zero, and with the next save otherwise.  Two sets and a queue
keep what the datastore does not know yet.  The operations of the datastore
succeed.
-/

namespace AttributeStore

open Foundation

/-- `ATTRIBUTE_STORE_NULL_ID`. -/
def nullId : NodeId := 0

/-- A row of the table of attributes, without its id. -/
structure Row where
  type : NodeType
  parentId : NodeId
  reportedValue : List UInt8
  desiredValue : List UInt8
  deriving DecidableEq

/-- What `STORE_ATTRIBUTE` and `STORE_ROOT_ATTRIBUTE` write for a node. -/
def rowOf (heap : Heap) (node : StoreNode) : Row where
  type := node.type
  parentId :=
    match node.parentNode with
    | none => nullId
    | some parent => ((heap.lookup parent).map (·.id)).getD nullId
  reportedValue := node.reportedValue
  desiredValue := node.desiredValue

/-- The attribute store with `node_id_never_saved`, `node_id_pending_save`,
`node_id_pending_deletion`, the table of attributes and the auto-save cooldown
interval. -/
structure PersistentStore where
  store : Store
  neverSaved : Finset NodeId
  pendingSave : Finset NodeId
  pendingDeletion : List NodeId
  rows : List (NodeId × Row)
  autoSaveInterval : Nat

namespace PersistentStore

/-- The attribute store after `attribute_store_init` with an empty datastore. -/
def initial (rootNode : Address) (lastAssignedId : NodeId)
    (autoSaveInterval : Nat) : PersistentStore where
  store := .initial rootNode lastAssignedId
  neverSaved := ∅
  pendingSave := ∅
  pendingDeletion := []
  rows := [(rootId, ⟨Store.rootType, nullId, [], []⟩)]
  autoSaveInterval := autoSaveInterval

variable (persistent : PersistentStore)

/-- `datastore_store_attribute` for a node. -/
def storeRow (node : StoreNode) : PersistentStore :=
  { persistent with
    rows := assign persistent.rows node.id (rowOf persistent.store.heap node) }

/-- `attribute_store_store_attribute`. -/
def storeAttribute (persistent : PersistentStore) (address : Address) : PersistentStore :=
  match persistent.store.heap.lookup address with
  | none => persistent
  | some node =>
      if address = persistent.store.rootNode then persistent.storeRow node
      else if persistent.autoSaveInterval = 0 then
        { persistent.storeRow node with neverSaved := persistent.neverSaved.erase node.id }
      else { persistent with pendingSave := insert node.id persistent.pendingSave }

/-- `attribute_store_delete_pending_deletions_from_datastore`. -/
def deletePendingDeletions : PersistentStore :=
  { persistent with
    rows := persistent.pendingDeletion.foldl
      (fun rows id => if id ∈ persistent.neverSaved then rows else eraseKey rows id)
      persistent.rows
    pendingDeletion := [] }

/-- What `attribute_store_delete_node` does before the callbacks for a node. -/
def recordDeletion (id : NodeId) : PersistentStore :=
  let recorded : PersistentStore :=
    if id ∈ persistent.neverSaved then
      { persistent with
        pendingSave := persistent.pendingSave.erase id
        neverSaved := persistent.neverSaved.erase id }
    else
      { persistent with
        pendingSave := persistent.pendingSave.erase id
        pendingDeletion := persistent.pendingDeletion ++ [id] }
  if persistent.autoSaveInterval = 0 then recorded.deletePendingDeletions else recorded

/-- `attribute_store_add_node` up to the callbacks. -/
def addNode (validation : Validation) (persistent : PersistentStore) (type : NodeType)
    (parentNode : NodeId) (address : Address) : PersistentStore :=
  match persistent.store.addNode validation type parentNode address with
  | (none, store) => { persistent with store := store }
  | (some newId, store) =>
      { persistent with
        store := store
        neverSaved := insert newId persistent.neverSaved }.storeAttribute address

/-- The node whose value `attribute_store_set_node_attribute_value` changes. -/
def nodeToModify (validation : Validation) (store : Store) (id : NodeId) (valueState : ValueState)
    (value : List UInt8) : Option Address :=
  (store.getNodeFromId id).1.filter fun address =>
    match store.heap.lookup address with
    | none => false
    | some node =>
        !node.undergoingDeletion && !Store.isValueIdentical node valueState value &&
          validation.isWriteOperationValid node.type value && valueState ≠ .desiredOrReported

/-- `attribute_store_set_node_attribute_value` up to the callbacks. -/
def setNodeAttributeValue (validation : Validation) (persistent : PersistentStore) (id : NodeId)
    (valueState : ValueState) (value : List UInt8) : PersistentStore :=
  let modified :=
    { persistent with
      store := persistent.store.setNodeAttributeValue validation id valueState value }
  match nodeToModify validation persistent.store id valueState value with
  | none => modified
  | some address => modified.storeAttribute address

/-- One iteration of the loop over the children of a deletion, or what follows the
loop. -/
def deleteChildren (persistent : PersistentStore) : PersistentStore :=
  let continued := { persistent with store := persistent.store.deleteChildren }
  match persistent.store.calls with
  | .deletesChildren deletion :: _ =>
      if persistent.store.firstChild deletion.nodeToDelete = invalidNode then
        if deletion.isRoot then continued.storeAttribute persistent.store.rootNode
        else continued.recordDeletion deletion.nodeId
      else continued
  | _ => continued

/-- `attribute_store_save_node_to_datastore`, to a depth. -/
def saveNodeTo : Nat -> PersistentStore -> Address -> PersistentStore
  | 0, persistent, _ => persistent
  | depth + 1, persistent, address =>
      match persistent.store.heap.lookup address with
      | none => persistent
      | some node =>
          let saved :=
            if node.parentNode = none then persistent.storeRow node
            else if node.id ∈ persistent.pendingSave then
              { persistent.storeRow node with
                pendingSave := persistent.pendingSave.erase node.id }
            else persistent
          node.childNodes.foldl (saveNodeTo depth) saved

/-- `attribute_store_save_node_to_datastore`. -/
def saveNode (address : Address) : PersistentStore :=
  saveNodeTo persistent.store.heap.length persistent address

/-- `attribute_store_save_to_datastore`. -/
def save : PersistentStore :=
  let saved :=
    if persistent.pendingSave ≠ ∅ ∨ persistent.pendingDeletion ≠ [] then
      (persistent.saveNode persistent.store.rootNode).deletePendingDeletions
    else persistent
  { saved with neverSaved := ∅ }

/-- What can happen next: a step of the attribute store, a save, or a change of the
auto-save cooldown interval. -/
inductive Action
  | operate (action : AttributeStore.Action)
  | save
  | setAutoSaveInterval (seconds : Nat)

/-- A call of an operation. -/
def call (validation : Validation)
    (persistent : PersistentStore) : AttributeStore.Action -> PersistentStore
  | .addNode type parentNode address => persistent.addNode validation type parentNode address
  | .deleteNode id => { persistent with store := persistent.store.deleteNode id }
  | .setNodeAttributeValue id valueState value =>
      persistent.setNodeAttributeValue validation id valueState value
  | _ => persistent

/-- One step. -/
def step (validation : Validation) (persistent : PersistentStore) : Action -> PersistentStore
  | .operate .deleteChildren => persistent.deleteChildren
  | .operate .callbacksReturn => { persistent with store := persistent.store.callbacksReturn }
  | .operate operation =>
      if persistent.store.acceptsCalls then persistent.call validation operation else persistent
  | .save => persistent.save
  | .setAutoSaveInterval seconds => { persistent with autoSaveInterval := seconds }

end PersistentStore

end AttributeStore
