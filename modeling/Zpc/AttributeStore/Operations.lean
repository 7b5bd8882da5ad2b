import Zpc.Foundation.FiniteMap
import Zpc.Foundation.Run

/-!
# The operations of the attribute store

`attribute_store.cpp` keeps a tree of linked objects and a map from ids to their
addresses.  An operation releases the lock before it invokes the callbacks, and a
callback may call any operation.  The deletion of a node calls itself for each
child.  The state holds the calls that have not returned yet, so that every point
where the lock is free is a state of its own.
-/

namespace AttributeStore

open Foundation

/-- `attribute_store_node_t`. -/
abbrev NodeId := UInt32

/-- `attribute_store_type_t`. -/
abbrev NodeType := UInt32

/-- The address of an `attribute_store_node`. -/
abbrev Address := Nat

/-- `ATTRIBUTE_STORE_INVALID_NODE`. -/
def invalidNode : NodeId := 0

/-- `ATTRIBUTE_STORE_ROOT_ID`. -/
def rootId : NodeId := 1

/-- `ATTRIBUTE_STORE_INVALID_ATTRIBUTE_TYPE`. -/
def invalidAttributeType : NodeType := 0

/-- `attribute_store_node_value_state_t`. -/
inductive ValueState
  | desired
  | reported
  | desiredOrReported
  deriving DecidableEq

/-- The values of `sl_status_t` a deletion returns. -/
inductive Status
  | ok
  | inProgress
  deriving DecidableEq

/-- `attribute_store_node`. -/
structure StoreNode where
  type : NodeType
  id : NodeId
  desiredValue : List UInt8
  reportedValue : List UInt8
  parentNode : Option Address
  childNodes : List Address
  undergoingDeletion : Bool

/-- The constructor of `attribute_store_node`. -/
def StoreNode.new (parentNode : Option Address) (type : NodeType) (id : NodeId) : StoreNode where
  type := type
  id := id
  desiredValue := []
  reportedValue := []
  parentNode := parentNode
  childNodes := []
  undergoingDeletion := false

/-- The objects that have been allocated and not been freed. -/
abbrev Heap := List (Address × StoreNode)

/-- Change an object in place. -/
def modify (heap : Heap) (address : Address) (change : StoreNode -> StoreNode) : Heap :=
  match heap.lookup address with
  | none => heap
  | some node => assign heap address (change node)

variable (heap : Heap)

/-- `attribute_store_node::add_child`, with the address of the new object. -/
def addChild (parent : Address) (type : NodeType) (id : NodeId) (address : Address) : Heap :=
  modify (assign heap address (.new (some parent) type id)) parent fun node =>
    { node with childNodes := node.childNodes ++ [address] }

def removeChildLink (parent child : Address) : Heap :=
  modify heap parent fun node =>
    { node with childNodes := node.childNodes.filter fun other => other ≠ child }

/-- The destructor of `attribute_store_node`, to a depth. -/
def destroyTo : Nat -> Heap -> Address -> Heap
  | 0, heap, _ => heap
  | depth + 1, heap, address =>
      match heap.lookup address with
      | none => heap
      | some node =>
          let heap := node.childNodes.foldl (destroyTo depth) heap
          let heap :=
            match node.parentNode with
            | none => heap
            | some parent => removeChildLink heap parent address
          eraseKey heap address

/-- The destructor of `attribute_store_node`. -/
def destroy (address : Address) : Heap := destroyTo heap.length heap address

/-- `attribute_store_node::find_id`, to a depth. -/
def findIdTo (heap : Heap) (id : NodeId) : Nat -> Address -> Option Address
  | 0, _ => none
  | depth + 1, address =>
      (heap.lookup address).bind fun node =>
        if node.id = id then some address
        else node.childNodes.findSome? (findIdTo heap id depth)

def findId (id : NodeId) (address : Address) : Option Address :=
  findIdTo heap id heap.length address

/-- The variables of a call of `attribute_store_delete_node`. -/
structure Deletion where
  nodeToDelete : Address
  nodeId : NodeId
  isRoot : Bool
  deriving DecidableEq

/-- Where a call that has not returned is: at the head of the loop over the
children, inside the recursive call for a child, or inside the callbacks for a
deleted, created, updated or touched node. -/
inductive Call
  | deletesChildren (deletion : Deletion)
  | awaitsChild (deletion : Deletion)
  | reportsDeleted (deletion : Deletion)
  | reportsCreated (newId : NodeId)
  | reportsUpdated
  deriving DecidableEq

/-- The attribute store after `attribute_store_init`, with the calls that have
not returned, the innermost first. -/
structure Store where
  heap : Heap
  rootNode : Address
  idNodeMap : List (NodeId × Address)
  lastAssignedId : NodeId
  calls : List Call

/-- `is_node_addition_valid` and `is_write_operation_valid`. -/
structure Validation where
  isNodeAdditionValid : NodeType -> NodeType -> Bool
  isWriteOperationValid : NodeType -> List UInt8 -> Bool

namespace Store

/-- `ATTRIBUTE_TREE_ROOT`. -/
def rootType : NodeType := 1

/-- The store with nothing but the root. -/
def initial (rootNode : Address) (lastAssignedId : NodeId) : Store where
  heap := [(rootNode, .new none rootType rootId)]
  rootNode := rootNode
  idNodeMap := [(rootId, rootNode)]
  lastAssignedId := lastAssignedId
  calls := []

variable (store : Store)

/-- Whether `attribute_store_get_next_id` passes an id over. -/
def isTaken (id : NodeId) : Bool :=
  decide (id = invalidNode) || decide (id = rootId) || hasKey store.idNodeMap id

/-- The loop of `attribute_store_get_next_id`, for a number of iterations. -/
def nextFree (store : Store) : Nat -> NodeId -> Option NodeId
  | 0, _ => none
  | iterations + 1, id => if store.isTaken id then store.nextFree iterations (id + 1) else some id

/-- `attribute_store_get_next_id`.  The ids repeat after `2 ^ 32` iterations, so
that the loop never ends if it has not ended by then. -/
def getNextId : Option NodeId := store.nextFree (2 ^ 32) (store.lastAssignedId + 1)

/-- `attribute_store_get_node_from_id`: the address, and the store with a map that
is in sync again. -/
def getNodeFromId (id : NodeId) : Option Address × Store :=
  if id = invalidNode then (none, store)
  else
    match store.idNodeMap.lookup id with
    | some address => (some address, store)
    | none =>
        match findId store.heap id store.rootNode with
        | none => (none, store)
        | some address =>
            (some address, { store with idNodeMap := assign store.idNodeMap id address })

/-- Where a status goes when a call returns: to the deletion of the parent, which
passes an error on. -/
def unwind (status : Status) : List Call -> List Call
  | .awaitsChild deletion :: rest =>
      if status = .ok then .deletesChildren deletion :: rest else unwind status rest
  | calls => calls

/-- A deletion returns a status. -/
def returns (status : Status) : Store :=
  { store with calls := unwind status store.calls }

/-- `attribute_store_add_node` up to the callbacks: the new id, if there is one,
and the store.  The new object is allocated at an address that is free. -/
def addNode (validation : Validation) (store : Store) (type : NodeType) (parentNode : NodeId)
    (address : Address) : Option NodeId × Store :=
  if type = invalidAttributeType then (none, store)
  else
    match store.getNodeFromId parentNode with
    | (none, store) => (none, store)
    | (some parent, store) =>
        match store.heap.lookup parent with
        | none => (none, store)
        | some parentObject =>
            if parentObject.undergoingDeletion ||
                !validation.isNodeAdditionValid type parentObject.type ||
                hasKey store.heap address then (none, store)
            else
              match store.getNextId with
              | none => (none, store)
              | some newId =>
                  (some newId,
                    { store with
                      heap := addChild store.heap parent type newId address
                      idNodeMap := assign store.idNodeMap newId address
                      lastAssignedId := newId
                      calls := .reportsCreated newId :: store.calls })

/-- `attribute_store_delete_node` up to the loop over the children. -/
def deleteNode (id : NodeId) : Store :=
  if id = invalidNode then store.returns .ok
  else
    match store.getNodeFromId id with
    | (none, store) => store.returns .ok
    | (some nodeToDelete, store) =>
        match store.heap.lookup nodeToDelete with
        | none => store
        | some node =>
            if node.undergoingDeletion then store.returns .inProgress
            else
              let isRoot := decide (nodeToDelete = store.rootNode)
              { store with
                heap :=
                  if isRoot then store.heap
                  else
                    modify store.heap nodeToDelete fun node =>
                      { node with undergoingDeletion := true }
                calls :=
                  .deletesChildren
                    { nodeToDelete := nodeToDelete, nodeId := node.id, isRoot := isRoot } ::
                    store.calls }

/-- The id of the first child of a node. -/
def firstChild (address : Address) : NodeId :=
  match store.heap.lookup address with
  | none => invalidNode
  | some node =>
      match node.childNodes with
      | [] => invalidNode
      | child :: _ => ((store.heap.lookup child).map (·.id)).getD invalidNode

/-- One iteration of the loop over the children, or what follows the loop. -/
def deleteChildren : Store :=
  match store.calls with
  | .deletesChildren deletion :: rest =>
      if store.firstChild deletion.nodeToDelete = invalidNode then
        if deletion.isRoot then
          { store with
            heap :=
              modify store.heap store.rootNode fun node =>
                { node with reportedValue := [], desiredValue := [] }
            calls := rest }.returns .ok
        else { store with calls := .reportsDeleted deletion :: rest }
      else
        { store with calls := .awaitsChild deletion :: rest }.deleteNode
          (store.firstChild deletion.nodeToDelete)
  | _ => store

/-- `attribute_store_is_value_identical`. -/
def isValueIdentical (node : StoreNode) (valueState : ValueState) (value : List UInt8) : Bool :=
  match valueState with
  | .reported => decide (node.reportedValue = value)
  | .desired => decide (node.desiredValue = value)
  | .desiredOrReported => false

/-- `attribute_store_set_node_attribute_value` up to the callbacks. -/
def setNodeAttributeValue (validation : Validation) (store : Store) (id : NodeId)
    (valueState : ValueState) (value : List UInt8) : Store :=
  if id = invalidNode then store
  else
    match store.getNodeFromId id with
    | (none, store) => store
    | (some nodeToModify, store) =>
        match store.heap.lookup nodeToModify with
        | none => store
        | some node =>
            if node.undergoingDeletion then store
            else if isValueIdentical node valueState value then
              { store with calls := .reportsUpdated :: store.calls }
            else if !validation.isWriteOperationValid node.type value then store
            else
              match valueState with
              | .desired =>
                  { store with
                    heap :=
                      modify store.heap nodeToModify fun node => { node with desiredValue := value }
                    calls := .reportsUpdated :: store.calls }
              | .reported =>
                  { store with
                    heap :=
                      modify store.heap nodeToModify fun node =>
                        { node with reportedValue := value }
                    calls := .reportsUpdated :: store.calls }
              | .desiredOrReported => store

/-- The callbacks of the innermost call have returned. -/
def callbacksReturn : Store :=
  match store.calls with
  | .reportsDeleted deletion :: rest =>
      { store with
        idNodeMap := eraseKey store.idNodeMap deletion.nodeId
        heap := destroy store.heap deletion.nodeToDelete
        calls := rest }.returns .ok
  | .reportsCreated _ :: rest => { store with calls := rest }
  | .reportsUpdated :: rest => { store with calls := rest }
  | _ => store

/-- Whether an operation can be called: from outside, or by a callback. -/
def acceptsCalls : Bool :=
  match store.calls with
  | [] => true
  | .reportsDeleted _ :: _ => true
  | .reportsCreated _ :: _ => true
  | .reportsUpdated :: _ => true
  | _ => false

end Store

/-- What can happen next: a call of an operation, the next iteration of a
deletion, or the end of the callbacks. -/
inductive Action
  | addNode (type : NodeType) (parentNode : NodeId) (address : Address)
  | deleteNode (id : NodeId)
  | setNodeAttributeValue (id : NodeId) (valueState : ValueState) (value : List UInt8)
  | deleteChildren
  | callbacksReturn

namespace Store

/-- Call an operation. -/
def call (validation : Validation) (store : Store) : Action -> Store
  | .addNode type parentNode address => (store.addNode validation type parentNode address).2
  | .deleteNode id => store.deleteNode id
  | .setNodeAttributeValue id valueState value =>
      store.setNodeAttributeValue validation id valueState value
  | _ => store

/-- One step. -/
def step (validation : Validation) (store : Store) (action : Action) : Store :=
  match action with
  | .deleteChildren => store.deleteChildren
  | .callbacksReturn => store.callbacksReturn
  | operation => if store.acceptsCalls then store.call validation operation else store

end Store

end AttributeStore
