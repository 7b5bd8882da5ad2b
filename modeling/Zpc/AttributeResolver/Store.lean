import Zpc.AttributeResolver.Rule
import Mathlib.Data.List.Sort

/-!
# The attribute store as the resolver sees it

The resolver reads the tree of attributes with their types and their reported
and desired values, and writes the values.  An undefined value is the empty
list of bytes.
-/

namespace AttributeResolver

/-- An attribute of the store. -/
structure AttributeNode where
  id : NodeId
  type : AttributeType
  parent : NodeId
  reported : List UInt8
  desired : List UInt8
  deriving DecidableEq

/-- The attributes in the order they were added, and the root, which is the
invalid node until the store is initialized. -/
structure Store where
  nodes : List AttributeNode
  root : NodeId
  deriving DecidableEq

/-- `attribute_store_node_value_state_t`. -/
inductive ValueState
  | reported
  | desired
  deriving DecidableEq

namespace Store

/-- The attribute of an id. -/
def find (store : Store) (node : NodeId) : Option AttributeNode :=
  if node = invalidNode then none
  else store.nodes.find? fun record => record.id = node

variable (store : Store)

/-- `attribute_store_node_exists`. -/
def nodeExists (node : NodeId) : Bool := (store.find node).isSome

/-- `attribute_store_get_node_type`. -/
def nodeType (node : NodeId) : AttributeType :=
  ((store.find node).map (·.type)).getD invalidAttributeType

/-- `attribute_store_get_node_parent`. -/
def nodeParent (node : NodeId) : NodeId :=
  ((store.find node).map (·.parent)).getD invalidNode

/-- The children of an attribute, oldest first. -/
def children (node : NodeId) : List NodeId :=
  if store.nodeExists node then
    (store.nodes.filter fun record => record.parent = node).map (·.id)
  else []

/-- The value of an attribute. -/
def value (state : ValueState) (node : NodeId) : List UInt8 :=
  match store.find node, state with
  | none, _ => []
  | some record, .reported => record.reported
  | some record, .desired => record.desired

/-- `attribute_store_is_value_defined`. -/
def isValueDefined (state : ValueState) (node : NodeId) : Bool :=
  !(store.value state node).isEmpty

/-- `attribute_store_is_value_matched`. -/
def isValueMatched (node : NodeId) : Bool :=
  decide (store.value .reported node = store.value .desired node)

/-- The desired value, or the reported one if there is none. -/
def desiredOrReported (node : NodeId) : List UInt8 :=
  if store.isValueDefined .desired node then store.value .desired node
  else store.value .reported node

/-- Give an attribute a value. -/
def AttributeNode.withValue (record : AttributeNode) (state : ValueState)
    (value : List UInt8) : AttributeNode :=
  match state with
  | .reported => { record with reported := value }
  | .desired => { record with desired := value }

/-- The store with another value of an attribute. -/
def withValue (store : Store) (state : ValueState) (node : NodeId) (value : List UInt8) : Store :=
  { store with
    nodes := store.nodes.map fun record =>
      if record.id = node then AttributeNode.withValue record state value
      else record }

/-- The store with one more attribute. -/
def withNode (record : AttributeNode) : Store :=
  { store with nodes := store.nodes ++ [record] }

/-- The store without an attribute. -/
def without (node : NodeId) : Store :=
  { store with nodes := store.nodes.filter fun record => record.id ≠ node }

/-- An attribute and its parents, upwards, for at most the given number of
steps. -/
def upward (store : Store) : Nat -> NodeId -> List NodeId
  | 0, _ => []
  | steps + 1, node =>
      if store.nodeExists node then node :: store.upward steps (store.nodeParent node)
      else []

/-- An attribute and its parents up to the root. -/
def pathToRoot (node : NodeId) : List NodeId := store.upward store.nodes.length node

/-- The attributes a number of levels below an attribute. -/
def descendantsAt (store : Store) : Nat -> NodeId -> List NodeId
  | 0, node => [node]
  | depth + 1, node => (store.children node).flatMap (store.descendantsAt depth)

/-- The attribute a number of levels above an attribute. -/
def ancestorAt (store : Store) : Nat -> NodeId -> NodeId
  | 0, node => node
  | depth + 1, node => store.ancestorAt depth (store.nodeParent node)

end Store

/-- What `attribute_resolver_rule_get_group_nodes` reads of the rules:
`rule_book_inverted` and `relatives`. -/
structure Groups where
  ruleBookInverted : List (Rules × AttributeType)
  relatives : List (AttributeType × Nat)

def defaultGroupingDepth : Nat := 1

/-- `attribute_resolver_rule_get_group`. -/
def ruleGetGroup (executor : Executor) (groups : Groups) (ruleType : RuleType)
    (type : AttributeType) : List AttributeType :=
  match executor.rulesOf type with
  | none => []
  | some rules =>
      (groups.ruleBookInverted.filter fun entry =>
        entry.1 = rules && entry.1.hasFunc ruleType).map (·.2)

/-- `attribute_resolver_rule_get_group_nodes`, in the order of a `std::set`. -/
def ruleGetGroupNodes (executor : Executor) (groups : Groups) (store : Store) (ruleType : RuleType)
    (node : NodeId) : List NodeId :=
  if store.nodeExists node then
    let types := ruleGetGroup executor groups ruleType (store.nodeType node)
    let depth := (groups.relatives.lookup (store.nodeType node)).getD defaultGroupingDepth
    ((store.descendantsAt depth (store.ancestorAt depth node)).filter fun other =>
      types.contains (store.nodeType other)).insertionSort (· ≤ ·)
  else []

end AttributeResolver
