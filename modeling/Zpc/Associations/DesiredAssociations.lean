import Mathlib.Logic.Function.Basic
import Zpc.Associations.Bytestreams
import Zpc.Foundation.Loop

/-!
# Desired associations

The associations of a group are read from its desired content, or from the reported one when
nothing is desired, and are written back as the desired content.  The attribute store takes
the size of a value as one byte.
-/

namespace Associations

open Foundation

/-! ## The attributes of an endpoint -/

/-- A value of the attribute store.  It is not defined when it has no bytes. -/
structure StoredValue where
  bytes : List UInt8
  small : bytes.length ≤ 255

/-- The value that `attribute_store_set_node_attribute_value` stores for these bytes, whose
number comes to it as a `uint8_t`. -/
def storedValue (bytes : List UInt8) : StoredValue where
  bytes := bytes.take (bytes.length % 256)
  small := by
    rw [List.length_take]
    omega

/-- The values of a group content node. -/
structure GroupContent where
  reported : StoredValue
  desired : StoredValue

/-- The value for `DESIRED_OR_REPORTED_ATTRIBUTE`. -/
def GroupContent.desiredOrReported (content : GroupContent) : StoredValue :=
  if content.desired.bytes ≠ [] then content.desired else content.reported

/-- The attributes under a group id: the reported capacity, which counts as 0 when it is
missing, and the group content node if there is one. -/
structure AssociationGroup where
  capacity : Nat
  content : Option GroupContent

/-- The attributes under an endpoint: the reported number of groups, which counts as 0 when it
is missing, and the groups by their ids. -/
structure Endpoint where
  numberOfGroups : Nat
  groups : Nat -> Option AssociationGroup

namespace Endpoint

variable (endpoint : Endpoint)

def getGroupCapacity (groupId : Nat) : Nat :=
  match endpoint.groups groupId with
  | some group => group.capacity
  | none => 0

/-- `get_group_content_node`. -/
def getGroupContent (groupId : Nat) : Option GroupContent :=
  (endpoint.groups groupId).bind AssociationGroup.content

/-- Set the desired value of a group content node. -/
def setDesired (groupId : Nat) (bytes : List UInt8) : Endpoint :=
  { endpoint with
    groups := Function.update endpoint.groups groupId
      ((endpoint.groups groupId).map fun group =>
        { group with
          content := group.content.map fun content =>
            { content with desired := storedValue bytes } }) }

def isAssociationInGroup (groupId : Nat) (association : Association) : Bool :=
  match endpoint.getGroupContent groupId with
  | some content => (decoded content.desiredOrReported.bytes).contains association
  | none => false

/-- `add_desired_association`: whether it returns `SL_STATUS_OK`, and the attributes after
it. -/
def addDesiredAssociation (groupId : Nat) (association : Association) : Bool × Endpoint :=
  match endpoint.getGroupContent groupId with
  | none => (false, endpoint)
  | some content =>
      let associations := (decoded content.desiredOrReported.bytes).insert association
      if endpoint.getGroupCapacity groupId < associations.size then (false, endpoint)
      else (true, endpoint.setDesired groupId (encoded associations))

/-- The association that is bumped: the first one other than the new one. -/
def bumped (associations : AssociationSet) (newAssociation : Association) : Option Association :=
  associations.elements.find? fun association =>
    !decide (association.nodeId = newAssociation.nodeId ∧
      association.type = newAssociation.type ∧
      association.endpointId = newAssociation.endpointId)

/-- A full group gives up another association. -/
def forceAddDesiredAssociation (groupId : Nat) (newAssociation : Association) : Bool × Endpoint :=
  match endpoint.getGroupContent groupId with
  | none => (false, endpoint)
  | some content =>
      let associations := (decoded content.desiredOrReported.bytes).insert newAssociation
      if endpoint.getGroupCapacity groupId < associations.size then
        match bumped associations newAssociation with
        | none => (false, endpoint)
        | some association =>
            (true, endpoint.setDesired groupId (encoded (associations.erase association)))
      else (true, endpoint.setDesired groupId (encoded associations))

def removeNodeIdFromAssociationSet (nodeId : UInt16) (set : AssociationSet) : AssociationSet :=
  match _found : set.elements.find? fun association => decide (association.nodeId = nodeId) with
  | some association => removeNodeIdFromAssociationSet nodeId (set.erase association)
  | none => set
termination_by set.size
decreasing_by
  have smaller := KeySet.size_erase_of_mem associationKey_injective
    (List.mem_of_find?_eq_some _found)
  omega

/-- One round of `remove_desired_node_id_from_all_associations`. -/
def removeNodeIdInGroup (nodeId : UInt16) (endpoint : Endpoint) (groupId : Nat) : Endpoint :=
  match endpoint.getGroupContent groupId with
  | none => endpoint
  | some content =>
      endpoint.setDesired groupId
        (encoded (removeNodeIdFromAssociationSet nodeId
          (decoded content.desiredOrReported.bytes)))

/-- The variables of the loop of `remove_desired_node_id_from_all_associations`. -/
structure RemoveLoop where
  currentGroupId : Nat
  endpoint : Endpoint

/-- The loop; the group id is a byte and the number of groups is not. -/
def removeNodeIdStep (nodeId : UInt16) (groupCount : Nat) (loop : RemoveLoop) : Option RemoveLoop :=
  if loop.currentGroupId ≤ groupCount then
    some ⟨(loop.currentGroupId + 1) % 256,
      removeNodeIdInGroup nodeId loop.endpoint loop.currentGroupId⟩
  else none

/-- `remove_desired_node_id_from_all_associations` returns with these attributes. -/
def RemovesDesiredNodeId (nodeId : UInt16) (after : Endpoint) : Prop :=
  ∃ loop, Leaves (removeNodeIdStep nodeId endpoint.numberOfGroups) ⟨1, endpoint⟩ loop ∧
    loop.endpoint = after

/-- The associations that a group has. -/
def associationsOf (groupId : Nat) : AssociationSet :=
  match endpoint.getGroupContent groupId with
  | some content => decoded content.desiredOrReported.bytes
  | none => KeySet.empty

/-- The associations that its desired content decodes to. -/
def desiredAssociations (groupId : Nat) : AssociationSet :=
  match endpoint.getGroupContent groupId with
  | some content => decoded content.desired.bytes
  | none => KeySet.empty

end Endpoint

/-! ## The number of bytes -/

theorem length_flatMap_endpointPair (list : List Association) :
    (list.flatMap endpointPair).length = 2 * list.length := by
  induction list with
  | nil => rfl
  | cons head tail ih =>
    rw [List.flatMap_cons, List.length_append]
    simp only [endpointPair, List.length_cons, List.length_nil]
    omega

/-- The number of bytes that a set takes: one for a NodeID and two for a pair, and one for the
marker unless there are NodeIDs only. -/
def bytestreamLength (set : AssociationSet) : Nat :=
  if (nodeIdElements set).length ≠ 0 ∧ (endpointElements set).length = 0 then
    (nodeIdElements set).length
  else (nodeIdElements set).length + 1 + 2 * (endpointElements set).length

theorem length_encoded (set : AssociationSet) : (encoded set).length = bytestreamLength set := by
  have sameCondition :
      ((nodeIdElements set).length ≠ 0 ∧ (endpointElements set).length = 0) ↔
        (nodeIdElements set ≠ [] ∧ endpointElements set = []) := by
    rw [Ne, List.length_eq_zero_iff, List.length_eq_zero_iff]
  unfold bytestreamLength
  rw [encoded_eq, List.length_append, List.length_map, if_congr sameCondition rfl rfl]
  split
  next => rfl
  next => rw [List.length_cons, length_flatMap_endpointPair]; omega

theorem encoded_ne_nil (set : AssociationSet) : encoded set ≠ [] := by
  apply List.ne_nil_of_length_pos
  rw [length_encoded]
  unfold bytestreamLength
  split <;> omega

theorem length_pairsOf (bytes : List UInt8) : (pairsOf bytes).length = bytes.length / 2 := by
  induction bytes using pairsOf.induct with
  | case1 => rfl
  | case2 => simp [pairsOf]
  | case3 first second rest ih =>
    simp only [pairsOf, List.length_cons, ih]
    omega

theorem length_nodeIdBytes_add (bytes : List UInt8) :
    (nodeIdBytes bytes).length + 1 + (endpointBytes bytes).length ≤ bytes.length ∨
      endpointBytes bytes = [] ∧ (nodeIdBytes bytes).length = bytes.length := by
  induction bytes with
  | nil => exact .inr ⟨rfl, rfl⟩
  | cons byte rest ih =>
    by_cases isMarker : byte = associationMarker
    · left
      simp [nodeIdBytes, endpointBytes, isMarker]
      omega
    · have isNodeIdByte : nodeIdBytes (byte :: rest) = byte :: nodeIdBytes rest := by
        simp [nodeIdBytes, isMarker]
      have sameEndpoints : endpointBytes (byte :: rest) = endpointBytes rest := by
        simp [endpointBytes, isMarker]
      rw [isNodeIdByte, sameEndpoints, List.length_cons, List.length_cons]
      rcases ih with hasMarker | ⟨noEndpoints, sameLength⟩
      · left
        omega
      · exact .inr ⟨noEndpoints, by omega⟩

variable {set : AssociationSet} {bytes : List UInt8} {association : Association}

theorem bytestreamLength_le (listed : ∀ association ∈ set, association ∈ listedAssociations bytes) :
    bytestreamLength set ≤ max 1 bytes.length := by
  have nodeIdsFew : (set.filter fun association => decide (association.type = .nodeId)).size ≤
      ((nodeIdBytes bytes).map nodeIdAssociation).length := by
    apply KeySet.size_le_length
    intro association mem
    obtain ⟨inSet, isNodeId⟩ := KeySet.mem_filter.mp mem
    rcases List.mem_append.mp (List.mem_filter.mp (listed association inSet)).1 with
      isFirst | isSecond
    · exact isFirst
    · obtain ⟨pair, -, rfl⟩ := List.mem_map.mp isSecond
      cases of_decide_eq_true isNodeId
  have endpointsFew :
      (set.filter fun association => decide (association.type = .endpoint)).size ≤
        ((pairsOf (endpointBytes bytes)).map endpointAssociation).length := by
    apply KeySet.size_le_length
    intro association mem
    obtain ⟨inSet, isEndpoint⟩ := KeySet.mem_filter.mp mem
    rcases List.mem_append.mp (List.mem_filter.mp (listed association inSet)).1 with
      isFirst | isSecond
    · obtain ⟨byte, -, rfl⟩ := List.mem_map.mp isFirst
      cases of_decide_eq_true isEndpoint
    · exact isSecond
  have nodeIdCount : (nodeIdElements set).length ≤ (nodeIdBytes bytes).length :=
    nodeIdsFew.trans_eq (List.length_map _)
  have endpointCount : (endpointElements set).length ≤ (endpointBytes bytes).length / 2 :=
    endpointsFew.trans_eq ((List.length_map _).trans (length_pairsOf _))
  unfold bytestreamLength
  rcases length_nodeIdBytes_add bytes with hasMarker | ⟨noEndpoints, sameLength⟩
  · split <;> omega
  · rw [noEndpoints, List.length_nil] at endpointCount
    split <;> omega

theorem length_nodeIdElements_le (proper : ∀ association ∈ set, IsProper association) :
    (nodeIdElements set).length ≤ 233 := by
  have few : (set.filter fun association => decide (association.type = .nodeId)).size ≤
      ((List.range 233).map fun nodeId =>
        (⟨.nodeId, UInt16.ofNat nodeId, 0⟩ : Association)).length := by
    apply KeySet.size_le_length
    intro association mem
    obtain ⟨inSet, isNodeId⟩ := KeySet.mem_filter.mp mem
    obtain ⟨isValid, noEndpoint⟩ := proper association inSet
    have isType := of_decide_eq_true isNodeId
    obtain ⟨-, small⟩ := isAssociationValid_iff.mp isValid
    refine List.mem_map.mpr ⟨association.nodeId.toNat, List.mem_range.mpr (by omega), ?_⟩
    rw [UInt16.ofNat_toNat, ← isType, ← noEndpoint isType]
  rw [List.length_map, List.length_range] at few
  exact few

theorem length_filter_insert (notMember : association ∉ set) (fits : Association -> Bool) :
    ((set.insert association).elements.filter fits).length =
      (set.elements.filter fits).length + if fits association then 1 else 0 := by
  rw [((KeySet.insert_perm_of_not_mem associationKey_injective notMember).filter fits).length_eq,
    List.filter_cons]
  split <;> rfl

theorem length_filter_erase (mem : association ∈ set) (fits : Association -> Bool) :
    (set.elements.filter fits).length =
      ((set.erase association).elements.filter fits).length +
        if fits association then 1 else 0 := by
  rw [((KeySet.perm_erase_of_mem associationKey_injective mem).filter fits).length_eq,
    List.filter_cons]
  split <;> rfl

theorem bytestreamLength_insert_erase_le {newAssociation : Association}
    (proper : ∀ other ∈ set, IsProper other)
    (listed : ∀ other ∈ set, other ∈ listedAssociations bytes) (small : bytes.length ≤ 255)
    (mem : association ∈ set.insert newAssociation) :
    bytestreamLength ((set.insert newAssociation).erase association) ≤ 256 := by
  have before := bytestreamLength_le listed
  by_cases isOld : newAssociation ∈ set
  · rw [KeySet.insert_of_mem associationKey_injective isOld]
    have atMost : bytestreamLength (set.erase association) ≤ max 1 bytes.length :=
      bytestreamLength_le fun other erased =>
        listed other ((KeySet.mem_erase associationKey_injective).mp erased).1
    omega
  · have nodeIdsFew := length_nodeIdElements_le proper
    have nodeIdsInserted := length_filter_insert isOld fun other => decide (other.type = .nodeId)
    have endpointsInserted :=
      length_filter_insert isOld fun other => decide (other.type = .endpoint)
    have nodeIdsErased := length_filter_erase mem fun other => decide (other.type = .nodeId)
    have endpointsErased := length_filter_erase mem fun other => decide (other.type = .endpoint)
    unfold bytestreamLength nodeIdElements endpointElements at *
    cases newType : newAssociation.type <;> cases oldType : association.type <;>
      simp only [newType, oldType, reduceCtorEq, decide_true, decide_false, if_true, if_false,
        Bool.false_eq_true] at nodeIdsInserted endpointsInserted nodeIdsErased endpointsErased <;>
      split <;> split at before <;> omega

/-! ## What is stored -/

/-- The association comes back from a byte, and the set takes as many bytes as a value has. -/
structure Fits (set : AssociationSet) (association : Association) : Prop where
  proper : IsProper association
  small : bytestreamLength set ≤ 255

theorem storedValue_of_small (small : bytes.length ≤ 255) : (storedValue bytes).bytes = bytes := by
  have isLength : bytes.length % 256 = bytes.length := Nat.mod_eq_of_lt (by omega)
  have isTaken : (storedValue bytes).bytes = bytes.take (bytes.length % 256) := rfl
  rw [isTaken, isLength, List.take_length]

theorem decoded_storedValue (proper : ∀ association ∈ set, IsProper association)
    (small : bytestreamLength set ≤ 255) : decoded (storedValue (encoded set)).bytes = set := by
  rw [storedValue_of_small ((length_encoded set).trans_le small), decoded_encoded proper]

theorem bytestreamLength_decoded_le {value : StoredValue}
    (isDecoded : ∀ association ∈ set, association ∈ decoded value.bytes) :
    bytestreamLength set ≤ 255 := by
  have atMost : bytestreamLength set ≤ max 1 value.bytes.length :=
    bytestreamLength_le fun association mem => mem_decoded.mp (isDecoded association mem)
  have small := value.small
  omega

namespace Endpoint

variable (nodeId : UInt16) {endpoint : Endpoint} {groupId : Nat} {content : GroupContent}
  {set : AssociationSet} {association newAssociation : Association} {loop next : RemoveLoop}

section

variable (hasContent : endpoint.getGroupContent groupId = some content)
include hasContent

theorem getGroupContent_setDesired (bytes : List UInt8) :
    (endpoint.setDesired groupId bytes).getGroupContent groupId =
      some { content with desired := storedValue bytes } := by
  obtain ⟨group, isGroup, isContent⟩ := Option.bind_eq_some_iff.mp hasContent
  unfold getGroupContent setDesired
  dsimp only
  rw [Function.update_self, isGroup, Option.map_some, isContent]
  rfl

theorem desiredAssociations_setDesired (bytes : List UInt8) :
    (endpoint.setDesired groupId bytes).desiredAssociations groupId =
      decoded (storedValue bytes).bytes := by
  unfold desiredAssociations
  rw [getGroupContent_setDesired hasContent]

theorem associationsOf_setDesired
    (proper : ∀ association ∈ set, IsProper association) (small : bytestreamLength set ≤ 255) :
    (endpoint.setDesired groupId (encoded set)).associationsOf groupId = set := by
  have isStored : (storedValue (encoded set)).bytes = encoded set :=
    storedValue_of_small ((length_encoded set).trans_le small)
  unfold associationsOf
  rw [getGroupContent_setDesired hasContent]
  unfold GroupContent.desiredOrReported
  dsimp only
  rw [isStored, if_pos (encoded_ne_nil set), isStored, decoded_encoded proper]

end

theorem isAssociationInGroup_iff :
    endpoint.isAssociationInGroup groupId association = true ↔
      association ∈ endpoint.associationsOf groupId := by
  unfold isAssociationInGroup associationsOf
  cases endpoint.getGroupContent groupId with
  | none => exact iff_of_false Bool.false_ne_true (KeySet.not_mem_empty association)
  | some content => exact KeySet.contains_iff associationKey_injective

theorem isProper_of_mem_associationsOf (mem : association ∈ endpoint.associationsOf groupId) :
    IsProper association := by
  unfold associationsOf at mem
  split at mem
  next => exact isProper_of_mem_decoded mem
  next => exact absurd mem (KeySet.not_mem_empty association)

theorem isProper_of_mem_insert {other : Association} (proper : IsProper association)
    (mem : other ∈ (endpoint.associationsOf groupId).insert association) : IsProper other := by
  rcases (KeySet.mem_insert associationKey_injective).mp mem with isNew | isOld
  · exact isNew ▸ proper
  · exact isProper_of_mem_associationsOf isOld

/-! ## Adding an association -/

/-- What is said of `add_desired_association`. -/
structure AddsDesired
    (endpoint : Endpoint)
    (groupId : Nat)
    (association : Association) : Prop where
  added : (endpoint.addDesiredAssociation groupId association).1 = true ->
    (endpoint.addDesiredAssociation groupId association).2.desiredAssociations groupId =
      (endpoint.associationsOf groupId).insert association
  withinCapacity : (endpoint.addDesiredAssociation groupId association).1 = true ->
    ((endpoint.addDesiredAssociation groupId association).2.desiredAssociations groupId).size ≤
      endpoint.getGroupCapacity groupId
  inGroup : (endpoint.addDesiredAssociation groupId association).1 = true ->
    (endpoint.addDesiredAssociation groupId association).2.isAssociationInGroup groupId
      association = true
  unchanged : (endpoint.addDesiredAssociation groupId association).1 = false ->
    (endpoint.addDesiredAssociation groupId association).2 = endpoint

/-- When there is room for the new association, all of the associations fit. -/
def AddFits (endpoint : Endpoint) (groupId : Nat) (association : Association) : Prop :=
  endpoint.getGroupContent groupId ≠ none ->
    ((endpoint.associationsOf groupId).insert association).size ≤
      endpoint.getGroupCapacity groupId ->
    Fits ((endpoint.associationsOf groupId).insert association) association

theorem addDesiredAssociation_of_content
    (hasContent : endpoint.getGroupContent groupId = some content) (association : Association) :
    endpoint.addDesiredAssociation groupId association =
      if endpoint.getGroupCapacity groupId <
          ((endpoint.associationsOf groupId).insert association).size then (false, endpoint)
      else (true, endpoint.setDesired groupId
        (encoded ((endpoint.associationsOf groupId).insert association))) := by
  unfold addDesiredAssociation associationsOf
  rw [hasContent]

theorem addsDesired_of_room_iff (hasContent : endpoint.getGroupContent groupId = some content)
    (room : ((endpoint.associationsOf groupId).insert association).size ≤
      endpoint.getGroupCapacity groupId) :
    AddsDesired endpoint groupId association ↔
      Fits ((endpoint.associationsOf groupId).insert association) association := by
  have isResult := (addDesiredAssociation_of_content hasContent association).trans
    (if_neg (not_lt.mpr room))
  have isNew : association ∈ (endpoint.associationsOf groupId).insert association :=
    (KeySet.mem_insert associationKey_injective).mpr (.inl rfl)
  constructor
  · intro adds
    have isDecoded := adds.added (by rw [isResult])
    rw [isResult, desiredAssociations_setDesired hasContent] at isDecoded
    refine ⟨isProper_of_mem_decoded (isDecoded ▸ isNew), ?_⟩
    exact bytestreamLength_decoded_le fun other mem => isDecoded ▸ mem
  · rintro ⟨proper, small⟩
    have allProper : ∀ other ∈ (endpoint.associationsOf groupId).insert association,
        IsProper other := fun other mem => isProper_of_mem_insert proper mem
    have isDesired := (desiredAssociations_setDesired hasContent
      (encoded ((endpoint.associationsOf groupId).insert association))).trans
        (decoded_storedValue allProper small)
    constructor <;> rw [isResult]
    · exact fun _ => isDesired
    · intro _
      rw [isDesired]
      exact room
    · intro _
      rw [isAssociationInGroup_iff, associationsOf_setDesired hasContent allProper small]
      exact isNew
    · exact fun failed => nomatch failed

theorem addsDesired_iff (endpoint : Endpoint) (groupId : Nat) (association : Association) :
    AddsDesired endpoint groupId association ↔ AddFits endpoint groupId association := by
  have failing (isResult : endpoint.addDesiredAssociation groupId association =
      (false, endpoint)) : AddsDesired endpoint groupId association := by
    constructor <;> rw [isResult]
    · exact fun succeeded => nomatch succeeded
    · exact fun succeeded => nomatch succeeded
    · exact fun succeeded => nomatch succeeded
    · exact fun _ => rfl
  cases hasContent : endpoint.getGroupContent groupId with
  | none =>
    refine iff_of_true (failing ?_) fun noContent => absurd hasContent noContent
    unfold addDesiredAssociation
    rw [hasContent]
  | some content =>
    by_cases room : ((endpoint.associationsOf groupId).insert association).size ≤
      endpoint.getGroupCapacity groupId
    · rw [addsDesired_of_room_iff hasContent room]
      constructor
      · exact fun fits _ _ => fits
      · exact fun fits => fits (by rw [hasContent]; exact Option.some_ne_none content) room
    · refine iff_of_true (failing ?_) fun _ isRoom => absurd isRoom room
      rw [addDesiredAssociation_of_content hasContent, if_pos (not_le.mp room)]

/-! ## Adding one in another's place -/

/-- What is said of `force_add_desired_association`: the associations are some of the previous
ones and the new one, and no more are missing than there is no room for. -/
structure ForceAddsDesired
    (endpoint : Endpoint)
    (groupId : Nat)
    (newAssociation : Association) : Prop where
  kept : (endpoint.forceAddDesiredAssociation groupId newAssociation).1 = true ->
    ∀ association ∈
        (endpoint.forceAddDesiredAssociation groupId newAssociation).2.desiredAssociations groupId,
      association ∈ (endpoint.associationsOf groupId).insert newAssociation
  added : (endpoint.forceAddDesiredAssociation groupId newAssociation).1 = true ->
    newAssociation ∈
      (endpoint.forceAddDesiredAssociation groupId newAssociation).2.desiredAssociations groupId
  fewMissing : (endpoint.forceAddDesiredAssociation groupId newAssociation).1 = true ->
    ((endpoint.associationsOf groupId).insert newAssociation).size ≤
      ((endpoint.forceAddDesiredAssociation groupId newAssociation).2.desiredAssociations
        groupId).size +
      (((endpoint.associationsOf groupId).insert newAssociation).size -
        endpoint.getGroupCapacity groupId)
  withinCapacity : (endpoint.forceAddDesiredAssociation groupId newAssociation).1 = true ->
    ((endpoint.forceAddDesiredAssociation groupId newAssociation).2.desiredAssociations
      groupId).size ≤ endpoint.getGroupCapacity groupId
  inGroup : (endpoint.forceAddDesiredAssociation groupId newAssociation).1 = true ->
    (endpoint.forceAddDesiredAssociation groupId newAssociation).2.isAssociationInGroup groupId
      newAssociation = true
  unchanged : (endpoint.forceAddDesiredAssociation groupId newAssociation).1 = false ->
    (endpoint.forceAddDesiredAssociation groupId newAssociation).2 = endpoint

/-- As for the plain addition; and when there is no room but somebody to bump, one is enough. -/
structure ForceAddFits
    (endpoint : Endpoint)
    (groupId : Nat)
    (newAssociation : Association) : Prop where
  room : AddFits endpoint groupId newAssociation
  bumping : endpoint.getGroupContent groupId ≠ none ->
    endpoint.getGroupCapacity groupId <
      ((endpoint.associationsOf groupId).insert newAssociation).size ->
    ∀ association,
      bumped ((endpoint.associationsOf groupId).insert newAssociation) newAssociation =
        some association ->
      ((endpoint.associationsOf groupId).insert newAssociation).size =
        endpoint.getGroupCapacity groupId + 1 ∧
      Fits (((endpoint.associationsOf groupId).insert newAssociation).erase association)
        newAssociation

theorem mem_and_ne_of_bumped {associations : AssociationSet}
    (isBumped : bumped associations newAssociation = some association) :
    association ∈ associations ∧ association ≠ newAssociation := by
  refine ⟨List.mem_of_find?_eq_some isBumped, ?_⟩
  have differs := List.find?_some isBumped
  rintro rfl
  simp at differs

theorem forceAddsDesired_of_failing
    (isResult : endpoint.forceAddDesiredAssociation groupId newAssociation = (false, endpoint)) :
    ForceAddsDesired endpoint groupId newAssociation := by
  constructor <;> rw [isResult]
  · exact fun succeeded => nomatch succeeded
  · exact fun succeeded => nomatch succeeded
  · exact fun succeeded => nomatch succeeded
  · exact fun succeeded => nomatch succeeded
  · exact fun succeeded => nomatch succeeded
  · exact fun _ => rfl

section

variable (hasContent : endpoint.getGroupContent groupId = some content)
include hasContent

theorem forceAddsDesired_of_stored
    (isResult : endpoint.forceAddDesiredAssociation groupId newAssociation =
      (true, endpoint.setDesired groupId (encoded set)))
    (kept : ∀ association ∈ set,
      association ∈ (endpoint.associationsOf groupId).insert newAssociation)
    (added : newAssociation ∈ set)
    (fewMissing : ((endpoint.associationsOf groupId).insert newAssociation).size ≤
      set.size + (((endpoint.associationsOf groupId).insert newAssociation).size -
        endpoint.getGroupCapacity groupId))
    (withinCapacity : set.size ≤ endpoint.getGroupCapacity groupId)
    (fits : Fits set newAssociation) :
    ForceAddsDesired endpoint groupId newAssociation := by
  have allProper : ∀ other ∈ set, IsProper other :=
    fun other mem => isProper_of_mem_insert fits.proper (kept other mem)
  have isDesired := (desiredAssociations_setDesired hasContent (encoded set)).trans
    (decoded_storedValue allProper fits.small)
  have isAfter := associationsOf_setDesired hasContent allProper fits.small
  constructor <;> rw [isResult] <;> dsimp only
  · exact fun _ => isDesired.symm ▸ kept
  · exact fun _ => isDesired.symm ▸ added
  · exact fun _ => isDesired.symm ▸ fewMissing
  · exact fun _ => isDesired.symm ▸ withinCapacity
  · exact fun _ => isAssociationInGroup_iff.mpr (isAfter.symm ▸ added)
  · exact fun failed => nomatch failed

/-- When somebody is bumped, what is said holds if and only if this makes enough room and the
others fit. -/
theorem forceAddsDesired_of_bumped_iff
    (noRoom : endpoint.getGroupCapacity groupId <
      ((endpoint.associationsOf groupId).insert newAssociation).size)
    (isBumped : bumped ((endpoint.associationsOf groupId).insert newAssociation) newAssociation =
      some association)
    (isResult : endpoint.forceAddDesiredAssociation groupId newAssociation =
      (true, endpoint.setDesired groupId
        (encoded (((endpoint.associationsOf groupId).insert newAssociation).erase association)))) :
    ForceAddsDesired endpoint groupId newAssociation ↔
      ((endpoint.associationsOf groupId).insert newAssociation).size =
        endpoint.getGroupCapacity groupId + 1 ∧
      Fits (((endpoint.associationsOf groupId).insert newAssociation).erase association)
        newAssociation := by
  obtain ⟨mem, isOther⟩ := mem_and_ne_of_bumped isBumped
  have oneLess := KeySet.size_erase_of_mem associationKey_injective mem
  have isNew : newAssociation ∈
      ((endpoint.associationsOf groupId).insert newAssociation).erase association :=
    (KeySet.mem_erase associationKey_injective).mpr
      ⟨(KeySet.mem_insert associationKey_injective).mpr (.inl rfl), isOther.symm⟩
  constructor
  · intro forces
    have succeeded : (endpoint.forceAddDesiredAssociation groupId newAssociation).1 = true := by
      rw [isResult]
    have added := forces.added succeeded
    have withinCapacity := forces.withinCapacity succeeded
    rw [isResult, desiredAssociations_setDesired hasContent] at added withinCapacity
    have proper : IsProper newAssociation := isProper_of_mem_decoded added
    have allProper : ∀ other ∈
        ((endpoint.associationsOf groupId).insert newAssociation).erase association,
        IsProper other := fun other erased =>
      isProper_of_mem_insert proper ((KeySet.mem_erase associationKey_injective).mp erased).1
    have listed : ∀ other ∈ endpoint.associationsOf groupId,
        other ∈ listedAssociations content.desiredOrReported.bytes := by
      unfold associationsOf
      rw [hasContent]
      exact fun other isOld => mem_decoded.mp isOld
    have atMost := bytestreamLength_insert_erase_le
      (fun other isOld => isProper_of_mem_associationsOf isOld) listed
      content.desiredOrReported.small mem
    have small : bytestreamLength
        (((endpoint.associationsOf groupId).insert newAssociation).erase association) ≤ 255 := by
      by_contra large
      -- The size of 256 bytes is stored as 0, so that the new association is not there.
      have isLength : (encoded (((endpoint.associationsOf groupId).insert
          newAssociation).erase association)).length = 256 := by
        rw [length_encoded]
        omega
      have noBytes : (storedValue (encoded (((endpoint.associationsOf groupId).insert
          newAssociation).erase association))).bytes = [] := by
        unfold storedValue
        dsimp only
        rw [isLength]
        rfl
      rw [noBytes] at added
      exact absurd (mem_decoded.mp added) List.not_mem_nil
    rw [decoded_storedValue allProper small] at withinCapacity
    exact ⟨by omega, proper, small⟩
  · rintro ⟨oneTooMany, fits⟩
    refine forceAddsDesired_of_stored hasContent isResult ?_ isNew (by omega) (by omega) fits
    exact fun other erased => ((KeySet.mem_erase associationKey_injective).mp erased).1

theorem forceAddDesiredAssociation_of_content (newAssociation : Association) :
    endpoint.forceAddDesiredAssociation groupId newAssociation =
      if endpoint.getGroupCapacity groupId <
          ((endpoint.associationsOf groupId).insert newAssociation).size then
        match bumped ((endpoint.associationsOf groupId).insert newAssociation) newAssociation with
        | none => (false, endpoint)
        | some association =>
          (true, endpoint.setDesired groupId (encoded
            (((endpoint.associationsOf groupId).insert newAssociation).erase association)))
      else (true, endpoint.setDesired groupId
        (encoded ((endpoint.associationsOf groupId).insert newAssociation))) := by
  unfold forceAddDesiredAssociation associationsOf
  rw [hasContent]

theorem forceAddsDesired_of_room_iff
    (room : ((endpoint.associationsOf groupId).insert newAssociation).size ≤
      endpoint.getGroupCapacity groupId) :
    ForceAddsDesired endpoint groupId newAssociation ↔
      Fits ((endpoint.associationsOf groupId).insert newAssociation) newAssociation := by
  have isResult := (forceAddDesiredAssociation_of_content hasContent newAssociation).trans
    (if_neg (not_lt.mpr room))
  constructor
  · intro forces
    have succeeded : (endpoint.forceAddDesiredAssociation groupId newAssociation).1 = true := by
      rw [isResult]
    have kept := forces.kept succeeded
    have fewMissing := forces.fewMissing succeeded
    have added := forces.added succeeded
    rw [isResult, desiredAssociations_setDesired hasContent] at kept fewMissing added
    have allThere := KeySet.mem_of_size_le kept (by omega)
    exact ⟨isProper_of_mem_decoded added, bytestreamLength_decoded_le allThere⟩
  · intro fits
    refine forceAddsDesired_of_stored hasContent isResult (fun _ mem => mem) ?_
      (by omega) room fits
    exact (KeySet.mem_insert associationKey_injective).mpr (.inl rfl)

end

theorem forceAddsDesired_iff (endpoint : Endpoint) (groupId : Nat) (newAssociation : Association) :
    ForceAddsDesired endpoint groupId newAssociation ↔
      ForceAddFits endpoint groupId newAssociation := by
  cases hasContent : endpoint.getGroupContent groupId with
  | none =>
    have isResult : endpoint.forceAddDesiredAssociation groupId newAssociation =
        (false, endpoint) := by
      unfold forceAddDesiredAssociation
      rw [hasContent]
    refine iff_of_true (forceAddsDesired_of_failing isResult) ⟨?_, ?_⟩
    all_goals exact fun someContent => absurd hasContent someContent
  | some content =>
    have someContent : endpoint.getGroupContent groupId ≠ none := by
      rw [hasContent]
      exact Option.some_ne_none content
    have isResult := forceAddDesiredAssociation_of_content hasContent newAssociation
    by_cases room : ((endpoint.associationsOf groupId).insert newAssociation).size ≤
      endpoint.getGroupCapacity groupId
    · rw [forceAddsDesired_of_room_iff hasContent room]
      constructor
      · intro fits
        exact ⟨fun _ _ => fits, fun _ noRoom => absurd room (not_le.mpr noRoom)⟩
      · exact fun fits => fits.room someContent room
    · rw [if_pos (not_le.mp room)] at isResult
      cases isBumped :
          bumped ((endpoint.associationsOf groupId).insert newAssociation) newAssociation with
      | none =>
        rw [isBumped] at isResult
        refine iff_of_true (forceAddsDesired_of_failing isResult) ⟨?_, ?_⟩
        · exact fun _ isRoom => absurd isRoom room
        · intro _ _ association isSome
          rw [isBumped] at isSome
          cases isSome
      | some association =>
        rw [isBumped] at isResult
        rw [forceAddsDesired_of_bumped_iff hasContent (not_le.mp room) isBumped isResult]
        constructor
        · intro fits
          refine ⟨fun _ isRoom => absurd isRoom room, fun _ _ other isOther => ?_⟩
          rw [isBumped] at isOther
          cases isOther
          exact fits
        · exact fun fits => fits.bumping someContent (not_le.mp room) association isBumped

/-! ## Removing a NodeID -/

theorem removeNodeIdFromAssociationSet_eq_filter (set : AssociationSet) :
    removeNodeIdFromAssociationSet nodeId set =
      set.filter fun association => decide (association.nodeId ≠ nodeId) := by
  apply KeySet.eq_of_mem_iff
  intro association
  induction set using removeNodeIdFromAssociationSet.induct nodeId with
  | case1 set first isFound ih =>
    have hasNodeId := List.find?_some isFound
    rw [decide_eq_true_iff] at hasNodeId
    unfold removeNodeIdFromAssociationSet
    split
    next found isFoundToo =>
      rw [isFound] at isFoundToo
      cases isFoundToo
      rw [ih, KeySet.mem_filter, KeySet.mem_filter,
        KeySet.mem_erase associationKey_injective, decide_eq_true_iff]
      constructor
      · exact fun ⟨⟨mem, _⟩, differs⟩ => ⟨mem, differs⟩
      · intro ⟨mem, differs⟩
        refine ⟨⟨mem, fun isFirst => differs ?_⟩, differs⟩
        rw [isFirst, hasNodeId]
    next noneFound =>
      rw [isFound] at noneFound
      cases noneFound
  | case2 set noneFound =>
    unfold removeNodeIdFromAssociationSet
    split
    next first isFound =>
      rw [noneFound] at isFound
      cases isFound
    next =>
      rw [KeySet.mem_filter]
      refine ⟨fun mem => ⟨mem, decide_eq_true fun hasNodeId => ?_⟩, And.left⟩
      exact absurd (decide_eq_true hasNodeId) (List.find?_eq_none.mp noneFound association mem)

theorem associationsOf_congr {first second : Endpoint}
    (same : first.groups groupId = second.groups groupId) :
    first.associationsOf groupId = second.associationsOf groupId := by
  unfold associationsOf getGroupContent
  rw [same]

theorem groups_removeNodeIdInGroup_of_ne {other : Nat} (differs : other ≠ groupId) (nodeId : UInt16)
    (endpoint : Endpoint) :
    (removeNodeIdInGroup nodeId endpoint groupId).groups other = endpoint.groups other := by
  unfold removeNodeIdInGroup
  split
  next => rfl
  next => exact Function.update_of_ne differs _ _

theorem associationsOf_removeNodeIdInGroup (endpoint : Endpoint) (groupId : Nat) :
    (removeNodeIdInGroup nodeId endpoint groupId).associationsOf groupId =
      (endpoint.associationsOf groupId).filter fun association =>
        decide (association.nodeId ≠ nodeId) := by
  cases hasContent : endpoint.getGroupContent groupId with
  | none =>
    have noAssociations : endpoint.associationsOf groupId = KeySet.empty := by
      unfold associationsOf
      rw [hasContent]
    unfold removeNodeIdInGroup
    rw [hasContent]
    rw [noAssociations]
    rfl
  | some content =>
    have isAssociations : endpoint.associationsOf groupId =
        decoded content.desiredOrReported.bytes := by
      unfold associationsOf
      rw [hasContent]
    unfold removeNodeIdInGroup
    rw [hasContent]
    dsimp only
    rw [removeNodeIdFromAssociationSet_eq_filter, isAssociations]
    apply associationsOf_setDesired hasContent
    · exact fun association mem => isProper_of_mem_decoded (KeySet.mem_filter.mp mem).1
    · exact bytestreamLength_decoded_le fun association mem => (KeySet.mem_filter.mp mem).1

/-- The groups that are through have lost the associations to the NodeID and nothing else. -/
structure RemovedBelow
    (nodeId : UInt16)
    (endpoint : Endpoint)
    (loop : RemoveLoop) : Prop where
  removed : ∀ groupId, 1 ≤ groupId -> groupId < loop.currentGroupId ->
    loop.endpoint.associationsOf groupId =
      (endpoint.associationsOf groupId).filter fun association =>
        decide (association.nodeId ≠ nodeId)
  unchanged : ∀ groupId, ¬ (1 ≤ groupId ∧ groupId < loop.currentGroupId) ->
    loop.endpoint.groups groupId = endpoint.groups groupId
  positive : 1 ≤ loop.currentGroupId
  atMost : loop.currentGroupId ≤ endpoint.numberOfGroups + 1

theorem removeNodeIdStep_eq_some_iff {nodeId : UInt16} {groupCount : Nat} :
    removeNodeIdStep nodeId groupCount loop = some next ↔
      loop.currentGroupId ≤ groupCount ∧
        next = ⟨(loop.currentGroupId + 1) % 256,
          removeNodeIdInGroup nodeId loop.endpoint loop.currentGroupId⟩ := by
  unfold removeNodeIdStep
  split
  next goesOn => simp [goesOn, eq_comm]
  next stops => simp [stops]

/-- One round of the loop clears the node out of one more group. -/
theorem removedBelow_step {nodeId : UInt16} (fewGroups : endpoint.numberOfGroups < 255)
    (below : RemovedBelow nodeId endpoint loop)
    (goesOn : removeNodeIdStep nodeId endpoint.numberOfGroups loop = some next) :
    RemovedBelow nodeId endpoint next := by
  obtain ⟨isGroup, rfl⟩ := removeNodeIdStep_eq_some_iff.mp goesOn
  have positive := below.positive
  have noOverflow : (loop.currentGroupId + 1) % 256 = loop.currentGroupId + 1 :=
    Nat.mod_eq_of_lt (by omega)
  constructor <;> dsimp only <;> rw [noOverflow]
  · intro groupId atLeastOne isBelow
    by_cases isCurrent : groupId = loop.currentGroupId
    · have isUnchanged := below.unchanged groupId (by omega)
      rw [isCurrent, associationsOf_removeNodeIdInGroup,
        associationsOf_congr (isCurrent ▸ isUnchanged)]
    · rw [associationsOf_congr (groups_removeNodeIdInGroup_of_ne isCurrent nodeId _)]
      exact below.removed groupId atLeastOne (by omega)
  · intro groupId notBelow
    rw [groups_removeNodeIdInGroup_of_ne (by omega)]
    exact below.unchanged groupId (by omega)
  all_goals omega

/-- What is said of `remove_desired_node_id_from_all_associations`: it returns, the groups have
their associations but those to the NodeID, and nothing else has changed. -/
def RemovesAllAndOnly (endpoint : Endpoint) (nodeId : UInt16) : Prop :=
  ∃ after, RemovesDesiredNodeId endpoint nodeId after ∧
    (∀ groupId, 1 ≤ groupId -> groupId ≤ endpoint.numberOfGroups ->
      after.associationsOf groupId =
        (endpoint.associationsOf groupId).filter fun association =>
          decide (association.nodeId ≠ nodeId)) ∧
    ∀ groupId, ¬ (1 ≤ groupId ∧ groupId ≤ endpoint.numberOfGroups) ->
      after.groups groupId = endpoint.groups groupId

theorem not_removesDesiredNodeId_of_manyGroups (manyGroups : 255 ≤ endpoint.numberOfGroups)
    (nodeId : UInt16) (after : Endpoint) : ¬ RemovesDesiredNodeId endpoint nodeId after := by
  rintro ⟨loop, leaves, -⟩
  refine not_leaves_of_goesOn (fun loop => loop.currentGroupId < 256) ?_ ?_ loop leaves
  · intro loop isByte
    exact ⟨_, removeNodeIdStep_eq_some_iff.mpr ⟨by omega, rfl⟩, Nat.mod_lt _ (by decide)⟩
  · dsimp only
    omega

theorem removesAllAndOnly_iff (endpoint : Endpoint) (nodeId : UInt16) :
    RemovesAllAndOnly endpoint nodeId ↔ endpoint.numberOfGroups < 255 := by
  constructor
  · rintro ⟨after, returns, -⟩
    by_contra manyGroups
    exact not_removesDesiredNodeId_of_manyGroups (not_lt.mp manyGroups) nodeId after returns
  · intro fewGroups
    have decreases : ∀ loop next,
        removeNodeIdStep nodeId endpoint.numberOfGroups loop = some next ->
        endpoint.numberOfGroups + 1 - next.currentGroupId <
          endpoint.numberOfGroups + 1 - loop.currentGroupId := by
      intro loop next goesOn
      obtain ⟨isGroup, rfl⟩ := removeNodeIdStep_eq_some_iff.mp goesOn
      dsimp only
      omega
    obtain ⟨loop, left⟩ := exists_leaveWithin_of_measure _ decreases
      (Nat.lt_succ_self (endpoint.numberOfGroups + 1 - (⟨1, endpoint⟩ : RemoveLoop).currentGroupId))
    have leaves : Leaves (removeNodeIdStep nodeId endpoint.numberOfGroups) ⟨1, endpoint⟩ loop :=
      ⟨_, left⟩
    have initially : RemovedBelow nodeId endpoint ⟨1, endpoint⟩ := by
      constructor <;> dsimp only
      · intro groupId atLeastOne isBelow
        omega
      · exact fun _ _ => rfl
      · exact le_rfl
      · omega
    obtain ⟨below, stops⟩ := leaves.invariant (RemovedBelow nodeId endpoint)
      (fun _ _ holds goesOn => removedBelow_step fewGroups holds goesOn) initially
    have isLast : ¬ loop.currentGroupId ≤ endpoint.numberOfGroups := by
      intro isGroup
      rw [removeNodeIdStep_eq_some_iff.mpr ⟨isGroup, rfl⟩] at stops
      cases stops
    have atMost := below.atMost
    refine ⟨loop.endpoint, ⟨loop, leaves, rfl⟩, ?_, ?_⟩
    · intro groupId atLeastOne isGroup
      exact below.removed groupId atLeastOne (by omega)
    · intro groupId notGroup
      exact below.unchanged groupId (by omega)

/-! ## When the operations do what is said -/

/-- The additions do what is said if and only if what they are to store fits, which for the
forced one includes that no more than one association has to go; the removal does if and only
if there are fewer than 255 groups. -/
theorem desiredAssociations_updated_iff (endpoint : Endpoint) (groupId : Nat)
    (association : Association) (nodeId : UInt16) :
    (AddsDesired endpoint groupId association ↔ AddFits endpoint groupId association) ∧
    (ForceAddsDesired endpoint groupId association ↔ ForceAddFits endpoint groupId association) ∧
    (RemovesAllAndOnly endpoint nodeId ↔ endpoint.numberOfGroups < 255) :=
  ⟨addsDesired_iff endpoint groupId association, forceAddsDesired_iff endpoint groupId association,
    removesAllAndOnly_iff endpoint nodeId⟩

/-- An endpoint with group 1 only, which has two associations. -/
def pairEndpoint (numberOfGroups capacity : Nat) : Endpoint where
  numberOfGroups := numberOfGroups
  groups groupId :=
    if groupId = 1 then some ⟨capacity, some ⟨⟨[2, 3], by decide⟩, ⟨[], by decide⟩⟩⟩ else none

/-- With a capacity of 1, one of three associations is bumped and two are stored; NodeID 256
is stored as the marker; and 255 groups are never through. -/
theorem not_updated_pair :
    ¬ ForceAddsDesired (pairEndpoint 1 1) 1 ⟨.nodeId, 5, 0⟩ ∧
      ¬ AddsDesired (pairEndpoint 1 3) 1 ⟨.nodeId, 256, 0⟩ ∧
      ¬ RemovesAllAndOnly (pairEndpoint 255 3) 2 := by
  refine ⟨fun forces => ?_, fun adds => ?_, ?_⟩
  · exact absurd (forces.withinCapacity (by decide)) (by decide)
  · exact absurd (adds.inGroup (by decide)) (by decide)
  · rw [removesAllAndOnly_iff]
    decide

end Endpoint

end Associations
