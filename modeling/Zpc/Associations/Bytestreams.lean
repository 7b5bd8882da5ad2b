import Mathlib.Data.UInt
import Zpc.Foundation.KeySet
import Zpc.ZwaveDefinitions.NodeMask

/-!
# Association bytestreams

The associations of a group are kept in the attribute store as the bytes of an association
report: the NodeIDs of the associations without an endpoint, a marker, and then a pair of
NodeID and endpoint for each of the others.  The code works on a set whose order puts the
associations without an endpoint first.
-/

namespace Associations

open Foundation ZwaveDefinitions

def associationMarker : UInt8 := 0

/-- `association_type_t`. -/
inductive AssociationType where
  | nodeId
  | endpoint
  deriving DecidableEq

/-- The number of a type in the enumeration. -/
def AssociationType.toNat : AssociationType -> Nat
  | nodeId => 0
  | endpoint => 1

/-- `association_t`. -/
structure Association where
  type : AssociationType
  nodeId : UInt16
  endpointId : UInt8
  deriving DecidableEq

/-- What `association_compare` compares. -/
def associationKey (association : Association) : Nat :=
  (association.type.toNat <<< 24) ||| (association.nodeId.toNat <<< 8) |||
    association.endpointId.toNat

abbrev AssociationSet : Type := KeySet associationKey

/-- `is_association_valid`; the enumeration has no types but the two that are checked for. -/
def isAssociationValid (association : Association) : Bool :=
  decide (association.nodeId.toNat ≠ 0 ∧ association.nodeId.toNat ≤ zwMaxNodes)

/-- The variables of the loop of `get_association_list`. -/
structure ListLoop where
  association : Association
  endpointByte : Bool
  target : AssociationSet

/-- `target.insert`, for a valid association only. -/
def insertValid (target : AssociationSet) (association : Association) : AssociationSet :=
  if isAssociationValid association then target.insert association else target

/-- The body of the loop. -/
def listStep (loop : ListLoop) (byte : UInt8) : ListLoop :=
  if byte = associationMarker ∧ loop.association.type = .nodeId then
    { loop with association := { loop.association with type := .endpoint } }
  else
    match loop.association.type with
    | .nodeId =>
        let association := { loop.association with nodeId := byte.toUInt16 }
        { loop with association := association, target := insertValid loop.target association }
    | .endpoint =>
        if loop.endpointByte = false then
          { loop with
            association := { loop.association with nodeId := byte.toUInt16 }
            endpointByte := true }
        else
          let association := { loop.association with endpointId := byte }
          { association := association
            endpointByte := false
            target := insertValid loop.target association }

def getAssociationList (source : List UInt8) (target : AssociationSet) : AssociationSet :=
  (source.foldl listStep ⟨⟨.nodeId, 0, 0⟩, false, target⟩).target

/-- The variables of the loop of `get_association_bytestream`. -/
structure BytestreamLoop where
  target : List UInt8
  markerInserted : Bool

/-- The body of the loop. -/
def bytestreamStep (loop : BytestreamLoop) (association : Association) : BytestreamLoop :=
  match association.type with
  | .nodeId => { loop with target := loop.target ++ [association.nodeId.toUInt8] }
  | .endpoint =>
      let loop :=
        if loop.markerInserted = false then ⟨loop.target ++ [associationMarker], true⟩ else loop
      { loop with
        target := loop.target ++ [association.nodeId.toUInt8, association.endpointId] }

def getAssociationBytestream (source : AssociationSet) (target : List UInt8) : List UInt8 :=
  if source.elements = [] then target ++ [associationMarker]
  else (source.elements.foldl bytestreamStep ⟨target, false⟩).target

theorem associationKey_eq (association : Association) :
    associationKey association =
      association.type.toNat * 2 ^ 24 + association.nodeId.toNat * 2 ^ 8 +
        association.endpointId.toNat := by
  have nodeIdSmall := association.nodeId.toNat_lt
  have endpointSmall := association.endpointId.toNat_lt
  unfold associationKey
  rw [Nat.or_assoc, Nat.shiftLeft_eq, Nat.shiftLeft_eq, Nat.mul_comm association.nodeId.toNat,
    ← Nat.two_pow_add_eq_or_of_lt endpointSmall, Nat.mul_comm association.type.toNat,
    ← Nat.two_pow_add_eq_or_of_lt (by omega)]
  omega

theorem associationKey_injective : Function.Injective associationKey := by
  rintro ⟨type, nodeId, endpointId⟩ ⟨otherType, otherNodeId, otherEndpointId⟩ same
  rw [associationKey_eq, associationKey_eq] at same
  have nodeIdSmall := nodeId.toNat_lt
  have endpointSmall := endpointId.toNat_lt
  have otherNodeIdSmall := otherNodeId.toNat_lt
  have otherEndpointSmall := otherEndpointId.toNat_lt
  dsimp only at same
  have sameType : type.toNat = otherType.toNat := by omega
  have sameNodeId : nodeId = otherNodeId := UInt16.toNat_inj.mp (by omega)
  have sameEndpointId : endpointId = otherEndpointId := UInt8.toNat_inj.mp (by omega)
  have isType : type = otherType := by
    cases type <;> cases otherType <;> first | rfl | cases sameType
  rw [isType, sameNodeId, sameEndpointId]

theorem associationKey_lt_of_type {first second : Association} (isNodeId : first.type = .nodeId)
    (isEndpoint : second.type = .endpoint) : associationKey first < associationKey second := by
  have nodeIdSmall := first.nodeId.toNat_lt
  have endpointSmall := first.endpointId.toNat_lt
  have typesDiffer : AssociationType.nodeId.toNat < AssociationType.endpoint.toNat := by decide
  rw [associationKey_eq, associationKey_eq, isNodeId, isEndpoint]
  omega

/-- The bytes before the marker. -/
def nodeIdBytes (source : List UInt8) : List UInt8 :=
  source.takeWhile fun byte => decide (byte ≠ associationMarker)

/-- The bytes behind the marker. -/
def endpointBytes (source : List UInt8) : List UInt8 :=
  (source.dropWhile fun byte => decide (byte ≠ associationMarker)).tail

/-- Bytes two by two; a last one by itself is left out. -/
def pairsOf : List UInt8 -> List (UInt8 × UInt8)
  | [] => []
  | [_] => []
  | first :: second :: rest => (first, second) :: pairsOf rest

/-- An association without an endpoint. -/
def nodeIdAssociation (byte : UInt8) : Association := ⟨.nodeId, byte.toUInt16, 0⟩

/-- An association with an endpoint. -/
def endpointAssociation (pair : UInt8 × UInt8) : Association := ⟨.endpoint, pair.1.toUInt16, pair.2⟩

/-- The associations that a bytestream lists, those with an invalid NodeID left out. -/
def listedAssociations (source : List UInt8) : List Association :=
  ((nodeIdBytes source).map nodeIdAssociation ++
    (pairsOf (endpointBytes source)).map endpointAssociation).filter isAssociationValid

variable (rest : List UInt8) {target set : AssociationSet} {association : Association}
  {source : List UInt8} {list : List Association}

theorem listedAssociations_marker :
    listedAssociations (associationMarker :: rest) =
      ((pairsOf rest).map endpointAssociation).filter isAssociationValid := by
  simp [listedAssociations, nodeIdBytes, endpointBytes]

theorem listedAssociations_cons {byte : UInt8} (notMarker : byte ≠ associationMarker)
    (rest : List UInt8) :
    listedAssociations (byte :: rest) =
      [nodeIdAssociation byte].filter isAssociationValid ++ listedAssociations rest := by
  simp [listedAssociations, nodeIdBytes, endpointBytes, notMarker, ← List.filter_append]

theorem mem_insertValid {other : Association} :
    other ∈ insertValid target association ↔
      other ∈ target ∨ other ∈ [association].filter isAssociationValid := by
  unfold insertValid
  split
  next isValid =>
    rw [KeySet.mem_insert associationKey_injective]
    simp [isValid, or_comm]
  next notValid => simp [notValid]

theorem mem_foldl_listStep_endpoint (source : List UInt8) (nodeId : UInt16) (endpointId : UInt8)
    (target : AssociationSet) (association : Association) :
    association ∈ (source.foldl listStep ⟨⟨.endpoint, nodeId, endpointId⟩, false, target⟩).target ↔
      association ∈ target ∨
        association ∈ ((pairsOf source).map endpointAssociation).filter isAssociationValid := by
  induction source using pairsOf.induct generalizing nodeId endpointId target with
  | case1 => simp [pairsOf]
  | case2 byte => simp [pairsOf, listStep]
  | case3 first second rest ih =>
    have twoSteps :
        listStep (listStep ⟨⟨.endpoint, nodeId, endpointId⟩, false, target⟩ first) second =
          ⟨⟨.endpoint, first.toUInt16, second⟩, false,
            insertValid target (endpointAssociation (first, second))⟩ := by
      simp [listStep, endpointAssociation]
    have isFirst : ((pairsOf (first :: second :: rest)).map endpointAssociation).filter
          isAssociationValid =
        [endpointAssociation (first, second)].filter isAssociationValid ++
          ((pairsOf rest).map endpointAssociation).filter isAssociationValid := by
      rw [← List.filter_append]
      rfl
    rw [List.foldl_cons, List.foldl_cons, twoSteps, ih, mem_insertValid,
      isFirst, List.mem_append, or_assoc]

theorem mem_getAssociationList :
    association ∈ getAssociationList source target ↔
      association ∈ target ∨ association ∈ listedAssociations source := by
  unfold getAssociationList
  generalize (0 : UInt16) = nodeId
  induction source generalizing nodeId target with
  | nil => simp [listedAssociations, nodeIdBytes, endpointBytes, pairsOf]
  | cons byte rest ih =>
    rw [List.foldl_cons]
    by_cases isMarker : byte = associationMarker
    · have switches : listStep ⟨⟨.nodeId, nodeId, 0⟩, false, target⟩ byte =
          ⟨⟨.endpoint, nodeId, 0⟩, false, target⟩ := by simp [listStep, isMarker]
      rw [switches, mem_foldl_listStep_endpoint, isMarker, listedAssociations_marker]
    · have inserts : listStep ⟨⟨.nodeId, nodeId, 0⟩, false, target⟩ byte =
          ⟨⟨.nodeId, byte.toUInt16, 0⟩, false, insertValid target (nodeIdAssociation byte)⟩ := by
        simp [listStep, isMarker, nodeIdAssociation]
      rw [inserts, ih, mem_insertValid, listedAssociations_cons isMarker, List.mem_append, or_assoc]

/-- A valid association, with endpoint 0 if it is one without an endpoint. -/
def IsProper (association : Association) : Prop :=
  isAssociationValid association = true ∧ (association.type = .nodeId -> association.endpointId = 0)

instance (association : Association) : Decidable (IsProper association) :=
  inferInstanceAs (Decidable (_ ∧ _))

theorem isProper_of_mem_listedAssociations (listed : association ∈ listedAssociations source) :
    IsProper association := by
  obtain ⟨isListed, isValid⟩ := List.mem_filter.mp listed
  refine ⟨isValid, fun isNodeId => ?_⟩
  rcases List.mem_append.mp isListed with isFirst | isSecond
  · obtain ⟨byte, -, same⟩ := List.mem_map.mp isFirst
    rw [← same]
    rfl
  · obtain ⟨pair, -, same⟩ := List.mem_map.mp isSecond
    rw [← same] at isNodeId
    cases isNodeId

/-- The associations that a bytestream holds. -/
def decoded (source : List UInt8) : AssociationSet := getAssociationList source KeySet.empty

theorem mem_decoded : association ∈ decoded source ↔ association ∈ listedAssociations source := by
  unfold decoded
  rw [mem_getAssociationList]
  exact or_iff_right (KeySet.not_mem_empty association)

theorem isProper_of_mem_decoded (mem : association ∈ decoded source) : IsProper association :=
  isProper_of_mem_listedAssociations (mem_decoded.mp mem)

/-- The associations of a set without an endpoint, in its order. -/
def nodeIdElements (set : AssociationSet) : List Association :=
  set.elements.filter fun association => decide (association.type = .nodeId)

/-- The associations of a set with an endpoint, in its order. -/
def endpointElements (set : AssociationSet) : List Association :=
  set.elements.filter fun association => decide (association.type = .endpoint)

theorem elements_eq_append (set : AssociationSet) :
    set.elements = nodeIdElements set ++ endpointElements set := by
  have ordered := set.ordered
  unfold nodeIdElements endpointElements
  generalize set.elements = elements at ordered ⊢
  induction elements with
  | nil => rfl
  | cons head tail ih =>
    obtain ⟨headLess, tailOrdered⟩ := List.pairwise_cons.mp ordered
    have isTail := ih tailOrdered
    cases isType : head.type with
    | nodeId => simpa [isType] using isTail
    | endpoint =>
      have noNodeIds : tail.filter (fun association => decide (association.type = .nodeId)) =
          [] := by
        rw [List.filter_eq_nil_iff]
        intro other mem isNodeId
        exact absurd (headLess other mem)
          (lt_asymm (associationKey_lt_of_type (of_decide_eq_true isNodeId) isType))
      simpa [isType, noNodeIds] using isTail

/-- The two bytes of an association with an endpoint. -/
def endpointPair (association : Association) : List UInt8 :=
  [association.nodeId.toUInt8, association.endpointId]

theorem foldl_bytestreamStep_nodeIds (nodeIds : ∀ association ∈ list, association.type = .nodeId)
    (loop : BytestreamLoop) :
    list.foldl bytestreamStep loop =
      { loop with target := loop.target ++ list.map (·.nodeId.toUInt8) } := by
  induction list generalizing loop with
  | nil => simp
  | cons head tail ih =>
    have isNodeId := nodeIds head List.mem_cons_self
    rw [List.foldl_cons, ih fun other mem => nodeIds other (List.mem_cons_of_mem head mem)]
    simp [bytestreamStep, isNodeId]

theorem foldl_bytestreamStep_endpoints
    (endpoints : ∀ association ∈ list, association.type = .endpoint) (target : List UInt8) :
    (list.foldl bytestreamStep ⟨target, true⟩).target = target ++ list.flatMap endpointPair := by
  induction list generalizing target with
  | nil => simp
  | cons head tail ih =>
    have isEndpoint := endpoints head List.mem_cons_self
    have step : bytestreamStep ⟨target, true⟩ head = ⟨target ++ endpointPair head, true⟩ := by
      simp [bytestreamStep, isEndpoint, endpointPair]
    rw [List.foldl_cons, step,
      ih fun other mem => endpoints other (List.mem_cons_of_mem head mem),
      List.flatMap_cons, List.append_assoc]

/-- The bytes that are written for a set. -/
def encoded (set : AssociationSet) : List UInt8 := getAssociationBytestream set []

theorem encoded_eq (set : AssociationSet) :
    encoded set =
      (nodeIdElements set).map (·.nodeId.toUInt8) ++
        if nodeIdElements set ≠ [] ∧ endpointElements set = [] then []
        else associationMarker :: (endpointElements set).flatMap endpointPair := by
  have isNodeId : ∀ association ∈ nodeIdElements set, association.type = .nodeId :=
    fun association mem => of_decide_eq_true (List.mem_filter.mp mem).2
  have isEndpoint : ∀ association ∈ endpointElements set, association.type = .endpoint :=
    fun association mem => of_decide_eq_true (List.mem_filter.mp mem).2
  unfold encoded getAssociationBytestream
  rw [elements_eq_append]
  generalize nodeIdElements set = nodeIds at isNodeId ⊢
  generalize endpointElements set = endpoints at isEndpoint ⊢
  cases endpoints with
  | nil =>
    cases nodeIds with
    | nil => simp
    | cons first others =>
      rw [List.append_nil, foldl_bytestreamStep_nodeIds isNodeId]
      simp
  | cons first others =>
    have firstEndpoint := isEndpoint first List.mem_cons_self
    have step : bytestreamStep ⟨nodeIds.map (·.nodeId.toUInt8), false⟩ first =
        ⟨nodeIds.map (·.nodeId.toUInt8) ++ associationMarker :: endpointPair first, true⟩ := by
      simp [bytestreamStep, firstEndpoint, endpointPair]
    rw [if_neg (by simp), List.foldl_append, foldl_bytestreamStep_nodeIds isNodeId,
      List.nil_append, List.foldl_cons, step,
      foldl_bytestreamStep_endpoints fun other mem =>
        isEndpoint other (List.mem_cons_of_mem first mem)]
    simp

theorem isAssociationValid_iff :
    isAssociationValid association = true ↔
      1 ≤ association.nodeId.toNat ∧ association.nodeId.toNat ≤ 232 := by
  have isMaximum : zwMaxNodes = 232 := rfl
  unfold isAssociationValid
  rw [decide_eq_true_iff]
  omega

theorem toUInt16_toUInt8 (isValid : isAssociationValid association = true) :
    association.nodeId.toUInt8.toUInt16 = association.nodeId := by
  obtain ⟨-, small⟩ := isAssociationValid_iff.mp isValid
  apply UInt16.toNat_inj.mp
  rw [UInt8.toNat_toUInt16, UInt16.toNat_toUInt8]
  omega

theorem toUInt8_ne_marker (isValid : isAssociationValid association = true) :
    association.nodeId.toUInt8 ≠ associationMarker := by
  obtain ⟨positive, -⟩ := isAssociationValid_iff.mp isValid
  intro isMarker
  have same := toUInt16_toUInt8 isValid
  rw [isMarker] at same
  rw [← same] at positive
  exact absurd positive (by decide)

theorem listedAssociations_append {front : List UInt8}
    (notMarker : ∀ byte ∈ front, byte ≠ associationMarker) (rest : List UInt8) :
    listedAssociations (front ++ rest) =
      (front.map nodeIdAssociation).filter isAssociationValid ++ listedAssociations rest := by
  induction front with
  | nil => rfl
  | cons byte front ih =>
    rw [List.cons_append, listedAssociations_cons (notMarker byte List.mem_cons_self),
      ih fun other mem => notMarker other (List.mem_cons_of_mem byte mem),
      ← List.append_assoc, ← List.filter_append]
    rfl

theorem pairsOf_flatMap_endpointPair (list : List Association) :
    pairsOf (list.flatMap endpointPair) =
      list.map fun association => (association.nodeId.toUInt8, association.endpointId) := by
  induction list with
  | nil => rfl
  | cons head tail ih => simp [endpointPair, pairsOf, ih]

theorem listedAssociations_encoded (proper : ∀ association ∈ set, IsProper association) :
    listedAssociations (encoded set) = set.elements := by
  have nodeIdsKept : (nodeIdElements set).map
        (fun association => nodeIdAssociation association.nodeId.toUInt8) =
      nodeIdElements set := by
    refine (List.map_congr_left fun association mem => ?_).trans (List.map_id _)
    obtain ⟨inSet, isNodeId⟩ := List.mem_filter.mp mem
    obtain ⟨isValid, noEndpoint⟩ := proper association inSet
    have isType := of_decide_eq_true isNodeId
    unfold nodeIdAssociation
    rw [toUInt16_toUInt8 isValid, ← isType, ← noEndpoint isType]
    rfl
  have endpointsKept : (endpointElements set).map
        (fun association =>
          endpointAssociation (association.nodeId.toUInt8, association.endpointId)) =
      endpointElements set := by
    refine (List.map_congr_left fun association mem => ?_).trans (List.map_id _)
    obtain ⟨inSet, isEndpoint⟩ := List.mem_filter.mp mem
    have isType := of_decide_eq_true isEndpoint
    unfold endpointAssociation
    rw [toUInt16_toUInt8 (proper association inSet).1, ← isType]
    rfl
  have allValid : ∀ association ∈ set.elements, isAssociationValid association = true :=
    fun association mem => (proper association mem).1
  have nodeIdsValid : ∀ association ∈ nodeIdElements set, isAssociationValid association = true :=
    fun association mem => allValid association (List.mem_filter.mp mem).1
  have endpointsValid :
      ∀ association ∈ endpointElements set, isAssociationValid association = true :=
    fun association mem => allValid association (List.mem_filter.mp mem).1
  have notMarker : ∀ byte ∈ (nodeIdElements set).map (·.nodeId.toUInt8),
      byte ≠ associationMarker := by
    intro byte mem
    obtain ⟨association, isElement, same⟩ := List.mem_map.mp mem
    rw [← same]
    exact toUInt8_ne_marker (nodeIdsValid association isElement)
  rw [encoded_eq, listedAssociations_append notMarker, List.map_map]
  have isFront : (nodeIdElements set).map (nodeIdAssociation ∘ (·.nodeId.toUInt8)) =
      nodeIdElements set := nodeIdsKept
  rw [isFront, List.filter_eq_self.mpr nodeIdsValid]
  conv_rhs => rw [elements_eq_append]
  split
  next noEndpoints => rw [noEndpoints.2]; rfl
  next =>
    rw [listedAssociations_marker, pairsOf_flatMap_endpointPair, List.map_map]
    have isBack : (endpointElements set).map (endpointAssociation ∘
        fun association => (association.nodeId.toUInt8, association.endpointId)) =
      endpointElements set := endpointsKept
    rw [isBack, List.filter_eq_self.mpr endpointsValid]

theorem decoded_encoded (proper : ∀ association ∈ set, IsProper association) :
    decoded (encoded set) = set := by
  apply KeySet.eq_of_mem_iff
  intro association
  rw [mem_decoded, listedAssociations_encoded proper]
  rfl

/-- The bytes of a set of proper associations give the set back.  Any bytes give proper
associations that come back after another round, and these are the valid ones among the
bytes before the marker and the pairs behind it. -/
theorem bytestream_round_trips :
    (∀ set : AssociationSet, (∀ association ∈ set, IsProper association) ->
      getAssociationList (getAssociationBytestream set []) KeySet.empty = set) ∧
    ∀ source : List UInt8,
      getAssociationList
          (getAssociationBytestream (getAssociationList source KeySet.empty) [])
          KeySet.empty =
        getAssociationList source KeySet.empty ∧
      (∀ association ∈ getAssociationList source KeySet.empty, IsProper association) ∧
      ∀ association, association ∈ getAssociationList source KeySet.empty ↔
        isAssociationValid association = true ∧
          ((∃ byte ∈ nodeIdBytes source, association = nodeIdAssociation byte) ∨
            ∃ pair ∈ pairsOf (endpointBytes source), association = endpointAssociation pair) := by
  refine ⟨fun set proper => decoded_encoded proper, fun source => ⟨?_, ?_, ?_⟩⟩
  · exact decoded_encoded fun association mem => isProper_of_mem_decoded mem
  · exact fun association mem => isProper_of_mem_decoded mem
  · intro association
    refine mem_decoded.trans ?_
    unfold listedAssociations
    rw [List.mem_filter, List.mem_append, List.mem_map, List.mem_map, and_comm]
    simp only [eq_comm]

/-- One association without an endpoint, and one with endpoint 0. -/
def mixedAssociations : AssociationSet :=
  (KeySet.empty.insert ⟨.endpoint, 2, 0⟩).insert ⟨.nodeId, 2, 0⟩

theorem bytestream_round_trips_mixed :
    getAssociationList (getAssociationBytestream mixedAssociations []) KeySet.empty =
      mixedAssociations :=
  bytestream_round_trips.1 mixedAssociations (by decide)

/-- An invalid NodeID in a pair and a last byte by itself are ignored. -/
example : (getAssociationList [5, 0, 0, 1, 6, 2, 7] KeySet.empty).elements =
    [⟨.nodeId, 5, 0⟩, ⟨.endpoint, 6, 2⟩] := by
  decide

end Associations
