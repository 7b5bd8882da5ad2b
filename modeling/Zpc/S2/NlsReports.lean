import Zpc.Foundation.RangeFilter
import Zpc.S2.NlsNodeList

/-!
# What a series of NLS Node List Gets reports

The transfer in chunks gives the mask of the module, and the move of its Long Range part
puts every bit but that of the last Long Range node where `ZW_IS_NODE_IN_MASK` looks for
it.  A series of Gets walks through the nodes below the announced length.  A node whose keys
are unknown uses up a Get and is not counted as sent, so after it no node is the last one
any more.
-/

namespace S2

open Foundation ZwaveDefinitions

theorem getD_set (mask : List UInt8) (position other : Nat) (byte : UInt8) :
    (mask.set position byte).getD other 0 =
      if other = position ∧ position < mask.length then byte else mask.getD other 0 := by
  by_cases same : position = other
  · subst same
    by_cases inside : position < mask.length
    all_goals simp [inside]
  · simp [same, Ne.symm same]

theorem getD_replicate_zero (length position : Nat) :
    (List.replicate length (0 : UInt8)).getD position 0 = 0 := by
  rw [List.getD_eq_getElem?_getD, List.getElem?_replicate]
  split <;> rfl

theorem storeNodeList_eq (startOffset i : Nat) (bytes mask : List UInt8)
    (fits : startOffset * getNlsNodesOffsetGranularityInBytes + i + bytes.length ≤ mask.length)
    (length : mask.length = zwLrMaxNodemaskLength) :
    ∃ stored, storeNodeList startOffset i bytes mask = some stored ∧
      stored.length = mask.length ∧
      ∀ position, stored.getD position 0 =
        if startOffset * getNlsNodesOffsetGranularityInBytes + i ≤ position ∧
            position < startOffset * getNlsNodesOffsetGranularityInBytes + i + bytes.length then
          bytes.getD (position - (startOffset * getNlsNodesOffsetGranularityInBytes + i)) 0
        else mask.getD position 0 := by
  induction bytes generalizing i mask with
  | nil =>
    refine ⟨mask, rfl, rfl, fun position => ?_⟩
    rw [if_neg (by simp)]
  | cons byte rest ih =>
    generalize base : startOffset * getNlsNodesOffsetGranularityInBytes = start at *
    rw [List.length_cons] at fits
    obtain ⟨stored, isStored, sameLength, bytesAt⟩ :=
      ih (i + 1) (mask.set (i + start) byte)
        (by rw [List.length_set]; omega) (by rwa [List.length_set])
    refine ⟨stored, ?_, by rw [sameLength, List.length_set], fun position => ?_⟩
    · unfold storeNodeList
      rw [base, if_neg (by omega)]
      exact isStored
    · rw [bytesAt, getD_set, List.length_cons]
      by_cases first : position = start + i
      · subst first
        rw [if_neg (by omega), if_pos (by omega), if_pos (by omega), Nat.sub_self]
        rfl
      · by_cases later : start + i < position
        · by_cases inside : position < start + (i + 1) + rest.length
          · rw [if_pos (by omega), if_pos (by omega)]
            rw [show position - (start + i) = position - (start + (i + 1)) + 1 by omega]
            rfl
          · rw [if_neg (by omega), if_neg (by omega), if_neg (by omega)]
        · rw [if_neg (by omega), if_neg (by omega), if_neg (by omega)]

namespace NlsModule

variable (nls : NlsModule)

variable {k : Nat} {chunk : List UInt8}

theorem chunkByte_of_chunk (isChunk : nls.chunks[k]? = some chunk) {position : Nat}
    (after : k * getNlsNodesOffsetGranularityInBytes ≤ position)
    (before : position < (k + 1) * getNlsNodesOffsetGranularityInBytes) :
    chunkByte nls.chunks position =
      chunk.getD (position - k * getNlsNodesOffsetGranularityInBytes) 0 := by
  unfold chunkByte
  unfold getNlsNodesOffsetGranularityInBytes at *
  have number : position / 128 = k := by omega
  have rest : position % 128 = position - k * 128 := by omega
  have found : nls.chunks.getD k [] = chunk := by
    rw [List.getD_eq_getElem?_getD, isChunk]
    rfl
  rw [number, rest, found]

theorem exists_stored {mask : List UInt8} (isChunk : nls.chunks[k]? = some chunk)
    (length : mask.length = zwLrMaxNodemaskLength)
    (fetched : ∀ position, mask.getD position 0 =
      if position < k * getNlsNodesOffsetGranularityInBytes then
        chunkByte nls.chunks position
      else 0) :
    ∃ stored, storeNodeList k 0 chunk mask = some stored ∧
      stored.length = zwLrMaxNodemaskLength ∧
      ∀ position, stored.getD position 0 =
        if position < (k + 1) * getNlsNodesOffsetGranularityInBytes then
          chunkByte nls.chunks position
        else 0 := by
  have fits := nls.fits k chunk isChunk
  have short := nls.chunkLength chunk (List.mem_of_getElem? isChunk)
  obtain ⟨stored, isStored, sameLength, bytesAt⟩ :=
    storeNodeList_eq k 0 chunk mask (by omega) length
  refine ⟨stored, isStored, sameLength.trans length, fun position => ?_⟩
  rw [bytesAt, fetched, Nat.add_zero]
  have next : (k + 1) * getNlsNodesOffsetGranularityInBytes =
      k * getNlsNodesOffsetGranularityInBytes + getNlsNodesOffsetGranularityInBytes := by
    rw [Nat.add_mul, Nat.one_mul]
  by_cases earlier : position < k * getNlsNodesOffsetGranularityInBytes
  · rw [if_neg (by omega), if_pos earlier, if_pos (by omega)]
  · by_cases within : position < (k + 1) * getNlsNodesOffsetGranularityInBytes
    · rw [if_neg earlier, if_pos within, nls.chunkByte_of_chunk isChunk (by omega) within]
      split
      next => rfl
      next outside =>
        rw [List.getD_eq_default]
        omega
    · rw [if_neg (by omega), if_neg earlier, if_neg within]

theorem getNlsNodesLoop_eq (rounds k listLength : Nat) (mask : List UInt8)
    (isChunk : k < nls.chunks.length) (enough : nls.chunks.length - k ≤ rounds)
    (length : mask.length = zwLrMaxNodemaskLength)
    (fetched : ∀ position, mask.getD position 0 =
      if position < k * getNlsNodesOffsetGranularityInBytes then
        chunkByte nls.chunks position
      else 0) :
    ∃ nodeList, getNlsNodesLoop nls.answer rounds k listLength mask =
        some (listLength + ((nls.chunks.drop k).map List.length).sum, nodeList) ∧
      nodeList.length = zwLrMaxNodemaskLength ∧
      ∀ position, nodeList.getD position 0 = chunkByte nls.chunks position := by
  induction rounds generalizing k listLength mask with
  | zero => omega
  | succ rounds ih =>
    have chunkAt : nls.chunks[k]? = some nls.chunks[k] := List.getElem?_eq_getElem isChunk
    have fits := nls.fits k _ chunkAt
    obtain ⟨stored, isStored, storedLength, bytesAt⟩ := nls.exists_stored chunkAt length fetched
    have rest : nls.chunks.drop k = nls.chunks[k] :: nls.chunks.drop (k + 1) :=
      List.drop_eq_getElem_cons isChunk
    unfold getNlsNodesLoop
    simp only [answer, chunkAt, Option.map_some, isStored]
    by_cases more : k + 1 < nls.chunks.length
    · have wraps : (k + 1) % 2 ^ 8 = k + 1 := by
        unfold getNlsNodesOffsetGranularityInBytes at fits
        unfold zwLrMaxNodemaskLength zwLrMaxNodeId at fits
        omega
      rw [if_pos more, if_pos Nat.one_pos, wraps]
      obtain ⟨nodeList, isList, listIsLong, isMask⟩ :=
        ih (k + 1) (listLength + nls.chunks[k].length) stored more
          (by omega) storedLength bytesAt
      refine ⟨nodeList, ?_, listIsLong, isMask⟩
      rw [isList, rest, List.map_cons, List.sum_cons, Nat.add_assoc]
    · rw [if_neg more]
      refine ⟨stored, ?_, storedLength, fun position => ?_⟩
      · rw [rest, List.drop_eq_nil_of_le (by omega)]
        rfl
      · rw [bytesAt]
        split
        next => rfl
        next outside =>
          unfold chunkByte
          have beyond : nls.chunks.length ≤ position / getNlsNodesOffsetGranularityInBytes := by
            unfold getNlsNodesOffsetGranularityInBytes at *
            omega
          rw [List.getD_eq_default _ _ beyond]
          rfl

end NlsModule

theorem getD_memmove {mask : List UInt8} {destination source length : Nat}
    (inside : destination + length ≤ mask.length) (readable : source + length ≤ mask.length)
    (position : Nat) :
    (memmove mask destination source length).getD position 0 =
      if destination ≤ position ∧ position < destination + length then
        mask.getD (position - destination + source) 0
      else mask.getD position 0 := by
  unfold memmove
  simp only [List.getD_eq_getElem?_getD]
  by_cases first : position < destination
  · rw [if_neg (by omega), List.getElem?_append_left (by simp; omega),
      List.getElem?_append_left (by simp; omega), List.getElem?_take_of_lt first]
  · by_cases moved : position < destination + length
    · rw [if_pos (by omega), List.getElem?_append_left (by simp; omega),
        List.getElem?_append_right (by simp; omega)]
      have offset : position - (mask.take destination).length = position - destination := by
        rw [List.length_take, Nat.min_eq_left (by omega)]
      rw [offset, List.getElem?_take_of_lt (by omega), List.getElem?_drop, Nat.add_comm]
    · rw [if_neg (by omega), List.getElem?_append_right (by simp; omega)]
      have offset : position -
          (mask.take destination ++ (mask.drop source).take length).length =
            position - (destination + length) := by
        simp only [List.length_append, List.length_take, List.length_drop]
        omega
      rw [List.getElem?_drop]
      congr 2
      omega

namespace NlsModule

variable (nls : NlsModule)

theorem zwapiGetNlsNodes_eq :
    ∃ nodeList, zwapiGetNlsNodes nls.answer NodeNlsContext.zero.nodeList =
        some (nls.listLength, nodeList) ∧
      ∀ position, nodeList.getD position 0 =
        if 31 ≤ position ∧ position < 500 then chunkByte nls.chunks (position - 3)
        else chunkByte nls.chunks position := by
  have first := List.length_pos_iff.mpr nls.nonempty
  have few : nls.chunks.length ≤ 4 := by
    have fits := nls.fits (nls.chunks.length - 1) _
      (List.getElem?_eq_getElem (Nat.sub_lt first Nat.one_pos))
    unfold getNlsNodesOffsetGranularityInBytes zwLrMaxNodemaskLength zwLrMaxNodeId at fits
    omega
  obtain ⟨fetched, isFetched, length, isMask⟩ :=
    nls.getNlsNodesLoop_eq (2 ^ 8) 0 0 NodeNlsContext.zero.nodeList first (by omega)
      List.length_replicate fun position => by
        exact getD_replicate_zero _ _
  have bytes : fetched.length = 501 := length
  unfold zwapiGetNlsNodes
  rw [isFetched, Nat.zero_add]
  refine ⟨_, rfl, fun position => ?_⟩
  rw [getD_memmove (by rw [bytes]; decide) (by rw [bytes]; decide), isMask, isMask]
  change (if 31 ≤ position ∧ position < 500 then chunkByte nls.chunks (position - 31 + 28)
    else _) = _
  split
  next moved =>
    congr 1
    omega
  next => rfl

theorem isNodeInMask_eq {nodeList : List UInt8}
    (isMoved : ∀ position, nodeList.getD position 0 =
      if 31 ≤ position ∧ position < 500 then chunkByte nls.chunks (position - 3)
      else chunkByte nls.chunks position)
    (node : Nat) :
    isNodeInMask node nodeList = (nls.isEnabled node && decide (node ≠ zwLrMaxNodeId)) := by
  unfold isNodeInMask isEnabled
  split
  next classic =>
    -- the bytes of the classic nodes stay where they are
    rw [isZwaveNodeId_iff] at classic
    have notLast : node ≠ zwLrMaxNodeId := by
      unfold zwLrMaxNodeId
      omega
    unfold maskBit chunkBit
    rw [isMoved, if_neg (by omega), decide_eq_true notLast, Bool.and_true]
  next =>
    split
    next extended =>
      rw [isZwaveExtendedNodeId_iff] at extended
      unfold maskBit chunkBit
      rw [isMoved]
      unfold zwMaxNodes zwLrMinNodeId zwLrMaxNodeId
      by_cases last : node = 4000
      · -- the bit behind the moved part is one that stands for no node
        subst last
        have clear : chunkBit nls.chunks 4000 = false := by
          rw [← Bool.not_eq_true]
          intro isSet
          exact absurd (nls.nodesOnly 4000 isSet) (by decide)
        unfold chunkBit at clear
        rw [if_neg (by omega), clear]
        simp
      · have byteBehind : (232 + (node - 256)) / 8 = node / 8 - 3 := by omega
        have sameBit : (232 + (node - 256)) % 8 = node % 8 := by omega
        rw [if_pos (by omega), byteBehind, sameBit, decide_eq_true last, Bool.and_true]
    next => rfl

/-- The enabled nodes a series of Gets walks through. -/
def walkedNodes : List Nat :=
  nls.enabledNodes.filter fun node =>
    decide (node ≤ nls.listLength * nlsEnabledNodesPerByte) && decide (node ≠ zwLrMaxNodeId)

end NlsModule

namespace NodeNlsContext

variable (ctx : NodeNlsContext)

theorem computeNextNlsEnabledNode_eq_none (isEmpty : ctx.enabledAfter ctx.nextSentNodeId = []) :
    ctx.computeNextNlsEnabledNode = none := by
  unfold computeNextNlsEnabledNode
  rw [find?_eq_none_of_filter_eq_nil isEmpty]
  rfl

theorem computeNextNlsEnabledNode_eq_some {node : Nat} {rest : List Nat}
    (isCons : ctx.enabledAfter ctx.nextSentNodeId = node :: rest) :
    ctx.computeNextNlsEnabledNode = some { ctx with nextSentNodeId := node } ∧
      ctx.enabledAfter node = rest := by
  obtain ⟨isFirst, after, -, isRest⟩ := filter_range'_eq_cons isCons
  constructor
  · unfold computeNextNlsEnabledNode
    rw [isFirst]
    rfl
  · have sameEnd : ctx.nextSentNodeId + 1 + (ctx.lastNodeId - ctx.nextSentNodeId) -
        (node + 1) = ctx.lastNodeId - node := by omega
    rw [sameEnd] at isRest
    exact isRest

end NodeNlsContext

/-- The reports for the nodes behind the cursor.  A node without keys is passed over, and
the counter of sent nodes stays behind the cursor from then on. -/
def reportsFrom (grantedKeys : Nat -> Option Keyset) (count : Nat) :
    Nat -> List Nat -> List NlsNodeReport
  | _, [] => []
  | sent, node :: rest =>
      match grantedKeys node with
      | none => reportsFrom grantedKeys count sent rest
      | some keys =>
          ⟨node, keys, sent == count - 1⟩ :: reportsFrom grantedKeys count (sent + 1) rest

theorem report?_failure (isLastNode : Bool) :
    (NlsNodeListAnswer.failure isLastNode).report? = none :=
  rfl

theorem report?_sent (isLastNode : Bool) (node : Nat) (keys : Keyset) :
    NlsNodeListAnswer.report? ⟨0, isLastNode, node, keys, true⟩ = some ⟨node, keys, isLastNode⟩ :=
  rfl

theorem sendNextNode_of_nil (grantedKeys : Nat -> Option Keyset) (ctx : NodeNlsContext)
    (isEmpty : ctx.enabledAfter ctx.nextSentNodeId = []) :
    ∃ isLastNode, sendNextNode grantedKeys ctx = (.failure isLastNode, ctx) := by
  unfold sendNextNode
  by_cases noNodes : ctx.nlsEnabledNodeCnt = 0
  · exact ⟨false, if_pos noNodes⟩
  · rw [if_neg noNodes]
    by_cases allSent : ctx.nlsEnabledNodeSentCnt = ctx.nlsEnabledNodeCnt
    · exact ⟨false, if_pos allSent⟩
    · rw [if_neg allSent]
      simp only [ctx.computeNextNlsEnabledNode_eq_none isEmpty]
      exact ⟨_, rfl⟩

theorem sendNextNode_of_cons (grantedKeys : Nat -> Option Keyset) (ctx : NodeNlsContext)
    {node : Nat} {rest : List Nat} (isCons : ctx.enabledAfter ctx.nextSentNodeId = node :: rest)
    (notAllSent : ctx.nlsEnabledNodeSentCnt < ctx.nlsEnabledNodeCnt) :
    let isLastNode := ctx.nlsEnabledNodeSentCnt == ctx.nlsEnabledNodeCnt - 1
    sendNextNode grantedKeys ctx =
      match grantedKeys node with
      | none => (.failure isLastNode, { ctx with nextSentNodeId := node })
      | some keys =>
        (⟨0, isLastNode, node, keys, true⟩,
          { ctx with
            nextSentNodeId := node
            nlsEnabledNodeSentCnt := ctx.nlsEnabledNodeSentCnt + 1 }) := by
  unfold sendNextNode
  rw [if_neg (by omega), if_neg (by omega)]
  cases isKeys : grantedKeys node <;>
    simp only [(ctx.computeNextNlsEnabledNode_eq_some isCons).1, isKeys]

theorem filterMap_furtherAnswers (answer : Nat -> Option NlsNodesResponse)
    (grantedKeys : Nat -> Option Keyset) (gets : Nat) (ctx : NodeNlsContext)
    (enough : (ctx.enabledAfter ctx.nextSentNodeId).length ≤ gets)
    (counted : ctx.nlsEnabledNodeSentCnt +
      (ctx.enabledAfter ctx.nextSentNodeId).length ≤ ctx.nlsEnabledNodeCnt) :
    (furtherAnswers answer grantedKeys gets ctx).filterMap NlsNodeListAnswer.report? =
      reportsFrom grantedKeys ctx.nlsEnabledNodeCnt ctx.nlsEnabledNodeSentCnt
        (ctx.enabledAfter ctx.nextSentNodeId) := by
  induction gets generalizing ctx with
  | zero =>
    rw [List.eq_nil_of_length_eq_zero (Nat.le_zero.mp enough)]
    rfl
  | succ gets ih =>
    change List.filterMap _ ((sendNextNode grantedKeys ctx).1 ::
      furtherAnswers answer grantedKeys gets (sendNextNode grantedKeys ctx).2) = _
    cases behind : ctx.enabledAfter ctx.nextSentNodeId with
    | nil =>
      obtain ⟨isLastNode, isFailure⟩ := sendNextNode_of_nil grantedKeys ctx behind
      rw [isFailure, List.filterMap_cons_none (report?_failure _),
        ih ctx (by rw [behind]; exact Nat.zero_le _)
          (by rw [behind] at counted ⊢; exact counted), behind]
    | cons node rest =>
      rw [behind, List.length_cons] at enough counted
      rw [sendNextNode_of_cons grantedKeys ctx behind (by omega)]
      have isRest := (ctx.computeNextNlsEnabledNode_eq_some behind).2
      unfold reportsFrom
      cases isKeys : grantedKeys node with
      | none =>
        -- the counter of sent nodes stays
        rw [List.filterMap_cons_none (report?_failure _)]
        have walk := ih { ctx with nextSentNodeId := node }
          (by change (ctx.enabledAfter node).length ≤ gets; rw [isRest]; omega)
          (by
            change _ + (ctx.enabledAfter node).length ≤ _
            rw [isRest]
            change ctx.nlsEnabledNodeSentCnt + _ ≤ ctx.nlsEnabledNodeCnt
            omega)
        rw [walk]
        exact congrArg _ isRest
      | some keys =>
        rw [List.filterMap_cons_some (report?_sent _ node keys)]
        have walk := ih
          { ctx with
            nextSentNodeId := node
            nlsEnabledNodeSentCnt := ctx.nlsEnabledNodeSentCnt + 1 }
          (by change (ctx.enabledAfter node).length ≤ gets; rw [isRest]; omega)
          (by
            change _ + (ctx.enabledAfter node).length ≤ _
            rw [isRest]
            change ctx.nlsEnabledNodeSentCnt + 1 + _ ≤ ctx.nlsEnabledNodeCnt
            omega)
        rw [walk]
        exact congrArg _ (congrArg _ isRest)

namespace NlsModule

variable (nls : NlsModule)

theorem isEnabled_le {node : Nat} (isEnabled : nls.isEnabled node = true) :
    node ≤ zwLrMaxNodeId := by
  unfold NlsModule.isEnabled at isEnabled
  unfold zwLrMaxNodeId
  split at isEnabled
  next classic =>
    rw [isZwaveNodeId_iff] at classic
    omega
  next =>
    split at isEnabled
    next extended => exact (isZwaveExtendedNodeId_iff.mp extended).2
    next => cases isEnabled

theorem walkedNodes_eq :
    nls.walkedNodes =
      (List.range' 1 (nls.listLength * nlsEnabledNodesPerByte)).filter fun node =>
        nls.isEnabled node && decide (node ≠ zwLrMaxNodeId) := by
  let last := nls.listLength * nlsEnabledNodesPerByte
  let test := fun node : Nat =>
    (decide (node ≤ last) && decide (node ≠ zwLrMaxNodeId)) && nls.isEnabled node
  have all : nls.walkedNodes = (List.range' 1 zwLrMaxNodeId).filter test := by
    unfold walkedNodes enabledNodes
    rw [List.filter_filter]
  have ofModule : (List.range' 1 (max zwLrMaxNodeId last)).filter test =
      (List.range' 1 zwLrMaxNodeId).filter test :=
    filter_range'_of_le (Nat.le_max_left _ _) fun node beyond => by
      have disabled : nls.isEnabled node = false := by
        rw [← Bool.not_eq_true]
        exact fun isEnabled => absurd (nls.isEnabled_le isEnabled) (Nat.not_le.mpr beyond)
      simp only [test, disabled, Bool.and_false]
  have ofLength : (List.range' 1 (max zwLrMaxNodeId last)).filter test =
      (List.range' 1 last).filter test :=
    filter_range'_of_le (Nat.le_max_right _ _) fun node beyond => by
      have above : ¬ node ≤ last := Nat.not_le.mpr beyond
      simp only [test, decide_eq_false above, Bool.false_and]
  rw [all, ← ofModule, ofLength]
  refine List.filter_congr fun node mem => ?_
  rw [List.mem_range'_1] at mem
  have below : node ≤ last := by omega
  simp only [test, decide_eq_true below, Bool.true_and, Bool.and_comm]

theorem filterMap_seriesAnswers (grantedKeys : Nat -> Option Keyset) (ctx : NodeNlsContext)
    {gets : Nat} (enough : nls.enabledNodes.length ≤ gets) :
    (seriesAnswers nls.answer grantedKeys ctx gets).filterMap NlsNodeListAnswer.report? =
      reportsFrom grantedKeys nls.walkedNodes.length 0 nls.walkedNodes := by
  obtain ⟨nodeList, isFetched, isMoved⟩ := nls.zwapiGetNlsNodes_eq
  let loaded : NodeNlsContext :=
    { NodeNlsContext.zero with nodeListLength := nls.listLength, nodeList := nodeList }
  have isWalked : loaded.enabledAfter 0 = nls.walkedNodes := by
    rw [walkedNodes_eq]
    exact List.filter_congr fun node _ => nls.isNodeInMask_eq isMoved node
  have isCount : loaded.computeNlsEnabledNodeCnt.nlsEnabledNodeCnt = nls.walkedNodes.length := by
    rw [← isWalked]
    change 0 + _ = _
    rw [Nat.zero_add, List.countP_eq_length_filter]
    rfl
  have isFurther : seriesAnswers nls.answer grantedKeys ctx gets =
      furtherAnswers nls.answer grantedKeys (gets + 1) loaded.computeNlsEnabledNodeCnt := by
    have first : s2GetNlsNodeList nls.answer grantedKeys ctx false =
        sendNextNode grantedKeys loaded.computeNlsEnabledNodeCnt := by
      unfold s2GetNlsNodeList
      rw [isFetched]
      rfl
    unfold seriesAnswers
    rw [first]
    rfl
  have fewer : nls.walkedNodes.length ≤ nls.enabledNodes.length := List.length_filter_le _ _
  have behind : loaded.computeNlsEnabledNodeCnt.enabledAfter
      loaded.computeNlsEnabledNodeCnt.nextSentNodeId = nls.walkedNodes := isWalked
  rw [isFurther, filterMap_furtherAnswers _ _ _ _ (by rw [behind]; omega)
    (by rw [behind, isCount]; exact Nat.le_of_eq (Nat.zero_add _)), behind, isCount]
  rfl

end NlsModule

/-- The nodes whose keys are known, with their keys. -/
def knownNodes (grantedKeys : Nat -> Option Keyset) (nodes : List Nat) : List (Nat × Keyset) :=
  nodes.filterMap fun node => (grantedKeys node).map fun keys => (node, keys)

/-- Reports for nodes, with a mark on the last one. -/
def markLast : List (Nat × Keyset) -> List NlsNodeReport
  | [] => []
  | (node, keys) :: rest => ⟨node, keys, rest.isEmpty⟩ :: markLast rest

section Reports

variable (grantedKeys : Nat -> Option Keyset)

variable {node count sent gets : Nat} {nodes : List Nat} {ctx : NodeNlsContext}
  {answer : Nat -> Option NlsNodesResponse} {get : NlsNodeListAnswer}

theorem knownNodes_cons_of_none (unknown : grantedKeys node = none) (rest : List Nat) :
    knownNodes grantedKeys (node :: rest) = knownNodes grantedKeys rest := by
  apply List.filterMap_cons_none
  rw [unknown]
  rfl

theorem knownNodes_cons_of_some {keys : Keyset} (known : grantedKeys node = some keys)
    (rest : List Nat) :
    knownNodes grantedKeys (node :: rest) = (node, keys) :: knownNodes grantedKeys rest := by
  apply List.filterMap_cons_some
  rw [known]
  rfl

theorem map_fst_knownNodes (nodes : List Nat) :
    (knownNodes grantedKeys nodes).map Prod.fst =
      nodes.filter fun node => (grantedKeys node).isSome := by
  induction nodes with
  | nil => rfl
  | cons node rest ih =>
    cases isKeys : grantedKeys node with
    | none =>
      rw [knownNodes_cons_of_none grantedKeys isKeys, ih,
        List.filter_cons_of_neg (by rw [isKeys]; exact Bool.false_ne_true)]
    | some keys =>
      rw [knownNodes_cons_of_some grantedKeys isKeys, List.map_cons, ih,
        List.filter_cons_of_pos (by rw [isKeys]; rfl)]

theorem map_nodeId_markLast (known : List (Nat × Keyset)) :
    (markLast known).map NlsNodeReport.nodeId = known.map Prod.fst := by
  induction known with
  | nil => rfl
  | cons node rest ih =>
    unfold markLast
    rw [List.map_cons, List.map_cons, ih]

theorem exists_isLastNode {known : List (Nat × Keyset)} (nonempty : known ≠ []) :
    ∃ report ∈ markLast known, report.isLastNode = true := by
  induction known with
  | nil => exact absurd rfl nonempty
  | cons node rest ih =>
    cases rest with
    | nil => exact ⟨_, List.mem_cons_self, rfl⟩
    | cons next others =>
      obtain ⟨report, mem, isLast⟩ := ih (List.cons_ne_nil _ _)
      exact ⟨report, List.mem_cons_of_mem _ mem, isLast⟩

theorem map_nodeId_reportsFrom (count sent : Nat) (nodes : List Nat) :
    (reportsFrom grantedKeys count sent nodes).map NlsNodeReport.nodeId =
      (knownNodes grantedKeys nodes).map Prod.fst := by
  induction nodes generalizing sent with
  | nil => rfl
  | cons node rest ih =>
    unfold reportsFrom
    cases isKeys : grantedKeys node with
    | none => rw [knownNodes_cons_of_none grantedKeys isKeys, ih]
    | some keys => rw [knownNodes_cons_of_some grantedKeys isKeys, List.map_cons, List.map_cons, ih]

theorem reportsFrom_eq_markLast (known : ∀ node ∈ nodes, grantedKeys node ≠ none)
    (counted : sent + nodes.length = count) :
    reportsFrom grantedKeys count sent nodes = markLast (knownNodes grantedKeys nodes) := by
  induction nodes generalizing sent with
  | nil => rfl
  | cons node rest ih =>
    rw [List.length_cons] at counted
    obtain ⟨keys, isKeys⟩ := Option.ne_none_iff_exists'.mp (known node List.mem_cons_self)
    have later : ∀ other ∈ rest, grantedKeys other ≠ none :=
      fun other mem => known other (List.mem_cons_of_mem _ mem)
    have sameLength : (knownNodes grantedKeys rest).length = rest.length := by
      have fewer := congrArg List.length (map_fst_knownNodes grantedKeys rest)
      rw [List.length_map, List.filter_eq_self.mpr fun other mem =>
        Option.isSome_iff_ne_none.mpr (later other mem)] at fewer
      exact fewer
    have isLast : (sent == count - 1) = (knownNodes grantedKeys rest).isEmpty := by
      rw [Bool.eq_iff_iff, beq_iff_eq, List.isEmpty_iff_length_eq_zero]
      omega
    unfold reportsFrom
    simp only [isKeys]
    rw [knownNodes_cons_of_some grantedKeys isKeys]
    unfold markLast
    rw [ih later (by omega), isLast]

theorem isLastNode_eq_false (behind : sent + (knownNodes grantedKeys nodes).length < count) :
    ∀ report ∈ reportsFrom grantedKeys count sent nodes, report.isLastNode = false := by
  induction nodes generalizing sent with
  | nil => exact fun report mem => absurd mem List.not_mem_nil
  | cons node rest ih =>
    unfold reportsFrom
    cases isKeys : grantedKeys node with
    | none =>
      rw [knownNodes_cons_of_none grantedKeys isKeys] at behind
      exact ih behind
    | some keys =>
      rw [knownNodes_cons_of_some grantedKeys isKeys, List.length_cons] at behind
      intro report mem
      rcases List.mem_cons.mp mem with rfl | later
      · exact beq_eq_false_iff_ne.mpr (by omega)
      · exact ih (by omega) report later

theorem reportsFrom_eq_nil (unknown : ∀ node ∈ nodes, grantedKeys node = none) :
    reportsFrom grantedKeys count sent nodes = [] := by
  induction nodes with
  | nil => rfl
  | cons node rest ih =>
    unfold reportsFrom
    rw [unknown node List.mem_cons_self]
    exact ih fun other mem => unknown other (List.mem_cons_of_mem _ mem)

theorem knownNodes_eq_nil (unknown : ∀ node ∈ nodes, grantedKeys node = none) :
    knownNodes grantedKeys nodes = [] := by
  apply List.filterMap_eq_nil_iff.mpr
  intro node mem
  rw [unknown node mem]
  rfl

variable {grantedKeys}

theorem returnValue_sendNextNode (noReport : (sendNextNode grantedKeys ctx).1.report? = none) :
    (sendNextNode grantedKeys ctx).1.returnValue = -1 := by
  unfold sendNextNode at noReport ⊢
  by_cases noNodes : ctx.nlsEnabledNodeCnt = 0
  · rw [if_pos noNodes]
    rfl
  · rw [if_neg noNodes] at noReport ⊢
    by_cases allSent : ctx.nlsEnabledNodeSentCnt = ctx.nlsEnabledNodeCnt
    · rw [if_pos allSent]
      rfl
    · rw [if_neg allSent] at noReport ⊢
      cases found : ctx.computeNextNlsEnabledNode with
      | none => rfl
      | some next =>
        rw [found] at noReport
        dsimp only at noReport ⊢
        cases isKeys : grantedKeys next.nextSentNodeId with
        | none => rfl
        | some keys =>
          rw [isKeys] at noReport
          exact absurd noReport (Option.some_ne_none _)

theorem returnValue_s2GetNlsNodeList {request : Bool}
    (noReport : (s2GetNlsNodeList answer grantedKeys ctx request).1.report? = none) :
    (s2GetNlsNodeList answer grantedKeys ctx request).1.returnValue = -1 := by
  unfold s2GetNlsNodeList at noReport ⊢
  cases request with
  | true => exact returnValue_sendNextNode noReport
  | false =>
    cases fetched : zwapiGetNlsNodes answer NodeNlsContext.zero.nodeList with
    | none => rfl
    | some list =>
      rw [fetched] at noReport
      exact returnValue_sendNextNode noReport

theorem returnValue_of_mem_furtherAnswers (mem : get ∈ furtherAnswers answer grantedKeys gets ctx)
    (noReport : get.report? = none) : get.returnValue = -1 := by
  induction gets generalizing ctx with
  | zero => exact absurd mem List.not_mem_nil
  | succ gets ih =>
    rcases List.mem_cons.mp mem with rfl | later
    · exact returnValue_s2GetNlsNodeList noReport
    · exact ih later

theorem returnValue_of_mem_seriesAnswers (mem : get ∈ seriesAnswers answer grantedKeys ctx gets)
    (noReport : get.report? = none) : get.returnValue = -1 := by
  rcases List.mem_cons.mp mem with rfl | later
  · exact returnValue_s2GetNlsNodeList noReport
  · exact returnValue_of_mem_furtherAnswers later noReport

end Reports

namespace NlsModule

variable (nls : NlsModule)

/-- A series of Gets reports each enabled node whose keys are known once and in order, marks
the last one and no other, and fails where it sends no report. -/
def ReportsEnabledNodes (grantedKeys : Nat -> Option Keyset) : Prop :=
  ∀ ctx gets, nls.enabledNodes.length ≤ gets ->
    (seriesAnswers nls.answer grantedKeys ctx gets).filterMap NlsNodeListAnswer.report? =
        markLast (knownNodes grantedKeys nls.enabledNodes) ∧
      ∀ answer ∈ seriesAnswers nls.answer grantedKeys ctx gets,
        answer.report? = none -> answer.returnValue = -1

/-- Whether every enabled node whose keys are known is among those a series of Gets walks
through: none lies behind the announced length and none is the last Long Range node. -/
def KnownNodesWalked (grantedKeys : Nat -> Option Keyset) : Prop :=
  ∀ node ∈ nls.enabledNodes, grantedKeys node ≠ none ->
    node ≤ nls.listLength * nlsEnabledNodesPerByte ∧ node ≠ zwLrMaxNodeId

/-- Whether the keys of all nodes a series of Gets walks through are known, or of none. -/
def LookupsAgree (grantedKeys : Nat -> Option Keyset) : Prop :=
  (∀ node ∈ nls.walkedNodes, grantedKeys node ≠ none) ∨
    ∀ node ∈ nls.walkedNodes, grantedKeys node = none

theorem mem_walkedNodes {node : Nat} :
    node ∈ nls.walkedNodes ↔
      node ∈ nls.enabledNodes ∧ node ≤ nls.listLength * nlsEnabledNodesPerByte ∧
        node ≠ zwLrMaxNodeId := by
  unfold walkedNodes
  rw [List.mem_filter, Bool.and_eq_true, decide_eq_true_iff, decide_eq_true_iff]

theorem knownNodes_walkedNodes {grantedKeys : Nat -> Option Keyset}
    (walked : nls.KnownNodesWalked grantedKeys) :
    knownNodes grantedKeys nls.walkedNodes = knownNodes grantedKeys nls.enabledNodes := by
  unfold knownNodes walkedNodes
  rw [List.filterMap_filter]
  apply List.filterMap_congr
  intro node mem
  cases isKeys : grantedKeys node with
  | none => exact ite_self _
  | some keys =>
    obtain ⟨below, notLast⟩ := walked node mem (by rw [isKeys]; exact Option.some_ne_none _)
    rw [decide_eq_true below, decide_eq_true notLast]
    rfl

/-- A series of Gets reports what it should exactly when it walks through every node whose
keys are known and either none or all of its lookups fail. -/
theorem reportsEnabledNodes_iff (grantedKeys : Nat -> Option Keyset) :
    nls.ReportsEnabledNodes grantedKeys ↔
      nls.KnownNodesWalked grantedKeys ∧ nls.LookupsAgree grantedKeys := by
  constructor
  · intro reports
    have sent : reportsFrom grantedKeys nls.walkedNodes.length 0 nls.walkedNodes =
        markLast (knownNodes grantedKeys nls.enabledNodes) := by
      rw [← nls.filterMap_seriesAnswers grantedKeys .zero (Nat.le_refl _)]
      exact (reports .zero nls.enabledNodes.length (Nat.le_refl _)).1
    constructor
    · intro node mem known
      have sameNodes := congrArg (List.map NlsNodeReport.nodeId) sent
      rw [map_nodeId_reportsFrom, map_nodeId_markLast, map_fst_knownNodes, map_fst_knownNodes]
        at sameNodes
      have reported : node ∈ nls.walkedNodes.filter fun node => (grantedKeys node).isSome := by
        rw [sameNodes]
        exact List.mem_filter.mpr ⟨mem, Option.isSome_iff_ne_none.mpr known⟩
      exact (nls.mem_walkedNodes.mp (List.mem_filter.mp reported).1).2
    · by_contra disagree
      unfold LookupsAgree at disagree
      push Not at disagree
      obtain ⟨⟨failing, failingMem, unknown⟩, node, mem, known⟩ := disagree
      -- one report is marked as the last one, but the counter of sent nodes stays behind
      have fewer : (knownNodes grantedKeys nls.walkedNodes).length < nls.walkedNodes.length := by
        have lengths := congrArg List.length (map_fst_knownNodes grantedKeys nls.walkedNodes)
        rw [List.length_map] at lengths
        rw [lengths]
        apply List.length_filter_lt_length_iff_exists.mpr
        exact ⟨failing, failingMem, by rw [unknown]; exact Bool.false_ne_true⟩
      have someKnown : knownNodes grantedKeys nls.enabledNodes ≠ [] := by
        intro isEmpty
        have sameNodes := map_fst_knownNodes grantedKeys nls.enabledNodes
        rw [isEmpty] at sameNodes
        have reported : node ∈ nls.enabledNodes.filter fun node => (grantedKeys node).isSome :=
          List.mem_filter.mpr
            ⟨(nls.mem_walkedNodes.mp mem).1, Option.isSome_iff_ne_none.mpr known⟩
        rw [← sameNodes] at reported
        exact absurd reported List.not_mem_nil
      obtain ⟨report, reportMem, isLast⟩ := exists_isLastNode someKnown
      rw [← sent] at reportMem
      rw [isLastNode_eq_false grantedKeys (by omega) report reportMem] at isLast
      exact Bool.false_ne_true isLast
  · rintro ⟨walked, agree⟩ ctx gets enough
    refine ⟨?_, fun answer mem => returnValue_of_mem_seriesAnswers mem⟩
    rw [nls.filterMap_seriesAnswers grantedKeys ctx enough, ← nls.knownNodes_walkedNodes walked]
    rcases agree with known | unknown
    · exact reportsFrom_eq_markLast grantedKeys known (Nat.zero_add _)
    · rw [reportsFrom_eq_nil grantedKeys unknown, knownNodes_eq_nil grantedKeys unknown]
      rfl

theorem chunkByte_singleton {chunk : List UInt8}
    (short : chunk.length ≤ getNlsNodesOffsetGranularityInBytes) (position : Nat) :
    chunkByte [chunk] position = chunk.getD position 0 := by
  unfold chunkByte getNlsNodesOffsetGranularityInBytes
  unfold getNlsNodesOffsetGranularityInBytes at short
  by_cases inside : position < 128
  · rw [Nat.div_eq_of_lt inside, Nat.mod_eq_of_lt inside]
    rfl
  · have beyond : [chunk].length ≤ position / 128 := Nat.div_pos (by omega) (by decide)
    rw [List.getD_eq_default _ _ beyond, List.getD_eq_default chunk 0 (by omega)]
    rfl

/-- A module with the nodes 1, 2 and 3. -/
def threeNodes : NlsModule where
  chunks := [[7]]
  nonempty := List.cons_ne_nil _ _
  chunkLength := by decide
  fits := by
    intro k chunk isChunk
    cases k with
    | zero =>
        cases isChunk
        decide
    | succ k => cases isChunk
  nodesOnly := by
    intro position isSet
    by_contra beyond
    have outside : [(7 : UInt8)].length ≤ position / 8 := by
      unfold moduleMaskBits zwMaxNodes at beyond
      exact Nat.div_pos (by omega) (by decide)
    unfold chunkBit at isSet
    rw [chunkByte_singleton (by decide), List.getD_eq_default _ _ outside] at isSet
    simp at isSet

/-- The keys of node 2 are unknown, and node 3 is not marked as the last one. -/
theorem not_reportsEnabledNodes_threeNodes :
    ¬ threeNodes.ReportsEnabledNodes fun node => if node = 2 then none else some 1 := by
  intro reports
  have isEnabled : threeNodes.enabledNodes = [1, 2, 3] := by decide +kernel
  have isWalked : threeNodes.walkedNodes = [1, 2, 3] := by
    unfold walkedNodes
    rw [isEnabled]
    decide
  have enough : threeNodes.enabledNodes.length ≤ 3 := by rw [isEnabled]; decide
  have sent := (reports .zero 3 enough).1
  rw [threeNodes.filterMap_seriesAnswers _ .zero enough, isWalked, isEnabled] at sent
  revert sent
  decide

end NlsModule

end S2
