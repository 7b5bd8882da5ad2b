import Zpc.ZwaveDefinitions.NodeMask

/-!
# The list of NLS enabled nodes

`zwapi_get_nls_nodes` fetches a bit mask from the Z-Wave module in chunks and
`S2_get_nls_node_list` answers the Gets of a joining node from it, one node per Get.

The module puts the bits of the Long Range nodes right behind those of the classic nodes.
In a `zwave_nodemask_t` they start three bytes later, so the source moves them, but it
keeps the length of the list as the module announced it.
-/

namespace S2

open ZwaveDefinitions

/-- `zwave_keyset_t`. -/
abbrev Keyset := UInt8

def getNlsNodesOffsetGranularityInBytes : Nat := 128

def nlsEnabledNodesPerByte : Nat := 8

/-- A response to `FUNC_ID_ZW_GET_NLS_NODES`. -/
structure NlsNodesResponse where
  moreNodes : Nat
  startOffset : Nat
  nodeList : List UInt8

/-- The inner loop of `zwapi_get_nls_nodes`: the bytes of a chunk are stored from its
offset on.  The index may be one past the end, where the store hits no byte of the mask. -/
def storeNodeList (startOffset : Nat) : Nat -> List UInt8 -> List UInt8 -> Option (List UInt8)
  | _, [], nodeList => some nodeList
  | i, byte :: rest, nodeList =>
      if zwLrMaxNodemaskLength < i + startOffset * getNlsNodesOffsetGranularityInBytes then none
      else
        storeNodeList startOffset (i + 1) rest
          (nodeList.set (i + startOffset * getNlsNodesOffsetGranularityInBytes) byte)

/-- The loop of `zwapi_get_nls_nodes`.  The offset is a byte, so a module that announces
no offset twice is done after 256 rounds. -/
def getNlsNodesLoop (answer : Nat -> Option NlsNodesResponse) :
    Nat -> Nat -> Nat -> List UInt8 -> Option (Nat × List UInt8)
  | 0, _, _, _ => none
  | rounds + 1, startOffset, listLength, nodeList =>
      match answer startOffset with
      | none => none
      | some response =>
          match storeNodeList response.startOffset 0 response.nodeList nodeList with
          | none => none
          | some stored =>
              if 0 < response.moreNodes then
                getNlsNodesLoop answer rounds ((response.startOffset + 1) % 2 ^ 8)
                  (listLength + response.nodeList.length) stored
              else some (listLength + response.nodeList.length, stored)

/-- `memmove` within a mask. -/
def memmove (mask : List UInt8) (destination source length : Nat) : List UInt8 :=
  mask.take destination ++ (mask.drop source).take length ++ mask.drop (destination + length)

/-- `zwapi_get_nls_nodes`: the length of the list and the list. -/
def zwapiGetNlsNodes (answer : Nat -> Option NlsNodesResponse)
    (nodeList : List UInt8) : Option (Nat × List UInt8) :=
  (getNlsNodesLoop answer (2 ^ 8) 0 0 nodeList).map fun fetched =>
    (fetched.1,
      memmove fetched.2 (zwLrNodemaskOffset - 1) (zwMaxNodemaskLength - 1)
        (zwLrMaxNodemaskLength - zwLrNodemaskOffset))

/-- `s2_node_nls_context_t`. -/
structure NodeNlsContext where
  nodeList : List UInt8
  nodeListLength : Nat
  nextSentNodeId : Nat
  nlsEnabledNodeCnt : Nat
  nlsEnabledNodeSentCnt : Nat

namespace NodeNlsContext

/-- A context set to zero. -/
def zero : NodeNlsContext where
  nodeList := emptyMask
  nodeListLength := 0
  nextSentNodeId := 0
  nlsEnabledNodeCnt := 0
  nlsEnabledNodeSentCnt := 0

variable (ctx : NodeNlsContext)

/-- The last node id the loops over the list look at. -/
def lastNodeId : Nat := ctx.nodeListLength * nlsEnabledNodesPerByte

/-- The nodes behind a node id that the loops over the list find. -/
def enabledAfter (node : Nat) : List Nat :=
  (List.range' (node + 1) (ctx.lastNodeId - node)).filter fun i => isNodeInMask i ctx.nodeList

def computeNextNlsEnabledNode : Option NodeNlsContext :=
  ((List.range' (ctx.nextSentNodeId + 1)
    (ctx.lastNodeId - ctx.nextSentNodeId)).find? fun i =>
      isNodeInMask i ctx.nodeList).map fun i => { ctx with nextSentNodeId := i }

def computeNlsEnabledNodeCnt : NodeNlsContext :=
  { ctx with
    nlsEnabledNodeCnt :=
      ctx.nlsEnabledNodeCnt +
        (List.range' 1 ctx.lastNodeId).countP fun i => isNodeInMask i ctx.nodeList }

end NodeNlsContext

/-- What `S2_get_nls_node_list` returns and writes through its pointers. -/
structure NlsNodeListAnswer where
  returnValue : Int
  isLastNode : Bool
  nodeId : Nat
  grantedKeys : Keyset
  nlsState : Bool

/-- A failure, with what was written before. -/
def NlsNodeListAnswer.failure (isLastNode : Bool) : NlsNodeListAnswer where
  returnValue := -1
  isLastNode := isLastNode
  nodeId := 0
  grantedKeys := 0
  nlsState := false

/-- The part of `S2_get_nls_node_list` that sends the next node of the list. -/
def sendNextNode (grantedKeys : Nat -> Option Keyset)
    (ctx : NodeNlsContext) : NlsNodeListAnswer × NodeNlsContext :=
  if ctx.nlsEnabledNodeCnt = 0 then (.failure false, ctx)
  else if ctx.nlsEnabledNodeSentCnt = ctx.nlsEnabledNodeCnt then
    (.failure false, ctx)
  else
    let isLastNode := ctx.nlsEnabledNodeSentCnt == ctx.nlsEnabledNodeCnt - 1
    match ctx.computeNextNlsEnabledNode with
    | none => (.failure isLastNode, ctx)
    | some next =>
        match grantedKeys next.nextSentNodeId with
        | none => (.failure isLastNode, next)
        | some keys =>
            (⟨0, isLastNode, next.nextSentNodeId, keys, true⟩,
              { next with nlsEnabledNodeSentCnt := next.nlsEnabledNodeSentCnt + 1 })

/-- `S2_get_nls_node_list`.  The keys of a node are those of the attribute store.  What a
failed transfer leaves of the list is not read, as the count stays zero. -/
def s2GetNlsNodeList (answer : Nat -> Option NlsNodesResponse) (grantedKeys : Nat -> Option Keyset)
    (ctx : NodeNlsContext) (request : Bool) : NlsNodeListAnswer × NodeNlsContext :=
  if request then sendNextNode grantedKeys ctx
  else
    match zwapiGetNlsNodes answer NodeNlsContext.zero.nodeList with
    | none => (.failure false, NodeNlsContext.zero)
    | some (nodeListLength, nodeList) =>
        sendNextNode grantedKeys
          { NodeNlsContext.zero with
            nodeListLength := nodeListLength
            nodeList := nodeList }.computeNlsEnabledNodeCnt

/-- The answers to a number of Gets with request 1. -/
def furtherAnswers (answer : Nat -> Option NlsNodesResponse) (grantedKeys : Nat -> Option Keyset) :
    Nat -> NodeNlsContext -> List NlsNodeListAnswer
  | 0, _ => []
  | gets + 1, ctx =>
      let get := s2GetNlsNodeList answer grantedKeys ctx true
      get.1 :: furtherAnswers answer grantedKeys gets get.2

/-- The answers to a Get with request 0 and to a number of Gets with request 1. -/
def seriesAnswers (answer : Nat -> Option NlsNodesResponse) (grantedKeys : Nat -> Option Keyset)
    (ctx : NodeNlsContext) (gets : Nat) : List NlsNodeListAnswer :=
  let get := s2GetNlsNodeList answer grantedKeys ctx false
  get.1 :: furtherAnswers answer grantedKeys gets get.2

/-- A node in an NLS Node List Report. -/
structure NlsNodeReport where
  nodeId : Nat
  grantedKeys : Keyset
  isLastNode : Bool
  deriving DecidableEq

/-- The report the S2 library sends for an answer. -/
def NlsNodeListAnswer.report? (answer : NlsNodeListAnswer) : Option NlsNodeReport :=
  if answer.nlsState = true ∧ answer.returnValue = 0 then
    some ⟨answer.nodeId, answer.grantedKeys, answer.isLastNode⟩
  else none

/-- The byte of a mask that is transferred in chunks: the chunk with number `k` starts at
the byte `128 * k`. -/
def chunkByte (chunks : List (List UInt8)) (position : Nat) : UInt8 :=
  (chunks.getD (position / getNlsNodesOffsetGranularityInBytes) []).getD
    (position % getNlsNodesOffsetGranularityInBytes) 0

/-- A bit of a mask that is transferred in chunks. -/
def chunkBit (chunks : List (List UInt8)) (position : Nat) : Bool :=
  (chunkByte chunks (position / 8)).toNat.testBit (position % 8)

/-- Number of bits in the mask of a module. -/
def moduleMaskBits : Nat := zwMaxNodes + (zwLrMaxNodeId - zwLrMinNodeId + 1)

/-- A Z-Wave module with the mask of its NLS enabled nodes, in any number of chunks.  A bit
that is set stands for a node. -/
structure NlsModule where
  chunks : List (List UInt8)
  nonempty : chunks ≠ []
  chunkLength : ∀ chunk ∈ chunks, chunk.length ≤ getNlsNodesOffsetGranularityInBytes
  fits : ∀ k chunk, chunks[k]? = some chunk ->
    k * getNlsNodesOffsetGranularityInBytes + chunk.length ≤ zwLrMaxNodemaskLength
  nodesOnly : ∀ position, chunkBit chunks position = true -> position < moduleMaskBits

namespace NlsModule

variable (nls : NlsModule)

/-- The answer of the module to a request with an offset. -/
def answer (startOffset : Nat) : Option NlsNodesResponse :=
  nls.chunks[startOffset]?.map fun chunk =>
    ⟨if startOffset + 1 < nls.chunks.length then 1 else 0, startOffset, chunk⟩

/-- Whether the module reports a node as NLS enabled. -/
def isEnabled (node : Nat) : Bool :=
  if isZwaveNodeId node then chunkBit nls.chunks (node - 1)
  else if isZwaveExtendedNodeId node then
    chunkBit nls.chunks (zwMaxNodes + (node - zwLrMinNodeId))
  else false

/-- The NLS enabled nodes in the order of their ids. -/
def enabledNodes : List Nat := (List.range' 1 zwLrMaxNodeId).filter nls.isEnabled

/-- The number of bytes the module announces. -/
def listLength : Nat := (nls.chunks.map List.length).sum

end NlsModule

end S2
