import Zpc.ZwaveTx.Definitions
import Zpc.ZwaveTx.PriorityQueue

/-!
# Expected frames and known routes

Two small tables beside the TX queue: the class `zwave_tx_incoming_frames`,
which counts the frames other nodes were announced to send, and the route cache
of `zwave_tx_route_cache.cpp`.
-/

namespace ZwaveTx

/-- `zwave_tx_incoming_frame_item_t`. -/
structure IncomingFrameItem where
  nodeId : NodeId
  incomingFrames : Nat

def incomingFrameItemCompare (left right : IncomingFrameItem) : Bool :=
  decide (right.nodeId < left.nodeId)

/-- `zwave_tx_incoming_frames`. -/
structure IncomingFrames where
  frameList : PriorityQueue IncomingFrameItem zwaveTxIncomingFramesBufferSize

namespace IncomingFrames

/-- No frame is expected. -/
def clear : IncomingFrames := ⟨PriorityQueue.clear⟩

/-- Whether no frame is expected. -/
def empty (frames : IncomingFrames) : Bool := frames.frameList.empty

variable (frames : IncomingFrames)

/-- Position of the first entry of a node. -/
def position (node : NodeId) : Option Nat :=
  frames.frameList.elements.findIdx? fun item => item.nodeId == node

/-- Number of frames expected from a node. -/
def getFrames (node : NodeId) : Nat :=
  match frames.frameList.elements.find? fun item => item.nodeId == node with
  | some item => item.incomingFrames
  | none => 0

/-- Write the number of frames into an entry, or drop the entry when the number
is zero. -/
def replaceAt (position count : Nat) : IncomingFrames :=
  if count = 0 then ⟨frames.frameList.erase incomingFrameItemCompare position⟩
  else
    ⟨⟨frames.frameList.elements.modify position fun item => { item with incomingFrames := count }⟩⟩

def setFrames (node : NodeId) (count : Nat) : IncomingFrames :=
  match frames.position node with
  | some position => frames.replaceAt position count
  | none =>
      if 0 < count then
        ⟨(frames.frameList.insert incomingFrameItemCompare ⟨node, count⟩).2⟩
      else frames

def decrementFrames (node : NodeId) : IncomingFrames :=
  match frames.position node with
  | some position => frames.replaceAt position (frames.getFrames node - 1)
  | none => frames

end IncomingFrames

/-- `route_cache_data_t`. -/
structure RouteCacheData where
  nodeId : NodeId
  numberOfRepeaters : Nat

/-- `zwave_tx_route_cache_init`. -/
def routeCacheInit : List RouteCacheData := List.replicate zwaveTxRouteCacheBufferSize ⟨0, 0⟩

/-- `zwave_tx_route_cache_set_number_of_repeaters`. -/
def routeCacheSetNumberOfRepeaters (routeCache : List RouteCacheData) (destination : NodeId)
    (repeaters : Nat) : List RouteCacheData :=
  match routeCache.findIdx? fun cache => cache.nodeId == destination with
  | some position =>
      routeCache.set position
        ⟨if repeaters = 0 then 0 else destination, repeaters⟩
  | none =>
      if repeaters = 0 then routeCache
      else
        match routeCache.findIdx? fun cache => cache.nodeId == 0 with
        | some position => routeCache.set position ⟨destination, repeaters⟩
        | none => routeCache

/-- `zwave_tx_route_cache_get_number_of_repeaters`. -/
def routeCacheGetNumberOfRepeaters (routeCache : List RouteCacheData)
    (destination : NodeId) : Nat :=
  match routeCache.find? fun cache => cache.nodeId == destination with
  | some cache => cache.numberOfRepeaters
  | none => 0

end ZwaveTx
