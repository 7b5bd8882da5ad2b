import Mathlib.Data.List.Perm.Basic
import Mathlib.Logic.Function.Basic
import Zpc.Foundation.Run
import Zpc.Smartstart.Dsk

/-!
# SmartStart inclusion requests

`smartstart.cpp`: the provisioning list, the discovery of the protocols a node is heard on,
and the choice of the node and the protocol when a SmartStart Prime arrives.  The cache is
an unordered map, so every request comes with the order its entries are visited in.
-/

namespace Smartstart

/-- `zwave_protocol_t`. -/
inductive ZwaveProtocol where
  | zwave
  | zwaveLongRange
  | unknown
  deriving DecidableEq

/-- `node_protocol_capabilities_t`. -/
structure NodeProtocolCapabilities where
  zwave : Bool
  zwaveLongRange : Bool

/-- `PROTOCOL_DISCOVERY_COOLDOWN` in milliseconds. -/
def protocolDiscoveryCooldown : Nat := 4 * 1000

/-- `protocol_discover_state_t`. -/
inductive ProtocolDiscoverState where
  | discoveredZero
  | discoveredOne
  | discoveredAll
  deriving DecidableEq

/-- `ProtocolDiscoveryEntry`, with the time its timer expires at. -/
structure ProtocolDiscoveryEntry where
  timer : Nat
  capabilities : NodeProtocolCapabilities

namespace NodeProtocolCapabilities

def addCapability (capabilities : NodeProtocolCapabilities) :
    ZwaveProtocol -> NodeProtocolCapabilities
  | .zwaveLongRange => { capabilities with zwaveLongRange := true }
  | .zwave => { capabilities with zwave := true }
  | .unknown => capabilities

def hasCapability (capabilities : NodeProtocolCapabilities) : ZwaveProtocol -> Bool
  | .zwaveLongRange => capabilities.zwaveLongRange
  | .zwave => capabilities.zwave
  | .unknown => false

end NodeProtocolCapabilities

structure Entry where
  dsk : List Char
  preferredProtocols : List String
  deriving DecidableEq

/-- `_smartstart_cache`: the keys of a map are pairwise distinct. -/
structure SmartstartCache where
  entries : List Entry
  keysDistinct : (entries.map Entry.dsk).Nodup

/-- `erase` of a key. -/
def SmartstartCache.erase (cache : SmartstartCache) (dsk : List Char) : SmartstartCache where
  entries := cache.entries.filter fun entry => entry.dsk ≠ dsk
  keysDistinct := cache.keysDistinct.sublist (List.filter_sublist.map _)

/-- `is_homeid_in_dsk`.  The bytes of the home id are compared in network order. -/
def isHomeidInDsk (dsk : List UInt8) (homeId : Nat) : Bool :=
  [dsk.getD 8 0 ||| 0xC0, dsk.getD 9 0, dsk.getD 10 0, dsk.getD 11 0 &&& 0xFE] ==
    [UInt8.ofNat (homeId / 2 ^ 24), UInt8.ofNat (homeId / 2 ^ 16), UInt8.ofNat (homeId / 2 ^ 8),
      UInt8.ofNat homeId]

def preferredProtocolMap (element : List Char) : Option ZwaveProtocol :=
  if element = ['1'] then some .zwave
  else if element = ['2'] then some .zwaveLongRange
  else none

def getPreferredProtocolListFromConfig (inclusionProtocolPreference : List Char) :
    List ZwaveProtocol :=
  (inclusionProtocolPreference.splitOn ',').filterMap preferredProtocolMap

/-- `get_preferred_inclusion_protocol_from_config`, with the list from the configuration. -/
def getPreferredInclusionProtocolFromConfig (protocolList : List ZwaveProtocol)
    (capabilities : NodeProtocolCapabilities) : ZwaveProtocol :=
  match protocolList with
  | [] => .unknown
  | protocol :: rest =>
      if protocol = .zwave ∧ capabilities.zwave = true then protocol
      else if protocol = .zwaveLongRange ∧ capabilities.zwaveLongRange = true then protocol
      else getPreferredInclusionProtocolFromConfig rest capabilities

def getPreferredInclusionProtocolFromList (preferredProtocols : List String)
    (capabilities : NodeProtocolCapabilities) : ZwaveProtocol :=
  match preferredProtocols with
  | [] => .unknown
  | name :: rest =>
      if name = "Z-Wave Long Range" ∧ capabilities.zwaveLongRange = true then .zwaveLongRange
      else if name = "Z-Wave" ∧ capabilities.zwave = true then .zwave
      else getPreferredInclusionProtocolFromList rest capabilities

variable (config : List Char)

/-- The two functions above, as they are told apart at their calls. -/
def getPreferredInclusionProtocol (preferredProtocols : List String)
    (capabilities : NodeProtocolCapabilities) : ZwaveProtocol :=
  if preferredProtocols = [] then
    getPreferredInclusionProtocolFromConfig (getPreferredProtocolListFromConfig config)
      capabilities
  else getPreferredInclusionProtocolFromList preferredProtocols capabilities

def getMostPreferredProtocol (preferredProtocols : List String) : ZwaveProtocol :=
  getPreferredInclusionProtocol config preferredProtocols ⟨true, true⟩

def hasSeveralProtocolCandidates (preferredProtocols : List String) : Bool :=
  if preferredProtocols = [] then
    decide (1 < (getPreferredProtocolListFromConfig config).length)
  else decide (1 < preferredProtocols.length)

/-- The protocol of an entry with one candidate.  An empty configured list makes `at(0)`
throw, and nothing is added. -/
def onlyProtocol (preferredProtocols : List String) : ZwaveProtocol :=
  match preferredProtocols with
  | [] => (getPreferredProtocolListFromConfig config).headD .unknown
  | name :: _ =>
      if name = "Z-Wave Long Range" then .zwaveLongRange
      else if name = "Z-Wave" then .zwave
      else .unknown

/-- A call of `zwave_network_management_add_node_with_dsk`, with the entry the request was
matched with. -/
structure AddNodeCall where
  entry : Entry
  homeId : Nat
  dsk : List UInt8
  protocol : ZwaveProtocol
  deriving DecidableEq

/-- The component, the calls it made, and the protocols the node of an entry was heard on
since the last attempt to include it. -/
structure Management where
  smartstartCache : SmartstartCache
  protocolDiscoveryDb : List Char -> Option ProtocolDiscoveryEntry
  clockTime : Nat
  calls : List AddNodeCall
  heard : List Char -> List ZwaveProtocol

/-- The conditions that defer an inclusion. -/
structure Deferral where
  networkManagementBusy : Bool
  endDeviceInclusionOngoing : Bool
  endDeviceInterviewing : Bool

/-- Whether nothing defers an inclusion. -/
def Deferral.isFree (deferral : Deferral) : Bool :=
  !deferral.networkManagementBusy && !deferral.endDeviceInclusionOngoing &&
    !deferral.endDeviceInterviewing

/-- An inclusion request and what is read while it is handled. -/
structure InclusionRequest where
  order : List Entry
  homeId : Nat
  alreadyIncluded : Bool
  protocol : ZwaveProtocol
  deferral : Deferral

namespace Management

variable (state : Management)

def getProtocolDiscoveryState (dsk : List Char) : ProtocolDiscoverState :=
  match state.protocolDiscoveryDb dsk with
  | none => .discoveredZero
  | some entry =>
      if entry.capabilities.zwaveLongRange && entry.capabilities.zwave then .discoveredAll
      else if entry.capabilities.zwaveLongRange || entry.capabilities.zwave then .discoveredOne
      else .discoveredZero

/-- The capabilities in the discovery state of a DSK. -/
def capabilitiesOf (dsk : List Char) : NodeProtocolCapabilities :=
  match state.protocolDiscoveryDb dsk with
  | some entry => entry.capabilities
  | none => ⟨false, false⟩

/-- Store a discovery entry. -/
def setDiscovery (dsk : List Char) (entry : ProtocolDiscoveryEntry) : Management :=
  { state with
    protocolDiscoveryDb := Function.update state.protocolDiscoveryDb dsk (some entry) }

/-- The first loop of the handler: the entry whose text is converted and fits the home id,
with the buffer all conversions share. -/
def findEntry (homeId : Nat) : List Entry -> List UInt8 -> Option (Entry × List UInt8)
  | [], _ => none
  | entry :: rest, dskInternal =>
      let converted := convertDskStrToDsk entry.dsk dskInternal
      if converted.1 = .ok ∧ isHomeidInDsk converted.2 homeId = true then
        some (entry, converted.2)
      else findEntry homeId rest converted.2

/-- The protocol discovery: whether it is done, and the state afterwards. -/
def protocolDiscovery (config : List Char) (state : Management) (entry : Entry)
    (protocol : ZwaveProtocol) : Bool × Management :=
  if hasSeveralProtocolCandidates config entry.preferredProtocols then
    let mostPreferred := getMostPreferredProtocol config entry.preferredProtocols
    match state.getProtocolDiscoveryState entry.dsk with
    | .discoveredZero =>
        let capabilities := NodeProtocolCapabilities.addCapability ⟨false, false⟩ protocol
        (capabilities.hasCapability mostPreferred,
          state.setDiscovery entry.dsk
            ⟨state.clockTime + protocolDiscoveryCooldown, capabilities⟩)
    | .discoveredOne =>
        let capabilities := state.capabilitiesOf entry.dsk
        if capabilities.hasCapability mostPreferred then (true, state)
        else if capabilities.hasCapability protocol = false then
          let added :=
            state.setDiscovery entry.dsk
              ⟨state.clockTime + protocolDiscoveryCooldown, capabilities.addCapability protocol⟩
          (added.getProtocolDiscoveryState entry.dsk == .discoveredAll, added)
        else
          (match state.protocolDiscoveryDb entry.dsk with
            | some discovered => decide (discovered.timer ≤ state.clockTime)
            | none => true,
            state)
    | .discoveredAll => (true, state)
  else (true, state)

/-- The protocol a matched entry is included on. -/
def preferredProtocol (config : List Char) (state : Management) (entry : Entry) : ZwaveProtocol :=
  if hasSeveralProtocolCandidates config entry.preferredProtocols then
    getPreferredInclusionProtocol config entry.preferredProtocols
      (state.capabilitiesOf entry.dsk)
  else onlyProtocol config entry.preferredProtocols

/-- Record that the node of an entry is heard. -/
def hear (dsk : List Char) (protocol : ZwaveProtocol) : Management :=
  { state with heard := Function.update state.heard dsk (protocol :: state.heard dsk) }

/-- Record a call, with which an attempt to include the node starts. -/
def call (made : AddNodeCall) : Management :=
  { state with
    calls := made :: state.calls
    heard := Function.update state.heard made.entry.dsk [] }

/-- `zwave_smartstart_management_on_inclusion_request`: the call that is made, if any, and
the state afterwards. -/
def onInclusionRequest (config : List Char) (state : Management)
    (request : InclusionRequest) : Option AddNodeCall × Management :=
  match findEntry request.homeId request.order zeroDsk with
  | none => (none, state)
  | some (matched, dskInternal) =>
      if request.alreadyIncluded then (none, state)
      else
        let discovery :=
          (state.hear matched.dsk request.protocol).protocolDiscovery config matched
            request.protocol
        let preferred := discovery.2.preferredProtocol config matched
        if discovery.1 = false then (none, discovery.2)
        else if preferred = .unknown then (none, discovery.2)
        else if request.protocol ≠ preferred then (none, discovery.2)
        else if request.deferral.isFree = false then (none, discovery.2)
        else
          let made := ⟨matched, request.homeId, dskInternal, preferred⟩
          (some made, discovery.2.call made)

def notifyNodeAdded (dsk : List Char) : Management :=
  { state with smartstartCache := state.smartstartCache.erase dsk }

/-- `zwave_smartstart_management_on_node_added`, where a success is `SL_STATUS_OK` without a
KEX failure.  An attempt to include the node is over. -/
def onNodeAdded (success : Bool) (dsk : List UInt8) : Management :=
  if isDskEmpty dsk then state
  else
    let cleared :=
      { state with
        protocolDiscoveryDb :=
          Function.update state.protocolDiscoveryDb (convertDskToDskStr dsk) none
        heard := Function.update state.heard (convertDskToDskStr dsk) [] }
    if success then cleared.notifyNodeAdded (convertDskToDskStr dsk) else cleared

/-- Requests, added nodes, and time that passes. -/
inductive Action where
  | inclusionRequest (request : InclusionRequest)
  | nodeAdded (success : Bool) (dsk : List UInt8)
  | clockTick (elapsed : Nat)

/-- One action.  A request visits the entries of the cache, each of them once. -/
def step (config : List Char) (state : Management) : Action -> Management
  | .inclusionRequest request =>
      if request.order.Perm state.smartstartCache.entries then
        (state.onInclusionRequest config request).2
      else state
  | .nodeAdded success dsk => state.onNodeAdded success dsk
  | .clockTick elapsed => { state with clockTime := state.clockTime + elapsed }

/-- The state with a provisioning list and nothing heard yet. -/
def initial (cache : SmartstartCache) : Management where
  smartstartCache := cache
  protocolDiscoveryDb := fun _ => none
  clockTime := 0
  calls := []
  heard := fun _ => []

end Management

end Smartstart
