import Zpc.Smartstart.Management

/-!
# Which nodes are added from the provisioning list

An entry is keyed by its text as it was received, and an added node is looked up by the text
that is written for its DSK.  The two agree for canonical texts only.  A text with fewer than
eight numbers leaves bytes of another entry in the buffer that all entries share.

What the discovery state knows of an entry covers what its node was heard on since the last
attempt, unless it knows of the most preferred protocol already, so the protocol that is
chosen is the first one that was heard.
-/

namespace Smartstart

open Foundation

/-- The protocol a name in an entry stands for. -/
def protocolOfName (name : String) : Option ZwaveProtocol :=
  if name = "Z-Wave Long Range" then some .zwaveLongRange
  else if name = "Z-Wave" then some .zwave
  else none

/-- The preference order of an entry: the configured one when the entry has none. -/
def preferenceOrder (config : List Char) (preferredProtocols : List String) : List ZwaveProtocol :=
  if preferredProtocols = [] then getPreferredProtocolListFromConfig config
  else preferredProtocols.filterMap protocolOfName

section Orders

variable (config : List Char) (preferredProtocols : List String)

variable (capabilities : NodeProtocolCapabilities) {protocol : ZwaveProtocol}

theorem ne_unknown_of_mem_preferenceOrder
    (mem : protocol ∈ preferenceOrder config preferredProtocols) : protocol ≠ .unknown := by
  unfold preferenceOrder at mem
  split at mem
  next =>
    obtain ⟨element, -, isProtocol⟩ := List.mem_filterMap.mp mem
    unfold preferredProtocolMap at isProtocol
    rintro rfl
    split at isProtocol
    · cases isProtocol
    · split at isProtocol <;> cases isProtocol
  next =>
    obtain ⟨name, -, isProtocol⟩ := List.mem_filterMap.mp mem
    unfold protocolOfName at isProtocol
    rintro rfl
    split at isProtocol
    · cases isProtocol
    · split at isProtocol <;> cases isProtocol

theorem hasCapability_all (known : protocol ≠ .unknown) :
    NodeProtocolCapabilities.hasCapability ⟨true, true⟩ protocol = true := by
  cases protocol with
  | unknown => exact absurd rfl known
  | _ => rfl

theorem fromConfig_eq_find? (protocolList : List ZwaveProtocol)
    (capabilities : NodeProtocolCapabilities) :
    getPreferredInclusionProtocolFromConfig protocolList capabilities =
      (protocolList.find? capabilities.hasCapability).getD .unknown := by
  induction protocolList with
  | nil => rfl
  | cons protocol rest ih =>
    unfold getPreferredInclusionProtocolFromConfig
    rw [ih]
    cases protocol with
    | zwave => cases isSet : capabilities.zwave <;>
        simp [NodeProtocolCapabilities.hasCapability, isSet]
    | zwaveLongRange => cases isSet : capabilities.zwaveLongRange <;>
        simp [NodeProtocolCapabilities.hasCapability, isSet]
    | unknown => simp [NodeProtocolCapabilities.hasCapability]

theorem fromList_eq_find? :
    getPreferredInclusionProtocolFromList preferredProtocols capabilities =
      ((preferredProtocols.filterMap protocolOfName).find?
        capabilities.hasCapability).getD .unknown := by
  induction preferredProtocols with
  | nil => rfl
  | cons name rest ih =>
    unfold getPreferredInclusionProtocolFromList
    rw [ih]
    unfold protocolOfName
    by_cases longRange : name = "Z-Wave Long Range"
    · subst longRange
      cases isSet : capabilities.zwaveLongRange <;>
        simp [NodeProtocolCapabilities.hasCapability, isSet]
    · by_cases classic : name = "Z-Wave"
      · subst classic
        cases isSet : capabilities.zwave <;>
          simp [NodeProtocolCapabilities.hasCapability, isSet]
      · simp [longRange, classic]

theorem getPreferredInclusionProtocol_eq_find? :
    getPreferredInclusionProtocol config preferredProtocols capabilities =
      ((preferenceOrder config preferredProtocols).find?
        capabilities.hasCapability).getD .unknown := by
  unfold getPreferredInclusionProtocol preferenceOrder
  split
  next => exact fromConfig_eq_find? _ _
  next => exact fromList_eq_find? _ _

theorem getMostPreferredProtocol_eq_headD :
    getMostPreferredProtocol config preferredProtocols =
      (preferenceOrder config preferredProtocols).headD .unknown := by
  unfold getMostPreferredProtocol
  rw [getPreferredInclusionProtocol_eq_find?]
  cases isOrder : preferenceOrder config preferredProtocols with
  | nil => rfl
  | cons protocol rest =>
    have known : protocol ≠ .unknown :=
      ne_unknown_of_mem_preferenceOrder config preferredProtocols
        (by rw [isOrder]; exact List.mem_cons_self)
    rw [List.find?_cons_of_pos (hasCapability_all known)]
    rfl

theorem onlyProtocol_eq_headD
    (single : hasSeveralProtocolCandidates config preferredProtocols = false) :
    onlyProtocol config preferredProtocols =
        (preferenceOrder config preferredProtocols).headD .unknown ∧
      (preferenceOrder config preferredProtocols).length ≤ 1 := by
  unfold hasSeveralProtocolCandidates at single
  cases preferredProtocols with
  | nil =>
    rw [if_pos rfl, decide_eq_false_iff_not] at single
    exact ⟨rfl, Nat.not_lt.mp single⟩
  | cons name rest =>
    rw [if_neg (List.cons_ne_nil _ _), decide_eq_false_iff_not, List.length_cons] at single
    have alone : rest = [] := List.eq_nil_of_length_eq_zero (by omega)
    subst alone
    unfold onlyProtocol preferenceOrder protocolOfName
    by_cases longRange : name = "Z-Wave Long Range"
    · simp [longRange]
    · by_cases classic : name = "Z-Wave"
      · simp [classic]
      · simp [longRange, classic]

end Orders

variable {buffer dsk : List UInt8} {text : List Char}

theorem length_convertDskStrToDsk (length : buffer.length = zwaveDskLength) (text : List Char) :
    (convertDskStrToDsk text buffer).2.length = zwaveDskLength := by
  have fits := length_writtenBytes text
  change ((writtenBytes text).2 ++ buffer.drop (writtenBytes text).2.length).length = _
  rw [List.length_append, List.length_drop]
  omega

theorem convertDskStrToDsk_of_completeDsk (complete : completeDsk text = some dsk)
    (length : buffer.length = zwaveDskLength) : convertDskStrToDsk text buffer = (.ok, dsk) := by
  unfold completeDsk at complete
  split at complete
  next isComplete =>
    cases complete
    unfold convertDskStrToDsk
    rw [isComplete.1, isComplete.2, ← length, List.drop_length, List.append_nil]
  next => cases complete

theorem length_of_completeDsk (complete : completeDsk text = some dsk) :
    dsk.length = zwaveDskLength := by
  unfold completeDsk at complete
  split at complete
  next isComplete =>
    cases complete
    exact isComplete.2
  next => cases complete

/-- A text that is the one written for a DSK other than zero. -/
def Canonical (text : List Char) : Prop :=
  ∃ dsk, dsk.length = zwaveDskLength ∧ isDskEmpty dsk = false ∧ convertDskToDskStr dsk = text

theorem Canonical.exists_completeDsk (canonical : Canonical text) :
    ∃ dsk, completeDsk text = some dsk ∧ isDskEmpty dsk = false ∧
      convertDskToDskStr dsk = text := by
  obtain ⟨dsk, length, notEmpty, rfl⟩ := canonical
  exact ⟨dsk, completeDsk_convertDskToDskStr length, notEmpty, rfl⟩

namespace Management

variable {matched : Entry}

theorem findEntry_spec {homeId : Nat} {entries : List Entry} {buffer dskInternal : List UInt8}
    (length : buffer.length = zwaveDskLength)
    (found : findEntry homeId entries buffer = some (matched, dskInternal)) :
    matched ∈ entries ∧ (writtenBytes matched.dsk).1 = .ok ∧
      isHomeidInDsk dskInternal homeId = true ∧
      ∀ dsk, completeDsk matched.dsk = some dsk -> dskInternal = dsk := by
  induction entries generalizing buffer with
  | nil => cases found
  | cons entry rest ih =>
    unfold findEntry at found
    dsimp only at found
    split at found
    next isFit =>
      cases found
      refine ⟨List.mem_cons_self, isFit.1, isFit.2, fun dsk complete => ?_⟩
      rw [convertDskStrToDsk_of_completeDsk complete length]
    next =>
      obtain ⟨mem, others⟩ := ih (length_convertDskStrToDsk length entry.dsk) found
      exact ⟨List.mem_cons_of_mem _ mem, others⟩

/-- The discovery state of an entry with several candidates covers what its node was heard
on, or knows of the most preferred protocol. -/
def Covers (config : List Char) (state : Management) (entry : Entry) : Prop :=
  hasSeveralProtocolCandidates config entry.preferredProtocols = true ->
    (∀ protocol ∈ state.heard entry.dsk,
        protocol = .unknown ∨ (state.capabilitiesOf entry.dsk).hasCapability protocol = true) ∨
      (state.capabilitiesOf entry.dsk).hasCapability
        (getMostPreferredProtocol config entry.preferredProtocols) = true

theorem hasCapability_addCapability (capabilities : NodeProtocolCapabilities)
    (added protocol : ZwaveProtocol)
    (known : protocol = added ∨ capabilities.hasCapability protocol = true) :
    protocol = .unknown ∨ (capabilities.addCapability added).hasCapability protocol = true := by
  cases protocol with
  | unknown => exact .inl rfl
  | _ =>
    cases added <;>
      simp_all [NodeProtocolCapabilities.hasCapability, NodeProtocolCapabilities.addCapability]

theorem capabilitiesOf_setDiscovery_self (state : Management) (dsk : List Char)
    (entry : ProtocolDiscoveryEntry) :
    (state.setDiscovery dsk entry).capabilitiesOf dsk = entry.capabilities := by
  have stored : (state.setDiscovery dsk entry).protocolDiscoveryDb dsk = some entry :=
    Function.update_self _ _ _
  unfold capabilitiesOf
  rw [stored]

variable {state : Management} {dsk config : List Char} {entry : Entry}
  {request : InclusionRequest} {made : AddNodeCall}

theorem hasCapability_of_discoveredZero
    (isZero : state.getProtocolDiscoveryState dsk = .discoveredZero) (protocol : ZwaveProtocol) :
    (state.capabilitiesOf dsk).hasCapability protocol = false := by
  unfold getProtocolDiscoveryState at isZero
  unfold capabilitiesOf
  cases isEntry : state.protocolDiscoveryDb dsk with
  | none => cases protocol <;> rfl
  | some entry =>
    simp only [isEntry] at isZero
    cases classic : entry.capabilities.zwave <;>
      cases longRange : entry.capabilities.zwaveLongRange <;>
        simp [classic, longRange] at isZero
    cases protocol <;> simp [NodeProtocolCapabilities.hasCapability, classic, longRange]

theorem hasCapability_of_discoveredAll
    (isAll : state.getProtocolDiscoveryState dsk = .discoveredAll) (protocol : ZwaveProtocol) :
    protocol = .unknown ∨ (state.capabilitiesOf dsk).hasCapability protocol = true := by
  unfold getProtocolDiscoveryState at isAll
  unfold capabilitiesOf
  cases isEntry : state.protocolDiscoveryDb dsk with
  | none =>
    rw [isEntry] at isAll
    cases isAll
  | some entry =>
    simp only [isEntry] at isAll
    cases classic : entry.capabilities.zwave <;>
      cases longRange : entry.capabilities.zwaveLongRange <;>
        simp [classic, longRange] at isAll
    cases protocol <;> simp [NodeProtocolCapabilities.hasCapability, classic, longRange]

theorem heard_hear (state : Management) (dsk : List Char) (protocol : ZwaveProtocol) :
    (state.hear dsk protocol).heard dsk = protocol :: state.heard dsk :=
  Function.update_self _ _ _

theorem Covers.protocolDiscovery {config : List Char} {state : Management} {entry : Entry}
    (covers : state.Covers config entry) (protocol : ZwaveProtocol) :
    ((state.hear entry.dsk protocol).protocolDiscovery config entry protocol).2.Covers config
      entry := by
  intro several
  have before := covers several
  have sameState : (state.hear entry.dsk protocol).getProtocolDiscoveryState entry.dsk =
      state.getProtocolDiscoveryState entry.dsk := rfl
  unfold Management.protocolDiscovery
  rw [if_pos several]
  rw [sameState]
  cases isState : state.getProtocolDiscoveryState entry.dsk with
  | discoveredZero =>
    refine .inl fun other mem => ?_
    rw [capabilitiesOf_setDiscovery_self]
    change other ∈ (state.hear entry.dsk protocol).heard entry.dsk at mem
    rw [heard_hear] at mem
    rcases List.mem_cons.mp mem with isNow | earlier
    · exact hasCapability_addCapability _ _ _ (.inl isNow)
    · -- nothing but unknown protocols were heard before
      rcases before with covered | known
      · rcases covered other earlier with isUnknown | isCapability
        · exact .inl isUnknown
        · rw [hasCapability_of_discoveredZero isState] at isCapability
          cases isCapability
      · rw [hasCapability_of_discoveredZero isState] at known
        cases known
  | discoveredOne =>
    dsimp only
    split
    next known => exact .inr known
    next notKnown =>
      have covered := before.resolve_right notKnown
      split
      next =>
        refine .inl fun other mem => ?_
        rw [capabilitiesOf_setDiscovery_self]
        change other ∈ (state.hear entry.dsk protocol).heard entry.dsk at mem
        rw [heard_hear] at mem
        rcases List.mem_cons.mp mem with isNow | earlier
        · exact hasCapability_addCapability _ _ _ (.inl isNow)
        · rcases covered other earlier with isUnknown | isCapability
          · exact .inl isUnknown
          · exact hasCapability_addCapability _ _ _ (.inr isCapability)
      next again =>
        refine .inl fun other mem => ?_
        rw [heard_hear] at mem
        rcases List.mem_cons.mp mem with isNow | earlier
        · rw [isNow]
          exact .inr (Bool.eq_true_of_not_eq_false again)
        · exact covered other earlier
  | discoveredAll => exact .inl fun other _ => hasCapability_of_discoveredAll isState other

theorem Covers.congr {config : List Char} {state next : Management} {entry : Entry}
    (covers : state.Covers config entry)
    (sameDb : next.protocolDiscoveryDb entry.dsk = state.protocolDiscoveryDb entry.dsk)
    (sameHeard : next.heard entry.dsk = state.heard entry.dsk) : next.Covers config entry := by
  intro several
  have sameCapabilities : next.capabilitiesOf entry.dsk = state.capabilitiesOf entry.dsk := by
    unfold capabilitiesOf
    rw [sameDb]
  rw [sameHeard, sameCapabilities]
  exact covers several

theorem covers_of_heard_eq_nil {config : List Char} {state : Management} {entry : Entry}
    (silent : state.heard entry.dsk = []) : state.Covers config entry := by
  intro _
  rw [silent]
  exact .inl fun protocol mem => absurd mem List.not_mem_nil

theorem protocolDiscovery_frame (config : List Char) (state : Management) (entry : Entry)
    (protocol : ZwaveProtocol) : let next := (state.protocolDiscovery config entry protocol).2
    next.smartstartCache = state.smartstartCache ∧ next.calls = state.calls ∧
      next.heard = state.heard ∧
      ∀ dsk, dsk ≠ entry.dsk -> next.protocolDiscoveryDb dsk = state.protocolDiscoveryDb dsk := by
  have stored : ∀ discovered dsk, dsk ≠ entry.dsk ->
      (state.setDiscovery entry.dsk discovered).protocolDiscoveryDb dsk =
        state.protocolDiscoveryDb dsk :=
    fun discovered dsk differs => Function.update_of_ne differs _ _
  unfold protocolDiscovery
  split
  next =>
    dsimp only
    split
    next => exact ⟨rfl, rfl, rfl, stored _⟩
    next =>
      split
      next => exact ⟨rfl, rfl, rfl, fun _ _ => rfl⟩
      next =>
        split
        next => exact ⟨rfl, rfl, rfl, stored _⟩
        next => exact ⟨rfl, rfl, rfl, fun _ _ => rfl⟩
    next => exact ⟨rfl, rfl, rfl, fun _ _ => rfl⟩
  next => exact ⟨rfl, rfl, rfl, fun _ _ => rfl⟩

theorem find?_of_narrower {order : List ZwaveProtocol} {wide narrow : ZwaveProtocol -> Bool}
    {found : ZwaveProtocol} (isFirst : order.find? wide = some found)
    (narrower : ∀ protocol ∈ order, narrow protocol = true -> wide protocol = true)
    (passes : narrow found = true) : order.find? narrow = some found := by
  rw [List.find?_eq_some_iff_append] at isFirst ⊢
  obtain ⟨-, skipped, rest, isOrder, fails⟩ := isFirst
  refine ⟨passes, skipped, rest, isOrder, fun protocol mem => ?_⟩
  have failsWide := fails protocol mem
  rw [Bool.not_eq_true'] at failsWide ⊢
  rw [← Bool.not_eq_true] at failsWide ⊢
  exact fun passesNarrow => failsWide
    (narrower protocol (by rw [isOrder]; exact List.mem_append_left _ mem) passesNarrow)

/-- Whether a protocol is among those that were heard. -/
def isHeard (heard : List ZwaveProtocol) (protocol : ZwaveProtocol) : Bool :=
  decide (protocol ∈ heard)

theorem Covers.find?_isHeard (covers : state.Covers config entry) {protocol : ZwaveProtocol}
    (isPreferred : state.preferredProtocol config entry = protocol) (known : protocol ≠ .unknown)
    (heard : protocol ∈ state.heard entry.dsk) :
    (preferenceOrder config entry.preferredProtocols).find?
      (isHeard (state.heard entry.dsk)) = some protocol := by
  have passes : isHeard (state.heard entry.dsk) protocol = true := decide_eq_true heard
  unfold preferredProtocol at isPreferred
  cases several : hasSeveralProtocolCandidates config entry.preferredProtocols with
  | false =>
    rw [several, if_neg Bool.false_ne_true] at isPreferred
    obtain ⟨isHead, single⟩ := onlyProtocol_eq_headD config entry.preferredProtocols several
    rw [isPreferred] at isHead
    match isOrder : preferenceOrder config entry.preferredProtocols, single with
    | [], _ =>
      rw [isOrder] at isHead
      exact absurd isHead known
    | [only], _ =>
      rw [isOrder] at isHead
      cases isHead
      exact List.find?_cons_of_pos passes
  | true =>
    rw [several, getPreferredInclusionProtocol_eq_find?] at isPreferred
    have isFirst : (preferenceOrder config entry.preferredProtocols).find?
        (state.capabilitiesOf entry.dsk).hasCapability = some protocol := by
      cases isFound : (preferenceOrder config entry.preferredProtocols).find?
          (state.capabilitiesOf entry.dsk).hasCapability with
      | none =>
        rw [isFound] at isPreferred
        exact absurd isPreferred.symm known
      | some found =>
        rw [isFound] at isPreferred
        rw [← isPreferred]
        rfl
    rcases covers several with covered | mostPreferred
    · refine find?_of_narrower isFirst (fun other mem isNarrow => ?_) passes
      exact (covered other (of_decide_eq_true isNarrow)).resolve_left
        (ne_unknown_of_mem_preferenceOrder config _ mem)
    · -- the first protocol of the order is known
      match isOrder : preferenceOrder config entry.preferredProtocols with
      | [] =>
        rw [isOrder] at isFirst
        cases isFirst
      | first :: rest =>
        rw [getMostPreferredProtocol_eq_headD, isOrder, List.headD_cons] at mostPreferred
        rw [isOrder, List.find?_cons_of_pos mostPreferred] at isFirst
        cases isFirst
        exact List.find?_cons_of_pos passes

/-- A call is for an entry of the list whose complete value is its DSK and fits the home id,
on the first protocol of the entry's order that its node was heard on since the last attempt
to include it. -/
def CallConforms (config : List Char) (state : Management) (request : InclusionRequest)
    (made : AddNodeCall) : Prop :=
  made.entry ∈ state.smartstartCache.entries ∧
    completeDsk made.entry.dsk = some made.dsk ∧
      isHomeidInDsk made.dsk request.homeId = true ∧
        (preferenceOrder config made.entry.preferredProtocols).find?
          (isHeard (request.protocol :: state.heard made.entry.dsk)) = some made.protocol

/-- When the node of a call is added, the entry of the call leaves the list and its discovery
state is cleared, and no other entry is removed. -/
def AdditionConforms (state : Management) (dsk : List UInt8) : Prop :=
  ∀ made ∈ state.calls, made.dsk = dsk ->
    (state.onNodeAdded true dsk).smartstartCache.entries =
        state.smartstartCache.entries.filter (fun entry => entry.dsk ≠ made.entry.dsk) ∧
      (state.onNodeAdded true dsk).protocolDiscoveryDb made.entry.dsk = none

/-- What a step should do. -/
def StepConforms (config : List Char) (state : Management) : Action -> Prop
  | .inclusionRequest request =>
      request.order.Perm state.smartstartCache.entries ->
        ∀ made ∈ (state.onInclusionRequest config request).1, state.CallConforms config request made
  | .nodeAdded success dsk => success = true -> state.AdditionConforms dsk
  | .clockTick _ => True

/-- Whether every entry whose text is converted, and that has a protocol in its preference
order, has a canonical text. -/
def AddableCanonical (config : List Char) (entries : List Entry) : Prop :=
  ∀ entry ∈ entries, (writtenBytes entry.dsk).1 = .ok ->
    preferenceOrder config entry.preferredProtocols ≠ [] -> Canonical entry.dsk

theorem onInclusionRequest_eq_some
    (isMade : (state.onInclusionRequest config request).1 = some made) :
    findEntry request.homeId request.order zeroDsk = some (made.entry, made.dsk) ∧
      made.protocol = request.protocol ∧ made.protocol ≠ .unknown ∧
      ((state.hear made.entry.dsk request.protocol).protocolDiscovery config made.entry
        request.protocol).2.preferredProtocol config made.entry = made.protocol ∧
      (state.onInclusionRequest config request).2 =
        ((state.hear made.entry.dsk request.protocol).protocolDiscovery config made.entry
          request.protocol).2.call made := by
  unfold onInclusionRequest at isMade ⊢
  split at isMade
  next => cases isMade
  next matched dskInternal found =>
    rw [found]
    dsimp only at isMade ⊢
    split at isMade
    next => cases isMade
    next notIncluded =>
      rw [if_neg notIncluded]
      split at isMade
      next => cases isMade
      next isDone =>
        rw [if_neg isDone]
        split at isMade
        next => cases isMade
        next known =>
          rw [if_neg known]
          split at isMade
          next => cases isMade
          next sameProtocol =>
            rw [if_neg sameProtocol]
            split at isMade
            next => cases isMade
            next isFree =>
              rw [if_neg isFree]
              cases isMade
              exact ⟨rfl, (Decidable.not_not.mp sameProtocol).symm, known, rfl, rfl⟩

/-- What the runs with canonical texts keep. -/
structure Provisioned (config : List Char) (state : Management) : Prop where
  canonical : AddableCanonical config state.smartstartCache.entries
  callsCanonical : ∀ made ∈ state.calls,
    isDskEmpty made.dsk = false ∧ convertDskToDskStr made.dsk = made.entry.dsk
  covers : ∀ entry ∈ state.smartstartCache.entries, state.Covers config entry

theorem Provisioned.protocolDiscovery {config : List Char} {state : Management}
    (provisioned : state.Provisioned config) (mem : matched ∈ state.smartstartCache.entries)
    (protocol : ZwaveProtocol) :
    ((state.hear matched.dsk protocol).protocolDiscovery config matched
      protocol).2.Provisioned config := by
  obtain ⟨sameCache, sameCalls, sameHeard, sameDb⟩ :=
    protocolDiscovery_frame config (state.hear matched.dsk protocol) matched protocol
  obtain ⟨canonical, callsCanonical, covers⟩ := provisioned
  constructor
  · rw [sameCache]
    exact canonical
  · rw [sameCalls]
    exact callsCanonical
  · intro entry isEntry
    rw [sameCache] at isEntry
    by_cases same : entry.dsk = matched.dsk
    · have isMatched : entry = matched :=
        List.inj_on_of_nodup_map state.smartstartCache.keysDistinct isEntry mem same
      rw [isMatched]
      exact (covers matched mem).protocolDiscovery protocol
    · refine (covers entry isEntry).congr (sameDb entry.dsk same) ?_
      rw [sameHeard]
      exact Function.update_of_ne same _ _

theorem Provisioned.callConforms {config : List Char} {state : Management}
    (provisioned : state.Provisioned config) {request : InclusionRequest}
    (isOrder : request.order.Perm state.smartstartCache.entries) {made : AddNodeCall}
    (isMade : (state.onInclusionRequest config request).1 = some made) :
    state.CallConforms config request made ∧
      isDskEmpty made.dsk = false ∧ convertDskToDskStr made.dsk = made.entry.dsk := by
  obtain ⟨found, isProtocol, known, isPreferred, -⟩ := onInclusionRequest_eq_some isMade
  obtain ⟨memOrder, converted, fitsHomeId, isComplete⟩ := findEntry_spec List.length_replicate found
  have mem := isOrder.mem_iff.mp memOrder
  have discovered := provisioned.protocolDiscovery mem request.protocol
  obtain ⟨sameCache, -, sameHeard, -⟩ :=
    protocolDiscovery_frame config (state.hear made.entry.dsk request.protocol) made.entry
      request.protocol
  have isHeardNow : ((state.hear made.entry.dsk request.protocol).protocolDiscovery config
      made.entry request.protocol).2.heard made.entry.dsk =
        request.protocol :: state.heard made.entry.dsk := by
    rw [sameHeard, heard_hear]
  have isFirst := (discovered.covers made.entry (by rw [sameCache]; exact mem)).find?_isHeard
    isPreferred known (by rw [isHeardNow, isProtocol]; exact List.mem_cons_self)
  rw [isHeardNow] at isFirst
  have hasOrder : preferenceOrder config made.entry.preferredProtocols ≠ [] := by
    intro isEmpty
    rw [isEmpty] at isFirst
    cases isFirst
  obtain ⟨dsk, complete, notEmpty, isText⟩ :=
    (provisioned.canonical made.entry mem converted hasOrder).exists_completeDsk
  have sameDsk := isComplete dsk complete
  rw [← sameDsk] at complete notEmpty isText
  exact ⟨⟨mem, complete, fitsHomeId, isFirst⟩, notEmpty, isText⟩

theorem onNodeAdded_of_notEmpty (state : Management) {dsk : List UInt8}
    (notEmpty : isDskEmpty dsk = false) :
    (state.onNodeAdded true dsk).smartstartCache.entries =
        state.smartstartCache.entries.filter
          (fun entry => entry.dsk ≠ convertDskToDskStr dsk) ∧
      (state.onNodeAdded true dsk).protocolDiscoveryDb (convertDskToDskStr dsk) = none := by
  unfold onNodeAdded
  rw [notEmpty]
  exact ⟨rfl, Function.update_self _ _ _⟩

theorem Provisioned.stepConforms (provisioned : state.Provisioned config) (action : Action) :
    state.StepConforms config action := by
  cases action with
  | inclusionRequest request =>
    exact fun isOrder made isMade => (provisioned.callConforms isOrder isMade).1
  | nodeAdded success dsk =>
    rintro - made mem rfl
    obtain ⟨notEmpty, isText⟩ := provisioned.callsCanonical made mem
    rw [← isText]
    exact state.onNodeAdded_of_notEmpty notEmpty
  | clockTick elapsed => trivial

theorem Provisioned.onInclusionRequest {config : List Char} {state : Management}
    (provisioned : state.Provisioned config) {request : InclusionRequest}
    (isOrder : request.order.Perm state.smartstartCache.entries) :
    (state.onInclusionRequest config request).2.Provisioned config := by
  have newCall := fun made => @Provisioned.callConforms config state provisioned _ isOrder made
  unfold Management.onInclusionRequest at newCall ⊢
  split
  next => exact provisioned
  next matched dskInternal found =>
    rw [found] at newCall
    obtain ⟨memOrder, -⟩ := findEntry_spec List.length_replicate found
    have discovered := provisioned.protocolDiscovery (isOrder.mem_iff.mp memOrder) request.protocol
    dsimp only at newCall ⊢
    split
    next => exact provisioned
    next notIncluded =>
      rw [if_neg notIncluded] at newCall
      split
      next => exact discovered
      next isDone =>
        rw [if_neg isDone] at newCall
        split
        next => exact discovered
        next known =>
          rw [if_neg known] at newCall
          split
          next => exact discovered
          next same =>
            rw [if_neg same] at newCall
            split
            next => exact discovered
            next isFree =>
              rw [if_neg isFree] at newCall
              obtain ⟨-, callIsCanonical⟩ := newCall _ rfl
              constructor
              · exact discovered.canonical
              · intro made mem
                rcases List.mem_cons.mp mem with isNew | isOld
                · rw [isNew]
                  exact callIsCanonical
                · exact discovered.callsCanonical made isOld
              · intro entry mem
                by_cases sameKey : entry.dsk = matched.dsk
                · apply covers_of_heard_eq_nil
                  rw [sameKey]
                  exact Function.update_self _ _ _
                · exact (discovered.covers entry mem).congr rfl
                    (Function.update_of_ne sameKey _ _)

theorem Provisioned.onNodeAdded (provisioned : state.Provisioned config) (success : Bool)
    (dsk : List UInt8) : (state.onNodeAdded success dsk).Provisioned config := by
  obtain ⟨canonical, callsCanonical, covers⟩ := provisioned
  have cleared : ∀ entry ∈ state.smartstartCache.entries,
      Covers config
        { state with
          protocolDiscoveryDb :=
            Function.update state.protocolDiscoveryDb (convertDskToDskStr dsk) none
          heard := Function.update state.heard (convertDskToDskStr dsk) [] } entry := by
    intro entry mem
    by_cases sameKey : entry.dsk = convertDskToDskStr dsk
    · apply covers_of_heard_eq_nil
      rw [sameKey]
      exact Function.update_self _ _ _
    · exact (covers entry mem).congr (Function.update_of_ne sameKey _ _)
        (Function.update_of_ne sameKey _ _)
  unfold Management.onNodeAdded
  split
  next => exact ⟨canonical, callsCanonical, covers⟩
  next =>
    split
    next =>
      refine ⟨fun entry mem => canonical entry (List.mem_of_mem_filter mem), callsCanonical,
        fun entry mem => ?_⟩
      exact (cleared entry (List.mem_of_mem_filter mem)).congr rfl rfl
    next => exact ⟨canonical, callsCanonical, cleared⟩

/-- Every step keeps the texts canonical and the additions covered. -/
theorem Provisioned.step (provisioned : state.Provisioned config) (action : Action) :
    (state.step config action).Provisioned config := by
  cases action with
  | inclusionRequest request =>
    unfold Management.step
    dsimp only
    split
    next isOrder => exact provisioned.onInclusionRequest isOrder
    next => exact provisioned
  | nodeAdded success dsk => exact provisioned.onNodeAdded success dsk
  | clockTick elapsed =>
    exact ⟨provisioned.canonical, provisioned.callsCanonical,
      fun entry mem => (provisioned.covers entry mem).congr rfl rfl⟩

/-- The home id that fits a DSK. -/
def homeIdOf (dsk : List UInt8) : Nat :=
  (dsk.getD 8 0 ||| 0xC0).toNat * 2 ^ 24 + (dsk.getD 9 0).toNat * 2 ^ 16 +
    (dsk.getD 10 0).toNat * 2 ^ 8 + (dsk.getD 11 0 &&& 0xFE).toNat

theorem isHomeidInDsk_homeIdOf (dsk : List UInt8) : isHomeidInDsk dsk (homeIdOf dsk) = true := by
  unfold isHomeidInDsk homeIdOf
  generalize dsk.getD 8 0 ||| 0xC0 = first
  generalize dsk.getD 9 0 = second
  generalize dsk.getD 10 0 = third
  generalize dsk.getD 11 0 &&& 0xFE = fourth
  have firstSmall := first.toNat_lt
  have secondSmall := second.toNat_lt
  have thirdSmall := third.toNat_lt
  have fourthSmall := fourth.toNat_lt
  rw [beq_iff_eq]
  congr 1
  · apply UInt8.toNat_inj.mp
    rw [UInt8.toNat_ofNat']
    omega
  congr 1
  · apply UInt8.toNat_inj.mp
    rw [UInt8.toNat_ofNat']
    omega
  congr 1
  · apply UInt8.toNat_inj.mp
    rw [UInt8.toNat_ofNat']
    omega
  simp

/-- A Prime on the most preferred protocol of an entry, which is visited first. -/
def firstPrime (config : List Char) (cache : SmartstartCache)
    (entry : Entry) : InclusionRequest where
  order := entry :: cache.entries.erase entry
  homeId := homeIdOf (convertDskStrToDsk entry.dsk zeroDsk).2
  alreadyIncluded := false
  protocol := (preferenceOrder config entry.preferredProtocols).headD .unknown
  deferral := ⟨false, false, false⟩

theorem onInclusionRequest_firstPrime (config : List Char) (cache : SmartstartCache)
    (converted : (writtenBytes entry.dsk).1 = .ok)
    (hasOrder : preferenceOrder config entry.preferredProtocols ≠ []) :
    ((initial cache).onInclusionRequest config (firstPrime config cache entry)).1 =
      some ⟨entry, (firstPrime config cache entry).homeId,
        (convertDskStrToDsk entry.dsk zeroDsk).2,
        (firstPrime config cache entry).protocol⟩ := by
  obtain ⟨first, rest, isOrder⟩ := List.exists_cons_of_ne_nil hasOrder
  have known : first ≠ .unknown :=
    ne_unknown_of_mem_preferenceOrder config entry.preferredProtocols
      (by rw [isOrder]; exact List.mem_cons_self)
  have isFirst : (firstPrime config cache entry).protocol = first := by
    unfold firstPrime
    rw [isOrder]
    rfl
  have found : findEntry (firstPrime config cache entry).homeId
      (firstPrime config cache entry).order zeroDsk =
        some (entry, (convertDskStrToDsk entry.dsk zeroDsk).2) := by
    change findEntry (homeIdOf _) (entry :: _) zeroDsk = _
    unfold findEntry
    rw [if_pos ⟨converted, isHomeidInDsk_homeIdOf _⟩]
  have discovery : (((initial cache).hear entry.dsk first).protocolDiscovery config entry
      first).1 = true ∧
      (((initial cache).hear entry.dsk first).protocolDiscovery config entry
        first).2.preferredProtocol config entry = first := by
    unfold protocolDiscovery preferredProtocol
    cases several : hasSeveralProtocolCandidates config entry.preferredProtocols with
    | false =>
      refine ⟨rfl, ?_⟩
      rw [if_neg Bool.false_ne_true,
        (onlyProtocol_eq_headD config entry.preferredProtocols several).1, isOrder]
      rfl
    | true =>
      have onlyFirst : NodeProtocolCapabilities.hasCapability
          (NodeProtocolCapabilities.addCapability ⟨false, false⟩ first) first = true := by
        cases first with
        | unknown => exact absurd rfl known
        | _ => rfl
      have isZero : ((initial cache).hear entry.dsk first).getProtocolDiscoveryState
          entry.dsk = .discoveredZero := rfl
      rw [if_pos rfl]
      rw [isZero]
      rw [getMostPreferredProtocol_eq_headD, isOrder, List.headD_cons,
        getPreferredInclusionProtocol_eq_find?, isOrder, capabilitiesOf_setDiscovery_self,
        List.find?_cons_of_pos onlyFirst]
      exact ⟨onlyFirst, rfl⟩
  have notIncluded : (firstPrime config cache entry).alreadyIncluded = false := rfl
  have isFree : (firstPrime config cache entry).deferral.isFree = true := rfl
  unfold onInclusionRequest
  rw [found]
  dsimp only
  rw [isFirst, discovery.1, discovery.2, notIncluded, isFree, if_neg Bool.false_ne_true,
    if_neg (by decide), if_neg known, if_neg (by simp), if_neg (by decide)]

/-- Every step of a run does what it should. -/
def RunConforms (config : List Char) (cache : SmartstartCache) (actions : List Action) : Prop :=
  StepsMeet (step config) (StepConforms config) (initial cache) actions

theorem provisioned_initial {cache : SmartstartCache}
    (canonical : AddableCanonical config cache.entries) : (initial cache).Provisioned config where
  canonical := canonical
  callsCanonical := fun _ mem => absurd mem List.not_mem_nil
  covers := fun _ _ => covers_of_heard_eq_nil rfl

/-- Every run with a provisioning list does what it should exactly when the texts of the
entries that can be added are canonical. -/
theorem runConforms_iff (config : List Char) (cache : SmartstartCache) :
    (∀ actions, RunConforms config cache actions) ↔ AddableCanonical config cache.entries := by
  constructor
  · intro conforms entry mem converted hasOrder
    let made : AddNodeCall :=
      ⟨entry, (firstPrime config cache entry).homeId,
        (convertDskStrToDsk entry.dsk zeroDsk).2, (firstPrime config cache entry).protocol⟩
    have isMade := onInclusionRequest_firstPrime config cache converted hasOrder
    have isOrder : (firstPrime config cache entry).order.Perm cache.entries :=
      (List.perm_cons_erase mem).symm
    obtain ⟨requestConforms, additionConforms, -⟩ :=
      conforms [.inclusionRequest (firstPrime config cache entry), .nodeAdded true made.dsk]
    obtain ⟨-, complete, -⟩ := requestConforms isOrder made isMade
    have length := length_of_completeDsk complete
    obtain ⟨-, -, -, -, isNext⟩ := onInclusionRequest_eq_some isMade
    obtain ⟨sameCache, -⟩ := protocolDiscovery_frame config
      ((initial cache).hear made.entry.dsk (firstPrime config cache entry).protocol) made.entry
        (firstPrime config cache entry).protocol
    have isStep : (initial cache).step config (.inclusionRequest (firstPrime config cache entry)) =
        ((initial cache).onInclusionRequest config (firstPrime config cache entry)).2 :=
      if_pos isOrder
    have cacheThen : ((initial cache).step config
        (.inclusionRequest (firstPrime config cache entry))).smartstartCache = cache := by
      rw [isStep, isNext]
      exact sameCache
    have madeThen : made ∈ ((initial cache).step config
        (.inclusionRequest (firstPrime config cache entry))).calls := by
      rw [isStep, isNext]
      exact List.mem_cons_self
    obtain ⟨leaves, -⟩ := additionConforms rfl made madeThen rfl
    rw [cacheThen] at leaves
    have isGone : entry ∉ cache.entries.filter fun other => other.dsk ≠ made.entry.dsk := by
      rw [List.mem_filter, decide_eq_true_iff]
      exact fun stays => stays.2 rfl
    rw [← leaves] at isGone
    cases isEmpty : isDskEmpty made.dsk with
    | true =>
      -- an added node with an empty DSK is ignored
      unfold onNodeAdded at isGone
      rw [isEmpty, if_pos rfl, cacheThen] at isGone
      exact absurd mem isGone
    | false =>
      refine ⟨made.dsk, length, isEmpty, ?_⟩
      by_contra differs
      rw [(onNodeAdded_of_notEmpty _ isEmpty).1, cacheThen, List.mem_filter,
        decide_eq_true_iff] at isGone
      exact isGone ⟨mem, Ne.symm differs⟩
  · intro canonical actions
    exact StepsMeet.mono_of_invariant (Provisioned config)
      (fun _ action provisioned _ => provisioned.step action)
      (fun _ action provisioned _ => provisioned.stepConforms action)
      (provisioned_initial canonical) (stepsMeet_true (step config) (initial cache) actions)

/-- A list with a text that breaks off in its seventh number and a text with one number. -/
def brokenTexts : SmartstartCache where
  entries := [⟨"00001-00002-00003-00004-00005-00006-x".toList, []⟩, ⟨"9".toList, ["Z-Wave"]⟩]
  keysDistinct := by decide

/-- The second entry is added with the home id of the first one. -/
theorem not_runConforms_brokenTexts :
    ¬ RunConforms "1,2".toList brokenTexts
      [.inclusionRequest
        ⟨brokenTexts.entries, 0xC0050006, false, .zwave, ⟨false, false, false⟩⟩] := by
  rintro ⟨conforms, -⟩
  have isMade : ((initial brokenTexts).onInclusionRequest "1,2".toList
      ⟨brokenTexts.entries, 0xC0050006, false, .zwave, ⟨false, false, false⟩⟩).1 =
        some ⟨⟨"9".toList, ["Z-Wave"]⟩, 0xC0050006,
          [0, 9, 0, 2, 0, 3, 0, 4, 0, 5, 0, 6, 0, 0, 0, 0], .zwave⟩ := by
    decide +kernel
  obtain ⟨-, complete, -⟩ := conforms (List.Perm.refl _) _ isMade
  revert complete
  decide +kernel

end Management

end Smartstart
