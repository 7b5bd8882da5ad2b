import Zpc.ApiTransports.MultiChannel
import Zpc.Foundation.Run

/-!
# The outcomes of accepted sends

Both transports keep one slot and take whatever completion comes for that of the frame in it.
Every send is completed once, and by its own frame, exactly while no completion of an earlier
frame, and no answer to another request for node information, comes during a later send.
-/

open Foundation (SlotLedger StepsMeet throughout_iff_of_invariant)

namespace ZwaveApiTransport

/-- Where the completion of a numbered send may come from. -/
def OwnSource (number : Nat) : Source -> Prop
  | .moduleCallback other => other = number
  | .nodeInformation other => other = number
  | .nodeInfoReqFailed other => other = number
  | .foreignNodeInformation => False
  | .foreignNodeInfoReqFailed => False
  | _ => True

/-- A completion invokes the callback of its send, tells what its own frame says about its
destination, and comes from its own frame. -/
structure OwnOutcome (number : Nat) (accepted : Accepted) (completion : Completion) : Prop where
  called : completion.called =
    accepted.onSendDataComplete.map fun callback => (callback, accepted.user)
  notified : completion.notified =
    notification completion.status accepted.destination accepted.fastTrack
  source : OwnSource number completion.source

/-- Nothing of a transmission is left in the state. -/
structure Clean (state : SendDataState) : Prop where
  remoteNodeId : state.remoteNodeId = invalidNodeId
  fastTrack : state.fastTrack = false
  awaitingNif : state.awaitingNif = false

namespace System

/-- Every send that ended had its own outcome, and a free transport is clean. -/
structure Conforms (sys : System) : Prop where
  settled : SlotLedger.Settled OwnOutcome sys.state.transmissionOngoing sys.ledger
  clean : sys.state.transmissionOngoing = false -> Clean sys.state

/-- The state belongs to the send that is ongoing. -/
structure Invariant (sys : System) : Prop where
  conforms : Conforms sys
  ongoing : sys.state.transmissionOngoing = true ->
    sys.ledger.accepted[sys.ledger.ongoingNumber]? =
      some ⟨sys.state.onSendDataComplete, sys.state.user, sys.state.remoteNodeId,
        sys.state.fastTrack⟩

theorem Conforms.invariant_of_free {sys : System} (conforms : Conforms sys)
    (free : sys.state.transmissionOngoing = false) : Invariant sys := by
  refine ⟨conforms, ?_⟩
  rw [free]
  exact fun ongoing => absurd ongoing Bool.false_ne_true

theorem clean_resetState (state : SendDataState) : Clean state.resetState := ⟨rfl, rfl, rfl⟩

theorem invariant_initial : Invariant initial :=
  Conforms.invariant_of_free ⟨SlotLedger.settled_empty, fun _ => ⟨rfl, rfl, rfl⟩⟩ rfl

section

variable {sys : System}

theorem Invariant.ongoing_of_awaitingNif (invariant : Invariant sys)
    (awaiting : sys.state.awaitingNif = true) : sys.state.transmissionOngoing = true := by
  by_contra free
  have clean := invariant.conforms.clean (by simpa using free)
  rw [clean.awaitingNif] at awaiting
  cases awaiting

theorem conforms_sendDataCallback_iff (invariant : Invariant sys)
    (ongoing : sys.state.transmissionOngoing = true) (status : Nat)
    (txReport : Option ZwaveTx.TxReport) (source : Source) :
    Conforms (sys.sendDataCallback status txReport source) ↔
      OwnSource sys.ledger.ongoingNumber source := by
  have settled := invariant.conforms.settled
  rw [ongoing] at settled
  have completes := settled.complete_iff (invariant.ongoing ongoing)
    { status := status
      txReport := txReport
      called := sys.state.onSendDataComplete.map fun callback => (callback, sys.state.user)
      notified := notification status sys.state.remoteNodeId sys.state.fastTrack
      source := source }
  rw [sendDataCallback, if_neg (by simp [ongoing])]
  constructor
  · intro conforms
    exact (completes.mp conforms.settled).source
  · intro isOwn
    exact ⟨completes.mpr ⟨rfl, rfl, isOwn⟩, fun _ => clean_resetState sys.state⟩

theorem invariant_sendDataCallback (invariant : Invariant sys) (status : Nat)
    (txReport : Option ZwaveTx.TxReport) {source : Source}
    (isOwn : sys.state.transmissionOngoing = true -> OwnSource sys.ledger.ongoingNumber source) :
    Invariant (sys.sendDataCallback status txReport source) := by
  by_cases ongoing : sys.state.transmissionOngoing = true
  · have conforms := (conforms_sendDataCallback_iff invariant ongoing status txReport source).mpr
      (isOwn ongoing)
    refine conforms.invariant_of_free ?_
    rw [sendDataCallback, if_neg (by simp [ongoing])]
    rfl
  · rw [sendDataCallback, if_pos (by simpa using ongoing)]
    exact invariant

theorem invariant_startTransmission (before : System) (request : SendRequest) {destination : Nat}
    {fastTrack : Bool} (settled : SlotLedger.Settled OwnOutcome false before.ledger)
    (isDestination : before.state.remoteNodeId = destination)
    (isFastTrack : before.state.fastTrack = fastTrack) :
    Invariant (before.startTransmission request destination fastTrack) := by
  subst isDestination isFastTrack
  exact ⟨⟨settled.accept _, fun free => absurd free (by simp [startTransmission])⟩,
    fun _ => settled.accepted_ongoing _⟩

/-- The frame of a request is refused by the module after its destination was saved. -/
def Refused (sys : System) (request : SendRequest) (answers : Answers) : Prop :=
  request.data.length ≤ zwaveApiMaximumFrameLength ∧
    sys.state.transmissionOngoing = false ∧
    request.info.remote.isMulticast = false ∧
    (interceptOf request = .notSupported ∨ answers.interceptStatus ≠ .ok) ∧
    answers.transmitStatus ≠ .ok

/-- A frame whose destination and fast track setting are those of a free transport. -/
def SavesNothing (request : SendRequest) : Prop :=
  singlecastDestination request = invalidNodeId ∧ singlecastFastTrack request = false

theorem saveSessionState_of_clean {state : SendDataState} (clean : Clean state)
    (request : SendRequest) :
    (saveSessionState state request).remoteNodeId = singlecastDestination request ∧
      (saveSessionState state request).fastTrack = singlecastFastTrack request := by
  unfold saveSessionState singlecastDestination singlecastFastTrack
  cases isBroadcastNodeId request.info.remote.nodeId <;>
    cases request.txOptions.isTestFrame <;>
    simp [clean.remoteNodeId, clean.fastTrack]

theorem saveSessionState_flags (state : SendDataState) (request : SendRequest) :
    (saveSessionState state request).transmissionOngoing = state.transmissionOngoing ∧
      (saveSessionState state request).awaitingNif = state.awaitingNif := by
  unfold saveSessionState
  cases isBroadcastNodeId request.info.remote.nodeId <;>
    cases request.txOptions.isTestFrame <;> exact ⟨rfl, rfl⟩

theorem Invariant.of_same {other : System} (invariant : Invariant sys)
    (sameState : other.state = sys.state) (sameLedger : other.ledger = sys.ledger) :
    Invariant other := by
  obtain ⟨⟨settled, clean⟩, ongoing⟩ := invariant
  rw [← sameState, ← sameLedger] at settled ongoing
  rw [← sameState] at clean
  exact ⟨⟨settled, clean⟩, ongoing⟩

theorem sendSinglecast_conforms (invariant : Invariant sys)
    (free : sys.state.transmissionOngoing = false) (request : SendRequest) (answers : Answers) :
    (Conforms (sys.sendSinglecast request answers).2 ↔
        (answers.transmitStatus = .ok ∨ SavesNothing request)) ∧
      (Conforms (sys.sendSinglecast request answers).2 ->
        Invariant (sys.sendSinglecast request answers).2) := by
  have clean := invariant.conforms.clean free
  have settled := invariant.conforms.settled
  rw [free] at settled
  obtain ⟨destination, fastTrack⟩ := saveSessionState_of_clean clean request
  obtain ⟨stillFree, stillIdle⟩ := saveSessionState_flags sys.state request
  unfold sendSinglecast
  by_cases accepted : answers.transmitStatus = .ok
  · rw [if_pos accepted]
    have started := invariant_startTransmission
      { { sys with state := saveSessionState sys.state request }.ask
        (singlecastCall request answers) with
          outstandingFrames := sys.nextNumber :: sys.outstandingFrames }
      request settled destination fastTrack
    exact ⟨⟨fun _ => Or.inl accepted, fun _ => started.conforms⟩, fun _ => started⟩
  · rw [if_neg accepted]
    have isFree := stillFree.trans free
    refine ⟨⟨fun conforms => Or.inr ?_, ?_⟩, fun conforms => conforms.invariant_of_free isFree⟩
    · have cleanAfter := conforms.clean isFree
      exact ⟨destination.symm.trans cleanAfter.remoteNodeId,
        fastTrack.symm.trans cleanAfter.fastTrack⟩
    · rintro (isOk | ⟨noDestination, noFastTrack⟩)
      · exact absurd isOk accepted
      · refine ⟨?_, fun _ => ⟨destination.trans noDestination, fastTrack.trans noFastTrack,
          stillIdle.trans clean.awaitingNif⟩⟩
        show SlotLedger.Settled OwnOutcome
          (saveSessionState sys.state request).transmissionOngoing sys.ledger
        rw [isFree]
        exact settled

theorem invariant_sendMulticast (invariant : Invariant sys)
    (free : sys.state.transmissionOngoing = false) (request : SendRequest) (answers : Answers) :
    Invariant (sys.sendMulticast request answers).2 := by
  have clean := invariant.conforms.clean free
  have settled := invariant.conforms.settled
  rw [free] at settled
  unfold sendMulticast
  split
  · exact invariant
  · dsimp only
    split
    · exact invariant_startTransmission _ request settled clean.remoteNodeId clean.fastTrack
    · exact invariant.of_same rfl rfl

theorem interceptPayload_eq (sys : System) (request : SendRequest) (answers : Answers) :
    ((sys.interceptPayload request answers).1 = true ↔
        interceptOf request ≠ .notSupported ∧ answers.interceptStatus = .ok) ∧
      (sys.interceptPayload request answers).2.ledger = sys.ledger ∧
      (sys.interceptPayload request answers).2.state.fastTrack = sys.state.fastTrack ∧
      ((sys.interceptPayload request answers).1 = false ->
        (sys.interceptPayload request answers).2.state = sys.state) := by
  unfold interceptPayload
  cases interceptOf request <;> by_cases accepted : answers.interceptStatus = .ok <;>
    simp [accepted, ask]

theorem sendData_conforms (invariant : Invariant sys) (request : SendRequest) (answers : Answers) :
    (Conforms (sys.sendData request answers).2 ↔
        (Refused sys request answers -> SavesNothing request)) ∧
      (Conforms (sys.sendData request answers).2 ->
        Invariant (sys.sendData request answers).2) := by
  unfold sendData Refused
  by_cases tooLong : zwaveApiMaximumFrameLength < request.data.length
  · rw [if_pos tooLong]
    exact ⟨⟨fun _ refused => absurd refused.1 (by omega), fun _ => invariant.conforms⟩,
      fun _ => invariant⟩
  rw [if_neg tooLong]
  by_cases busy : sys.state.transmissionOngoing = true
  · rw [if_pos busy]
    refine ⟨⟨fun _ refused => ?_, fun _ => invariant.conforms⟩, fun _ => invariant⟩
    rw [refused.2.1] at busy
    cases busy
  rw [if_neg busy]
  have free : sys.state.transmissionOngoing = false := by simpa using busy
  obtain ⟨taken, ledger, fastTrack, untouched⟩ := interceptPayload_eq sys request answers
  by_cases intercepted : (sys.interceptPayload request answers).1 = true
  · rw [if_pos intercepted]
    have settled := invariant.conforms.settled
    rw [free, ← ledger] at settled
    have started := invariant_startTransmission
      { (sys.interceptPayload request answers).2 with
        state := { (sys.interceptPayload request answers).2.state with
          remoteNodeId := request.info.remote.nodeId } }
      request settled rfl
      (fastTrack.trans (invariant.conforms.clean free).fastTrack)
    refine ⟨⟨fun _ refused => ?_, fun _ => started.conforms⟩, fun _ => started⟩
    obtain ⟨isIntercepted, isOk⟩ := taken.mp intercepted
    rcases refused.2.2.2.1 with notSupported | notOk
    · exact absurd notSupported isIntercepted
    · exact absurd isOk notOk
  rw [if_neg intercepted]
  have same := untouched (by simpa using intercepted)
  have kept := invariant.of_same same ledger
  have stillFree : (sys.interceptPayload request answers).2.state.transmissionOngoing = false :=
    by rw [same]; exact free
  by_cases singlecast : request.info.remote.isMulticast = false
  · rw [if_pos singlecast]
    obtain ⟨conformsIff, gives⟩ := sendSinglecast_conforms kept stillFree request answers
    refine ⟨conformsIff.trans ?_, gives⟩
    constructor
    · rintro (isOk | nothing) refused
      · exact absurd isOk refused.2.2.2.2
      · exact nothing
    · intro saves
      by_cases isOk : answers.transmitStatus = .ok
      · exact Or.inl isOk
      · refine Or.inr (saves ⟨by omega, free, singlecast, ?_, isOk⟩)
        rw [taken, not_and_or, not_not] at intercepted
        exact intercepted
  · rw [if_neg singlecast]
    have kept' := invariant_sendMulticast kept stillFree request answers
    exact ⟨⟨fun _ refused => absurd refused.2.2.1 singlecast, fun _ => kept'.conforms⟩,
      fun _ => kept'⟩

/-- A frame the module refuses leaves nothing behind, and what ends a send is its own. -/
def Orderly (sys : System) : Action -> Prop
  | .sendData request answers => Refused sys request answers -> SavesNothing request
  | .moduleCallback number _ _ =>
      number ∈ sys.outstandingFrames -> sys.state.transmissionOngoing = true ->
        number = sys.ledger.ongoingNumber
  | .nodeInformation number =>
      ∀ nodeId, sys.outstandingRequests.lookup number = some nodeId ->
        sys.state.awaitingNif = true -> sys.state.remoteNodeId = nodeId ->
          number = sys.ledger.ongoingNumber
  | .nodeInfoReqFailed number =>
      (sys.outstandingRequests.lookup number).isSome -> sys.state.awaitingNif = true ->
        number = sys.ledger.ongoingNumber
  | .foreignNodeInformation nodeId =>
      ¬(sys.state.awaitingNif = true ∧ sys.state.remoteNodeId = nodeId)
  | .foreignNodeInfoReqFailed => sys.state.awaitingNif = false
  | _ => True

section

variable (invariant : Invariant sys)
include invariant

theorem onNodeInfoReqFailed_conforms (source : Source) :
    (Conforms (sys.onNodeInfoReqFailed source) ↔
        (sys.state.awaitingNif = true -> OwnSource sys.ledger.ongoingNumber source)) ∧
      (Conforms (sys.onNodeInfoReqFailed source) ->
        Invariant (sys.onNodeInfoReqFailed source)) := by
  unfold onNodeInfoReqFailed
  by_cases awaiting : sys.state.awaitingNif = true
  · rw [if_pos awaiting]
    have ongoing := invariant.ongoing_of_awaitingNif awaiting
    have conformsIff := conforms_sendDataCallback_iff invariant ongoing
      ZwaveTx.transmitCompleteFail none source
    exact ⟨conformsIff.trans ⟨fun isOwn _ => isOwn, fun isOwn => isOwn awaiting⟩,
      fun conforms => invariant_sendDataCallback invariant _ _ fun _ => conformsIff.mp conforms⟩
  · rw [if_neg awaiting]
    exact ⟨⟨fun _ isAwaiting => absurd isAwaiting awaiting, fun _ => invariant.conforms⟩,
      fun _ => invariant⟩

theorem onNodeInformation_conforms (nodeId : Nat) (source : Source) :
    (Conforms (sys.onNodeInformation nodeId source) ↔
        (sys.state.awaitingNif = true -> sys.state.remoteNodeId = nodeId ->
          OwnSource sys.ledger.ongoingNumber source)) ∧
      (Conforms (sys.onNodeInformation nodeId source) ->
        Invariant (sys.onNodeInformation nodeId source)) := by
  unfold onNodeInformation
  by_cases awaiting : sys.state.awaitingNif = true ∧ sys.state.remoteNodeId = nodeId
  · rw [if_pos (by simp [awaiting])]
    have ongoing := invariant.ongoing_of_awaitingNif awaiting.1
    have conformsIff := conforms_sendDataCallback_iff invariant ongoing
      ZwaveTx.transmitCompleteOk none source
    exact ⟨conformsIff.trans
        ⟨fun isOwn _ _ => isOwn, fun isOwn => isOwn awaiting.1 awaiting.2⟩,
      fun conforms => invariant_sendDataCallback invariant _ _ fun _ => conformsIff.mp conforms⟩
  · rw [if_neg (by simpa using awaiting)]
    exact ⟨⟨fun _ isAwaiting isNode => absurd ⟨isAwaiting, isNode⟩ awaiting,
      fun _ => invariant.conforms⟩, fun _ => invariant⟩

theorem moduleCallback_conforms (status : Nat)
    (txReport : Option ZwaveTx.TxReport) (source : Source) :
    (Conforms (sys.sendDataCallback status txReport source) ↔
        (sys.state.transmissionOngoing = true -> OwnSource sys.ledger.ongoingNumber source)) ∧
      (Conforms (sys.sendDataCallback status txReport source) ->
        Invariant (sys.sendDataCallback status txReport source)) := by
  by_cases ongoing : sys.state.transmissionOngoing = true
  · have conformsIff := conforms_sendDataCallback_iff invariant ongoing status txReport source
    exact ⟨conformsIff.trans ⟨fun isOwn _ => isOwn, fun isOwn => isOwn ongoing⟩,
      fun conforms => invariant_sendDataCallback invariant _ _ fun _ => conformsIff.mp conforms⟩
  · have never : ∀ {conclusion : Prop}, sys.state.transmissionOngoing = true -> conclusion :=
      fun isOngoing => absurd isOngoing ongoing
    have kept : Invariant (sys.sendDataCallback status txReport source) :=
      invariant_sendDataCallback invariant status txReport never
    exact ⟨⟨fun _ => never, fun _ => kept.conforms⟩, fun _ => kept⟩

theorem invariant_ownEnds : Invariant sys.onZwaveApiStarted ∧ Invariant sys.transportReset ∧
      Invariant sys.emergencyTimeoutStep ∧
      ∀ sessionId, Invariant (sys.abortSendData sessionId).2 := by
  have ends : ∀ (status : Nat) (txReport : Option ZwaveTx.TxReport) (source : Source),
      (∀ number, OwnSource number source) ->
      Invariant (sys.sendDataCallback status txReport source) :=
    fun status txReport source isOwn => invariant_sendDataCallback invariant _ _ fun _ => isOwn _
  have failsRequest : ∀ source : Source, (∀ number, OwnSource number source) ->
      Invariant (sys.onNodeInfoReqFailed source) := by
    intro source isOwn
    unfold onNodeInfoReqFailed
    split
    · exact ends _ _ source isOwn
    · exact invariant
  refine ⟨?_, ?_, ?_, ?_⟩
  · unfold onZwaveApiStarted
    split
    · exact invariant
    · exact ends _ _ _ fun _ => trivial
  · unfold transportReset
    split
    · rename_i ongoing
      have ended := ends ZwaveTx.transmitCompleteFail none .reset fun _ => trivial
      have free : (sys.sendDataCallback ZwaveTx.transmitCompleteFail none
          .reset).state.transmissionOngoing = false := by
        rw [sendDataCallback, if_neg (by simp [ongoing])]
        rfl
      have settled := ended.conforms.settled
      rw [free] at settled
      exact Conforms.invariant_of_free ⟨settled, fun _ => clean_resetState _⟩ rfl
    · rename_i free
      have settled := invariant.conforms.settled
      rw [show sys.state.transmissionOngoing = false by simpa using free] at settled
      exact Conforms.invariant_of_free ⟨settled, fun _ => clean_resetState _⟩ rfl
  · unfold emergencyTimeoutStep
    split
    · exact failsRequest _ fun _ => trivial
    · exact invariant.of_same rfl rfl
  · intro sessionId
    unfold abortSendData
    split
    · exact invariant
    · split
      · exact failsRequest _ fun _ => trivial
      · exact invariant.of_same rfl rfl

/-- A step conforms exactly when it is orderly, and then keeps the invariant. -/
theorem step_conforms (action : Action) : (Conforms (step sys action) ↔ Orderly sys action) ∧
      (Conforms (step sys action) -> Invariant (step sys action)) := by
  obtain ⟨started, isReset, timedOut, aborted⟩ := invariant_ownEnds invariant
  have always : ∀ {after : System}, Invariant after ->
      (Conforms after ↔ True) ∧ (Conforms after -> Invariant after) :=
    fun kept => ⟨⟨fun _ => trivial, fun _ => kept.conforms⟩, fun _ => kept⟩
  cases action with
  | sendData request answers => exact sendData_conforms invariant request answers
  | abortSendData sessionId => exact always (aborted sessionId)
  | moduleCallback number status txReport =>
    simp only [step, Orderly]
    by_cases outstanding : number ∈ sys.outstandingFrames
    · rw [if_pos outstanding]
      have same : Invariant { sys with
        outstandingFrames := sys.outstandingFrames.erase number } :=
        invariant.of_same rfl rfl
      obtain ⟨conformsIff, gives⟩ :=
        moduleCallback_conforms same status txReport (.moduleCallback number)
      exact ⟨conformsIff.trans ⟨fun isOwn _ => isOwn, fun isOwn => isOwn outstanding⟩, gives⟩
    · rw [if_neg outstanding]
      exact ⟨⟨fun _ isOutstanding => absurd isOutstanding outstanding,
        fun _ => invariant.conforms⟩, fun _ => invariant⟩
  | nodeInformation number =>
    simp only [step, Orderly]
    cases found : sys.outstandingRequests.lookup number with
    | none => simpa using always invariant
    | some nodeId =>
      have same : Invariant { sys with
        outstandingRequests := sys.outstandingRequests.erase (number, nodeId) } :=
        invariant.of_same rfl rfl
      obtain ⟨conformsIff, gives⟩ :=
        onNodeInformation_conforms same nodeId (.nodeInformation number)
      refine ⟨conformsIff.trans ?_, gives⟩
      constructor
      · intro isOwn other isOther
        cases isOther
        exact isOwn
      · exact fun isOwn => isOwn nodeId rfl
  | nodeInfoReqFailed number =>
    simp only [step, Orderly]
    cases found : sys.outstandingRequests.lookup number with
    | none => simpa using always invariant
    | some nodeId =>
      have same : Invariant { sys with
        outstandingRequests := sys.outstandingRequests.erase (number, nodeId) } :=
        invariant.of_same rfl rfl
      obtain ⟨conformsIff, gives⟩ := onNodeInfoReqFailed_conforms same (.nodeInfoReqFailed number)
      exact ⟨conformsIff.trans ⟨fun isOwn _ => isOwn, fun isOwn => isOwn rfl⟩, gives⟩
  | foreignNodeInformation nodeId =>
    obtain ⟨conformsIff, gives⟩ :=
      onNodeInformation_conforms invariant nodeId .foreignNodeInformation
    exact ⟨conformsIff.trans (by simp [Orderly, OwnSource]), gives⟩
  | foreignNodeInfoReqFailed =>
    obtain ⟨conformsIff, gives⟩ := onNodeInfoReqFailed_conforms invariant .foreignNodeInfoReqFailed
    exact ⟨conformsIff.trans (by simp [Orderly, OwnSource]), gives⟩
  | emergencyTimeout =>
    simp only [step, Orderly]
    split
    · have disarmed : Invariant { sys with
        state := { sys.state with emergencyTimerSet := false } } :=
        ⟨⟨invariant.conforms.settled, fun free =>
          ⟨(invariant.conforms.clean free).remoteNodeId,
            (invariant.conforms.clean free).fastTrack,
            (invariant.conforms.clean free).awaitingNif⟩⟩, invariant.ongoing⟩
      exact always (invariant_ownEnds disarmed).2.2.1
    · exact always invariant
  | apiStarted => exact always started
  | reset => exact always isReset

end

end

end System

end ZwaveApiTransport

namespace MultiChannelTransport

/-- Where the completion of a numbered send may come from. -/
def OwnSource (number : Nat) : Source -> Prop
  | .txQueue other => other = number
  | .abort => True

/-- A completion invokes the callback of its send and comes from its own frame. -/
structure OwnOutcome (number : Nat) (accepted : Accepted) (completion : Completion) : Prop where
  called : completion.called =
    accepted.onSendDataComplete.map fun callback => (callback, accepted.user)
  source : OwnSource number completion.source

namespace System

/-- Every send that ended had its own outcome. -/
def Conforms (sys : System) : Prop :=
  SlotLedger.Settled OwnOutcome sys.state.transmissionOngoing sys.ledger

/-- The state belongs to the send that is ongoing. -/
structure Invariant (sys : System) : Prop where
  conforms : Conforms sys
  ongoing : sys.state.transmissionOngoing = true ->
    sys.ledger.accepted[sys.ledger.ongoingNumber]? =
      some ⟨sys.state.onSendDataComplete, sys.state.user⟩

/-- The TX queue completes the frame of the ongoing send, or none is ongoing. -/
def Orderly (sys : System) : Action -> Prop
  | .sendComplete number _ _ =>
      (sys.outstanding.lookup number).isSome -> sys.state.transmissionOngoing = true ->
        number = sys.ledger.ongoingNumber
  | _ => True

theorem invariant_initial : Invariant initial :=
  ⟨SlotLedger.settled_empty, fun ongoing => absurd ongoing Bool.false_ne_true⟩

section

variable {sys : System}

theorem invariant_sendData (invariant : Invariant sys) (request : SendRequest)
    (transmitStatus : ZwaveApiTransport.SlStatus) :
    Invariant (sys.sendData request transmitStatus).2 := by
  unfold sendData
  split
  · exact invariant
  · split
    · exact invariant
    · split
      · exact invariant
      · rename_i free
        split
        · exact invariant
        · have settled := invariant.conforms
          rw [Conforms, show sys.state.transmissionOngoing = false by simpa using free]
            at settled
          exact ⟨settled.accept _, fun _ => settled.accepted_ongoing _⟩

theorem onMultiChannelSendComplete_conforms (invariant : Invariant sys) (status : Nat)
    (txInfo : Option ZwaveTx.TxReport) (source : Source) :
    (Conforms (sys.onMultiChannelSendComplete status txInfo source) ↔
        (sys.state.transmissionOngoing = true -> OwnSource sys.ledger.ongoingNumber source)) ∧
      (Conforms (sys.onMultiChannelSendComplete status txInfo source) ->
        Invariant (sys.onMultiChannelSendComplete status txInfo source)) := by
  unfold onMultiChannelSendComplete
  by_cases ongoing : sys.state.transmissionOngoing = true
  · rw [if_neg (by simp [ongoing])]
    have settled := invariant.conforms
    rw [Conforms, ongoing] at settled
    have completes := settled.complete_iff (invariant.ongoing ongoing)
      { status := status
        txInfo := txInfo
        called := sys.state.onSendDataComplete.map fun callback => (callback, sys.state.user)
        source := source }
    refine ⟨⟨?_, ?_⟩, fun conforms => ⟨conforms, fun isOngoing => ?_⟩⟩
    · intro conforms _
      exact (completes.mp conforms).source
    · intro isOwn
      exact completes.mpr ⟨rfl, isOwn ongoing⟩
    · exact absurd isOngoing Bool.false_ne_true
  · rw [if_pos (by simpa using ongoing)]
    exact ⟨⟨fun _ isOngoing => absurd isOngoing ongoing, fun _ => invariant.conforms⟩,
      fun _ => invariant⟩

/-- A step conforms exactly if it is orderly, and then keeps the invariant. -/
theorem step_conforms (invariant : Invariant sys) (action : Action) :
    (Conforms (step sys action) ↔ Orderly sys action) ∧
      (Conforms (step sys action) -> Invariant (step sys action)) := by
  have always : ∀ {after : System}, Invariant after ->
      (Conforms after ↔ True) ∧ (Conforms after -> Invariant after) :=
    fun kept => ⟨⟨fun _ => trivial, fun _ => kept.conforms⟩, fun _ => kept⟩
  cases action with
  | sendData request transmitStatus =>
    exact always (invariant_sendData invariant request transmitStatus)
  | abortSendData sessionId =>
    simp only [step, Orderly, abortSendData]
    split
    · obtain ⟨conformsIff, gives⟩ := onMultiChannelSendComplete_conforms invariant
        ZwaveTx.transmitCompleteFail none .abort
      exact ⟨conformsIff.trans ⟨fun _ => trivial, fun _ _ => trivial⟩, gives⟩
    · exact always invariant
  | sendComplete number status txInfo =>
    simp only [step, Orderly]
    cases found : sys.outstanding.lookup number with
    | none => simpa using always invariant
    | some frame =>
      have same : Invariant { sys with
          outstanding := sys.outstanding.erase (number, frame) } :=
        ⟨invariant.conforms, invariant.ongoing⟩
      obtain ⟨conformsIff, gives⟩ :=
        onMultiChannelSendComplete_conforms same status txInfo (.txQueue number)
      exact ⟨conformsIff.trans ⟨fun isOwn _ => isOwn, fun isOwn => isOwn rfl⟩, gives⟩

end

end System

end MultiChannelTransport

namespace ApiTransports

/-- Both transports. -/
structure System where
  zwaveApi : ZwaveApiTransport.System
  multiChannel : MultiChannelTransport.System

/-- An action of one of the two transports. -/
inductive Action where
  | zwaveApi (action : ZwaveApiTransport.System.Action)
  | multiChannel (action : MultiChannelTransport.System.Action)

namespace System

/-- One action of one of the two transports. -/
def step (sys : System) : Action -> System
  | .zwaveApi action => { sys with zwaveApi := sys.zwaveApi.step action }
  | .multiChannel action => { sys with multiChannel := sys.multiChannel.step action }

/-- Both transports after their initialization. -/
def initial : System := ⟨.initial, .initial⟩

/-- Every send that ended had its own outcome, and nothing is left of a refused frame. -/
structure Conforms (sys : System) : Prop where
  zwaveApi : sys.zwaveApi.Conforms
  multiChannel : sys.multiChannel.Conforms

/-- The state of each transport belongs to its ongoing send. -/
structure Invariant (sys : System) : Prop where
  zwaveApi : sys.zwaveApi.Invariant
  multiChannel : sys.multiChannel.Invariant

/-- The action is orderly for its transport. -/
def Orderly (sys : System) : Action -> Prop
  | .zwaveApi action => sys.zwaveApi.Orderly action
  | .multiChannel action => sys.multiChannel.Orderly action

/-- The two transports conform after a step exactly if it is orderly for both. -/
theorem Invariant.step_conforms {sys : System} (invariant : Invariant sys) (action : Action) :
    (Conforms (step sys action) ↔ Orderly sys action) ∧
      (Conforms (step sys action) -> Invariant (step sys action)) := by
  obtain ⟨zwaveApi, multiChannel⟩ := invariant
  cases action with
  | zwaveApi action =>
    obtain ⟨conformsIff, gives⟩ := ZwaveApiTransport.System.step_conforms zwaveApi action
    refine ⟨?_, fun conforms => ⟨gives conforms.zwaveApi, multiChannel⟩⟩
    exact ⟨fun conforms => conformsIff.mp conforms.zwaveApi,
      fun orderly => ⟨conformsIff.mpr orderly, multiChannel.conforms⟩⟩
  | multiChannel action =>
    obtain ⟨conformsIff, gives⟩ := MultiChannelTransport.System.step_conforms multiChannel action
    refine ⟨?_, fun conforms => ⟨zwaveApi, gives conforms.multiChannel⟩⟩
    exact ⟨fun conforms => conformsIff.mp conforms.multiChannel,
      fun orderly => ⟨zwaveApi.conforms, conformsIff.mpr orderly⟩⟩

/-- Every accepted send has its own outcome, and refused frames leave nothing behind,
throughout a run exactly when every step of it is orderly. -/
theorem outcomes_conform_iff_orderly (actions : List Action) :
    (∀ done, done <+: actions -> Conforms (Foundation.run step initial done)) ↔
      StepsMeet step Orderly initial actions :=
  throughout_iff_of_invariant Invariant Conforms
    (fun _ invariant => ⟨invariant.zwaveApi.conforms, invariant.multiChannel.conforms⟩)
    (fun _ action invariant orderly =>
      (invariant.step_conforms action).2 ((invariant.step_conforms action).1.mpr orderly))
    (fun _ action invariant => (invariant.step_conforms action).1.mp)
    ⟨ZwaveApiTransport.System.invariant_initial, MultiChannelTransport.System.invariant_initial⟩
    actions

/-- A singlecast frame to a node, from the given end point of the controller. -/
def sampleConnection (nodeId localEndpoint : Nat) : ZwaveTx.ConnectionInfo where
  local' := { nodeId := 1, endpointId := localEndpoint }
  remote := { nodeId := nodeId }
  encapsulation := .none

/-- A send through the Z-Wave API transport. -/
def sampleSend (nodeId session : Nat) (transmitStatus : ZwaveApiTransport.SlStatus) : Action :=
  .zwaveApi (.sendData
    { info := sampleConnection nodeId 0
      data := [0x20, 0x01, 0xFF]
      txOptions := ⟨false, false, false, 0, 0⟩
      onSendDataComplete := some 7
      user := session
      parentSessionId := session }
    ⟨false, .fail, transmitStatus, none⟩)

/-- A send through the Multi Channel transport. -/
def sampleMultiChannelSend (session : Nat) : Action :=
  .multiChannel (.sendData
    { connection := sampleConnection 5 1
      data := [0x20, 0x01, 0xFF]
      onMultiChannelComplete := some 8
      user := session
      parentSessionId := session }
    .ok)

/-- The Z-Wave API is restarted during a send, and the module completes the frame of that send
during the next one. -/
def completedAfterRestart : List Action :=
  [sampleSend 5 1 .ok, .zwaveApi .apiStarted, sampleSend 6 2 .ok,
    .zwaveApi (.moduleCallback 0 ZwaveTx.transmitCompleteOk none)]

/-- A send is aborted, and the TX queue completes its frame during the next send. -/
def completedAfterAbort : List Action :=
  [sampleMultiChannelSend 1, .multiChannel (.abortSendData 1), sampleMultiChannelSend 2,
    .multiChannel (.sendComplete 0 ZwaveTx.transmitCompleteOk none)]

theorem not_conforms_laterCompletion :
    ¬Conforms (Foundation.run step initial completedAfterRestart) ∧
      ¬Conforms (Foundation.run step initial [sampleSend 5 1 .fail]) ∧
      ¬Conforms (Foundation.run step initial completedAfterAbort) := by
  refine ⟨fun conforms => ?_, fun conforms => ?_, fun conforms => ?_⟩
  · have own := conforms.zwaveApi.settled.own 1 _ _ rfl rfl
    exact absurd (show 0 = 1 from own.source) (by decide)
  · have clean := conforms.zwaveApi.clean rfl
    exact absurd (show 5 = 0 from clean.remoteNodeId) (by decide)
  · have own := conforms.multiChannel.own 1 _ _ rfl rfl
    exact absurd (show 0 = 1 from own.source) (by decide)

end System

end ApiTransports
