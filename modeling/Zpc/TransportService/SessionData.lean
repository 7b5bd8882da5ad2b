import Zpc.TransportService.Effects
import Zpc.TransportService.InternalCalls

/-!
# What the service knows of its sessions

The length and the destination of the datagram being sent are written at the beginning of a
session only, and the remembered destination is cleared at most.  The functions of the
sending side leave the session that is being received alone; a received frame opens it,
measures it or closes it.
-/

namespace TransportService

namespace Service

/-- The session being received is as it was or closed. -/
structure Closes (before after : Service) : Prop extends Steers before after where
  session :
    (after.rcb.cmn.sessionId = before.rcb.cmn.sessionId ∧
      after.rcb.currentSnode = before.rcb.currentSnode) ∨
    (after.rcb.cmn.sessionId = noSessionId ∧ after.rcb.currentSnode = 0)
  curRecvdDataSize : after.rcb.curRecvdDataSize = before.rcb.curRecvdDataSize
  flagInitializeOnce : after.flagInitializeOnce = before.flagInitializeOnce

variable (service : Service) (source : Nat) (frame : List UInt8) (status dest now : Nat)
  (accepted retried : Bool) {first second third before : Service} {condition : Prop}
  {fragmentLen : Nat}

variable {after : Service}

theorem Retains.closes (retains : before.Retains after) : before.Closes after :=
  ⟨retains.toSteers, .inl ⟨retains.sessionId, retains.currentSnode⟩, retains.curRecvdDataSize,
    retains.flagInitializeOnce⟩

theorem Closes.trans (earlier : first.Closes second) (later : second.Closes third) :
    first.Closes third where
  toSteers := earlier.toSteers.trans later.toSteers
  session := by
    rcases later.session with ⟨sameId, sameNode⟩ | closed
    · rw [sameId, sameNode]
      exact earlier.session
    · exact .inr closed
  curRecvdDataSize := later.curRecvdDataSize.trans earlier.curRecvdDataSize
  flagInitializeOnce := later.flagInitializeOnce.trans earlier.flagInitializeOnce

theorem sendFirstFrag_retains : service.Retains (service.sendFirstFrag now accepted) := by
  obtain ⟨begun, _, _, _, sessionData, keeps⟩ := service.sendFirstFrag_keeps now accepted
  exact (Retains.of_eq sessionData).trans keeps.toRetains

theorem markFragReceived_retains (offset size : Nat) (accepted : Bool) :
    service.Retains (service.markFragReceived offset size accepted).2 := by
  unfold markFragReceived
  split
  · exact ((postEvent_keeps _ _).trans (requestFragWait_keeps _ _)).toRetains
  · exact .of_eq rfl

theorem discardAllReceivedFragments_closes : service.Closes service.discardAllReceivedFragments :=
  ⟨⟨rfl, rfl, .inl rfl⟩, .inr ⟨rfl, rfl⟩, rfl, rfl⟩

theorem resetTransportService_closes : service.Closes service.resetTransportService :=
  ⟨⟨rfl, rfl, .inl rfl⟩, .inr ⟨rfl, rfl⟩, rfl, rfl⟩

theorem sendFragCompleteCmd_closes : service.Closes (service.sendFragCompleteCmd accepted) := by
  unfold sendFragCompleteCmd
  extract_lets sessionId armed offered delivered _ _ ended
  split
  · exact (Retains.refl service).closes
  · have arms : service.Keeps armed := armResetTimer_keeps service
    have handed : armed.Keeps offered := lowerLayerSendData_keeps _ _ _
    have delivers : offered.Retains delivered := .of_eq rfl
    have ends : delivered.Closes ended := ⟨⟨rfl, rfl, .inl rfl⟩, .inr ⟨rfl, rfl⟩, rfl, rfl⟩
    have posts : ended.Keeps (ended.postEvent .success) := postEvent_keeps _ _
    exact (((arms.trans handed).toRetains.trans delivers).closes.trans ends).trans posts.closes

theorem giveUpRequest_closes : service.Closes service.giveUpRequest := by
  unfold giveUpRequest
  extract_lets _ stopped
  have stops : service.Retains stopped := .of_eq rfl
  exact (stops.closes.trans (postEvent_keeps _ _).closes).trans
    (discardAllReceivedFragments_closes _)

theorem sendFragReqCmd_closes : service.Closes (service.sendFragReqCmd accepted retried) := by
  unfold sendFragReqCmd
  extract_lets offset sessionId asked request _ built offered again asking posted
  have asks : service.Retains asked := .of_eq rfl
  refine asks.closes.trans ?_
  split
  · exact (postEvent_keeps _ _).closes
  · split
    · exact (Retains.refl asked).closes
    · have builds : asked.Retains built := .of_eq rfl
      have handed : built.Keeps offered := lowerLayerSendData_keeps _ _ _
      have handedAgain : offered.Keeps again := lowerLayerSendData_keeps _ _ _
      have asksFor : offered.Closes asking := by
        dsimp only [asking]
        split
        · exact (Retains.refl offered).closes
        · split
          · exact handedAgain.closes
          · exact handedAgain.closes.trans (giveUpRequest_closes again)
      have posts : asking.Keeps posted := postEvent_keeps _ _
      have arms : posted.Retains
          { posted with rcb := { posted.rcb with rxTimer := some fragmentRxTimeout } } :=
        .of_eq rfl
      exact ((builds.closes.trans handed.closes).trans asksFor).trans
        (posts.closes.trans arms.closes)

theorem findMissing_closes : service.Closes (service.findMissing accepted retried) := by
  unfold findMissing
  split
  · split
    · exact discardAllReceivedFragments_closes service
    · exact (postEvent_keeps _ _).closes.trans (sendFragReqCmd_closes _ _ _)
  · split
    · exact (Retains.refl service).closes
    · exact (postEvent_keeps _ _).closes.trans (sendFragCompleteCmd_closes _ _)

theorem rxTimerExpired_closes : service.Closes (service.rxTimerExpired accepted retried) := by
  unfold rxTimerExpired
  extract_lets _ stopped posted
  have stops : service.Retains stopped := .of_eq rfl
  have posts : stopped.Keeps posted := postEvent_keeps _ _
  refine (stops.closes.trans posts.closes).trans ?_
  split
  · exact discardAllReceivedFragments_closes posted
  · exact posted.findMissing_closes accepted retried

/-- A service with another size of the last fragment. -/
def measured (service : Service) (size : Nat) : Service :=
  { service with rcb := { service.rcb with curRecvdDataSize := size } }

/-- A service whose received session begins with the node of the last frame. -/
def opened (service : Service) (sessionId size : Nat) : Service :=
  { service with
    rcb :=
      { service.rcb with
        cmn := { service.rcb.cmn with sessionId := sessionId }
        curRecvdDataSize := size
        currentSnode := service.rcb.cmn.source % 2 ^ 8 } }

/-- What a received command does to the session: nothing but closing it, or before that a
fragment that is not empty measures it or opens it. -/
inductive Receives (before after : Service) : Prop
  | closes (closes : before.Closes after)
  | measures
      {size : Nat}
      (positive : 0 < size)
      (closes : (before.measured size).Closes after)
  | opens
      {sessionId size : Nat}
      (positive : 0 < size)
      (expected : ¬before.isOtherSession sessionId)
      (isSessionId : sessionId ≤ 0xf)
      (closes : (before.opened sessionId size).Closes after)

theorem Retains.measured (retains : before.Retains after) (size : Nat) :
    (before.measured size).Retains (after.measured size) where
  datagramLen := retains.datagramLen
  dest := retains.dest
  currentDnode := retains.currentDnode
  source := retains.source
  sessionId := retains.sessionId
  currentSnode := retains.currentSnode
  curRecvdDataSize := rfl
  flagInitializeOnce := retains.flagInitializeOnce

theorem Retains.opened (retains : before.Retains after) (sessionId size : Nat) :
    (before.opened sessionId size).Retains (after.opened sessionId size) where
  datagramLen := retains.datagramLen
  dest := retains.dest
  currentDnode := retains.currentDnode
  source := retains.source
  sessionId := rfl
  currentSnode := congrArg (· % 2 ^ 8) retains.source
  curRecvdDataSize := rfl
  flagInitializeOnce := retains.flagInitializeOnce

theorem sessionIdOf_le (byte : Nat) : sessionIdOf byte ≤ 0xf := by
  unfold sessionIdOf
  have masked : byte &&& 0xf0 ≤ 0xf0 := Nat.and_le_right
  omega

theorem Receives.of_check [Decidable condition] (holds : condition -> before.Receives first)
    (fails : ¬condition -> before.Receives second) :
    before.Receives (if condition then first else second) := by
  split
  next isTrue => exact holds isTrue
  next isFalse => exact fails isFalse

theorem Closes.of_check [Decidable condition] (holds : condition -> before.Closes first)
    (fails : ¬condition -> before.Closes second) :
    before.Closes (if condition then first else second) := by
  split
  next isTrue => exact holds isTrue
  next isFalse => exact fails isFalse

theorem receiveFirstFragment_receives {frame : List UInt8} (isLength : fragmentLen ≤ frame.length)
    (accepted : Bool) :
    service.Receives (service.receiveFirstFragment frame fragmentLen accepted) := by
  unfold receiveFirstFragment
  extract_lets started received size _ timed payload begun marked result
  have starts : service.Keeps started := abortIfTieBroken_keeps service
  split
  · exact .closes (starts.trans (postEvent_keeps _ _)).closes
  next isLong =>
    split
    · exact .closes (starts.trans (postEvent_keeps _ _)).closes
    split
    · exact .closes (starts.trans (postEvent_keeps _ _)).closes
    next expected =>
      split
      · exact .closes (starts.trans (postEvent_keeps _ _)).closes
      · have isPayload : 0 < payload.length := by
          simp only [payload, List.length_take, List.length_drop]
          omega
        have begins : (started.opened received payload.length).Retains begun :=
          .of_eq rfl
        have marks : begun.Retains result := begun.markFragReceived_retains _ _ _
        have opens := (starts.opened received payload.length).trans (begins.trans marks)
        refine .opens isPayload ?_ (sessionIdOf_le _) (opens.closes.trans ?_)
        · unfold isOtherSession at expected ⊢
          rwa [starts.sessionId] at expected
        · split
          · exact (Retains.refl result).closes
          split
          · exact (postEvent_keeps _ _).closes.trans (sendFragCompleteCmd_closes _ _)
          · exact ⟨⟨rfl, rfl, .inl rfl⟩, .inl ⟨rfl, rfl⟩, rfl, rfl⟩

theorem receiveSubsequentFragment_receives (fragmentLen : Nat) (accepted retried : Bool) :
    service.Receives (service.receiveSubsequentFragment frame fragmentLen accepted retried) := by
  unfold receiveSubsequentFragment
  extract_lets started received offset length size _ sized _ timed marked result _ resized copied
  have starts : service.Keeps started := abortIfTieBroken_keeps service
  refine .of_check (fun _ => .closes (starts.trans (postEvent_keeps _ _)).closes)
    fun isLong => ?_
  refine .of_check (fun _ => .closes (starts.trans (postEvent_keeps _ _)).closes) fun _ => ?_
  refine .of_check (fun _ => .closes (starts.trans (dropWhileReceiving_keeps _)).closes)
    fun _ => ?_
  refine .of_check (fun _ => .closes (starts.trans (postEvent_keeps _ _)).closes) fun _ => ?_
  have isPayload : 0 < length := by
    omega
  have sizes : (service.measured length).Retains sized := starts.measured length
  refine .measures isPayload (sizes.closes.trans ?_)
  refine .of_check (fun _ => (dropWhileReceiving_keeps _).closes) fun _ => ?_
  refine .of_check (fun _ => (postEvent_keeps _ _).closes) fun _ => ?_
  have times : sized.Retains timed := .of_eq rfl
  have marks : timed.Retains result := timed.markFragReceived_retains _ _ _
  refine (times.trans marks).closes.trans ?_
  refine .of_check (fun _ => (Retains.refl result).closes) fun _ => ?_
  have copies : result.Retains copied := .of_eq rfl
  refine .of_check (fun _ => copies.closes.trans (.of_check ?_ ?_)) ?_
  · exact fun _ => (postEvent_keeps _ _).closes.trans (findMissing_closes _ _ _)
  all_goals exact fun _ => ⟨⟨rfl, rfl, .inl rfl⟩, .inl ⟨rfl, rfl⟩, rfl, rfl⟩

theorem receive_receives {frame : List UInt8} (isLength : fragmentLen ≤ frame.length) (now : Nat)
    (accepted retried : Bool) :
    service.Receives (service.receive frame fragmentLen now accepted retried) := by
  unfold receive
  extract_lets command
  split
  · exact .closes (Retains.refl service).closes
  split
  · exact service.receiveFirstFragment_receives isLength accepted
  split
  · exact service.receiveSubsequentFragment_receives frame fragmentLen accepted retried
  split
  · exact .closes (service.receiveSegmentRequest_keeps frame accepted).closes
  split
  · exact .closes (service.receiveSegmentComplete_keeps frame).closes
  split
  · exact .closes (service.receiveSegmentWait_keeps frame now accepted).closes
  · exact .closes (Retains.refl service).closes

theorem breakTie_currentDnode :
    (service.breakTie source frame).scb.currentDnode = service.scb.currentDnode := by
  unfold breakTie
  extract_lets posted reported
  split
  · have reports : reported.scb.currentDnode = posted.scb.currentDnode := by
      dsimp only [reported]
      split
      · unfold reportCompletion
        split <;> rfl
      · rfl
    exact reports.trans (congrArg (·.currentDnode) (scb_postEvent service .tieBreak))
  · rfl

theorem transportServiceCommandHandler_receives (rxType : ReceiveType) {frame : List UInt8}
    {frameLength : Nat} (isLength : frameLength ≤ frame.length) (now : Nat)
    (accepted retried : Bool) :
    let result :=
      (service.transportServiceCommandHandler source dest rxType frame frameLength now accepted
        retried).2
    service.Retains result ∨
      ∃ noted : Service,
        service.Retains noted ∧
        noted.scb.currentDnode = service.scb.currentDnode ∧
        ¬(noted.isThirdNode source ∧ rxType = .singlecast) ∧
        ¬(noted.isThirdNode source ∧ rxType = .broadcast) ∧
        (noted.receiving source dest rxType).Receives result := by
  unfold transportServiceCommandHandler
  extract_lets tied _ noted result
  have ties : service.Retains tied :=
    ((armResetTimer_keeps service).trans (breakTie_keeps _ source frame)).toRetains
  have notes : service.Retains noted := ties.trans (.of_eq rfl)
  have posts (event : Event) : noted.Keeps (noted.postEvent event) := postEvent_keeps noted event
  have waits (event : Event) : service.Retains ((noted.postEvent event).requestFragWait accepted) :=
    notes.trans ((posts event).trans (requestFragWait_keeps _ accepted)).toRetains
  by_cases isSelf : source = dest
  · exact .inl (by simpa only [result, if_pos isSelf] using ties)
  by_cases isLong : payloadSizeMax < frameLength
  · exact .inl (by simpa only [result, if_neg isSelf, if_pos isLong] using ties)
  by_cases isSinglecast : noted.isThirdNode source ∧ rxType = .singlecast
  · left
    simp only [result, if_neg isSelf, if_neg isLong, if_pos isSinglecast]
    split
    · exact notes
    · exact waits _
  by_cases isBroadcast : noted.isThirdNode source ∧ rxType = .broadcast
  · left
    simp only [result, if_neg isSelf, if_neg isLong, if_neg isSinglecast, if_pos isBroadcast]
    exact notes.trans (posts _).toRetains
  by_cases isUnopened : noted.rcb.cmn.sessionId = noSessionId ∧
      byteAt frame 1 &&& 0xf8 = commandSubsequentFragment
  · left
    simp only [result, if_neg isSelf, if_neg isLong, if_neg isSinglecast, if_neg isBroadcast,
      if_pos isUnopened]
    split
    · exact notes.trans (posts _).toRetains
    · exact waits _
  · right
    refine ⟨noted, notes, breakTie_currentDnode _ source frame, isSinglecast, isBroadcast, ?_⟩
    simp only [result, if_neg isSelf, if_neg isLong, if_neg isSinglecast, if_neg isBroadcast,
      if_neg isUnopened]
    exact (noted.receiving source dest rxType).receive_receives isLength now accepted retried

theorem takeRequest_retains (payload : List UInt8) (maxFrameLen : Nat)
    (onSendComplete : Option Nat) :
    service.Retains (service.takeRequest payload maxFrameLen onSendComplete) := by
  unfold takeRequest armResetTimer
  split <;> exact ⟨⟨rfl, rfl, .inl rfl⟩, rfl, rfl, rfl, rfl, rfl⟩

theorem transportServiceSendData_retains (payload : List UInt8) (maxFrameLen : Nat)
    (onSendComplete : Option Nat) (now : Nat) (accepted : Bool) :
    let answer :=
      service.transportServiceSendData source dest payload maxFrameLen onSendComplete now
        accepted
    (answer.1 ≠ .sendSuccess ∧ service.Retains answer.2) ∨
      (payload.length ≤ payloadSizeMax ∧
        (service.beginSession source dest payload.length).Retains answer.2) := by
  unfold transportServiceSendData
  extract_lets taken begun answer
  have takes : service.Retains taken := takeRequest_retains _ _ _ _
  have begins : (service.beginSession source dest payload.length).Retains begun :=
    ⟨⟨rfl, rfl, .inl rfl⟩, takes.source, takes.sessionId, takes.currentSnode,
      takes.curRecvdDataSize, takes.flagInitializeOnce⟩
  by_cases tooLong : payloadSizeMax < payload.length
  · exact .inl (by simpa only [answer, if_pos tooLong] using ⟨by decide, takes⟩)
  by_cases sending : taken.currentState.isSending = true
  · exact .inl (by simpa only [answer, if_neg tooLong, if_pos sending] using ⟨by decide, takes⟩)
  by_cases receiving : taken.currentState.isReceiving = true
  · exact .inl (by
      simpa only [answer, if_neg tooLong, if_neg sending, if_pos receiving] using
        ⟨by decide, takes⟩)
  · refine .inr ⟨by omega, ?_⟩
    simp only [answer, if_neg tooLong, if_neg sending, if_neg receiving]
    split
    · exact (begins.trans (postEvent_keeps _ _).toRetains).trans (sendFirstFrag_retains _ _ _)
    · exact (begins.trans (postEvent_keeps _ _).toRetains).trans (sendFirstFrag_retains _ _ _)
    · exact begins

@[simp] theorem receiving_flagInitializeOnce (rxType : ReceiveType) :
    (service.receiving source dest rxType).flagInitializeOnce = false := by
  unfold receiving initializeOnce
  split
  · rfl
  next isLater => exact Bool.eq_false_iff.mpr isLater

/-- A property of the sessions that is kept when one of them begins, is measured or is
closed. -/
structure Stable (property : Service -> Prop) : Prop where
  closes {before after : Service} : property before -> before.Closes after -> property after
  initializes {service : Service} : property service -> property service.initializeOnce
  measures {service : Service} {size : Nat} :
    property service -> service.flagInitializeOnce = false -> 0 < size ->
      property (service.measured size)
  opens {service : Service} {sessionId size : Nat} :
    property service -> service.flagInitializeOnce = false -> 0 < size ->
      property (service.opened sessionId size)
  begins {service : Service} {source dest length : Nat} :
    property service -> length ≤ payloadSizeMax ->
      property (service.beginSession source dest length)

namespace Stable

variable {property : Service -> Prop} (stable : Stable property)

include stable

variable {before service : Service}

variable {after : Service}

theorem retains (holds : property before) (retains : before.Retains after) : property after :=
  stable.closes holds retains.closes

theorem receives (holds : property before) (isLater : before.flagInitializeOnce = false)
    (receives : before.Receives after) : property after := by
  cases receives with
  | closes closes => exact stable.closes holds closes
  | measures positive closes => exact stable.closes (stable.measures holds isLater positive) closes
  | opens positive _ _ closes => exact stable.closes (stable.opens holds isLater positive) closes

theorem receiving (holds : property service) (source dest : Nat) (rxType : ReceiveType) :
    property (service.receiving source dest rxType) := by
  have noticed := stable.retains holds service.noticeFrame_keeps.toRetains
  exact stable.closes (stable.initializes noticed)
    ⟨⟨rfl, rfl, .inl rfl⟩, .inl ⟨rfl, rfl⟩, rfl, rfl⟩

theorem commandHandler (holds : property service) (source dest : Nat) (rxType : ReceiveType)
    {frame : List UInt8} {frameLength : Nat} (isLength : frameLength ≤ frame.length) (now : Nat)
    (accepted retried : Bool) :
    property
      (service.transportServiceCommandHandler source dest rxType frame frameLength now accepted
        retried).2 := by
  rcases service.transportServiceCommandHandler_receives source dest rxType isLength now
    accepted retried with retains | ⟨noted, notes, _, _, _, receives⟩
  · exact stable.retains holds retains
  · exact stable.receives (stable.receiving (stable.retains holds notes) source dest rxType)
      (receiving_flagInitializeOnce noted source dest rxType) receives

theorem sendData (holds : property service) (source dest : Nat) (payload : List UInt8)
    (maxFrameLen : Nat) (onSendComplete : Option Nat) (now : Nat) (accepted : Bool) :
    property
      (service.transportServiceSendData source dest payload maxFrameLen onSendComplete now
        accepted).2 := by
  rcases service.transportServiceSendData_retains source dest payload maxFrameLen
    onSendComplete now accepted with ⟨_, retains⟩ | ⟨fits, retains⟩
  · exact stable.retains holds retains
  · exact stable.retains (stable.begins holds fits) retains

end Stable

end Service

namespace Wrapper

open Service

theorem onZwaveTxSendDataComplete_retains (wrapper : Wrapper) (status now : Nat) (accepted : Bool) :
    wrapper.service.Retains (wrapper.onZwaveTxSendDataComplete status now accepted).service := by
  unfold onZwaveTxSendDataComplete
  dsimp only
  split
  · exact .refl wrapper.service
  · exact (transportServiceSenddataCb_keeps _ now accepted).toRetains
  · exact (tempCallbackLastFrag_keeps _ _ accepted).toRetains
  · exact (tempCallbackReplyFragReq_keeps _ _).toRetains

theorem timerExpired_closes (wrapper : Wrapper) (timer : Timer) (now : Nat)
    (accepted retried : Bool) :
    wrapper.service.Closes (wrapper.timerExpired timer now accepted retried).service := by
  have untimed (scb : SendingControlBlock) (rcb : ReceivingControlBlock)
      (steers : wrapper.service.Steers { wrapper.service with scb := scb, rcb := rcb })
      (sameBlock : rcb = { wrapper.service.rcb with fcTimer := rcb.fcTimer }) :
      wrapper.service.Retains { wrapper.service with scb := scb, rcb := rcb } :=
    ⟨steers, by rw [sameBlock], by rw [sameBlock], by rw [sameBlock], by rw [sameBlock], rfl⟩
  cases timer with
  | reset => exact resetTransportService_closes wrapper.service
  | waitRestart =>
    have stops := untimed { wrapper.service.scb with waitRestartTimer := none }
      wrapper.service.rcb ⟨rfl, rfl, .inl rfl⟩ rfl
    exact (stops.trans (sendFirstFrag_retains _ now accepted)).closes
  | btwn2Frags =>
    have stops := untimed { wrapper.service.scb with timerBtwn2Frags := none }
      wrapper.service.rcb ⟨rfl, rfl, .inl rfl⟩ rfl
    exact (stops.trans (sendSubseqFrag_keeps _ accepted).toRetains).closes
  | fc =>
    have stops := untimed wrapper.service.scb { wrapper.service.rcb with fcTimer := none }
      ⟨rfl, rfl, .inl rfl⟩ rfl
    exact (stops.trans (fcTimerExpired_keeps _ accepted).toRetains).closes
  | rx => exact rxTimerExpired_closes wrapper.service accepted retried

/-- A stable property of the service is kept by every step around it. -/
theorem step_stable {property : Service -> Prop} (stable : Stable property) {wrapper : Wrapper}
    (holds : property wrapper.service) (action : Action) :
    property (wrapper.step action).service := by
  cases action with
  | sendData env request now accepted =>
    unfold step zwaveTransportServiceSendData
    dsimp only
    split
    · exact holds
    split
    · exact holds
    · have answered := stable.sendData holds request.localNodeId request.remoteNodeId
        request.data env.maximumPayload (some wrapper.requests) now accepted
      split <;> exact answered
  | lowerLayerCompletion status now accepted =>
    unfold step
    dsimp only
    split
    · exact stable.retains holds
        (onZwaveTxSendDataComplete_retains
          { wrapper with calledBack := wrapper.calledBack + 1 } status now accepted)
    · exact holds
  | frameReceived source dest rxType frame now accepted retried =>
    unfold step zwaveTransportServiceOnFrameReceived
    dsimp only
    split
    · exact holds
    split
    · exact holds
    · exact stable.commandHandler holds source dest rxType (Nat.mod_le _ _) now accepted
        retried
  | timerExpiration timer now accepted retried =>
    unfold step
    dsimp only
    split
    · exact stable.closes holds (wrapper.timerExpired_closes timer now accepted retried)
    · exact holds

end Wrapper

namespace Service

/-- The datagram being sent fits into its buffer, and once the receiving control block is
initialized an open session has received a fragment that is not empty. -/
structure Sound (service : Service) : Prop where
  fits : service.scb.datagramLen ≤ payloadSizeMax
  unmeasured : service.flagInitializeOnce = true -> service.rcb.curRecvdDataSize = 0
  measured :
    service.flagInitializeOnce = false -> service.rcb.cmn.sessionId ≠ noSessionId ->
      service.rcb.curRecvdDataSize ≠ 0

variable {before : Service}

variable {after : Service}

theorem Sound.closes (sound : before.Sound) (closes : before.Closes after) : after.Sound where
  fits := closes.datagramLen ▸ sound.fits
  unmeasured isFirst := by
    rw [closes.curRecvdDataSize]
    exact sound.unmeasured (closes.flagInitializeOnce ▸ isFirst)
  measured isLater isOpen := by
    rw [closes.curRecvdDataSize]
    rcases closes.session with ⟨sameId, _⟩ | ⟨isClosed, _⟩
    · exact sound.measured (closes.flagInitializeOnce ▸ isLater) (sameId ▸ isOpen)
    · exact absurd isClosed isOpen

theorem stable_sound : Stable Sound where
  closes := Sound.closes
  initializes {service} sound := by
    unfold initializeOnce
    split
    · exact ⟨sound.fits, nofun, fun _ isOpen => absurd rfl isOpen⟩
    · exact sound
  measures sound isLater positive :=
    ⟨sound.fits, fun isFirst => absurd (isLater.symm.trans isFirst) (by decide),
      fun _ _ => Nat.ne_of_gt positive⟩
  opens sound isLater positive :=
    ⟨sound.fits, fun isFirst => absurd (isLater.symm.trans isFirst) (by decide),
      fun _ _ => Nat.ne_of_gt positive⟩
  begins sound fits := ⟨fits, sound.unmeasured, sound.measured⟩

theorem Sound.retains (sound : before.Sound) (retains : before.Retains after) : after.Sound :=
  sound.closes retains.closes

end Service

namespace Wrapper

/-- The sessions of the service are sound. -/
def Sound (wrapper : Wrapper) : Prop := wrapper.service.Sound

theorem initial_sound : initial.Sound := ⟨Nat.zero_le _, fun _ => rfl, nofun⟩

/-- Every step keeps the session data sound. -/
theorem Sound.step {wrapper : Wrapper} (sound : wrapper.Sound) (action : Action) :
    (wrapper.step action).Sound :=
  step_stable Service.stable_sound sound action

end Wrapper

/-- The service an inner call is made on. -/
def InternalCall.service : InternalCall -> Service
  | .replyFragReq service => service
  | .sendFragWaitCmd service => service

namespace Service

/-- All calls are made on sound sessions. -/
def CallsSound (calls : List InternalCall) : Prop := ∀ call ∈ calls, call.service.Sound

theorem callsSound_nil : CallsSound [] := by simp [CallsSound]

theorem callsSound_singleton {call : InternalCall} (sound : call.service.Sound) :
    CallsSound [call] := by
  intro other isCall
  rwa [List.mem_singleton.mp isCall]

variable {service : Service}

section

variable (sound : service.Sound)
include sound

theorem Sound.senddataCbCalls (now : Nat) : CallsSound (service.senddataCbCalls now) := by
  unfold Service.senddataCbCalls
  extract_lets delay _ timed missing
  have times : service.Retains timed := .of_eq rfl
  have notes : timed.Keeps missing := postEvent_keeps timed .sendNxtMissFrag
  have answers : missing.Retains
      { missing with scb := { missing.scb with flagReplyFragReq := false } } :=
    .of_eq rfl
  have waits : timed.Retains
      { timed with scb := { timed.scb with flagSendFragWait := false } } :=
    .of_eq rfl
  split
  · exact callsSound_singleton (sound.retains ((times.trans notes.toRetains).trans answers))
  split
  · exact callsSound_singleton (sound.retains (times.trans waits))
  · exact callsSound_nil

theorem Sound.requestFragWaitCalls : CallsSound service.requestFragWaitCalls := by
  unfold Service.requestFragWaitCalls
  split
  · exact callsSound_nil
  · exact callsSound_singleton sound

theorem Sound.markFragReceivedCalls (offset : Nat) :
    CallsSound (service.markFragReceivedCalls offset) := by
  unfold Service.markFragReceivedCalls
  split
  · exact (sound.retains (postEvent_keeps _ _).toRetains).requestFragWaitCalls
  · exact callsSound_nil

theorem Sound.receiveSubsequentFragmentCalls
    (isLater : service.flagInitializeOnce = false) (frame : List UInt8) (fragmentLen : Nat) :
    CallsSound (service.receiveSubsequentFragmentCalls frame fragmentLen) := by
  unfold Service.receiveSubsequentFragmentCalls
  extract_lets started received offset length timed
  have starts : service.Keeps started := abortIfTieBroken_keeps service
  split
  · exact callsSound_nil
  next isLong =>
    split
    · exact callsSound_nil
    split
    · exact callsSound_nil
    split
    · exact callsSound_nil
    split
    · exact callsSound_nil
    split
    · exact callsSound_nil
    have isPayload : 0 < length := by
      omega
    have sizes : (started.measured length).Sound :=
      stable_sound.measures (sound.retains starts.toRetains)
        (starts.flagInitializeOnce.trans isLater) isPayload
    have times : (started.measured length).Retains
        { started with
          rcb :=
            { started.rcb with
              curRecvdDataSize := length
              rxTimer := some fragmentRxTimeout } } :=
      .of_eq rfl
    exact (sizes.retains times).markFragReceivedCalls offset

theorem Sound.receiveSegmentRequestCalls (frame : List UInt8) :
    CallsSound (service.receiveSegmentRequestCalls frame) := by
  unfold Service.receiveSegmentRequestCalls
  extract_lets posted stopped _ noted answered
  split
  · exact callsSound_nil
  · have posts : service.Keeps posted := postEvent_keeps _ _
    have notes : posted.Retains noted := .of_eq rfl
    have answers : noted.Keeps answered := postEvent_keeps _ _
    split
    · exact callsSound_nil
    · have answered := (posts.toRetains.trans notes).trans answers.toRetains
      exact callsSound_singleton (sound.retains answered)

theorem Sound.receiveSegmentWaitCalls (now : Nat) :
    CallsSound (service.receiveSegmentWaitCalls now) := by
  unfold Service.receiveSegmentWaitCalls
  extract_lets posted
  split
  · exact callsSound_nil
  · have posts : service.Keeps posted := postEvent_keeps _ _
    have aborts : posted.Retains
        { posted with
          scb := { posted.scb with transmissionAborted := posted.scb.cmn.sessionId } } :=
      .of_eq rfl
    exact (sound.retains (posts.toRetains.trans aborts)).senddataCbCalls now

theorem Sound.receiveCalls (isLater : service.flagInitializeOnce = false) (frame : List UInt8)
    (fragmentLen now : Nat) : CallsSound (service.receiveCalls frame fragmentLen now) := by
  unfold Service.receiveCalls
  extract_lets command
  split
  · exact callsSound_nil
  split
  · exact callsSound_nil
  split
  · exact sound.receiveSubsequentFragmentCalls isLater frame fragmentLen
  split
  · exact sound.receiveSegmentRequestCalls frame
  split
  · exact callsSound_nil
  split
  · exact sound.receiveSegmentWaitCalls now
  · exact callsSound_nil

theorem Sound.commandHandlerCalls (source dest : Nat) (rxType : ReceiveType)
    (frame : List UInt8) (frameLength now : Nat) :
    CallsSound (service.commandHandlerCalls source dest rxType frame frameLength now) := by
  unfold Service.commandHandlerCalls
  extract_lets tied _ noted
  have ties : service.Retains tied :=
    ((armResetTimer_keeps service).trans (breakTie_keeps _ source frame)).toRetains
  have notes : service.Retains noted := ties.trans (.of_eq rfl)
  have waits (event : Event) : CallsSound (noted.postEvent event).requestFragWaitCalls :=
    (sound.retains (notes.trans (postEvent_keeps _ _).toRetains)).requestFragWaitCalls
  split
  · exact callsSound_nil
  split
  · exact callsSound_nil
  split
  · split
    · exact callsSound_nil
    · exact waits _
  split
  · exact callsSound_nil
  split
  · split
    · exact callsSound_nil
    · exact waits _
  · have received := stable_sound.receiving (sound.retains notes) source dest rxType
    exact Sound.receiveCalls received
      (receiving_flagInitializeOnce noted source dest rxType) frame frameLength now

end

end Service

theorem Wrapper.Sound.internalCalls {wrapper : Wrapper} (sound : wrapper.Sound)
    (action : Wrapper.Action) : Service.CallsSound (wrapper.internalCalls action) := by
  unfold Wrapper.internalCalls
  cases action with
  | sendData | timerExpiration => exact Service.callsSound_nil
  | lowerLayerCompletion status now accepted =>
    dsimp only
    split
    · exact Service.Sound.senddataCbCalls sound now
    · exact Service.callsSound_nil
  | frameReceived source dest rxType frame now accepted retried =>
    unfold Wrapper.frameReceivedCalls
    dsimp only
    split
    · exact Service.callsSound_nil
    split
    · exact Service.callsSound_nil
    · exact Service.Sound.commandHandlerCalls sound source dest rxType frame _ now

end TransportService
