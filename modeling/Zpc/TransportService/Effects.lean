import Zpc.TransportService.Wrapper

/-!
# What the functions of the service leave alone

Every function of the service calls the stored callback at most once and never
disarms the timer that resets the service; the session id changes only at a
First Fragment.  The functions of the sending side do not touch the datagram
that is being assembled.
-/

namespace TransportService

/-- What is being assembled and what was handed over. -/
structure Reception where
  sessionId : Nat
  datagramSize : Nat
  bytesRecvdBitmask : List Nat
  datagramData : List UInt8
  copied : List Nat
  delivered : List Delivery
  flagInitializeOnce : Bool
  rxTimer : Option Nat

/-- What the sending side owes and remembers. -/
structure Obligations where
  onSendCompleteCb : Option Nat
  completions : List (Nat × Nat)
  resetTimer : Option Nat
  sessionId : Nat
  transmissionAborted : Nat
  waitRestartTimer : Option Nat

/-- What the service knows of the datagram being sent and of the session being received. -/
structure SessionData where
  datagramLen : Nat
  dest : Nat
  currentDnode : Nat
  source : Nat
  sessionId : Nat
  currentSnode : Nat
  curRecvdDataSize : Nat
  flagInitializeOnce : Bool

namespace Service

variable (service : Service)

/-- The receiving side of a service. -/
def reception : Reception where
  sessionId := service.rcb.cmn.sessionId
  datagramSize := service.rcb.datagramSize
  bytesRecvdBitmask := service.rcb.bytesRecvdBitmask
  datagramData := service.rcb.datagramData
  copied := service.copied
  delivered := service.delivered
  flagInitializeOnce := service.flagInitializeOnce
  rxTimer := service.rcb.rxTimer

/-- The obligations of a service. -/
def obligations : Obligations where
  onSendCompleteCb := service.onSendCompleteCb
  completions := service.completions
  resetTimer := service.scb.resetTimer
  sessionId := service.scb.cmn.sessionId
  transmissionAborted := service.scb.transmissionAborted
  waitRestartTimer := service.scb.waitRestartTimer

/-- The sessions of a service. -/
def sessionData : SessionData where
  datagramLen := service.scb.datagramLen
  dest := service.scb.cmn.dest
  currentDnode := service.scb.currentDnode
  source := service.rcb.cmn.source
  sessionId := service.rcb.cmn.sessionId
  currentSnode := service.rcb.currentSnode
  curRecvdDataSize := service.rcb.curRecvdDataSize
  flagInitializeOnce := service.flagInitializeOnce

end Service

/-- The stored callback is called at most once. -/
inductive Obligations.Reports (before after : Obligations) : Prop
  | nothing
      (callback : after.onSendCompleteCb = before.onSendCompleteCb)
      (completions : after.completions = before.completions)
  | once
      {number status : Nat}
      (stored : before.onSendCompleteCb = some number)
      (cleared : after.onSendCompleteCb = none)
      (completions : after.completions = before.completions ++ [(number, status)])

/-- What any function but a First Fragment or a reset may do to the
obligations. -/
structure Obligations.Proceed (before after : Obligations) : Prop where
  reports : before.Reports after
  resetTimer : before.resetTimer.isSome = true -> after.resetTimer.isSome = true
  sessionId : after.sessionId = before.sessionId
  aborted :
    (after.transmissionAborted = before.transmissionAborted ∧
      after.waitRestartTimer = before.waitRestartTimer) ∨
    after.transmissionAborted = after.sessionId

variable {first second third : Obligations}

theorem Obligations.Reports.trans (earlier : first.Reports second) (later : second.Reports third) :
    first.Reports third := by
  cases earlier with
  | nothing callback completions =>
    cases later with
    | nothing callback' completions' =>
      exact .nothing (callback'.trans callback) (completions'.trans completions)
    | once stored cleared completions' =>
      exact .once (callback.symm.trans stored) cleared (by rw [completions', completions])
  | once stored cleared completions =>
    cases later with
    | nothing callback' completions' =>
      exact .once stored (callback'.trans cleared) (completions'.trans completions)
    | once stored' =>
      rw [cleared] at stored'
      cases stored'

theorem Obligations.Reports.of_same {before other after : Obligations}
    (reports : before.Reports after) (callback : before.onSendCompleteCb = other.onSendCompleteCb)
    (completions : before.completions = other.completions) : other.Reports after := by
  cases reports with
  | nothing callback' completions' =>
    exact .nothing (callback'.trans callback) (completions'.trans completions)
  | once stored cleared completions' =>
    exact .once (callback.symm.trans stored) cleared (by rw [completions', completions])

theorem Obligations.Proceed.trans (earlier : first.Proceed second) (later : second.Proceed third) :
    first.Proceed third where
  reports := earlier.reports.trans later.reports
  resetTimer armed := later.resetTimer (earlier.resetTimer armed)
  sessionId := later.sessionId.trans earlier.sessionId
  aborted := by
    rcases later.aborted with ⟨sameAborted, sameTimer⟩ | isAborted
    · rcases earlier.aborted with ⟨wasAborted, wasTimer⟩ | wasAborted
      · exact .inl ⟨sameAborted.trans wasAborted, sameTimer.trans wasTimer⟩
      · exact .inr ((sameAborted.trans wasAborted).trans later.sessionId.symm)
    · exact .inr isAborted

namespace Service

/-- The session being sent keeps its length and its destination, and the remembered
destination is cleared at most. -/
structure Steers (before after : Service) : Prop where
  datagramLen : after.scb.datagramLen = before.scb.datagramLen
  dest : after.scb.cmn.dest = before.scb.cmn.dest
  currentDnode : after.scb.currentDnode = before.scb.currentDnode ∨ after.scb.currentDnode = 0

/-- The session being received keeps its id, its node and the size of its last fragment. -/
structure Retains (before after : Service) : Prop extends Steers before after where
  source : after.rcb.cmn.source = before.rcb.cmn.source
  sessionId : after.rcb.cmn.sessionId = before.rcb.cmn.sessionId
  currentSnode : after.rcb.currentSnode = before.rcb.currentSnode
  curRecvdDataSize : after.rcb.curRecvdDataSize = before.rcb.curRecvdDataSize
  flagInitializeOnce : after.flagInitializeOnce = before.flagInitializeOnce

/-- The obligations proceed. -/
def Proceeds (before after : Service) : Prop := before.obligations.Proceed after.obligations

/-- The obligations proceed and nothing is assembled. -/
structure Sends (before after : Service) : Prop where
  proceeds : before.Proceeds after
  reception : after.reception = before.reception

/-- What the functions of the sending side do. -/
structure Keeps (before after : Service) : Prop
    extends Sends before after, Retains before after

variable (service : Service) (status : Nat) (frame : List UInt8) (fragmentLen source now : Nat)
  (accepted retried : Bool) {before first second third : Service}

theorem Proceeds.of_eq {after : Service} (same : after.obligations = before.obligations) :
    before.Proceeds after := by
  unfold Proceeds
  rw [same]
  exact ⟨.nothing rfl rfl, id, rfl, .inl ⟨rfl, rfl⟩⟩

theorem Proceeds.after (later : second.Proceeds third) (earlier : first.Proceeds second) :
    first.Proceeds third :=
  Obligations.Proceed.trans earlier later

theorem Proceeds.refl : service.Proceeds service := .of_eq rfl

theorem Steers.refl : service.Steers service := ⟨rfl, rfl, .inl rfl⟩

theorem Steers.trans (earlier : first.Steers second) (later : second.Steers third) :
    first.Steers third where
  datagramLen := later.datagramLen.trans earlier.datagramLen
  dest := later.dest.trans earlier.dest
  currentDnode := by
    rcases later.currentDnode with same | cleared
    · rw [same]
      exact earlier.currentDnode
    · exact .inr cleared

theorem Retains.refl : service.Retains service := ⟨.refl service, rfl, rfl, rfl, rfl, rfl⟩

theorem Retains.trans (earlier : first.Retains second) (later : second.Retains third) :
    first.Retains third where
  toSteers := earlier.toSteers.trans later.toSteers
  source := later.source.trans earlier.source
  sessionId := later.sessionId.trans earlier.sessionId
  currentSnode := later.currentSnode.trans earlier.currentSnode
  curRecvdDataSize := later.curRecvdDataSize.trans earlier.curRecvdDataSize
  flagInitializeOnce := later.flagInitializeOnce.trans earlier.flagInitializeOnce

theorem Retains.of_eq {after : Service} (same : after.sessionData = before.sessionData) :
    before.Retains after where
  datagramLen := congrArg (·.datagramLen) same
  dest := congrArg (·.dest) same
  currentDnode := .inl (congrArg (·.currentDnode) same)
  source := congrArg (·.source) same
  sessionId := congrArg (·.sessionId) same
  currentSnode := congrArg (·.currentSnode) same
  curRecvdDataSize := congrArg (·.curRecvdDataSize) same
  flagInitializeOnce := congrArg (·.flagInitializeOnce) same

theorem Keeps.trans (earlier : first.Keeps second) (later : second.Keeps third) :
    first.Keeps third :=
  ⟨⟨later.proceeds.after earlier.proceeds, later.reception.trans earlier.reception⟩,
    earlier.toRetains.trans later.toRetains⟩

theorem Keeps.after (later : second.Keeps third) (earlier : first.Keeps second) :
    first.Keeps third :=
  earlier.trans later

theorem Keeps.refl : service.Keeps service := ⟨⟨.refl service, rfl⟩, .refl service⟩

theorem postEvent_keeps (event : Event) : service.Keeps (service.postEvent event) := by
  unfold postEvent
  split <;> exact { Keeps.refl _ with }

theorem lowerLayerSendData_keeps (frame : LowerLayerFrame) :
    service.Keeps (service.lowerLayerSendData accepted frame) := by
  unfold lowerLayerSendData
  split <;> exact { Keeps.refl _ with }

theorem armResetTimer_keeps : service.Keeps service.armResetTimer :=
  ⟨⟨⟨.nothing rfl rfl, fun _ => rfl, rfl, .inl ⟨rfl, rfl⟩⟩, rfl⟩,
    .of_eq rfl⟩

theorem reportCompletion_keeps : service.Keeps (service.reportCompletion status) := by
  unfold reportCompletion
  split
  next number stored =>
    exact ⟨⟨⟨.once stored rfl rfl, id, rfl, .inl ⟨rfl, rfl⟩⟩, rfl⟩,
      .of_eq rfl⟩
  next => exact .refl service

theorem Keeps.aborting {after : Service} (reports : before.obligations.Reports after.obligations)
    (resetTimer : after.scb.resetTimer = before.scb.resetTimer)
    (sessionId : after.scb.cmn.sessionId = before.scb.cmn.sessionId)
    (isAborted : after.scb.transmissionAborted = before.scb.cmn.sessionId)
    (reception : after.reception = before.reception)
    (retains : before.Retains after) : before.Keeps after :=
  ⟨⟨⟨reports, fun armed => (congrArg Option.isSome resetTimer).trans armed, sessionId,
    .inr (isAborted.trans sessionId.symm)⟩, reception⟩, retains⟩

theorem sendLastFrag_keeps : service.Keeps (service.sendLastFrag accepted) := by
  unfold sendLastFrag
  extract_lets _ _ _ started frame offered
  have begins : service.Keeps started := { Keeps.refl _ with }
  have handed : started.Keeps offered := lowerLayerSendData_keeps _ _ _
  refine (begins.trans handed).trans ?_
  split
  · exact .refl offered
  · split
    · exact ((offered.reportCompletion_keeps 1).trans (postEvent_keeps _ _)).trans
        (armResetTimer_keeps _)
    · exact { Keeps.refl _ with }

theorem tempCallbackLastFrag_keeps :
    service.Keeps (service.tempCallbackLastFrag status accepted) := by
  unfold tempCallbackLastFrag
  split
  · split
    · exact (sendLastFrag_keeps _ accepted).after { Keeps.refl _ with }
    · exact ((service.reportCompletion_keeps 1).trans (postEvent_keeps _ _)).trans
        (armResetTimer_keeps _)
  · exact (postEvent_keeps _ _).after { Keeps.refl _ with }

theorem sendSubseqFrag_keeps : service.Keeps (service.sendSubseqFrag accepted) := by
  unfold sendSubseqFrag
  extract_lets remaining _ _ started offset _ built _ armed _ taken offered rest _ _ counted
  have begins : service.Keeps started := { Keeps.refl _ with }
  refine begins.trans ?_
  split
  · exact .refl started
  · have builds : started.Keeps built := { Keeps.refl _ with }
    refine builds.trans ?_
    split
    · exact (sendLastFrag_keeps _ accepted).after
        ((postEvent_keeps _ _).after { Keeps.refl _ with })
    · have arms : built.Keeps armed := armResetTimer_keeps built
      have takes : armed.Keeps taken := { Keeps.refl _ with }
      have handed : taken.Keeps offered := lowerLayerSendData_keeps _ _ _
      refine ((arms.trans takes).trans handed).trans (Keeps.trans ?_ (postEvent_keeps _ _))
      dsimp only [counted]
      split
      · exact { Keeps.refl _ with }
      · exact .refl offered

theorem sendFragWaitCmd_keeps : service.Keeps (service.sendFragWaitCmd accepted) := by
  unfold sendFragWaitCmd
  extract_lets armed waitFrame pending _ _ counted
  have arms : service.Keeps armed := armResetTimer_keeps service
  refine arms.trans ?_
  split
  · exact (lowerLayerSendData_keeps _ _ _).trans (postEvent_keeps _ _)
  · have counts : armed.Keeps counted := { Keeps.refl _ with }
    exact counts.trans ((lowerLayerSendData_keeps _ _ _).trans (postEvent_keeps _ _))

theorem replyFragReq_keeps : service.Keeps (service.replyFragReq accepted) := by
  unfold replyFragReq
  extract_lets length _ sized built _ marked _ callback offered
  split
  · exact .refl service
  · have builds : service.Keeps built := { Keeps.refl _ with }
    refine builds.trans ?_
    split
    · have marks : built.Keeps marked := (postEvent_keeps _ _).after { Keeps.refl _ with }
      exact marks.trans ((sendLastFrag_keeps _ accepted).after { Keeps.refl _ with })
    · have handed : built.Keeps offered := lowerLayerSendData_keeps _ _ _
      exact handed.trans { Keeps.refl _ with }

theorem transportServiceSenddataCb_keeps :
    service.Keeps (service.transportServiceSenddataCb now accepted) := by
  unfold transportServiceSenddataCb
  extract_lets delay _ timed missing _ _ next
  have times : service.Keeps timed := { Keeps.refl _ with }
  refine times.trans ?_
  split
  · exact (postEvent_keeps timed .sendNxtMissFrag).trans
      ((replyFragReq_keeps _ accepted).after { Keeps.refl _ with })
  · split
    · exact (sendFragWaitCmd_keeps _ accepted).after { Keeps.refl _ with }
    · split
      · exact { Keeps.refl _ with }
      · exact (postEvent_keeps timed .sendNewFrag).trans { Keeps.refl _ with }

theorem tempCallbackReplyFragReq_keeps :
    service.Keeps (service.tempCallbackReplyFragReq status) := by
  unfold tempCallbackReplyFragReq
  split
  · exact (service.reportCompletion_keeps status).trans (postEvent_keeps _ _)
  · exact postEvent_keeps _ _

theorem fcTimerExpired_keeps : service.Keeps (service.fcTimerExpired accepted) := by
  unfold fcTimerExpired
  extract_lets _ aborted calmed reported _ posted
  split
  · have aborts : service.Keeps aborted :=
      .aborting (.nothing rfl rfl) rfl rfl rfl rfl ⟨⟨rfl, rfl, .inr rfl⟩, rfl, rfl, rfl, rfl, rfl⟩
    exact aborts.trans (((postEvent_keeps _ _).trans (reportCompletion_keeps _ _)).trans
      (armResetTimer_keeps _))
  · split
    · exact service.reportCompletion_keeps 1
    · split
      · have calms : service.Keeps calmed :=
          { Keeps.refl _ with currentDnode := .inr rfl }
        have reports : calmed.Keeps reported :=
          (calmed.reportCompletion_keeps 1).trans (postEvent_keeps _ _)
        exact (calms.trans reports).trans { Keeps.refl _ with }
      · exact (postEvent_keeps service .fragComplTimer).trans
          ((sendLastFrag_keeps _ accepted).after { Keeps.refl _ with })

theorem sendFirstFrag_keeps :
    ∃ begun : Service,
      begun.obligations =
        { service.obligations with sessionId := nextSessionId service.scb.cmn.sessionId } ∧
      begun.reception = service.reception ∧
      begun.scb.flagFcTimerExpiredOnce = service.scb.flagFcTimerExpiredOnce ∧
      begun.sessionData = service.sessionData ∧
      begun.Keeps (service.sendFirstFrag now accepted) := by
  unfold sendFirstFrag
  extract_lets _ sessionId fitsInOne remaining length _ _ started built _ armed offered
  refine ⟨built, rfl, rfl, rfl, rfl, ?_⟩
  split
  · exact (sendLastFrag_keeps _ accepted).after ((postEvent_keeps _ _).after { Keeps.refl _ with })
  · have arms : built.Keeps armed := armResetTimer_keeps built
    have handed : armed.Keeps offered := lowerLayerSendData_keeps _ _ _
    refine (arms.trans handed).trans ?_
    split
    · exact { Keeps.refl _ with }
    · exact .refl offered

theorem requestFragWait_keeps : service.Keeps (service.requestFragWait accepted) := by
  unfold requestFragWait
  split
  · exact { Keeps.refl _ with }
  · exact service.sendFragWaitCmd_keeps accepted

theorem abortIfTieBroken_keeps : service.Keeps service.abortIfTieBroken := by
  unfold abortIfTieBroken
  split
  · exact .aborting (.nothing rfl rfl) rfl rfl rfl rfl (.of_eq rfl)
  · exact .refl service

theorem dropWhileReceiving_keeps : service.Keeps service.dropWhileReceiving := by
  unfold dropWhileReceiving
  split
  · exact postEvent_keeps _ _
  · exact .refl service

theorem markFragReceived_proceeds (offset size : Nat) (accepted : Bool) :
    service.Proceeds (service.markFragReceived offset size accepted).2 := by
  unfold markFragReceived
  split
  · exact ((requestFragWait_keeps _ _).after (postEvent_keeps _ _)).proceeds
  · exact .of_eq rfl

theorem sendFragCompleteCmd_proceeds : service.Proceeds (service.sendFragCompleteCmd accepted) := by
  unfold sendFragCompleteCmd
  extract_lets sessionId armed offered delivered _ _ ended
  split
  · exact .refl service
  · have arms : service.Keeps armed := armResetTimer_keeps service
    have handed : armed.Keeps offered := lowerLayerSendData_keeps _ _ _
    have ends : offered.Proceeds ended := .of_eq rfl
    exact (postEvent_keeps ended .success).proceeds.after
      (ends.after (arms.trans handed).proceeds)

theorem giveUpRequest_proceeds : service.Proceeds service.giveUpRequest := by
  have stops : service.Proceeds
      { service with rcb := { service.rcb with rxTimer := none } } := .of_eq rfl
  have posts := (postEvent_keeps
    { service with rcb := { service.rcb with rxTimer := none } } .fragRxTimer).proceeds
  exact Proceeds.after (.of_eq rfl) (posts.after stops)

theorem sendFragReqCmd_proceeds : service.Proceeds (service.sendFragReqCmd accepted retried) := by
  unfold sendFragReqCmd
  extract_lets offset sessionId asked request _ built offered again asking posted
  have asks : service.Proceeds asked := .of_eq rfl
  refine Proceeds.after ?_ asks
  split
  · exact (postEvent_keeps _ _).proceeds
  · split
    · exact .refl asked
    · have builds : asked.Proceeds built := .of_eq rfl
      have handed : built.Proceeds offered := (lowerLayerSendData_keeps _ _ _).proceeds
      have handedAgain : offered.Proceeds again := (lowerLayerSendData_keeps _ _ _).proceeds
      have asksFor : offered.Proceeds asking := by
        dsimp only [asking]
        split
        · exact .refl offered
        · split
          · exact handedAgain
          · exact (giveUpRequest_proceeds again).after handedAgain
      have posts : asking.Proceeds posted := (postEvent_keeps _ _).proceeds
      exact Proceeds.after (.of_eq rfl)
        (posts.after (asksFor.after (handed.after builds)))

theorem findMissing_proceeds : service.Proceeds (service.findMissing accepted retried) := by
  unfold findMissing
  split
  · split
    · exact .of_eq rfl
    · exact (sendFragReqCmd_proceeds _ _ _).after (postEvent_keeps _ _).proceeds
  · split
    · exact .refl service
    · exact (sendFragCompleteCmd_proceeds _ _).after (postEvent_keeps _ _).proceeds

theorem rxTimerExpired_proceeds : service.Proceeds (service.rxTimerExpired accepted retried) := by
  unfold rxTimerExpired
  extract_lets _ stopped posted
  have stops : service.Proceeds stopped := .of_eq rfl
  have posts : stopped.Proceeds posted := (postEvent_keeps _ _).proceeds
  refine Proceeds.after ?_ (posts.after stops)
  split
  · exact .of_eq rfl
  · exact posted.findMissing_proceeds accepted retried

theorem receiveFirstFragment_proceeds :
    service.Proceeds (service.receiveFirstFragment frame fragmentLen accepted) := by
  unfold receiveFirstFragment
  extract_lets started received size _ timed payload begun marked result
  have starts : service.Proceeds started := (abortIfTieBroken_keeps service).proceeds
  refine Proceeds.after ?_ starts
  split
  · exact (postEvent_keeps _ _).proceeds
  split
  · exact (postEvent_keeps _ _).proceeds
  split
  · exact (postEvent_keeps _ _).proceeds
  split
  · exact (postEvent_keeps _ _).proceeds
  have begins : started.Proceeds begun := .of_eq rfl
  have marks : begun.Proceeds result := begun.markFragReceived_proceeds _ _ _
  refine Proceeds.after ?_ (marks.after begins)
  split
  · exact .refl result
  split
  · exact (sendFragCompleteCmd_proceeds _ _).after (postEvent_keeps _ _).proceeds
  · exact .of_eq rfl

theorem receiveSubsequentFragment_proceeds :
    service.Proceeds (service.receiveSubsequentFragment frame fragmentLen accepted retried) := by
  unfold receiveSubsequentFragment
  extract_lets started received offset length size _ sized _ timed marked result _ resized copied
  have starts : service.Proceeds started := (abortIfTieBroken_keeps service).proceeds
  refine Proceeds.after ?_ starts
  split
  · exact (postEvent_keeps _ _).proceeds
  split
  · exact (postEvent_keeps _ _).proceeds
  split
  · exact (dropWhileReceiving_keeps _).proceeds
  split
  · exact (postEvent_keeps _ _).proceeds
  have sizes : started.Proceeds sized := .of_eq rfl
  refine Proceeds.after ?_ sizes
  split
  · exact (dropWhileReceiving_keeps _).proceeds
  split
  · exact (postEvent_keeps _ _).proceeds
  have times : sized.Proceeds timed := .of_eq rfl
  have marks : timed.Proceeds result := timed.markFragReceived_proceeds _ _ _
  refine Proceeds.after ?_ (marks.after times)
  split
  · exact .refl result
  have copies : result.Proceeds copied := .of_eq rfl
  split
  · refine Proceeds.after ?_ copies
    split
    · exact (findMissing_proceeds _ _ _).after (postEvent_keeps _ _).proceeds
    · exact .of_eq rfl
  · exact .of_eq rfl

theorem receiveSegmentRequest_keeps :
    service.Keeps (service.receiveSegmentRequest frame accepted) := by
  unfold receiveSegmentRequest
  extract_lets posted stopped _ noted answered
  have posts : service.Keeps posted := postEvent_keeps _ _
  refine posts.trans ?_
  split
  · exact postEvent_keeps _ _
  · have notes : posted.Keeps noted := { Keeps.refl _ with }
    have answers : noted.Keeps answered := postEvent_keeps _ _
    refine (notes.trans answers).trans ?_
    split
    · exact { Keeps.refl _ with }
    · exact answered.replyFragReq_keeps accepted

theorem receiveSegmentComplete_keeps : service.Keeps (service.receiveSegmentComplete frame) := by
  unfold receiveSegmentComplete
  extract_lets received posted stopped _ noted
  have posts : service.Keeps posted := postEvent_keeps _ _
  refine posts.trans ?_
  split
  · exact postEvent_keeps _ _
  · have notes : posted.Keeps noted :=
      { Keeps.refl _ with currentDnode := .inr rfl }
    exact notes.trans ((reportCompletion_keeps _ _).trans (postEvent_keeps _ _))

theorem receiveSegmentWait_keeps :
    service.Keeps (service.receiveSegmentWait frame now accepted) := by
  unfold receiveSegmentWait
  extract_lets posted _ aborted halted
  split
  · exact postEvent_keeps _ _
  · have posts : service.Keeps posted := postEvent_keeps _ _
    have aborts : posted.Keeps aborted := .aborting (.nothing rfl rfl) rfl rfl rfl rfl (.of_eq rfl)
    have halts : aborted.Keeps halted := aborted.transportServiceSenddataCb_keeps now accepted
    refine (posts.trans (aborts.trans halts)).trans ?_
    -- The timer is armed for the transmission that was just marked.
    have isAborted : halted.scb.transmissionAborted = halted.scb.cmn.sessionId := by
      rcases halts.proceeds.aborted with ⟨same, _⟩ | isAborted
      · exact same.trans halts.proceeds.sessionId.symm
      · exact isAborted
    exact .aborting (.nothing rfl rfl) rfl rfl isAborted rfl (.of_eq rfl)

theorem receive_proceeds :
    service.Proceeds (service.receive frame fragmentLen now accepted retried) := by
  unfold receive
  extract_lets command
  split
  · exact .refl service
  split
  · exact service.receiveFirstFragment_proceeds frame fragmentLen accepted
  split
  · exact service.receiveSubsequentFragment_proceeds frame fragmentLen accepted retried
  split
  · exact (service.receiveSegmentRequest_keeps frame accepted).proceeds
  split
  · exact (service.receiveSegmentComplete_keeps frame).proceeds
  split
  · exact (service.receiveSegmentWait_keeps frame now accepted).proceeds
  · exact .refl service

theorem breakTie_keeps (frame : List UInt8) : service.Keeps (service.breakTie source frame) := by
  unfold breakTie
  extract_lets posted reported
  split
  · have posts : service.Keeps posted := postEvent_keeps _ _
    have reports : posted.Keeps reported := by
      dsimp only [reported]
      split
      · exact reportCompletion_keeps _ _
      · exact .refl posted
    exact (posts.trans reports).trans { Keeps.refl _ with }
  · exact .refl service

theorem noticeFrame_keeps : service.Keeps service.noticeFrame := by
  unfold noticeFrame
  split
  · exact postEvent_keeps _ _
  · exact postEvent_keeps _ _
  · exact .refl service

theorem initializeOnce_proceeds : service.Proceeds service.initializeOnce := by
  unfold initializeOnce
  split
  · exact .of_eq rfl
  · exact .refl service

theorem processFrame_proceeds (dest : Nat) (rxType : ReceiveType) (frame : List UInt8)
    (frameLength now : Nat) (accepted retried : Bool) :
    service.Proceeds
      (service.processFrame source dest rxType frame frameLength now accepted retried) := by
  unfold processFrame
  extract_lets initialized
  have initializes : service.Proceeds initialized :=
    (initializeOnce_proceeds _).after service.noticeFrame_keeps.proceeds
  have addresses : initialized.Proceeds
      { initialized with
        rcb :=
          { initialized.rcb with
            rxType := rxType } } := .of_eq rfl
  exact (receive_proceeds _ frame frameLength now accepted retried).after
    (addresses.after initializes)

theorem transportServiceCommandHandler_proceeds (dest : Nat) (rxType : ReceiveType)
    (frame : List UInt8) (frameLength now : Nat) (accepted retried : Bool) :
    service.Proceeds
      (service.transportServiceCommandHandler source dest rxType frame frameLength now
        accepted retried).2 := by
  unfold transportServiceCommandHandler
  extract_lets tied _ noted
  have ties : service.Keeps tied := (breakTie_keeps _ _ _).after (armResetTimer_keeps _)
  have notes : tied.Keeps noted := { Keeps.refl _ with }
  refine Proceeds.after ?_ ties.proceeds
  split
  · exact .refl tied
  split
  · exact .refl tied
  refine Proceeds.after ?_ notes.proceeds
  split
  · split
    · exact .refl noted
    · exact ((requestFragWait_keeps _ _).after (postEvent_keeps _ _)).proceeds
  split
  · exact (postEvent_keeps _ _).proceeds
  split
  · split
    · exact (postEvent_keeps _ _).proceeds
    · exact ((requestFragWait_keeps _ _).after (postEvent_keeps _ _)).proceeds
  · exact noted.processFrame_proceeds source dest rxType frame frameLength now accepted retried

end Service

end TransportService
